/-
ExportControl.Catalog.Error — why a store does not answer.
-/
namespace ExportControl

/-- Why a store does not answer. -/
inductive StoreError where
  /-- There is such a record already. -/
  | conflict
  /-- There is no such record. -/
  | notFound (entity : String) (id : String)
  /-- The store is out of use. -/
  | unavailable (reason : String)
  deriving DecidableEq, Repr

/-- What is said about the error. -/
def StoreError.message : StoreError → String
  | .conflict => "record already exists"
  | .notFound entity id => entity ++ " " ++ id ++ " not found"
  | .unavailable reason => "repository unavailable: " ++ reason

end ExportControl
