/-
ExportControl.Catalog.Good — catalog products, shared by the cases that list them.

* `Good.mergeEntries` folds a reviewed line's control list entries into a good: an
  unverified good takes them over and becomes verified, a verified one only gains
  the entries that it lacks.
* `Flags` are the tags that reviews put on goods.
-/
import ExportControl.Taxonomy.Classification

namespace ExportControl

/-- The life of a catalog product. -/
inductive GoodStatus where
  | draft
  | submitted
  | query
  | verified
  deriving DecidableEq, Repr

namespace GoodStatus

/-- Every status with its name. -/
def names : List (String × GoodStatus) :=
  [("draft", draft), ("submitted", submitted), ("query", query), ("verified", verified)]

/-- The name of a status. -/
def label : GoodStatus → String
  | draft => "draft"
  | submitted => "submitted"
  | query => "query"
  | verified => "verified"

theorem lookup_label (status : GoodStatus) : names.lookup status.label = some status := by
  cases status <;> decide

end GoodStatus

/-- A tag on a good. -/
inductive Flag where
  | notYetVerified
  | wassenaar
  deriving DecidableEq, Repr

/-- Every tag with its name. -/
def Flag.names : List (String × Flag) :=
  [("good_not_yet_verified", .notYetVerified), ("wassenaar", .wassenaar)]

/-- The tags of a good. -/
structure Flags where
  notYetVerified : Bool
  wassenaar : Bool
  deriving DecidableEq, Repr

namespace Flags

/-- No tags. -/
def none : Flags := ⟨false, false⟩

/-- Puts a tag on or takes it off. -/
def set (flags : Flags) (flag : Flag) (enabled : Bool) : Flags :=
  match flag with
  | .notYetVerified => { flags with notYetVerified := enabled }
  | .wassenaar => { flags with wassenaar := enabled }

/-- Whether a tag is on. -/
def has (flags : Flags) : Flag → Bool
  | .notYetVerified => flags.notYetVerified
  | .wassenaar => flags.wassenaar

theorem has_set (flags : Flags) (flag other : Flag) (enabled : Bool) :
    (flags.set flag enabled).has other = if other = flag then enabled else flags.has other := by
  cases flag <;> cases other <;> rfl

/-- The tags of a list. -/
def ofList (flags : List Flag) : Flags := flags.foldl (fun acc flag => acc.set flag true) none

/-- The tags that are on, in their order. -/
def toList (flags : Flags) : List Flag :=
  [Flag.notYetVerified, .wassenaar].filter flags.has

end Flags

/-- A catalog product. -/
structure Good where
  id : GoodId
  name : String
  organisation : String
  status : GoodStatus
  controlListEntries : List String
  /-- Whether the product is controlled, where that is known. -/
  controlled : Option Bool
  classification : Option Classification
  flags : Flags
  deriving DecidableEq, Repr

instance : Keyed Good GoodId := ⟨Good.id⟩

namespace Good

/-- Whether the product has been reviewed. -/
def isVerified (good : Good) : Bool := good.status = .verified

/-- The text of the classification. -/
def reportSummary (good : Good) : Option String := good.classification.map Classification.text

/-- Adds an entry behind the others, unless it is among them. -/
def addEntry (entries : List String) (entry : String) : List String :=
  if entry ∈ entries then entries else entries ++ [entry]

/-- Folds the control list entries of a reviewed line into the good. -/
def mergeEntries (good : Good) (entries : List String) : Good :=
  if good.isVerified then
    { good with controlListEntries := entries.foldl addEntry good.controlListEntries }
  else { good with controlListEntries := entries, status := .verified }

end Good

end ExportControl
