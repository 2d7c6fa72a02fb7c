/-
ExportControl.Catalog.LineItem — a product as one case lists it.

A line item points at a catalog good or, in open cases, describes a type of
goods. It holds what the last assessment said about the product.

* `isControlled` falls back on the good where the line itself does not know.
* `isUnpopulated` and `isPopulated` tell free text from linked pairs among the
  controlled lines.
-/
import ExportControl.Catalog.Good
import ExportControl.Instant

namespace ExportControl

/-- What a line item is about. -/
inductive Product where
  /-- A catalog good. -/
  | good (id : GoodId)
  /-- A type of goods without a catalog entry. -/
  | goodsType (description : String)
  deriving DecidableEq, Repr

/-- A product on a case. -/
structure LineItem where
  id : LineItemId
  caseId : CaseId
  product : Product
  controlListEntries : List String
  /-- Whether the product is controlled, where that is known. -/
  controlled : Option Bool
  classification : Option Classification
  regimeEntries : List RegimeEntryId
  comment : Option String
  isPrecedent : Bool
  isWassenaar : Bool
  /-- Whether the product is for military information security, where that is known. -/
  informationSecurity : Option Bool
  assessedBy : Option ReviewerId
  assessedAt : Option Instant
  deriving DecidableEq, Repr

namespace LineItem

/-- The good the line points at. -/
def goodId? (item : LineItem) : Option GoodId :=
  match item.product with
  | .good id => some id
  | .goodsType _ => none

/-- The text of the classification. -/
def reportSummary (item : LineItem) : Option String :=
  item.classification.map Classification.text

/-- Controlled on the line, or unknown on the line and controlled on the good. -/
def isControlled (item : LineItem) (good : Option Good) : Bool :=
  match item.controlled with
  | some controlled => controlled
  | none => good.any fun good => good.controlled = some true

/-- Controlled, and described by free text. -/
def isUnpopulated (item : LineItem) (good : Option Good) : Bool :=
  item.isControlled good &&
    match item.classification with
    | some (.legacy _) => true
    | _ => false

/-- Controlled, and described by linked pairs. -/
def isPopulated (item : LineItem) (good : Option Good) : Bool :=
  item.isControlled good &&
    match item.classification with
    | some (.single _) | some (.multiple _) => true
    | _ => false

end LineItem

end ExportControl
