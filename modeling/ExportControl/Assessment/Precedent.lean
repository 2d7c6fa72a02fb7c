/-
ExportControl.Assessment.Precedent — earlier reviews of the same good.

The precedents of a good are the line items that refer to it and have control
list entries; a good that was never reviewed has none. For a case, every line
that refers to a good is given its precedents from other cases, as far as a case
directory says that their reviews are shown.

The directory is asked for each case once. What it said is kept from line to line
in `KnownStatuses`.
-/
import ExportControl.Catalog.Basic

namespace ExportControl

/-- The precedents of one line of a case. -/
structure CasePrecedents where
  lineItem : LineItemId
  good : GoodId
  precedents : List LineItem
  deriving DecidableEq, Repr

/-- What a directory said about a case: its status, or that it has no such case. -/
structure KnownStatus where
  caseId : CaseId
  status : Option CaseStatus
  deriving DecidableEq, Repr

instance : Keyed KnownStatus CaseId := ⟨KnownStatus.caseId⟩

/-- The cases that a directory has been asked for. -/
abbrev KnownStatuses := Register KnownStatus

namespace Catalog

/-- The line items that refer to a good and have control list entries. -/
def reviewsOf (catalog : Catalog) (id : GoodId) : List LineItem :=
  catalog.lineItems.filter fun item => item.goodId? = some id && !item.controlListEntries.isEmpty

/-- The precedents of a good. -/
def precedents (catalog : Catalog) (id : GoodId) : Except StoreError (List LineItem) :=
  (catalog.requireGood id).map fun good =>
    if good.isVerified then catalog.reviewsOf id else []

/-- The status of a case, and what is known from then on. The directory is asked only where it
has not been asked before. -/
def statusOf (directory : Catalog) (known : KnownStatuses) (id : CaseId) :
    Option CaseStatus × KnownStatuses :=
  match known.find? id with
  | some answer => (answer.status, known)
  | none =>
    let status := (directory.caseView? id).map CaseView.status
    (status, known.put { caseId := id, status })

/-- The line items of other cases whose reviews are shown, and what is known from then on. -/
def shownReviews (directory : Catalog) (case : CaseId) :
    KnownStatuses → List LineItem → List LineItem × KnownStatuses
  | known, [] => ([], known)
  | known, item :: items =>
    if item.caseId = case then shownReviews directory case known items
    else
      let (status, known) := directory.statusOf known item.caseId
      let (shown, known) := shownReviews directory case known items
      (if status.any CaseStatus.isPrecedentSource then item :: shown else shown, known)

/-- The precedents of those lines of a list that the catalog has and that refer to a good. -/
def precedentsOfLines (catalog directory : Catalog) (case : CaseId) :
    KnownStatuses → List LineItemId → Except StoreError (List CasePrecedents)
  | _, [] => .ok []
  | known, id :: ids =>
    match (catalog.lineItem? id).bind LineItem.goodId? with
    | none => precedentsOfLines catalog directory case known ids
    | some good =>
      match catalog.precedents good with
      | .error e => .error e
      | .ok items =>
        let (shown, known) := directory.shownReviews case known items
        (precedentsOfLines catalog directory case known ids).map fun groups =>
          { lineItem := id, good, precedents := shown } :: groups

/-- The precedents of every line of a case that refers to a good. -/
def casePrecedents (catalog directory : Catalog) (view : CaseView) :
    Except StoreError (List CasePrecedents) :=
  catalog.precedentsOfLines directory view.id .empty view.lineItems

end Catalog

end ExportControl
