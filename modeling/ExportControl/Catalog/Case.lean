/-
ExportControl.Catalog.Case — licence cases and where they stand.

* `CaseStatus` is the state of a case. `isTerminal` says when its products can no
  longer be assessed, `isPrecedentSource` when its reviews are shown to others.
* `CaseView` is a case with its line items in order; `lineNumber?` counts them
  from one.
-/
import ExportControl.Identifier
import ExportControl.Register

namespace ExportControl

/-- The state of a case. -/
inductive CaseStatus where
  | submitted
  | applicantEditing
  | initialChecks
  | resubmitted
  | reopenedForChanges
  | underReview
  | ogdAdvice
  | underFinalReview
  | finalReviewCountersign
  | finalReviewSecondCountersign
  | underAppeal
  | suspended
  | finalised
  | closed
  | deregistered
  | registered
  | revoked
  | surrendered
  | withdrawn
  deriving DecidableEq, Repr

namespace CaseStatus

/-- Every status with its name. -/
def names : List (String × CaseStatus) :=
  [("submitted", submitted), ("applicant_editing", applicantEditing),
   ("initial_checks", initialChecks), ("resubmitted", resubmitted),
   ("reopened_for_changes", reopenedForChanges), ("under_review", underReview),
   ("ogd_advice", ogdAdvice), ("under_final_review", underFinalReview),
   ("final_review_countersign", finalReviewCountersign),
   ("final_review_second_countersign", finalReviewSecondCountersign),
   ("under_appeal", underAppeal), ("suspended", suspended), ("finalised", finalised),
   ("closed", closed), ("deregistered", deregistered), ("registered", registered),
   ("revoked", revoked), ("surrendered", surrendered), ("withdrawn", withdrawn)]

/-- The name of a status. -/
def label : CaseStatus → String
  | submitted => "submitted"
  | applicantEditing => "applicant_editing"
  | initialChecks => "initial_checks"
  | resubmitted => "resubmitted"
  | reopenedForChanges => "reopened_for_changes"
  | underReview => "under_review"
  | ogdAdvice => "ogd_advice"
  | underFinalReview => "under_final_review"
  | finalReviewCountersign => "final_review_countersign"
  | finalReviewSecondCountersign => "final_review_second_countersign"
  | underAppeal => "under_appeal"
  | suspended => "suspended"
  | finalised => "finalised"
  | closed => "closed"
  | deregistered => "deregistered"
  | registered => "registered"
  | revoked => "revoked"
  | surrendered => "surrendered"
  | withdrawn => "withdrawn"

theorem lookup_label (status : CaseStatus) : names.lookup status.label = some status := by
  cases status <;> decide

/-- The products of the case can no longer be assessed. -/
def isTerminal : CaseStatus → Bool
  | closed | deregistered | finalised | registered | revoked | surrendered | withdrawn => true
  | _ => false

/-- Reviews in the case are shown to reviewers of other cases. -/
def isPrecedentSource : CaseStatus → Bool
  | underReview | ogdAdvice | underFinalReview | finalReviewCountersign
  | finalReviewSecondCountersign | finalised => true
  | _ => false

end CaseStatus

/-- A case and its status. -/
structure CaseRecord where
  id : CaseId
  status : CaseStatus
  deriving DecidableEq, Repr

instance : Keyed CaseRecord CaseId := ⟨CaseRecord.id⟩

/-- A case with its line items, in the order of the application. -/
structure CaseView where
  id : CaseId
  status : CaseStatus
  lineItems : List LineItemId
  deriving DecidableEq, Repr

namespace CaseView

/-- The position of a line item in the application, from one on. -/
def lineNumber? (view : CaseView) (id : LineItemId) : Option Nat :=
  (view.lineItems.findIdx? (· = id)).map (· + 1)

/-- Whether a line item is part of the case. -/
def contains (view : CaseView) (id : LineItemId) : Bool := view.lineItems.contains id

end CaseView

end ExportControl
