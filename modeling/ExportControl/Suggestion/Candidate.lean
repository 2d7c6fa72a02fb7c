/-
ExportControl.Suggestion.Candidate — lines whose description is still free text.

A candidate is a line of a good that is controlled and described by free text.
Candidates are listed by that text, and lines with one text in catalog order.
-/
import ExportControl.Catalog.Basic

namespace ExportControl

/-- A line to find a pair of the taxonomy for. -/
structure Candidate where
  lineItem : LineItemId
  caseId : CaseId
  reportSummary : String
  productName : String
  deriving DecidableEq, Repr

namespace Catalog

variable (catalog : Catalog)

/-- The candidate of a line item, if it is one. -/
def candidate? (item : LineItem) : Option Candidate :=
  let good := catalog.goodOf item
  match item.product, item.classification with
  | .good _, some (.legacy text) =>
    if item.isUnpopulated good then
      some
        { lineItem := item.id
          caseId := item.caseId
          reportSummary := text
          productName := (good.map Good.name).getD "" }
    else none
  | _, _ => none

/-- The candidates of a catalog, by their texts. -/
def candidates : List Candidate :=
  (catalog.lineItems.filterMap catalog.candidate?).mergeSort fun a b =>
    a.reportSummary ≤ b.reportSummary

end Catalog

end ExportControl
