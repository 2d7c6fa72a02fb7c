/-
ExportControl.Suggestion.Document — candidates and suggestions in JSON.
-/
import ExportControl.Catalog.Document
import ExportControl.Suggestion.Report

namespace ExportControl

open Json (Value Decoder Form)

namespace Candidate

def toJson (candidate : Candidate) : Value :=
  .record
    [("line_item_id", candidate.lineItem.toJson), ("case_id", candidate.caseId.toJson),
     ("report_summary", .text candidate.reportSummary),
     ("product_name", .text candidate.productName)]

def decode : Decoder Candidate :=
  Form.record
    (.required "line_item_id" (Id.decode .lineItem) <|
     .required "case_id" (Id.decode .caseFile) <|
     .required "report_summary" Decoder.text <|
     .required "product_name" Decoder.text .done)
    fun (lineItem, caseId, reportSummary, productName, _) =>
      { lineItem, caseId, reportSummary, productName }

end Candidate

namespace Suggestion

/-- A suggestion as JSON: texts where something is suggested or not, and identifiers only
where something is. -/
def Row.toJson (row : Row) : Value :=
  .record
    [("id", .text row.lineItem),
     ("report_summary", .text row.reportSummary),
     ("suggested_prefix", .text row.preName),
     ("suggested_prefix_id", (row.pre.map fun pre => pre.id.toJson).getD .null),
     ("suggested_subject", .text row.subjectName),
     ("suggested_subject_id", (row.subject.map fun subject => subject.id.toJson).getD .null),
     ("product_name", .text row.productName),
     ("url", .text row.url)]

end Suggestion

end ExportControl
