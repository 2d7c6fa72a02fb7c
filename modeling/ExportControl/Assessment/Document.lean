/-
ExportControl.Assessment.Document — decisions and what comes of them in JSON.
-/
import ExportControl.Assessment.Batch
import ExportControl.Assessment.Precedent
import ExportControl.Catalog.Document

namespace ExportControl

open Json (Value Decoder Form)

namespace PairRef

def toJson (ref : PairRef) : Value :=
  .record
    [("prefix", (ref.pre.map Number.toJson).getD .null), ("subject", ref.subject.toJson)]

def decode : Decoder PairRef :=
  Form.record
    (.optional "prefix" (Decoder.nullable (Number.decode .lead)) none <|
     .required "subject" (Number.decode .subject) .done)
    fun (pre, subject, _) => { pre, subject }

end PairRef

namespace Decision

def toJson (decision : Decision) : Value :=
  .record
    [("id", decision.id.toJson),
     ("comment", Value.textOrNull decision.comment),
     ("is_good_controlled", Value.boolOrNull decision.controlled),
     ("control_list_entries", Value.texts decision.controlListEntries),
     ("regime_entries", .list (decision.regimeEntries.map Id.toJson)),
     ("report_summary", Value.textOrNull decision.reportSummary),
     ("report_summary_prefix", (decision.pre.map Number.toJson).getD .null),
     ("report_summary_subject", (decision.subject.map Number.toJson).getD .null),
     ("report_summaries", .list (decision.pairs.map PairRef.toJson)),
     ("is_precedent", .bool decision.isPrecedent),
     ("is_wassenaar", .bool decision.isWassenaar),
     ("is_ncsc_military_information_security", Value.boolOrNull decision.informationSecurity)]

def decode : Decoder Decision :=
  Form.record
    (.required "id" (Id.decode .lineItem) <|
     .optional "comment" (Decoder.nullable Decoder.text) none <|
     .optional "is_good_controlled" (Decoder.nullable Decoder.truth) none <|
     .optional "control_list_entries" (Decoder.list Decoder.text) [] <|
     .optional "regime_entries" (Decoder.list (Id.decode .regimeEntry)) [] <|
     .optional "report_summary" (Decoder.nullable Decoder.text) none <|
     .optional "report_summary_prefix" (Decoder.nullable (Number.decode .lead)) none <|
     .optional "report_summary_subject" (Decoder.nullable (Number.decode .subject)) none <|
     .optional "report_summaries" (Decoder.list PairRef.decode) [] <|
     .optional "is_precedent" Decoder.truth false <|
     .optional "is_wassenaar" Decoder.truth false <|
     .optional "is_ncsc_military_information_security" (Decoder.nullable Decoder.truth) none .done)
    fun (id, comment, controlled, controlListEntries, regimeEntries, reportSummary, pre, subject,
        pairs, isPrecedent, isWassenaar, informationSecurity, _) =>
      { id, comment, controlled, controlListEntries, regimeEntries, reportSummary, pre, subject,
        pairs, isPrecedent, isWassenaar, informationSecurity }

end Decision

/-- The messages of a line as JSON: a list for each field that has any. -/
def LineErrors.toJson (errors : LineErrors) : Value :=
  .record (errors.fields.map fun field => (field, Value.texts (errors.messages field)))

/-- A receipt as JSON. -/
def Receipt.toJson (receipt : Receipt) : Value :=
  .record
    [("case_id", receipt.caseId.toJson), ("updated", .number receipt.updated),
     ("audited", .number receipt.audited)]

/-- The precedents of one line as JSON. -/
def CasePrecedents.toJson (group : CasePrecedents) : Value :=
  .record
    [("line_item_id", group.lineItem.toJson), ("good_id", group.good.toJson),
     ("precedents", .list (group.precedents.map LineItem.toJson))]

end ExportControl
