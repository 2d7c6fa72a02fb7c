/-
ExportControl.Catalog.Document — the catalog's records in JSON.

Every type has an encoder `toJson`; those that are read have a decoder as well.
A line item says by its member `kind` what it is about, and the member that goes
with the kind stands among the line item's own.

* `Seed.toJson` writes all contents of a catalog.
* `Seed.read` reads them from the bytes of a document.
-/
import ExportControl.Catalog.Basic
import ExportControl.Json.Reader
import ExportControl.Taxonomy.Document

namespace ExportControl

open Json (Value Decoder Draft Form Defect Document)

/-- Reads a text identifier. -/
def Id.decode (kind : Kind) : Decoder (Id kind) := Decoder.map Id.mk Decoder.text

/-- A text identifier as JSON. -/
def Id.toJson {kind : Kind} (id : Id kind) : Value := .text id.text

/-- Reads an instant. -/
def Instant.decode : Decoder Instant := Decoder.refine Instant.parse? Decoder.text

/-- An instant as JSON. -/
def Instant.toJson (t : Instant) : Value := .text t.render

/-! ## Goods -/

/-- Reads the status of a good. -/
def GoodStatus.decode : Decoder GoodStatus := Decoder.choice GoodStatus.names

/-- Reads a tag. -/
def Flag.decode : Decoder Flag := Decoder.choice Flag.names

/-- The name of a tag. -/
def Flag.label : Flag → String
  | .notYetVerified => "good_not_yet_verified"
  | .wassenaar => "wassenaar"

theorem Flag.lookup_label (flag : Flag) : Flag.names.lookup flag.label = some flag := by
  cases flag <;> decide

/-- Reads the tags of a good: a list, in which a tag may stand more than once. -/
def Flags.decode : Decoder Flags := Decoder.map Flags.ofList (Decoder.list Flag.decode)

/-- The tags of a good as JSON. -/
def Flags.toJson (flags : Flags) : Value := Value.texts (flags.toList.map Flag.label)

/-- A classification as JSON, null where there is none. -/
def Classification.orNull (classification : Option Classification) : Value :=
  (classification.map Classification.toJson).getD .null

namespace Good

def toJson (good : Good) : Value :=
  .record
    [("id", good.id.toJson), ("name", .text good.name), ("organisation", .text good.organisation),
     ("status", .text good.status.label),
     ("control_list_entries", Value.texts good.controlListEntries),
     ("is_good_controlled", Value.boolOrNull good.controlled),
     ("classification", Classification.orNull good.classification),
     ("flags", good.flags.toJson)]

def decode : Decoder Good :=
  Form.record
    (.required "id" (Id.decode .good) <|
     .required "name" Decoder.text <|
     .optional "organisation" Decoder.text "" <|
     .required "status" GoodStatus.decode <|
     .optional "control_list_entries" (Decoder.list Decoder.text) [] <|
     .optional "is_good_controlled" (Decoder.nullable Decoder.truth) none <|
     .optional "classification" (Decoder.nullable Classification.decode) none <|
     .optional "flags" Flags.decode .none .done)
    fun (id, name, organisation, status, controlListEntries, controlled, classification, flags,
        _) =>
      { id, name, organisation, status, controlListEntries, controlled, classification, flags }

end Good

/-! ## Line items -/

namespace Product

/-- The two kinds of product. -/
inductive Shape where
  | good
  | goodsType

/-- The members that say what a line item is about. -/
def members : Product → List (String × Value)
  | .good id => [("kind", .text "good_on_application"), ("good_id", id.toJson)]
  | .goodsType description =>
    [("kind", .text "goods_type"), ("description", .text description)]

/-- Reads a kind of product: its name, or its place in the order of the kinds. -/
def decodeShape : Decoder Shape
  | _, .text (some "good_on_application") | _, .number (.natural 0) => .ok .good
  | _, .text (some "goods_type") | _, .number (.natural 1) => .ok .goodsType
  | _, _ => .error .unfit

/-- Reads what a line item is about from the members set aside. By then they are known to be
well-formed, so whatever is wrong with them is that they do not fit. -/
def ofMembers (members : List (String × Draft)) : Except Defect Product :=
  let read : Except Defect Product :=
    match (Form.required "kind" decodeShape .done).fillFrom members with
    | .error e => .error e
    | .ok (.good, _) =>
      (fun (id, _) => .good id) <$>
        (Form.required "good_id" (Id.decode .good) .done).fillFrom members
    | .ok (.goodsType, _) =>
      (fun (description, _) => .goodsType description) <$>
        (Form.required "description" Decoder.text .done).fillFrom members
  read.mapError fun _ => .unfit

end Product

namespace LineItem

def toJson (item : LineItem) : Value :=
  .record <|
    [("id", item.id.toJson), ("case_id", item.caseId.toJson)] ++ item.product.members ++
    [("control_list_entries", Value.texts item.controlListEntries),
     ("is_good_controlled", Value.boolOrNull item.controlled),
     ("classification", Classification.orNull item.classification),
     ("regime_entries", .list (item.regimeEntries.map Id.toJson)),
     ("comment", Value.textOrNull item.comment),
     ("is_precedent", .bool item.isPrecedent),
     ("is_wassenaar", .bool item.isWassenaar),
     ("is_ncsc_military_information_security", Value.boolOrNull item.informationSecurity),
     ("assessed_by", Value.textOrNull (item.assessedBy.map Id.text)),
     ("assessment_date", Value.textOrNull (item.assessedAt.map Instant.render))]

/-- The members of a line item that do not depend on its kind. -/
def form :=
  Form.required "id" (Id.decode .lineItem) <|
  .required "case_id" (Id.decode .caseFile) <|
  .optional "control_list_entries" (Decoder.list Decoder.text) [] <|
  .optional "is_good_controlled" (Decoder.nullable Decoder.truth) none <|
  .optional "classification" (Decoder.nullable Classification.decode) none <|
  .optional "regime_entries" (Decoder.list (Id.decode .regimeEntry)) [] <|
  .optional "comment" (Decoder.nullable Decoder.text) none <|
  .optional "is_precedent" Decoder.truth false <|
  .optional "is_wassenaar" Decoder.truth false <|
  .optional "is_ncsc_military_information_security" (Decoder.nullable Decoder.truth) none <|
  .optional "assessed_by" (Decoder.nullable (Id.decode .reviewer)) none <|
  .optional "assessment_date" (Decoder.nullable Instant.decode) none .done

/-- Reads a line item, which has to be a record. -/
def decode : Decoder LineItem
  | room, .record members =>
    if room ≤ 1 then .error .malformed
    else
      match form.fill .keep (room - 1) [] members with
      | .error e => .error e
      | .ok ((id, caseId, controlListEntries, controlled, classification, regimeEntries, comment,
              isPrecedent, isWassenaar, informationSecurity, assessedBy, assessedAt, _),
             others) =>
        (fun product =>
          { id, caseId, product, controlListEntries, controlled, classification, regimeEntries,
            comment, isPrecedent, isWassenaar, informationSecurity, assessedBy, assessedAt }) <$>
        Product.ofMembers others
  | _, d => .error d.mismatch

end LineItem

/-! ## Entries and cases -/

namespace ControlListEntry

def toJson (entry : ControlListEntry) : Value :=
  .record [("rating", .text entry.rating), ("text", .text entry.text)]

def decode : Decoder ControlListEntry :=
  Form.record
    (.required "rating" Decoder.text <|
     .optional "text" Decoder.text "" .done)
    fun (rating, text, _) => { rating, text }

end ControlListEntry

namespace RegimeEntry

def toJson (entry : RegimeEntry) : Value :=
  .record [("id", entry.id.toJson), ("name", .text entry.name)]

def decode : Decoder RegimeEntry :=
  Form.record
    (.required "id" (Id.decode .regimeEntry) <|
     .required "name" Decoder.text .done)
    fun (id, name, _) => { id, name }

end RegimeEntry

/-- Reads the status of a case. -/
def CaseStatus.decode : Decoder CaseStatus := Decoder.choice CaseStatus.names

namespace CaseRecord

def toJson (record : CaseRecord) : Value :=
  .record [("id", record.id.toJson), ("status", .text record.status.label)]

def decode : Decoder CaseRecord :=
  Form.record
    (.required "id" (Id.decode .caseFile) <|
     .required "status" CaseStatus.decode .done)
    fun (id, status, _) => { id, status }

end CaseRecord

/-- A case with its line items as JSON. -/
def CaseView.toJson (view : CaseView) : Value :=
  .record
    [("id", view.id.toJson), ("status", .text view.status.label),
     ("line_items", .list (view.lineItems.map Id.toJson))]

/-! ## Audit records -/

namespace Review

def toJson (review : Review) : Value :=
  .record
    [("line_no", .number review.lineNumber),
     ("good_name", .text review.productName),
     ("old_control_list_entry", Value.texts review.oldEntries),
     ("new_control_list_entry", Value.texts review.newEntries),
     ("old_is_good_controlled", .text review.oldControlled),
     ("new_is_good_controlled", .text review.newControlled),
     ("old_regime_entries", Value.texts review.oldRegimes),
     ("new_regime_entries", Value.texts review.newRegimes),
     ("old_report_summary", Value.textOrNull review.oldReportSummary),
     ("report_summary", Value.textOrNull review.newReportSummary),
     ("additional_text", Value.textOrNull review.comment),
     ("is_precedent", .bool review.isPrecedent)]

def decode : Decoder Review :=
  Form.record
    (.required "line_no" (Decoder.natural Json.wordLimit) <|
     .required "good_name" Decoder.text <|
     .required "old_control_list_entry" (Decoder.list Decoder.text) <|
     .required "new_control_list_entry" (Decoder.list Decoder.text) <|
     .required "old_is_good_controlled" Decoder.text <|
     .required "new_is_good_controlled" Decoder.text <|
     .required "old_regime_entries" (Decoder.list Decoder.text) <|
     .required "new_regime_entries" (Decoder.list Decoder.text) <|
     .optional "old_report_summary" (Decoder.nullable Decoder.text) none <|
     .optional "report_summary" (Decoder.nullable Decoder.text) none <|
     .optional "additional_text" (Decoder.nullable Decoder.text) none <|
     .required "is_precedent" Decoder.truth .done)
    fun (lineNumber, productName, oldEntries, newEntries, oldControlled, newControlled,
        oldRegimes, newRegimes, oldReportSummary, newReportSummary, comment, isPrecedent, _) =>
      { lineNumber, productName, oldEntries, newEntries, oldControlled, newControlled, oldRegimes,
        newRegimes, oldReportSummary, newReportSummary, comment, isPrecedent }

end Review

/-- What all audit records are about. -/
def AuditRecord.verb : String := "PRODUCT_REVIEWED"

/-- An audit record as JSON. -/
def AuditRecord.toJson (record : AuditRecord) : Value :=
  .record
    [("id", .number record.number), ("actor", record.actor.toJson), ("verb", .text verb),
     ("target", record.target.toJson), ("case_id", record.caseId.toJson),
     ("payload", record.review.toJson), ("created_at", record.createdAt.toJson)]

/-! ## Seeds -/

namespace Seed

def toJson (seed : Seed) : Value :=
  .record
    [("prefixes", .list (seed.prefixes.map Prefix.toJson)),
     ("subjects", .list (seed.subjects.map Subject.toJson)),
     ("control_list_entries", .list (seed.controlListEntries.map ControlListEntry.toJson)),
     ("regime_entries", .list (seed.regimeEntries.map RegimeEntry.toJson)),
     ("goods", .list (seed.goods.map Good.toJson)),
     ("cases", .list (seed.cases.map CaseRecord.toJson)),
     ("line_items", .list (seed.lineItems.map LineItem.toJson)),
     ("report_summaries", seed.summaries.toJson),
     ("reviewers", .list (seed.reviewers.map Id.toJson))]

def decode : Decoder Seed :=
  Form.record
    (.optional "prefixes" (Decoder.list Prefix.decode) [] <|
     .optional "subjects" (Decoder.list Subject.decode) [] <|
     .optional "control_list_entries" (Decoder.list ControlListEntry.decode) [] <|
     .optional "regime_entries" (Decoder.list RegimeEntry.decode) [] <|
     .optional "goods" (Decoder.list Good.decode) [] <|
     .optional "cases" (Decoder.list CaseRecord.decode) [] <|
     .optional "line_items" (Decoder.list LineItem.decode) [] <|
     .optional "report_summaries" SummaryTable.decode .empty <|
     .optional "reviewers" (Decoder.list (Id.decode .reviewer)) [] .done)
    fun (prefixes, subjects, controlListEntries, regimeEntries, goods, cases, lineItems, summaries,
        reviewers, _) =>
      { prefixes, subjects, controlListEntries, regimeEntries, goods, cases, lineItems, summaries,
        reviewers }

/-- Reads a seed from a whole document. -/
def read (gs : List Text.Glyph) : Except Defect Seed :=
  let document := Document.read gs
  Decoder.run decode document.body document.ended

end Seed

end ExportControl
