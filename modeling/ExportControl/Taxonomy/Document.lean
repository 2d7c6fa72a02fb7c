/-
ExportControl.Taxonomy.Document — the taxonomy's terms in JSON.

Each type has an encoder `toJson` and a decoder. A classification is a record
whose member `shape` says which of the three it is; its other members may come
first, so they are set aside until the shape is known.
-/
import ExportControl.Json.Form
import ExportControl.Json.Value
import ExportControl.Taxonomy.Classification
import ExportControl.Taxonomy.SummaryTable

namespace ExportControl

open Json (Value Decoder Draft Form Defect)

/-- Reads a numeric identifier. -/
def Number.decode (term : Term) : Decoder (Number term) :=
  Decoder.map (fun n => ⟨UInt32.ofNat n⟩) (Decoder.natural UInt32.size)

/-- A numeric identifier as JSON. -/
def Number.toJson {term : Term} (n : Number term) : Value := .number n.value.toNat

namespace Prefix

def toJson (p : Prefix) : Value := .record [("id", p.id.toJson), ("name", .text p.name)]

def decode : Decoder Prefix :=
  Form.record
    (.required "id" (Number.decode .lead) <|
     .required "name" Decoder.text .done)
    fun (id, name, _) => { id, name }

end Prefix

namespace Subject

def toJson (s : Subject) : Value :=
  .record
    [("id", s.id.toJson), ("name", .text s.name),
     ("code_level", (s.codeLevel.map fun n => Value.number n.toNat).getD .null)]

def decode : Decoder Subject :=
  Form.record
    (.required "id" (Number.decode .subject) <|
     .required "name" Decoder.text <|
     .optional "code_level"
       (Decoder.nullable (Decoder.map UInt8.ofNat (Decoder.natural UInt8.size))) none .done)
    fun (id, name, codeLevel, _) => { id, name, codeLevel }

end Subject

namespace Summary

def toJson (row : Summary) : Value :=
  .record
    [("id", row.id.toJson), ("prefix", (row.pre.map Prefix.toJson).getD .null),
     ("subject", row.subject.toJson)]

def decode : Decoder Summary :=
  Form.record
    (.required "id" (Number.decode .summary) <|
     .optional "prefix" (Decoder.nullable Prefix.decode) none <|
     .required "subject" Subject.decode .done)
    fun (id, pre, subject, _) => { id, pre, subject }

end Summary

namespace SummaryTable

def toJson (table : SummaryTable) : Value := .list (table.rows.map Summary.toJson)

def decode : Decoder SummaryTable := Decoder.map SummaryTable.mk (Decoder.list Summary.decode)

end SummaryTable

namespace Classification

/-- The three shapes by name. -/
inductive Shape where
  | legacy
  | single
  | multiple

def toJson : Classification → Value
  | .legacy text => .record [("shape", .text "legacy"), ("text", .text text)]
  | .single row => .record [("shape", .text "single"), ("summary", row.toJson)]
  | .multiple rows =>
    .record [("shape", .text "multiple"), ("summaries", .list (rows.map Summary.toJson))]

/-- Reads the name of a shape. -/
def decodeShape : Decoder Shape :=
  Decoder.refine
    (fun name => [("legacy", Shape.legacy), ("single", .single), ("multiple", .multiple)].lookup name)
    Decoder.text

/-- Reads a classification of a known shape from the members set aside. By then they are known
to be well-formed, so whatever is wrong with them is that they do not fit. -/
def ofMembers (members : List (String × Draft)) (shape : Shape) :
    Except Defect Classification :=
  let read : Except Defect Classification :=
    match shape with
    | .legacy =>
      (fun (text, _) => .legacy text) <$>
        (Form.required "text" Decoder.text .done).fillFrom members
    | .single =>
      (fun (row, _) => .single row) <$>
        (Form.required "summary" Summary.decode .done).fillFrom members
    | .multiple =>
      (fun (rows, _) => .multiple rows) <$>
        (Form.required "summaries" (Decoder.list Summary.decode) .done).fillFrom members
  read.mapError fun _ => .unfit

/-- The defect of a list in place of a classification: it may name a shape first, but what goes
with the shape needs names. -/
def listDefect (room : Nat) : Json.Items → Defect
  | .closed => .unfit
  | .cut => .malformed
  | .item head tail =>
    match decodeShape room head with
    | .error e => e
    | .ok _ => if tail.sound room then .unfit else .malformed

/-- Reads a classification. -/
def decode : Decoder Classification
  | room, .record members =>
    if room ≤ 1 then .error .malformed
    else
      match (Form.required "shape" decodeShape .done).fill .keep (room - 1) [] members with
      | .error e => .error e
      | .ok ((shape, _), members) => ofMembers members shape
  | room, .list items =>
    .error (if room ≤ 1 then .malformed else listDefect (room - 1) items)
  | _, d => .error d.mismatch

end Classification

end ExportControl
