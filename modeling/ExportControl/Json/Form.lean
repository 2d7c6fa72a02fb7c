/-
ExportControl.Json.Form — values read from drafts.

A `Decoder` reads a value from a draft, in the order in which the draft was
written, and stops at the first defect: the document breaks off or holds
something unreadable there (`malformed`), or what stands there does not fit
(`unfit`).

* `Decoder.text`, `natural`, `truth`, `nullable`, `list`, `choice` read the
  simple values.
* A `Form` lists the fields of a record. `Form.record` fills it in from named
  members, given in any order and at most once each, or from a list of the
  fields in their order.
* `Form.fill` can also set aside the members that the form does not name.
-/
import ExportControl.Json.Draft

namespace ExportControl.Json

/-- Why a value cannot be read. -/
inductive Defect where
  /-- The document is not well-formed here. -/
  | malformed
  /-- Well-formed so far, but of the wrong kind, shape or value. -/
  | unfit
  deriving DecidableEq, Repr

/-- Reads a value; `room` bounds how many lists and records may be open at once, this one
included. -/
abbrev Decoder (α : Type) := Nat → Draft → Except Defect α

/-- The defect of a draft that is not of the kind asked for. -/
def Draft.mismatch : Draft → Defect
  | .missing | .text none | .number (.outOfRange _) => .malformed
  | _ => .unfit

/-- How many lists and records a document may have open at once, and one more. -/
def fullRoom : Nat := 128

namespace Decoder

/-- A text. -/
def text : Decoder String
  | _, .text (some s) => .ok s
  | _, d => .error d.mismatch

/-- A natural number below a limit. -/
def natural (limit : Nat) : Decoder Nat
  | _, .number (.natural n) => if n < limit then .ok n else .error .unfit
  | _, d => .error d.mismatch

/-- True or false. -/
def truth : Decoder Bool
  | _, .bool b => .ok b
  | _, d => .error d.mismatch

/-- Null, or a value. -/
def nullable {α : Type} (decode : Decoder α) : Decoder (Option α)
  | _, .null => .ok none
  | room, d => some <$> decode room d

/-- A value read and turned into another. -/
def map {α β : Type} (f : α → β) (decode : Decoder α) : Decoder β :=
  fun room d => f <$> decode room d

/-- A value read and turned into another, which may not fit. -/
def refine {α β : Type} (f : α → Option β) (decode : Decoder α) : Decoder β :=
  fun room d =>
    match decode room d with
    | .ok a =>
      match f a with
      | some b => .ok b
      | none => .error .unfit
    | .error e => .error e

/-- Whatever stands there. -/
def raw : Decoder Draft
  | _, d => .ok d

/-- The items of a list, in order. -/
def items {α : Type} (decode : Decoder α) (room : Nat) : Items → Except Defect (List α)
  | .closed => .ok []
  | .cut => .error .malformed
  | .item head tail =>
    match decode room head with
    | .error e => .error e
    | .ok a =>
      match items decode room tail with
      | .error e => .error e
      | .ok as => .ok (a :: as)

/-- A list. -/
def list {α : Type} (decode : Decoder α) : Decoder (List α)
  | room, .list is => if room ≤ 1 then .error .malformed else items decode (room - 1) is
  | _, d => .error d.mismatch

/-- One of a few named values: its name, or a record with that name and null. Anything else
that is not a text is malformed. -/
def choice {α : Type} (names : List (String × α)) : Decoder α
  | _, .text (some s) =>
    match names.lookup s with
    | some a => .ok a
    | none => .error .unfit
  | room, .record members =>
    if room ≤ 1 then .error .malformed
    else
      match members with
      | .member (some s) value tail =>
        match names.lookup s with
        | none => .error .unfit
        | some a =>
          match value, tail with
          | .null, .closed => .ok a
          | .null, _ => .error .malformed
          | value, _ => .error value.mismatch
      | _ => .error .malformed
  | _, _ => .error .malformed

end Decoder

/-! ## Forms -/

/-- A field of a record. -/
structure Field (α : Type) where
  name : String
  decode : Decoder α
  /-- The value where the field is not given; none where it has to be. -/
  absent : Option α

/-- The fields of a record, in order, each with what has been filled in so far. -/
inductive Form : Type → Type 1 where
  | done : Form Unit
  | field {α β : Type} (head : Field α) (slot : Option α) (rest : Form β) : Form (α × β)

namespace Form

variable {τ : Type}

/-- A form with one more field in front, which has to be given. -/
def required {α β : Type} (name : String) (decode : Decoder α) (rest : Form β) : Form (α × β) :=
  .field { name, decode, absent := none } none rest

/-- A form with one more field in front, which has a value where it is not given. -/
def optional {α β : Type} (name : String) (decode : Decoder α) (absent : α) (rest : Form β) :
    Form (α × β) :=
  .field { name, decode, absent := some absent } none rest

/-- What becomes of a member offered to a form. -/
inductive Filling (τ : Type) where
  /-- The form with the member filled in. -/
  | filled (form : Form τ)
  /-- The form does not name it. -/
  | unnamed
  | failed (e : Defect)

/-- Fills in the field of a name, which must not be filled in yet. -/
def put (room : Nat) (name : String) (value : Draft) : {τ : Type} → Form τ → Filling τ
  | _, .done => .unnamed
  | _, .field head slot rest =>
    if head.name = name then
      match slot, head.decode room value with
      | some _, _ => .failed .unfit
      | none, .ok a => .filled (.field head (some a) rest)
      | none, .error e => .failed e
    else
      match put room name value rest with
      | .filled rest => .filled (.field head slot rest)
      | .unnamed => .unnamed
      | .failed e => .failed e

/-- The values of all fields. -/
def finish : {τ : Type} → Form τ → Except Defect τ
  | _, .done => .ok ()
  | _, .field head slot rest =>
    match slot <|> head.absent with
    | none => .error .unfit
    | some a => (fun b => (a, b)) <$> finish rest

/-- What happens to members that the form does not name. -/
inductive Spare where
  /-- They are passed over. -/
  | skip
  /-- They are read in full and set aside. -/
  | keep

/-- Fills in a form from members, left to right, and gives its values with the members set
aside. -/
def fill (spare : Spare) (room : Nat) (form : Form τ) (aside : List (String × Draft)) :
    Members → Except Defect (τ × List (String × Draft))
  | .closed => (fun values => (values, aside.reverse)) <$> form.finish
  | .cut => .error .malformed
  | .member none _ _ => .error .malformed
  | .member (some name) value tail =>
    match form.put room name value, spare with
    | .filled form, _ => fill spare room form aside tail
    | .failed e, _ => .error e
    | .unnamed, .skip =>
      if value.complete then fill spare room form aside tail else .error .malformed
    | .unnamed, .keep =>
      if value.sound room then fill spare room form ((name, value) :: aside) tail
      else .error .malformed

/-- Fills in a form from members that were read before; others are passed over. -/
def fillFrom (form : Form τ) : List (String × Draft) → Except Defect τ
  | [] => form.finish
  | (name, value) :: rest =>
    match form.put fullRoom name value with
    | .filled form => fillFrom form rest
    | .failed e => .error e
    | .unnamed => fillFrom form rest

/-- Fills in a form from a list of its fields. -/
def fromItems (room : Nat) : {τ : Type} → Form τ → Items → Except Defect τ
  | _, .done, .closed => .ok ()
  | _, .done, _ => .error .malformed
  | _, .field head _ rest, .closed =>
    match head.absent with
    | none => .error .unfit
    | some a => (fun b => (a, b)) <$> fromItems room rest .closed
  | _, .field _ _ _, .cut => .error .malformed
  | _, .field head _ rest, .item value tail =>
    match head.decode room value with
    | .error e => .error e
    | .ok a => (fun b => (a, b)) <$> fromItems room rest tail

/-- Reads a record: named members, or a list of the fields. -/
def record {α : Type} (form : Form τ) (make : τ → α) : Decoder α
  | room, .record members =>
    if room ≤ 1 then .error .malformed
    else (fun (values, _) => make values) <$> form.fill .skip (room - 1) [] members
  | room, .list is =>
    if room ≤ 1 then .error .malformed else make <$> form.fromItems (room - 1) is
  | _, d => .error d.mismatch

end Form

/-- Reads a value from a whole document, after which only blanks may follow. -/
def Decoder.run {α : Type} (decode : Decoder α) (body : Draft) (ended : Bool) :
    Except Defect α :=
  match decode fullRoom body with
  | .error e => .error e
  | .ok a => if ended then .ok a else .error .malformed

end ExportControl.Json
