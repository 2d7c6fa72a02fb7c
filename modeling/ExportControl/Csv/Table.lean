/-
ExportControl.Csv.Table — records with named columns.

The first record of a text names the columns. Every other record has to have as
many fields as the first and to be well-formed text; the fields are taken without
the blanks at their ends. Where the first record is not well-formed text, the
columns have no names.

* `pick` finds the fields of the columns that are asked for.
* `readColumns` reads these fields from all records, up to the first fault.
-/
import ExportControl.Csv.Record
import ExportControl.Text.Blank

namespace ExportControl.Csv

open Text (Glyph)

/-- Why a record cannot be read. -/
inductive Fault where
  /-- It has another number of fields than the first record. -/
  | unequalLengths (expected actual : Nat)
  /-- A field is not well-formed text; so many of its bytes are. -/
  | invalidText (field : Nat) (soundBytes : Nat)
  /-- Two columns that are asked for have one name. -/
  | duplicateColumn (name : String)
  deriving DecidableEq, Repr

/-! ## Fields -/

/-- White space of ASCII. -/
def isAsciiBlank (g : Glyph) : Bool :=
  g = .char ' ' || g = .char '\t' || g = .char '\n' || g = .char '\x0c' || g = .char '\r'

/-- A field without the ASCII white space at its ends. -/
def trimRaw (field : RawField) : RawField :=
  ((field.dropWhile isAsciiBlank).reverse.dropWhile isAsciiBlank).reverse

/-- The texts of a record, the first field having number `i`. -/
def textsFrom (i : Nat) : RawRecord → Except Fault (List String)
  | [] => .ok []
  | field :: fields =>
    match Glyph.toChars? (trimRaw field) with
    | none => .error (.invalidText i (Glyph.soundWidth (trimRaw field)))
    | some cs => (textsFrom (i + 1) fields).map (String.ofList (Text.trimChars cs) :: ·)

/-- The texts of a record, without the blanks at their ends. -/
def texts (record : RawRecord) : Except Fault (List String) := textsFrom 0 record

/-! ## Columns -/

/-- The names of the columns, if the first record is well-formed text. -/
abbrev Header := Option (List String)

/-- The first of the wanted names that comes a second time; `seen` holds the names before. -/
def duplicateFrom? (wanted seen : List String) : List String → Option String
  | [] => none
  | name :: rest =>
    if name ∈ wanted ∧ name ∈ seen then some name else duplicateFrom? wanted (name :: seen) rest

/-- The fields of the wanted columns: by name, or by position where columns have no names. -/
def pick (header : Header) (wanted fields : List String) : Except Fault (List (Option String)) :=
  match header with
  | none => .ok (wanted.mapIdx fun i _ => fields[i]?)
  | some names =>
    match duplicateFrom? wanted [] names with
    | some name => .error (.duplicateColumn name)
    | none => .ok (wanted.map fun name => (names.zip fields).lookup name)

/-! ## Tables -/

/-- The fields of the wanted columns in one record. -/
def readRow (width : Nat) (header : Header) (wanted : List String) (record : RawRecord) :
    Except Fault (List (Option String)) :=
  if record.length = width then (texts record).bind (pick header wanted)
  else .error (.unequalLengths width record.length)

/-- The fields of the wanted columns in every record but the first, up to the first fault. -/
def readColumns (wanted : List String) (gs : List Glyph) :
    Except Fault (List (List (Option String))) :=
  match records gs with
  | [] => .ok []
  | first :: rest => rest.mapM (readRow first.length (texts first).toOption wanted)

end ExportControl.Csv
