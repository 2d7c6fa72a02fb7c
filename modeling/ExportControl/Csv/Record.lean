/-
ExportControl.Csv.Record — comma-separated records, read and written.

Fields stand between commas and records between line ends. A field that begins
with a quote runs to the next single quote; a quote that is written twice stands
for itself, and a comma or a line end inside the quotes is text. Lines without
any field are passed over.

* `records` reads the records of a text, damaged or not.
* `line` writes one record, with every field between quotes.
-/
import ExportControl.Text.Glyph

namespace ExportControl.Csv

open Text (Glyph)

/-- A field as it was read; it may hold stray bytes. -/
abbrev RawField := List Glyph

/-- The fields of a record as they were read. -/
abbrev RawRecord := List RawField

/-! ## Reading -/

/-- Where in a record the reader stands. -/
inductive Place where
  /-- Before a record. -/
  | recordStart
  /-- Behind a comma. -/
  | fieldStart
  /-- In a field outside quotes. -/
  | bare
  /-- In a field between quotes. -/
  | quoted
  /-- Behind a quote inside a quoted field: the closing one, or the first of two. -/
  | quoteSeen
  deriving DecidableEq, Repr

/-- A quote. -/
def isQuote (g : Glyph) : Bool := g = .char '"'

/-- A comma. -/
def isComma (g : Glyph) : Bool := g = .char ','

/-- The end of a line. -/
def isLineEnd (g : Glyph) : Bool := g = .char '\n' || g = .char '\r'

/-- Records whose first field has one more glyph in front. -/
def extend (g : Glyph) : List RawRecord → List RawRecord
  | (field :: fields) :: rest => ((g :: field) :: fields) :: rest
  | [] :: rest => [[g]] :: rest
  | [] => [[[g]]]

/-- Records the first of which has one more field in front, an empty one. -/
def startField : List RawRecord → List RawRecord
  | fields :: rest => ([] :: fields) :: rest
  | [] => [[[], []]]

/-- The records from a place on: the rest of the open record and all that follow. -/
def recordsFrom : Place → List Glyph → List RawRecord
  | .recordStart, [] => []
  | _, [] => [[[]]]
  | .quoted, g :: rest =>
    if isQuote g then recordsFrom .quoteSeen rest else extend g (recordsFrom .quoted rest)
  | place, g :: rest =>
    if isComma g then startField (recordsFrom .fieldStart rest)
    else if isLineEnd g then
      if place = .recordStart then recordsFrom .recordStart rest
      else [[]] :: recordsFrom .recordStart rest
    else if isQuote g && place = .quoteSeen then extend g (recordsFrom .quoted rest)
    else if isQuote g && place ≠ .bare then recordsFrom .quoted rest
    else extend g (recordsFrom .bare rest)

/-- The text without the byte order mark it may start with. -/
def dropMark : List Glyph → List Glyph
  | .char '\ufeff' :: rest => rest
  | gs => gs

/-- The records of a text. -/
def records (gs : List Glyph) : List RawRecord := recordsFrom .recordStart (dropMark gs)

/-! ## Writing -/

/-- A character as it stands between quotes. -/
def escape (c : Char) : List Char := if c = '"' then ['"', '"'] else [c]

/-- A field between quotes. -/
def quoted (field : String) : List Char := '"' :: (field.toList.flatMap escape ++ ['"'])

/-- The fields of a record between quotes, with commas between them. -/
def lineChars : List String → List Char
  | [] => []
  | [field] => quoted field
  | field :: fields => quoted field ++ ',' :: lineChars fields

/-- A record on a line of its own. -/
def line (fields : List String) : List Char := lineChars fields ++ ['\n']

/-- A text of records. -/
def render (rows : List (List String)) : String := String.ofList (rows.flatMap line)

end ExportControl.Csv
