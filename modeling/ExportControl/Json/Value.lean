/-
ExportControl.Json.Value — JSON documents as the program writes them.

* `Value` holds a document: the only numbers it needs are natural ones.
* `Value.render` writes it without blanks. A text keeps every character but the
  quote, the backslash and the control characters, which are escaped.
-/
import ExportControl.Text.Digit

namespace ExportControl.Json

/-- A document to write. -/
inductive Value where
  | null
  | bool (b : Bool)
  | number (n : Nat)
  | text (s : String)
  | list (items : List Value)
  | record (members : List (String × Value))

namespace Value

/-- A text, or null where there is none. -/
def textOrNull : Option String → Value
  | some s => .text s
  | none => .null

/-- A truth value, or null where it is unknown. -/
def boolOrNull : Option Bool → Value
  | some b => .bool b
  | none => .null

/-- A list of texts. -/
def texts (ss : List String) : Value := .list (ss.map .text)

end Value

/-! ## Writing -/

/-- A lower-case hexadecimal digit. -/
def hexDigit (n : Nat) : Char :=
  if n < 10 then Char.ofNat (0x30 + n) else Char.ofNat (0x57 + n)

/-- A character as it stands between quotes. -/
def escape (c : Char) : List Char :=
  if c = '"' then ['\\', '"']
  else if c = '\\' then ['\\', '\\']
  else if c = '\n' then ['\\', 'n']
  else if c = '\r' then ['\\', 'r']
  else if c = '\t' then ['\\', 't']
  else if c = '\x08' then ['\\', 'b']
  else if c = '\x0c' then ['\\', 'f']
  else if c.toNat < 0x20 then
    ['\\', 'u', '0', '0', hexDigit (c.toNat / 16), hexDigit (c.toNat % 16)]
  else [c]

/-- A text between quotes. -/
def quoted (s : String) : List Char := '"' :: (s.toList.flatMap escape ++ ['"'])

mutual

/-- The characters of a document. -/
def Value.chars : Value → List Char
  | .null => ['n', 'u', 'l', 'l']
  | .bool true => ['t', 'r', 'u', 'e']
  | .bool false => ['f', 'a', 'l', 's', 'e']
  | .number n => Nat.toDigits 10 n
  | .text s => quoted s
  | .list [] => ['[', ']']
  | .list (v :: vs) => '[' :: (v.chars ++ itemChars vs)
  | .record [] => ['\x7b', '\x7d']
  | .record ((k, v) :: ms) => '\x7b' :: (quoted k ++ ':' :: (v.chars ++ memberChars ms))

/-- The items that follow in a list, and its end. -/
def itemChars : List Value → List Char
  | [] => [']']
  | v :: vs => ',' :: (v.chars ++ itemChars vs)

/-- The members that follow in a record, and its end. -/
def memberChars : List (String × Value) → List Char
  | [] => ['\x7d']
  | (k, v) :: ms => ',' :: (quoted k ++ ':' :: (v.chars ++ memberChars ms))

end

/-- The document without blanks. -/
def Value.render (v : Value) : String := String.ofList v.chars

end ExportControl.Json
