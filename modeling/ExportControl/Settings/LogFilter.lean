/-
ExportControl.Settings.LogFilter — which messages are logged.

A filter is a list of directives with commas between them. A directive is a level
or a target, or a target, a span or both with a level behind an equals sign.

* `Directive.isSound` says whether a directive can be read.
* `LogFilter.isSound` says so of a whole list.
-/
import ExportControl.Text.Alphanumeric
import ExportControl.Text.Blank
import ExportControl.Text.Digit

namespace ExportControl

/-- A natural number with an optional plus sign. -/
def signedNatural? : List Char → Option Nat
  | '+' :: digits => Text.natOfDigits? digits
  | digits => Text.natOfDigits? digits

namespace Directive

/-- The names of the levels. -/
def levelNames : List String := ["off", "error", "warn", "info", "debug", "trace"]

/-- A level: its name in letters of any case, or its number from zero for `off` on. -/
def isLevel (cs : List Char) : Bool :=
  levelNames.contains (String.ofList (cs.map Char.toLower)) ||
    (signedNatural? cs).any (· ≤ 5)

/-- A level behind an equals sign; it may be left out. -/
def isLevelOrNothing (cs : List Char) : Bool := cs.isEmpty || isLevel cs

/-- What may follow a span: nothing, or a level behind an equals sign. -/
def endsAfterSpan (levels : Bool) : List Char → Bool
  | [] => true
  | '=' :: level => levels && isLevelOrNothing level
  | _ => false

/-- The fields of a span up to the closing brace and bracket, and what follows; a field has to
hold something. -/
def endsInFields (levels fieldEmpty : Bool) : List Char → Bool
  | [] => false
  | '\x7d' :: rest =>
    !fieldEmpty &&
      match rest with
      | ']' :: rest => endsAfterSpan levels rest
      | _ => false
  | _ :: rest => endsInFields levels false rest

/-- A span up to the closing bracket, and what follows. -/
def endsInSpan (levels : Bool) : List Char → Bool
  | [] => false
  | ']' :: rest => endsAfterSpan levels rest
  | '\x7b' :: rest => endsInFields levels true rest
  | _ :: rest => endsInSpan levels rest

/-- A target, and a span or a level that may follow it. -/
def endsInTarget (levels : Bool) : List Char → Bool
  | [] => true
  | '=' :: level => levels && isLevelOrNothing level
  | '[' :: rest => endsInSpan levels rest
  | _ :: rest => endsInTarget levels rest

/-- A character that a target may start with. -/
def startsTarget (c : Char) : Bool :=
  c = '-' || c = ':' || c = '_' || Text.isAlphanumeric c

/-- Whether a directive can be read. Blanks may stand around a directive that has no level. -/
def isSound (cs : List Char) : Bool :=
  let directive := Text.trimChars cs
  let levels := directive = cs
  match directive with
  | [] => false
  | '[' :: rest => endsInSpan levels rest
  | c :: rest => startsTarget c && endsInTarget levels rest

end Directive

/-- Whether a list of directives can be read; empty ones do not count. -/
def LogFilter.isSound (filter : String) : Bool :=
  ((filter.toList.splitOn ',').filter fun directive => !directive.isEmpty).all Directive.isSound

end ExportControl
