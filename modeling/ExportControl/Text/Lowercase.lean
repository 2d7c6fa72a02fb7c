/-
ExportControl.Text.Lowercase — full Unicode lower-casing of a text.

Every character goes to its own lower-case form, with two exceptions: a capital
I with a dot becomes two characters, and a capital sigma becomes the final form
at the end of a word. `lowercase` is the whole map, `lowerChar` the part that
looks at one character only.
-/
import ExportControl.Text.CaseTable

namespace ExportControl.Text

/-- A character with a case. -/
def isCased (c : Char) : Bool := CodeRange.has casedRanges c

/-- A character that is passed over when the ends of a word are looked for. -/
def isCaseIgnorable (c : Char) : Bool := CodeRange.has caseIgnorableRanges c

/-- The lower-case form of a character, whatever stands around it. -/
def lowerChar (c : Char) : Char :=
  if c.toNat < 0x80 then c.toLower
  else
    match lowerRuns.find? fun (first, last, step, _) =>
        first ≤ c.toNat && c.toNat ≤ last && (c.toNat - first) % step == 0 with
    | some (first, _, _, target) => Char.ofNat (target + (c.toNat - first))
    | none => c

/-- Whether the first character that is not passed over has a case. -/
def meetsCased (cs : List Char) : Bool :=
  match cs.dropWhile isCaseIgnorable with
  | c :: _ => isCased c
  | [] => false

/-- The lower-case form of a capital sigma: the final form at the end of a word, that is
where a cased letter stands before it and none behind. -/
def lowerSigma (before after : List Char) : Char :=
  if meetsCased before && !meetsCased after then 'ς' else 'σ'

/-- Lower-cases `cs`, where `before` holds the characters before it, nearest first. -/
def lowerFrom (before : List Char) : List Char → List Char
  | [] => []
  | c :: rest =>
    let lowered :=
      if c = 'Σ' then [lowerSigma before rest]
      else if c = 'İ' then ['i', '\u0307']
      else [lowerChar c]
    lowered ++ lowerFrom (c :: before) rest

/-- The text in lower case. -/
def lowercase (cs : List Char) : List Char := lowerFrom [] cs

end ExportControl.Text
