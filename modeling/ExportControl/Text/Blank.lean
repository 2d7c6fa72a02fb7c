/-
ExportControl.Text.Blank — white space, and texts without it at their ends.

* `isBlank` is the Unicode property White_Space.
* `trim`, `trimStart` and `trimEnd` drop blanks at the ends of a text.
-/
import ExportControl.Text.CodeRange

namespace ExportControl.Text

/-- The code points with the property White_Space. -/
def blankRanges : List CodeRange :=
  [(0x9, 0xD), (0x20, 0x20), (0x85, 0x85), (0xA0, 0xA0), (0x1680, 0x1680), (0x2000, 0x200A),
   (0x2028, 0x2029), (0x202F, 0x202F), (0x205F, 0x205F), (0x3000, 0x3000)]

/-- A white-space character. -/
def isBlank (c : Char) : Bool := CodeRange.has blankRanges c

/-- Every white-space character of ASCII is a blank. -/
theorem isBlank_of_isWhitespace {c : Char} (h : c.isWhitespace = true) :
    isBlank c = true := by
  simp only [Char.isWhitespace, Bool.or_eq_true, decide_eq_true_eq] at h
  rcases h with ((h | h) | h) | h <;> (subst h; decide)

/-- The text without the blanks it starts with. -/
def trimStart (cs : List Char) : List Char := cs.dropWhile isBlank

/-- The text without the blanks it ends with. -/
def trimEnd (cs : List Char) : List Char := (cs.reverse.dropWhile isBlank).reverse

/-- The text without the blanks at either end. -/
def trimChars (cs : List Char) : List Char := trimEnd (trimStart cs)

/-- The text without the blanks at either end. -/
def trim (s : String) : String := String.ofList (trimChars s.toList)

/-- A text of blanks only; the empty text is one. -/
def isBlankText (s : String) : Bool := s.toList.all isBlank

end ExportControl.Text
