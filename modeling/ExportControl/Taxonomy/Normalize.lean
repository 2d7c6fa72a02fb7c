/-
ExportControl.Taxonomy.Normalize — free-text summaries brought to one form.

Old summaries carry decorations: a blank and a number or an `x` in parentheses
at the very end, as in "Sniper Rifles (2)". Normalizing drops one such
decoration and lower-cases the rest.

* `decoration` is the pattern of a decoration, `undecorate` drops one.
* `normalize` is the whole normalization.
-/
import ExportControl.Text.Blank
import ExportControl.Text.Digit
import ExportControl.Text.Lowercase
import ExportControl.Text.Pattern

namespace ExportControl

open Text (Pattern isBlank isDecimalDigit lowercase)

/-- A blank and something in parentheses at the end of the text. -/
def inParentheses (inner : Pattern) : Pattern :=
  .followed (.one isBlank) <| .followed (.just '(') <| .followed inner <|
    .followed (.just ')') .atEnd

/-- A blank and a number or an `x` in parentheses, at the end of the text. -/
def decoration : Pattern :=
  .either (inParentheses (.run isDecimalDigit)) (inParentheses (.just 'x'))

/-- The text without the decoration it may end in. -/
def undecorate (cs : List Char) : List Char := (decoration.withoutFirst? cs).getD cs

/-- A summary without its decoration, in lower case. -/
def normalize (summary : String) : String :=
  String.ofList (lowercase (undecorate summary.toList))

end ExportControl
