/-
ExportControl.Text.CodeRange — sets of characters given as ranges of code points.

The character properties of this library (blank, decimal digit, cased, …) are
tables of closed ranges. `CodeRange.has` looks a character up in such a table.
-/
namespace ExportControl.Text

/-- A closed range of code points: its first and its last member. -/
abbrev CodeRange := Nat × Nat

/-- Whether a character's code point lies in one of the ranges. -/
def CodeRange.has (ranges : List CodeRange) (c : Char) : Bool :=
  ranges.any fun range => range.1 ≤ c.toNat && c.toNat ≤ range.2

theorem CodeRange.has_iff {ranges : List CodeRange} {c : Char} :
    CodeRange.has ranges c = true ↔
      ∃ range ∈ ranges, range.1 ≤ c.toNat ∧ c.toNat ≤ range.2 := by
  simp [CodeRange.has, List.any_eq_true]

end ExportControl.Text
