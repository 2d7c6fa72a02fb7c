/-
ExportControl.Proofs.Numerals — numbers written in digits and read back.

  §1 Digits — `isDigit_of_mem_toDigits`: a numeral is made of digits, and starts with one.
  §2 Values — `natOfDigits?_toDigits`: it stands for its number;
              `head?_toDigits`: it has no leading zero;
              `lt_of_natOfDigits?`: how large a number its digits allow.
  §3 Widths — the same for numerals with leading zeros up to a width.
-/
import ExportControl.Text.Digit
import Mathlib.Algebra.Group.Nat.Defs

namespace ExportControl.Text

/-! ## §1 Digits -/

theorem digit?_digitChar {d : Nat} (h : d < 10) : digit? d.digitChar = some d := by
  have hall : ∀ d < 10, digit? d.digitChar = some d := by decide
  exact hall d h

/-- A character that is a digit. -/
abbrev IsDigit (c : Char) : Prop := (digit? c).isSome = true

theorem isDigit_iff {c : Char} : IsDigit c ↔ c.isDigit = true := by
  rw [IsDigit, digit?, Char.isDigit]
  split <;> simp_all [Char.le_def]

theorem IsDigit.ne {c d : Char} (hc : IsDigit c) (hd : ¬ IsDigit d) : c ≠ d := by
  rintro rfl
  exact hd hc

theorem isDigit_of_mem_toDigits {c : Char} {n : Nat} (h : c ∈ Nat.toDigits 10 n) : IsDigit c :=
  isDigit_iff.2 (Nat.isDigit_of_mem_toDigits (by decide) (by decide) h)

theorem exists_digit_of_ne_nil {cs : List Char} (hne : cs ≠ []) (hdigits : ∀ c ∈ cs, IsDigit c) :
    ∃ c rest, cs = c :: rest ∧ IsDigit c := by
  obtain ⟨c, rest, rfl⟩ := List.exists_cons_of_ne_nil hne
  exact ⟨c, rest, rfl, hdigits c List.mem_cons_self⟩

/-- Every numeral starts with a digit. -/
theorem exists_toDigits_eq_cons (n : Nat) :
    ∃ c rest, Nat.toDigits 10 n = c :: rest ∧ IsDigit c :=
  exists_digit_of_ne_nil Nat.toDigits_ne_nil fun _ => isDigit_of_mem_toDigits

/-! ## §2 Values -/

theorem natFromDigits?_append (start : Nat) (cs ds : List Char) :
    natFromDigits? start (cs ++ ds)
      = (natFromDigits? start cs).bind fun n => natFromDigits? n ds := by
  induction cs generalizing start with
  | nil => rfl
  | cons c cs ih =>
    rw [List.cons_append, natFromDigits?, natFromDigits?]
    cases digit? c with
    | none => rfl
    | some d => exact ih _

theorem natFromDigits?_toDigits (n : Nat) : natFromDigits? 0 (Nat.toDigits 10 n) = some n := by
  induction n using Nat.strongRecOn with
  | ind n ih =>
    by_cases hsmall : n < 10
    · rw [Nat.toDigits_of_lt_base hsmall, natFromDigits?, digit?_digitChar hsmall]
      simp [natFromDigits?]
    · have hlast := digit?_digitChar (Nat.mod_lt n (show 10 > 0 by decide))
      rw [Nat.toDigits_of_base_le (by decide) (Nat.le_of_not_lt hsmall), natFromDigits?_append,
        ih (n / 10) (by omega), Option.bind_some, natFromDigits?, hlast]
      simp only [Option.bind_some, natFromDigits?, Option.some.injEq]
      omega

theorem natOfDigits?_of_ne_nil {cs : List Char} (h : cs ≠ []) :
    natOfDigits? cs = natFromDigits? 0 cs := by
  cases cs with
  | nil => exact absurd rfl h
  | cons c cs => rfl

theorem natOfDigits?_toDigits (n : Nat) : natOfDigits? (Nat.toDigits 10 n) = some n := by
  rw [natOfDigits?_of_ne_nil Nat.toDigits_ne_nil, natFromDigits?_toDigits]

/-- The numeral of a number other than zero does not start with a zero. -/
theorem head?_toDigits {n : Nat} (h : 0 < n) : (Nat.toDigits 10 n).head? ≠ some '0' := by
  induction n using Nat.strongRecOn with
  | ind n ih =>
    by_cases hsmall : n < 10
    · rw [Nat.toDigits_of_lt_base hsmall]
      simp
      omega
    · have hrest := ih (n / 10) (by omega) (by omega)
      rw [Nat.toDigits_of_base_le (by decide) (Nat.le_of_not_lt hsmall), List.head?_append]
      cases hhead : (Nat.toDigits 10 (n / 10)).head? with
      | none => exact absurd (List.head?_eq_none_iff.1 hhead) Nat.toDigits_ne_nil
      | some c =>
        rw [hhead] at hrest
        exact hrest

theorem digit?_lt {c : Char} {d : Nat} (h : digit? c = some d) : d < 10 := by
  rw [digit?] at h
  split at h
  · rename_i hrange
    have hle : c.toNat ≤ 57 := hrange.2
    cases h
    omega
  · cases h

theorem lt_of_natFromDigits? {cs : List Char} {start n : Nat}
    (h : natFromDigits? start cs = some n) : n < (start + 1) * 10 ^ cs.length := by
  induction cs generalizing start with
  | nil =>
    cases h
    simp
  | cons c cs ih =>
    obtain ⟨d, hd, hrest⟩ := Option.bind_eq_some_iff.1 h
    have hten := digit?_lt hd
    calc n < (start * 10 + d + 1) * 10 ^ cs.length := ih hrest
      _ ≤ ((start + 1) * 10) * 10 ^ cs.length := Nat.mul_le_mul_right _ (by omega)
      _ = (start + 1) * 10 ^ (c :: cs).length := by
        rw [List.length_cons, Nat.pow_succ, Nat.mul_assoc, Nat.mul_comm 10]

theorem lt_of_natOfDigits? {cs : List Char} {n : Nat} (h : natOfDigits? cs = some n) :
    n < 10 ^ cs.length := by
  cases cs with
  | nil => cases h
  | cons c cs =>
    have hlt := @lt_of_natFromDigits? (c :: cs) 0 n h
    rwa [Nat.zero_add, Nat.one_mul] at hlt

/-! ## §3 Widths -/

theorem toList_paddedDecimal (width n : Nat) :
    (paddedDecimal width n).toList
      = List.replicate (width - (Nat.toDigits 10 n).length) '0' ++ Nat.toDigits 10 n := by
  simp [paddedDecimal]

theorem isDigit_of_mem_paddedDecimal {width n : Nat} {c : Char}
    (h : c ∈ (paddedDecimal width n).toList) : IsDigit c := by
  rw [toList_paddedDecimal, List.mem_append, List.mem_replicate] at h
  rcases h with ⟨-, rfl⟩ | h
  · decide
  · exact isDigit_of_mem_toDigits h

theorem paddedDecimal_ne_nil (width n : Nat) : (paddedDecimal width n).toList ≠ [] := by
  rw [toList_paddedDecimal]
  simp

theorem exists_paddedDecimal_eq_cons (width n : Nat) :
    ∃ c rest, (paddedDecimal width n).toList = c :: rest ∧ IsDigit c :=
  exists_digit_of_ne_nil (paddedDecimal_ne_nil width n) fun _ => isDigit_of_mem_paddedDecimal

theorem length_paddedDecimal {width n : Nat} (hwidth : 0 < width) (h : n < 10 ^ width) :
    (paddedDecimal width n).toList.length = width := by
  have hle := (Nat.length_toDigits_le_iff (by decide) hwidth).2 h
  rw [toList_paddedDecimal, List.length_append, List.length_replicate]
  omega

theorem natOfDigits?_paddedDecimal (width n : Nat) :
    natOfDigits? (paddedDecimal width n).toList = some n := by
  have hzeros : ∀ k, natFromDigits? 0 (List.replicate k '0') = some 0 := by
    intro k
    induction k with
    | zero => rfl
    | succ k ih =>
      have hzero : digit? '0' = some 0 := by decide
      rw [List.replicate_succ, natFromDigits?, hzero]
      exact ih
  rw [natOfDigits?_of_ne_nil (paddedDecimal_ne_nil width n), toList_paddedDecimal,
    natFromDigits?_append, hzeros, Option.bind_some, natFromDigits?_toDigits]

end ExportControl.Text
