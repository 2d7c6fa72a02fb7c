/-
ExportControl.Text.Pattern — patterns to search a text for.

A pattern says how a stretch of a text may read. Where there are several ways to
match it at one place, the left alternative and the longer run are preferred.

* `Pattern.rests` lists what each way to match at the start of a text leaves
  behind the stretch, the preferred way first.
* `Pattern.withoutFirst?` takes the leftmost match out of a text.
* `mem_rests_one` and so on say what each kind of pattern leaves, and
  `withoutFirst?_eq_some`, `withoutFirst?_eq_none_iff` what a search does.
-/
namespace ExportControl.Text

/-- How a stretch of a text may read. -/
inductive Pattern where
  /-- One character of a class. -/
  | one (isIn : Char → Bool)
  /-- A run of at least one character of a class. -/
  | run (isIn : Char → Bool)
  /-- One pattern and the other behind it. -/
  | followed (first next : Pattern)
  | either (left right : Pattern)
  /-- Nothing, at the end of the text. -/
  | atEnd

namespace Pattern

/-- The character itself. -/
def just (c : Char) : Pattern := one (· = c)

/-- What is left behind each run that a text starts with, the longest run first. -/
def restsOfRun (isIn : Char → Bool) : List Char → List (List Char)
  | [] => []
  | c :: text => if isIn c then restsOfRun isIn text ++ [text] else []

/-- What is left behind each stretch at the start of a text that matches, the preferred one
first. -/
def rests : Pattern → List Char → List (List Char)
  | one isIn, c :: text => if isIn c then [text] else []
  | one _, [] => []
  | run isIn, text => restsOfRun isIn text
  | followed first next, text => (first.rests text).flatMap next.rests
  | either left right, text => left.rests text ++ right.rests text
  | atEnd, [] => [[]]
  | atEnd, _ :: _ => []

/-- The text without the leftmost stretch that matches, if one does. -/
def withoutFirst? (pattern : Pattern) (text : List Char) : Option (List Char) :=
  match pattern.rests text with
  | rest :: _ => some rest
  | [] =>
    match text with
    | [] => none
    | c :: text => (withoutFirst? pattern text).map (c :: ·)

/-! ## Matches at the start -/

variable {isIn : Char → Bool} {pattern first next left right : Pattern} {c : Char}
  {text rest kept : List Char}

theorem mem_rests_one : rest ∈ (one isIn).rests text ↔ ∃ c, isIn c = true ∧ text = c :: rest := by
  cases text with
  | nil => simp [rests]
  | cons c text =>
    rw [rests]
    constructor
    · intro h
      split at h
      · rename_i hc
        exact ⟨c, hc, by rw [List.mem_singleton.1 h]⟩
      · cases h
    · rintro ⟨d, hd, heq⟩
      obtain ⟨rfl, rfl⟩ := List.cons.inj heq
      rw [if_pos hd]
      exact List.mem_singleton_self _

theorem mem_rests_just : rest ∈ (just c).rests text ↔ text = c :: rest := by
  simp [just, mem_rests_one]

theorem mem_rests_run :
    rest ∈ (run isIn).rests text ↔
      ∃ stretch, stretch ≠ [] ∧ (∀ c ∈ stretch, isIn c = true) ∧ text = stretch ++ rest := by
  rw [rests]
  induction text with
  | nil => simp +contextual [restsOfRun]
  | cons c text ih =>
    rw [restsOfRun]
    constructor
    · intro h
      split at h
      · rename_i hc
        rcases List.mem_append.1 h with h | h
        · obtain ⟨stretch, -, hall, rfl⟩ := ih.1 h
          exact ⟨c :: stretch, by simp, List.forall_mem_cons.2 ⟨hc, hall⟩, rfl⟩
        · obtain rfl := List.mem_singleton.1 h
          exact ⟨[c], by simp, by simpa using hc, rfl⟩
      · cases h
    · rintro ⟨stretch, hne, hall, heq⟩
      obtain ⟨d, stretch, rfl⟩ := List.exists_cons_of_ne_nil hne
      rw [List.cons_append, List.cons.injEq] at heq
      obtain ⟨rfl, rfl⟩ := heq
      obtain ⟨hc, hall⟩ := List.forall_mem_cons.1 hall
      rw [if_pos hc, List.mem_append, List.mem_singleton]
      by_cases hempty : stretch = []
      · exact .inr (by rw [hempty, List.nil_append])
      · exact .inl (ih.2 ⟨stretch, hempty, hall, rfl⟩)

theorem mem_rests_followed :
    rest ∈ (followed first next).rests text ↔ ∃ mid ∈ first.rests text, rest ∈ next.rests mid := by
  rw [rests, List.mem_flatMap]

theorem mem_rests_either :
    rest ∈ (either left right).rests text ↔ rest ∈ left.rests text ∨ rest ∈ right.rests text := by
  rw [rests, List.mem_append]

theorem mem_rests_atEnd : rest ∈ atEnd.rests text ↔ text = [] ∧ rest = [] := by
  cases text <;> simp [rests]

/-! ## Searches -/

/-- What a search takes out matches where it stands. -/
theorem withoutFirst?_eq_some (h : pattern.withoutFirst? text = some kept) :
    ∃ before tail rest, text = before ++ tail ∧ rest ∈ pattern.rests tail ∧
      kept = before ++ rest := by
  induction text generalizing kept with
  | nil =>
    rw [withoutFirst?] at h
    split at h
    · rename_i rest rests hrests
      exact ⟨[], [], rest, rfl, by simp [hrests], (Option.some.inj h).symm⟩
    · cases h
  | cons c text ih =>
    rw [withoutFirst?] at h
    split at h
    · rename_i rest rests hrests
      exact ⟨[], c :: text, rest, rfl, by simp [hrests], (Option.some.inj h).symm⟩
    · obtain ⟨kept, hkept, rfl⟩ := Option.map_eq_some_iff.1 h
      obtain ⟨before, tail, rest, rfl, hrest, rfl⟩ := ih hkept
      exact ⟨c :: before, tail, rest, rfl, hrest, rfl⟩

/-- A search fails just where nothing in the text matches. -/
theorem withoutFirst?_eq_none_iff :
    pattern.withoutFirst? text = none ↔
      ∀ before tail, text = before ++ tail → pattern.rests tail = [] := by
  induction text with
  | nil =>
    rw [withoutFirst?]
    constructor
    · intro h before tail heq
      obtain ⟨-, rfl⟩ := List.append_eq_nil_iff.1 heq.symm
      split at h
      · cases h
      · assumption
    · intro h
      rw [h [] [] rfl]
  | cons c text ih =>
    rw [withoutFirst?]
    constructor
    · intro h before tail heq
      split at h
      · cases h
      · rename_i hrests
        cases before with
        | nil =>
          rw [List.nil_append] at heq
          rwa [← heq]
        | cons d before =>
          exact ih.1 (Option.map_eq_none_iff.1 h) before tail (List.cons.inj heq).2
    · intro h
      rw [h [] (c :: text) rfl]
      exact Option.map_eq_none_iff.2
        (ih.2 fun before tail heq => h (c :: before) tail (by rw [heq, List.cons_append]))

end Pattern

end ExportControl.Text
