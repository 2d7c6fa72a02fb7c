/-
ExportControl.Proofs.Decorations — what normalizing takes off a summary.

A decoration has one opening parenthesis, and nothing but a closing one follows what
stands behind it. So a text ends in one decoration at most, whatever decorations or
parts of decorations come before.

  §1 Decorations — `Decorated`: how a text ends in a decoration;
                   `Decorated.unique`: in one way only; `Decorated.of_append`: a
                   decoration that something follows is no ending.
  §2 Patterns    — `mem_rests_decoration`: the pattern of a decoration matches just
                   the decorations at the end of a text.
  §3 Normalizing — `normalize_of_decorated`, `normalize_of_not_decorated`.
  §4 Matches     — `Matcher.read`: how a text is matched as it stands;
                   `one_decoration_is_dropped`.
-/
import ExportControl.Taxonomy.Match

namespace ExportControl

open Text (Pattern isBlank isDecimalDigit lowercase)

/-! ## §1 Decorations -/

/-- What a decoration has in its parentheses: a number or an `x`. -/
def Inner (inner : String) : Prop :=
  inner ≠ "" ∧ (∀ c ∈ inner.toList, isDecimalDigit c = true) ∨ inner = "x"

/-- The text ends in a decoration: `front`, a blank, and `inner` in parentheses. -/
structure Decorated (text front : String) (blank : Char) (inner : String) : Prop where
  text_eq : text = front ++ String.singleton blank ++ "(" ++ inner ++ ")"
  isBlank : isBlank blank = true
  inner : Inner inner

variable {text front front' inner inner' tail : String} {blank blank' : Char}

theorem Inner.not_mem (h : Inner inner) {c : Char} (hdigit : isDecimalDigit c = false)
    (hx : c ≠ 'x') : c ∉ inner.toList := by
  intro hc
  rcases h with ⟨-, hall⟩ | rfl
  · rw [hall c hc] at hdigit
    cases hdigit
  · exact hx (List.mem_singleton.1 hc)

theorem not_inner_capital : ¬ Inner "X" := by
  rintro (⟨-, hall⟩ | hx)
  · exact absurd (hall 'X' (by simp)) (by decide)
  · simp at hx

theorem not_inner_empty : ¬ Inner "" := by
  rintro (⟨hne, -⟩ | hx)
  · exact hne rfl
  · simp at hx

theorem Decorated.toList_eq (h : Decorated text front blank inner) :
    text.toList = (front.toList ++ [blank]) ++ '(' :: (inner.toList ++ [')']) := by
  rw [h.text_eq]
  simp

theorem Decorated.closed (h : Decorated text front blank inner) :
    text.toList.getLast? = some ')' := by
  rw [h.toList_eq, ← List.cons_append, ← List.append_assoc, List.getLast?_concat]

/-- A text is split at its last opening parenthesis in one way only. -/
theorem split_at_last_unique {c : Char} {as bs as' bs' : List Char}
    (h : as ++ c :: bs = as' ++ c :: bs') (hbs : c ∉ bs) (hbs' : c ∉ bs') :
    as = as' ∧ bs = bs' := by
  rcases List.append_eq_append_iff.1 h with ⟨mid, rfl, hmid⟩ | ⟨mid, rfl, hmid⟩
  all_goals
    cases mid with
    | nil => simpa [eq_comm] using hmid
    | cons d mid =>
      rw [List.cons_append, List.cons.injEq] at hmid
      simp [hmid.2] at hbs hbs'

/-- The decoration that a text ends in is the only one. -/
theorem Decorated.unique (h : Decorated text front blank inner)
    (h' : Decorated text front' blank' inner') :
    front' = front ∧ blank' = blank ∧ inner' = inner := by
  have hparen {inner : String} (hinner : Inner inner) : '(' ∉ inner.toList ++ [')'] := by
    simp [hinner.not_mem (c := '(') (by decide) (by decide)]
  obtain ⟨hfront, hinner⟩ := split_at_last_unique (h'.toList_eq.symm.trans h.toList_eq)
    (hparen h'.inner) (hparen h.inner)
  obtain ⟨hfront, hblank⟩ := List.append_inj' hfront rfl
  exact ⟨String.toList_inj.1 hfront, List.head_eq_of_cons_eq hblank,
    String.toList_inj.1 (List.append_cancel_right hinner)⟩

theorem Decorated.of_toList_eq {front inner : List Char}
    (htext : text.toList = front ++ blank :: '(' :: (inner ++ [')']))
    (hblank : Text.isBlank blank = true) (hinner : Inner (String.ofList inner)) :
    Decorated text (String.ofList front) blank (String.ofList inner) where
  text_eq := by
    rw [← String.toList_inj, htext]
    simp
  isBlank := hblank
  inner := hinner

/-- Behind a closing parenthesis, what follows ends in the decoration that the whole ends in. -/
theorem Decorated.of_append (h : Decorated (text ++ tail) front blank inner)
    (hclosed : text.toList.getLast? = some ')') (htail : tail ≠ "") :
    ∃ front', Decorated tail front' blank inner := by
  have heq : text.toList ++ tail.toList
      = front.toList ++ blank :: '(' :: (inner.toList ++ [')']) := by
    simpa using h.toList_eq
  have hinner : Inner (String.ofList inner.toList) := by simpa using h.inner
  have hof (mid : List Char) (hmid : tail.toList = mid ++ blank :: '(' :: (inner.toList ++ [')'])) :
      ∃ front', Decorated tail front' blank inner :=
    ⟨_, by simpa using Decorated.of_toList_eq hmid h.isBlank hinner⟩
  rcases List.append_eq_append_iff.1 heq with ⟨mid, -, hmid⟩ | ⟨mid, htext, hmid⟩
  · exact hof mid hmid
  by_cases hempty : mid = []
  · exact hof [] (by rw [hmid, hempty, List.nil_append, List.nil_append])
  -- The closing parenthesis of `text` would stand inside the decoration.
  have hne : tail.toList ≠ [] := by simpa using htail
  rw [htext, List.getLast?_append, List.getLast?_eq_some_getLast hempty, Option.some_or,
    ← List.getLast?_eq_some_getLast hempty] at hclosed
  rw [← List.dropLast_concat_getLast hne, ← List.append_assoc, ← List.cons_append,
    ← List.cons_append] at hmid
  have hbody := (List.append_inj' hmid rfl).1
  have hmem : ')' ∈ blank :: '(' :: inner.toList :=
    hbody ▸ List.mem_append_left _ (List.mem_of_getLast? hclosed)
  have hblank : ')' ≠ blank := by
    rintro rfl
    exact absurd h.isBlank (by decide)
  simp [hblank, h.inner.not_mem (c := ')') (by decide) (by decide)] at hmem

/-! ## §2 Patterns -/

namespace Text.Pattern

variable {pattern : Pattern} {text rest : List Char}

theorem mem_rests_inParentheses :
    rest ∈ (inParentheses pattern).rests text ↔
      rest = [] ∧ ∃ blank inner, isBlank blank = true ∧ text = blank :: '(' :: inner ∧
        [')'] ∈ pattern.rests inner := by
  simp only [inParentheses, mem_rests_followed, mem_rests_one, mem_rests_just, mem_rests_atEnd]
  constructor
  · rintro ⟨_, ⟨blank, hblank, rfl⟩, inner, rfl, _, hinner, _, rfl, rfl, rfl⟩
    exact ⟨rfl, blank, inner, hblank, rfl, hinner⟩
  · rintro ⟨rfl, blank, inner, hblank, rfl, hinner⟩
    exact ⟨_, ⟨blank, hblank, rfl⟩, inner, rfl, _, hinner, [], rfl, rfl, rfl⟩

/-- The pattern of a decoration leaves nothing behind and matches decorations only. -/
theorem mem_rests_decoration :
    rest ∈ decoration.rests text ↔
      rest = [] ∧ ∃ blank inner, isBlank blank = true ∧ Inner (String.ofList inner) ∧
        text = blank :: '(' :: (inner ++ [')']) := by
  simp only [decoration, mem_rests_either, mem_rests_inParentheses, mem_rests_run, mem_rests_just]
  constructor
  · rintro (⟨rfl, blank, _, hblank, rfl, inner, hne, hall, rfl⟩ |
      ⟨rfl, blank, _, hblank, rfl, rfl⟩)
    · exact ⟨rfl, blank, inner, hblank, .inl ⟨by simpa using hne, by simpa using hall⟩, rfl⟩
    · exact ⟨rfl, blank, ['x'], hblank, .inr rfl, rfl⟩
  · rintro ⟨rfl, blank, inner, hblank, ⟨hne, hall⟩ | hx, rfl⟩
    · exact .inl ⟨rfl, blank, _, hblank, rfl, inner, by simpa using hne, by simpa using hall, rfl⟩
    · obtain rfl : inner = ['x'] := by simpa using congrArg String.toList hx
      exact .inr ⟨rfl, blank, _, hblank, rfl, rfl⟩

end Text.Pattern

/-! ## §3 Normalizing -/

/-- A text in lower case. -/
def lower (text : String) : String := String.ofList (lowercase text.toList)

theorem undecorate_of_decorated (h : Decorated text front blank inner) :
    undecorate text.toList = front.toList := by
  rw [undecorate]
  cases hfound : decoration.withoutFirst? text.toList with
  | none =>
    have hnone := Pattern.withoutFirst?_eq_none_iff.1 hfound front.toList
      (blank :: '(' :: (inner.toList ++ [')'])) (by simpa using h.toList_eq)
    have hmatch : [] ∈ decoration.rests (blank :: '(' :: (inner.toList ++ [')'])) :=
      Pattern.mem_rests_decoration.2
        ⟨rfl, blank, inner.toList, h.isBlank, by simpa using h.inner, rfl⟩
    rw [hnone] at hmatch
    cases hmatch
  | some kept =>
    obtain ⟨before, _, rest, htext, hrest, rfl⟩ := Pattern.withoutFirst?_eq_some hfound
    obtain ⟨rfl, blank', inner', hblank', hinner', rfl⟩ := Pattern.mem_rests_decoration.1 hrest
    obtain ⟨rfl, -, -⟩ := h.unique (Decorated.of_toList_eq htext hblank' hinner')
    simp

theorem undecorate_of_not_decorated (h : ∀ front blank inner, ¬ Decorated text front blank inner) :
    undecorate text.toList = text.toList := by
  have hnone : decoration.withoutFirst? text.toList = none := by
    refine Pattern.withoutFirst?_eq_none_iff.2 fun before tail htext => ?_
    refine List.eq_nil_iff_forall_not_mem.2 fun rest hrest => ?_
    obtain ⟨-, blank, inner, hblank, hinner, rfl⟩ := Pattern.mem_rests_decoration.1 hrest
    exact h _ _ _ (Decorated.of_toList_eq htext hblank hinner)
  rw [undecorate, hnone, Option.getD_none]

theorem normalize_of_decorated (h : Decorated text front blank inner) :
    normalize text = lower front := by
  rw [normalize, undecorate_of_decorated h, lower]

theorem normalize_of_not_decorated (h : ∀ front blank inner, ¬ Decorated text front blank inner) :
    normalize text = lower text := by
  rw [normalize, undecorate_of_not_decorated h, lower]

theorem normalize_append_of_not_decorated (hclosed : text.toList.getLast? = some ')')
    (htail : tail ≠ "") (h : ∀ front blank inner, ¬ Decorated tail front blank inner) :
    normalize (text ++ tail) = lower (text ++ tail) := by
  refine normalize_of_not_decorated fun front blank inner hwhole => ?_
  obtain ⟨front', htail'⟩ := hwhole.of_append hclosed htail
  exact h front' blank inner htail'

/-- What stands in the last parentheses and what stands before them decide. -/
theorem not_decorated (hinner : '(' ∉ inner.toList)
    (h : Inner inner → ∀ blank, front.toList.getLast? = some blank → isBlank blank = false) :
    ∀ front' blank inner', ¬ Decorated (front ++ "(" ++ inner ++ ")") front' blank inner' := by
  intro front' blank inner' hdecorated
  have heq : front.toList ++ '(' :: (inner.toList ++ [')'])
      = (front'.toList ++ [blank]) ++ '(' :: (inner'.toList ++ [')']) := by
    rw [← hdecorated.toList_eq]
    simp
  obtain ⟨hfront, hsame⟩ := split_at_last_unique heq (by simpa using hinner)
    (by simpa using hdecorated.inner.not_mem (c := '(') (by decide) (by decide))
  obtain rfl := String.toList_inj.1 (List.append_cancel_right hsame)
  have hblank := h hdecorated.inner blank (by rw [hfront, List.getLast?_concat])
  rw [hdecorated.isBlank] at hblank
  cases hblank

/-! ## §4 Matches -/

/-- How a text is matched as it stands. -/
def Matcher.read (matcher : Matcher) (text : String) : Mapping :=
  match resolve? matcher.subjects (longestPrefix? matcher.prefixes text) text with
  | some subject => .matched text (longestPrefix? matcher.prefixes text) subject
  | none => .unmappable text (longestPrefix? matcher.prefixes text)

theorem Matcher.run_eq_read (matcher : Matcher) (raw : String) :
    matcher.run raw = matcher.read (matcher.remap.apply raw) := rfl

theorem Remap.apply_of_correction? {remap : Remap} {raw corrected : String}
    (h : remap.correction? raw = some corrected) : remap.apply raw = corrected := by
  rw [apply, h, Option.getD_some]

theorem Remap.apply_of_not_listed {remap : Remap} {raw : String}
    (h : remap.correction? raw = none) : remap.apply raw = normalize raw := by
  rw [apply, h, Option.getD_none]

theorem Matcher.run_of_decorated {matcher : Matcher} (h : Decorated text front blank inner)
    (hfront : ∀ front' blank' inner', ¬ Decorated front front' blank' inner')
    (htext : matcher.remap.correction? text = none)
    (hlisted : matcher.remap.correction? front = none) : matcher.run text = matcher.run front := by
  rw [run_eq_read, run_eq_read, Remap.apply_of_not_listed htext, Remap.apply_of_not_listed hlisted,
    normalize_of_decorated h, normalize_of_not_decorated hfront]

/-- **One decoration is dropped.** A text ends in a decoration in one way at most. Normalizing
gives what stands before it in lower case, even where that ends in a decoration as well, and all
other texts whole in lower case: those whose last parentheses hold something else, such as a
capital X or nothing, or have no blank before them, and those where something follows the
parentheses. So a matcher makes the same of a text with and without its decoration where it has a
correction of neither, and it takes corrections word for word. -/
theorem one_decoration_is_dropped :
    (∀ text front blank inner, Decorated text front blank inner →
      normalize text = lower front ∧
        ∀ front' blank' inner', Decorated text front' blank' inner' →
          front' = front ∧ blank' = blank ∧ inner' = inner) ∧
    (∀ text, (∀ front blank inner, ¬ Decorated text front blank inner) →
      normalize text = lower text) ∧
    (∀ front inner : String, '(' ∉ inner.toList →
      (Inner inner → ∀ blank, front.toList.getLast? = some blank → isBlank blank = false) →
        normalize (front ++ "(" ++ inner ++ ")") = lower (front ++ "(" ++ inner ++ ")")) ∧
    ¬ Inner "X" ∧ ¬ Inner "" ∧
    (∀ text front blank inner tail, Decorated text front blank inner → tail ≠ "" →
      (∀ front' blank' inner', ¬ Decorated tail front' blank' inner') →
        normalize (text ++ tail) = lower (text ++ tail)) ∧
    (∀ (matcher : Matcher) (text front : String) (blank : Char) (inner : String),
      Decorated text front blank inner →
      (∀ front' blank' inner', ¬ Decorated front front' blank' inner') →
      matcher.remap.correction? text = none → matcher.remap.correction? front = none →
        matcher.run text = matcher.run front) ∧
    ∀ (matcher : Matcher) (raw corrected : String),
      matcher.remap.correction? raw = some corrected →
        matcher.run raw = matcher.read corrected := by
  refine ⟨fun text front blank inner h => ⟨normalize_of_decorated h, fun _ _ _ h' => h.unique h'⟩,
    fun text h => normalize_of_not_decorated h,
    fun front inner hinner h => normalize_of_not_decorated (not_decorated hinner h),
    not_inner_capital, not_inner_empty,
    fun text front blank inner tail h htail hnot =>
      normalize_append_of_not_decorated h.closed htail hnot,
    fun matcher text front blank inner h hfront htext hlisted =>
      Matcher.run_of_decorated h hfront htext hlisted,
    fun matcher raw corrected h => ?listed⟩
  case listed => rw [Matcher.run_eq_read, Remap.apply_of_correction? h]

/-- Of two decorations the last is dropped, and one that a line break follows is kept. The digit
may be of any script. A correction is taken as it is, capitals and decoration included. -/
theorem nested_decoration_is_kept :
    let matcher : Matcher :=
      { remap := .ofPairs [("Scopes (x)", "SCOPES (x)")], prefixes := [],
        subjects := [⟨⟨7⟩, "scopes", none⟩] }
    normalize "Sniper Rifles (2)\u00a0(x)" = "sniper rifles (2)" ∧
      normalize "Rifles (12)\n" = "rifles (12)\n" ∧
      matcher.run "Scopes\t(٣)" = matcher.run "Scopes" ∧
      matcher.run "Scopes (x)" = .unmappable "SCOPES (x)" none := by
  intro matcher
  obtain ⟨hdropped, -, -, -, -, hfollowed, hmatched, hlisted⟩ := one_decoration_is_dropped
  have hopen {text : String} (h : text.toList.getLast? ≠ some ')') :
      ∀ front blank inner, ¬ Decorated text front blank inner :=
    fun _ _ _ hdecorated => h hdecorated.closed
  have hnested : Decorated "Sniper Rifles (2)\u00a0(x)" "Sniper Rifles (2)" '\u00a0' "x" :=
    ⟨by decide, by decide, .inr rfl⟩
  have hbroken : Decorated "Rifles (12)" "Rifles" ' ' "12" :=
    ⟨by decide, by decide, .inl ⟨by decide, List.all_eq_true.1 (by decide)⟩⟩
  have hscopes : Decorated "Scopes\t(٣)" "Scopes" '\t' "٣" :=
    ⟨by decide, by decide, .inl ⟨by decide, List.all_eq_true.1 (by decide)⟩⟩
  refine ⟨?_, ?_, ?_, ?_⟩
  · rw [(hdropped _ _ _ _ hnested).1]
    decide +kernel
  · rw [show "Rifles (12)\n" = "Rifles (12)" ++ "\n" from rfl,
      hfollowed _ _ _ _ "\n" hbroken (by decide) (hopen (by decide))]
    decide +kernel
  · exact hmatched matcher _ _ _ _ hscopes (hopen (by decide)) (by decide) (by decide)
  · rw [hlisted matcher _ "SCOPES (x)" (by decide)]
    decide +kernel

end ExportControl
