/-
ExportControl.Proofs.Matching — what a match says about the text it was made
from.

  §1 Last occurrences — `afterLast?_eq_some_iff`: `afterLast?` gives the rest of
                        the one split of a text at the last occurrence of a
                        lead, and nothing where the lead does not occur.
  §2 Prefixes         — `longestPrefix?_eq_iff`: the prefix found is the longest
                        listed one that the text starts with, the first of two
                        with equally long names; `ledBy_some_iff` tells it by the
                        whole list.
  §3 Subjects         — `subjectNamed?_eq_some_iff`: the subject found is the
                        last listed one of its name.
  §4 Matches          — `matched_iff_reads`: a text is matched exactly where it
                        reads as a prefix and a subject. What stands in front
                        of the last occurrence of the prefix is passed over, so
                        the pair's own text need not be the whole text
                        (`repeated_prefix_is_passed_over`).
-/
import ExportControl.Proofs.LongestPrefix

namespace ExportControl

/-! ## §1 Last occurrences -/

theorem dropLead?_eq_some_iff {lead text rest : List Char} :
    dropLead? lead text = some rest ↔ text = lead ++ rest := by
  induction lead generalizing text with
  | nil => simp [dropLead?]
  | cons c lead ih =>
    cases text with
    | nil => simp [dropLead?]
    | cons d text =>
      by_cases h : c = d
      · subst h; simp [dropLead?, ih]
      · simp [dropLead?, h, Ne.symm h]

/-- `text` is `skipped`, `lead` and `rest`, and no occurrence of `lead` starts further on. -/
structure LastSplit (lead text skipped rest : List Char) : Prop where
  split : text = skipped ++ (lead ++ rest)
  last : ∀ before behind, text = before ++ (lead ++ behind) → before.length ≤ skipped.length

theorem LastSplit.cons {lead text skipped rest : List Char}
    (h : LastSplit lead text skipped rest) (c : Char) :
    LastSplit lead (c :: text) (c :: skipped) rest := by
  refine ⟨by rw [h.split, List.cons_append], ?_⟩
  intro before behind heq
  cases before with
  | nil => exact Nat.zero_le _
  | cons d before =>
    rw [List.cons_append, List.cons.injEq] at heq
    exact Nat.succ_le_succ (h.last before behind heq.2)

/-- A text is split at the last occurrence in one way only. -/
theorem LastSplit.unique {lead text skipped rest skipped' rest' : List Char}
    (h : LastSplit lead text skipped rest) (h' : LastSplit lead text skipped' rest') :
    skipped = skipped' ∧ rest = rest' := by
  have hlen : skipped.length = skipped'.length :=
    Nat.le_antisymm (h'.last _ _ h.split) (h.last _ _ h'.split)
  have heq : skipped ++ (lead ++ rest) = skipped' ++ (lead ++ rest') := h.split ▸ h'.split
  obtain ⟨hs, hr⟩ := List.append_inj heq hlen
  exact ⟨hs, List.append_cancel_left hr⟩

/-- `afterLast?` splits a text at the last occurrence, and fails only where there is none. -/
theorem afterLast?_spec (lead text : List Char) :
    match afterLast? lead text with
    | some rest => ∃ skipped, LastSplit lead text skipped rest
    | none => ∀ before behind, text ≠ before ++ (lead ++ behind) := by
  induction text with
  | nil =>
    rw [afterLast?]
    cases hd : dropLead? lead [] with
    | some rest =>
      have heq := dropLead?_eq_some_iff.1 hd
      refine ⟨[], heq, fun before behind h => ?_⟩
      have hbefore : before = [] := (List.append_eq_nil_iff.1 h.symm).1
      simp [hbefore]
    | none =>
      intro before behind h
      have hl := (List.append_eq_nil_iff.1 h.symm).2
      rw [dropLead?_eq_some_iff.2 hl.symm] at hd
      cases hd
  | cons c text ih =>
    rw [afterLast?]
    cases ha : afterLast? lead text with
    | some rest =>
      rw [ha] at ih
      obtain ⟨skipped, hs⟩ := ih
      exact ⟨c :: skipped, hs.cons c⟩
    | none =>
      rw [ha] at ih
      cases hd : dropLead? lead (c :: text) with
      | some rest =>
        have heq := dropLead?_eq_some_iff.1 hd
        refine ⟨[], heq, fun before behind h => ?_⟩
        cases before with
        | nil => exact Nat.le_refl _
        | cons d before =>
          rw [List.cons_append, List.cons.injEq] at h
          exact absurd h.2 (ih before behind)
      | none =>
        intro before behind h
        cases before with
        | nil =>
          have hsome := dropLead?_eq_some_iff.2 (h.trans (List.nil_append _))
          rw [hd] at hsome
          cases hsome
        | cons d before =>
          rw [List.cons_append, List.cons.injEq] at h
          exact ih before behind h.2

theorem afterLast?_eq_some_iff {lead text rest : List Char} :
    afterLast? lead text = some rest ↔ ∃ skipped, LastSplit lead text skipped rest := by
  have hspec := afterLast?_spec lead text
  constructor
  · intro h
    rw [h] at hspec
    exact hspec
  · rintro ⟨skipped, hs⟩
    cases ha : afterLast? lead text with
    | some rest' =>
      rw [ha] at hspec
      obtain ⟨skipped', hs'⟩ := hspec
      rw [(hs.unique hs').2]
    | none =>
      rw [ha] at hspec
      exact absurd hs.split (hspec skipped rest)

/-! ## §2 Prefixes -/

/-- The prefix with the longest name in a list, the first one where several have that length. -/
def FirstLongest (ps : List Prefix) (pre : Prefix) : Prop :=
  ∃ earlier later, ps = earlier ++ pre :: later ∧
    (∀ q ∈ earlier, q.name.length < pre.name.length) ∧
    ∀ q ∈ later, q.name.length ≤ pre.name.length

namespace FirstLongest

variable {ps : List Prefix} {pre q : Prefix}

theorem mem (h : FirstLongest ps pre) : pre ∈ ps := by
  obtain ⟨earlier, later, rfl, _⟩ := h
  simp

theorem length_le (h : FirstLongest ps pre) (hq : q ∈ ps) :
    q.name.length ≤ pre.name.length := by
  obtain ⟨earlier, later, rfl, he, hl⟩ := h
  rcases List.mem_append.1 hq with hq | hq
  · exact Nat.le_of_lt (he q hq)
  · rcases List.mem_cons.1 hq with rfl | hq
    · exact Nat.le_refl _
    · exact hl q hq

end FirstLongest

/-- Which prefix a text is read with: the longest listed one that it starts with, and none
where it starts with none. -/
def LedBy (prefixes : List Prefix) (text : String) : Option Prefix → Prop
  | some pre => FirstLongest (prefixes.filter (·.leads text)) pre
  | none => ∀ q ∈ prefixes, q.leads text = false

section Leading

variable {prefixes : List Prefix} {p : Prefix} {pre : Option Prefix} {text : String}

theorem FirstLongest.leads (h : FirstLongest (prefixes.filter (·.leads text)) p) :
    p.leads text = true :=
  (List.mem_filter.1 h.mem).2

/-- A prefix of the same name in front of the first longest one would lead the text as well,
and be as long. -/
theorem FirstLongest.firstNamed (h : FirstLongest (prefixes.filter (·.leads text)) p) :
    FirstNamed prefixes p := by
  obtain ⟨earlier, later, heq, hshorter, -⟩ := id h
  obtain ⟨front, back, rfl, hfront, hback⟩ := List.filter_eq_append_iff.1 heq
  obtain ⟨passed, behind, rfl, hpassed, -⟩ := List.filter_eq_cons_iff.1 hback
  refine ⟨front ++ passed, behind, by simp, fun q hq hname => ?_⟩
  have hleads : q.leads text = true := (Prefix.leads_congr hname).trans h.leads
  rcases List.mem_append.1 hq with hq | hq
  · have hlt := hshorter q (hfront ▸ List.mem_filter.2 ⟨hq, hleads⟩)
    rw [hname] at hlt
    exact Nat.lt_irrefl _ hlt
  · exact hpassed q hq hleads

/-- Told by the whole list, and not by those of it that lead the text. -/
theorem ledBy_some_iff :
    LedBy prefixes text (some p) ↔
      p.leads text = true ∧ FirstNamed prefixes p ∧
        ∀ q ∈ prefixes, q.leads text = true → q.name.length ≤ p.name.length := by
  constructor
  · intro h
    have h : FirstLongest (prefixes.filter (·.leads text)) p := h
    exact ⟨h.leads, h.firstNamed,
      fun q hq hleads => h.length_le (List.mem_filter.2 ⟨hq, hleads⟩)⟩
  · rintro ⟨hp, ⟨earlier, later, rfl, hnamed⟩, hlongest⟩
    refine ⟨earlier.filter (·.leads text), later.filter (·.leads text), by simp [hp], ?_, ?_⟩
    · intro q hq
      obtain ⟨hq, hleads⟩ := List.mem_filter.1 hq
      have hle := hlongest q (by simp [hq]) hleads
      exact Nat.lt_of_le_of_ne hle fun hlen => hnamed q hq (p.name_eq_of_leads hp hleads hlen)
    · intro q hq
      obtain ⟨hq, hleads⟩ := List.mem_filter.1 hq
      exact hlongest q (by simp [hq]) hleads

theorem longestPrefix?_eq_iff : longestPrefix? prefixes text = pre ↔ LedBy prefixes text pre := by
  cases pre with
  | none => exact longestPrefix?_eq_none_iff
  | some p => rw [longestPrefix?_eq_some_iff, ledBy_some_iff]

end Leading

/-! ## §3 Subjects -/

/-- The last listed subject of its name. -/
def LastNamed (subjects : List Subject) (subject : Subject) : Prop :=
  ∃ earlier later, subjects = earlier ++ subject :: later ∧ ∀ s ∈ later, s.name ≠ subject.name

theorem subjectNamed?_eq_some_iff {subjects : List Subject} {name : String} {subject : Subject} :
    subjectNamed? subjects name = some subject ↔
      subject.name = name ∧ LastNamed subjects subject := by
  rw [subjectNamed?, List.find?_eq_some_iff_append]
  simp only [decide_eq_true_eq, Bool.not_eq_true', decide_eq_false_iff_not]
  refine and_congr_right fun hname => ?_
  subst hname
  constructor
  · rintro ⟨later, earlier, heq, hl⟩
    refine ⟨earlier.reverse, later.reverse, ?_, by simpa using hl⟩
    rw [← List.reverse_reverse subjects, heq]
    simp
  · rintro ⟨earlier, later, rfl, hl⟩
    exact ⟨later.reverse, earlier.reverse, by simp, by simpa using hl⟩

/-! ## §4 Matches -/

/-- The text ends in the pair's own text, and `skipped` is what stands in front of it: nothing
where there is no prefix, else all that precedes the last occurrence of the prefix and a space. -/
structure Reads (text : String) (pre : Option Prefix) (subject : Subject) (skipped : String) :
    Prop where
  ends : text = skipped ++ displayName pre subject
  unled : pre = none → skipped = ""
  last : ∀ p, pre = some p → ∀ before behind, text = before ++ (p.name ++ " " ++ behind) →
    before.length ≤ skipped.length

theorem candidate?_eq_some_iff {p : Prefix} {text name : String} :
    candidate? (some p) text = some name ↔
      ∃ skipped : String, text = skipped ++ (p.name ++ " " ++ name) ∧
        ∀ before behind, text = before ++ (p.name ++ " " ++ behind) →
          before.length ≤ skipped.length := by
  simp only [candidate?, Option.map_eq_some_iff, afterLast?_eq_some_iff]
  constructor
  · rintro ⟨rest, ⟨skipped, hsplit, hlast⟩, rfl⟩
    refine ⟨String.ofList skipped, ?_, fun before behind h => ?_⟩
    · rw [← String.toList_inj, hsplit]
      simp
    · have := hlast before.toList behind.toList (by rw [h]; simp)
      simpa [String.length_toList] using this
  · rintro ⟨skipped, heq, hlast⟩
    refine ⟨name.toList, ⟨skipped.toList, by rw [heq]; simp, fun before behind h => ?_⟩, by simp⟩
    have := hlast (String.ofList before) (String.ofList behind) (by
      rw [← String.toList_inj, h]
      simp)
    simpa [String.length_toList] using this

/-- A subject is found exactly where the text reads as the prefix and that subject. -/
theorem resolve?_eq_some_iff {subjects : List Subject} {pre : Option Prefix} {text : String}
    {subject : Subject} :
    resolve? subjects pre text = some subject ↔
      LastNamed subjects subject ∧ ∃ skipped, Reads text pre subject skipped := by
  simp only [resolve?, Option.bind_eq_some_iff, subjectNamed?_eq_some_iff]
  cases pre with
  | none =>
    simp only [candidate?, Option.some.injEq]
    constructor
    · rintro ⟨_, rfl, hname, hsub⟩
      refine ⟨hsub, "", by simp [displayName, hname], fun _ => rfl, fun p hp => ?_⟩
      cases hp
    · rintro ⟨hsub, skipped, heq, hnone, -⟩
      refine ⟨text, rfl, ?_, hsub⟩
      rw [heq, hnone rfl]
      simp [displayName]
  | some p =>
    constructor
    · rintro ⟨name, hname, rfl, hsub⟩
      obtain ⟨skipped, heq, hlast⟩ := candidate?_eq_some_iff.1 hname
      refine ⟨hsub, skipped, heq, fun hnone => absurd hnone (by simp), fun q hq => ?_⟩
      obtain rfl := Option.some.inj hq
      exact hlast
    · rintro ⟨hsub, skipped, heq, -, hlast⟩
      exact ⟨subject.name, candidate?_eq_some_iff.2 ⟨skipped, heq, hlast p rfl⟩, rfl, hsub⟩

namespace Matcher

variable {matcher : Matcher} {raw n : String} {pre : Option Prefix} {subject : Subject}

theorem run_eq_matched_iff :
    matcher.run raw = .matched n pre subject ↔
      n = matcher.remap.apply raw ∧ pre = longestPrefix? matcher.prefixes n ∧
        resolve? matcher.subjects pre n = some subject := by
  simp only [run]
  split
  · rename_i s hs
    simp only [Mapping.matched.injEq]
    constructor
    · rintro ⟨rfl, rfl, rfl⟩
      exact ⟨rfl, rfl, hs⟩
    · rintro ⟨rfl, rfl, h⟩
      exact ⟨rfl, rfl, Option.some.inj (hs.symm.trans h)⟩
  · rename_i hs
    simp only [reduceCtorEq, false_iff]
    rintro ⟨rfl, rfl, h⟩
    rw [hs] at h
    cases h

theorem run_eq_unmappable_iff :
    matcher.run raw = .unmappable n pre ↔
      n = matcher.remap.apply raw ∧ pre = longestPrefix? matcher.prefixes n ∧
        resolve? matcher.subjects pre n = none := by
  simp only [run]
  split
  · rename_i s hs
    simp only [reduceCtorEq, false_iff]
    rintro ⟨rfl, rfl, h⟩
    rw [hs] at h
    cases h
  · rename_i hs
    simp only [Mapping.unmappable.injEq]
    constructor
    · rintro ⟨rfl, rfl⟩
      exact ⟨rfl, rfl, hs⟩
    · rintro ⟨rfl, rfl, -⟩
      exact ⟨rfl, rfl⟩

/-- A text of a prefix and a subject is the pair's own text exactly where the prefix and a space
occur nowhere behind the start. -/
theorem displayName_eq_iff_of_reads {skipped : String} (h : Reads n pre subject skipped) :
    displayName pre subject = n ↔
      ∀ p, pre = some p → ∀ before behind, n = before ++ (p.name ++ " " ++ behind) →
        before = "" := by
  constructor
  · rintro hn p rfl before behind hocc
    have hlen := congrArg String.length h.ends
    rw [String.length_append, hn] at hlen
    have := h.last p rfl before behind hocc
    rw [← String.length_eq_zero_iff]
    omega
  · intro hocc
    cases pre with
    | none =>
      rw [h.ends, h.unled rfl]
      simp
    | some p =>
      have hempty : skipped = "" := hocc p rfl skipped subject.name h.ends
      rw [h.ends, hempty]
      simp

/-- **What a match accounts for.** A summary is matched exactly where its normalized text reads
as the longest prefix it starts with, if there is one, and a subject of the taxonomy; all other
texts are unmappable. The pair's own text is then the whole text, unless the prefix and a space
occur once more behind the start. -/
theorem matched_iff_reads (matcher : Matcher) (raw n : String) (pre : Option Prefix)
    (subject : Subject) :
    (matcher.run raw = .matched n pre subject ↔
      n = matcher.remap.apply raw ∧ LedBy matcher.prefixes n pre ∧
        LastNamed matcher.subjects subject ∧ ∃ skipped, Reads n pre subject skipped) ∧
    (matcher.run raw = .unmappable n pre ↔
      n = matcher.remap.apply raw ∧ LedBy matcher.prefixes n pre ∧
        ∀ s skipped, LastNamed matcher.subjects s → ¬ Reads n pre s skipped) ∧
    (matcher.run raw = .matched n pre subject →
      (displayName pre subject = n ↔
        ∀ p, pre = some p → ∀ before behind, n = before ++ (p.name ++ " " ++ behind) →
          before = "")) := by
  refine ⟨?_, ?_, fun h => ?_⟩
  · rw [run_eq_matched_iff, resolve?_eq_some_iff, eq_comm (a := pre), longestPrefix?_eq_iff]
  · rw [run_eq_unmappable_iff, eq_comm (a := pre), longestPrefix?_eq_iff,
      Option.eq_none_iff_forall_ne_some]
    simp only [ne_eq, resolve?_eq_some_iff, not_and, not_exists]
    constructor
    · rintro ⟨hn, hpre, hno⟩
      exact ⟨hn, hpre, fun s skipped hs => hno s hs skipped⟩
    · rintro ⟨hn, hpre, hno⟩
      exact ⟨hn, hpre, fun s hs skipped => hno s skipped hs⟩
  · obtain ⟨-, -, hres⟩ := run_eq_matched_iff.1 h
    obtain ⟨-, skipped, hreads⟩ := resolve?_eq_some_iff.1 hres
    exact displayName_eq_iff_of_reads hreads

/-- A text that repeats the prefix is matched by its end alone, and the pair's own text is
shorter. -/
theorem repeated_prefix_is_passed_over :
    let training : Prefix := ⟨⟨1⟩, "training for"⟩
    let dogs : Subject := ⟨⟨10⟩, "dogs", none⟩
    Matcher.run ⟨.empty, [training], [dogs]⟩ "training for training for dogs"
        = .matched "training for training for dogs" (some training) dogs ∧
      displayName (some training) dogs ≠ "training for training for dogs" := by
  decide +kernel

end Matcher

end ExportControl
