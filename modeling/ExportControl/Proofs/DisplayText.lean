/-
ExportControl.Proofs.DisplayText — when the text of a pair is matched back to
the pair.

  §1 The text of a pair — `ledBy_displayName_iff`: when the prefix is the one that
                          the text is read with; `reads_displayName_iff`: when
                          nothing of the text is passed over.
  §2 Round trips        — `display_text_round_trips_iff`: the side conditions under
                          which the text of a prefix and a subject is matched to
                          the two, and those for a subject alone. Where one prefix
                          goes on from another, one text can stand for two pairs,
                          and only one of them comes back
                          (`nested_prefixes_round_trip`).
-/
import ExportControl.Proofs.Matching

namespace ExportControl

/-! ## §1 The text of a pair -/

/-- `word` stands in `text` behind its first `place` characters; occurrences may overlap. -/
def OccursAt (word text : String) (place : Nat) : Prop :=
  ∃ before behind, text = before ++ (word ++ behind) ∧ before.length = place

section RoundTrip

variable {p : Prefix} {s : Subject}

theorem displayName_leads_iff : p.leads (displayName (some p) s) = true ↔ p.name ≠ "" := by
  simp [Prefix.leads_iff, displayName, List.append_assoc]

theorem occursAt_displayName_zero : OccursAt (p.name ++ " ") (displayName (some p) s) 0 :=
  ⟨"", s.name, by simp [displayName], rfl⟩

/-- Nothing is left to pass over where the text is the pair's own, so the prefix and a space
may not occur once more. -/
theorem reads_displayName_iff :
    (∃ skipped, Reads (displayName (some p) s) (some p) s skipped) ↔
      ∀ place, OccursAt (p.name ++ " ") (displayName (some p) s) place ↔ place = 0 := by
  constructor
  · rintro ⟨skipped, hends, -, hlast⟩ place
    have hskipped : skipped.length = 0 := by
      have := congrArg String.length hends
      rw [String.length_append] at this
      omega
    constructor
    · rintro ⟨before, behind, heq, rfl⟩
      have := hlast p rfl before behind heq
      omega
    · rintro rfl
      exact occursAt_displayName_zero
  · intro honly
    refine ⟨"", by simp, by simp, fun q hq before behind heq => ?_⟩
    obtain rfl := Option.some.inj hq
    exact Nat.le_of_eq ((honly before.length).1 ⟨before, behind, heq, rfl⟩)

/-- Without a prefix the text is read whole. -/
theorem reads_name : Reads s.name none s "" :=
  ⟨by simp [displayName], fun _ => rfl, by simp⟩

/-- The listed prefix that the pair's own text is read with is `p`. -/
theorem ledBy_displayName_iff {prefixes : List Prefix} :
    LedBy prefixes (displayName (some p) s) (some p) ↔
      p.name ≠ "" ∧ FirstNamed prefixes p ∧
        ∀ q ∈ prefixes, p.name.length < q.name.length →
          ¬ q.name.toList <+: (displayName (some p) s).toList := by
  rw [ledBy_some_iff, displayName_leads_iff]
  refine and_congr_right fun _ => and_congr_right fun _ => forall₂_congr fun q _ => ?_
  rw [Prefix.leads_iff]
  constructor
  · intro hle hlt hanchored
    -- a longer name is not empty, so the prefix leads the text
    have hname : q.name ≠ "" := by
      intro h
      rw [h] at hlt
      exact Nat.not_lt_zero _ hlt
    exact absurd (hle ⟨hname, hanchored⟩) (Nat.not_le.2 hlt)
  · rintro hno ⟨-, hanchored⟩
    exact Nat.le_of_not_lt fun hlt => hno hlt hanchored

theorem ledBy_none_iff {prefixes : List Prefix} {text : String} :
    LedBy prefixes text none ↔
      ∀ q ∈ prefixes, q.name ≠ "" → ¬ q.name.toList <+: text.toList := by
  simp only [LedBy]
  refine forall₂_congr fun q _ => ?_
  rw [← Bool.not_eq_true, Prefix.leads_iff, not_and]

end RoundTrip

/-! ## §2 Round trips -/

namespace Matcher

variable {matcher : Matcher} {text : String} {pre : Option Prefix} {s : Subject}

/-- A text that is neither listed in the remap nor changed by normalizing is matched as it
stands. -/
theorem run_eq_matched_self_iff (hremap : matcher.remap.correction? text = none)
    (hnormal : normalize text = text) :
    matcher.run text = .matched text pre s ↔
      LedBy matcher.prefixes text pre ∧ LastNamed matcher.subjects s ∧
        ∃ skipped, Reads text pre s skipped := by
  have happly : matcher.remap.apply text = text := by
    rw [Remap.apply, hremap, Option.getD_none, hnormal]
  rw [run_eq_matched_iff, resolve?_eq_some_iff, eq_comm (a := pre), longestPrefix?_eq_iff, happly]
  exact and_iff_right rfl

/-- **When display text round trips.** The text of a prefix and a subject, where no correction
and no normalizing changes it, is matched to the two exactly where the prefix has a name and is
the first listed one of that name, no longer listed name starts the text, the prefix and a space
occur at the start of the text only, and the subject is the last listed one of its name. The name
of a subject is matched to the subject alone exactly where it starts with no listed prefix and
the subject is the last listed one of its name. -/
theorem display_text_round_trips_iff (matcher : Matcher) :
    (∀ (p : Prefix) (s : Subject),
      matcher.remap.correction? (displayName (some p) s) = none →
      normalize (displayName (some p) s) = displayName (some p) s →
      (matcher.run (displayName (some p) s) = .matched (displayName (some p) s) (some p) s ↔
        (p.name ≠ "" ∧ FirstNamed matcher.prefixes p ∧
          ∀ q ∈ matcher.prefixes, p.name.length < q.name.length →
            ¬ q.name.toList <+: (displayName (some p) s).toList) ∧
        (∀ place, OccursAt (p.name ++ " ") (displayName (some p) s) place ↔ place = 0) ∧
        LastNamed matcher.subjects s)) ∧
    (∀ s : Subject,
      matcher.remap.correction? s.name = none → normalize s.name = s.name →
      (matcher.run s.name = .matched s.name none s ↔
        (∀ q ∈ matcher.prefixes, q.name ≠ "" → ¬ q.name.toList <+: s.name.toList) ∧
        LastNamed matcher.subjects s)) := by
  constructor
  · intro p s hremap hnormal
    rw [run_eq_matched_self_iff hremap hnormal, ledBy_displayName_iff, reads_displayName_iff]
    exact and_congr_right fun _ => and_comm
  · intro s hremap hnormal
    rw [run_eq_matched_self_iff hremap hnormal, ledBy_none_iff]
    exact and_congr_right fun _ => and_iff_left ⟨"", reads_name⟩

/-- One text of two pairs: it is read with the longer prefix, so it comes back as the pair of that
one and not as the other pair. -/
theorem nested_prefixes_round_trip :
    let components : Prefix := ⟨⟨1⟩, "components for"⟩
    let inUse : Prefix := ⟨⟨2⟩, "components for use in"⟩
    let aircraft : Subject := ⟨⟨10⟩, "aircraft", none⟩
    let useInAircraft : Subject := ⟨⟨11⟩, "use in aircraft", none⟩
    let text := "components for use in aircraft"
    let matcher : Matcher := ⟨.empty, [components, inUse], [aircraft, useInAircraft]⟩
    matcher.run text = .matched text (some inUse) aircraft ∧
      (∀ place, OccursAt "components for use in " text place ↔ place = 0) ∧
      displayName (some components) useInAircraft = text ∧
      matcher.run text ≠ .matched text (some components) useInAircraft ∧
      matcher.run "aircraft" = .matched "aircraft" none aircraft := by
  intro components inUse aircraft useInAircraft text matcher
  obtain ⟨hpairs, halone⟩ := display_text_round_trips_iff matcher
  have hnormal : normalize text = text := by decide +kernel
  have hlonger : matcher.run text = .matched text (some inUse) aircraft := by decide +kernel
  refine ⟨hlonger, ((hpairs inUse aircraft rfl hnormal).1 hlonger).2.1, by decide, ?_, ?_⟩
  · intro hshorter
    obtain ⟨⟨-, -, hlongest⟩, -⟩ := (hpairs components useInAircraft rfl hnormal).1 hshorter
    exact hlongest inUse (by decide) (by decide) (by decide)
  · refine (halone aircraft rfl (by decide +kernel)).2 ⟨by decide, ?_⟩
    exact ⟨[], [useInAircraft], rfl, by decide⟩

end Matcher

end ExportControl
