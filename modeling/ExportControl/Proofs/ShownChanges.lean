/-
ExportControl.Proofs.ShownChanges — which recorded changes can be seen in their
records.

A record holds the values before and after as they are shown: what is not known
to be controlled looks the same as what is known not to be, and no entries look
the same as the single entry that stands for none. So a change can be recorded
and yet show nothing.

  §1 Renderings — `controlledLabel_eq_iff`, `toFinset_orPlaceholder_eq_iff`: when
                  two labels, or two lists with their placeholder, look alike.
  §2 Changes    — `Hidden`: the changes that cannot be seen; `shown_eq_iff`.
  §3 Records    — `records_show_unhidden_changes`: a record of an accepted batch
                  looks the same before and after just for a hidden change.
-/
import ExportControl.Proofs.Recording

namespace ExportControl

/-! ## §1 Renderings -/

namespace Review

/-- Only what is known to be controlled has a label of its own. -/
theorem controlledLabel_eq_iff {old new : Option Bool} :
    controlledLabel old = controlledLabel new ↔
      old = new ∨ old = none ∧ new = some false ∨ old = some false ∧ new = none := by
  rcases old with _ | _ | _ <;> rcases new with _ | _ | _ <;> decide

/-- No entries look like a list of just the placeholder. -/
theorem toFinset_orPlaceholder_eq_iff {placeholder : String} {old new : List String} :
    (orPlaceholder placeholder old).toFinset = (orPlaceholder placeholder new).toFinset ↔
      old.toFinset = new.toFinset ∨ old.toFinset = ∅ ∧ new.toFinset = {placeholder} ∨
        old.toFinset = {placeholder} ∧ new.toFinset = ∅ := by
  rw [toFinset_orPlaceholder, toFinset_orPlaceholder]
  generalize old.toFinset = entries, new.toFinset = entries'
  by_cases hnone : entries = ∅ <;> by_cases hnone' : entries' = ∅ <;>
    simp [hnone, hnone', eq_comm]

end Review

/-! ## §2 Changes -/

/-- Values that a record shows alike: the text of the description is the same, and so are the
control and the entries, or else they went between two values that look the same. -/
structure Hidden (old new : ReviewValues) : Prop where
  reportSummary : old.reportSummary = new.reportSummary
  controlled : old.controlled = new.controlled ∨
    old.controlled = none ∧ new.controlled = some false ∨
    old.controlled = some false ∧ new.controlled = none
  entries : old.entries = new.entries ∨
    old.entries = ∅ ∧ new.entries = {Review.noEntries} ∨
    old.entries = {Review.noEntries} ∧ new.entries = ∅

theorem LineItem.shown_eq_iff {old new : LineItem} :
    old.shown = new.shown ↔ Hidden old.values new.values := by
  simp only [shown, ShownValues.mk.injEq, Review.toFinset_orPlaceholder_eq_iff,
    Review.controlledLabel_eq_iff]
  constructor
  · rintro ⟨hentries, hcontrolled, hsummary⟩
    exact ⟨hsummary, hcontrolled, hentries⟩
  · rintro ⟨hsummary, hcontrolled, hentries⟩
    exact ⟨hentries, hcontrolled, hsummary⟩

/-! ## §3 Records -/

namespace Catalog

variable {before after : Catalog} {decision : Decision} {record : AuditRecord}

/-- A record about the line item of a decision, whose values changed: it looks the same before and
after exactly where the change is hidden. -/
structure Shows (before after : Catalog) (decision : Decision) (record : AuditRecord) : Prop where
  target : record.target = decision.id
  change : ∃ old new, before.values? decision.id = some old ∧ after.values? decision.id = some new ∧
    old ≠ new ∧ (record.review.shownBefore = record.review.shownAfter ↔ Hidden old new)

theorem Shows.looksSame_iff {old new : ReviewValues} (h : Shows before after decision record)
    (hold : before.values? decision.id = some old) (hnew : after.values? decision.id = some new) :
    record.review.shownBefore = record.review.shownAfter ↔ Hidden old new := by
  obtain ⟨_, _, hold', hnew', -, hiff⟩ := h.change
  cases hold.symm.trans hold'
  cases hnew.symm.trans hnew'
  exact hiff

theorem Reports.shows {id : CaseId} {reviewer : ReviewerId} {now : Instant}
    (h : Reports before after id reviewer now decision record)
    (hchanged : before.values? decision.id ≠ after.values? decision.id) :
    Shows before after decision record := by
  obtain ⟨old, hold, hbefore⟩ := Option.map_eq_some_iff.1 h.shownBefore
  obtain ⟨new, hnew, hafter⟩ := Option.map_eq_some_iff.1 h.shownAfter
  have hvalues : before.values? decision.id = some old.values := by rw [values?, hold]; rfl
  have hvalues' : after.values? decision.id = some new.values := by rw [values?, hnew]; rfl
  refine ⟨h.target, old.values, new.values, hvalues, hvalues', ?_, ?_⟩
  · rintro hsame
    exact hchanged (by rw [hvalues, hvalues', hsame])
  · rw [← hbefore, ← hafter, LineItem.shown_eq_iff]

end Catalog

namespace Desk

open Catalog (Shows)

/-- **Records show every change that is not hidden.** The records that an accepted batch adds are
one for each decision that changed the values of its line item, in order. Such a record has the
same entries, label and summary before and after exactly where the summary did not change, the
control did not change or went between unknown and no, and the entries did not change or went
between none and the one that reads like the placeholder for none. Any other change of a value
can be seen in its record. -/
theorem records_show_unhidden_changes (desk : Desk) (id : CaseId) (reviewer : ReviewerId)
    (decisions : List Decision) (now : Instant) (after : Desk) (receipt : Receipt)
    (h : desk.assess id reviewer decisions now = (after, .ok receipt)) :
    ∃ records, after.store.catalog.audits = desk.store.catalog.audits ++ records ∧
      List.Forall₂ (Shows desk.store.catalog after.store.catalog)
        (decisions.filter fun decision =>
          desk.store.catalog.values? decision.id ≠ after.store.catalog.values? decision.id)
        records := by
  obtain ⟨records, haudits, -, hreports⟩ := Catalog.records_of_review (review_of_assess h)
  refine ⟨records, haudits, ?_⟩
  refine ((List.forall₂_and_left _ _).2 ⟨fun decision hmem => ?_, hreports⟩).imp
    fun decision record ⟨hchanged, hreport⟩ => hreport.shows hchanged
  exact of_decide_eq_true (List.mem_filter.1 hmem).2

/-- A desk with two line items, where the placeholder for no entries is a rating as well. -/
def placeholderRated : Desk where
  store := .ofSeed
    { Seed.empty with
      controlListEntries := [⟨Review.noEntries, ""⟩, ⟨"ML2", ""⟩]
      cases := [⟨⟨"case-1"⟩, .underReview⟩]
      lineItems :=
        [.unassessed ⟨"line-1"⟩ ⟨"case-1"⟩ (.goodsType "Scopes"),
         .unassessed ⟨"line-2"⟩ ⟨"case-1"⟩ (.goodsType "Scopes")]
      reviewers := [⟨"officer"⟩] }
  directory := none
  permissions := none

/-- Two decisions that find products not to be controlled. The first one rates what stands for no
entries, so its record shows nothing. -/
theorem placeholder_rating_is_hidden :
    let rated (line rating : String) : Decision :=
      { Decision.blank ⟨line⟩ with controlled := some false, controlListEntries := [rating] }
    let after := (placeholderRated.rateAt
      [rated "line-1" Review.noEntries, rated "line-2" "ML2"]).1.store.catalog
    ∃ hidden seen, after.audits = [hidden, seen] ∧
      hidden.review.shownBefore = hidden.review.shownAfter ∧
      seen.review.shownBefore ≠ seen.review.shownAfter := by
  intro rated after
  obtain ⟨records, haudits, hshows⟩ := records_show_unhidden_changes placeholderRated ⟨"case-1"⟩
    ⟨"officer"⟩ [rated "line-1" Review.noEntries, rated "line-2" "ML2"]
    { year := 2024, month := 5, day := 1, second := 36000, nano := 0 }
    (placeholderRated.rateAt [rated "line-1" Review.noEntries, rated "line-2" "ML2"]).1
    { caseId := ⟨"case-1"⟩, updated := 2, audited := 2 } rfl
  have hchanged : [rated "line-1" Review.noEntries, rated "line-2" "ML2"].filter (fun decision =>
      placeholderRated.store.catalog.values? decision.id ≠ after.values? decision.id)
        = [rated "line-1" Review.noEntries, rated "line-2" "ML2"] := by decide
  rw [hchanged] at hshows
  obtain ⟨hidden, _, hfirst, hrest, rfl⟩ := List.forall₂_cons_left_iff.1 hshows
  obtain ⟨seen, _, hsecond, hnil, rfl⟩ := List.forall₂_cons_left_iff.1 hrest
  obtain rfl := List.forall₂_nil_left_iff.1 hnil
  have hhidden : Hidden ⟨∅, none, none⟩ ⟨{Review.noEntries}, some false, none⟩ :=
    ⟨rfl, .inr (.inl ⟨rfl, rfl⟩), .inr (.inl ⟨rfl, rfl⟩)⟩
  have hseen : ¬ Hidden ⟨∅, none, none⟩ ⟨{"ML2"}, some false, none⟩ := by
    rintro ⟨-, -, hentries⟩
    revert hentries
    decide
  exact ⟨hidden, seen, haudits, (hfirst.looksSame_iff rfl rfl).2 hhidden,
    mt (hsecond.looksSame_iff rfl rfl).1 hseen⟩

end Desk

end ExportControl
