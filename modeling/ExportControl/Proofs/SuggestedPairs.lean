/-
ExportControl.Proofs.SuggestedPairs — a suggested pair can be taken over as it
stands, and settles its line.

Two halves meet at `Knows`: whatever is suggested on a catalog is a pair that the
catalog has, and a decision that names such a pair passes every check there is.

  §1 Decisions  — `Decision.Names`: what a decision that takes over a pair links
                  and how it describes the product.
  §2 Checks     — `refusal?_of_names`: there is no reason to refuse such a
                  decision on an open case.
  §3 Lines      — `DescribedBy`: what the decision makes of its line; a line so
                  described is no candidate (`not_candidate`).
  §4 Desks      — `suggestion_settles_line`.
-/
import ExportControl.Proofs.Outcome
import ExportControl.Proofs.SuggestionReports
import ExportControl.Proofs.TerminalCases
import Mathlib

namespace ExportControl

variable {catalog after : Catalog} {decision : Decision} {item : LineItem} {pre : Option Prefix}
  {subject : Subject}

/-! ## §1 Decisions -/

/-- The decision says that the product is controlled and names one pair. Whatever else it names is
in the catalog. -/
structure Decision.Names (decision : Decision) (catalog : Catalog) (pre : Option PrefixId)
    (subject : SubjectId) : Prop where
  controlled : decision.controlled = some true
  pre : decision.pre = pre
  subject : decision.subject = some subject
  pairs : decision.pairs = []
  ratings : ∀ rating ∈ decision.controlListEntries, catalog.controlListEntries.has rating = true
  regimes : ∀ id ∈ decision.regimeEntries, catalog.regimeEntries.has id = true

section Names

variable {pre : Option PrefixId} {subject : SubjectId}

theorem Decision.Names.isControlled (h : decision.Names catalog pre subject) :
    decision.isControlled = true := by
  simp [Decision.isControlled, h.controlled]

theorem Decision.Names.keys (h : decision.Names catalog pre subject) :
    decision.keys = [(pre, subject)] := by
  rw [Decision.keys, if_pos h.isControlled, if_neg (not_not_intro h.pairs), h.subject, h.pre]
  rfl

theorem Decision.Names.describe (h : decision.Names catalog pre subject) (summary : Summary) :
    decision.describe [summary] = some (.single summary) := by
  rw [Decision.describe, if_pos h.isControlled, if_neg (not_not_intro h.pairs), h.subject]
  rfl

end Names

namespace Catalog

/-! ## §2 Checks -/

theorem plan_of_names (hnames : decision.Names catalog (pre.map Prefix.id) subject.id)
    (hknows : catalog.Knows pre subject) :
    catalog.plan decision = .ok (.single { pre, subject }) := by
  have hgives : decision.givesPair = true := by simp [Decision.givesPair, hnames.subject]
  rw [plan, if_neg (not_not_intro hnames.pairs), if_pos hgives, hnames.subject, hnames.pre,
    planPair, pair_of_knows hknows]
  rfl

theorem mem_linesOf_self (hitem : item ∈ catalog.lineItems) :
    item.id ∈ catalog.linesOf item.caseId :=
  (mem_linesOf catalog).2 ⟨item, hitem, rfl, rfl⟩

/-- Nothing is wrong with a decision on a line of a case that names a known pair. -/
theorem faults_of_names {view : CaseView} (hview : catalog.caseView? item.caseId = some view)
    (hitem : item ∈ catalog.lineItems) (hid : decision.id = item.id)
    (hfirst : catalog.lineItem? item.id = some item)
    (hnames : decision.Names catalog (pre.map Prefix.id) subject.id)
    (hknows : catalog.Knows pre subject) : catalog.faults view decision = [] := by
  have hline : item.id ∈ view.lineItems := by
    rw [linesOf_of_caseView? hview]
    exact mem_linesOf_self hitem
  refine faults_eq_nil_iff.2 ⟨⟨item, ?_⟩, hnames.ratings, hnames.regimes, _,
    plan_of_names hnames hknows, fun _ => by simp⟩
  rw [hid]
  exact lineOfCase?_eq_some_iff.2 ⟨hline, hfirst⟩

/-- There is no reason to refuse such a decision on an open case, if the catalog has the good. -/
theorem refusal?_of_names {view : CaseView} (hview : catalog.caseView? item.caseId = some view)
    (hopen : view.status.isTerminal = false) (hitem : item ∈ catalog.lineItems)
    (hid : decision.id = item.id) (hfirst : catalog.lineItem? item.id = some item)
    (hgood : (catalog.goodOf item).isSome)
    (hnames : decision.Names catalog (pre.map Prefix.id) subject.id)
    (hknows : catalog.Knows pre subject) : catalog.refusal? item.caseId [decision] = none := by
  have hfaults := faults_of_names hview hitem hid hfirst hnames hknows
  have hmissing : catalog.missing? [decision] = none := by
    obtain ⟨good, hgood⟩ := Option.isSome_iff_exists.1 hgood
    obtain ⟨id, hgoodId, hfound⟩ := Option.bind_eq_some_iff.1 hgood
    simp [missing?, hid, hfirst, missingGood?, hgoodId, Register.has, hfound, Option.filter]
  simp [refusal?, hview, hopen, hfaults, hmissing]

/-! ## §3 Lines -/

/-- The line is controlled, and described by the row of just this pair. -/
structure DescribedBy (item : LineItem) (pre : Option PrefixId) (subject : SubjectId) : Prop where
  controlled : item.controlled = some true
  single : ∃ summary, item.classification = some (.single summary) ∧ summary.pair = (pre, subject)

theorem describedBy_of_assessed {reviewer : ReviewerId} {now : Instant} {pre : Option PrefixId}
    {subject : SubjectId} {saved : LineItem} (hnames : decision.Names catalog pre subject)
    (h : catalog.Assessed after reviewer now decision saved) : DescribedBy saved pre subject := by
  obtain ⟨old, rows, -, -, hpairs, rfl, -⟩ := h
  obtain ⟨summary, rfl, hsummary⟩ := List.map_eq_singleton_iff.1 (hpairs.trans hnames.keys)
  exact ⟨hnames.controlled, summary, hnames.describe summary, hsummary⟩

theorem DescribedBy.isPopulated {item : LineItem} {pre : Option PrefixId} {subject : SubjectId}
    (h : DescribedBy item pre subject) (good : Option Good) : item.isPopulated good = true := by
  obtain ⟨summary, hsingle, -⟩ := h.single
  simp [LineItem.isPopulated, LineItem.isControlled, h.controlled, hsingle]

/-- A line described by a pair awaits none. -/
theorem DescribedBy.not_candidate {id : LineItemId} {item : LineItem} {pre : Option PrefixId}
    {subject : SubjectId} (h : DescribedBy item pre subject)
    (hdistinct : (catalog.lineItems.map LineItem.id).Nodup)
    (hitem : catalog.lineItem? id = some item) :
    ∀ candidate ∈ catalog.candidates, candidate.lineItem ≠ id := by
  rintro candidate hmem rfl
  obtain ⟨other, hother, hcandidate⟩ := mem_candidates_iff.1 hmem
  obtain ⟨-, hsame, -, htext, -⟩ := candidate?_eq_some_iff.1 hcandidate
  rw [hsame, lineItem?_of_mem hdistinct hother] at hitem
  cases hitem
  obtain ⟨summary, hsingle, -⟩ := h.single
  rw [hsingle] at htext
  cases htext

end Catalog

/-! ## §4 Desks -/

namespace Suggestion

/-- The suggestions on a catalog match a line with the pair of two identifiers. -/
def Matches (catalog : Catalog) (remap : Remap) (baseUrl : Option String) (line : LineItemId)
    (pre : Option PrefixId) (subject : SubjectId) : Prop :=
  ∃ row ∈ ((Suggester.ofCatalog catalog remap baseUrl).report catalog.candidates).matched,
    row.lineItem = line.text ∧ row.pre.map Prefix.id = pre ∧
      row.subject.map Subject.id = some subject

/-- The catalog has every pair that is suggested on it. -/
theorem Matches.knows {remap : Remap} {baseUrl : Option String} {line : LineItemId}
    {preId : Option PrefixId} {subjectId : SubjectId}
    (h : Matches catalog remap baseUrl line preId subjectId) :
    ∃ pre subject, catalog.Knows pre subject ∧ pre.map Prefix.id = preId ∧
      subject.id = subjectId := by
  obtain ⟨row, hrow, -, hpre, hsubject⟩ := h
  obtain ⟨candidate, -, rfl, n, pre, subject, hrun⟩ := mem_matched_iff.1 hrow
  obtain ⟨hrowpre, hrowsubject⟩ := row_of_matched hrun
  rw [hrowpre] at hpre
  rw [hrowsubject] at hsubject
  obtain ⟨hfound, hprefound⟩ := listed_of_run hrun
  exact ⟨pre, subject, ⟨hfound, fun p hp => (hprefound p hp).1⟩, hpre, Option.some.inj hsubject⟩

end Suggestion

/-- **A suggested pair can be taken over.** Where no identifier of a line item repeats, take a line
that is matched with a pair, whose good the catalog has and whose case is open. A decision of a
permitted reviewer that the line is controlled, and described by just this pair, is accepted as
long as there is an identifier left for the pair. The line is then described by the row of the
pair, counts as controlled and described by pairs, and is no candidate any more. -/
theorem Desk.suggestion_settles_line (desk : Desk) (remap : Remap) (baseUrl : Option String)
    (reviewer : ReviewerId) (now : Instant) (item : LineItem) (pre : Option PrefixId)
    (subject : SubjectId) (decision : Decision)
    (haccess : desk.store.access = .ok catalog) (hmay : desk.mayReview reviewer = .ok true)
    (hdistinct : (catalog.lineItems.map LineItem.id).Nodup) (hitem : item ∈ catalog.lineItems)
    (hgood : (catalog.goodOf item).isSome)
    (hopen : ∃ view, catalog.caseView? item.caseId = some view ∧ view.status.isTerminal = false)
    (hmatch : Suggestion.Matches catalog remap baseUrl item.id pre subject)
    (hid : decision.id = item.id) (hnames : decision.Names catalog pre subject)
    (hroom : catalog.summaries.demand [(pre, subject)] < UInt32.size) :
    ∃ after receipt reviewed saved,
      desk.assess item.caseId reviewer [decision] now = (after, .ok receipt) ∧
        after.store.access = .ok reviewed ∧ reviewed.lineItem? item.id = some saved ∧
        Catalog.DescribedBy saved pre subject ∧
        saved.isPopulated (reviewed.goodOf saved) = true ∧
        ∀ candidate ∈ reviewed.candidates, candidate.lineItem ≠ item.id := by
  obtain ⟨view, hview, hopen⟩ := hopen
  obtain ⟨p, s, hknows, rfl, rfl⟩ := hmatch.knows
  have hnone := Catalog.refusal?_of_names hview hopen hitem hid
    (Catalog.lineItem?_of_mem hdistinct hitem) hgood hnames hknows
  have hroom' : catalog.summaries.demand ([decision].flatMap Decision.keys) < UInt32.size := by
    rwa [List.flatMap_singleton, hnames.keys]
  obtain ⟨reviewed, receipt, items, records, hreview, happlied⟩ :=
    Catalog.exists_review_of_refusal? hnone hroom' reviewer now
  obtain ⟨saved, rest, hassessed, -, rfl⟩ := List.forall₂_cons_left_iff.1 happlied.lines
  have hdescribed := Catalog.describedBy_of_assessed hnames hassessed
  have hsaved : reviewed.lineItem? item.id = some saved := by
    obtain ⟨-, -, -, -, -, -, hsaved⟩ := hassessed
    rwa [hid] at hsaved
  have hdistinct' : (reviewed.lineItems.map LineItem.id).Nodup := by
    rwa [Catalog.map_id_congr (Catalog.Frame.of_review hreview).outlines]
  refine ⟨desk.withCatalog reviewed, receipt, reviewed, saved, ?accepted, ?stored, hsaved,
    hdescribed, hdescribed.isPopulated _, ?settled⟩
  case accepted => exact assess_eq_ok_iff.2 ⟨hmay, catalog, reviewed, haccess, hreview, rfl⟩
  case stored => exact access_eq_ok_iff.2 ⟨(access_eq_ok_iff.1 haccess).1, rfl⟩
  case settled => exact hdescribed.not_candidate hdistinct' hsaved

namespace Desk

/-- A desk with a line that awaits a pair and leaves it to its good whether it is controlled. Its
text starts with two prefixes, and two subjects go by the name behind them. -/
def awaitingLine : Desk where
  store := .ofSeed
    { Seed.empty with
      prefixes := [⟨⟨2⟩, "components"⟩, ⟨⟨1⟩, "components for"⟩]
      subjects := [⟨⟨9⟩, "sniper rifles", none⟩, ⟨⟨7⟩, "sniper rifles", none⟩]
      goods := [⟨⟨"good-1"⟩, "Scope", "", .submitted, [], some true, none, .none⟩]
      cases := [⟨⟨"case-1"⟩, .submitted⟩]
      lineItems :=
        [{ LineItem.unassessed ⟨"line-1"⟩ ⟨"case-1"⟩ (.good ⟨"good-1"⟩) with
            classification := some (.legacy "Components for sniper rifles (3)") }]
      reviewers := [⟨"officer"⟩] }
  directory := none
  permissions := none

/-- The longer prefix and the last subject of the name are suggested, and taken over. -/
theorem awaiting_line_is_settled :
    let catalog := awaitingLine.store.catalog
    let decision := { Decision.blank ⟨"line-1"⟩ with
      controlled := some true, pre := some ⟨1⟩, subject := some ⟨9⟩ }
    let now := { year := 2024, month := 5, day := 1, second := 36000, nano := 0 }
    Suggestion.Matches catalog .empty none ⟨"line-1"⟩ (some ⟨1⟩) ⟨9⟩ ∧
      ∃ after receipt reviewed saved,
        awaitingLine.assess ⟨"case-1"⟩ ⟨"officer"⟩ [decision] now = (after, .ok receipt) ∧
          after.store.access = .ok reviewed ∧ reviewed.lineItem? ⟨"line-1"⟩ = some saved ∧
          Catalog.DescribedBy saved (some ⟨1⟩) ⟨9⟩ ∧
          saved.isPopulated (reviewed.goodOf saved) = true ∧
          ∀ candidate ∈ reviewed.candidates, candidate.lineItem ≠ ⟨"line-1"⟩ := by
  intro catalog decision now
  have hmatched : ((Suggestion.Suggester.ofCatalog catalog .empty none).report
      catalog.candidates).matched
        = [⟨"line-1", "Components for sniper rifles (3)", some ⟨⟨1⟩, "components for"⟩,
            some ⟨⟨9⟩, "sniper rifles", none⟩, "Scope", ""⟩] := by
    cbv
  have hmatch : Suggestion.Matches catalog .empty none ⟨"line-1"⟩ (some ⟨1⟩) ⟨9⟩ := by
    rw [Suggestion.Matches, hmatched]
    exact ⟨_, List.mem_singleton_self _, rfl, rfl, rfl⟩
  have hnames : decision.Names catalog (some ⟨1⟩) ⟨9⟩ :=
    ⟨rfl, rfl, rfl, rfl, by simp [decision, Decision.blank], by simp [decision, Decision.blank]⟩
  refine ⟨hmatch, ?_⟩
  exact suggestion_settles_line awaitingLine .empty none ⟨"officer"⟩ now catalog.lineItems[0]
    (some ⟨1⟩) ⟨9⟩ decision rfl (by decide +kernel) (by decide) (List.getElem_mem _)
    (by decide +kernel) ⟨⟨⟨"case-1"⟩, .submitted, [⟨"line-1"⟩]⟩, by decide +kernel, rfl⟩ hmatch rfl
    hnames (by decide +kernel)

end Desk

end ExportControl
