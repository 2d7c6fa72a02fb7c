/-
ExportControl.Proofs.Checking — what it takes for a batch to pass its checks.

  §1 Repeated lines — `repeatedIds_eq_nil_iff`: no line is reported as repeated
                      exactly where all are different.
  §2 One decision   — `check_eq_ok_iff`, `check_eq_error_iff`: a decision passes
                      exactly where nothing is wrong with it, so no decision is
                      refused without a reason.
  §3 Batches        — `checkAll_eq_ok_iff`, `checkAll_eq_error_iff`: the check of
                      a batch gives one entry for each decision, in order.
  §4 Reference data — `check_congr`: a check reads nothing of a catalog but its
                      reference data and the line item in question.
-/
import ExportControl.Assessment.Batch
import Mathlib.Data.List.Forall2

namespace ExportControl

/-! ## §1 Repeated lines -/

theorem repeatedFrom_eq_nil_iff {seen found ids : List LineItemId} (hsub : found ⊆ seen)
    (hnew : ∀ id ∈ found, id ∉ ids) :
    repeatedFrom seen found ids = [] ↔ ids.Nodup ∧ ∀ id ∈ ids, id ∉ seen := by
  induction ids generalizing seen with
  | nil => simp [repeatedFrom]
  | cons id ids ih =>
    rw [repeatedFrom]
    have hid : id ∉ found := fun h => hnew id h (by simp)
    have hnew' : ∀ x ∈ found, x ∉ ids := fun x hx hmem => hnew x hx (List.mem_cons_of_mem _ hmem)
    by_cases hseen : id ∈ seen
    · rw [if_pos hseen, if_neg hid]
      constructor
      · intro h
        cases h
      · rintro ⟨-, h⟩
        exact absurd hseen (h id (by simp))
    · rw [if_neg hseen, ih (fun x hx => List.mem_cons_of_mem _ (hsub hx)) hnew']
      simp only [List.nodup_cons, List.mem_cons, not_or, forall_eq_or_imp]
      constructor
      · rintro ⟨hnd, h⟩
        exact ⟨⟨fun hmem => (h id hmem).1 rfl, hnd⟩, hseen, fun x hx => (h x hx).2⟩
      · rintro ⟨⟨hmem, hnd⟩, -, h⟩
        refine ⟨hnd, fun x hx => ⟨?_, h x hx⟩⟩
        rintro rfl
        exact hmem hx

theorem repeatedIds_eq_nil_iff {ids : List LineItemId} : repeatedIds ids = [] ↔ ids.Nodup := by
  rw [repeatedIds, repeatedFrom_eq_nil_iff (by simp) (by simp)]
  simp

namespace Catalog

variable {catalog other : Catalog} {view : CaseView} {decision : Decision}

/-! ## §2 One decision -/

theorem plan_error_ne_nil {faults : List LineFault} (h : catalog.plan decision = .error faults) :
    faults ≠ [] := by
  unfold plan at h
  split at h
  · split at h
    · cases h
      simp
    · split at h
      · cases h
      · rename_i hparts
        cases h
        simpa using hparts
  · split at h
    · cases hp : catalog.planPair decision.pre decision.subject with
      | error part =>
        rw [hp] at h
        cases h
        simp
      | ok plan =>
        rw [hp] at h
        cases h
    · cases h

/-- The ways in which a decision can describe a product: a list of pairs, a single pair, a prefix
alone, which describes nothing, and free text. -/
theorem plan_eq_ok_cases {plan : Plan} (h : catalog.plan decision = .ok plan) :
    (decision.pairs ≠ [] ∧ catalog.unknownParts decision.pairs = [] ∧
      plan = .multiple (catalog.knownPairs decision.pairs)) ∨
    (decision.pairs = [] ∧ ∃ subject pair, decision.subject = some subject ∧
      catalog.pair { pre := decision.pre, subject } = .ok pair ∧ plan = .single pair) ∨
    (decision.pairs = [] ∧ decision.subject = none ∧ decision.pre ≠ none ∧
      plan = .unclassified) ∨
    (decision.pairs = [] ∧ decision.subject = none ∧ decision.pre = none ∧
      plan = planText decision.reportSummary) := by
  rw [Catalog.plan] at h
  by_cases hpairs : decision.pairs = []
  · rw [if_neg (not_not_intro hpairs)] at h
    cases hs : decision.subject with
    | some subject =>
      rw [Decision.givesPair, hs, Option.isSome_some, Bool.or_true, if_pos rfl, planPair] at h
      cases hp : catalog.pair { pre := decision.pre, subject } with
      | error part =>
        rw [hp] at h
        cases h
      | ok pair =>
        rw [hp] at h
        cases h
        exact .inr (.inl ⟨hpairs, subject, pair, rfl, hp, rfl⟩)
    | none =>
      cases hl : decision.pre with
      | none =>
        rw [Decision.givesPair, hs, hl] at h
        cases h
        exact .inr (.inr (.inr ⟨hpairs, rfl, rfl, rfl⟩))
      | some pre =>
        rw [Decision.givesPair, hs, hl, Option.isSome_some, Bool.true_or, if_pos rfl, planPair] at h
        cases hlead : catalog.lead (some pre) <;> rw [hlead] at h <;> cases h
        exact .inr (.inr (.inl ⟨hpairs, rfl, by simp, rfl⟩))
  · rw [if_pos hpairs] at h
    split at h
    · cases h
    · split at h
      · rename_i hparts
        cases h
        exact .inl ⟨hpairs, hparts, rfl⟩
      · cases h

theorem lineFaults_eq_nil_iff {id : LineItemId} :
    catalog.lineFaults view id = [] ↔ ∃ item, catalog.lineOfCase? view id = some item := by
  rw [← Option.isSome_iff_exists, lineFaults]
  split <;> simp_all

theorem summaryFaults_eq_nil_iff :
    catalog.summaryFaults decision = [] ↔
      ∃ plan, catalog.plan decision = .ok plan ∧
        (decision.isControlled = true → plan ≠ .unclassified) := by
  rw [summaryFaults]
  cases hp : catalog.plan decision with
  | error faults => simp [plan_error_ne_nil hp]
  | ok plan => simp [Bool.and_eq_true]

theorem ratingFaults_eq_nil_iff {ratings : List String} :
    catalog.ratingFaults ratings = [] ↔
      ∀ rating ∈ ratings, catalog.controlListEntries.has rating = true := by
  simp [ratingFaults, List.filter_eq_nil_iff]

theorem regimeFaults_eq_nil_iff {ids : List RegimeEntryId} :
    catalog.regimeFaults ids = [] ↔ ∀ id ∈ ids, catalog.regimeEntries.has id = true := by
  simp [regimeFaults, List.filter_eq_nil_iff]

theorem faults_eq_nil_iff :
    catalog.faults view decision = [] ↔
      (∃ item, catalog.lineOfCase? view decision.id = some item) ∧
      (∀ rating ∈ decision.controlListEntries, catalog.controlListEntries.has rating = true) ∧
      (∀ id ∈ decision.regimeEntries, catalog.regimeEntries.has id = true) ∧
      ∃ plan, catalog.plan decision = .ok plan ∧
        (decision.isControlled = true → plan ≠ .unclassified) := by
  simp only [faults, List.append_eq_nil_iff, lineFaults_eq_nil_iff, ratingFaults_eq_nil_iff,
    regimeFaults_eq_nil_iff, summaryFaults_eq_nil_iff, and_assoc]

theorem check_eq_error_iff {faults : List LineFault} :
    catalog.check view decision = .error faults ↔
      catalog.faults view decision = faults ∧ faults ≠ [] := by
  by_cases hnil : catalog.faults view decision = []
  · obtain ⟨⟨item, hitem⟩, -, -, plan, hplan, -⟩ := faults_eq_nil_iff.1 hnil
    simp only [check, hitem, hplan, hnil, reduceCtorEq, false_iff]
    rintro ⟨rfl, h⟩
    exact h rfl
  · have herr : catalog.check view decision = .error (catalog.faults view decision) := by
      rw [check]
      split
      · rename_i h
        exact absurd h hnil
      · rfl
    rw [herr, Except.error.injEq]
    constructor
    · rintro rfl
      exact ⟨rfl, hnil⟩
    · rintro ⟨rfl, -⟩
      rfl

theorem check_eq_ok_iff {checked : Checked} :
    catalog.check view decision = .ok checked ↔
      catalog.faults view decision = [] ∧ checked.decision = decision ∧
      catalog.lineOfCase? view decision.id = some checked.item ∧
      catalog.plan decision = .ok checked.plan ∧
      checked.regimes = decision.regimeEntries.filterMap catalog.regimeEntries.find? := by
  by_cases hnil : catalog.faults view decision = []
  · obtain ⟨⟨item, hitem⟩, -, -, plan, hplan, -⟩ := faults_eq_nil_iff.1 hnil
    simp only [check, hitem, hplan, hnil, Except.ok.injEq, true_and, Option.some.injEq]
    constructor
    · rintro rfl
      exact ⟨rfl, rfl, rfl, rfl⟩
    · rintro ⟨rfl, rfl, rfl, hregimes⟩
      rw [← hregimes]
  · rw [check_eq_error_iff.2 ⟨rfl, hnil⟩]
    simp [hnil]

theorem id_of_lineItem? {id : LineItemId} {item : LineItem} (h : catalog.lineItem? id = some item) :
    item.id = id := by
  simpa using List.find?_some h

theorem lineOfCase?_eq_some_iff {id : LineItemId} {item : LineItem} :
    catalog.lineOfCase? view id = some item ↔
      id ∈ view.lineItems ∧ catalog.lineItem? id = some item := by
  rw [lineOfCase?, CaseView.contains]
  by_cases hid : id ∈ view.lineItems <;> simp [hid]

/-- A decision that passes has been read together with the first line item of its identifier. -/
theorem lineItem?_of_check {checked : Checked} (h : catalog.check view decision = .ok checked) :
    catalog.lineItem? decision.id = some checked.item :=
  (lineOfCase?_eq_some_iff.1 (check_eq_ok_iff.1 h).2.2.1).2

theorem id_of_check {checked : Checked} (h : catalog.check view decision = .ok checked) :
    checked.item.id = decision.id :=
  id_of_lineItem? (lineItem?_of_check h)

/-- The regimes that a decision passes with are the ones that it names. -/
theorem map_id_regimes_of_check {checked : Checked}
    (h : catalog.check view decision = .ok checked) :
    checked.regimes.map RegimeEntry.id = decision.regimeEntries := by
  obtain ⟨hfaults, -, -, -, hregimes⟩ := check_eq_ok_iff.1 h
  obtain ⟨-, -, hhas, -⟩ := faults_eq_nil_iff.1 hfaults
  rw [hregimes]
  exact Register.map_key_filterMap_find? hhas

theorem lineErrors_eq :
    catalog.lineErrors view decision = .ofFaults (catalog.faults view decision) := by
  rw [lineErrors]
  cases hc : catalog.check view decision with
  | ok checked =>
    rw [(check_eq_ok_iff.1 hc).1]
    rfl
  | error faults => rw [(check_eq_error_iff.1 hc).1, errorsOf]

theorem lineErrors_isEmpty_iff :
    (catalog.lineErrors view decision).isEmpty = true ↔ catalog.faults view decision = [] := by
  rw [lineErrors_eq, LineErrors.isEmpty, LineErrors.reports_ofFaults]
  simp

/-! ## §3 Batches -/

variable {decisions : List Decision}

/-- Decisions that all pass give one result each, in order. -/
theorem map_check_of_forall (h : ∀ d ∈ decisions, catalog.faults view d = []) :
    decisions.map (catalog.check view) =
      (decisions.filterMap fun d => (catalog.check view d).toOption).map .ok := by
  induction decisions with
  | nil => rfl
  | cons d ds ih =>
    obtain ⟨hd, hds⟩ := List.forall_mem_cons.1 h
    cases hc : catalog.check view d with
    | ok checked => simp [hc, Except.toOption, ih hds]
    | error faults =>
      obtain ⟨heq, hne⟩ := check_eq_error_iff.1 hc
      exact absurd (heq ▸ hd) hne

theorem faults_of_checks {batch : List Checked}
    (h : decisions.map (catalog.check view) = batch.map .ok) :
    ∀ d ∈ decisions, catalog.faults view d = [] := by
  intro d hd
  have hmem : catalog.check view d ∈ batch.map Except.ok := h ▸ List.mem_map_of_mem hd
  obtain ⟨checked, -, hc⟩ := List.mem_map.1 hmem
  exact (check_eq_ok_iff.1 hc.symm).1

theorem any_lineErrors_iff :
    ((decisions.map (catalog.lineErrors view)).any (!·.isEmpty)) = true ↔
      ∃ d ∈ decisions, catalog.faults view d ≠ [] := by
  simp [List.any_eq_true, ← lineErrors_isEmpty_iff]

/-- The decisions that pass are all decisions of the batch, in order: none is left out. -/
theorem checkAll_eq_ok_iff {batch : List Checked} :
    catalog.checkAll view decisions = .ok batch ↔
      decisions.map (catalog.check view) = batch.map .ok := by
  simp only [checkAll]
  split
  · rename_i h
    obtain ⟨d, hd, hne⟩ := any_lineErrors_iff.1 h
    simp only [reduceCtorEq, false_iff]
    intro heq
    exact hne (faults_of_checks heq d hd)
  · rename_i h
    rw [any_lineErrors_iff] at h
    have hall : ∀ d ∈ decisions, catalog.faults view d = [] :=
      fun d hd => Decidable.byContradiction fun hne => h ⟨d, hd, hne⟩
    rw [map_check_of_forall hall, Except.ok.injEq]
    exact (List.map_inj_right fun _ _ => Except.ok.inj).symm

theorem checkAll_eq_error_iff {errors : List LineErrors} :
    catalog.checkAll view decisions = .error errors ↔
      decisions.map (catalog.lineErrors view) = errors ∧
        ∃ d ∈ decisions, catalog.faults view d ≠ [] := by
  simp only [checkAll]
  split
  · rename_i h
    simp [any_lineErrors_iff.1 h]
  · rename_i h
    rw [any_lineErrors_iff] at h
    simp [h]

/-- What every passed decision has in common with its result holds along the batch. -/
theorem map_of_checks {β : Type} {f : Checked → β} {g : Decision → β} {batch : List Checked}
    (hfg : ∀ d checked, catalog.check view d = .ok checked → f checked = g d)
    (h : decisions.map (catalog.check view) = batch.map .ok) :
    batch.map f = decisions.map g := by
  induction decisions generalizing batch with
  | nil =>
    cases batch with
    | nil => rfl
    | cons checked batch => cases h
  | cons d ds ih =>
    cases batch with
    | nil => cases h
    | cons checked batch =>
      obtain ⟨hc, hrest⟩ := List.cons.inj h
      rw [List.map_cons, List.map_cons, hfg d checked hc, ih hrest]

theorem forall₂_of_checks {β : Type} {R : Checked → β → Prop} {S : Decision → β → Prop}
    {batch : List Checked} {bs : List β}
    (hRS : ∀ d checked b, catalog.check view d = .ok checked → R checked b → S d b)
    (h : decisions.map (catalog.check view) = batch.map .ok) (hR : List.Forall₂ R batch bs) :
    List.Forall₂ S decisions bs := by
  induction hR generalizing decisions with
  | nil =>
    rw [List.map_eq_nil_iff.1 h]
    exact .nil
  | cons hhead htail ih =>
    cases decisions with
    | nil => cases h
    | cons d ds =>
      obtain ⟨hc, hrest⟩ := List.cons.inj h
      exact .cons (hRS _ _ _ hc hhead) (ih hrest)

/-- Leaving out decisions of a batch leaves out their results. -/
theorem filter_of_checks {p : Decision → Bool} {q : Checked → Bool} {batch : List Checked}
    (hpq : ∀ d checked, catalog.check view d = .ok checked → p d = q checked)
    (h : decisions.map (catalog.check view) = batch.map .ok) :
    (decisions.filter p).map (catalog.check view) = (batch.filter q).map .ok := by
  induction decisions generalizing batch with
  | nil =>
    rw [List.map_eq_nil_iff.1 h.symm]
    rfl
  | cons d ds ih =>
    cases batch with
    | nil => cases h
    | cons checked batch =>
      obtain ⟨hc, hrest⟩ := List.cons.inj h
      rw [List.filter_cons, List.filter_cons, hpq d checked hc]
      split
      · rw [List.map_cons, List.map_cons, hc, ih hrest]
      · exact ih hrest

/-- Every result of a batch is the result of one of its decisions. -/
theorem exists_check_of_mem {batch : List Checked} {checked : Checked}
    (h : decisions.map (catalog.check view) = batch.map .ok) (hmem : checked ∈ batch) :
    ∃ decision ∈ decisions, catalog.check view decision = .ok checked := by
  have hok : Except.ok checked ∈ decisions.map (catalog.check view) :=
    h ▸ List.mem_map_of_mem hmem
  exact List.mem_map.1 hok

/-- Every decision of a batch has its result among the results of the batch. -/
theorem exists_checked_of_mem {batch : List Checked}
    (h : decisions.map (catalog.check view) = batch.map .ok) (hmem : decision ∈ decisions) :
    ∃ checked ∈ batch, catalog.check view decision = .ok checked := by
  have hok : catalog.check view decision ∈ batch.map Except.ok := h ▸ List.mem_map_of_mem hmem
  obtain ⟨checked, hchecked, heq⟩ := List.mem_map.1 hok
  exact ⟨checked, hchecked, heq.symm⟩

theorem map_item_id_of_checks {batch : List Checked}
    (h : decisions.map (catalog.check view) = batch.map .ok) :
    batch.map (·.item.id) = decisions.map Decision.id :=
  map_of_checks (fun _ _ => id_of_check) h

/-! ## §4 Reference data -/

/-- What a catalog holds besides goods, line items, linked pairs and audit records. -/
structure Reference where
  prefixes : Register Prefix
  subjects : Register Subject
  controlListEntries : Register ControlListEntry
  regimeEntries : Register RegimeEntry
  cases : Register CaseRecord
  reviewers : List ReviewerId

/-- The part of a catalog that no decision changes. -/
def reference (catalog : Catalog) : Reference where
  prefixes := catalog.prefixes
  subjects := catalog.subjects
  controlListEntries := catalog.controlListEntries
  regimeEntries := catalog.regimeEntries
  cases := catalog.cases
  reviewers := catalog.reviewers

theorem pair_congr (h : catalog.reference = other.reference) : catalog.pair = other.pair := by
  have hsub : catalog.subjects = other.subjects := congrArg Reference.subjects h
  have hpre : catalog.prefixes = other.prefixes := congrArg Reference.prefixes h
  funext ref
  simp only [pair, subject, hsub]
  congr 1
  funext s
  cases ref.pre <;> simp only [lead, hpre]

theorem plan_congr (h : catalog.reference = other.reference) : catalog.plan = other.plan := by
  have hpair := pair_congr h
  have hlead : catalog.lead = other.lead := by
    have hpre : catalog.prefixes = other.prefixes := congrArg Reference.prefixes h
    funext pre
    cases pre <;> simp only [lead, hpre]
  funext decision
  simp only [plan, unknownParts, knownPairs, hpair]
  cases decision.subject <;> simp only [planPair, hpair, hlead]

theorem check_congr (href : catalog.reference = other.reference)
    (hitem : catalog.lineItem? decision.id = other.lineItem? decision.id) :
    catalog.check view decision = other.check view decision := by
  have hratings : catalog.controlListEntries = other.controlListEntries :=
    congrArg Reference.controlListEntries href
  have hregimes : catalog.regimeEntries = other.regimeEntries :=
    congrArg Reference.regimeEntries href
  have hline : catalog.lineOfCase? view decision.id = other.lineOfCase? view decision.id := by
    simp only [lineOfCase?, hitem]
  simp only [check, faults, lineFaults, ratingFaults, regimeFaults, summaryFaults, hline,
    hratings, hregimes, plan_congr href]

theorem mayReview_congr (href : catalog.reference = other.reference) :
    catalog.mayReview = other.mayReview := by
  have hreviewers : catalog.reviewers = other.reviewers := congrArg Reference.reviewers href
  funext reviewer
  simp only [mayReview, hreviewers]

end Catalog

end ExportControl
