/-
ExportControl.Proofs.UnusedDescriptions — descriptions that make no difference.

A decision may carry more to describe the product by than what counts: free text next
to a pair or a list of pairs, and anything at all where the product is not controlled.
Two batches that differ there only are compared decision by decision; what they have
in common at each of them, the plan above all, carries over to the whole.

  §1 Decisions — `SameButText`, `SameButDescription`: what two batches may differ in;
                 `SameEffect`: what it comes to.
  §2 Carrying out — `applyLine_congr`, `applyAll_of_checks`: decisions of the same
                 effect do the same to every catalog.
  §3 Batches   — `review_of_sameButText`, `review_of_sameButDescription`.
  §4 Desks     — `unused_descriptions_make_no_difference`.
-/
import ExportControl.Proofs.Composition

namespace ExportControl

/-! ## §1 Decisions -/

namespace Decision

/-- Decisions that differ at most in their free text, and in that only where a pair, a part of one
or a list of pairs is given. -/
inductive SameButText : Decision → Decision → Prop
  | refl (decision : Decision) : SameButText decision decision
  | text (decision : Decision) (text : Option String)
      (given : decision.pre ≠ none ∨ decision.subject ≠ none ∨ decision.pairs ≠ []) :
      SameButText decision { decision with reportSummary := text }

/-- Decisions that differ at most in how they describe the product, and in that only where they do
not say that it is controlled. -/
inductive SameButDescription : Decision → Decision → Prop
  | refl (decision : Decision) : SameButDescription decision decision
  | description (decision : Decision) (text : Option String) (pre : Option PrefixId)
      (subject : Option SubjectId) (pairs : List PairRef)
      (uncontrolled : decision.controlled ≠ some true) :
      SameButDescription decision { decision with reportSummary := text, pre, subject, pairs }

end Decision

namespace Catalog

variable {catalog : Catalog} {view : CaseView} {one other : Decision}
  {decisions others : List Decision} {sitting : Sitting}

/-- Decisions that differ at most in how they describe the product, and that are planned alike if
the product is controlled. -/
structure SameEffect (catalog : Catalog) (one other : Decision) : Prop where
  rest : other = { one with
    reportSummary := other.reportSummary
    pre := other.pre
    subject := other.subject
    pairs := other.pairs }
  plan : one.isControlled = true → catalog.plan one = catalog.plan other

theorem SameEffect.isControlled (h : catalog.SameEffect one other) :
    other.isControlled = one.isControlled := by
  rw [h.rest]
  rfl

/-- Free text is not read where a pair, a part of one or a list of pairs is given. -/
theorem plan_of_sameButText (catalog : Catalog) (h : one.SameButText other) :
    catalog.plan one = catalog.plan other := by
  cases h with
  | refl => rfl
  | text text given =>
    unfold plan
    by_cases hpairs : one.pairs = []
    · have hgives : one.givesPair = true := by
        unfold Decision.givesPair
        rcases given with hpre | hsubject | hlist
        · simp [Option.isSome_iff_ne_none.2 hpre]
        · simp [Option.isSome_iff_ne_none.2 hsubject]
        · exact absurd hpairs hlist
      have hgives' : Decision.givesPair { one with reportSummary := text } = true := hgives
      rw [if_neg (not_not_intro hpairs), if_neg (not_not_intro hpairs), if_pos hgives,
        if_pos hgives']
    · rw [if_pos hpairs, if_pos hpairs]
      rfl

theorem sameEffect_of_sameButText (catalog : Catalog) (h : one.SameButText other) :
    catalog.SameEffect one other where
  rest := by cases h <;> rfl
  plan := fun _ => plan_of_sameButText catalog h

theorem sameEffect_of_sameButDescription (h : one.SameButDescription other) :
    catalog.SameEffect one other := by
  cases h with
  | refl => exact ⟨rfl, fun _ => rfl⟩
  | description text pre subject pairs uncontrolled =>
    refine ⟨rfl, ?_⟩
    intro hcontrolled
    exact absurd (of_decide_eq_true hcontrolled) uncontrolled

/-- Such decisions are right or wrong alike. -/
theorem faults_of_sameButText (h : one.SameButText other) :
    catalog.faults view one = catalog.faults view other := by
  have heffect := sameEffect_of_sameButText catalog h
  have hsummary : catalog.summaryFaults one = catalog.summaryFaults other := by
    unfold summaryFaults
    rw [plan_of_sameButText catalog h, heffect.isControlled]
  unfold faults
  rw [hsummary, heffect.rest]

/-! ## §2 Carrying out -/

/-- Carrying out a decision reads nothing of its description but the plan, and that only where the
product is controlled. -/
theorem applyLine_congr {checked checked' : Checked}
    (h : catalog.SameEffect checked.decision checked'.decision)
    (hitem : checked.item = checked'.item) (hregimes : checked.regimes = checked'.regimes)
    (hplan : checked.decision.isControlled = true → checked.plan = checked'.plan)
    (sitting : Sitting) (before : Catalog) :
    before.applyLine sitting checked = before.applyLine sitting checked' := by
  have hclassify : before.classify checked = before.classify checked' := by
    unfold classify
    rw [h.isControlled]
    by_cases hcontrolled : checked.decision.isControlled = true
    · rw [if_pos hcontrolled, if_pos hcontrolled, hplan hcontrolled]
    · rw [if_neg hcontrolled, if_neg hcontrolled]
  have hrevised : ∀ description,
      checked.revised description sitting = checked'.revised description sitting := by
    intro description
    unfold Checked.revised
    rw [hitem, hregimes, h.rest]
  unfold applyLine
  simp only [hclassify, hrevised, hitem, hregimes]

theorem applyLine_of_check {checked checked' : Checked} (h : catalog.SameEffect one other)
    (hone : catalog.check view one = .ok checked) (hother : catalog.check view other = .ok checked')
    (sitting : Sitting) (before : Catalog) :
    before.applyLine sitting checked = before.applyLine sitting checked' := by
  obtain ⟨-, rfl, hitem, hplan, hregimes⟩ := check_eq_ok_iff.1 hone
  obtain ⟨-, rfl, hitem', hplan', hregimes'⟩ := check_eq_ok_iff.1 hother
  refine applyLine_congr h ?_ ?_ ?_ sitting before
  · rw [h.rest, hitem] at hitem'
    exact Option.some.inj hitem'
  · rw [hregimes, hregimes', h.rest]
  · intro hcontrolled
    rw [← h.plan hcontrolled, hplan] at hplan'
    exact Except.ok.inj hplan'

theorem applyAll_congr {batch batch' : List Checked}
    (h : List.Forall₂ (fun checked checked' => ∀ before : Catalog,
      before.applyLine sitting checked = before.applyLine sitting checked') batch batch')
    (before : Catalog) : applyAll sitting before batch = applyAll sitting before batch' := by
  induction h generalizing before with
  | nil => rfl
  | cons hfirst _ ih =>
    rw [applyAll_cons, applyAll_cons, hfirst before]
    simp only [ih]

/-- Where two batches both pass, what holds decision by decision holds result by result. -/
theorem forall₂_checked_of_checks {R : Decision → Decision → Prop} {S : Checked → Checked → Prop}
    {batch batch' : List Checked}
    (hRS : ∀ one other checked checked', R one other → catalog.check view one = .ok checked →
      catalog.check view other = .ok checked' → S checked checked')
    (hchecks : decisions.map (catalog.check view) = batch.map .ok)
    (hchecks' : others.map (catalog.check view) = batch'.map .ok)
    (h : List.Forall₂ R decisions others) : List.Forall₂ S batch batch' := by
  induction h generalizing batch batch' with
  | nil =>
    rw [List.map_eq_nil_iff.1 hchecks.symm, List.map_eq_nil_iff.1 hchecks'.symm]
    exact .nil
  | cons hhead _ ih =>
    obtain ⟨checked, rest, rfl, hone, hrest⟩ := List.map_eq_cons_iff.1 hchecks.symm
    obtain ⟨checked', rest', rfl, hother, hrest'⟩ := List.map_eq_cons_iff.1 hchecks'.symm
    exact .cons (hRS _ _ _ _ hhead hone.symm hother.symm) (ih hrest.symm hrest'.symm)

/-- Batches of the same effect that both pass their checks do the same to every catalog. -/
theorem applyAll_of_checks {batch batch' : List Checked}
    (h : List.Forall₂ catalog.SameEffect decisions others)
    (hchecks : decisions.map (catalog.check view) = batch.map .ok)
    (hchecks' : others.map (catalog.check view) = batch'.map .ok)
    (sitting : Sitting) (before : Catalog) :
    applyAll sitting before batch = applyAll sitting before batch' := by
  refine applyAll_congr (forall₂_checked_of_checks ?_ hchecks hchecks' h) before
  intro one other checked checked' hsame hone hother
  exact applyLine_of_check hsame hone hother sitting

/-! ## §3 Batches -/

theorem map_eq_map_of_forall₂ {α β : Type} {R : α → α → Prop} {f : α → β} {as bs : List α}
    (hf : ∀ a b, R a b → f a = f b) (h : List.Forall₂ R as bs) : as.map f = bs.map f := by
  have hmap : List.Forall₂ Eq (as.map f) (bs.map f) := List.rel_map hf h
  rwa [List.forall₂_eq_eq_eq] at hmap

/-- Batches of decisions with the same faults pass their checks together, or they are refused with
the same errors. -/
theorem checkAll_of_faults {R : Decision → Decision → Prop} (catalog : Catalog) (view : CaseView)
    (hfaults : ∀ one other, R one other → catalog.faults view one = catalog.faults view other)
    (h : List.Forall₂ R decisions others) :
    match catalog.checkAll view decisions with
    | .ok _ => ∃ batch, catalog.checkAll view others = .ok batch
    | .error errors => catalog.checkAll view others = .error errors := by
  have herrors : decisions.map (catalog.lineErrors view)
      = others.map (catalog.lineErrors view) := by
    refine map_eq_map_of_forall₂ (fun one other hR => ?_) h
    rw [lineErrors_eq, lineErrors_eq, hfaults one other hR]
  simp only [checkAll, herrors]
  by_cases hany : (others.map (catalog.lineErrors view)).any (!·.isEmpty) = true
  · rw [if_pos hany, if_pos hany]
  · rw [if_neg hany, if_neg hany]
    exact ⟨_, rfl⟩

section Review

variable {after after' : Catalog} {id : CaseId} {reviewer : ReviewerId} {now : Instant}
  {receipt receipt' : Receipt}

/-- Free text that does not count makes no difference, whether the batch is accepted or refused. -/
theorem review_of_sameButText (h : List.Forall₂ Decision.SameButText decisions others) :
    catalog.review id reviewer decisions now = catalog.review id reviewer others now := by
  have hids : decisions.map Decision.id = others.map Decision.id := by
    refine map_eq_map_of_forall₂ (fun one other hsame => ?_) h
    cases hsame <;> rfl
  unfold review
  cases catalog.caseView? id with
  | none => rfl
  | some view =>
    have hchecks := checkAll_of_faults catalog view (fun _ _ => faults_of_sameButText) h
    simp only [hids, h.length_eq]
    cases hone : catalog.checkAll view decisions with
    | error errors =>
      rw [hone] at hchecks
      simp only [hchecks]
    | ok batch =>
      rw [hone] at hchecks
      obtain ⟨batch', hother⟩ := hchecks
      have happly := applyAll_of_checks (h.imp fun _ _ => sameEffect_of_sameButText catalog)
        (checkAll_eq_ok_iff.1 hone) (checkAll_eq_ok_iff.1 hother) ⟨view, reviewer, now⟩ catalog
      simp only [hother, happly]

/-- Descriptions of products that are not controlled make no difference to accepted batches. -/
theorem review_of_sameButDescription
    (h : List.Forall₂ Decision.SameButDescription decisions others)
    (hone : catalog.review id reviewer decisions now = .ok (after, receipt))
    (hother : catalog.review id reviewer others now = .ok (after', receipt')) :
    after = after' ∧ receipt = receipt' := by
  obtain ⟨view, batch, count, hview, -, -, hchecks, happly, rfl⟩ := review_eq_ok_iff.1 hone
  obtain ⟨view', batch', count', hview', -, -, hchecks', happly', rfl⟩ := review_eq_ok_iff.1 hother
  obtain rfl : view = view' := by simpa [hview] using hview'
  have hsame := applyAll_of_checks (h.imp fun _ _ => sameEffect_of_sameButDescription) hchecks
    hchecks' ⟨view, reviewer, now⟩ catalog
  rw [happly, happly', Except.ok.injEq, Prod.mk.injEq] at hsame
  obtain ⟨rfl, rfl⟩ := hsame
  exact ⟨rfl, by rw [h.length_eq]⟩

end Review

end Catalog

/-! ## §4 Desks -/

namespace Desk

variable {id : CaseId} {reviewer : ReviewerId} {decisions others : List Decision} {now : Instant}

/-- What comes of a batch at a desk depends on what comes of it on catalogs. -/
theorem assess_congr (desk : Desk)
    (h : ∀ catalog : Catalog,
      catalog.review id reviewer decisions now = catalog.review id reviewer others now) :
    desk.assess id reviewer decisions now = desk.assess id reviewer others now := by
  unfold assess review
  simp only [h]

/-- **Unused descriptions make no difference.** Free text next to a pair, a part of one or a list of
pairs changes nothing: the batch comes out the same, accepted or refused, and leaves the same
desk. And where a product is not said to be controlled, nothing that would describe it changes
what an accepted batch leaves and what its receipt says. -/
theorem unused_descriptions_make_no_difference (desk : Desk) (id : CaseId) (reviewer : ReviewerId)
    (now : Instant) (decisions others : List Decision) :
    (List.Forall₂ Decision.SameButText decisions others →
      desk.assess id reviewer decisions now = desk.assess id reviewer others now) ∧
    (List.Forall₂ Decision.SameButDescription decisions others →
      ∀ after after' receipt receipt',
        desk.assess id reviewer decisions now = (after, .ok receipt) →
        desk.assess id reviewer others now = (after', .ok receipt') →
        after = after' ∧ receipt = receipt') := by
  constructor
  · intro h
    exact desk.assess_congr fun _ => Catalog.review_of_sameButText h
  · intro h after after' receipt receipt' hone hother
    obtain ⟨-, catalog, reviewed, haccess, hreview, rfl⟩ := assess_eq_ok_iff.1 hone
    obtain ⟨-, catalog', reviewed', haccess', hreview', rfl⟩ := assess_eq_ok_iff.1 hother
    cases haccess.symm.trans haccess'
    obtain ⟨rfl, rfl⟩ := Catalog.review_of_sameButDescription h hreview hreview'
    exact ⟨rfl, rfl⟩

/-- Free text next to a pair, and a pair for a product that is not controlled. -/
theorem shared_good_ignores_descriptions :
    let worded := { rate ⟨"line-1"⟩ "ML2" with reportSummary := some "Scope" }
    let cleared := { Decision.blank ⟨"line-2"⟩ with controlled := some false }
    let described := { cleared with subject := some ⟨7⟩ }
    sharedGood.rateAt [worded, cleared] = sharedGood.rateAt [rate ⟨"line-1"⟩ "ML2", cleared] ∧
      sharedGood.rateAt [worded, described] = sharedGood.rateAt [worded, cleared] := by
  intro worded cleared described
  have htext := (unused_descriptions_make_no_difference sharedGood ⟨"case-1"⟩ ⟨"officer"⟩
    ⟨2024, 5, 1, 36000, 0⟩ [rate ⟨"line-1"⟩ "ML2", cleared] [worded, cleared]).1
    (.cons (.text _ (some "Scope") (by decide)) (.cons (.refl cleared) .nil))
  have hdescription := (unused_descriptions_make_no_difference sharedGood ⟨"case-1"⟩ ⟨"officer"⟩
    ⟨2024, 5, 1, 36000, 0⟩ [worded, cleared] [worded, described]).2
    (.cons (.refl worded) (.cons (.description cleared none none (some ⟨7⟩) [] (by decide)) .nil))
    _ _ _ _ rfl rfl
  exact ⟨htext.symm, Prod.ext hdescription.1.symm rfl⟩

end Desk

end ExportControl
