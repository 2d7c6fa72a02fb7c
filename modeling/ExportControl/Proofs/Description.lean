/-
ExportControl.Proofs.Description — controlled products are described.

Once a line item has been assessed, it is described exactly where it is controlled,
and so is the good that it points at; and the description says something.

  §1 Descriptions — `Fits`, `Sound`; `sound_of_passed`: whatever a decision that has
                    passed its check describes a product by is sound.
  §2 Line items   — `Settled`: a line item and its good are described soundly;
                    `History.settled`: so are those of every decision from then on.
  §3 Catalogs     — `Every`: all line items and goods of a catalog are described in some
                    way; `History.every`: sound descriptions break no such rule.
  §4 Desks        — `controlled_iff_described`.
-/
import ExportControl.Proofs.Composition
import ExportControl.Proofs.Runs

namespace ExportControl

/-! ## §1 Descriptions -/

namespace Classification

/-- The description says something. -/
def Substantial : Classification → Prop
  | .legacy text => Text.isBlankText text = false
  | .single _ => True
  | .multiple rows => rows ≠ []

/-- There is a description exactly where the product is known to be controlled. -/
def Fits (controlled : Option Bool) (description : Option Classification) : Prop :=
  description.isSome = true ↔ controlled = some true

instance (controlled : Option Bool) (description : Option Classification) :
    Decidable (Fits controlled description) :=
  inferInstanceAs (Decidable (description.isSome = true ↔ controlled = some true))

/-- The description fits, and it says something. -/
structure Sound (controlled : Option Bool) (description : Option Classification) : Prop where
  fits : Fits controlled description
  substantial : ∀ classification ∈ description, classification.Substantial

end Classification

/-- The plan is to say something. -/
def Plan.Substantial : Plan → Prop
  | .unclassified => False
  | .legacy text => Text.isBlankText text = false
  | .single _ => True
  | .multiple pairs => pairs ≠ []

/-- A plan that says something is carried out by a description that does: there is one row for each
of its pairs. -/
theorem Plan.describe_of_substantial {plan : Plan} {rows : List Summary} (h : plan.Substantial)
    (hrows : rows.length = plan.pairs.length) :
    ∃ classification, plan.describe rows = some classification ∧ classification.Substantial := by
  cases plan with
  | unclassified => exact h.elim
  | legacy text => exact ⟨.legacy text, rfl, h⟩
  | single pair =>
    obtain ⟨row, rfl⟩ := List.length_eq_one_iff.1 hrows
    exact ⟨.single row, rfl, trivial⟩
  | multiple pairs =>
    refine ⟨.multiple rows, rfl, fun hnil => h ?_⟩
    rw [hnil] at hrows
    exact List.length_eq_zero_iff.1 hrows.symm

namespace Catalog

open Classification (Sound)

variable {catalog before mid after : Catalog} {sitting : Sitting} {checked : Checked}
  {batch : List Checked}

/-- A plan says something unless it says nothing at all. -/
theorem substantial_of_plan {decision : Decision} {plan : Plan}
    (h : catalog.plan decision = .ok plan) (hne : plan ≠ .unclassified) : plan.Substantial := by
  rcases plan_eq_ok_cases h with ⟨hpairs, hparts, rfl⟩ | ⟨-, subject, pair, -, -, rfl⟩ |
    ⟨-, -, -, rfl⟩ | ⟨-, -, -, rfl⟩
  · intro hnil
    have hkeys := map_key_knownPairs hparts
    rw [hnil, List.map_nil] at hkeys
    exact hpairs (List.map_eq_nil_iff.1 hkeys.symm)
  · trivial
  · exact absurd rfl hne
  · cases htext : decision.reportSummary with
    | none =>
      rw [htext] at hne
      exact absurd rfl hne
    | some text =>
      rw [htext, planText] at hne
      rw [planText]
      split
      · rename_i hblank
        exact absurd (if_pos hblank) hne
      · rename_i hblank
        exact Bool.eq_false_iff.2 hblank

/-- A controlled product never passes undescribed, and a description is only ever given to a
controlled product. -/
theorem sound_of_passed (hpassed : checked.Passed) {rows : List Summary}
    (hrows : rows.map Summary.pair = checked.keys) :
    Sound checked.decision.controlled (checked.describe rows) := by
  obtain ⟨catalog, view, hcheck⟩ := hpassed
  obtain ⟨hfaults, -, -, hplan, -⟩ := check_eq_ok_iff.1 hcheck
  obtain ⟨-, -, -, plan, hplan', hne⟩ := faults_eq_nil_iff.1 hfaults
  obtain rfl : checked.plan = plan := Except.ok.inj (hplan.symm.trans hplan')
  rw [Checked.describe]
  -- That a controlled product is described is due to the check alone, that no other one is to the
  -- way in which decisions are carried out.
  by_cases hcontrolled : checked.decision.isControlled = true
  · have hlength : rows.length = checked.plan.pairs.length := by
      have hlength := congrArg List.length hrows
      rwa [Checked.keys, Checked.pairs, if_pos hcontrolled, List.length_map, List.length_map]
        at hlength
    obtain ⟨classification, hdescribe, hsubstantial⟩ :=
      Plan.describe_of_substantial (substantial_of_plan hplan (hne hcontrolled)) hlength
    rw [if_pos hcontrolled, hdescribe]
    have hknown : checked.decision.controlled = some true := of_decide_eq_true hcontrolled
    exact ⟨iff_of_true rfl hknown, by simpa using hsubstantial⟩
  · rw [if_neg hcontrolled]
    have hunknown : checked.decision.controlled ≠ some true :=
      fun h => hcontrolled (decide_eq_true h)
    exact ⟨iff_of_false Bool.false_ne_true hunknown, by simp⟩

/-! ## §2 Line items -/

/-- A line item and the good that it points at are described soundly. -/
def Settled (catalog : Catalog) (line : LineItemId) : Prop :=
  ∃ item, catalog.lineItem? line = some item ∧ Sound item.controlled item.classification ∧
    ∀ id, item.goodId? = some id →
      ∃ good, catalog.goods.find? id = some good ∧ Sound good.controlled good.classification

section Carried

variable {audited : Bool} {description : Option Classification} {name : String}

theorem Carried.sound (h : Carried sitting checked before after audited description name)
    (hpassed : checked.Passed) : Sound checked.decision.controlled description := by
  obtain ⟨-, rows, -, hrows, rfl⟩ := h.describes
  exact sound_of_passed hpassed hrows

theorem Carried.settled (h : Carried sitting checked before after audited description name)
    (hpassed : checked.Passed) : after.Settled checked.item.id := by
  refine ⟨checked.revised description sitting, ?_, h.sound hpassed, fun id hid => ?_⟩
  · rw [h.lineItem?, if_pos rfl]
  · have hid : checked.item.goodId? = some id := hid
    have hmissing := h.missingGood?
    rw [Catalog.missingGood?, hid] at hmissing
    have hne : before.goods.find? id ≠ none := by
      simpa [Option.filter, Register.has] using hmissing
    obtain ⟨good, hgood⟩ := Option.ne_none_iff_exists'.1 hne
    refine ⟨good.reviewed (checked.revised description sitting), ?_, h.sound hpassed⟩
    rw [h.find?_goods, hgood, Option.map_some, if_pos hid]

/-- Later decisions, on this line item, on this good or on others, keep it so. -/
theorem Carried.settled_of_settled
    (h : Carried sitting checked before after audited description name) (hpassed : checked.Passed)
    {line : LineItemId} (hline : before.Settled line) : after.Settled line := by
  by_cases hid : checked.item.id = line
  · rw [← hid]
    exact h.settled hpassed
  · obtain ⟨item, hitem, hsound, hgoods⟩ := hline
    refine ⟨item, by rw [h.lineItem?, if_neg hid, hitem], hsound, fun id hitemGood => ?_⟩
    obtain ⟨good, hgood, hsoundGood⟩ := hgoods id hitemGood
    refine ⟨_, by rw [h.find?_goods, hgood, Option.map_some], ?_⟩
    split
    · exact h.sound hpassed
    · exact hsoundGood

end Carried

theorem History.settled_of_settled (h : History before batch after) {line : LineItemId}
    (hline : before.Settled line) : after.Settled line := by
  induction h with
  | nil catalog => exact hline
  | decision passed _ first _ ih => exact ih (first.settled_of_settled passed hline)
  | move record _ _ ih => exact ih hline

/-- The line items of all decisions are settled in the end. -/
theorem History.settled (h : History before batch after) :
    ∀ checked ∈ batch, after.Settled checked.item.id := by
  induction h with
  | nil catalog => simp
  | decision passed _ first rest ih =>
    exact List.forall_mem_cons.2 ⟨rest.settled_of_settled (first.settled passed), ih⟩
  | move record _ _ ih => exact ih

theorem settled_of_review {id : CaseId} {reviewer : ReviewerId} {decisions : List Decision}
    {now : Instant} {receipt : Receipt}
    (h : before.review id reviewer decisions now = .ok (after, receipt)) :
    ∀ decision ∈ decisions, after.Settled decision.id := by
  obtain ⟨batch, hhistory, hids, -⟩ := history_of_review h
  intro decision hmem
  have hid : decision.id ∈ batch.map (·.item.id) := by
    rw [hids]
    exact List.mem_map_of_mem hmem
  obtain ⟨checked, hchecked, hid⟩ := List.mem_map.1 hid
  rw [← hid]
  exact hhistory.settled checked hchecked

/-! ## §3 Catalogs -/

/-- All line items and all goods keep a rule on how controlled products are described. -/
structure Every (rule : Option Bool → Option Classification → Prop) (catalog : Catalog) :
    Prop where
  lines : ∀ item ∈ catalog.lineItems, rule item.controlled item.classification
  goods : ∀ id good, catalog.goods.find? id = some good → rule good.controlled good.classification

theorem mem_of_mem_replaceFirst {item other : LineItem} {items : List LineItem}
    (h : other ∈ replaceFirst item items) : other = item ∨ other ∈ items := by
  induction items with
  | nil => exact .inl (List.mem_singleton.1 h)
  | cons head rest ih =>
    rw [replaceFirst] at h
    split at h
    · exact (List.mem_cons.1 h).imp_right (List.mem_cons_of_mem head)
    · rcases List.mem_cons.1 h with rfl | hrest
      · exact .inr List.mem_cons_self
      · exact (ih hrest).imp_right (List.mem_cons_of_mem head)

variable {rule : Option Bool → Option Classification → Prop}

theorem Every.carried {audited : Bool} {description : Option Classification} {name : String}
    (hbefore : before.Every rule)
    (h : Carried sitting checked before after audited description name)
    (hrule : rule checked.decision.controlled description) : after.Every rule where
  lines := by
    intro item hitem
    rw [h.saved] at hitem
    rcases mem_of_mem_replaceFirst hitem with rfl | hitem
    · exact hrule
    · exact hbefore.lines item hitem
  goods := by
    intro id good hgood
    rw [h.find?_goods] at hgood
    obtain ⟨old, hold, rfl⟩ := Option.map_eq_some_iff.1 hgood
    split
    · exact hrule
    · exact hbefore.goods id old hold

/-- A rule that sound descriptions keep is kept. -/
theorem History.every (hrule : ∀ controlled description, Sound controlled description →
      rule controlled description) (h : History before batch after)
    (hbefore : before.Every rule) : after.Every rule := by
  induction h with
  | nil catalog => exact hbefore
  | decision passed _ first _ ih => exact ih (hbefore.carried first (hrule _ _ (first.sound passed)))
  | move record _ _ ih => exact ih ⟨hbefore.lines, hbefore.goods⟩

end Catalog

/-! ## §4 Desks -/

namespace Desk

open Classification (Fits Sound)

/-- **Controlled products are described.** Once a batch is accepted, each of its line items and the
good that it points at are described exactly where they are controlled, and the description
says something; and so they are for the rest of a run. Where all line items and goods of a
catalog are described exactly where they are controlled, they are so after every run. -/
theorem controlled_iff_described (desk : Desk) :
    (∀ id reviewer decisions now after receipt,
      desk.assess id reviewer decisions now = (after, .ok receipt) →
        ∀ decision ∈ decisions, after.store.catalog.Settled decision.id) ∧
    ∀ events,
      (∀ line ∈ desk.acceptedLines events, (desk.run events).store.catalog.Settled line.2.id) ∧
      (desk.store.catalog.Every Fits → (desk.run events).store.catalog.Every Fits) ∧
      (desk.store.catalog.Every Sound → (desk.run events).store.catalog.Every Sound) := by
  refine ⟨fun _ _ _ _ _ _ h => Catalog.settled_of_review (review_of_assess h), fun events => ?_⟩
  obtain ⟨batch, hhistory, hlines⟩ := desk.history_run events
  refine ⟨fun line hline => ?_, hhistory.every fun _ _ h => h.fits, hhistory.every fun _ _ h => h⟩
  rw [← hlines] at hline
  obtain ⟨checked, hchecked, rfl⟩ := List.mem_map.1 hline
  exact hhistory.settled checked hchecked

/-- One line item is not controlled, the other is; their good ends up as the last one says. -/
theorem shared_good_is_described :
    let after := (sharedGood.rateAt [.blank ⟨"line-1"⟩, rate ⟨"line-2"⟩ "ML2"]).1.store.catalog
    after.Settled ⟨"line-1"⟩ ∧ after.Settled ⟨"line-2"⟩ ∧ after.Every Fits := by
  obtain ⟨hbatch, hrun⟩ := controlled_iff_described sharedGood
  have hsettled := hbatch ⟨"case-1"⟩ ⟨"officer"⟩ [.blank ⟨"line-1"⟩, rate ⟨"line-2"⟩ "ML2"]
    { year := 2024, month := 5, day := 1, second := 36000, nano := 0 }
    (sharedGood.rateAt [.blank ⟨"line-1"⟩, rate ⟨"line-2"⟩ "ML2"]).1
    { caseId := ⟨"case-1"⟩, updated := 2, audited := 1 } rfl
  have hfits : sharedGood.store.catalog.Every Fits := by
    have hgoods : ∀ good ∈ sharedGood.store.catalog.goods.entries,
        Fits good.controlled good.classification := by decide
    exact ⟨by decide, fun _ good hgood => hgoods good (Register.mem_of_find? hgood)⟩
  refine ⟨hsettled (.blank ⟨"line-1"⟩) (by simp), hsettled (rate ⟨"line-2"⟩ "ML2") (by simp), ?_⟩
  exact (hrun [.assess ⟨"case-1"⟩ ⟨"officer"⟩ [.blank ⟨"line-1"⟩, rate ⟨"line-2"⟩ "ML2"]
    { year := 2024, month := 5, day := 1, second := 36000, nano := 0 }]).2.1 hfits

end Desk

end ExportControl
