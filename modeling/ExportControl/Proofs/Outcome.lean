/-
ExportControl.Proofs.Outcome — how a batch comes out.

A batch is refused for the first reason that holds, and then nothing has changed;
otherwise all of it is carried out. Every reason can be told from the catalog as it
was before the batch, even that a good is missing, which shows only while the
batch is carried out.

  §1 Refusals     — `Desk.refusal?`: the first reason to refuse a batch.
  §2 Results      — `Applied`: what is left of a batch that is carried out.
  §3 Breaking off — `applyAll_spec`: why a batch that was checked breaks off.
  §4 Carrying out — `CarriedAll.applied`: a batch that does not has been applied.
  §5 Outcomes     — `review_spec`: the outcome on a catalog; `assess_outcome`: the
                    outcome at a desk.
-/
import ExportControl.Proofs.Acceptance

namespace ExportControl

/-! ## §1 Refusals -/

/-- The good that the first line of a batch points at without the catalog having it. -/
def Catalog.missing? (catalog : Catalog) (decisions : List Decision) : Option GoodId :=
  decisions.findSome? fun decision => (catalog.lineItem? decision.id).bind catalog.missingGood?

/-- The first reason to refuse a batch of a reviewer who has been let in. -/
def Catalog.refusal? (catalog : Catalog) (id : CaseId) (decisions : List Decision) :
    Option AssessError :=
  match catalog.caseView? id with
  | none => some (.caseNotFound id)
  | some view =>
    if view.status.isTerminal then some (.terminalCase id view.status)
    else if (decisions.map Decision.id).Nodup then
      if ∀ decision ∈ decisions, catalog.faults view decision = [] then
        (catalog.missing? decisions).map fun good => .store (.notFound "good" good.text)
      else
        some (.invalidLines (decisions.map fun decision =>
          .ofFaults (catalog.faults view decision)))
    else some (.duplicateIds (repeatedIds (decisions.map Decision.id)))

/-- The first reason to refuse a batch. -/
def Desk.refusal? (desk : Desk) (id : CaseId) (reviewer : ReviewerId) (decisions : List Decision) :
    Option AssessError :=
  match desk.mayReview reviewer, desk.store.access with
  | .error cause, _ => some (.store cause)
  | .ok false, _ => some (.forbidden reviewer)
  | .ok true, .error cause => some (.store cause)
  | .ok true, .ok catalog => catalog.refusal? id decisions

/-! ## §2 Results -/

/-- A line item as a decision leaves it, with the rows of the pairs that the decision links. -/
def LineItem.assessed (item : LineItem) (decision : Decision) (rows : List Summary)
    (reviewer : ReviewerId) (now : Instant) : LineItem :=
  { item with
    controlListEntries := distinctEntries decision.controlListEntries
    controlled := decision.controlled
    classification := decision.describe rows
    regimeEntries := decision.regimeEntries
    comment := decision.comment
    isPrecedent := decision.isPrecedent
    isWassenaar := decision.isWassenaar
    informationSecurity := decision.informationSecurity
    assessedBy := some reviewer
    assessedAt := some now }

namespace Catalog

/-- Goods before and after line items are folded into them, in order. -/
def FoldsInto (items : List LineItem) (before after : Register Good) : Prop :=
  ∀ id, after.find? id = (before.find? id).map fun good =>
    (items.filter fun item => item.goodId? = some id).foldl Good.reviewed good

/-- A decision has become part of a catalog: its pairs are linked there, and `item` is what its
line item became. -/
def Assessed (before after : Catalog) (reviewer : ReviewerId) (now : Instant) (decision : Decision)
    (item : LineItem) : Prop :=
  ∃ old rows, before.lineItem? decision.id = some old ∧ rows ⊆ after.summaries.rows ∧
    rows.map Summary.pair = decision.keys ∧ item = old.assessed decision rows reviewer now ∧
    after.lineItem? decision.id = some item

/-- A batch has become part of a catalog: `items` are what its line items became, one for each
decision, and `records` are the changes recorded. -/
structure Applied (before after : Catalog) (reviewer : ReviewerId) (now : Instant)
    (decisions : List Decision) (items : List LineItem) (records : List AuditRecord) : Prop where
  lines : List.Forall₂ (Assessed before after reviewer now) decisions items
  goods : FoldsInto items before.goods after.goods
  audits : after.audits = before.audits ++ records

variable {catalog before after : Catalog} {sitting : Sitting} {view : CaseView}
  {batch : List Checked} {decisions : List Decision} {count : Nat}

/-! ## §3 Breaking off -/

/-- A batch that is ready breaks off at the first line whose good is missing, unless the
identifiers of linked pairs are used up before. -/
theorem applyAll_spec (sitting : Sitting) (hready : Ready catalog batch) :
    match applyAll sitting catalog batch with
    | .ok _ => batch.findSome? (fun checked => catalog.missingGood? checked.item) = none
    | .error (.exhausted _) =>
      UInt32.size ≤ catalog.summaries.demand (batch.flatMap Checked.keys)
    | .error e =>
      ∃ good, batch.findSome? (fun checked => catalog.missingGood? checked.item) = some good ∧
        e = .store (.notFound "good" good.text) := by
  induction batch generalizing catalog with
  | nil => rfl
  | cons checked batch ih =>
    have hclassify := classify_spec catalog checked (batch.flatMap Checked.keys)
    have hline := applyLine_spec catalog sitting checked
    rw [applyAll_cons]
    cases happly : catalog.applyLine sitting checked with
    | error e =>
      rw [happly] at hline
      rcases hline with ⟨x, hx, rfl⟩ | ⟨good, hmissing, rfl⟩
      · rw [hx] at hclassify
        exact hclassify
      · exact ⟨good, by rw [List.findSome?_cons, hmissing], rfl⟩
    | ok first =>
      obtain ⟨mid, audited⟩ := first
      rw [happly] at hline
      obtain ⟨description, name, hfirst⟩ := hline
      -- The rest is carried out on another catalog, but its goods and the identifiers that it
      -- needs can be told from the first one.
      have hframe : Frame catalog mid := hready.frame_head hfirst
      have hmissing : mid.missingGood? = catalog.missingGood? := funext hframe.missingGood?
      have hdemand : mid.summaries.demand (batch.flatMap Checked.keys)
          = catalog.summaries.demand ((checked :: batch).flatMap Checked.keys) := by
        obtain ⟨linked, hlinked, hsummaries⟩ := hfirst.described
        rw [hlinked] at hclassify
        rw [← hsummaries]
        exact hclassify.2
      have hrest := ih (hready.tail hfirst)
      rw [hmissing, hdemand] at hrest
      simp only [List.findSome?_cons, hfirst.missingGood?]
      cases hr : applyAll sitting mid batch with
      | ok done =>
        rw [hr] at hrest
        exact hrest
      | error e =>
        rw [hr] at hrest
        cases e <;> exact hrest

/-! ## §4 Carrying out -/

theorem FoldsInto.cons {mid reviewed : Register Good} {item : LineItem} {items : List LineItem}
    {name : String} (h : reviewGoods catalog.goods item = .ok (mid, name))
    (hrest : FoldsInto items mid reviewed) : FoldsInto (item :: items) catalog.goods reviewed := by
  intro id
  have hspec := reviewGoods_spec catalog item
  rw [h] at hspec
  rw [hrest id, hspec.2 id, Option.map_map]
  congr 1
  funext good
  by_cases hid : item.goodId? = some id <;> simp [hid]

/-- A checked decision has become part of a catalog: its pairs are linked there, and `item` is
what its line item became. -/
def Revises (sitting : Sitting) (after : Catalog) (checked : Checked) (item : LineItem) : Prop :=
  ∃ rows, rows ⊆ after.summaries.rows ∧ rows.map Summary.pair = checked.keys ∧
    item = checked.revised (checked.describe rows) sitting ∧
    after.lineItem? checked.item.id = some item

theorem CarriedAll.revises (h : CarriedAll sitting before batch after count)
    (hready : Ready before batch) :
    ∃ items records, List.Forall₂ (Revises sitting after) batch items ∧
      FoldsInto items before.goods after.goods ∧
      after.audits = before.audits ++ records ∧ records.length = count := by
  induction h with
  | nil catalog => exact ⟨[], [], .nil, fun id => by simp, by simp, rfl⟩
  | @cons before mid after checked batch audited description name count first rest ih =>
    have htail := hready.tail first
    obtain ⟨items, records, hitems, hgoods, haudits, hcount⟩ := ih htail
    obtain ⟨-, rows, hrows, hpairs, rfl⟩ := first.describes
    have hsaved : after.lineItem? checked.item.id
        = some (checked.revised (checked.describe rows) sitting) := by
      rw [rest.lineItem?_of_not_mem (List.nodup_cons.1 hready.distinct).1, first.lineItem?,
        if_pos rfl]
    -- Later decisions only add rows, so the ones linked here are still there at the end.
    have hlinked : rows ⊆ after.summaries.rows :=
      List.Subset.trans hrows (rest.frame htail).summaries.subset
    refine ⟨_ :: items,
      (before.recordOf sitting checked (checked.describe rows) name).toList ++ records,
      .cons ⟨rows, hlinked, hpairs, rfl, hsaved⟩ hitems, .cons first.reviewed hgoods, ?_, ?_⟩
    · rw [haudits, first.recorded, List.append_assoc]
    · rw [List.length_append, hcount, first.counted, Option.length_toList, Nat.add_comm]
      cases before.recordOf sitting checked (checked.describe rows) name <;> rfl

theorem assessed_of_revises {decision : Decision} {checked : Checked} {item : LineItem}
    (hcheck : before.check view decision = .ok checked) (h : Revises sitting after checked item) :
    Assessed before after sitting.reviewer sitting.now decision item := by
  obtain ⟨rows, hrows, hpairs, rfl, hsaved⟩ := h
  refine ⟨checked.item, rows, lineItem?_of_check hcheck, hrows, ?_, ?_, ?_⟩
  · rw [hpairs, keys_of_check hcheck]
  · obtain ⟨-, hdecision, -⟩ := check_eq_ok_iff.1 hcheck
    rw [LineItem.assessed, Checked.revised, describe_of_check hcheck,
      map_id_regimes_of_check hcheck, hdecision]
  · rw [← id_of_check hcheck, hsaved]

theorem CarriedAll.applied (h : CarriedAll sitting before batch after count)
    (hdistinct : (decisions.map Decision.id).Nodup)
    (hchecks : decisions.map (before.check view) = batch.map .ok) :
    ∃ items records,
      Applied before after sitting.reviewer sitting.now decisions items records ∧
        records.length = count := by
  obtain ⟨items, records, hitems, hgoods, haudits, hcount⟩ :=
    h.revises (.of_checks hdistinct hchecks)
  refine ⟨items, records, ⟨?_, hgoods, haudits⟩, hcount⟩
  exact forall₂_of_checks (fun _ _ _ => assessed_of_revises) hchecks hitems

/-! ## §5 Outcomes -/

theorem findSome?_missingGood_of_checks
    (hchecks : decisions.map (catalog.check view) = batch.map .ok) :
    batch.findSome? (fun checked => catalog.missingGood? checked.item)
      = catalog.missing? decisions := by
  have hmap : batch.map (fun checked => catalog.missingGood? checked.item)
      = decisions.map fun d => (catalog.lineItem? d.id).bind catalog.missingGood? := by
    refine map_of_checks (fun d checked hcheck => ?_) hchecks
    rw [lineItem?_of_check hcheck, Option.bind_some]
  have hid := congrArg (List.findSome? id) hmap
  rwa [List.findSome?_map, List.findSome?_map] at hid

theorem flatMap_keys_of_checks (hchecks : decisions.map (catalog.check view) = batch.map .ok) :
    batch.flatMap Checked.keys = decisions.flatMap Decision.keys := by
  rw [List.flatMap_def, List.flatMap_def, map_of_checks (fun _ _ => keys_of_check) hchecks]

/-- The outcome of carrying out a batch that has passed its checks. -/
theorem applyAll_spec_of_checks (reviewer : ReviewerId) (now : Instant)
    (hdistinct : (decisions.map Decision.id).Nodup)
    (hchecks : decisions.map (catalog.check view) = batch.map .ok) :
    match applyAll { view, reviewer, now } catalog batch with
    | .ok (after, count) =>
      catalog.missing? decisions = none ∧
        ∃ items records, Applied catalog after reviewer now decisions items records ∧
          records.length = count
    | .error (.exhausted _) =>
      UInt32.size ≤ catalog.summaries.demand (decisions.flatMap Decision.keys)
    | .error e =>
      ∃ good, catalog.missing? decisions = some good ∧
        e = .store (.notFound "good" good.text) := by
  have hspec := applyAll_spec { view, reviewer, now } (.of_checks hdistinct hchecks)
  rw [findSome?_missingGood_of_checks hchecks, flatMap_keys_of_checks hchecks] at hspec
  cases happly : applyAll { view, reviewer, now } catalog batch with
  | ok done =>
    rw [happly] at hspec
    exact ⟨hspec, (carriedAll_of_applyAll happly).applied hdistinct hchecks⟩
  | error e =>
    rw [happly] at hspec
    cases e <;> exact hspec

theorem review_spec (catalog : Catalog) (id : CaseId) (reviewer : ReviewerId)
    (decisions : List Decision) (now : Instant) :
    match catalog.review id reviewer decisions now with
    | .ok (after, receipt) =>
      catalog.refusal? id decisions = none ∧
        ∃ items records, Applied catalog after reviewer now decisions items records ∧
          receipt = { caseId := id, updated := decisions.length, audited := records.length }
    | .error (.exhausted _) =>
      UInt32.size ≤ catalog.summaries.demand (decisions.flatMap Decision.keys)
    | .error e => catalog.refusal? id decisions = some e := by
  rw [review, refusal?]
  cases hview : catalog.caseView? id with
  | none => rfl
  | some view =>
    simp only
    rw [id_of_caseView? hview]
    by_cases hterm : view.status.isTerminal = true
    · rw [if_pos hterm, if_pos hterm]
    · rw [if_neg hterm, if_neg hterm]
      by_cases hdistinct : (decisions.map Decision.id).Nodup
      · rw [if_pos hdistinct, if_neg (not_not_intro (repeatedIds_eq_nil_iff.2 hdistinct))]
        cases hall : catalog.checkAll view decisions with
        | error errors =>
          obtain ⟨rfl, d, hd, hne⟩ := checkAll_eq_error_iff.1 hall
          have hwrong : ¬ ∀ decision ∈ decisions, catalog.faults view decision = [] :=
            fun h => hne (h d hd)
          have herrors : catalog.lineErrors view
              = fun decision => .ofFaults (catalog.faults view decision) :=
            funext fun _ => lineErrors_eq
          rw [if_neg hwrong, herrors]
        | ok batch =>
          have hchecks := checkAll_eq_ok_iff.1 hall
          have hspec := applyAll_spec_of_checks reviewer now hdistinct hchecks
          rw [if_pos (faults_of_checks hchecks)]
          cases happly : applyAll { view, reviewer, now } catalog batch with
          | ok done =>
            rw [happly] at hspec
            obtain ⟨hnone, items, records, happlied, hcount⟩ := hspec
            simp only [happly, Except.map, hnone, ← hcount]
            exact ⟨rfl, items, records, happlied, rfl⟩
          | error e =>
            rw [happly] at hspec
            simp only [happly, Except.map]
            cases e with
            | exhausted x => exact hspec
            | store cause =>
              obtain ⟨good, hgood, heq⟩ := hspec
              cases heq
              rw [hgood]
              rfl
            | _ =>
              obtain ⟨good, -, heq⟩ := hspec
              cases heq
      · rw [if_neg hdistinct, if_pos (mt repeatedIds_eq_nil_iff.1 hdistinct)]

/-- A batch is applied where there is no reason to refuse it and the identifiers for its pairs
suffice. -/
theorem exists_review_of_refusal? {id : CaseId} (hnone : catalog.refusal? id decisions = none)
    (hroom : catalog.summaries.demand (decisions.flatMap Decision.keys) < UInt32.size)
    (reviewer : ReviewerId) (now : Instant) :
    ∃ after receipt items records,
      catalog.review id reviewer decisions now = .ok (after, receipt) ∧
        Applied catalog after reviewer now decisions items records := by
  have hspec := catalog.review_spec id reviewer decisions now
  cases hreview : catalog.review id reviewer decisions now with
  | ok done =>
    obtain ⟨after, receipt⟩ := done
    rw [hreview] at hspec
    obtain ⟨-, items, records, happlied, -⟩ := hspec
    exact ⟨after, receipt, items, records, rfl, happlied⟩
  | error e =>
    rw [hreview] at hspec
    cases e with
    | exhausted x => exact absurd hroom (Nat.not_lt.2 hspec)
    | _ =>
      rw [hnone] at hspec
      cases hspec

end Catalog

/-- **Outcome of a batch.** A batch is refused for the first reason that holds, and then the desk is
as it was; where no reason holds, the whole batch is applied, and the receipt counts its lines
and the changes recorded. The one thing that can come between is that the identifiers for linked
pairs do not suffice for all that the batch names: then the store is out of use from then on. -/
theorem Desk.assess_outcome (desk : Desk) (id : CaseId) (reviewer : ReviewerId)
    (decisions : List Decision) (now : Instant) :
    match desk.assess id reviewer decisions now with
    | (after, .ok receipt) =>
      desk.refusal? id reviewer decisions = none ∧
        ∃ catalog reviewed items records, desk.store.access = .ok catalog ∧
          catalog.Applied reviewed reviewer now decisions items records ∧
          after = desk.withCatalog reviewed ∧
          receipt = { caseId := id, updated := decisions.length, audited := records.length }
    | (after, .error (.exhausted _)) =>
      after = { desk with store := desk.store.breakOff } ∧
        ∃ catalog, desk.store.access = .ok catalog ∧
          UInt32.size ≤ catalog.summaries.demand (decisions.flatMap Decision.keys)
    | (after, .error e) => desk.refusal? id reviewer decisions = some e ∧ after = desk := by
  rw [assess, refusal?]
  cases desk.mayReview reviewer with
  | error cause => exact ⟨rfl, rfl⟩
  | ok permitted =>
    cases permitted with
    | false => exact ⟨rfl, rfl⟩
    | true =>
      simp only [review]
      cases haccess : desk.store.access with
      | error cause => exact ⟨rfl, rfl⟩
      | ok catalog =>
        have hspec := catalog.review_spec id reviewer decisions now
        simp only
        cases hreview : catalog.review id reviewer decisions now with
        | ok done =>
          obtain ⟨reviewed, receipt⟩ := done
          rw [hreview] at hspec
          obtain ⟨hnone, items, records, happlied, hreceipt⟩ := hspec
          exact ⟨hnone, catalog, reviewed, items, records, rfl, happlied, rfl, hreceipt⟩
        | error e =>
          rw [hreview] at hspec
          cases e with
          | exhausted x => exact ⟨rfl, catalog, rfl, hspec⟩
          | _ => exact ⟨hspec, rfl⟩

end ExportControl
