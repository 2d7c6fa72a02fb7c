/-
ExportControl.Proofs.CarryingOut — what carrying out a batch does to a catalog.

Everything is derived from one inversion of `applyLine`: `Carried` says, part by
part, how the catalog before a decision and the catalog after it are related.

  §1 Line items    — saving puts a line item in place of the first one of its
                     identifier and moves nothing.
  §2 One decision  — `applyLine_spec`: `Carried`, or why the decision broke off.
  §3 Frames        — `Carried.frame`: what no decision changes.
  §4 Whole batches — `CarriedAll`, the decisions of a batch one after the other;
                     a batch that is `Ready` stays so while it is carried out.
-/
import ExportControl.Proofs.Linking

namespace ExportControl

/-- What no assessment changes about a line item. -/
def LineItem.outline (item : LineItem) : LineItemId × CaseId × Product :=
  (item.id, item.caseId, item.product)

theorem LineItem.caseId_of_outline {item other : LineItem} (h : item.outline = other.outline) :
    item.caseId = other.caseId :=
  congrArg (fun outline => outline.2.1) h

theorem LineItem.product_of_outline {item other : LineItem} (h : item.outline = other.outline) :
    item.product = other.product :=
  congrArg (fun outline => outline.2.2) h

/-- A line item that has not been assessed. -/
def LineItem.unassessed (id : LineItemId) (caseId : CaseId) (product : Product) : LineItem where
  id
  caseId
  product
  controlListEntries := []
  controlled := none
  classification := none
  regimeEntries := []
  comment := none
  isPrecedent := false
  isWassenaar := false
  informationSecurity := none
  assessedBy := none
  assessedAt := none

theorem Good.id_reviewed (good : Good) (item : LineItem) : (good.reviewed item).id = good.id := by
  simp only [Good.reviewed, Good.mergeEntries]
  split <;> rfl

namespace Catalog

/-! ## §1 Line items -/

/-- A saved line item takes the place of the first one of its identifier. -/
theorem replaceFirst_split {item old : LineItem} {items : List LineItem}
    (h : items.find? (fun other => other.id = item.id) = some old) :
    ∃ earlier later, items = earlier ++ old :: later ∧ old.id = item.id ∧
      (∀ other ∈ earlier, other.id ≠ item.id) ∧
      replaceFirst item items = earlier ++ item :: later := by
  induction items with
  | nil => cases h
  | cons other rest ih =>
    by_cases hid : other.id = item.id
    · rw [List.find?_cons_of_pos (by simpa using hid)] at h
      cases h
      exact ⟨[], rest, rfl, hid, by simp, by rw [replaceFirst, if_pos hid]; rfl⟩
    · rw [List.find?_cons_of_neg (by simpa using hid)] at h
      obtain ⟨earlier, later, rfl, hold, hearlier, hreplaced⟩ := ih h
      refine ⟨other :: earlier, later, rfl, hold, List.forall_mem_cons.2 ⟨hid, hearlier⟩, ?_⟩
      rw [replaceFirst, if_neg hid, hreplaced]
      rfl

theorem find?_replaceFirst (item : LineItem) (items : List LineItem) (id : LineItemId) :
    (replaceFirst item items).find? (fun other => other.id = id) =
      if item.id = id then some item else items.find? fun other => other.id = id := by
  induction items with
  | nil => by_cases h : item.id = id <;> simp [replaceFirst, h]
  | cons other rest ih =>
    rw [replaceFirst]
    by_cases hid : other.id = item.id
    · rw [if_pos hid]
      by_cases h : item.id = id <;> simp [h, hid]
    · rw [if_neg hid]
      by_cases ho : other.id = id
      · have hne : item.id ≠ id := fun h => hid (ho.trans h.symm)
        simp [ho, hne]
      · simp [ho, ih]

/-- The outlines of the line items, in the order of the applications. -/
def outlines (catalog : Catalog) : List (LineItemId × CaseId × Product) :=
  catalog.lineItems.map LineItem.outline

theorem map_outline_replaceFirst (item : LineItem) {old : LineItem} {items : List LineItem}
    (h : items.find? (fun other => other.id = item.id) = some old)
    (hsame : item.outline = old.outline) :
    (replaceFirst item items).map LineItem.outline = items.map LineItem.outline := by
  obtain ⟨earlier, later, rfl, -, -, hreplaced⟩ := replaceFirst_split h
  rw [hreplaced]
  simp [hsame]

theorem linesOf_eq (catalog : Catalog) (id : CaseId) :
    catalog.linesOf id = (catalog.outlines.filter fun o => o.2.1 = id).map Prod.fst := by
  rw [linesOf, outlines, List.filter_map, List.map_map]
  rfl

theorem linesOf_congr {catalog other : Catalog} (h : catalog.outlines = other.outlines)
    (id : CaseId) : catalog.linesOf id = other.linesOf id := by
  rw [linesOf_eq, linesOf_eq, h]

/-! ## §2 One decision -/

/-- The goods once a reviewed line item is folded into its good, and the name of the product. -/
def reviewGoods (goods : Register Good) (item : LineItem) :
    Except StoreError (Register Good × String) :=
  match item.product with
  | .good id =>
    match goods.find? id with
    | some good => .ok (goods.put (good.reviewed item), good.name)
    | none => .error (.notFound "good" id.text)
  | .goodsType description => .ok (goods, description)

theorem reviewProduct_eq (catalog : Catalog) (item : LineItem) :
    catalog.reviewProduct item =
      (reviewGoods catalog.goods item).map fun reviewed =>
        ({ catalog with goods := reviewed.1 }, reviewed.2) := by
  rw [reviewProduct, reviewGoods]
  cases item.product with
  | goodsType description => rfl
  | good id =>
    simp only [requireGood]
    cases catalog.goods.find? id <;> rfl

/-- The good that a line item points at, if the catalog does not have it. -/
def missingGood? (catalog : Catalog) (item : LineItem) : Option GoodId :=
  item.goodId?.filter fun id => !catalog.goods.has id

/-- Folding a review into a good fails only where there is no such good, and changes that good
alone. -/
theorem reviewGoods_spec (catalog : Catalog) (item : LineItem) :
    match reviewGoods catalog.goods item with
    | .ok (goods, _) =>
      catalog.missingGood? item = none ∧
        ∀ id, goods.find? id = (catalog.goods.find? id).map fun good =>
          if item.goodId? = some id then good.reviewed item else good
    | .error e => ∃ id, catalog.missingGood? item = some id ∧ e = .notFound "good" id.text := by
  rw [reviewGoods, missingGood?, LineItem.goodId?]
  cases item.product with
  | goodsType description => exact ⟨rfl, fun id => by simp⟩
  | good id =>
    simp only
    cases hfind : catalog.goods.find? id with
    | none => exact ⟨id, by simp [Option.filter, Register.has, hfind], rfl⟩
    | some good =>
      have hkey : Keyed.key (good.reviewed item) = id :=
        (Good.id_reviewed good item).trans (Register.key_of_find? hfind)
      refine ⟨by simp [Option.filter, Register.has, hfind], fun other => ?_⟩
      rw [Register.find?_put, hkey]
      by_cases hother : id = other
      · subst hother
        simp [hfind]
      · simp [hother]

/-- The record of a change, if there is one to record; `count` records stand before it. -/
def changeRecord (count : Nat) (sitting : Sitting) (productName : String) (item : LineItem)
    (before after : Snapshot) : Option AuditRecord :=
  if before.differs after then
    some
      { actor := sitting.reviewer
        target := item.id
        caseId := sitting.view.id
        review := Review.ofChange ((sitting.view.lineNumber? item.id).getD 0) productName
          item.comment item.isPrecedent before after
        createdAt := sitting.now
        number := count + 1 }
  else none

theorem recordChange_eq (catalog : Catalog) (sitting : Sitting) (productName : String)
    (item : LineItem) (before after : Snapshot) :
    catalog.recordChange sitting productName item before after =
      ({ catalog with
          audits := catalog.audits ++
            (changeRecord catalog.audits.length sitting productName item before after).toList },
        (changeRecord catalog.audits.length sitting productName item before after).isSome) := by
  rw [recordChange, changeRecord]
  split
  · rfl
  · simp

/-- The reviewed values that a decision finds. -/
def oldSnapshot (catalog : Catalog) (checked : Checked) : Snapshot :=
  checked.item.snapshot (checked.item.regimeEntries.map catalog.regimeName)

/-- The record that a decision leaves, if its line item is described by `description` and its
product goes by `name`. -/
def recordOf (catalog : Catalog) (sitting : Sitting) (checked : Checked)
    (description : Option Classification) (name : String) : Option AuditRecord :=
  let item := checked.revised description sitting
  changeRecord catalog.audits.length sitting name item (catalog.oldSnapshot checked)
    (item.snapshot (checked.regimes.map RegimeEntry.name))

variable {catalog before mid after : Catalog} {sitting : Sitting} {checked : Checked}

/-- How a decision takes one catalog to another: `description` is what the line item is described
by from then on, and `name` is the name of its product. -/
structure Carried (sitting : Sitting) (checked : Checked) (before after : Catalog)
    (audited : Bool) (description : Option Classification) (name : String) : Prop where
  reference : after.reference = before.reference
  described : ∃ linked, before.classify checked = .ok (linked, description) ∧
    linked.summaries = after.summaries
  reviewed : reviewGoods before.goods (checked.revised description sitting)
    = .ok (after.goods, name)
  recorded : after.audits
    = before.audits ++ (before.recordOf sitting checked description name).toList
  counted : audited = (before.recordOf sitting checked description name).isSome
  saved : after.lineItems = replaceFirst (checked.revised description sitting) before.lineItems

/-- A decision is carried out, or it breaks off: the identifiers of linked pairs are used up, or
the good that its line item points at is missing. -/
theorem applyLine_spec (catalog : Catalog) (sitting : Sitting) (checked : Checked) :
    match catalog.applyLine sitting checked with
    | .ok (after, audited) =>
      ∃ description name, Carried sitting checked catalog after audited description name
    | .error e =>
      (∃ x, catalog.classify checked = .error x ∧ e = .exhausted x) ∨
        ∃ good, catalog.missingGood? checked.item = some good ∧
          e = .store (.notFound "good" good.text) := by
  rw [applyLine]
  cases hc : catalog.classify checked with
  | error x => exact .inl ⟨x, rfl, rfl⟩
  | ok result =>
    obtain ⟨linked, description⟩ := result
    have hclassify := classify_spec catalog checked []
    rw [hc] at hclassify
    obtain ⟨hlinked, -⟩ := hclassify
    simp only [reviewProduct_eq]
    rw [hlinked]
    have hgoods := reviewGoods_spec catalog (checked.revised description sitting)
    cases hr : reviewGoods catalog.goods (checked.revised description sitting) with
    | error cause =>
      rw [hr] at hgoods
      obtain ⟨good, hmissing, rfl⟩ := hgoods
      exact .inr ⟨good, hmissing, rfl⟩
    | ok result =>
      obtain ⟨goods, name⟩ := result
      simp only [Except.map, recordChange_eq]
      exact ⟨description, name, rfl, ⟨linked, hc, rfl⟩, hr, rfl, rfl, rfl⟩

/-! ## §3 Frames -/

/-- What no decision changes: the reference data, the outlines of all line items and their order,
which goods there are, and the linked pairs and audit records so far. -/
structure Frame (before after : Catalog) : Prop where
  reference : after.reference = before.reference
  outlines : after.outlines = before.outlines
  goods : ∀ id, after.goods.has id = before.goods.has id
  summaries : before.summaries.rows <+: after.summaries.rows
  audits : before.audits <+: after.audits

theorem Frame.refl (catalog : Catalog) : Frame catalog catalog :=
  ⟨rfl, rfl, fun _ => rfl, List.prefix_refl _, List.prefix_refl _⟩

theorem Frame.trans (h : Frame before mid) (h' : Frame mid after) : Frame before after :=
  ⟨h'.reference.trans h.reference, h'.outlines.trans h.outlines,
    fun id => (h'.goods id).trans (h.goods id), h.summaries.trans h'.summaries,
    h.audits.trans h'.audits⟩

theorem Frame.caseView? (h : Frame before after) (id : CaseId) :
    after.caseView? id = before.caseView? id := by
  have hcases : after.cases = before.cases := congrArg Reference.cases h.reference
  rw [Catalog.caseView?, Catalog.caseView?, linesOf_congr h.outlines, hcases]

theorem Frame.missingGood? (h : Frame before after) (item : LineItem) :
    after.missingGood? item = before.missingGood? item := by
  simp only [Catalog.missingGood?, h.goods]

section Carried

variable {audited : Bool} {description : Option Classification} {name : String}

theorem Carried.missingGood? (h : Carried sitting checked before after audited description name) :
    before.missingGood? checked.item = none := by
  have hspec := reviewGoods_spec before (checked.revised description sitting)
  rw [h.reviewed] at hspec
  exact hspec.1

/-- The product is described by rows that the table holds from then on. -/
theorem Carried.describes (h : Carried sitting checked before after audited description name) :
    before.summaries.rows <+: after.summaries.rows ∧
      ∃ rows, rows ⊆ after.summaries.rows ∧ rows.map Summary.pair = checked.keys ∧
        description = checked.describe rows := by
  obtain ⟨linked, hclassify, hsummaries⟩ := h.described
  rw [← hsummaries]
  exact rows_of_classify before hclassify

/-- The good that the line item points at is reviewed, and all others stay. -/
theorem Carried.find?_goods (h : Carried sitting checked before after audited description name)
    (id : GoodId) :
    after.goods.find? id = (before.goods.find? id).map fun good =>
      if checked.item.goodId? = some id then good.reviewed (checked.revised description sitting)
      else good := by
  have hspec := reviewGoods_spec before (checked.revised description sitting)
  rw [h.reviewed] at hspec
  exact hspec.2 id

/-- A decision on a line item as the catalog holds it changes nothing else that a later decision
reads. -/
theorem Carried.frame (h : Carried sitting checked before after audited description name)
    (hloaded : before.lineItem? checked.item.id = some checked.item) : Frame before after where
  reference := h.reference
  outlines := by
    rw [outlines, h.saved]
    exact map_outline_replaceFirst (checked.revised description sitting) hloaded rfl
  goods := by
    intro id
    rw [Register.has, Register.has, h.find?_goods, Option.isSome_map]
  summaries := h.describes.1
  audits := by
    rw [h.recorded]
    exact List.prefix_append _ _

theorem Carried.lineItem? (h : Carried sitting checked before after audited description name)
    (id : LineItemId) :
    after.lineItem? id =
      if checked.item.id = id then some (checked.revised description sitting)
      else before.lineItem? id := by
  rw [Catalog.lineItem?, h.saved, find?_replaceFirst]
  rfl

end Carried

/-! ## §4 Whole batches -/

/-- Decisions carried out one after the other; the number counts the changes recorded. -/
inductive CarriedAll (sitting : Sitting) : Catalog → List Checked → Catalog → Nat → Prop where
  | nil (catalog : Catalog) : CarriedAll sitting catalog [] catalog 0
  | cons {before mid after : Catalog} {checked : Checked} {batch : List Checked} {audited : Bool}
      {description : Option Classification} {name : String} {count : Nat}
      (first : Carried sitting checked before mid audited description name)
      (rest : CarriedAll sitting mid batch after count) :
      CarriedAll sitting before (checked :: batch) after (count + audited.toNat)

variable {batch : List Checked} {count : Nat}

theorem applyAll_cons (catalog : Catalog) (sitting : Sitting) (checked : Checked)
    (batch : List Checked) :
    applyAll sitting catalog (checked :: batch) =
      match catalog.applyLine sitting checked with
      | .error e => .error e
      | .ok (mid, audited) =>
        (applyAll sitting mid batch).map fun done => (done.1, done.2 + audited.toNat) := by
  rw [applyAll]
  cases catalog.applyLine sitting checked with
  | error e => rfl
  | ok first =>
    obtain ⟨mid, audited⟩ := first
    cases hr : applyAll sitting mid batch <;> simp only [hr] <;> rfl

theorem applyAll_cons_eq_ok_iff :
    applyAll sitting catalog (checked :: batch) = .ok (after, count) ↔
      ∃ mid audited n, catalog.applyLine sitting checked = .ok (mid, audited) ∧
        applyAll sitting mid batch = .ok (after, n) ∧ count = n + audited.toNat := by
  rw [applyAll_cons]
  cases catalog.applyLine sitting checked with
  | error e => simp
  | ok first =>
    obtain ⟨mid, audited⟩ := first
    simp only [Except.ok.injEq, Prod.mk.injEq]
    cases hr : applyAll sitting mid batch with
    | error e =>
      constructor
      · intro h
        cases h
      · rintro ⟨_, _, n, ⟨rfl, rfl⟩, h, rfl⟩
        rw [hr] at h
        cases h
    | ok rest =>
      constructor
      · intro h
        cases h
        exact ⟨mid, audited, rest.2, ⟨rfl, rfl⟩, hr, rfl⟩
      · rintro ⟨_, _, n, ⟨rfl, rfl⟩, h, rfl⟩
        rw [hr] at h
        cases h
        rfl

theorem carriedAll_of_applyAll (h : applyAll sitting catalog batch = .ok (after, count)) :
    CarriedAll sitting catalog batch after count := by
  induction batch generalizing catalog count with
  | nil =>
    cases h
    exact .nil _
  | cons checked batch ih =>
    obtain ⟨mid, audited, n, hfirst, hrest, rfl⟩ := applyAll_cons_eq_ok_iff.1 h
    have hspec := applyLine_spec catalog sitting checked
    rw [hfirst] at hspec
    obtain ⟨description, name, hcarried⟩ := hspec
    exact .cons hcarried (ih hrest)

/-- A batch is ready where its line items are all different and the catalog holds each of them as
it was read. -/
structure Ready (catalog : Catalog) (batch : List Checked) : Prop where
  distinct : (batch.map (·.item.id)).Nodup
  loaded : ∀ checked ∈ batch, catalog.lineItem? checked.item.id = some checked.item

theorem Ready.of_checks {view : CaseView} {decisions : List Decision}
    (hdistinct : (decisions.map Decision.id).Nodup)
    (hchecks : decisions.map (catalog.check view) = batch.map .ok) : Ready catalog batch := by
  refine ⟨by rwa [map_item_id_of_checks hchecks], fun checked hmem => ?_⟩
  obtain ⟨decision, -, hcheck⟩ := exists_check_of_mem hchecks hmem
  rw [id_of_check hcheck]
  exact lineItem?_of_check hcheck

section Ready

variable {audited : Bool} {description : Option Classification} {name : String}

/-- The rest of a batch is still ready once its first decision is carried out. -/
theorem Ready.tail (h : Ready before (checked :: batch))
    (hfirst : Carried sitting checked before mid audited description name) :
    Ready mid batch := by
  obtain ⟨hnot, hnodup⟩ := List.nodup_cons.1 h.distinct
  refine ⟨hnodup, fun other hmem => ?_⟩
  have hne : checked.item.id ≠ other.item.id :=
    fun heq => hnot (List.mem_map.2 ⟨other, hmem, heq.symm⟩)
  rw [hfirst.lineItem?, if_neg hne]
  exact h.loaded other (List.mem_cons_of_mem _ hmem)

theorem Ready.frame_head (h : Ready before (checked :: batch))
    (hfirst : Carried sitting checked before mid audited description name) : Frame before mid :=
  hfirst.frame (h.loaded checked (by simp))

end Ready

theorem CarriedAll.frame (h : CarriedAll sitting before batch after count)
    (hready : Ready before batch) : Frame before after := by
  induction h with
  | nil catalog => exact .refl catalog
  | cons first rest ih => exact (hready.frame_head first).trans (ih (hready.tail first))

/-- A batch leaves the line items that it does not name. -/
theorem CarriedAll.lineItem?_of_not_mem (h : CarriedAll sitting before batch after count)
    {id : LineItemId} (hid : id ∉ batch.map (·.item.id)) :
    after.lineItem? id = before.lineItem? id := by
  induction h with
  | nil catalog => rfl
  | cons first rest ih =>
    simp only [List.map_cons, List.mem_cons, not_or] at hid
    rw [ih hid.2, first.lineItem?, if_neg (Ne.symm hid.1)]

end Catalog

end ExportControl
