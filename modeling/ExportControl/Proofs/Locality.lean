/-
ExportControl.Proofs.Locality — where an accepted batch leaves its mark.

A decision saves a line item and a good, links pairs and records a change. Saving
puts a record in place of the one that it replaces, but behind all others where there
is none, so it takes the checks of the batch, carried along while it is carried out,
to see that no line item or good is ever added or moved.

  §1 Places    — `place?`: where the line item of an identifier stands;
                 `replaceFirst_eq_set`: saving writes just there.
  §2 Histories — `History.getElem?_lineItems`, `History.find?_goods_of_not_reviewed`:
                 what is left alone.
  §3 Batches   — `TouchesOnly`; `touchesOnly_of_review`: how far a batch reaches.
  §4 Desks     — `batches_keep_to_their_lines`.
-/
import ExportControl.Proofs.Effects
import ExportControl.Proofs.SharedGoods

namespace ExportControl

namespace Catalog

variable {catalog before after : Catalog} {batch : List Checked} {checked : Checked}
  {line : LineItemId} {item : LineItem} {place : Nat}

/-! ## §1 Places -/

/-- The place of the line item that an identifier stands for: the first one that has it. -/
def place? (catalog : Catalog) (line : LineItemId) : Option Nat :=
  catalog.lineItems.findIdx? fun item => item.id = line

/-- Places can be told from the outlines. -/
theorem place?_congr (h : after.outlines = before.outlines) : after.place? = before.place? := by
  have houtlines : ∀ (catalog : Catalog) (line : LineItemId),
      catalog.place? line = catalog.outlines.findIdx? fun outline => outline.1 = line := by
    intro catalog line
    rw [place?, outlines, List.findIdx?_map]
    rfl
  funext line
  rw [houtlines, houtlines, h]

theorem exists_place (h : catalog.lineItem? line = some item) :
    ∃ place, catalog.place? line = some place := by
  have hmem : item ∈ catalog.lineItems := List.mem_of_find?_eq_some h
  have hany : catalog.lineItems.any (fun item => item.id = line) = true :=
    List.any_eq_true.2 ⟨item, hmem, decide_eq_true (id_of_lineItem? h)⟩
  rw [← Option.isSome_iff_exists]
  simpa [place?, List.findIdx?_isSome] using hany

/-- A line item that is there already is saved in its place. -/
theorem replaceFirst_eq_set {items : List LineItem}
    (h : items.findIdx? (fun other => other.id = item.id) = some place) :
    replaceFirst item items = items.set place item := by
  induction items generalizing place with
  | nil => cases h
  | cons other rest ih =>
    rw [List.findIdx?_cons] at h
    unfold replaceFirst
    by_cases hid : other.id = item.id
    · rw [if_pos (decide_eq_true hid)] at h
      cases h
      rw [if_pos hid, List.set_cons_zero]
    · rw [if_neg (by simpa using hid)] at h
      obtain ⟨place, hplace, rfl⟩ := Option.map_eq_some_iff.1 h
      rw [if_neg hid, ih hplace, List.set_cons_succ]

/-! ## §2 Histories -/

/-- A decision writes in the place of its line item and nowhere else. -/
theorem Carried.getElem?_lineItems {sitting : Sitting} {audited : Bool}
    {description : Option Classification} {name : String}
    (h : Carried sitting checked before after audited description name)
    (hloaded : before.lineItem? checked.item.id = some checked.item)
    (hplace : before.place? checked.item.id ≠ some place) :
    after.lineItems[place]? = before.lineItems[place]? := by
  obtain ⟨own, hown⟩ := exists_place hloaded
  have hsaved : after.lineItems
      = before.lineItems.set own (checked.revised description sitting) := by
    rw [h.saved]
    exact replaceFirst_eq_set hown
  have hne : own ≠ place := by
    rintro rfl
    exact hplace hown
  rw [hsaved, List.getElem?_set_ne hne]

/-- Decisions write in the places of their line items, which stay the same all the while. -/
theorem History.getElem?_lineItems (h : History before batch after)
    (hplace : ∀ checked ∈ batch, before.place? checked.item.id ≠ some place) :
    after.lineItems[place]? = before.lineItems[place]? := by
  induction h with
  | nil catalog => rfl
  | @decision before mid _ _ _ _ _ _ _ _ loaded first _ ih =>
    obtain ⟨hhead, htail⟩ := List.forall_mem_cons.1 hplace
    have hsame : mid.place? = before.place? := place?_congr (first.frame loaded).outlines
    rw [ih (by rwa [hsame]), first.getElem?_lineItems loaded hhead]
  | move record _ _ ih => exact ih hplace

theorem History.find?_goods_of_not_reviewed (h : History before batch after) {id : GoodId}
    (hnone : decisionsOn id (batch.map Checked.line) = []) :
    after.goods.find? id = before.goods.find? id := by
  cases hgood : before.goods.find? id with
  | some good =>
    obtain ⟨later, hlater, hgained⟩ := h.gained hgood
    rw [hlater, hgained.unreviewed hnone]
  | none =>
    have hhas := h.steady.goods id
    unfold Register.has at hhas
    simpa [hgood] using hhas

/-! ## §3 Batches -/

/-- How far a batch reaches. The reference data and the cases are as they were, the line items have
the same outlines in the same places, and nothing is taken out of the records; and but for the
first line item under an identifier of the batch, and for the goods that these line items point
at, line items and goods are the same altogether. -/
structure TouchesOnly (decisions : List Decision) (before after : Catalog) : Prop
    extends Frame before after where
  /-- No good comes, goes or moves. -/
  goodIds : after.goods.entries.map Good.id = before.goods.entries.map Good.id
  otherGoods : ∀ id, decisionsOn id (before.linesFor decisions) = [] →
    after.goods.find? id = before.goods.find? id
  otherPlaces : ∀ place, (∀ decision ∈ decisions, before.place? decision.id ≠ some place) →
    after.lineItems[place]? = before.lineItems[place]?

theorem goodIds_of_review {id : CaseId} {reviewer : ReviewerId} {decisions : List Decision}
    {now : Instant} {receipt : Receipt}
    (h : before.review id reviewer decisions now = .ok (after, receipt)) :
    after.goods.entries.map Good.id = before.goods.entries.map Good.id := by
  obtain ⟨view, batch, count, -, -, hnodup, hchecks, happly, -⟩ := review_eq_ok_iff.1 h
  exact ((carriedAll_of_applyAll happly).effect (.of_checks hnodup hchecks)).goodIds

theorem touchesOnly_of_review {id : CaseId} {reviewer : ReviewerId} {decisions : List Decision}
    {now : Instant} {receipt : Receipt}
    (h : before.review id reviewer decisions now = .ok (after, receipt)) :
    TouchesOnly decisions before after := by
  obtain ⟨batch, hhistory, hids, hlines⟩ := history_of_review h
  refine
    { toFrame := Frame.of_review h
      goodIds := goodIds_of_review h
      otherGoods := ?_
      otherPlaces := ?_ }
  · intro good hnone
    rw [← hlines] at hnone
    exact hhistory.find?_goods_of_not_reviewed hnone
  · intro place hplace
    refine hhistory.getElem?_lineItems ?_
    intro checked hchecked
    have hid : checked.item.id ∈ decisions.map Decision.id := by
      rw [← hids]
      exact List.mem_map_of_mem hchecked
    obtain ⟨decision, hdecision, heq⟩ := List.mem_map.1 hid
    rw [← heq]
    exact hplace decision hdecision

end Catalog

/-! ## §4 Desks -/

namespace Desk

open Catalog (TouchesOnly)

variable {desk after : Desk} {id : CaseId} {reviewer : ReviewerId} {decisions : List Decision}
  {now : Instant} {receipt : Receipt}

/-- **A batch keeps to its line items.** An accepted batch replaces the catalog of the store and
nothing else at the desk. Prefixes, subjects, control list and regime entries, cases and reviewers
are as they were, and so is every good that no line item of the batch points at. No line item
comes, goes or moves, or changes its identifier, its case or its product, and those in other
places than the first one under an identifier of the batch do not change at all. The records so
far stay in front. So every case lists the same line items in the same order, and with the same
numbers. -/
theorem batches_keep_to_their_lines
    (h : desk.assess id reviewer decisions now = (after, .ok receipt)) :
    let before := desk.store.catalog
    let reviewed := after.store.catalog
    after = desk.withCatalog reviewed ∧ TouchesOnly decisions before reviewed ∧
      (∀ other, reviewed.linesOf other = before.linesOf other) ∧
      ∀ other, reviewed.caseView? other = before.caseView? other := by
  intro before reviewed
  have htouches : TouchesOnly decisions before reviewed :=
    Catalog.touchesOnly_of_review (review_of_assess h)
  refine ⟨?_, htouches, ?_, htouches.toFrame.caseView?⟩
  · obtain ⟨-, catalog, _, -, -, rfl⟩ := assess_eq_ok_iff.1 h
    rfl
  · intro other
    exact Catalog.linesOf_congr htouches.outlines other

/-- A desk with two goods, where two cases have a line item under the same identifier. -/
def twinLines : Desk where
  store := .ofSeed
    { Seed.empty with
      prefixes := [⟨⟨1⟩, "components for"⟩]
      subjects := [⟨⟨7⟩, "sniper rifles", none⟩]
      controlListEntries := [⟨"ML2", ""⟩]
      goods :=
        [⟨⟨"good-1"⟩, "Scope", "", .submitted, [], none, none, .none⟩,
         ⟨⟨"good-2"⟩, "Mount", "", .submitted, [], none, none, .none⟩]
      cases := [⟨⟨"case-1"⟩, .underReview⟩, ⟨⟨"case-2"⟩, .submitted⟩]
      lineItems :=
        [.unassessed ⟨"line-1"⟩ ⟨"case-1"⟩ (.good ⟨"good-1"⟩),
         .unassessed ⟨"line-2"⟩ ⟨"case-1"⟩ (.good ⟨"good-2"⟩),
         .unassessed ⟨"line-1"⟩ ⟨"case-2"⟩ (.good ⟨"good-2"⟩)]
      reviewers := [⟨"officer"⟩] }
  directory := none
  permissions := none

/-- The first line item changes with its good; the second one of its identifier does not. -/
theorem twin_lines_stay :
    let before := twinLines.store.catalog
    let reviewed := (twinLines.rateAt [rate ⟨"line-1"⟩ "ML2"]).1.store.catalog
    TouchesOnly [rate ⟨"line-1"⟩ "ML2"] before reviewed ∧
      reviewed.lineItems[0]? ≠ before.lineItems[0]? ∧
      reviewed.lineItems[1]? = before.lineItems[1]? ∧
      reviewed.lineItems[2]? = before.lineItems[2]? ∧
      reviewed.goods.find? ⟨"good-1"⟩ ≠ before.goods.find? ⟨"good-1"⟩ ∧
      reviewed.goods.find? ⟨"good-2"⟩ = before.goods.find? ⟨"good-2"⟩ ∧
      reviewed.caseView? ⟨"case-2"⟩ = some ⟨⟨"case-2"⟩, .submitted, [⟨"line-1"⟩]⟩ := by
  intro before reviewed
  have haccepted : twinLines.rateAt [rate ⟨"line-1"⟩ "ML2"]
      = ((twinLines.rateAt [rate ⟨"line-1"⟩ "ML2"]).1,
        .ok { caseId := ⟨"case-1"⟩, updated := 1, audited := 1 }) := rfl
  obtain ⟨-, htouches, -, hviews⟩ := batches_keep_to_their_lines haccepted
  refine ⟨htouches, by decide +kernel, htouches.otherPlaces 1 (by decide),
    htouches.otherPlaces 2 (by decide), by decide +kernel, htouches.otherGoods _ (by decide), ?_⟩
  rw [hviews]
  rfl

end Desk

end ExportControl
