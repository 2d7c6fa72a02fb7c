/-
ExportControl.Proofs.MirroredGoods — what a shared good shows of its reviews.

A decision folds what it leaves on its line item into the good. Control list entries
are gathered, but control, description and tags are taken over as they are, so it is
the last decision on a good that shows there, and the line item of that decision
still holds the same values.

  §1 Reviews    — `Good.Mirrors`: a good that shows a line item;
                  `Mirrors.of_reviewed`: earlier reviews leave no trace in it.
  §2 Line items — `History.lineItem?_of_not_mem`: what stays under an identifier.
  §3 Histories  — `History.mirrors`: the last decision on a good is the one it shows.
  §4 Tags       — `TagsFit`: no verified good is tagged as not yet verified.
  §5 Desks      — `goods_mirror_last_line`.
-/
import ExportControl.Proofs.Interchange

namespace ExportControl

/-! ## §1 Reviews -/

namespace Good

variable {good later : Good} {item last : LineItem}

/-- What a good has become when it shows the values of a line item. -/
structure Mirrors (good later : Good) (item : LineItem) : Prop where
  verified : later.status = .verified
  controlled : later.controlled = item.controlled
  classification : later.classification = item.classification
  wassenaar : later.flags.has .wassenaar = item.isWassenaar
  /-- The tag stays where the good was verified before; elsewhere it is gone. -/
  notYetVerified : later.flags.has .notYetVerified
    = (good.isVerified && good.flags.has .notYetVerified)
  id : later.id = good.id
  name : later.name = good.name
  organisation : later.organisation = good.organisation

theorem mirrors_reviewed (good : Good) (item : LineItem) :
    good.Mirrors (good.reviewed item) item where
  verified := status_reviewed good item
  controlled := rfl
  classification := rfl
  wassenaar := by simp [reviewed, Flags.has, Flags.set]
  notYetVerified := notYetVerified_reviewed good item
  id := id_reviewed good item
  name := name_reviewed good item
  organisation := organisation_reviewed good item

/-- The earlier review has taken off the tag already, and what else it left is covered. -/
theorem Mirrors.of_reviewed (h : (good.reviewed item).Mirrors later last) :
    good.Mirrors later last where
  verified := h.verified
  controlled := h.controlled
  classification := h.classification
  wassenaar := h.wassenaar
  notYetVerified := by
    rw [h.notYetVerified, isVerified_reviewed, Bool.true_and]
    exact notYetVerified_reviewed good item
  id := by rw [h.id, id_reviewed]
  name := by rw [h.name, name_reviewed]
  organisation := by rw [h.organisation, organisation_reviewed]

end Good

namespace Catalog

variable {before after : Catalog} {batch : List Checked} {checked : Checked} {line : LineItemId}
  {goodId : GoodId} {last : Decision}

/-! ## §2 Line items -/

/-- A history leaves the line items that it does not name. -/
theorem History.lineItem?_of_not_mem (h : History before batch after)
    (hline : line ∉ batch.map (·.item.id)) : after.lineItem? line = before.lineItem? line := by
  induction h with
  | nil catalog => rfl
  | decision _ _ first _ ih =>
    simp only [List.map_cons, List.mem_cons, not_or] at hline
    rw [ih hline.2, first.lineItem?, if_neg (Ne.symm hline.1)]
  | move record _ _ ih => exact ih hline

/-- Every decision of a history finds a line item that was there from the beginning, on the same
product. -/
theorem History.outline_of_mem (h : History before batch after) (hmem : checked ∈ batch) :
    ∃ item, before.lineItem? checked.item.id = some item ∧
      item.outline = checked.item.outline := by
  induction h with
  | nil catalog => cases hmem
  | decision _ loaded first _ ih =>
    rcases List.mem_cons.1 hmem with rfl | hrest
    · exact ⟨_, loaded, rfl⟩
    · obtain ⟨item, hitem, houtline⟩ := ih hrest
      obtain ⟨old, hold, hsame⟩ := (first.frame loaded).steady.lineItem? hitem
      exact ⟨old, hold, hsame.trans houtline⟩
  | move record _ _ ih => exact ih hmem

theorem goodId?_of_outline {item other : LineItem} (h : item.outline = other.outline) :
    item.goodId? = other.goodId? := by
  unfold LineItem.goodId?
  rw [LineItem.product_of_outline h]

/-- Without a decision on its good a line item stays as it is. -/
theorem History.lineItem?_of_decisionsOn_eq_nil (h : History before batch after) {item : LineItem}
    (hitem : before.lineItem? line = some item) (hgood : item.goodId? = some goodId)
    (hnone : decisionsOn goodId (batch.map Checked.line) = []) :
    after.lineItem? line = some item := by
  rw [h.lineItem?_of_not_mem, hitem]
  intro hline
  obtain ⟨checked, hchecked, rfl⟩ := List.mem_map.1 hline
  obtain ⟨other, hother, houtline⟩ := h.outline_of_mem hchecked
  obtain rfl : item = other := by simpa [hitem] using hother
  rw [decisionsOn, List.map_eq_nil_iff, List.filter_eq_nil_iff] at hnone
  refine hnone checked.line (List.mem_map_of_mem hchecked) ?_
  have hsame : checked.item.goodId? = some goodId := by
    rw [← goodId?_of_outline houtline, hgood]
  exact decide_eq_true hsame

/-! ## §3 Histories -/

/-- After one decision its good shows its line item. -/
theorem Carried.mirrors {sitting : Sitting} {audited : Bool} {description : Option Classification}
    {name : String} (h : Carried sitting checked before after audited description name)
    (hgood : checked.item.goodId? = some goodId) :
    ∃ good later, before.goods.find? goodId = some good ∧
      after.goods.find? goodId = some later ∧
      good.Mirrors later (checked.revised description sitting) := by
  have hmissing := h.missingGood?
  rw [Catalog.missingGood?, hgood, Option.filter_eq_none_iff] at hmissing
  have hhas : before.goods.has goodId = true := by simpa using hmissing
  obtain ⟨good, hfind⟩ := Option.isSome_iff_exists.1 hhas
  refine ⟨good, good.reviewed (checked.revised description sitting), hfind, ?_,
    good.mirrors_reviewed _⟩
  rw [h.find?_goods, hfind, Option.map_some, if_pos hgood]

/-- The last decision on a good is the one that the good shows, whatever was decided before it. -/
theorem History.mirrors (h : History before batch after)
    (hlast : (decisionsOn goodId (batch.map Checked.line)).getLast? = some last) :
    ∃ good later item, before.goods.find? goodId = some good ∧
      after.goods.find? goodId = some later ∧ after.lineItem? last.id = some item ∧
      good.Mirrors later item := by
  induction h with
  | nil catalog => cases hlast
  | @decision before mid after sitting checked batch _ description _ passed loaded first rest ih =>
    rw [List.map_cons, decisionsOn_cons, List.getLast?_append] at hlast
    cases hrest : (decisionsOn goodId (batch.map Checked.line)).getLast? with
    | some other =>
      -- A later decision shows, and it found the good as this one left it.
      rw [hrest, Option.some_or] at hlast
      obtain ⟨reviewed, later, item, hreviewed, hlater, hitem, hmirrors⟩ := ih (hrest.trans hlast)
      rw [first.find?_goods] at hreviewed
      obtain ⟨good, hgood, heq⟩ := Option.map_eq_some_iff.1 hreviewed
      refine ⟨good, later, item, hgood, hlater, hitem, ?_⟩
      split at heq
      · subst heq
        exact hmirrors.of_reviewed
      · subst heq
        exact hmirrors
    | none =>
      -- No later decision is on this good, so it stays, and the line item of this one as well.
      rw [hrest, Option.none_or] at hlast
      have hnone := List.getLast?_eq_none_iff.1 hrest
      split at hlast
      · rename_i hgood
        cases hlast
        obtain ⟨good, reviewed, hfind, hreviewed, hmirrors⟩ := first.mirrors hgood
        obtain ⟨later, hlater, hgained⟩ := rest.gained hreviewed
        obtain rfl := hgained.unreviewed hnone
        refine ⟨good, later, _, hfind, hlater, ?_, hmirrors⟩
        obtain ⟨catalog, view, hcheck⟩ := passed
        have hsaved : mid.lineItem? checked.decision.id
            = some (checked.revised description sitting) := by
          rw [first.lineItem?, if_pos (id_of_check hcheck)]
        exact rest.lineItem?_of_decisionsOn_eq_nil hsaved hgood hnone
      · cases hlast
  | move record _ _ ih => exact ih hlast

/-! ## §4 Tags -/

/-- No verified good bears the tag of goods that are not yet verified. -/
def TagsFit (catalog : Catalog) : Prop :=
  ∀ good ∈ catalog.goods.entries,
    good.status = .verified → good.flags.has .notYetVerified = false

instance (catalog : Catalog) : Decidable catalog.TagsFit :=
  inferInstanceAs (Decidable (∀ good ∈ catalog.goods.entries, _ → _))

/-- A review never leaves the tag on a good that bore it in vain. -/
theorem TagsFit.reviewed (h : before.TagsFit) {good : Good} (hgood : good ∈ before.goods.entries)
    (item : LineItem) : (good.reviewed item).flags.has .notYetVerified = false := by
  rw [(good.mirrors_reviewed item).notYetVerified]
  by_cases hverified : good.status = .verified
  · rw [h good hgood hverified, Bool.and_false]
  · have hunverified : good.isVerified = false := decide_eq_false hverified
    rw [hunverified, Bool.false_and]

theorem Carried.tagsFit {sitting : Sitting} {audited : Bool} {description : Option Classification}
    {name : String} (h : Carried sitting checked before after audited description name)
    (hfit : before.TagsFit) : after.TagsFit := by
  intro good hgood hverified
  have hfind := Register.find?_of_mem hgood
  rw [h.find?_goods] at hfind
  obtain ⟨old, hold, heq⟩ := Option.map_eq_some_iff.1 hfind
  have hmem := Register.mem_of_find? hold
  split at heq
  · rw [← heq]
    exact hfit.reviewed hmem _
  · subst heq
    exact hfit old hmem hverified

theorem History.tagsFit (h : History before batch after) (hfit : before.TagsFit) :
    after.TagsFit := by
  induction h with
  | nil catalog => exact hfit
  | decision _ _ first _ ih => exact ih (first.tagsFit hfit)
  | move record _ _ ih => exact ih hfit

end Catalog

/-! ## §5 Desks -/

namespace Desk

/-- **Goods show their last review.** Every good with a decision of an accepted batch on one of its
line items ends up verified, and with the control, the description and the Wassenaar tag that the
last one of these decisions left on its line item. It loses the tag of goods that are not yet
verified unless it was verified before, when it keeps it as it was, and it has the same identifier,
name and organisation as before. So where no verified good bears that tag, none ever will. -/
theorem goods_mirror_last_line (desk : Desk) :
    (∀ id reviewer decisions now after receipt,
      desk.assess id reviewer decisions now = (after, .ok receipt) →
      ∀ goodId last,
        (decisionsOn goodId (desk.store.catalog.linesFor decisions)).getLast? = some last →
        ∃ good later item, desk.store.catalog.goods.find? goodId = some good ∧
          after.store.catalog.goods.find? goodId = some later ∧
          after.store.catalog.lineItem? last.id = some item ∧ good.Mirrors later item) ∧
    (desk.store.catalog.TagsFit → ∀ events, (desk.run events).store.catalog.TagsFit) := by
  constructor
  · intro id reviewer decisions now after receipt haccepted goodId last hlast
    obtain ⟨batch, hhistory, -, hlines⟩ := Catalog.history_of_review (review_of_assess haccepted)
    rw [← hlines] at hlast
    exact hhistory.mirrors hlast
  · intro hfit events
    obtain ⟨batch, hhistory, -⟩ := desk.history_run events
    exact hhistory.tagsFit hfit

/-- The desk with two line items of one good, where the good is tagged as not yet verified. -/
def taggedGood : Desk :=
  sharedGood.withCatalog
    { sharedGood.store.catalog with
      goods := .ofList [⟨⟨"good-1"⟩, "Scope", "", .submitted, [], none, none, ⟨true, false⟩⟩] }

/-- Two decisions on one good; the second one takes back what the first one said. -/
theorem tagged_good_mirrors_second_line :
    let decisions := [{ rate ⟨"line-1"⟩ "ML1a" with isWassenaar := true },
      { Decision.blank ⟨"line-2"⟩ with controlled := some false }]
    let after := (taggedGood.rateAt decisions).1
    (∃ later, after.store.catalog.goods.find? ⟨"good-1"⟩ = some later ∧
      later.status = .verified ∧ later.controlled = some false ∧ later.classification = none ∧
      later.flags.toList = []) ∧
    ∀ events, (taggedGood.run events).store.catalog.TagsFit := by
  intro decisions after
  obtain ⟨hbatch, htags⟩ := goods_mirror_last_line taggedGood
  have haccepted : taggedGood.rateAt decisions
      = (after, .ok { caseId := ⟨"case-1"⟩, updated := 2, audited := 2 }) := rfl
  obtain ⟨good, later, item, hgood, hlater, hitem, hmirrors⟩ :=
    hbatch _ _ _ _ _ _ haccepted ⟨"good-1"⟩
      { Decision.blank ⟨"line-2"⟩ with controlled := some false } (by decide +kernel)
  cases hgood
  cases hitem
  refine ⟨⟨later, hlater, hmirrors.verified, hmirrors.controlled, hmirrors.classification, ?_⟩,
    htags (by decide)⟩
  have htag := hmirrors.notYetVerified
  have hwassenaar := hmirrors.wassenaar
  simp only [Flags.toList, List.filter_cons, List.filter_nil, htag, hwassenaar]
  rfl

end Desk

end ExportControl
