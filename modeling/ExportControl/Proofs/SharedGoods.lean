/-
ExportControl.Proofs.SharedGoods — the control list entries of a shared good.

Line items of one case or of several may point at one good, and every decision on
one of them is a review of the good. What the reviews of a run make of its entries
does not depend on how they are spread over lines, batches and cases.

  §1 Entries — `foldl_addEntry`: entries added one by one are the missing ones, each
               where it comes first.
  §2 Reviews — `Gained`: what reviews make of a good; `Gained.trans`: reviews can be
               put together.
  §3 Runs    — `History.gained`; `entries_of_shared_good`: what a run makes of a good.
-/
import ExportControl.Proofs.Composition
import ExportControl.Proofs.Runs

namespace ExportControl

namespace Good

/-! ## §1 Entries -/

/-- Adding entries one by one adds those that are missing, each where it comes first. -/
theorem foldl_addEntry (base entries : List String) :
    entries.foldl addEntry base = base ++ (entries.filter (· ∉ base)).eraseDups := by
  induction entries generalizing base with
  | nil => simp
  | cons entry entries ih =>
    rw [List.foldl_cons, ih, addEntry]
    by_cases hmem : entry ∈ base
    · rw [if_pos hmem, List.filter_cons_of_neg (by simpa using hmem)]
    · have hrest : entries.filter (· ∉ base ++ [entry])
          = (entries.filter (· ∉ base)).filter fun other => !other == entry := by
        rw [List.filter_filter]
        refine List.filter_congr fun other _ => ?_
        rw [Bool.eq_iff_iff]
        simp [and_comm]
      rw [if_neg hmem, List.filter_cons_of_pos (by simpa using hmem), List.eraseDups_cons, hrest,
        List.append_assoc, List.singleton_append]

@[simp]
theorem mem_foldl_addEntry {base entries : List String} {entry : String} :
    entry ∈ entries.foldl addEntry base ↔ entry ∈ base ∨ entry ∈ entries := by
  by_cases hbase : entry ∈ base <;> simp [foldl_addEntry, hbase]

theorem foldl_addEntry_addEntry (base entries : List String) (entry : String) :
    (addEntry entries entry).foldl addEntry base
      = addEntry (entries.foldl addEntry base) entry := by
  by_cases hmem : entry ∈ entries
  · rw [addEntry, if_pos hmem, addEntry, if_pos (by simp [hmem])]
  · rw [addEntry, if_neg hmem, List.foldl_append]
    rfl

/-- Leaving out repeated entries first makes no difference. -/
theorem foldl_addEntry_distinctEntries (base entries : List String) :
    (distinctEntries entries).foldl addEntry base = entries.foldl addEntry base := by
  have hfold : ∀ first : List String, (entries.foldl addEntry first).foldl addEntry base
      = entries.foldl addEntry (first.foldl addEntry base) := by
    induction entries with
    | nil => exact fun first => rfl
    | cons entry entries ih =>
      intro first
      rw [List.foldl_cons, ih, foldl_addEntry_addEntry, List.foldl_cons]
  exact hfold []

/-! ## §2 Reviews -/

/-- The entries that count: those of a good that has not been verified do not. -/
def baseline (good : Good) : List String :=
  if good.isVerified then good.controlListEntries else []

theorem baseline_of_verified {good : Good} (h : good.status = .verified) :
    good.baseline = good.controlListEntries :=
  if_pos (decide_eq_true h)

theorem mem_controlListEntries_reviewed (good : Good) (item : LineItem) {entry : String} :
    entry ∈ (good.reviewed item).controlListEntries ↔
      entry ∈ good.baseline ∨ entry ∈ item.controlListEntries := by
  cases hverified : good.isVerified <;> simp [reviewed, mergeEntries, baseline, hverified]

@[simp]
theorem status_reviewed (good : Good) (item : LineItem) :
    (good.reviewed item).status = .verified := by
  simp only [reviewed, mergeEntries]
  split
  · rename_i hverified
    exact of_decide_eq_true hverified
  · rfl

theorem controlListEntries_reviewed (good : Good) (item : LineItem) {entries : List String}
    (hitem : item.controlListEntries = distinctEntries entries) :
    (good.reviewed item).controlListEntries = entries.foldl addEntry good.baseline := by
  simp only [reviewed, mergeEntries, baseline, hitem]
  split
  · exact foldl_addEntry_distinctEntries _ _
  · rfl

/-- What reviews make of a good. -/
structure Gained (good later : Good) (reviews : List Decision) : Prop where
  unreviewed : reviews = [] → later = good
  verified : reviews ≠ [] → later.status = .verified
  entries : reviews ≠ [] → later.controlListEntries
    = (reviews.flatMap Decision.controlListEntries).foldl addEntry good.baseline

namespace Gained

variable {good mid later : Good} {reviews others : List Decision}

theorem refl (good : Good) : Gained good good [] :=
  ⟨fun _ => rfl, fun h => absurd rfl h, fun h => absurd rfl h⟩

theorem reviewed (good : Good) (item : LineItem) {decision : Decision}
    (hitem : item.controlListEntries = distinctEntries decision.controlListEntries) :
    Gained good (good.reviewed item) [decision] where
  unreviewed := fun h => absurd h (List.cons_ne_nil _ _)
  verified := fun _ => status_reviewed good item
  entries := fun _ => by
    rw [List.flatMap_singleton]
    exact controlListEntries_reviewed good item hitem

theorem trans (h : Gained good mid reviews) (h' : Gained mid later others) :
    Gained good later (reviews ++ others) := by
  by_cases hothers : others = []
  · rwa [h'.unreviewed hothers, hothers, List.append_nil]
  by_cases hreviews : reviews = []
  · rwa [← h.unreviewed hreviews, hreviews, List.nil_append]
  have hne : reviews ++ others ≠ [] := List.append_ne_nil_of_left_ne_nil hreviews _
  -- The earlier reviews verify the good, so whatever they leave counts for the later ones.
  refine ⟨fun hnil => absurd hnil hne, fun _ => h'.verified hothers, fun _ => ?_⟩
  rw [h'.entries hothers, baseline_of_verified (h.verified hreviews), h.entries hreviews,
    List.flatMap_append, List.foldl_append]

theorem status_of_verified (h : Gained good later reviews) (hgood : good.status = .verified) :
    later.status = .verified := by
  by_cases hreviews : reviews = []
  · rwa [h.unreviewed hreviews]
  · exact h.verified hreviews

theorem prefix_of_verified (h : Gained good later reviews) (hgood : good.status = .verified) :
    good.controlListEntries <+: later.controlListEntries := by
  by_cases hreviews : reviews = []
  · obtain rfl := h.unreviewed hreviews
    exact List.prefix_refl _
  · rw [h.entries hreviews, baseline_of_verified hgood, foldl_addEntry]
    exact List.prefix_append _ _

/-- No entry of a review is lost. -/
theorem subset (h : Gained good later reviews) :
    reviews.flatMap Decision.controlListEntries ⊆ later.controlListEntries := by
  by_cases hreviews : reviews = []
  · rw [hreviews, List.flatMap_nil]
    exact List.nil_subset _
  · rw [h.entries hreviews]
    intro entry hentry
    exact mem_foldl_addEntry.2 (.inr hentry)

end Gained

end Good

/-! ## §3 Runs -/

/-- The decisions among given ones whose line items point at a good. -/
def decisionsOn (id : GoodId) (lines : List (Decision × LineItem)) : List Decision :=
  (lines.filter fun line => line.2.goodId? = some id).map Prod.fst

theorem decisionsOn_cons (id : GoodId) (line : Decision × LineItem)
    (lines : List (Decision × LineItem)) :
    decisionsOn id (line :: lines)
      = (if line.2.goodId? = some id then [line.1] else []) ++ decisionsOn id lines := by
  rw [decisionsOn, List.filter_cons, decisionsOn]
  by_cases h : line.2.goodId? = some id <;> simp [h]

namespace Catalog

variable {before after : Catalog} {id : GoodId} {good : Good}

/-- One decision reviews the good that its line item points at. -/
theorem Carried.gained {sitting : Sitting} {checked : Checked} {audited : Bool}
    {description : Option Classification} {name : String}
    (h : Carried sitting checked before after audited description name)
    (hgood : before.goods.find? id = some good) :
    ∃ later, after.goods.find? id = some later ∧
      good.Gained later
        (if checked.item.goodId? = some id then [checked.decision] else []) := by
  refine ⟨_, by rw [h.find?_goods, hgood, Option.map_some], ?_⟩
  split
  · exact .reviewed good _ rfl
  · exact .refl good

theorem History.gained {batch : List Checked} (h : History before batch after)
    (hgood : before.goods.find? id = some good) :
    ∃ later, after.goods.find? id = some later ∧
      good.Gained later (decisionsOn id (batch.map Checked.line)) := by
  induction h generalizing good with
  | nil catalog => exact ⟨good, hgood, .refl good⟩
  | decision _ _ first _ ih =>
    obtain ⟨mid, hmid, hfirst⟩ := first.gained hgood
    obtain ⟨later, hlater, hrest⟩ := ih hmid
    refine ⟨later, hlater, ?_⟩
    rw [List.map_cons, decisionsOn_cons]
    exact hfirst.trans hrest
  | move record _ _ ih => exact ih hgood

end Catalog

namespace Desk

/-- **A shared good gains entries.** Without an accepted decision on one of its line items a good
stays as it is. Otherwise it ends up verified, and its entries are those that it had if it was
verified at first, and then the missing ones of the decisions in order, each where it comes
first. So a verified good stays verified and keeps its entries in their places, and no
accepted entry is lost. -/
theorem entries_of_shared_good (desk : Desk) (events : List Event) {id : GoodId} {good : Good}
    (hgood : desk.store.catalog.goods.find? id = some good) :
    let reviews := decisionsOn id (desk.acceptedLines events)
    let entries := reviews.flatMap Decision.controlListEntries
    ∃ later, (desk.run events).store.catalog.goods.find? id = some later ∧
      (reviews = [] → later = good) ∧
      (reviews ≠ [] → later.status = .verified ∧
        later.controlListEntries
          = good.baseline ++ (entries.filter (· ∉ good.baseline)).eraseDups) ∧
      (good.status = .verified → later.status = .verified ∧
        good.controlListEntries <+: later.controlListEntries) ∧
      entries ⊆ later.controlListEntries := by
  intro reviews entries
  obtain ⟨batch, hhistory, hlines⟩ := desk.history_run events
  obtain ⟨later, hlater, hgained⟩ := hhistory.gained hgood
  rw [hlines] at hgained
  refine ⟨later, hlater, hgained.unreviewed, fun hreviews => ?_, fun hverified => ?_,
    hgained.subset⟩
  · exact ⟨hgained.verified hreviews, by rw [hgained.entries hreviews, Good.foldl_addEntry]⟩
  · exact ⟨hgained.status_of_verified hverified, hgained.prefix_of_verified hverified⟩

/-- Two batches on one good; the second one repeats an entry of the first. -/
theorem shared_good_gains_entries :
    let batch := fun decisions => Event.assess ⟨"case-1"⟩ ⟨"officer"⟩ decisions
      { year := 2024, month := 5, day := 1, second := 36000, nano := 0 }
    let events := [batch [rate ⟨"line-1"⟩ "ML2"],
      batch [rate ⟨"line-2"⟩ "ML1a", rate ⟨"line-1"⟩ "ML2"]]
    ∃ later, (sharedGood.run events).store.catalog.goods.find? ⟨"good-1"⟩ = some later ∧
      later.status = .verified ∧ later.controlListEntries = ["ML2", "ML1a"] := by
  intro batch events
  have hgood : sharedGood.store.catalog.goods.find? ⟨"good-1"⟩
      = some ⟨⟨"good-1"⟩, "Scope", "", .submitted, [], none, none, .none⟩ := rfl
  have hreviews : decisionsOn ⟨"good-1"⟩ (sharedGood.acceptedLines events)
      = [rate ⟨"line-1"⟩ "ML2", rate ⟨"line-2"⟩ "ML1a", rate ⟨"line-1"⟩ "ML2"] := by
    decide +kernel
  obtain ⟨later, hlater, -, hreviewed, -⟩ := entries_of_shared_good sharedGood events hgood
  rw [hreviews] at hreviewed
  obtain ⟨hstatus, hentries⟩ := hreviewed (List.cons_ne_nil _ _)
  exact ⟨later, hlater, hstatus, hentries⟩

end Desk

end ExportControl
