/-
ExportControl.Proofs.Composition — batches put together and taken apart.

A batch is checked as a whole before any of it is carried out, yet it comes to the
same as its parts handed in one after the other. What makes this work is `Frame`:
an accepted batch leaves all that the gates and checks of a later one read, apart
from the line items that it names itself.

  §1 Catalogs — `review_append_iff`: a batch on a catalog in two parts.
  §2 Desks    — `assess_append_iff`: the same at a desk.
  §3 Lines    — `batches_compose`: at a desk also line by line.
-/
import ExportControl.Proofs.Acceptance

namespace ExportControl

variable {id : CaseId} {reviewer : ReviewerId} {now : Instant} {first second : List Decision}
  {receipt : Receipt}

/-- The receipt for two batches together. -/
def Receipt.add (one other : Receipt) : Receipt where
  caseId := one.caseId
  updated := one.updated + other.updated
  audited := one.audited + other.audited

namespace Catalog

variable {catalog mid after : Catalog}

/-! ## §1 Catalogs -/

theorem applyAll_append_iff {sitting : Sitting} {as bs : List Checked} {count : Nat} :
    applyAll sitting catalog (as ++ bs) = .ok (after, count) ↔
      ∃ mid m n, applyAll sitting catalog as = .ok (mid, m) ∧
        applyAll sitting mid bs = .ok (after, n) ∧ count = m + n := by
  induction as generalizing catalog count with
  | nil =>
    constructor
    · intro h
      exact ⟨catalog, 0, count, rfl, h, by omega⟩
    · rintro ⟨_, _, n, heq, h, rfl⟩
      cases heq
      simpa using h
  | cons checked as ih =>
    simp only [List.cons_append, applyAll_cons_eq_ok_iff, ih]
    constructor
    · rintro ⟨next, audited, k, hline, ⟨mid, m, n, has, hbs, rfl⟩, rfl⟩
      exact ⟨mid, m + audited.toNat, n, ⟨next, audited, m, hline, has, rfl⟩, hbs, by omega⟩
    · rintro ⟨mid, _, n, ⟨next, audited, m, hline, has, rfl⟩, hbs, rfl⟩
      exact ⟨next, audited, m + n, hline, ⟨mid, m, n, has, hbs, rfl⟩, by omega⟩

/-- The checks of a batch come out the same after a batch on other line items. -/
theorem map_check_of_review {view : CaseView}
    (h : catalog.review id reviewer first now = .ok (mid, receipt))
    (disjoint : ∀ a ∈ first, ∀ b ∈ second, a.id ≠ b.id) :
    second.map (mid.check view) = second.map (catalog.check view) := by
  refine List.map_congr_left fun decision hmem => check_congr (Frame.of_review h).reference ?_
  refine lineItem?_of_review h fun hin => ?_
  obtain ⟨other, hother, heq⟩ := List.mem_map.1 hin
  exact disjoint other hother decision hmem heq

theorem review_append_iff (disjoint : ∀ a ∈ first, ∀ b ∈ second, a.id ≠ b.id) :
    catalog.review id reviewer (first ++ second) now = .ok (after, receipt) ↔
      ∃ mid one other, catalog.review id reviewer first now = .ok (mid, one) ∧
        mid.review id reviewer second now = .ok (after, other) ∧ receipt = one.add other := by
  constructor
  · intro h
    obtain ⟨view, batch, count, hview, hterm, hnodup, hchecks, happly, rfl⟩ :=
      review_eq_ok_iff.1 h
    rw [List.map_append] at hnodup hchecks
    obtain ⟨hnodup₁, hnodup₂, -⟩ := List.nodup_append.1 hnodup
    obtain ⟨as, bs, rfl, has, hbs⟩ := List.append_eq_map_iff.1 hchecks
    obtain ⟨mid, m, n, happly₁, happly₂, rfl⟩ := applyAll_append_iff.1 happly
    have hone : catalog.review id reviewer first now
        = .ok (mid, { caseId := id, updated := first.length, audited := m }) :=
      review_eq_ok_iff.2 ⟨view, as, m, hview, hterm, hnodup₁, has.symm, happly₁, rfl⟩
    refine ⟨mid, _, { caseId := id, updated := second.length, audited := n }, hone, ?_, ?_⟩
    · -- The second part was checked on the first catalog; the checks come out the same on `mid`.
      refine review_eq_ok_iff.2 ⟨view, bs, n, ?_, hterm, hnodup₂, ?_, happly₂, rfl⟩
      · rw [(Frame.of_review hone).caseView?, hview]
      · rw [map_check_of_review hone disjoint, hbs]
    · rw [List.length_append]
      rfl
  · rintro ⟨mid, one, other, hone, hother, rfl⟩
    have hframe := Frame.of_review hone
    obtain ⟨view, as, m, hview, hterm, hnodup₁, has, happly₁, rfl⟩ := review_eq_ok_iff.1 hone
    obtain ⟨view', bs, n, hview', -, hnodup₂, hbs, happly₂, rfl⟩ := review_eq_ok_iff.1 hother
    rw [hframe.caseView?, hview] at hview'
    cases hview'
    refine review_eq_ok_iff.2 ⟨view, as ++ bs, m + n, hview, hterm, ?_, ?_,
      applyAll_append_iff.2 ⟨mid, m, n, happly₁, happly₂, rfl⟩, by rw [List.length_append]; rfl⟩
    · rw [List.map_append, List.nodup_append]
      refine ⟨hnodup₁, hnodup₂, ?_⟩
      intro _ hin _ hin'
      obtain ⟨a, ha, rfl⟩ := List.mem_map.1 hin
      obtain ⟨b, hb, rfl⟩ := List.mem_map.1 hin'
      exact disjoint a ha b hb
    · rw [List.map_append, List.map_append, has, ← hbs, map_check_of_review hone disjoint]

end Catalog

namespace Desk

variable {desk mid after : Desk}

/-! ## §2 Desks -/

theorem access_withCatalog {catalog reviewed : Catalog} (h : desk.store.access = .ok catalog) :
    (desk.withCatalog reviewed).store.access = .ok reviewed := by
  obtain ⟨hbroken, -⟩ := access_eq_ok_iff.1 h
  exact access_eq_ok_iff.2 ⟨hbroken, rfl⟩

/-- Who is permitted does not change with an accepted batch. -/
theorem mayReview_withCatalog {catalog reviewed : Catalog} (h : desk.store.access = .ok catalog)
    (href : reviewed.reference = catalog.reference) (other : ReviewerId) :
    (desk.withCatalog reviewed).mayReview other = desk.mayReview other := by
  rw [mayReview, mayReview, permissionStore, permissionStore]
  cases hp : desk.permissions with
  | some permissions => simp [withCatalog, hp]
  | none =>
    simp only [withCatalog, hp, Option.getD_none]
    have haccess : (desk.store.commit reviewed).access = .ok reviewed := access_withCatalog h
    rw [haccess, h]
    simp [Except.map, Catalog.mayReview_congr href]

theorem assess_append_iff (disjoint : ∀ a ∈ first, ∀ b ∈ second, a.id ≠ b.id) :
    desk.assess id reviewer (first ++ second) now = (after, .ok receipt) ↔
      ∃ mid one other, desk.assess id reviewer first now = (mid, .ok one) ∧
        mid.assess id reviewer second now = (after, .ok other) ∧ receipt = one.add other := by
  simp only [assess_eq_ok_iff, Catalog.review_append_iff disjoint]
  constructor
  · rintro ⟨hmay, catalog, reviewed, haccess, ⟨mid, one, other, hone, hother, rfl⟩, rfl⟩
    refine ⟨desk.withCatalog mid, one, other, ⟨hmay, catalog, mid, haccess, hone, rfl⟩,
      ⟨?_, mid, reviewed, access_withCatalog haccess, hother, rfl⟩, rfl⟩
    rw [mayReview_withCatalog haccess (Catalog.Frame.of_review hone).reference, hmay]
  · rintro ⟨_, one, other, ⟨hmay, catalog, mid, haccess, hone, rfl⟩,
      ⟨-, mid', reviewed, haccess', hother, rfl⟩, rfl⟩
    cases haccess'.symm.trans (access_withCatalog haccess)
    exact ⟨hmay, catalog, reviewed, haccess, ⟨mid, one, other, hone, hother, rfl⟩, rfl⟩

/-! ## §3 Lines -/

/-- Hands in decisions one by one, and gives the receipts; nothing if one of them is refused. -/
def assessEach (id : CaseId) (reviewer : ReviewerId) (now : Instant) :
    Desk → List Decision → Option (Desk × List Receipt)
  | desk, [] => some (desk, [])
  | desk, decision :: rest =>
    match desk.assess id reviewer [decision] now with
    | (_, .error _) => none
    | (mid, .ok receipt) =>
      (assessEach id reviewer now mid rest).map fun done => (done.1, receipt :: done.2)

theorem assess_nil_eq_ok (h : desk.assess id reviewer [] now = (after, .ok receipt)) :
    after = desk ∧ receipt = { caseId := id, updated := 0, audited := 0 } := by
  obtain ⟨-, catalog, reviewed, haccess, hreview, rfl⟩ := assess_eq_ok_iff.1 h
  obtain ⟨view, batch, count, -, -, -, hchecks, happly, rfl⟩ :=
    Catalog.review_eq_ok_iff.1 hreview
  obtain rfl : batch = [] := List.map_eq_nil_iff.1 hchecks.symm
  cases happly
  obtain ⟨-, rfl⟩ := access_eq_ok_iff.1 haccess
  exact ⟨rfl, rfl⟩

theorem updated_of_assess (h : desk.assess id reviewer first now = (after, .ok receipt)) :
    receipt.updated = first.length := by
  obtain ⟨-, catalog, reviewed, -, hreview, -⟩ := assess_eq_ok_iff.1 h
  obtain ⟨view, batch, count, -, -, -, -, -, rfl⟩ := Catalog.review_eq_ok_iff.1 hreview
  rfl

theorem nodup_of_assess (h : desk.assess id reviewer first now = (after, .ok receipt)) :
    (first.map Decision.id).Nodup := by
  obtain ⟨-, catalog, reviewed, -, hreview, -⟩ := assess_eq_ok_iff.1 h
  obtain ⟨view, batch, count, -, -, hnodup, -⟩ := Catalog.review_eq_ok_iff.1 hreview
  exact hnodup

/-- An accepted batch does what its decisions do one by one. -/
theorem assessEach_of_assess (h : desk.assess id reviewer first now = (after, .ok receipt)) :
    ∃ receipts, assessEach id reviewer now desk first = some (after, receipts) ∧
      receipts.map Receipt.updated = first.map (fun _ => 1) ∧
      receipts.foldr Receipt.add { caseId := id, updated := 0, audited := 0 } = receipt := by
  induction first generalizing desk receipt with
  | nil =>
    obtain ⟨rfl, rfl⟩ := assess_nil_eq_ok h
    exact ⟨[], rfl, rfl, rfl⟩
  | cons decision rest ih =>
    have disjoint : ∀ a ∈ [decision], ∀ b ∈ rest, a.id ≠ b.id := by
      intro a ha b hb heq
      obtain rfl := List.mem_singleton.1 ha
      exact (List.nodup_cons.1 (nodup_of_assess h)).1 (List.mem_map.2 ⟨b, hb, heq.symm⟩)
    have happend : desk.assess id reviewer ([decision] ++ rest) now = (after, .ok receipt) := h
    obtain ⟨mid, one, other, hone, hother, rfl⟩ := (assess_append_iff disjoint).1 happend
    obtain ⟨receipts, heach, hupdated, hsum⟩ := ih hother
    refine ⟨one :: receipts, by simp [assessEach, hone, heach], ?_, ?_⟩
    · rw [List.map_cons, hupdated, updated_of_assess hone]
      rfl
    · rw [List.foldr_cons, hsum]

/-- **Batches compose.** Two batches on different line items are accepted as one exactly where the
first is accepted and the second is accepted afterwards, and then the desk is left the same and
the receipts add up. So an accepted batch does what its decisions do one by one. -/
theorem batches_compose (desk : Desk) (id : CaseId) (reviewer : ReviewerId) (now : Instant) :
    (∀ first second : List Decision, (∀ a ∈ first, ∀ b ∈ second, a.id ≠ b.id) →
      ∀ after receipt,
        desk.assess id reviewer (first ++ second) now = (after, .ok receipt) ↔
          ∃ mid one other, desk.assess id reviewer first now = (mid, .ok one) ∧
            mid.assess id reviewer second now = (after, .ok other) ∧
            receipt = one.add other) ∧
    ∀ decisions after receipt, desk.assess id reviewer decisions now = (after, .ok receipt) →
      ∃ receipts, assessEach id reviewer now desk decisions = some (after, receipts) ∧
        receipts.map Receipt.updated = decisions.map (fun _ => 1) ∧
        receipts.foldr Receipt.add { caseId := id, updated := 0, audited := 0 } = receipt :=
  ⟨fun _ _ disjoint _ _ => assess_append_iff disjoint, fun _ _ _ h => assessEach_of_assess h⟩

/-- A desk with two line items of one good. -/
def sharedGood : Desk where
  store := .ofSeed
    { Seed.empty with
      prefixes := [⟨⟨1⟩, "components for"⟩]
      subjects := [⟨⟨7⟩, "sniper rifles", none⟩]
      controlListEntries := [⟨"ML1a", ""⟩, ⟨"ML2", ""⟩]
      goods := [⟨⟨"good-1"⟩, "Scope", "", .submitted, [], none, none, .none⟩]
      cases := [⟨⟨"case-1"⟩, .underReview⟩]
      lineItems :=
        [.unassessed ⟨"line-1"⟩ ⟨"case-1"⟩ (.good ⟨"good-1"⟩),
         .unassessed ⟨"line-2"⟩ ⟨"case-1"⟩ (.good ⟨"good-1"⟩)]
      reviewers := [⟨"officer"⟩] }
  directory := none
  permissions := none

/-- A decision that rates a product and describes it by the pair of `sharedGood`. -/
def rate (line : LineItemId) (rating : String) : Decision :=
  { Decision.blank line with
    controlled := some true
    controlListEntries := [rating]
    pre := some ⟨1⟩
    subject := some ⟨7⟩ }

/-- What comes of a batch at `sharedGood`. -/
def rateAt (desk : Desk) (decisions : List Decision) : Desk × Except AssessError Receipt :=
  desk.assess ⟨"case-1"⟩ ⟨"officer"⟩ decisions
    { year := 2024, month := 5, day := 1, second := 36000, nano := 0 }

/-- Two decisions on one good and one pair. -/
theorem shared_good_composes :
    ∃ mid one other,
      (sharedGood.rateAt [rate ⟨"line-1"⟩ "ML1a", rate ⟨"line-2"⟩ "ML2"]).2
        = .ok { caseId := ⟨"case-1"⟩, updated := 2, audited := 2 } ∧
      sharedGood.rateAt [rate ⟨"line-1"⟩ "ML1a"] = (mid, .ok one) ∧
      mid.rateAt [rate ⟨"line-2"⟩ "ML2"]
        = ((sharedGood.rateAt [rate ⟨"line-1"⟩ "ML1a", rate ⟨"line-2"⟩ "ML2"]).1, .ok other) ∧
      one.add other = { caseId := ⟨"case-1"⟩, updated := 2, audited := 2 } := by
  have disjoint : ∀ a ∈ [rate ⟨"line-1"⟩ "ML1a"], ∀ b ∈ [rate ⟨"line-2"⟩ "ML2"], a.id ≠ b.id := by
    decide
  obtain ⟨mid, one, other, hone, hother, hsum⟩ :=
    ((batches_compose sharedGood ⟨"case-1"⟩ ⟨"officer"⟩
        { year := 2024, month := 5, day := 1, second := 36000, nano := 0 }).1 _ _ disjoint
      (sharedGood.rateAt [rate ⟨"line-1"⟩ "ML1a", rate ⟨"line-2"⟩ "ML2"]).1
      { caseId := ⟨"case-1"⟩, updated := 2, audited := 2 }).1 rfl
  exact ⟨mid, one, other, rfl, hone, hother, hsum.symm⟩

end Desk

end ExportControl
