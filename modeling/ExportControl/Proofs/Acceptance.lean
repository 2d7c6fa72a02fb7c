/-
ExportControl.Proofs.Acceptance — what it means that a batch is accepted.

  §1 Catalogs — `review_eq_ok_iff`: the gates that an accepted batch has passed
                and how it was carried out; `Frame.of_review`: what it leaves.
  §2 Desks    — `assess_eq_ok_iff`: the same at a desk, whose store takes over
                the reviewed catalog; `outcome_of_mayReview`: what a permitted
                reviewer is told.
-/
import ExportControl.Assessment.Desk
import ExportControl.Proofs.CarryingOut

namespace ExportControl

variable {id : CaseId} {reviewer : ReviewerId} {decisions : List Decision} {now : Instant}
  {receipt : Receipt}

namespace Catalog

variable {catalog after : Catalog}

/-! ## §1 Catalogs -/

theorem id_of_caseView? {view : CaseView} (h : catalog.caseView? id = some view) :
    view.id = id := by
  obtain ⟨record, -, rfl⟩ := Option.map_eq_some_iff.1 h
  rfl

/-- An accepted batch is on an open case, names each line item once, has nothing wrong with it,
and was carried out in order. -/
theorem review_eq_ok_iff :
    catalog.review id reviewer decisions now = .ok (after, receipt) ↔
      ∃ view batch count, catalog.caseView? id = some view ∧ view.status.isTerminal = false ∧
        (decisions.map Decision.id).Nodup ∧
        decisions.map (catalog.check view) = batch.map .ok ∧
        applyAll { view, reviewer, now } catalog batch = .ok (after, count) ∧
        receipt = { caseId := id, updated := decisions.length, audited := count } := by
  constructor
  · intro h
    rw [review] at h
    split at h
    · cases h
    · rename_i view hview
      split at h
      · cases h
      · rename_i hterm
        split at h
        · cases h
        · rename_i hrepeated
          split at h
          · cases h
          · rename_i batch hall
            cases happly : applyAll { view, reviewer, now } catalog batch with
            | error e =>
              rw [happly] at h
              cases h
            | ok done =>
              rw [happly] at h
              cases h
              exact ⟨view, batch, done.2, hview, Bool.eq_false_iff.2 hterm,
                repeatedIds_eq_nil_iff.1 (Decidable.of_not_not hrepeated),
                checkAll_eq_ok_iff.1 hall, happly, by rw [id_of_caseView? hview]⟩
  · rintro ⟨view, batch, count, hview, hterm, hnodup, hchecks, happly, rfl⟩
    simp [review, hview, hterm, repeatedIds_eq_nil_iff.2 hnodup, checkAll_eq_ok_iff.2 hchecks,
      happly, Except.map, id_of_caseView? hview]

/-- An accepted batch leaves everything that the gates and checks of a later one read, apart from
the line items it names. -/
theorem Frame.of_review (h : catalog.review id reviewer decisions now = .ok (after, receipt)) :
    Frame catalog after := by
  obtain ⟨view, batch, count, -, -, hnodup, hchecks, happly, -⟩ := review_eq_ok_iff.1 h
  exact (carriedAll_of_applyAll happly).frame (.of_checks hnodup hchecks)

/-- An accepted batch leaves the line items that it does not name. -/
theorem lineItem?_of_review (h : catalog.review id reviewer decisions now = .ok (after, receipt))
    {line : LineItemId} (hline : line ∉ decisions.map Decision.id) :
    after.lineItem? line = catalog.lineItem? line := by
  obtain ⟨view, batch, count, -, -, -, hchecks, happly, -⟩ := review_eq_ok_iff.1 h
  refine (carriedAll_of_applyAll happly).lineItem?_of_not_mem ?_
  rwa [map_item_id_of_checks hchecks]

end Catalog

namespace Desk

variable {desk after : Desk}

/-! ## §2 Desks -/

/-- The desk with another catalog in its store. -/
def withCatalog (desk : Desk) (catalog : Catalog) : Desk :=
  { desk with store := desk.store.commit catalog }

theorem access_eq_ok_iff {store : Store} {catalog : Catalog} :
    store.access = .ok catalog ↔ store.broken = false ∧ store.catalog = catalog := by
  rw [Store.access]
  cases store.broken <;> simp

theorem review_eq_ok_iff :
    desk.review id reviewer decisions now = (after, .ok receipt) ↔
      ∃ catalog reviewed, desk.store.access = .ok catalog ∧
        catalog.review id reviewer decisions now = .ok (reviewed, receipt) ∧
        after = desk.withCatalog reviewed := by
  rw [review]
  cases haccess : desk.store.access with
  | error e => simp
  | ok catalog =>
    cases hreview : catalog.review id reviewer decisions now with
    | error e => cases e <;> simp [hreview]
    | ok done =>
      obtain ⟨reviewed, receipt'⟩ := done
      simp only [hreview, Prod.mk.injEq, Except.ok.injEq]
      constructor
      · rintro ⟨rfl, rfl⟩
        exact ⟨catalog, reviewed, rfl, hreview, rfl⟩
      · rintro ⟨_, reviewed', rfl, h, rfl⟩
        rw [hreview] at h
        cases h
        exact ⟨rfl, rfl⟩

/-- A batch of a permitted reviewer comes out as it does on the catalog of the store. -/
theorem outcome_of_mayReview {catalog : Catalog} (hmay : desk.mayReview reviewer = .ok true)
    (haccess : desk.store.access = .ok catalog) :
    (desk.assess id reviewer decisions now).2
      = (catalog.review id reviewer decisions now).map Prod.snd := by
  simp only [assess, hmay, review, haccess]
  cases catalog.review id reviewer decisions now with
  | ok done => rfl
  | error e => cases e <;> rfl

/-- A batch is accepted at a desk where the reviewer is permitted and the catalog of the store
accepts it; that catalog then takes its place. -/
theorem assess_eq_ok_iff :
    desk.assess id reviewer decisions now = (after, .ok receipt) ↔
      desk.mayReview reviewer = .ok true ∧
      ∃ catalog reviewed, desk.store.access = .ok catalog ∧
        catalog.review id reviewer decisions now = .ok (reviewed, receipt) ∧
        after = desk.withCatalog reviewed := by
  rw [assess, ← review_eq_ok_iff]
  cases desk.mayReview reviewer with
  | error e => simp
  | ok permitted => cases permitted <;> simp

end Desk

end ExportControl
