/-
ExportControl.Proofs.Transactions — transactions between the events at a desk.

The steps of a transaction work on a copy of the catalog. Callers may commit the
outcome or drop it, and a transaction that breaks off leaves the catalog as it is.

  §1 Steps      — `invariant_of_steps`: what every step keeps is kept by all.
  §2 Outcomes   — `catalog_of_transact`: the catalog of the store afterwards.
  §3 Activities — `Desk.perform`: events and transactions, one after the other;
                  `invariant_of_perform`: what each of them keeps is kept by all.
-/
import ExportControl.Proofs.Runs

namespace ExportControl

/-! ## §1 Steps -/

namespace Catalog

variable {before after : Catalog}

/-- What every step of a transaction keeps is kept by all of them together. -/
theorem invariant_of_steps (inv : Catalog → Prop) {steps : List Step} {answers : List Answer}
    (hkept : ∀ step ∈ steps, ∀ first mid answer,
      first.step step = .ok (mid, answer) → inv first → inv mid)
    (hsteps : before.steps steps = .ok (after, answers)) (h : inv before) : inv after := by
  induction steps generalizing before answers with
  | nil =>
    cases hsteps
    exact h
  | cons step rest ih =>
    obtain ⟨hstep, hrest⟩ := List.forall_mem_cons.1 hkept
    rw [Catalog.steps] at hsteps
    split at hsteps
    · cases hsteps
    · rename_i mid answer hfirst
      split at hsteps
      · cases hsteps
      · rename_i last others hlater
        cases hsteps
        exact ih hrest hlater (hstep _ _ _ hfirst h)

end Catalog

/-! ## §2 Outcomes -/

namespace Desk

/-- A transaction leaves the catalog of the store, or it is committed and puts the outcome of its
steps in the catalog's place. -/
theorem catalog_of_transact (desk : Desk) (steps : List Step) (commits : Bool) :
    (desk.transact steps commits).1.store.catalog = desk.store.catalog ∨
    ∃ after answers, commits = true ∧ desk.store.catalog.steps steps = .ok (after, answers) ∧
      desk.transact steps commits = (desk.withCatalog after, .ok answers) := by
  simp only [transact, Store.transact]
  cases haccess : desk.store.access with
  | error e => exact .inl rfl
  | ok catalog =>
    obtain ⟨-, rfl⟩ := access_eq_ok_iff.1 haccess
    simp only
    cases hsteps : desk.store.catalog.steps steps with
    | error x => exact .inl rfl
    | ok done =>
      obtain ⟨after, answers⟩ := done
      cases commits with
      | false => exact .inl rfl
      | true => exact .inr ⟨after, answers, rfl, rfl, rfl⟩

/-- A transaction that is dropped leaves the catalog of the store. -/
theorem catalog_of_transact_false (desk : Desk) (steps : List Step) :
    (desk.transact steps false).1.store.catalog = desk.store.catalog := by
  rcases desk.catalog_of_transact steps false with hsame | ⟨after, answers, hcommits, -⟩
  · exact hsame
  · cases hcommits

/-- So does one that breaks off. -/
theorem catalog_of_transact_error {desk after : Desk} {steps : List Step} {commits : Bool}
    {e : TransactionError} (h : desk.transact steps commits = (after, .error e)) :
    after.store.catalog = desk.store.catalog := by
  rcases desk.catalog_of_transact steps commits with hsame | ⟨mid, answers, -, -, hok⟩
  · rwa [h] at hsame
  · rw [h] at hok
    cases hok

end Desk

/-! ## §3 Activities -/

/-- What callers do at a desk: events, and transactions that they commit or drop. -/
inductive Activity where
  | event (event : Event)
  | transaction (steps : List Step) (commits : Bool)
  deriving DecidableEq, Repr

namespace Desk

/-- The desk after an activity. -/
def act (desk : Desk) : Activity → Desk
  | .event event => desk.next event
  | .transaction steps commits => (desk.transact steps commits).1

/-- The desk after activities. -/
def perform (desk : Desk) (activities : List Activity) : Desk := activities.foldl act desk

theorem perform_append (desk : Desk) (earlier later : List Activity) :
    desk.perform (earlier ++ later) = (desk.perform earlier).perform later :=
  List.foldl_append

/-- What every activity keeps is kept by all of them together. -/
theorem invariant_of_perform (inv : Catalog → Prop) {activities : List Activity}
    (hkept : ∀ activity ∈ activities, ∀ desk : Desk,
      inv desk.store.catalog → inv (desk.act activity).store.catalog)
    {desk : Desk} (h : inv desk.store.catalog) : inv (desk.perform activities).store.catalog := by
  induction activities generalizing desk with
  | nil => exact h
  | cons activity rest ih =>
    obtain ⟨hactivity, hrest⟩ := List.forall_mem_cons.1 hkept
    exact ih hrest (hactivity desk h)

end Desk

end ExportControl
