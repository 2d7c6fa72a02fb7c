/-
ExportControl.Proofs.Availability — how long a store answers.

A store answers until a transaction breaks off for want of identifiers, and never
afterwards; what it held by then it goes on holding. A batch can be told beforehand
to get by with the identifiers that are left.

  §1 Operations   — `Desk.handle`, `Desk.failure?`: what callers can ask of a desk,
                    and what they are told if they get no result.
  §2 Commits      — `Desk.commits`: the catalogs that operations put into the store.
  §3 One step     — `serves_handle`, `handle_alone_of_broken`: what one operation makes
                    of a store that answers, and of one that does not.
  §4 Breaking off — `steps_eq_error_iff`: where a transaction breaks off;
                    `review_eq_exhausted_iff`: where a batch does.
  §5 Runs         — `store_answers_until_it_breaks`.
-/
import ExportControl.Proofs.CasePrecedents
import ExportControl.Proofs.Composition
import ExportControl.Proofs.Effects
import ExportControl.Proofs.Transactions
import ExportControl.Suggestion.Report
import Mathlib.Data.List.Perm.Subperm

namespace ExportControl

open Suggestion (Suggester Report)

/-! ## §1 Operations -/

/-- What callers ask of a desk: to do something, or for something to read. -/
inductive Operation where
  | activity (activity : Activity)
  | goodPrecedents (id : GoodId)
  | casePrecedents (id : CaseId)
  | suggestions (remap : Remap) (baseUrl : Option String)

/-- What is said of a transaction that gives no answers, as it is said of a batch. -/
def TransactionError.toAssessError : TransactionError → AssessError
  | store cause => .store cause
  | exhausted cause => .exhausted cause

/-- What a caller is told who gets no result. -/
def toldOf {ε α : Type} (tell : ε → AssessError) : Except ε α → Option AssessError
  | .ok _ => none
  | .error e => some (tell e)

namespace Desk

/-- The suggestions for the lines of the store. -/
def suggestions (desk : Desk) (remap : Remap) (baseUrl : Option String) :
    Except StoreError Report :=
  desk.store.access.map fun catalog =>
    (Suggester.ofCatalog catalog remap baseUrl).report catalog.candidates

/-- The desk after an operation. -/
def handle (desk : Desk) : Operation → Desk
  | .activity activity => desk.act activity
  | .goodPrecedents _ | .casePrecedents _ | .suggestions _ _ => desk

/-- What a caller is told whose operation gives no result. -/
def failure? (desk : Desk) : Operation → Option AssessError
  | .activity (.event (.assess id reviewer decisions now)) =>
    toldOf (fun e => e) (desk.assess id reviewer decisions now).2
  | .activity (.event (.setStoreStatus id status)) =>
    toldOf .store (desk.setStoreStatus id status).2
  | .activity (.event (.setDirectoryStatus id status)) =>
    toldOf .store (desk.setDirectoryStatus id status).2
  | .activity (.transaction steps commits) =>
    toldOf TransactionError.toAssessError (desk.transact steps commits).2
  | .goodPrecedents id => toldOf (fun e => e) (desk.goodPrecedents id)
  | .casePrecedents id => toldOf (fun e => e) (desk.casePrecedents id)
  | .suggestions remap baseUrl => toldOf .store (desk.suggestions remap baseUrl)

/-- The desk after operations. -/
def handleAll (desk : Desk) (operations : List Operation) : Desk := operations.foldl handle desk

theorem handleAll_append (desk : Desk) (earlier later : List Operation) :
    desk.handleAll (earlier ++ later) = (desk.handleAll earlier).handleAll later :=
  List.foldl_append

/-- One of the operations broke off while a pair was linked. -/
def BreaksOff (desk : Desk) (operations : List Operation) : Prop :=
  ∃ earlier operation later, operations = earlier ++ operation :: later ∧
    (desk.handleAll earlier).failure? operation = some (.exhausted .summaryIds)

end Desk

/-! ## §2 Commits -/

/-- What an operation puts in the place of a catalog, if it succeeds and changes anything at all:
an accepted batch, a committed transaction and a status change do. -/
def Catalog.committed? (catalog : Catalog) : Operation → Option Catalog
  | .activity (.event (.assess id reviewer decisions now)) =>
    (catalog.assess id reviewer decisions now).toOption.map Prod.fst
  | .activity (.event (.setStoreStatus id status))
  | .activity (.event (.setDirectoryStatus id status)) => (catalog.setCaseStatus id status).toOption
  | .activity (.transaction steps commits) =>
    if commits then (catalog.steps steps).toOption.map Prod.fst else none
  | .goodPrecedents _ | .casePrecedents _ | .suggestions _ _ => none

namespace Desk

/-- What an operation puts into the store, as long as the store answers. -/
def committed? (desk : Desk) (operation : Operation) : Option Catalog :=
  desk.store.access.toOption.bind fun catalog => catalog.committed? operation

/-- The catalogs that operations put into the store, in order. -/
def commits : Desk → List Operation → List Catalog
  | _, [] => []
  | desk, operation :: operations =>
    (desk.committed? operation).toList ++ commits (desk.handle operation) operations

/-- The desk at which one store answers for cases and permissions as well. -/
def alone (store : Store) : Desk where
  store
  directory := none
  permissions := none

end Desk

/-! ## §3 One step -/

namespace Catalog

variable {catalog : Catalog} {e : StoreError}

/-- What a store that answers says is missing is a record, never the store itself. -/
theorem ne_outOfUse_of_requireGood {id : GoodId} (h : catalog.requireGood id = .error e) :
    e ≠ Store.outOfUse := by
  rw [requireGood] at h
  split at h
  · cases h
  · cases h
    simp [Store.outOfUse]

theorem ne_outOfUse_of_precedents {id : GoodId} (h : catalog.precedents id = .error e) :
    e ≠ Store.outOfUse := by
  rw [precedents] at h
  cases hgood : catalog.requireGood id with
  | error e' =>
    rw [hgood] at h
    cases h
    exact ne_outOfUse_of_requireGood hgood
  | ok good =>
    rw [hgood] at h
    cases h

theorem ne_outOfUse_of_casePrecedents {directory : Catalog} {view : CaseView}
    (h : catalog.casePrecedents directory view = .error e) : e ≠ Store.outOfUse := by
  rw [casePrecedents_eq, groupsFor] at h
  split at h
  · cases h
    simp [Store.outOfUse]
  · cases h

theorem ne_outOfUse_of_setCaseStatus {id : CaseId} {status : CaseStatus}
    (h : catalog.setCaseStatus id status = .error e) : e ≠ Store.outOfUse := by
  rw [setCaseStatus] at h
  split at h
  · cases h
  · cases h
    simp [Store.outOfUse]

theorem ne_outOfUse_of_review {id : CaseId} {reviewer : ReviewerId} {decisions : List Decision}
    {now : Instant} {e : AssessError} (h : catalog.review id reviewer decisions now = .error e) :
    e ≠ .store Store.outOfUse := by
  have hspec := catalog.review_spec id reviewer decisions now
  rw [h] at hspec
  rintro rfl
  simp only [refusal?] at hspec
  split at hspec
  · cases hspec
  · split at hspec
    · cases hspec
    · split at hspec
      · split at hspec
        · obtain ⟨good, -, heq⟩ := Option.map_eq_some_iff.1 hspec
          simp [Store.outOfUse] at heq
        · cases hspec
      · cases hspec

end Catalog

namespace Desk

variable {catalog : Catalog}

/-- A store that is out of use stays as it is, and every caller is told so. -/
theorem handle_alone_of_broken (catalog : Catalog) (operation : Operation) :
    (alone ⟨catalog, true⟩).handle operation = alone ⟨catalog, true⟩ ∧
      (alone ⟨catalog, true⟩).failure? operation = some (.store Store.outOfUse) := by
  cases operation with
  | activity activity =>
    cases activity with
    | event event => cases event <;> exact ⟨rfl, rfl⟩
    | transaction steps commits => exact ⟨rfl, rfl⟩
  | goodPrecedents id => exact ⟨rfl, rfl⟩
  | casePrecedents id => exact ⟨rfl, rfl⟩
  | suggestions remap baseUrl => exact ⟨rfl, rfl⟩

theorem assess_alone (catalog : Catalog) (id : CaseId) (reviewer : ReviewerId)
    (decisions : List Decision) (now : Instant) :
    (alone ⟨catalog, false⟩).assess id reviewer decisions now =
      match catalog.assess id reviewer decisions now with
      | .ok (after, receipt) => (alone ⟨after, false⟩, .ok receipt)
      | .error (.exhausted x) => (alone ⟨catalog, true⟩, .error (.exhausted x))
      | .error e => (alone ⟨catalog, false⟩, .error e) := by
  have hmay : (alone ⟨catalog, false⟩).mayReview reviewer = .ok (catalog.mayReview reviewer) := rfl
  have haccess : (alone ⟨catalog, false⟩).store.access = .ok catalog := rfl
  rw [assess, hmay, Catalog.assess]
  cases catalog.mayReview reviewer with
  | false => rfl
  | true =>
    simp only [review, haccess, if_true]
    cases catalog.review id reviewer decisions now with
    | ok done => rfl
    | error e => cases e <;> rfl

theorem transact_alone (catalog : Catalog) (steps : List Step) (commits : Bool) :
    (alone ⟨catalog, false⟩).transact steps commits =
      match catalog.steps steps with
      | .ok (after, answers) => (alone ⟨if commits then after else catalog, false⟩, .ok answers)
      | .error x => (alone ⟨catalog, true⟩, .error (.exhausted x)) := by
  have haccess : (alone ⟨catalog, false⟩).store.access = .ok catalog := rfl
  simp only [transact, Store.transact, haccess]
  cases catalog.steps steps with
  | error x => rfl
  | ok done => cases commits <;> rfl

theorem setStoreStatus_alone (catalog : Catalog) (id : CaseId) (status : CaseStatus) :
    (alone ⟨catalog, false⟩).setStoreStatus id status =
      match catalog.setCaseStatus id status with
      | .ok after => (alone ⟨after, false⟩, .ok ())
      | .error e => (alone ⟨catalog, false⟩, .error e) := by
  have haccess : (alone ⟨catalog, false⟩).store.access = .ok catalog := rfl
  simp only [setStoreStatus, Store.setCaseStatus, haccess]
  cases catalog.setCaseStatus id status <;> rfl

/-- What an operation does to a store that answers: it leaves what it commits, if anything, and it
leaves the store out of use just where it breaks off. An operation that gives no result commits
nothing, and no caller is told that the store is out of use. -/
structure Serves (catalog : Catalog) (operation : Operation) (after : Desk)
    (told : Option AssessError) : Prop where
  after_eq : after = alone
    ⟨(catalog.committed? operation).getD catalog, told = some (.exhausted .summaryIds)⟩
  drops : told ≠ none → catalog.committed? operation = none
  answers : told ≠ some (.store Store.outOfUse)

theorem serves_assess (catalog : Catalog) (id : CaseId) (reviewer : ReviewerId)
    (decisions : List Decision) (now : Instant) :
    Serves catalog (.activity (.event (.assess id reviewer decisions now)))
      ((alone ⟨catalog, false⟩).assess id reviewer decisions now).1
      (toldOf (fun e => e) ((alone ⟨catalog, false⟩).assess id reviewer decisions now).2) := by
  rw [assess_alone]
  cases hassess : catalog.assess id reviewer decisions now with
  | ok done =>
    have hcommitted : catalog.committed? (.activity (.event (.assess id reviewer decisions now)))
        = some done.1 := by rw [Catalog.committed?, hassess]; rfl
    exact ⟨by simp [hcommitted, toldOf], by simp [toldOf], by simp [toldOf]⟩
  | error e =>
    have hcommitted : catalog.committed? (.activity (.event (.assess id reviewer decisions now)))
        = none := by rw [Catalog.committed?, hassess]; rfl
    have hanswers : e ≠ .store Store.outOfUse := by
      rw [Catalog.assess] at hassess
      split at hassess
      · exact Catalog.ne_outOfUse_of_review hassess
      · cases hassess
        simp
    cases e with
    | exhausted x =>
      cases x
      exact ⟨by simp [hcommitted, toldOf], fun _ => hcommitted, by simp [toldOf]⟩
    | _ =>
      exact ⟨by simp [hcommitted, toldOf], fun _ => hcommitted,
        fun htold => hanswers (Option.some.inj htold)⟩

theorem serves_transact (catalog : Catalog) (steps : List Step) (commits : Bool) :
    Serves catalog (.activity (.transaction steps commits))
      ((alone ⟨catalog, false⟩).transact steps commits).1
      (toldOf TransactionError.toAssessError
        ((alone ⟨catalog, false⟩).transact steps commits).2) := by
  rw [transact_alone]
  cases hsteps : catalog.steps steps with
  | ok done =>
    refine ⟨?_, by simp [toldOf], by simp [toldOf]⟩
    cases commits <;> simp [Catalog.committed?, hsteps, Except.toOption, toldOf]
  | error x =>
    cases x
    have hcommitted : catalog.committed? (.activity (.transaction steps commits)) = none := by
      rw [Catalog.committed?, hsteps]
      exact ite_self none
    exact ⟨by simp [hcommitted, toldOf, TransactionError.toAssessError], fun _ => hcommitted,
      by simp [toldOf, TransactionError.toAssessError]⟩

theorem serves_setStoreStatus (catalog : Catalog) (id : CaseId) (status : CaseStatus) :
    Serves catalog (.activity (.event (.setStoreStatus id status)))
      ((alone ⟨catalog, false⟩).setStoreStatus id status).1
      (toldOf .store ((alone ⟨catalog, false⟩).setStoreStatus id status).2) := by
  rw [setStoreStatus_alone]
  cases hset : catalog.setCaseStatus id status with
  | ok after =>
    exact ⟨by simp [Catalog.committed?, hset, Except.toOption, toldOf], by simp [toldOf],
      by simp [toldOf]⟩
  | error e =>
    have hcommitted : catalog.committed? (.activity (.event (.setStoreStatus id status)))
        = none := by rw [Catalog.committed?, hset]; rfl
    exact ⟨by simp [hcommitted, toldOf], fun _ => hcommitted,
      by simpa [toldOf] using Catalog.ne_outOfUse_of_setCaseStatus hset⟩

/-- What is only read leaves the store, as long as the reading itself does not say otherwise. -/
theorem serves_of_read {α : Type} {operation : Operation} {found : Except StoreError α}
    (hnone : catalog.committed? operation = none)
    (hanswers : ∀ e, found = .error e → e ≠ Store.outOfUse) :
    Serves catalog operation (alone ⟨catalog, false⟩)
      (toldOf (fun e => e) (found.mapError .store)) := by
  refine ⟨?_, fun _ => hnone, ?_⟩
  · cases found <;> simp [hnone, Except.mapError, toldOf]
  · cases hfound : found with
    | ok a => simp [Except.mapError, toldOf]
    | error e => simpa [Except.mapError, toldOf] using hanswers e hfound

theorem serves_casePrecedents (catalog : Catalog) (id : CaseId) :
    Serves catalog (.casePrecedents id) (alone ⟨catalog, false⟩)
      (toldOf (fun e => e) ((alone ⟨catalog, false⟩).casePrecedents id)) := by
  have haccess : (alone ⟨catalog, false⟩).store.access = .ok catalog := rfl
  have hdirectory : (alone ⟨catalog, false⟩).caseStore.access = .ok catalog := rfl
  simp only [Desk.casePrecedents, hdirectory, haccess]
  cases catalog.caseView? id with
  | none => exact ⟨rfl, fun _ => rfl, by simp [toldOf]⟩
  | some view =>
    simp only
    cases view.lineItems with
    | nil => exact ⟨rfl, fun _ => rfl, by simp [toldOf]⟩
    | cons line lines =>
      exact serves_of_read rfl fun e => Catalog.ne_outOfUse_of_casePrecedents

theorem serves_handle (catalog : Catalog) (operation : Operation) :
    Serves catalog operation ((alone ⟨catalog, false⟩).handle operation)
      ((alone ⟨catalog, false⟩).failure? operation) := by
  cases operation with
  | activity activity =>
    cases activity with
    | event event =>
      cases event with
      | assess id reviewer decisions now => exact serves_assess catalog id reviewer decisions now
      | setStoreStatus id status => exact serves_setStoreStatus catalog id status
      | setDirectoryStatus id status =>
        -- The store is its own directory of cases.
        obtain ⟨hafter, hdrops, hanswers⟩ := serves_setStoreStatus catalog id status
        exact ⟨hafter, hdrops, hanswers⟩
    | transaction steps commits => exact serves_transact catalog steps commits
  | goodPrecedents id => exact serves_of_read rfl fun e => Catalog.ne_outOfUse_of_precedents
  | casePrecedents id => exact serves_casePrecedents catalog id
  | suggestions remap baseUrl =>
    have hread : (alone ⟨catalog, false⟩).failure? (.suggestions remap baseUrl) = none := rfl
    rw [hread]
    exact ⟨rfl, fun _ => rfl, by simp⟩

/-- What breaks off leaves the catalog, and the store out of use. -/
theorem handle_alone_of_breaking {operation : Operation}
    (h : (alone ⟨catalog, false⟩).failure? operation = some (.exhausted .summaryIds)) :
    catalog.committed? operation = none ∧
      (alone ⟨catalog, false⟩).handle operation = alone ⟨catalog, true⟩ := by
  obtain ⟨hafter, hdrops, -⟩ := serves_handle catalog operation
  have hnone := hdrops (by rw [h]; nofun)
  rw [hnone, h, decide_eq_true rfl] at hafter
  exact ⟨hnone, hafter⟩

end Desk

/-! ## §4 Breaking off -/

/-- The pairs that a decision names, also those that it does not link. -/
def Decision.named (decision : Decision) : List PairKey :=
  decision.pairs.map PairRef.key ++
    decision.subject.toList.map fun subject => (decision.pre, subject)

theorem Decision.keys_subset_named (decision : Decision) : decision.keys ⊆ decision.named := by
  rw [keys, named]
  split
  · split
    · exact List.subset_append_left _ _
    · exact List.subset_append_right _ _
  · exact List.nil_subset _

theorem nodup_eraseDups {α : Type} [BEq α] [LawfulBEq α] (as : List α) : as.eraseDups.Nodup := by
  match as with
  | [] => simp
  | a :: as =>
    rw [List.eraseDups_cons, List.nodup_cons, List.mem_eraseDups]
    exact ⟨by simp, nodup_eraseDups _⟩
termination_by as.length
decreasing_by exact Nat.lt_succ_of_le (List.length_filter_le _ _)

/-- Fewer pairs need no more identifiers. -/
theorem SummaryTable.demand_le_of_subset (table : SummaryTable) {keys others : List PairKey}
    (h : keys ⊆ others) : table.demand keys ≤ table.demand others := by
  have hsubset : table.unlinked keys ⊆ table.unlinked others := by
    intro key hkey
    rw [unlinked, List.mem_eraseDups, List.mem_filter] at hkey ⊢
    exact ⟨h hkey.1, hkey.2⟩
  exact Nat.add_le_add_left ((nodup_eraseDups _).subperm hsubset).length_le _

/-- A pair cannot be linked just where it has no row and the largest identifier is the last one
there is. -/
theorem SummaryTable.link_eq_error_iff {table : SummaryTable} {pre : Option Prefix}
    {subject : Subject} {x : Exhausted} :
    table.link pre subject = .error x ↔
      table.has (pre.map Prefix.id, subject.id) = false ∧ table.lastId = 4294967295 := by
  have hlast := table.lastId_lt
  have hsize : UInt32.size = 4294967296 := rfl
  rw [link, has]
  cases table.find? (pre.map Prefix.id) subject.id with
  | some row => simp
  | none =>
    rw [nextId?]
    by_cases hnext : table.lastId + 1 < UInt32.size
    · rw [if_pos hnext]
      simp
      omega
    · rw [if_neg hnext]
      cases x
      simp
      omega

namespace Catalog

variable {before mid after : Catalog} {sitting : Sitting} {batch : List Checked} {count : Nat}

/-- The table has no row for a pair, and no identifier for one. -/
def CannotLink (catalog : Catalog) (pre : Option Prefix) (subject : Subject) : Prop :=
  catalog.summaries.has (pre.map Prefix.id, subject.id) = false ∧
    catalog.summaries.lastId = 4294967295

theorem step_eq_error_iff {step : Step} {x : Exhausted} :
    before.step step = .error x ↔
      ∃ pre subject, step = .link pre subject ∧ before.CannotLink pre subject := by
  cases step with
  | link pre subject =>
    have hlink : before.step (.link pre subject) = .error x ↔
        before.summaries.link pre subject = .error x := by
      rw [Catalog.step, linkSummary]
      cases before.summaries.link pre subject <;> simp [Except.map]
    rw [hlink, SummaryTable.link_eq_error_iff]
    exact ⟨fun h => ⟨pre, subject, rfl, h⟩, by rintro ⟨pre, subject, ⟨⟩, h⟩; exact h⟩
  | setFlag good flag enabled =>
    rw [Catalog.step]
    cases before.setFlag good flag enabled <;> simp
  | _ => simp [Catalog.step]

/-- The steps of a transaction break off just where they come to a pair that cannot be linked. -/
theorem steps_eq_error_iff {steps : List Step} {x : Exhausted} :
    before.steps steps = .error x ↔
      ∃ done pre subject rest mid answers, steps = done ++ .link pre subject :: rest ∧
        before.steps done = .ok (mid, answers) ∧ mid.CannotLink pre subject := by
  induction steps generalizing before with
  | nil =>
    refine ⟨nofun, ?_⟩
    rintro ⟨done, pre, subject, rest, mid, answers, heq, -⟩
    simp at heq
  | cons step steps ih =>
    rw [Catalog.steps]
    constructor
    · intro h
      cases hstep : before.step step with
      | error y =>
        obtain ⟨pre, subject, rfl, hcannot⟩ := step_eq_error_iff.1 hstep
        exact ⟨[], pre, subject, steps, before, [], rfl, rfl, hcannot⟩
      | ok first =>
        cases hrest : first.1.steps steps with
        | ok last =>
          simp only [hstep, hrest] at h
          cases h
        | error y =>
          cases x
          cases y
          obtain ⟨done, pre, subject, rest, mid, answers, rfl, hdone, hcannot⟩ := ih.1 hrest
          refine ⟨step :: done, pre, subject, rest, mid, first.2 :: answers, rfl, ?_, hcannot⟩
          simp only [Catalog.steps, hstep, hdone]
    · rintro ⟨done, pre, subject, rest, mid, answers, heq, hdone, hcannot⟩
      cases done with
      | nil =>
        cases hdone
        cases heq
        rw [step_eq_error_iff.2 ⟨pre, subject, rfl, hcannot⟩]
      | cons first done =>
        cases heq
        rw [Catalog.steps] at hdone
        cases hstep : before.step step with
        | error y => simp only [hstep] at hdone; cases hdone
        | ok result =>
          rw [hstep] at hdone
          cases hmid : result.1.steps done with
          | error y =>
            simp only [hmid] at hdone
            cases hdone
          | ok last =>
            simp only [hmid] at hdone
            cases hdone
            simp only [ih.2 ⟨done, pre, subject, rest, last.1, last.2, rfl, hmid, hcannot⟩]

/-- Once a batch is carried out, all identifiers that it needed are in use. -/
theorem CarriedAll.demand (h : CarriedAll sitting before batch after count) :
    before.summaries.demand (batch.flatMap Checked.keys) = after.summaries.lastId := by
  induction h with
  | nil catalog => rfl
  | @cons before mid after checked batch audited description name count first rest ih =>
    have hspec := classify_spec before checked (batch.flatMap Checked.keys)
    obtain ⟨linked, hclassify, hsummaries⟩ := first.described
    rw [hclassify] at hspec
    rw [List.flatMap_cons, ← hspec.2, hsummaries, ih]

/-- A batch that there is no other reason to refuse breaks off just where the identifiers do not
suffice for the pairs that it links. -/
theorem review_eq_exhausted_iff {id : CaseId} {decisions : List Decision}
    (hnone : before.refusal? id decisions = none) (reviewer : ReviewerId) (now : Instant) :
    before.review id reviewer decisions now = .error (.exhausted .summaryIds) ↔
      UInt32.size ≤ before.summaries.demand (decisions.flatMap Decision.keys) := by
  have hspec := before.review_spec id reviewer decisions now
  cases hreview : before.review id reviewer decisions now with
  | ok done =>
    obtain ⟨after, receipt⟩ := done
    obtain ⟨view, batch, count, -, -, -, hchecks, happly, -⟩ := review_eq_ok_iff.1 hreview
    have hdemand := (carriedAll_of_applyAll happly).demand
    rw [flatMap_keys_of_checks hchecks] at hdemand
    simpa [hdemand] using after.summaries.lastId_lt
  | error e =>
    rw [hreview] at hspec
    cases e with
    | exhausted x =>
      cases x
      exact ⟨fun _ => hspec, fun _ => rfl⟩
    | _ =>
      rw [hnone] at hspec
      cases hspec

end Catalog

/-! ## §5 Runs -/

namespace Desk

variable {catalog : Catalog} {desk : Desk} {operation : Operation} {operations : List Operation}

theorem breaksOff_nil (desk : Desk) : ¬ desk.BreaksOff [] := by
  rintro ⟨earlier, operation, later, heq, -⟩
  simp at heq

theorem breaksOff_cons :
    desk.BreaksOff (operation :: operations) ↔
      desk.failure? operation = some (.exhausted .summaryIds) ∨
        (desk.handle operation).BreaksOff operations := by
  constructor
  · rintro ⟨earlier, breaking, later, heq, hbreaks⟩
    cases earlier with
    | nil =>
      cases heq
      exact .inl hbreaks
    | cons first earlier =>
      cases heq
      exact .inr ⟨earlier, breaking, later, rfl, hbreaks⟩
  · rintro (hbreaks | ⟨earlier, breaking, later, rfl, hbreaks⟩)
    · exact ⟨[], operation, operations, rfl, hbreaks⟩
    · exact ⟨operation :: earlier, breaking, later, rfl, hbreaks⟩

/-- Nothing is made of a store that is out of use. -/
theorem handleAll_alone_of_broken (catalog : Catalog) (operations : List Operation) :
    (alone ⟨catalog, true⟩).handleAll operations = alone ⟨catalog, true⟩ ∧
      (alone ⟨catalog, true⟩).commits operations = [] := by
  induction operations with
  | nil => exact ⟨rfl, rfl⟩
  | cons operation operations ih =>
    obtain ⟨hafter, -⟩ := handle_alone_of_broken catalog operation
    rw [handleAll, List.foldl_cons, commits, hafter]
    exact ih

/-- After operations a store holds what was committed last, and it is out of use just where one
of them broke off. -/
theorem handleAll_alone (catalog : Catalog) (operations : List Operation) :
    ∃ broken : Bool,
      (alone ⟨catalog, false⟩).handleAll operations
        = alone ⟨((alone ⟨catalog, false⟩).commits operations).getLast?.getD catalog, broken⟩ ∧
      (broken = true ↔ (alone ⟨catalog, false⟩).BreaksOff operations) := by
  induction operations generalizing catalog with
  | nil => exact ⟨false, rfl, by simp [breaksOff_nil]⟩
  | cons operation operations ih =>
    rw [breaksOff_cons, handleAll, List.foldl_cons, commits]
    by_cases hbreaks :
        (alone ⟨catalog, false⟩).failure? operation = some (.exhausted .summaryIds)
    · obtain ⟨hnone, hafter⟩ := handle_alone_of_breaking hbreaks
      have hcommitted : (alone ⟨catalog, false⟩).committed? operation = none := hnone
      obtain ⟨hrest, hcommits⟩ := handleAll_alone_of_broken catalog operations
      rw [hcommitted, hafter, hcommits]
      exact ⟨true, hrest, by simp [hbreaks]⟩
    · rw [(serves_handle catalog operation).after_eq, decide_eq_false hbreaks]
      obtain ⟨broken, hrest, hbroken⟩ := ih ((catalog.committed? operation).getD catalog)
      refine ⟨broken, ?_, by simpa [hbreaks] using hbroken⟩
      have hcommitted : (alone ⟨catalog, false⟩).committed? operation
          = catalog.committed? operation := rfl
      rw [← handleAll, hrest, hcommitted, List.getLast?_append]
      cases catalog.committed? operation with
      | none => simp
      | some kept =>
        cases List.getLast? _ <;> rfl

/-- A batch for whose pairs the identifiers suffice does not break off. -/
theorem failure?_assess_ne_exhausted {decisions : List Decision}
    (h : desk.store.catalog.summaries.demand (decisions.flatMap Decision.named) ≤ 4294967295)
    (id : CaseId) (reviewer : ReviewerId) (now : Instant) :
    desk.failure? (.activity (.event (.assess id reviewer decisions now))) ≠
      some (.exhausted .summaryIds) := by
  have houtcome := desk.assess_outcome id reviewer decisions now
  rw [failure?]
  cases hassess : desk.assess id reviewer decisions now with
  | mk after result =>
    rw [hassess] at houtcome
    cases result with
    | ok receipt => simp [toldOf]
    | error e =>
      cases e with
      | exhausted x =>
        obtain ⟨-, catalog, haccess, hdemand⟩ := houtcome
        obtain ⟨-, rfl⟩ := access_eq_ok_iff.1 haccess
        have hsubset : decisions.flatMap Decision.keys ⊆ decisions.flatMap Decision.named := by
          intro key hkey
          obtain ⟨decision, hmem, hkey⟩ := List.mem_flatMap.1 hkey
          exact List.mem_flatMap.2 ⟨decision, hmem, decision.keys_subset_named hkey⟩
        have hle := desk.store.catalog.summaries.demand_le_of_subset hsubset
        have hsize : UInt32.size = 4294967296 := rfl
        omega
      | _ => simp [toldOf]

/-- **Availability.** Where a store answers for cases and permissions as well, callers are told
that it is out of use exactly after an operation broke off while a pair was linked: then every
one of them is told so, and the store goes on holding what was committed last before that. A
batch does not break off if the largest identifier and the number of unlinked pairs that the
batch names, each counted once, do not add up to more than the last identifier there is. -/
theorem store_answers_until_it_breaks (catalog : Catalog) (earlier : List Operation) :
    let opened := alone ⟨catalog, false⟩
    let desk := opened.handleAll earlier
    (∀ operation,
      desk.failure? operation = some (.store Store.outOfUse) ↔ opened.BreaksOff earlier) ∧
    (∀ first breaking later, earlier = first ++ breaking :: later →
      (opened.handleAll first).failure? breaking = some (.exhausted .summaryIds) →
        desk = alone ⟨(opened.commits first).getLast?.getD catalog, true⟩) ∧
    ∀ id reviewer decisions now,
      desk.store.catalog.summaries.demand (decisions.flatMap Decision.named) ≤ 4294967295 →
        desk.failure? (.activity (.event (.assess id reviewer decisions now))) ≠
          some (.exhausted .summaryIds) := by
  intro opened desk
  refine ⟨fun operation => ?_, ?_, fun id reviewer _ now h =>
    failure?_assess_ne_exhausted h id reviewer now⟩
  · obtain ⟨broken, hdesk, hbroken⟩ := handleAll_alone catalog earlier
    rw [show desk = _ from hdesk, ← hbroken]
    cases broken with
    | true => simp [(handle_alone_of_broken _ operation).2]
    | false => simp [(serves_handle _ operation).answers]
  · rintro first breaking later rfl hbreaks
    obtain ⟨broken, hfirst, -⟩ := handleAll_alone catalog first
    rw [show opened.handleAll first = _ from hfirst] at hbreaks
    cases broken with
    | true =>
      rw [(handle_alone_of_broken _ breaking).2] at hbreaks
      cases hbreaks
    | false =>
      have hafter := (handle_alone_of_breaking hbreaks).2
      rw [show desk = _ from handleAll_append opened first (breaking :: later),
        show opened.handleAll first = _ from hfirst, handleAll, List.foldl_cons, hafter]
      exact (handleAll_alone_of_broken _ later).1

/-- The catalog of `sharedGood`, with the last identifier given to another pair. -/
def lastRowGiven : Catalog :=
  { sharedGood.store.catalog with
    summaries := ⟨[⟨⟨4294967295⟩, none, ⟨⟨7⟩, "sniper rifles", none⟩⟩]⟩ }

/-- The case of `sharedGood` is moved on. -/
def moving : Operation := .activity (.event (.setStoreStatus ⟨"case-1"⟩ .initialChecks))

/-- A batch at `sharedGood`. -/
def handingIn (decisions : List Decision) : Operation :=
  .activity (.event (.assess ⟨"case-1"⟩ ⟨"officer"⟩ decisions
    { year := 2024, month := 5, day := 1, second := 36000, nano := 0 }))

/-- A batch breaks off, and of what came before it the store goes on holding the status. -/
theorem store_breaks_without_identifiers :
    let opened := alone ⟨lastRowGiven, false⟩
    let desk := opened.handleAll [moving, handingIn [rate ⟨"line-1"⟩ "ML1a"]]
    desk.failure? (.casePrecedents ⟨"case-1"⟩) = some (.store Store.outOfUse) ∧
      (lastRowGiven.setCaseStatus ⟨"case-1"⟩ .initialChecks).toOption = some desk.store.catalog ∧
      (opened.handleAll [moving]).failure?
        (handingIn [{ rate ⟨"line-1"⟩ "ML1a" with pre := none }]) ≠
          some (.exhausted .summaryIds) := by
  intro opened desk
  have hbreaks : (opened.handleAll [moving]).failure? (handingIn [rate ⟨"line-1"⟩ "ML1a"])
      = some (.exhausted .summaryIds) := by rfl
  obtain ⟨htold, hkept, -⟩ :=
    store_answers_until_it_breaks lastRowGiven [moving, handingIn [rate ⟨"line-1"⟩ "ML1a"]]
  refine ⟨(htold _).2 ⟨[moving], _, [], rfl, hbreaks⟩, ?_, ?_⟩
  · rw [show desk = _ from hkept [moving] _ [] rfl hbreaks]
    rfl
  · exact (store_answers_until_it_breaks lastRowGiven [moving]).2.2 _ _ _ _ (by decide)

end Desk

end ExportControl
