/-
ExportControl.Assessment.Desk — where reviewers hand in their batches.

A desk works on a store. Cases may be looked up in a directory of their own, and
permissions in a list of their own; where there is none, the store answers for it.

* `Desk.assess` carries out a batch in one transaction.
* `Desk.goodPrecedents` and `Desk.casePrecedents` look up earlier reviews.
* `Desk.setStoreStatus` and `Desk.setDirectoryStatus` move cases.
-/
import ExportControl.Assessment.Batch
import ExportControl.Assessment.Precedent
import ExportControl.Catalog.Transaction

namespace ExportControl

/-- The stores that reviewers work with. -/
structure Desk where
  store : Store
  /-- Where cases are looked up, if not in the store. -/
  directory : Option Store
  /-- Where permissions are looked up, if not in the store. -/
  permissions : Option Store

namespace Desk

variable (desk : Desk)

/-- The store that answers for cases. -/
def caseStore : Store := desk.directory.getD desk.store

/-- The store that answers for permissions. -/
def permissionStore : Store := desk.permissions.getD desk.store

/-- Whether a reviewer may review goods. -/
def mayReview (reviewer : ReviewerId) : Except StoreError Bool :=
  desk.permissionStore.access.map fun catalog => catalog.mayReview reviewer

/-- A case of the directory. -/
def caseView? (id : CaseId) : Except StoreError (Option CaseView) :=
  desk.caseStore.access.map fun catalog => catalog.caseView? id

/-- Carries out a batch of a reviewer who has been let in. -/
def review (id : CaseId) (reviewer : ReviewerId) (decisions : List Decision) (now : Instant) :
    Desk × Except AssessError Receipt :=
  match desk.store.access with
  | .error e => (desk, .error (.store e))
  | .ok catalog =>
    match catalog.review id reviewer decisions now with
    | .ok (catalog, receipt) => ({ desk with store := desk.store.commit catalog }, .ok receipt)
    | .error (.exhausted x) =>
      ({ desk with store := desk.store.breakOff }, .error (.exhausted x))
    | .error e => (desk, .error e)

/-- Carries out a batch: the reviewer has to be permitted first. -/
def assess (id : CaseId) (reviewer : ReviewerId) (decisions : List Decision) (now : Instant) :
    Desk × Except AssessError Receipt :=
  match desk.mayReview reviewer with
  | .error e => (desk, .error (.store e))
  | .ok false => (desk, .error (.forbidden reviewer))
  | .ok true => desk.review id reviewer decisions now

/-- The precedents of a good. -/
def goodPrecedents (id : GoodId) : Except AssessError (List LineItem) :=
  match desk.store.access with
  | .error e => .error (.store e)
  | .ok catalog => (catalog.precedents id).mapError .store

/-- The precedents of a case. The store is asked only where the case has lines. -/
def casePrecedents (id : CaseId) : Except AssessError (List CasePrecedents) :=
  match desk.caseStore.access with
  | .error e => .error (.store e)
  | .ok directory =>
    match directory.caseView? id with
    | none => .error (.caseNotFound id)
    | some view =>
      match view.lineItems, desk.store.access with
      | [], _ => .ok []
      | _, .error e => .error (.store e)
      | _, .ok catalog => (catalog.casePrecedents directory view).mapError .store

/-- Runs a transaction on the store. -/
def transact (steps : List Step) (commits : Bool) :
    Desk × Except TransactionError (List Answer) :=
  let (store, answers) := desk.store.transact steps commits
  ({ desk with store }, answers)

/-- Moves a case of the store to another status. -/
def setStoreStatus (id : CaseId) (status : CaseStatus) : Desk × Except StoreError Unit :=
  let (store, outcome) := desk.store.setCaseStatus id status
  ({ desk with store }, outcome)

/-- Moves a case of the directory to another status. -/
def setDirectoryStatus (id : CaseId) (status : CaseStatus) : Desk × Except StoreError Unit :=
  match desk.directory with
  | none => desk.setStoreStatus id status
  | some directory =>
    let (directory, outcome) := directory.setCaseStatus id status
    ({ desk with directory := some directory }, outcome)

end Desk

end ExportControl
