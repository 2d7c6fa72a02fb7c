/-
ExportControl.Catalog.Transaction — changes made together or not at all.

A transaction works on a copy of the catalog, which takes the catalog's place
when it is committed. A transaction that breaks off leaves the store out of use.

* `Step` is a look-up or a change inside a transaction, `Answer` what it gives.
* `Store` is a catalog that may be out of use; `Store.access` reads it.
* `Store.transact` runs the steps of a transaction.
-/
import ExportControl.Catalog.Basic

namespace ExportControl

/-- A look-up or a change inside a transaction. -/
inductive Step where
  | caseView (id : CaseId)
  | lead (id : PrefixId)
  | subject (id : SubjectId)
  | regimeEntry (id : RegimeEntryId)
  | hasRating (rating : String)
  | lineItem (id : LineItemId)
  | good (id : GoodId)
  | saveLineItem (item : LineItem)
  | saveGood (good : Good)
  | appendAudit (entry : AuditEntry)
  | link (pre : Option Prefix) (subject : Subject)
  | setFlag (good : GoodId) (flag : Flag) (enabled : Bool)
  deriving DecidableEq, Repr

/-- What a step gives. -/
inductive Answer where
  | caseView (found : Option CaseView)
  | lead (found : Option Prefix)
  | subject (found : Option Subject)
  | regimeEntry (found : Option RegimeEntry)
  | truth (b : Bool)
  | lineItem (found : Option LineItem)
  | good (found : Option Good)
  | record (record : AuditRecord)
  | row (row : Summary)
  /-- The change was made. -/
  | done
  | failed (e : StoreError)
  deriving DecidableEq, Repr

namespace Catalog

/-- Runs one step. -/
def step (catalog : Catalog) : Step → Except Exhausted (Catalog × Answer)
  | .caseView id => .ok (catalog, .caseView (catalog.caseView? id))
  | .lead id => .ok (catalog, .lead (catalog.prefixes.find? id))
  | .subject id => .ok (catalog, .subject (catalog.subjects.find? id))
  | .regimeEntry id => .ok (catalog, .regimeEntry (catalog.regimeEntries.find? id))
  | .hasRating rating => .ok (catalog, .truth (catalog.controlListEntries.has rating))
  | .lineItem id => .ok (catalog, .lineItem (catalog.lineItem? id))
  | .good id => .ok (catalog, .good (catalog.goods.find? id))
  | .saveLineItem item => .ok (catalog.saveLineItem item, .done)
  | .saveGood good => .ok (catalog.saveGood good, .done)
  | .appendAudit entry => .ok (catalog.appendAudit entry, .record (catalog.nextAudit entry))
  | .link pre subject =>
    (catalog.linkSummary pre subject).map fun (catalog, row) => (catalog, .row row)
  | .setFlag good flag enabled =>
    match catalog.setFlag good flag enabled with
    | .ok catalog => .ok (catalog, .done)
    | .error e => .ok (catalog, .failed e)

/-- Runs steps in order. -/
def steps : Catalog → List Step → Except Exhausted (Catalog × List Answer)
  | catalog, [] => .ok (catalog, [])
  | catalog, step :: rest =>
    match catalog.step step with
    | .error x => .error x
    | .ok (catalog, answer) =>
      match steps catalog rest with
      | .error x => .error x
      | .ok (catalog, answers) => .ok (catalog, answer :: answers)

end Catalog

/-- A catalog that several callers change in turn. -/
structure Store where
  catalog : Catalog
  /-- A transaction broke off, and the store no longer answers. -/
  broken : Bool

/-- Why a transaction gives no answers. -/
inductive TransactionError where
  | store (cause : StoreError)
  | exhausted (cause : Exhausted)
  deriving DecidableEq, Repr

namespace Store

/-- A store with the contents of a seed. -/
def ofSeed (seed : Seed) : Store := ⟨.ofSeed seed, false⟩

/-- What a store says that is out of use. -/
def outOfUse : StoreError := .unavailable "catalog lock poisoned"

/-- The catalog, as long as the store answers. -/
def access (store : Store) : Except StoreError Catalog :=
  if store.broken then .error outOfUse else .ok store.catalog

/-- The store with another catalog. -/
def commit (store : Store) (catalog : Catalog) : Store := { store with catalog }

/-- The store after a transaction that broke off. -/
def breakOff (store : Store) : Store := { store with broken := true }

/-- Runs the steps of a transaction, and keeps its changes if it is committed. -/
def transact (store : Store) (steps : List Step) (commits : Bool) :
    Store × Except TransactionError (List Answer) :=
  match store.access with
  | .error e => (store, .error (.store e))
  | .ok catalog =>
    match catalog.steps steps with
    | .error x => (store.breakOff, .error (.exhausted x))
    | .ok (catalog, answers) => (if commits then store.commit catalog else store, .ok answers)

/-- Moves a case to another status. -/
def setCaseStatus (store : Store) (id : CaseId) (status : CaseStatus) :
    Store × Except StoreError Unit :=
  match store.access with
  | .error e => (store, .error e)
  | .ok catalog =>
    match catalog.setCaseStatus id status with
    | .error e => (store, .error e)
    | .ok catalog => (store.commit catalog, .ok ())

end Store

end ExportControl
