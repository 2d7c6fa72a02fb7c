/-
ExportControl.Catalog.Basic — all that the reviewers work on.

A catalog holds the taxonomy, the control list and regime entries, the goods, the
cases with their line items, the linked pairs, the audit records and the
reviewers. Line items stand in the order of the applications; their identifiers
may repeat, and a look-up gives the first.

* `Catalog.ofSeed` builds a catalog: of two records under one key the later one
  stays.
* `lineItem?`, `caseView?`, `auditTrail` look things up.
* `saveLineItem`, `saveGood`, `setFlag`, `appendAudit`, `linkSummary`,
  `setCaseStatus` change one thing each.
-/
import ExportControl.Catalog.Audit
import ExportControl.Catalog.Case
import ExportControl.Catalog.Entry
import ExportControl.Catalog.Error
import ExportControl.Catalog.LineItem
import ExportControl.Taxonomy.SummaryTable

namespace ExportControl

/-- The contents a catalog starts with, as they are listed. -/
structure Seed where
  prefixes : List Prefix
  subjects : List Subject
  controlListEntries : List ControlListEntry
  regimeEntries : List RegimeEntry
  goods : List Good
  cases : List CaseRecord
  /-- Line items in the order of the applications. -/
  lineItems : List LineItem
  summaries : SummaryTable
  reviewers : List ReviewerId
  deriving DecidableEq, Repr

/-- No contents. -/
def Seed.empty : Seed where
  prefixes := []
  subjects := []
  controlListEntries := []
  regimeEntries := []
  goods := []
  cases := []
  lineItems := []
  summaries := .empty
  reviewers := []

/-- All that the reviewers work on. -/
structure Catalog where
  prefixes : Register Prefix
  subjects : Register Subject
  controlListEntries : Register ControlListEntry
  regimeEntries : Register RegimeEntry
  goods : Register Good
  cases : Register CaseRecord
  lineItems : List LineItem
  summaries : SummaryTable
  audits : List AuditRecord
  reviewers : List ReviewerId

namespace Catalog

/-- The catalog of a seed. -/
def ofSeed (seed : Seed) : Catalog where
  prefixes := .ofList seed.prefixes
  subjects := .ofList seed.subjects
  controlListEntries := .ofList seed.controlListEntries
  regimeEntries := .ofList seed.regimeEntries
  goods := .ofList seed.goods
  cases := .ofList seed.cases
  lineItems := seed.lineItems
  summaries := seed.summaries
  audits := []
  reviewers := seed.reviewers

/-! ## Look-ups -/

variable (catalog : Catalog)

/-- The first line item of an identifier. -/
def lineItem? (id : LineItemId) : Option LineItem :=
  catalog.lineItems.find? fun item => item.id = id

/-- The identifiers of the line items of a case, in order. -/
def linesOf (id : CaseId) : List LineItemId :=
  (catalog.lineItems.filter fun item => item.caseId = id).map LineItem.id

/-- A case with its line items. -/
def caseView? (id : CaseId) : Option CaseView :=
  (catalog.cases.find? id).map fun record =>
    { id, status := record.status, lineItems := catalog.linesOf id }

/-- The good a line item points at, if the catalog has it. -/
def goodOf (item : LineItem) : Option Good := item.goodId?.bind catalog.goods.find?

/-- The audit records about a line item. -/
def auditTrail (target : LineItemId) : List AuditRecord :=
  catalog.audits.filter fun record => record.target = target

/-- Whether a reviewer may review goods. -/
def mayReview (reviewer : ReviewerId) : Bool := catalog.reviewers.contains reviewer

/-! ## Changes -/

/-- Puts a line item in place of the first one of its identifier. -/
def replaceFirst (item : LineItem) : List LineItem → List LineItem
  | [] => [item]
  | other :: rest => if other.id = item.id then item :: rest else other :: replaceFirst item rest

/-- Saves a line item: in place of the first one of its identifier, or behind all others. -/
def saveLineItem (item : LineItem) : Catalog :=
  { catalog with lineItems := replaceFirst item catalog.lineItems }

/-- Saves a good. -/
def saveGood (good : Good) : Catalog := { catalog with goods := catalog.goods.put good }

/-- A good that has to be there. -/
def requireGood (id : GoodId) : Except StoreError Good :=
  match catalog.goods.find? id with
  | some good => .ok good
  | none => .error (.notFound "good" id.text)

/-- Puts a tag on a good or takes it off. -/
def setFlag (id : GoodId) (flag : Flag) (enabled : Bool) : Except StoreError Catalog :=
  (catalog.requireGood id).map fun good =>
    catalog.saveGood { good with flags := good.flags.set flag enabled }

/-- The next audit record. -/
def nextAudit (entry : AuditEntry) : AuditRecord :=
  { entry with number := catalog.audits.length + 1 }

/-- Adds an audit record behind the others. -/
def appendAudit (entry : AuditEntry) : Catalog :=
  { catalog with audits := catalog.audits ++ [catalog.nextAudit entry] }

/-- Links a pair, and gives its row. -/
def linkSummary (pre : Option Prefix) (subject : Subject) : Except Exhausted (Catalog × Summary) :=
  (catalog.summaries.link pre subject).map fun linked =>
    ({ catalog with summaries := linked.table }, linked.row)

/-- Moves a case to another status. -/
def setCaseStatus (id : CaseId) (status : CaseStatus) : Except StoreError Catalog :=
  if catalog.cases.has id then .ok { catalog with cases := catalog.cases.put { id, status } }
  else .error (.notFound "case" id.text)

end Catalog

end ExportControl
