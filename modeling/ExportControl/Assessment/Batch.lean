/-
ExportControl.Assessment.Batch — decisions carried out on a case.

A batch is refused as a whole or carried out as a whole. The case has to be open,
no line item may be named twice, and every decision has to be right; the
decisions are then carried out one after the other.

* `repeatedIds` finds the line items that are named more than once.
* `Catalog.applyLine` carries out one decision: it links the pairs, folds the
  decision into the good, records the change and saves the line item.
* `Catalog.review` is the whole batch.
* `AssessError` is why a batch is refused.
-/
import ExportControl.Assessment.Check

namespace ExportControl

/-- Why a batch is refused. -/
inductive AssessError where
  | forbidden (reviewer : ReviewerId)
  | caseNotFound (id : CaseId)
  | terminalCase (id : CaseId) (status : CaseStatus)
  | duplicateIds (ids : List LineItemId)
  /-- The errors of every line, none for those that are right. -/
  | invalidLines (errors : List LineErrors)
  | store (cause : StoreError)
  /-- The batch broke off while a pair was linked. -/
  | exhausted (cause : Exhausted)
  deriving DecidableEq, Repr

/-- What is said about the refusal. -/
def AssessError.message : AssessError → String
  | forbidden reviewer => "reviewer " ++ reviewer.text ++ " may not review goods"
  | caseNotFound id => "case " ++ id.text ++ " not found"
  | terminalCase id status =>
    "case " ++ id.text ++ " is " ++ status.label ++ " so its products can no longer be assessed"
  | duplicateIds ids =>
    "Multiple updates to a single GoodOnApplication id found. Duplicated ids; "
      ++ ", ".intercalate (ids.map Id.text)
  | invalidLines _ => "assessment batch failed validation"
  | store cause => cause.message
  | exhausted cause => cause.message

/-- What is said of a batch that was carried out. -/
structure Receipt where
  caseId : CaseId
  /-- How many line items were saved. -/
  updated : Nat
  /-- How many changes were recorded. -/
  audited : Nat
  deriving DecidableEq, Repr

/-- Who reviews which case, and when. -/
structure Sitting where
  view : CaseView
  reviewer : ReviewerId
  now : Instant
  deriving DecidableEq, Repr

/-! ## Repeated lines -/

/-- The members of a list that were met before, each where it is first met again; `seen` and
`found` hold the members met before and those already given. -/
def repeatedFrom (seen found : List LineItemId) : List LineItemId → List LineItemId
  | [] => []
  | id :: rest =>
    if id ∈ seen then
      if id ∈ found then repeatedFrom seen found rest
      else id :: repeatedFrom seen (id :: found) rest
    else repeatedFrom (id :: seen) found rest

/-- The members that a list holds more than once. -/
def repeatedIds (ids : List LineItemId) : List LineItemId := repeatedFrom [] [] ids

/-! ## One decision -/

/-- The members of a list, each where it stands first. -/
def distinctEntries (entries : List String) : List String := entries.foldl Good.addEntry []

/-- The line item as a decision leaves it. -/
def Checked.revised (checked : Checked) (classification : Option Classification)
    (sitting : Sitting) : LineItem :=
  { checked.item with
    controlListEntries := distinctEntries checked.decision.controlListEntries
    controlled := checked.decision.controlled
    classification
    regimeEntries := checked.regimes.map RegimeEntry.id
    comment := checked.decision.comment
    isPrecedent := checked.decision.isPrecedent
    isWassenaar := checked.decision.isWassenaar
    informationSecurity := checked.decision.informationSecurity
    assessedBy := some sitting.reviewer
    assessedAt := some sitting.now }

/-- The good as a review of one of its line items leaves it: it takes over the entries, what is
known of its control and its description, and it counts as verified from now on. -/
def Good.reviewed (good : Good) (item : LineItem) : Good :=
  let flags := if good.isVerified then good.flags else good.flags.set .notYetVerified false
  { good.mergeEntries item.controlListEntries with
    controlled := item.controlled
    classification := item.classification
    flags := flags.set .wassenaar item.isWassenaar }

/-- The reviewed values of a line item, with the names of its regimes. -/
def LineItem.snapshot (item : LineItem) (regimes : List String) : Snapshot where
  controlListEntries := item.controlListEntries
  controlled := item.controlled
  reportSummary := item.reportSummary
  regimes

namespace Catalog

variable (catalog : Catalog)

/-- Links the pairs of a list, and gives their rows in order. -/
def linkAll : Catalog → List Pair → Except Exhausted (Catalog × List Summary)
  | catalog, [] => .ok (catalog, [])
  | catalog, pair :: pairs =>
    match catalog.linkSummary pair.pre pair.subject with
    | .error x => .error x
    | .ok (catalog, row) =>
      match linkAll catalog pairs with
      | .error x => .error x
      | .ok (catalog, rows) => .ok (catalog, row :: rows)

/-- Links the pairs of a plan, and gives the description. -/
def linkPlan : Plan → Except Exhausted (Catalog × Option Classification)
  | .unclassified => .ok (catalog, none)
  | .legacy text => .ok (catalog, some (.legacy text))
  | .single pair =>
    (catalog.linkSummary pair.pre pair.subject).map fun (catalog, row) =>
      (catalog, some (.single row))
  | .multiple pairs =>
    (catalog.linkAll pairs).map fun (catalog, rows) => (catalog, some (.multiple rows))

/-- The description that a decision gives; nothing is linked for a product that is not
controlled. -/
def classify (checked : Checked) : Except Exhausted (Catalog × Option Classification) :=
  if checked.decision.isControlled then catalog.linkPlan checked.plan else .ok (catalog, none)

/-- The name of a regime entry, its identifier where the catalog does not have it. -/
def regimeName (id : RegimeEntryId) : String :=
  match catalog.regimeEntries.find? id with
  | some entry => entry.name
  | none => id.text

/-- Folds a reviewed line item into its good, and gives the name of the product. -/
def reviewProduct (item : LineItem) : Except StoreError (Catalog × String) :=
  match item.product with
  | .good id =>
    (catalog.requireGood id).map fun good => (catalog.saveGood (good.reviewed item), good.name)
  | .goodsType description => .ok (catalog, description)

/-- Records the change of a line item, if there is one to record, and says whether there is. -/
def recordChange (sitting : Sitting) (productName : String) (item : LineItem)
    (before after : Snapshot) : Catalog × Bool :=
  if before.differs after then
    (catalog.appendAudit
      { actor := sitting.reviewer
        target := item.id
        caseId := sitting.view.id
        review := Review.ofChange ((sitting.view.lineNumber? item.id).getD 0) productName
          item.comment item.isPrecedent before after
        createdAt := sitting.now }, true)
  else (catalog, false)

/-- Carries out one decision, and says whether a change was recorded. -/
def applyLine (sitting : Sitting) (checked : Checked) : Except AssessError (Catalog × Bool) :=
  match catalog.classify checked with
  | .error x => .error (.exhausted x)
  | .ok (linked, classification) =>
    let item := checked.revised classification sitting
    match linked.reviewProduct item with
    | .error e => .error (.store e)
    | .ok (reviewed, name) =>
      let before := checked.item.snapshot (checked.item.regimeEntries.map catalog.regimeName)
      let after := item.snapshot (checked.regimes.map RegimeEntry.name)
      let (recorded, audited) := reviewed.recordChange sitting name item before after
      .ok (recorded.saveLineItem item, audited)

/-! ## Batches -/

/-- Carries out decisions in order, and counts the changes recorded. -/
def applyAll (sitting : Sitting) :
    Catalog → List Checked → Except AssessError (Catalog × Nat)
  | catalog, [] => .ok (catalog, 0)
  | catalog, checked :: rest =>
    match catalog.applyLine sitting checked with
    | .error e => .error e
    | .ok (catalog, audited) =>
      match applyAll sitting catalog rest with
      | .error e => .error e
      | .ok (catalog, count) => .ok (catalog, count + audited.toNat)

/-- Checks a batch on an open case and carries it out. -/
def review (id : CaseId) (reviewer : ReviewerId) (decisions : List Decision) (now : Instant) :
    Except AssessError (Catalog × Receipt) :=
  match catalog.caseView? id with
  | none => .error (.caseNotFound id)
  | some view =>
    if view.status.isTerminal then .error (.terminalCase view.id view.status)
    else if repeatedIds (decisions.map Decision.id) ≠ [] then
      .error (.duplicateIds (repeatedIds (decisions.map Decision.id)))
    else
      match catalog.checkAll view decisions with
      | .error errors => .error (.invalidLines errors)
      | .ok checked =>
        (catalog.applyAll { view, reviewer, now } checked).map fun (catalog, audited) =>
          (catalog, { caseId := view.id, updated := decisions.length, audited })

/-- Carries out a batch of a reviewer who may review goods. -/
def assess (id : CaseId) (reviewer : ReviewerId) (decisions : List Decision) (now : Instant) :
    Except AssessError (Catalog × Receipt) :=
  if catalog.mayReview reviewer then catalog.review id reviewer decisions now
  else .error (.forbidden reviewer)

end Catalog

end ExportControl
