/-
ExportControl.Assessment.Check — whether a decision can be carried out.

A decision is checked against the catalog and the case before anything of the
batch is carried out. Everything wrong with it is found in one go.

* `Catalog.plan` settles how the decision describes the product.
* `Catalog.faults` lists what is wrong with a decision.
* `Catalog.check` gives a decision that is right together with what it refers to.
-/
import ExportControl.Assessment.Decision
import ExportControl.Assessment.LineErrors
import ExportControl.Catalog.Basic
import ExportControl.Text.Blank

namespace ExportControl

/-- A pair of the taxonomy. -/
structure Pair where
  pre : Option Prefix
  subject : Subject
  deriving DecidableEq, Repr

/-- How a product will be described once its pairs are linked. -/
inductive Plan where
  | unclassified
  | legacy (text : String)
  | single (pair : Pair)
  | multiple (pairs : List Pair)
  deriving DecidableEq, Repr

/-- A decision that is right, with what it refers to. -/
structure Checked where
  decision : Decision
  item : LineItem
  regimes : List RegimeEntry
  plan : Plan
  deriving DecidableEq, Repr

namespace Catalog

variable (catalog : Catalog)

/-! ## Plans -/

/-- The subject of an identifier. -/
def subject (id : SubjectId) : Except UnknownTerm Subject :=
  match catalog.subjects.find? id with
  | some subject => .ok subject
  | none => .error (.subject id)

/-- The prefix of an identifier that may be missing. -/
def lead : Option PrefixId → Except UnknownTerm (Option Prefix)
  | none => .ok none
  | some id =>
    match catalog.prefixes.find? id with
    | some pre => .ok (some pre)
    | none => .error (.lead id)

/-- The pair of two identifiers; an unknown subject counts before an unknown prefix. -/
def pair (ref : PairRef) : Except UnknownTerm Pair := do
  let subject ← catalog.subject ref.subject
  let pre ← catalog.lead ref.pre
  return { pre, subject }

/-- The unknown parts among listed pairs, one for each pair that has any. -/
def unknownParts (refs : List PairRef) : List UnknownTerm :=
  refs.filterMap fun ref =>
    match catalog.pair ref with
    | .ok _ => none
    | .error part => some part

/-- The pairs among listed ones that are known. -/
def knownPairs (refs : List PairRef) : List Pair :=
  refs.filterMap fun ref => (catalog.pair ref).toOption

/-- The plan of a single pair: without a subject it describes nothing. -/
def planPair (pre : Option PrefixId) : Option SubjectId → Except UnknownTerm Plan
  | some subject => Plan.single <$> catalog.pair { pre, subject }
  | none => (fun _ => .unclassified) <$> catalog.lead pre

/-- The plan of free text: blanks describe nothing. -/
def planText : Option String → Plan
  | some text => if Text.isBlankText text then .unclassified else .legacy text
  | none => .unclassified

/-- How a decision describes the product: by its list of pairs, else by its single pair, else
by its free text. -/
def plan (decision : Decision) : Except (List LineFault) Plan :=
  if decision.pairs ≠ [] then
    if decision.givesPair then .error [.pairsAndPair]
    else
      match catalog.unknownParts decision.pairs with
      | [] => .ok (.multiple (catalog.knownPairs decision.pairs))
      | parts => .error (parts.map .unknownInPairs)
  else if decision.givesPair then
    (catalog.planPair decision.pre decision.subject).mapError fun part => [.unknownInPair part]
  else .ok (planText decision.reportSummary)

/-! ## Faults -/

/-- The line item that a decision is about, if it is part of the case. -/
def lineOfCase? (view : CaseView) (id : LineItemId) : Option LineItem :=
  if view.contains id then catalog.lineItem? id else none

/-- What is wrong with the line item. -/
def lineFaults (view : CaseView) (id : LineItemId) : List LineFault :=
  if (catalog.lineOfCase? view id).isSome then [] else [.unknownLine id]

/-- What is wrong with the control list entries. -/
def ratingFaults (ratings : List String) : List LineFault :=
  (ratings.filter fun rating => !catalog.controlListEntries.has rating).map .unknownRating

/-- What is wrong with the regime entries. -/
def regimeFaults (ids : List RegimeEntryId) : List LineFault :=
  (ids.filter fun id => !catalog.regimeEntries.has id).map .unknownRegime

/-- What is wrong with the description of the product. -/
def summaryFaults (decision : Decision) : List LineFault :=
  match catalog.plan decision with
  | .error faults => faults
  | .ok plan =>
    if decision.isControlled && plan = .unclassified then [.summaryRequired] else []

/-- All that is wrong with a decision. -/
def faults (view : CaseView) (decision : Decision) : List LineFault :=
  catalog.lineFaults view decision.id ++ catalog.ratingFaults decision.controlListEntries
    ++ catalog.regimeFaults decision.regimeEntries ++ catalog.summaryFaults decision

/-! ## Checking -/

/-- A decision with what it refers to, or all that is wrong with it. -/
def check (view : CaseView) (decision : Decision) : Except (List LineFault) Checked :=
  match catalog.lineOfCase? view decision.id, catalog.plan decision,
      catalog.faults view decision with
  | some item, .ok plan, [] =>
    .ok
      { decision, item, plan
        regimes := decision.regimeEntries.filterMap catalog.regimeEntries.find? }
  | _, _, faults => .error faults

/-- The errors that the check of a decision gives; none where it is right. -/
def errorsOf : Except (List LineFault) Checked → LineErrors
  | .ok _ => .empty
  | .error faults => .ofFaults faults

/-- The errors of a decision; none where it is right. -/
def lineErrors (view : CaseView) (decision : Decision) : LineErrors :=
  errorsOf (catalog.check view decision)

/-- All decisions of a batch that are right, with what they refer to, or the errors of every
decision if one of them has any. -/
def checkAll (view : CaseView) (decisions : List Decision) :
    Except (List LineErrors) (List Checked) :=
  let errors := decisions.map (catalog.lineErrors view)
  if errors.any (!·.isEmpty) then .error errors
  else .ok (decisions.filterMap fun decision => (catalog.check view decision).toOption)

end Catalog

end ExportControl
