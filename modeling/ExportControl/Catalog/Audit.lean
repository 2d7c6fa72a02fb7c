/-
ExportControl.Catalog.Audit — the record of what assessments changed.

* `Snapshot` holds the reviewed values of a line item at one time; `differs` says
  whether two of them are far enough apart to be recorded.
* `Review` is what a record says about a change. Empty lists are shown by a
  placeholder, and a product that is not known to be controlled by "No".
-/
import ExportControl.Identifier
import ExportControl.Instant

namespace ExportControl

/-- The reviewed values of a line item. -/
structure Snapshot where
  controlListEntries : List String
  controlled : Option Bool
  reportSummary : Option String
  /-- The names of the regime entries. -/
  regimes : List String
  deriving DecidableEq, Repr

/-- Whether two lists hold the same entries, whatever their order and number. -/
def sameEntries (as bs : List String) : Bool :=
  as.all (bs.contains ·) && bs.all (as.contains ·)

/-- Whether the change between two snapshots is to be recorded: control list entries count as
sets, and regimes do not count. -/
def Snapshot.differs (before after : Snapshot) : Bool :=
  !sameEntries before.controlListEntries after.controlListEntries
    || before.controlled != after.controlled
    || before.reportSummary != after.reportSummary

/-- What a record says about a change. -/
structure Review where
  /-- The position of the line item in its case, from one on. -/
  lineNumber : Nat
  productName : String
  oldEntries : List String
  newEntries : List String
  oldControlled : String
  newControlled : String
  oldRegimes : List String
  newRegimes : List String
  oldReportSummary : Option String
  newReportSummary : Option String
  comment : Option String
  isPrecedent : Bool
  deriving DecidableEq, Repr

namespace Review

/-- Shown where there are no control list entries. -/
def noEntries : String := "No control code"

/-- Shown where there are no regimes. -/
def noRegimes : String := "No regimes"

/-- A list, or a placeholder where it is empty. -/
def orPlaceholder (placeholder : String) : List String → List String
  | [] => [placeholder]
  | values => values

/-- "Yes" for what is known to be controlled. -/
def controlledLabel (controlled : Option Bool) : String :=
  if controlled = some true then "Yes" else "No"

/-- The review of a change from one snapshot to another. -/
def ofChange (lineNumber : Nat) (productName : String) (comment : Option String)
    (isPrecedent : Bool) (before after : Snapshot) : Review where
  lineNumber
  productName
  oldEntries := orPlaceholder noEntries before.controlListEntries
  newEntries := orPlaceholder noEntries after.controlListEntries
  oldControlled := controlledLabel before.controlled
  newControlled := controlledLabel after.controlled
  oldRegimes := orPlaceholder noRegimes before.regimes
  newRegimes := orPlaceholder noRegimes after.regimes
  oldReportSummary := before.reportSummary
  newReportSummary := after.reportSummary
  comment
  isPrecedent

end Review

/-- What is to be recorded. -/
structure AuditEntry where
  actor : ReviewerId
  target : LineItemId
  caseId : CaseId
  review : Review
  createdAt : Instant
  deriving DecidableEq, Repr

/-- A record: an entry under a running number. -/
structure AuditRecord extends AuditEntry where
  number : Nat
  deriving DecidableEq, Repr

end ExportControl
