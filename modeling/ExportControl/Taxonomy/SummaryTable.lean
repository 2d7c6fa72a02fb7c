/-
ExportControl.Taxonomy.SummaryTable — the rows of all linked pairs.

* `find?` gives the first row of a pair.
* `link` gives the row of a pair and adds it first where there is none. A new row
  has the identifier after the largest one in use; once the last identifier is
  used up no row can be added.
-/
import ExportControl.Taxonomy.Basic

namespace ExportControl

/-- The linked pairs, in the order in which they were added. -/
structure SummaryTable where
  rows : List Summary
  deriving DecidableEq, Repr

/-- The identifiers for new rows are used up. -/
inductive Exhausted where
  | summaryIds
  deriving DecidableEq, Repr

/-- What is said where the identifiers are used up. -/
def Exhausted.message : Exhausted → String
  | .summaryIds => "attempt to add with overflow"

namespace SummaryTable

/-- No rows. -/
def empty : SummaryTable := ⟨[]⟩

/-- The first row of a pair. -/
def find? (table : SummaryTable) (pre : Option PrefixId) (subject : SubjectId) : Option Summary :=
  table.rows.find? fun row => row.pair = (pre, subject)

/-- The largest identifier in use, zero where there is none. -/
def lastId (table : SummaryTable) : Nat :=
  table.rows.foldl (fun last row => max last row.id.value.toNat) 0

/-- The identifier of the next row. -/
def nextId? (table : SummaryTable) : Option SummaryId :=
  if table.lastId + 1 < UInt32.size then some ⟨UInt32.ofNat (table.lastId + 1)⟩ else none

/-- The outcome of linking a pair. -/
structure Linked where
  table : SummaryTable
  row : Summary
  /-- Whether the row was added. -/
  created : Bool

/-- The row of a pair, added where there is none. -/
def link (table : SummaryTable) (pre : Option Prefix) (subject : Subject) :
    Except Exhausted Linked :=
  match table.find? (pre.map Prefix.id) subject.id with
  | some row => .ok { table, row, created := false }
  | none =>
    match table.nextId? with
    | some id =>
      let row := { id, pre, subject }
      .ok { table := ⟨table.rows ++ [row]⟩, row, created := true }
    | none => .error .summaryIds

end SummaryTable

end ExportControl
