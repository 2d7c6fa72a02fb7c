/-
ExportControl.Taxonomy.Classification — how a controlled product is described.

A classification is free text from before the taxonomy, one linked pair, or
several. `Classification.text` is what a report shows for it.
-/
import ExportControl.Taxonomy.Basic

namespace ExportControl

/-- The three ways to describe a controlled product. -/
inductive Classification where
  /-- Free text, linked to nothing. -/
  | legacy (text : String)
  | single (row : Summary)
  /-- Several pairs, shown in this order. -/
  | multiple (rows : List Summary)
  deriving DecidableEq, Repr

namespace Classification

/-- The text of a classification; several pairs are joined by commas. -/
def text : Classification → String
  | .legacy text => text
  | .single row => row.displayName
  | .multiple rows => ", ".intercalate (rows.map Summary.displayName)

/-- The prefix of a single pair. -/
def pre? : Classification → Option Prefix
  | .single row => row.pre
  | _ => none

/-- The subject of a single pair. -/
def subject? : Classification → Option Subject
  | .single row => some row.subject
  | _ => none

/-- The linked pairs. -/
def rows : Classification → List Summary
  | .legacy _ => []
  | .single row => [row]
  | .multiple rows => rows

/-- Whether the classification is free text. -/
def isLegacy : Classification → Bool
  | .legacy _ => true
  | _ => false

end Classification

end ExportControl
