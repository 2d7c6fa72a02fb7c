/-
ExportControl.Suggestion.Corrections — corrections read from a table.

The table has a column for the raw summaries and one for the texts to use in
their place. A row where either is missing or blank corrects nothing.
-/
import ExportControl.Csv.Table
import ExportControl.Taxonomy.Remap

namespace ExportControl.Remap

/-- The columns of the table. -/
def columns : List String := ["original", "corrected"]

/-- A field that is not blank. -/
def filled? (field : Option String) : Option String :=
  field.filter fun text => !Text.isBlankText text

/-- The correction of a row. -/
def correction (fields : List (Option String)) : Option (String × String) :=
  match fields with
  | [raw, corrected] => do return (← filled? raw, ← filled? corrected)
  | _ => none

/-- Reads the corrections of a table. -/
def ofCsv (gs : List Text.Glyph) : Except Csv.Fault Remap :=
  (Csv.readColumns columns gs).map fun rows => ofPairs (rows.filterMap correction)

end ExportControl.Remap
