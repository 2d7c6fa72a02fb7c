/-
ExportControl.Taxonomy.Remap — corrections of single summaries.

A remap lists raw summaries with the text to use in their place. A raw summary
that is listed is replaced word for word; any other is normalized.
-/
import ExportControl.Register
import ExportControl.Taxonomy.Normalize

namespace ExportControl

/-- A raw summary and the text to use in its place. -/
structure Correction where
  raw : String
  corrected : String
  deriving DecidableEq, Repr

instance : Keyed Correction String := ⟨Correction.raw⟩

/-- The corrections in use, one per raw summary. -/
abbrev Remap := Register Correction

namespace Remap

/-- The corrections given as pairs; the last one for a raw summary counts. -/
def ofPairs (pairs : List (String × String)) : Remap :=
  Register.ofList (pairs.map fun (raw, corrected) => { raw, corrected })

/-- How many raw summaries are listed. -/
def size (remap : Remap) : Nat := remap.entries.length

/-- The listed correction of a raw summary. -/
def correction? (remap : Remap) (raw : String) : Option String :=
  (remap.find? raw).map Correction.corrected

/-- The text to match a raw summary by. -/
def apply (remap : Remap) (raw : String) : String :=
  (remap.correction? raw).getD (normalize raw)

end Remap

end ExportControl
