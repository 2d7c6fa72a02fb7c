/-
ExportControl.Proofs.ReportText — a written report tells its rows.

  §1 Fields  — `Cells.fields_injective`: the fields of a row tell its cells.
  §2 Reports — `report_is_read_back`: a report is read back as a line of column
               names and the fields of its rows, whatever texts these hold.
-/
import ExportControl.Proofs.JsonText
import ExportControl.Proofs.QuotedRecords
import ExportControl.Proofs.SuggestionReports

namespace ExportControl.Suggestion

open Text (Glyph decimal natOfDigits?)

/-! ## §1 Fields -/

theorem natOfDigits?_decimal (n : Nat) : natOfDigits? (decimal n).toList = some n := by
  rw [decimal, String.toList_ofList, Text.natOfDigits?_toDigits]

namespace Row

variable {term : Term}

theorem natOfDigits?_idText (id : Number term) :
    natOfDigits? (idText (some id)).toList = some id.value.toNat :=
  natOfDigits?_decimal id.value.toNat

/-- The text of an identifier tells it, and no identifier has the text of a missing one. -/
theorem idText_injective : Function.Injective (@idText term) := by
  intro id other h
  cases id with
  | none =>
    cases other with
    | none => rfl
    | some other => exact absurd h.symm (decimal_ne_empty _)
  | some id =>
    cases other with
    | none => exact absurd h (decimal_ne_empty _)
    | some other =>
      have hvalue := natOfDigits?_idText id
      rw [h, natOfDigits?_idText, Option.some.injEq, UInt32.toNat_inj] at hvalue
      exact congrArg (fun value => some (Number.mk value)) hvalue.symm

end Row

namespace Cells

theorem fields_injective : Function.Injective fields := by
  intro cells other h
  cases cells
  cases other
  simpa [fields, Row.idText_injective.eq_iff] using h

end Cells

/-! ## §2 Reports -/

theorem records_csv (rows : List Cells) :
    Csv.records (Glyph.ofBytes (Cells.csv rows).toUTF8)
      = (columns :: rows.map Cells.fields).map (List.map Glyph.ofString) := by
  have hrows : ∀ row ∈ columns :: rows.map Cells.fields, row ≠ [] := by
    simp [columns, Cells.fields]
  rw [Glyph.ofBytes_toUTF8, Glyph.ofString]
  exact Csv.records_of_written (Csv.written_render hrows)

theorem ofString_injective : Function.Injective Glyph.ofString := by
  intro s t h
  have hchars : s.toList = t.toList :=
    List.map_injective_iff.2 (fun _ _ => Glyph.char.inj) h
  exact String.toList_inj.1 hchars

/-- **A report is read back.** The records of a written report are the names of the columns and
then for each row its eight fields, in order: the texts as they are, and the identifiers in
decimal, or nothing where there is none. So a report tells which rows were written. -/
theorem report_is_read_back :
    (∀ rows : List Cells,
      Csv.records (Glyph.ofBytes (Cells.csv rows).toUTF8)
        = columns.map Glyph.ofString :: rows.map fun cells =>
            [cells.lineItem, cells.reportSummary, cells.preName, Row.idText cells.preId,
              cells.subjectName, Row.idText cells.subjectId, cells.productName,
              cells.url].map Glyph.ofString) ∧
    (∀ term, Row.idText (none : Option (Number term)) = "") ∧
    (∀ term (id : Number term),
      natOfDigits? (Row.idText (some id)).toList = some id.value.toNat) ∧
    Function.Injective fun rows : List Cells => (Cells.csv rows).toUTF8 := by
  refine ⟨fun rows => ?_, fun _ => rfl, fun _ => Row.natOfDigits?_idText, fun rows other h => ?_⟩
  · rw [records_csv, List.map_cons, List.map_map]
    rfl
  · have hrecords := congrArg (fun bytes => Csv.records (Glyph.ofBytes bytes)) h
    simp only [records_csv, List.map_cons, List.cons.injEq, true_and] at hrecords
    have hfields := List.map_injective_iff.2 (List.map_injective_iff.2 ofString_injective) hrecords
    exact List.map_injective_iff.2 Cells.fields_injective hfields

end ExportControl.Suggestion
