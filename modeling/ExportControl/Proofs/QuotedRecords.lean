/-
ExportControl.Proofs.QuotedRecords — records with every field between quotes are
read back.

Between quotes a comma or a line end is text, and a quote is doubled, so whatever a
field holds, it ends where it was ended when it was written: at a single quote with
a comma, a line end or nothing behind it.

  §1 Fields  — `recordsFrom_quoted`: a field is read up to the quote that ends it.
  §2 Records — `recordsFrom_lineChars`: a record is read up to what ends it.
  §3 Texts   — `Written`: a text of such records, whatever line ends stand between
               them; `records_of_written`; `written_render`.
-/
import ExportControl.Csv.Record

namespace ExportControl.Csv

open Text (Glyph)

variable {place : Place} {tail : List Glyph} {fields : RawRecord} {later : List RawRecord}

/-! ## §1 Fields -/

theorem foldr_extend (gs : List Glyph) (field : RawField) :
    gs.foldr extend ((field :: fields) :: later) = ((gs ++ field) :: fields) :: later := by
  induction gs with
  | nil => rfl
  | cons g gs ih => rw [List.foldr_cons, ih, extend, List.cons_append]

/-- Between quotes everything is text, up to a quote that is not doubled. -/
theorem recordsFrom_quoted (cs : List Char) (tail : List Glyph) :
    recordsFrom .quoted ((cs.flatMap escape).map .char ++ .char '"' :: tail)
      = (cs.map Glyph.char).foldr extend (recordsFrom .quoteSeen tail) := by
  induction cs with
  | nil => simp [recordsFrom, isQuote]
  | cons c cs ih =>
    rw [List.flatMap_cons, List.map_cons, List.foldr_cons, ← ih]
    by_cases hc : c = '"'
    · -- The first of two quotes looks like the closing one until the second is read.
      subst hc
      simp [escape, recordsFrom, isQuote, isComma, isLineEnd]
    · simp [escape, recordsFrom, isQuote, hc]

/-- A quote where a field may begin opens a quoted field. -/
theorem recordsFrom_opening (hplace : place = .recordStart ∨ place = .fieldStart) :
    recordsFrom place (.char '"' :: tail) = recordsFrom .quoted tail := by
  rcases hplace with rfl | rfl <;> simp [recordsFrom, isQuote, isComma, isLineEnd]

/-- A field is read back, and what follows its closing quote is read from there. -/
theorem recordsFrom_field (hplace : place = .recordStart ∨ place = .fieldStart)
    (htail : recordsFrom .quoteSeen tail = ([] :: fields) :: later) (field : String) :
    recordsFrom place ((quoted field).map .char ++ tail)
      = (Glyph.ofString field :: fields) :: later := by
  have hquoted : (quoted field).map Glyph.char ++ tail
      = .char '"' :: ((field.toList.flatMap escape).map .char ++ .char '"' :: tail) := by
    simp [quoted]
  rw [hquoted, recordsFrom_opening hplace, recordsFrom_quoted, htail, foldr_extend,
    List.append_nil, Glyph.ofString]

/-! ## §2 Records -/

/-- A record is read back where its last quote ends it. -/
theorem recordsFrom_lineChars (hplace : place = .recordStart ∨ place = .fieldStart)
    (htail : recordsFrom .quoteSeen tail = [[]] :: later) {row : List String} (hrow : row ≠ []) :
    recordsFrom place ((lineChars row).map .char ++ tail) = row.map Glyph.ofString :: later := by
  induction row generalizing place with
  | nil => exact absurd rfl hrow
  | cons field row ih =>
    cases row with
    | nil => exact recordsFrom_field hplace htail field
    | cons next row =>
      have hline : lineChars (field :: next :: row)
          = quoted field ++ ',' :: lineChars (next :: row) := rfl
      have hrest := ih (.inr rfl) (List.cons_ne_nil next row)
      have hcomma : recordsFrom .quoteSeen
          (.char ',' :: ((lineChars (next :: row)).map .char ++ tail))
            = ([] :: (next :: row).map Glyph.ofString) :: later := by
        simp [recordsFrom, isComma, hrest, startField]
      rw [hline, List.map_append, List.map_cons, List.append_assoc, List.cons_append,
        recordsFrom_field hplace hcomma]
      rfl

/-! ## §3 Texts -/

/-- A character that ends a line. -/
def EndsLine (c : Char) : Prop := c = '\n' ∨ c = '\r'

/-- A text of records with every field between quotes: each record has one or more line ends
behind it, and the last one may have none. -/
inductive Written : List (List String) → List Char → Prop
  | none : Written [] []
  | last {row : List String} (hrow : row ≠ []) : Written [row] (lineChars row)
  | record {row : List String} {rows : List (List String)} {ends text : List Char}
      (hrow : row ≠ []) (hne : ends ≠ []) (hends : ∀ c ∈ ends, EndsLine c)
      (hrows : Written rows text) : Written (row :: rows) (lineChars row ++ (ends ++ text))

variable {rows : List (List String)} {ends text : List Char}

theorem isLineEnd_char {c : Char} (h : EndsLine c) : isLineEnd (.char c) = true := by
  rcases h with rfl | rfl <;> decide

theorem isComma_char {c : Char} (h : EndsLine c) : isComma (.char c) = false := by
  rcases h with rfl | rfl <;> decide

/-- Line ends before a record are passed over. -/
theorem recordsFrom_ends (h : ∀ c ∈ ends, EndsLine c) :
    recordsFrom .recordStart (ends.map .char ++ tail) = recordsFrom .recordStart tail := by
  induction ends with
  | nil => rfl
  | cons c ends ih =>
    obtain ⟨hc, hends⟩ := List.forall_mem_cons.1 h
    simp [recordsFrom, isComma_char hc, isLineEnd_char hc, ih hends]

/-- Line ends behind a quoted field end the record. -/
theorem recordsFrom_quoteSeen_ends (hne : ends ≠ []) (h : ∀ c ∈ ends, EndsLine c) :
    recordsFrom .quoteSeen (ends.map .char ++ tail) = [[]] :: recordsFrom .recordStart tail := by
  obtain ⟨c, ends, rfl⟩ := List.exists_cons_of_ne_nil hne
  obtain ⟨hc, hends⟩ := List.forall_mem_cons.1 h
  simp [recordsFrom, isComma_char hc, isLineEnd_char hc, recordsFrom_ends hends]

theorem recordsFrom_of_written (h : Written rows text) :
    recordsFrom .recordStart (text.map .char) = rows.map (List.map Glyph.ofString) := by
  induction h with
  | none => rfl
  | last hrow =>
    have hend : recordsFrom .quoteSeen [] = [[]] :: [] := rfl
    simpa using recordsFrom_lineChars (.inl rfl) hend hrow
  | record hrow hne hends _ ih =>
    rw [List.map_append, List.map_append,
      recordsFrom_lineChars (.inl rfl) (recordsFrom_quoteSeen_ends hne hends) hrow, ih,
      List.map_cons]

theorem exists_lineChars_eq_cons {row : List String} (hrow : row ≠ []) :
    ∃ cs, lineChars row = '"' :: cs := by
  obtain ⟨field, rest, rfl⟩ := List.exists_cons_of_ne_nil hrow
  cases rest <;> exact ⟨_, rfl⟩

/-- A text of quoted records starts with a quote, so with no byte order mark. -/
theorem dropMark_of_written (h : Written rows text) :
    dropMark (text.map .char) = text.map .char := by
  cases h with
  | none => rfl
  | last hrow =>
    obtain ⟨cs, hcs⟩ := exists_lineChars_eq_cons hrow
    rw [hcs]
    rfl
  | record hrow =>
    obtain ⟨cs, hcs⟩ := exists_lineChars_eq_cons hrow
    rw [hcs]
    rfl

/-- The records of a text are those that were written. -/
theorem records_of_written (h : Written rows text) :
    records (text.map .char) = rows.map (List.map Glyph.ofString) := by
  rw [records, dropMark_of_written h, recordsFrom_of_written h]

example :
    records (Glyph.ofString "\"a,\"\"b\"\"\r\n\",\"\"\r\n\r\n\"c\"")
      = [[Glyph.ofString "a,\"b\"\r\n", []], [Glyph.ofString "c"]] := by decide

theorem written_render (h : ∀ row ∈ rows, row ≠ []) : Written rows (render rows).toList := by
  rw [render, String.toList_ofList]
  induction rows with
  | nil => exact .none
  | cons row rows ih =>
    obtain ⟨hrow, hrows⟩ := List.forall_mem_cons.1 h
    have hends : ∀ c ∈ ['\n'], EndsLine c := by simp [EndsLine]
    rw [List.flatMap_cons, line, List.append_assoc]
    exact .record hrow (List.cons_ne_nil _ _) hends (ih hrows)

end ExportControl.Csv
