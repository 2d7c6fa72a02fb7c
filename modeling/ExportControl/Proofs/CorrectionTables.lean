/-
ExportControl.Proofs.CorrectionTables — a table of corrections is read as it was meant.

Whatever the texts hold, and whatever columns there are besides the two that are
asked for, a written table gives for each raw summary the last correction written
for it. Blanks at the ends of texts do not count, and a pair with a blank text
corrects nothing.

  §1 Pairs  — `Corrects`: what a pair of texts corrects; `correctionOf?_eq_some_iff`.
  §2 Remaps — `LastCorrects`: the pair that counts; `correction?_ofPairs_iff`.
  §3 Tables — `Layout`: where the two columns stand; `correction_tables_are_read`.
              A name that differs from another by blanks only is the same name
              (`blank_before_name_repeats_it`).
-/
import ExportControl.Proofs.JsonText
import ExportControl.Proofs.NamedColumns
import ExportControl.Suggestion.Corrections
import Mathlib.Data.List.Forall2

namespace ExportControl.Remap

open Text (Glyph trim)
open Csv (Written)

variable {pair : String × String} {pairs : List (String × String)} {raw corrected : String}

/-! ## §1 Pairs -/

/-- A pair corrects a raw summary: without the blanks at their ends its texts are the raw summary
and the text to use in its place, and neither is empty. -/
structure Corrects (pair : String × String) (raw corrected : String) : Prop where
  raw_eq : trim pair.1 = raw
  corrected_eq : trim pair.2 = corrected
  raw_ne : raw ≠ ""
  corrected_ne : corrected ≠ ""

/-- The correction of a row with the texts of a pair. -/
def correctionOf? (pair : String × String) : Option (String × String) :=
  correction [some (trim pair.1), some (trim pair.2)]

theorem filled?_trim {s text : String} :
    filled? (some (trim s)) = some text ↔ trim s = text ∧ text ≠ "" := by
  rw [filled?, Option.filter_eq_some_iff, Option.some.injEq]
  refine and_congr_right fun hsame => ?_
  rw [← hsame, Text.isBlankText_trim]
  simp

theorem correctionOf?_eq_some_iff :
    correctionOf? pair = some (raw, corrected) ↔ Corrects pair raw corrected := by
  simp only [correctionOf?, correction, Option.bind_eq_bind, Option.bind_eq_some_iff,
    filled?_trim, Option.pure_def, Option.some.injEq, Prod.mk.injEq]
  constructor
  · rintro ⟨_, ⟨hraw, hne⟩, _, ⟨hcorrected, hne'⟩, rfl, rfl⟩
    exact ⟨hraw, hcorrected, hne, hne'⟩
  · rintro ⟨hraw, hcorrected, hne, hne'⟩
    exact ⟨_, ⟨hraw, hne⟩, _, ⟨hcorrected, hne'⟩, rfl, rfl⟩

/-! ## §2 Remaps -/

/-- The last pair that corrects a raw summary corrects it so. -/
def LastCorrects (pairs : List (String × String)) (raw corrected : String) : Prop :=
  ∃ earlier pair later, pairs = earlier ++ pair :: later ∧ Corrects pair raw corrected ∧
    ∀ other ∈ later, ∀ text, ¬ Corrects other raw text

theorem not_lastCorrects_nil : ¬ LastCorrects [] raw corrected := by
  rintro ⟨earlier, pair, later, hsplit, -⟩
  simp at hsplit

theorem lastCorrects_concat :
    LastCorrects (pairs ++ [pair]) raw corrected ↔
      Corrects pair raw corrected ∨
        (∀ text, ¬ Corrects pair raw text) ∧ LastCorrects pairs raw corrected := by
  constructor
  · rintro ⟨earlier, found, later, hsplit, hfound, hlater⟩
    rcases List.eq_nil_or_concat later with rfl | ⟨later, last, rfl⟩
    · obtain ⟨-, hlast⟩ := List.append_inj' hsplit rfl
      cases hlast
      exact .inl hfound
    · rw [List.concat_eq_append, ← List.cons_append, ← List.append_assoc] at hsplit
      obtain ⟨rfl, hlast⟩ := List.append_inj' hsplit rfl
      cases hlast
      exact .inr ⟨hlater _ (by simp),
        earlier, found, later, rfl, hfound, fun other hother => hlater other (by simp [hother])⟩
  · rintro (hpair | ⟨hnot, earlier, found, later, rfl, hfound, hlater⟩)
    · exact ⟨pairs, pair, [], rfl, hpair, by simp⟩
    · refine ⟨earlier, found, later ++ [pair], by simp, hfound, fun other hother => ?_⟩
      rcases List.mem_append.1 hother with hother | hother
      · exact hlater other hother
      · rw [List.mem_singleton.1 hother]
        exact hnot

theorem correction?_ofPairs_concat {r c : String} :
    (ofPairs (pairs ++ [(r, c)])).correction? raw
      = if r = raw then some c else (ofPairs pairs).correction? raw := by
  simp only [ofPairs, correction?, Register.ofList, List.map_append, List.map_cons, List.map_nil,
    List.foldl_append, List.foldl_cons, List.foldl_nil, Register.find?_put]
  by_cases hr : r = raw
  · simp [Keyed.key, hr]
  · simp [Keyed.key, hr]

/-- The table of the corrections that pairs give maps as the last pairs correct. -/
theorem correction?_ofPairs_iff :
    (ofPairs (pairs.filterMap correctionOf?)).correction? raw = some corrected ↔
      LastCorrects pairs raw corrected := by
  induction pairs using List.reverseRecOn with
  | nil =>
    constructor
    · intro h
      cases h
    · exact fun h => absurd h not_lastCorrects_nil
  | append_singleton pairs pair ih =>
    rw [lastCorrects_concat, List.filterMap_append]
    cases hpair : correctionOf? pair with
    | none =>
      have hnot (raw text : String) : ¬ Corrects pair raw text := fun hcorrects => by
        rw [correctionOf?_eq_some_iff.2 hcorrects] at hpair
        cases hpair
      simp [hpair, hnot, ih]
    | some found =>
      obtain ⟨r, c⟩ := found
      have hcorrects := correctionOf?_eq_some_iff.1 hpair
      have hfound : [pair].filterMap correctionOf? = [(r, c)] := by simp [hpair]
      rw [hfound, correction?_ofPairs_concat]
      by_cases hr : r = raw
      · subst hr
        have hiff (text : String) : Corrects pair r text ↔ c = text :=
          ⟨fun h => hcorrects.corrected_eq.symm.trans h.corrected_eq, fun h => h ▸ hcorrects⟩
        simp [hiff]
      · have hnot (text : String) : ¬ Corrects pair raw text := fun h =>
          hr (hcorrects.raw_eq.symm.trans h.raw_eq)
        simp [hr, hnot, ih]

/-! ## §3 Tables -/

/-- Where the columns of a table stand that have the raw summaries and their corrections. No other
column has one of their names; names are compared without the blanks at their ends. -/
structure Layout (names : List String) (rawAt correctedAt : Nat) : Prop where
  raw : (names.map trim)[rawAt]? = some "original"
  corrected : (names.map trim)[correctedAt]? = some "corrected"
  once : ∀ name ∈ columns, (names.map trim).count name ≤ 1

/-- A row of the table that has the texts of a pair in these columns. -/
structure RowOf (names : List String) (rawAt correctedAt : Nat) (row : List String)
    (pair : String × String) : Prop where
  length_eq : row.length = names.length
  raw : row[rawAt]? = some pair.1
  corrected : row[correctedAt]? = some pair.2

variable {names row : List String} {rows earlier later : List (List String)} {text : String}
  {rawAt correctedAt : Nat}

theorem named_of_rowOf (hlayout : Layout names rawAt correctedAt)
    (h : RowOf names rawAt correctedAt row pair) :
    Csv.named columns names row = [some (trim pair.1), some (trim pair.2)] := by
  have hraw := Csv.lookup_zip (row.map trim) hlayout.raw (hlayout.once _ (by decide))
  have hcorrected := Csv.lookup_zip (row.map trim) hlayout.corrected (hlayout.once _ (by decide))
  rw [List.getElem?_map, h.raw] at hraw
  rw [List.getElem?_map, h.corrected] at hcorrected
  simp only [Csv.named, columns, List.map_cons, List.map_nil, hraw, hcorrected, Option.map_some]

theorem ofCsv_of_rows (hlayout : Layout names rawAt correctedAt)
    (hrows : List.Forall₂ (RowOf names rawAt correctedAt) rows pairs)
    (h : Written (names :: rows) text.toList) :
    ofCsv (Glyph.ofBytes text.toUTF8) = .ok (ofPairs (pairs.filterMap correctionOf?)) := by
  have hwidth : ∀ row ∈ rows, row.length = names.length :=
    ((List.forall₂_and_left _ _).1 (hrows.imp fun _ _ hrow => ⟨hrow.length_eq, hrow⟩)).1
  have hnamed : rows.map (Csv.named columns names)
      = pairs.map fun pair => [some (trim pair.1), some (trim pair.2)] := by
    rw [← List.forall₂_eq_eq_eq, List.forall₂_map_left_iff, List.forall₂_map_right_iff]
    exact hrows.imp fun _ _ hrow => named_of_rowOf hlayout hrow
  rw [ofCsv, Glyph.ofBytes_toUTF8, Glyph.ofString, Csv.readColumns_eq_ok h hlayout.once hwidth,
    hnamed, Except.map, List.filterMap_map]
  rfl

/-- Where the records cannot be read there is no table. -/
theorem ofCsv_of_fault {gs : List Glyph} {fault : Csv.Fault}
    (h : Csv.readColumns columns gs = .error fault) : ofCsv gs = .error fault := by
  rw [ofCsv, h]
  rfl

/-- **Tables of corrections are read as they were meant.** A table that is written with every field
between quotes, with its two columns in any order and any other columns besides, gives the remap
that lists just the raw summaries that a pair of it corrects, each with the last such correction.
A record of another length than the first fails the whole table, and nothing is read. So does a
second column of one of the two names, as soon as there is a record. -/
theorem correction_tables_are_read :
    (∀ names rawAt correctedAt rows pairs (text : String), Layout names rawAt correctedAt →
      List.Forall₂ (RowOf names rawAt correctedAt) rows pairs →
      Written (names :: rows) text.toList →
        ∃ remap, ofCsv (Glyph.ofBytes text.toUTF8) = .ok remap ∧
          ∀ raw corrected,
            remap.correction? raw = some corrected ↔ LastCorrects pairs raw corrected) ∧
    (∀ names rawAt correctedAt earlier row later (text : String),
      Layout names rawAt correctedAt →
      (∀ other ∈ earlier, other.length = names.length) → row.length ≠ names.length →
      Written (names :: (earlier ++ row :: later)) text.toList →
        ofCsv (Glyph.ofBytes text.toUTF8)
          = .error (.unequalLengths names.length row.length)) ∧
    (∀ bytes first rest, Csv.records (Glyph.ofBytes bytes) = first :: rest →
      (∃ record ∈ rest, record.length ≠ first.length) →
        ∃ fault, ofCsv (Glyph.ofBytes bytes) = .error fault) ∧
    ∀ names row rows (text : String), row.length = names.length →
      (∃ name ∈ columns, 1 < (names.map trim).count name) →
      Written (names :: row :: rows) text.toList →
        ∃ name ∈ columns, ofCsv (Glyph.ofBytes text.toUTF8) = .error (.duplicateColumn name) := by
  refine ⟨?read, ?uneven, ?damaged, ?repeated⟩
  case read =>
    intro names rawAt correctedAt rows pairs text hlayout hrows h
    exact ⟨_, ofCsv_of_rows hlayout hrows h, fun raw corrected => correction?_ofPairs_iff⟩
  case uneven =>
    intro names rawAt correctedAt earlier row later text hlayout hearlier hrow h
    rw [Glyph.ofBytes_toUTF8, Glyph.ofString]
    exact ofCsv_of_fault (Csv.readColumns_of_length_ne h hlayout.once hearlier hrow)
  case damaged =>
    rintro bytes first rest hrecords ⟨record, hmem, hlength⟩
    obtain ⟨fault, hfault⟩ := Csv.exists_fault_of_length_ne hrecords hmem hlength
    exact ⟨fault, ofCsv_of_fault hfault⟩
  case repeated =>
    intro names row rows text hrow htwice h
    obtain ⟨name, hname, hfault⟩ := Csv.readColumns_of_repeated h hrow htwice
    rw [Glyph.ofBytes_toUTF8, Glyph.ofString]
    exact ⟨name, hname, ofCsv_of_fault hfault⟩

/-- A table with its columns the other way round and one between them. Its second row has no
correction, so the first one counts. -/
theorem swapped_columns_are_read :
    let text := Csv.render
      [[" corrected", "note", "original\t"], ["training for \"dogs\"", "a,\nb", " tf dogs"],
        [" ", "", "tf dogs"]]
    ∃ remap, ofCsv (Glyph.ofBytes text.toUTF8) = .ok remap ∧
      remap.correction? "tf dogs" = some "training for \"dogs\"" := by
  intro text
  have hlayout : Layout [" corrected", "note", "original\t"] 2 0 :=
    ⟨by decide, by decide, by decide⟩
  have hrows : List.Forall₂ (RowOf [" corrected", "note", "original\t"] 2 0)
      [["training for \"dogs\"", "a,\nb", " tf dogs"], [" ", "", "tf dogs"]]
      [(" tf dogs", "training for \"dogs\""), ("tf dogs", " ")] :=
    .cons ⟨rfl, rfl, rfl⟩ (.cons ⟨rfl, rfl, rfl⟩ .nil)
  obtain ⟨remap, hread, hlisted⟩ := correction_tables_are_read.1 _ _ _ _ _ text hlayout hrows
    (Csv.written_render (by decide))
  refine ⟨remap, hread, (hlisted _ _).2 ⟨[], _, _, rfl, ⟨?_, ?_, ?_, ?_⟩, ?_⟩⟩
  case refine_5 =>
    intro other hother corrected hcorrects
    cases List.mem_singleton.1 hother
    exact hcorrects.corrected_ne (hcorrects.corrected_eq.symm.trans (by decide))
  all_goals decide

/-- Two columns whose names differ by a blank only have the same name, so the table fails. -/
theorem blank_before_name_repeats_it :
    let names := ["original", "corrected", " original"]
    let text := Csv.render [names, ["tf dogs", "training for dogs", "see above"]]
    names.Nodup ∧ Written [names, ["tf dogs", "training for dogs", "see above"]] text.toList ∧
      ofCsv (Glyph.ofBytes text.toUTF8) = .error (.duplicateColumn "original") := by
  intro names text
  have hwritten : Written [names, ["tf dogs", "training for dogs", "see above"]] text.toList :=
    Csv.written_render (by decide)
  have hfault : Csv.readWritten columns names ["tf dogs", "training for dogs", "see above"]
      = .error (.duplicateColumn "original") := by decide
  refine ⟨by decide, hwritten, ofCsv_of_fault ?_⟩
  rw [Glyph.ofBytes_toUTF8, Glyph.ofString, Csv.readColumns_of_written hwritten]
  exact Csv.mapM_cons_of_error hfault

end ExportControl.Remap
