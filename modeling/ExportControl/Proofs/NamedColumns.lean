/-
ExportControl.Proofs.NamedColumns — the fields of named columns in a written table.

Fields are taken without the blanks at their ends, the names of the columns too. A
table whose records are as long as its first one, and where no wanted name comes
twice, gives the fields under the wanted names; any other is not read at all.

  §1 Blanks   — `trimBy_trimBy`: dropping some of the blanks first makes no
                difference.
  §2 Fields   — `texts_ofString`: the texts of a written record.
  §3 Columns  — `duplicateFrom?_eq_none_iff`: no wanted name comes twice;
                `lookup_zip`: the field under a name.
  §4 Failures — `mapM_cons_of_ok`, `mapM_append_of_error`: rows are read up to the
                first fault.
  §5 Tables   — `readColumns_of_written` and the three ways in which it can end.
-/
import ExportControl.Csv.Table
import ExportControl.Proofs.QuotedRecords
import Mathlib.Data.List.DropRight

namespace ExportControl

/-! ## §1 Blanks -/

namespace Text

section TrimBy

variable {α β : Type} {p q : α → Bool} {as bs : List α}

/-- A list without the elements at its ends that have a property. -/
def trimBy (p : α → Bool) (as : List α) : List α := (as.dropWhile p).rdropWhile p

theorem dropWhile_dropWhile_of_imp (h : ∀ a, q a = true → p a = true) (as : List α) :
    (as.dropWhile q).dropWhile p = as.dropWhile p := by
  induction as with
  | nil => rfl
  | cons a as ih =>
    rw [List.dropWhile_cons]
    split
    · rename_i hq
      rw [ih, List.dropWhile_cons_of_pos (h a hq)]
    · rfl

theorem trimBy_append (h : ∀ b ∈ bs, p b = true) : trimBy p (as ++ bs) = trimBy p as := by
  rw [trimBy, trimBy, List.dropWhile_append]
  split
  · rename_i hall
    rw [List.isEmpty_iff.1 hall, List.dropWhile_eq_nil_iff.2 h]
  · rw [List.rdropWhile, List.rdropWhile, List.reverse_append,
      List.dropWhile_append_of_pos fun b hb => h b (List.mem_reverse.1 hb)]

theorem trimBy_trimBy (h : ∀ a, q a = true → p a = true) (as : List α) :
    trimBy p (trimBy q as) = trimBy p as := by
  have hdropped : ∀ a ∈ (as.dropWhile q).rtakeWhile q, p a = true := fun a ha =>
    h a (List.mem_rtakeWhile_imp ha)
  calc trimBy p (trimBy q as)
      = trimBy p ((as.dropWhile q).rdropWhile q ++ (as.dropWhile q).rtakeWhile q) :=
        (trimBy_append hdropped).symm
    _ = trimBy p (as.dropWhile q) := by rw [List.rdropWhile_append_rtakeWhile]
    _ = trimBy p as := by rw [trimBy, dropWhile_dropWhile_of_imp h, trimBy]

theorem trimBy_map {p : β → Bool} (f : α → β) (as : List α) :
    trimBy p (as.map f) = (trimBy (p ∘ f) as).map f := by
  simp only [trimBy, List.rdropWhile, List.dropWhile_map, ← List.map_reverse]

/-- What is left of a trimmed list has another element at its end, or is nothing. -/
theorem trimBy_eq_nil_of_all (h : ∀ a ∈ trimBy p as, p a = true) : trimBy p as = [] := by
  by_contra hne
  exact List.rdropWhile_last_not p _ hne (h _ (List.getLast_mem hne))

end TrimBy

theorem trimChars_eq_trimBy (cs : List Char) : trimChars cs = trimBy isBlank cs := rfl

/-- Only the empty text is all blanks once it is trimmed. -/
theorem isBlankText_trim (s : String) : isBlankText (trim s) = decide (trim s = "") := by
  rw [Bool.eq_iff_iff, decide_eq_true_eq, isBlankText, List.all_eq_true, trim,
    String.toList_ofList, String.ofList_eq_empty_iff]
  constructor
  · exact trimBy_eq_nil_of_all
  · intro hnil
    simp [hnil]

end Text

namespace Csv

open Text (Glyph trim trimBy)

/-! ## §2 Fields -/

theorem isBlank_of_isAsciiBlank {c : Char} (h : isAsciiBlank (.char c) = true) :
    Text.isBlank c = true := by
  simp only [isAsciiBlank, Bool.or_eq_true, decide_eq_true_eq, Glyph.char.injEq] at h
  rcases h with (((rfl | rfl) | rfl) | rfl) | rfl <;> decide

theorem trimRaw_ofString (s : String) :
    trimRaw (Glyph.ofString s) = (trimBy (isAsciiBlank ∘ Glyph.char) s.toList).map .char :=
  Text.trimBy_map Glyph.char s.toList

/-- The texts of a written record are its fields without the blanks at their ends. -/
theorem texts_ofString (row : List String) :
    texts (row.map Glyph.ofString) = .ok (row.map trim) := by
  have hfrom (i : Nat) : textsFrom i (row.map Glyph.ofString) = .ok (row.map trim) := by
    induction row generalizing i with
    | nil => rfl
    | cons field row ih =>
      rw [List.map_cons, textsFrom, trimRaw_ofString, Glyph.toChars?_map_char]
      have hblank : ∀ c, (isAsciiBlank ∘ Glyph.char) c = true → Text.isBlank c = true :=
        fun _ => isBlank_of_isAsciiBlank
      simp only [ih, Except.map, List.map_cons]
      rw [Text.trimChars_eq_trimBy, Text.trimBy_trimBy hblank]
      rfl
  exact hfrom 0

/-! ## §3 Columns -/

section Columns

variable {wanted seen names : List String} {name : String}

theorem duplicateFrom?_eq_none_iff :
    duplicateFrom? wanted seen names = none ↔
      ∀ name ∈ wanted, (if name ∈ seen then 1 else 0) + names.count name ≤ 1 := by
  induction names generalizing seen with
  | nil =>
    simp only [duplicateFrom?, List.count_nil, true_iff]
    intro name _
    split <;> decide
  | cons first names ih =>
    rw [duplicateFrom?]
    split
    · rename_i hagain
      simp only [reduceCtorEq, false_iff, not_forall]
      exact ⟨first, hagain.1, by simp [hagain.2]⟩
    · rename_i hnew
      rw [ih]
      refine forall₂_congr fun name hname => ?_
      by_cases hfirst : first = name
      · subst hfirst
        have hunseen : first ∉ seen := fun hseen => hnew ⟨hname, hseen⟩
        rw [if_pos List.mem_cons_self, if_neg hunseen, List.count_cons_self]
        omega
      · simp [hfirst, Ne.symm hfirst]

theorem mem_of_duplicateFrom? (h : duplicateFrom? wanted seen names = some name) :
    name ∈ wanted := by
  induction names generalizing seen with
  | nil => cases h
  | cons first names ih =>
    rw [duplicateFrom?] at h
    split at h
    · rename_i hagain
      cases h
      exact hagain.1
    · exact ih h

/-- The field under a name that only one column has. -/
theorem lookup_zip (fields : List String) {i : Nat} (hname : names[i]? = some name)
    (honce : names.count name ≤ 1) : (names.zip fields).lookup name = fields[i]? := by
  induction names generalizing fields i with
  | nil => cases hname
  | cons first names ih =>
    cases fields with
    | nil => rfl
    | cons field fields =>
      rw [List.zip_cons_cons, List.lookup_cons]
      by_cases hfirst : name = first
      · subst hfirst
        have hnone : name ∉ names := by
          rw [← List.count_eq_zero]
          simpa using honce
        cases i with
        | zero => simp
        | succ i =>
          rw [List.getElem?_cons_succ] at hname
          exact absurd (List.mem_of_getElem? hname) hnone
      · rw [beq_false_of_ne hfirst]
        cases i with
        | zero =>
          cases hname
          exact absurd rfl hfirst
        | succ i =>
          rw [List.count_cons_of_ne (Ne.symm hfirst)] at honce
          exact ih fields hname honce

end Columns

/-! ## §4 Failures -/

section Failures

variable {α β ε : Type} {f : α → Except ε β} {as earlier later : List α} {a : α}

theorem mapM_cons_of_ok {b : β} (h : f a = .ok b) :
    (a :: as).mapM f = (as.mapM f).map (b :: ·) := by
  rw [List.mapM_cons, h]
  cases as.mapM f <;> rfl

theorem mapM_cons_of_error {e : ε} (h : f a = .error e) : (a :: as).mapM f = .error e := by
  rw [List.mapM_cons, h]
  rfl

theorem mapM_of_ok {g : α → β} (h : ∀ a ∈ as, f a = .ok (g a)) : as.mapM f = .ok (as.map g) := by
  induction as with
  | nil => rfl
  | cons a as ih =>
    obtain ⟨ha, has⟩ := List.forall_mem_cons.1 h
    rw [mapM_cons_of_ok ha, ih has]
    rfl

/-- The first failure ends it. -/
theorem mapM_append_of_error {e : ε} (hearlier : ∀ a ∈ earlier, ∃ b, f a = .ok b)
    (h : f a = .error e) : (earlier ++ a :: later).mapM f = .error e := by
  induction earlier with
  | nil => exact mapM_cons_of_error h
  | cons first earlier ih =>
    obtain ⟨⟨b, hb⟩, hrest⟩ := List.forall_mem_cons.1 hearlier
    rw [List.cons_append, mapM_cons_of_ok hb, ih hrest]
    rfl

/-- One failure is enough, whatever comes before it. -/
theorem exists_mapM_eq_error {e : ε} (hmem : a ∈ as) (h : f a = .error e) :
    ∃ e', as.mapM f = .error e' := by
  induction as with
  | nil => cases hmem
  | cons first as ih =>
    cases hfirst : f first with
    | error e' => exact ⟨e', mapM_cons_of_error hfirst⟩
    | ok b =>
      rcases List.mem_cons.1 hmem with rfl | hmem
      · cases hfirst.symm.trans h
      · obtain ⟨e', he'⟩ := ih hmem
        exact ⟨e', by rw [mapM_cons_of_ok hfirst, he']; rfl⟩

end Failures

/-! ## §5 Tables -/

section Tables

variable {wanted names row : List String} {rows earlier later : List (List String)}
  {text : List Char}

/-- The fields under the wanted names in a row. -/
def named (wanted names row : List String) : List (Option String) :=
  wanted.map fun name => ((names.map trim).zip (row.map trim)).lookup name

/-- How a written record behind the one that names the columns is read. -/
def readWritten (wanted names row : List String) : Except Fault (List (Option String)) :=
  readRow names.length (some (names.map trim)) wanted (row.map Glyph.ofString)

theorem readWritten_of_length_ne (h : row.length ≠ names.length) :
    readWritten wanted names row = .error (.unequalLengths names.length row.length) := by
  rw [readWritten, readRow, List.length_map, if_neg h]

theorem readWritten_of_length_eq (h : row.length = names.length) :
    readWritten wanted names row
      = match duplicateFrom? wanted [] (names.map trim) with
        | some name => .error (.duplicateColumn name)
        | none => .ok (named wanted names row) := by
  rw [readWritten, readRow, List.length_map, if_pos h, texts_ofString]
  rfl

/-- Where no wanted name comes twice, a record of the right length gives its fields. -/
theorem readWritten_of_once (honce : ∀ name ∈ wanted, (names.map trim).count name ≤ 1)
    (h : row.length = names.length) :
    readWritten wanted names row = .ok (named wanted names row) := by
  have hnone : duplicateFrom? wanted [] (names.map trim) = none :=
    duplicateFrom?_eq_none_iff.2 (by simpa using honce)
  rw [readWritten_of_length_eq h, hnone]

theorem readColumns_of_written (h : Written (names :: rows) text) :
    readColumns wanted (text.map .char) = rows.mapM (readWritten wanted names) := by
  rw [readColumns, records_of_written h, List.map_cons]
  simp only [texts_ofString, List.length_map, List.mapM_map]
  rfl

/-- Where no wanted name comes twice and all records are as long as the first, the table gives the
fields under the wanted names. -/
theorem readColumns_eq_ok (h : Written (names :: rows) text)
    (honce : ∀ name ∈ wanted, (names.map trim).count name ≤ 1)
    (hwidth : ∀ row ∈ rows, row.length = names.length) :
    readColumns wanted (text.map .char) = .ok (rows.map (named wanted names)) := by
  rw [readColumns_of_written h]
  exact mapM_of_ok fun row hrow => readWritten_of_once honce (hwidth row hrow)

theorem readColumns_of_length_ne (h : Written (names :: (earlier ++ row :: later)) text)
    (honce : ∀ name ∈ wanted, (names.map trim).count name ≤ 1)
    (hearlier : ∀ other ∈ earlier, other.length = names.length)
    (hrow : row.length ≠ names.length) :
    readColumns wanted (text.map .char) = .error (.unequalLengths names.length row.length) := by
  rw [readColumns_of_written h]
  exact mapM_append_of_error
    (fun other hother => ⟨_, readWritten_of_once honce (hearlier other hother)⟩)
    (readWritten_of_length_ne hrow)

/-- A wanted name that comes twice shows with the first record behind the names. -/
theorem readColumns_of_repeated (h : Written (names :: row :: rows) text)
    (hrow : row.length = names.length)
    (htwice : ∃ name ∈ wanted, 1 < (names.map trim).count name) :
    ∃ name ∈ wanted, readColumns wanted (text.map .char) = .error (.duplicateColumn name) := by
  cases hduplicate : duplicateFrom? wanted [] (names.map trim) with
  | none =>
    obtain ⟨name, hname, hcount⟩ := htwice
    have hle := duplicateFrom?_eq_none_iff.1 hduplicate name hname
    simp only [List.not_mem_nil, if_false] at hle
    omega
  | some name =>
    refine ⟨name, mem_of_duplicateFrom? hduplicate, ?_⟩
    rw [readColumns_of_written h]
    exact mapM_cons_of_error (by rw [readWritten_of_length_eq hrow, hduplicate])

/-- A record of another length than the first makes any text unreadable as a table. -/
theorem exists_fault_of_length_ne {gs : List Glyph} {first record : RawRecord}
    {rest : List RawRecord} (hrecords : records gs = first :: rest) (hmem : record ∈ rest)
    (h : record.length ≠ first.length) : ∃ fault, readColumns wanted gs = .error fault := by
  rw [readColumns, hrecords]
  exact exists_mapM_eq_error hmem (if_neg h)

end Tables

end Csv

end ExportControl
