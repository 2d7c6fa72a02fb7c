/-
ExportControl.Proofs.JsonText — what is written as JSON is read back.

A document that is written without blanks is read as a draft in which nothing is
broken off or unreadable. Reading needs no more fuel than twice the characters.

  §1 Bytes     — `ofBytes_toUTF8`: the bytes of a text are cut into its characters.
  §2 Texts     — `readText_quoted`: escapes are undone.
  §3 Numbers   — `readNumber_toDigits`: a number is read up to what follows it.
  §4 Values    — `Value.toDraft`: the draft of a document; `readsBack`.
  §5 Documents — `read_render`: a whole document is read back from its bytes.
-/
import ExportControl.Json.Reader
import ExportControl.Json.Value
import ExportControl.Proofs.Numerals

namespace ExportControl

/-! ## §1 Bytes -/

namespace Text.Glyph

theorem size_utf8Encode_singleton (c : Char) : [c].utf8Encode.size = c.utf8Size := by
  simp [List.utf8Encode_singleton]

theorem ofBytesFrom_utf8Encode (before : ByteArray) (cs : List Char) :
    ofBytesFrom (before ++ cs.utf8Encode) before.size = cs.map .char := by
  induction cs generalizing before with
  | nil =>
    rw [ofBytesFrom]
    simp
  | cons c cs ih =>
    have hrest := ih (before ++ [c].utf8Encode)
    rw [ByteArray.append_assoc, ← List.utf8Encode_cons, ByteArray.size_append,
      size_utf8Encode_singleton] at hrest
    have hlt : before.size < (before ++ (c :: cs).utf8Encode).size := by
      have hpos := c.utf8Size_pos
      rw [List.utf8Encode_cons, ByteArray.size_append, ByteArray.size_append,
        size_utf8Encode_singleton]
      omega
    have hchar : (before ++ (c :: cs).utf8Encode).utf8DecodeChar? before.size = some c := by
      rw [ByteArray.utf8DecodeChar?_eq_utf8DecodeChar?_extract,
        ByteArray.extract_append_eq_right rfl ByteArray.size_append]
      exact List.utf8DecodeChar?_utf8Encode_cons
    rw [ofBytesFrom, dif_pos hlt, List.map_cons, ← hrest]
    split
    · rename_i d hd
      cases hchar.symm.trans hd
      rfl
    · rename_i hnone
      cases hchar.symm.trans hnone

theorem ofBytes_toUTF8 (s : String) : ofBytes s.toUTF8 = ofString s := by
  have h := ofBytesFrom_utf8Encode ByteArray.empty s.toList
  simpa [ofBytes, ofString] using h

end Text.Glyph

namespace Json

open Text

/-! ## §2 Texts -/

theorem hexDigit?_hexDigit {n : Nat} (h : n < 16) : hexDigit? (hexDigit n) = some n := by
  have hall : ∀ n < 16, hexDigit? (hexDigit n) = some n := by decide
  exact hall n h

/-- The control characters that are written with a letter. -/
def lettered (c : Char) : Bool := ['\n', '\r', '\t', '\x08', '\x0c'].contains c

/-- The unit that a character is read back as: a code for most control characters. -/
def unitOf (c : Char) : TextUnit :=
  if c.toNat < 0x20 ∧ lettered c = false then .code c.toNat else .char c

theorem codeOf?_control {n : Nat} (h : n < 32) :
    codeOf? '0' '0' (hexDigit (n / 16)) (hexDigit (n % 16)) = some n := by
  have hzero : hexDigit? '0' = some 0 := by decide
  have hhigh := hexDigit?_hexDigit (show n / 16 < 16 by omega)
  have hlow := hexDigit?_hexDigit (show n % 16 < 16 by omega)
  simp only [codeOf?, hzero, hhigh, hlow, Option.bind_eq_bind, Option.bind_some, Option.pure_def,
    Option.some.injEq]
  omega

/-- A character that is written as it is. -/
theorem readUnits_plain {c : Char} (hquote : c ≠ '"') (hback : c ≠ '\\')
    (hcontrol : ¬ c.toNat < 0x20) (rest : List Glyph) :
    readUnits (.char c :: rest)
      = (readUnits rest).map fun read => (.char c :: read.1, read.2) := by
  rw [readUnits.eq_def]
  split
  · rename_i heq
    cases heq
    exact absurd rfl hquote
  · rename_i heq
    cases heq
    exact absurd rfl hback
  · rename_i heq
    cases heq
    exact absurd rfl hback
  · rename_i heq
    cases heq
    rw [if_neg (not_or.2 ⟨hback, hcontrol⟩)]
  · rename_i heq
    cases heq
  · rename_i heq
    cases heq

theorem readUnits_escape (c : Char) (rest : List Glyph) :
    readUnits ((escape c).map .char ++ rest)
      = (readUnits rest).map fun read => (unitOf c :: read.1, read.2) := by
  unfold escape
  split
  · subst c; simp [readUnits, unescape?, unitOf]
  split
  · subst c; simp [readUnits, unescape?, unitOf]
  split
  · subst c; simp [readUnits, unescape?, unitOf, lettered]
  split
  · subst c; simp [readUnits, unescape?, unitOf, lettered]
  split
  · subst c; simp [readUnits, unescape?, unitOf, lettered]
  split
  · subst c; simp [readUnits, unescape?, unitOf, lettered]
  split
  · subst c; simp [readUnits, unescape?, unitOf, lettered]
  split
  · rename_i hn hr ht hb hf hcontrol
    have hcode := codeOf?_control hcontrol
    have hunit : unitOf c = .code c.toNat := by simp [unitOf, lettered, *]
    simp [readUnits, hcode, hunit]
  · rename_i hquote hback hn hr ht hb hf hcontrol
    have hunit : unitOf c = .char c := by simp [unitOf, hcontrol]
    simp only [List.map_cons, List.map_nil, List.singleton_append, hunit]
    exact readUnits_plain hquote hback hcontrol rest

/-- A code that is no half of a surrogate pair is a character whatever follows. -/
theorem composeUnits_code {n : Nat} (hhigh : isHighSurrogate n = false)
    (hlow : isLowSurrogate n = false) (units : List TextUnit) :
    composeUnits (.code n :: units) = (composeUnits units).map (Char.ofNat n :: ·) := by
  cases units with
  | nil => simp [composeUnits, hhigh, hlow]
  | cons unit units => cases unit <;> simp [composeUnits, hhigh, hlow]

theorem composeUnits_unitOf (cs : List Char) : composeUnits (cs.map unitOf) = some cs := by
  induction cs with
  | nil => rfl
  | cons c cs ih =>
    rw [List.map_cons, unitOf]
    split
    · rename_i hcontrol
      have hhigh : isHighSurrogate c.toNat = false := by
        simp [isHighSurrogate]
        omega
      have hlow : isLowSurrogate c.toNat = false := by
        simp [isLowSurrogate]
        omega
      rw [composeUnits_code hhigh hlow, ih, Option.map_some, Char.ofNat_toNat]
    · rw [composeUnits, ih, Option.map_some]

theorem readText_quoted (s : String) (rest : List Glyph) :
    readText ((s.toList.flatMap escape).map .char ++ .char '"' :: rest) = some (some s, rest) := by
  have hunits : readUnits ((s.toList.flatMap escape).map .char ++ .char '"' :: rest)
      = some (s.toList.map unitOf, rest) := by
    induction s.toList with
    | nil => rfl
    | cons c cs ih =>
      rw [List.flatMap_cons, List.map_append, List.append_assoc, readUnits_escape, ih]
      rfl
  rw [readText, hunits]
  simp [composeUnits_unitOf]

/-! ## §3 Numbers -/

/-- What may follow a number without becoming part of it. -/
def EndsNumber (gs : List Glyph) : Prop :=
  ∀ c rest, gs = .char c :: rest → ¬ IsDigit c ∧ c ≠ '.' ∧ c ≠ 'e' ∧ c ≠ 'E'

theorem endsNumber_nil : EndsNumber [] := nofun

theorem endsNumber_char {c : Char} (hdigit : ¬ IsDigit c)
    (hmark : c ≠ '.' ∧ c ≠ 'e' ∧ c ≠ 'E') (rest : List Glyph) :
    EndsNumber (.char c :: rest) := by
  rintro _ _ ⟨⟩
  exact ⟨hdigit, hmark⟩

theorem spanDigits_append {digits : List Char} {rest : List Glyph}
    (hdigits : ∀ c ∈ digits, IsDigit c) (hrest : EndsNumber rest) :
    spanDigits (digits.map .char ++ rest) = (digits, rest) := by
  induction digits with
  | nil =>
    rw [List.map_nil, List.nil_append]
    unfold spanDigits
    split
    · rename_i c rest
      rw [if_neg (hrest c rest rfl).1]
    · rfl
  | cons c digits ih =>
    obtain ⟨hc, hdigits⟩ := List.forall_mem_cons.1 hdigits
    rw [List.map_cons, List.cons_append, spanDigits, if_pos hc, ih hdigits]

/-- A natural number as it is written. -/
def literalOf (n : Nat) : Literal where
  negative := false
  whole := Nat.toDigits 10 n
  fraction := []
  exponent := none
  chars := Nat.toDigits 10 n

theorem readFraction_of_endsNumber {rest : List Glyph} (h : EndsNumber rest) :
    readFraction rest = some ([], [], rest) := by
  unfold readFraction
  split
  · exact absurd rfl (h _ _ rfl).2.1
  · rfl

theorem readExponent_of_endsNumber {rest : List Glyph} (h : EndsNumber rest) :
    readExponent rest = some (none, [], rest) := by
  unfold readExponent
  split
  · obtain ⟨-, -, he, hE⟩ := h _ _ rfl
    rw [if_neg (by simp [he, hE])]
  · rfl

theorem readLiteral_toDigits {rest : List Glyph} (h : EndsNumber rest) (n : Nat) :
    readLiteral ((Nat.toDigits 10 n).map .char ++ rest) = some (literalOf n, rest) := by
  have hspan := spanDigits_append (fun _ => isDigit_of_mem_toDigits (n := n)) h
  have hzero : ((Nat.toDigits 10 n).isEmpty ||
      ((Nat.toDigits 10 n).head? == some '0' && (Nat.toDigits 10 n).length != 1)) = false := by
    rcases Nat.eq_zero_or_pos n with rfl | hpos
    · decide
    · simp [head?_toDigits hpos]
  obtain ⟨c, digits, hdigits, hc⟩ := exists_toDigits_eq_cons n
  have hsign : c ≠ '-' := hc.ne (by decide)
  rw [hdigits] at hspan hzero ⊢
  rw [List.map_cons, List.cons_append] at hspan ⊢
  simp only [readLiteral, List.cons.injEq, Glyph.char.injEq, hsign, false_and, imp_false,
    not_false_eq_true, implies_true, hspan, hzero, Bool.false_eq_true, if_false,
    readFraction_of_endsNumber h, readExponent_of_endsNumber h, Option.bind_eq_bind,
    Option.bind_some, Option.pure_def, List.append_nil, List.nil_append, literalOf, hdigits]

theorem readNumber_toDigits {rest : List Glyph} (h : EndsNumber rest) (n : Nat) :
    readNumber ((Nat.toDigits 10 n).map .char ++ rest)
      = (.number (literalOf n).classify, some rest) := by
  rw [readNumber, readLiteral_toDigits h]

theorem classify_literalOf {n : Nat} (h : n < wordLimit) :
    (literalOf n).classify = .natural n := by
  simp only [Literal.classify, literalOf, natOfDigits?_toDigits, if_pos h]

/-! ## §4 Values -/

mutual

/-- The draft of a document in which nothing is wrong. -/
def Value.toDraft : Value → Draft
  | .null => .null
  | .bool b => .bool b
  | .number n => .number (literalOf n).classify
  | .text s => .text (some s)
  | .list items => .list (itemDrafts items)
  | .record members => .record (memberDrafts members)

def itemDrafts : List Value → Items
  | [] => .closed
  | v :: vs => .item v.toDraft (itemDrafts vs)

def memberDrafts : List (String × Value) → Members
  | [] => .closed
  | (k, v) :: ms => .member (some k) v.toDraft (memberDrafts ms)

end

theorem isGap_of_isDigit {c : Char} (h : IsDigit c) : isGap (.char c) = false := by
  refine decide_eq_false ?_
  rintro (rfl | rfl | rfl | rfl) <;> exact absurd h (by decide)

/-- How every document starts: not with a blank or a bracket that closes. -/
theorem Value.exists_chars (v : Value) :
    ∃ c cs, v.chars = c :: cs ∧ isGap (.char c) = false ∧ c ≠ ']' := by
  cases v with
  | null => exact ⟨_, _, by rw [chars], by decide, by decide⟩
  | bool b => cases b <;> exact ⟨_, _, by rw [chars], by decide, by decide⟩
  | number n =>
    obtain ⟨c, cs, hdigits, hc⟩ := exists_toDigits_eq_cons n
    exact ⟨c, cs, by rw [chars, hdigits], isGap_of_isDigit hc, hc.ne (by decide)⟩
  | text s => exact ⟨_, _, by rw [chars, quoted], by decide, by decide⟩
  | list items => cases items <;> exact ⟨_, _, by rw [chars], by decide, by decide⟩
  | record members =>
    rcases members with _ | ⟨⟨k, v⟩, ms⟩ <;> exact ⟨_, _, by rw [chars], by decide, by decide⟩

theorem skipGaps_cons {c : Char} (h : isGap (.char c) = false) (rest : List Glyph) :
    skipGaps (.char c :: rest) = .char c :: rest :=
  List.dropWhile_cons_of_neg (by simp [h])

/-- A document is read back, up to what follows it. -/
def Value.ReadsBack (v : Value) : Prop :=
  ∀ fuel rest, 2 * v.chars.length ≤ fuel → EndsNumber rest →
    readValue fuel (v.chars.map .char ++ rest) = (v.toDraft, some rest)

theorem readItems_chars {v : Value} {vs : List Value} (h : ∀ w ∈ v :: vs, w.ReadsBack)
    (fuel : Nat) (hfuel : 2 * (v.chars.length + (itemChars vs).length) < fuel)
    (rest : List Glyph) :
    readItems fuel (v.chars.map .char ++ ((itemChars vs).map .char ++ rest))
      = (itemDrafts (v :: vs), some rest) := by
  induction vs generalizing v fuel with
  | nil =>
    obtain ⟨hv, -⟩ := List.forall_mem_cons.1 h
    cases fuel with
    | zero => omega
    | succ fuel =>
      have hclose : isGap (.char ']') = false := by decide
      rw [itemChars, List.map_cons, List.cons_append, readItems,
        hv fuel _ (by omega) (endsNumber_char (by decide) (by decide) _)]
      simp [itemDrafts, skipGaps_cons hclose]
  | cons w ws ih =>
    obtain ⟨hv, hws⟩ := List.forall_mem_cons.1 h
    obtain ⟨c, cs, hchars, hgap, hc⟩ := w.exists_chars
    cases fuel with
    | zero => omega
    | succ fuel =>
      have hcomma : isGap (.char ',') = false := by decide
      rw [itemChars, List.length_cons, List.length_append] at hfuel
      have hrest := ih hws fuel (by omega)
      rw [itemChars, List.map_cons, List.cons_append, readItems,
        hv fuel _ (by omega) (endsNumber_char (by decide) (by decide) _)]
      rw [hchars] at hrest
      simp only [List.map_cons, List.cons_append] at hrest
      simp [itemDrafts, skipGaps_cons hcomma, hchars, skipGaps_cons hgap, hc, hrest]

theorem readMembers_chars {k : String} {v : Value} {ms : List (String × Value)}
    (h : ∀ m ∈ (k, v) :: ms, m.2.ReadsBack) (fuel : Nat)
    (hfuel : 2 * (v.chars.length + (memberChars ms).length) < fuel) (rest : List Glyph) :
    readMembers fuel
        ((quoted k).map .char ++ .char ':' :: (v.chars.map .char ++
          ((memberChars ms).map .char ++ rest)))
      = (memberDrafts ((k, v) :: ms), some rest) := by
  induction ms generalizing k v fuel with
  | nil =>
    have hv : v.ReadsBack := h (k, v) List.mem_cons_self
    cases fuel with
    | zero => omega
    | succ fuel =>
      have hcolon : isGap (.char ':') = false := by decide
      have hclose : isGap (.char '\x7d') = false := by decide
      have hvalue := hv fuel (.char '\x7d' :: rest) (by omega)
        (endsNumber_char (by decide) (by decide) _)
      simp [quoted, memberChars, readMembers, readText_quoted, skipGaps_cons hcolon, hvalue,
        skipGaps_cons hclose, memberDrafts]
  | cons m ms ih =>
    have hv : v.ReadsBack := h (k, v) List.mem_cons_self
    have hms := (List.forall_mem_cons.1 h).2
    obtain ⟨name, w⟩ := m
    cases fuel with
    | zero => omega
    | succ fuel =>
      have hcolon : isGap (.char ':') = false := by decide
      have hcomma : isGap (.char ',') = false := by decide
      have hquote : isGap (.char '"') = false := by decide
      simp only [memberChars, List.length_cons, List.length_append] at hfuel
      have hrest := ih hms fuel (by omega)
      have hvalue := hv fuel ((memberChars ((name, w) :: ms)).map .char ++ rest) (by omega)
        (endsNumber_char (by decide) (by decide) _)
      simp only [memberChars, quoted, List.map_cons, List.map_append, List.cons_append,
        List.append_assoc, List.map_nil, List.nil_append] at hrest hvalue
      simp [quoted, memberChars, readMembers, readText_quoted, skipGaps_cons hcolon, hvalue,
        skipGaps_cons hcomma, skipGaps_cons hquote, memberDrafts, hrest]

theorem readWord_chars (word : List Char) (value : Draft) (rest : List Glyph) :
    readWord word value (word.map .char ++ rest) = (value, some rest) := by
  have hprefix : (word.map Glyph.char).isPrefixOf (word.map .char ++ rest) = true :=
    List.isPrefixOf_iff_prefix.2 (List.prefix_append _ _)
  rw [readWord, if_pos hprefix, ← List.length_map (f := Glyph.char), List.drop_left]

namespace Value

theorem length_chars_pos (v : Value) : 0 < v.chars.length := by
  obtain ⟨c, cs, hchars, -⟩ := v.exists_chars
  simp [hchars]

/-- Reading a document takes some fuel, and no blanks stand before it. -/
theorem readsBack_of_step {v : Value}
    (h : ∀ fuel rest, 2 * v.chars.length ≤ fuel + 1 → EndsNumber rest →
      readValue (fuel + 1) (v.chars.map .char ++ rest) = (v.toDraft, some rest)) : v.ReadsBack := by
  intro fuel rest hfuel hrest
  cases fuel with
  | zero => exact absurd hfuel (by have := v.length_chars_pos; omega)
  | succ fuel => exact h fuel rest hfuel hrest

theorem readsBack_number (n : Nat) : (number n).ReadsBack := by
  refine readsBack_of_step fun fuel rest _ hrest => ?_
  have hread := readNumber_toDigits hrest n
  rw [chars, toDraft]
  obtain ⟨c, cs, hdigits, hc⟩ := exists_toDigits_eq_cons n
  have hne : ∀ d, ¬ IsDigit d → c ≠ d := fun _ => hc.ne
  rw [hdigits] at hread ⊢
  rw [List.map_cons, List.cons_append] at hread ⊢
  simp [readValue, skipGaps_cons (isGap_of_isDigit hc), hne '"' (by decide), hne '[' (by decide),
    hne '\x7b' (by decide), hne 'n' (by decide), hne 't' (by decide), hne 'f' (by decide),
    hc, hread]

theorem readsBack_text (s : String) : (text s).ReadsBack := by
  refine readsBack_of_step fun fuel rest _ _ => ?_
  have hquote : isGap (.char '"') = false := by decide
  simp [chars, quoted, readValue, skipGaps_cons hquote, readText_quoted, toDraft]

theorem readsBack_null : null.ReadsBack := by
  refine readsBack_of_step fun fuel rest _ _ => ?_
  have hgap : isGap (.char 'n') = false := by decide
  have hword := readWord_chars ['u', 'l', 'l'] .null rest
  simp only [List.map_cons, List.map_nil, List.cons_append, List.nil_append] at hword
  simp [chars, readValue, skipGaps_cons hgap, hword, toDraft]

theorem readsBack_bool (b : Bool) : (bool b).ReadsBack := by
  refine readsBack_of_step fun fuel rest _ _ => ?_
  cases b with
  | true =>
    have hgap : isGap (.char 't') = false := by decide
    have hword := readWord_chars ['r', 'u', 'e'] (.bool true) rest
    simp only [List.map_cons, List.map_nil, List.cons_append, List.nil_append] at hword
    simp [chars, readValue, skipGaps_cons hgap, hword, toDraft]
  | false =>
    have hgap : isGap (.char 'f') = false := by decide
    have hword := readWord_chars ['a', 'l', 's', 'e'] (.bool false) rest
    simp only [List.map_cons, List.map_nil, List.cons_append, List.nil_append] at hword
    simp [chars, readValue, skipGaps_cons hgap, hword, toDraft]

theorem readsBack_list {items : List Value} (h : ∀ v ∈ items, v.ReadsBack) :
    (list items).ReadsBack := by
  refine readsBack_of_step fun fuel rest hfuel _ => ?_
  have hopen : isGap (.char '[') = false := by decide
  have hclose : isGap (.char ']') = false := by decide
  cases items with
  | nil => simp [chars, readValue, skipGaps_cons hopen, skipGaps_cons hclose, toDraft, itemDrafts]
  | cons v vs =>
    rw [chars, List.length_cons, List.length_append] at hfuel
    have hitems := readItems_chars h fuel (by omega) rest
    obtain ⟨c, cs, hchars, hgap, hc⟩ := v.exists_chars
    rw [hchars] at hitems
    simp only [List.map_cons, List.cons_append] at hitems
    simp [chars, readValue, skipGaps_cons hopen, hchars, skipGaps_cons hgap, hc, hitems, toDraft]

theorem readsBack_record {members : List (String × Value)} (h : ∀ m ∈ members, m.2.ReadsBack) :
    (record members).ReadsBack := by
  refine readsBack_of_step fun fuel rest hfuel _ => ?_
  have hopen : isGap (.char '\x7b') = false := by decide
  have hclose : isGap (.char '\x7d') = false := by decide
  have hquote : isGap (.char '"') = false := by decide
  match members with
  | [] => simp [chars, readValue, skipGaps_cons hopen, skipGaps_cons hclose, toDraft, memberDrafts]
  | (k, v) :: ms =>
    simp only [chars, List.length_cons, List.length_append] at hfuel
    have hmembers := readMembers_chars h fuel (by omega) rest
    simp only [quoted, List.map_cons, List.map_append, List.cons_append, List.append_assoc,
      List.map_nil, List.nil_append] at hmembers
    simp [chars, quoted, readValue, skipGaps_cons hopen, skipGaps_cons hquote, hmembers, toDraft]

/-- Every document is read back. -/
theorem readsBack : (v : Value) → v.ReadsBack
  | null => readsBack_null
  | bool b => readsBack_bool b
  | number n => readsBack_number n
  | text s => readsBack_text s
  | list items => readsBack_list fun v _ => v.readsBack
  | record members => readsBack_record fun m _ => m.2.readsBack
termination_by v => sizeOf v
decreasing_by
  · rename_i hv
    have hlt := List.sizeOf_lt_of_mem hv
    simp only [list.sizeOf_spec]
    omega
  · rename_i hm
    have hlt := List.sizeOf_lt_of_mem hm
    have hmember : sizeOf m.2 < sizeOf m := by cases m; simp only [Prod.mk.sizeOf_spec]; omega
    simp only [record.sizeOf_spec]
    omega

end Value

/-! ## §5 Documents -/

/-- A document is read back from the bytes of its text, and nothing follows it. -/
theorem read_render (v : Value) :
    Document.read (Glyph.ofBytes v.render.toUTF8) = { body := v.toDraft, ended := true } := by
  have hglyphs : Glyph.ofBytes v.render.toUTF8 = v.chars.map .char := by
    rw [Glyph.ofBytes_toUTF8, Glyph.ofString, Value.render, String.toList_ofList]
  have hread := v.readsBack (2 * (v.chars.map Glyph.char).length + 2) []
    (by rw [List.length_map]; omega) endsNumber_nil
  rw [List.append_nil] at hread
  rw [hglyphs, Document.read, hread]
  rfl

end Json

end ExportControl
