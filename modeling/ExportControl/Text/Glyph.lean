/-
ExportControl.Text.Glyph — bytes read as UTF-8, well-formed or not.

A byte text is cut into glyphs: a character for each well-formed sequence, and a
stray byte for each byte that belongs to none. Nothing is lost, so a reader of
damaged text can still say what stands where.

* `Glyph.ofBytes` cuts a byte array, `Glyph.ofString` a text.
* `Glyph.toChars?` gives the characters of a run without stray bytes.
* `Glyph.soundWidth` counts the bytes before the first stray one.
-/
namespace ExportControl.Text

/-- A unit of a byte text. -/
inductive Glyph where
  /-- A well-formed character. -/
  | char (c : Char)
  /-- A byte that is part of no well-formed character. -/
  | stray (b : UInt8)
  deriving DecidableEq, Repr

namespace Glyph

/-- The glyphs of the bytes from index `i` on. -/
def ofBytesFrom (bytes : ByteArray) (i : Nat) : List Glyph :=
  if h : i < bytes.size then
    match bytes.utf8DecodeChar? i with
    | some c => .char c :: ofBytesFrom bytes (i + c.utf8Size)
    | none => .stray bytes[i] :: ofBytesFrom bytes (i + 1)
  else []
termination_by bytes.size - i
decreasing_by
  · have := c.utf8Size_pos
    omega
  · omega

/-- The glyphs of a byte array. -/
def ofBytes (bytes : ByteArray) : List Glyph := ofBytesFrom bytes 0

/-- The glyphs of a text: its characters. -/
def ofString (s : String) : List Glyph := s.toList.map .char

/-- The characters of a run of glyphs, if none of them is a stray byte. -/
def toChars? : List Glyph → Option (List Char)
  | [] => some []
  | .char c :: rest => (toChars? rest).map (c :: ·)
  | .stray _ :: _ => none

/-- How many bytes stand before the first stray one. -/
def soundWidth : List Glyph → Nat
  | .char c :: rest => c.utf8Size + soundWidth rest
  | _ => 0

theorem toChars?_map_char (cs : List Char) : toChars? (cs.map .char) = some cs := by
  induction cs with
  | nil => rfl
  | cons c cs ih => simp [toChars?, ih]

theorem eq_map_char_of_toChars? {gs : List Glyph} {cs : List Char}
    (h : toChars? gs = some cs) : gs = cs.map .char := by
  induction gs generalizing cs with
  | nil => simp_all [toChars?]
  | cons g gs ih =>
    cases g with
    | stray b => simp [toChars?] at h
    | char c =>
      obtain ⟨ds, hds, rfl⟩ := Option.map_eq_some_iff.1 h
      simp [ih hds]

end Glyph

end ExportControl.Text
