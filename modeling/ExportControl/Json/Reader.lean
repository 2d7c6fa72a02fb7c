/-
ExportControl.Json.Reader — from glyphs to a draft.

* `readText` reads what stands between quotes.
* `readNumber` reads a number and classes it.
* `readValue` reads one value and gives it with the glyphs that follow, or with
  none where reading cannot go on.
* `Document.read` reads a whole document: one value, then blanks only.
-/
import ExportControl.Json.Draft
import ExportControl.Text.Digit
import ExportControl.Text.Glyph

namespace ExportControl.Json

open Text (Glyph digit? hexDigit?)

/-- The four blanks that may stand between the parts of a document. -/
def isGap : Glyph → Bool
  | .char c => c = ' ' ∨ c = '\n' ∨ c = '\t' ∨ c = '\r'
  | .stray _ => false

/-- The glyphs without the blanks they start with. -/
def skipGaps (gs : List Glyph) : List Glyph := gs.dropWhile isGap

/-! ## Texts -/

/-- A unit of a text between quotes. -/
inductive TextUnit where
  /-- A character that stands for itself, or an escaped one. -/
  | char (c : Char)
  /-- A four-digit code. -/
  | code (n : Nat)
  /-- A byte that is part of no character. -/
  | stray

/-- The number that four hexadecimal digits stand for. -/
def codeOf? (a b c d : Char) : Option Nat := do
  let high := (← hexDigit? a) * 16 + (← hexDigit? b)
  let low := (← hexDigit? c) * 16 + (← hexDigit? d)
  return high * 256 + low

/-- The character that a letter after a backslash stands for. -/
def unescape? : Char → Option Char
  | '"' => some '"'
  | '\\' => some '\\'
  | '/' => some '/'
  | 'b' => some '\x08'
  | 'f' => some '\x0c'
  | 'n' => some '\n'
  | 'r' => some '\r'
  | 't' => some '\t'
  | _ => none

/-- The units up to the closing quote, and what follows it. -/
def readUnits : List Glyph → Option (List TextUnit × List Glyph)
  | .char '"' :: rest => some ([], rest)
  | .char '\\' :: .char 'u' :: .char a :: .char b :: .char c :: .char d :: rest =>
    match codeOf? a b c d with
    | some n => (readUnits rest).map fun (units, rest) => (.code n :: units, rest)
    | none => none
  | .char '\\' :: .char e :: rest =>
    match unescape? e with
    | some c => (readUnits rest).map fun (units, rest) => (.char c :: units, rest)
    | none => none
  | .char c :: rest =>
    if c = '\\' ∨ c.toNat < 0x20 then none
    else (readUnits rest).map fun (units, rest) => (.char c :: units, rest)
  | .stray _ :: rest => (readUnits rest).map fun (units, rest) => (.stray :: units, rest)
  | [] => none

/-- The first code of a surrogate pair. -/
def isHighSurrogate (n : Nat) : Bool := 0xD800 ≤ n && n ≤ 0xDBFF

/-- The second code of a surrogate pair. -/
def isLowSurrogate (n : Nat) : Bool := 0xDC00 ≤ n && n ≤ 0xDFFF

/-- The characters that the units stand for: two codes that form a surrogate pair are one
character, and half a pair is none. -/
def composeUnits : List TextUnit → Option (List Char)
  | [] => some []
  | .char c :: rest => (composeUnits rest).map (c :: ·)
  | .stray :: _ => none
  | .code n :: .code m :: rest =>
    if isHighSurrogate n then
      if isLowSurrogate m then
        (composeUnits rest).map
          (Char.ofNat (0x10000 + (n - 0xD800) * 0x400 + (m - 0xDC00)) :: ·)
      else none
    else if isLowSurrogate n then none
    else (composeUnits (.code m :: rest)).map (Char.ofNat n :: ·)
  | .code n :: rest =>
    if isHighSurrogate n || isLowSurrogate n then none
    else (composeUnits rest).map (Char.ofNat n :: ·)

/-- A text after its opening quote, and what follows it. -/
def readText (gs : List Glyph) : Option (Option String × List Glyph) :=
  (readUnits gs).map fun (units, rest) => ((composeUnits units).map String.ofList, rest)

/-! ## Numbers -/

/-- The ASCII digits the glyphs start with, and the rest. -/
def spanDigits : List Glyph → List Char × List Glyph
  | .char c :: rest =>
    if (digit? c).isSome then
      let (digits, rest) := spanDigits rest
      (c :: digits, rest)
    else ([], .char c :: rest)
  | gs => ([], gs)

/-- A number as it is written: sign, whole part, fraction and exponent. -/
structure Literal where
  negative : Bool
  whole : List Char
  fraction : List Char
  /-- Whether the exponent is negative, and its digits. -/
  exponent : Option (Bool × List Char)
  /-- The characters themselves. -/
  chars : List Char

/-- The exponent that may follow; none where it has no digits. -/
def readExponent : List Glyph → Option (Option (Bool × List Char) × List Char × List Glyph)
  | .char e :: rest =>
    if e = 'e' ∨ e = 'E' then
      let (sign, rest) : List Char × List Glyph :=
        match rest with
        | .char '+' :: rest => (['+'], rest)
        | .char '-' :: rest => (['-'], rest)
        | rest => ([], rest)
      let (digits, rest) := spanDigits rest
      if digits.isEmpty then none
      else some (some (sign == ['-'], digits), e :: (sign ++ digits), rest)
    else some (none, [], .char e :: rest)
  | gs => some (none, [], gs)

/-- The fraction that may follow; none where it has no digits. -/
def readFraction : List Glyph → Option (List Char × List Char × List Glyph)
  | .char '.' :: rest =>
    let (digits, rest) := spanDigits rest
    if digits.isEmpty then none else some (digits, '.' :: digits, rest)
  | gs => some ([], [], gs)

/-- A number, and what follows it. A whole part has no leading zero. -/
def readLiteral (gs : List Glyph) : Option (Literal × List Glyph) := do
  let (negative, gs) : Bool × List Glyph :=
    match gs with
    | .char '-' :: rest => (true, rest)
    | gs => (false, gs)
  let (whole, gs) := spanDigits gs
  if whole.isEmpty || (whole.head? == some '0' && whole.length != 1) then none
  let (fraction, fractionChars, gs) ← readFraction gs
  let (exponent, exponentChars, gs) ← readExponent gs
  return ({ negative, whole, fraction, exponent,
            chars := (if negative then ['-'] else []) ++ whole ++ fractionChars ++ exponentChars },
          gs)

/-- The least number that needs more than 64 bits. -/
def wordLimit : Nat := Nat.pow 2 64

/-- Takes up digits as long as the number fits 64 bits; gives it with the count of digits
left over. -/
def absorb (n : Nat) : List Char → Nat × Nat
  | [] => (n, 0)
  | c :: rest =>
    let next := n * 10 + (digit? c).getD 0
    if next < wordLimit then absorb next rest else (n, (c :: rest).length)

/-- A number rounded to 53 binary digits, a half to the even neighbour. -/
def roundToDouble (n : Nat) : Nat :=
  if n < Nat.pow 2 53 then n
  else
    let unit := Nat.pow 2 (n.log2 - 52)
    let low := n / unit
    let rest := n % unit
    if rest * 2 < unit ∨ (rest * 2 = unit ∧ low % 2 = 0) then low * unit else (low + 1) * unit

/-- The least number that rounds past the largest double. -/
def doubleLimit : Nat := Nat.pow 2 1024 - Nat.pow 2 970

/-- Whether a number leaves the range of a double: its leading digits, as far as they fit 64
bits, times a power of ten, each rounded to a double. -/
def Literal.outOfRange (l : Literal) : Bool :=
  let (leading, spareWhole) := absorb 0 l.whole
  let (leading, spareFraction) := absorb leading l.fraction
  let shift : Int := spareWhole - (l.fraction.length - spareFraction : Nat)
  let power : Int :=
    match l.exponent with
    | none => shift
    | some (true, digits) => shift - ((Text.natOfDigits? digits).getD 0 : Nat)
    | some (false, digits) => shift + ((Text.natOfDigits? digits).getD 0 : Nat)
  leading != 0 && 0 ≤ power &&
    (308 < power ||
      doubleLimit ≤ roundToDouble leading * roundToDouble (Nat.pow 10 power.toNat))

/-- The class of a number. -/
def Literal.classify (l : Literal) : Number :=
  let literal := String.ofList l.chars
  match l.negative, l.fraction, l.exponent, Text.natOfDigits? l.whole with
  | false, [], none, some n =>
    if n < wordLimit then .natural n
    else if l.outOfRange then .outOfRange literal else .other literal
  | _, _, _, _ => if l.outOfRange then .outOfRange literal else .other literal

/-- A number as a draft, and what follows it. -/
def readNumber (gs : List Glyph) : Draft × Option (List Glyph) :=
  match readLiteral gs with
  | some (l, rest) => (.number l.classify, some rest)
  | none => (.missing, none)

/-! ## Values -/

/-- A fixed word, and what follows it. -/
def readWord (word : List Char) (value : Draft) (gs : List Glyph) : Draft × Option (List Glyph) :=
  if (word.map Glyph.char).isPrefixOf gs then (value, some (gs.drop word.length))
  else (.missing, none)

mutual

/-- One value and what follows it, at most `fuel` parts deep and long. -/
def readValue : Nat → List Glyph → Draft × Option (List Glyph)
  | 0, _ => (.missing, none)
  | fuel + 1, gs =>
    match skipGaps gs with
    | .char '"' :: rest =>
      match readText rest with
      | some (s, rest) => (.text s, some rest)
      | none => (.missing, none)
    | .char '[' :: rest =>
      match skipGaps rest with
      | .char ']' :: rest => (.list .closed, some rest)
      | [] => (.list .cut, none)
      | rest =>
        let (items, rest) := readItems fuel rest
        (.list items, rest)
    | .char '\x7b' :: rest =>
      match skipGaps rest with
      | .char '\x7d' :: rest => (.record .closed, some rest)
      | rest =>
        let (members, rest) := readMembers fuel rest
        (.record members, rest)
    | .char 'n' :: rest => readWord ['u', 'l', 'l'] .null rest
    | .char 't' :: rest => readWord ['r', 'u', 'e'] (.bool true) rest
    | .char 'f' :: rest => readWord ['a', 'l', 's', 'e'] (.bool false) rest
    | .char c :: rest =>
      if c = '-' ∨ (digit? c).isSome then readNumber (.char c :: rest) else (.missing, none)
    | _ => (.missing, none)

/-- The items of a list that is not empty, from an item on. -/
def readItems : Nat → List Glyph → Items × Option (List Glyph)
  | 0, _ => (.cut, none)
  | fuel + 1, gs =>
    match readValue fuel gs with
    | (head, none) => (.item head .cut, none)
    | (head, some rest) =>
      match skipGaps rest with
      | .char ']' :: rest => (.item head .closed, some rest)
      | .char ',' :: rest =>
        match skipGaps rest with
        | [] | .char ']' :: _ => (.item head .cut, none)
        | rest =>
          let (tail, rest) := readItems fuel rest
          (.item head tail, rest)
      | _ => (.item head .cut, none)

/-- The members of a record that is not empty, from a name on. -/
def readMembers : Nat → List Glyph → Members × Option (List Glyph)
  | 0, _ => (.cut, none)
  | fuel + 1, gs =>
    match gs with
    | .char '"' :: rest =>
      match readText rest with
      | none => (.cut, none)
      | some (name, rest) =>
        match skipGaps rest with
        | .char ':' :: rest =>
          match readValue fuel rest with
          | (value, none) => (.member name value .cut, none)
          | (value, some rest) =>
            match skipGaps rest with
            | .char '\x7d' :: rest => (.member name value .closed, some rest)
            | .char ',' :: rest =>
              let (tail, rest) := readMembers fuel (skipGaps rest)
              (.member name value tail, rest)
            | _ => (.member name value .cut, none)
        | _ => (.member name .missing .cut, none)
    | _ => (.cut, none)

end

/-- A whole text: the value it starts with, and whether only blanks follow. -/
structure Document where
  body : Draft
  ended : Bool

/-- Reads a whole text. Every part takes up a glyph, so the length bounds the parts. -/
def Document.read (gs : List Glyph) : Document :=
  match readValue (2 * gs.length + 2) gs with
  | (body, some rest) => { body, ended := (skipGaps rest).isEmpty }
  | (body, none) => { body, ended := false }

end ExportControl.Json
