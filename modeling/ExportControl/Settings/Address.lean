/-
ExportControl.Settings.Address — addresses of the Internet protocol.

* `Address.parse?` reads an IPv4 address in four decimal parts, or an IPv6
  address in hexadecimal groups. A run of zero groups may be left out once, and
  the last two groups may be written as an IPv4 address.
* `Address.render` writes an address in its one canonical form.
* `Socket.render` writes an address with a port.
-/
import ExportControl.Text.Digit

namespace ExportControl

open Text (digit? hexDigit?)

/-- An address of the Internet protocol. -/
inductive Address where
  | v4 (a b c d : Nat)
  /-- Eight groups of sixteen bits. -/
  | v6 (groups : List Nat)
  deriving DecidableEq, Repr

namespace Address

/-! ## IPv4 -/

/-- A part of an IPv4 address: up to three digits without a leading zero, at most 255. -/
def part? (cs : List Char) : Option (Nat × List Char) := do
  let digits := cs.takeWhile fun c => (digit? c).isSome
  if 3 < digits.length || (digits.head? == some '0' && digits.length != 1) then none
  let n ← Text.natOfDigits? digits
  if 255 < n then none
  return (n, cs.drop digits.length)

/-- What follows a given character. -/
def after? (c : Char) : List Char → Option (List Char)
  | d :: rest => if d = c then some rest else none
  | [] => none

/-- Four parts with points between them, and what follows. -/
def readV4 (cs : List Char) : Option ((Nat × Nat × Nat × Nat) × List Char) := do
  let (a, cs) ← part? cs
  let (b, cs) ← part? (← after? '.' cs)
  let (c, cs) ← part? (← after? '.' cs)
  let (d, cs) ← part? (← after? '.' cs)
  return ((a, b, c, d), cs)

/-! ## IPv6 -/

/-- A group of an IPv6 address: one to four hexadecimal digits. -/
def group? (cs : List Char) : Option (Nat × List Char) :=
  let digits := cs.takeWhile fun c => (hexDigit? c).isSome
  if digits.isEmpty || 4 < digits.length then none
  else some (digits.foldl (fun n c => n * 16 + (hexDigit? c).getD 0) 0, cs.drop digits.length)

/-- The text of the next group: all of it for the first one, or what follows a colon. -/
def next? (first : Bool) (cs : List Char) : Option (List Char) :=
  if first then some cs else after? ':' cs

/-- Groups with colons between them, at most `limit` of them, whether an IPv4 address ended them,
and what follows. -/
def readGroups (first : Bool) : Nat → List Char → List Nat × Bool × List Char
  | 0, cs => ([], false, cs)
  | limit + 1, cs =>
    match (next? first cs).bind readV4 with
    | some ((a, b, c, d), rest) =>
      if limit = 0 then oneGroup limit cs
      else ([a * 256 + b, c * 256 + d], true, rest)
    | none => oneGroup limit cs
where
  /-- One group, then the others. -/
  oneGroup (limit : Nat) (cs : List Char) : List Nat × Bool × List Char :=
    match (next? first cs).bind group? with
    | some (n, rest) =>
      let (groups, ended, rest) := readGroups false limit rest
      (n :: groups, ended, rest)
    | none => ([], false, cs)

/-- Eight groups, of which at least one zero group may be left out between two colons. -/
def readV6 (cs : List Char) : Option (List Nat × List Char) := do
  let (head, ended, rest) := readGroups true 8 cs
  if head.length = 8 then return (head, rest)
  if ended then none
  let rest ← after? ':' (← after? ':' rest)
  let (tail, _, rest) := readGroups true (7 - head.length) rest
  return (head ++ List.replicate (8 - head.length - tail.length) 0 ++ tail, rest)

/-- Reads an address. -/
def parse? (s : String) : Option Address :=
  match readV4 s.toList with
  | some ((a, b, c, d), []) => some (.v4 a b c d)
  | _ =>
    match readV6 s.toList with
    | some (groups, []) => some (.v6 groups)
    | _ => none

/-! ## Writing -/

/-- Four parts with points between them. -/
def renderV4 (a b c d : Nat) : String := ".".intercalate ([a, b, c, d].map Text.decimal)

/-- Groups in hexadecimal with colons between them. -/
def renderGroups (groups : List Nat) : String :=
  ":".intercalate (groups.map fun n => String.ofList (Nat.toDigits 16 n))

/-- How many zeros a list starts with. -/
def leadingZeros (groups : List Nat) : Nat := (groups.takeWhile (· = 0)).length

/-- The start and the length of the first longest run of zeros, from the position `i` on. -/
def longestZeros (i : Nat) : List Nat → Nat × Nat
  | [] => (i, 0)
  | group :: rest =>
    let here := leadingZeros (group :: rest)
    let (start, length) := longestZeros (i + 1) rest
    if length ≤ here then (i, here) else (start, length)

/-- Eight groups in the canonical form: the first longest run of zeros is left out if it has more
than one, and an IPv4 address in the last two groups is written as such behind `::ffff:`. -/
def renderV6 (groups : List Nat) : String :=
  match groups with
  | [0, 0, 0, 0, 0, 0xffff, x, y] =>
    "::ffff:" ++ renderV4 (x / 256) (x % 256) (y / 256) (y % 256)
  | _ =>
    let (start, length) := longestZeros 0 groups
    if 1 < length then
      renderGroups (groups.take start) ++ "::" ++ renderGroups (groups.drop (start + length))
    else renderGroups groups

/-- The canonical form of an address. -/
def render : Address → String
  | v4 a b c d => renderV4 a b c d
  | v6 groups => renderV6 groups

end Address

/-- An address and a port. -/
structure Socket where
  address : Address
  port : UInt16
  deriving DecidableEq, Repr

/-- The address and the port with a colon between; an IPv6 address stands in brackets. -/
def Socket.render (socket : Socket) : String :=
  let port := Text.decimal socket.port.toNat
  match socket.address with
  | .v4 .. => socket.address.render ++ ":" ++ port
  | .v6 _ => "[" ++ socket.address.render ++ "]:" ++ port

end ExportControl
