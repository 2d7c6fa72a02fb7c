/-
ExportControl.Http.Request — requests to the service.

* `Request.make?` builds a request, unless its method, target or headers break the
  rules of the protocol.
* `Request.header?` looks a header up, whatever the case of its name.
* `segments` cuts a path at its slashes, `percentDecode?` reads the characters
  that a path has in hexadecimal.
-/
import ExportControl.Text.Digit
import ExportControl.Text.Glyph

namespace ExportControl.Http

open Text (Glyph hexDigit?)

/-- A header field. -/
structure Header where
  name : String
  value : String
  deriving DecidableEq, Repr

/-- A request. -/
structure Request where
  method : String
  /-- The path of the target, still with its hexadecimal characters. -/
  path : String
  headers : List Header
  body : List Glyph

/-! ## Methods and headers -/

/-- A character of a method or of the name of a header. -/
def isTokenChar (c : Char) : Bool :=
  c.isAlphanum || "!#$%&'*+-.^_\x60|~".toList.contains c

/-- A method or the name of a header. -/
def isToken (s : String) : Bool := s != "" && s.toList.all isTokenChar

/-- A character that the value of a header may hold. -/
def isValueChar (c : Char) : Bool := c = '\t' || (32 ≤ c.toNat && c.toNat != 127)

/-- A character of a value that can be read as text: a visible one of ASCII, a space or a tab. -/
def isPlainChar (c : Char) : Bool := c = '\t' || (32 ≤ c.toNat && c.toNat < 127)

/-! ## Targets -/

/-- A character of a path. -/
def isPathChar (c : Char) : Bool :=
  c.isAlphanum || 0x7f ≤ c.toNat || "!$%&'()*+,-./:;=@[\\]^_|~\"\x7b\x7d".toList.contains c

/-- A character of a query. -/
def isQueryChar (c : Char) : Bool :=
  0x21 ≤ c.toNat && c != '"' && c != '#' && c != '<' && c != '>'

/-- The path of a text that may go on with a query and a fragment. -/
def pathOf? (cs : List Char) : Option (List Char) :=
  let path := cs.takeWhile fun c => c != '?' && c != '#'
  let sound : Bool :=
    match cs.drop path.length with
    | '?' :: query => (query.takeWhile (· ≠ '#')).all isQueryChar
    | _ => true
  if path.all isPathChar && sound then some path else none

/-- A character of a host and port. -/
def isHostChar (c : Char) : Bool :=
  c.isAlphanum || "!$&'()*+,-.:;=_~".toList.contains c

/-- A host and, behind a colon, a port. -/
def isHost (cs : List Char) : Bool :=
  !cs.isEmpty && cs.all isHostChar && cs.count ':' ≤ 1

/-- The text behind the scheme of an absolute target. -/
def behindScheme? (cs : List Char) : Option (List Char) :=
  let scheme := cs.takeWhile fun c => c.isAlphanum || c = '+' || c = '-' || c = '.'
  match cs.drop scheme.length with
  | ':' :: '/' :: '/' :: rest => if scheme.isEmpty then none else some rest
  | _ => none

/-- The path that a target names: the target's own, the one behind scheme and host, or none at
all where the target is a mere host or an asterisk. -/
def targetPath? (target : String) : Option String :=
  match target.toList with
  | '/' :: rest => (pathOf? ('/' :: rest)).map String.ofList
  | ['*'] => some "*"
  | cs =>
    match behindScheme? cs with
    | some rest =>
      let host := rest.takeWhile fun c => c != '/' && c != '?' && c != '#'
      if isHost host then
        (pathOf? (rest.drop host.length)).map fun path =>
          if path.isEmpty then "/" else String.ofList path
      else none
    | none => if isHost cs then some "" else none

/-! ## Requests -/

namespace Request

/-- Builds a request. -/
def make? (method target : String) (headers : List Header) (body : List Glyph) :
    Option Request :=
  if isToken method &&
      headers.all fun header => isToken header.name && header.value.toList.all isValueChar then
    (targetPath? target).map fun path => { method, path, headers, body }
  else none

/-- The value of the first header of a name, given in lower case. -/
def header? (request : Request) (name : String) : Option String :=
  (request.headers.find? fun header =>
    String.ofList (header.name.toList.map Char.toLower) = name).map Header.value

/-- The value of a header, if it can be read as text. -/
def plainHeader? (request : Request) (name : String) : Option String :=
  (request.header? name).filter fun value => value.toList.all isPlainChar

end Request

/-! ## Paths -/

/-- The parts of a path between its slashes. -/
def segments (path : String) : List (List Char) := path.toList.splitOn '/'

/-- The byte that two hexadecimal digits stand for. -/
def hexByte? (a b : Char) : Option UInt8 := do
  return UInt8.ofNat ((← hexDigit? a) * 16 + (← hexDigit? b))

/-- The bytes of a text, in which a percent sign and two hexadecimal digits stand for one. -/
def percentBytes : List Char → List UInt8
  | '%' :: a :: b :: rest =>
    match hexByte? a b with
    | some byte => byte :: percentBytes rest
    | none => 0x25 :: percentBytes (a :: b :: rest)
  | c :: rest => (String.singleton c).toUTF8.toList ++ percentBytes rest
  | [] => []

/-- The text that a part of a path stands for, if its bytes are well-formed. -/
def percentDecode? (cs : List Char) : Option String :=
  (Glyph.toChars? (Glyph.ofBytes (percentBytes cs).toByteArray)).map String.ofList

end ExportControl.Http
