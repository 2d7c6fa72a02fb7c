/-
ExportControl.Http.MediaType — the types of message bodies.

A media type is a type and a subtype with a slash between, and parameters behind
semicolons. A subtype may end in a suffix behind a plus sign.

* `MediaType.parse?` reads a media type.
* `MediaType.isJson` says whether a body of the type is a JSON document.
-/
namespace ExportControl.Http

/-- A media type; its parameters do not count. -/
structure MediaType where
  type : List Char
  subtype : List Char
  suffix : Option (List Char)
  deriving DecidableEq, Repr

namespace MediaType

/-- A character of a name. -/
def isNameChar (c : Char) : Bool :=
  c.isAlphanum || "!#$%&'+-.^_\x60|~".toList.contains c

/-- A character between quotes. -/
def isQuotedChar (c : Char) : Bool := 31 < c.toNat && c.toNat != 127

/-- What a reader of parameters waits for. -/
inductive Place where
  /-- A name, or blanks before one. -/
  | start
  | name
  /-- A value, or the quote that opens one. -/
  | valueStart
  | value
  | quotedStart
  | quoted
  /-- Blanks behind a quoted value. -/
  | behind
  deriving DecidableEq, Repr

/-- Whether parameters can be read from a place on. -/
def readsParameters : Place → List Char → Bool
  | .start, [] | .valueStart, [] | .value, [] | .behind, [] => true
  | .name, [] | .quotedStart, [] | .quoted, [] => false
  | .start, c :: rest =>
    if c = ' ' then readsParameters .start rest
    else isNameChar c && readsParameters .name rest
  | .name, c :: rest =>
    if c = '=' then readsParameters .valueStart rest
    else isNameChar c && readsParameters .name rest
  | .valueStart, c :: rest =>
    if c = '"' then readsParameters .quotedStart rest
    else isNameChar c && readsParameters .value rest
  | .value, c :: rest =>
    if c = ';' then readsParameters .start rest
    else isNameChar c && readsParameters .value rest
  | .quotedStart, c :: rest => isQuotedChar c && readsParameters .quoted rest
  | .quoted, c :: rest =>
    if c = '"' then readsParameters .behind rest
    else isQuotedChar c && readsParameters .quoted rest
  | .behind, c :: rest =>
    if c = ';' then readsParameters .start rest
    else c = ' ' && readsParameters .behind rest

/-- A subtype and the suffix behind its last plus sign, unless that comes first. -/
def splitSuffix (cs : List Char) : List Char × Option (List Char) :=
  let suffix := (cs.reverse.takeWhile (· ≠ '+')).reverse
  let before := cs.take (cs.length - suffix.length - 1)
  if suffix.length < cs.length ∧ before ≠ [] then (before, some suffix) else (cs, none)

/-- Reads a media type, letters of any case. -/
def parse? (s : String) : Option MediaType :=
  let cs := s.toList.map Char.toLower
  let type := cs.takeWhile isNameChar
  match cs.dropWhile isNameChar with
  | '/' :: rest =>
    let name := rest.takeWhile isNameChar
    let (subtype, suffix) := splitSuffix name
    let sound : Bool :=
      match rest.dropWhile isNameChar with
      | [] => true
      | ';' :: parameters => !name.isEmpty && readsParameters .start parameters
      | _ => false
    if !type.isEmpty && sound then some { type, subtype, suffix } else none
  | _ => none

/-- Whether a body of this type is a JSON document. -/
def isJson (media : MediaType) : Bool :=
  media.type = "application".toList &&
    (media.subtype = "json".toList || media.suffix = some "json".toList)

end MediaType

end ExportControl.Http
