/-
ExportControl.Taxonomy.Match — mapping a free-text summary onto the taxonomy.

A text is first normalized. The longest prefix it starts with is taken off, and
what stands behind the last occurrence of that prefix has to be the name of a
subject.

* `trialOrder` puts the longer prefixes first, and `longestPrefix?` finds the first
  one in that order that the text starts with.
* `candidate?` gives the text that has to name the subject, `subjectNamed?` the
  subject.
* `Matcher.run` puts the three together.
-/
import ExportControl.Taxonomy.Basic
import ExportControl.Taxonomy.Remap

namespace ExportControl

/-! ## Prefixes -/

/-- Whether a prefix is tried no later than another: longer names come first, and equally long
ones by the alphabet. -/
def Prefix.precedes (p q : Prefix) : Bool :=
  q.name.length < p.name.length || (p.name.length = q.name.length && p.name ≤ q.name)

/-- Puts a prefix in front of the first one that it is tried no later than. -/
def Prefix.place (pre : Prefix) : List Prefix → List Prefix
  | [] => [pre]
  | other :: rest =>
    if pre.precedes other then pre :: other :: rest else other :: pre.place rest

/-- The prefixes that have a name, in the order in which they are tried. Prefixes of one name
stay as they are listed. -/
def trialOrder (prefixes : List Prefix) : List Prefix :=
  (prefixes.filter (·.name ≠ "")).foldr Prefix.place []

/-- The longest listed prefix that a text starts with: the first one tried that it starts with. -/
def longestPrefix? (prefixes : List Prefix) (text : String) : Option Prefix :=
  (trialOrder prefixes).find? fun pre => pre.name.toList.isPrefixOf text.toList

/-! ## Subjects -/

/-- The text without the characters it has to start with. -/
def dropLead? : List Char → List Char → Option (List Char)
  | [], text => some text
  | c :: lead, d :: text => if c = d then dropLead? lead text else none
  | _ :: _, [] => none

/-- What stands behind the last occurrence of `lead`; occurrences may overlap. -/
def afterLast? (lead : List Char) : List Char → Option (List Char)
  | [] => dropLead? lead []
  | c :: text =>
    match afterLast? lead text with
    | some rest => some rest
    | none => dropLead? lead (c :: text)

/-- The text that has to name the subject: what stands behind the last occurrence of the
prefix and a space, or the whole text where there is no prefix. -/
def candidate? (pre : Option Prefix) (text : String) : Option String :=
  match pre with
  | some p => (afterLast? (p.name.toList ++ [' ']) text.toList).map String.ofList
  | none => some text

/-- The last listed subject of a name. -/
def subjectNamed? (subjects : List Subject) (name : String) : Option Subject :=
  subjects.reverse.find? fun subject => subject.name = name

/-- The subject that a text names behind a prefix. -/
def resolve? (subjects : List Subject) (pre : Option Prefix) (text : String) : Option Subject :=
  (candidate? pre text).bind (subjectNamed? subjects)

/-! ## Matching -/

/-- What becomes of a summary. -/
inductive Mapping where
  | matched (normalized : String) (pre : Option Prefix) (subject : Subject)
  | unmappable (normalized : String) (pre : Option Prefix)
  deriving DecidableEq, Repr

/-- A taxonomy to match by, with the corrections to apply first. -/
structure Matcher where
  remap : Remap
  prefixes : List Prefix
  subjects : List Subject

/-- Maps a raw summary onto the taxonomy. -/
def Matcher.run (matcher : Matcher) (raw : String) : Mapping :=
  let normalized := matcher.remap.apply raw
  let pre := longestPrefix? matcher.prefixes normalized
  match resolve? matcher.subjects pre normalized with
  | some subject => .matched normalized pre subject
  | none => .unmappable normalized pre

end ExportControl
