/-
ExportControl.Taxonomy.Basic — the terms that a report summary is made of.

A report summary names a subject ("sniper rifles") and may put a prefix before it
("components for"). A pair of the two that has been used is linked: it gets a
`Summary` row with an identifier of its own.

* `displayName` is the text that stands for a pair.
* `Summary.pair` is what two rows must not have in common.
-/
import ExportControl.Identifier
import ExportControl.Register

namespace ExportControl

/-- A report summary prefix, such as "training for". -/
structure Prefix where
  id : PrefixId
  name : String
  deriving DecidableEq, Repr

/-- A report summary subject, such as "sniper rifles". -/
structure Subject where
  id : SubjectId
  name : String
  codeLevel : Option UInt8
  deriving DecidableEq, Repr

instance : Keyed Prefix PrefixId := ⟨Prefix.id⟩

instance : Keyed Subject SubjectId := ⟨Subject.id⟩

/-- The text of a pair: the prefix, a space and the subject, or the subject alone. -/
def displayName (pre : Option Prefix) (subject : Subject) : String :=
  match pre with
  | some p => p.name ++ " " ++ subject.name
  | none => subject.name

/-- A linked pair of an optional prefix and a subject. -/
structure Summary where
  id : SummaryId
  pre : Option Prefix
  subject : Subject
  deriving DecidableEq, Repr

namespace Summary

/-- The identifiers of the linked pair. -/
def pair (row : Summary) : Option PrefixId × SubjectId :=
  (row.pre.map Prefix.id, row.subject.id)

/-- The text of the linked pair. -/
def displayName (row : Summary) : String := ExportControl.displayName row.pre row.subject

end Summary

end ExportControl
