/-
ExportControl.Identifier — what records are told apart by.

* `Id kind` is a text identifier; the kind keeps goods, line items, cases,
  reviewers and regime entries from being mixed up.
* `Number kind` is a 32-bit identifier of the report summary taxonomy.

Both are ordered: texts by code points, numbers by size.
-/
namespace ExportControl

/-- What a text identifier names. -/
inductive Kind where
  | good
  | lineItem
  | caseFile
  | reviewer
  | regimeEntry
  deriving DecidableEq, Repr

/-- A text identifier. -/
structure Id (kind : Kind) where
  text : String
  deriving DecidableEq, Repr

/-- What a numeric identifier names. -/
inductive Term where
  | lead
  | subject
  | summary
  deriving DecidableEq, Repr

/-- A numeric identifier. -/
structure Number (term : Term) where
  value : UInt32
  deriving DecidableEq, Repr

abbrev GoodId := Id .good
abbrev LineItemId := Id .lineItem
abbrev CaseId := Id .caseFile
abbrev ReviewerId := Id .reviewer
abbrev RegimeEntryId := Id .regimeEntry

abbrev PrefixId := Number .lead
abbrev SubjectId := Number .subject
abbrev SummaryId := Number .summary

instance {kind : Kind} : LawfulBEq (Id kind) := inferInstance

instance {kind : Kind} : LE (Id kind) := ⟨fun a b => a.text ≤ b.text⟩

instance {kind : Kind} (a b : Id kind) : Decidable (a ≤ b) :=
  inferInstanceAs (Decidable (a.text ≤ b.text))

instance {term : Term} : LE (Number term) := ⟨fun a b => a.value ≤ b.value⟩

instance {term : Term} (a b : Number term) : Decidable (a ≤ b) :=
  inferInstanceAs (Decidable (a.value ≤ b.value))

end ExportControl
