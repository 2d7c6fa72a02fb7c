/-
ExportControl.Assessment.Decision — what a reviewer decides about one line item.

A decision may describe a controlled product in three ways: by a list of pairs of
the taxonomy, by one pair, or by free text. Which one counts is settled when the
decision is checked.
-/
import ExportControl.Identifier

namespace ExportControl

/-- A pair of the taxonomy by its identifiers. -/
structure PairRef where
  pre : Option PrefixId
  subject : SubjectId
  deriving DecidableEq, Repr

/-- What a reviewer decides about one line item. -/
structure Decision where
  id : LineItemId
  comment : Option String
  /-- Whether the product is controlled, where the reviewer says so. -/
  controlled : Option Bool
  controlListEntries : List String
  regimeEntries : List RegimeEntryId
  /-- Free text; it counts where no pair is given. -/
  reportSummary : Option String
  pre : Option PrefixId
  subject : Option SubjectId
  /-- A list of pairs, which excludes the single one. -/
  pairs : List PairRef
  isPrecedent : Bool
  isWassenaar : Bool
  informationSecurity : Option Bool
  deriving DecidableEq, Repr

namespace Decision

/-- A decision that says nothing about its line item. -/
def blank (id : LineItemId) : Decision where
  id
  comment := none
  controlled := none
  controlListEntries := []
  regimeEntries := []
  reportSummary := none
  pre := none
  subject := none
  pairs := []
  isPrecedent := false
  isWassenaar := false
  informationSecurity := none

/-- Whether the decision says that the product is controlled. -/
def isControlled (decision : Decision) : Bool := decision.controlled = some true

/-- Whether one pair is given, or a part of one. -/
def givesPair (decision : Decision) : Bool := decision.pre.isSome || decision.subject.isSome

end Decision

end ExportControl
