/-
ExportControl.Catalog.Entry — the entries that an assessment may refer to.

A control list entry is known by its rating, a regime entry by an identifier.
-/
import ExportControl.Identifier
import ExportControl.Register

namespace ExportControl

/-- A code of the control list. -/
structure ControlListEntry where
  rating : String
  text : String
  deriving DecidableEq, Repr

instance : Keyed ControlListEntry String := ⟨ControlListEntry.rating⟩

/-- An entry of an export control regime. -/
structure RegimeEntry where
  id : RegimeEntryId
  name : String
  deriving DecidableEq, Repr

instance : Keyed RegimeEntry RegimeEntryId := ⟨RegimeEntry.id⟩

end ExportControl
