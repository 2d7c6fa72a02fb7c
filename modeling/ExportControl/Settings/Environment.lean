/-
ExportControl.Settings.Environment — named texts that the program is started with.

* `Environment.value?` looks a variable up.
* `Environment.add` sets a variable, and never changes one that is there
  (`value?_add`).
-/
import ExportControl.Register

namespace ExportControl

/-- A variable and its value. -/
structure Variable where
  name : String
  value : String
  deriving DecidableEq, Repr

instance : Keyed Variable String := ⟨Variable.name⟩

/-- The variables that are set. -/
abbrev Environment := Register Variable

namespace Environment

/-- The variables of a list of pairs; the last one of a name counts. -/
def ofPairs (pairs : List (String × String)) : Environment :=
  Register.ofList (pairs.map fun (name, value) => { name, value })

/-- The value of a variable. -/
def value? (environment : Environment) (name : String) : Option String :=
  (environment.find? name).map Variable.value

/-- Sets a variable that is not set yet. -/
def add (environment : Environment) (v : Variable) : Environment :=
  if environment.has v.name then environment else environment.put v

/-- A variable that is set keeps its value. -/
theorem value?_add {environment : Environment} {name value : String}
    (h : environment.value? name = some value) (v : Variable) :
    (environment.add v).value? name = some value := by
  unfold add
  split
  · exact h
  · rename_i hfree
    have hne : v.name ≠ name := by
      rintro rfl
      simp [value?, Register.find?_of_not_has (Bool.eq_false_iff.2 hfree)] at h
    have hkept : (environment.put v).find? name = environment.find? name := by
      rw [Register.find?_put]
      exact if_neg hne
    rwa [value?, hkept]

end Environment

end ExportControl
