/-
ExportControl.Assessment.LineErrors — what is wrong with the fields of a line.

* `LineErrors` keeps messages by field, those of one field in the order in which
  they came.
* `LineFault` is a cause; `field` says where it is reported and `message` how.
* `LineErrors.ofFaults` reports a list of causes.
-/
import ExportControl.Identifier
import ExportControl.Text.Digit

namespace ExportControl

/-- Messages, each about one field. -/
structure LineErrors where
  reports : List (String × String)
  deriving DecidableEq, Repr

namespace LineErrors

/-- No messages. -/
def empty : LineErrors := ⟨[]⟩

/-- Adds a message about a field. -/
def push (errors : LineErrors) (field message : String) : LineErrors :=
  ⟨errors.reports ++ [(field, message)]⟩

/-- Whether there is no message. -/
def isEmpty (errors : LineErrors) : Bool := errors.reports.isEmpty

/-- Whether there is a message about a field. -/
def contains (errors : LineErrors) (field : String) : Bool :=
  errors.reports.any fun report => report.1 = field

/-- The messages about a field, in order. -/
def messages (errors : LineErrors) (field : String) : List String :=
  (errors.reports.filter fun report => report.1 = field).map Prod.snd

/-- The fields that there are messages about, in ascending order. -/
def fields (errors : LineErrors) : List String :=
  (errors.reports.map Prod.fst).eraseDups.mergeSort (· ≤ ·)

theorem messages_push (errors : LineErrors) (field message other : String) :
    (errors.push field message).messages other
      = errors.messages other ++ if field = other then [message] else [] := by
  by_cases h : field = other <;> simp [push, messages, h]

theorem contains_iff_messages_ne_nil {errors : LineErrors} {field : String} :
    errors.contains field = true ↔ errors.messages field ≠ [] := by
  simp [contains, messages]

end LineErrors

/-- A part of a pair that the taxonomy does not have. -/
inductive UnknownTerm where
  | subject (id : SubjectId)
  | lead (id : PrefixId)
  deriving DecidableEq, Repr

/-- What can be wrong with a decision. -/
inductive LineFault where
  /-- The line item is not part of the case. -/
  | unknownLine (id : LineItemId)
  | unknownRating (rating : String)
  | unknownRegime (id : RegimeEntryId)
  /-- A list of pairs and a single pair are given. -/
  | pairsAndPair
  /-- A listed pair has an unknown part. -/
  | unknownInPairs (part : UnknownTerm)
  /-- The single pair has an unknown part. -/
  | unknownInPair (part : UnknownTerm)
  /-- The product is controlled and not described. -/
  | summaryRequired
  deriving DecidableEq, Repr

namespace LineFault

/-- What is said of an identifier that names nothing. -/
def invalidKey (id : String) : String := "Invalid pk \"" ++ id ++ "\" - object does not exist."

/-- What is said of a part of a pair. -/
def partMessage : UnknownTerm → String
  | .subject id => invalidKey (Text.decimal id.value.toNat)
  | .lead id => invalidKey (Text.decimal id.value.toNat)

/-- The field that the fault is reported under. -/
def field : LineFault → String
  | unknownLine _ => "id"
  | unknownRating _ => "control_list_entries"
  | unknownRegime _ => "regime_entries"
  | pairsAndPair | unknownInPairs _ => "report_summaries"
  | unknownInPair (.subject _) | summaryRequired => "report_summary_subject"
  | unknownInPair (.lead _) => "report_summary_prefix"

/-- What is said about the fault. -/
def message : LineFault → String
  | unknownLine id => invalidKey id.text
  | unknownRating rating => "Object with rating=" ++ rating ++ " does not exist."
  | unknownRegime id => invalidKey id.text
  | pairsAndPair =>
    "Report summaries cannot be combined with a report summary prefix or subject."
  | unknownInPairs part | unknownInPair part => partMessage part
  | summaryRequired => "You must include a report summary if this item is controlled."

end LineFault

/-- The messages of a list of faults. -/
def LineErrors.ofFaults (faults : List LineFault) : LineErrors :=
  faults.foldl (fun errors fault => errors.push fault.field fault.message) .empty

theorem LineErrors.reports_ofFaults (faults : List LineFault) :
    (LineErrors.ofFaults faults).reports = faults.map fun fault => (fault.field, fault.message) := by
  suffices h : ∀ errors : LineErrors,
      (faults.foldl (fun errors fault => errors.push fault.field fault.message) errors).reports
        = errors.reports ++ faults.map fun fault => (fault.field, fault.message) by
    simpa [ofFaults, empty] using h .empty
  intro errors
  induction faults generalizing errors with
  | nil => simp
  | cons fault faults ih => rw [List.foldl_cons, ih]; simp [push]

end ExportControl
