/-
ExportControl.Failure — why the program gives up.

* `AppError` is a failure of the program, `SuggestionError` one of the suggestions.
* `message` is what is said about a failure, `cause` what is said about the failure
  underneath it.
* `AppError.status` is the status that stands for a failure in a reply.

What exactly is wrong with a document or a table is not spelled out.
-/
import ExportControl.Catalog.Error
import ExportControl.Csv.Table
import ExportControl.Json.Form
import ExportControl.Settings.Config

namespace ExportControl

/-- Why there are no suggestions. -/
inductive SuggestionError where
  /-- A file cannot be read or written. -/
  | file (reason : String)
  /-- The table of corrections cannot be read. -/
  | table (fault : Csv.Fault)
  /-- The table of corrections has no content. -/
  | unreadableTable
  | store (cause : StoreError)
  deriving DecidableEq, Repr

/-- What is said about the failure. -/
def SuggestionError.message : SuggestionError → String
  | file reason => "failed to access suggestion file: " ++ reason
  | table _ | unreadableTable => "invalid suggestion CSV data: ..."
  | store cause => "could not read line items for suggestions: " ++ cause.message

/-- Why the program gives up. -/
inductive AppError where
  | config (cause : ConfigError)
  | telemetry (cause : FilterError)
  | file (reason : String)
  | server (reason : String)
  /-- The contents of the catalog cannot be read. -/
  | seed (defect : Json.Defect)
  | suggestion (cause : SuggestionError)
  | store (cause : StoreError)
  deriving DecidableEq, Repr

namespace AppError

/-- What is said about the failure. -/
def message : AppError → String
  | config cause => "configuration error: " ++ cause.message
  | telemetry cause => "telemetry error: " ++ cause.message
  | file reason => "io error: " ++ reason
  | server reason => "server error: " ++ reason
  | seed _ => "invalid catalog seed: ..."
  | suggestion cause => "suggestion error: " ++ cause.message
  | store cause => "repository error: " ++ cause.message

/-- What is said about the failure underneath, as far as it is spelled out. -/
def cause : AppError → Option String
  | config cause => some cause.message
  | telemetry cause => some cause.message
  | file reason | server reason => some reason
  | seed _ => none
  | suggestion cause => some cause.message
  | store cause => some cause.message

/-- Whether the failure underneath has one underneath itself. -/
def isLayered : AppError → Bool
  | config .invalidHost | telemetry _ | server _ | suggestion _ => true
  | _ => false

/-- The status that stands for the failure in a reply. -/
def status : AppError → Nat
  | seed _ | suggestion (.table _) | suggestion .unreadableTable => 400
  | store (.notFound _ _) => 404
  | store .conflict => 409
  | _ => 500

end AppError

end ExportControl
