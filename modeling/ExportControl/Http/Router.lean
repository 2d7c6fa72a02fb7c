/-
ExportControl.Http.Router — what the service replies.

* `Endpoint.ofPath?` tells from path and method what is asked for.
* `Reply` is a status with a body.
* `respond` answers a request at a desk: batches and precedents, and the state of
  the service itself.

LEFT OUT: how long a body may be. The web framework below the service by default
refuses a body of more than two mebibytes with 413. It does so after the type of
the body is looked at and before any of the body is decoded. Here a body is taken
whole, so for longer bodies the replies of `assess` are those of a service that
runs without this limit.
-/
import ExportControl.Assessment.Desk
import ExportControl.Assessment.Document
import ExportControl.Failure
import ExportControl.Http.MediaType
import ExportControl.Http.Request

namespace ExportControl.Http

open Json (Value Decoder Defect Document)

/-! ## Replies -/

/-- The body of a reply. -/
inductive Body where
  | empty
  | json (value : Value)
  | text (type : String) (content : String)

/-- A reply. -/
structure Reply where
  status : Nat
  body : Body

namespace Reply

/-- A reply without a body. -/
def bare (status : Nat) : Reply := ⟨status, .empty⟩

/-- A document as reply. -/
def json (status : Nat) (value : Value) : Reply := ⟨status, .json value⟩

/-- A reply that says what is wrong. -/
def fault (status : Nat) (message : String) : Reply :=
  json status (.record [("error", .text message)])

/-- A reply that lists what is wrong. -/
def faults (status : Nat) (errors : List Value) : Reply :=
  json status (.record [("errors", .list errors)])

/-- A reply to a request that cannot be understood. -/
def rejection (status : Nat) (remark : String) : Reply :=
  ⟨status, .text "text/plain; charset=utf-8" remark⟩

/-- The type of the body. -/
def contentType (reply : Reply) : Option String :=
  match reply.body with
  | .empty => none
  | .json _ => some "application/json"
  | .text type _ => some type

end Reply

/-- The reply that reports a failure of the program. -/
def failureReply (e : AppError) : Reply := .fault e.status e.message

/-! ## Endpoints -/

/-- What can be asked for. -/
inductive Endpoint where
  | assessments (caseSegment : List Char)
  | precedents (caseSegment : List Char)
  | health
  | ready
  | metrics
  deriving DecidableEq, Repr

namespace Endpoint

/-- The endpoint of a path. -/
def ofPath? (path : String) : Option Endpoint :=
  match (segments path).map String.ofList with
  | ["", "api", "v1", "cases", id, "assessments"] => some (.assessments id.toList)
  | ["", "api", "v1", "cases", id, "good-precedents"] => some (.precedents id.toList)
  | ["", "health"] => some .health
  | ["", "ready"] => some .ready
  | ["", "metrics"] => some .metrics
  | _ => none

/-- Whether an endpoint answers to a method. -/
def allows (endpoint : Endpoint) (method : String) : Bool :=
  match endpoint with
  | assessments _ => method = "PUT"
  | _ => method = "GET" || method = "HEAD"

end Endpoint

/-! ## Batches -/

/-- The header that carries the reviewer. -/
def reviewerHeader : String := "x-reviewer-id"

/-- The reviewer who sends a request. -/
def reviewerOf (request : Request) : Option ReviewerId :=
  (((request.plainHeader? reviewerHeader).map Text.trim).filter (· ≠ "")).map Id.mk

/-- Whether the body of a request is said to be a JSON document. -/
def sendsJson (request : Request) : Bool :=
  ((request.plainHeader? "content-type").bind MediaType.parse?).any MediaType.isJson

/-- The decisions of a body, however long it is; what follows the list does not count. -/
def decisionsOf (request : Request) : Except Defect (List Decision) :=
  Decoder.list Decision.decode Json.fullRoom (Document.read request.body).body

/-- The reply to a batch. -/
def batchReply : Except AssessError Receipt → Except Exhausted Reply
  | .ok _ => .ok (.bare 200)
  | .error (.exhausted x) => .error x
  | .error e =>
    .ok <|
      match e with
      | .forbidden _ => .fault 403 e.message
      | .caseNotFound _ => .fault 404 e.message
      | .terminalCase .. | .duplicateIds _ => .faults 400 [.text e.message]
      | .invalidLines errors => .faults 400 (errors.map LineErrors.toJson)
      | _ => .fault 500 e.message

/-- Carries out a batch for a case: the case is read first, then the body, then the reviewer. -/
def assess (desk : Desk) (now : Instant) (segment : List Char) (request : Request) :
    Desk × Except Exhausted Reply :=
  match percentDecode? segment with
  | none => (desk, .ok (.rejection 400 "the path is not well-formed text"))
  | some case =>
    if !sendsJson request then (desk, .ok (.rejection 415 "the body has to be JSON"))
    else
      -- The framework's limit on the length of bodies, left out here, would come next.
      match decisionsOf request, reviewerOf request with
      | .error .malformed, _ => (desk, .ok (.rejection 400 "the body is malformed"))
      | .error .unfit, _ => (desk, .ok (.rejection 422 "the body does not fit"))
      | .ok _, none => (desk, .ok (.fault 403 ("missing " ++ reviewerHeader ++ " header")))
      | .ok decisions, some reviewer =>
        let (desk, outcome) := desk.assess ⟨case⟩ reviewer decisions now
        (desk, batchReply outcome)

/-! ## Precedents -/

/-- The reply to a question for precedents. -/
def precedentsReply : Except AssessError (List CasePrecedents) → Reply
  | .ok groups => .json 200 (.list (groups.map CasePrecedents.toJson))
  | .error e =>
    match e with
    | .caseNotFound _ | .store (.notFound _ _) => .fault 404 e.message
    | _ => .fault 500 e.message

/-- The precedents of a case. -/
def precedents (desk : Desk) (segment : List Char) : Reply :=
  match percentDecode? segment with
  | none => .rejection 400 "the path is not well-formed text"
  | some case => precedentsReply (desk.casePrecedents ⟨case⟩)

/-! ## The service -/

/-- A document that says how the service is. -/
def statusReply (status : Nat) (word : String) : Reply :=
  .json status (.record [("status", .text word)])

/-- Replies to a request for an endpoint. -/
def serve (desk : Desk) (ready : Bool) (now : Instant) (request : Request) :
    Endpoint → Desk × Except Exhausted Reply
  | .assessments segment => assess desk now segment request
  | .precedents segment => (desk, .ok (precedents desk segment))
  | .health => (desk, .ok (statusReply 200 "ok"))
  | .ready =>
    (desk, .ok (if ready then statusReply 200 "ready" else statusReply 503 "initializing"))
  | .metrics => (desk, .ok ⟨200, .text "text/plain; version=0.0.4" ""⟩)

/-- Replies to a request. -/
def respond (desk : Desk) (ready : Bool) (now : Instant) (request : Request) :
    Desk × Except Exhausted Reply :=
  match Endpoint.ofPath? request.path with
  | none => (desk, .ok (.bare 404))
  | some endpoint =>
    if endpoint.allows request.method then serve desk ready now request endpoint
    else (desk, .ok (.bare 405))

end ExportControl.Http
