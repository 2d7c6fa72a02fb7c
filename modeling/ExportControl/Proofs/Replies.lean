/-
ExportControl.Proofs.Replies — batches that arrive as requests.

The service adds nothing to what the desk does with a batch. A request that can be
read is carried out for the reviewer whom its headers name, and the status and the
body of the reply tell what came of it. Only a reply that says so goes with a
change of the desk. Bodies are as long as they like (see `Http.Router` for the limit
that is left out).

  §1 Paths     — `ofPath?_assessments`: where batches are sent.
  §2 Reviewers — `Request.NamesReviewer`: what a request says about its reviewer;
                 `reviewerOf_eq_some_iff`: the service reads just that.
  §3 Outcomes  — `Tells`: what a reply tells of a batch; `batchReply_tells`.
  §4 Requests  — `batches_are_replied_to`.
-/
import ExportControl.Http.Router
import ExportControl.Proofs.Composition
import ExportControl.Proofs.Outcome
import Mathlib

namespace ExportControl.Http

/-! ## §1 Paths -/

/-- The path that takes the batches for a case. -/
def assessmentsPath (segment : List Char) : String :=
  "/api/v1/cases/" ++ String.ofList segment ++ "/assessments"

theorem segments_assessmentsPath {segment : List Char} (h : '/' ∉ segment) :
    segments (assessmentsPath segment)
      = ["".toList, "api".toList, "v1".toList, "cases".toList, segment, "assessments".toList] := by
  have hpath : (assessmentsPath segment).toList = ['/'].intercalate
      ["".toList, "api".toList, "v1".toList, "cases".toList, segment, "assessments".toList] := by
    simp [assessmentsPath, List.intercalate]
  rw [segments, hpath]
  refine List.splitOn_intercalate '/' ?_ (by simp)
  simp [h]

theorem ofPath?_assessments {segment : List Char} (h : '/' ∉ segment) :
    Endpoint.ofPath? (assessmentsPath segment) = some (.assessments segment) := by
  rw [Endpoint.ofPath?, segments_assessmentsPath h]
  simp

/-! ## §2 Reviewers -/

/-- Whether a header goes by a name, given in lower case. -/
def Header.IsNamed (header : Header) (name : String) : Prop :=
  String.ofList (header.name.toList.map Char.toLower) = name

/-- A request names a reviewer: the first header for it holds nothing but visible characters of
ASCII, spaces and tabs, and the reviewer is what it holds apart from the blanks around. -/
def Request.NamesReviewer (request : Request) (reviewer : ReviewerId) : Prop :=
  ∃ before header after, request.headers = before ++ header :: after ∧
    (∀ other ∈ before, ¬ other.IsNamed "x-reviewer-id") ∧ header.IsNamed "x-reviewer-id" ∧
    (∀ c ∈ header.value.toList, isPlainChar c = true) ∧
    reviewer.text = Text.trim header.value ∧ reviewer.text ≠ ""

theorem header?_eq_some_iff {request : Request} {name value : String} :
    request.header? name = some value ↔
      ∃ before header after, request.headers = before ++ header :: after ∧
        (∀ other ∈ before, ¬ other.IsNamed name) ∧ header.IsNamed name ∧ header.value = value := by
  simp only [Request.header?, Option.map_eq_some_iff, List.find?_eq_some_iff_append,
    decide_eq_true_eq, Bool.not_eq_true', decide_eq_false_iff_not, Header.IsNamed]
  constructor
  · rintro ⟨header, ⟨hnamed, before, after, heq, hbefore⟩, hvalue⟩
    exact ⟨before, header, after, heq, hbefore, hnamed, hvalue⟩
  · rintro ⟨before, header, after, heq, hbefore, hnamed, hvalue⟩
    exact ⟨header, ⟨hnamed, before, after, heq, hbefore⟩, hvalue⟩

theorem reviewerOf_eq_some_iff {request : Request} {reviewer : ReviewerId} :
    reviewerOf request = some reviewer ↔ request.NamesReviewer reviewer := by
  simp only [reviewerOf, Request.plainHeader?, Option.map_eq_some_iff, Option.filter_eq_some_iff,
    header?_eq_some_iff, List.all_eq_true, decide_eq_true_eq, Request.NamesReviewer]
  constructor
  · rintro ⟨text, ⟨⟨value, ⟨⟨before, header, after, heq, hbefore, hnamed, rfl⟩, hplain⟩, rfl⟩,
      hne⟩, rfl⟩
    exact ⟨before, header, after, heq, hbefore, hnamed, hplain, rfl, hne⟩
  · rintro ⟨before, header, after, heq, hbefore, hnamed, hplain, htext, hne⟩
    exact ⟨reviewer.text, ⟨⟨header.value, ⟨⟨before, header, after, heq, hbefore, hnamed, rfl⟩,
      hplain⟩, htext.symm⟩, hne⟩, rfl⟩

/-! ## §3 Outcomes -/

/-- What a reply tells of a batch. -/
inductive Tells : Except AssessError Receipt → Reply → Prop where
  | accepted (receipt : Receipt) : Tells (.ok receipt) ⟨200, .empty⟩
  | forbidden (reviewer : ReviewerId) :
    Tells (.error (.forbidden reviewer))
      (.fault 403 ("reviewer " ++ reviewer.text ++ " may not review goods"))
  | caseNotFound (id : CaseId) :
    Tells (.error (.caseNotFound id)) (.fault 404 ("case " ++ id.text ++ " not found"))
  | terminalCase (id : CaseId) (status : CaseStatus) :
    Tells (.error (.terminalCase id status))
      (.faults 400 [.text (AssessError.terminalCase id status).message])
  | duplicateIds (ids : List LineItemId) :
    Tells (.error (.duplicateIds ids)) (.faults 400 [.text (AssessError.duplicateIds ids).message])
  | invalidLines (errors : List LineErrors) :
    Tells (.error (.invalidLines errors)) (.faults 400 (errors.map LineErrors.toJson))
  | store (cause : StoreError) : Tells (.error (.store cause)) (.fault 500 cause.message)

namespace Tells

variable {outcome : Except AssessError Receipt} {reply : Reply}

theorem status_eq_iff (h : Tells outcome reply) :
    reply.status = 200 ↔ ∃ receipt, outcome = .ok receipt := by
  cases h with
  | accepted receipt => simp
  | _ => simp [Reply.fault, Reply.faults, Reply.json]

theorem body_of_accepted (h : Tells outcome reply) (hstatus : reply.status = 200) :
    reply = ⟨200, .empty⟩ := by
  obtain ⟨receipt, rfl⟩ := h.status_eq_iff.1 hstatus
  cases h
  rfl

end Tells

/-- A batch gets a reply unless it broke off while a pair was linked. -/
theorem batchReply_tells (outcome : Except AssessError Receipt) :
    (∃ reply, batchReply outcome = .ok reply ∧ Tells outcome reply) ∨
      ∃ x, outcome = .error (.exhausted x) ∧ batchReply outcome = .error x := by
  cases outcome with
  | ok receipt => exact .inl ⟨_, rfl, .accepted receipt⟩
  | error e =>
    cases e with
    | forbidden reviewer => exact .inl ⟨_, rfl, .forbidden reviewer⟩
    | caseNotFound id => exact .inl ⟨_, rfl, .caseNotFound id⟩
    | terminalCase id status => exact .inl ⟨_, rfl, .terminalCase id status⟩
    | duplicateIds ids => exact .inl ⟨_, rfl, .duplicateIds ids⟩
    | invalidLines errors => exact .inl ⟨_, rfl, .invalidLines errors⟩
    | store cause => exact .inl ⟨_, rfl, .store cause⟩
    | exhausted x => exact .inr ⟨x, rfl, rfl⟩

/-- The errors of a batch are those of its decisions, in order. -/
theorem errors_of_assess {desk : Desk} {id : CaseId} {reviewer : ReviewerId}
    {decisions : List Decision} {now : Instant} {errors : List LineErrors}
    (h : (desk.assess id reviewer decisions now).2 = .error (.invalidLines errors)) :
    ∃ catalog view, desk.store.access = .ok catalog ∧ catalog.caseView? id = some view ∧
      errors = decisions.map fun decision => .ofFaults (catalog.faults view decision) := by
  have houtcome := desk.assess_outcome id reviewer decisions now
  cases hassess : desk.assess id reviewer decisions now with
  | mk after outcome =>
    rw [hassess] at h houtcome
    simp only at h
    subst h
    obtain ⟨hrefusal, -⟩ := houtcome
    rw [Desk.refusal?] at hrefusal
    split at hrefusal
    · cases hrefusal
    · cases hrefusal
    · cases hrefusal
    · rename_i catalog _ haccess
      rw [Catalog.refusal?] at hrefusal
      split at hrefusal
      · cases hrefusal
      · rename_i view hview
        split at hrefusal
        · cases hrefusal
        · split at hrefusal
          · split at hrefusal
            · obtain ⟨good, -, heq⟩ := Option.map_eq_some_iff.1 hrefusal
              cases heq
            · cases hrefusal
              exact ⟨catalog, view, haccess, hview, rfl⟩
          · cases hrefusal

/-- A batch that is neither carried out nor breaks off leaves the desk. -/
theorem desk_of_assess_error {desk : Desk} {id : CaseId} {reviewer : ReviewerId}
    {decisions : List Decision} {now : Instant}
    (hrefused : ¬ ∃ receipt, (desk.assess id reviewer decisions now).2 = .ok receipt)
    (hends : ∀ x, (desk.assess id reviewer decisions now).2 ≠ .error (.exhausted x)) :
    (desk.assess id reviewer decisions now).1 = desk := by
  have houtcome := desk.assess_outcome id reviewer decisions now
  cases hassess : desk.assess id reviewer decisions now with
  | mk after outcome =>
    rw [hassess] at hrefused hends houtcome
    cases outcome with
    | ok receipt => exact absurd ⟨receipt, rfl⟩ hrefused
    | error e =>
      cases e with
      | exhausted x => exact absurd rfl (hends x)
      | _ => exact houtcome.2

/-! ## §4 Requests -/

section Requests

variable {request : Request} {segment : List Char} {case : String} {decisions : List Decision}

/-- What becomes of a batch that can be read. -/
theorem respond_eq (hmethod : request.method = "PUT")
    (hpath : request.path = assessmentsPath segment) (hsegment : '/' ∉ segment)
    (hcase : percentDecode? segment = some case) (hjson : sendsJson request = true)
    (hbody : decisionsOf request = .ok decisions) (desk : Desk) (ready : Bool) (now : Instant) :
    respond desk ready now request =
      match reviewerOf request with
      | none => (desk, .ok (.fault 403 "missing x-reviewer-id header"))
      | some reviewer =>
        ((desk.assess ⟨case⟩ reviewer decisions now).1,
          batchReply (desk.assess ⟨case⟩ reviewer decisions now).2) := by
  have hallows : (Endpoint.assessments segment).allows request.method = true := by
    simp [Endpoint.allows, hmethod]
  rw [respond, hpath, ofPath?_assessments hsegment]
  simp only [hallows, if_true, serve, assess, hcase, hjson, hbody, Bool.not_true,
    Bool.false_eq_true, if_false]
  cases reviewerOf request <;> rfl

/-- **Replies to batches.** A batch that can be read gets the reply 403 if its request names no
reviewer. Otherwise it is handed in for the reviewer named; the desk is left as that leaves it, and
the reply tells what came of it, where line by line something is wrong with the errors of each
line. There is no reply only if the batch broke off while a pair was linked. The reply is 200
without a body exactly if the batch was carried out, and any other reply leaves the desk. -/
theorem batches_are_replied_to (hmethod : request.method = "PUT")
    (hpath : request.path = assessmentsPath segment) (hsegment : '/' ∉ segment)
    (hcase : percentDecode? segment = some case) (hjson : sendsJson request = true)
    (hbody : decisionsOf request = .ok decisions) (desk : Desk) (ready : Bool) (now : Instant) :
    let outcome := fun reviewer => (desk.assess ⟨case⟩ reviewer decisions now).2
    let replied := respond desk ready now request
    ((∀ reviewer, ¬ request.NamesReviewer reviewer) →
      replied = (desk, .ok (.fault 403 "missing x-reviewer-id header"))) ∧
    (∀ reviewer, request.NamesReviewer reviewer →
      replied.1 = (desk.assess ⟨case⟩ reviewer decisions now).1 ∧
      ((∃ reply, replied.2 = .ok reply ∧ Tells (outcome reviewer) reply) ∨
        ∃ x, replied.2 = .error x ∧ outcome reviewer = .error (.exhausted x)) ∧
      ∀ errors, outcome reviewer = .error (.invalidLines errors) →
        ∃ catalog view, desk.store.access = .ok catalog ∧ catalog.caseView? ⟨case⟩ = some view ∧
          errors = decisions.map fun decision => .ofFaults (catalog.faults view decision)) ∧
    ∀ reply, replied.2 = .ok reply →
      (reply = ⟨200, .empty⟩ ↔
        ∃ reviewer receipt, request.NamesReviewer reviewer ∧ outcome reviewer = .ok receipt) ∧
      (reply.status = 200 → reply.body = .empty) ∧
      (reply.status ≠ 200 → replied.1 = desk) := by
  intro outcome replied
  have hreplied : replied = _ := respond_eq hmethod hpath hsegment hcase hjson hbody desk ready now
  simp only [← reviewerOf_eq_some_iff]
  cases hreviewer : reviewerOf request with
  | none =>
    rw [hreviewer] at hreplied
    refine ⟨fun _ => hreplied, nofun, ?_⟩
    rintro reply hreply
    rw [hreplied] at hreply
    cases hreply
    exact ⟨by simp [Reply.fault, Reply.json], by simp [Reply.fault, Reply.json],
      fun _ => by rw [hreplied]⟩
  | some reviewer =>
    simp only [hreviewer] at hreplied
    refine ⟨fun hnone => absurd rfl (hnone reviewer), ?_, ?_⟩
    · rintro _ ⟨⟩
      refine ⟨by rw [hreplied], ?_, fun errors => errors_of_assess⟩
      rw [hreplied]
      rcases batchReply_tells (outcome reviewer) with ⟨reply, hreply, htells⟩ | ⟨x, hends, hnone⟩
      · exact .inl ⟨reply, hreply, htells⟩
      · exact .inr ⟨x, hnone, hends⟩
    · intro reply hreply
      have htells : Tells (outcome reviewer) reply := by
        rw [hreplied] at hreply
        rcases batchReply_tells (outcome reviewer) with ⟨other, hother, htells⟩ | ⟨x, -, hnone⟩
        · cases hother.symm.trans hreply
          exact htells
        · cases hnone.symm.trans hreply
      refine ⟨⟨?_, ?_⟩, fun hstatus => by rw [htells.body_of_accepted hstatus], ?_⟩
      · rintro rfl
        obtain ⟨receipt, hreceipt⟩ := htells.status_eq_iff.1 rfl
        exact ⟨reviewer, receipt, rfl, hreceipt⟩
      · rintro ⟨_, receipt, ⟨⟩, hreceipt⟩
        exact htells.body_of_accepted (htells.status_eq_iff.2 ⟨receipt, hreceipt⟩)
      · intro hstatus
        rw [hreplied]
        refine desk_of_assess_error (mt htells.status_eq_iff.2 hstatus) fun x hends => ?_
        rw [show outcome reviewer = _ from hends] at htells
        cases htells

end Requests

/-- A request that is about a line item of `sharedGood`. -/
def lineRequest (headers : List Header) : Request where
  method := "PUT"
  path := "/api/v1/cases/case-1/assessments"
  headers := ⟨"Content-Type", "application/json"⟩ :: headers
  body := Text.Glyph.ofString "[\x7b\"id\":\"line-1\",\"comment\":\"seen\"\x7d]"

/-- The decision of `lineRequest`. -/
def lineDecision : Decision := { Decision.blank ⟨"line-1"⟩ with comment := some "seen" }

/-- With a reviewer, blanks around the name, the request is carried out; without one it is not. -/
theorem line_request_is_replied_to :
    respond Desk.sharedGood true ⟨2024, 5, 1, 36000, 0⟩
        (lineRequest [⟨"X-Reviewer-Id", " officer\t"⟩])
      = ((Desk.sharedGood.rateAt [lineDecision]).1, .ok ⟨200, .empty⟩) ∧
    respond Desk.sharedGood true ⟨2024, 5, 1, 36000, 0⟩ (lineRequest [⟨"X-Reviewer-Id", " "⟩])
      = (Desk.sharedGood, .ok (.fault 403 "missing x-reviewer-id header")) := by
  have hpath : ∀ headers, (lineRequest headers).path = assessmentsPath "case-1".toList := by
    intro headers
    simp [lineRequest, assessmentsPath]
  have hcase : percentDecode? "case-1".toList = some "case-1" := by cbv
  have hbody : ∀ headers, decisionsOf (lineRequest headers) = .ok [lineDecision] := by
    intro headers
    cbv
  constructor
  · have hreviewer : (lineRequest [⟨"X-Reviewer-Id", " officer\t"⟩]).NamesReviewer ⟨"officer"⟩ :=
      reviewerOf_eq_some_iff.1 (by cbv)
    have hdone : (Desk.sharedGood.rateAt [lineDecision]).2
        = .ok { caseId := ⟨"case-1"⟩, updated := 1, audited := 0 } := rfl
    obtain ⟨hdesk, htold, -⟩ := (batches_are_replied_to rfl (hpath _) (by decide) hcase
      (by cbv) (hbody _) Desk.sharedGood true ⟨2024, 5, 1, 36000, 0⟩).2.1 _ hreviewer
    rcases htold with ⟨reply, hreply, htells⟩ | ⟨x, -, hends⟩
    · have hok := htells.body_of_accepted (htells.status_eq_iff.2 ⟨_, hdone⟩)
      exact Prod.ext hdesk (hok ▸ hreply)
    · cases hdone.symm.trans hends
  · have hnone : ∀ reviewer,
        ¬ (lineRequest [⟨"X-Reviewer-Id", " "⟩]).NamesReviewer reviewer := by
      intro reviewer hreviewer
      have hread : reviewerOf (lineRequest [⟨"X-Reviewer-Id", " "⟩]) = none := by cbv
      cases hread.symm.trans (reviewerOf_eq_some_iff.2 hreviewer)
    exact (batches_are_replied_to rfl (hpath _) (by decide) hcase (by cbv) (hbody _)
      Desk.sharedGood true ⟨2024, 5, 1, 36000, 0⟩).1 hnone

end ExportControl.Http
