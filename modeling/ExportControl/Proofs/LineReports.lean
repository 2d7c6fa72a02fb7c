/-
ExportControl.Proofs.LineReports — what is said about the lines of a refused batch.

What is said about a line can be told field by field from its decision and the
catalog as it was before the batch; the other lines of the batch do not matter.

  §1 Complaints — `complaints`: the messages about each field of a decision.
  §2 Faults     — `messages_ofFaults`: faults are reported under their fields, in
                  order; `messages_faults`: those of a decision come to its
                  complaints.
  §3 Desks      — `line_errors_are_exact`: when a batch is refused because of its
                  lines, and what is said then.
-/
import ExportControl.Proofs.Outcome
import ExportControl.Proofs.Recording

namespace ExportControl

/-! ## §1 Complaints -/

namespace Catalog

variable (catalog : Catalog)

/-- What is said of a listed pair, if a part of it is not known: the subject comes first. -/
def pairComplaint? (ref : PairRef) : Option String :=
  if catalog.subjects.has ref.subject then
    (ref.pre.filter fun pre => !catalog.prefixes.has pre).map fun pre =>
      LineFault.invalidKey (Text.decimal pre.value.toNat)
  else some (LineFault.invalidKey (Text.decimal ref.subject.value.toNat))

/-- What is said of the list of pairs: that it excludes a single pair, or else which of its pairs
are not known. -/
def pairsComplaints (decision : Decision) : List String :=
  if decision.pairs = [] then []
  else if decision.pre = none ∧ decision.subject = none then
    decision.pairs.filterMap catalog.pairComplaint?
  else ["Report summaries cannot be combined with a report summary prefix or subject."]

/-- Whether nothing that is given describes the product: neither a list of pairs nor a subject is
given, and of the rest there is a prefix that is known, or free text of blanks only, or nothing. -/
def lacksSummary (decision : Decision) : Bool :=
  decision.pairs.isEmpty && decision.subject.isNone &&
    match decision.pre with
    | some pre => catalog.prefixes.has pre
    | none => decision.reportSummary.all Text.isBlankText

/-- What is said of the single subject: that it is not known, or that one is needed. -/
def subjectComplaints (decision : Decision) : List String :=
  if decision.isControlled && catalog.lacksSummary decision then
    ["You must include a report summary if this item is controlled."]
  else if decision.pairs = [] then
    (decision.subject.toList.filter fun subject => !catalog.subjects.has subject).map fun subject =>
      LineFault.invalidKey (Text.decimal subject.value.toNat)
  else []

/-- What is said of the single prefix: that it is not known, unless the subject is not either. -/
def prefixComplaints (decision : Decision) : List String :=
  if decision.pairs = [] ∧ ∀ subject ∈ decision.subject, catalog.subjects.has subject = true then
    (decision.pre.toList.filter fun pre => !catalog.prefixes.has pre).map fun pre =>
      LineFault.invalidKey (Text.decimal pre.value.toNat)
  else []

/-- What is said about the fields that describe the product. -/
def summaryComplaints (decision : Decision) : String → List String
  | "report_summaries" => catalog.pairsComplaints decision
  | "report_summary_subject" => catalog.subjectComplaints decision
  | "report_summary_prefix" => catalog.prefixComplaints decision
  | _ => []

/-- What is said about the fields of a decision on a line item of a case. -/
def complaints (id : CaseId) (decision : Decision) : String → List String
  | "id" =>
    if decision.id ∈ catalog.linesOf id then [] else [LineFault.invalidKey decision.id.text]
  | "control_list_entries" =>
    (decision.controlListEntries.filter fun rating => !catalog.controlListEntries.has rating).map
      fun rating => "Object with rating=" ++ rating ++ " does not exist."
  | "regime_entries" =>
    (decision.regimeEntries.filter fun regime => !catalog.regimeEntries.has regime).map
      fun regime => LineFault.invalidKey regime.text
  | field => catalog.summaryComplaints decision field

end Catalog

/-! ## §2 Faults -/

/-- Messages that are all about one field. -/
def reportsAbout (field : String) (messages : List String) : List (String × String) :=
  messages.map fun message => (field, message)

theorem messages_reportsAbout (name field : String) (messages : List String) :
    ((reportsAbout name messages).filter fun report => report.1 = field).map Prod.snd
      = if field = name then messages else [] := by
  by_cases h : field = name <;>
    simp [reportsAbout, List.filter_map, Function.comp_def, eq_comm (a := name), h]

/-- Each fault is reported under its field, and those of one field in order. -/
theorem LineErrors.messages_ofFaults (faults : List LineFault) (field : String) :
    (LineErrors.ofFaults faults).messages field
      = (faults.filter fun fault => fault.field = field).map LineFault.message := by
  rw [messages, reports_ofFaults, List.filter_map, List.map_map]
  rfl

/-- Faults of one kind are all reported under one field. -/
theorem LineErrors.reports_ofFaults_map {α : Type} (fault : α → LineFault) {field : String}
    {message : α → String} (h : ∀ a, (fault a).field = field ∧ (fault a).message = message a)
    (as : List α) :
    (LineErrors.ofFaults (as.map fault)).reports = reportsAbout field (as.map message) := by
  rw [reports_ofFaults, reportsAbout, List.map_map, List.map_map]
  exact List.map_congr_left fun a _ => Prod.ext (h a).1 (h a).2

theorem LineErrors.reports_ofFaults_append (faults others : List LineFault) :
    (LineErrors.ofFaults (faults ++ others)).reports
      = (LineErrors.ofFaults faults).reports ++ (LineErrors.ofFaults others).reports := by
  simp only [reports_ofFaults, List.map_append]

/-- A list of faults has something to say unless it is empty. -/
theorem LineErrors.exists_messages_ne_nil_iff {faults : List LineFault} :
    (∃ field, (LineErrors.ofFaults faults).messages field ≠ []) ↔ faults ≠ [] := by
  simp only [messages_ofFaults, ne_eq, List.map_eq_nil_iff, List.filter_eq_nil_iff]
  constructor
  · rintro ⟨field, hfield⟩ rfl
    exact hfield (by simp)
  · intro hne
    obtain ⟨fault, hfault⟩ := List.exists_mem_of_ne_nil faults hne
    exact ⟨fault.field, fun h => h fault hfault (by simp)⟩

namespace Catalog

variable {catalog : Catalog} {id : CaseId} {view : CaseView} {decision : Decision}

theorem pair_eq (ref : PairRef) :
    catalog.pair ref =
      match catalog.subjects.find? ref.subject with
      | none => .error (.subject ref.subject)
      | some subject => (catalog.lead ref.pre).map fun pre => { pre, subject } := by
  rw [pair, subject]
  cases catalog.subjects.find? ref.subject with
  | none => rfl
  | some subject => cases catalog.lead ref.pre <;> rfl

theorem pairComplaint?_eq (ref : PairRef) :
    catalog.pairComplaint? ref =
      match catalog.pair ref with
      | .ok _ => none
      | .error part => some (LineFault.partMessage part) := by
  rw [pairComplaint?, pair_eq, Register.has]
  cases catalog.subjects.find? ref.subject with
  | none => rfl
  | some subject =>
    cases ref.pre with
    | none => rfl
    | some pre =>
      cases hpre : catalog.prefixes.find? pre <;>
        simp [lead, Register.has, Option.filter, hpre, Except.map, LineFault.partMessage]

theorem map_partMessage_unknownParts (refs : List PairRef) :
    (catalog.unknownParts refs).map LineFault.partMessage
      = refs.filterMap catalog.pairComplaint? := by
  rw [unknownParts, List.map_filterMap]
  refine List.filterMap_congr fun ref _ => ?_
  rw [pairComplaint?_eq]
  cases catalog.pair ref <;> rfl

/-- What is wrong with listed pairs, if no single pair is given. -/
theorem summaryFaults_of_pairs (hpairs : decision.pairs ≠ [])
    (hsingle : decision.givesPair = false) :
    catalog.summaryFaults decision
      = (catalog.unknownParts decision.pairs).map .unknownInPairs := by
  rw [summaryFaults, plan, if_pos hpairs, hsingle]
  cases catalog.unknownParts decision.pairs with
  | nil => simp
  | cons part parts => rfl

/-- What is wrong with a single pair of which the subject is given. -/
theorem summaryFaults_of_subject {subject : SubjectId} (hpairs : decision.pairs = [])
    (hsubject : decision.subject = some subject) :
    catalog.summaryFaults decision
      = if catalog.subjects.has subject then
          (decision.pre.toList.filter fun pre => !catalog.prefixes.has pre).map fun pre =>
            .unknownInPair (.lead pre)
        else [.unknownInPair (.subject subject)] := by
  have hplan : catalog.plan decision
      = (Plan.single <$> catalog.pair { pre := decision.pre, subject }).mapError
          fun part => [.unknownInPair part] := by
    simp [plan, hpairs, hsubject, Decision.givesPair, planPair]
  rw [summaryFaults, hplan, pair_eq, Register.has]
  cases catalog.subjects.find? subject with
  | none => rfl
  | some found =>
    cases decision.pre with
    | none => simp [lead, Except.map, Except.mapError]
    | some pre =>
      cases hp : catalog.prefixes.find? pre <;>
        simp [lead, Register.has, hp, Except.map, Except.mapError]

/-- What is wrong with a description without any pair of which the subject is given. -/
theorem summaryFaults_of_no_subject (hpairs : decision.pairs = [])
    (hsubject : decision.subject = none) :
    catalog.summaryFaults decision
      = ((decision.pre.toList.filter fun pre => !catalog.prefixes.has pre).map fun pre =>
            .unknownInPair (.lead pre))
          ++ if decision.isControlled && catalog.lacksSummary decision then [.summaryRequired]
            else [] := by
  cases hpre : decision.pre with
  | none =>
    have hplan : catalog.plan decision = .ok (planText decision.reportSummary) := by
      simp [plan, hpairs, hsubject, hpre, Decision.givesPair]
    have hblank : (planText decision.reportSummary = .unclassified)
        ↔ decision.reportSummary.all Text.isBlankText = true := by
      cases decision.reportSummary with
      | none => simp [planText]
      | some text => simp [planText]
    simp [summaryFaults, hplan, lacksSummary, hpairs, hsubject, hpre, hblank]
  | some pre =>
    have hplan : catalog.plan decision
        = ((fun _ => .unclassified) <$> catalog.lead (some pre)).mapError
            fun part => [.unknownInPair part] := by
      simp [plan, hpairs, hsubject, hpre, Decision.givesPair, planPair]
    rw [summaryFaults, hplan]
    cases hp : catalog.prefixes.find? pre <;>
      simp [lead, Register.has, hp, lacksSummary, hpairs, hsubject, hpre, Except.mapError]

/-- What is wrong with the description of a product: something about the list of pairs, about the
single subject, or about the single prefix. -/
theorem summaryFaults_eq (decision : Decision) :
    catalog.summaryFaults decision
      = (if decision.pairs = [] then []
          else if decision.pre = none ∧ decision.subject = none then
            (catalog.unknownParts decision.pairs).map .unknownInPairs
          else [.pairsAndPair])
        ++ (if decision.isControlled && catalog.lacksSummary decision then [.summaryRequired]
          else if decision.pairs = [] then
            (decision.subject.toList.filter fun subject => !catalog.subjects.has subject).map
              fun subject => .unknownInPair (.subject subject)
          else [])
        ++ (if decision.pairs = [] ∧
              ∀ subject ∈ decision.subject, catalog.subjects.has subject = true then
            (decision.pre.toList.filter fun pre => !catalog.prefixes.has pre).map fun pre =>
              .unknownInPair (.lead pre)
          else []) := by
  by_cases hpairs : decision.pairs = []
  · cases hsubject : decision.subject with
    | some subject =>
      rw [summaryFaults_of_subject hpairs hsubject]
      by_cases hhas : catalog.subjects.has subject = true <;>
        simp [lacksSummary, hpairs, hsubject, hhas]
    | none =>
      rw [summaryFaults_of_no_subject hpairs hsubject]
      by_cases hlacks : (decision.isControlled && catalog.lacksSummary decision) = true
      · -- A summary is only missed where the prefix, if there is one, is known.
        have hpre : (decision.pre.toList.filter fun pre => !catalog.prefixes.has pre) = [] := by
          cases hp : decision.pre with
          | none => rfl
          | some pre =>
            have hhas : catalog.prefixes.has pre = true := by
              simpa [lacksSummary, hpairs, hsubject, hp] using (Bool.and_eq_true_iff.1 hlacks).2
            simp [hhas]
        simp [hpairs, hlacks, hpre]
      · simp [hpairs, hlacks]
  · have hlacks : catalog.lacksSummary decision = false := by simp [lacksSummary, hpairs]
    cases hsingle : decision.givesPair with
    | false =>
      have hnone : decision.pre = none ∧ decision.subject = none := by
        simpa [Decision.givesPair] using hsingle
      rw [summaryFaults_of_pairs hpairs hsingle]
      simp [hpairs, hlacks, hnone]
    | true =>
      have hsome : ¬ (decision.pre = none ∧ decision.subject = none) := by
        rintro ⟨hpre, hsubject⟩
        simp [Decision.givesPair, hpre, hsubject] at hsingle
      simp [summaryFaults, plan, hpairs, hlacks, hsingle, hsome]

/-- What is wrong with the description of the product comes to the complaints about it. -/
theorem reports_summaryFaults (decision : Decision) :
    (LineErrors.ofFaults (catalog.summaryFaults decision)).reports
      = reportsAbout "report_summaries" (catalog.pairsComplaints decision)
        ++ reportsAbout "report_summary_subject" (catalog.subjectComplaints decision)
        ++ reportsAbout "report_summary_prefix" (catalog.prefixComplaints decision) := by
  rw [summaryFaults_eq, LineErrors.reports_ofFaults_append, LineErrors.reports_ofFaults_append]
  congr 1
  · congr 1
    · rw [pairsComplaints]
      split
      · rfl
      · split
        · rw [← map_partMessage_unknownParts]
          exact LineErrors.reports_ofFaults_map .unknownInPairs (fun _ => ⟨rfl, rfl⟩) _
        · rfl
    · rw [subjectComplaints]
      split
      · rfl
      · split
        · refine LineErrors.reports_ofFaults_map _ (fun subject => ?_) _
          exact ⟨rfl, rfl⟩
        · rfl
  · rw [prefixComplaints]
    split
    · refine LineErrors.reports_ofFaults_map _ (fun pre => ?_) _
      exact ⟨rfl, rfl⟩
    · rfl

theorem lineFaults_eq (hview : catalog.caseView? id = some view) (line : LineItemId) :
    catalog.lineFaults view line
      = if line ∈ catalog.linesOf id then [] else [.unknownLine line] := by
  have hlines := linesOf_of_caseView? hview
  have hfound : (catalog.lineOfCase? view line).isSome = true ↔ line ∈ catalog.linesOf id := by
    rw [Option.isSome_iff_exists, ← hlines]
    simp only [lineOfCase?_eq_some_iff]
    constructor
    · rintro ⟨item, hline, -⟩
      exact hline
    · intro hline
      -- A line item of the case has this identifier, so there is a first one that has it.
      rw [hlines, mem_linesOf] at hline
      obtain ⟨item, hmem, hcase, hid⟩ := hline
      have hsome : (catalog.lineItem? line).isSome = true :=
        List.find?_isSome.2 ⟨item, hmem, by simpa using hid⟩
      obtain ⟨first, hfirst⟩ := Option.isSome_iff_exists.1 hsome
      refine ⟨first, ?_, hfirst⟩
      rw [hlines, mem_linesOf]
      exact ⟨item, hmem, hcase, hid⟩
  rw [lineFaults]
  by_cases hline : line ∈ catalog.linesOf id
  · rw [if_pos hline, if_pos (hfound.2 hline)]
  · rw [if_neg hline, if_neg (mt hfound.1 hline)]

/-- What is wrong with a decision comes to the complaints about it. -/
theorem messages_faults (hview : catalog.caseView? id = some view) (decision : Decision)
    (field : String) :
    (LineErrors.ofFaults (catalog.faults view decision)).messages field
      = catalog.complaints id decision field := by
  have hreports : (LineErrors.ofFaults (catalog.faults view decision)).reports
      = reportsAbout "id" (if decision.id ∈ catalog.linesOf id then []
          else [LineFault.invalidKey decision.id.text])
        ++ reportsAbout "control_list_entries"
            ((decision.controlListEntries.filter fun rating =>
                !catalog.controlListEntries.has rating).map fun rating =>
              "Object with rating=" ++ rating ++ " does not exist.")
        ++ reportsAbout "regime_entries"
            ((decision.regimeEntries.filter fun regime => !catalog.regimeEntries.has regime).map
              fun regime => LineFault.invalidKey regime.text)
        ++ (LineErrors.ofFaults (catalog.summaryFaults decision)).reports := by
    rw [faults, lineFaults_eq hview, ratingFaults, regimeFaults]
    simp only [LineErrors.reports_ofFaults_append]
    congr 1
    congr 1
    · congr 1
      · split <;> rfl
      · exact LineErrors.reports_ofFaults_map .unknownRating (fun _ => ⟨rfl, rfl⟩) _
    · exact LineErrors.reports_ofFaults_map .unknownRegime (fun _ => ⟨rfl, rfl⟩) _
  rw [LineErrors.messages, hreports, reports_summaryFaults]
  simp only [List.filter_append, List.map_append, messages_reportsAbout]
  by_cases hfield : field ∈ ["id", "control_list_entries", "regime_entries", "report_summaries",
    "report_summary_subject", "report_summary_prefix"]
  · simp only [List.mem_cons, List.not_mem_nil, or_false] at hfield
    rcases hfield with rfl | rfl | rfl | rfl | rfl | rfl <;> simp [complaints, summaryComplaints]
  · simp only [List.mem_cons, List.not_mem_nil, or_false, not_or] at hfield
    obtain ⟨hid, hratings, hregimes, hpairs, hsubject, hprefix⟩ := hfield
    simp [complaints, summaryComplaints, hid, hratings, hregimes, hpairs, hsubject, hprefix]

/-- A batch on an open case that names no line item twice is refused because of its lines where
their check fails, and in no other case: what can go wrong after the check is reported
otherwise. -/
theorem review_eq_invalidLines_iff {reviewer : ReviewerId} {decisions : List Decision}
    {now : Instant} {errors : List LineErrors} (hview : catalog.caseView? id = some view)
    (hopen : view.status.isTerminal = false) (hdistinct : (decisions.map Decision.id).Nodup) :
    catalog.review id reviewer decisions now = .error (.invalidLines errors) ↔
      catalog.checkAll view decisions = .error errors := by
  have hnone := repeatedIds_eq_nil_iff.2 hdistinct
  cases hall : catalog.checkAll view decisions with
  | error found =>
    have hreview : catalog.review id reviewer decisions now = .error (.invalidLines found) := by
      simp [review, hview, hopen, hnone, hall]
    simp [hreview]
  | ok batch =>
    have hreview : catalog.review id reviewer decisions now
        = (applyAll { view, reviewer, now } catalog batch).map fun done =>
          (done.1, { caseId := view.id, updated := decisions.length, audited := done.2 }) := by
      simp [review, hview, hopen, hnone, hall]
    rw [hreview]
    have hspec := applyAll_spec_of_checks reviewer now hdistinct (checkAll_eq_ok_iff.1 hall)
    cases happly : applyAll { view, reviewer, now } catalog batch with
    | ok done => simp [Except.map]
    | error e =>
      rw [happly] at hspec
      simp only [Except.map, Except.error.injEq, reduceCtorEq, iff_false]
      rintro rfl
      obtain ⟨good, -, heq⟩ := hspec
      cases heq

end Catalog

/-! ## §3 Desks -/

namespace Desk

/-- A batch gets as far as the checks of its lines: the reviewer is permitted, the store answers
with a catalog that has the case open, and no line item is named twice. -/
structure ChecksLines (desk : Desk) (catalog : Catalog) (id : CaseId) (reviewer : ReviewerId)
    (decisions : List Decision) : Prop where
  permitted : desk.mayReview reviewer = .ok true
  access : desk.store.access = .ok catalog
  isOpen : ∃ view, catalog.caseView? id = some view ∧ view.status.isTerminal = false
  distinct : (decisions.map Decision.id).Nodup

variable {desk : Desk} {catalog : Catalog} {id : CaseId} {reviewer : ReviewerId}
  {decisions : List Decision}

/-- **What is said about lines.** A batch that gets as far as the checks of its lines is refused
because of them exactly where there is a complaint about one of its decisions, and then just the
complaints are reported, for one decision after the other. -/
theorem line_errors_are_exact (h : desk.ChecksLines catalog id reviewer decisions)
    (now : Instant) :
    ((∃ errors, (desk.assess id reviewer decisions now).2 = .error (.invalidLines errors)) ↔
      ∃ decision ∈ decisions, ∃ field, catalog.complaints id decision field ≠ []) ∧
    ∀ errors, (desk.assess id reviewer decisions now).2 = .error (.invalidLines errors) →
      errors.map LineErrors.messages = decisions.map (catalog.complaints id) := by
  obtain ⟨view, hview, hopen⟩ := h.isOpen
  have hrefused : ∀ errors,
      (desk.assess id reviewer decisions now).2 = .error (.invalidLines errors) ↔
        catalog.checkAll view decisions = .error errors := by
    intro errors
    rw [outcome_of_mayReview h.permitted h.access,
      ← Catalog.review_eq_invalidLines_iff hview hopen h.distinct]
    cases catalog.review id reviewer decisions now <;> simp [Except.map]
  have hmessages : ∀ decision, (catalog.lineErrors view decision).messages
      = catalog.complaints id decision := by
    intro decision
    funext field
    rw [Catalog.lineErrors_eq, Catalog.messages_faults hview]
  have hfaults : ∀ decision, catalog.faults view decision ≠ [] ↔
      ∃ field, catalog.complaints id decision field ≠ [] := by
    intro decision
    rw [← LineErrors.exists_messages_ne_nil_iff]
    simp only [Catalog.messages_faults hview]
  simp only [hrefused, Catalog.checkAll_eq_error_iff]
  constructor
  · simp only [hfaults, exists_and_right, exists_eq', true_and]
  · rintro errors ⟨rfl, -⟩
    rw [List.map_map]
    exact List.map_congr_left fun decision _ => hmessages decision

/-- Three decisions with several faults each, or none. -/
def faultyBatch : List Decision :=
  [{ Decision.blank ⟨"line-1"⟩ with
      controlled := some true
      controlListEntries := ["ML9", "ML1a", "ML9"]
      pre := some ⟨9⟩
      subject := some ⟨8⟩ },
   .blank ⟨"line-2"⟩,
   { Decision.blank ⟨"line-3"⟩ with
      controlled := some true
      pairs := [⟨some ⟨9⟩, ⟨7⟩⟩, ⟨some ⟨1⟩, ⟨7⟩⟩, ⟨some ⟨9⟩, ⟨8⟩⟩] }]

/-- An unknown entry that is named twice is reported twice, an unknown subject comes before an
unknown prefix, and no summary is missed where something else is wrong with it. -/
theorem faulty_batch_is_reported :
    ∃ errors,
      (sharedGood.assess ⟨"case-1"⟩ ⟨"officer"⟩ faultyBatch ⟨2024, 5, 1, 36000, 0⟩).2
        = .error (.invalidLines errors) ∧
      (errors.map LineErrors.messages).map (· "id")
        = [[], [], ["Invalid pk \"line-3\" - object does not exist."]] ∧
      (errors.map LineErrors.messages).map (· "control_list_entries")
        = [["Object with rating=ML9 does not exist.", "Object with rating=ML9 does not exist."],
            [], []] ∧
      (errors.map LineErrors.messages).map (· "report_summaries")
        = [[], [], ["Invalid pk \"9\" - object does not exist.",
            "Invalid pk \"8\" - object does not exist."]] ∧
      (errors.map LineErrors.messages).map (· "report_summary_subject")
        = [["Invalid pk \"8\" - object does not exist."], [], []] ∧
      (errors.map LineErrors.messages).map (· "report_summary_prefix") = [[], [], []] := by
  have hchecks : sharedGood.ChecksLines sharedGood.store.catalog ⟨"case-1"⟩ ⟨"officer"⟩
      faultyBatch := ⟨rfl, rfl, ⟨_, rfl, rfl⟩, by decide⟩
  obtain ⟨hrefused, hreported⟩ := line_errors_are_exact hchecks ⟨2024, 5, 1, 36000, 0⟩
  obtain ⟨errors, herrors⟩ := hrefused.2
    ⟨faultyBatch[0], by simp [faultyBatch], "control_list_entries", by decide +kernel⟩
  refine ⟨errors, herrors, ?_⟩
  rw [hreported errors herrors]
  decide +kernel

end Desk

end ExportControl
