/-
ExportControl.Proofs.Runs — desks over time.

At a desk batches are handed in and cases are moved, in any order. Whatever
happens there, line items neither come, go nor move, and no good or case does
either.

  §1 Events     — `Desk.run`: batches and status changes, one after the other;
                  `Desk.acceptedLines`: the decisions among them that are accepted.
  §2 Histories  — `History`: decisions carried out and cases moved, one by one;
                  `history_run`: nothing else happens to the catalog of a desk.
  §3 What stays — `Steady`: what no event changes about a catalog; `steady_run`.
  §4 Line items — which case a line item belongs to can be told from the catalog
                  that a run began with.
-/
import ExportControl.Proofs.Acceptance

namespace ExportControl

/-! ## §1 Events -/

/-- Decisions, each with the line item that its identifier stands for; those without one are left
out. -/
def Catalog.linesFor (catalog : Catalog) (decisions : List Decision) :
    List (Decision × LineItem) :=
  decisions.filterMap fun decision =>
    (catalog.lineItem? decision.id).map fun item => (decision, item)

/-- What can happen at a desk. -/
inductive Event where
  | assess (id : CaseId) (reviewer : ReviewerId) (decisions : List Decision) (now : Instant)
  | setStoreStatus (id : CaseId) (status : CaseStatus)
  | setDirectoryStatus (id : CaseId) (status : CaseStatus)
  deriving DecidableEq, Repr

namespace Desk

/-- The desk after an event, accepted or refused. -/
def next (desk : Desk) : Event → Desk
  | .assess id reviewer decisions now => (desk.assess id reviewer decisions now).1
  | .setStoreStatus id status => (desk.setStoreStatus id status).1
  | .setDirectoryStatus id status => (desk.setDirectoryStatus id status).1

/-- The desk after events. -/
def run (desk : Desk) (events : List Event) : Desk := events.foldl next desk

/-- The decisions that an event carries out: those of an accepted batch, in order. -/
def accepted (desk : Desk) : Event → List Decision
  | .assess id reviewer decisions now =>
    match (desk.assess id reviewer decisions now).2 with
    | .ok _ => decisions
    | .error _ => []
  | .setStoreStatus _ _ | .setDirectoryStatus _ _ => []

/-- The decisions that events carry out, in order, each with the line item that it found in the
store. -/
def acceptedLines : Desk → List Event → List (Decision × LineItem)
  | _, [] => []
  | desk, event :: events =>
    desk.store.catalog.linesFor (desk.accepted event) ++ acceptedLines (desk.next event) events

end Desk

/-! ## §2 Histories -/

/-- A decision and the line item that it was read with. -/
def Checked.line (checked : Checked) : Decision × LineItem := (checked.decision, checked.item)

/-- The decision has passed its check. -/
def Checked.Passed (checked : Checked) : Prop :=
  ∃ (catalog : Catalog) (view : CaseView), catalog.check view checked.decision = .ok checked

namespace Catalog

/-- Decisions carried out and cases moved, one after the other; the list holds the decisions. -/
inductive History : Catalog → List Checked → Catalog → Prop where
  | nil (catalog : Catalog) : History catalog [] catalog
  | decision {before mid after : Catalog} {sitting : Sitting} {checked : Checked}
      {batch : List Checked} {audited : Bool} {description : Option Classification} {name : String}
      (passed : checked.Passed) (loaded : before.lineItem? checked.item.id = some checked.item)
      (first : Carried sitting checked before mid audited description name)
      (rest : History mid batch after) : History before (checked :: batch) after
  | move {before after : Catalog} {batch : List Checked} (record : CaseRecord)
      (known : before.cases.has record.id = true)
      (rest : History { before with cases := before.cases.put record } batch after) :
      History before batch after

variable {before mid after : Catalog} {batch later : List Checked}

theorem History.append (h : History before batch mid) (h' : History mid later after) :
    History before (batch ++ later) after := by
  induction h with
  | nil catalog => exact h'
  | decision passed loaded first _ ih => exact .decision passed loaded first (ih h')
  | move record known _ ih => exact .move record known (ih h')

theorem CarriedAll.history {sitting : Sitting} {count : Nat}
    (h : CarriedAll sitting before batch after count) (hready : Ready before batch)
    (hpassed : ∀ checked ∈ batch, checked.Passed) : History before batch after := by
  induction h with
  | nil catalog => exact .nil catalog
  | cons first rest ih =>
    obtain ⟨hhead, htail⟩ := List.forall_mem_cons.1 hpassed
    exact .decision hhead (hready.loaded _ (by simp)) first (ih (hready.tail first) htail)

theorem passed_of_checks {view : CaseView} {decisions : List Decision}
    (hchecks : decisions.map (before.check view) = batch.map .ok) :
    ∀ checked ∈ batch, checked.Passed := by
  intro checked hmem
  obtain ⟨decision, -, hcheck⟩ := exists_check_of_mem hchecks hmem
  obtain ⟨-, rfl, -⟩ := check_eq_ok_iff.1 hcheck
  exact ⟨before, view, hcheck⟩

theorem linesFor_of_checks {view : CaseView} {decisions : List Decision}
    (hchecks : decisions.map (before.check view) = batch.map .ok) :
    before.linesFor decisions = batch.map Checked.line := by
  have hlines : batch.map (fun checked => some checked.line)
      = decisions.map fun d => (before.lineItem? d.id).map fun item => (d, item) := by
    refine map_of_checks (fun d checked hcheck => ?_) hchecks
    obtain ⟨-, rfl, -⟩ := check_eq_ok_iff.1 hcheck
    rw [lineItem?_of_check hcheck]
    rfl
  calc before.linesFor decisions
      = (decisions.map fun d =>
          (before.lineItem? d.id).map fun item => (d, item)).filterMap id := by
        rw [List.filterMap_map]
        rfl
    _ = batch.map Checked.line := by
        rw [← hlines, List.filterMap_map]
        exact congrFun List.filterMap_eq_map batch

/-- An accepted batch carries out its decisions, each on a line item. -/
theorem history_of_review {id : CaseId} {reviewer : ReviewerId} {decisions : List Decision}
    {now : Instant} {receipt : Receipt}
    (h : before.review id reviewer decisions now = .ok (after, receipt)) :
    ∃ batch, History before batch after ∧ batch.map (·.item.id) = decisions.map Decision.id ∧
      batch.map Checked.line = before.linesFor decisions := by
  obtain ⟨view, batch, count, -, -, hnodup, hchecks, happly, -⟩ := review_eq_ok_iff.1 h
  have hhistory : History before batch after :=
    (carriedAll_of_applyAll happly).history (.of_checks hnodup hchecks) (passed_of_checks hchecks)
  exact ⟨batch, hhistory, map_item_id_of_checks hchecks, (linesFor_of_checks hchecks).symm⟩

theorem history_of_setCaseStatus {id : CaseId} {status : CaseStatus}
    (h : before.setCaseStatus id status = .ok after) : History before [] after := by
  rw [setCaseStatus] at h
  split at h
  · rename_i hknown
    cases h
    exact .move { id, status } hknown (.nil _)
  · cases h

end Catalog

namespace Desk

open Catalog (History)

theorem history_setStoreStatus (desk : Desk) (id : CaseId) (status : CaseStatus) :
    History desk.store.catalog [] (desk.setStoreStatus id status).1.store.catalog := by
  show History desk.store.catalog [] (desk.store.setCaseStatus id status).1.catalog
  rw [Store.setCaseStatus]
  cases haccess : desk.store.access with
  | error e => exact .nil _
  | ok catalog =>
    obtain ⟨-, rfl⟩ := access_eq_ok_iff.1 haccess
    simp only
    cases hset : desk.store.catalog.setCaseStatus id status with
    | error e => exact .nil _
    | ok moved => exact Catalog.history_of_setCaseStatus hset

/-- A refused batch leaves the catalog of the store. -/
theorem catalog_of_assess_error {desk after : Desk} {id : CaseId} {reviewer : ReviewerId}
    {decisions : List Decision} {now : Instant} {e : AssessError}
    (h : desk.assess id reviewer decisions now = (after, .error e)) :
    after.store.catalog = desk.store.catalog := by
  rw [assess] at h
  split at h
  · cases h
    rfl
  · cases h
    rfl
  · rw [review] at h
    split at h
    · cases h
      rfl
    · split at h
      · cases h
      · cases h
        rfl
      · cases h
        rfl

/-- The catalog of the store accepts what the desk accepts, and the store takes it over. -/
theorem review_of_assess {desk after : Desk} {id : CaseId} {reviewer : ReviewerId}
    {decisions : List Decision} {now : Instant} {receipt : Receipt}
    (h : desk.assess id reviewer decisions now = (after, .ok receipt)) :
    desk.store.catalog.review id reviewer decisions now = .ok (after.store.catalog, receipt) := by
  obtain ⟨-, catalog, reviewed, haccess, hreview, rfl⟩ := assess_eq_ok_iff.1 h
  obtain ⟨-, rfl⟩ := access_eq_ok_iff.1 haccess
  exact hreview

/-- An event carries out the decisions of an accepted batch, or none. -/
theorem history_next (desk : Desk) (event : Event) :
    ∃ batch, History desk.store.catalog batch (desk.next event).store.catalog ∧
      batch.map Checked.line = desk.store.catalog.linesFor (desk.accepted event) := by
  cases event with
  | assess id reviewer decisions now =>
    rw [next, accepted]
    cases hresult : desk.assess id reviewer decisions now with
    | mk after outcome =>
      cases outcome with
      | error e =>
        simp only
        rw [catalog_of_assess_error hresult]
        exact ⟨[], .nil _, rfl⟩
      | ok receipt =>
        obtain ⟨batch, hhistory, -, hlines⟩ :=
          Catalog.history_of_review (review_of_assess hresult)
        exact ⟨batch, hhistory, hlines⟩
  | setStoreStatus id status => exact ⟨[], history_setStoreStatus desk id status, rfl⟩
  | setDirectoryStatus id status =>
    refine ⟨[], ?_, rfl⟩
    rw [next, setDirectoryStatus]
    cases desk.directory with
    | none => exact history_setStoreStatus desk id status
    | some directory => exact .nil _

/-- The history of a run: its accepted decisions are carried out, and cases are moved in
between. -/
theorem history_run (desk : Desk) (events : List Event) :
    ∃ batch, History desk.store.catalog batch (desk.run events).store.catalog ∧
      batch.map Checked.line = desk.acceptedLines events := by
  induction events generalizing desk with
  | nil => exact ⟨[], .nil _, rfl⟩
  | cons event events ih =>
    obtain ⟨batch, hfirst, hlines⟩ := history_next desk event
    obtain ⟨later, hrest, hlater⟩ := ih (desk.next event)
    refine ⟨batch ++ later, hfirst.append hrest, ?_⟩
    rw [List.map_append, hlines, hlater, acceptedLines]

end Desk

/-! ## §3 What stays -/

namespace Catalog

variable {before mid after : Catalog}

/-- What no event changes: the outlines of all line items and their order, which goods and cases
there are, and the linked pairs and audit records so far. -/
structure Steady (before after : Catalog) : Prop where
  outlines : after.outlines = before.outlines
  goods : ∀ id, after.goods.has id = before.goods.has id
  cases : ∀ id, after.cases.has id = before.cases.has id
  summaries : before.summaries.rows <+: after.summaries.rows
  audits : before.audits <+: after.audits

theorem Steady.refl (catalog : Catalog) : Steady catalog catalog :=
  ⟨rfl, fun _ => rfl, fun _ => rfl, List.prefix_refl _, List.prefix_refl _⟩

theorem Steady.trans (h : Steady before mid) (h' : Steady mid after) : Steady before after :=
  ⟨h'.outlines.trans h.outlines, fun id => (h'.goods id).trans (h.goods id),
    fun id => (h'.cases id).trans (h.cases id), h.summaries.trans h'.summaries,
    h.audits.trans h'.audits⟩

theorem Frame.steady (h : Frame before after) : Steady before after where
  outlines := h.outlines
  goods := h.goods
  cases := by
    have hcases : after.cases = before.cases := congrArg Reference.cases h.reference
    exact fun id => by rw [hcases]
  summaries := h.summaries
  audits := h.audits

/-- Moving a case neither adds nor removes one. -/
theorem Steady.of_move {record : CaseRecord} (known : before.cases.has record.id = true) :
    Steady before { before with cases := before.cases.put record } := by
  refine ⟨rfl, fun _ => rfl, fun other => ?_, List.prefix_refl _, List.prefix_refl _⟩
  rw [Register.has_put]
  by_cases hother : record.id = other
  · rw [← hother, known, Bool.or_true]
  · have hkey : ¬ Keyed.key record = other := hother
    rw [decide_eq_false hkey, Bool.false_or]

theorem History.steady {batch : List Checked} (h : History before batch after) :
    Steady before after := by
  induction h with
  | nil catalog => exact .refl catalog
  | decision _ loaded first _ ih => exact (first.frame loaded).steady.trans ih
  | move record known _ ih => exact (Steady.of_move known).trans ih

end Catalog

/-- Every run leaves what is steady. -/
theorem Desk.steady_run (desk : Desk) (events : List Event) :
    Catalog.Steady desk.store.catalog (desk.run events).store.catalog := by
  obtain ⟨batch, hhistory, -⟩ := desk.history_run events
  exact hhistory.steady

/-! ## §4 Line items -/

namespace Catalog

variable {before after : Catalog} {id : CaseId} {line : LineItemId} {item : LineItem}

theorem mem_linesOf (catalog : Catalog) :
    line ∈ catalog.linesOf id ↔
      ∃ item ∈ catalog.lineItems, item.caseId = id ∧ item.id = line := by
  simp [linesOf, and_assoc]

theorem map_outline_lineItem? (catalog : Catalog) (line : LineItemId) :
    (catalog.lineItem? line).map LineItem.outline
      = catalog.outlines.find? fun outline => outline.1 = line := by
  rw [lineItem?, outlines, List.find?_map]
  rfl

/-- What stands first under an identifier had the same outline before. -/
theorem Steady.lineItem? (h : Steady before after) (hitem : after.lineItem? line = some item) :
    ∃ old, before.lineItem? line = some old ∧ old.outline = item.outline := by
  have houtline : (before.lineItem? line).map LineItem.outline = some item.outline := by
    rw [map_outline_lineItem?, ← h.outlines, ← map_outline_lineItem?, hitem]
    rfl
  exact Option.map_eq_some_iff.1 houtline

end Catalog

end ExportControl
