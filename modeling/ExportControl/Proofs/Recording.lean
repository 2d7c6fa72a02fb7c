/-
ExportControl.Proofs.Recording — what a batch records.

A batch adds one record for each of its decisions that changed the reviewed values
of its line item, in the order of the batch, and nothing else.

  §1 Values    — `LineItem.values`: what a change is told by; `differs_iff`.
                 `LineItem.shown`: what a record shows of it.
  §2 Decisions — `recordOf_spec`: the record that one decision leaves, if any.
  §3 Batches   — `CarriedAll.records`: those of a batch, in order.
  §4 Numbers   — `Numbered`: records are numbered from one on; neither events nor
                 transactions change that.
  §5 Desks     — `changes_are_recorded`: the records of a batch at a desk.
-/
import ExportControl.Proofs.Composition
import ExportControl.Proofs.Transactions
import Mathlib.Data.Finset.Insert

namespace ExportControl

/-! ## §1 Values -/

/-- The values of a line item that a change is told by. -/
structure ReviewValues where
  /-- The control list entries, whatever their order and number. -/
  entries : Finset String
  controlled : Option Bool
  reportSummary : Option String
  deriving DecidableEq

/-- The same values as a record shows them. -/
structure ShownValues where
  /-- The control list entries, with the placeholder where there are none. -/
  entries : Finset String
  controlled : String
  reportSummary : Option String
  deriving DecidableEq

namespace LineItem

def values (item : LineItem) : ReviewValues where
  entries := item.controlListEntries.toFinset
  controlled := item.controlled
  reportSummary := item.reportSummary

def shown (item : LineItem) : ShownValues where
  entries := (Review.orPlaceholder Review.noEntries item.controlListEntries).toFinset
  controlled := Review.controlledLabel item.controlled
  reportSummary := item.reportSummary

end LineItem

namespace Review

/-- The values before the change. -/
def shownBefore (review : Review) : ShownValues where
  entries := review.oldEntries.toFinset
  controlled := review.oldControlled
  reportSummary := review.oldReportSummary

/-- The values after the change. -/
def shownAfter (review : Review) : ShownValues where
  entries := review.newEntries.toFinset
  controlled := review.newControlled
  reportSummary := review.newReportSummary

theorem toFinset_orPlaceholder (placeholder : String) (entries : List String) :
    (orPlaceholder placeholder entries).toFinset
      = if entries.toFinset = ∅ then {placeholder} else entries.toFinset := by
  cases entries <;> simp [orPlaceholder]

end Review

/-- The values as the catalog holds them. -/
def Catalog.values? (catalog : Catalog) (line : LineItemId) : Option ReviewValues :=
  (catalog.lineItem? line).map LineItem.values

/-- Line items with the same values are shown the same. -/
theorem LineItem.shown_congr {item other : LineItem} (h : item.values = other.values) :
    item.shown = other.shown := by
  simp only [values, ReviewValues.mk.injEq] at h
  obtain ⟨hentries, hcontrolled, hsummary⟩ := h
  rw [shown, shown, Review.toFinset_orPlaceholder, Review.toFinset_orPlaceholder, hentries,
    hcontrolled, hsummary]

theorem sameEntries_iff {as bs : List String} :
    sameEntries as bs = true ↔ as.toFinset = bs.toFinset := by
  simp only [sameEntries, Bool.and_eq_true, List.all_eq_true, List.contains_iff_mem,
    Finset.ext_iff, List.mem_toFinset]
  constructor
  · rintro ⟨has, hbs⟩ entry
    exact ⟨has entry, hbs entry⟩
  · intro h
    exact ⟨fun entry => (h entry).1, fun entry => (h entry).2⟩

/-- A change is recorded exactly where the values differ. -/
theorem differs_iff {old new : LineItem} {regimes regimes' : List String} :
    (old.snapshot regimes).differs (new.snapshot regimes') = true ↔ old.values ≠ new.values := by
  rw [← Bool.not_eq_false, ne_eq, not_iff_not, Snapshot.differs]
  simp only [LineItem.snapshot, LineItem.values, ReviewValues.mk.injEq, Bool.or_eq_false_iff,
    Bool.not_eq_false', bne_eq_false_iff_eq, sameEntries_iff, and_assoc]

namespace Catalog

variable {before mid after : Catalog} {sitting : Sitting} {checked : Checked}
  {batch : List Checked}

/-! ## §2 Decisions -/

/-- A record about a decision that left its line item as `item`. -/
structure Recorded (sitting : Sitting) (checked : Checked) (item : LineItem)
    (record : AuditRecord) : Prop where
  actor : record.actor = sitting.reviewer
  target : record.target = checked.item.id
  caseId : record.caseId = sitting.view.id
  createdAt : record.createdAt = sitting.now
  lineNumber : record.review.lineNumber = (sitting.view.lineNumber? checked.item.id).getD 0
  shownBefore : record.review.shownBefore = checked.item.shown
  shownAfter : record.review.shownAfter = item.shown

/-- A decision leaves a record exactly where it changes the values. -/
theorem recordOf_spec (catalog : Catalog) (sitting : Sitting) (checked : Checked)
    (description : Option Classification) (name : String) :
    match catalog.recordOf sitting checked description name with
    | none => checked.item.values = (checked.revised description sitting).values
    | some record =>
      checked.item.values ≠ (checked.revised description sitting).values ∧
        record.number = catalog.audits.length + 1 ∧
        Recorded sitting checked (checked.revised description sitting) record := by
  unfold recordOf changeRecord
  simp only
  by_cases hdiffers : (catalog.oldSnapshot checked).differs
      ((checked.revised description sitting).snapshot (checked.regimes.map RegimeEntry.name)) = true
  · rw [if_pos hdiffers]
    exact ⟨differs_iff.1 hdiffers, rfl, rfl, rfl, rfl, rfl, rfl, rfl, rfl⟩
  · rw [if_neg hdiffers]
    exact Decidable.not_not.1 (mt differs_iff.2 hdiffers)

/-! ## §3 Batches -/

/-- A batch leaves records of the decisions that changed the values of their line items, in
order. -/
theorem CarriedAll.records {count : Nat} (h : CarriedAll sitting before batch after count)
    (hready : Ready before batch) :
    ∃ records, after.audits = before.audits ++ records ∧
      records.map AuditRecord.number = List.range' (before.audits.length + 1) records.length ∧
      List.Forall₂
        (fun checked record => ∃ item, after.lineItem? checked.item.id = some item ∧
          Recorded sitting checked item record)
        (batch.filter fun checked =>
          some checked.item.values ≠ after.values? checked.item.id) records := by
  induction h with
  | nil catalog => exact ⟨[], by simp, rfl, .nil⟩
  | @cons before mid after checked batch audited description name count first rest ih =>
    obtain ⟨records, haudits, hnumbers, hrecords⟩ := ih (hready.tail first)
    have hsaved : after.lineItem? checked.item.id = some (checked.revised description sitting) := by
      rw [rest.lineItem?_of_not_mem (List.nodup_cons.1 hready.distinct).1, first.lineItem?,
        if_pos rfl]
    have hvalues : after.values? checked.item.id
        = some (checked.revised description sitting).values := by rw [values?, hsaved]; rfl
    have hrecorded := first.recorded
    have hspec := recordOf_spec before sitting checked description name
    cases hrecord : before.recordOf sitting checked description name with
    | none =>
      rw [hrecord] at hrecorded hspec
      rw [hrecorded, Option.toList_none, List.append_nil] at haudits hnumbers
      refine ⟨records, haudits, hnumbers, ?_⟩
      rwa [List.filter_cons_of_neg (by simp [hvalues, hspec])]
    | some record =>
      rw [hrecord] at hrecorded hspec
      obtain ⟨hchanged, hnumber, hreport⟩ := hspec
      rw [hrecorded, Option.toList_some] at haudits hnumbers
      refine ⟨record :: records, by rw [haudits]; simp, ?_, ?_⟩
      · rw [List.map_cons, hnumber, hnumbers, List.length_append]
        rfl
      · rw [List.filter_cons_of_pos (by simp [hvalues, hchanged])]
        exact .cons ⟨_, hsaved, hreport⟩ hrecords

/-- A record about a decision of a batch on a case: who took it, on which line item of which case
and when, where the line item stands in the case, and the values before and after. -/
structure Reports (before after : Catalog) (id : CaseId) (reviewer : ReviewerId) (now : Instant)
    (decision : Decision) (record : AuditRecord) : Prop where
  actor : record.actor = reviewer
  target : record.target = decision.id
  caseId : record.caseId = id
  createdAt : record.createdAt = now
  /-- The line number counts the lines of the case up to the first one of this identifier. -/
  lineNumber : ∃ earlier later, before.linesOf id = earlier ++ decision.id :: later ∧
    decision.id ∉ earlier ∧ record.review.lineNumber = earlier.length + 1
  shownBefore : (before.lineItem? decision.id).map LineItem.shown = some record.review.shownBefore
  shownAfter : (after.lineItem? decision.id).map LineItem.shown = some record.review.shownAfter

theorem lineNumber?_of_split {view : CaseView} {line : LineItemId}
    {earlier later : List LineItemId} (h : view.lineItems = earlier ++ line :: later)
    (hearlier : line ∉ earlier) : view.lineNumber? line = some (earlier.length + 1) := by
  have hnone : earlier.findIdx? (· = line) = none := by
    rw [List.findIdx?_eq_none_iff]
    intro other hother
    simpa using fun heq : other = line => hearlier (heq ▸ hother)
  rw [CaseView.lineNumber?, h, List.findIdx?_append, hnone]
  simp [List.findIdx?_cons]

theorem linesOf_of_caseView? {id : CaseId} {view : CaseView}
    (h : before.caseView? id = some view) : view.lineItems = before.linesOf id := by
  obtain ⟨record, -, rfl⟩ := Option.map_eq_some_iff.1 h
  rfl

theorem Recorded.reports {id : CaseId} {view : CaseView} {reviewer : ReviewerId} {now : Instant}
    {decision : Decision} {item : LineItem} {record : AuditRecord}
    (h : Recorded { view, reviewer, now } checked item record)
    (hview : before.caseView? id = some view)
    (hcheck : before.check view decision = .ok checked)
    (hitem : after.lineItem? checked.item.id = some item) :
    Reports before after id reviewer now decision record := by
  have hid := id_of_check hcheck
  have hline : decision.id ∈ view.lineItems :=
    (lineOfCase?_eq_some_iff.1 (check_eq_ok_iff.1 hcheck).2.2.1).1
  obtain ⟨earlier, later, hsplit, hearlier⟩ := List.eq_append_cons_of_mem hline
  refine
    { actor := h.actor
      target := h.target.trans hid
      caseId := h.caseId.trans (id_of_caseView? hview)
      createdAt := h.createdAt
      lineNumber := ⟨earlier, later, ?_, hearlier, ?_⟩
      shownBefore := ?_
      shownAfter := ?_ }
  · rw [← linesOf_of_caseView? hview, hsplit]
  · -- The default for lines outside the case never shows: a decision that passes is on one of it.
    rw [h.lineNumber, hid, lineNumber?_of_split hsplit hearlier]
    rfl
  · rw [lineItem?_of_check hcheck, h.shownBefore]
    rfl
  · rw [← hid, hitem, h.shownAfter]
    rfl

/-- The records of an accepted batch. -/
theorem records_of_review {id : CaseId} {reviewer : ReviewerId} {decisions : List Decision}
    {now : Instant} {receipt : Receipt}
    (h : before.review id reviewer decisions now = .ok (after, receipt)) :
    ∃ records, after.audits = before.audits ++ records ∧
      records.map AuditRecord.number = List.range' (before.audits.length + 1) records.length ∧
      List.Forall₂ (Reports before after id reviewer now)
        (decisions.filter fun decision => before.values? decision.id ≠ after.values? decision.id)
        records := by
  obtain ⟨view, batch, count, hview, -, hnodup, hchecks, happly, -⟩ := review_eq_ok_iff.1 h
  obtain ⟨records, haudits, hnumbers, hrecords⟩ :=
    (carriedAll_of_applyAll happly).records (.of_checks hnodup hchecks)
  refine ⟨records, haudits, hnumbers, ?_⟩
  refine forall₂_of_checks (fun decision checked record hcheck hrecorded => ?_)
    (filter_of_checks (fun decision checked hcheck => ?_) hchecks) hrecords
  · obtain ⟨item, hitem, hrecorded⟩ := hrecorded
    exact hrecorded.reports hview hcheck hitem
  · have hvalues : before.values? decision.id = some checked.item.values := by
      rw [values?, lineItem?_of_check hcheck]
      rfl
    rw [hvalues, id_of_check hcheck]

/-! ## §4 Numbers -/

/-- The records of a catalog are numbered from one on. -/
def Numbered (catalog : Catalog) : Prop :=
  catalog.audits.map AuditRecord.number = List.range' 1 catalog.audits.length

theorem Numbered.append {records : List AuditRecord} (h : Numbered before)
    (haudits : after.audits = before.audits ++ records)
    (hnumbers : records.map AuditRecord.number
      = List.range' (before.audits.length + 1) records.length) : Numbered after := by
  rw [Numbered, haudits, List.map_append, h, hnumbers, Nat.add_comm, List.range'_append_1,
    List.length_append]

theorem Numbered.congr (h : Numbered before) (haudits : after.audits = before.audits) :
    Numbered after := by
  rwa [Numbered, haudits]

theorem History.numbered (h : History before batch after) (hbefore : Numbered before) :
    Numbered after := by
  induction h with
  | nil catalog => exact hbefore
  | @decision before mid after sitting checked batch audited description name _ _ first _ ih =>
    have hspec := recordOf_spec before sitting checked description name
    refine ih (hbefore.append first.recorded ?_)
    cases hrecord : before.recordOf sitting checked description name with
    | none => rfl
    | some record =>
      rw [hrecord] at hspec
      rw [Option.toList_some, List.map_singleton, hspec.2.1]
      rfl
  | move record known _ ih => exact ih (hbefore.congr rfl)

/-- A step of a transaction adds a record with the next number, or none. -/
theorem Numbered.step {step : Step} {answer : Answer} (h : Numbered before)
    (hstep : before.step step = .ok (after, answer)) : Numbered after := by
  cases step with
  | appendAudit entry =>
    cases hstep
    exact h.append rfl rfl
  | link pre subject =>
    rw [Catalog.step, linkSummary] at hstep
    cases hlink : before.summaries.link pre subject with
    | error x =>
      rw [hlink] at hstep
      cases hstep
    | ok linked =>
      rw [hlink] at hstep
      cases hstep
      exact h.congr rfl
  | setFlag good flag enabled =>
    rw [Catalog.step, setFlag] at hstep
    cases hgood : before.requireGood good <;>
      · rw [hgood] at hstep
        cases hstep
        exact h.congr rfl
  | _ =>
    cases hstep
    exact h.congr rfl

theorem Numbered.steps {steps : List Step} {answers : List Answer} (h : Numbered before)
    (hsteps : before.steps steps = .ok (after, answers)) : Numbered after :=
  invariant_of_steps Numbered (fun _ _ _ _ _ hstep hfirst => hfirst.step hstep) hsteps h

end Catalog

namespace Desk

open Catalog (Numbered Reports)

theorem numbered_run {desk : Desk} (h : Numbered desk.store.catalog) (events : List Event) :
    Numbered (desk.run events).store.catalog := by
  obtain ⟨batch, hhistory, -⟩ := desk.history_run events
  exact hhistory.numbered h

theorem numbered_transact {desk : Desk} (h : Numbered desk.store.catalog) (steps : List Step)
    (commits : Bool) : Numbered (desk.transact steps commits).1.store.catalog := by
  rcases desk.catalog_of_transact steps commits with hsame | ⟨after, answers, -, hsteps, hafter⟩
  · rwa [hsame]
  · rw [hafter]
    exact h.steps hsteps

/-! ## §5 Desks -/

/-- **Changes are recorded.** An accepted batch adds one record for each of its decisions after
which the catalog holds other values for the line item than before, in order, and no other
record; each reports its decision and has the next number. So the records of a catalog that
began with a seed are numbered from one on, whatever events and transactions there were. -/
theorem changes_are_recorded (desk : Desk) :
    (∀ id reviewer decisions now after receipt,
      desk.assess id reviewer decisions now = (after, .ok receipt) →
        ∃ records, after.store.catalog.audits = desk.store.catalog.audits ++ records ∧
          records.map AuditRecord.number
            = List.range' (desk.store.catalog.audits.length + 1) records.length ∧
          List.Forall₂ (Reports desk.store.catalog after.store.catalog id reviewer now)
            (decisions.filter fun decision =>
              desk.store.catalog.values? decision.id ≠ after.store.catalog.values? decision.id)
            records) ∧
    (∀ seed, Numbered (.ofSeed seed)) ∧
    (Numbered desk.store.catalog →
      (∀ events, Numbered (desk.run events).store.catalog) ∧
      ∀ steps commits, Numbered (desk.transact steps commits).1.store.catalog) :=
  ⟨fun _ _ _ _ _ _ h => Catalog.records_of_review (review_of_assess h), fun _ => rfl,
    fun h => ⟨numbered_run h, numbered_transact h⟩⟩

/-- Two decisions of which the first changes nothing: there is one record, about the second. -/
theorem second_line_is_recorded :
    let after := (sharedGood.rateAt [.blank ⟨"line-1"⟩, rate ⟨"line-2"⟩ "ML2"]).1.store.catalog
    ∃ record, after.audits = [record] ∧ record.number = 1 ∧
      Reports sharedGood.store.catalog after ⟨"case-1"⟩ ⟨"officer"⟩
        { year := 2024, month := 5, day := 1, second := 36000, nano := 0 }
        (rate ⟨"line-2"⟩ "ML2") record ∧
      Numbered after := by
  intro after
  obtain ⟨hbatch, hseed, hkept⟩ := changes_are_recorded sharedGood
  obtain ⟨records, haudits, hnumbers, hreports⟩ :=
    hbatch ⟨"case-1"⟩ ⟨"officer"⟩ [.blank ⟨"line-1"⟩, rate ⟨"line-2"⟩ "ML2"]
      { year := 2024, month := 5, day := 1, second := 36000, nano := 0 }
      (sharedGood.rateAt [.blank ⟨"line-1"⟩, rate ⟨"line-2"⟩ "ML2"]).1
      { caseId := ⟨"case-1"⟩, updated := 2, audited := 1 } rfl
  have hchanged : [Decision.blank ⟨"line-1"⟩, rate ⟨"line-2"⟩ "ML2"].filter (fun decision =>
      sharedGood.store.catalog.values? decision.id ≠ after.values? decision.id)
        = [rate ⟨"line-2"⟩ "ML2"] := by decide
  rw [hchanged] at hreports
  obtain ⟨record, rest, hreport, hrest, rfl⟩ := List.forall₂_cons_left_iff.1 hreports
  obtain rfl := List.forall₂_nil_left_iff.1 hrest
  refine ⟨record, haudits, (List.cons.inj hnumbers).1, hreport, ?_⟩
  exact (hkept (hseed _)).1 [.assess ⟨"case-1"⟩ ⟨"officer"⟩
    [.blank ⟨"line-1"⟩, rate ⟨"line-2"⟩ "ML2"]
    { year := 2024, month := 5, day := 1, second := 36000, nano := 0 }]

end Desk

end ExportControl
