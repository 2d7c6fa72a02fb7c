/-
ExportControl.Proofs.TerminalCases — what happens to a case once it is over.

A batch is let through by the status that its case has in the store. A batch on
another case may review goods that the two cases share, but where no identifier
repeats it saves line items of its own case only.

  §1 Own lines — where no identifier repeats: `lineItem?_of_mem`; the checks read
                 line items of the case, `caseId_of_check`.
  §2 Batches   — `Frozen`: nothing happened to a case; `frozen_of_review`: nothing
                 happens by batches on other cases.
  §3 Runs      — `frozen_next`, `terminal_cases_are_frozen`: nothing happens while
                 the status of the case is terminal.
-/
import ExportControl.Proofs.Isolation
import ExportControl.Proofs.Recording

namespace ExportControl

namespace Catalog

variable {catalog before mid after : Catalog} {id other : CaseId}

/-! ## §1 Own lines -/

/-- Where no identifier repeats, every line item is the one that its identifier stands for. -/
theorem lineItem?_of_mem (hdistinct : (catalog.lineItems.map LineItem.id).Nodup) {item : LineItem}
    (hitem : item ∈ catalog.lineItems) : catalog.lineItem? item.id = some item := by
  cases hfirst : catalog.lineItem? item.id with
  | none =>
    have hnone := List.find?_eq_none.1 hfirst item hitem
    simp at hnone
  | some first =>
    have hmem : first ∈ catalog.lineItems := List.mem_of_find?_eq_some hfirst
    exact congrArg some (List.inj_on_of_nodup_map hdistinct hmem hitem (id_of_lineItem? hfirst))

theorem map_id_congr (h : catalog.outlines = before.outlines) :
    catalog.lineItems.map LineItem.id = before.lineItems.map LineItem.id := by
  have hids : ∀ catalog : Catalog,
      catalog.lineItems.map LineItem.id = catalog.outlines.map Prod.fst := by
    intro catalog
    rw [outlines, List.map_map]
    rfl
  rw [hids, h, ← hids]

/-- A decision that passes the checks for a case was read together with a line item of it. -/
theorem caseId_of_check (hdistinct : (catalog.lineItems.map LineItem.id).Nodup) {view : CaseView}
    {decision : Decision} {checked : Checked} (hview : catalog.caseView? id = some view)
    (hcheck : catalog.check view decision = .ok checked) : checked.item.caseId = id := by
  obtain ⟨hline, hitem⟩ := lineOfCase?_eq_some_iff.1 (check_eq_ok_iff.1 hcheck).2.2.1
  rw [linesOf_of_caseView? hview, mem_linesOf] at hline
  obtain ⟨item, hmem, hcase, hid⟩ := hline
  have hsame := lineItem?_of_mem hdistinct hmem
  rw [hid, hitem] at hsame
  cases hsame
  exact hcase

/-- No identifier stands in two cases. -/
theorem case_unique (hdistinct : (catalog.lineItems.map LineItem.id).Nodup) {line : LineItemId}
    (h : line ∈ catalog.linesOf id) (h' : line ∈ catalog.linesOf other) : id = other := by
  obtain ⟨item, hmem, hcase, hid⟩ := (mem_linesOf catalog).1 h
  obtain ⟨item', hmem', hcase', hid'⟩ := (mem_linesOf catalog).1 h'
  have hsame : item = item' := List.inj_on_of_nodup_map hdistinct hmem hmem' (hid.trans hid'.symm)
  rw [← hcase, hsame, hcase']

/-! ## §2 Batches -/

/-- The line items of a case. -/
def itemsOf (catalog : Catalog) (id : CaseId) : List LineItem :=
  catalog.lineItems.filter fun item => item.caseId = id

theorem linesOf_eq_map (catalog : Catalog) (id : CaseId) :
    catalog.linesOf id = (catalog.itemsOf id).map LineItem.id := rfl

/-- Nothing happened to a case from one catalog to another: its line items are the same in every
field, and the records that were added neither name it nor are about one of its line items. -/
structure Frozen (id : CaseId) (before after : Catalog) : Prop where
  items : after.itemsOf id = before.itemsOf id
  records : ∃ added, after.audits = before.audits ++ added ∧
    ∀ record ∈ added, record.caseId ≠ id ∧ record.target ∉ before.linesOf id

theorem Frozen.of_same (hitems : after.lineItems = before.lineItems)
    (haudits : after.audits = before.audits) : Frozen id before after where
  items := by rw [itemsOf, hitems, itemsOf]
  records := ⟨[], by rw [haudits, List.append_nil], by simp⟩

theorem Frozen.trans (h : Frozen id before mid) (h' : Frozen id mid after) :
    Frozen id before after where
  items := h'.items.trans h.items
  records := by
    obtain ⟨added, haudits, hadded⟩ := h.records
    obtain ⟨later, haudits', hlater⟩ := h'.records
    have hlines : mid.linesOf id = before.linesOf id := by
      rw [linesOf_eq_map, h.items, linesOf_eq_map]
    rw [hlines] at hlater
    refine ⟨added ++ later, by rw [haudits', haudits, List.append_assoc], fun record hmem => ?_⟩
    rcases List.mem_append.1 hmem with hmem | hmem
    · exact hadded record hmem
    · exact hlater record hmem

theorem itemsOf_eq_filter (catalog : Catalog) (hne : other ≠ id) :
    catalog.itemsOf id = (catalog.linesBesides other).filter fun item => item.caseId = id := by
  rw [itemsOf, linesBesides, List.filter_filter]
  refine List.filter_congr fun item _ => ?_
  by_cases hcase : item.caseId = id
  · simp [hcase, Ne.symm hne]
  · simp [hcase]

/-- Every record that reports a batch reports one of its decisions. -/
theorem exists_report_of_mem {reviewer : ReviewerId} {now : Instant} {decisions : List Decision}
    {records : List AuditRecord} {record : AuditRecord}
    (h : List.Forall₂ (Reports before after id reviewer now) decisions records)
    (hmem : record ∈ records) :
    ∃ decision ∈ decisions, Reports before after id reviewer now decision record := by
  induction h with
  | nil => cases hmem
  | cons hfirst _ ih =>
    rcases List.mem_cons.1 hmem with rfl | hmem
    · exact ⟨_, List.mem_cons_self, hfirst⟩
    · obtain ⟨decision, hdecision, hreport⟩ := ih hmem
      exact ⟨decision, List.mem_cons_of_mem _ hdecision, hreport⟩

/-- An accepted batch on one case leaves all others alone. -/
theorem frozen_of_review (hdistinct : (before.lineItems.map LineItem.id).Nodup)
    {reviewer : ReviewerId} {decisions : List Decision} {now : Instant} {receipt : Receipt}
    (h : before.review other reviewer decisions now = .ok (after, receipt)) (hne : other ≠ id) :
    Frozen id before after where
  items := by
    obtain ⟨view, batch, count, hview, -, hnodup, hchecks, happly, -⟩ := review_eq_ok_iff.1 h
    have hown : ∀ checked ∈ batch, checked.item.caseId = other := by
      intro checked hchecked
      obtain ⟨decision, -, hcheck⟩ := exists_check_of_mem hchecks hchecked
      exact caseId_of_check hdistinct hview hcheck
    rw [itemsOf_eq_filter after hne, itemsOf_eq_filter before hne,
      (carriedAll_of_applyAll happly).linesBesides (.of_checks hnodup hchecks) hown]
  records := by
    obtain ⟨records, haudits, -, hreports⟩ := records_of_review h
    refine ⟨records, haudits, fun record hrecord => ?_⟩
    obtain ⟨decision, -, hreport⟩ := exists_report_of_mem hreports hrecord
    obtain ⟨earlier, later, hlines, -, -⟩ := hreport.lineNumber
    refine ⟨by rwa [hreport.caseId], fun htarget => hne ?_⟩
    have hline : decision.id ∈ before.linesOf other := by simp [hlines]
    rw [hreport.target] at htarget
    exact case_unique hdistinct hline htarget

/-! ## §3 Runs -/

/-- The case is in the catalog, and its products can no longer be assessed. -/
def isTerminal (catalog : Catalog) (id : CaseId) : Bool :=
  (catalog.caseView? id).any fun view => view.status.isTerminal

/-- Moving cases changes neither line items nor records. -/
theorem History.same_of_nil (h : History before [] after) :
    after.lineItems = before.lineItems ∧ after.audits = before.audits := by
  generalize hbatch : [] = batch at h
  induction h with
  | nil catalog => exact ⟨rfl, rfl⟩
  | decision _ _ _ _ _ => cases hbatch
  | move record _ _ ih => exact ih hbatch

end Catalog

namespace Desk

open Catalog (Frozen)

variable {id : CaseId}

/-- No event makes identifiers repeat. -/
theorem distinct_run (desk : Desk) (events : List Event)
    (hdistinct : (desk.store.catalog.lineItems.map LineItem.id).Nodup) :
    ((desk.run events).store.catalog.lineItems.map LineItem.id).Nodup := by
  rwa [Catalog.map_id_congr (desk.steady_run events).outlines]

theorem frozen_next (desk : Desk) (event : Event)
    (hdistinct : (desk.store.catalog.lineItems.map LineItem.id).Nodup)
    (hterminal : desk.store.catalog.isTerminal id = true) :
    Frozen id desk.store.catalog (desk.next event).store.catalog := by
  have hmoved : desk.accepted event = [] →
      Frozen id desk.store.catalog (desk.next event).store.catalog := by
    intro hnone
    obtain ⟨batch, hhistory, hlines⟩ := desk.history_next event
    rw [hnone] at hlines
    rw [List.map_eq_nil_iff.1 hlines] at hhistory
    exact .of_same hhistory.same_of_nil.1 hhistory.same_of_nil.2
  cases event with
  | setStoreStatus other status => exact hmoved rfl
  | setDirectoryStatus other status => exact hmoved rfl
  | assess other reviewer decisions now =>
    rw [accepted] at hmoved
    cases hresult : desk.assess other reviewer decisions now with
    | mk after outcome =>
      rw [hresult] at hmoved
      cases outcome with
      | error e => exact hmoved rfl
      | ok receipt =>
        have hreview := review_of_assess hresult
        rw [next, hresult]
        refine Catalog.frozen_of_review hdistinct hreview fun hsame => ?_
        -- The status in the store is the one that lets batches through.
        obtain ⟨view, -, -, hview, hopen, -⟩ := Catalog.review_eq_ok_iff.1 hreview
        rw [Catalog.isTerminal, ← hsame, hview, Option.any_some, hopen] at hterminal
        cases hterminal

theorem frozen_run (desk : Desk) (events : List Event)
    (hdistinct : (desk.store.catalog.lineItems.map LineItem.id).Nodup)
    (hterminal : ∀ passed, passed <+: events →
      (desk.run passed).store.catalog.isTerminal id = true) :
    Frozen id desk.store.catalog (desk.run events).store.catalog := by
  induction events generalizing desk with
  | nil => exact .of_same rfl rfl
  | cons event events ih =>
    have hnext := desk.frozen_next event hdistinct (hterminal [] (List.nil_prefix))
    refine hnext.trans (ih (desk.next event) (desk.distinct_run [event] hdistinct) ?_)
    intro passed hpassed
    exact hterminal (event :: passed) ((List.prefix_cons_inj event).2 hpassed)

/-- **Terminal cases are frozen.** Where no identifier of a line item repeats, nothing happens to a
case during any stretch of a run throughout which its status in the store is terminal, whatever
the directory of cases says: its line items stay as they are, and no record is added that names
the case or is about one of its line items. -/
theorem terminal_cases_are_frozen (desk : Desk) (id : CaseId) (earlier stretch : List Event)
    (hdistinct : (desk.store.catalog.lineItems.map LineItem.id).Nodup)
    (hterminal : ∀ passed, passed <+: stretch →
      (desk.run (earlier ++ passed)).store.catalog.isTerminal id = true) :
    Frozen id (desk.run earlier).store.catalog (desk.run (earlier ++ stretch)).store.catalog := by
  have happend : ∀ later, desk.run (earlier ++ later) = (desk.run earlier).run later :=
    fun later => List.foldl_append
  rw [happend]
  refine (desk.run earlier).frozen_run stretch (desk.distinct_run earlier hdistinct) ?_
  intro passed hpassed
  rw [← happend]
  exact hterminal passed hpassed

/-- A desk with a closed and an open case that share a good. The directory has the closed one as
open. -/
def closedCase : Desk where
  store := .ofSeed
    { Seed.empty with
      prefixes := [⟨⟨1⟩, "components for"⟩]
      subjects := [⟨⟨7⟩, "sniper rifles", none⟩]
      controlListEntries := [⟨"ML2", ""⟩]
      goods := [⟨⟨"good-1"⟩, "Scope", "", .submitted, [], none, none, .none⟩]
      cases := [⟨⟨"case-1"⟩, .closed⟩, ⟨⟨"case-2"⟩, .underReview⟩]
      lineItems :=
        [.unassessed ⟨"line-1"⟩ ⟨"case-1"⟩ (.good ⟨"good-1"⟩),
         .unassessed ⟨"line-2"⟩ ⟨"case-2"⟩ (.good ⟨"good-1"⟩)]
      reviewers := [⟨"officer"⟩] }
  directory := some (.ofSeed { Seed.empty with cases := [⟨⟨"case-1"⟩, .underReview⟩] })
  permissions := none

/-- A line of the case is assessed while the case is open. Once it is closed again, a batch on the
case and one on the case beside it are handed in: the one record left is about the latter. -/
theorem closed_case_is_frozen :
    let batch := fun id decisions => Event.assess id ⟨"officer"⟩ decisions
      { year := 2024, month := 5, day := 1, second := 36000, nano := 0 }
    let earlier := [.setStoreStatus ⟨"case-1"⟩ .underReview,
      batch ⟨"case-1"⟩ [.blank ⟨"line-1"⟩], .setStoreStatus ⟨"case-1"⟩ .closed]
    let stretch := [batch ⟨"case-1"⟩ [rate ⟨"line-1"⟩ "ML2"],
      .setDirectoryStatus ⟨"case-1"⟩ .submitted, batch ⟨"case-2"⟩ [rate ⟨"line-2"⟩ "ML2"]]
    Frozen ⟨"case-1"⟩ (closedCase.run earlier).store.catalog
        (closedCase.run (earlier ++ stretch)).store.catalog ∧
      ((closedCase.run earlier).store.catalog.itemsOf ⟨"case-1"⟩).map LineItem.assessedBy
        = [some ⟨"officer"⟩] ∧
      (closedCase.run (earlier ++ stretch)).store.catalog.audits.map (·.target)
        = [⟨"line-2"⟩] := by
  intro batch earlier stretch
  have hterminal : ∀ passed ∈ stretch.inits,
      (closedCase.run (earlier ++ passed)).store.catalog.isTerminal ⟨"case-1"⟩ = true := by
    decide +kernel
  have hfrozen := terminal_cases_are_frozen closedCase ⟨"case-1"⟩ earlier stretch (by decide)
    fun passed hpassed => hterminal passed ((List.mem_inits passed stretch).2 hpassed)
  exact ⟨hfrozen, by decide +kernel, by decide +kernel⟩

end Desk

end ExportControl
