/-
ExportControl.Proofs.StoredDescriptions — what an accepted batch leaves its line
items described by.

A decision is planned before anything is written, and its pairs are linked while the
table of linked pairs grows under the decisions before it. Even so every pair has one
row throughout the batch: the one that it had, or else a new one that holds the records
of the catalog.

  §1 Tables       — `SummaryTable.Gains`: a table grows by a list of pairs, by one row
                    for each of them that is not linked.
  §2 Batches      — `CarriedAll.gains`: the pairs of a batch are those of its
                    controlled line items.
  §3 Rows         — `GivesRow`: the row that a batch gives to a pair;
                    `givesRow_of_find?`: every pair of the batch is given one.
  §4 Descriptions — `Describes`: how a decision leaves its line item described.
  §5 Desks        — `accepted_lines_are_described`.
-/
import ExportControl.Proofs.Description
import ExportControl.Proofs.Effects
import ExportControl.Proofs.LinkedRows

namespace ExportControl

/-! ## §1 Tables -/

/-- The two records that a row was linked from. -/
def Summary.parts (row : Summary) : Pair := { pre := row.pre, subject := row.subject }

namespace SummaryTable

variable {table mid after : SummaryTable} {pairs others : List Pair} {added more : List Summary}
  {pre : Option Prefix} {subject : Subject} {linked : Linked}

/-- A table has grown by a list of pairs: behind the rows that it had, there is one more for each of
the pairs that was not linked, made of the parts of a listed pair. -/
structure Gains (table : SummaryTable) (pairs : List Pair) (after : SummaryTable)
    (added : List Summary) : Prop where
  rows : after.rows = table.rows ++ added
  /-- What is left of a longer list of pairs is still to be linked. -/
  keys : ∀ keys, table.unlinked (pairs.map Pair.key ++ keys)
    = added.map Summary.pair ++ after.unlinked keys
  parts : added.map Summary.parts ⊆ pairs

theorem Gains.nil (table : SummaryTable) : Gains table [] table [] :=
  ⟨by simp, fun _ => rfl, by simp⟩

theorem Gains.append (h : Gains table pairs mid added) (h' : Gains mid others after more) :
    Gains table (pairs ++ others) after (added ++ more) where
  rows := by rw [h'.rows, h.rows, List.append_assoc]
  keys := by
    intro keys
    rw [List.map_append, List.append_assoc, h.keys, h'.keys, List.map_append, List.append_assoc]
  parts := by
    rw [List.map_append]
    exact List.append_subset.2
      ⟨List.subset_append_of_subset_left _ h.parts, List.subset_append_of_subset_right _ h'.parts⟩

/-- Linking one pair adds its row, or nothing where it has one. -/
theorem gains_link (h : table.link pre subject = .ok linked) :
    ∃ added, Gains table [{ pre, subject }] linked.table added := by
  rcases link_cases h with ⟨hfind, htable, -⟩ | ⟨id, hnone, -, hrow, htable, -⟩
  · have hhas : table.has (pre.map Prefix.id, subject.id) = true := by simp [has, hfind]
    refine ⟨[], by simp [htable], fun keys => ?_, by simp⟩
    rw [htable]
    exact unlinked_cons_of_has hhas
  · have hpair : linked.row.pair = (pre.map Prefix.id, subject.id) := by rw [hrow]; rfl
    have hhas : table.has linked.row.pair = false := by rw [hpair]; simp [has, hnone]
    refine ⟨[linked.row], by rw [htable], fun keys => ?_, by simp [hrow, Summary.parts]⟩
    have hkey : [({ pre, subject } : Pair)].map Pair.key = [linked.row.pair] := by rw [hpair]; rfl
    rw [hkey, htable]
    exact unlinked_cons_of_not_has hhas

theorem Gains.pairs_eq (h : Gains table pairs after added) :
    added.map Summary.pair = table.unlinked (pairs.map Pair.key) := by
  have hkeys := h.keys []
  simpa [unlinked, eq_comm] using hkeys

end SummaryTable

/-! ## §2 Batches -/

namespace Catalog

open SummaryTable (Gains)

variable {catalog before mid after : Catalog} {sitting : Sitting} {checked : Checked}
  {batch : List Checked} {view : CaseView} {decisions : List Decision} {count : Nat}

theorem gains_linkAll {pairs : List Pair} {rows : List Summary}
    (h : before.linkAll pairs = .ok (after, rows)) :
    ∃ added, Gains before.summaries pairs after.summaries added := by
  induction pairs generalizing before rows with
  | nil =>
    cases h
    exact ⟨[], .nil _⟩
  | cons pair pairs ih =>
    obtain ⟨mid, row, rest, hfirst, hrest, rfl⟩ := linkAll_cons_eq_ok before h
    obtain ⟨more, hmore⟩ := ih hrest
    obtain ⟨linked, hlink, rfl, rfl⟩ := linkSummary_eq_ok before hfirst
    obtain ⟨added, hadded⟩ := SummaryTable.gains_link hlink
    exact ⟨added ++ more, hadded.append hmore⟩

/-- A decision adds rows for its own pairs only. -/
theorem Carried.gains {audited : Bool} {description : Option Classification} {name : String}
    (h : Carried sitting checked before after audited description name) :
    ∃ added, Gains before.summaries checked.pairs after.summaries added := by
  obtain ⟨linked, hclassify, hsummaries⟩ := h.described
  rw [classify_eq] at hclassify
  cases hlink : before.linkAll checked.pairs with
  | error x =>
    rw [hlink] at hclassify
    cases hclassify
  | ok done =>
    rw [hlink] at hclassify
    cases hclassify
    rw [← hsummaries]
    exact gains_linkAll hlink

theorem CarriedAll.gains (h : CarriedAll sitting before batch after count) :
    ∃ added, Gains before.summaries (batch.flatMap Checked.pairs) after.summaries added := by
  induction h with
  | nil catalog => exact ⟨[], .nil _⟩
  | cons first rest ih =>
    obtain ⟨added, hadded⟩ := first.gains
    obtain ⟨more, hmore⟩ := ih
    exact ⟨added ++ more, hadded.append hmore⟩

/-- The pairs that a decision was planned with are pairs of the catalog. -/
theorem knows_of_check {decision : Decision} (h : catalog.check view decision = .ok checked) :
    ∀ pair ∈ checked.pairs, catalog.Knows pair.pre pair.subject := by
  obtain ⟨-, -, -, hplan, -⟩ := check_eq_ok_iff.1 h
  intro pair hpair
  have hmem : pair ∈ checked.plan.pairs := by
    rw [Checked.pairs] at hpair
    split at hpair
    · exact hpair
    · cases hpair
  rcases plan_eq_ok_cases hplan with ⟨-, -, heq⟩ | ⟨-, subject, single, -, hsingle, heq⟩ |
    ⟨-, -, -, heq⟩ | ⟨-, -, -, heq⟩
  · rw [heq] at hmem
    obtain ⟨ref, -, hfound⟩ := List.mem_filterMap.1 hmem
    cases hp : catalog.pair ref with
    | error part =>
      rw [hp] at hfound
      cases hfound
    | ok known =>
      rw [hp] at hfound
      cases hfound
      exact (pair_eq_ok_iff.1 hp).1
  · rw [heq] at hmem
    obtain rfl := List.mem_singleton.1 hmem
    exact (pair_eq_ok_iff.1 hsingle).1
  · rw [heq] at hmem
    cases hmem
  · rw [heq, pairs_planText] at hmem
    cases hmem

/-- Only decisions on controlled products name pairs that are linked. -/
theorem flatMap_keys_filter_isControlled (decisions : List Decision) :
    (decisions.filter Decision.isControlled).flatMap Decision.keys
      = decisions.flatMap Decision.keys := by
  induction decisions with
  | nil => rfl
  | cons decision decisions ih =>
    by_cases hcontrolled : decision.isControlled = true
    · rw [List.filter_cons_of_pos hcontrolled, List.flatMap_cons, List.flatMap_cons, ih]
    · have hnone : decision.keys = [] := by rw [Decision.keys, if_neg hcontrolled]
      rw [List.filter_cons_of_neg hcontrolled, List.flatMap_cons, ih, hnone, List.nil_append]

/-! ## §3 Rows -/

/-- The row that a batch gives to a pair, whichever decision names it: the row that the pair had, or
else a new one that holds the records of the catalog. Either way it is the one that a look-up
gives from then on. -/
structure GivesRow (before after : Catalog) (key : PairKey) (row : Summary) : Prop where
  pair : row.pair = key
  found : after.summaries.find? key.1 key.2 = some row
  held : ∀ old, before.summaries.find? key.1 key.2 = some old → row = old
  made : before.summaries.find? key.1 key.2 = none → before.Knows row.pre row.subject

theorem givesRow_of_find? {pairs : List Pair} {added : List Summary} {key : PairKey}
    {row : Summary} (hgains : Gains before.summaries pairs after.summaries added)
    (hknown : ∀ pair ∈ pairs, before.Knows pair.pre pair.subject)
    (hfound : after.summaries.find? key.1 key.2 = some row) : GivesRow before after key row := by
  have hpair : row.pair = key := by
    have hfirst := List.find?_some hfound
    simpa using hfirst
  refine ⟨hpair, hfound, ?_, ?_⟩
  · intro old hold
    have hrows : before.summaries.rows <+: after.summaries.rows := ⟨added, hgains.rows.symm⟩
    rw [SummaryTable.find?_of_prefix hrows hold] at hfound
    exact (Option.some.inj hfound).symm
  · intro hnone
    -- The row does not stand among those of before, so it is one that was added.
    have hmem : row ∈ before.summaries.rows ++ added := by
      rw [← hgains.rows]
      exact List.mem_of_find?_eq_some hfound
    rcases List.mem_append.1 hmem with hold | hnew
    · have hother := List.find?_eq_none.1 hnone row hold
      exact absurd hpair (by simpa using hother)
    · exact hknown row.parts (hgains.parts (List.mem_map_of_mem hnew))

/-- The rows that a look-up gives for linked pairs are the rows of just these pairs. -/
theorem forall₂_rowsFor {table : SummaryTable} {keys : List PairKey} (h : table.Links keys) :
    List.Forall₂ (fun key row => table.find? key.1 key.2 = some row) keys (table.rowsFor keys) := by
  induction keys with
  | nil => exact .nil
  | cons key keys ih =>
    obtain ⟨hkey, hkeys⟩ := List.forall_mem_cons.1 h
    obtain ⟨row, hrow⟩ := Option.isSome_iff_exists.1 hkey
    rw [SummaryTable.rowsFor_cons hrow]
    exact .cons hrow (ih hkeys)

/-! ## §4 Descriptions -/

/-- How a decision of a batch leaves its line item described, and the text of the description: by
its list of pairs if there is one, else by its pair, else by its free text as it stands. A
product that is not controlled is not described. -/
inductive Describes (before after : Catalog) (decision : Decision) :
    Option Classification → Option String → Prop where
  | pairs {rows : List Summary} (controlled : decision.controlled = some true)
      (given : decision.pairs ≠ [])
      (linked : List.Forall₂ (fun ref row => GivesRow before after ref.key row) decision.pairs
        rows) :
      Describes before after decision (some (.multiple rows))
        (some (", ".intercalate (rows.map fun row => displayName row.pre row.subject)))
  | pair {subject : SubjectId} {row : Summary} (controlled : decision.controlled = some true)
      (single : decision.pairs = []) (given : decision.subject = some subject)
      (linked : GivesRow before after (decision.pre, subject) row) :
      Describes before after decision (some (.single row))
        (some (displayName row.pre row.subject))
  | text {text : String} (controlled : decision.controlled = some true)
      (single : decision.pairs = []) (alone : decision.subject = none)
      (given : decision.reportSummary = some text) :
      Describes before after decision (some (.legacy text)) (some text)
  | nothing (uncontrolled : decision.controlled ≠ some true) :
      Describes before after decision none none

/-- What a decision asks for is what it leaves, if the rows that it asks for are those that the
batch gives to its pairs. -/
theorem describes_of_givesRow {decision : Decision}
    (hlinks : after.summaries.Links decision.keys)
    (hgives : ∀ key row, after.summaries.find? key.1 key.2 = some row →
      GivesRow before after key row)
    (hgiven : decision.isControlled = true →
      (decision.describe (after.summaries.rowsFor decision.keys)).isSome) :
    Describes before after decision (decision.describe (after.summaries.rowsFor decision.keys))
      ((decision.describe (after.summaries.rowsFor decision.keys)).map Classification.text) := by
  have hrows := forall₂_rowsFor hlinks
  unfold Decision.describe at hgiven ⊢
  by_cases hcontrolled : decision.isControlled = true
  · have hknown : decision.controlled = some true := of_decide_eq_true hcontrolled
    rw [if_pos hcontrolled] at hgiven ⊢
    by_cases hpairs : decision.pairs = []
    · rw [if_neg (not_not_intro hpairs)] at hgiven ⊢
      cases hsubject : decision.subject with
      | some subject =>
        have hkeys : decision.keys = [(decision.pre, subject)] := by
          rw [Decision.keys, if_pos hcontrolled, if_neg (not_not_intro hpairs), hsubject]
          rfl
        rw [hkeys] at hrows ⊢
        obtain ⟨row, _, hrow, -, heq⟩ := List.forall₂_cons_left_iff.1 hrows
        rw [heq]
        exact .pair hknown hpairs hsubject (hgives _ row hrow)
      | none =>
        rw [hsubject] at hgiven
        obtain ⟨_, hsome⟩ := Option.isSome_iff_exists.1 (hgiven hcontrolled)
        obtain ⟨text, htext, -⟩ := Option.map_eq_some_iff.1 hsome
        rw [htext]
        exact .text hknown hpairs hsubject htext
    · have hkeys : decision.keys = decision.pairs.map PairRef.key := by
        rw [Decision.keys, if_pos hcontrolled, if_pos hpairs]
      rw [if_pos hpairs, hkeys]
      rw [hkeys, List.forall₂_map_left_iff] at hrows
      exact .pairs hknown hpairs (hrows.imp fun ref row hrow => hgives ref.key row hrow)
  · rw [if_neg hcontrolled]
    exact .nothing fun hknown => hcontrolled (decide_eq_true hknown)

section Review

variable {id : CaseId} {reviewer : ReviewerId} {now : Instant} {receipt : Receipt}

/-- With an accepted batch the table grows by pairs of the catalog, the ones that its decisions
name. -/
theorem gains_of_review (h : before.review id reviewer decisions now = .ok (after, receipt)) :
    ∃ pairs added, Gains before.summaries pairs after.summaries added ∧
      pairs.map Pair.key = decisions.flatMap Decision.keys ∧
      ∀ pair ∈ pairs, before.Knows pair.pre pair.subject := by
  obtain ⟨view, batch, count, -, -, -, hchecks, happly, -⟩ := review_eq_ok_iff.1 h
  obtain ⟨added, hgains⟩ := (carriedAll_of_applyAll happly).gains
  refine ⟨_, added, hgains, ?_, ?_⟩
  · rw [← flatMap_keys_of_checks hchecks, List.map_flatMap]
    rfl
  · intro pair hpair
    obtain ⟨checked, hchecked, hmem⟩ := List.mem_flatMap.1 hpair
    obtain ⟨decision, -, hcheck⟩ := exists_check_of_mem hchecks hchecked
    exact knows_of_check hcheck pair hmem

theorem rows_of_review (h : before.review id reviewer decisions now = .ok (after, receipt)) :
    ∃ added, after.summaries.rows = before.summaries.rows ++ added ∧
      added.map Summary.pair = before.summaries.unlinked
        ((decisions.filter Decision.isControlled).flatMap Decision.keys) := by
  obtain ⟨pairs, added, hgains, hkeys, -⟩ := gains_of_review h
  refine ⟨added, hgains.rows, ?_⟩
  rw [flatMap_keys_filter_isControlled, ← hkeys, hgains.pairs_eq]

theorem describes_of_review (h : before.review id reviewer decisions now = .ok (after, receipt)) :
    ∀ decision ∈ decisions, ∃ item, after.lineItem? decision.id = some item ∧
      Describes before after decision item.classification item.reportSummary := by
  intro decision hdecision
  obtain ⟨pairs, added, hgains, -, hknown⟩ := gains_of_review h
  obtain ⟨item, hitem, hsound, -⟩ := settled_of_review h decision hdecision
  obtain ⟨view, batch, count, -, -, hnodup, hchecks, happly, -⟩ := review_eq_ok_iff.1 h
  have heffect := (carriedAll_of_applyAll happly).effect (.of_checks hnodup hchecks)
  obtain ⟨checked, hchecked, hcheck⟩ := exists_checked_of_mem hchecks hdecision
  have hlinks := heffect.links checked hchecked
  have hheld := heffect.held checked hchecked
  rw [id_of_check hcheck, hitem] at hheld
  cases hheld
  have hdescription : (checked.outcome { view, reviewer, now } after.summaries).classification
      = decision.describe (after.summaries.rowsFor decision.keys) := by
    rw [← keys_of_check hcheck, ← describe_of_check hcheck]
    rfl
  rw [keys_of_check hcheck] at hlinks
  rw [hdescription] at hsound
  refine ⟨_, hitem, ?_⟩
  rw [LineItem.reportSummary, hdescription]
  refine describes_of_givesRow hlinks (fun key row => givesRow_of_find? hgains hknown) ?_
  -- The checks have seen to it that a controlled product is described at all.
  intro hcontrolled
  obtain ⟨-, rfl, -⟩ := check_eq_ok_iff.1 hcheck
  exact hsound.fits.2 (of_decide_eq_true hcontrolled)

end Review

end Catalog

/-! ## §5 Desks -/

namespace Desk

open Catalog (Describes)

variable {desk after : Desk} {id : CaseId} {reviewer : ReviewerId} {decisions : List Decision}
  {now : Instant} {receipt : Receipt}

/-- **Accepted lines are described as asked for.** An accepted batch leaves every controlled line
item described by one row for each listed pair, in order, else by the row of its pair, else by
its free text as it stands. A pair has the same row wherever the batch names it: the first one
that it had before, or else a new one that holds the records of the catalog. The rows that are
added are one for each unlinked pair of a controlled line item, and no others. -/
theorem accepted_lines_are_described
    (h : desk.assess id reviewer decisions now = (after, .ok receipt)) :
    let before := desk.store.catalog
    let reviewed := after.store.catalog
    (∀ decision ∈ decisions, ∃ item, reviewed.lineItem? decision.id = some item ∧
      Describes before reviewed decision item.classification item.reportSummary) ∧
    ∃ added, reviewed.summaries.rows = before.summaries.rows ++ added ∧
      added.map Summary.pair = before.summaries.unlinked
        ((decisions.filter Decision.isControlled).flatMap Decision.keys) :=
  ⟨Catalog.describes_of_review (review_of_assess h), Catalog.rows_of_review (review_of_assess h)⟩

/-- A desk with four line items. The row of one pair still has an earlier name of its subject. -/
def renamedSubject : Desk where
  store := .ofSeed
    { Seed.empty with
      prefixes := [⟨⟨1⟩, "components for"⟩]
      subjects := [⟨⟨7⟩, "sniper rifles", none⟩, ⟨⟨8⟩, "scopes", none⟩]
      cases := [⟨⟨"case-1"⟩, .underReview⟩]
      lineItems := ["line-1", "line-2", "line-3", "line-4"].map fun line =>
        .unassessed ⟨line⟩ ⟨"case-1"⟩ (.goodsType "Scope")
      summaries := ⟨[⟨⟨4⟩, none, ⟨⟨7⟩, "rifles", none⟩⟩]⟩
      reviewers := [⟨"officer"⟩] }
  directory := none
  permissions := none

/-- Decisions of every kind: one pair is named three times, and one is named in vain. -/
def mixedBatch : List Decision :=
  [{ Decision.blank ⟨"line-1"⟩ with
      controlled := some true
      pairs := [⟨some ⟨1⟩, ⟨7⟩⟩, ⟨none, ⟨7⟩⟩, ⟨some ⟨1⟩, ⟨7⟩⟩] },
   { Decision.blank ⟨"line-2"⟩ with controlled := some false, pairs := [⟨none, ⟨8⟩⟩] },
   { Decision.blank ⟨"line-3"⟩ with
      controlled := some true
      reportSummary := some "Scope"
      pre := some ⟨1⟩
      subject := some ⟨7⟩ },
   { Decision.blank ⟨"line-4"⟩ with controlled := some true, reportSummary := some " Scope " }]

theorem mixed_lines_are_described :
    let before := renamedSubject.store.catalog
    let after := (renamedSubject.rateAt mixedBatch).1.store.catalog
    (∀ decision ∈ mixedBatch, ∃ item, after.lineItem? decision.id = some item ∧
      Describes before after decision item.classification item.reportSummary) ∧
    (∃ added, after.summaries.rows = before.summaries.rows ++ added ∧
      added.map Summary.pair = [(some ⟨1⟩, ⟨7⟩)]) ∧
    after.lineItems.map LineItem.reportSummary =
      [some "components for sniper rifles, rifles, components for sniper rifles", none,
       some "components for sniper rifles", some " Scope "] := by
  intro before after
  have haccepted : renamedSubject.rateAt mixedBatch
      = ((renamedSubject.rateAt mixedBatch).1,
        .ok { caseId := ⟨"case-1"⟩, updated := 4, audited := 4 }) := rfl
  obtain ⟨hlines, added, hrows, hpairs⟩ := accepted_lines_are_described haccepted
  exact ⟨hlines, ⟨added, hrows, hpairs⟩, by decide +kernel⟩

end Desk

end ExportControl
