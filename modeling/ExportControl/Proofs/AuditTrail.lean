/-
ExportControl.Proofs.AuditTrail — what the records about a line item tell.

The records about a line item lead from its first values to its present ones: each
starts from what the one before it shows. Assessments that leave no record may come
in between, but they leave the values as they are.

  §1 Trails    — `Leads`: records that lead from a line item to what became of it;
                 `Leads.trans`: trails can be put together.
  §2 Catalogs  — `Accounts`: a catalog tells by a trail what became of a line item
                 of another; `Carried.accounts`: so it is after one decision.
  §3 Runs      — `trail_is_complete`: so it is after every run.
-/
import ExportControl.Proofs.Recording
import Mathlib.Data.List.Chain

namespace ExportControl

/-! ## §1 Trails -/

/-- Records lead from a line item to what became of it. -/
structure Leads (before after : Option LineItem) (trail : List AuditRecord) : Prop where
  /-- Each record starts from what the one before it shows. -/
  linked : trail.IsChain fun record next => next.review.shownBefore = record.review.shownAfter
  first : ∀ record ∈ trail.head?, before.map LineItem.shown = some record.review.shownBefore
  last : ∀ record ∈ trail.getLast?, after.map LineItem.shown = some record.review.shownAfter
  /-- Without a record the values are as they were. -/
  unrecorded : trail = [] → after.map LineItem.values = before.map LineItem.values

theorem map_shown_congr {item other : Option LineItem}
    (h : item.map LineItem.values = other.map LineItem.values) :
    item.map LineItem.shown = other.map LineItem.shown := by
  cases item with
  | none => rw [Option.map_eq_none_iff.1 h.symm]
  | some item =>
    obtain ⟨old, rfl, hvalues⟩ := Option.map_eq_some_iff.1 h.symm
    exact congrArg some (LineItem.shown_congr hvalues.symm)

namespace Leads

variable {before mid after : Option LineItem} {trail later : List AuditRecord}

/-- No record is needed where the values stay. -/
theorem nil (h : after.map LineItem.values = before.map LineItem.values) :
    Leads before after [] where
  linked := .nil
  first := by simp
  last := by simp
  unrecorded := fun _ => h

theorem singleton {record : AuditRecord}
    (hfirst : before.map LineItem.shown = some record.review.shownBefore)
    (hlast : after.map LineItem.shown = some record.review.shownAfter) :
    Leads before after [record] where
  linked := .singleton record
  first := by simpa using hfirst
  last := by simpa using hlast
  unrecorded := by simp

theorem trans (h : Leads before mid trail) (h' : Leads mid after later) :
    Leads before after (trail ++ later) where
  linked := by
    refine h.linked.append h'.linked fun record hlast next hfirst => ?_
    exact Option.some.inj ((h'.first next hfirst).symm.trans (h.last record hlast))
  first := by
    cases trail with
    | nil =>
      rw [map_shown_congr (h.unrecorded rfl).symm]
      exact h'.first
    | cons record trail => exact h.first
  last := by
    intro record hlast
    rw [List.getLast?_append] at hlast
    cases hlater : later.getLast? with
    | some final =>
      rw [hlater] at hlast
      exact h'.last record (hlater.trans hlast)
    | none =>
      rw [hlater] at hlast
      rw [map_shown_congr (h'.unrecorded (List.getLast?_eq_none_iff.1 hlater))]
      exact h.last record hlast
  unrecorded := by
    intro hnil
    obtain ⟨hnil, hnil'⟩ := List.append_eq_nil_iff.1 hnil
    exact (h'.unrecorded hnil').trans (h.unrecorded hnil)

end Leads

namespace Catalog

variable {before mid after : Catalog} {line : LineItemId}

/-! ## §2 Catalogs -/

/-- The records that one catalog has about a line item, behind those of another, tell what became
of it. -/
def Accounts (line : LineItemId) (before after : Catalog) : Prop :=
  ∃ trail, after.auditTrail line = before.auditTrail line ++ trail ∧
    Leads (before.lineItem? line) (after.lineItem? line) trail

theorem Accounts.of_values (haudits : after.auditTrail line = before.auditTrail line)
    (hvalues : after.values? line = before.values? line) : Accounts line before after :=
  ⟨[], by rw [haudits, List.append_nil], .nil hvalues⟩

theorem Accounts.trans (h : Accounts line before mid) (h' : Accounts line mid after) :
    Accounts line before after := by
  obtain ⟨trail, haudits, hleads⟩ := h
  obtain ⟨later, haudits', hleads'⟩ := h'
  exact ⟨trail ++ later, by rw [haudits', haudits, List.append_assoc], hleads.trans hleads'⟩

/-- One decision leaves a record about its own line item, or leaves the values. -/
theorem Carried.accounts {sitting : Sitting} {checked : Checked} {audited : Bool}
    {description : Option Classification} {name : String}
    (h : Carried sitting checked before after audited description name)
    (hloaded : before.lineItem? checked.item.id = some checked.item) (line : LineItemId) :
    Accounts line before after := by
  have hspec := recordOf_spec before sitting checked description name
  have htrail : after.auditTrail line = before.auditTrail line
      ++ (before.recordOf sitting checked description name).toList.filter (·.target = line) := by
    rw [auditTrail, h.recorded, List.filter_append]
    rfl
  by_cases hline : checked.item.id = line
  · subst hline
    have hsaved : after.lineItem? checked.item.id = some (checked.revised description sitting) := by
      rw [h.lineItem?, if_pos rfl]
    cases hrecord : before.recordOf sitting checked description name with
    | none =>
      rw [hrecord] at htrail hspec
      refine .of_values (by simpa using htrail) ?_
      rw [values?, values?, hsaved, hloaded]
      exact congrArg some hspec.symm
    | some record =>
      rw [hrecord] at htrail hspec
      obtain ⟨-, -, hreport⟩ := hspec
      refine ⟨[record], by simpa [hreport.target] using htrail, .singleton ?_ ?_⟩
      · rw [hloaded, hreport.shownBefore]
        rfl
      · rw [hsaved, hreport.shownAfter]
        rfl
  · have hsame : after.lineItem? line = before.lineItem? line := by rw [h.lineItem?, if_neg hline]
    refine .of_values ?_ (by rw [values?, values?, hsame])
    cases hrecord : before.recordOf sitting checked description name with
    | none =>
      rw [hrecord] at htrail
      simpa using htrail
    | some record =>
      rw [hrecord] at htrail hspec
      have htarget : record.target ≠ line := hspec.2.2.target ▸ hline
      simpa [htarget] using htrail

theorem History.accounts {batch : List Checked} (h : History before batch after)
    (line : LineItemId) : Accounts line before after := by
  induction h with
  | nil catalog => exact .of_values rfl rfl
  | decision _ loaded first _ ih => exact (first.accounts loaded line).trans ih
  | move record _ _ ih => exact Accounts.trans (.of_values rfl rfl) ih

end Catalog

/-! ## §3 Runs -/

/-- **The audit trail is complete.** Whatever happens at a desk, the records that come to the trail
of a line item lead from what it was at first to what it is: each starts from what the one
before it shows, the first one from the first values, the last one ends with the present
values, and without any record the values are still the first ones. A catalog that has just
been made from a seed has no records yet, so all of the trail came with the run. -/
theorem Desk.trail_is_complete (desk : Desk) (events : List Event) (line : LineItemId) :
    (∃ trail,
      (desk.run events).store.catalog.auditTrail line
          = desk.store.catalog.auditTrail line ++ trail ∧
        Leads (desk.store.catalog.lineItem? line) ((desk.run events).store.catalog.lineItem? line)
          trail) ∧
      ∀ seed, (Catalog.ofSeed seed).auditTrail line = [] := by
  obtain ⟨batch, hhistory, -⟩ := desk.history_run events
  exact ⟨hhistory.accounts line, fun _ => rfl⟩

end ExportControl
