/-
ExportControl.Proofs.LinkedRows — the rows that descriptions are made of.

A description holds copies of the rows that its pairs were linked to, and the table
grows meanwhile by the pairs of other decisions. The copies stay true to the table:
rows are never changed, moved or removed, and what a batch or a transaction has
linked comes to stay only together with all else that it did.

  §1 Tables       — `SummaryTable.Distinct`: rows differ in identifier and in pair;
                    `Distinct.link`: so they do once a pair is linked.
  §2 Catalogs     — `Intact`: all descriptions are made of rows of such a table;
                    `Keeps`: the rows stay in place and what is intact stays so.
                    `History.keeps`: decisions and status changes keep both.
  §3 Transactions — `keeps_step`: so do steps that only link.
  §4 Desks        — `linked_rows_stay_intact`.
-/
import ExportControl.Proofs.Description
import ExportControl.Proofs.Transactions

namespace ExportControl

/-! ## §1 Tables -/

namespace SummaryTable

variable {table : SummaryTable} {pre : Option Prefix} {subject : Subject} {linked : Linked}

/-- No identifier and no pair has two rows. -/
structure Distinct (table : SummaryTable) : Prop where
  ids : (table.rows.map Summary.id).Nodup
  pairs : (table.rows.map Summary.pair).Nodup

/-- No row has an identifier beyond the largest one in use. -/
theorem le_lastId {row : Summary} (h : row ∈ table.rows) :
    row.id.value.toNat ≤ table.lastId := by
  have hfold : ∀ (rows : List Summary) (last : Nat),
      last ≤ rows.foldl (fun last row => max last row.id.value.toNat) last ∧
        ∀ row ∈ rows, row.id.value.toNat
          ≤ rows.foldl (fun last row => max last row.id.value.toNat) last := by
    intro rows
    induction rows with
    | nil => exact fun last => ⟨Nat.le_refl last, by simp⟩
    | cons head rows ih =>
      intro last
      obtain ⟨hlast, hrows⟩ := ih (max last head.id.value.toNat)
      refine ⟨Nat.le_trans (Nat.le_max_left _ _) hlast, List.forall_mem_cons.2 ⟨?_, hrows⟩⟩
      exact Nat.le_trans (Nat.le_max_right _ _) hlast
  exact (hfold table.rows 0).2 row h

theorem nodup_map_append_row {α : Type} {f : Summary → α} {row : Summary}
    (h : (table.rows.map f).Nodup) (hnew : ∀ other ∈ table.rows, f other ≠ f row) :
    ((table.rows ++ [row]).map f).Nodup := by
  rw [List.map_append, List.map_singleton, List.nodup_append]
  refine ⟨h, by simp, fun a ha b hb => ?_⟩
  obtain ⟨other, hother, rfl⟩ := List.mem_map.1 ha
  obtain rfl := List.mem_singleton.1 hb
  exact hnew other hother

/-- Linking a pair keeps the rows distinct: a new one comes only where the pair has none, under an
identifier that is not in use. -/
theorem Distinct.link (h : table.Distinct) (hlink : table.link pre subject = .ok linked) :
    linked.table.Distinct := by
  rcases link_cases hlink with ⟨-, htable, -⟩ | ⟨id, hnone, hid, hrow, htable, -⟩
  · rwa [htable]
  · have hpair : linked.row.pair = (pre.map Prefix.id, subject.id) := by rw [hrow]; rfl
    have hvalue : linked.row.id.value.toNat = table.lastId + 1 := by
      rw [hrow]
      exact value_of_nextId? hid
    rw [htable]
    refine ⟨nodup_map_append_row h.ids fun other hother heq => ?_,
      nodup_map_append_row h.pairs fun other hother heq => ?_⟩
    · have hle := le_lastId hother
      rw [heq, hvalue] at hle
      exact Nat.not_succ_le_self _ hle
    · have hother := List.find?_eq_none.1 hnone other hother
      exact hother (by simp [heq, hpair])

end SummaryTable

/-! ## §2 Catalogs -/

namespace Classification

/-- A description, if there is one, is made of rows of a table. -/
def DrawnFrom (table : SummaryTable) (description : Option Classification) : Prop :=
  ∀ classification ∈ description, classification.rows ⊆ table.rows

instance (table : SummaryTable) (description : Option Classification) :
    Decidable (DrawnFrom table description) :=
  inferInstanceAs (Decidable (∀ classification ∈ description, classification.rows ⊆ table.rows))

/-- A longer table has the rows as well. -/
theorem DrawnFrom.mono {table other : SummaryTable} {description : Option Classification}
    (h : DrawnFrom table description) (hrows : table.rows <+: other.rows) :
    DrawnFrom other description :=
  fun classification hmem => List.Subset.trans (h classification hmem) hrows.subset

end Classification

open Classification (DrawnFrom)

/-- A checked decision describes its product by the rows of its pairs. -/
theorem Checked.drawnFrom_describe {table : SummaryTable} {rows : List Summary}
    (hrows : rows ⊆ table.rows) (checked : Checked) :
    DrawnFrom table (checked.describe rows) := by
  intro classification hmem
  rw [Checked.describe] at hmem
  split at hmem
  · cases hplan : checked.plan with
    | unclassified =>
      rw [hplan] at hmem
      cases hmem
    | legacy text =>
      rw [hplan] at hmem
      cases hmem
      exact List.nil_subset _
    | single pair =>
      rw [hplan] at hmem
      obtain ⟨row, hrow, rfl⟩ := Option.map_eq_some_iff.1 hmem
      exact List.cons_subset.2 ⟨hrows (List.mem_of_mem_head? hrow), List.nil_subset _⟩
    | multiple pairs =>
      rw [hplan] at hmem
      cases hmem
      exact hrows
  · cases hmem

namespace Catalog

variable {before mid after : Catalog}

/-- The rows of linked pairs are distinct, and all line items and goods are described by them. -/
structure Intact (catalog : Catalog) : Prop where
  table : catalog.summaries.Distinct
  drawn : catalog.Every fun _ description => DrawnFrom catalog.summaries description

/-- From one catalog to another the rows stay in place, and what is intact stays so. -/
structure Keeps (before after : Catalog) : Prop where
  rows : before.summaries.rows <+: after.summaries.rows
  intact : before.Intact → after.Intact

theorem Keeps.refl (catalog : Catalog) : Keeps catalog catalog := ⟨List.prefix_refl _, id⟩

theorem Keeps.trans (h : Keeps before mid) (h' : Keeps mid after) : Keeps before after :=
  ⟨h.rows.trans h'.rows, h'.intact ∘ h.intact⟩

theorem Intact.drawn_mono {table : SummaryTable} (h : before.Intact)
    (hrows : before.summaries.rows <+: table.rows) :
    before.Every fun _ description => DrawnFrom table description where
  lines := fun item hitem => (h.drawn.lines item hitem).mono hrows
  goods := fun id good hgood => (h.drawn.goods id good hgood).mono hrows

theorem keeps_linkSummary {pre : Option Prefix} {subject : Subject} {row : Summary}
    (h : before.linkSummary pre subject = .ok (after, row)) : Keeps before after := by
  obtain ⟨linked, hlink, rfl, rfl⟩ := linkSummary_eq_ok before h
  have hrows := (SummaryTable.rows_of_link hlink).1
  refine ⟨hrows, fun hintact => ⟨hintact.table.link hlink, ?_⟩⟩
  have hdrawn := hintact.drawn_mono hrows
  exact ⟨hdrawn.lines, hdrawn.goods⟩

theorem keeps_linkAll {pairs : List Pair} {rows : List Summary}
    (h : before.linkAll pairs = .ok (after, rows)) : Keeps before after := by
  induction pairs generalizing before rows with
  | nil =>
    cases h
    exact .refl _
  | cons pair pairs ih =>
    obtain ⟨mid, row, rest, hfirst, hrest, rfl⟩ := linkAll_cons_eq_ok before h
    exact (keeps_linkSummary hfirst).trans (ih hrest)

theorem keeps_classify {checked : Checked} {description : Option Classification}
    (h : before.classify checked = .ok (after, description)) : Keeps before after := by
  rw [classify_eq] at h
  cases hlink : before.linkAll checked.pairs with
  | error x =>
    rw [hlink] at h
    cases h
  | ok linked =>
    rw [hlink] at h
    cases h
    exact keeps_linkAll hlink

/-- One decision describes its line item and its good by rows that the table has from then on. -/
theorem Carried.keeps {sitting : Sitting} {checked : Checked} {audited : Bool}
    {description : Option Classification} {name : String}
    (h : Carried sitting checked before after audited description name) : Keeps before after := by
  obtain ⟨hrows, rows, hsubset, -, rfl⟩ := h.describes
  refine ⟨hrows, fun hintact => ⟨?_, ?_⟩⟩
  · obtain ⟨linked, hclassify, hsummaries⟩ := h.described
    rw [← hsummaries]
    exact ((keeps_classify hclassify).intact hintact).table
  · exact (hintact.drawn_mono hrows).carried h (checked.drawnFrom_describe hsubset)

theorem History.keeps {batch : List Checked} (h : History before batch after) :
    Keeps before after := by
  induction h with
  | nil catalog => exact .refl catalog
  | decision _ _ first _ ih => exact first.keeps.trans ih
  | @move before after batch record known _ ih =>
    have hmove : Keeps before { before with cases := before.cases.put record } :=
      ⟨List.prefix_refl _, fun h => ⟨h.table, h.drawn.lines, h.drawn.goods⟩⟩
    exact hmove.trans ih

end Catalog

/-! ## §3 Transactions -/

/-- The step changes nothing, or links a pair. -/
def Step.onlyLinks : Step → Bool
  | .saveLineItem _ | .saveGood _ | .appendAudit _ | .setFlag _ _ _ => false
  | _ => true

/-- The activity is an event, or a transaction that changes nothing but the linked pairs. -/
def Activity.onlyLinks : Activity → Bool
  | .event _ => true
  | .transaction steps _ => steps.all Step.onlyLinks

namespace Catalog

theorem keeps_step {before after : Catalog} {step : Step} {answer : Answer}
    (honly : step.onlyLinks = true) (hstep : before.step step = .ok (after, answer)) :
    Keeps before after := by
  cases step with
  | link pre subject =>
    rw [Catalog.step] at hstep
    cases hlink : before.linkSummary pre subject with
    | error x =>
      rw [hlink] at hstep
      cases hstep
    | ok linked =>
      rw [hlink] at hstep
      cases hstep
      exact keeps_linkSummary hlink
  | saveLineItem item => cases honly
  | saveGood good => cases honly
  | appendAudit entry => cases honly
  | setFlag good flag enabled => cases honly
  | _ =>
    cases hstep
    exact .refl _

end Catalog

/-! ## §4 Desks -/

namespace Desk

open Catalog (Keeps)

theorem keeps_act (desk : Desk) {activity : Activity} (honly : activity.onlyLinks = true) :
    Keeps desk.store.catalog (desk.act activity).store.catalog := by
  cases activity with
  | event event =>
    obtain ⟨batch, hhistory, -⟩ := desk.history_next event
    exact hhistory.keeps
  | transaction steps commits =>
    rcases desk.catalog_of_transact steps commits with hsame | ⟨after, answers, -, hsteps, hafter⟩
    · rw [act, hsame]
      exact .refl _
    · rw [act, hafter]
      refine Catalog.invariant_of_steps (Keeps desk.store.catalog) ?_ hsteps (.refl _)
      intro step hstep first mid answer hmid hfirst
      exact hfirst.trans (Catalog.keeps_step (List.all_eq_true.1 honly step hstep) hmid)

theorem keeps_perform (desk : Desk) {activities : List Activity}
    (honly : ∀ activity ∈ activities, activity.onlyLinks = true) :
    Keeps desk.store.catalog (desk.perform activities).store.catalog :=
  invariant_of_perform (Keeps desk.store.catalog)
    (fun activity hmem mid hmid => hmid.trans (mid.keeps_act (honly activity hmem)))
    (.refl _)

/-- **Linked rows stay intact.** Where the rows of linked pairs are distinct at first and all line
items and goods are described by them, they are so whatever events there are and whatever
transactions link further pairs. No row is ever changed, moved or removed on the way, and what
is refused, dropped or broken off leaves none. -/
theorem linked_rows_stay_intact (desk : Desk) (activities : List Activity)
    (hintact : desk.store.catalog.Intact)
    (honly : ∀ activity ∈ activities, activity.onlyLinks = true) :
    (∀ earlier later, activities = earlier ++ later →
      (desk.perform earlier).store.catalog.Intact ∧
      (desk.perform earlier).store.catalog.summaries.rows
        <+: (desk.perform activities).store.catalog.summaries.rows) ∧
    (∀ id reviewer decisions now after e,
      (desk.perform activities).assess id reviewer decisions now = (after, .error e) →
        after.store.catalog.summaries = (desk.perform activities).store.catalog.summaries) ∧
    (∀ steps, ((desk.perform activities).transact steps false).1.store.catalog.summaries
      = (desk.perform activities).store.catalog.summaries) ∧
    ∀ steps commits after e,
      (desk.perform activities).transact steps commits = (after, .error e) →
        after.store.catalog.summaries = (desk.perform activities).store.catalog.summaries := by
  refine ⟨?_, fun _ _ _ _ _ _ h => congrArg Catalog.summaries (catalog_of_assess_error h),
    fun steps => congrArg Catalog.summaries (catalog_of_transact_false _ steps),
    fun _ _ _ _ h => congrArg Catalog.summaries (catalog_of_transact_error h)⟩
  rintro earlier later rfl
  rw [perform_append]
  constructor
  · exact (desk.keeps_perform fun activity hmem =>
      honly activity (List.mem_append_left _ hmem)).intact hintact
  · exact ((desk.perform earlier).keeps_perform fun activity hmem =>
      honly activity (List.mem_append_right _ hmem)).rows

/-- A desk with a line item and a good that are described by a linked pair, and a line item that is
not described. -/
def describedGood : Desk where
  store := .ofSeed
    { Seed.empty with
      prefixes := [⟨⟨1⟩, "components for"⟩]
      subjects := [⟨⟨7⟩, "sniper rifles", none⟩]
      controlListEntries := [⟨"ML2", ""⟩]
      goods :=
        [⟨⟨"good-1"⟩, "Scope", "", .verified, [], some true,
          some (.multiple [⟨⟨4⟩, none, ⟨⟨7⟩, "rifles", none⟩⟩]), .none⟩]
      cases := [⟨⟨"case-1"⟩, .underReview⟩]
      lineItems :=
        [{ LineItem.unassessed ⟨"line-1"⟩ ⟨"case-1"⟩ (.good ⟨"good-1"⟩) with
            controlled := some true
            classification := some (.single ⟨⟨4⟩, none, ⟨⟨7⟩, "rifles", none⟩⟩) },
         .unassessed ⟨"line-2"⟩ ⟨"case-1"⟩ (.good ⟨"good-1"⟩)]
      summaries := ⟨[⟨⟨4⟩, none, ⟨⟨7⟩, "rifles", none⟩⟩]⟩
      reviewers := [⟨"officer"⟩] }
  directory := none
  permissions := none

/-- A batch and a committed transaction link a pair each; what the dropped one links is gone. -/
theorem described_good_stays_intact :
    let subject : Subject := ⟨⟨8⟩, "scopes", none⟩
    let activities : List Activity :=
      [.transaction [.link (some ⟨⟨1⟩, "components for"⟩) subject] false,
       .event (.assess ⟨"case-1"⟩ ⟨"officer"⟩ [rate ⟨"line-2"⟩ "ML2"]
        { year := 2024, month := 5, day := 1, second := 36000, nano := 0 }),
       .transaction [.good ⟨"good-1"⟩, .link none subject, .link none subject] true]
    (describedGood.perform activities).store.catalog.Intact ∧
      (describedGood.perform activities).store.catalog.summaries.rows.map
          (fun row => (row.id, row.pair))
        = [(⟨4⟩, none, ⟨7⟩), (⟨5⟩, some ⟨1⟩, ⟨7⟩), (⟨6⟩, none, ⟨8⟩)] := by
  intro subject activities
  have hintact : describedGood.store.catalog.Intact := by
    have hgoods : ∀ good ∈ describedGood.store.catalog.goods.entries,
        DrawnFrom describedGood.store.catalog.summaries good.classification := by decide
    exact ⟨⟨by decide, by decide⟩,
      ⟨by decide, fun _ good hgood => hgoods good (Register.mem_of_find? hgood)⟩⟩
  have hkept := linked_rows_stay_intact describedGood activities hintact (by decide)
  exact ⟨(hkept.1 activities [] (by simp)).1, by decide +kernel⟩

end Desk

end ExportControl
