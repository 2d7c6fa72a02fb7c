/-
ExportControl.Proofs.SuggestionReports — the reports on free text account for
every line that awaits a pair.

  §1 Stable sorting — `filter_mergeSort_eq`: sorting leaves equals as they stand,
                      and so in whatever order they were before
                      (`pairwise_mergeSort_stable`).
  §2 Candidates     — `Catalog.placed` lists the candidates with the positions
                      of their line items; `candidate?_eq_some_iff` says which
                      line items are candidates.
  §3 Suggestions    — `Suggests`: a row with a subject holds what its text was
                      matched with, all of it from the catalog.
  §4 Reports        — `report_accounts_for_lines`: each line that awaits a pair
                      has one row in one of the two reports, and nothing else
                      has one.
-/
import Mathlib.Data.List.Basic
import ExportControl.Proofs.Matching
import ExportControl.Suggestion.Report

namespace ExportControl

/-! ## §1 Stable sorting -/

section Sorting

variable {α : Type} {le : α → α → Bool} {xs : List α}

/-- Sorting leaves elements that are all equal to each other as they stand. -/
theorem filter_mergeSort_eq (htrans : ∀ a b c, le a b → le b c → le a c)
    (htotal : ∀ a b, le a b || le b a) {p : α → Bool} (hequal : ∀ a b, p a → p b → le a b) :
    (xs.mergeSort le).filter p = xs.filter p := by
  have hsorted : (xs.filter p).Pairwise fun a b => le a b :=
    List.pairwise_of_forall_mem_list fun a ha b hb =>
      hequal a b (List.mem_filter.1 ha).2 (List.mem_filter.1 hb).2
  have hsublist : (xs.filter p).Sublist (xs.mergeSort le) :=
    List.sublist_mergeSort htrans htotal hsorted List.filter_sublist
  have hkept : (xs.filter p).Sublist ((xs.mergeSort le).filter p) := by
    simpa using hsublist.filter p
  exact (hkept.eq_of_length ((List.mergeSort_perm xs le).filter p).length_eq.symm).symm

/-- A stable sort orders equals as they were ordered before. -/
theorem pairwise_mergeSort_stable {before : α → α → Prop}
    (htrans : ∀ a b c, le a b → le b c → le a c) (htotal : ∀ a b, le a b || le b a)
    (hxs : xs.Pairwise before) :
    (xs.mergeSort le).Pairwise fun a b => le a b ∧ (le b a → before a b) := by
  rw [List.pairwise_iff_forall_sublist]
  intro a b hab
  have hle : le a b :=
    List.pairwise_iff_forall_sublist.1 (List.pairwise_mergeSort htrans htotal xs) hab
  refine ⟨hle, fun hge => ?_⟩
  let equal : α → Bool := fun x => le a x && le x a
  have hequal : ∀ x y, equal x → equal y → le x y := by
    intro x y hx hy
    simp only [equal, Bool.and_eq_true] at hx hy
    exact htrans _ _ _ hx.2 hy.1
  have hrefl : le a a := by simpa using htotal a a
  have hpair : [a, b].Sublist (xs.filter equal) := by
    rw [← filter_mergeSort_eq htrans htotal hequal]
    simpa [equal, hle, hge, hrefl] using hab.filter equal
  exact List.pairwise_iff_forall_sublist.1 hxs (hpair.trans List.filter_sublist)

end Sorting

/-! ## §2 Candidates -/

theorem LineItem.isControlled_iff {item : LineItem} {good : Option Good} :
    item.isControlled good = true ↔
      item.controlled = some true ∨
        item.controlled = none ∧ ∃ g, good = some g ∧ g.controlled = some true := by
  unfold LineItem.isControlled
  cases item.controlled with
  | none => cases good <;> simp
  | some controlled => simp

namespace Catalog

/-- A line of a good that is controlled and described by free text only. Where the line does not
know whether it is controlled, its good has to be. -/
structure Awaits (catalog : Catalog) (item : LineItem) : Prop where
  ofGood : ∃ id, item.product = .good id
  freeText : ∃ text, item.classification = some (.legacy text)
  controlled : item.controlled = some true ∨
    item.controlled = none ∧ ∃ good, catalog.goodOf item = some good ∧ good.controlled = some true

variable {catalog : Catalog} {item : LineItem}

/-- The lines that await a pair are the candidates, under their own text and the name of their
good. -/
theorem candidate?_eq_some_iff {candidate : Candidate} :
    catalog.candidate? item = some candidate ↔
      catalog.Awaits item ∧ candidate.lineItem = item.id ∧ candidate.caseId = item.caseId ∧
        item.classification = some (.legacy candidate.reportSummary) ∧
        candidate.productName = ((catalog.goodOf item).map Good.name).getD "" := by
  obtain ⟨lineItem, caseId, reportSummary, productName⟩ := candidate
  simp only [Catalog.candidate?]
  constructor
  · intro h
    split at h
    · rename_i id _ hproduct htext
      split at h
      · rename_i hunpopulated
        cases h
        refine ⟨⟨⟨id, hproduct⟩, ⟨_, htext⟩, LineItem.isControlled_iff.1 ?_⟩, rfl, rfl, htext, rfl⟩
        exact (Bool.and_eq_true_iff.1 hunpopulated).1
      · cases h
    · cases h
  · rintro ⟨⟨⟨id, hproduct⟩, -, hcontrolled⟩, rfl, rfl, htext, rfl⟩
    have hunpopulated : item.isUnpopulated (catalog.goodOf item) = true := by
      rw [LineItem.isUnpopulated, LineItem.isControlled_iff.2 hcontrolled, htext]
      rfl
    simp only [hproduct, htext, hunpopulated, if_true]

/-- A line that awaits a pair is a candidate. -/
theorem exists_candidate (h : catalog.Awaits item) :
    ∃ candidate, catalog.candidate? item = some candidate := by
  obtain ⟨text, htext⟩ := h.freeText
  let name := ((catalog.goodOf item).map Good.name).getD ""
  exact ⟨⟨item.id, item.caseId, text, name⟩, candidate?_eq_some_iff.2 ⟨h, rfl, rfl, htext, rfl⟩⟩

theorem mem_candidates_iff {candidate : Candidate} :
    candidate ∈ catalog.candidates ↔
      ∃ item ∈ catalog.lineItems, catalog.candidate? item = some candidate := by
  rw [candidates, List.mem_mergeSort, List.mem_filterMap]

/-- The candidates of a catalog in its own order, each with the position of its line item. -/
def placedInTurn (catalog : Catalog) : List (Nat × Candidate) :=
  catalog.lineItems.zipIdx.filterMap fun (item, place) =>
    (catalog.candidate? item).map (place, ·)

/-- The candidates of a catalog by their texts, each with the position of its line item. -/
def placed (catalog : Catalog) : List (Nat × Candidate) :=
  catalog.placedInTurn.mergeSort fun a b => a.2.reportSummary ≤ b.2.reportSummary

theorem placedInTurn_pairwise (catalog : Catalog) :
    catalog.placedInTurn.Pairwise fun a b => a.1 < b.1 := by
  have hrange : (catalog.lineItems.zipIdx.map Prod.snd).Pairwise (· < ·) := by
    rw [List.zipIdx_map_snd]
    exact List.pairwise_lt_range'
  refine List.Pairwise.filterMap _ ?_ (List.pairwise_map.1 hrange)
  rintro ⟨item, i⟩ ⟨item', j⟩ hlt a ha b hb
  obtain ⟨_, -, rfl⟩ := Option.map_eq_some_iff.1 ha
  obtain ⟨_, -, rfl⟩ := Option.map_eq_some_iff.1 hb
  exact hlt

theorem placed_perm (catalog : Catalog) : catalog.placed.Perm catalog.placedInTurn :=
  List.mergeSort_perm ..

theorem mem_placed_iff {place : Nat} {candidate : Candidate} :
    (place, candidate) ∈ catalog.placed ↔
      ∃ item, catalog.lineItems[place]? = some item ∧
        catalog.candidate? item = some candidate := by
  rw [catalog.placed_perm.mem_iff, placedInTurn, List.mem_filterMap]
  simp [List.mem_zipIdx_iff_getElem?]

theorem nodup_placed (catalog : Catalog) : (catalog.placed.map Prod.fst).Nodup := by
  refine (catalog.placed_perm.map Prod.fst).nodup_iff.2 (List.pairwise_map.2 ?_)
  exact catalog.placedInTurn_pairwise.imp Nat.ne_of_lt

/-- Without their positions these are the candidates. -/
theorem map_snd_placed (catalog : Catalog) : catalog.placed.map Prod.snd = catalog.candidates := by
  have hinTurn : catalog.placedInTurn.map Prod.snd
      = catalog.lineItems.filterMap catalog.candidate? := by
    conv_rhs => rw [← List.zipIdx_map_fst 0 catalog.lineItems, List.filterMap_map]
    simp [placedInTurn, List.map_filterMap, Function.comp_def]
  rw [placed, candidates, ← hinTurn]
  exact List.map_mergeSort fun _ _ _ _ => rfl

/-- In front by its text, and with one text by its position. -/
def Earlier {α : Type} (text : α → String) (a b : Nat × α) : Prop :=
  text a.2 < text b.2 ∨ text a.2 = text b.2 ∧ a.1 < b.1

theorem placed_pairwise (catalog : Catalog) :
    catalog.placed.Pairwise (Earlier Candidate.reportSummary) := by
  refine (pairwise_mergeSort_stable ?_ ?_ catalog.placedInTurn_pairwise).imp ?_
  · simpa using fun a b c => String.le_trans
  · simpa using fun a b => String.le_total _ _
  · intro a b hab
    simp only [decide_eq_true_eq] at hab
    by_cases hlt : a.2.reportSummary < b.2.reportSummary
    · exact .inl hlt
    · have hge := String.not_lt.1 hlt
      exact .inr ⟨String.le_antisymm hab.1 hge, hab.2 hge⟩

end Catalog

namespace Suggestion

variable {catalog : Catalog} {suggester : Suggester} {candidate : Candidate} {row : Row}

/-! ## §3 Suggestions -/

/-- The columns of a suggested pair: name and number of the prefix, both empty where there is
none, then name and number of the subject. -/
def pairColumns (pre : Option Prefix) (subject : Subject) : List String :=
  match pre with
  | some p =>
    [p.name, Text.decimal p.id.value.toNat, subject.name, Text.decimal subject.id.value.toNat]
  | none => ["", "", subject.name, Text.decimal subject.id.value.toNat]

namespace Row

/-- The fields of a row in the four columns of the suggestion. -/
def suggestion (row : Row) : List String := (row.fields.drop 2).take 4

theorem suggestion_of_pair {pre : Option Prefix} {subject : Subject} (hpre : row.pre = pre)
    (hsubject : row.subject = some subject) : row.suggestion = pairColumns pre subject := by
  cases pre <;> simp [suggestion, fields, cells, Cells.fields, preName, subjectName, idText,
    pairColumns, hpre, hsubject]

theorem suggestion_of_none (hpre : row.pre = none) (hsubject : row.subject = none) :
    row.suggestion = ["", "", "", ""] := by
  simp [suggestion, fields, cells, Cells.fields, preName, subjectName, idText, hpre, hsubject]

end Row

theorem decimal_ne_empty (n : Nat) : Text.decimal n ≠ "" := by
  rw [Text.decimal, Ne, String.ofList_eq_empty_iff]
  exact Nat.toDigits_ne_nil

/-- A row suggests what its text was matched with: a subject of the catalog, and a prefix of it
where the text starts with one. The columns hold just these. -/
structure Suggests (catalog : Catalog) (matcher : Matcher) (row : Row) (pre : Option Prefix)
    (subject : Subject) : Prop where
  matched : ∃ normalized, matcher.run row.reportSummary = .matched normalized pre subject
  subject_listed : catalog.subjects.find? subject.id = some subject
  pre_listed : ∀ p, pre = some p → catalog.prefixes.find? p.id = some p
  pre_named : ∀ p, pre = some p → p.name ≠ "" ∧ Text.decimal p.id.value.toNat ≠ ""
  columns : row.suggestion = pairColumns pre subject

/-- A match with the taxonomy of a catalog gives records of the catalog. -/
theorem listed_of_run {remap : Remap} {baseUrl : Option String} {raw n : String}
    {pre : Option Prefix} {subject : Subject}
    (h : (Suggester.ofCatalog catalog remap baseUrl).matcher.run raw = .matched n pre subject) :
    catalog.subjects.find? subject.id = some subject ∧
      ∀ p, pre = some p → catalog.prefixes.find? p.id = some p ∧ p.name ≠ "" := by
  obtain ⟨-, hpre, hsubject⟩ := Matcher.run_eq_matched_iff.1 h
  obtain ⟨⟨earlier, later, hlisted, -⟩, -⟩ := resolve?_eq_some_iff.1 hsubject
  have hmem : subject ∈ catalog.subjects.ascending := by
    change catalog.subjects.ascending = _ at hlisted
    rw [hlisted]
    simp
  refine ⟨Register.find?_of_mem (Register.mem_ascending.1 hmem), ?_⟩
  rintro p rfl
  have hled : LedBy catalog.prefixes.ascending n (some p) := longestPrefix?_eq_iff.1 hpre.symm
  obtain ⟨hlead, hleads⟩ := List.mem_filter.1 (FirstLongest.mem hled)
  exact ⟨Register.find?_of_mem (Register.mem_ascending.1 hlead), (Prefix.leads_iff.1 hleads).1⟩

section Rows

variable {n : String} {pre : Option Prefix} {subject : Subject}

theorem row_of_matched
    (h : suggester.matcher.run candidate.reportSummary = .matched n pre subject) :
    (suggester.row candidate).pre = pre ∧ (suggester.row candidate).subject = some subject := by
  simp [Suggester.row, h]

theorem row_of_unmappable
    (h : suggester.matcher.run candidate.reportSummary = .unmappable n pre) :
    (suggester.row candidate).pre = none ∧ (suggester.row candidate).subject = none := by
  simp [Suggester.row, h]

end Rows

theorem mem_matched_iff {candidates : List Candidate} :
    row ∈ (suggester.report candidates).matched ↔
      ∃ candidate ∈ candidates, suggester.row candidate = row ∧ ∃ n pre subject,
        suggester.matcher.run candidate.reportSummary = .matched n pre subject := by
  simp only [Suggester.report, List.mem_filter, List.mem_map]
  constructor
  · rintro ⟨⟨candidate, hmem, rfl⟩, hsome⟩
    refine ⟨candidate, hmem, rfl, ?_⟩
    cases hrun : suggester.matcher.run candidate.reportSummary with
    | matched n pre subject => exact ⟨n, pre, subject, rfl⟩
    | unmappable n pre => simp [(row_of_unmappable hrun).2] at hsome
  · rintro ⟨candidate, hmem, rfl, n, pre, subject, hrun⟩
    exact ⟨⟨candidate, hmem, rfl⟩, by simp [(row_of_matched hrun).2]⟩

theorem mem_unmatched_iff {candidates : List Candidate} :
    row ∈ (suggester.report candidates).unmatched ↔
      ∃ candidate ∈ candidates, suggester.row candidate = row ∧
        ∃ n pre, suggester.matcher.run candidate.reportSummary = .unmappable n pre := by
  simp only [Suggester.report, List.mem_filter, List.mem_map]
  constructor
  · rintro ⟨⟨candidate, hmem, rfl⟩, hnone⟩
    refine ⟨candidate, hmem, rfl, ?_⟩
    cases hrun : suggester.matcher.run candidate.reportSummary with
    | matched n pre subject => simp [(row_of_matched hrun).2] at hnone
    | unmappable n pre => exact ⟨n, pre, rfl⟩
  · rintro ⟨candidate, hmem, rfl, n, pre, hrun⟩
    exact ⟨⟨candidate, hmem, rfl⟩, by simp [(row_of_unmappable hrun).2]⟩

/-! ## §4 Reports -/

/-- The row keeps a line's identifier, its text and the name of its good. -/
structure Row.About (catalog : Catalog) (item : LineItem) (row : Row) : Prop where
  lineItem : row.lineItem = item.id.text
  reportSummary : item.classification = some (.legacy row.reportSummary)
  productName : row.productName = ((catalog.goodOf item).map Good.name).getD ""

/-- The rows of a report, each with the position of the line item it is about: every line that
awaits a pair has one row, and both parts are in the order of the texts and then of the catalog. -/
structure Covers (catalog : Catalog) (report : Report) (matched unmatched : List (Nat × Row)) :
    Prop where
  matched_rows : matched.map Prod.snd = report.matched
  unmatched_rows : unmatched.map Prod.snd = report.unmatched
  once : ((matched ++ unmatched).map Prod.fst).Nodup
  complete : ∀ place item, catalog.lineItems[place]? = some item → catalog.Awaits item →
    place ∈ (matched ++ unmatched).map Prod.fst
  sound : ∀ place row, (place, row) ∈ matched ++ unmatched →
    ∃ item, catalog.lineItems[place]? = some item ∧ catalog.Awaits item ∧ row.About catalog item
  matched_order : matched.Pairwise (Catalog.Earlier Row.reportSummary)
  unmatched_order : unmatched.Pairwise (Catalog.Earlier Row.reportSummary)

theorem about_row {item : LineItem} (h : catalog.candidate? item = some candidate) :
    catalog.Awaits item ∧ (suggester.row candidate).About catalog item := by
  obtain ⟨hawaits, hid, -, htext, hname⟩ := Catalog.candidate?_eq_some_iff.1 h
  exact ⟨hawaits, congrArg Id.text hid, htext, hname⟩

/-- The rows of the candidates, each with the position of its line item. -/
def placedRows (catalog : Catalog) (suggester : Suggester) : List (Nat × Row) :=
  catalog.placed.map fun entry => (entry.1, suggester.row entry.2)

theorem report_covers (catalog : Catalog) (suggester : Suggester) :
    Covers catalog (suggester.report catalog.candidates)
      ((placedRows catalog suggester).filter fun entry => entry.2.subject.isSome)
      ((placedRows catalog suggester).filter fun entry => entry.2.subject.isNone) := by
  have hrows (p : Row → Bool) : ((placedRows catalog suggester).filter fun e => p e.2).map Prod.snd
      = (catalog.candidates.map suggester.row).filter p := by
    rw [placedRows, ← Catalog.map_snd_placed, List.map_map, List.filter_map, List.filter_map,
      List.map_map]
    rfl
  have hplaces : (placedRows catalog suggester).map Prod.fst = catalog.placed.map Prod.fst := by
    rw [placedRows, List.map_map]
    rfl
  have horder : (placedRows catalog suggester).Pairwise (Catalog.Earlier Row.reportSummary) :=
    List.pairwise_map.2 catalog.placed_pairwise
  have hsplit : ((placedRows catalog suggester).filter (fun entry => entry.2.subject.isSome)
      ++ (placedRows catalog suggester).filter fun entry => entry.2.subject.isNone).Perm
        (placedRows catalog suggester) := by
    simpa using List.filter_append_perm (fun entry : Nat × Row => entry.2.subject.isSome)
      (placedRows catalog suggester)
  refine ⟨hrows fun row => row.subject.isSome, hrows fun row => row.subject.isNone, ?once,
    ?complete, ?sound, horder.filter _, horder.filter _⟩
  case once =>
    rw [(hsplit.map Prod.fst).nodup_iff, hplaces]
    exact catalog.nodup_placed
  case complete =>
    intro place item hitem hawaits
    obtain ⟨candidate, hcandidate⟩ := Catalog.exists_candidate hawaits
    rw [(hsplit.map Prod.fst).mem_iff, hplaces]
    exact List.mem_map_of_mem (Catalog.mem_placed_iff.2 ⟨item, hitem, hcandidate⟩)
  case sound =>
    intro place row hrow
    obtain ⟨⟨_, candidate⟩, hplaced, heq⟩ := List.mem_map.1 (hsplit.mem_iff.1 hrow)
    obtain ⟨rfl, rfl⟩ := Prod.mk.inj heq
    obtain ⟨item, hitem, hcandidate⟩ := Catalog.mem_placed_iff.1 hplaced
    exact ⟨item, hitem, about_row hcandidate⟩

/-- **No line is lost and none is made up.** Every line that awaits a pair has one row in one of
the two reports, and no other line has a row. The rows of both reports keep the order of the
texts, and of the catalog for lines with one text. A row in the first report suggests records of
the catalog that its text was matched with; one in the second suggests nothing. -/
theorem report_accounts_for_lines (catalog : Catalog) (remap : Remap) (baseUrl : Option String) :
    let suggester := Suggester.ofCatalog catalog remap baseUrl
    let report := suggester.report catalog.candidates
    (∃ matched unmatched, Covers catalog report matched unmatched) ∧
      (∀ row ∈ report.matched, ∃ pre subject,
        Suggests catalog suggester.matcher row pre subject) ∧
      ∀ row ∈ report.unmatched, row.suggestion = ["", "", "", ""] ∧
        ∃ n pre, suggester.matcher.run row.reportSummary = .unmappable n pre := by
  intro suggester report
  refine ⟨⟨_, _, report_covers catalog suggester⟩, fun row hrow => ?_, fun row hrow => ?_⟩
  · obtain ⟨candidate, -, rfl, n, pre, subject, hrun⟩ := mem_matched_iff.1 hrow
    obtain ⟨hpre, hsubject⟩ := row_of_matched hrun
    obtain ⟨hlisted, hprelisted⟩ := listed_of_run hrun
    exact ⟨pre, subject, ⟨n, hrun⟩, hlisted, fun p hp => (hprelisted p hp).1,
      fun p hp => ⟨(hprelisted p hp).2, decimal_ne_empty _⟩, Row.suggestion_of_pair hpre hsubject⟩
  · obtain ⟨candidate, -, rfl, n, pre, hrun⟩ := mem_unmatched_iff.1 hrow
    obtain ⟨hpre, hsubject⟩ := row_of_unmappable hrun
    exact ⟨Row.suggestion_of_none hpre hsubject, n, pre, hrun⟩

end Suggestion

end ExportControl
