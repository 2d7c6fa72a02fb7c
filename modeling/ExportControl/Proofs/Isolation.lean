/-
ExportControl.Proofs.Isolation — whether a batch keeps to its case.

Whether a line item is part of a case is told by its identifier, but the line item
is then looked up and saved as the first one of that identifier in the whole
catalog. Identifiers may repeat, so the two can be different line items.

  §1 Cases by themselves — `Seed.Isolates`, `Seed.ChecksOwn`: batches on a case
                           touch, and the checks read, line items of that case only.
  §2 Own lines           — `isolates_of_confinesLines`: this holds where the
                           identifiers of the case stand for its own line items.
  §3 Foreign lines       — `confinesLines_of_isolates`: elsewhere a decision that says
                           nothing is accepted and saved into another case.
  §4 The exact condition — `isolates_iff`; a line of a closed case that is
                           rewritten.
-/
import ExportControl.Proofs.Outcome
import ExportControl.Proofs.Runs
import Mathlib.Data.List.Nodup

namespace ExportControl

/-! ## §1 Cases by themselves -/

/-- The line items of all other cases. -/
def Catalog.linesBesides (catalog : Catalog) (id : CaseId) : List LineItem :=
  catalog.lineItems.filter fun item => item.caseId ≠ id

namespace Seed

/-- A desk whose store has the contents of a seed, after events. -/
def deskAfter (seed : Seed) (directory permissions : Option Store) (events : List Event) : Desk :=
  Desk.run { store := .ofSeed seed, directory, permissions } events

/-- Whatever happened before, an accepted batch on a case leaves the line items of all others. -/
def Isolates (seed : Seed) (id : CaseId) : Prop :=
  ∀ directory permissions events reviewer decisions now after receipt,
    (seed.deskAfter directory permissions events).assess id reviewer decisions now
        = (after, .ok receipt) →
      after.store.catalog.linesBesides id
        = (seed.deskAfter directory permissions events).store.catalog.linesBesides id

/-- Whatever happened before, a decision that passes the checks for a case was read together with
a line item of that case. -/
def ChecksOwn (seed : Seed) (id : CaseId) : Prop :=
  ∀ directory permissions events view decision checked,
    (seed.deskAfter directory permissions events).store.catalog.caseView? id = some view →
    (seed.deskAfter directory permissions events).store.catalog.check view decision = .ok checked →
      checked.item.caseId = id

/-- The line item that an identifier stands for: the first one that has it. -/
def lineItem? (seed : Seed) (line : LineItemId) : Option LineItem :=
  seed.lineItems.find? fun item => item.id = line

/-- The identifiers of the line items of a case stand for line items of that case. -/
def OwnsLines (seed : Seed) (id : CaseId) : Prop :=
  ∀ item ∈ seed.lineItems, item.caseId = id →
    ∀ first, seed.lineItem? item.id = some first → first.caseId = id

/-- A line item points at a good that is not listed. -/
def Misses (seed : Seed) (item : LineItem) : Prop :=
  ∃ good, item.product = .good good ∧ good ∉ seed.goods.map Good.id

/-- The identifiers of the line items of a case stand for line items of that case, or for ones
without their good, which no batch gets past. -/
def ConfinesLines (seed : Seed) (id : CaseId) : Prop :=
  ∀ item ∈ seed.lineItems, item.caseId = id →
    ∀ first, seed.lineItem? item.id = some first → first.caseId = id ∨ seed.Misses first

end Seed

namespace Catalog

variable {catalog before mid after : Catalog} {sitting : Sitting} {checked : Checked}
  {batch : List Checked} {count : Nat} {id : CaseId}

/-! ## §2 Own lines -/

theorem Carried.linesBesides {audited : Bool} {description : Option Classification} {name : String}
    (h : Carried sitting checked before after audited description name)
    (hloaded : before.lineItem? checked.item.id = some checked.item)
    (hown : checked.item.caseId = id) : after.linesBesides id = before.linesBesides id := by
  have hfind : before.lineItems.find? (fun other =>
      other.id = (checked.revised description sitting).id) = some checked.item := hloaded
  obtain ⟨earlier, later, hsplit, -, -, hreplaced⟩ := replaceFirst_split hfind
  have hrevised : (checked.revised description sitting).caseId = id := hown
  rw [Catalog.linesBesides, Catalog.linesBesides, h.saved, hreplaced, hsplit]
  simp [List.filter_append, hown, hrevised]

/-- A batch on line items of one case leaves those of all others. -/
theorem CarriedAll.linesBesides (h : CarriedAll sitting before batch after count)
    (hready : Ready before batch) (hown : ∀ checked ∈ batch, checked.item.caseId = id) :
    after.linesBesides id = before.linesBesides id := by
  induction h with
  | nil catalog => rfl
  | @cons before mid after checked batch audited description name count first rest ih =>
    obtain ⟨hhead, htail⟩ := List.forall_mem_cons.1 hown
    rw [ih (hready.tail first) htail,
      first.linesBesides (hready.loaded checked (by simp)) hhead]

end Catalog

namespace Seed

open Catalog (Steady)

variable {seed : Seed} {catalog : Catalog} {id : CaseId} {view : CaseView} {decision : Decision}
  {checked : Checked}

theorem steady_deskAfter (seed : Seed) (directory permissions : Option Store)
    (events : List Event) :
    Steady (.ofSeed seed) (seed.deskAfter directory permissions events).store.catalog :=
  Desk.steady_run { store := .ofSeed seed, directory, permissions } events

/-- A decision that passes the checks for a case names a line item of that case in the seed; the
line item that it was read with is the one that this identifier stands for there. -/
theorem first_of_check (hsteady : Steady (.ofSeed seed) catalog)
    (hview : catalog.caseView? id = some view)
    (hcheck : catalog.check view decision = .ok checked) :
    id ∈ seed.cases.map CaseRecord.id ∧
      ∃ item ∈ seed.lineItems, item.caseId = id ∧
        ∃ first, seed.lineItem? item.id = some first ∧ first.outline = checked.item.outline := by
  obtain ⟨record, hrecord, rfl⟩ := Option.map_eq_some_iff.1 hview
  constructor
  · have hhas : catalog.cases.has id = true := by rw [Register.has, hrecord]; rfl
    rw [hsteady.cases] at hhas
    exact Register.has_ofList seed.cases id |>.1 hhas
  · obtain ⟨-, -, hread, -⟩ := Catalog.check_eq_ok_iff.1 hcheck
    obtain ⟨hline, hitem⟩ := Catalog.lineOfCase?_eq_some_iff.1 hread
    rw [Catalog.linesOf_congr hsteady.outlines, Catalog.mem_linesOf] at hline
    obtain ⟨item, hmem, hcase, hid⟩ := hline
    obtain ⟨first, hfirst, houtline⟩ := hsteady.lineItem? hitem
    exact ⟨item, hmem, hcase, first, by rw [hid]; exact hfirst, houtline⟩

theorem misses_iff (hsteady : Steady (.ofSeed seed) catalog) {first item : LineItem}
    (houtline : first.outline = item.outline) :
    seed.Misses first ↔ catalog.missingGood? item ≠ none := by
  rw [Misses, LineItem.product_of_outline houtline, Catalog.missingGood?, LineItem.goodId?]
  cases item.product with
  | goodsType description => simp
  | good good =>
    have hhas : catalog.goods.has good = true ↔ good ∈ seed.goods.map Good.id := by
      rw [hsteady.goods]
      exact Register.has_ofList seed.goods good
    constructor
    · rintro ⟨other, heq, hnot⟩
      cases heq
      have hmissing : catalog.goods.has good = false := Bool.eq_false_iff.2 (mt hhas.1 hnot)
      simp [Option.filter, hmissing]
    · intro hmissing
      refine ⟨good, rfl, fun hmem => hmissing ?_⟩
      simp [Option.filter, hhas.2 hmem]

theorem checksOwn_of_ownsLines (h : id ∉ seed.cases.map CaseRecord.id ∨ seed.OwnsLines id) :
    seed.ChecksOwn id := by
  intro directory permissions events view decision checked hview hcheck
  have hsteady := seed.steady_deskAfter directory permissions events
  obtain ⟨hcase, item, hmem, hitem, first, hfirst, houtline⟩ := first_of_check hsteady hview hcheck
  have howns : seed.OwnsLines id := h.resolve_left (not_not_intro hcase)
  rw [← LineItem.caseId_of_outline houtline]
  exact howns item hmem hitem first hfirst

theorem isolates_of_confinesLines
    (h : id ∉ seed.cases.map CaseRecord.id ∨ seed.ConfinesLines id) : seed.Isolates id := by
  intro directory permissions events reviewer decisions now after receipt haccepted
  have hsteady := seed.steady_deskAfter directory permissions events
  generalize seed.deskAfter directory permissions events = desk at hsteady haccepted ⊢
  obtain ⟨-, catalog, reviewed, haccess, hreview, rfl⟩ := Desk.assess_eq_ok_iff.1 haccepted
  obtain ⟨-, rfl⟩ := Desk.access_eq_ok_iff.1 haccess
  obtain ⟨view, batch, count, hview, -, hnodup, hchecks, happly, -⟩ :=
    Catalog.review_eq_ok_iff.1 hreview
  have hready := Catalog.Ready.of_checks hnodup hchecks
  have hgoods := Catalog.applyAll_spec { view, reviewer, now } hready
  rw [happly] at hgoods
  refine (Catalog.carriedAll_of_applyAll happly).linesBesides hready fun checked hchecked => ?_
  obtain ⟨decision, -, hcheck⟩ := Catalog.exists_check_of_mem hchecks hchecked
  obtain ⟨hcase, item, hmem, hitem, first, hfirst, houtline⟩ := first_of_check hsteady hview hcheck
  have hconfines : seed.ConfinesLines id := h.resolve_left (not_not_intro hcase)
  rcases hconfines item hmem hitem first hfirst with hown | hmisses
  · rw [← LineItem.caseId_of_outline houtline, hown]
  · have hmissing := (misses_iff hsteady houtline).1 hmisses
    exact absurd (List.findSome?_eq_none_iff.1 hgoods checked hchecked) hmissing

end Seed

/-! ## §3 Foreign lines -/

namespace Catalog

variable {catalog before after : Catalog} {id : CaseId} {view : CaseView} {line : LineItemId}

/-- A decision that says nothing passes wherever the line item can be read. -/
theorem check_blank {item : LineItem} (h : catalog.lineOfCase? view line = some item) :
    catalog.check view (.blank line)
      = .ok { decision := .blank line, item, regimes := [], plan := .unclassified } := by
  have hplan : catalog.plan (.blank line) = .ok .unclassified := rfl
  refine check_eq_ok_iff.2 ⟨faults_eq_nil_iff.2 ⟨⟨item, h⟩, ?_, ?_, .unclassified, hplan, ?_⟩,
    rfl, h, hplan, rfl⟩
  · intro rating hrating
    cases hrating
  · intro regime hregime
    cases hregime
  · intro hcontrolled
    cases hcontrolled

/-- A decision on a product that is not controlled can be carried out where its good is. -/
theorem applyLine_of_not_controlled (sitting : Sitting) (checked : Checked)
    (hcontrolled : checked.decision.isControlled = false)
    (hgood : catalog.missingGood? checked.item = none) :
    ∃ after audited, catalog.applyLine sitting checked = .ok (after, audited) := by
  have hclassify : catalog.classify checked = .ok (catalog, none) := by
    rw [classify, hcontrolled]
    rfl
  have hspec := applyLine_spec catalog sitting checked
  cases happly : catalog.applyLine sitting checked with
  | ok done => exact ⟨done.1, done.2, rfl⟩
  | error e =>
    rw [happly] at hspec
    rcases hspec with ⟨x, hx, -⟩ | ⟨good, hmissing, -⟩
    · rw [hclassify] at hx
      cases hx
    · rw [hgood] at hmissing
      cases hmissing

theorem find?_filter_of_find? {α : Type} {p q : α → Bool} {xs : List α} {a : α}
    (h : xs.find? p = some a) (hq : q a = true) : (xs.filter q).find? p = some a := by
  rw [List.find?_filter]
  obtain ⟨hp, earlier, later, rfl, hearlier⟩ := List.find?_eq_some_iff_append.1 h
  refine List.find?_eq_some_iff_append.2 ⟨by simp [hp, hq], earlier, later, rfl, fun x hx => ?_⟩
  simp [hearlier x hx]

/-- Line items of other cases that stay are the same under each identifier. -/
theorem lineItem?_of_linesBesides {item old : LineItem}
    (hsame : after.linesBesides id = before.linesBesides id)
    (hitem : after.lineItem? line = some item) (hold : before.lineItem? line = some old)
    (hcase : item.caseId ≠ id) (hcase' : old.caseId ≠ id) : item = old := by
  have hafter : (after.linesBesides id).find? (fun other => other.id = line) = some item :=
    find?_filter_of_find? hitem (by simpa using hcase)
  have hbefore : (before.linesBesides id).find? (fun other => other.id = line) = some old :=
    find?_filter_of_find? hold (by simpa using hcase')
  rw [hsame, hbefore] at hafter
  exact (Option.some.inj hafter).symm

/-- On an open case a decision that says nothing is accepted for every identifier of the case whose
line item does not lack its good, and it leaves its time there. -/
theorem review_blank {item : LineItem} (hview : catalog.caseView? id = some view)
    (hopen : view.status.isTerminal = false) (hline : catalog.lineOfCase? view line = some item)
    (hgood : catalog.missingGood? item = none) (reviewer : ReviewerId) (now : Instant) :
    ∃ after receipt saved, catalog.review id reviewer [.blank line] now = .ok (after, receipt) ∧
      after.lineItem? line = some saved ∧ saved.caseId = item.caseId ∧
      saved.assessedAt = some now := by
  let checked : Checked := { decision := .blank line, item, regimes := [], plan := .unclassified }
  let sitting : Sitting := { view, reviewer, now }
  obtain ⟨after, audited, happly⟩ :=
    applyLine_of_not_controlled sitting checked rfl hgood
  have hspec := applyLine_spec catalog sitting checked
  rw [happly] at hspec
  obtain ⟨description, name, hcarried⟩ := hspec
  have hall : applyAll sitting catalog [checked] = .ok (after, 0 + audited.toNat) :=
    applyAll_cons_eq_ok_iff.2 ⟨after, audited, 0, happly, rfl, rfl⟩
  have hid : item.id = line := id_of_lineItem? (lineOfCase?_eq_some_iff.1 hline).2
  refine ⟨after, _, checked.revised description sitting,
    review_eq_ok_iff.2 ⟨view, [checked], _, hview, hopen, by simp, ?_, hall, rfl⟩, ?_, rfl, rfl⟩
  · rw [List.map_cons, List.map_nil]
    exact congrArg (fun result => [result]) (check_blank hline)
  · rw [hcarried.lineItem?, if_pos hid]

end Catalog

namespace Seed

open Catalog (Steady)

variable {seed : Seed} {id : CaseId}

theorem lineOfCase?_ofSeed {catalog : Catalog} {view : CaseView} {item first : LineItem}
    (hsteady : Steady (.ofSeed seed) catalog) (hview : catalog.caseView? id = some view)
    (hmem : item ∈ seed.lineItems) (hcase : item.caseId = id)
    (hfirst : catalog.lineItem? item.id = some first) :
    catalog.lineOfCase? view item.id = some first := by
  obtain ⟨record, -, rfl⟩ := Option.map_eq_some_iff.1 hview
  refine Catalog.lineOfCase?_eq_some_iff.2 ⟨?_, hfirst⟩
  rw [Catalog.linesOf_congr hsteady.outlines]
  exact (Catalog.mem_linesOf _).2 ⟨item, hmem, hcase, rfl⟩

theorem ownsLines_of_checksOwn (h : seed.ChecksOwn id) (hid : id ∈ seed.cases.map CaseRecord.id) :
    seed.OwnsLines id := by
  intro item hmem hcase first hfirst
  have hhas : (Catalog.ofSeed seed).cases.has id = true := (Register.has_ofList seed.cases id).2 hid
  obtain ⟨record, hrecord⟩ := Option.isSome_iff_exists.1 hhas
  have hview := congrArg (Option.map fun record : CaseRecord =>
    CaseView.mk id record.status ((Catalog.ofSeed seed).linesOf id)) hrecord
  have hline := lineOfCase?_ofSeed (Steady.refl _) hview hmem hcase hfirst
  exact h none none [] _ _ _ hview (Catalog.check_blank hline)

/-- The catalog of a seed with a case moved. -/
def withStatus (seed : Seed) (id : CaseId) (status : CaseStatus) : Catalog :=
  { Catalog.ofSeed seed with cases := (Register.ofList seed.cases).put { id, status } }

/-- A desk at which a case of the seed was moved first. -/
theorem deskAfter_setStoreStatus (permissions : Option Store) (status : CaseStatus)
    (hid : id ∈ seed.cases.map CaseRecord.id) :
    seed.deskAfter none permissions [.setStoreStatus id status]
      = { store := .mk (seed.withStatus id status) false
          directory := none
          permissions } := by
  have hhas : (Catalog.ofSeed seed).cases.has id = true := (Register.has_ofList seed.cases id).2 hid
  have hset : (Catalog.ofSeed seed).setCaseStatus id status = .ok (seed.withStatus id status) := by
    rw [Catalog.setCaseStatus, if_pos hhas]
    rfl
  have haccess : (Store.ofSeed seed).access = .ok (.ofSeed seed) := rfl
  show Desk.mk ((Store.ofSeed seed).setCaseStatus id status).1 none permissions = _
  rw [Store.setCaseStatus, haccess]
  simp only [hset]
  rfl

/-- A store that lets one reviewer in. -/
def permitting (reviewer : ReviewerId) : Store :=
  .ofSeed { Seed.empty with reviewers := [reviewer] }

theorem mayReview_permitting (store : Store) (directory : Option Store) (reviewer : ReviewerId) :
    Desk.mayReview { store, directory, permissions := some (permitting reviewer) } reviewer
      = .ok true := by
  simp [Desk.mayReview, Desk.permissionStore, permitting, Store.ofSeed, Store.access, Except.map,
    Catalog.mayReview, Catalog.ofSeed]

theorem exists_ne_some (t : Option Instant) : ∃ now : Instant, t ≠ some now := by
  let early : Instant := { year := 2024, month := 5, day := 1, second := 0, nano := 0 }
  by_cases h : t = some early
  · refine ⟨{ early with second := 1 }, ?_⟩
    rw [h]
    decide
  · exact ⟨early, h⟩

/-- Once the case is open, a decision that says nothing rewrites the line item that an identifier
of the case stands for. -/
theorem confinesLines_of_isolates (h : seed.Isolates id) (hid : id ∈ seed.cases.map CaseRecord.id) :
    seed.ConfinesLines id := by
  intro item hmem hcase first hfirst
  by_cases hown : first.caseId = id
  · exact .inl hown
  -- The case may be closed in the seed, so it is opened first; a time that the line item does not
  -- hold yet makes the decision show.
  let reviewer : ReviewerId := ⟨"officer"⟩
  let desk : Desk :=
    { store := ⟨seed.withStatus id .submitted, false⟩
      directory := none
      permissions := some (permitting reviewer) }
  have hdesk : seed.deskAfter none (some (permitting reviewer)) [.setStoreStatus id .submitted]
      = desk := deskAfter_setStoreStatus _ _ hid
  have hsteady : Steady (.ofSeed seed) (seed.withStatus id .submitted) := by
    have hrun := seed.steady_deskAfter none (some (permitting reviewer))
      [.setStoreStatus id .submitted]
    rwa [hdesk] at hrun
  refine .inr ((misses_iff hsteady rfl).2 fun hgood => hown ?_)
  have hkey : Keyed.key (CaseRecord.mk id .submitted) = id := rfl
  have hview : (seed.withStatus id .submitted).caseView? id
      = some
          { id, status := .submitted, lineItems := (seed.withStatus id .submitted).linesOf id } := by
    rw [Catalog.caseView?, withStatus, Register.find?_put, if_pos hkey]
    rfl
  have hline := lineOfCase?_ofSeed hsteady hview hmem hcase hfirst
  obtain ⟨now, hnow⟩ := exists_ne_some first.assessedAt
  obtain ⟨after, receipt, saved, hreview, hsaved, hsavedCase, htime⟩ :=
    Catalog.review_blank hview rfl hline hgood reviewer now
  have haccepted : desk.assess id reviewer [.blank item.id] now
      = (desk.withCatalog after, .ok receipt) :=
    Desk.assess_eq_ok_iff.2 ⟨mayReview_permitting _ _ _, _, after, rfl, hreview, rfl⟩
  have hbesides := h none (some (permitting reviewer)) [.setStoreStatus id .submitted] reviewer
    [.blank item.id] now (desk.withCatalog after) receipt
  rw [hdesk] at hbesides
  have hsame : saved = first :=
    Catalog.lineItem?_of_linesBesides (hbesides haccepted) hsaved hfirst (by rwa [hsavedCase]) hown
  rw [hsame] at htime
  exact absurd htime hnow

/-! ## §4 The exact condition -/

/-- **Batches keep to their case** exactly where its identifiers stand for its own line items: a
batch on a case leaves all others alone if this holds, up to line items without their good, and
the checks read line items of the case if this holds without exception. -/
theorem isolates_iff (seed : Seed) (id : CaseId) :
    (seed.Isolates id ↔ id ∉ seed.cases.map CaseRecord.id ∨ seed.ConfinesLines id) ∧
      (seed.ChecksOwn id ↔ id ∉ seed.cases.map CaseRecord.id ∨ seed.OwnsLines id) := by
  by_cases hid : id ∈ seed.cases.map CaseRecord.id
  · exact ⟨⟨fun h => .inr (confinesLines_of_isolates h hid), isolates_of_confinesLines⟩,
      ⟨fun h => .inr (ownsLines_of_checksOwn h hid), checksOwn_of_ownsLines⟩⟩
  · exact ⟨⟨fun _ => .inl hid, isolates_of_confinesLines⟩,
      ⟨fun _ => .inl hid, checksOwn_of_ownsLines⟩⟩

/-- Where no identifier repeats, every case owns its line items. -/
theorem ownsLines_of_nodup (h : (seed.lineItems.map LineItem.id).Nodup) (id : CaseId) :
    seed.OwnsLines id := by
  intro item hmem hcase first hfirst
  have hid : first.id = item.id := by simpa using List.find?_some hfirst
  have hsame : first = item :=
    List.inj_on_of_nodup_map h (List.mem_of_find?_eq_some hfirst) hmem hid
  rw [hsame, hcase]

/-- A closed and an open case that list a product under the same identifier. -/
def sharedLine : Seed :=
  { empty with
    cases := [⟨⟨"case-1"⟩, .closed⟩, ⟨⟨"case-2"⟩, .submitted⟩]
    lineItems :=
      [.unassessed ⟨"line-1"⟩ ⟨"case-1"⟩ (.goodsType "Scopes"),
       .unassessed ⟨"line-1"⟩ ⟨"case-2"⟩ (.goodsType "Scopes")]
    reviewers := [⟨"officer"⟩] }

/-- A batch on the open case rewrites the line item of the closed one. -/
theorem closed_line_is_rewritten :
    (sharedLine.deskAfter none none []).store.catalog.linesBesides ⟨"case-2"⟩
        = [.unassessed ⟨"line-1"⟩ ⟨"case-1"⟩ (.goodsType "Scopes")] ∧
      ((sharedLine.deskAfter none none []).assess ⟨"case-2"⟩ ⟨"officer"⟩ [.blank ⟨"line-1"⟩]
          ⟨2024, 5, 1, 36000, 0⟩).2 = .ok ⟨⟨"case-2"⟩, 1, 0⟩ ∧
      (((sharedLine.deskAfter none none []).assess ⟨"case-2"⟩ ⟨"officer"⟩ [.blank ⟨"line-1"⟩]
          ⟨2024, 5, 1, 36000, 0⟩).1.store.catalog.linesBesides ⟨"case-2"⟩).map LineItem.assessedBy
        = [some ⟨"officer"⟩] ∧
      ¬ sharedLine.Isolates ⟨"case-2"⟩ := by
  refine ⟨rfl, rfl, rfl, fun h => ?_⟩
  have hsame := h none none [] ⟨"officer"⟩ [.blank ⟨"line-1"⟩] ⟨2024, 5, 1, 36000, 0⟩ _
    ⟨⟨"case-2"⟩, 1, 0⟩ rfl
  have hreviewers := congrArg (List.map LineItem.assessedBy) hsame
  have hclosed : [some (Id.mk "officer" : ReviewerId)] = [none] := hreviewers
  cases hclosed

end Seed

end ExportControl
