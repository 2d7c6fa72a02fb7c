/-
ExportControl.Proofs.Interchange — batches in either order.

Two batches on different line items do not get in each other's way once their pairs
are linked. What they may share are goods, and there the order shows: the last
review says what a good is known as, and the first one of an unverified good
decides on the order of its entries. Nothing else can tell which came first.

  §1 Goods    — `Good.Alike`: goods that the order of reviews cannot tell apart;
                `foldl_reviewed_perm`.
  §2 Lines    — `foldl_replaceFirst_comm`: saved line items keep out of each other's
                way.
  §3 Outcomes — `outcome_of_review`: a batch comes out as it would have without the
                other one before it.
  §4 Catalogs — `Agrees`; `agrees_of_effects`: the effects of two batches in either
                order.
  §5 Desks    — `batches_commute`.
-/
import ExportControl.Proofs.Composition
import ExportControl.Proofs.Effects
import ExportControl.Proofs.SharedGoods
import Mathlib.Data.Finset.Lattice.Lemmas

namespace ExportControl

/-! ## §1 Goods -/

namespace Good

variable {good other third : Good} {item : LineItem} {items : List LineItem}

/-- Goods that differ at most in what they are known as and in the order of their entries. -/
structure Alike (good other : Good) : Prop where
  id : good.id = other.id
  name : good.name = other.name
  organisation : good.organisation = other.organisation
  status : good.status = other.status
  notYetVerified : good.flags.notYetVerified = other.flags.notYetVerified
  entries : good.controlListEntries.toFinset = other.controlListEntries.toFinset

theorem Alike.refl (good : Good) : Alike good good :=
  ⟨rfl, rfl, rfl, rfl, rfl, rfl⟩

theorem Alike.trans (h : Alike good other) (h' : Alike other third) : Alike good third :=
  ⟨h.id.trans h'.id, h.name.trans h'.name, h.organisation.trans h'.organisation,
    h.status.trans h'.status, h.notYetVerified.trans h'.notYetVerified,
    h.entries.trans h'.entries⟩

theorem organisation_reviewed (good : Good) (item : LineItem) :
    (good.reviewed item).organisation = good.organisation := by
  simp only [reviewed, mergeEntries]
  split <;> rfl

/-- A review takes off the tag of goods that are not yet verified, unless the good is verified. -/
theorem notYetVerified_reviewed (good : Good) (item : LineItem) :
    (good.reviewed item).flags.notYetVerified
      = (good.isVerified && good.flags.notYetVerified) := by
  cases hverified : good.isVerified <;> simp [reviewed, hverified, Flags.set]

theorem toFinset_reviewed (good : Good) (item : LineItem) :
    (good.reviewed item).controlListEntries.toFinset
      = good.baseline.toFinset ∪ item.controlListEntries.toFinset := by
  ext entry
  simp [mem_controlListEntries_reviewed]

theorem isVerified_reviewed (good : Good) (item : LineItem) :
    (good.reviewed item).isVerified = true :=
  decide_eq_true (status_reviewed good item)

theorem Alike.isVerified (h : Alike good other) : good.isVerified = other.isVerified := by
  rw [Good.isVerified, Good.isVerified, h.status]

theorem Alike.baseline (h : Alike good other) :
    good.baseline.toFinset = other.baseline.toFinset := by
  rw [Good.baseline, Good.baseline, h.isVerified]
  split
  · exact h.entries
  · rfl

/-- Reviews cannot tell such goods apart. -/
theorem Alike.reviewed (h : Alike good other) (item : LineItem) :
    Alike (good.reviewed item) (other.reviewed item) where
  id := by rw [id_reviewed, id_reviewed, h.id]
  name := by rw [name_reviewed, name_reviewed, h.name]
  organisation := by rw [organisation_reviewed, organisation_reviewed, h.organisation]
  status := by rw [status_reviewed, status_reviewed]
  notYetVerified := by
    rw [notYetVerified_reviewed, notYetVerified_reviewed, h.isVerified, h.notYetVerified]
  entries := by rw [toFinset_reviewed, toFinset_reviewed, h.baseline]

/-- Two reviews commute. -/
theorem alike_reviewed_reviewed (good : Good) (first second : LineItem) :
    Alike ((good.reviewed first).reviewed second) ((good.reviewed second).reviewed first) where
  id := by simp only [id_reviewed]
  name := by simp only [name_reviewed]
  organisation := by simp only [organisation_reviewed]
  status := by simp only [status_reviewed]
  notYetVerified := by simp only [notYetVerified_reviewed, isVerified_reviewed, Bool.true_and]
  entries := by
    rw [toFinset_reviewed, toFinset_reviewed, baseline_of_verified (status_reviewed good first),
      baseline_of_verified (status_reviewed good second), toFinset_reviewed, toFinset_reviewed,
      Finset.union_right_comm]

theorem Alike.foldl_reviewed (h : Alike good other) (items : List LineItem) :
    Alike (items.foldl Good.reviewed good) (items.foldl Good.reviewed other) := by
  induction items generalizing good other with
  | nil => exact h
  | cons item items ih => exact ih (h.reviewed item)

/-- Goods are alike after the same reviews in any order. -/
theorem foldl_reviewed_perm {items others : List LineItem} (h : items.Perm others) (good : Good) :
    Alike (items.foldl Good.reviewed good) (others.foldl Good.reviewed good) := by
  induction h generalizing good with
  | nil => exact .refl good
  | cons item _ ih => exact ih _
  | swap first second items =>
    exact (alike_reviewed_reviewed good second first).foldl_reviewed items
  | trans _ _ ih ih' => exact (ih good).trans (ih' good)

end Good

/-! ## §2 Lines -/

namespace Catalog

variable {item : LineItem} {items others lines : List LineItem}

theorem replaceFirst_comm {item other : LineItem} (hne : item.id ≠ other.id)
    (hitem : item.id ∈ lines.map LineItem.id) :
    replaceFirst other (replaceFirst item lines)
      = replaceFirst item (replaceFirst other lines) := by
  induction lines with
  | nil => cases hitem
  | cons line lines ih =>
    by_cases hline : line.id = item.id
    · simp [replaceFirst, hline, hne]
    · have hrest : item.id ∈ lines.map LineItem.id := by
        rcases List.mem_cons.1 hitem with h | h
        · exact absurd h.symm hline
        · exact h
      by_cases hother : line.id = other.id
      · simp [replaceFirst, hother, Ne.symm hne]
      · simp [replaceFirst, hline, hother, ih hrest]

/-- Saving a line item in place of another one leaves the identifiers. -/
theorem map_id_replaceFirst (hitem : item.id ∈ lines.map LineItem.id) :
    (replaceFirst item lines).map LineItem.id = lines.map LineItem.id := by
  induction lines with
  | nil => cases hitem
  | cons line lines ih =>
    by_cases hline : line.id = item.id
    · simp [replaceFirst, hline]
    · have hrest : item.id ∈ lines.map LineItem.id := by
        rcases List.mem_cons.1 hitem with h | h
        · exact absurd h.symm hline
        · exact h
      simp [replaceFirst, hline, ih hrest]

theorem foldl_replaceFirst_replaceFirst (hne : ∀ other ∈ others, item.id ≠ other.id)
    (hitem : item.id ∈ lines.map LineItem.id)
    (hothers : ∀ other ∈ others, other.id ∈ lines.map LineItem.id) :
    others.foldl (fun lines other => replaceFirst other lines) (replaceFirst item lines)
      = replaceFirst item (others.foldl (fun lines other => replaceFirst other lines) lines) := by
  induction others generalizing lines with
  | nil => rfl
  | cons other others ih =>
    obtain ⟨hne₁, hne₂⟩ := List.forall_mem_cons.1 hne
    obtain ⟨hother, hrest⟩ := List.forall_mem_cons.1 hothers
    rw [List.foldl_cons, List.foldl_cons, replaceFirst_comm hne₁ hitem]
    refine ih hne₂ ?_ ?_
    · rwa [map_id_replaceFirst hother]
    · rwa [map_id_replaceFirst hother]

/-- Line items saved under different identifiers may be saved in either order. -/
theorem foldl_replaceFirst_comm (hne : ∀ item ∈ items, ∀ other ∈ others, item.id ≠ other.id)
    (hitems : ∀ item ∈ items, item.id ∈ lines.map LineItem.id)
    (hothers : ∀ other ∈ others, other.id ∈ lines.map LineItem.id) :
    others.foldl (fun lines other => replaceFirst other lines)
        (items.foldl (fun lines item => replaceFirst item lines) lines)
      = items.foldl (fun lines item => replaceFirst item lines)
          (others.foldl (fun lines other => replaceFirst other lines) lines) := by
  induction items generalizing lines with
  | nil => rfl
  | cons item items ih =>
    obtain ⟨hne₁, hne₂⟩ := List.forall_mem_cons.1 hne
    obtain ⟨hitem, hrest⟩ := List.forall_mem_cons.1 hitems
    rw [List.foldl_cons, List.foldl_cons,
      ← foldl_replaceFirst_replaceFirst hne₁ hitem hothers]
    refine ih hne₂ ?_ ?_
    · rwa [map_id_replaceFirst hitem]
    · rwa [map_id_replaceFirst hitem]

/-! ## §3 Outcomes -/

variable {catalog mid side left right after : Catalog} {view : CaseView} {id other : CaseId}
  {reviewer colleague : ReviewerId} {decisions first second : List Decision} {now later : Instant}
  {receipt one : Receipt}

theorem faults_congr {decision : Decision} (href : mid.reference = catalog.reference)
    (hitem : mid.lineItem? decision.id = catalog.lineItem? decision.id) :
    mid.faults view decision = catalog.faults view decision := by
  have hcheck : mid.check view decision = catalog.check view decision := check_congr href hitem
  cases hc : catalog.check view decision with
  | ok checked =>
    rw [hc] at hcheck
    rw [(check_eq_ok_iff.1 hcheck).1, (check_eq_ok_iff.1 hc).1]
  | error faults =>
    rw [hc] at hcheck
    rw [(check_eq_error_iff.1 hcheck).1, (check_eq_error_iff.1 hc).1]

/-- Why a batch is refused depends on nothing that a batch on other line items changes. -/
theorem refusal?_congr (hframe : Frame catalog mid)
    (hlines : ∀ decision ∈ decisions, mid.lineItem? decision.id = catalog.lineItem? decision.id) :
    mid.refusal? id decisions = catalog.refusal? id decisions := by
  have hmissing : mid.missing? decisions = catalog.missing? decisions := by
    have hgood : mid.missingGood? = catalog.missingGood? := funext hframe.missingGood?
    have hmap : decisions.map (fun d => (mid.lineItem? d.id).bind mid.missingGood?)
        = decisions.map fun d => (catalog.lineItem? d.id).bind catalog.missingGood? :=
      List.map_congr_left fun d hd => by rw [hlines d hd, hgood]
    have hfind := congrArg (List.findSome? fun missing => missing) hmap
    rwa [List.findSome?_map, List.findSome?_map] at hfind
  rw [refusal?, refusal?, hframe.caseView?, hmissing]
  cases catalog.caseView? id with
  | none => rfl
  | some view =>
    have hfaults : ∀ d ∈ decisions, mid.faults view d = catalog.faults view d :=
      fun d hd => faults_congr hframe.reference (hlines d hd)
    have hright : (∀ d ∈ decisions, mid.faults view d = [])
        ↔ ∀ d ∈ decisions, catalog.faults view d = [] :=
      forall₂_congr fun d hd => by rw [hfaults d hd]
    have herrors : decisions.map (fun d => LineErrors.ofFaults (mid.faults view d))
        = decisions.map fun d => .ofFaults (catalog.faults view d) :=
      List.map_congr_left fun d hd => by rw [hfaults d hd]
    simp only [hright, herrors]

/-- Where all pairs are linked, a batch that is not accepted is refused. -/
theorem refusal?_of_error {e : AssessError}
    (hlinks : catalog.summaries.Links (decisions.flatMap Decision.keys))
    (h : catalog.review id reviewer decisions now = .error e) :
    catalog.refusal? id decisions = some e ∧ ∀ x, e ≠ .exhausted x := by
  have hspec := catalog.review_spec id reviewer decisions now
  rw [h] at hspec
  cases e with
  | exhausted x => exact absurd hspec (Nat.not_le.2 hlinks.demand_lt)
  | _ => exact ⟨hspec, fun x hx => by cases hx⟩

theorem refusal?_of_ok (h : catalog.review id reviewer decisions now = .ok (after, receipt)) :
    catalog.refusal? id decisions = none := by
  have hspec := catalog.review_spec id reviewer decisions now
  rw [h] at hspec
  exact hspec.1

/-- The effect of an accepted batch whose pairs are all linked. -/
theorem effect_of_review (hlinks : catalog.summaries.Links (decisions.flatMap Decision.keys))
    (h : catalog.review id reviewer decisions now = .ok (after, receipt)) :
    ∃ view batch count, catalog.caseView? id = some view ∧
      decisions.map (catalog.check view) = batch.map .ok ∧ Ready catalog batch ∧
      Effect { view, reviewer, now } catalog.summaries batch catalog after count ∧
      after.summaries = catalog.summaries ∧
      receipt = { caseId := id, updated := decisions.length, audited := count } := by
  obtain ⟨view, batch, count, hview, -, hnodup, hchecks, happly, rfl⟩ := review_eq_ok_iff.1 h
  have hcarried := carriedAll_of_applyAll happly
  rw [← flatMap_keys_of_checks hchecks, SummaryTable.links_flatMap_iff] at hlinks
  have hsummaries := hcarried.summaries_of_links hlinks
  have hready : Ready catalog batch := .of_checks hnodup hchecks
  have heffect := hcarried.effect hready
  rw [hsummaries] at heffect
  exact ⟨view, batch, count, hview, hchecks, hready, heffect, hsummaries, rfl⟩

/-- A batch has the same effect with and without another one before it. -/
theorem effects_of_reviews
    (hlinks : catalog.summaries.Links (first.flatMap Decision.keys))
    (hlinks' : catalog.summaries.Links (second.flatMap Decision.keys))
    (disjoint : ∀ a ∈ first, ∀ b ∈ second, a.id ≠ b.id)
    (hfirst : catalog.review id reviewer first now = .ok (mid, one))
    (hside : catalog.review other colleague second later = .ok (side, receipt))
    {receipt' : Receipt}
    (hafter : mid.review other colleague second later = .ok (after, receipt')) :
    ∃ view batch count, second.map (catalog.check view) = batch.map .ok ∧ Ready catalog batch ∧
      Effect { view, reviewer := colleague, now := later } catalog.summaries batch catalog side
        count ∧
      Effect { view, reviewer := colleague, now := later } catalog.summaries batch mid after
        count ∧
      after.summaries = catalog.summaries ∧ receipt' = receipt := by
  obtain ⟨_, _, _, -, -, -, hone, hsummaries, -⟩ := effect_of_review hlinks hfirst
  obtain ⟨view, batch, count, hview, hchecks, hready, heffect, -, rfl⟩ :=
    effect_of_review hlinks' hside
  rw [← hsummaries] at hlinks'
  obtain ⟨view', batch', count', hview', hchecks', -, heffect', hsummaries', rfl⟩ :=
    effect_of_review hlinks' hafter
  rw [(Frame.of_review hfirst).caseView?, hview] at hview'
  cases hview'
  rw [map_check_of_review hfirst disjoint, hchecks] at hchecks'
  obtain rfl : batch = batch' := (List.map_inj_right fun _ _ => Except.ok.inj).1 hchecks'
  rw [hsummaries] at heffect' hsummaries'
  have hcount : count' = count := by
    rw [heffect'.counted, heffect.counted, entryOf_congr hone.reference hone.productName]
  subst hcount
  exact ⟨view, batch, count', hchecks, hready, heffect, heffect', hsummaries', rfl⟩

/-- A batch comes out the same with and without an accepted one on other line items before it. -/
theorem outcome_of_review
    (hlinks : catalog.summaries.Links (first.flatMap Decision.keys))
    (hlinks' : catalog.summaries.Links (second.flatMap Decision.keys))
    (disjoint : ∀ a ∈ first, ∀ b ∈ second, a.id ≠ b.id)
    (hfirst : catalog.review id reviewer first now = .ok (mid, one)) :
    (mid.review other colleague second later).map Prod.snd
      = (catalog.review other colleague second later).map Prod.snd := by
  obtain ⟨_, _, _, -, -, -, -, hsummaries, -⟩ := effect_of_review hlinks hfirst
  have hrefusal : mid.refusal? other second = catalog.refusal? other second := by
    refine refusal?_congr (Frame.of_review hfirst) fun b hb => lineItem?_of_review hfirst ?_
    intro hin
    obtain ⟨a, ha, heq⟩ := List.mem_map.1 hin
    exact disjoint a ha b hb heq
  have hlinksMid : mid.summaries.Links (second.flatMap Decision.keys) := by rwa [hsummaries]
  cases hafter : mid.review other colleague second later with
  | error e =>
    have herror := (refusal?_of_error hlinksMid hafter).1
    rw [hrefusal] at herror
    cases hside : catalog.review other colleague second later with
    | error e' =>
      cases herror.symm.trans (refusal?_of_error hlinks' hside).1
      rfl
    | ok done => cases herror.symm.trans (refusal?_of_ok hside)
  | ok done =>
    have hnone := refusal?_of_ok hafter
    rw [hrefusal] at hnone
    cases hside : catalog.review other colleague second later with
    | error e' => cases hnone.symm.trans (refusal?_of_error hlinks' hside).1
    | ok done' =>
      obtain ⟨_, _, _, -, -, -, -, -, heq⟩ :=
        effects_of_reviews hlinks hlinks' disjoint hfirst hside hafter
      exact congrArg Except.ok heq

/-! ## §4 Catalogs -/

/-- Catalogs that differ at most in what goods are known as, in the order of their entries, and in
the order of the records about different line items. -/
structure Agrees (left right : Catalog) : Prop where
  reference : left.reference = right.reference
  lineItems : left.lineItems = right.lineItems
  summaries : left.summaries = right.summaries
  /-- The same records but for their numbers. -/
  trails : ∀ line, (left.auditTrail line).map AuditRecord.toAuditEntry
    = (right.auditTrail line).map AuditRecord.toAuditEntry
  goods : ∀ id, Option.Rel Good.Alike (left.goods.find? id) (right.goods.find? id)

theorem Agrees.refl (catalog : Catalog) : Agrees catalog catalog where
  reference := rfl
  lineItems := rfl
  summaries := rfl
  trails := fun _ => rfl
  goods := fun id => by
    cases catalog.goods.find? id with
    | none => exact .none
    | some good => exact .some (.refl good)

theorem FoldsInto.append {goods reviewed twice : Register Good} (h : FoldsInto items goods reviewed)
    (h' : FoldsInto others reviewed twice) : FoldsInto (items ++ others) goods twice := by
  intro id
  rw [h' id, h id, Option.map_map, List.filter_append]
  congr 1
  funext good
  exact (List.foldl_append ..).symm

theorem FoldsInto.alike {goods reviewed reviewed' : Register Good}
    (h : FoldsInto items goods reviewed) (h' : FoldsInto others goods reviewed')
    (hperm : items.Perm others) (id : GoodId) :
    Option.Rel Good.Alike (reviewed.find? id) (reviewed'.find? id) := by
  rw [h id, h' id]
  cases goods.find? id with
  | none => exact .none
  | some good => exact .some (Good.foldl_reviewed_perm (hperm.filter _) good)

theorem map_toAuditEntry_auditTrail (catalog : Catalog) (line : LineItemId) :
    (catalog.auditTrail line).map AuditRecord.toAuditEntry
      = (catalog.audits.map AuditRecord.toAuditEntry).filter fun entry => entry.target = line := by
  rw [auditTrail, List.filter_map]
  rfl

/-- A batch has nothing to record about line items that it does not name. -/
theorem filter_entryOf_eq_nil {sitting : Sitting} {table : SummaryTable} {batch : List Checked}
    {line : LineItemId} (h : ∀ checked ∈ batch, checked.item.id ≠ line) :
    (batch.filterMap (catalog.entryOf sitting table)).filter (fun entry => entry.target = line)
      = [] := by
  refine List.filter_eq_nil_iff.2 fun entry hentry => ?_
  obtain ⟨checked, hchecked, hentry⟩ := List.mem_filterMap.1 hentry
  simpa [target_of_entryOf hentry] using h checked hchecked

section Square

-- One batch takes `catalog` to `mid`, and the other one takes that to `left`; in the other order
-- they take it to `side` and then to `right`.
variable {sitting next : Sitting} {table : SummaryTable} {batch others : List Checked}
  {m n m' n' : Nat}

theorem Effect.entries_append (h : Effect sitting table batch catalog mid m)
    (h' : Effect next table others mid left n) :
    left.audits.map AuditRecord.toAuditEntry = catalog.audits.map AuditRecord.toAuditEntry
      ++ (batch.filterMap (catalog.entryOf sitting table)
        ++ others.filterMap (catalog.entryOf next table)) := by
  rw [h'.entries, h.entries, entryOf_congr h.reference h.productName, List.append_assoc]

variable (h : Effect sitting table batch catalog mid m) (h' : Effect next table others mid left n)
  (hside : Effect next table others catalog side n')
  (hside' : Effect sitting table batch side right m')

include h h' hside hside'

theorem agrees_of_effects (hleft : left.summaries = table) (hright : right.summaries = table)
    (hbatch : ∀ checked ∈ batch, catalog.lineItem? checked.item.id = some checked.item)
    (hothers : ∀ checked ∈ others, catalog.lineItem? checked.item.id = some checked.item)
    (disjoint : ∀ a ∈ batch, ∀ b ∈ others, a.item.id ≠ b.item.id) : left.Agrees right where
  reference := by
    rw [h'.reference, h.reference, hside'.reference, hside.reference]
  lineItems := by
    have hmem : ∀ {sitting : Sitting} {batch : List Checked},
        (∀ checked ∈ batch, catalog.lineItem? checked.item.id = some checked.item) →
          ∀ item ∈ batch.map (·.outcome sitting table),
            item.id ∈ catalog.lineItems.map LineItem.id := by
      intro sitting batch hloaded item hitem
      obtain ⟨checked, hchecked, rfl⟩ := List.mem_map.1 hitem
      exact List.mem_map.2
        ⟨checked.item, List.mem_of_find?_eq_some (hloaded checked hchecked), rfl⟩
    rw [h'.lines, h.lines, hside'.lines, hside.lines]
    refine foldl_replaceFirst_comm (fun item hitem other hother => ?_) (hmem hbatch) (hmem hothers)
    obtain ⟨a, ha, rfl⟩ := List.mem_map.1 hitem
    obtain ⟨b, hb, rfl⟩ := List.mem_map.1 hother
    exact disjoint a ha b hb
  summaries := hleft.trans hright.symm
  trails := by
    intro line
    rw [map_toAuditEntry_auditTrail, map_toAuditEntry_auditTrail, h.entries_append h',
      hside.entries_append hside', List.filter_append, List.filter_append, List.filter_append,
      List.filter_append]
    by_cases hline : ∃ a ∈ batch, a.item.id = line
    · obtain ⟨a, ha, rfl⟩ := hline
      rw [filter_entryOf_eq_nil fun b hb => (disjoint a ha b hb).symm, List.append_nil,
        List.nil_append]
    · rw [filter_entryOf_eq_nil fun a ha heq => hline ⟨a, ha, heq⟩, List.append_nil,
        List.nil_append]
  goods := (h.goods.append h'.goods).alike (hside.goods.append hside'.goods) List.perm_append_comm

/-- A good that one of the batches leaves alone is the same in either order. -/
theorem find?_goods_of_effects {good : GoodId}
    (hgood : decisionsOn good (batch.map Checked.line) = [] ∨
      decisionsOn good (others.map Checked.line) = []) :
    left.goods.find? good = right.goods.find? good := by
  have hnone : ∀ {sitting : Sitting} {batch : List Checked},
      decisionsOn good (batch.map Checked.line) = [] →
        (batch.map (·.outcome sitting table)).filter (fun item => item.goodId? = some good)
          = [] := by
    intro sitting batch hbatch
    rw [decisionsOn, List.map_eq_nil_iff, List.filter_eq_nil_iff] at hbatch
    refine List.filter_eq_nil_iff.2 fun item hitem => ?_
    obtain ⟨checked, hchecked, rfl⟩ := List.mem_map.1 hitem
    exact hbatch checked.line (List.mem_map_of_mem hchecked)
  rw [(h.goods.append h'.goods) good, (hside.goods.append hside'.goods) good, List.filter_append,
    List.filter_append]
  rcases hgood with hgood | hgood <;> rw [hnone hgood, List.append_nil, List.nil_append]

end Square

end Catalog

/-! ## §5 Desks -/

/-- A batch as it is handed in. -/
structure Submission where
  caseId : CaseId
  reviewer : ReviewerId
  decisions : List Decision
  now : Instant
  deriving DecidableEq, Repr

namespace Desk

/-- Hands in a batch. -/
def submit (desk : Desk) (batch : Submission) : Desk × Except AssessError Receipt :=
  desk.assess batch.caseId batch.reviewer batch.decisions batch.now

/-- The decisions of a batch, each with its line item, if the desk accepts it. -/
def acceptedOf (desk : Desk) (batch : Submission) : List (Decision × LineItem) :=
  desk.acceptedLines [.assess batch.caseId batch.reviewer batch.decisions batch.now]

/-- Desks that differ at most as their catalogs do. -/
structure Agrees (left right : Desk) : Prop where
  directory : left.directory = right.directory
  permissions : left.permissions = right.permissions
  broken : left.store.broken = right.store.broken
  catalog : left.store.catalog.Agrees right.store.catalog

theorem Agrees.refl (desk : Desk) : Agrees desk desk :=
  ⟨rfl, rfl, rfl, .refl _⟩

variable {desk after : Desk} {batch one other : Submission} {receipt : Receipt}

/-- Where all pairs are linked, a refused batch leaves the desk. -/
theorem submit_eq_error {e : AssessError}
    (hlinks : desk.store.catalog.summaries.Links (batch.decisions.flatMap Decision.keys))
    (h : desk.submit batch = (after, .error e)) : after = desk := by
  rw [submit, assess] at h
  split at h
  · cases h
    rfl
  · cases h
    rfl
  · rw [review] at h
    split at h
    · cases h
      rfl
    · rename_i catalog haccess
      obtain ⟨-, rfl⟩ := access_eq_ok_iff.1 haccess
      split at h
      · cases h
      · rename_i x hreview
        exact absurd rfl ((Catalog.refusal?_of_error hlinks hreview).2 x)
      · cases h
        rfl

/-- A batch comes out the same with and without another one before it. -/
theorem outcome_of_submit
    (hone : desk.store.catalog.summaries.Links (one.decisions.flatMap Decision.keys))
    (hother : desk.store.catalog.summaries.Links (other.decisions.flatMap Decision.keys))
    (disjoint : ∀ a ∈ one.decisions, ∀ b ∈ other.decisions, a.id ≠ b.id) :
    ((desk.submit one).1.submit other).2 = (desk.submit other).2 := by
  cases hsubmit : desk.submit one with
  | mk mid outcome =>
    cases outcome with
    | error e => rw [submit_eq_error hone hsubmit]
    | ok receipt =>
      obtain ⟨-, catalog, reviewed, haccess, hreview, rfl⟩ := assess_eq_ok_iff.1 hsubmit
      obtain ⟨-, rfl⟩ := access_eq_ok_iff.1 haccess
      have hmay := mayReview_withCatalog haccess (Catalog.Frame.of_review hreview).reference
        other.reviewer
      cases hpermitted : desk.mayReview other.reviewer with
      | error e => simp only [submit, assess, hmay, hpermitted]
      | ok permitted =>
        rw [hpermitted] at hmay
        cases permitted with
        | false => simp only [submit, assess, hmay, hpermitted]
        | true =>
          simp only [submit]
          rw [outcome_of_mayReview hmay (access_withCatalog haccess),
            outcome_of_mayReview hpermitted haccess,
            Catalog.outcome_of_review hone hother disjoint hreview]

theorem submit_eq_ok (h : desk.submit batch = (after, .ok receipt)) :
    desk.store.catalog.review batch.caseId batch.reviewer batch.decisions batch.now
        = .ok (after.store.catalog, receipt) ∧
      after = desk.withCatalog after.store.catalog := by
  obtain ⟨-, catalog, reviewed, haccess, hreview, rfl⟩ := assess_eq_ok_iff.1 h
  obtain ⟨-, rfl⟩ := access_eq_ok_iff.1 haccess
  exact ⟨hreview, rfl⟩

theorem summaries_of_submit
    (hlinks : desk.store.catalog.summaries.Links (batch.decisions.flatMap Decision.keys)) :
    (desk.submit batch).1.store.catalog.summaries = desk.store.catalog.summaries := by
  cases hsubmit : desk.submit batch with
  | mk after outcome =>
    cases outcome with
    | error e => rw [submit_eq_error hlinks hsubmit]
    | ok receipt =>
      obtain ⟨_, _, _, -, -, -, -, hsummaries, -⟩ :=
        Catalog.effect_of_review hlinks (submit_eq_ok hsubmit).1
      exact hsummaries

/-- A batch that is refused is refused after another one as well, so it might as well not have been
handed in. -/
theorem submit_comm_of_refused {e : AssessError}
    (hone : desk.store.catalog.summaries.Links (one.decisions.flatMap Decision.keys))
    (hother : desk.store.catalog.summaries.Links (other.decisions.flatMap Decision.keys))
    (disjoint : ∀ a ∈ one.decisions, ∀ b ∈ other.decisions, a.id ≠ b.id)
    (hrefused : desk.submit one = (after, .error e)) :
    ((desk.submit one).1.submit other).1 = ((desk.submit other).1.submit one).1 := by
  have houtcome : ((desk.submit other).1.submit one).2 = .error e := by
    rw [outcome_of_submit hother hone fun b hb a ha => (disjoint a ha b hb).symm, hrefused]
  have hlinks : (desk.submit other).1.store.catalog.summaries.Links
      (one.decisions.flatMap Decision.keys) := by rwa [summaries_of_submit hother]
  have hlast : ((desk.submit other).1.submit one).1 = (desk.submit other).1 :=
    submit_eq_error hlinks (Prod.ext rfl houtcome)
  rw [hlast, hrefused, submit_eq_error hone hrefused]

theorem acceptedOf_eq (h : desk.submit batch = (after, .ok receipt)) :
    desk.acceptedOf batch = desk.store.catalog.linesFor batch.decisions := by
  rw [submit] at h
  simp only [acceptedOf, acceptedLines, accepted, h, List.append_nil]

/-- Two accepted batches in either order. -/
theorem agrees_of_submits {mid side left right : Desk} {receipt receipt' again again' : Receipt}
    (hone : desk.store.catalog.summaries.Links (one.decisions.flatMap Decision.keys))
    (hother : desk.store.catalog.summaries.Links (other.decisions.flatMap Decision.keys))
    (disjoint : ∀ a ∈ one.decisions, ∀ b ∈ other.decisions, a.id ≠ b.id)
    (hmid : desk.submit one = (mid, .ok receipt)) (hleft : mid.submit other = (left, .ok again'))
    (hside : desk.submit other = (side, .ok receipt'))
    (hright : side.submit one = (right, .ok again)) :
    left.Agrees right ∧
      ∀ good, decisionsOn good (desk.acceptedOf one) = [] ∨
          decisionsOn good (desk.acceptedOf other) = [] →
        left.store.catalog.goods.find? good = right.store.catalog.goods.find? good := by
  rw [acceptedOf_eq hmid, acceptedOf_eq hside]
  obtain ⟨hmid, heqMid⟩ := submit_eq_ok hmid
  obtain ⟨hside, heqSide⟩ := submit_eq_ok hside
  obtain ⟨hleft, heqLeft⟩ := submit_eq_ok hleft
  obtain ⟨hright, heqRight⟩ := submit_eq_ok hright
  have disjoint' : ∀ b ∈ other.decisions, ∀ a ∈ one.decisions, b.id ≠ a.id :=
    fun b hb a ha => (disjoint a ha b hb).symm
  obtain ⟨_, others, _, hchecks', hready', hothers, hothers', hleftTable, -⟩ :=
    Catalog.effects_of_reviews hone hother disjoint hmid hside hleft
  obtain ⟨_, batch, _, hchecks, hready, hbatch, hbatch', hrightTable, -⟩ :=
    Catalog.effects_of_reviews hother hone disjoint' hside hmid hright
  have hids : ∀ a ∈ batch, ∀ b ∈ others, a.item.id ≠ b.item.id := by
    intro a ha b hb
    obtain ⟨x, hx, hcheck⟩ := Catalog.exists_check_of_mem hchecks ha
    obtain ⟨y, hy, hcheck'⟩ := Catalog.exists_check_of_mem hchecks' hb
    rw [Catalog.id_of_check hcheck, Catalog.id_of_check hcheck']
    exact disjoint x hx y hy
  rw [Catalog.linesFor_of_checks hchecks, Catalog.linesFor_of_checks hchecks']
  have hcatalogs := Catalog.agrees_of_effects hbatch hothers' hothers hbatch' hleftTable
    hrightTable hready.loaded hready'.loaded hids
  refine ⟨⟨?_, ?_, ?_, hcatalogs⟩, fun good hgood =>
    Catalog.find?_goods_of_effects hbatch hothers' hothers hbatch' hgood⟩
  all_goals
    rw [heqLeft, heqRight, heqMid, heqSide]
    rfl

/-- **Independent batches commute.** Two batches on different line items, whose pairs are linked,
may be handed in in either order: each of them is refused for the same reason or accepted with
the same receipt. In the end the desks agree: they have the same line items, cases and linked
pairs, every line item has the same records but for their numbers, and every good has the same
status and the same entries, if not in the same order, and bears the tag of goods that are not
yet verified or does not. A good that only one of the accepted batches reviews is the same. -/
theorem batches_commute (desk : Desk) (one other : Submission)
    (linked : desk.store.catalog.summaries.Links
      ((one.decisions ++ other.decisions).flatMap Decision.keys))
    (disjoint : ∀ a ∈ one.decisions, ∀ b ∈ other.decisions, a.id ≠ b.id) :
    let oneFirst := (desk.submit one).1.submit other
    let otherFirst := (desk.submit other).1.submit one
    oneFirst.2 = (desk.submit other).2 ∧ otherFirst.2 = (desk.submit one).2 ∧
      oneFirst.1.Agrees otherFirst.1 ∧
      ∀ good, decisionsOn good (desk.acceptedOf one) = [] ∨
          decisionsOn good (desk.acceptedOf other) = [] →
        oneFirst.1.store.catalog.goods.find? good
          = otherFirst.1.store.catalog.goods.find? good := by
  intro oneFirst otherFirst
  have hlinks := SummaryTable.links_flatMap_iff.1 linked
  have hone : desk.store.catalog.summaries.Links (one.decisions.flatMap Decision.keys) :=
    SummaryTable.links_flatMap_iff.2 fun d hd => hlinks d (List.mem_append_left _ hd)
  have hother : desk.store.catalog.summaries.Links (other.decisions.flatMap Decision.keys) :=
    SummaryTable.links_flatMap_iff.2 fun d hd => hlinks d (List.mem_append_right _ hd)
  have disjoint' : ∀ b ∈ other.decisions, ∀ a ∈ one.decisions, b.id ≠ a.id :=
    fun b hb a ha => (disjoint a ha b hb).symm
  have hafterOne : oneFirst.2 = (desk.submit other).2 := outcome_of_submit hone hother disjoint
  have hafterOther : otherFirst.2 = (desk.submit one).2 := outcome_of_submit hother hone disjoint'
  refine ⟨hafterOne, hafterOther, ?_⟩
  cases hsubmit : desk.submit one with
  | mk mid outcome =>
    cases outcome with
    | error e =>
      have heq : oneFirst.1 = otherFirst.1 := submit_comm_of_refused hone hother disjoint hsubmit
      rw [heq]
      exact ⟨.refl _, fun _ _ => rfl⟩
    | ok receipt =>
      cases hsubmit' : desk.submit other with
      | mk side outcome' =>
        cases outcome' with
        | error e =>
          have heq : otherFirst.1 = oneFirst.1 :=
            submit_comm_of_refused hother hone disjoint' hsubmit'
          rw [heq]
          exact ⟨.refl _, fun _ _ => rfl⟩
        | ok receipt' =>
          have hleft : mid.submit other = (oneFirst.1, .ok receipt') := by
            have hsame : mid.submit other = oneFirst := by simp only [oneFirst, hsubmit]
            have houtcome : oneFirst.2 = .ok receipt' := by rw [hafterOne, hsubmit']
            rw [hsame, ← houtcome]
          have hright : side.submit one = (otherFirst.1, .ok receipt) := by
            have hsame : side.submit one = otherFirst := by simp only [otherFirst, hsubmit']
            have houtcome : otherFirst.2 = .ok receipt := by rw [hafterOther, hsubmit]
            rw [hsame, ← houtcome]
          exact agrees_of_submits hone hother disjoint hsubmit hleft hsubmit' hright

/-- The desk with two line items of one good, where the pair is linked already. -/
def linkedGood : Desk :=
  sharedGood.withCatalog
    { sharedGood.store.catalog with
      summaries := ⟨[⟨⟨1⟩, some ⟨⟨1⟩, "components for"⟩, ⟨⟨7⟩, "sniper rifles", none⟩⟩]⟩ }

/-- Two batches of one decision each review the same good for the first time. -/
theorem shared_good_commutes :
    let now : Instant := { year := 2024, month := 5, day := 1, second := 36000, nano := 0 }
    let one : Submission := ⟨⟨"case-1"⟩, ⟨"officer"⟩, [rate ⟨"line-1"⟩ "ML2"], now⟩
    let other : Submission := ⟨⟨"case-1"⟩, ⟨"officer"⟩, [rate ⟨"line-2"⟩ "ML1a"], now⟩
    (linkedGood.submit one).2 = .ok { caseId := ⟨"case-1"⟩, updated := 1, audited := 1 } ∧
      ((linkedGood.submit other).1.submit one).2
        = .ok { caseId := ⟨"case-1"⟩, updated := 1, audited := 1 } ∧
      ((linkedGood.submit one).1.submit other).1.Agrees
        ((linkedGood.submit other).1.submit one).1 := by
  intro now one other
  obtain ⟨-, hresult, hagrees, -⟩ :=
    batches_commute linkedGood one other (by decide) (by decide)
  exact ⟨rfl, hresult.trans rfl, hagrees⟩

end Desk

end ExportControl
