/-
ExportControl.Proofs.Reassessment — the same batch once more.

A batch that was accepted is accepted again, and all that it does then is to sign
its line items anew. The second time goes another way than the first: the pairs
are linked, the goods are verified, and no entry is new to them.

  §1 Goods      — `foldl_reviewed_twice`: the same reviews once more leave a good as
                  it is, also where some of them contradict each other.
  §2 Signatures — `LineItem.signed`, `Catalog.signed`: line items under the name of
                  another reviewer, and nothing else.
  §3 Checks     — `check_repeated`: what was right before is right again.
  §4 Batches    — `review_again`: an accepted batch on the catalog that it has left.
  §5 Desks      — `reassessment_is_idempotent`.
-/
import ExportControl.Proofs.Effects
import ExportControl.Proofs.Recording
import ExportControl.Proofs.SharedGoods

namespace ExportControl

/-! ## §1 Goods -/

namespace Good

variable {good : Good} {item other last : LineItem} {items : List LineItem}

/-- A review of the line item leaves the entries of the good as they are. -/
structure Absorbs (good : Good) (item : LineItem) : Prop where
  verified : good.status = .verified
  entries : item.controlListEntries ⊆ good.controlListEntries

theorem absorbs_reviewed (good : Good) (item : LineItem) : (good.reviewed item).Absorbs item :=
  ⟨status_reviewed good item,
    fun _ hentry => (mem_controlListEntries_reviewed good item).2 (.inr hentry)⟩

theorem Absorbs.reviewed (h : good.Absorbs item) (other : LineItem) :
    (good.reviewed other).Absorbs item := by
  refine ⟨status_reviewed good other, fun entry hentry => ?_⟩
  rw [mem_controlListEntries_reviewed, baseline_of_verified h.verified]
  exact .inl (h.entries hentry)

theorem Absorbs.foldl (h : good.Absorbs item) (items : List LineItem) :
    (items.foldl Good.reviewed good).Absorbs item := by
  induction items generalizing good with
  | nil => exact h
  | cons other items ih => exact ih (h.reviewed other)

theorem absorbs_foldl (good : Good) (items : List LineItem) :
    ∀ item ∈ items, (items.foldl Good.reviewed good).Absorbs item := by
  induction items generalizing good with
  | nil => simp
  | cons item items ih =>
    exact List.forall_mem_cons.2 ⟨(absorbs_reviewed good item).foldl items, ih _⟩

/-- All that such a review changes is what the good is known as. -/
theorem reviewed_of_absorbs (h : good.Absorbs item) :
    good.reviewed item = { good with
      controlled := item.controlled
      classification := item.classification
      flags := good.flags.set .wassenaar item.isWassenaar } := by
  have hverified : good.isVerified = true := decide_eq_true h.verified
  have hnew : item.controlListEntries.filter (· ∉ good.controlListEntries) = [] :=
    List.filter_eq_nil_iff.2 fun entry hentry => by simpa using h.entries hentry
  have hentries : item.controlListEntries.foldl addEntry good.controlListEntries
      = good.controlListEntries := by
    rw [foldl_addEntry, hnew, List.eraseDups_nil, List.append_nil]
  simp [Good.reviewed, mergeEntries, hverified, hentries]

/-- Of two such reviews the second one counts. -/
theorem reviewed_reviewed_of_absorbs (h : good.Absorbs item) (h' : good.Absorbs other) :
    (good.reviewed item).reviewed other = good.reviewed other := by
  rw [reviewed_of_absorbs (h'.reviewed item), reviewed_of_absorbs h, reviewed_of_absorbs h']
  rfl

theorem reviewed_twice (good : Good) (item : LineItem) :
    (good.reviewed item).reviewed item = good.reviewed item := by
  rw [reviewed_of_absorbs (absorbs_reviewed good item)]
  rfl

theorem foldl_reviewed_of_absorbs (h : ∀ item ∈ items, good.Absorbs item)
    (hlast : good.Absorbs last) : (items.foldl Good.reviewed good).reviewed last
      = good.reviewed last := by
  induction items generalizing good with
  | nil => rfl
  | cons item items ih =>
    obtain ⟨hitem, hitems⟩ := List.forall_mem_cons.1 h
    rw [List.foldl_cons, ih (fun other hother => (hitems other hother).reviewed item)
      (hlast.reviewed item), reviewed_reviewed_of_absorbs hitem hlast]

/-- The last of the reviews settles what is known of a good, so it does so twice. -/
theorem foldl_reviewed_twice (good : Good) (items : List LineItem) :
    items.foldl Good.reviewed (items.foldl Good.reviewed good)
      = items.foldl Good.reviewed good := by
  rcases List.eq_nil_or_concat items with rfl | ⟨first, last, rfl⟩
  · rfl
  · have habsorbs := absorbs_foldl good (first.concat last)
    rw [List.concat_eq_append] at habsorbs ⊢
    generalize hreviewed : (first ++ [last]).foldl Good.reviewed good = reviewed at habsorbs ⊢
    have hfirst : ∀ item ∈ first, reviewed.Absorbs item :=
      fun item hitem => habsorbs item (List.mem_append_left _ hitem)
    rw [List.foldl_append, List.foldl_cons, List.foldl_nil,
      foldl_reviewed_of_absorbs hfirst (habsorbs last (by simp)), ← hreviewed, List.foldl_append,
      List.foldl_cons, List.foldl_nil, reviewed_twice]

end Good

/-! ## §2 Signatures -/

/-- The line item as another reviewer has assessed it at another time. -/
def LineItem.signed (item : LineItem) (reviewer : ReviewerId) (now : Instant) : LineItem :=
  { item with assessedBy := some reviewer, assessedAt := some now }

namespace Catalog

/-- The line items, with the first one of each listed identifier signed. -/
def signFirsts (reviewer : ReviewerId) (now : Instant) :
    List LineItemId → List LineItem → List LineItem
  | _, [] => []
  | ids, item :: rest =>
    if item.id ∈ ids then
      item.signed reviewer now :: signFirsts reviewer now (ids.filter (· ≠ item.id)) rest
    else item :: signFirsts reviewer now ids rest

/-- The catalog with the listed line items signed. -/
def signed (catalog : Catalog) (reviewer : ReviewerId) (now : Instant) (ids : List LineItemId) :
    Catalog :=
  { catalog with lineItems := signFirsts reviewer now ids catalog.lineItems }

variable {reviewer : ReviewerId} {now : Instant}

@[simp]
theorem signFirsts_nil (lines : List LineItem) : signFirsts reviewer now [] lines = lines := by
  induction lines with
  | nil => rfl
  | cons item lines ih => simp [signFirsts, ih]

theorem signFirsts_cons {id : LineItemId} {ids : List LineItemId} {item : LineItem}
    {lines : List LineItem} (hid : id ∉ ids)
    (hitem : lines.find? (fun other => other.id = id) = some item) :
    signFirsts reviewer now (id :: ids) lines
      = signFirsts reviewer now ids (replaceFirst (item.signed reviewer now) lines) := by
  have hitemId : item.id = id := by simpa using List.find?_some hitem
  have hsignedId : (item.signed reviewer now).id = id := hitemId
  induction lines generalizing ids with
  | nil => cases hitem
  | cons other lines ih =>
    rw [replaceFirst, hsignedId]
    by_cases hother : other.id = id
    · rw [List.find?_cons_of_pos (by simpa using hother)] at hitem
      cases hitem
      have hids : ids.filter (fun x => decide (x ≠ id)) = ids :=
        List.filter_eq_self.2 fun x hx => by
          simpa using fun heq : x = id => hid (heq ▸ hx)
      rw [if_pos hother, signFirsts, if_pos (by simp [hother]), signFirsts,
        if_neg (by rwa [hsignedId]), hother, List.filter_cons_of_neg (by simp), hids]
    · rw [List.find?_cons_of_neg (by simpa using hother)] at hitem
      rw [if_neg hother, signFirsts, signFirsts]
      by_cases hmem : other.id ∈ ids
      · have hrest : id ∉ ids.filter (fun x => decide (x ≠ other.id)) :=
          fun h => hid (List.mem_filter.1 h).1
        rw [if_pos (List.mem_cons_of_mem _ hmem), if_pos hmem,
          List.filter_cons_of_pos (by simpa using Ne.symm hother), ih hrest hitem]
      · rw [if_neg (by simp [hother, hmem]), if_neg hmem, ih hid hitem]

/-- Saving line items that only differ in their signatures signs them where they stand. -/
theorem foldl_replaceFirst_signed {items lines : List LineItem}
    (hdistinct : (items.map LineItem.id).Nodup)
    (hheld : ∀ item ∈ items, lines.find? (fun other => other.id = item.id) = some item) :
    (items.map (·.signed reviewer now)).foldl (fun lines item => replaceFirst item lines) lines
      = signFirsts reviewer now (items.map LineItem.id) lines := by
  induction items generalizing lines with
  | nil => simp
  | cons item items ih =>
    obtain ⟨hnot, hdistinct⟩ := List.nodup_cons.1 hdistinct
    obtain ⟨hitem, hitems⟩ := List.forall_mem_cons.1 hheld
    rw [List.map_cons, List.map_cons, List.foldl_cons, signFirsts_cons hnot hitem]
    refine ih hdistinct fun other hother => ?_
    have hne : (item.signed reviewer now).id ≠ other.id :=
      fun heq => hnot (List.mem_map.2 ⟨other, hother, heq.symm⟩)
    rw [find?_replaceFirst, if_neg hne]
    exact hitems other hother

/-- Signing line items again that bear the signature changes nothing. -/
theorem signFirsts_of_signed {ids : List LineItemId} {lines : List LineItem}
    (h : ∀ id ∈ ids, ∀ item, lines.find? (fun other => other.id = id) = some item →
      item.signed reviewer now = item) : signFirsts reviewer now ids lines = lines := by
  induction lines generalizing ids with
  | nil => rfl
  | cons item lines ih =>
    -- Behind `item` another identifier finds what it finds in the whole list.
    have hbehind : ∀ id ∈ ids, id ≠ item.id → ∀ other,
        lines.find? (fun other => other.id = id) = some other →
          other.signed reviewer now = other := by
      intro id hid hne other hother
      refine h id hid other ?_
      rwa [List.find?_cons_of_neg (by simpa using Ne.symm hne)]
    rw [signFirsts]
    split
    · rename_i hmem
      have hitem := h item.id hmem item (List.find?_cons_of_pos (by simp))
      rw [hitem, ih]
      intro id hid
      obtain ⟨hid, hne⟩ := List.mem_filter.1 hid
      exact hbehind id hid (by simpa using hne)
    · rename_i hmem
      rw [ih]
      intro id hid
      exact hbehind id hid fun heq => hmem (heq ▸ hid)

/-! ## §3 Checks -/

variable {before after : Catalog} {view : CaseView} {decisions : List Decision}
  {batch : List Checked}

/-- A decision that is right stays so, whatever its line item has become. -/
theorem check_repeated {decision : Decision} {checked : Checked} {item : LineItem}
    (h : before.check view decision = .ok checked) (href : after.reference = before.reference)
    (hitem : after.lineItem? decision.id = some item) :
    after.check view decision = .ok { checked with item } := by
  have hratings : after.controlListEntries = before.controlListEntries :=
    congrArg Reference.controlListEntries href
  have hregimes : after.regimeEntries = before.regimeEntries :=
    congrArg Reference.regimeEntries href
  obtain ⟨hfaults, hdecision, hline, hplan, hfound⟩ := check_eq_ok_iff.1 h
  obtain ⟨-, hrated, hnamed, hplanned⟩ := faults_eq_nil_iff.1 hfaults
  have hline' : after.lineOfCase? view decision.id = some item :=
    lineOfCase?_eq_some_iff.2 ⟨(lineOfCase?_eq_some_iff.1 hline).1, hitem⟩
  rw [← plan_congr href] at hplan hplanned
  rw [← hratings] at hrated
  rw [← hregimes] at hnamed hfound
  exact check_eq_ok_iff.2
    ⟨faults_eq_nil_iff.2 ⟨⟨item, hline'⟩, hrated, hnamed, hplanned⟩, hdecision, hline', hplan,
      hfound⟩

theorem checks_repeated {become : Checked → LineItem}
    (hchecks : decisions.map (before.check view) = batch.map .ok)
    (href : after.reference = before.reference)
    (hheld : ∀ checked ∈ batch, after.lineItem? checked.item.id = some (become checked)) :
    decisions.map (after.check view)
      = (batch.map fun checked => { checked with item := become checked }).map .ok := by
  induction decisions generalizing batch with
  | nil =>
    rw [List.map_eq_nil_iff.1 hchecks.symm]
    rfl
  | cons decision decisions ih =>
    cases batch with
    | nil => cases hchecks
    | cons checked batch =>
      obtain ⟨hcheck, hrest⟩ := List.cons.inj hchecks
      obtain ⟨hitem, hitems⟩ := List.forall_mem_cons.1 hheld
      rw [id_of_check hcheck] at hitem
      rw [List.map_cons, List.map_cons, List.map_cons, check_repeated hcheck href hitem,
        ih hrest hitems]

end Catalog

/-! ## §4 Batches -/

/-- The decision once more, on the line item that it has left. -/
def Checked.again (checked : Checked) (sitting : Sitting) (table : SummaryTable) : Checked :=
  { checked with item := checked.outcome sitting table }

/-- All that it leaves this time is another signature. -/
theorem Checked.outcome_again (checked : Checked) (sitting next : Sitting) (table : SummaryTable) :
    (checked.again sitting table).outcome next table
      = (checked.outcome sitting table).signed next.reviewer next.now :=
  rfl

namespace Catalog

variable {before after final : Catalog} {sitting next : Sitting} {batch : List Checked}
  {count more : Nat}

/-- Nothing is left to record. -/
theorem entryOf_again (catalog : Catalog) (sitting next : Sitting) (table : SummaryTable)
    (checked : Checked) : catalog.entryOf next table (checked.again sitting table) = none := by
  rw [entryOf, Option.map_eq_none_iff]
  have hspec := recordOf_spec catalog next (checked.again sitting table)
    ((checked.again sitting table).describe (table.rowsFor (checked.again sitting table).keys))
    (catalog.productName (checked.again sitting table).item)
  split at hspec
  · assumption
  · exact absurd rfl hspec.1

/-- Signatures do not matter to goods. -/
theorem foldsInto_signed_iff {items : List LineItem} {reviewer : ReviewerId} {now : Instant}
    {goods reviewed : Register Good} :
    FoldsInto (items.map (·.signed reviewer now)) goods reviewed ↔
      FoldsInto items goods reviewed := by
  have hfold : ∀ (id : GoodId) (good : Good),
      ((items.map (·.signed reviewer now)).filter fun item => item.goodId? = some id).foldl
          Good.reviewed good
        = (items.filter fun item => item.goodId? = some id).foldl Good.reviewed good := by
    intro id good
    rw [List.filter_map, List.foldl_map]
    rfl
  simp only [FoldsInto, hfold]

theorem FoldsInto.twice {items : List LineItem} {goods reviewed twice : Register Good}
    (h : FoldsInto items goods reviewed) (h' : FoldsInto items reviewed twice) (id : GoodId) :
    twice.find? id = reviewed.find? id := by
  rw [h' id, h id, Option.map_map]
  congr 1
  funext good
  exact Good.foldl_reviewed_twice _ _

theorem eq_of_reference {catalog other : Catalog} (hreference : catalog.reference = other.reference)
    (hgoods : catalog.goods = other.goods) (hlines : catalog.lineItems = other.lineItems)
    (hsummaries : catalog.summaries = other.summaries) (haudits : catalog.audits = other.audits) :
    catalog = other := by
  cases catalog
  cases other
  simp only [reference, Reference.mk.injEq] at hreference
  simp_all

variable {table : SummaryTable}

/-- The effect of a batch that is carried out once more. -/
theorem Effect.again (h : Effect sitting table batch before after count)
    (hdistinct : (batch.map (·.item.id)).Nodup)
    (h' : Effect next table (batch.map (·.again sitting table)) after final more)
    (hframe : Frame after final) (hsummaries : final.summaries = after.summaries) :
    final = after.signed next.reviewer next.now (batch.map (·.item.id)) ∧ more = 0 := by
  have hitems : (batch.map (·.again sitting table)).map (·.outcome next table)
      = (batch.map (·.outcome sitting table)).map (·.signed next.reviewer next.now) := by
    rw [List.map_map, List.map_map]
    exact List.map_congr_left fun checked _ => checked.outcome_again sitting next table
  have hnone : (batch.map (·.again sitting table)).filterMap (after.entryOf next table) = [] := by
    rw [List.filterMap_map, List.filterMap_eq_nil_iff]
    exact fun checked _ => entryOf_again after sitting next table checked
  have hids : (batch.map (·.outcome sitting table)).map LineItem.id = batch.map (·.item.id) := by
    rw [List.map_map]
    rfl
  have hlines := h'.lines
  have hgoods := h'.goods
  have hentries := h'.entries
  have hcounted := h'.counted
  rw [hitems] at hlines hgoods
  rw [hnone] at hentries hcounted
  refine ⟨eq_of_reference h'.reference ?_ ?_ hsummaries ?_, hcounted⟩
  · exact Register.eq_of_find? h'.goodIds (h.goods.twice (foldsInto_signed_iff.1 hgoods))
  · rw [hlines, signed, ← hids]
    refine foldl_replaceFirst_signed (by rwa [hids]) fun item hitem => ?_
    obtain ⟨checked, hchecked, rfl⟩ := List.mem_map.1 hitem
    exact h.held checked hchecked
  · have hlength := congrArg List.length hentries
    simp only [List.length_map, List.append_nil] at hlength
    exact (hframe.audits.eq_of_length hlength.symm).symm

/-- A batch that was carried out can be carried out again: its pairs are linked, and its goods are
there. -/
theorem applyAll_again (h : applyAll sitting before batch = .ok (after, count))
    (hready : Ready before batch)
    (hready' : Ready after (batch.map (·.again sitting after.summaries))) (next : Sitting) :
    applyAll next after (batch.map (·.again sitting after.summaries))
      = .ok (after.signed next.reviewer next.now (batch.map (·.item.id)), 0) := by
  have hcarried := carriedAll_of_applyAll h
  have heffect := hcarried.effect hready
  have hlinks : ∀ checked ∈ batch.map (·.again sitting after.summaries),
      after.summaries.Links checked.keys := by
    intro checked hchecked
    obtain ⟨original, horiginal, rfl⟩ := List.mem_map.1 hchecked
    exact heffect.links original horiginal
  have hmissing : (batch.map (·.again sitting after.summaries)).findSome?
      (fun checked => after.missingGood? checked.item) = none := by
    have hspec := applyAll_spec sitting hready
    rw [h] at hspec
    rw [List.findSome?_map, ← hspec]
    congr 1
    funext checked
    exact (hcarried.frame hready).missingGood? checked.item
  have hspec := applyAll_spec next hready'
  cases happly : applyAll next after (batch.map (·.again sitting after.summaries)) with
  | ok done =>
    obtain ⟨final, more⟩ := done
    have hcarried' := carriedAll_of_applyAll happly
    have hsummaries := hcarried'.summaries_of_links hlinks
    have heffect' := hcarried'.effect hready'
    rw [hsummaries] at heffect'
    obtain ⟨rfl, rfl⟩ := heffect.again hready.distinct heffect' (hcarried'.frame hready') hsummaries
    rfl
  | error e =>
    rw [happly] at hspec
    cases e with
    | exhausted x =>
      have hall := SummaryTable.links_flatMap_iff.2 hlinks
      exact absurd hspec (Nat.not_le.2 hall.demand_lt)
    | _ =>
      obtain ⟨good, hgood, -⟩ := hspec
      rw [hmissing] at hgood
      cases hgood

variable {id : CaseId} {reviewer : ReviewerId} {decisions : List Decision} {now : Instant}
  {receipt : Receipt}

/-- An accepted batch is accepted again, by any reviewer and at any time. -/
theorem review_again (h : before.review id reviewer decisions now = .ok (after, receipt))
    (other : ReviewerId) (later : Instant) :
    after.review id other decisions later =
      .ok (after.signed other later (decisions.map Decision.id),
        { caseId := id, updated := decisions.length, audited := 0 }) := by
  obtain ⟨view, batch, count, hview, hterm, hnodup, hchecks, happly, -⟩ := review_eq_ok_iff.1 h
  have hready : Ready before batch := .of_checks hnodup hchecks
  have hcarried := carriedAll_of_applyAll happly
  have heffect := hcarried.effect hready
  have hchecks' : decisions.map (after.check view)
      = (batch.map (·.again { view, reviewer, now } after.summaries)).map .ok :=
    checks_repeated hchecks heffect.reference heffect.held
  have hagain := applyAll_again happly hready (.of_checks hnodup hchecks')
    { view, reviewer := other, now := later }
  rw [map_item_id_of_checks hchecks] at hagain
  exact review_eq_ok_iff.2
    ⟨view, _, 0, ((hcarried.frame hready).caseView? id).trans hview, hterm, hnodup, hchecks',
      hagain, rfl⟩

/-- The line items of an accepted batch bear the signature of its reviewer. -/
theorem signed_of_review (h : before.review id reviewer decisions now = .ok (after, receipt)) :
    after.signed reviewer now (decisions.map Decision.id) = after := by
  obtain ⟨view, batch, count, -, -, hnodup, hchecks, happly, -⟩ := review_eq_ok_iff.1 h
  have heffect := (carriedAll_of_applyAll happly).effect (.of_checks hnodup hchecks)
  have hlines : signFirsts reviewer now (decisions.map Decision.id) after.lineItems
      = after.lineItems := by
    refine signFirsts_of_signed fun line hline item hitem => ?_
    rw [← map_item_id_of_checks hchecks] at hline
    obtain ⟨checked, hchecked, rfl⟩ := List.mem_map.1 hline
    obtain rfl := Option.some.inj (hitem.symm.trans (heffect.held checked hchecked))
    rfl
  rw [signed, hlines]

end Catalog

/-! ## §5 Desks -/

namespace Desk

/-- **Reassessment is idempotent.** An accepted batch is accepted again, whoever is permitted hands
it in and whenever, and nothing is recorded. All that it does then is to put the second
signature on its line items: goods and their tags, linked pairs, records and all other line
items stay as they are. With the first signature the whole desk does. -/
theorem reassessment_is_idempotent (desk : Desk) {id : CaseId} {reviewer : ReviewerId}
    {decisions : List Decision} {now : Instant} {after : Desk} {receipt : Receipt}
    (h : desk.assess id reviewer decisions now = (after, .ok receipt)) :
    (∀ other later, after.mayReview other = .ok true →
      after.assess id other decisions later =
        (after.withCatalog
            (after.store.catalog.signed other later (decisions.map Decision.id)),
          .ok { caseId := id, updated := decisions.length, audited := 0 })) ∧
    after.assess id reviewer decisions now =
      (after, .ok { caseId := id, updated := decisions.length, audited := 0 }) := by
  obtain ⟨hmay, catalog, reviewed, haccess, hreview, rfl⟩ := assess_eq_ok_iff.1 h
  have hsecond : ∀ other later, (desk.withCatalog reviewed).mayReview other = .ok true →
      (desk.withCatalog reviewed).assess id other decisions later =
        (desk.withCatalog (reviewed.signed other later (decisions.map Decision.id)),
          .ok { caseId := id, updated := decisions.length, audited := 0 }) :=
    fun other later hother => assess_eq_ok_iff.2
      ⟨hother, reviewed, _, access_withCatalog haccess, Catalog.review_again hreview other later,
        rfl⟩
  refine ⟨hsecond, ?_⟩
  have hfirst := hsecond reviewer now
    (by rw [mayReview_withCatalog haccess (Catalog.Frame.of_review hreview).reference, hmay])
  rwa [Catalog.signed_of_review hreview] at hfirst

/-- Two decisions on one good that contradict each other: the first one counts for a moment, and
then the second one does again. -/
theorem shared_good_is_reassessed :
    let batch := [rate ⟨"line-1"⟩ "ML2", .blank ⟨"line-2"⟩]
    let after := (sharedGood.rateAt batch).1
    let later : Instant := { year := 2024, month := 6, day := 3, second := 0, nano := 0 }
    sharedGood.rateAt batch = (after, .ok { caseId := ⟨"case-1"⟩, updated := 2, audited := 1 }) ∧
      after.mayReview ⟨"officer"⟩ = .ok true ∧
      after.rateAt batch = (after, .ok { caseId := ⟨"case-1"⟩, updated := 2, audited := 0 }) ∧
      after.assess ⟨"case-1"⟩ ⟨"officer"⟩ batch later =
        (after.withCatalog
            (after.store.catalog.signed ⟨"officer"⟩ later [⟨"line-1"⟩, ⟨"line-2"⟩]),
          .ok { caseId := ⟨"case-1"⟩, updated := 2, audited := 0 }) := by
  intro batch after later
  have hfirst : sharedGood.rateAt batch
      = (after, .ok { caseId := ⟨"case-1"⟩, updated := 2, audited := 1 }) := rfl
  have hmay : after.mayReview ⟨"officer"⟩ = .ok true := rfl
  obtain ⟨hother, hsame⟩ := reassessment_is_idempotent sharedGood hfirst
  exact ⟨hfirst, hmay, hsame, hother ⟨"officer"⟩ later hmay⟩

end Desk

end ExportControl
