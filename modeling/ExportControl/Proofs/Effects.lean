/-
ExportControl.Proofs.Effects — what a batch makes of a catalog, written out.

Which row a pair is linked to can be told from the table at the end: a row that a
pair has found once is found from then on. With that table a batch determines what
becomes of the line items, the goods and the records, decision by decision.

  §1 Look-ups  — `SummaryTable.rowsFor`: the rows of linked pairs; they outlast
                 later rows.
  §2 Linking   — `classify_eq_ok`: a description is made of the rows that a look-up
                 gives afterwards; `classify_of_links`: linked pairs are left alone.
  §3 Decisions — `Checked.outcome`, `entryOf`: the line item and the record that a
                 decision leaves.
  §4 Batches   — `Effect`; `CarriedAll.effect`: the effect of a batch.
-/
import ExportControl.Proofs.Outcome

namespace ExportControl

/-! ## §1 Look-ups -/

namespace SummaryTable

variable {table other : SummaryTable} {key : PairKey} {keys : List PairKey} {pre : Option Prefix}
  {subject : Subject} {linked : Linked}

/-- All pairs of a list are linked. -/
def Links (table : SummaryTable) (keys : List PairKey) : Prop :=
  ∀ key ∈ keys, table.has key = true

instance (table : SummaryTable) (keys : List PairKey) : Decidable (table.Links keys) :=
  inferInstanceAs (Decidable (∀ key ∈ keys, table.has key = true))

theorem links_flatMap_iff {α : Type} {keysOf : α → List PairKey} {xs : List α} :
    table.Links (xs.flatMap keysOf) ↔ ∀ x ∈ xs, table.Links (keysOf x) := by
  simp only [Links, List.mem_flatMap]
  constructor
  · exact fun h x hx key hkey => h key ⟨x, hx, hkey⟩
  · rintro h key ⟨x, hx, hkey⟩
    exact h x hx key hkey

/-- The rows of linked pairs, in order. -/
def rowsFor (table : SummaryTable) (keys : List PairKey) : List Summary :=
  keys.filterMap fun key => table.find? key.1 key.2

theorem rowsFor_cons {row : Summary} (h : table.find? key.1 key.2 = some row) :
    table.rowsFor (key :: keys) = row :: table.rowsFor keys := by
  rw [rowsFor, List.filterMap_cons, h]
  rfl

/-- The row that a pair has found is found in a longer table as well. -/
theorem find?_of_prefix (hrows : table.rows <+: other.rows) {row : Summary}
    (h : table.find? key.1 key.2 = some row) : other.find? key.1 key.2 = some row := by
  obtain ⟨added, heq⟩ := hrows
  rw [find?] at h
  rw [find?, ← heq, List.find?_append, h, Option.some_or]

theorem Links.of_prefix (h : table.Links keys) (hrows : table.rows <+: other.rows) :
    other.Links keys := by
  intro key hkey
  obtain ⟨row, hrow⟩ := Option.isSome_iff_exists.1 (h key hkey)
  rw [has, find?_of_prefix hrows hrow, Option.isSome_some]

theorem Links.rowsFor_of_prefix (h : table.Links keys) (hrows : table.rows <+: other.rows) :
    other.rowsFor keys = table.rowsFor keys := by
  refine List.filterMap_congr fun key hkey => ?_
  obtain ⟨row, hrow⟩ := Option.isSome_iff_exists.1 (h key hkey)
  rw [hrow, find?_of_prefix hrows hrow]

/-- Once a pair is linked, a look-up gives its row. -/
theorem find?_of_link (h : table.link pre subject = .ok linked) :
    linked.table.find? (pre.map Prefix.id) subject.id = some linked.row := by
  rcases link_cases h with ⟨hfind, htable, -⟩ | ⟨id, hnone, -, hrow, htable, -⟩
  · rw [htable, hfind]
  · rw [find?] at hnone
    rw [htable, find?, List.find?_append, hnone, Option.none_or, hrow]
    exact List.find?_cons_of_pos (by simp [Summary.pair])

theorem lastId_lt (table : SummaryTable) : table.lastId < UInt32.size := by
  have hfold : ∀ (rows : List Summary) (last : Nat), last < UInt32.size →
      rows.foldl (fun last row => max last row.id.value.toNat) last < UInt32.size := by
    intro rows
    induction rows with
    | nil => exact fun last h => h
    | cons row rows ih =>
      exact fun last h => ih _ (Nat.max_lt.2 ⟨h, row.id.value.toNat_lt⟩)
  exact hfold table.rows 0 (by decide)

/-- Linked pairs need no further identifiers. -/
theorem Links.demand_lt (h : table.Links keys) : table.demand keys < UInt32.size := by
  have hunlinked : table.unlinked keys = [] := by
    have hnone : keys.filter (fun key => !table.has key) = [] :=
      List.filter_eq_nil_iff.2 fun key hkey => by simp [h key hkey]
    rw [unlinked, hnone, List.eraseDups_nil]
  rw [demand, hunlinked]
  exact table.lastId_lt

end SummaryTable

/-! ## §2 Linking -/

namespace Catalog

variable {catalog before mid after linked : Catalog} {sitting : Sitting} {checked : Checked}
  {batch : List Checked} {pairs : List Pair} {rows : List Summary}

theorem linkAll_eq_ok (h : catalog.linkAll pairs = .ok (linked, rows)) :
    linked.summaries.Links (pairs.map Pair.key) ∧
      rows = linked.summaries.rowsFor (pairs.map Pair.key) := by
  induction pairs generalizing catalog rows with
  | nil =>
    cases h
    exact ⟨by simp [SummaryTable.Links], rfl⟩
  | cons pair pairs ih =>
    obtain ⟨mid, row, rest, hfirst, hrest, rfl⟩ := linkAll_cons_eq_ok catalog h
    obtain ⟨hlinks, hrows⟩ := ih hrest
    have hfound : linked.summaries.find? pair.key.1 pair.key.2 = some row := by
      obtain ⟨first, hlink, rfl, rfl⟩ := linkSummary_eq_ok catalog hfirst
      exact SummaryTable.find?_of_prefix (rows_of_linkAll _ hrest).1
        (SummaryTable.find?_of_link hlink)
    have hhas : linked.summaries.has pair.key = true := by
      rw [SummaryTable.has, hfound, Option.isSome_some]
    rw [List.map_cons, SummaryTable.rowsFor_cons hfound, ← hrows]
    exact ⟨List.forall_mem_cons.2 ⟨hhas, hlinks⟩, rfl⟩

/-- Linking pairs that are linked already gives their rows and changes nothing. -/
theorem linkAll_of_links (h : catalog.summaries.Links (pairs.map Pair.key)) :
    catalog.linkAll pairs = .ok (catalog, catalog.summaries.rowsFor (pairs.map Pair.key)) := by
  induction pairs with
  | nil => rfl
  | cons pair pairs ih =>
    obtain ⟨hpair, hpairs⟩ := List.forall_mem_cons.1 h
    obtain ⟨row, hrow⟩ := Option.isSome_iff_exists.1 hpair
    have hlink : catalog.linkSummary pair.pre pair.subject = .ok (catalog, row) := by
      have hrow : catalog.summaries.find? (pair.pre.map Prefix.id) pair.subject.id = some row :=
        hrow
      rw [linkSummary, SummaryTable.link, hrow]
      rfl
    rw [linkAll_cons, hlink, List.map_cons, SummaryTable.rowsFor_cons hrow]
    simp only [ih hpairs, Except.map]

theorem classify_eq_ok {description : Option Classification}
    (h : catalog.classify checked = .ok (linked, description)) :
    linked.summaries.Links checked.keys ∧
      description = checked.describe (linked.summaries.rowsFor checked.keys) := by
  rw [classify_eq] at h
  cases hl : catalog.linkAll checked.pairs with
  | error x =>
    rw [hl] at h
    cases h
  | ok result =>
    obtain ⟨linked', rows⟩ := result
    rw [hl] at h
    cases h
    obtain ⟨hlinks, rfl⟩ := linkAll_eq_ok hl
    exact ⟨hlinks, rfl⟩

theorem classify_of_links (h : catalog.summaries.Links checked.keys) :
    catalog.classify checked =
      .ok (catalog, checked.describe (catalog.summaries.rowsFor checked.keys)) := by
  rw [classify_eq, linkAll_of_links h]
  rfl

end Catalog

/-! ## §3 Decisions -/

/-- The line item as a decision leaves it, if its pairs have the rows that they have in a table. -/
def Checked.outcome (checked : Checked) (sitting : Sitting) (table : SummaryTable) : LineItem :=
  checked.revised (checked.describe (table.rowsFor checked.keys)) sitting

theorem Good.name_reviewed (good : Good) (item : LineItem) :
    (good.reviewed item).name = good.name := by
  simp only [Good.reviewed, Good.mergeEntries]
  split <;> rfl

namespace Catalog

variable {catalog before mid after : Catalog} {sitting : Sitting} {checked : Checked}
  {batch : List Checked}

/-- The name of the product of a line item: that of its good, if the catalog has it. -/
def productName (catalog : Catalog) (item : LineItem) : String :=
  match item.product with
  | .good id => ((catalog.goods.find? id).map Good.name).getD ""
  | .goodsType description => description

/-- What a decision leaves to record, if anything, and if its pairs have the rows that they have
in a table. -/
def entryOf (catalog : Catalog) (sitting : Sitting) (table : SummaryTable) (checked : Checked) :
    Option AuditEntry :=
  (catalog.recordOf sitting checked (checked.describe (table.rowsFor checked.keys))
    (catalog.productName checked.item)).map AuditRecord.toAuditEntry

/-- How many records there are already shows in the number of a record only. -/
theorem toAuditEntry_changeRecord (count other : Nat) (name : String) (item : LineItem)
    (old new : Snapshot) :
    (changeRecord count sitting name item old new).map AuditRecord.toAuditEntry =
      (changeRecord other sitting name item old new).map AuditRecord.toAuditEntry := by
  unfold changeRecord
  split <;> rfl

/-- What there is to record depends on the reference data and on the names of the goods. -/
theorem entryOf_congr (href : before.reference = after.reference)
    (hname : before.productName = after.productName) (table : SummaryTable) :
    before.entryOf sitting table = after.entryOf sitting table := by
  have hregimes : before.regimeEntries = after.regimeEntries :=
    congrArg Reference.regimeEntries href
  have hregime : before.regimeName = after.regimeName := by
    funext id
    rw [regimeName, regimeName, hregimes]
  funext checked
  simp only [entryOf, recordOf, oldSnapshot, hregime, hname]
  exact toAuditEntry_changeRecord _ _ _ _ _ _

theorem target_of_entryOf {table : SummaryTable} {entry : AuditEntry}
    (h : catalog.entryOf sitting table checked = some entry) : entry.target = checked.item.id := by
  obtain ⟨record, hrecord, rfl⟩ := Option.map_eq_some_iff.1 h
  rw [recordOf, changeRecord] at hrecord
  split at hrecord
  · cases hrecord
    rfl
  · cases hrecord

theorem reviewGoods_cases {item : LineItem} {goods reviewed : Register Good} {name : String}
    (h : reviewGoods goods item = .ok (reviewed, name)) :
    (item.product = .goodsType name ∧ reviewed = goods) ∨
    ∃ id good, item.product = .good id ∧ goods.find? id = some good ∧
      reviewed = goods.put (good.reviewed item) ∧ name = good.name := by
  rw [reviewGoods] at h
  cases hproduct : item.product with
  | goodsType description =>
    rw [hproduct] at h
    cases h
    exact .inl ⟨rfl, rfl⟩
  | good id =>
    rw [hproduct] at h
    cases hgood : goods.find? id with
    | none =>
      simp only [hgood] at h
      cases h
    | some good =>
      simp only [hgood] at h
      cases h
      exact .inr ⟨id, good, rfl, hgood, rfl, rfl⟩

theorem productName_of_reviewGoods {item : LineItem} {goods : Register Good} {name : String}
    (h : reviewGoods catalog.goods item = .ok (goods, name)) : name = catalog.productName item := by
  rw [productName]
  rcases reviewGoods_cases h with ⟨hproduct, -⟩ | ⟨id, good, hproduct, hgood, -, rfl⟩
  · rw [hproduct]
  · simp [hproduct, hgood]

/-- Reviews neither add nor move goods. -/
theorem keys_of_reviewGoods {item : LineItem} {goods reviewed : Register Good} {name : String}
    (h : reviewGoods goods item = .ok (reviewed, name)) :
    reviewed.entries.map (Keyed.key : Good → GoodId) = goods.entries.map Keyed.key := by
  rcases reviewGoods_cases h with ⟨-, rfl⟩ | ⟨id, good, -, hgood, rfl, -⟩
  · rfl
  · have hkey : Keyed.key (good.reviewed item) = id :=
      (Good.id_reviewed good item).trans (Register.key_of_find? hgood)
    have htaken : goods.find? (Keyed.key (good.reviewed item)) ≠ none := by
      rw [hkey, hgood]
      exact Option.some_ne_none good
    rw [Register.put, dif_neg htaken]
    exact Register.map_key_replaced _ _

section Carried

variable {audited : Bool} {description : Option Classification} {name : String}

/-- The description is told by the table afterwards. -/
theorem Carried.outcome (h : Carried sitting checked before after audited description name) :
    after.summaries.Links checked.keys ∧
      description = checked.describe (after.summaries.rowsFor checked.keys) := by
  obtain ⟨linked, hclassify, hsummaries⟩ := h.described
  rw [← hsummaries]
  exact classify_eq_ok hclassify

theorem Carried.summaries_of_links
    (h : Carried sitting checked before after audited description name)
    (hlinks : before.summaries.Links checked.keys) : after.summaries = before.summaries := by
  obtain ⟨linked, hclassify, hsummaries⟩ := h.described
  rw [classify_of_links hlinks] at hclassify
  cases hclassify
  exact hsummaries.symm

theorem Carried.productName (h : Carried sitting checked before after audited description name) :
    after.productName = before.productName := by
  funext item
  rw [Catalog.productName, Catalog.productName]
  cases item.product with
  | goodsType description => rfl
  | good id =>
    simp only [h.find?_goods, Option.map_map]
    congr 2
    funext good
    simp only [Function.comp_apply]
    split
    · exact Good.name_reviewed _ _
    · rfl

end Carried

/-! ## §4 Batches -/

/-- The effect of a batch whose pairs have their rows in `table`: what its decisions leave takes the
place of their line items, is folded into the goods, and is recorded where it makes a
difference. -/
structure Effect (sitting : Sitting) (table : SummaryTable) (batch : List Checked)
    (before after : Catalog) (count : Nat) : Prop where
  reference : after.reference = before.reference
  links : ∀ checked ∈ batch, table.Links checked.keys
  lines : after.lineItems =
    (batch.map (·.outcome sitting table)).foldl (fun items item => replaceFirst item items)
      before.lineItems
  held : ∀ checked ∈ batch, after.lineItem? checked.item.id = some (checked.outcome sitting table)
  goods : FoldsInto (batch.map (·.outcome sitting table)) before.goods after.goods
  goodIds : after.goods.entries.map (Keyed.key : Good → GoodId) = before.goods.entries.map Keyed.key
  productName : after.productName = before.productName
  entries : after.audits.map AuditRecord.toAuditEntry =
    before.audits.map AuditRecord.toAuditEntry ++ batch.filterMap (before.entryOf sitting table)
  counted : count = (batch.filterMap (before.entryOf sitting table)).length

variable {count : Nat}

theorem CarriedAll.effect (h : CarriedAll sitting before batch after count)
    (hready : Ready before batch) : Effect sitting after.summaries batch before after count := by
  induction h with
  | nil catalog => exact ⟨rfl, by simp, rfl, by simp, fun id => by simp, rfl, rfl, by simp, rfl⟩
  | @cons before mid after checked batch audited description name count first rest ih =>
    have htail := hready.tail first
    have hrest := ih htail
    -- The rows that the first decision found are still found at the end.
    obtain ⟨hlinks, hdescription⟩ := first.outcome
    have hrows := (rest.frame htail).summaries
    rw [← hlinks.rowsFor_of_prefix hrows] at hdescription
    have hitem : checked.revised description sitting
        = checked.outcome sitting after.summaries := by
      rw [hdescription, Checked.outcome]
    have hname : name = before.productName checked.item := by
      have hreviewed := productName_of_reviewGoods first.reviewed
      exact hreviewed
    have hentry : (before.recordOf sitting checked description name).map AuditRecord.toAuditEntry
        = before.entryOf sitting after.summaries checked := by
      rw [entryOf, hdescription, hname]
    have hentries : mid.entryOf sitting after.summaries = before.entryOf sitting after.summaries :=
      entryOf_congr first.reference first.productName _
    refine
      { reference := hrest.reference.trans first.reference
        links := List.forall_mem_cons.2 ⟨hlinks.of_prefix hrows, hrest.links⟩
        lines := ?_
        held := List.forall_mem_cons.2 ⟨?_, hrest.held⟩
        goods := ?_
        goodIds := hrest.goodIds.trans (keys_of_reviewGoods first.reviewed)
        productName := hrest.productName.trans first.productName
        entries := ?_
        counted := ?_ }
    · rw [hrest.lines, first.saved, hitem]
      rfl
    · rw [rest.lineItem?_of_not_mem (List.nodup_cons.1 hready.distinct).1, first.lineItem?,
        if_pos rfl, hitem]
    · have hgoods := first.reviewed
      rw [hitem] at hgoods
      exact .cons hgoods hrest.goods
    · rw [hrest.entries, first.recorded, hentries, List.filterMap_cons, ← hentry]
      cases before.recordOf sitting checked description name <;> simp
    · rw [hrest.counted, first.counted, hentries, List.filterMap_cons, ← hentry]
      cases before.recordOf sitting checked description name <;> simp

/-- A batch whose pairs are all linked leaves the table. -/
theorem CarriedAll.summaries_of_links (h : CarriedAll sitting before batch after count)
    (hlinks : ∀ checked ∈ batch, before.summaries.Links checked.keys) :
    after.summaries = before.summaries := by
  induction h with
  | nil catalog => rfl
  | cons first rest ih =>
    obtain ⟨hhead, htail⟩ := List.forall_mem_cons.1 hlinks
    have hfirst := first.summaries_of_links hhead
    rw [ih (by rwa [hfirst]), hfirst]

end Catalog

end ExportControl
