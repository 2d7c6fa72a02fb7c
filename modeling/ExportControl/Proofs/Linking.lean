/-
ExportControl.Proofs.Linking — how the table of linked pairs grows.

A pair is linked under the identifiers of its two parts. `SummaryTable.demand`
is the identifier that the last row will have once a list of pairs is linked;
linking one pair after the other keeps it as it is.

  §1 Keys      — `Decision.keys`: what a decision links; `pair_eq_ok_iff`: which
                 pairs a catalog has; `keys_of_check`: the checks find just these.
  §2 One pair  — `demand_of_link`, `le_demand_of_link_error`: linking fails only
                 where the identifiers do not suffice.
  §3 Plans     — `classify_eq`: describing a product is linking its pairs in
                 order; `classify_spec`: nothing but the table changes.
-/
import ExportControl.Proofs.Checking

namespace ExportControl

/-! ## §1 Keys -/

/-- What a pair is linked under: the identifiers of its prefix, if any, and its subject. -/
abbrev PairKey := Option PrefixId × SubjectId

def PairRef.key (ref : PairRef) : PairKey := (ref.pre, ref.subject)

def Pair.key (pair : Pair) : PairKey := (pair.pre.map Prefix.id, pair.subject.id)

/-- The pairs that a decision links: none where the product is not controlled. -/
def Decision.keys (decision : Decision) : List PairKey :=
  if decision.isControlled then
    if decision.pairs ≠ [] then decision.pairs.map PairRef.key
    else decision.subject.toList.map fun subject => (decision.pre, subject)
  else []

/-- The pairs of a plan. -/
def Plan.pairs : Plan → List Pair
  | .unclassified | .legacy _ => []
  | .single pair => [pair]
  | .multiple pairs => pairs

/-- The pairs that a checked decision links. -/
def Checked.pairs (checked : Checked) : List Pair :=
  if checked.decision.isControlled then checked.plan.pairs else []

def Checked.keys (checked : Checked) : List PairKey := checked.pairs.map Pair.key

namespace Catalog

variable {catalog : Catalog} {view : CaseView} {decision : Decision}

/-- The parts of a pair are in the catalog. -/
structure Knows (catalog : Catalog) (pre : Option Prefix) (subject : Subject) : Prop where
  subject : catalog.subjects.find? subject.id = some subject
  pre : ∀ p, pre = some p → catalog.prefixes.find? p.id = some p

theorem pair_of_knows {pre : Option Prefix} {subject : Subject} (h : catalog.Knows pre subject) :
    catalog.pair { pre := pre.map Prefix.id, subject := subject.id } = .ok { pre, subject } := by
  have hlead : catalog.lead (pre.map Prefix.id) = .ok pre := by
    cases pre with
    | none => rfl
    | some p => simp [lead, h.pre p rfl]
  simp only [pair, Catalog.subject, h.subject, hlead]
  rfl

/-- A pair that is found is made of records of the catalog under the identifiers asked for. -/
theorem pair_eq_ok_iff {ref : PairRef} {pair : Pair} :
    catalog.pair ref = .ok pair ↔
      catalog.Knows pair.pre pair.subject ∧ pair.key = ref.key := by
  constructor
  · intro h
    simp only [Catalog.pair, Catalog.subject] at h
    cases hs : catalog.subjects.find? ref.subject with
    | none =>
      rw [hs] at h
      cases h
    | some subject =>
      have hsid : subject.id = ref.subject := Register.key_of_find? hs
      rw [hs] at h
      cases hp : ref.pre with
      | none =>
        rw [hp] at h
        cases h
        refine ⟨⟨by rwa [hsid], ?_⟩, by simp [Pair.key, PairRef.key, hsid, hp]⟩
        intro p hnone
        cases hnone
      | some id =>
        cases hf : catalog.prefixes.find? id with
        | none =>
          simp only [hp, lead, hf] at h
          cases h
        | some pre =>
          have hpid : pre.id = id := Register.key_of_find? hf
          simp only [hp, lead, hf] at h
          cases h
          refine ⟨⟨by rwa [hsid], ?_⟩, by simp [Pair.key, PairRef.key, hsid, hp, hpid]⟩
          rintro p ⟨rfl⟩
          rwa [hpid]
  · rintro ⟨hknows, hkey⟩
    have href : ref = { pre := pair.pre.map Prefix.id, subject := pair.subject.id } := by
      cases ref
      simpa [Pair.key, PairRef.key, eq_comm] using hkey
    rw [href]
    exact pair_of_knows hknows

theorem key_of_pair {ref : PairRef} {pair : Pair} (h : catalog.pair ref = .ok pair) :
    pair.key = ref.key :=
  (pair_eq_ok_iff.1 h).2

theorem map_key_knownPairs {refs : List PairRef} (h : catalog.unknownParts refs = []) :
    (catalog.knownPairs refs).map Pair.key = refs.map PairRef.key := by
  induction refs with
  | nil => rfl
  | cons ref refs ih =>
    rw [unknownParts, List.filterMap_cons] at h
    cases hp : catalog.pair ref with
    | error part =>
      rw [hp] at h
      cases h
    | ok pair =>
      rw [hp] at h
      have hrest := ih h
      rw [knownPairs, List.filterMap_cons, hp]
      simpa [Except.toOption, key_of_pair hp, knownPairs] using hrest

theorem pairs_planText (text : Option String) : (planText text).pairs = [] := by
  unfold planText
  split
  · split <;> rfl
  · rfl

/-- The pairs of a plan are the ones that the decision names. -/
theorem map_key_of_plan {plan : Plan} (h : catalog.plan decision = .ok plan) :
    plan.pairs.map Pair.key =
      if decision.pairs ≠ [] then decision.pairs.map PairRef.key
      else decision.subject.toList.map fun subject => (decision.pre, subject) := by
  rcases plan_eq_ok_cases h with ⟨hpairs, hparts, rfl⟩ | ⟨hpairs, subject, pair, hs, hp, rfl⟩ |
    ⟨hpairs, hs, -, rfl⟩ | ⟨hpairs, hs, -, rfl⟩
  · rw [if_pos hpairs]
    exact map_key_knownPairs hparts
  · rw [if_neg (not_not_intro hpairs), hs]
    simpa [Plan.pairs, PairRef.key] using key_of_pair hp
  · rw [if_neg (not_not_intro hpairs), hs]
    rfl
  · rw [if_neg (not_not_intro hpairs), hs, pairs_planText]
    rfl

theorem keys_of_check {checked : Checked} (h : catalog.check view decision = .ok checked) :
    checked.keys = decision.keys := by
  obtain ⟨-, rfl, -, hplan, -⟩ := check_eq_ok_iff.1 h
  rw [Checked.keys, Checked.pairs, Decision.keys, ← map_key_of_plan hplan]
  split <;> rfl

end Catalog

/-! ## §2 One pair -/

namespace SummaryTable

variable {table : SummaryTable} {pre : Option Prefix} {subject : Subject} {linked : Linked}

/-- Whether a pair is linked. -/
def has (table : SummaryTable) (key : PairKey) : Bool := (table.find? key.1 key.2).isSome

/-- The pairs of a list that are not linked, each once. -/
def unlinked (table : SummaryTable) (keys : List PairKey) : List PairKey :=
  (keys.filter fun key => !table.has key).eraseDups

/-- The last identifier in use once the pairs of a list are linked. -/
def demand (table : SummaryTable) (keys : List PairKey) : Nat :=
  table.lastId + (table.unlinked keys).length

theorem has_append_row (row : Summary) (key : PairKey) :
    (SummaryTable.mk (table.rows ++ [row])).has key =
      (table.has key || decide (row.pair = key)) := by
  simp only [has, find?, List.find?_append, List.find?_singleton, Option.isSome_or]
  congr 1
  by_cases h : row.pair = key <;> simp [h]

theorem unlinked_cons_of_has {key : PairKey} {keys : List PairKey} (h : table.has key = true) :
    table.unlinked (key :: keys) = table.unlinked keys := by
  simp [unlinked, h]

/-- Once a pair is added to the table, its other occurrences in the list are linked as well. -/
theorem unlinked_cons_of_not_has {row : Summary} {keys : List PairKey}
    (h : table.has row.pair = false) :
    table.unlinked (row.pair :: keys) =
      row.pair :: (SummaryTable.mk (table.rows ++ [row])).unlinked keys := by
  simp only [unlinked, List.filter_cons, h, Bool.not_false, if_true, List.eraseDups_cons,
    List.filter_filter, has_append_row]
  congr 2
  refine List.filter_congr fun key _ => ?_
  simp only [Bool.not_or]
  rw [Bool.and_comm]
  congr 2
  rw [Bool.eq_iff_iff, beq_iff_eq, decide_eq_true_iff, eq_comm]

theorem lastId_append_row (row : Summary) (h : table.lastId ≤ row.id.value.toNat) :
    (SummaryTable.mk (table.rows ++ [row])).lastId = row.id.value.toNat := by
  rw [lastId, List.foldl_append, List.foldl_cons, List.foldl_nil]
  exact Nat.max_eq_right h

theorem value_of_nextId? {id : SummaryId} (h : table.nextId? = some id) :
    id.value.toNat = table.lastId + 1 := by
  rw [nextId?] at h
  split at h
  · rename_i hlt
    cases h
    exact UInt32.toNat_ofNat_of_lt' hlt
  · cases h

/-- Linking a pair gives the row that it had, or adds one at the end. -/
theorem link_cases (h : table.link pre subject = .ok linked) :
    (table.find? (pre.map Prefix.id) subject.id = some linked.row ∧ linked.table = table ∧
      linked.created = false) ∨
    ∃ id, table.find? (pre.map Prefix.id) subject.id = none ∧ table.nextId? = some id ∧
      linked.row = { id, pre, subject } ∧ linked.table = ⟨table.rows ++ [linked.row]⟩ ∧
      linked.created = true := by
  rw [link] at h
  split at h
  · rename_i row hrow
    cases h
    exact .inl ⟨hrow, rfl, rfl⟩
  · rename_i hnone
    split at h
    · rename_i id hid
      cases h
      exact .inr ⟨id, hnone, hid, rfl, rfl, rfl⟩
    · cases h

/-- The row of a pair is in the table from then on, and the rows before it stay. -/
theorem rows_of_link (h : table.link pre subject = .ok linked) :
    table.rows <+: linked.table.rows ∧ linked.row ∈ linked.table.rows ∧
      linked.row.pair = (pre.map Prefix.id, subject.id) := by
  rcases link_cases h with ⟨hfind, htable, -⟩ | ⟨id, -, -, hrow, htable, -⟩
  · rw [htable]
    have hpair := List.find?_some hfind
    exact ⟨List.prefix_refl _, List.mem_of_find?_eq_some hfind, by simpa using hpair⟩
  · rw [htable]
    exact ⟨List.prefix_append _ _, by simp, by rw [hrow]; rfl⟩

/-- Linking the first pair of a list leaves the last identifier that the list needs. -/
theorem demand_of_link {keys : List PairKey} (h : table.link pre subject = .ok linked) :
    linked.table.demand keys = table.demand ((pre.map Prefix.id, subject.id) :: keys) := by
  rcases link_cases h with ⟨hfind, htable, -⟩ | ⟨id, hnone, hid, hrow, htable, -⟩
  · have hhas : table.has (pre.map Prefix.id, subject.id) = true := by simp [has, hfind]
    rw [htable, demand, demand, unlinked_cons_of_has hhas]
  · have hpair : linked.row.pair = (pre.map Prefix.id, subject.id) := by rw [hrow]; rfl
    have hhas : table.has linked.row.pair = false := by rw [hpair]; simp [has, hnone]
    have hval : linked.row.id.value.toNat = table.lastId + 1 := by
      rw [hrow]
      exact value_of_nextId? hid
    rw [← hpair, demand, demand, unlinked_cons_of_not_has hhas, htable,
      lastId_append_row linked.row (by omega), hval, List.length_cons]
    omega

/-- A pair cannot be linked only where the identifiers do not suffice. -/
theorem le_demand_of_link_error {x : Exhausted} {keys : List PairKey}
    (h : table.link pre subject = .error x) :
    UInt32.size ≤ table.demand ((pre.map Prefix.id, subject.id) :: keys) := by
  rw [link] at h
  split at h
  · cases h
  · rename_i hnone
    split at h
    · cases h
    · rename_i hid
      have hlast : UInt32.size ≤ table.lastId + 1 := by
        rw [nextId?] at hid
        split at hid
        · cases hid
        · omega
      have hhas : table.has (pre.map Prefix.id, subject.id) = false := by simp [has, hnone]
      simp only [demand, unlinked, List.filter_cons, hhas, Bool.not_false, if_true,
        List.eraseDups_cons, List.length_cons]
      omega

end SummaryTable

/-! ## §3 Plans -/

/-- The description that a plan gives once its pairs are linked. -/
def Plan.describe (plan : Plan) (rows : List Summary) : Option Classification :=
  match plan with
  | .unclassified => none
  | .legacy text => some (.legacy text)
  | .single _ => rows.head?.map .single
  | .multiple _ => some (.multiple rows)

/-- The description that a checked decision gives once its pairs are linked. -/
def Checked.describe (checked : Checked) (rows : List Summary) : Option Classification :=
  if checked.decision.isControlled then checked.plan.describe rows else none

/-- The description that a decision asks for once its pairs are linked. -/
def Decision.describe (decision : Decision) (rows : List Summary) : Option Classification :=
  if decision.isControlled then
    if decision.pairs ≠ [] then some (.multiple rows)
    else if decision.subject.isSome then rows.head?.map .single
    else decision.reportSummary.map .legacy
  else none

namespace Catalog

/-- A plan that describes a product does so as the decision asks for. -/
theorem describe_of_plan {catalog : Catalog} {decision : Decision} {plan : Plan}
    (hplan : catalog.plan decision = .ok plan) (hne : plan ≠ .unclassified)
    (hcontrolled : decision.isControlled = true) (rows : List Summary) :
    plan.describe rows = decision.describe rows := by
  rw [Decision.describe, if_pos hcontrolled]
  rcases plan_eq_ok_cases hplan with ⟨hpairs, -, rfl⟩ | ⟨hpairs, subject, pair, hs, -, rfl⟩ |
    ⟨-, -, -, rfl⟩ | ⟨hpairs, hs, -, rfl⟩
  · rw [if_pos hpairs]
    rfl
  · rw [if_neg (not_not_intro hpairs), hs]
    rfl
  · exact absurd rfl hne
  · rw [if_neg (not_not_intro hpairs), hs]
    cases ht : decision.reportSummary with
    | none => exact absurd (by rw [ht]; rfl) hne
    | some text =>
      rw [ht, planText] at hne
      rw [planText]
      split at hne
      · exact absurd rfl hne
      · rename_i hblank
        rw [if_neg hblank]
        rfl

theorem describe_of_check {catalog : Catalog} {view : CaseView} {decision : Decision}
    {checked : Checked} (h : catalog.check view decision = .ok checked) (rows : List Summary) :
    checked.describe rows = decision.describe rows := by
  obtain ⟨hfaults, rfl, -, hplan, -⟩ := check_eq_ok_iff.1 h
  obtain ⟨-, -, -, plan, hplan', hne⟩ := faults_eq_nil_iff.1 hfaults
  rw [hplan] at hplan'
  cases hplan'
  rw [Checked.describe]
  by_cases hcontrolled : checked.decision.isControlled = true
  · rw [if_pos hcontrolled, describe_of_plan hplan (hne hcontrolled) hcontrolled]
  · rw [if_neg hcontrolled, Decision.describe, if_neg hcontrolled]

end Catalog

namespace Catalog

variable (catalog : Catalog)

theorem linkAll_cons (pair : Pair) (pairs : List Pair) :
    catalog.linkAll (pair :: pairs) =
      match catalog.linkSummary pair.pre pair.subject with
      | .error x => .error x
      | .ok (mid, row) => (mid.linkAll pairs).map fun linked => (linked.1, row :: linked.2) := by
  rw [linkAll]
  cases catalog.linkSummary pair.pre pair.subject with
  | error x => rfl
  | ok first =>
    obtain ⟨mid, row⟩ := first
    cases hr : mid.linkAll pairs <;> simp only [hr] <;> rfl

theorem linkPlan_eq (plan : Plan) :
    catalog.linkPlan plan =
      (catalog.linkAll plan.pairs).map fun linked => (linked.1, plan.describe linked.2) := by
  cases plan with
  | unclassified => rfl
  | legacy text => rfl
  | single pair =>
    rw [linkPlan, Plan.pairs, linkAll_cons]
    cases catalog.linkSummary pair.pre pair.subject <;> rfl
  | multiple pairs => rfl

/-- Describing a product is linking its pairs, and nothing else. -/
theorem classify_eq (checked : Checked) :
    catalog.classify checked =
      (catalog.linkAll checked.pairs).map fun linked => (linked.1, checked.describe linked.2) := by
  rw [classify, Checked.pairs]
  simp only [Checked.describe]
  split
  · exact linkPlan_eq catalog checked.plan
  · rfl

/-- Linking a pair in a catalog is linking it in its table. -/
theorem linkSummary_eq_ok {pre : Option Prefix} {subject : Subject} {mid : Catalog} {row : Summary}
    (h : catalog.linkSummary pre subject = .ok (mid, row)) :
    ∃ linked, catalog.summaries.link pre subject = .ok linked ∧
      mid = { catalog with summaries := linked.table } ∧ row = linked.row := by
  unfold linkSummary at h
  cases hlink : catalog.summaries.link pre subject with
  | error x =>
    rw [hlink] at h
    cases h
  | ok linked =>
    rw [hlink] at h
    cases h
    exact ⟨linked, rfl, rfl, rfl⟩

theorem linkAll_cons_eq_ok {pair : Pair} {pairs : List Pair} {linked : Catalog}
    {rows : List Summary} (h : catalog.linkAll (pair :: pairs) = .ok (linked, rows)) :
    ∃ mid row rest, catalog.linkSummary pair.pre pair.subject = .ok (mid, row) ∧
      mid.linkAll pairs = .ok (linked, rest) ∧ rows = row :: rest := by
  rw [linkAll_cons] at h
  cases hl : catalog.linkSummary pair.pre pair.subject with
  | error x =>
    rw [hl] at h
    cases h
  | ok first =>
    obtain ⟨mid, row⟩ := first
    simp only [hl] at h
    cases hr : mid.linkAll pairs with
    | error x =>
      rw [hr] at h
      cases h
    | ok rest =>
      rw [hr] at h
      cases h
      exact ⟨mid, row, rest.2, rfl, hr, rfl⟩

/-- Linking pairs gives a row of the table for each of them, in order, and the rows before stay. -/
theorem rows_of_linkAll {pairs : List Pair} {linked : Catalog} {rows : List Summary}
    (h : catalog.linkAll pairs = .ok (linked, rows)) :
    catalog.summaries.rows <+: linked.summaries.rows ∧ rows ⊆ linked.summaries.rows ∧
      rows.map Summary.pair = pairs.map Pair.key := by
  induction pairs generalizing catalog rows with
  | nil =>
    cases h
    exact ⟨List.prefix_refl _, List.nil_subset _, rfl⟩
  | cons pair pairs ih =>
    obtain ⟨mid, row, rest, hfirst, hrest, rfl⟩ := linkAll_cons_eq_ok catalog h
    obtain ⟨hrows, hsubset, hpairs⟩ := ih mid hrest
    obtain ⟨first, hlink, rfl, rfl⟩ := linkSummary_eq_ok catalog hfirst
    obtain ⟨hrows₁, hmem, hpair⟩ := SummaryTable.rows_of_link hlink
    refine ⟨hrows₁.trans hrows, ?_, by rw [List.map_cons, hpair, hpairs]; rfl⟩
    exact List.cons_subset.2 ⟨hrows.subset hmem, hsubset⟩

/-- Linking pairs changes nothing but the table, and fails only where the identifiers do not
suffice for them and for whatever else is to be linked. -/
theorem linkAll_spec (pairs : List Pair) (keys : List PairKey) :
    match catalog.linkAll pairs with
    | .ok (linked, _) =>
      linked = { catalog with summaries := linked.summaries } ∧
        linked.summaries.demand keys = catalog.summaries.demand (pairs.map Pair.key ++ keys)
    | .error _ => UInt32.size ≤ catalog.summaries.demand (pairs.map Pair.key ++ keys) := by
  induction pairs generalizing catalog with
  | nil => exact ⟨rfl, rfl⟩
  | cons pair pairs ih =>
    rw [linkAll_cons, linkSummary]
    cases hl : catalog.summaries.link pair.pre pair.subject with
    | error x => exact SummaryTable.le_demand_of_link_error hl
    | ok first =>
      have hmid : first.table.demand (pairs.map Pair.key ++ keys)
          = catalog.summaries.demand ((pair :: pairs).map Pair.key ++ keys) :=
        SummaryTable.demand_of_link hl
      have hrest := ih { catalog with summaries := first.table }
      simp only [Except.map]
      split at hrest
      · rename_i linked rows heq
        obtain ⟨hframe, hdemand⟩ := hrest
        simp only [heq]
        exact ⟨hframe, hdemand.trans hmid⟩
      · rename_i x heq
        simp only [heq]
        exact Nat.le_trans hrest (Nat.le_of_eq hmid)

/-- The description that a checked decision gives is made of rows for just its pairs. -/
theorem rows_of_classify {checked : Checked} {linked : Catalog}
    {description : Option Classification}
    (h : catalog.classify checked = .ok (linked, description)) :
    catalog.summaries.rows <+: linked.summaries.rows ∧
      ∃ rows, rows ⊆ linked.summaries.rows ∧ rows.map Summary.pair = checked.keys ∧
        description = checked.describe rows := by
  rw [classify_eq] at h
  cases hl : catalog.linkAll checked.pairs with
  | error x =>
    rw [hl] at h
    cases h
  | ok result =>
    obtain ⟨linked', rows⟩ := result
    rw [hl] at h
    cases h
    obtain ⟨hrows, hsubset, hpairs⟩ := rows_of_linkAll catalog hl
    exact ⟨hrows, rows, hsubset, hpairs, rfl⟩

theorem classify_spec (checked : Checked) (keys : List PairKey) :
    match catalog.classify checked with
    | .ok (linked, _) =>
      linked = { catalog with summaries := linked.summaries } ∧
        linked.summaries.demand keys = catalog.summaries.demand (checked.keys ++ keys)
    | .error _ => UInt32.size ≤ catalog.summaries.demand (checked.keys ++ keys) := by
  have hspec := linkAll_spec catalog checked.pairs keys
  rw [classify_eq]
  cases hl : catalog.linkAll checked.pairs <;> rw [hl] at hspec <;> exact hspec

end Catalog

end ExportControl
