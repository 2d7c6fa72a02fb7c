/-
ExportControl.Proofs.TableGrowth — any table of linked pairs, under any calls for pairs.

Nothing is asked of the rows that are there at first: a pair and an identifier may
have several, in any order. Every pair that the table lacks gets one row from the
first call for it, the next identifier each, so the new rows are numbered without
a gap from the largest identifier on.

  §1 Calls  — `getOrLink`, `calls`: what calls leave and what the callers get.
  §2 Limits — `lastId_eq_iff`, `getOrLink_of_absent`: the largest identifier, and
              the call that it decides.
  §3 Runs   — `Grows`: what a run adds; `grows_calls`: a run without a failure adds
              just that; `find?_of_calls`: it settles all look-ups of its pairs.
-/
import ExportControl.Proofs.Availability
import ExportControl.Proofs.LinkedRows

namespace ExportControl

namespace SummaryTable

variable {table after : SummaryTable} {pair : Pair} {pairs : List Pair}

/-! ## §1 Calls -/

/-- The table that a call for the row of a pair leaves, and what the caller gets: the row and
whether it is a new one. The identifiers are asked for before a row is added, so a call that
fails for want of one leaves the table alone. -/
def getOrLink (table : SummaryTable) (pair : Pair) :
    SummaryTable × Except Exhausted (Summary × Bool) :=
  match table.link pair.pre pair.subject with
  | .ok linked => (linked.table, .ok (linked.row, linked.created))
  | .error x => (table, .error x)

theorem link_of_getOrLink {row : Summary} {created : Bool}
    (h : (table.getOrLink pair).2 = .ok (row, created)) :
    table.link pair.pre pair.subject = .ok ⟨(table.getOrLink pair).1, row, created⟩ := by
  rw [getOrLink] at h ⊢
  cases hlink : table.link pair.pre pair.subject with
  | error x =>
    rw [hlink] at h
    cases h
  | ok linked =>
    rw [hlink] at h
    cases h
    rfl

theorem table_of_getOrLink_error {x : Exhausted} (h : (table.getOrLink pair).2 = .error x) :
    (table.getOrLink pair).1 = table := by
  rw [getOrLink] at h ⊢
  cases hlink : table.link pair.pre pair.subject with
  | error x => rfl
  | ok linked =>
    rw [hlink] at h
    cases h

/-- The table that calls for pairs leave, one after the other, and what each caller gets. -/
def calls (table : SummaryTable) :
    List Pair → SummaryTable × List (Except Exhausted (Summary × Bool))
  | [] => (table, [])
  | pair :: pairs =>
    let first := table.getOrLink pair
    let rest := first.1.calls pairs
    (rest.1, first.2 :: rest.2)

/-- The identifiers of the rows. -/
def ids (table : SummaryTable) : List Nat := table.rows.map fun row => row.id.value.toNat

/-! ## §2 Limits -/

theorem lastId_eq (table : SummaryTable) : table.lastId = table.ids.max?.getD 0 := by
  obtain ⟨rows⟩ := table
  cases rows with
  | nil => rfl
  | cons row rows =>
    rw [ids, List.map_cons, List.max?_cons', lastId, List.foldl_cons, Nat.zero_max,
      List.foldl_map, Option.getD_some]

theorem has_eq_false_iff {key : PairKey} :
    table.has key = false ↔ ∀ row ∈ table.rows, row.pair ≠ key := by
  simp [has, find?]

/-- An identifier other than zero is the last one in use just where a row has it and no row has
a larger one. -/
theorem lastId_eq_iff {last : Nat} (hpos : 0 < last) :
    table.lastId = last ↔ table.ids.max? = some last := by
  rw [lastId_eq]
  cases table.ids.max? with
  | none => simp; omega
  | some largest => simp

theorem getOrLink_eq_error_iff {x : Exhausted} :
    (table.getOrLink pair).2 = .error x ↔
      (∀ row ∈ table.rows, row.pair ≠ pair.key) ∧ table.ids.max? = some 4294967295 := by
  rw [← has_eq_false_iff, ← lastId_eq_iff (by decide), Pair.key, ← link_eq_error_iff (x := x),
    getOrLink]
  cases table.link pair.pre pair.subject <;> simp

/-- A call for a pair that the table lacks adds a row at the end, under the next identifier. -/
theorem getOrLink_of_absent (habsent : ∀ row ∈ table.rows, row.pair ≠ pair.key)
    (hlimit : table.ids.max? ≠ some 4294967295) :
    ∃ row, table.getOrLink pair = (⟨table.rows ++ [row]⟩, .ok (row, true)) ∧
      row.pre = pair.pre ∧ row.subject = pair.subject ∧
      row.id.value.toNat = table.lastId + 1 := by
  have hhas : table.has pair.key = false := has_eq_false_iff.2 habsent
  cases hlink : table.link pair.pre pair.subject with
  | error x =>
    have hlast := (link_eq_error_iff.1 hlink).2
    exact absurd ((lastId_eq_iff (by decide)).1 hlast) hlimit
  | ok linked =>
    rcases link_cases hlink with ⟨hfind, -, -⟩ | ⟨id, -, hid, hrow, htable, hcreated⟩
    · rw [has, Pair.key, hfind] at hhas
      cases hhas
    · refine ⟨linked.row, ?_, by rw [hrow], by rw [hrow], ?_⟩
      · rw [getOrLink, hlink, ← htable, ← hcreated]
      · rw [hrow]
        exact value_of_nextId? hid

/-- A call for a pair that has rows gives the first of them. -/
theorem getOrLink_of_first {front back : List Summary} {row : Summary}
    (hrows : table.rows = front ++ row :: back) (hpair : row.pair = pair.key)
    (hfirst : ∀ other ∈ front, other.pair ≠ pair.key) :
    table.getOrLink pair = (table, .ok (row, false)) := by
  have hfind : table.find? (pair.pre.map Prefix.id) pair.subject.id = some row := by
    rw [find?, List.find?_eq_some_iff_append]
    refine ⟨decide_eq_true hpair, front, back, hrows, fun other hother => ?_⟩
    rw [Bool.not_eq_true', decide_eq_false_iff_not]
    exact hfirst other hother
  rw [getOrLink, link, hfind]

/-! ## §3 Runs -/

/-- What rows calls for pairs have added: those of the pairs that had none, in the order of their
first calls, numbered from the identifier after the largest one. -/
structure Grows (table after : SummaryTable) (keys : List PairKey) (added : List Summary) :
    Prop where
  rows : after.rows = table.rows ++ added
  pairs : added.map Summary.pair = table.unlinked keys
  ids : added.map (fun row => row.id.value.toNat) = List.range' (table.lastId + 1) added.length

/-- One more pair is linked before the others: it gets the first new row, or it has one already. -/
theorem Grows.cons {linked : Linked} {keys : List PairKey} {added : List Summary}
    (hlink : table.link pair.pre pair.subject = .ok linked)
    (h : linked.table.Grows after keys added) :
    ∃ added, table.Grows after (pair.key :: keys) added := by
  rcases link_cases hlink with ⟨hfind, htable, -⟩ | ⟨id, hnone, hid, hrow, htable, -⟩
  · have hhas : table.has pair.key = true := by rw [has, Pair.key, hfind, Option.isSome_some]
    rw [htable] at h
    exact ⟨added, h.rows, by rw [h.pairs, unlinked_cons_of_has hhas], h.ids⟩
  · have hpair : linked.row.pair = pair.key := (rows_of_link hlink).2.2
    have hhas : table.has linked.row.pair = false := by
      rw [hpair, has, Pair.key, hnone, Option.isSome_none]
    have hvalue : linked.row.id.value.toNat = table.lastId + 1 := by
      rw [hrow]
      exact value_of_nextId? hid
    rw [htable] at h
    -- The new row has the largest identifier from here on, so the others are numbered behind it.
    refine ⟨linked.row :: added, ?_, ?_, ?_⟩
    · rw [h.rows, List.append_assoc, List.singleton_append]
    · rw [List.map_cons, h.pairs, ← hpair, unlinked_cons_of_not_has hhas]
    · rw [List.map_cons, h.ids, lastId_append_row linked.row (by omega), hvalue, List.length_cons,
        List.range'_succ]

/-- A run of which no call fails adds the rows that its pairs lack. -/
theorem grows_calls {results : List (Summary × Bool)}
    (h : (table.calls pairs).2 = results.map .ok) :
    ∃ added, table.Grows (table.calls pairs).1 (pairs.map Pair.key) added := by
  induction pairs generalizing table results with
  | nil => exact ⟨[], by simp [calls], rfl, rfl⟩
  | cons pair pairs ih =>
    obtain ⟨⟨row, created⟩, rest, rfl, hfirst, hrest⟩ := List.map_eq_cons_iff.1 h.symm
    obtain ⟨added, hadded⟩ := ih hrest.symm
    exact hadded.cons (link_of_getOrLink hfirst.symm)

/-- What a call gives stays the row of its pair through all calls after it. -/
theorem find?_of_calls {results : List (Summary × Bool)}
    (h : (table.calls pairs).2 = results.map .ok) :
    ∀ call ∈ pairs.zip results,
      (table.calls pairs).1.find? call.1.key.1 call.1.key.2 = some call.2.1 := by
  induction pairs generalizing table results with
  | nil => simp
  | cons pair pairs ih =>
    obtain ⟨⟨row, created⟩, rest, rfl, hfirst, hrest⟩ := List.map_eq_cons_iff.1 h.symm
    rw [List.zip_cons_cons, List.forall_mem_cons]
    refine ⟨?_, ih hrest.symm⟩
    obtain ⟨added, hadded⟩ := grows_calls hrest.symm
    exact find?_of_prefix ⟨added, hadded.rows.symm⟩ (find?_of_link (link_of_getOrLink hfirst.symm))

namespace Grows

variable {keys : List PairKey} {added : List Summary}

theorem nodup (h : table.Grows after keys added) : (added.map Summary.pair).Nodup := by
  rw [h.pairs]
  exact nodup_eraseDups _

theorem increasing (h : table.Grows after keys added) :
    added.Pairwise fun row other => row.id.value.toNat < other.id.value.toNat := by
  rw [← List.pairwise_map, h.ids]
  exact List.pairwise_lt_range'

theorem above (h : table.Grows after keys added) {old row : Summary} (hold : old ∈ table.rows)
    (hrow : row ∈ added) : old.id.value.toNat < row.id.value.toNat := by
  have hmem : row.id.value.toNat ∈ List.range' (table.lastId + 1) added.length := by
    rw [← h.ids]
    exact List.mem_map_of_mem hrow
  have hle := le_lastId hold
  have hge := (List.mem_range'_1.1 hmem).1
  omega

/-- Pairs that nobody called for are found as before. -/
theorem find?_of_not_mem (h : table.Grows after keys added) {key : PairKey} (hkey : key ∉ keys) :
    after.find? key.1 key.2 = table.find? key.1 key.2 := by
  have hnone : added.find? (fun row => row.pair = (key.1, key.2)) = none := by
    refine List.find?_eq_none.2 fun row hrow => ?_
    have hmem : row.pair ∈ table.unlinked keys := h.pairs ▸ List.mem_map_of_mem hrow
    rw [unlinked, List.mem_eraseDups, List.mem_filter] at hmem
    refine fun heq => hkey ?_
    rw [← show row.pair = key from of_decide_eq_true heq]
    exact hmem.1
  rw [find?, h.rows, List.find?_append, hnone, Option.or_none, find?]

end Grows

/-- **Growth of the table.** Whatever rows there are, a call for a pair fails just where the pair
has no row and the largest identifier is the last one there is; otherwise it gives the first row
of the pair and changes nothing, or it adds a row at the end under the identifier after the
largest one. A run of calls of which none fails leaves the old rows in place and adds one row for
each pair that had none, under ever larger identifiers above all old ones; from then on each of
its pairs is found under the row that every call for the pair gave, and all others as before. -/
theorem table_grows_by_absent_pairs (table : SummaryTable) :
    (∀ pair : Pair,
      ((∃ x, (table.getOrLink pair).2 = .error x) ↔
        (∀ row ∈ table.rows, row.pair ≠ pair.key) ∧ table.ids.max? = some 4294967295) ∧
      (∀ x, (table.getOrLink pair).2 = .error x → (table.getOrLink pair).1 = table) ∧
      (∀ front row back, table.rows = front ++ row :: back → row.pair = pair.key →
        (∀ other ∈ front, other.pair ≠ pair.key) →
          table.getOrLink pair = (table, .ok (row, false))) ∧
      ((∀ row ∈ table.rows, row.pair ≠ pair.key) → table.ids.max? ≠ some 4294967295 →
        ∃ row, table.getOrLink pair = (⟨table.rows ++ [row]⟩, .ok (row, true)) ∧
          row.pre = pair.pre ∧ row.subject = pair.subject ∧
          row.id.value.toNat = table.ids.max?.elim 1 (· + 1))) ∧
    ∀ pairs results, (table.calls pairs).2 = results.map .ok →
      (∃ added, (table.calls pairs).1.rows = table.rows ++ added ∧
        (added.map Summary.pair).Nodup ∧
        (added.Pairwise fun row other => row.id.value.toNat < other.id.value.toNat) ∧
        (∀ old ∈ table.rows, ∀ row ∈ added, old.id.value.toNat < row.id.value.toNat) ∧
        added.map Summary.pair = table.unlinked (pairs.map Pair.key) ∧
        added.length = (table.unlinked (pairs.map Pair.key)).length) ∧
      (∀ call ∈ pairs.zip results,
        (table.calls pairs).1.find? call.1.key.1 call.1.key.2 = some call.2.1) ∧
      ∀ key ∉ pairs.map Pair.key,
        (table.calls pairs).1.find? key.1 key.2 = table.find? key.1 key.2 := by
  refine ⟨fun pair => ⟨?fails, fun _ => table_of_getOrLink_error,
    fun _ _ _ => getOrLink_of_first, ?adds⟩, ?runs⟩
  case fails =>
    constructor
    · rintro ⟨x, hx⟩
      exact getOrLink_eq_error_iff.1 hx
    · exact fun h => ⟨.summaryIds, getOrLink_eq_error_iff.2 h⟩
  case adds =>
    intro habsent hlimit
    obtain ⟨row, hcall, hpre, hsubject, hid⟩ := getOrLink_of_absent habsent hlimit
    refine ⟨row, hcall, hpre, hsubject, ?_⟩
    rw [hid, lastId_eq]
    cases table.ids.max? <;> rfl
  case runs =>
    intro pairs results h
    obtain ⟨added, hadded⟩ := grows_calls h
    refine ⟨⟨added, hadded.rows, hadded.nodup, hadded.increasing,
      fun old hold row hrow => hadded.above hold hrow, hadded.pairs, ?_⟩, find?_of_calls h,
      fun key => hadded.find?_of_not_mem⟩
    rw [← hadded.pairs, List.length_map]

/-- A table that calls would not have left: two rows of one pair, and an identifier out of order. -/
def unevenRows : SummaryTable :=
  ⟨[⟨⟨9⟩, none, ⟨⟨7⟩, "sniper rifles", none⟩⟩,
    ⟨⟨4⟩, some ⟨⟨1⟩, "components for"⟩, ⟨⟨7⟩, "sniper rifles", none⟩⟩,
    ⟨⟨3⟩, none, ⟨⟨7⟩, "rifles", none⟩⟩]⟩

/-- A pair with a prefix, the pair without it, one with two rows, and the first again: the third of
them is found under the first of its rows, and the two that are new come under 10 and 11. None comes
where another pair has the last identifier. -/
theorem uneven_rows_grow :
    let scopes : Subject := ⟨⟨8⟩, "scopes", none⟩
    let components : Prefix := ⟨⟨1⟩, "components for"⟩
    let rifles : Subject := ⟨⟨7⟩, "rifles", none⟩
    let pairs : List Pair :=
      [⟨components, scopes⟩, ⟨none, scopes⟩, ⟨none, rifles⟩, ⟨components, scopes⟩]
    let results : List (Summary × Bool) :=
      [(⟨⟨10⟩, components, scopes⟩, true), (⟨⟨11⟩, none, scopes⟩, true),
       (⟨⟨9⟩, none, ⟨⟨7⟩, "sniper rifles", none⟩⟩, false), (⟨⟨10⟩, components, scopes⟩, false)]
    (unevenRows.calls pairs).2 = results.map .ok ∧
      (∀ call ∈ pairs.zip results,
        (unevenRows.calls pairs).1.find? call.1.key.1 call.1.key.2 = some call.2.1) ∧
      (∃ row, unevenRows.getOrLink ⟨none, scopes⟩ = (⟨unevenRows.rows ++ [row]⟩, .ok (row, true)) ∧
        row.id.value.toNat = 10) ∧
      unevenRows.getOrLink ⟨none, rifles⟩
        = (unevenRows, .ok (⟨⟨9⟩, none, ⟨⟨7⟩, "sniper rifles", none⟩⟩, false)) ∧
      ∃ x, ((SummaryTable.mk (⟨⟨4294967295⟩, components, rifles⟩ :: unevenRows.rows)).getOrLink
        ⟨none, scopes⟩).2 = .error x := by
  intro scopes components rifles pairs results
  have hresults : (unevenRows.calls pairs).2 = results.map .ok := by rfl
  obtain ⟨hcall, hrun⟩ := table_grows_by_absent_pairs unevenRows
  obtain ⟨-, -, -, habsent⟩ := hcall ⟨none, scopes⟩
  obtain ⟨-, -, hfirst, -⟩ := hcall ⟨none, rifles⟩
  obtain ⟨row, hrow, -, -, hid⟩ := habsent (by decide) (by decide)
  exact ⟨hresults, (hrun pairs results hresults).2.1, ⟨row, hrow, hid⟩,
    hfirst [] _ _ rfl rfl (by simp),
    ((table_grows_by_absent_pairs _).1 _).1.2 ⟨by decide, by decide⟩⟩

end SummaryTable

end ExportControl
