/-
ExportControl.Register — records kept under a key of their own.

A register holds at most one record per key, in the order in which the keys
first came. Putting a record under a key that is taken replaces the record
there and moves nothing.

* `find?` looks a record up, `put` files one, `ofList` files many in turn.
* `ascending` lists the records by key.
* `find?_put` says what a look-up gives afterwards.
-/
namespace ExportControl

/-- Records that carry a key. -/
class Keyed (α : Type) (κ : outParam Type) where
  key : α → κ

/-- At most one record per key. -/
structure Register (α : Type) {κ : Type} [Keyed α κ] where
  entries : List α
  distinct : (entries.map (Keyed.key : α → κ)).Nodup

namespace Register

variable {α κ : Type} [Keyed α κ]

/-- No records. -/
def empty : Register α := ⟨[], List.nodup_nil⟩

variable [DecidableEq κ]

/-- The record under a key. -/
def find? (r : Register α) (k : κ) : Option α :=
  r.entries.find? fun a => Keyed.key a = k

/-- Whether there is a record under a key. -/
def has (r : Register α) (k : κ) : Bool := (r.find? k).isSome

/-- The records with every one under the key of `a` replaced by `a`. -/
def replaced (a : α) : List α → List α
  | [] => []
  | b :: bs => (if Keyed.key b = (Keyed.key a : κ) then a else b) :: replaced a bs

theorem map_key_replaced (a : α) (as : List α) :
    (replaced a as).map (Keyed.key : α → κ) = as.map Keyed.key := by
  induction as with
  | nil => rfl
  | cons b as ih => by_cases h : Keyed.key b = (Keyed.key a : κ) <;> simp [replaced, h, ih]

theorem find?_eq_none_iff {r : Register α} {k : κ} :
    r.find? k = none ↔ k ∉ r.entries.map (Keyed.key : α → κ) := by
  simp [find?, List.find?_eq_none]

/-- Files a record: in place of the one under its key, or after all others. -/
def put (r : Register α) (a : α) : Register α :=
  if h : r.find? (Keyed.key a) = none then
    ⟨r.entries ++ [a], by
      have := find?_eq_none_iff.1 h
      simp only [List.map_append, List.map_cons, List.map_nil]
      refine List.nodup_append.2 ⟨r.distinct, by simp, ?_⟩
      intro k hk l hl
      simp only [List.mem_singleton] at hl
      subst hl
      exact fun e => this (e ▸ hk)⟩
  else ⟨replaced a r.entries, by rw [map_key_replaced]; exact r.distinct⟩

/-- Files records one after the other, so the last one under a key stays. -/
def ofList (as : List α) : Register α := as.foldl put empty

/-- The records in ascending order of their keys. -/
def ascending [LE κ] [DecidableRel (α := κ) (· ≤ ·)] (r : Register α) : List α :=
  r.entries.mergeSort fun a b => Keyed.key a ≤ (Keyed.key b : κ)

/-! ## Look-ups -/

theorem find?_empty (k : κ) : (empty : Register α).find? k = none := rfl

theorem find?_of_not_has {r : Register α} {k : κ} (h : r.has k = false) : r.find? k = none := by
  rwa [has, Option.isSome_eq_false_iff, Option.isNone_iff_eq_none] at h

theorem key_of_find? {r : Register α} {k : κ} {a : α} (h : r.find? k = some a) :
    Keyed.key a = k := by
  simpa using List.find?_some h

theorem mem_of_find? {r : Register α} {k : κ} {a : α} (h : r.find? k = some a) :
    a ∈ r.entries := List.mem_of_find?_eq_some h

theorem find?_replaced (a : α) (as : List α) (k : κ) :
    (replaced a as).find? (fun b => Keyed.key b = k)
      = if Keyed.key a = k then (as.find? fun b => Keyed.key b = k).map fun _ => a
        else as.find? fun b => Keyed.key b = k := by
  induction as with
  | nil => simp [replaced]
  | cons b as ih =>
    rw [replaced, List.find?_cons, List.find?_cons, ih]
    by_cases hk : (Keyed.key a : κ) = k
    · subst hk
      by_cases hb : (Keyed.key b : κ) = Keyed.key a <;> simp [hb]
    · by_cases hb : (Keyed.key b : κ) = Keyed.key a
      · simp [hb, hk]
      · simp [hb, hk]

/-- A look-up after filing a record: that record under its key, and nothing else changed. -/
theorem find?_put (r : Register α) (a : α) (k : κ) :
    (r.put a).find? k = if Keyed.key a = k then some a else r.find? k := by
  unfold put
  split
  · rename_i h
    have h : r.entries.find? (fun b => Keyed.key b = (Keyed.key a : κ)) = none := h
    simp only [find?, List.find?_append, List.find?_cons, List.find?_nil]
    by_cases hk : (Keyed.key a : κ) = k
    · subst hk
      simp [h]
    · simp [hk]
  · rename_i h
    simp only [find?, find?_replaced]
    by_cases hk : (Keyed.key a : κ) = k
    · subst hk
      obtain ⟨b, hb⟩ := Option.ne_none_iff_exists'.1 h
      have hb : r.entries.find? (fun b => Keyed.key b = (Keyed.key a : κ)) = some b := hb
      simp [hb]
    · simp [hk]

theorem has_put (r : Register α) (a : α) (k : κ) :
    (r.put a).has k = (decide (Keyed.key a = k) || r.has k) := by
  rw [has, has, find?_put]
  by_cases hk : (Keyed.key a : κ) = k <;> simp [hk]

theorem has_foldl_put (r : Register α) (as : List α) (k : κ) :
    (as.foldl put r).has k = true ↔ k ∈ as.map (Keyed.key : α → κ) ∨ r.has k = true := by
  induction as generalizing r with
  | nil => simp
  | cons a as ih =>
    rw [List.foldl_cons, ih, has_put, List.map_cons, List.mem_cons, Bool.or_eq_true,
      decide_eq_true_iff, eq_comm]
    rw [← or_assoc, or_comm (a := k ∈ _)]

/-- The keys of a filed list are taken, and no others. -/
theorem has_ofList (as : List α) (k : κ) :
    (ofList as).has k = true ↔ k ∈ as.map (Keyed.key : α → κ) := by
  rw [ofList, has_foldl_put, or_iff_left]
  rw [has, find?_empty]
  exact Bool.false_ne_true

/-- Looking up keys that are all taken gives the records under just these keys, in order. -/
theorem map_key_filterMap_find? {r : Register α} {ks : List κ} (h : ∀ k ∈ ks, r.has k = true) :
    (ks.filterMap r.find?).map Keyed.key = ks := by
  induction ks with
  | nil => rfl
  | cons k ks ih =>
    obtain ⟨hk, hks⟩ := List.forall_mem_cons.1 h
    obtain ⟨a, ha⟩ := Option.isSome_iff_exists.1 hk
    rw [List.filterMap_cons, ha, List.map_cons, ih hks, key_of_find? ha]

theorem find?_of_mem {r : Register α} {a : α} (h : a ∈ r.entries) :
    r.find? (Keyed.key a) = some a := by
  obtain ⟨earlier, later, heq⟩ := List.append_of_mem h
  have hdistinct := r.distinct
  rw [heq, List.map_append, List.map_cons] at hdistinct
  have hearlier : earlier.find? (fun b => Keyed.key b = (Keyed.key a : κ)) = none := by
    refine List.find?_eq_none.2 fun b hb => ?_
    simpa using (List.nodup_append.1 hdistinct).2.2 _ (List.mem_map_of_mem hb) _ (by simp)
  rw [find?, heq, List.find?_append, hearlier, Option.none_or]
  exact List.find?_cons_of_pos (by simp)

omit [DecidableEq κ] in
theorem mem_ascending [LE κ] [DecidableRel (α := κ) (· ≤ ·)] {r : Register α} {a : α} :
    a ∈ r.ascending ↔ a ∈ r.entries :=
  (List.mergeSort_perm ..).mem_iff

/-- Registers with the same keys in the same order are told apart by look-ups. -/
theorem eq_of_find? {r s : Register α}
    (hkeys : r.entries.map (Keyed.key : α → κ) = s.entries.map Keyed.key)
    (hfind : ∀ k, r.find? k = s.find? k) : r = s := by
  have hlength : r.entries.length = s.entries.length := by
    simpa using congrArg List.length hkeys
  have hentries : r.entries = s.entries := by
    refine List.ext_getElem hlength fun i hi hi' => ?_
    have hkey : (Keyed.key r.entries[i] : κ) = Keyed.key s.entries[i] := by
      have h := congrArg (fun keys => keys[i]?) hkeys
      simpa [hi, hi'] using h
    have hfound := find?_of_mem (List.getElem_mem hi)
    rw [hfind, hkey, find?_of_mem (List.getElem_mem hi')] at hfound
    exact (Option.some.inj hfound).symm
  cases r
  cases s
  cases hentries
  rfl

end Register

end ExportControl
