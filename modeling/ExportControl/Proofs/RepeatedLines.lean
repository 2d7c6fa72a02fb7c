/-
ExportControl.Proofs.RepeatedLines — which line items a batch names more than once.

A line item is reported once, where the batch names it for the second time. So the
report follows the second places in which line items stand; these may come in
another order than the first ones.

  §1 Places  — `StandsAt`: where a list names a line item for the first time, the
               second time and so on; `Precedes` compares two of them.
  §2 Reports — `repeatedIds_eq`: the members of a list that stand there for the
               second time.
  §3 Desks   — `repeated_lines_are_reported`: when a batch is refused because of
               repeated lines, and what is reported then.
-/
import ExportControl.Proofs.Composition
import ExportControl.Proofs.Outcome

namespace ExportControl

/-! ## §1 Places -/

variable {ids : List LineItemId} {n i j : Nat} {id other : LineItemId}

/-- The list names a line item in a place, after it has named it `n` times. -/
def StandsAt (ids : List LineItemId) (n : Nat) (id : LineItemId) (i : Nat) : Prop :=
  ids[i]? = some id ∧ (ids.take i).count id = n

/-- The list has named one line item `n` times, and names it again, before it does so with
another. -/
def Precedes (ids : List LineItemId) (n : Nat) (id other : LineItemId) : Prop :=
  ∃ i j, StandsAt ids n id i ∧ StandsAt ids n other j ∧ i < j

theorem count_take_lt (hplace : ids[i]? = some id) (hlt : i < j) :
    (ids.take i).count id < (ids.take j).count id := by
  have hsucc : (ids.take (i + 1)).count id = (ids.take i).count id + 1 := by
    rw [List.take_add_one, hplace]
    simp
  have hle : (ids.take (i + 1)).count id ≤ (ids.take j).count id :=
    (List.take_sublist_take_left hlt).count_le id
  omega

/-- There is one place at most in which a line item stands for the first time, and so on. -/
theorem StandsAt.unique (hi : StandsAt ids n id i) (hj : StandsAt ids n id j) : i = j := by
  rcases Nat.lt_trichotomy i j with hlt | heq | hgt
  · have hcount := count_take_lt hi.1 hlt
    rw [hi.2, hj.2] at hcount
    omega
  · exact heq
  · have hcount := count_take_lt hj.1 hgt
    rw [hi.2, hj.2] at hcount
    omega

theorem exists_standsAt_iff : (∃ i, StandsAt ids n id i) ↔ n < ids.count id := by
  constructor
  · rintro ⟨i, hplace, rfl⟩
    have hlt : i < ids.length := (List.getElem?_eq_some_iff.1 hplace).1
    have hcount := count_take_lt hplace hlt
    rwa [List.take_length] at hcount
  · intro hlt
    induction ids generalizing n with
    | nil => simp at hlt
    | cons head ids ih =>
      by_cases hhead : head = id
      · subst hhead
        cases n with
        | zero => exact ⟨0, rfl, rfl⟩
        | succ n =>
          obtain ⟨i, hplace, hcount⟩ := ih (by simpa using hlt)
          exact ⟨i + 1, hplace, by simp [hcount]⟩
      · obtain ⟨i, hplace, hcount⟩ := ih (by simpa [hhead] using hlt)
        exact ⟨i + 1, hplace, by simp [hcount, hhead]⟩

theorem Precedes.asymm (h : Precedes ids n id other) : ¬ Precedes ids n other id := by
  obtain ⟨i, j, hi, hj, hlt⟩ := h
  rintro ⟨j', i', hj', hi', hlt'⟩
  have hii := hi.unique hi'
  have hjj := hj.unique hj'
  omega

/-- Of two line items that are named often enough, one precedes the other. -/
theorem precedes_or_precedes (hid : n < ids.count id) (hother : n < ids.count other)
    (hne : id ≠ other) : Precedes ids n id other ∨ Precedes ids n other id := by
  obtain ⟨i, hi⟩ := exists_standsAt_iff.2 hid
  obtain ⟨j, hj⟩ := exists_standsAt_iff.2 hother
  rcases Nat.lt_trichotomy i j with hlt | rfl | hgt
  · exact .inl ⟨i, j, hi, hj, hlt⟩
  · exact absurd (Option.some.inj (hi.1.symm.trans hj.1)) hne
  · exact .inr ⟨j, i, hj, hi, hgt⟩

/-! ## §2 Reports -/

/-- The entries of a list with their places, as far as they stand there for the second time. -/
def secondPlaces (ids : List LineItemId) : List (LineItemId × Nat) :=
  ids.zipIdx.filter fun entry => (ids.take entry.2).count entry.1 = 1

/-- What is still to be reported behind the first entries of a list: what was seen and what was
reported stand for their counts among these entries. -/
theorem repeatedFrom_eq {seen found front rest : List LineItemId}
    (hseen : ∀ id, id ∈ seen ↔ 0 < front.count id)
    (hfound : ∀ id, id ∈ found ↔ 1 < front.count id) :
    repeatedFrom seen found rest =
      ((rest.zipIdx front.length).filter fun entry =>
        ((front ++ rest).take entry.2).count entry.1 = 1).map Prod.fst := by
  induction rest generalizing seen found front with
  | nil => rfl
  | cons head rest ih =>
    have hfront : front ++ head :: rest = (front ++ [head]) ++ rest := by simp
    have hlength : front.length + 1 = (front ++ [head]).length := by simp
    have hhead : ((front ++ head :: rest).take front.length).count head = front.count head := by
      rw [List.take_left]
    have hcount : ∀ id, (front ++ [head]).count id
        = front.count id + if head = id then 1 else 0 := by
      intro id
      rw [List.count_append, List.count_singleton]
      simp
    rw [repeatedFrom, List.zipIdx_cons, List.filter_cons, hhead, hlength, hfront]
    by_cases hold : head ∈ seen
    · have hpos := (hseen head).1 hold
      -- The head was seen before, so seeing it again adds nothing to what was seen.
      have hseen' : ∀ id, id ∈ seen ↔ 0 < (front ++ [head]).count id := by
        intro id
        rw [hseen, hcount]
        split
        · subst_vars
          omega
        · omega
      by_cases hreported : head ∈ found
      · have hmany := (hfound head).1 hreported
        rw [if_pos hold, if_pos hreported, if_neg (by simp; omega)]
        refine ih hseen' fun id => ?_
        rw [hfound, hcount]
        split
        · subst_vars
          omega
        · omega
      · have hone : front.count head = 1 := by
          have := mt (hfound head).2 hreported
          omega
        rw [if_pos hold, if_neg hreported, if_pos (by simp [hone]), List.map_cons]
        congr 1
        refine ih hseen' fun id => ?_
        rw [List.mem_cons, hfound, hcount]
        split
        · subst_vars
          simp [hone]
        · rename_i hne
          simp [Ne.symm hne]
    · have hzero : front.count head = 0 := by
        have := mt (hseen head).2 hold
        omega
      rw [if_neg hold, if_neg (by simp [hzero])]
      refine ih (fun id => ?_) fun id => ?_
      · rw [List.mem_cons, hseen, hcount]
        split
        · subst_vars
          simp
        · rename_i hne
          simp [Ne.symm hne]
      · rw [hfound, hcount]
        split
        · subst_vars
          omega
        · omega

/-- A line item is reported where it stands for the second time. -/
theorem repeatedIds_eq (ids : List LineItemId) :
    repeatedIds ids = (secondPlaces ids).map Prod.fst :=
  @repeatedFrom_eq [] [] [] ids (by simp) (by simp)

theorem mem_secondPlaces_iff : (id, i) ∈ secondPlaces ids ↔ StandsAt ids 1 id i := by
  simp [secondPlaces, StandsAt, List.mem_zipIdx_iff_getElem?]

theorem secondPlaces_pairwise (ids : List LineItemId) :
    (secondPlaces ids).Pairwise fun a b => a.2 < b.2 := by
  have hplaces : (ids.zipIdx.map Prod.snd).Pairwise (· < ·) := by
    rw [List.zipIdx_map_snd]
    exact List.pairwise_lt_range'
  exact (List.pairwise_map.1 hplaces).filter _

theorem mem_repeatedIds_iff : id ∈ repeatedIds ids ↔ 1 < ids.count id := by
  rw [repeatedIds_eq, ← exists_standsAt_iff]
  simp [mem_secondPlaces_iff]

theorem repeatedIds_pairwise (ids : List LineItemId) :
    (repeatedIds ids).Pairwise (Precedes ids 1) := by
  rw [repeatedIds_eq, List.pairwise_map]
  refine (secondPlaces_pairwise ids).imp_of_mem ?_
  rintro ⟨id, i⟩ ⟨other, j⟩ hi hj hlt
  exact ⟨i, j, mem_secondPlaces_iff.1 hi, mem_secondPlaces_iff.1 hj, hlt⟩

theorem nodup_repeatedIds (ids : List LineItemId) : (repeatedIds ids).Nodup := by
  refine (repeatedIds_pairwise ids).imp ?_
  rintro id _ h rfl
  exact h.asymm h

/-- The report follows the first places exactly where these come in the order of the second
ones. -/
theorem repeatedIds_pairwise_first_iff :
    (repeatedIds ids).Pairwise (Precedes ids 0) ↔
      ∀ id other, 1 < ids.count id → 1 < ids.count other →
        Precedes ids 0 id other → Precedes ids 1 id other := by
  constructor
  · intro hfirst id other hid hother hprecedes
    obtain ⟨p, hp, hpid⟩ := List.getElem_of_mem (mem_repeatedIds_iff.2 hid)
    obtain ⟨q, hq, hqother⟩ := List.getElem_of_mem (mem_repeatedIds_iff.2 hother)
    rcases Nat.lt_trichotomy p q with hlt | rfl | hgt
    · have hsecond := List.pairwise_iff_getElem.1 (repeatedIds_pairwise ids) p q hp hq hlt
      rwa [hpid, hqother] at hsecond
    · have hsame : id = other := hpid.symm.trans hqother
      subst hsame
      exact absurd hprecedes hprecedes.asymm
    · have hback := List.pairwise_iff_getElem.1 hfirst q p hq hp hgt
      rw [hpid, hqother] at hback
      exact absurd hprecedes hback.asymm
  · intro hsame
    refine (repeatedIds_pairwise ids).imp_of_mem ?_
    intro id other hid hother hsecond
    have hid := mem_repeatedIds_iff.1 hid
    have hother := mem_repeatedIds_iff.1 hother
    have hne : id ≠ other := by
      rintro rfl
      exact hsecond.asymm hsecond
    rcases precedes_or_precedes (Nat.zero_lt_of_lt hid) (Nat.zero_lt_of_lt hother) hne with
      hfirst | hfirst
    · exact hfirst
    · exact absurd (hsame _ _ hother hid hfirst) hsecond.asymm

/-! ## §3 Desks -/

namespace Catalog

variable {catalog : Catalog} {case : CaseId} {view : CaseView} {reviewer : ReviewerId}
  {decisions : List Decision} {now : Instant} {listed : List LineItemId}

/-- A batch on an open case is refused because of repeated lines where there are any, before
anything else is looked at. -/
theorem review_eq_duplicateIds_iff (hview : catalog.caseView? case = some view)
    (hopen : view.status.isTerminal = false) :
    catalog.review case reviewer decisions now = .error (.duplicateIds listed) ↔
      listed = repeatedIds (decisions.map Decision.id) ∧ listed ≠ [] := by
  by_cases hnone : repeatedIds (decisions.map Decision.id) = []
  · have hspec := catalog.review_spec case reviewer decisions now
    constructor
    · intro hreview
      rw [hreview] at hspec
      simp only [refusal?, hview, hopen, if_pos (repeatedIds_eq_nil_iff.1 hnone)] at hspec
      split at hspec
      · cases hspec
      · split at hspec
        · obtain ⟨good, -, heq⟩ := Option.map_eq_some_iff.1 hspec
          cases heq
        · cases hspec
    · rintro ⟨rfl, hne⟩
      exact absurd hnone hne
  · rw [review, hview]
    simp only [hopen, Bool.false_eq_true, if_false, ne_eq, hnone, not_false_eq_true, if_true,
      Except.error.injEq, AssessError.duplicateIds.injEq]
    constructor
    · rintro rfl
      exact ⟨rfl, hnone⟩
    · rintro ⟨rfl, -⟩
      rfl

end Catalog

namespace Desk

/-- **Repeated lines.** A batch of a permitted reviewer on an open case is refused because of
repeated lines exactly where a line item is named more than once. Every such line item is then
reported once, in the order in which they are named for the second time. This is the order in
which they are first named only where the two orders agree. -/
theorem repeated_lines_are_reported {desk : Desk} {catalog : Catalog} {case : CaseId}
    {view : CaseView} {reviewer : ReviewerId} (hmay : desk.mayReview reviewer = .ok true)
    (haccess : desk.store.access = .ok catalog) (hview : catalog.caseView? case = some view)
    (hopen : view.status.isTerminal = false) (decisions : List Decision) (now : Instant) :
    let ids := decisions.map Decision.id
    ((∃ listed, (desk.assess case reviewer decisions now).2 = .error (.duplicateIds listed)) ↔
      ∃ id, 1 < ids.count id) ∧
    ∀ listed, (desk.assess case reviewer decisions now).2 = .error (.duplicateIds listed) →
      listed.Nodup ∧ (∀ id, id ∈ listed ↔ 1 < ids.count id) ∧
      listed.Pairwise (Precedes ids 1) ∧
      (listed.Pairwise (Precedes ids 0) ↔
        ∀ id other, 1 < ids.count id → 1 < ids.count other →
          Precedes ids 0 id other → Precedes ids 1 id other) := by
  intro ids
  have hrefused : ∀ listed,
      (desk.assess case reviewer decisions now).2 = .error (.duplicateIds listed) ↔
        listed = repeatedIds ids ∧ listed ≠ [] := by
    intro listed
    have hreview : catalog.review case reviewer decisions now = .error (.duplicateIds listed) ↔
        listed = repeatedIds ids ∧ listed ≠ [] := Catalog.review_eq_duplicateIds_iff hview hopen
    rw [outcome_of_mayReview hmay haccess, ← hreview]
    cases catalog.review case reviewer decisions now <;> simp [Except.map]
  simp only [hrefused]
  constructor
  · constructor
    · rintro ⟨_, rfl, hne⟩
      obtain ⟨id, hid⟩ := List.exists_mem_of_ne_nil _ hne
      exact ⟨id, mem_repeatedIds_iff.1 hid⟩
    · rintro ⟨id, hid⟩
      exact ⟨_, rfl, List.ne_nil_of_mem (mem_repeatedIds_iff.2 hid)⟩
  · rintro _ ⟨rfl, -⟩
    exact ⟨nodup_repeatedIds ids, fun _ => mem_repeatedIds_iff, repeatedIds_pairwise ids,
      repeatedIds_pairwise_first_iff⟩

/-- A batch that names two line items twice, one of them around the other. -/
def nestedBatch : List Decision :=
  [.blank ⟨"line-1"⟩, .blank ⟨"line-2"⟩, .blank ⟨"line-2"⟩, .blank ⟨"line-1"⟩]

theorem nested_lines_are_reported :
    (sharedGood.assess ⟨"case-1"⟩ ⟨"officer"⟩ nestedBatch ⟨2024, 5, 1, 36000, 0⟩).2
        = .error (.duplicateIds [⟨"line-2"⟩, ⟨"line-1"⟩]) ∧
      [⟨"line-2"⟩, ⟨"line-1"⟩].Pairwise (Precedes (nestedBatch.map Decision.id) 1) := by
  have hrefused : (sharedGood.assess ⟨"case-1"⟩ ⟨"officer"⟩ nestedBatch ⟨2024, 5, 1, 36000, 0⟩).2
      = .error (.duplicateIds [⟨"line-2"⟩, ⟨"line-1"⟩]) := rfl
  have hmay : sharedGood.mayReview ⟨"officer"⟩ = .ok true := rfl
  have hview : sharedGood.store.catalog.caseView? ⟨"case-1"⟩
      = some ⟨⟨"case-1"⟩, .underReview, [⟨"line-1"⟩, ⟨"line-2"⟩]⟩ := rfl
  obtain ⟨-, hreported⟩ :=
    repeated_lines_are_reported hmay rfl hview rfl nestedBatch ⟨2024, 5, 1, 36000, 0⟩
  exact ⟨hrefused, (hreported _ hrefused).2.2.1⟩

/-- The line item that is named first is reported last. -/
theorem first_named_line_is_reported_last :
    (sharedGood.assess ⟨"case-1"⟩ ⟨"officer"⟩ nestedBatch ⟨2024, 5, 1, 36000, 0⟩).2
        = .error (.duplicateIds [⟨"line-2"⟩, ⟨"line-1"⟩]) ∧
      ¬ [⟨"line-2"⟩, ⟨"line-1"⟩].Pairwise (Precedes (nestedBatch.map Decision.id) 0) := by
  have hfirst : Precedes (nestedBatch.map Decision.id) 0 ⟨"line-1"⟩ ⟨"line-2"⟩ :=
    ⟨0, 1, ⟨rfl, rfl⟩, ⟨rfl, rfl⟩, by decide⟩
  refine ⟨rfl, fun h => hfirst.asymm ?_⟩
  simpa using h

end Desk

end ExportControl
