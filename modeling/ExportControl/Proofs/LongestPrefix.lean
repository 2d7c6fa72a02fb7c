/-
ExportControl.Proofs.LongestPrefix — which prefix a text is read with.

The prefixes are tried in an order of their own, and the first one that the text
starts with is taken. Of two names that start one text and are equally long both
are the same, so the alphabet decides nothing: what counts is the length, and the
place in the list where a name occurs twice.

  §1 Trial order — `trialOrder` is a stable sort: `pairwise_trialOrder`,
                   `filter_name_trialOrder`.
  §2 Leading     — `Prefix.leads`: the text starts with the prefix;
                   `FirstNamed`: the first listed prefix of a name.
  §3 The longest — `longestPrefix?_eq_some_iff`; `longestPrefix?_filter`: prefixes
                   that do not lead the text do not matter, and in a list of
                   distinct names neither does the order
                   (`longestPrefix?_of_perm`). `longest_prefix_is_found`.
-/
import ExportControl.Taxonomy.Match
import Mathlib.Data.List.Sort

namespace ExportControl

/-! ## §1 Trial order -/

namespace Prefix

variable {p q : Prefix}

theorem precedes_iff :
    p.precedes q = true ↔ q.name.length < p.name.length ∨
      p.name.length = q.name.length ∧ p.name ≤ q.name := by
  simp [precedes]

theorem length_le_of_precedes (h : p.precedes q = true) : q.name.length ≤ p.name.length := by
  rcases precedes_iff.1 h with hlt | ⟨heq, -⟩
  · exact Nat.le_of_lt hlt
  · exact Nat.le_of_eq heq.symm

/-- Prefixes of one name are tried in any order. -/
theorem precedes_of_name_eq (h : p.name = q.name) : p.precedes q = true :=
  precedes_iff.2 (.inr ⟨congrArg String.length h, h ▸ String.le_refl _⟩)

instance : Std.Total fun p q : Prefix => p.precedes q = true where
  total p q := by
    rw [precedes_iff, precedes_iff]
    rcases Nat.lt_trichotomy p.name.length q.name.length with hlt | heq | hlt
    · exact .inr (.inl hlt)
    · rcases String.le_total p.name q.name with hle | hle
      · exact .inl (.inr ⟨heq, hle⟩)
      · exact .inr (.inr ⟨heq.symm, hle⟩)
    · exact .inl (.inl hlt)

instance : IsTrans Prefix fun p q => p.precedes q = true where
  trans p q r hpq hqr := by
    rw [precedes_iff] at hpq hqr ⊢
    rcases hpq with hpq | ⟨hpq, hle⟩ <;> rcases hqr with hqr | ⟨hqr, hle'⟩
    · exact .inl (Nat.lt_trans hqr hpq)
    · exact .inl (hqr ▸ hpq)
    · exact .inl (hpq ▸ hqr)
    · exact .inr ⟨hpq.trans hqr, String.le_trans hle hle'⟩

theorem place_eq_orderedInsert (pre : Prefix) (prefixes : List Prefix) :
    pre.place prefixes = prefixes.orderedInsert (fun p q => p.precedes q = true) pre := by
  induction prefixes with
  | nil => rfl
  | cons other rest ih => rw [place, List.orderedInsert_cons, ih]

end Prefix

section Order

variable {prefixes : List Prefix} {p : Prefix}

theorem trialOrder_eq_insertionSort (prefixes : List Prefix) :
    trialOrder prefixes = (prefixes.filter (·.name ≠ "")).insertionSort
      fun p q => p.precedes q = true := by
  have hplace : Prefix.place = List.orderedInsert fun p q : Prefix => p.precedes q = true := by
    funext pre others
    exact pre.place_eq_orderedInsert others
  rw [trialOrder, hplace, List.insertionSort]

theorem mem_trialOrder : p ∈ trialOrder prefixes ↔ p ∈ prefixes ∧ p.name ≠ "" := by
  rw [trialOrder_eq_insertionSort, List.mem_insertionSort, List.mem_filter, decide_eq_true_iff]

theorem pairwise_trialOrder (prefixes : List Prefix) :
    (trialOrder prefixes).Pairwise fun p q => p.precedes q = true := by
  rw [trialOrder_eq_insertionSort]
  exact List.pairwise_insertionSort _ _

theorem trialOrder_perm (prefixes : List Prefix) :
    (trialOrder prefixes).Perm (prefixes.filter (·.name ≠ "")) := by
  rw [trialOrder_eq_insertionSort]
  exact List.perm_insertionSort _ _

/-- The prefixes of one name are tried as they are listed. -/
theorem filter_name_trialOrder (prefixes : List Prefix) {name : String} (hname : name ≠ "") :
    (trialOrder prefixes).filter (·.name = name) = prefixes.filter (·.name = name) := by
  have hnamed : (prefixes.filter (·.name ≠ "")).filter (·.name = name)
      = prefixes.filter (·.name = name) := by
    rw [List.filter_filter]
    refine List.filter_congr fun q _ => ?_
    by_cases hq : q.name = name <;> simp [hq, hname]
  have hequal : (prefixes.filter (·.name = name)).Pairwise fun p q => p.precedes q = true := by
    refine List.pairwise_of_forall_mem_list fun p hp q hq => Prefix.precedes_of_name_eq ?_
    simp only [List.mem_filter, decide_eq_true_iff] at hp hq
    rw [hp.2, hq.2]
  have hsublist : (prefixes.filter (·.name = name)).Sublist (trialOrder prefixes) := by
    rw [trialOrder_eq_insertionSort, ← hnamed]
    exact List.sublist_insertionSort (hnamed ▸ hequal) List.filter_sublist
  have hkept : (prefixes.filter (·.name = name)).Sublist
      ((trialOrder prefixes).filter (·.name = name)) := by
    simpa using hsublist.filter (·.name = name)
  have hlength := ((trialOrder_perm prefixes).filter (·.name = name)).length_eq
  rw [hnamed] at hlength
  exact (hkept.eq_of_length hlength.symm).symm

end Order

/-! ## §2 Leading -/

/-- Whether a text starts with the prefix; a prefix without a name starts none. -/
def Prefix.leads (pre : Prefix) (text : String) : Bool :=
  pre.name != "" && pre.name.toList.isPrefixOf text.toList

/-- The first listed prefix of its name. -/
def FirstNamed (prefixes : List Prefix) (p : Prefix) : Prop :=
  ∃ earlier later, prefixes = earlier ++ p :: later ∧ ∀ q ∈ earlier, q.name ≠ p.name

section Leading

variable {prefixes : List Prefix} {p q : Prefix} {text : String}

theorem Prefix.leads_iff : p.leads text = true ↔ p.name ≠ "" ∧ p.name.toList <+: text.toList := by
  simp [Prefix.leads]

/-- Leading is a matter of the name alone. -/
theorem Prefix.leads_congr (h : q.name = p.name) : q.leads text = p.leads text := by
  rw [Prefix.leads, Prefix.leads, h]

/-- Only one name of each length leads a text. -/
theorem Prefix.name_eq_of_leads (hp : p.leads text = true) (hq : q.leads text = true)
    (hlen : q.name.length = p.name.length) : q.name = p.name := by
  have hp := (Prefix.leads_iff.1 hp).2
  have hq := (Prefix.leads_iff.1 hq).2
  have hlen : q.name.toList.length = p.name.toList.length := by
    rw [String.length_toList, String.length_toList, hlen]
  rw [← String.toList_inj]
  exact (List.prefix_of_prefix_length_le hq hp (Nat.le_of_eq hlen)).eq_of_length hlen

theorem firstNamed_iff : FirstNamed prefixes p ↔ prefixes.find? (·.name = p.name) = some p := by
  simp [FirstNamed, List.find?_eq_some_iff_append]

theorem FirstNamed.mem (h : FirstNamed prefixes p) : p ∈ prefixes :=
  List.mem_of_find?_eq_some (firstNamed_iff.1 h)

theorem FirstNamed.unique (hp : FirstNamed prefixes p) (hq : FirstNamed prefixes q)
    (hname : q.name = p.name) : q = p := by
  rw [firstNamed_iff] at hp hq
  rw [hname, hp] at hq
  exact (Option.some.inj hq).symm

/-- Where all names differ, every prefix is the first of its name. -/
theorem firstNamed_iff_mem (hnames : (prefixes.map Prefix.name).Nodup) :
    FirstNamed prefixes p ↔ p ∈ prefixes := by
  refine ⟨FirstNamed.mem, fun hmem => ?_⟩
  obtain ⟨earlier, later, rfl⟩ := List.append_of_mem hmem
  refine ⟨earlier, later, rfl, fun q hq hname => ?_⟩
  rw [List.map_append, List.map_cons, List.nodup_append] at hnames
  exact hnames.2.2 q.name (List.mem_map_of_mem hq) p.name (by simp) hname

/-- Prefixes that do not lead the text leave the first one of a leading name what it is. -/
theorem firstNamed_filter_leads (hp : p.leads text = true) :
    FirstNamed (prefixes.filter (·.leads text)) p ↔ FirstNamed prefixes p := by
  rw [firstNamed_iff, firstNamed_iff, List.find?_filter]
  have hsame (q : Prefix) : (q.leads text = true ∧ decide (q.name = p.name) = true)
      ↔ q.name = p.name := by
    rw [decide_eq_true_iff, and_iff_right_iff_imp]
    intro hname
    rw [Prefix.leads_congr hname, hp]
  simp only [hsame]

end Leading

/-! ## §3 The longest -/

section Longest

variable {prefixes others extra : List Prefix} {p : Prefix} {text : String}

theorem longestPrefix?_eq_none_iff :
    longestPrefix? prefixes text = none ↔ ∀ q ∈ prefixes, q.leads text = false := by
  simp only [longestPrefix?, List.find?_eq_none, mem_trialOrder, ← Bool.not_eq_true,
    Prefix.leads_iff, List.isPrefixOf_iff_prefix, not_and, and_imp]

/-- What is found leads the text, and nothing that leads the text is longer or stands before it
under the same name. -/
theorem of_longestPrefix?_eq_some (h : longestPrefix? prefixes text = some p) :
    p.leads text = true ∧ FirstNamed prefixes p ∧
      ∀ q ∈ prefixes, q.leads text = true → q.name.length ≤ p.name.length := by
  rw [longestPrefix?, List.find?_eq_some_iff_append] at h
  obtain ⟨hstarts, tried, untried, hsplit, htried⟩ := h
  have hmem : p ∈ trialOrder prefixes := by simp [hsplit]
  have hname := (mem_trialOrder.1 hmem).2
  have hleads : p.leads text = true :=
    Prefix.leads_iff.2 ⟨hname, List.isPrefixOf_iff_prefix.1 hstarts⟩
  have hpassed : ∀ q ∈ tried, q.leads text = false := by
    intro q hq
    have hnot : q.name.toList.isPrefixOf text.toList = false := by simpa using htried q hq
    rw [Prefix.leads, hnot, Bool.and_false]
  refine ⟨hleads, ?firstNamed, ?longest⟩
  case firstNamed =>
    have hother : tried.filter (·.name = p.name) = [] := by
      refine List.filter_eq_nil_iff.2 fun q hq hqname => ?_
      have hnot := hpassed q hq
      rw [Prefix.leads_congr (of_decide_eq_true hqname), hleads] at hnot
      cases hnot
    have hfilter := filter_name_trialOrder prefixes hname
    rw [hsplit, List.filter_append, hother, List.nil_append,
      List.filter_cons_of_pos (by simp), eq_comm, List.filter_eq_cons_iff] at hfilter
    obtain ⟨earlier, later, hlist, hearlier, -⟩ := hfilter
    exact ⟨earlier, later, hlist, fun q hq => by simpa using hearlier q hq⟩
  case longest =>
    intro q hq hqleads
    have hqtried : q ∈ trialOrder prefixes := mem_trialOrder.2 ⟨hq, (Prefix.leads_iff.1 hqleads).1⟩
    have hsorted := pairwise_trialOrder prefixes
    rw [hsplit] at hqtried hsorted
    rcases List.mem_append.1 hqtried with hqtried | hqtried
    · rw [hpassed q hqtried] at hqleads
      cases hqleads
    · rcases List.mem_cons.1 hqtried with rfl | hqtried
      · exact Nat.le_refl _
      · exact Prefix.length_le_of_precedes
          ((List.pairwise_cons.1 (List.pairwise_append.1 hsorted).2.1).1 q hqtried)

/-- The prefix found is told by the list, without the order of trial. -/
theorem longestPrefix?_eq_some_iff :
    longestPrefix? prefixes text = some p ↔
      p.leads text = true ∧ FirstNamed prefixes p ∧
        ∀ q ∈ prefixes, q.leads text = true → q.name.length ≤ p.name.length := by
  refine ⟨of_longestPrefix?_eq_some, fun ⟨hleads, hfirst, hlongest⟩ => ?_⟩
  cases hfound : longestPrefix? prefixes text with
  | none =>
    have hnot := longestPrefix?_eq_none_iff.1 hfound p hfirst.mem
    rw [hleads] at hnot
    cases hnot
  | some q =>
    obtain ⟨hqleads, hqfirst, hqlongest⟩ := of_longestPrefix?_eq_some hfound
    have hlength := Nat.le_antisymm (hlongest q hqfirst.mem hqleads)
      (hqlongest p hfirst.mem hleads)
    rw [hfirst.unique hqfirst (p.name_eq_of_leads hleads hqleads hlength)]

/-- Prefixes that do not lead the text do not matter. -/
theorem longestPrefix?_filter (prefixes : List Prefix) (text : String) :
    longestPrefix? (prefixes.filter (·.leads text)) text = longestPrefix? prefixes text := by
  refine Option.ext fun p => ?_
  rw [longestPrefix?_eq_some_iff, longestPrefix?_eq_some_iff]
  refine and_congr_right fun hleads => and_congr (firstNamed_filter_leads hleads) ?_
  simp only [List.mem_filter, and_imp]
  exact forall₂_congr fun q _ => ⟨fun h hq => h hq hq, fun h _ hq => h hq⟩

/-- Where all names differ, the order of the list does not matter. -/
theorem longestPrefix?_of_perm (hnames : (prefixes.map Prefix.name).Nodup)
    (hperm : others.Perm prefixes) :
    longestPrefix? others text = longestPrefix? prefixes text := by
  have hnames' : (others.map Prefix.name).Nodup := (hperm.map Prefix.name).nodup_iff.2 hnames
  refine Option.ext fun p => ?_
  simp only [longestPrefix?_eq_some_iff, firstNamed_iff_mem hnames, firstNamed_iff_mem hnames',
    hperm.mem_iff]

/-- Whatever is put in between that does not lead the text, the same prefix is found. -/
theorem longestPrefix?_of_sublist (hextra : ∀ q ∈ extra, q.leads text = false)
    (hsublist : prefixes.Sublist others) (hperm : others.Perm (prefixes ++ extra)) :
    longestPrefix? others text = longestPrefix? prefixes text := by
  have hnone : extra.filter (·.leads text) = [] :=
    List.filter_eq_nil_iff.2 fun q hq => by simp [hextra q hq]
  have hlength := (hperm.filter (·.leads text)).length_eq
  rw [List.filter_append, hnone, List.append_nil] at hlength
  rw [← longestPrefix?_filter others,
    ← (hsublist.filter (·.leads text)).eq_of_length hlength.symm, longestPrefix?_filter]

/-- **The longest prefix is found.** No prefix is found exactly where the text starts with no
listed prefix that has a name. A prefix is found exactly where the text starts with it, no listed
prefix that the text starts with is longer, and it is the first listed one of its name. So in a
list of distinct names the order does not matter, and prefixes that the text does not start with
matter in no list, wherever they are put in. -/
theorem longest_prefix_is_found (prefixes : List Prefix) (text : String) :
    (longestPrefix? prefixes text = none ↔
      ∀ q ∈ prefixes, q.name ≠ "" → ¬ q.name.toList <+: text.toList) ∧
    (∀ p, longestPrefix? prefixes text = some p ↔
      (p.name ≠ "" ∧ p.name.toList <+: text.toList) ∧ FirstNamed prefixes p ∧
        ∀ q ∈ prefixes, q.name.toList <+: text.toList → q.name.length ≤ p.name.length) ∧
    ((prefixes.map Prefix.name).Nodup → ∀ others : List Prefix, others.Perm prefixes →
      longestPrefix? others text = longestPrefix? prefixes text) ∧
    ∀ extra others : List Prefix,
      (∀ q ∈ extra, q.name = "" ∨ ¬ q.name.toList <+: text.toList) →
      prefixes.Sublist others → others.Perm (prefixes ++ extra) →
        longestPrefix? others text = longestPrefix? prefixes text := by
  refine ⟨?none, fun p => ?some, fun hnames others hperm => longestPrefix?_of_perm hnames hperm,
    fun extra others hextra hsublist hperm => longestPrefix?_of_sublist ?extra hsublist hperm⟩
  case none =>
    rw [longestPrefix?_eq_none_iff]
    refine forall₂_congr fun q _ => ?_
    rw [← Bool.not_eq_true, Prefix.leads_iff, not_and]
  case some =>
    rw [longestPrefix?_eq_some_iff, Prefix.leads_iff]
    refine and_congr_right fun _ => and_congr_right fun _ => forall₂_congr fun q _ => ?_
    rw [Prefix.leads_iff]
    constructor
    · intro h hstarts
      by_cases hname : q.name = ""
      · simp [hname]
      · exact h ⟨hname, hstarts⟩
    · rintro h ⟨-, hstarts⟩
      exact h hstarts
  case extra =>
    intro q hq
    rw [← Bool.not_eq_true, Prefix.leads_iff, not_and_or, not_not]
    exact hextra q hq

/-- A name that is listed twice is read as the first of the two, wherever prefixes are put in that
the text does not start with; one of them is as long, and one has no name. -/
theorem repeated_name_is_found_first :
    let tools : Prefix := ⟨⟨1⟩, "tools"⟩
    let first : Prefix := ⟨⟨2⟩, "tools für"⟩
    let again : Prefix := ⟨⟨3⟩, "tools für"⟩
    let spares : Prefix := ⟨⟨4⟩, "spare für"⟩
    let nameless : Prefix := ⟨⟨5⟩, ""⟩
    let text := "tools für dogs"
    longestPrefix? [tools, first, again] text = some first ∧
      longestPrefix? [spares, tools, first, nameless, again] text = some first ∧
      longestPrefix? [tools, again] text = some again ∧
      longestPrefix? [again, tools] text = some again := by
  intro tools first again spares nameless text
  obtain ⟨-, hsome, -, hadded⟩ := longest_prefix_is_found [tools, first, again] text
  obtain ⟨-, hsome', horder, -⟩ := longest_prefix_is_found [tools, again] text
  have hfirst : longestPrefix? [tools, first, again] text = some first :=
    (hsome first).2 ⟨by decide, ⟨[tools], [again], rfl, by decide⟩, by decide⟩
  have hagain : longestPrefix? [tools, again] text = some again :=
    (hsome' again).2 ⟨by decide, ⟨[tools], [], rfl, by decide⟩, by decide⟩
  refine ⟨hfirst, ?_, hagain, ?_⟩
  · rw [hadded [spares, nameless] _ (by decide) (by decide) (by decide), hfirst]
  · rw [horder (by decide) [again, tools] (by decide), hagain]

end Longest

end ExportControl
