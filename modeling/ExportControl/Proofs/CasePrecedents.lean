/-
ExportControl.Proofs.CasePrecedents — the precedents of a case, told all at once.

The lines of a case are gone through one by one, and what the case directory said
about a case is kept from line to line. The answer is the one that asking anew each
time would give.

  §1 What is known   — `Confirms`: all that is known is what the directory says;
                       asking keeps that (`statusOf_spec`, `shownReviews_spec`).
  §2 Lines of a case — `goodLines`, `precedentsFor`: the lines and their precedents
                       by definition; `precedentsOfLines_eq`: going through the
                       lines gives these, whatever is known at first.
  §3 Desks           — `case_precedents_are_told_by_the_catalogs`.
-/
import ExportControl.Http.Router
import ExportControl.Proofs.CarryingOut

namespace ExportControl

namespace Catalog

/-! ## §1 What is known -/

/-- The status that a directory gives a case; none where it has no such case. -/
def caseStatus? (directory : Catalog) (id : CaseId) : Option CaseStatus :=
  (directory.cases.find? id).map CaseRecord.status

/-- The reviews of a case are shown: the directory has it, in a status that shows them. -/
def showsReviews (directory : Catalog) (id : CaseId) : Bool :=
  (directory.caseStatus? id).any CaseStatus.isPrecedentSource

/-- All that is known of cases is what the directory says. -/
def Confirms (directory : Catalog) (known : KnownStatuses) : Prop :=
  ∀ id answer, known.find? id = some answer → answer.status = directory.caseStatus? id

variable {catalog directory : Catalog} {known : KnownStatuses} {case : CaseId}

theorem confirms_empty (directory : Catalog) : directory.Confirms .empty := by
  intro id answer h
  rw [Register.find?_empty] at h
  cases h

theorem map_status_caseView? (directory : Catalog) (id : CaseId) :
    (directory.caseView? id).map CaseView.status = directory.caseStatus? id := by
  rw [caseView?, caseStatus?, Option.map_map]
  rfl

theorem Confirms.put (h : directory.Confirms known) (id : CaseId) :
    directory.Confirms (known.put { caseId := id, status := directory.caseStatus? id }) := by
  intro other answer hfound
  rw [Register.find?_put] at hfound
  split at hfound
  · rename_i hid
    cases hfound
    exact congrArg directory.caseStatus? hid
  · exact h other answer hfound

/-- What is known answers for the directory, and so it does afterwards. -/
theorem statusOf_spec (h : directory.Confirms known) (id : CaseId) :
    (directory.statusOf known id).1 = directory.caseStatus? id ∧
      directory.Confirms (directory.statusOf known id).2 := by
  rw [statusOf]
  cases hknown : known.find? id with
  | some answer => exact ⟨h id answer hknown, h⟩
  | none =>
    simp only [map_status_caseView?]
    exact ⟨trivial, h.put id⟩

theorem shownReviews_spec (case : CaseId) (h : directory.Confirms known) (items : List LineItem) :
    (directory.shownReviews case known items).1 =
        items.filter (fun item => item.caseId ≠ case && directory.showsReviews item.caseId) ∧
      directory.Confirms (directory.shownReviews case known items).2 := by
  induction items generalizing known with
  | nil => exact ⟨rfl, h⟩
  | cons item items ih =>
    rw [shownReviews]
    by_cases hcase : item.caseId = case
    · simpa [hcase] using ih h
    · obtain ⟨hstatus, hconfirms⟩ := statusOf_spec h item.caseId
      obtain ⟨hshown, hconfirms'⟩ := ih hconfirms
      simp only [hcase, if_false, hstatus, hshown]
      refine ⟨?_, hconfirms'⟩
      rw [List.filter_cons, showsReviews]
      simp [hcase]

/-! ## §2 Lines of a case -/

/-- The lines of a list that the catalog has and that refer to a good, each with that good. -/
def goodLines (catalog : Catalog) (lines : List LineItemId) : List (LineItemId × GoodId) :=
  lines.filterMap fun line => ((catalog.lineItem? line).bind LineItem.goodId?).map (line, ·)

/-- The precedents of a good for a case: of a verified good the line items that refer to it, have
control list entries and belong to another case whose reviews the directory shows. -/
def precedentsFor (catalog directory : Catalog) (case : CaseId) (good : GoodId) : List LineItem :=
  if (catalog.goods.find? good).any Good.isVerified then
    catalog.lineItems.filter fun item =>
      item.goodId? = some good ∧ item.controlListEntries ≠ [] ∧ item.caseId ≠ case ∧
        directory.showsReviews item.caseId
  else []

/-- The precedents of lines: the first good that the catalog does not have is missed, and else
each line has a group of its own. -/
def groupsFor (catalog directory : Catalog) (case : CaseId)
    (lines : List (LineItemId × GoodId)) : Except StoreError (List CasePrecedents) :=
  match lines.find? fun line => !catalog.goods.has line.2 with
  | some (_, missing) => .error (.notFound "good" missing.text)
  | none =>
    .ok (lines.map fun (line, good) =>
      { lineItem := line, good, precedents := catalog.precedentsFor directory case good })

theorem goodLines_cons (line : LineItemId) (lines : List LineItemId) :
    catalog.goodLines (line :: lines) =
      match (catalog.lineItem? line).bind LineItem.goodId? with
      | some good => (line, good) :: catalog.goodLines lines
      | none => catalog.goodLines lines := by
  rw [goodLines, List.filterMap_cons]
  cases (catalog.lineItem? line).bind LineItem.goodId? <;> rfl

theorem groupsFor_cons (line : LineItemId) (good : GoodId) (lines : List (LineItemId × GoodId)) :
    catalog.groupsFor directory case ((line, good) :: lines) =
      if catalog.goods.has good then
        (catalog.groupsFor directory case lines).map fun groups =>
          { lineItem := line, good, precedents := catalog.precedentsFor directory case good }
            :: groups
      else .error (.notFound "good" good.text) := by
  rw [groupsFor, List.find?_cons]
  cases catalog.goods.has good with
  | false => rfl
  | true =>
    simp only [Bool.not_true, if_true, groupsFor]
    cases lines.find? fun line => !catalog.goods.has line.2 <;> rfl

theorem precedents_of_not_has {good : GoodId} (h : catalog.goods.has good = false) :
    catalog.precedents good = .error (.notFound "good" good.text) := by
  rw [precedents, requireGood, Register.find?_of_not_has h]
  rfl

/-- Of the precedents of a good, those of other cases whose reviews are shown are its precedents
for a case. -/
theorem precedents_of_has (directory : Catalog) (case : CaseId) {good : GoodId}
    (h : catalog.goods.has good = true) :
    ∃ items, catalog.precedents good = .ok items ∧
      items.filter (fun item => item.caseId ≠ case && directory.showsReviews item.caseId) =
        catalog.precedentsFor directory case good := by
  obtain ⟨record, hrecord⟩ := Option.isSome_iff_exists.1 h
  have hprecedents : catalog.precedents good
      = .ok (if record.isVerified then catalog.reviewsOf good else []) := by
    rw [precedents, requireGood, hrecord]
    rfl
  refine ⟨_, hprecedents, ?_⟩
  rw [precedentsFor, hrecord, Option.any_some]
  cases record.isVerified with
  | false => rfl
  | true =>
    simp only [if_true, reviewsOf, List.filter_filter]
    refine List.filter_congr fun item _ => ?_
    rw [Bool.eq_iff_iff]
    simp [and_comm, and_assoc, and_left_comm]

/-- Whatever is known of cases, as long as the directory says so too: going through the lines one
by one gives their groups. -/
theorem precedentsOfLines_eq (h : directory.Confirms known) (lines : List LineItemId) :
    catalog.precedentsOfLines directory case known lines =
      catalog.groupsFor directory case (catalog.goodLines lines) := by
  induction lines generalizing known with
  | nil => rfl
  | cons line lines ih =>
    rw [precedentsOfLines, goodLines_cons]
    cases hgood : (catalog.lineItem? line).bind LineItem.goodId? with
    | none => exact ih h
    | some good =>
      simp only [groupsFor_cons]
      cases hhas : catalog.goods.has good with
      | false =>
        rw [precedents_of_not_has hhas]
        rfl
      | true =>
        obtain ⟨items, hitems, hfor⟩ := precedents_of_has directory case hhas
        obtain ⟨hshown, hconfirms⟩ := shownReviews_spec case h items
        simp only [hitems, hshown, hfor, ih hconfirms, if_true]

theorem casePrecedents_eq (view : CaseView) :
    catalog.casePrecedents directory view =
      catalog.groupsFor directory view.id (catalog.goodLines view.lineItems) :=
  precedentsOfLines_eq (confirms_empty directory) view.lineItems

end Catalog

/-! ## §3 Desks -/

namespace Catalog

variable {directory : Catalog} {id : CaseId}

theorem caseView?_of_not_has (h : directory.cases.has id = false) :
    directory.caseView? id = none := by
  rw [caseView?, Register.find?_of_not_has h]
  rfl

theorem caseView?_of_has (h : directory.cases.has id = true) :
    ∃ status, directory.caseView? id
      = some { id, status, lineItems := directory.linesOf id } := by
  obtain ⟨record, hrecord⟩ := Option.isSome_iff_exists.1 h
  exact ⟨record.status, by rw [caseView?, hrecord]; rfl⟩

end Catalog

namespace Desk

variable {desk : Desk} {directory catalog : Catalog} {id : CaseId}

theorem casePrecedents_of_not_has (hdirectory : desk.caseStore.access = .ok directory)
    (hcase : directory.cases.has id = false) :
    desk.casePrecedents id = .error (.caseNotFound id) := by
  simp only [casePrecedents, hdirectory, Catalog.caseView?_of_not_has hcase]

/-- The store is asked only where the case has lines. -/
theorem casePrecedents_of_has (hdirectory : desk.caseStore.access = .ok directory)
    (hcase : directory.cases.has id = true) :
    desk.casePrecedents id =
      if directory.linesOf id = [] then .ok []
      else
        match desk.store.access with
        | .error e => .error (.store e)
        | .ok catalog =>
          (catalog.groupsFor directory id (catalog.goodLines (directory.linesOf id))).mapError
            .store := by
  obtain ⟨status, hview⟩ := Catalog.caseView?_of_has hcase
  simp only [casePrecedents, hdirectory, hview]
  cases hlines : directory.linesOf id with
  | nil => rfl
  | cons line lines =>
    cases desk.store.access with
    | error e => rfl
    | ok catalog => simp only [Catalog.casePrecedents_eq, reduceCtorEq, if_false]

theorem casePrecedents_of_access (hdirectory : desk.caseStore.access = .ok directory)
    (hcase : directory.cases.has id = true) (hstore : desk.store.access = .ok catalog) :
    desk.casePrecedents id =
      (catalog.groupsFor directory id (catalog.goodLines (directory.linesOf id))).mapError
        .store := by
  rw [casePrecedents_of_has hdirectory hcase, hstore]
  split
  · rename_i hnone
    rw [hnone]
    rfl
  · rfl

/-- A case is missed just where the directory does not have it. -/
theorem casePrecedents_eq_caseNotFound_iff (hdirectory : desk.caseStore.access = .ok directory)
    {missing : CaseId} :
    desk.casePrecedents id = .error (.caseNotFound missing) ↔
      missing = id ∧ directory.cases.has id = false := by
  cases hcase : directory.cases.has id with
  | false => simp [casePrecedents_of_not_has hdirectory hcase, eq_comm]
  | true =>
    rw [casePrecedents_of_has hdirectory hcase]
    simp only [Bool.true_eq_false, and_false, iff_false]
    intro h
    split at h
    · cases h
    · split at h
      · cases h
      · rename_i catalog _
        cases hgroups : catalog.groupsFor directory id
            (catalog.goodLines (directory.linesOf id)) <;> rw [hgroups] at h <;> cases h

/-- **The precedents of a case are told by the catalogs.** The case is missed exactly where the
directory does not have it. Otherwise the lines that the directory lists for it are taken in order,
of these the ones that the store has and that refer to a good. If the store lacks one of these
goods, the first such is missed, and if not, each line is given the line items of the store that
are precedents of its good, in the order of the store. What is known of cases beforehand makes no
difference, and a request for precedents leaves the store and the directory as they are. -/
theorem case_precedents_are_told_by_the_catalogs (desk : Desk) (id : CaseId) :
    (∀ e, desk.caseStore.access = .error e → desk.casePrecedents id = .error (.store e)) ∧
    (∀ directory, desk.caseStore.access = .ok directory →
      (∀ missing, desk.casePrecedents id = .error (.caseNotFound missing) ↔
        missing = id ∧ directory.cases.has id = false) ∧
      (directory.cases.has id = true →
        (∀ e, desk.store.access = .error e → desk.casePrecedents id =
          if directory.linesOf id = [] then .ok [] else .error (.store e)) ∧
        ∀ catalog, desk.store.access = .ok catalog →
          desk.casePrecedents id =
            (catalog.groupsFor directory id (catalog.goodLines (directory.linesOf id))).mapError
              .store ∧
          ∀ known, directory.Confirms known →
            catalog.precedentsOfLines directory id known (directory.linesOf id) =
              catalog.precedentsOfLines directory id .empty (directory.linesOf id))) ∧
    ∀ ready now request segment,
      (Http.serve desk ready now request (.precedents segment)).1 = desk := by
  refine ⟨fun e he => by simp only [casePrecedents, he], fun directory hdirectory =>
    ⟨fun missing => casePrecedents_eq_caseNotFound_iff hdirectory, fun hcase =>
      ⟨fun e he => ?outOfUse, fun catalog hstore =>
        ⟨casePrecedents_of_access hdirectory hcase hstore, fun known hknown => ?known⟩⟩⟩,
    fun _ _ _ _ => rfl⟩
  case outOfUse => rw [casePrecedents_of_has hdirectory hcase, he]
  case known =>
    rw [Catalog.precedentsOfLines_eq hknown,
      Catalog.precedentsOfLines_eq (Catalog.confirms_empty directory)]

/-- A desk with a directory of its own. It lists a line that the store does not have and one that
refers to a good that the store does not have; a case that the store has reviews of it does not
have at all. -/
def separateDirectory : Desk where
  store := .ofSeed
    { Seed.empty with
      goods :=
        [⟨⟨"good-1"⟩, "Scope", "", .verified, ["ML1"], some true, none, .none⟩,
         ⟨⟨"good-2"⟩, "Mount", "", .submitted, [], none, none, .none⟩]
      cases := [⟨⟨"case-4"⟩, .finalised⟩]
      lineItems :=
        [rated "line-1" "case-1" (.good ⟨"good-1"⟩), rated "line-2" "case-2" (.good ⟨"good-1"⟩),
         rated "line-3" "case-3" (.good ⟨"good-1"⟩), rated "line-4" "case-4" (.good ⟨"good-1"⟩),
         rated "line-5" "case-1" (.good ⟨"good-2"⟩), rated "line-6" "case-1" (.goodsType "Scopes"),
         rated "line-7" "case-1" (.good ⟨"good-1"⟩), rated "line-8" "case-2" (.good ⟨"good-9"⟩)] }
  directory := some <| .ofSeed
    { Seed.empty with
      cases := [⟨⟨"case-1"⟩, .submitted⟩, ⟨⟨"case-2"⟩, .underReview⟩, ⟨⟨"case-3"⟩, .withdrawn⟩]
      lineItems :=
        [rated "line-7" "case-1" (.good ⟨"good-1"⟩), rated "line-9" "case-1" (.good ⟨"good-1"⟩),
         rated "line-6" "case-1" (.good ⟨"good-1"⟩), rated "line-1" "case-1" (.good ⟨"good-1"⟩),
         rated "line-5" "case-1" (.good ⟨"good-1"⟩), rated "line-2" "case-2" (.good ⟨"good-1"⟩),
         rated "line-8" "case-2" (.good ⟨"good-1"⟩)] }
  permissions := none
where
  rated (line case : String) (product : Product) : LineItem :=
    { LineItem.unassessed ⟨line⟩ ⟨case⟩ product with controlListEntries := ["ML1"] }

/-- The store says what a line refers to and the directory which lines a case has. Of the other
cases only the one under review shows its line, to both lines of the verified good. -/
theorem separate_directory_tells_precedents :
    ((separateDirectory.casePrecedents ⟨"case-1"⟩).map fun groups => groups.map fun group =>
        (group.lineItem, group.good, group.precedents.map LineItem.id))
      = .ok
        [(⟨"line-7"⟩, ⟨"good-1"⟩, [⟨"line-2"⟩]), (⟨"line-1"⟩, ⟨"good-1"⟩, [⟨"line-2"⟩]),
         (⟨"line-5"⟩, ⟨"good-2"⟩, [])] ∧
      separateDirectory.casePrecedents ⟨"case-2"⟩
        = .error (.store (.notFound "good" "good-9")) ∧
      separateDirectory.casePrecedents ⟨"case-4"⟩ = .error (.caseNotFound ⟨"case-4"⟩) := by
  obtain ⟨-, hfirst, -⟩ := case_precedents_are_told_by_the_catalogs separateDirectory ⟨"case-1"⟩
  obtain ⟨-, hsecond, -⟩ := case_precedents_are_told_by_the_catalogs separateDirectory ⟨"case-2"⟩
  obtain ⟨-, hfourth, -⟩ := case_precedents_are_told_by_the_catalogs separateDirectory ⟨"case-4"⟩
  refine ⟨?_, ?_, ?_⟩
  · rw [((hfirst _ rfl).2 rfl |>.2 _ rfl).1]
    decide +kernel
  · rw [((hsecond _ rfl).2 rfl |>.2 _ rfl).1]
    decide +kernel
  · exact ((hfourth _ rfl).1 _).2 ⟨rfl, rfl⟩

end Desk

end ExportControl
