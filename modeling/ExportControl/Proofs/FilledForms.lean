/-
ExportControl.Proofs.FilledForms — forms filled in from what was written for them.

A record that is written with the members of a form, in the order of the form, fills
it in; members in between that the form does not name are set aside. And whatever a
form is filled in from, each of its values was read by its field or is the field's
value where nothing is given.

  §1 Reading   — `Decoder.Reads`: a document is read as a value, whatever room there
                 is beyond its depth; one lemma for each kind of decoder.
  §2 Soundness — `Value.Sound`: a document that may be set aside.
  §3 Filling   — `Form.Fits`: members written for a form; `fill_of_fits`.
  §4 Origins   — `Form.Yields`: where the values of a form come from;
                 `yields_of_fill`, `yields_of_fromItems`.
-/
import ExportControl.Json.Form
import ExportControl.Proofs.JsonText

namespace ExportControl.Json

/-! ## §1 Reading -/

namespace Decoder

variable {α β : Type} {decode : Decoder α} {depth : Nat} {v : Value} {a : α}

/-- A document is read as a value wherever more lists and records may be open than it has
inside each other. -/
def Reads (decode : Decoder α) (depth : Nat) (v : Value) (a : α) : Prop :=
  ∀ room, depth < room → decode room v.toDraft = .ok a

theorem reads_text (depth : Nat) (s : String) : Decoder.text.Reads depth (.text s) s :=
  fun _ _ => rfl

theorem reads_truth (depth : Nat) (b : Bool) : Decoder.truth.Reads depth (.bool b) b :=
  fun _ _ => rfl

theorem reads_natural {limit n : Nat} (hword : limit ≤ wordLimit) (h : n < limit) (depth : Nat) :
    (Decoder.natural limit).Reads depth (.number n) n := by
  intro room _
  rw [Value.toDraft, classify_literalOf (Nat.lt_of_lt_of_le h hword)]
  simp [natural, h]

theorem Reads.map (h : decode.Reads depth v a) (f : α → β) :
    (Decoder.map f decode).Reads depth v (f a) := by
  intro room hroom
  rw [Decoder.map, h room hroom]
  rfl

theorem Reads.refine {f : α → Option β} {b : β} (h : decode.Reads depth v a) (hf : f a = some b) :
    (Decoder.refine f decode).Reads depth v b := by
  intro room hroom
  simp only [Decoder.refine, h room hroom, hf]

/-- Null, or what is written for a value, is read as a value that may be missing. -/
theorem reads_nullable {write : α → Value} (hnull : ∀ a, write a ≠ .null) {o : Option α}
    (h : ∀ a ∈ o, decode.Reads depth (write a) a) :
    (Decoder.nullable decode).Reads depth ((o.map write).getD .null) o := by
  intro room hroom
  cases o with
  | none => rfl
  | some a =>
    have ha := h a rfl room hroom
    rw [Option.map_some, Option.getD_some, nullable]
    · rw [ha]
      rfl
    · have hne := hnull a
      cases hv : write a with
      | null => exact absurd hv hne
      | _ => simp [Value.toDraft]

theorem items_eq_ok {write : α → Value} {as : List α} {room : Nat}
    (h : ∀ a ∈ as, decode room (write a).toDraft = .ok a) :
    Decoder.items decode room (itemDrafts (as.map write)) = .ok as := by
  induction as with
  | nil => rfl
  | cons a as ih =>
    obtain ⟨ha, has⟩ := List.forall_mem_cons.1 h
    rw [List.map_cons, itemDrafts, items, ha, ih has]

theorem reads_list {write : α → Value} {as : List α}
    (h : ∀ a ∈ as, decode.Reads depth (write a) a) :
    (Decoder.list decode).Reads (depth + 1) (.list (as.map write)) as := by
  intro room hroom
  rw [Value.toDraft, list, if_neg (by omega)]
  exact items_eq_ok fun a ha => h a ha (room - 1) (by omega)

theorem reads_choice {names : List (String × α)} {s : String} (h : names.lookup s = some a)
    (depth : Nat) : (Decoder.choice names).Reads depth (.text s) a := by
  intro room _
  simp only [Value.toDraft, choice, h]

end Decoder

/-! ## §2 Soundness -/

namespace Value

variable {depth : Nat}

/-- A document is sound wherever more lists and records may be open than it has inside each
other. -/
def Sound (depth : Nat) (v : Value) : Prop := ∀ room, depth < room → v.toDraft.sound room = true

theorem sound_text (depth : Nat) (s : String) : (text s).Sound depth := fun _ _ => rfl

theorem sound_null (depth : Nat) : null.Sound depth := fun _ _ => rfl

theorem sound_number {n : Nat} (h : n < wordLimit) (depth : Nat) : (number n).Sound depth := by
  intro room _
  rw [toDraft, classify_literalOf h]
  rfl

theorem sound_list {items : List Value} (h : ∀ v ∈ items, v.Sound depth) :
    (list items).Sound (depth + 1) := by
  intro room hroom
  have hitems : (itemDrafts items).sound (room - 1) = true := by
    induction items with
    | nil => rfl
    | cons v vs ih =>
      obtain ⟨hv, hvs⟩ := List.forall_mem_cons.1 h
      simp [itemDrafts, Items.sound, hv (room - 1) (by omega), ih hvs]
  simp only [toDraft, Draft.sound, hitems, Bool.and_true, decide_eq_true_eq]
  omega

theorem sound_record {members : List (String × Value)} (h : ∀ m ∈ members, m.2.Sound depth) :
    (record members).Sound (depth + 1) := by
  intro room hroom
  have hmembers : (memberDrafts members).sound (room - 1) = true := by
    induction members with
    | nil => rfl
    | cons m ms ih =>
      obtain ⟨hm, hms⟩ := List.forall_mem_cons.1 h
      simp [memberDrafts, Members.sound, hm (room - 1) (by omega), ih hms]
  simp only [toDraft, Draft.sound, hmembers, Bool.and_true, decide_eq_true_eq]
  omega

end Value

/-! ## §3 Filling -/

namespace Form

variable {τ : Type} {depth : Nat}

/-- The names of a form's fields. -/
def names : {τ : Type} → Form τ → List String
  | _, .done => []
  | _, .field head _ rest => head.name :: names rest

/-- Members that are written for an empty form: those of its fields, in order and each readable
as the field's value, and in between others to be set aside. -/
inductive Fits (depth : Nat) :
    {τ : Type} → Form τ → τ → List (String × Value) → List (String × Draft) → Prop where
  | done : Fits depth .done () [] []
  | field {α β : Type} {head : Field α} {rest : Form β} {a : α} {b : β} {v : Value}
      {ms : List (String × Value)} {others : List (String × Draft)} :
    head.decode.Reads depth v a → (∀ m ∈ ms, m.1 ≠ head.name) → Fits depth rest b ms others →
      Fits depth (.field head none rest) (a, b) ((head.name, v) :: ms) others
  | spare {τ : Type} {form : Form τ} {values : τ} {name : String} {v : Value}
      {ms : List (String × Value)} {others : List (String × Draft)} :
    name ∉ form.names → v.Sound depth → Fits depth form values ms others →
      Fits depth form values ((name, v) :: ms) ((name, v.toDraft) :: others)

/-- Members that the form does not name may stand in front. -/
theorem Fits.spares {form : Form τ} {values : τ} {ms : List (String × Value)}
    (h : form.Fits depth values ms []) {spares : List (String × Value)}
    (hspares : ∀ m ∈ spares, m.1 ∉ form.names ∧ m.2.Sound depth) :
    form.Fits depth values (spares ++ ms) (spares.map fun m => (m.1, m.2.toDraft)) := by
  induction spares with
  | nil => exact h
  | cons m spares ih =>
    obtain ⟨⟨hname, hsound⟩, hrest⟩ := List.forall_mem_cons.1 hspares
    exact .spare hname hsound (ih hrest)

theorem put_self {α β : Type} {head : Field α} {rest : Form β} {room : Nat} {value : Draft} {a : α}
    (h : head.decode room value = .ok a) :
    (Form.field head none rest).put room head.name value
      = .filled (.field head (some a) rest) := by
  simp only [put, if_true, h]

theorem put_of_ne {α β : Type} {head : Field α} {name : String} (h : head.name ≠ name)
    (slot : Option α) (rest : Form β) (room : Nat) (value : Draft) :
    (Form.field head slot rest).put room name value =
      match rest.put room name value with
      | .filled rest => .filled (.field head slot rest)
      | .unnamed => .unnamed
      | .failed e => .failed e := by
  cases hput : rest.put room name value <;> simp only [put, if_neg h, hput]

theorem put_of_not_mem {form : Form τ} {name : String} (h : name ∉ form.names) (room : Nat)
    (value : Draft) : form.put room name value = .unnamed := by
  induction form with
  | done => rfl
  | field head slot rest ih =>
    rw [names, List.mem_cons, not_or] at h
    rw [put_of_ne (Ne.symm h.1), ih h.2]

/-- A field that is filled in stays as it is as long as no member has its name. -/
theorem fill_field_some {α β : Type} {head : Field α} {ms : List (String × Value)}
    (h : ∀ m ∈ ms, m.1 ≠ head.name) (a : α) (spare : Spare) (room : Nat) (rest : Form β)
    (aside : List (String × Draft)) :
    (Form.field head (some a) rest).fill spare room aside (memberDrafts ms)
      = (fun read => ((a, read.1), read.2)) <$> rest.fill spare room aside (memberDrafts ms) := by
  induction ms generalizing rest aside with
  | nil =>
    simp only [memberDrafts, fill, finish]
    cases rest.finish <;> rfl
  | cons m ms ih =>
    obtain ⟨hname, hms⟩ := List.forall_mem_cons.1 h
    obtain ⟨name, v⟩ := m
    simp only [memberDrafts, fill, put_of_ne (Ne.symm hname)]
    cases rest.put room name v.toDraft with
    | filled form => exact ih hms form aside
    | failed e => rfl
    | unnamed =>
      cases spare with
      | skip =>
        simp only
        split
        · exact ih hms rest aside
        · rfl
      | keep =>
        simp only
        split
        · exact ih hms rest _
        · rfl

/-- Members written for a form fill it in. -/
theorem fill_of_fits {form : Form τ} {values : τ} {ms : List (String × Value)}
    {others : List (String × Draft)} (h : form.Fits depth values ms others) {spare : Spare}
    (hspare : others = [] ∨ spare = .keep) {room : Nat} (hroom : depth < room)
    (aside : List (String × Draft)) :
    form.fill spare room aside (memberDrafts ms) = .ok (values, aside.reverse ++ others) := by
  induction h generalizing aside with
  | done =>
    rw [List.append_nil]
    rfl
  | field hread hnames hrest ih =>
    simp only [memberDrafts, fill, put_self (hread room hroom)]
    rw [fill_field_some hnames, ih hspare]
    rfl
  | spare hname hsound hrest ih =>
    obtain rfl : spare = .keep := hspare.resolve_left (List.cons_ne_nil _ _)
    simp only [memberDrafts, fill, put_of_not_mem hname, hsound room hroom, if_true]
    rw [ih (.inr rfl), List.reverse_cons, List.append_assoc]
    rfl

end Form

/-- A record that is written for a form is read. -/
theorem Decoder.reads_record {τ α : Type} {form : Form τ} {make : τ → α} {values : τ}
    {ms : List (String × Value)} {depth : Nat} {a : α} (h : form.Fits depth values ms [])
    (hmake : make values = a) : (Form.record form make).Reads (depth + 1) (.record ms) a := by
  intro room hroom
  rw [Value.toDraft, Form.record, if_neg (by omega),
    Form.fill_of_fits h (.inl rfl) (show depth < room - 1 by omega), ← hmake]
  rfl

/-! ## §4 Origins -/

namespace Decoder

variable {α β : Type} {decode : Decoder α}

/-- A value that a decoder gives for some document. -/
def Gives (decode : Decoder α) (a : α) : Prop := ∃ room d, decode room d = .ok a

theorem Gives.of_refine {f : α → Option β} {b : β} (h : (Decoder.refine f decode).Gives b) :
    ∃ a, decode.Gives a ∧ f a = some b := by
  obtain ⟨room, d, hread⟩ := h
  simp only [Decoder.refine] at hread
  split at hread
  · rename_i a ha
    split at hread
    · rename_i b' hb
      cases hread
      exact ⟨a, ⟨room, d, ha⟩, hb⟩
    · cases hread
  · cases hread

theorem map_eq_ok_iff {ε : Type} {f : α → β} {x : Except ε α} {b : β} :
    f <$> x = .ok b ↔ ∃ a, x = .ok a ∧ f a = b := by
  cases x <;> simp [Functor.map, Except.map]

theorem Gives.of_nullable {a : α} (h : (Decoder.nullable decode).Gives (some a)) :
    decode.Gives a := by
  obtain ⟨room, d, hread⟩ := h
  rw [nullable.eq_def] at hread
  split at hread
  · cases hread
  · obtain ⟨a', ha, heq⟩ := map_eq_ok_iff.1 hread
    cases heq
    exact ⟨_, _, ha⟩

theorem gives_of_items {room : Nat} {is : Items} {as : List α}
    (h : Decoder.items decode room is = .ok as) : ∀ a ∈ as, decode.Gives a := by
  fun_induction items decode room is generalizing as with
  | case1 =>
    cases h
    simp
  | case5 head tail a ha rest hrest ih =>
    cases h
    exact List.forall_mem_cons.2 ⟨⟨room, head, ha⟩, ih hrest⟩
  | _ => cases h

theorem Gives.of_list {as : List α} (h : (Decoder.list decode).Gives as) :
    ∀ a ∈ as, decode.Gives a := by
  obtain ⟨room, d, hread⟩ := h
  rw [list.eq_def] at hread
  split at hread
  · split at hread
    · cases hread
    · exact gives_of_items hread
  · cases hread

end Decoder

namespace Form

open Decoder (map_eq_ok_iff)

variable {τ : Type} {spare : Spare} {room : Nat}

/-- Where the values of a form come from: each was filled in before, is the value of its field
where nothing is given, or was read by the field. -/
def Yields : {τ : Type} → Form τ → τ → Prop
  | _, .done, _ => True
  | _, .field head slot rest, (a, b) =>
    (slot = some a ∨ head.absent = some a ∨ head.decode.Gives a) ∧ Yields rest b

theorem yields_of_finish {form : Form τ} {values : τ} (h : form.finish = .ok values) :
    form.Yields values := by
  induction form with
  | done => trivial
  | field head slot rest ih =>
    rw [finish] at h
    split at h
    · cases h
    · rename_i a ha
      obtain ⟨b, hrest, heq⟩ := map_eq_ok_iff.1 h
      cases heq
      refine ⟨?_, ih hrest⟩
      cases slot with
      | none => exact .inr (.inl ha)
      | some a' => exact .inl ha

/-- What a form yields once a member is filled in, it yields already. -/
theorem yields_of_put {form filled : Form τ} {values : τ} {name : String} {value : Draft}
    (hput : form.put room name value = .filled filled) (h : filled.Yields values) :
    form.Yields values := by
  induction form with
  | done => cases hput
  | field head slot rest ih =>
    obtain ⟨a, b⟩ := values
    simp only [put] at hput
    split at hput
    · split at hput
      · cases hput
      · rename_i a' hread
        cases hput
        obtain ⟨hvalue, hrest⟩ := h
        refine ⟨?_, hrest⟩
        rcases hvalue with hslot | hvalue
        · cases hslot
          exact .inr (.inr ⟨room, value, hread⟩)
        · exact .inr hvalue
      · cases hput
    · split at hput
      · rename_i rest' hrest'
        cases hput
        exact ⟨h.1, ih hrest' h.2⟩
      · cases hput
      · cases hput

theorem yields_of_fill {form : Form τ} {values : τ} {aside others : List (String × Draft)}
    {members : Members} (h : form.fill spare room aside members = .ok (values, others)) :
    form.Yields values := by
  fun_induction fill spare room form aside members with
  | case1 form aside =>
    obtain ⟨found, hfinish, heq⟩ := map_eq_ok_iff.1 h
    cases heq
    exact yields_of_finish hfinish
  | case4 form aside name value tail filled hput ih => exact yields_of_put hput (ih h)
  | case6 form aside name value tail hskip hput hcomplete ih => exact ih (hskip ▸ h)
  | case8 form aside name value tail hkeep hput hsound ih => exact ih (hkeep ▸ h)
  | _ => cases h

theorem yields_of_fromItems {form : Form τ} {values : τ} {items : Items}
    (h : form.fromItems room items = .ok values) : form.Yields values := by
  induction form generalizing items with
  | done => trivial
  | field head slot rest ih =>
    obtain ⟨a, b⟩ := values
    cases items with
    | cut => simp [fromItems] at h
    | closed =>
      simp only [fromItems] at h
      split at h
      · cases h
      · rename_i a' habsent
        obtain ⟨b', hrest, heq⟩ := map_eq_ok_iff.1 h
        cases heq
        exact ⟨.inr (.inl habsent), ih hrest⟩
    | item value tail =>
      simp only [fromItems] at h
      split at h
      · cases h
      · rename_i a' hread
        obtain ⟨b', hrest, heq⟩ := map_eq_ok_iff.1 h
        cases heq
        exact ⟨.inr (.inr ⟨room, value, hread⟩), ih hrest⟩

/-- What is read as a record was made from values that the form yields. -/
theorem exists_yields_of_record {α : Type} {form : Form τ} {make : τ → α} {d : Draft} {a : α}
    (h : Form.record form make room d = .ok a) :
    ∃ values, form.Yields values ∧ make values = a := by
  cases d with
  | record members =>
    rw [record] at h
    split at h
    · cases h
    · obtain ⟨⟨values, others⟩, hfill, hmake⟩ := map_eq_ok_iff.1 h
      exact ⟨values, yields_of_fill hfill, hmake⟩
  | list items =>
    rw [record] at h
    split at h
    · cases h
    · obtain ⟨values, hitems, hmake⟩ := map_eq_ok_iff.1 h
      exact ⟨values, yields_of_fromItems hitems, hmake⟩
  | _ => cases h

end Form

end ExportControl.Json
