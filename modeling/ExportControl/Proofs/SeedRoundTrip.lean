/-
ExportControl.Proofs.SeedRoundTrip — seeds are read as they were written.

Every type of a seed has an encoder and a decoder. What the encoder writes fills in
the form that the decoder reads, type by type, so that a whole seed comes back as it
was, lists in their order and with their repetitions.

  §1 Terms      — `Prefix.reads`, `Subject.reads`, `Summary.reads`.
  §2 Goods      — `Classification.reads`, `Good.reads`.
  §3 Line items — `LineItem.reads`: its kind is read from the members set aside.
  §4 Seeds      — `seed_round_trips`.
-/
import ExportControl.Catalog.Document
import ExportControl.Proofs.CarryingOut
import ExportControl.Proofs.FilledForms
import ExportControl.Proofs.InstantText
import Mathlib

namespace ExportControl

open Json (Value Decoder Form)

/-! ## §1 Terms -/

theorem Number.reads {term : Term} (n : Number term) (depth : Nat) :
    (Number.decode term).Reads depth n.toJson n := by
  have h := (Decoder.reads_natural (show UInt32.size ≤ Json.wordLimit by decide) n.value.toNat_lt
    depth).map fun n => (⟨UInt32.ofNat n⟩ : Number term)
  rwa [UInt32.ofNat_toNat] at h

theorem Number.sound {term : Term} (n : Number term) (depth : Nat) : n.toJson.Sound depth :=
  Value.sound_number (Nat.lt_trans n.value.toNat_lt (by decide)) depth

theorem Id.reads {kind : Kind} (id : Id kind) (depth : Nat) :
    (Id.decode kind).Reads depth id.toJson id :=
  (Decoder.reads_text depth id.text).map Id.mk

theorem Prefix.reads (p : Prefix) (depth : Nat) : Prefix.decode.Reads (depth + 1) p.toJson p :=
  Decoder.reads_record
    (.field (p.id.reads depth) (by simp) <|
     .field (Decoder.reads_text depth p.name) (by simp) .done)
    rfl

theorem Subject.reads (s : Subject) (depth : Nat) :
    Subject.decode.Reads (depth + 1) s.toJson s := by
  have hlevel : ∀ n : UInt8, (Decoder.map UInt8.ofNat (Decoder.natural UInt8.size)).Reads depth
      (.number n.toNat) n := by
    intro n
    have h := (Decoder.reads_natural (show UInt8.size ≤ Json.wordLimit by decide) n.toNat_lt
      depth).map UInt8.ofNat
    rwa [UInt8.ofNat_toNat] at h
  exact Decoder.reads_record
    (.field (s.id.reads depth) (by simp) <|
     .field (Decoder.reads_text depth s.name) (by simp) <|
     .field (Decoder.reads_nullable (by simp) fun n _ => hlevel n) (by simp) .done)
    rfl

theorem Summary.reads (row : Summary) (depth : Nat) :
    Summary.decode.Reads (depth + 2) row.toJson row :=
  Decoder.reads_record
    (.field (row.id.reads (depth + 1)) (by simp) <|
     .field (Decoder.reads_nullable (by simp [Prefix.toJson]) fun p _ => p.reads depth) (by simp) <|
     .field (row.subject.reads depth) (by simp) .done)
    rfl

theorem Prefix.sound (p : Prefix) (depth : Nat) : p.toJson.Sound (depth + 1) :=
  Value.sound_record (by simp [p.id.sound depth, Value.sound_text])

theorem Subject.sound (s : Subject) (depth : Nat) : s.toJson.Sound (depth + 1) := by
  refine Value.sound_record ?_
  have hlevel : ((s.codeLevel.map fun n => Value.number n.toNat).getD .null).Sound depth := by
    cases s.codeLevel with
    | none => exact Value.sound_null depth
    | some n => exact Value.sound_number (Nat.lt_trans n.toNat_lt (by decide)) depth
  simp [s.id.sound depth, Value.sound_text, hlevel]

theorem Summary.sound (row : Summary) (depth : Nat) : row.toJson.Sound (depth + 2) := by
  refine Value.sound_record ?_
  have hpre : ((row.pre.map Prefix.toJson).getD .null).Sound (depth + 1) := by
    cases row.pre with
    | none => exact Value.sound_null _
    | some p => exact p.sound depth
  simp [row.id.sound (depth + 1), hpre, row.subject.sound depth]

/-! ## §2 Goods -/

/-- A form of one field is filled in from the member set aside for it. -/
theorem fillFrom_required {α : Type} {decode : Decoder α} {depth : Nat} {v : Value} {a : α}
    (h : decode.Reads depth v a) (hdepth : depth < Json.fullRoom) (name : String) :
    (Form.required name decode .done).fillFrom [(name, v.toDraft)] = .ok (a, ()) := by
  have hput := @Form.put_self α Unit { name, decode, absent := none } .done Json.fullRoom v.toDraft
    a (h Json.fullRoom hdepth)
  rw [Form.fillFrom, Form.required, hput]
  rfl

namespace Classification

theorem decodeShape_reads {name : String} {shape : Shape}
    (h : [("legacy", Shape.legacy), ("single", .single), ("multiple", .multiple)].lookup name
      = some shape) (depth : Nat) : decodeShape.Reads depth (.text name) shape :=
  (Decoder.reads_text depth name).refine h

/-- A classification is read from the name of its shape and the member that goes with it. -/
theorem decode_of_shape {name member : String} {shape : Shape} {v : Value} {depth : Nat}
    {c : Classification}
    (hshape : [("legacy", Shape.legacy), ("single", .single), ("multiple", .multiple)].lookup name
      = some shape) (hmember : member ≠ "shape") (hsound : v.Sound depth)
    (hread : ofMembers [(member, v.toDraft)] shape = .ok c) :
    decode.Reads (depth + 1) (.record [("shape", .text name), (member, v)]) c := by
  intro room hroom
  have hfits : (Form.required "shape" decodeShape .done).Fits depth (shape, ())
      [("shape", .text name), (member, v)] [(member, v.toDraft)] :=
    .field (decodeShape_reads hshape depth) (by simp [hmember])
      (.spare (by simp [Form.names]) hsound .done)
  have hfill := Form.fill_of_fits hfits (.inr rfl) (show depth < room - 1 by omega) []
  rw [Value.toDraft, decode, if_neg (by omega), hfill]
  exact hread

theorem reads (c : Classification) (depth : Nat) : decode.Reads (depth + 4) c.toJson c := by
  cases c with
  | legacy text =>
    refine decode_of_shape rfl (by decide) (Value.sound_text _ text) ?_
    rw [ofMembers, fillFrom_required (Decoder.reads_text 0 text) (by decide)]
    rfl
  | single row =>
    refine decode_of_shape rfl (by decide) (row.sound (depth + 1)) ?_
    rw [ofMembers, fillFrom_required (row.reads 0) (by decide)]
    rfl
  | multiple rows =>
    refine decode_of_shape rfl (by decide)
      (Value.sound_list (by simp [Summary.sound])) ?_
    rw [ofMembers, fillFrom_required (Decoder.reads_list fun row _ => row.reads 0) (by decide)]
    rfl

end Classification

theorem Classification.toJson_ne_null (c : Classification) : c.toJson ≠ .null := by
  cases c <;> simp [toJson]

theorem reads_classification (c : Option Classification) (depth : Nat) :
    (Decoder.nullable Classification.decode).Reads (depth + 4) (Classification.orNull c) c :=
  Decoder.reads_nullable Classification.toJson_ne_null fun c _ => c.reads depth

theorem reads_texts (ss : List String) (depth : Nat) :
    (Decoder.list Decoder.text).Reads (depth + 1) (Value.texts ss) ss :=
  Decoder.reads_list fun s _ => Decoder.reads_text depth s

theorem reads_textOrNull (s : Option String) (depth : Nat) :
    (Decoder.nullable Decoder.text).Reads depth (Value.textOrNull s) s := by
  have hwrite : Value.textOrNull s = (s.map Value.text).getD .null := by cases s <;> rfl
  rw [hwrite]
  exact Decoder.reads_nullable (by simp) fun s _ => Decoder.reads_text depth s

theorem reads_boolOrNull (b : Option Bool) (depth : Nat) :
    (Decoder.nullable Decoder.truth).Reads depth (Value.boolOrNull b) b := by
  have hwrite : Value.boolOrNull b = (b.map Value.bool).getD .null := by cases b <;> rfl
  rw [hwrite]
  exact Decoder.reads_nullable (by simp) fun b _ => Decoder.reads_truth depth b

theorem Flags.ofList_toList (flags : Flags) : Flags.ofList flags.toList = flags := by
  obtain ⟨a, b⟩ := flags
  cases a <;> cases b <;> rfl

theorem Flags.reads (flags : Flags) (depth : Nat) :
    Flags.decode.Reads (depth + 1) flags.toJson flags := by
  have hlist : (Decoder.list Flag.decode).Reads (depth + 1)
      (.list (flags.toList.map fun flag => .text flag.label)) flags.toList :=
    Decoder.reads_list fun flag _ => Decoder.reads_choice flag.lookup_label depth
  have hwrite : flags.toJson = .list (flags.toList.map fun flag => .text flag.label) := by
    rw [toJson, Value.texts, List.map_map]
    rfl
  have hread := hlist.map Flags.ofList
  rwa [ofList_toList, ← hwrite] at hread

theorem Good.reads (good : Good) (depth : Nat) : Good.decode.Reads (depth + 5) good.toJson good :=
  Decoder.reads_record
    (.field (good.id.reads _) (by simp) <|
     .field (Decoder.reads_text _ good.name) (by simp) <|
     .field (Decoder.reads_text _ good.organisation) (by simp) <|
     .field (Decoder.reads_choice good.status.lookup_label _) (by simp) <|
     .field (reads_texts good.controlListEntries _) (by simp) <|
     .field (reads_boolOrNull good.controlled _) (by simp) <|
     .field (reads_classification good.classification depth) (by simp) <|
     .field (good.flags.reads _) (by simp) .done)
    rfl

/-! ## §3 Line items -/

namespace LineItem

/-- The members of a line item that do not depend on its kind. -/
def formValues (item : LineItem) :=
  (item.id, item.caseId, item.controlListEntries, item.controlled, item.classification,
    item.regimeEntries, item.comment, item.isPrecedent, item.isWassenaar, item.informationSecurity,
    item.assessedBy, item.assessedAt, ())

theorem ofMembers_members (product : Product) :
    Product.ofMembers (product.members.map fun m => (m.1, m.2.toDraft)) = .ok product := by
  cases product <;> rfl

theorem reads_assessedAt {item : LineItem} (h : ∀ t ∈ item.assessedAt, t.IsValid) (depth : Nat) :
    (Decoder.nullable Instant.decode).Reads depth
      (Value.textOrNull (item.assessedAt.map Instant.render)) item.assessedAt := by
  have hwrite : Value.textOrNull (item.assessedAt.map Instant.render)
      = (item.assessedAt.map fun t => .text t.render).getD .null := by
    cases item.assessedAt <;> rfl
  rw [hwrite]
  exact Decoder.reads_nullable (by simp) fun t ht =>
    (Decoder.reads_text depth t.render).refine (Instant.parse?_render (h t ht))

theorem reads_assessedBy (item : LineItem) (depth : Nat) :
    (Decoder.nullable (Id.decode .reviewer)).Reads depth
      (Value.textOrNull (item.assessedBy.map Id.text)) item.assessedBy := by
  have hwrite : Value.textOrNull (item.assessedBy.map Id.text)
      = (item.assessedBy.map Id.toJson).getD .null := by
    cases item.assessedBy <;> rfl
  rw [hwrite]
  exact Decoder.reads_nullable (by simp [Id.toJson]) fun id _ => id.reads depth

theorem reads {item : LineItem} (h : ∀ t ∈ item.assessedAt, t.IsValid) (depth : Nat) :
    decode.Reads (depth + 5) item.toJson item := by
  have hfits : form.Fits (depth + 4) item.formValues
      ([("id", item.id.toJson), ("case_id", item.caseId.toJson)] ++ item.product.members ++
        [("control_list_entries", Value.texts item.controlListEntries),
         ("is_good_controlled", Value.boolOrNull item.controlled),
         ("classification", Classification.orNull item.classification),
         ("regime_entries", .list (item.regimeEntries.map Id.toJson)),
         ("comment", Value.textOrNull item.comment),
         ("is_precedent", .bool item.isPrecedent),
         ("is_wassenaar", .bool item.isWassenaar),
         ("is_ncsc_military_information_security", Value.boolOrNull item.informationSecurity),
         ("assessed_by", Value.textOrNull (item.assessedBy.map Id.text)),
         ("assessment_date", Value.textOrNull (item.assessedAt.map Instant.render))])
      (item.product.members.map fun m => (m.1, m.2.toDraft)) := by
    refine .field (item.id.reads _) ?_ <| .field (item.caseId.reads _) ?_ <|
      Form.Fits.spares
        (.field (reads_texts item.controlListEntries _) (by simp) <|
         .field (reads_boolOrNull item.controlled _) (by simp) <|
         .field (reads_classification item.classification depth) (by simp) <|
         .field (Decoder.reads_list fun id _ => id.reads _) (by simp) <|
         .field (reads_textOrNull item.comment _) (by simp) <|
         .field (Decoder.reads_truth _ item.isPrecedent) (by simp) <|
         .field (Decoder.reads_truth _ item.isWassenaar) (by simp) <|
         .field (reads_boolOrNull item.informationSecurity _) (by simp) <|
         .field (item.reads_assessedBy _) (by simp) <|
         .field (reads_assessedAt h _) (by simp) .done)
        ?_
    · cases item.product <;> simp [Product.members]
    · cases item.product <;> simp [Product.members]
    · cases item.product <;> simp [Product.members, Form.names, Id.toJson, Value.sound_text]
  intro room hroom
  have hfill := Form.fill_of_fits hfits (.inr rfl) (show depth + 4 < room - 1 by omega) []
  rw [toJson, Value.toDraft, decode, if_neg (by omega), hfill]
  simp only [formValues, List.reverse_nil, List.nil_append, ofMembers_members]
  rfl

/-- The instant that is read with a line item is valid. -/
theorem isValid_of_gives {item : LineItem} (h : decode.Gives item) :
    ∀ t ∈ item.assessedAt, t.IsValid := by
  obtain ⟨room, d, hread⟩ := h
  rw [decode.eq_def] at hread
  split at hread
  · split at hread
    · cases hread
    · split at hread
      · cases hread
      · rename_i hfill
        obtain ⟨product, -, rfl⟩ := Decoder.map_eq_ok_iff.1 hread
        have hyields := Form.yields_of_fill hfill
        simp only [form, Form.Yields, Form.required, Form.optional] at hyields
        obtain ⟨-, -, -, -, -, -, -, -, -, -, -, horigin, -⟩ := hyields
        rintro t ⟨⟩
        rcases horigin with hslot | habsent | hgives
        · cases hslot
        · cases habsent
        · have hdate : Instant.decode.Gives t := hgives.of_nullable
          obtain ⟨text, -, hparse⟩ := Decoder.Gives.of_refine hdate
          exact Instant.isValid_of_parse? hparse
  · cases hread

end LineItem

/-! ## §4 Seeds -/

theorem ControlListEntry.reads (entry : ControlListEntry) (depth : Nat) :
    ControlListEntry.decode.Reads (depth + 1) entry.toJson entry :=
  Decoder.reads_record
    (.field (Decoder.reads_text depth entry.rating) (by simp) <|
     .field (Decoder.reads_text depth entry.text) (by simp) .done)
    rfl

theorem RegimeEntry.reads (entry : RegimeEntry) (depth : Nat) :
    RegimeEntry.decode.Reads (depth + 1) entry.toJson entry :=
  Decoder.reads_record
    (.field (entry.id.reads depth) (by simp) <|
     .field (Decoder.reads_text depth entry.name) (by simp) .done)
    rfl

theorem CaseRecord.reads (record : CaseRecord) (depth : Nat) :
    CaseRecord.decode.Reads (depth + 1) record.toJson record :=
  Decoder.reads_record
    (.field (record.id.reads depth) (by simp) <|
     .field (Decoder.reads_choice record.status.lookup_label depth) (by simp) .done)
    rfl

theorem SummaryTable.reads (table : SummaryTable) (depth : Nat) :
    SummaryTable.decode.Reads (depth + 3) table.toJson table :=
  (Decoder.reads_list fun row _ => row.reads depth).map SummaryTable.mk

namespace Seed

/-- Every date of an assessment is valid. -/
def HasDates (seed : Seed) : Prop := ∀ item ∈ seed.lineItems, ∀ t ∈ item.assessedAt, t.IsValid

instance (seed : Seed) : Decidable seed.HasDates :=
  inferInstanceAs (Decidable (∀ item ∈ seed.lineItems, ∀ t ∈ item.assessedAt, t.IsValid))

theorem reads {seed : Seed} (h : seed.HasDates) (depth : Nat) :
    Seed.decode.Reads (depth + 7) seed.toJson seed :=
  Decoder.reads_record
    (.field (Decoder.reads_list fun p _ => p.reads _) (by simp) <|
     .field (Decoder.reads_list fun s _ => s.reads _) (by simp) <|
     .field (Decoder.reads_list fun entry _ => entry.reads _) (by simp) <|
     .field (Decoder.reads_list fun entry _ => entry.reads _) (by simp) <|
     .field (Decoder.reads_list fun good _ => good.reads depth) (by simp) <|
     .field (Decoder.reads_list fun record _ => record.reads _) (by simp) <|
     .field (Decoder.reads_list fun item hitem => LineItem.reads (h item hitem) depth) (by simp) <|
     .field (seed.summaries.reads _) (by simp) <|
     .field (Decoder.reads_list fun id _ => id.reads _) (by simp) .done)
    rfl

/-- The bytes of a seed's document. -/
def written (seed : Seed) : List Text.Glyph := Text.Glyph.ofBytes seed.toJson.render.toUTF8

theorem read_written {seed : Seed} (h : seed.HasDates) : Seed.read seed.written = .ok seed := by
  have hread := reads h 0 Json.fullRoom (by decide)
  rw [read, written, Json.read_render]
  simp only [Decoder.run, hread, if_true]

theorem lineItems_of_gives {seed : Seed} (h : decode.Gives seed) :
    ∀ item ∈ seed.lineItems, LineItem.decode.Gives item := by
  obtain ⟨room, d, hread⟩ := h
  obtain ⟨⟨prefixes, subjects, controlListEntries, regimeEntries, goods, cases, lineItems,
    summaries, reviewers, _⟩, hyields, rfl⟩ := Form.exists_yields_of_record hread
  have horigin := hyields.2.2.2.2.2.2.1
  show ∀ item ∈ lineItems, LineItem.decode.Gives item
  rcases horigin with hslot | habsent | hgives
  · cases hslot
  · cases habsent
    simp
  · exact hgives.of_list

theorem hasDates_of_read {gs : List Text.Glyph} {seed : Seed} (h : Seed.read gs = .ok seed) :
    seed.HasDates := by
  simp only [read, Decoder.run] at h
  split at h
  · cases h
  · rename_i found hfound
    split at h
    · cases h
      exact fun item hitem =>
        LineItem.isValid_of_gives (lineItems_of_gives ⟨_, _, hfound⟩ item hitem)
    · cases h

/-- A seed with something of every kind: all shapes of a classification, both kinds of line item,
repeated entries, characters to escape, a leap second, and a date far off. -/
def varied : Seed :=
  let row : Summary :=
    ⟨⟨4294967295⟩, some ⟨⟨1⟩, "components for"⟩, ⟨⟨7⟩, "sniper \"rifles\"", some 255⟩⟩
  let good : Good :=
    { id := ⟨"good-1"⟩, name := "Scope\\\n\x01", organisation := "", status := .query,
      controlListEntries := ["ML1a", "ML1a"], controlled := some false,
      classification := some (.multiple [row, row]), flags := ⟨true, true⟩ }
  let line : LineItem := .unassessed ⟨"line-1"⟩ ⟨"case-1"⟩ (.good ⟨"good-1"⟩)
  { prefixes := [⟨⟨1⟩, "components for"⟩, ⟨⟨1⟩, "components for"⟩]
    subjects := [⟨⟨7⟩, "sniper rifles", none⟩]
    controlListEntries := [⟨"ML1a", "é😀"⟩]
    regimeEntries := [⟨⟨"wa"⟩, "Wassenaar"⟩]
    goods := [good, { good with classification := none }]
    cases := [⟨⟨"case-1"⟩, .underReview⟩]
    lineItems :=
      [{ line with
          classification := some (.legacy "free text"), assessedBy := some ⟨"officer"⟩
          assessedAt := some ⟨2016, 12, 31, 86399, 1500000000⟩ },
       { line with
          product := .goodsType "Scopes", classification := some (.single row)
          comment := some "", informationSecurity := some true
          assessedAt := some ⟨0, 2, 29, 0, 1⟩ }]
    summaries := ⟨[row]⟩
    reviewers := [⟨"officer"⟩] }

/-- A document with its members in an order of its own, and with a local time. -/
def looseDocument : List Text.Glyph :=
  Text.Glyph.ofString ("\x7b\"line_items\": [\x7b\"description\":\"Scopes\",\"case_id\":\"case-1\","
    ++ "\"assessment_date\":\"2024-05-01 12:00:00+02:00\",\"kind\":\"goods_type\","
    ++ "\"id\":\"line-1\"\x7d]\x7d")

end Seed

end ExportControl
