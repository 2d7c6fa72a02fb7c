/-
ExportControl.Proofs.InstantText — instants are read as they were written.

An instant is written in UTC, the year with a sign where four digits do not suffice,
and with as many digits of a fraction as it needs. Reading takes up just the digits
of each number, since none is longer than its width.

  §1 Instants — `Instant.IsValid`: a date of the calendar, and a time of day.
  §2 Parts    — `number?_paddedDecimal`, `year?_yearText`, `fraction?_fractionText`.
  §3 Wholes   — `time?`: what is read behind a date; `parse?_render`: every valid
                instant is read back; `isValid_of_parse?`: only valid ones are ever
                read.
-/
import ExportControl.Instant
import ExportControl.Proofs.Numerals

namespace ExportControl.Instant

open Text (paddedDecimal trimStart IsDigit)

/-! ## §1 Instants -/

/-- A date of the calendar and a time of day; a leap second ends its minute. -/
structure IsValid (t : Instant) : Prop where
  date : isDate t.year t.month t.day = true
  second_lt : t.second < secondsPerDay
  nano_lt : t.nano < 1000000000 ∨ t.second % 60 = 59 ∧ t.nano < 2000000000

instance (t : Instant) : Decidable t.IsValid :=
  decidable_of_iff
    (isDate t.year t.month t.day = true ∧ t.second < secondsPerDay ∧
      (t.nano < 1000000000 ∨ t.second % 60 = 59 ∧ t.nano < 2000000000))
    ⟨fun ⟨date, second_lt, nano_lt⟩ => ⟨date, second_lt, nano_lt⟩,
     fun ⟨date, second_lt, nano_lt⟩ => ⟨date, second_lt, nano_lt⟩⟩

theorem IsValid.month_le {t : Instant} (h : t.IsValid) : t.month ≤ 12 := by
  have hdate := h.date
  simp only [isDate, Bool.and_eq_true, decide_eq_true_eq] at hdate
  omega

theorem daysInMonth_le (year : Int) (month : Nat) : daysInMonth year month ≤ 31 := by
  unfold daysInMonth
  split
  · split <;> omega
  · split <;> omega

theorem IsValid.day_le {t : Instant} (h : t.IsValid) : t.day ≤ 31 := by
  have hdate := h.date
  simp only [isDate, Bool.and_eq_true, decide_eq_true_eq] at hdate
  exact Nat.le_trans hdate.2 (daysInMonth_le _ _)

/-! ## §2 Parts -/

theorem trimStart_cons {c : Char} (h : Text.isBlank c = false) (rest : List Char) :
    trimStart (c :: rest) = c :: rest :=
  List.dropWhile_cons_of_neg (by simp [h])

theorem isBlank_of_isDigit {c : Char} (h : IsDigit c) : Text.isBlank c = false := by
  have hrange : 48 ≤ c.toNat ∧ c.toNat ≤ 57 := by
    have hdigit := Text.isDigit_iff.1 h
    simp only [Char.isDigit, Bool.and_eq_true, decide_eq_true_eq, ge_iff_le,
      UInt32.le_iff_toNat_le] at hdigit
    exact hdigit
  simp [Text.isBlank, Text.CodeRange.has, Text.blankRanges]
  omega

theorem mark?_cons {c : Char} (h : Text.isBlank c = false) (rest : List Char) :
    mark? c (c :: rest) = some rest := by
  simp [mark?, trimStart_cons h]

/-- Digits that something else follows. -/
theorem takeWhile_digits {digits rest : List Char} (hdigits : ∀ c ∈ digits, IsDigit c)
    (hrest : ∀ c ∈ rest.head?, ¬ IsDigit c) :
    (digits ++ rest).takeWhile (fun c => (Text.digit? c).isSome) = digits := by
  rw [List.takeWhile_append_of_pos hdigits]
  cases rest with
  | nil => simp
  | cons c rest =>
    have hc := hrest c rfl
    simp [hc]

theorem number?_paddedDecimal {width n : Nat} (hwidth : 0 < width) (h : n < 10 ^ width)
    (rest : List Char) :
    number? width ((paddedDecimal width n).toList ++ rest) = some (n, rest) := by
  have hdigits : ∀ c ∈ (paddedDecimal width n).toList, IsDigit c :=
    fun _ => Text.isDigit_of_mem_paddedDecimal
  have hlength := Text.length_paddedDecimal hwidth h
  have hvalue := Text.natOfDigits?_paddedDecimal width n
  have htrim : trimStart ((paddedDecimal width n).toList ++ rest)
      = (paddedDecimal width n).toList ++ rest := by
    obtain ⟨c, cs, hcs, hc⟩ := Text.exists_paddedDecimal_eq_cons width n
    rw [hcs]
    exact trimStart_cons (isBlank_of_isDigit hc) _
  have htake : ((paddedDecimal width n).toList ++ rest).take width
      = (paddedDecimal width n).toList := by
    have hleft := @List.take_left _ (paddedDecimal width n).toList rest
    rwa [hlength] at hleft
  have hall : (paddedDecimal width n).toList.takeWhile (fun c => (Text.digit? c).isSome)
      = (paddedDecimal width n).toList := by
    have hend := @takeWhile_digits _ [] hdigits nofun
    rwa [List.append_nil] at hend
  simp only [number?, htrim, htake, hall, hvalue, Option.map_some, List.drop_left]

theorem span_paddedDecimal (width n : Nat) {rest : List Char}
    (hrest : ∀ c ∈ rest.head?, ¬ IsDigit c) :
    ((paddedDecimal width n).toList ++ rest).takeWhile (fun c => (Text.digit? c).isSome)
      = (paddedDecimal width n).toList :=
  takeWhile_digits (fun _ => Text.isDigit_of_mem_paddedDecimal) hrest

theorem year?_yearText (year : Int) (rest : List Char) :
    year? ((yearText year).toList ++ '-' :: rest) = some (year, '-' :: rest) := by
  have hdash : ∀ c ∈ ('-' :: rest).head?, ¬ IsDigit c := by
    rintro c ⟨⟩
    decide
  have hvalue := Text.natOfDigits?_paddedDecimal 4 year.natAbs
  rw [yearText]
  split
  · rename_i hplain
    have hread := number?_paddedDecimal (show 0 < 4 by decide)
      (show year.toNat < 10 ^ 4 by omega) ('-' :: rest)
    have hyear : (year.toNat : Int) = year := by omega
    obtain ⟨c, cs, hcs, hc⟩ := Text.exists_paddedDecimal_eq_cons 4 year.toNat
    have hminus : c ≠ '-' := hc.ne (by decide)
    have hplus : c ≠ '+' := hc.ne (by decide)
    rw [hcs, List.cons_append] at hread
    simp [hcs, year?, trimStart_cons (isBlank_of_isDigit hc), hminus, hplus, hread, hyear]
  · split
    · have hsign : "-".toList = ['-'] := rfl
      have hblank : Text.isBlank '-' = false := by decide
      have hspan := span_paddedDecimal 4 year.natAbs hdash
      have hyear : -(year.natAbs : Int) = year := by omega
      simp only [String.toList_append, hsign, List.cons_append, List.nil_append, year?,
        trimStart_cons hblank, hspan, hvalue, Option.bind_eq_bind, Option.bind_some,
        List.drop_left, Option.pure_def, hyear]
    · have hsign : "+".toList = ['+'] := rfl
      have hblank : Text.isBlank '+' = false := by decide
      have hspan := span_paddedDecimal 4 year.natAbs hdash
      have hyear : (year.natAbs : Int) = year := by omega
      simp only [String.toList_append, hsign, List.cons_append, List.nil_append, year?,
        trimStart_cons hblank, hspan, hvalue, Option.bind_eq_bind, Option.bind_some,
        List.drop_left, Option.pure_def, hyear]

/-- A fraction of a few digits, each counted. -/
theorem fraction?_paddedDecimal {width n : Nat} (hwidth : 0 < width) (hnine : width ≤ 9)
    (h : n < 10 ^ width) (rest : List Char) :
    fraction? ('.' :: ((paddedDecimal width n).toList ++ 'Z' :: rest))
      = some (n * 10 ^ (9 - width), 'Z' :: rest) := by
  have hzone : ∀ c ∈ ('Z' :: rest).head?, ¬ IsDigit c := by
    rintro c ⟨⟩
    decide
  have hlength := Text.length_paddedDecimal hwidth h
  have hcounted : (paddedDecimal width n).toList.take 9 = (paddedDecimal width n).toList :=
    List.take_of_length_le (by omega)
  simp [fraction?, span_paddedDecimal width n hzone, hcounted,
    Text.natOfDigits?_paddedDecimal width n, hlength]

theorem fraction?_fractionText {nano : Nat} (h : nano < 1000000000) (rest : List Char) :
    fraction? ((fractionText nano).toList ++ 'Z' :: rest) = some (nano, 'Z' :: rest) := by
  rw [fractionText]
  split
  · rename_i hzero
    subst hzero
    rfl
  · split
    · have hread := fraction?_paddedDecimal (show 0 < 3 by decide) (by decide)
        (show nano / 1000000 < 10 ^ 3 by omega) rest
      rw [show nano / 1000000 * 10 ^ (9 - 3) = nano by omega] at hread
      simpa using hread
    · split
      · have hread := fraction?_paddedDecimal (show 0 < 6 by decide) (by decide)
          (show nano / 1000 < 10 ^ 6 by omega) rest
        rw [show nano / 1000 * 10 ^ (9 - 6) = nano by omega] at hread
        simpa using hread
      · have hread := fraction?_paddedDecimal (show 0 < 9 by decide) (by decide)
          (show nano < 10 ^ 9 by omega) rest
        rw [show nano * 10 ^ (9 - 9) = nano by omega] at hread
        simpa using hread

/-! ## §3 Wholes -/

/-- What is read behind the date and its mark. -/
def time? (year : Int) (month day : Nat) (cs : List Char) : Option Instant := do
  let (hour, cs) ← number? 2 cs
  let (minute, cs) ← number? 2 (← mark? ':' cs)
  let (second, cs) ← number? 2 (← mark? ':' cs)
  let (nano, cs) ← fraction? cs
  let (offset, cs) ← offset? cs
  if !(trimStart cs).isEmpty then none
  if !isDate year month day || 24 ≤ hour || 60 ≤ minute || 61 ≤ second then none
  if secondsPerDay ≤ offset.natAbs then none
  let leap := second = 60
  ofLocal? year month day (hour * 3600 + minute * 60 + (if leap then 59 else second))
    (if leap then nano + 1000000000 else nano) offset

/-- The date and its mark, and what is read behind them. -/
theorem parseChars?_eq (cs : List Char) :
    parseChars? cs = (do
      let (year, cs) ← year? cs
      let (month, cs) ← number? 2 (← mark? '-' cs)
      let (day, cs) ← number? 2 (← mark? '-' cs)
      match cs with
      | 'T' :: rest | 't' :: rest | ' ' :: rest => time? year month day rest
      | _ => none) := rfl

theorem ofLocal?_zero {t : Instant} (h : t.IsValid) :
    ofLocal? t.year t.month t.day t.second t.nano 0 = some t := by
  have hlt := h.second_lt
  have hday : secondsPerDay = 86400 := rfl
  have hlow : ¬ (t.second : Int) < 0 := by omega
  have hhigh : ¬ (secondsPerDay : Int) ≤ t.second := by omega
  simp [ofLocal?, hlow, hhigh, h.date]

/-- The time of a valid instant, as it is written behind its date, stands for it. -/
theorem time?_parts {t : Instant} (h : t.IsValid) {minute second nano : Nat}
    (hminute : minute = t.second / 60 % 60)
    (hsecond : second = t.second % 60 + if 1000000000 ≤ t.nano then 1 else 0)
    (hnano : nano = if 1000000000 ≤ t.nano then t.nano - 1000000000 else t.nano) :
    time? t.year t.month t.day ((paddedDecimal 2 (t.second / 3600)).toList ++
      ':' :: ((paddedDecimal 2 minute).toList ++ ':' :: ((paddedDecimal 2 second).toList ++
      ((fractionText nano).toList ++ ['Z'])))) = some t := by
  have hlt := h.second_lt
  have hday : secondsPerDay = 86400 := rfl
  have hnanolt := h.nano_lt
  have hnanosmall : nano < 1000000000 := by split at hnano <;> omega
  have hsixty : second ≤ 60 := by split at hsecond <;> omega
  have hcolon : Text.isBlank ':' = false := by decide
  have hzone : offset? ['Z'] = some (0, []) := by decide
  have hwhole : t.second / 3600 * 3600 + minute * 60 + (if second = 60 then 59 else second)
      = t.second := by
    split at hsecond <;> split <;> omega
  have hfraction : (if second = 60 then nano + 1000000000 else nano) = t.nano := by
    split at hsecond <;> split at hnano <;> split <;> omega
  have hhour : decide (24 ≤ t.second / 3600) = false := decide_eq_false (by omega)
  have hminutes : decide (60 ≤ minute) = false := decide_eq_false (by omega)
  have hseconds : decide (61 ≤ second) = false := decide_eq_false (by omega)
  have hend : (trimStart []).isEmpty = true := rfl
  have hoffset : ¬ secondsPerDay ≤ Int.natAbs 0 := by decide
  simp only [time?, mark?_cons hcolon,
    number?_paddedDecimal (show 0 < 2 by decide) (show t.second / 3600 < 10 ^ 2 by omega),
    number?_paddedDecimal (show 0 < 2 by decide) (show minute < 10 ^ 2 by omega),
    number?_paddedDecimal (show 0 < 2 by decide) (show second < 10 ^ 2 by omega),
    fraction?_fractionText hnanosmall, hzone, Option.bind_eq_bind, Option.bind_some, hend, h.date,
    hhour, hminutes, hseconds, hoffset, hwhole, hfraction, ofLocal?_zero h, Bool.not_true,
    Bool.or_false, Bool.false_eq_true, if_false]

/-- A date as it is written, and a time behind it. -/
theorem parseChars?_date {year : Int} {month day : Nat} (hmonth : month < 100) (hday : day < 100)
    (rest : List Char) :
    parseChars? ((yearText year).toList ++ '-' :: ((paddedDecimal 2 month).toList ++
      '-' :: ((paddedDecimal 2 day).toList ++ 'T' :: rest))) = time? year month day rest := by
  have hdash : Text.isBlank '-' = false := by decide
  simp only [parseChars?_eq, year?_yearText, mark?_cons hdash,
    number?_paddedDecimal (show 0 < 2 by decide) (show month < 10 ^ 2 by omega),
    number?_paddedDecimal (show 0 < 2 by decide) (show day < 10 ^ 2 by omega),
    Option.bind_eq_bind, Option.bind_some]

/-- **Instants.** Every valid instant is read back from its text. -/
theorem parse?_render {t : Instant} (h : t.IsValid) : parse? t.render = some t := by
  have hmonth := h.month_le
  have hday := h.day_le
  have htime := time?_parts h rfl rfl rfl
  rw [← parseChars?_date (show t.month < 100 by omega) (show t.day < 100 by omega)] at htime
  rw [parse?, ← htime, render]
  simp

theorem fraction?_lt {cs rest : List Char} {nano : Nat} (h : fraction? cs = some (nano, rest)) :
    nano < 1000000000 := by
  rw [fraction?.eq_def] at h
  split at h
  · rename_i cs'
    simp only [Option.bind_eq_bind, Option.bind_eq_some_iff, Option.pure_def, Option.some.injEq,
      Prod.mk.injEq] at h
    obtain ⟨n, hn, rfl, -⟩ := h
    have hlength := List.length_take_le 9 (cs'.takeWhile fun c => (Text.digit? c).isSome)
    have hlt := Text.lt_of_natOfDigits? hn
    generalize ((cs'.takeWhile fun c => (Text.digit? c).isSome).take 9).length = k at hlength hlt
    calc n * 10 ^ (9 - k) < 10 ^ k * 10 ^ (9 - k) :=
          Nat.mul_lt_mul_of_pos_right hlt (Nat.pow_pos (by decide))
      _ = 10 ^ 9 := by rw [← Nat.pow_add, Nat.add_sub_cancel' hlength]
  · cases h
    decide

theorem distance?_dvd {cs rest : List Char} {n : Nat} (h : distance? cs = some (n, rest)) :
    60 ∣ n := by
  simp only [distance?, Option.bind_eq_bind, Option.bind_eq_some_iff] at h
  obtain ⟨hours, -, minutes, -, hresult⟩ := h
  split at hresult
  · cases hresult
    omega
  · cases hresult

/-- A distance is one of whole minutes, whichever way it goes. -/
theorem dvd_of_map_distance? {cs rest : List Char} {offset : Int} {sign : Nat → Int}
    (hsign : ∀ n, 60 ∣ n → 60 ∣ sign n)
    (h : (distance? cs).map (fun read => (sign read.1, read.2)) = some (offset, rest)) :
    60 ∣ offset := by
  obtain ⟨⟨n, _⟩, hread, heq⟩ := Option.map_eq_some_iff.1 h
  cases heq
  exact hsign n (distance?_dvd hread)

theorem offset?_dvd {cs rest : List Char} {offset : Int} (h : offset? cs = some (offset, rest)) :
    60 ∣ offset := by
  rw [offset?] at h
  split at h
  · cases h
    decide
  · cases h
    decide
  · exact dvd_of_map_distance? (fun n hn => Int.ofNat_dvd.2 hn) h
  · exact dvd_of_map_distance? (fun n hn => Int.dvd_neg.2 (Int.ofNat_dvd.2 hn)) h
  · exact dvd_of_map_distance? (fun n hn => Int.dvd_neg.2 (Int.ofNat_dvd.2 hn)) h
  · split at h
    · cases h
      decide
    · cases h
  · cases h

theorem isValid_of_ofLocal? {year : Int} {month day second nano : Nat} {offset : Int}
    {t : Instant} (h : ofLocal? year month day second nano offset = some t)
    (hsecond : second < secondsPerDay) (hoffset : offset.natAbs < secondsPerDay)
    (hdvd : 60 ∣ offset)
    (hnano : nano < 1000000000 ∨ second % 60 = 59 ∧ nano < 2000000000) : t.IsValid := by
  have hday : secondsPerDay = 86400 := rfl
  have hvalid : ∀ (year : Int) (month day : Nat) (utc : Int), 0 ≤ utc → utc < secondsPerDay →
      60 ∣ utc - second →
      (if isDate year month day = true then
        some ({ year, month, day, second := utc.toNat, nano } : Instant) else none) = some t →
      t.IsValid := by
    intro year month day utc hlow hhigh hsame hbuilt
    split at hbuilt
    · rename_i hdate
      cases hbuilt
      refine ⟨hdate, ?_, ?_⟩
      · simp only
        omega
      · simp only
        omega
    · cases hbuilt
  simp only [ofLocal?] at h
  by_cases hlow : (second : Int) - offset < 0
  · simp only [if_pos hlow] at h
    exact hvalid _ _ _ _ (by omega) (by omega) (by omega) h
  · by_cases hhigh : (secondsPerDay : Int) ≤ second - offset
    · simp only [if_neg hlow, if_pos hhigh] at h
      exact hvalid _ _ _ _ (by omega) (by omega) (by omega) h
    · simp only [if_neg hlow, if_neg hhigh] at h
      exact hvalid _ _ _ _ (by omega) (by omega) (by omega) h

theorem isValid_of_time? {year : Int} {month day : Nat} {cs : List Char} {t : Instant}
    (h : time? year month day cs = some t) : t.IsValid := by
  simp only [time?, Option.bind_eq_bind, Option.bind_eq_some_iff] at h
  obtain ⟨⟨hour, _⟩, -, _, -, ⟨minute, _⟩, -, _, -, ⟨second, _⟩, -, ⟨nano, _⟩, hfraction,
    ⟨offset, _⟩, hzone, h⟩ := h
  have hnano := fraction?_lt hfraction
  have hdvd := offset?_dvd hzone
  split at h
  · cases h
  · split at h
    · cases h
    · rename_i hrange
      split at h
      · cases h
      · rename_i hoffset
        simp only [Bool.or_eq_true, decide_eq_true_eq, not_or] at hrange
        refine isValid_of_ofLocal? h ?_ (by omega) hdvd ?_
        · have hday : secondsPerDay = 86400 := rfl
          split <;> omega
        · split <;> omega

theorem exists_time?_of_parse? {s : String} {t : Instant} (h : parse? s = some t) :
    ∃ year month day cs, time? year month day cs = some t := by
  simp only [parse?, parseChars?_eq, Option.bind_eq_bind, Option.bind_eq_some_iff] at h
  obtain ⟨⟨year, _⟩, -, _, -, ⟨month, _⟩, -, _, -, ⟨day, _⟩, -, h⟩ := h
  split at h
  · exact ⟨year, month, day, _, h⟩
  · exact ⟨year, month, day, _, h⟩
  · exact ⟨year, month, day, _, h⟩
  · cases h

/-- Whatever is read is valid. -/
theorem isValid_of_parse? {s : String} {t : Instant} (h : parse? s = some t) : t.IsValid := by
  obtain ⟨year, month, day, cs, htime⟩ := exists_time?_of_parse? h
  exact isValid_of_time? htime

end ExportControl.Instant
