import WsBlast.Lib.Calendar
import WsBlast.Slo

/-!
# Wall-clock timestamps

Reports and capture headers carry wall-clock times, formatted without a date
library. `civilFromDays` finds the date of a day by a chain of divisions: it
counts days from 1 March of the year 0 in cycles of 400 years, corrects the
position in the cycle for the leap days before it, and divides what is left.

The cycles are why the corrections are right. A position in 400 years is a
century, a group of four years, a year of the group and a day of the year
(`exists_cycles`), and the corrections take out just the leap days of the
centuries and the groups (`yearOfEra_cycles`). So the date has the number of
its day (`civilFromDays_number`), and the next day has the next date.

The arithmetic is on 64-bit and 32-bit integers in the source, with casts
between them. For the days of any time that a wall clock can have nothing
overflows, so the casts are the identity; `exists_date` shows this along with
the date.
-/

namespace WsBlast

open Gregorian

/-! ## Dates

The cycles of the calendar, and what each correction of the source takes out. -/

/-- A number in an `i64`. -/
def asI64 (n : ℤ) : ℤ := n.bmod (2 ^ 64)

/-- A number in a `u32`. -/
def asU32 (n : ℤ) : ℕ := (n % 2 ^ 32).toNat

theorem asI64_eq {n : ℤ} (hlow : -2 ^ 63 ≤ n) (hhigh : n < 2 ^ 63) : asI64 n = n :=
  Int.bmod_eq_of_le hlow hhigh

theorem asU32_natCast {n : ℕ} (h : n < 2 ^ 32) : asU32 n = n := by
  unfold asU32
  omega

/-- Converts days since 1970-01-01 to a proleptic Gregorian (year, month,
day). -/
def civilFromDays (days : ℤ) : ℤ × ℕ × ℕ :=
  let z := asI64 (days + 719468)
  let era := z / 146097
  let doe := z % 146097
  -- what comes from `doe` is small and not negative, so it needs no wrapping
  let yoe := (doe - doe / 1460 + doe / 36524 - doe / 146096) / 365
  let doy := doe - (365 * yoe + yoe / 4 - yoe / 100)
  let mp := (5 * doy + 2) / 153
  let day := asU32 (doy - (153 * mp + 2) / 5 + 1)
  let month := asU32 (if mp < 10 then mp + 3 else mp - 9)
  let year := asI64 (yoe + era * 400 + if month ≤ 2 then 1 else 0)
  (year, month, day)

/-- A day of a year, of a group of four years, of a century. Only the last year
of a group has a leap day at its end, and the last group of a century only in
the last century. -/
def InYear (c q y doy : ℕ) : Prop := doy ≤ 364 ∨ doy = 365 ∧ y = 3 ∧ (q = 24 → c = 3)

/-- A position in 400 years is a century, a group of four years in it, a year
and a day. -/
theorem exists_cycles {doe : ℤ} (hpos : 0 ≤ doe) (hlt : doe < 146097) :
    ∃ c q y doy : ℕ, doe = 36524 * c + 1461 * q + 365 * y + doy ∧ c < 4 ∧ q < 25 ∧ y < 4
      ∧ InYear c q y doy := by
  obtain ⟨doe, rfl⟩ := Int.eq_ofNat_of_zero_le hpos
  obtain ⟨c, hc⟩ : ∃ c, c = min (doe / 36524) 3 := ⟨_, rfl⟩
  obtain ⟨rest, hrest⟩ : ∃ rest, doe = 36524 * c + rest := ⟨doe - 36524 * c, by omega⟩
  have hcentury : c < 4 ∧ rest ≤ 36524 ∧ (rest = 36524 → c = 3) := by omega
  obtain ⟨y, hy⟩ : ∃ y, y = min (rest % 1461 / 365) 3 := ⟨_, rfl⟩
  refine ⟨c, rest / 1461, y, rest % 1461 - 365 * y, ?_, hcentury.1, ?_, ?_, ?_⟩
  · omega
  · omega
  · omega
  · unfold InYear
    omega

section Cycles

variable {doe : ℤ} {c q y doy : ℕ}

/-- **The corrections** leave 365 days for every year. -/
theorem yearOfEra_cycles (hdoe : doe = 36524 * c + 1461 * q + 365 * y + doy) (hc : c < 4)
    (hq : q < 25) (hy : y < 4) (hdoy : InYear c q y doy) :
    (doe - doe / 1460 + doe / 36524 - doe / 146096) / 365 = 100 * c + 4 * q + y := by
  unfold InYear at hdoy
  -- the last day of the cycle begins no century
  have hcenturies : doe / 36524 - doe / 146096 = c := by
    have hrest : 1461 * q + 365 * y + doy ≤ 36524 := by omega
    rcases hrest.lt_or_eq with hshort | hlong
    · have hcentury : doe / 36524 = c := by omega
      omega
    · have hlast : doe = 146096 := by omega
      omega
  -- the leap days before it may take a day to the next group
  have hgroups : doe / 1460 = 25 * c + q ∧ doy ≤ 364
      ∨ doe / 1460 = 25 * c + q + 1 ∧ 0 < doy := by omega
  omega

/-- The day of the year. -/
theorem dayOfYear_cycles (hdoe : doe = 36524 * c + 1461 * q + 365 * y + doy) (hq : q < 25)
    (hy : y < 4) :
    doe - (365 * (100 * c + 4 * q + y : ℤ) + (100 * c + 4 * q + y : ℤ) / 4
      - (100 * c + 4 * q + y : ℤ) / 100) = doy := by
  have hgroups : (100 * c + 4 * q + y : ℤ) / 4 = 25 * c + q := by omega
  have hcenturies : (100 * c + 4 * q + y : ℤ) / 100 = c := by omega
  rw [hgroups, hcenturies]
  omega

/-- The days before the year, in all cycles. -/
theorem daysBefore_cycles (hc : c < 4) (hq : q < 25) (hy : y < 4) (era : ℤ) :
    365 * (100 * c + 4 * q + y + era * 400) + (100 * c + 4 * q + y + era * 400) / 4
        - (100 * c + 4 * q + y + era * 400) / 100 + (100 * c + 4 * q + y + era * 400) / 400
      = 146097 * era + 36524 * c + 1461 * q + 365 * y := by
  have hgroups : (100 * c + 4 * q + y + era * 400) / 4 = 25 * c + q + 100 * era := by omega
  have hcenturies : (100 * c + 4 * q + y + era * 400) / 100 = c + 4 * era := by omega
  have hera : (100 * c + 4 * q + y + era * 400) / 400 = era := by omega
  rw [hgroups, hcenturies, hera]
  ring

/-- It is a day of the year: the leap day is there where the year has one. -/
theorem le_lastDayFromMarch (hq : q < 25) (hdoy : InYear c q y doy) (era : ℤ) :
    doy ≤ lastDayFromMarch (100 * c + 4 * q + y + era * 400) := by
  have hlast : 364 ≤ lastDayFromMarch (100 * c + 4 * q + y + era * 400) := by
    unfold lastDayFromMarch
    split_ifs <;> decide
  rcases hdoy with hshort | ⟨hlong, hy, hcq⟩
  · exact hshort.trans hlast
  · have hleap : IsLeap (100 * c + 4 * q + y + era * 400 + 1) := by
      unfold IsLeap
      omega
    unfold lastDayFromMarch
    rw [if_pos hleap, hlong]

end Cycles

/-- The days that an `i64` has room for when they are counted from the year
0. -/
def lastDay : ℤ := 2 ^ 63 - 719469

/-- The number of 1970-01-01. -/
def epochNumber : ℤ := 719163

/-- **The date of a day** has its number. -/
theorem exists_date {days : ℤ} (hlow : 0 ≤ days) (hhigh : days ≤ lastDay) :
    ∃ date : Date, civilFromDays days = date.ymd ∧ date.number = epochNumber + days := by
  unfold lastDay at hhigh
  have hz : asI64 (days + 719468) = days + 719468 := asI64_eq (by omega) (by omega)
  -- the position in the cycles, from the century down to the day of the year
  obtain ⟨c, q, y, doy, hdoe, hc, hq, hy, hdoy⟩ := exists_cycles
    (Int.emod_nonneg (days + 719468) (by decide)) (Int.emod_lt_of_pos (days + 719468) (by decide))
  have hfit := le_lastDayFromMarch hq hdoy ((days + 719468) / 146097)
  obtain ⟨hmonth, -⟩ := day_le_monthDays hfit
  obtain ⟨hstart, -⟩ := monthFromMarch_spec doy
  have hmp : (5 * doy + 2 : ℤ) / 153 = monthFromMarch doy := by
    unfold monthFromMarch
    omega
  have hday : asU32 (doy - (153 * monthFromMarch doy + 2 : ℤ) / 5 + 1)
      = (Date.fromMarch _ doy hfit).day := by
    have hnat : (doy - (153 * monthFromMarch doy + 2 : ℤ) / 5 + 1 : ℤ)
        = (doy - (153 * monthFromMarch doy + 2) / 5 + 1 : ℕ) := by omega
    rw [hnat]
    exact asU32_natCast (by omega)
  have hmonths : asU32 (if (monthFromMarch doy : ℤ) < 10 then (monthFromMarch doy : ℤ) + 3
      else monthFromMarch doy - 9) = (Date.fromMarch _ doy hfit).month := by
    show _ = if monthFromMarch doy < 10 then monthFromMarch doy + 3 else monthFromMarch doy - 9
    unfold asU32
    split_ifs <;> omega
  refine ⟨Date.fromMarch _ doy hfit, ?_, ?_⟩
  · unfold civilFromDays
    dsimp only
    rw [hz, yearOfEra_cycles hdoe hc hq hy hdoy, dayOfYear_cycles hdoe hq hy, hmp, hday, hmonths]
    refine Prod.ext ?_ rfl
    show asI64 _ = if monthFromMarch doy < 10 then _ else _
    have hwinter : (Date.fromMarch _ doy hfit).month ≤ 2 ↔ ¬monthFromMarch doy < 10 := by
      show (if monthFromMarch doy < 10 then _ else _) ≤ 2 ↔ _
      split_ifs <;> omega
    rw [asI64_eq (by split_ifs <;> omega) (by split_ifs <;> omega)]
    simp only [hwinter]
    split_ifs <;> omega
  · have hera := Int.emod_add_mul_ediv (days + 719468) 146097
    rw [Date.number_fromMarch, daysBefore_cycles hc hq hy]
    unfold epochNumber
    omega

/-- 1970-01-01. -/
def epoch : Date := .january 1970

theorem number_epoch : epoch.number = epochNumber := by decide

/-- The date of a day is that many days after 1970-01-01. -/
theorem civilFromDays_eq {d : ℕ} (hd : d ≤ lastDay) :
    civilFromDays d = (Date.next^[d] epoch).ymd := by
  obtain ⟨date, hcivil, hnumber⟩ := exists_date (Int.natCast_nonneg d) hd
  have hdate : date = Date.next^[d] epoch := by
    apply Date.number_injective
    rw [hnumber, Date.number_iterate_next, number_epoch]
  rw [hcivil, hdate]

/-! ## Timestamps

From a time to its text, by way of the date and the time of day. -/

/-- A wall-clock time: seconds from the start of 1970, in 64 bits with a sign,
and the nanoseconds after them. -/
structure SystemTime where
  secs : ℤ
  nanos : ℕ
  secs_ge : -2 ^ 63 ≤ secs
  secs_lt : secs < 2 ^ 63
  nanos_lt : nanos < 1000000000

/-- How long after the start of 1970 a time is, unless it is before. -/
def SystemTime.sinceEpoch (time : SystemTime) : Option Duration :=
  if 0 ≤ time.secs then some (Duration.ofSecs time.secs.toNat + time.nanos) else none

/-- A number of at least `width` characters, with its sign. -/
def padInt (width : ℕ) (n : ℤ) : String :=
  if n < 0 then "-" ++ padZeros (width - 1) n.natAbs else padZeros width n.natAbs

/-- Formats `time` as an RFC 3339 UTC timestamp with milliseconds. -/
def rfc3339Utc (time : SystemTime) : String :=
  let sinceEpoch := time.sinceEpoch.getD 0
  let secs := sinceEpoch / 1000000000
  let (year, month, day) := civilFromDays (asI64 (secs / 86400 : ℕ))
  let rem := secs % 86400
  s!"{padInt 4 year}-{padZeros 2 month}-{padZeros 2 day}T{padZeros 2 (rem / 3600)}:{
    padZeros 2 (rem % 3600 / 60)}:{padZeros 2 (rem % 60)}.{
    padZeros 3 (sinceEpoch % 1000000000 / 1000000)}Z"

/-- A date and a time of day, in milliseconds. -/
@[ext]
structure Timestamp where
  date : Date
  hour : ℕ
  minute : ℕ
  second : ℕ
  milli : ℕ
  hour_lt : hour < 24
  minute_lt : minute < 60
  second_lt : second < 60
  milli_lt : milli < 1000

namespace Timestamp

/-- The text of a timestamp. -/
def text (stamp : Timestamp) : String :=
  s!"{padInt 4 stamp.date.year}-{padZeros 2 stamp.date.month}-{padZeros 2 stamp.date.day}T{
    padZeros 2 stamp.hour}:{padZeros 2 stamp.minute}:{padZeros 2 stamp.second}.{
    padZeros 3 stamp.milli}Z"

/-- A timestamp is the date and the time of day of a time. -/
structure Shows (stamp : Timestamp) (time : SystemTime) : Prop where
  date : stamp.date = Date.next^[time.secs.toNat / 86400] epoch
  timeOfDay : stamp.hour * 3600 + stamp.minute * 60 + stamp.second = time.secs.toNat % 86400
  milli : stamp.milli = time.nanos / 1000000

/-- The timestamp of a time from 1970 on. -/
def ofTime (time : SystemTime) : Timestamp where
  date := Date.next^[time.secs.toNat / 86400] epoch
  hour := time.secs.toNat % 86400 / 3600
  minute := time.secs.toNat % 86400 % 3600 / 60
  second := time.secs.toNat % 86400 % 60
  milli := time.nanos / 1000000
  hour_lt := by omega
  minute_lt := by omega
  second_lt := by omega
  milli_lt := by
    have := time.nanos_lt
    omega

theorem shows_ofTime (time : SystemTime) : (ofTime time).Shows time where
  date := rfl
  timeOfDay := by
    show time.secs.toNat % 86400 / 3600 * 3600 + time.secs.toNat % 86400 % 3600 / 60 * 60
      + time.secs.toNat % 86400 % 60 = _
    omega
  milli := rfl

/-! ### The text says which timestamp it is

Each part of the text has a width of its own or ends where its digits do, so the
parts can be told apart from the left. -/

theorem toList_padZeros (width n : ℕ) : (padZeros width n).toList
    = List.replicate (width - (toString n).length) '0' ++ Nat.toDigits 10 n := by
  have hlist : (toString n).toList = Nat.toDigits 10 n := Nat.toList_repr
  unfold padZeros
  rw [String.toList_append, String.toList_ofList, hlist]

theorem isDigit_of_mem_padZeros {width n : ℕ} {c : Char} (hc : c ∈ (padZeros width n).toList) :
    c.isDigit = true := by
  rw [toList_padZeros, List.mem_append] at hc
  rcases hc with hzero | hdigit
  · rw [List.eq_of_mem_replicate hzero]
    rfl
  · exact Nat.isDigit_of_mem_toDigits (by decide) (by decide) hdigit

/-- Zeros in front do not change the number. -/
theorem ofDigitChars_padZeros (width n : ℕ) :
    Nat.ofDigitChars 10 (padZeros width n).toList 0 = n := by
  rw [toList_padZeros, Nat.ofDigitChars_append, Nat.ofDigitChars_replicate_zero, Nat.mul_zero,
    Nat.ofDigitChars_ten_toDigits]

/-- A number ends where its digits do. -/
theorem padZeros_append_inj {width a b : ℕ} {c d : Char} {s t : List Char}
    (hc : c.isDigit = false) (hd : d.isDigit = false)
    (h : (padZeros width a).toList ++ c :: s = (padZeros width b).toList ++ d :: t) :
    a = b ∧ c :: s = d :: t := by
  have hdigits : (padZeros width a).toList = (padZeros width b).toList := by
    have htake := congrArg (List.takeWhile Char.isDigit) h
    rw [List.takeWhile_append_of_pos fun _ => isDigit_of_mem_padZeros,
      List.takeWhile_append_of_pos fun _ => isDigit_of_mem_padZeros,
      List.takeWhile_cons_of_neg (by simp [hc]), List.takeWhile_cons_of_neg (by simp [hd]),
      List.append_nil, List.append_nil] at htake
    exact htake
  refine ⟨?_, ?_⟩
  · rw [← ofDigitChars_padZeros width a, hdigits, ofDigitChars_padZeros]
  · rw [hdigits] at h
    exact List.append_cancel_left h

/-- A number does not start with a sign. -/
theorem padZeros_append_ne {width n : ℕ} {s t : List Char} :
    (padZeros width n).toList ++ s ≠ '-' :: t := by
  intro h
  have hmem : '-' ∈ (padZeros width n).toList := by
    have hdigits : (padZeros width n).toList ≠ [] := by
      rw [toList_padZeros]
      exact List.append_ne_nil_of_right_ne_nil _ Nat.toDigits_ne_nil
    obtain ⟨first, rest, hfirst⟩ := List.exists_cons_of_ne_nil hdigits
    rw [hfirst, List.cons_append] at h
    rw [hfirst, (List.cons.inj h).1]
    exact List.mem_cons_self
  exact absurd (isDigit_of_mem_padZeros hmem) (by decide)

/-- A year may have a sign. -/
theorem padInt_append_inj {width : ℕ} {a b : ℤ} {s t : List Char}
    (h : (padInt width a).toList ++ '-' :: s = (padInt width b).toList ++ '-' :: t) :
    a = b ∧ '-' :: s = '-' :: t := by
  have hminus : "-".toList = ['-'] := rfl
  unfold padInt at h
  split_ifs at h with ha hb hb
  · rw [String.toList_append, String.toList_append, hminus, List.append_assoc,
      List.append_assoc] at h
    obtain ⟨habs, hrest⟩ := padZeros_append_inj rfl rfl (List.append_cancel_left h)
    exact ⟨by omega, hrest⟩
  · rw [String.toList_append, hminus, List.append_assoc] at h
    exact absurd h.symm padZeros_append_ne
  · rw [String.toList_append, hminus, List.append_assoc] at h
    exact absurd h padZeros_append_ne
  · obtain ⟨habs, hrest⟩ := padZeros_append_inj rfl rfl h
    exact ⟨by omega, hrest⟩

theorem toList_text (stamp : Timestamp) : stamp.text.toList
    = (padInt 4 stamp.date.year).toList ++ '-' :: ((padZeros 2 stamp.date.month).toList
      ++ '-' :: ((padZeros 2 stamp.date.day).toList ++ 'T' :: ((padZeros 2 stamp.hour).toList
      ++ ':' :: ((padZeros 2 stamp.minute).toList ++ ':' :: ((padZeros 2 stamp.second).toList
      ++ '.' :: ((padZeros 3 stamp.milli).toList ++ ['Z'])))))) := by
  have hself (s : String) : toString s = s := rfl
  have hdash : "-".toList = ['-'] := rfl
  have htime : "T".toList = ['T'] := rfl
  have hcolon : ":".toList = [':'] := rfl
  have hdot : ".".toList = ['.'] := rfl
  have hzone : "Z".toList = ['Z'] := rfl
  simp only [text, hself, String.toList_append, hdash, htime, hcolon, hdot, hzone,
    List.append_assoc, List.cons_append, List.nil_append]

/-- **Different timestamps have different texts.** -/
theorem text_injective : Function.Injective text := by
  intro a b h
  have hlist := congrArg String.toList h
  rw [toList_text, toList_text] at hlist
  obtain ⟨hyear, hlist⟩ := padInt_append_inj hlist
  obtain ⟨hmonth, hlist⟩ := padZeros_append_inj rfl rfl (List.cons.inj hlist).2
  obtain ⟨hday, hlist⟩ := padZeros_append_inj rfl rfl (List.cons.inj hlist).2
  obtain ⟨hhour, hlist⟩ := padZeros_append_inj rfl rfl (List.cons.inj hlist).2
  obtain ⟨hminute, hlist⟩ := padZeros_append_inj rfl rfl (List.cons.inj hlist).2
  obtain ⟨hsecond, hlist⟩ := padZeros_append_inj rfl rfl (List.cons.inj hlist).2
  obtain ⟨hmilli, -⟩ := padZeros_append_inj rfl rfl (List.cons.inj hlist).2
  exact Timestamp.ext (Date.ext hyear hmonth hday) hhour hminute hsecond hmilli

end Timestamp

/-! ## The date and the time of day of a time

The seconds of a time are cut into days and what is left, which is cut into
hours, minutes and seconds. -/

namespace SystemTime

variable {time : SystemTime}

/-- How long after the start of 1970 a time is. -/
theorem sinceEpoch_eq (h : 0 ≤ time.secs) :
    time.sinceEpoch = some (time.secs.toNat * 1000000000 + time.nanos) := if_pos h

/-- A time before is formatted as the start of 1970. -/
theorem rfc3339Utc_of_neg (h : time.secs < 0) : rfc3339Utc time = "1970-01-01T00:00:00.000Z" := by
  have hnone : time.sinceEpoch = none := if_neg (Int.not_le.mpr h)
  unfold rfc3339Utc
  rw [hnone]
  decide +kernel

/-- Every time is in the days that have a date. -/
theorem day_lt_lastDay (time : SystemTime) : ((time.secs.toNat / 86400 : ℕ) : ℤ) < lastDay := by
  have := time.secs_lt
  unfold lastDay
  omega

/-- The text of a time is that of its date and time of day. -/
theorem rfc3339Utc_eq_text (h : 0 ≤ time.secs) :
    rfc3339Utc time = (Timestamp.ofTime time).text := by
  have hsecs : (time.secs.toNat * 1000000000 + time.nanos) / 1000000000 = time.secs.toNat := by
    have := time.nanos_lt
    omega
  have hnanos : (time.secs.toNat * 1000000000 + time.nanos) % 1000000000 = time.nanos := by
    have := time.nanos_lt
    omega
  have hday := time.day_lt_lastDay
  have hfits : asI64 (time.secs.toNat / 86400 : ℕ) = (time.secs.toNat / 86400 : ℕ) := by
    have hlast : lastDay < 2 ^ 63 := by decide
    exact asI64_eq (by omega) (by omega)
  unfold rfc3339Utc
  rw [sinceEpoch_eq h]
  dsimp only [Option.getD_some]
  rw [hsecs, hnanos, hfits, civilFromDays_eq hday.le]
  rfl

end SystemTime

/-- **Calendar dates.** The first day is 1970-01-01, every day has a date of the
calendar and the day after it the next date, and the text of a time is the one
of its date and time of day, and of no other. -/
theorem civilFromDays_calendar :
    civilFromDays 0 = (1970, 1, 1)
      ∧ (∀ time : SystemTime, ((time.secs.toNat / 86400 : ℕ) : ℤ) < lastDay)
      ∧ (∀ d : ℕ, d < lastDay → ∃ date : Date,
          civilFromDays d = date.ymd ∧ civilFromDays (d + 1) = date.next.ymd)
      ∧ ∀ time : SystemTime, 0 ≤ time.secs → ∃ stamp : Timestamp,
          stamp.Shows time ∧ ∀ other : Timestamp, rfc3339Utc time = other.text ↔ other = stamp := by
  refine ⟨by decide, SystemTime.day_lt_lastDay, fun d hd => ?_, fun time htime => ?_⟩
  · have hnext := civilFromDays_eq (d := d + 1) (by push_cast; omega)
    rw [Function.iterate_succ_apply'] at hnext
    push_cast at hnext
    exact ⟨Date.next^[d] epoch, civilFromDays_eq hd.le, hnext⟩
  · refine ⟨Timestamp.ofTime time, Timestamp.shows_ofTime time, fun other => ?_⟩
    rw [SystemTime.rfc3339Utc_eq_text htime]
    exact Timestamp.text_injective.eq_iff.trans eq_comm

/-- A leap day and the day after it. -/
theorem civilFromDays_calendar_leap :
    (∃ date : Date, civilFromDays (11016 : ℕ) = date.ymd
        ∧ civilFromDays ((11016 : ℕ) + 1) = date.next.ymd)
      ∧ ∃ stamp : Timestamp,
        stamp.Shows ⟨951782400, 5000000, by decide, by decide, by decide⟩
          ∧ ∀ other : Timestamp, rfc3339Utc ⟨951782400, 5000000, by decide, by decide, by decide⟩
            = other.text ↔ other = stamp :=
  ⟨civilFromDays_calendar.2.2.1 11016 (by decide), civilFromDays_calendar.2.2.2
    ⟨951782400, 5000000, by decide, by decide, by decide⟩ (by decide)⟩

example : rfc3339Utc ⟨951782400, 5000000, by decide, by decide, by decide⟩
    = "2000-02-29T00:00:00.005Z" := by decide +kernel

end WsBlast
