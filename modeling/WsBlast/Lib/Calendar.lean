import Mathlib

/-!
# The Gregorian calendar

The dates of the proleptic Gregorian calendar, with the day after each of them
(`Date.next`): the next day of the month, the first of the next month, or
1 January of the next year. The 4/100/400 rule decides how long February is.

`Date.number` counts the days, from 1 January of the year 1 as day 1. It is the
sum of the days of the years before, of the months before, and of the day
itself, so the next date has the next number (`Date.number_next`), and no two
dates have the same one (`Date.number_injective`). A function from day counts
to dates is right as soon as its dates have the right numbers.

The numbers are easiest to work out in years that start with March, where the
leap day is the last one: `daysBeforeYear_add_march` and `daysBeforeMonth_march`.

An algorithm that turns a day count into a date is a page of divisions by
146097, 1461 and 153, and says nothing about calendars to a reader. So it is not
compared with another such algorithm. The calendar is defined by what everyone
knows of it – how long months are, when a year is a leap year, which date comes
next – and the algorithm is right because the date it gives has the number it
was asked for.
-/

namespace Gregorian

/-- Every fourth year is a leap year, but of the centuries only every
fourth. -/
def IsLeap (y : ℤ) : Prop := 4 ∣ y ∧ (100 ∣ y → 400 ∣ y)

instance : DecidablePred IsLeap := fun y =>
  inferInstanceAs (Decidable (4 ∣ y ∧ (100 ∣ y → 400 ∣ y)))

/-- How many days a year has. -/
def yearDays (y : ℤ) : ℕ := if IsLeap y then 366 else 365

/-- How many days a month of a year has; the months are numbered from 1. -/
def monthDays (y : ℤ) (m : ℕ) : ℕ :=
  if m = 2 then if IsLeap y then 29 else 28
  else if m = 4 ∨ m = 6 ∨ m = 9 ∨ m = 11 then 30
  else 31

theorem monthDays_pos (y : ℤ) (m : ℕ) : 1 ≤ monthDays y m := by
  unfold monthDays
  split_ifs <;> decide

/-- A date of the calendar. -/
@[ext]
structure Date where
  year : ℤ
  month : ℕ
  day : ℕ
  one_le_month : 1 ≤ month
  month_le : month ≤ 12
  one_le_day : 1 ≤ day
  day_le : day ≤ monthDays year month
  deriving DecidableEq

/-- A date as its parts. -/
def Date.ymd (date : Date) : ℤ × ℕ × ℕ := (date.year, date.month, date.day)

/-- 1 January of a year. -/
def Date.january (y : ℤ) : Date where
  year := y
  month := 1
  day := 1
  one_le_month := le_rfl
  month_le := by decide
  one_le_day := le_rfl
  day_le := monthDays_pos y 1

/-- The day after a date. -/
def Date.next (date : Date) : Date :=
  if hday : date.day < monthDays date.year date.month then
    { date with
      day := date.day + 1
      one_le_day := Nat.le_add_left 1 date.day
      day_le := hday }
  else if hmonth : date.month < 12 then
    { year := date.year
      month := date.month + 1
      day := 1
      one_le_month := Nat.le_add_left 1 date.month
      month_le := hmonth
      one_le_day := le_rfl
      day_le := monthDays_pos _ _ }
  else .january (date.year + 1)

/-! ## Days before a year and a month -/

/-- The days of the years from 1 to the one before `y`. -/
def daysBeforeYear (y : ℤ) : ℤ := 365 * (y - 1) + (y - 1) / 4 - (y - 1) / 100 + (y - 1) / 400

/-- The days of the months before `m`. -/
def daysBeforeMonth (y : ℤ) (m : ℕ) : ℕ := ∑ k ∈ Finset.Ico 1 m, monthDays y k

theorem daysBeforeYear_succ (y : ℤ) : daysBeforeYear (y + 1) = daysBeforeYear y + yearDays y := by
  unfold daysBeforeYear yearDays
  by_cases hleap : IsLeap y
  · rw [if_pos hleap]
    obtain ⟨hfour, hcentury⟩ := hleap
    omega
  · rw [if_neg hleap]
    unfold IsLeap at hleap
    omega

theorem daysBeforeYear_mono : Monotone daysBeforeYear := by
  refine monotone_int_of_le_succ fun y => ?_
  rw [daysBeforeYear_succ]
  exact le_add_of_nonneg_right (Int.natCast_nonneg _)

theorem daysBeforeMonth_succ (y : ℤ) {m : ℕ} (hm : 1 ≤ m) :
    daysBeforeMonth y (m + 1) = daysBeforeMonth y m + monthDays y m :=
  Finset.sum_Ico_succ_top hm _

theorem daysBeforeMonth_mono (y : ℤ) : Monotone (daysBeforeMonth y) := fun _ _ h =>
  Finset.sum_le_sum_of_subset (Finset.Ico_subset_Ico_right h)

/-- The months of a year are the year. -/
theorem daysBeforeMonth_thirteen (y : ℤ) : daysBeforeMonth y 13 = yearDays y := by
  unfold daysBeforeMonth yearDays
  by_cases hleap : IsLeap y <;> simp [Finset.sum_Ico_eq_sum_range, Finset.sum_range_succ, monthDays,
    hleap]

/-! ## The number of a date

A date has one number, a number has one date, and the next date has the next
number. -/

namespace Date

variable (date : Date)

/-- The number of a date, from 1 January of the year 1 as day 1. -/
def number : ℤ := daysBeforeYear date.year + daysBeforeMonth date.year date.month + date.day

/-- The days of the year up to a date are some of the year's. -/
theorem dayOfYear_mem_Ioc :
    daysBeforeMonth date.year date.month + date.day
      ∈ Set.Ioc (daysBeforeMonth date.year date.month)
        (daysBeforeMonth date.year (date.month + 1)) := by
  rw [daysBeforeMonth_succ date.year date.one_le_month]
  exact ⟨Nat.lt_add_of_pos_right date.one_le_day, Nat.add_le_add_left date.day_le _⟩

theorem number_mem_Ioc :
    date.number ∈ Set.Ioc (daysBeforeYear date.year) (daysBeforeYear (date.year + 1)) := by
  obtain ⟨hlow, hhigh⟩ := date.dayOfYear_mem_Ioc
  have hyear : daysBeforeMonth date.year (date.month + 1) ≤ yearDays date.year := by
    rw [← daysBeforeMonth_thirteen]
    exact daysBeforeMonth_mono _ (Nat.succ_le_succ date.month_le)
  rw [Set.mem_Ioc, daysBeforeYear_succ]
  unfold number
  omega

/-- **The next date has the next number.** -/
theorem number_next : date.next.number = date.number + 1 := by
  unfold next
  split_ifs with hday hmonth
  · unfold number
    push_cast
    ring
  -- the month is over
  · have hlast : date.day = monthDays date.year date.month :=
      le_antisymm date.day_le (Nat.le_of_not_lt hday)
    show daysBeforeYear date.year + daysBeforeMonth date.year (date.month + 1) + (1 : ℕ)
      = date.number + 1
    rw [daysBeforeMonth_succ _ date.one_le_month, ← hlast]
    unfold number
    push_cast
    ring
  -- and the year with it
  · have hlast : date.day = monthDays date.year date.month :=
      le_antisymm date.day_le (Nat.le_of_not_lt hday)
    have hdecember : date.month = 12 := le_antisymm date.month_le (Nat.le_of_not_lt hmonth)
    have hyear : daysBeforeMonth date.year date.month + date.day = yearDays date.year := by
      rw [hlast, ← daysBeforeMonth_succ _ date.one_le_month, hdecember, daysBeforeMonth_thirteen]
    show daysBeforeYear (date.year + 1) + daysBeforeMonth (date.year + 1) 1 + (1 : ℕ)
      = date.number + 1
    have hnone : daysBeforeMonth (date.year + 1) 1 = 0 := rfl
    rw [daysBeforeYear_succ, hnone, ← hyear]
    unfold number
    push_cast
    ring

/-- The date some days later. -/
theorem number_iterate_next (n : ℕ) : (next^[n] date).number = date.number + n := by
  induction n with
  | zero => simp
  | succ n ih =>
    rw [Function.iterate_succ_apply', number_next, ih]
    push_cast
    ring

/-- **No two dates have the same number.** -/
theorem number_injective : Function.Injective number := by
  intro a b hnumber
  -- the years hold disjoint ranges of numbers, and so do the months of one
  have hyear : a.year = b.year := by
    by_contra hne
    refine Set.disjoint_left.mp (daysBeforeYear_mono.pairwise_disjoint_on_Ioc_succ hne)
      a.number_mem_Ioc ?_
    rw [hnumber]
    exact b.number_mem_Ioc
  have hday : daysBeforeMonth a.year a.month + a.day = daysBeforeMonth b.year b.month + b.day := by
    unfold number at hnumber
    rw [← hyear] at hnumber ⊢
    omega
  have hmonth : a.month = b.month := by
    by_contra hne
    refine Set.disjoint_left.mp ((daysBeforeMonth_mono a.year).pairwise_disjoint_on_Ioc_succ hne)
      a.dayOfYear_mem_Ioc ?_
    rw [hday, hyear]
    exact b.dayOfYear_mem_Ioc
  rw [hyear, hmonth] at hday
  exact Date.ext hyear hmonth (Nat.add_left_cancel hday)

end Date

/-! ## Years that start with March

Counted from 1 March, a month is as long as it always is, except for the last
one, so the months' lengths follow the pattern 31, 30, 31, 30, 31 and a division
by 153 finds the month. -/

/-- The days before March. -/
theorem daysBeforeYear_add_march (y : ℤ) :
    daysBeforeYear y + daysBeforeMonth y 3 = 365 * y + y / 4 - y / 100 + y / 400 - 306 := by
  have hnext := daysBeforeYear_succ y
  have hwinter : daysBeforeMonth y 3 + 306 = yearDays y := by
    unfold daysBeforeMonth yearDays
    by_cases hleap : IsLeap y <;> simp [Finset.sum_Ico_eq_sum_range, Finset.sum_range_succ,
      monthDays, hleap]
  unfold daysBeforeYear at hnext ⊢
  rw [add_sub_cancel_right] at hnext
  omega

/-- The days from 1 March to the month `mp` later in the same year: five months
have 153 days. -/
theorem daysBeforeMonth_march (y : ℤ) {mp : ℕ} (hmp : mp < 10) :
    daysBeforeMonth y (mp + 3) = daysBeforeMonth y 3 + (153 * mp + 2) / 5 := by
  have hsucc (k : ℕ) :
      daysBeforeMonth y (k + 1 + 3) = daysBeforeMonth y (k + 3) + monthDays y (k + 3) :=
    daysBeforeMonth_succ y (Nat.le_add_left 1 (k + 2))
  induction mp with
  | zero => rfl
  | succ k ih =>
    have hmonth : (153 * k + 2) / 5 + monthDays y (k + 3) = (153 * (k + 1) + 2) / 5 := by
      have hk : k < 9 := Nat.lt_of_succ_lt_succ hmp
      unfold monthDays
      interval_cases k <;> rfl
    rw [hsucc, ih (by omega), add_assoc, hmonth]

/-- The last day of a year that starts with March, from 1 March as day 0: one
later when its February is in a leap year. -/
def lastDayFromMarch (y : ℤ) : ℕ := if IsLeap (y + 1) then 365 else 364

/-- The month of such a year in which a day falls, from March as month 0. -/
def monthFromMarch (doy : ℕ) : ℕ := (5 * doy + 2) / 153

/-- A month starts before its days and the next one after them. -/
theorem monthFromMarch_spec (doy : ℕ) :
    (153 * monthFromMarch doy + 2) / 5 ≤ doy
      ∧ doy < (153 * (monthFromMarch doy + 1) + 2) / 5 := by
  unfold monthFromMarch
  omega

/-- No day is after its month. -/
theorem day_le_monthDays {y : ℤ} {doy : ℕ} (hdoy : doy ≤ lastDayFromMarch y) :
    monthFromMarch doy < 12
      ∧ doy - (153 * monthFromMarch doy + 2) / 5 + 1
        ≤ monthDays (if monthFromMarch doy < 10 then y else y + 1)
          (if monthFromMarch doy < 10 then monthFromMarch doy + 3 else monthFromMarch doy - 9) := by
  have hlast : lastDayFromMarch y ≤ 365 := by
    unfold lastDayFromMarch
    split_ifs <;> decide
  obtain ⟨hlow, hhigh⟩ := monthFromMarch_spec doy
  have hmonth : monthFromMarch doy < 12 := by
    unfold monthFromMarch
    omega
  refine ⟨hmonth, ?_⟩
  generalize monthFromMarch doy = mp at hlow hhigh hmonth ⊢
  -- only February, the last month, depends on the year
  unfold lastDayFromMarch at hdoy
  by_cases hleap : IsLeap (y + 1) <;> interval_cases mp <;>
    simp [monthDays, hleap] at hdoy hlow hhigh ⊢ <;> omega

/-- The date some days after 1 March. -/
def Date.fromMarch (y : ℤ) (doy : ℕ) (hdoy : doy ≤ lastDayFromMarch y) : Date where
  year := if monthFromMarch doy < 10 then y else y + 1
  month := if monthFromMarch doy < 10 then monthFromMarch doy + 3 else monthFromMarch doy - 9
  day := doy - (153 * monthFromMarch doy + 2) / 5 + 1
  one_le_month := by
    split_ifs with hwinter
    · exact Nat.le_add_left 1 _
    · omega
  month_le := by
    have hmonth := (day_le_monthDays hdoy).1
    split_ifs <;> omega
  one_le_day := Nat.le_add_left 1 _
  day_le := (day_le_monthDays hdoy).2

/-- **The number of a date**, from the year that starts with March. -/
theorem Date.number_fromMarch (y : ℤ) (doy : ℕ) (hdoy : doy ≤ lastDayFromMarch y) :
    (Date.fromMarch y doy hdoy).number = 365 * y + y / 4 - y / 100 + y / 400 - 305 + doy := by
  obtain ⟨hlow, -⟩ := monthFromMarch_spec doy
  have hmonth := (day_le_monthDays hdoy).1
  unfold Date.fromMarch Date.number
  dsimp only
  split_ifs with hwinter
  · have hmarch := daysBeforeYear_add_march y
    rw [daysBeforeMonth_march y hwinter]
    omega
  -- January and February are in the next year
  · have hyear : daysBeforeYear (y + 1) = 365 * y + y / 4 - y / 100 + y / 400 := by
      unfold daysBeforeYear
      rw [add_sub_cancel_right]
    have hdays : daysBeforeMonth (y + 1) (monthFromMarch doy - 9) + 306
        = (153 * monthFromMarch doy + 2) / 5 := by
      have hjanuary : monthFromMarch doy = 10 ∨ monthFromMarch doy = 11 := by omega
      rcases hjanuary with hmp | hmp <;> rw [hmp] <;> rfl
    rw [hyear]
    omega

end Gregorian
