import Mathlib.Tactic.SplitIfs

/-!
# Clocks and calendars

Instants are seconds of the Unix clock. A clock that is `zone` seconds ahead of UTC shows a day,
an hour and, in the Gregorian calendar, a month and a day of the month. Years are counted from
March, so that the leap day is the last one. The month and the day do not name the year: two days
that show the same ones are the same day or most of a year apart.
-/

namespace Civil

/-- Seconds of a day. -/
def day : Int := 86400

def localDay (zone t : Int) : Int := (t + zone) / day

def hour (zone t : Int) : Nat := ((t + zone) % day / 3600).toNat

/-- The last midnight of UTC. -/
def truncateDay (t : Int) : Int := t - t % day

/-- The last midnight on the clock. -/
def localMidnight (zone t : Int) : Int := localDay zone t * day - zone

/-! ## Years, months and days -/

/-- The days before year `y`, from the start of year 0. -/
def daysBeforeYear (y : Int) : Int := 365 * y + y / 4 - y / 100 + y / 400

/-- Day `n` of the Unix clock, from the start of year 0. -/
def sinceYearZero (n : Int) : Int := n + 719468

/-- The century, of four, that a day of a cycle of 400 years falls into; the last one is a day
longer. -/
def century (d : Int) : Int := min (d / 36524) 3

def olympiad (d : Int) : Int := d / 1461

/-- The year, of four, that a day of such a group falls into; the last one is a day longer. -/
def yearOfFour (d : Int) : Int := min (d / 365) 3

def yearOfCycle (d : Int) : Int :=
  let inCentury := d - 36524 * century d
  let inFour := inCentury - 1461 * olympiad inCentury
  100 * century d + 4 * olympiad inCentury + yearOfFour inFour

def year (n : Int) : Int :=
  400 * (sinceYearZero n / 146097) + yearOfCycle (sinceYearZero n % 146097)

def dayOfYear (n : Int) : Int := sinceYearZero n - daysBeforeYear (year n)

def marchMonth (d : Int) : Int := (5 * d + 2) / 153

def month (n : Int) : Nat :=
  let m := marchMonth (dayOfYear n)
  (if m < 10 then m + 3 else m - 9).toNat

def dayOfMonth (n : Int) : Nat :=
  (dayOfYear n - (153 * marchMonth (dayOfYear n) + 2) / 5 + 1).toNat

theorem daysBeforeYear_le {y y' : Int} (h : y < y') :
    daysBeforeYear y + 365 ≤ daysBeforeYear y' := by
  unfold daysBeforeYear
  omega

/-- Inside a cycle a day falls into the year that started last. -/
theorem yearOfCycle_spec {d : Int} (h0 : 0 ≤ d) (h : d < 146097) :
    0 ≤ yearOfCycle d ∧ yearOfCycle d < 400 ∧
      0 ≤ d - (365 * yearOfCycle d + yearOfCycle d / 4 - yearOfCycle d / 100) ∧
      d - (365 * yearOfCycle d + yearOfCycle d / 4 - yearOfCycle d / 100) ≤ 365 := by
  unfold yearOfCycle
  dsimp only
  obtain ⟨c, hc⟩ : ∃ c, century d = c := ⟨_, rfl⟩
  have hcentury : 0 ≤ c ∧ c ≤ 3 ∧ 0 ≤ d - 36524 * c ∧ d - 36524 * c ≤ 36524 := by
    unfold century at hc
    omega
  rw [hc]
  obtain ⟨d1, hd1⟩ : ∃ d1, d - 36524 * c = d1 := ⟨_, rfl⟩
  obtain ⟨q, hq⟩ : ∃ q, olympiad d1 = q := ⟨_, rfl⟩
  have holympiad : 0 ≤ q ∧ q ≤ 24 ∧ 0 ≤ d1 - 1461 * q ∧ d1 - 1461 * q ≤ 1460 := by
    unfold olympiad at hq
    omega
  rw [hd1, hq]
  obtain ⟨y, hy⟩ : ∃ y, yearOfFour (d1 - 1461 * q) = y := ⟨_, rfl⟩
  have hyear : 0 ≤ y ∧ y ≤ 3 ∧ 0 ≤ d1 - 1461 * q - 365 * y ∧
      d1 - 1461 * q - 365 * y ≤ 365 := by
    unfold yearOfFour at hy
    omega
  rw [hy]
  have h4 : (100 * c + 4 * q + y) / 4 = 25 * c + q := by omega
  have h100 : (100 * c + 4 * q + y) / 100 = c := by omega
  omega

theorem dayOfYear_bounds (n : Int) : 0 ≤ dayOfYear n ∧ dayOfYear n ≤ 365 := by
  have h := yearOfCycle_spec (Int.emod_nonneg (sinceYearZero n) (by omega : (146097 : Int) ≠ 0))
    (Int.emod_lt_of_pos (sinceYearZero n) (by omega))
  have h1 := Int.mul_ediv_add_emod (sinceYearZero n) 146097
  unfold dayOfYear daysBeforeYear year
  generalize sinceYearZero n % 146097 = d at h h1 ⊢
  generalize sinceYearZero n / 146097 = k at h1 ⊢
  generalize yearOfCycle d = c at h ⊢
  -- a cycle has 97 leap days
  have h4 : (400 * k + c) / 4 = 100 * k + c / 4 := by omega
  have h100 : (400 * k + c) / 100 = 4 * k + c / 100 := by omega
  have h400 : (400 * k + c) / 400 = k := by omega
  omega

theorem dayOfYear_eq {n n' : Int} (hm : month n = month n') (hd : dayOfMonth n = dayOfMonth n') :
    dayOfYear n = dayOfYear n' := by
  have hb := dayOfYear_bounds n
  have hb' := dayOfYear_bounds n'
  unfold month at hm
  unfold dayOfMonth at hd
  generalize dayOfYear n = d at hb hm hd ⊢
  generalize dayOfYear n' = d' at hb' hm hd ⊢
  unfold marchMonth at hm hd
  dsimp only at hm
  split_ifs at hm <;> omega

/-- **Within a year the month and the day of the month name the day.** -/
theorem eq_of_month_eq {n n' : Int} (hm : month n = month n') (hd : dayOfMonth n = dayOfMonth n')
    (hlt : n < n' + 365) (hgt : n' < n + 365) : n = n' := by
  have hdoy := dayOfYear_eq hm hd
  unfold dayOfYear sinceYearZero at hdoy
  rcases Int.lt_trichotomy (year n) (year n') with h | h | h
  · have := daysBeforeYear_le h
    omega
  · rw [h] at hdoy
    omega
  · have := daysBeforeYear_le h
    omega

theorem month_lt (n : Int) : month n < 100 := by
  have hb := dayOfYear_bounds n
  unfold month marchMonth
  dsimp only
  split_ifs <;> omega

theorem dayOfMonth_lt (n : Int) : dayOfMonth n < 100 := by
  unfold dayOfMonth marchMonth
  omega

-- 29 February 2024, 1 March 2023 and the first day of the Unix clock
example : (month 19782, dayOfMonth 19782) = (2, 29) ∧ (month 19417, dayOfMonth 19417) = (3, 1) ∧
    (month 0, dayOfMonth 0) = (1, 1) := by decide

theorem hour_lt (zone t : Int) : hour zone t < 24 := by
  unfold hour day
  omega

end Civil
