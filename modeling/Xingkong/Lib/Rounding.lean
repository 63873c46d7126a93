import Mathlib.Algebra.Order.Round
import Mathlib.Algebra.Order.Field.Rat
import Mathlib.Data.Rat.Floor
import Mathlib.Tactic.Linarith
import Mathlib.Tactic.FieldSimp

/-!
# Rounding to whole numbers, half away from zero

Mathlib's `round` takes a half upwards. Decimal libraries take it away from zero, which
is the same thing on the non-negative side. What the proofs need is that a rounded value
is near its argument, so that two different non-negative numbers are told apart by
rounding once both are scaled far enough (`exists_scale_separates`).
-/

namespace Rounding

def halfAway (x : ℚ) : Int := if 0 ≤ x then round x else -round (-x)

variable {x : ℚ}

theorem halfAway_of_nonneg (h : 0 ≤ x) : halfAway x = round x := if_pos h

@[simp] theorem halfAway_zero : halfAway 0 = 0 := by simp [halfAway]

theorem halfAway_nonneg (h : 0 ≤ x) : 0 ≤ halfAway x := by
  rw [halfAway_of_nonneg h, round_eq]
  exact Int.floor_nonneg.mpr (by linarith)

theorem halfAway_le (h : 0 ≤ x) : (halfAway x : ℚ) ≤ x + 1 / 2 := by
  have hr := abs_le.mp (abs_sub_round x)
  rw [halfAway_of_nonneg h]
  linarith [hr.1]

theorem le_halfAway (h : 0 ≤ x) : x - 1 / 2 ≤ (halfAway x : ℚ) := by
  have hr := abs_le.mp (abs_sub_round x)
  rw [halfAway_of_nonneg h]
  linarith [hr.2]

theorem abs_sub_halfAway (x : ℚ) : |x - halfAway x| ≤ 1 / 2 := by
  unfold halfAway
  split
  · exact abs_sub_round x
  · rw [Int.cast_neg, sub_neg_eq_add, ← abs_neg, neg_add']
    exact abs_sub_round (-x)

theorem abs_halfAway_add_sub (x y : ℚ) :
    |halfAway (x + y) - (halfAway x + halfAway y)| ≤ 1 := by
  have hx := abs_le.mp (abs_sub_halfAway x)
  have hy := abs_le.mp (abs_sub_halfAway y)
  have hxy := abs_le.mp (abs_sub_halfAway (x + y))
  have h : |((halfAway (x + y) - (halfAway x + halfAway y) : Int) : ℚ)| < (2 : Int) := by
    push_cast
    exact abs_lt.mpr ⟨by linarith, by linarith⟩
  exact Int.lt_add_one_iff.mp (by exact_mod_cast h)

def atLeastOne (x : ℚ) : Int := if x ≤ 0 then 1 else max 1 (halfAway x)

theorem atLeastOne_of_nonpos (h : x ≤ 0) : atLeastOne x = 1 := if_pos h

theorem atLeastOne_pos (x : ℚ) : 1 ≤ atLeastOne x := by
  unfold atLeastOne
  split
  · exact le_rfl
  · exact le_max_left _ _

theorem atLeastOne_max_zero (x : ℚ) : atLeastOne (max 0 x) = atLeastOne x := by
  rcases le_total x 0 with h | h
  · rw [max_eq_left h, atLeastOne_of_nonpos h, atLeastOne_of_nonpos le_rfl]
  · rw [max_eq_right h]

theorem atLeastOne_le (h : 0 ≤ x) : (atLeastOne x : ℚ) ≤ x + 1 := by
  unfold atLeastOne
  split
  · push_cast
    linarith
  · push_cast
    exact max_le (by linarith) (by linarith [halfAway_le h])

theorem le_atLeastOne (h : 0 ≤ x) : x - 1 / 2 ≤ (atLeastOne x : ℚ) := by
  unfold atLeastOne
  split
  · push_cast
    linarith
  · push_cast
    exact le_max_of_le_right (le_halfAway h)

/-- Two different amounts give different bills at some positive scale. -/
theorem exists_scale_separates {a b : ℚ} (ha : 0 ≤ a) (hab : a < b) :
    ∃ k : ℚ, 0 < k ∧ atLeastOne (a * k) < atLeastOne (b * k) := by
  have hd : 0 < b - a := sub_pos.mpr hab
  refine ⟨2 / (b - a), div_pos two_pos hd, ?_⟩
  have hk : 0 ≤ 2 / (b - a) := (div_pos two_pos hd).le
  have hgap : b * (2 / (b - a)) - a * (2 / (b - a)) = 2 := by
    rw [← sub_mul, mul_div_cancel₀ _ hd.ne']
  have hlow := atLeastOne_le (mul_nonneg ha hk)
  have h := le_atLeastOne (mul_nonneg (ha.trans hab.le) hk)
  have hlt : (atLeastOne (a * (2 / (b - a))) : ℚ) < atLeastOne (b * (2 / (b - a))) := by
    linarith
  exact_mod_cast hlt

/-- **Bills agree at every scale exactly for equal amounts**, as far as they lie above
zero. -/
theorem atLeastOne_eq_at_every_scale_iff (a b : ℚ) :
    (∀ k : ℚ, 0 < k → atLeastOne (a * k) = atLeastOne (b * k)) ↔ max 0 a = max 0 b := by
  have hscale : ∀ (x k : ℚ), 0 < k → atLeastOne (max 0 x * k) = atLeastOne (x * k) := by
    intro x k hk
    rw [← atLeastOne_max_zero (x * k), max_mul_of_nonneg _ _ hk.le, zero_mul]
  constructor
  · intro h
    rcases lt_trichotomy (max 0 a) (max 0 b) with hlt | heq | hgt
    · obtain ⟨k, hk, hsep⟩ := exists_scale_separates (le_max_left 0 a) hlt
      rw [hscale a k hk, hscale b k hk, h k hk] at hsep
      exact absurd hsep (lt_irrefl _)
    · exact heq
    · obtain ⟨k, hk, hsep⟩ := exists_scale_separates (le_max_left 0 b) hgt
      rw [hscale a k hk, hscale b k hk, h k hk] at hsep
      exact absurd hsep (lt_irrefl _)
  · intro h k hk
    rw [← hscale a k hk, ← hscale b k hk, h]

end Rounding
