import Mathlib.Algebra.Order.Field.Rat
import Mathlib.Tactic.FieldSimp
import Mathlib.Tactic.Linarith
import Mathlib.Tactic.Positivity
import Mathlib.Tactic.Ring

/-!
# Proportional shares

A balance holds `rem` of `total` units and `gross` of the `basis` paid for them.
It is `Balanced` when the two are in proportion. Taking units out together with
their `portion` of the money keeps it balanced, however often it is done.
-/

namespace Share

def portion (gross : ℚ) (rem use : ℤ) : ℚ := gross * use / rem

structure Balanced (total rem : ℤ) (basis gross : ℚ) : Prop where
  rem_nonneg : 0 ≤ rem
  rem_le : rem ≤ total
  gross_nonneg : 0 ≤ gross
  gross_le : gross ≤ basis
  proportional : gross * total = basis * rem

variable {total rem use : ℤ} {basis gross : ℚ}

theorem portion_nonneg (hg : 0 ≤ gross) (hr : 0 < rem) (hu : 0 ≤ use) :
    0 ≤ portion gross rem use := by
  unfold portion
  positivity

theorem portion_self (hr : 0 < rem) : portion gross rem rem = gross := by
  have hr' : (rem : ℚ) ≠ 0 := by exact_mod_cast hr.ne'
  unfold portion
  field_simp

theorem portion_le (hg : 0 ≤ gross) (hr : 0 < rem) (hu : use ≤ rem) :
    portion gross rem use ≤ gross := by
  have hr' : (0 : ℚ) < rem := by exact_mod_cast hr
  have hu' : (use : ℚ) ≤ rem := by exact_mod_cast hu
  unfold portion
  rw [div_le_iff₀ hr']
  exact mul_le_mul_of_nonneg_left hu' hg

namespace Balanced

theorem full (ht : 0 ≤ total) (hb : 0 ≤ basis) : Balanced total total basis basis :=
  ⟨ht, le_refl _, hb, le_refl _, rfl⟩

theorem empty (ht : 0 ≤ total) (hb : 0 ≤ basis) : Balanced total 0 basis 0 :=
  ⟨le_refl _, ht, le_refl _, hb, by simp⟩

variable (h : Balanced total rem basis gross)

include h

theorem total_nonneg : 0 ≤ total :=
  h.rem_nonneg.trans h.rem_le

theorem basis_nonneg : 0 ≤ basis :=
  h.gross_nonneg.trans h.gross_le

theorem take (hr : 0 < rem) (hu : 0 ≤ use) (hle : use ≤ rem) :
    Balanced total (rem - use) basis (gross - portion gross rem use) := by
  have hr' : (rem : ℚ) ≠ 0 := by exact_mod_cast hr.ne'
  have h1 := portion_nonneg h.gross_nonneg hr hu
  have h2 := portion_le h.gross_nonneg hr hle
  refine ⟨by omega, ?_, by linarith, by linarith [h.gross_le], ?_⟩
  · have := h.rem_le; omega
  · have hp := h.proportional
    calc (gross - portion gross rem use) * total
        = gross * total * (1 - use / rem) := by unfold portion; ring
      _ = basis * rem * (1 - use / rem) := by rw [hp]
      _ = basis * (rem - use : ℤ) := by push_cast; field_simp

end Balanced

end Share
