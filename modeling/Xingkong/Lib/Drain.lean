import Mathlib.Algebra.Order.BigOperators.Group.List
import Mathlib.Algebra.Order.Ring.Int

/-!
# Draining vessels from the front

A row of vessels is drained from the front until an amount is reached; an empty vessel is passed
over. `drain` is the row afterwards, `gain` what the taking yields and `rest` the part of the
amount that the row does not hold. If taking from one vessel can be split into two takings, so can
the draining of the row (`drain_drain`, `gain_add`), and a vessel is only touched when those before
it are empty (`empty_of_touched`).
-/

namespace Drain

open List

/-- Vessels `β` whose content yields values of `M` when it is taken. -/
structure Vessel (β M : Type) [AddMonoid M] where
  level : β → Int
  take : β → Int → β
  yield : β → Int → M
  level_take : ∀ {b n}, 0 < n → n ≤ level b → level (take b n) = level b - n
  take_take : ∀ {b m n}, 0 < m → 0 < n → m + n ≤ level b → take (take b m) n = take b (m + n)
  yield_add : ∀ {b m n}, 0 < m → 0 < n → m + n ≤ level b →
    yield b m + yield (take b m) n = yield b (m + n)

variable {β M : Type} [AddMonoid M] (V : Vessel β M)

def drain : List β → Int → List β
  | [], _ => []
  | b :: l, n =>
    if n ≤ 0 ∨ V.level b ≤ 0 then b :: drain l n
    else V.take b (min n (V.level b)) :: drain l (n - min n (V.level b))

def gain : List β → Int → M
  | [], _ => 0
  | b :: l, n =>
    if n ≤ 0 ∨ V.level b ≤ 0 then gain l n
    else V.yield b (min n (V.level b)) + gain l (n - min n (V.level b))

def rest : List β → Int → Int
  | [], n => n
  | b :: l, n => if n ≤ 0 ∨ V.level b ≤ 0 then rest l n else rest l (n - min n (V.level b))

def content (l : List β) : Int := (l.map fun b => max 0 (V.level b)).sum

variable {V} {b c : β} {l l1 l2 : List β} {m n : Int}

theorem drain_cons_of_le (h : n ≤ 0 ∨ V.level b ≤ 0) : drain V (b :: l) n = b :: drain V l n :=
  if_pos h

theorem drain_cons_of_pos (hn : 0 < n) (hb : 0 < V.level b) :
    drain V (b :: l) n =
      V.take b (min n (V.level b)) :: drain V l (n - min n (V.level b)) :=
  if_neg (by omega)

theorem gain_cons_of_le (h : n ≤ 0 ∨ V.level b ≤ 0) : gain V (b :: l) n = gain V l n := if_pos h

theorem gain_cons_of_pos (hn : 0 < n) (hb : 0 < V.level b) :
    gain V (b :: l) n =
      V.yield b (min n (V.level b)) + gain V l (n - min n (V.level b)) :=
  if_neg (by omega)

theorem drain_of_nonpos (hn : n ≤ 0) : drain V l n = l := by
  induction l with
  | nil => rfl
  | cons b l ih => rw [drain_cons_of_le (.inl hn), ih]

theorem gain_of_nonpos (hn : n ≤ 0) : gain V l n = 0 := by
  induction l with
  | nil => rfl
  | cons b l ih => rw [gain_cons_of_le (.inl hn), ih]

theorem rest_cons_of_le (h : n ≤ 0 ∨ V.level b ≤ 0) : rest V (b :: l) n = rest V l n := if_pos h

theorem rest_cons_of_pos (hn : 0 < n) (hb : 0 < V.level b) :
    rest V (b :: l) n = rest V l (n - min n (V.level b)) :=
  if_neg (by omega)

theorem rest_of_nonpos (hn : n ≤ 0) : rest V l n = n := by
  induction l with
  | nil => rfl
  | cons b l ih => rw [rest_cons_of_le (.inl hn), ih]

theorem content_nonneg : 0 ≤ content V l := by
  refine sum_nonneg fun x hx => ?_
  obtain ⟨c, -, rfl⟩ := mem_map.mp hx
  exact le_max_left _ _

theorem content_cons : content V (b :: l) = max 0 (V.level b) + content V l := by
  rw [content, map_cons, sum_cons]
  rfl

theorem rest_eq (hn : 0 ≤ n) : rest V l n = max 0 (n - content V l) := by
  induction l generalizing n with
  | nil => simp [rest, content, hn]
  | cons b l ih =>
    have hcons : content V (b :: l) = max 0 (V.level b) + content V l := content_cons
    have hrest : 0 ≤ content V l := content_nonneg
    unfold rest
    split
    · rw [ih hn]
      omega
    · rw [ih (by omega)]
      omega

theorem content_drain : content V (drain V l n) = content V l - (n - rest V l n) := by
  induction l generalizing n with
  | nil => simp [drain, rest]
  | cons b l ih =>
    by_cases h : n ≤ 0 ∨ V.level b ≤ 0
    · rw [drain_cons_of_le h, rest_cons_of_le h, content_cons, content_cons, ih]
      omega
    · have h := V.level_take (b := b) (n := min n (V.level b)) (by omega) (by omega)
      rw [drain_cons_of_pos (by omega) (by omega), rest_cons_of_pos (by omega) (by omega),
        content_cons, content_cons, ih, h]
      omega

theorem content_filter : content V (l.filter fun b => 0 < V.level b) = content V l := by
  induction l with
  | nil => rfl
  | cons b l ih =>
    by_cases hb : 0 < V.level b
    · rw [filter_cons_of_pos (by simpa using hb), content_cons, content_cons, ih]
    · rw [filter_cons_of_neg (by simpa using hb), content_cons, ih]
      omega

/-! ## Draining twice -/

theorem drain_drain (hm : 0 ≤ m) (hn : 0 ≤ n) : drain V (drain V l m) n = drain V l (m + n) := by
  induction l generalizing m n with
  | nil => rfl
  | cons b l ih =>
    by_cases hb : V.level b ≤ 0
    · rw [drain_cons_of_le (.inr hb), drain_cons_of_le (.inr hb), drain_cons_of_le (.inr hb),
        ih hm hn]
    rcases eq_or_lt_of_le hm with rfl | hm'
    · rw [drain_of_nonpos le_rfl, zero_add]
    rcases eq_or_lt_of_le hn with rfl | hn'
    · rw [drain_of_nonpos le_rfl, add_zero]
    have hlevel : V.level (V.take b (min m (V.level b))) = V.level b - min m (V.level b) :=
      V.level_take (by omega) (by omega)
    rw [drain_cons_of_pos hm' (by omega), drain_cons_of_pos (n := m + n) (by omega) (by omega)]
    rcases le_or_gt (V.level b) m with hle | hlt
    · -- The first taking empties the vessel.
      rw [drain_cons_of_le (.inr (by omega)), ih (by omega) hn, min_eq_right hle,
        min_eq_right (by omega)]
      congr 2
      omega
    · rw [min_eq_left hlt.le] at hlevel ⊢
      rw [drain_cons_of_pos hn' (by omega), hlevel, V.take_take hm' (by omega) (by omega),
        sub_self, drain_of_nonpos (l := l) le_rfl]
      congr 2 <;> omega

theorem gain_add (hm : 0 ≤ m) (hn : 0 ≤ n) :
    gain V l m + gain V (drain V l m) n = gain V l (m + n) := by
  induction l generalizing m n with
  | nil => exact add_zero 0
  | cons b l ih =>
    by_cases hb : V.level b ≤ 0
    · rw [drain_cons_of_le (.inr hb), gain_cons_of_le (.inr hb), gain_cons_of_le (.inr hb),
        gain_cons_of_le (.inr hb), ih hm hn]
    rcases eq_or_lt_of_le hm with rfl | hm'
    · rw [drain_of_nonpos le_rfl, gain_of_nonpos le_rfl, zero_add, zero_add]
    rcases eq_or_lt_of_le hn with rfl | hn'
    · rw [gain_of_nonpos (l := drain V _ _) le_rfl, add_zero, add_zero]
    have hlevel : V.level (V.take b (min m (V.level b))) = V.level b - min m (V.level b) :=
      V.level_take (by omega) (by omega)
    rw [drain_cons_of_pos hm' (by omega), gain_cons_of_pos hm' (by omega),
      gain_cons_of_pos (n := m + n) (by omega) (by omega)]
    rcases le_or_gt (V.level b) m with hle | hlt
    · rw [gain_cons_of_le (.inr (by omega)), add_assoc, ih (by omega) hn, min_eq_right hle,
        min_eq_right (by omega)]
      congr 2
      omega
    · rw [min_eq_left hlt.le] at hlevel ⊢
      rw [gain_cons_of_pos hn' (by omega), hlevel, sub_self, drain_of_nonpos (l := l) le_rfl,
        gain_of_nonpos (l := l) le_rfl, add_zero, ← add_assoc,
        V.yield_add hm' (by omega) (by omega)]
      congr 2 <;> omega

/-! ## The order of draining -/

theorem drain_append : drain V (l1 ++ l2) n = drain V l1 n ++ drain V l2 (rest V l1 n) := by
  induction l1 generalizing n with
  | nil => rfl
  | cons b l ih =>
    by_cases h : n ≤ 0 ∨ V.level b ≤ 0
    · rw [cons_append, drain_cons_of_le h, drain_cons_of_le h, rest_cons_of_le h, ih, cons_append]
    · rw [cons_append, drain_cons_of_pos (by omega) (by omega),
        drain_cons_of_pos (by omega) (by omega), rest_cons_of_pos (by omega) (by omega), ih,
        cons_append]

theorem empty_of_rest (hrest : 0 < rest V l n) : ∀ b ∈ drain V l n, V.level b ≤ 0 := by
  induction l generalizing n with
  | nil => simp [drain]
  | cons b l ih =>
    by_cases hn : n ≤ 0
    · rw [rest_of_nonpos hn] at hrest
      omega
    by_cases hb : V.level b ≤ 0
    · rw [rest_cons_of_le (.inr hb)] at hrest
      rw [drain_cons_of_le (.inr hb), forall_mem_cons]
      exact ⟨hb, ih hrest⟩
    · rw [rest_cons_of_pos (by omega) (by omega)] at hrest
      rw [drain_cons_of_pos (by omega) (by omega), forall_mem_cons]
      refine ⟨?_, ih hrest⟩
      rw [V.level_take (by omega) (by omega)]
      by_contra hleft
      -- The vessel has enough, so nothing would be asked of the next ones.
      rw [rest_of_nonpos (by omega)] at hrest
      omega

/-- **A vessel that is touched stands behind empty ones.** -/
theorem empty_of_touched (l1 : List β) (h : drain V l2 (rest V l1 n) ≠ l2) :
    ∀ b ∈ drain V l1 n, V.level b ≤ 0 := by
  refine empty_of_rest ?_
  by_contra hle
  exact h (drain_of_nonpos (by omega))

end Drain
