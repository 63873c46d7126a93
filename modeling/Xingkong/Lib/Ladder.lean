import Mathlib.Data.List.ReduceOption
import Mathlib.Tactic.Linarith

/-!
# Attempts that climb a ladder

A caller makes attempts on numbered levels, some perhaps on no level at all. Each level has
slots `0 … r`; `At r l s xs` says the attempts `xs` were made before slot `s` of level `l`.
Taking the next slot of a level, or moving up, keeps that; and attempts made on a ladder of
`n` levels are bounded in number, in number per level, and in their order.
-/

namespace Ladder

open List

/-- At most `n * (r + 1)` attempts, at most `r + 1` on a level, and never a step down. -/
structure Bounded (n r : Nat) (xs : List (Option Nat)) : Prop where
  length_le : xs.length ≤ n * (r + 1)
  count_le : ∀ i, xs.count (some i) ≤ r + 1
  sorted : xs.reduceOption.Pairwise (· ≤ ·)

theorem Bounded.nil (n r : Nat) : Bounded n r [] :=
  ⟨by simp, by simp, by simp⟩

/-- The attempts made before slot `s` of level `l`. -/
structure At (r l s : Nat) (xs : List (Option Nat)) : Prop where
  length_le : xs.length ≤ l * (r + 1) + s
  here_le : xs.count (some l) ≤ s
  count_le : ∀ i, xs.count (some i) ≤ r + 1
  below : ∀ i, some i ∈ xs → i ≤ l
  sorted : xs.reduceOption.Pairwise (· ≤ ·)

namespace At

variable {n r l s : Nat} {xs : List (Option Nat)}

theorem bounded (h : At r l s xs) (hl : l < n) (hs : s ≤ r + 1) : Bounded n r xs := by
  refine ⟨?_, h.count_le, h.sorted⟩
  calc xs.length ≤ l * (r + 1) + s := h.length_le
    _ ≤ l * (r + 1) + (r + 1) := Nat.add_le_add_left hs _
    _ = (l + 1) * (r + 1) := (Nat.succ_mul l (r + 1)).symm
    _ ≤ n * (r + 1) := Nat.mul_le_mul_right _ hl

theorem start (r l : Nat) : At r l 0 [] :=
  ⟨by simp, by simp, by simp, by simp, by simp⟩

variable (h : At r l s xs) {k : Nat}

include h

theorem sorted_append (hk : l ≤ k) : (xs ++ [some k]).reduceOption.Pairwise (· ≤ ·) := by
  rw [reduceOption_append, reduceOption_singleton, pairwise_append]
  refine ⟨h.sorted, by simp, fun i hi j hj => ?_⟩
  have hik : i ≤ l := h.below i (reduceOption_mem_iff.mp hi)
  have hj : j = k := by simpa using hj
  omega

theorem count_above (hk : l < k) : xs.count (some k) = 0 := by
  rw [count_eq_zero]
  intro hmem
  have := h.below k hmem
  omega

theorem stay (hs : s ≤ r) : At r l (s + 1) (xs ++ [some l]) := by
  refine ⟨?_, ?_, fun i => ?_, fun i hi => ?_, h.sorted_append le_rfl⟩
  · have := h.length_le
    rw [length_append, length_singleton]
    omega
  · have := h.here_le
    rw [count_append, count_singleton_self]
    omega
  · rw [count_append, count_singleton]
    split
    · next heq =>
      obtain rfl : l = i := by simpa using heq
      have := h.here_le
      omega
    · exact h.count_le i
  · rcases mem_append.mp hi with hi | hi
    · exact h.below i hi
    · obtain rfl : i = l := by simpa using hi
      exact le_rfl

theorem off : At r l (s + 1) (xs ++ [none]) := by
  have hcount : ∀ i, (xs ++ [none]).count (some i) = xs.count (some i) := fun i => by
    rw [count_append, count_singleton]
    rfl
  refine ⟨?_, ?_, fun i => ?_, fun i hi => h.below i (by simpa using hi), ?_⟩
  · have := h.length_le
    rw [length_append, length_singleton]
    omega
  · have := h.here_le
    rw [hcount]
    omega
  · rw [hcount]
    exact h.count_le i
  · rw [reduceOption_append]
    simpa [List.reduceOption] using h.sorted

/-- Leaving the level before it is used up, for the first slot of a higher one. -/
theorem climb (hs : s ≤ r + 1) (hk : l < k) : At r k 0 xs := by
  refine ⟨?_, (h.count_above hk).le, h.count_le, fun i hi => ?_, h.sorted⟩
  · have hb := (h.bounded hk hs).length_le
    omega
  · have := h.below i hi
    omega

end At

end Ladder
