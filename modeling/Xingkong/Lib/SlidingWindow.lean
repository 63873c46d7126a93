import Mathlib.Data.List.Perm.Basic
import Mathlib.Data.List.Count

/-!
# Sliding windows

A limiter that admits at most `n` events in any interval shorter than `d` keeps some of the
times at which it admitted one. `Covers n d now times kept` is what makes such a store
sufficient: it holds at most `n` times, and every admitted time it has forgotten is at
least `d` old. An admission keeps that up when what it drops is old as well
(`Covers.accept`), and so does forgetting everything once all of it is old
(`Covers.forget`). No order of the times is needed, only that the clock does not run
backwards.
-/

namespace SlidingWindow

open List

def countIn (a b : Int) (times : List Int) : Nat := times.countP fun x => a ≤ x && x ≤ b

theorem countIn_append (a b : Int) (xs ys : List Int) :
    countIn a b (xs ++ ys) = countIn a b xs + countIn a b ys := countP_append

theorem countIn_perm {xs ys : List Int} (h : xs.Perm ys) (a b : Int) :
    countIn a b xs = countIn a b ys := h.countP_eq _

theorem countIn_le_length (a b : Int) (times : List Int) : countIn a b times ≤ times.length :=
  countP_le_length

variable {times : List Int}

theorem countIn_eq_zero {a b : Int} (h : ∀ x ∈ times, x < a ∨ b < x) :
    countIn a b times = 0 := by
  refine countP_eq_zero.mpr fun x hx => ?_
  have := h x hx
  simp only [Bool.and_eq_true, decide_eq_true_eq]
  omega

theorem countIn_eq_length {a b : Int} (h : ∀ x ∈ times, a ≤ x ∧ x ≤ b) :
    countIn a b times = times.length := by
  refine countP_eq_length.mpr fun x hx => ?_
  have := h x hx
  simp only [Bool.and_eq_true, decide_eq_true_eq]
  omega

/-- At most `n` times in any interval shorter than `d`. -/
def Bounded (n : Nat) (d : Int) (times : List Int) : Prop :=
  ∀ a b, b < a + d → countIn a b times ≤ n

theorem bounded_nil (n : Nat) (d : Int) : Bounded n d [] := fun _ _ _ => Nat.zero_le n

/-- `kept` is enough of `times` to decide at `now` whether one more may be admitted. -/
structure Covers (n : Nat) (d now : Int) (times kept : List Int) : Prop where
  bounded : Bounded n d times
  forgotten : ∃ gone, times.Perm (gone ++ kept) ∧ ∀ x ∈ gone, x + d ≤ now
  length_le : kept.length ≤ n

namespace Covers

variable {n : Nat} {d now : Int} {kept : List Int}

theorem start (n : Nat) (d now : Int) : Covers n d now [] [] :=
  ⟨bounded_nil n d, ⟨[], .nil, fun _ hx => nomatch hx⟩, Nat.zero_le n⟩

variable (h : Covers n d now times kept)

include h

theorem advance {later : Int} (hle : now ≤ later) : Covers n d later times kept := by
  obtain ⟨gone, h1, hold⟩ := h.forgotten
  refine ⟨h.bounded, ⟨gone, h1, fun x hx => ?_⟩, h.length_le⟩
  have := hold x hx
  omega

/-- One more time may be admitted now if, of it and the times kept, all but `n` are old. -/
theorem accept {old rest : List Int}
    (h1 : (now :: kept).Perm (old ++ rest)) (hold : ∀ x ∈ old, x + d ≤ now)
    (hlen : rest.length ≤ n) : Covers n d now (times ++ [now]) rest := by
  obtain ⟨gone, h2, hgone⟩ := h.forgotten
  have hall : (times ++ [now]).Perm ((gone ++ old) ++ rest) := by
    calc (times ++ [now]).Perm ((gone ++ kept) ++ [now]) := h2.append_right _
      _ = gone ++ (kept ++ [now]) := append_assoc ..
      _ |>.Perm (gone ++ (now :: kept)) :=
        Perm.append_left gone (perm_append_singleton now kept)
      _ |>.Perm (gone ++ (old ++ rest)) := Perm.append_left gone h1
      _ = (gone ++ old) ++ rest := (append_assoc ..).symm
  have hpast : ∀ x ∈ gone ++ old, x + d ≤ now := by
    intro x hx
    rcases mem_append.mp hx with hx | hx
    · exact hgone x hx
    · exact hold x hx
  refine ⟨fun a b hab => ?_, ⟨gone ++ old, hall, hpast⟩, hlen⟩
  by_cases hin : a ≤ now ∧ now ≤ b
  · -- An interval that reaches to now begins after all that is old.
    have hnone : countIn a b (gone ++ old) = 0 := by
      refine countIn_eq_zero fun x hx => .inl ?_
      have := hpast x hx
      omega
    rw [countIn_perm hall, countIn_append, hnone, Nat.zero_add]
    exact Nat.le_trans (countIn_le_length a b rest) hlen
  · have hnone : countIn a b [now] = 0 := by
      refine countIn_eq_zero fun x hx => ?_
      rw [mem_singleton] at hx
      omega
    rw [countIn_append, hnone]
    exact h.bounded a b hab

theorem accept_of_room (h1 : kept.length < n) :
    Covers n d now (times ++ [now]) (kept ++ [now]) :=
  h.accept (perm_append_singleton now kept).symm (fun x (hx : x ∈ []) => nomatch hx)
    (by rw [length_append, length_singleton]; omega)

theorem forget (hold : ∀ x ∈ kept, x + d ≤ now) : Covers n d now times [] := by
  obtain ⟨gone, h1, h1⟩ := h.forgotten
  refine ⟨h.bounded, ⟨gone ++ kept, by rwa [append_nil], fun x hx => ?_⟩, Nat.zero_le n⟩
  rcases mem_append.mp hx with hx | hx
  · exact h1 x hx
  · exact hold x hx

end Covers

end SlidingWindow
