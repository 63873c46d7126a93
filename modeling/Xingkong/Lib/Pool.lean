import Mathlib.Algebra.BigOperators.Group.Finset.Basic
import Mathlib.Tactic.Abel
import Xingkong.Lib.Run

/-!
# Threads over a shared store

Any number of threads, each with a state of its own, take turns on one shared store. A step
belongs to one thread: it moves that thread and the store. A property of all threads is carried
over a step by showing it for the thread that moved and that the others do not lose it; a sum
over all threads changes by what the one thread contributes more or less.
-/

namespace Pool

open Function

variable {ι T S A : Type} [DecidableEq ι]

structure State (ι T S : Type) where
  shared : S
  threads : ι → T

variable (run : T → A → S → T × S)

/-- Thread `x.1` takes action `x.2`. -/
def next (p : State ι T S) (x : ι × A) : State ι T S where
  shared := (run (p.threads x.1) x.2 p.shared).2
  threads := Function.update p.threads x.1 (run (p.threads x.1) x.2 p.shared).1

variable {run} {p : State ι T S} {x : ι × A}

@[simp] theorem next_shared :
    (next run p x).shared = (run (p.threads x.1) x.2 p.shared).2 := rfl

@[simp] theorem next_own :
    (next run p x).threads x.1 = (run (p.threads x.1) x.2 p.shared).1 :=
  update_self ..

theorem next_other {j : ι} (h : j ≠ x.1) : (next run p x).threads j = p.threads j :=
  update_of_ne h ..

/-- What holds for the thread that moved and is kept for the others holds for all. -/
theorem forall_next {L : S → ι → T → Prop}
    (hown : L (next run p x).shared x.1 (run (p.threads x.1) x.2 p.shared).1)
    (h1 : ∀ j, j ≠ x.1 → L (next run p x).shared j (p.threads j)) (j : ι) :
    L (next run p x).shared j ((next run p x).threads j) := by
  by_cases h : j = x.1
  · subst h
    rw [next_own]
    exact hown
  · rw [next_other h]
    exact h1 j h

/-- At most one thread is in a state of kind `K`, if a thread only gets into one when no other
is. -/
theorem one_next {K : T → Prop} (h : ∀ i j, K (p.threads i) → K (p.threads j) → i = j)
    (hnew : K (run (p.threads x.1) x.2 p.shared).1 →
      K (p.threads x.1) ∨ ∀ j, j ≠ x.1 → ¬ K (p.threads j)) (i j : ι)
    (hi : K ((next run p x).threads i)) (hj : K ((next run p x).threads j)) : i = j := by
  have hother : ∀ k, k ≠ x.1 → K ((next run p x).threads k) →
      K ((next run p x).threads x.1) → False := fun k hk hkk hx => by
    rw [next_own] at hx
    rw [next_other hk] at hkk
    rcases hnew hx with hold | h1
    · exact hk (h k x.1 hkk hold)
    · exact h1 k hk hkk
  by_cases hix : i = x.1
  · by_cases hjx : j = x.1
    · rw [hix, hjx]
    · exact (hother j hjx hj (hix ▸ hi)).elim
  · by_cases hjx : j = x.1
    · exact (hother i hix hi (hjx ▸ hj)).elim
    · rw [next_other hix] at hi
      rw [next_other hjx] at hj
      exact h i j hi hj

section Mutex

variable {κ : Type} [DecidableEq κ] {group : T → κ} {holds : T → Prop} {locks : S → κ → Bool}

/-- Each group of threads has a lock of its own, which at most one of them holds. -/
structure Exclusive (group : T → κ) (holds : T → Prop) (locks : S → κ → Bool)
    (p : State ι T S) : Prop where
  held : ∀ i, holds (p.threads i) → locks p.shared (group (p.threads i)) = true
  one : ∀ i j, holds (p.threads i) → holds (p.threads j) →
    group (p.threads i) = group (p.threads j) → i = j

/-- What a step may do to the lock of its thread's group. -/
inductive LockMove (group : T → κ) (holds : T → Prop) (t t' : T) (l l' : κ → Bool) : Prop
  | keep (h : holds t' → holds t) (hl : l' = l)
  | acquire (hfree : l (group t) = false) (hl : l' = Function.update l (group t) true)
  | release (h : holds t) (h' : ¬ holds t') (hl : l' = Function.update l (group t) false)

theorem Exclusive.next (h : Exclusive group holds locks p)
    (hgroup : group (run (p.threads x.1) x.2 p.shared).1 = group (p.threads x.1))
    (hmove : LockMove group holds (p.threads x.1) (run (p.threads x.1) x.2 p.shared).1
      (locks p.shared) (locks (run (p.threads x.1) x.2 p.shared).2)) :
    Exclusive group holds locks (Pool.next run p x) := by
  have hfree : ∀ j, j ≠ x.1 → holds (p.threads j) → holds (run (p.threads x.1) x.2 p.shared).1 →
      group (p.threads j) ≠ group (p.threads x.1) := fun j hj hh hh' hg => by
    cases hmove with
    | keep hk _ => exact hj (h.one j x.1 hh (hk hh') hg)
    | acquire hf _ =>
      have hl := h.held j hh
      rw [hg, hf] at hl
      cases hl
    | release _ hn _ => exact hn hh'
  constructor
  · refine forall_next (L := fun s _ t => holds t → locks s (group t) = true) (fun hh => ?_)
      fun j hj hh => ?_
    · rw [next_shared, hgroup]
      cases hmove with
      | keep hk hl => rw [hl]; exact h.held x.1 (hk hh)
      | acquire _ hl => rw [hl, update_self]
      | release _ hn _ => exact absurd hh hn
    · rw [next_shared]
      have hlock := h.held j hh
      cases hmove with
      | keep _ hl => rw [hl]; exact hlock
      | acquire _ hl =>
        rw [hl]
        by_cases hg : group (p.threads j) = group (p.threads x.1)
        · rw [hg, update_self]
        · rw [update_of_ne hg]; exact hlock
      | release ho _ hl =>
        have hg : group (p.threads j) ≠ group (p.threads x.1) :=
          fun hg => hj (h.one j x.1 hh ho hg)
        rw [hl, update_of_ne hg]
        exact hlock
  · intro i j hi hj hg
    by_cases hix : i = x.1
    · by_cases hjx : j = x.1
      · rw [hix, hjx]
      · subst hix
        rw [next_own] at hi hg
        rw [next_other hjx] at hj hg
        exact absurd (hg.symm.trans hgroup) (hfree j hjx hj hi)
    · by_cases hjx : j = x.1
      · subst hjx
        rw [next_own] at hj hg
        rw [next_other hix] at hi hg
        exact absurd (hg.trans hgroup) (hfree i hix hi hj)
      · rw [next_other hix] at hi hg
        rw [next_other hjx] at hj hg
        exact h.one i j hi hj hg

end Mutex

section Sum

variable [Fintype ι] {M : Type} [AddCommGroup M]

theorem sum_next (c : T → M) :
    ∑ j, c ((next run p x).threads j) =
      ∑ j, c (p.threads j) +
        (c (run (p.threads x.1) x.2 p.shared).1 - c (p.threads x.1)) := by
  have h := fun f : ι → M => (Finset.add_sum_erase Finset.univ f (Finset.mem_univ x.1)).symm
  rw [h fun j => c ((next run p x).threads j), h fun j => c (p.threads j), next_own]
  have hrest : ∑ j ∈ Finset.univ.erase x.1, c ((next run p x).threads j) =
      ∑ j ∈ Finset.univ.erase x.1, c (p.threads j) :=
    Finset.sum_congr rfl fun j hj => by rw [next_other (Finset.ne_of_mem_erase hj)]
  rw [hrest]
  abel

end Sum

end Pool
