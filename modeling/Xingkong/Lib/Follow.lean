import Mathlib.Logic.Relation
import Mathlib.Data.List.Basic

/-!
# Following a partial function

`next` sends some values on to others. `follow next n a` goes on from `a` for at most `n` steps. If
no value comes back to itself and only `n` values are sent on, it has then arrived
(`next_follow_eq_none`).
-/

namespace Follow

open Relation

variable {α : Type} (next : α → Option α)

def Sends (a b : α) : Prop := next a = some b

/-- No value comes back to itself. -/
def Acyclic : Prop := ∀ a, ¬ TransGen (Sends next) a a

def follow : Nat → α → α
  | 0, a => a
  | n + 1, a =>
    match next a with
    | none => a
    | some b => follow n b

variable {next} {a b : α} {n : Nat}

theorem acyclic_of_rank (rank : α → Nat) (h : ∀ a b, next a = some b → rank b < rank a) :
    Acyclic next := by
  have hlt {a b : α} (hab : TransGen (Sends next) a b) : rank b < rank a := by
    induction hab with
    | single hb => exact h _ _ hb
    | tail _ hc ih => exact Nat.lt_trans (h _ _ hc) ih
  exact fun a ha => Nat.lt_irrefl _ (hlt ha)

theorem follow_of_none (h : next a = none) : follow next n a = a := by
  cases n with
  | zero => rfl
  | succ n => rw [follow, h]

theorem follow_of_some (h : next a = some b) :
    follow next (n + 1) a = follow next n b := by
  rw [follow, h]

/-- Whatever is reached from a value on a cycle comes back to it. -/
theorem comes_back (h1 : TransGen (Sends next) a a)
    (h : ReflTransGen (Sends next) a b) : TransGen (Sends next) b a := by
  induction h with
  | refl => exact h1
  | tail _ h ih =>
    obtain ⟨c, hc, h2⟩ := TransGen.head'_iff.1 ih
    obtain rfl := Option.some.inj (h.symm.trans hc)
    exact .trans_right h2 h1

/-- A value from which an end is reached does not run into a cycle. -/
theorem not_cycle_of_end {c : α} (hend : ReflTransGen (Sends next) a b)
    (hnone : next b = none) (h : ReflTransGen (Sends next) a c) :
    ¬ TransGen (Sends next) c c := by
  intro h1
  have h2 : Relator.RightUnique (Sends next) := fun _ _ _ h h' =>
    Option.some.inj (h.symm.trans h')
  have h3 : TransGen (Sends next) b c := by
    rcases hend.total_of_right_unique h2 h with hbc | hcb
    · exact .trans_right hbc h1
    · exact comes_back h1 hcb
  obtain ⟨d, hd, -⟩ := TransGen.head'_iff.1 h3
  exact absurd (hnone.symm.trans hd) (by simp)

/-- Enough steps lead to the end. The values passed on the way are taken off the list, since none
of them comes back. -/
theorem next_follow_eq_none [DecidableEq α] (hac : Acyclic next) {dom : List α}
    (hdom : ∀ b, ReflTransGen (Sends next) a b → (next b).isSome → b ∈ dom)
    (hn : dom.length ≤ n) : next (follow next n a) = none := by
  induction n generalizing a dom with
  | zero =>
    cases h : next a with
    | none => rw [follow_of_none h, h]
    | some b =>
      have hmem := hdom a .refl (by rw [h]; rfl)
      rw [List.length_eq_zero_iff.1 (Nat.le_zero.1 hn)] at hmem
      cases hmem
  | succ n ih =>
    cases h : next a with
    | none => rw [follow_of_none h, h]
    | some b =>
      rw [follow_of_some h]
      have hmem := hdom a .refl (by rw [h]; rfl)
      have hrest : ∀ c, ReflTransGen (Sends next) b c → (next c).isSome →
          c ∈ dom.erase a := by
        intro c hc h1
        refine (List.mem_erase_of_ne ?_).2 (hdom c (hc.head h) h1)
        rintro rfl
        exact hac c (TransGen.head' h hc)
      refine ih hrest ?_
      rw [List.length_erase_of_mem hmem]
      omega

end Follow
