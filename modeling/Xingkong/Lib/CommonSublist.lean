import Mathlib.Data.List.Infix

/-!
# Longest common sublists

The length of a longest common sublist by recursion on both lists: an equal pair of heads may always
be taken, and of unequal heads one is not needed.
-/

namespace CommonSublist

open List

variable {α : Type} [DecidableEq α] {xs ys zs : List α}

def lcs : List α → List α → Nat
  | [], _ => 0
  | _ :: _, [] => 0
  | x :: xs, y :: ys => if x = y then lcs xs ys + 1 else max (lcs xs (y :: ys)) (lcs (x :: xs) ys)
termination_by xs ys => xs.length + ys.length

/-- **No common sublist is longer.** -/
theorem length_le_lcs (hx : zs <+ xs) (hy : zs <+ ys) : zs.length ≤ lcs xs ys := by
  fun_induction lcs xs ys generalizing zs with
  | case1 => simp [sublist_nil.1 hx]
  | case2 => simp [sublist_nil.1 hy]
  | case3 x xs ys ih =>
    have := ih hx.tail hy.tail
    rw [length_tail] at this
    omega
  | case4 x xs y ys hne ihx ihy =>
    rcases sublist_cons_iff.1 hx with hx' | ⟨r, rfl, hr⟩
    · have := ihx hx' hy
      omega
    · rcases sublist_cons_iff.1 hy with hy' | ⟨r', he, -⟩
      · have := ihy hx hy'
        omega
      · exact absurd (cons.inj he).1 hne

/-- A common sublist as long as any. -/
def IsLongest (zs xs ys : List α) : Prop :=
  (zs <+ xs ∧ zs <+ ys) ∧ ∀ zs', zs' <+ xs → zs' <+ ys → zs'.length ≤ zs.length

end CommonSublist
