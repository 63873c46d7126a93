import Mathlib.Algebra.BigOperators.Group.List.Basic
import Mathlib.Data.List.Nodup
import Mathlib.Data.List.Perm.Basic
import Mathlib.Tactic.Abel

/-!
# Tallies of relative updates

A write-behind buffer holds one entry per key, the sum of the updates that were added under it.
`amount k t` is what the tally holds for key `k`. Adding an update, taking an entry out and
emptying the tally change it as they should, in whatever order entries are taken out.
-/

namespace Tally

open List

variable {κ M : Type} [DecidableEq κ]

def add [Add M] (k : κ) (v : M) : List (κ × M) → List (κ × M)
  | [] => [(k, v)]
  | e :: t => if e.1 = k then (e.1, e.2 + v) :: t else e :: add k v t

variable [AddCommGroup M]

def amount (k : κ) (t : List (κ × M)) : M := (t.map fun e => if e.1 = k then e.2 else 0).sum

@[simp] theorem amount_nil (k : κ) : amount k ([] : List (κ × M)) = 0 := rfl

@[simp] theorem amount_cons (k : κ) (e : κ × M) (t : List (κ × M)) :
    amount k (e :: t) = (if e.1 = k then e.2 else 0) + amount k t := by
  simp [amount]

@[simp] theorem amount_append (k : κ) (t t' : List (κ × M)) :
    amount k (t ++ t') = amount k t + amount k t' := by
  simp [amount]

theorem amount_add (n k : κ) (v : M) (t : List (κ × M)) :
    amount n (add k v t) = amount n t + if k = n then v else 0 := by
  induction t with
  | nil => simp [add]
  | cons e t ih =>
    unfold add
    by_cases he : e.1 = k
    · rw [if_pos he, amount_cons, amount_cons]
      by_cases hn : k = n
      · simp only [he, hn, if_true]
        abel
      · simp [he, hn]
    · rw [if_neg he, amount_cons, amount_cons, ih]
      abel

def total (t : List (κ × M)) : M := (t.map Prod.snd).sum

omit [DecidableEq κ] in
@[simp] theorem total_nil : total ([] : List (κ × M)) = 0 := rfl

omit [DecidableEq κ] in
@[simp] theorem total_cons (e : κ × M) (t : List (κ × M)) : total (e :: t) = e.2 + total t := by
  simp [total]

omit [DecidableEq κ] in
@[simp] theorem total_append (t t' : List (κ × M)) : total (t ++ t') = total t + total t' := by
  simp [total]

theorem total_add (k : κ) (v : M) (t : List (κ × M)) : total (add k v t) = total t + v := by
  induction t with
  | nil => simp [add]
  | cons e t ih =>
    unfold add
    split
    · show e.2 + v + total t = total (e :: t) + v
      rw [total_cons]
      abel
    · rw [total_cons, total_cons, ih]
      abel

variable {t : List (κ × M)} {k : κ}

theorem forall_key_add {P : κ → Prop} {v : M} (hk : P k) (ht : ∀ e ∈ t, P e.1) :
    ∀ e ∈ add k v t, P e.1 := by
  induction t with
  | nil =>
    intro e he
    rw [mem_singleton.1 he]
    exact hk
  | cons d t ih =>
    rw [forall_mem_cons] at ht
    unfold add
    split
    · rw [forall_mem_cons]
      exact ⟨ht.1, ht.2⟩
    · rw [forall_mem_cons]
      exact ⟨ht.1, ih ht.2⟩

theorem amount_of_not_mem (h : ∀ e ∈ t, e.1 ≠ k) : amount k t = 0 := by
  induction t with
  | nil => rfl
  | cons e t ih =>
    rw [forall_mem_cons] at h
    rw [amount_cons, if_neg h.1, ih h.2, add_zero]

theorem sum_amount {keys : List κ} (hk : keys.Nodup) (ht : ∀ e ∈ t, e.1 ∈ keys) :
    (keys.map fun k => amount k t).sum = total t := by
  induction t with
  | nil => simp
  | cons e t ih =>
    rw [forall_mem_cons] at ht
    have hone : (keys.map fun k => if e.1 = k then e.2 else 0).sum = e.2 := by
      rw [sum_map_eq_nsmul_single e.1 _ fun k hne _ => if_neg (Ne.symm hne),
        nodup_iff_count_eq_one.1 hk e.1 ht.1, one_nsmul, if_pos rfl]
    simp only [amount_cons]
    rw [sum_map_add, hone, ih ht.2, total_cons]

theorem amount_eraseIdx (k : κ) {i : Nat} (h : i < t.length) :
    amount k (t.eraseIdx i) = amount k t - if t[i].1 = k then t[i].2 else 0 := by
  have h1 := (getElem_cons_eraseIdx_perm h).map fun e : κ × M => if e.1 = k then e.2 else 0
  have hsum := h1.sum_eq
  rw [map_cons, sum_cons] at hsum
  unfold amount
  rw [← hsum]
  abel

end Tally
