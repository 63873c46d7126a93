import Mathlib.Algebra.BigOperators.Group.List.Basic
import Mathlib.Algebra.Order.Ring.Int
import Mathlib.Order.Lattice

/-!
# Ledgers of timed deltas

An append-only ledger of signed deltas. Each delta has an owner and a time; an owner is opened by
the first of its entries that says so. Two sums over a window differ: `since` adds what was written
in it, `net` adds all that belongs to owners opened in it. What separates them is `foreign`: deltas
written in the window for owners opened before.
-/

namespace TimedLedger

open List

variable {κ : Type} [DecidableEq κ]

structure Entry (κ : Type) where
  owner : κ
  time : Int
  delta : Int
  opens : Bool

def openedAt (l : List (Entry κ)) (k : κ) : Option Int :=
  (l.find? fun e => e.opens && decide (e.owner = k)).map Entry.time

/-- The owner was opened after `lo` and not after `hi`. -/
def openedIn (l : List (Entry κ)) (lo hi : Int) (k : κ) : Bool :=
  (openedAt l k).any fun p => decide (lo < p) && decide (p ≤ hi)

def since (l : List (Entry κ)) (start : Int) : Int :=
  (l.map fun e => if start ≤ e.time then e.delta else 0).sum

def net (l : List (Entry κ)) (lo hi : Int) : Int :=
  (l.map fun e => if openedIn l lo hi e.owner then e.delta else 0).sum

/-- The sum of the deltas that were written since `start` for other owners. -/
def foreign (l : List (Entry κ)) (start lo hi : Int) : Int :=
  (l.map fun e => if start ≤ e.time ∧ openedIn l lo hi e.owner = false then e.delta else 0).sum

/-- Every delta follows the opening of its owner. -/
def Anchored (l : List (Entry κ)) : Prop := ∀ e ∈ l, ∃ p, openedAt l e.owner = some p ∧ p ≤ e.time

variable {l : List (Entry κ)} {e : Entry κ} {k : κ} {p lo hi start : Int}

theorem openedAt_append (h : openedAt l k = some p) : openedAt (l ++ [e]) k = some p := by
  obtain ⟨x, hx, rfl⟩ := Option.map_eq_some_iff.1 h
  unfold openedAt
  rw [List.find?_append, hx]
  rfl

theorem openedAt_append_self (h : openedAt l e.owner = none) (he : e.opens = true) :
    openedAt (l ++ [e]) e.owner = some e.time := by
  have h1 := Option.map_eq_none_iff.1 h
  unfold openedAt
  rw [List.find?_append, h1]
  simp [he]

theorem openedAt_mem (h : openedAt l k = some p) : ∃ x ∈ l, x.time = p := by
  obtain ⟨x, hx, hp⟩ := Option.map_eq_some_iff.1 h
  exact ⟨x, List.mem_of_find?_eq_some hx, hp⟩

theorem Anchored.nil : Anchored ([] : List (Entry κ)) := nofun

theorem Anchored.append (h : Anchored l) (htime : ∀ x ∈ l, x.time ≤ e.time)
    (he : e.opens = true ∨ (openedAt l e.owner).isSome = true) : Anchored (l ++ [e]) := by
  intro x hx
  rcases mem_append.1 hx with hx | hx
  · obtain ⟨p, hp, hle⟩ := h x hx
    exact ⟨p, openedAt_append hp, hle⟩
  · obtain rfl := mem_singleton.1 hx
    cases ho : openedAt l x.owner with
    | some p =>
      obtain ⟨y, hy, hyp⟩ := openedAt_mem ho
      have hle := htime y hy
      exact ⟨p, openedAt_append ho, by omega⟩
    | none =>
      have hon : x.opens = true := by
        rcases he with he | he
        · exact he
        · rw [ho] at he
          cases he
      exact ⟨x.time, openedAt_append_self ho hon, Int.le_refl _⟩

/-- **What belongs to the window and what does not is all that was written in it**, if every delta
follows the opening of its owner and none was written before `start`. -/
theorem net_add_foreign (h : Anchored l) (h1 : ∀ x ∈ l, start ≤ x.time) :
    net l lo hi + foreign l (max start lo) lo hi = since l (max start lo) := by
  unfold net foreign since
  rw [← sum_map_add]
  refine congrArg List.sum (map_congr_left fun x hx => ?_)
  obtain ⟨p, hp, hle⟩ := h x hx
  have hs := h1 x hx
  cases hin : openedIn l lo hi x.owner with
  | false => simp
  | true =>
    -- opened in the window, so written in it
    have hlo : lo < p := by
      unfold openedIn at hin
      rw [hp] at hin
      simp only [Option.any_some, Bool.and_eq_true, decide_eq_true_eq] at hin
      exact hin.1
    have hmax : max start lo ≤ x.time := max_le hs (by omega)
    simp [hmax]

theorem net_append_le (h : Anchored l) (he : 0 ≤ e.delta) :
    net (l ++ [e]) lo hi ≤ net l lo hi + e.delta := by
  have h1 : ∀ x ∈ l, openedIn (l ++ [e]) lo hi x.owner = openedIn l lo hi x.owner := by
    intro x hx
    obtain ⟨p, hp, _⟩ := h x hx
    unfold openedIn
    rw [openedAt_append hp, hp]
  unfold net
  rw [map_append, sum_append, map_congr_left fun x hx => by rw [h1 x hx]]
  have h : ([e].map fun x => if openedIn (l ++ [e]) lo hi x.owner then x.delta else 0).sum ≤
      e.delta := by
    simp only [map_cons, map_nil, sum_cons, sum_nil, add_zero]
    split <;> omega
  omega

/-- **A delta that fits into what was written fits into what belongs to the window**, if what was
written for others does not make room. -/
theorem net_append_le_limit (h : Anchored l) {limit : Int}
    (h1 : ∀ x ∈ l, start ≤ x.time) (he : 0 ≤ e.delta)
    (h2 : max 0 (since l (max start lo)) + e.delta ≤ limit)
    (h2 : 0 ≤ foreign l (max start lo) lo hi) : net (l ++ [e]) lo hi ≤ limit := by
  have h2 : net l lo hi + foreign l (max start lo) lo hi = since l (max start lo) :=
    net_add_foreign h h1
  have h1 : net (l ++ [e]) lo hi ≤ net l lo hi + e.delta := net_append_le h he
  have h := le_max_right 0 (since l (max start lo))
  omega

end TimedLedger
