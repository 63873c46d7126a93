import Mathlib.Data.List.Sort
import Mathlib.Data.List.Dedup
import Mathlib.Algebra.BigOperators.Group.List.Basic
import Mathlib.Algebra.Order.Ring.Int
import Mathlib.Data.Nat.Count

/-!
# Choosing among candidates

`walk` takes weights off a random number until it is used up; over all numbers below the
total weight it reaches exactly the candidates with a positive weight
(`mem_walk_iff`). `levels` lists the distinct values of a column, greatest first, and
`level` reads the one a retry count asks for, the last one once the count runs past the
end; it depends on which values occur and on nothing else (`levels_congr`).
-/

namespace Selection

open List

section Walk

variable {α : Type} (weight : α → Int)

/-- Take the weight of each candidate off `x`; the first that makes it negative wins. -/
def walk : List α → Int → Option α
  | [], _ => none
  | c :: cs, x => if x - weight c < 0 then some c else walk cs (x - weight c)

def total (cs : List α) : Int := (cs.map weight).sum

@[simp] theorem total_nil : total weight ([] : List α) = 0 := rfl

@[simp] theorem total_cons (c : α) (cs : List α) :
    total weight (c :: cs) = weight c + total weight cs := by simp [total]

variable {weight} {cs : List α} {c : α} {x : Int}

theorem total_nonneg (h : ∀ c ∈ cs, 0 ≤ weight c) : 0 ≤ total weight cs := by
  induction cs with
  | nil => exact le_rfl
  | cons c cs ih =>
    have hc := h c mem_cons_self
    have hcs := ih fun d hd => h d (mem_cons_of_mem _ hd)
    rw [total_cons]
    omega

theorem mem_of_walk (h : walk weight cs x = some c) : c ∈ cs := by
  induction cs generalizing x with
  | nil => cases h
  | cons d cs ih =>
    unfold walk at h
    split at h
    · cases h
      exact mem_cons_self
    · exact mem_cons_of_mem _ (ih h)

theorem pos_of_walk (hx : 0 ≤ x) (h : walk weight cs x = some c) :
    0 < weight c := by
  induction cs generalizing x with
  | nil => cases h
  | cons d cs ih =>
    unfold walk at h
    split at h
    · cases h
      omega
    · exact ih (by omega) h

theorem walk_isSome (hx : 0 ≤ x) (h : x < total weight cs) :
    (walk weight cs x).isSome := by
  induction cs generalizing x with
  | nil =>
    rw [total_nil] at h
    omega
  | cons c cs ih =>
    rw [total_cons] at h
    unfold walk
    split
    · rfl
    · exact ih (by omega) (by omega)

/-- Each candidate wins from the numbers of its share, of which there are as many as its
weight. -/
theorem walk_complete (h : ∀ c ∈ cs, 0 ≤ weight c) (hc : c ∈ cs) :
    ∃ x, 0 ≤ x ∧ x + weight c ≤ total weight cs ∧
      ∀ y, x ≤ y → y < x + weight c → walk weight cs y = some c := by
  induction cs with
  | nil => cases hc
  | cons d cs ih =>
    have hd := h d mem_cons_self
    have hcs : ∀ e ∈ cs, 0 ≤ weight e := fun e he => h e (mem_cons_of_mem _ he)
    rw [total_cons]
    rcases mem_cons.mp hc with rfl | hc
    · have h := total_nonneg hcs
      refine ⟨0, le_rfl, by omega, fun y _ hy => ?_⟩
      rw [walk, if_pos (by omega)]
    · obtain ⟨x, hx, hle, hwin⟩ := ih hcs hc
      refine ⟨x + weight d, by omega, by omega, fun y hxy hy => ?_⟩
      rw [walk, if_neg (by omega)]
      exact hwin _ (by omega) (by omega)

theorem weight_le_total (h : ∀ c ∈ cs, 0 ≤ weight c) (hc : c ∈ cs) :
    weight c ≤ total weight cs := by
  obtain ⟨x, hx, hle, -⟩ := walk_complete h hc
  omega

/-- **Over all numbers below the total weight, the winners are the candidates with a
positive weight.** -/
theorem mem_walk_iff (h : ∀ c ∈ cs, 0 ≤ weight c) (o : Option α) :
    (∃ x, 0 ≤ x ∧ x < total weight cs ∧ walk weight cs x = o) ↔
      ∃ c ∈ cs, 0 < weight c ∧ o = some c := by
  constructor
  · rintro ⟨x, hx, hlt, rfl⟩
    obtain ⟨c, hc⟩ := Option.isSome_iff_exists.mp (walk_isSome hx hlt)
    exact ⟨c, mem_of_walk hc, pos_of_walk hx hc, hc⟩
  · rintro ⟨c, hc, h1, rfl⟩
    obtain ⟨x, hx, hle, hwin⟩ := walk_complete h hc
    exact ⟨x, hx, by omega, hwin x le_rfl (by omega)⟩

/-- The same from one below: the first candidate gains a number and the last loses one,
which takes nothing away from candidates of weight 2 or more. -/
theorem mem_walk_pred_iff (hweight : ∀ c ∈ cs, 2 ≤ weight c) (hne : cs ≠ [])
    (o : Option α) :
    (∃ x, 0 ≤ x ∧ x < total weight cs ∧ walk weight cs (x - 1) = o) ↔
      ∃ c ∈ cs, o = some c := by
  have hnonneg : ∀ c ∈ cs, 0 ≤ weight c := fun c hc => by
    have := hweight c hc
    omega
  constructor
  · rintro ⟨x, hx, hlt, rfl⟩
    obtain ⟨d, ds, rfl⟩ := exists_cons_of_ne_nil hne
    by_cases h : x = 0
    · have hd := hnonneg d mem_cons_self
      refine ⟨d, mem_cons_self, ?_⟩
      rw [walk, if_pos (by omega)]
    · obtain ⟨c, hc⟩ := Option.isSome_iff_exists.mp
        (walk_isSome (show 0 ≤ x - 1 by omega) (show x - 1 < total weight (d :: ds) by omega))
      exact ⟨c, mem_of_walk hc, hc⟩
  · rintro ⟨c, hc, rfl⟩
    have h := hweight c hc
    obtain ⟨x, hx, hle, hwin⟩ := walk_complete hnonneg hc
    refine ⟨x + 1, by omega, by omega, hwin _ (by omega) (by omega)⟩

/-- **Each candidate wins from as many numbers as its weight says**, once for each time it is
listed. -/
theorem count_walk [DecidableEq α] (h : ∀ c ∈ cs, 0 ≤ weight c) (c : α) :
    Nat.count (fun x => walk weight cs x = some c) (total weight cs).toNat =
      cs.count c * (weight c).toNat := by
  induction cs with
  | nil => simp
  | cons d cs ih =>
    obtain ⟨hd, hcs⟩ := forall_mem_cons.mp h
    have h := total_nonneg hcs
    have hhd : ∀ x < (weight d).toNat, walk weight (d :: cs) x = some d := fun x hx => by
      rw [walk, if_pos (by omega)]
    have h1 : ∀ x : Nat, walk weight (d :: cs) ↑((weight d).toNat + x) = walk weight cs x :=
      fun x => by
        have hx : (↑((weight d).toNat + x) : Int) - weight d = x := by omega
        rw [walk, hx, if_neg (by omega)]
    rw [total_cons, Int.toNat_add hd h, Nat.count_add]
    simp only [h1, ih hcs]
    by_cases hdc : d = c
    · subst hdc
      rw [Nat.count_of_forall fun {x} hx => hhd x hx, count_cons_self, Nat.succ_mul, Nat.add_comm]
    · rw [Nat.count_of_forall_not fun {x} hx h => hdc (Option.some.inj ((hhd x hx).symm.trans h)),
        count_cons_of_ne hdc, Nat.zero_add]

/-- Draws reduced modulo a range are the numbers of the range. -/
theorem exists_draw_iff {range : Int} (h1 : 0 < range) (P : Int → Prop) :
    (∃ draw : Nat, P ((draw : Int) % range)) ↔ ∃ x, 0 ≤ x ∧ x < range ∧ P x := by
  constructor
  · rintro ⟨draw, h⟩
    exact ⟨_, Int.emod_nonneg _ h1.ne', Int.emod_lt_of_pos _ h1, h⟩
  · rintro ⟨x, hx, hlt, h⟩
    refine ⟨x.toNat, ?_⟩
    rwa [Int.toNat_of_nonneg hx, Int.emod_eq_of_lt hx hlt]

end Walk

section Levels

/-- The distinct values, greatest first. -/
def levels (values : List Int) : List Int := values.dedup.insertionSort (· ≥ ·)

/-- The level a retry count asks for: the next one each time, in the end always the last. -/
def level (values : List Int) (retry : Nat) : Option Int :=
  (levels values)[min retry ((levels values).length - 1)]?

variable {values : List Int} {v : Int}

theorem mem_levels : v ∈ levels values ↔ v ∈ values := by
  rw [levels, (perm_insertionSort _ _).mem_iff, mem_dedup]

theorem levels_pairwise (values : List Int) : (levels values).Pairwise (· > ·) := by
  have h : (levels values).Pairwise (· ≥ ·) := pairwise_insertionSort _ _
  have hnd : (levels values).Nodup :=
    (perm_insertionSort _ _).nodup_iff.mpr values.nodup_dedup
  refine h.imp₂ (fun a b hge hne => ?_) hnd
  omega

theorem levels_eq_nil : levels values = [] ↔ values = [] := by
  simp only [eq_nil_iff_forall_not_mem, mem_levels]

theorem level_isSome (hne : values ≠ []) (retry : Nat) :
    ∃ v ∈ values, level values retry = some v := by
  have hlen : 0 < (levels values).length := by
    rw [length_pos_iff]
    exact fun h => hne (levels_eq_nil.mp h)
  have hlt : min retry ((levels values).length - 1) < (levels values).length := by omega
  refine ⟨_, mem_levels.mp (getElem_mem hlt), List.getElem?_eq_getElem hlt⟩

theorem exists_level (h : v ∈ values) : ∃ retry, level values retry = some v := by
  obtain ⟨i, hi, rfl⟩ := getElem_of_mem (mem_levels.mpr h)
  refine ⟨i, ?_⟩
  rw [level, min_eq_left (by omega)]
  exact List.getElem?_eq_getElem hi

theorem levels_congr {xs ys : List Int} (h : ∀ v, v ∈ xs ↔ v ∈ ys) : levels xs = levels ys := by
  have hnd : ∀ values, (levels values).Nodup := fun values =>
    (levels_pairwise values).imp fun hgt => by omega
  have h1 : (levels xs).Perm (levels ys) := by
    refine (perm_ext_iff_of_nodup (hnd xs) (hnd ys)).mpr fun v => ?_
    rw [mem_levels, mem_levels, h]
  exact h1.eq_of_pairwise (fun a b _ _ hab hba => by omega) (levels_pairwise xs)
    (levels_pairwise ys)

theorem level_congr {xs ys : List Int} (h : ∀ v, v ∈ xs ↔ v ∈ ys) (retry : Nat) :
    level xs retry = level ys retry := by
  rw [level, level, levels_congr h]

theorem level_zero (values : List Int) : level values 0 = values.max? := by
  cases hmax : values.max? with
  | none =>
    rw [List.max?_eq_none_iff] at hmax
    subst hmax
    rfl
  | some m =>
    obtain ⟨hm, hle⟩ := List.max?_eq_some_iff.mp hmax
    have hpair := levels_pairwise values
    have hmem := mem_levels.mpr hm
    rw [level, Nat.zero_min]
    cases hlev : levels values with
    | nil =>
      rw [hlev] at hmem
      nomatch hmem
    | cons v vs =>
      rw [hlev] at hpair hmem
      have hv : v ≤ m := hle v (mem_levels.mp (by rw [hlev]; exact mem_cons_self))
      rcases mem_cons.mp hmem with rfl | hmem
      · rfl
      · have := (pairwise_cons.mp hpair).1 m hmem
        omega

end Levels

end Selection
