import Mathlib.Data.List.Basic
import Mathlib.Data.List.Nodup
import Mathlib.Data.List.Perm.Subperm
import Mathlib.Data.List.Range

/-!
# Finite maps

A `Dict` lists its entries, one per key, in the order in which the keys came. Writing to a key that
is there replaces its value in place, so that writing what is there changes nothing
(`put_eq_self_iff`), and so does erasing what is not there (`erase_eq_self_iff`).
-/

structure Dict (κ ν : Type) where
  entries : List (κ × ν)
  nodup : (entries.map Prod.fst).Nodup
  deriving DecidableEq

namespace Dict

open List

variable {κ ν : Type} [DecidableEq κ]

def empty : Dict κ ν := ⟨[], List.nodup_nil⟩

def size (m : Dict κ ν) : Nat := m.entries.length

def getEntry (k : κ) : List (κ × ν) → Option ν
  | [] => none
  | e :: l => if e.1 = k then some e.2 else getEntry k l

def get (m : Dict κ ν) (k : κ) : Option ν := getEntry k m.entries

def putEntry (k : κ) (v : ν) : List (κ × ν) → List (κ × ν)
  | [] => [(k, v)]
  | e :: l => if e.1 = k then (k, v) :: l else e :: putEntry k v l

variable {k : κ} {v : ν} {l : List (κ × ν)} {m : Dict κ ν}

theorem mem_map_putEntry {k' : κ} :
    k' ∈ (putEntry k v l).map Prod.fst ↔ k' = k ∨ k' ∈ l.map Prod.fst := by
  induction l with
  | nil => simp [putEntry]
  | cons e l ih =>
    unfold putEntry
    split
    next he =>
      subst he
      simp
    · rw [map_cons, mem_cons, ih, map_cons, mem_cons]
      tauto

theorem nodup_putEntry (h : (l.map Prod.fst).Nodup) : ((putEntry k v l).map Prod.fst).Nodup := by
  induction l with
  | nil => exact nodup_singleton k
  | cons e l ih =>
    rw [map_cons, nodup_cons] at h
    unfold putEntry
    split
    next he =>
      subst he
      rw [map_cons, nodup_cons]
      exact h
    next he =>
      rw [map_cons, nodup_cons, mem_map_putEntry, not_or]
      exact ⟨⟨he, h.1⟩, ih h.2⟩

def put (m : Dict κ ν) (k : κ) (v : ν) : Dict κ ν :=
  ⟨putEntry k v m.entries, nodup_putEntry m.nodup⟩

def erase (m : Dict κ ν) (k : κ) : Dict κ ν :=
  ⟨m.entries.filter (·.1 ≠ k), (List.filter_sublist.map Prod.fst).nodup m.nodup⟩

theorem getEntry_putEntry (k k' : κ) (v : ν) (l : List (κ × ν)) :
    getEntry k' (putEntry k v l) = if k = k' then some v else getEntry k' l := by
  induction l with
  | nil => rfl
  | cons e l ih =>
    unfold putEntry
    split
    next he =>
      subst he
      simp only [getEntry]
      split <;> rfl
    next he =>
      simp only [getEntry, ih]
      split
      next he' =>
        subst he'
        rw [if_neg (Ne.symm he)]
      · rfl

theorem get_put (m : Dict κ ν) (k k' : κ) (v : ν) :
    (m.put k v).get k' = if k = k' then some v else m.get k' := getEntry_putEntry k k' v m.entries

theorem getEntry_filter (k k' : κ) (l : List (κ × ν)) :
    getEntry k' (l.filter (·.1 ≠ k)) = if k = k' then none else getEntry k' l := by
  induction l with
  | nil => split <;> rfl
  | cons e l ih =>
    rw [filter_cons]
    by_cases he : e.1 = k
    · rw [if_neg (by simpa using he), ih]
      split
      · rfl
      next hk =>
        rw [getEntry, if_neg (he ▸ hk)]
    · rw [if_pos (by simpa using he), getEntry, getEntry, ih]
      split
      next hk' =>
        rw [if_neg (hk' ▸ Ne.symm he)]
      · rfl

theorem get_erase (m : Dict κ ν) (k k' : κ) :
    (m.erase k).get k' = if k = k' then none else m.get k' := getEntry_filter k k' m.entries

theorem getEntry_eq_none : getEntry k l = none ↔ k ∉ l.map Prod.fst := by
  induction l with
  | nil => simp [getEntry]
  | cons e l ih =>
    rw [getEntry, map_cons, mem_cons, not_or, ← ih]
    split
    next he =>
      simp [he]
    next he =>
      simp [Ne.symm he]

theorem get_eq_none : m.get k = none ↔ k ∉ m.entries.map Prod.fst :=
  getEntry_eq_none

theorem isSome_get : (m.get k).isSome ↔ k ∈ m.entries.map Prod.fst := by
  rw [Option.isSome_iff_ne_none, ne_eq, get_eq_none, not_not]

theorem put_eq_self_iff : m.put k v = m ↔ m.get k = some v := by
  constructor
  · intro h
    rw [← h, get_put, if_pos rfl]
  · intro h
    have hput : ∀ l : List (κ × ν), getEntry k l = some v → putEntry k v l = l := by
      intro l
      induction l with
      | nil => exact fun h => nomatch h
      | cons e l ih =>
        intro he
        unfold putEntry
        rw [getEntry] at he
        split
        next hk =>
          rw [if_pos hk] at he
          rw [← hk, ← Option.some.inj he]
        next hk =>
          rw [if_neg hk] at he
          rw [ih he]
    exact Dict.mk.injEq .. ▸ hput m.entries h

theorem erase_eq_self_iff : m.erase k = m ↔ m.get k = none := by
  constructor
  · intro h
    rw [← h, get_erase, if_pos rfl]
  · intro h
    have hall : m.entries.filter (·.1 ≠ k) = m.entries := by
      refine filter_eq_self.2 fun e he => ?_
      simpa using fun heq : e.1 = k => get_eq_none.1 h (heq ▸ mem_map_of_mem he)
    exact Dict.mk.injEq .. ▸ hall

theorem le_size_iff {m : Dict Nat ν} {n : Nat} (hlt : ∀ i, (m.get i).isSome → i < n) :
    n ≤ m.size ↔ ∀ i < n, (m.get i).isSome := by
  have hsub : m.entries.map Prod.fst ⊆ List.range n := fun i hi =>
    mem_range.2 (hlt i (isSome_get.2 hi))
  have hlen : m.size = (m.entries.map Prod.fst).length := (length_map _).symm
  constructor
  · intro hn i hi
    have h : (m.entries.map Prod.fst).Perm (List.range n) := by
      apply (m.nodup.subperm hsub).perm_of_length_le
      rw [length_range, ← hlen]
      exact hn
    exact isSome_get.2 (h.mem_iff.2 (mem_range.2 hi))
  · intro hall
    have h : List.range n ⊆ m.entries.map Prod.fst := fun i hi =>
      isSome_get.1 (hall i (mem_range.1 hi))
    have hle := (nodup_range.subperm h).length_le
    rw [length_range] at hle
    rw [hlen]
    exact hle

end Dict
