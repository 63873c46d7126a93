import Mathlib.Algebra.BigOperators.Group.List.Basic
import Mathlib.Algebra.Group.Basic
import Mathlib.Algebra.Order.BigOperators.Group.List
import Mathlib.Data.List.Nodup
import Mathlib.Tactic.Abel

/-!
# Tables with assigned primary keys

A table is the list of its rows in key order, together with the next key the
database hands out. The key discipline is part of the type: keys are positive,
strictly increasing along the list and below `next`, so two rows of one table
never share a key and an inserted row is always the last one.

`find?`, `first?`, `save`, `update`, `insert` and `delete` are the statements of
an object mapper; the lemmas say what each does to membership, to lookups by key
and to a column sum.
-/

namespace Rdb

open List

/-- A row type: where its primary key sits. -/
class Row (ρ : Type) where
  key : ρ → Nat
  withKey : Nat → ρ → ρ
  key_withKey : ∀ n r, key (withKey n r) = n

attribute [simp] Row.key_withKey

open Row (key key_withKey)

structure Table (ρ : Type) [Row ρ] where
  rows : List ρ
  next : Nat
  sorted : (rows.map key).Pairwise (· < ·)
  keys_pos : ∀ r ∈ rows, 0 < key r
  keys_lt : ∀ r ∈ rows, key r < next
  next_pos : 0 < next
  deriving DecidableEq

namespace Table

variable {ρ : Type} [Row ρ] {t : Table ρ} {old r : ρ}

/-! ## Statements -/

def empty : Table ρ where
  rows := []
  next := 1
  sorted := .nil
  keys_pos _ h := by cases h
  keys_lt _ h := by cases h
  next_pos := Nat.one_pos

def find? (t : Table ρ) (n : Nat) : Option ρ := t.rows.find? (fun r => key r = n)

/-- The matching row with the least key. -/
def first? (t : Table ρ) (p : ρ → Bool) : Option ρ := t.rows.find? p

def filter (t : Table ρ) (p : ρ → Bool) : List ρ := t.rows.filter p

def mapRows (t : Table ρ) (f : ρ → ρ) (hf : ∀ r, key (f r) = key r) : Table ρ where
  rows := t.rows.map f
  next := t.next
  sorted := by
    have h : (t.rows.map f).map key = t.rows.map key := by
      rw [List.map_map]; exact List.map_congr_left fun r _ => hf r
    rw [h]; exact t.sorted
  keys_pos r hr := by
    obtain ⟨x, hx, rfl⟩ := List.mem_map.1 hr
    rw [hf]; exact t.keys_pos x hx
  keys_lt r hr := by
    obtain ⟨x, hx, rfl⟩ := List.mem_map.1 hr
    rw [hf]; exact t.keys_lt x hx
  next_pos := t.next_pos

theorem key_ite (p : ρ → Bool) (f : ρ → ρ) (hf : ∀ r, key (f r) = key r) (r : ρ) :
    key (if p r then f r else r) = key r := by
  split
  · exact hf r
  · rfl

/-- `UPDATE … SET f WHERE p`. -/
def update (t : Table ρ) (p : ρ → Bool) (f : ρ → ρ) (hf : ∀ r, key (f r) = key r) :
    Table ρ :=
  t.mapRows (fun r => if p r then f r else r) (key_ite p f hf)

theorem key_replace (r x : ρ) : key (if key x = key r then r else x) = key x := by
  split
  · rename_i h; exact h.symm
  · rfl

def save (t : Table ρ) (r : ρ) : Table ρ :=
  t.mapRows (fun x => if key x = key r then r else x) (key_replace r)

def stored (t : Table ρ) (r : ρ) : ρ := Row.withKey t.next r

def insert (t : Table ρ) (r : ρ) : Table ρ where
  rows := t.rows ++ [t.stored r]
  next := t.next + 1
  sorted := by
    rw [List.map_append, List.pairwise_append]
    refine ⟨t.sorted, List.pairwise_singleton _ _, ?_⟩
    intro a ha b hb
    obtain ⟨x, hx, rfl⟩ := List.mem_map.1 ha
    simp only [List.map_cons, List.map_nil, List.mem_singleton, stored, key_withKey] at hb
    rw [hb]; exact t.keys_lt x hx
  keys_pos r' hr := by
    rcases List.mem_append.1 hr with h | h
    · exact t.keys_pos r' h
    · rw [List.mem_singleton.1 h, stored, key_withKey]; exact t.next_pos
  keys_lt r' hr := by
    rcases List.mem_append.1 hr with h | h
    · exact Nat.lt_succ_of_lt (t.keys_lt r' h)
    · rw [List.mem_singleton.1 h, stored, key_withKey]; exact Nat.lt_succ_self _
  next_pos := Nat.succ_pos _

/-- `DELETE … WHERE p`. -/
def delete (t : Table ρ) (p : ρ → Bool) : Table ρ where
  rows := t.rows.filter (fun r => !p r)
  next := t.next
  sorted := t.sorted.sublist (List.filter_sublist.map _)
  keys_pos r hr := t.keys_pos r (List.mem_of_mem_filter hr)
  keys_lt r hr := t.keys_lt r (List.mem_of_mem_filter hr)
  next_pos := t.next_pos

/-- The keys of the rows that another version of the table has changed or lost. -/
def changed [DecidableEq ρ] (t t' : Table ρ) : List Nat :=
  (t.rows.filter fun r => t'.find? (key r) ≠ some r).map key

def sum {M : Type} [AddCommMonoid M] (t : Table ρ) (f : ρ → M) : M := (t.rows.map f).sum

/-! ## Keys -/

variable {x : ρ} {n : Nat} {p : ρ → Bool} {rs : List ρ} {M : Type}

theorem ext_rows {t' : Table ρ} (h : t.rows = t'.rows) (h1 : t.next = t'.next) : t = t' := by
  cases t
  cases t'
  cases h
  cases h1
  rfl

theorem nodup (t : Table ρ) : (t.rows.map key).Nodup :=
  t.sorted.imp fun h => Nat.ne_of_lt h

theorem eq_of_key {y : ρ} (hx : x ∈ t.rows) (hy : y ∈ t.rows) (h : key x = key y) : x = y :=
  inj_on_of_nodup_map t.nodup hx hy h

@[simp] theorem find?_eq_some : t.find? n = some r ↔ r ∈ t.rows ∧ key r = n := by
  constructor
  · intro h
    have hk := List.find?_some h
    exact ⟨List.mem_of_find?_eq_some h, by simpa using hk⟩
  · rintro ⟨hr, hk⟩
    cases hf : t.find? n with
    | none =>
      have := List.find?_eq_none.1 hf r hr
      simp [hk] at this
    | some x =>
      have hx := List.mem_of_find?_eq_some hf
      have h : key x = n := by simpa using List.find?_some hf
      rw [eq_of_key hx hr (h.trans hk.symm)]

theorem find?_eq_none : t.find? n = none ↔ ∀ r ∈ t.rows, key r ≠ n := by
  simp [find?, List.find?_eq_none]

theorem find?_key (h : r ∈ t.rows) : t.find? (key r) = some r :=
  find?_eq_some.2 ⟨h, rfl⟩

theorem find?_zero (t : Table ρ) : t.find? 0 = none :=
  find?_eq_none.2 fun r hr h => Nat.lt_irrefl _ (h ▸ t.keys_pos r hr)

theorem mem_of_first? (h : t.first? p = some r) : r ∈ t.rows ∧ p r = true :=
  ⟨List.mem_of_find?_eq_some h, List.find?_some h⟩

theorem first?_eq_none : t.first? p = none ↔ ∀ r ∈ t.rows, p r = false := by
  simp [first?, List.find?_eq_none]

/-! ## Membership -/

@[simp] theorem rows_mapRows (t : Table ρ) (f : ρ → ρ) (hf) :
    (t.mapRows f hf).rows = t.rows.map f := rfl

@[simp] theorem rows_insert (t : Table ρ) (r : ρ) :
    (t.insert r).rows = t.rows ++ [t.stored r] := rfl

@[simp] theorem rows_delete (t : Table ρ) (p : ρ → Bool) :
    (t.delete p).rows = t.rows.filter (fun r => !p r) := rfl

@[simp] theorem key_stored (t : Table ρ) (r : ρ) : key (t.stored r) = t.next := by
  simp [stored]

theorem mem_save :
    x ∈ (t.save r).rows ↔
      (x = r ∧ ∃ old ∈ t.rows, key old = key r) ∨
        (x ∈ t.rows ∧ key x ≠ key r) := by
  simp only [save, rows_mapRows, mem_map]
  constructor
  · rintro ⟨y, hy, rfl⟩
    by_cases h : key y = key r
    · rw [if_pos h]; exact .inl ⟨rfl, y, hy, h⟩
    · rw [if_neg h]; exact .inr ⟨hy, h⟩
  · rintro (⟨rfl, y, hy, h⟩ | ⟨hx, h⟩)
    · exact ⟨y, hy, if_pos h⟩
    · exact ⟨x, hx, if_neg h⟩

theorem mem_of_mem_save (h : x ∈ (t.save r).rows) : x = r ∨ x ∈ t.rows := by
  rcases mem_save.1 h with ⟨rfl, _⟩ | ⟨h, _⟩
  · exact .inl rfl
  · exact .inr h

theorem mem_save_self (h : old ∈ t.rows) (hk : key old = key r) : r ∈ (t.save r).rows :=
  mem_save.2 (.inl ⟨rfl, old, h, hk⟩)

theorem mem_save_of_ne (h : x ∈ t.rows) (hk : key x ≠ key r) : x ∈ (t.save r).rows :=
  mem_save.2 (.inr ⟨h, hk⟩)

@[simp] theorem filter_insert (t : Table ρ) (r : ρ) (p : ρ → Bool) :
    (t.insert r).filter p = t.filter p ++ if p (t.stored r) then [t.stored r] else [] := by
  unfold filter
  rw [rows_insert, filter_append]
  cases hp : p (t.stored r) <;> simp [hp]

theorem filter_eq_nil : t.filter p = [] ↔ ∀ r ∈ t.rows, p r = false := by
  simp [filter, filter_eq_nil_iff]

theorem mem_insert : x ∈ (t.insert r).rows ↔ x ∈ t.rows ∨ x = t.stored r := by
  simp

theorem save_eq_self (h : r ∈ t.rows) : t.save r = t := by
  have hrows : (t.save r).rows = t.rows := by
    refine (map_congr_left fun x hx => ?_).trans (map_id t.rows)
    by_cases hk : key x = key r
    · rw [if_pos hk, eq_of_key hx h hk]; rfl
    · rw [if_neg hk]; rfl
  obtain ⟨rows, next, _, _, _, _⟩ := t
  unfold save mapRows at hrows ⊢
  simp only at hrows ⊢
  simp only [hrows]

/-! ## Lookups after a statement -/

theorem find?_mapRows (t : Table ρ) (f : ρ → ρ) (hf : ∀ r, key (f r) = key r) (n : Nat) :
    (t.mapRows f hf).find? n = (t.find? n).map f := by
  unfold find?
  rw [rows_mapRows, List.find?_map]
  congr 2
  funext r
  simp [Function.comp, hf]

theorem find?_update (t : Table ρ) (p : ρ → Bool) (f : ρ → ρ) (hf) (n : Nat) :
    (t.update p f hf).find? n = (t.find? n).map (fun r => if p r then f r else r) :=
  find?_mapRows t _ _ n

theorem update_update (t : Table ρ) {f g : ρ → ρ} (hf hg) (hp : ∀ r, p (f r) = p r) :
    (t.update p f hf).update p g hg = t.update p (g ∘ f) fun r => (hg (f r)).trans (hf r) := by
  unfold update mapRows
  rw [Table.mk.injEq]
  refine ⟨?_, rfl⟩
  rw [map_map]
  apply map_congr_left
  intro r _
  by_cases h : p r = true
  · simp [h, hp]
  · simp [h]

theorem find?_save_self (h : t.find? n = some old) (hk : key r = n) :
    (t.save r).find? n = some r := by
  obtain ⟨hm, hk'⟩ := find?_eq_some.1 h
  rw [← hk]
  exact find?_key (mem_save_self hm (hk'.trans hk.symm))

theorem find?_save_of_ne (h : n ≠ key r) : (t.save r).find? n = t.find? n := by
  rw [save, find?_mapRows]
  cases hf : t.find? n with
  | none => rfl
  | some x =>
    have hk := (find?_eq_some.1 hf).2
    rw [Option.map_some, if_neg (by rw [hk]; exact h)]

theorem first?_save (h : t.first? p = some old) (hk : key r = key old) (hp : p r = true) :
    (t.save r).first? p = some r := by
  obtain ⟨_, as, bs, hrows, has⟩ := List.find?_eq_some_iff_append.1 h
  have hnd := t.nodup
  rw [hrows, map_append, map_cons, nodup_append] at hnd
  have hne : ∀ a ∈ as, key a ≠ key r := fun a ha he =>
    hnd.2.2 _ (mem_map_of_mem ha) _ mem_cons_self (he.trans hk)
  refine List.find?_eq_some_iff_append.2 ⟨hp, as, bs.map fun x =>
    if key x = key r then r else x, ?_, has⟩
  have has' : (as.map fun x => if key x = key r then r else x) = as :=
    (map_congr_left fun a ha => if_neg (hne a ha)).trans (map_id as)
  rw [save, rows_mapRows, hrows, map_append, map_cons, has', if_pos hk.symm]

theorem first?_save_of_not (h : old ∈ t.rows) (hk : key r = key old) (ho : p old = false)
    (hr : p r = false) : (t.save r).first? p = t.first? p := by
  have hiff : ∀ x ∈ t.rows, p (if key x = key r then r else x) = p x := fun x hx => by
    split
    next he =>
      rw [eq_of_key hx h (he.trans hk), hr, ho]
    · rfl
  have hkeep : ∀ x ∈ t.rows, p x = true → (if key x = key r then r else x) = x :=
    fun x hx hp => if_neg fun he => by
      rw [eq_of_key hx h (he.trans hk), ho] at hp
      cases hp
  unfold first? save
  rw [rows_mapRows]
  generalize t.rows = rows at hiff hkeep
  induction rows with
  | nil => rfl
  | cons x rows ih =>
    have ih := ih (fun y hy => hiff y (mem_cons_of_mem _ hy))
      fun y hy => hkeep y (mem_cons_of_mem _ hy)
    rw [map_cons, List.find?_cons, List.find?_cons, hiff x mem_cons_self]
    cases hp : p x with
    | true => simp only [hkeep x mem_cons_self hp]
    | false => exact ih

theorem find?_delete (t : Table ρ) (p : ρ → Bool) (n : Nat) :
    (t.delete p).find? n = (t.find? n).filter (fun r => !p r) := by
  cases hf : t.find? n with
  | none =>
    rw [find?_eq_none] at hf
    exact find?_eq_none.2 fun r hr => hf r (mem_of_mem_filter hr)
  | some x =>
    obtain ⟨hx, hk⟩ := find?_eq_some.1 hf
    by_cases hp : p x = true
    · rw [Option.filter_some, hp]
      refine find?_eq_none.2 fun r hr h => ?_
      obtain ⟨hr, hpr⟩ := mem_filter.1 hr
      rw [eq_of_key hr hx (h.trans hk.symm), hp] at hpr
      cases hpr
    · rw [Option.filter_some, Bool.eq_false_iff.2 hp]
      exact find?_eq_some.2 ⟨mem_filter.2 ⟨hx, by simp [hp]⟩, hk⟩

/-! ## Column sums -/

section Sum

@[simp] theorem sum_insert [AddCommMonoid M] (t : Table ρ) (r : ρ) (g : ρ → M) :
    (t.insert r).sum g = t.sum g + g (t.stored r) := by
  simp [sum]

theorem sum_filter [AddCommMonoid M] (t : Table ρ) (p : ρ → Bool) (g : ρ → M) :
    ((t.filter p).map g).sum = t.sum fun r => if p r then g r else 0 := by
  unfold filter sum
  induction t.rows with
  | nil => rfl
  | cons r rows ih =>
    rw [filter_cons, map_cons, sum_cons]
    by_cases h : p r = true
    · rw [if_pos h, if_pos h, map_cons, sum_cons, ih]
    · rw [if_neg h, if_neg h, zero_add, ih]

theorem sum_map_replace [AddCommGroup M] {l : List ρ} (hl : (l.map key).Nodup) (ho : old ∈ l)
    (f : ρ → ρ) (g : ρ → M) :
    ((l.map fun x => if key x = key old then f x else x).map g).sum =
      (l.map g).sum - g old + g (f old) := by
  induction l with
  | nil => cases ho
  | cons x xs ih =>
    rw [map_cons, nodup_cons] at hl
    simp only [map_cons, sum_cons]
    rcases mem_cons.1 ho with rfl | hmem
    · -- the other rows have other keys, so they stay
      have hrest : (xs.map fun x => if key x = key old then f x else x) = xs := by
        refine (map_congr_left fun y hy => ?_).trans (map_id xs)
        have hne : key y ≠ key old := fun e => hl.1 (e ▸ mem_map_of_mem hy)
        exact if_neg hne
      rw [hrest, if_pos rfl]; abel
    · have hne : key x ≠ key old := fun e => hl.1 (e ▸ mem_map_of_mem hmem)
      rw [ih hl.2 hmem, if_neg hne]; abel

theorem sum_save [AddCommGroup M] (ho : old ∈ t.rows)
    (hk : key old = key r) (g : ρ → M) : (t.save r).sum g = t.sum g - g old + g r := by
  have h := sum_map_replace t.nodup ho (fun _ => r) g
  rw [hk] at h
  exact h

theorem sum_save_congr [AddCommGroup M] (ho : old ∈ t.rows)
    (hk : key old = key r) {g : ρ → M} (hg : g r = g old) :
    (t.save r).sum g = t.sum g := by
  rw [sum_save ho hk, hg]; abel

end Sum

/-! ## Writing back several rows -/

def saveAll (t : Table ρ) (rs : List ρ) : Table ρ := rs.foldl save t

@[simp] theorem saveAll_nil (t : Table ρ) : t.saveAll [] = t := rfl

@[simp] theorem saveAll_cons (t : Table ρ) (r : ρ) (rs : List ρ) :
    t.saveAll (r :: rs) = (t.save r).saveAll rs := rfl

theorem mem_of_mem_saveAll (h : x ∈ (t.saveAll rs).rows) : x ∈ rs ∨ x ∈ t.rows := by
  induction rs generalizing t with
  | nil => exact .inr h
  | cons r rs ih =>
    rcases ih h with h | h
    · exact .inl (mem_cons_of_mem _ h)
    · rcases mem_of_mem_save h with rfl | h
      · exact .inl mem_cons_self
      · exact .inr h

@[simp] theorem next_saveAll (t : Table ρ) (rs : List ρ) : (t.saveAll rs).next = t.next := by
  induction rs generalizing t with
  | nil => rfl
  | cons r rs ih => exact ih (t.save r)

theorem rows_saveAll (t : Table ρ) (hnd : (rs.map key).Nodup) :
    (t.saveAll rs).rows =
      t.rows.map fun x => (rs.find? fun r => key r = key x).getD x := by
  induction rs generalizing t with
  | nil => exact (map_id _).symm
  | cons r rs ih =>
    rw [map_cons, nodup_cons] at hnd
    rw [saveAll_cons, ih (t.save r) hnd.2, save, rows_mapRows, map_map]
    refine map_congr_left fun x _ => ?_
    by_cases hx : key x = key r
    · have h : (rs.find? fun y => key y = key r) = none := by
        refine List.find?_eq_none.mpr fun y hy heq => ?_
        rw [← of_decide_eq_true heq] at hnd
        exact hnd.1 (mem_map_of_mem hy)
      rw [Function.comp_apply, if_pos hx, h, List.find?_cons_of_pos (by simp [hx])]
      rfl
    · rw [Function.comp_apply, if_neg hx, List.find?_cons_of_neg (by simpa using Ne.symm hx)]

theorem sum_saveAll [AddCommGroup M] (ps : List (ρ × ρ)) (hmem : ∀ p ∈ ps, p.1 ∈ t.rows)
    (hkey : ∀ p ∈ ps, key p.2 = key p.1) (hnd : (ps.map fun p => key p.1).Nodup)
    (g : ρ → M) :
    (t.saveAll (ps.map Prod.snd)).sum g = t.sum g + (ps.map fun p => g p.2 - g p.1).sum := by
  induction ps generalizing t with
  | nil => simp
  | cons p ps ih =>
    rw [map_cons, nodup_cons] at hnd
    have hp := hmem p mem_cons_self
    have hk := hkey p mem_cons_self
    have hrest : ∀ q ∈ ps, q.1 ∈ (t.save p.2).rows := by
      intro q hq
      refine mem_save_of_ne (hmem q (mem_cons_of_mem _ hq)) ?_
      rw [hk]
      exact fun e => hnd.1 (mem_map.2 ⟨q, hq, e⟩)
    rw [map_cons, saveAll_cons, ih hrest (fun q hq => hkey q (mem_cons_of_mem _ hq)) hnd.2,
      sum_save hp hk.symm, map_cons, sum_cons]
    abel

end Table

end Rdb
