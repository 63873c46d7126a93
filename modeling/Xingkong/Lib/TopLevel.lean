import Mathlib.Data.List.Basic
import Mathlib.Algebra.BigOperators.Group.List.Basic
import Mathlib.Algebra.Order.Ring.Int

/-!
# Splitting a text outside its brackets

A letter `c` changes the depth by `δ c` (`+1` for an opening bracket, `-1` for a closing one).
`split` reads a text once and cuts it wherever the separator starts at depth 0. A text that has
no such place is sealed; `cuts` decides it. Joining sealed texts of weight 0 and splitting again
gives the texts back, and the first cut of any text is at a sealed front of weight 0.
-/

namespace TopLevel

open List Bool

variable {α : Type} (δ : α → Int) (sep : List α)

/-- The depth a text adds. -/
def net (xs : List α) : Int := (xs.map δ).sum

/-- `ws.join(sep)`. -/
def join : List (List α) → List α
  | [] => []
  | [w] => w
  | w :: ws => w ++ sep ++ join ws

/-- The separator does not start in `xs` and end in `ys` when these are joined: the last letter of
the one or the first of the other is no letter of the separator. -/
def Apart (xs ys : List α) : Prop := (∀ c ∈ xs.getLast?, c ∉ sep) ∨ (∀ c ∈ ys.head?, c ∉ sep)

section

variable {δ sep} {xs ys : List α}

@[simp] theorem net_nil : net δ ([] : List α) = 0 := rfl

@[simp] theorem net_cons (c : α) : net δ (c :: xs) = δ c + net δ xs := by simp [net]

@[simp] theorem net_append : net δ (xs ++ ys) = net δ xs + net δ ys := by simp [net]

theorem net_of_flat (h : ∀ c ∈ xs, δ c = 0) : net δ xs = 0 := by
  induction xs with
  | nil => rfl
  | cons c cs ih =>
    rw [forall_mem_cons] at h
    rw [net_cons, h.1, ih h.2, zero_add]

theorem join_cons_cons (w v : List α) (ws : List (List α)) :
    join sep (w :: v :: ws) = w ++ sep ++ join sep (v :: ws) := rfl

theorem Apart.tail {c : α} (h : Apart sep (c :: xs) ys) (hne : xs ≠ []) : Apart sep xs ys := by
  rcases h with h | h
  · refine .inl fun e he => h e ?_
    rwa [List.getLast?_cons_of_ne_nil hne]
  · exact .inr h

end

variable [DecidableEq α]

/-- Read from depth `d`, the text has a place at depth 0 where the separator starts. -/
def cuts : Int → List α → Bool
  | _, [] => false
  | d, c :: cs => (decide (d + δ c = 0) && sep.isPrefixOf (c :: cs)) || cuts (d + δ c) cs

/-- The pieces of a text from depth `d`, after `k` letters that belong to a separator. -/
def split : Int → Nat → List α → List (List α)
  | _, _, [] => [[]]
  | d, k + 1, _ :: cs => split d k cs
  | d, 0, c :: cs =>
    if d + δ c = 0 ∧ sep.isPrefixOf (c :: cs) then [] :: split (d + δ c) (sep.length - 1) cs
    else
      match split (d + δ c) 0 cs with
      | [] => [[c]]
      | piece :: rest => (c :: piece) :: rest

variable {δ sep} {d : Int} {xs ys zs : List α} {x : α}

theorem Apart.isPrefixOf_append (h : Apart sep xs ys) (hne : xs ≠ []) :
    sep.isPrefixOf (xs ++ ys) = sep.isPrefixOf xs := by
  rw [Bool.eq_iff_iff, List.isPrefixOf_iff_prefix, List.isPrefixOf_iff_prefix]
  refine ⟨fun hp => ?_, fun hp => hp.trans (prefix_append xs ys)⟩
  rcases List.prefix_or_prefix_of_prefix hp (prefix_append xs ys) with hsep | ⟨t, ht⟩
  · exact hsep
  · -- The separator would reach over the joint.
    cases t with
    | nil =>
      rw [append_nil] at ht
      exact ht ▸ prefix_rfl
    | cons e t =>
      exfalso
      rcases h with h | h
      · have h1 := List.getLast?_eq_some_getLast hne
        refine h _ h1 ?_
        rw [← ht]
        exact mem_append_left _ (getLast_mem hne)
      · obtain ⟨u, hu⟩ := hp
        rw [← ht, append_assoc, append_cancel_left_eq] at hu
        refine h e ?_ ?_
        · rw [← hu]
          rfl
        · rw [← ht]
          simp

theorem cuts_append (h : Apart sep xs ys) :
    cuts δ sep d (xs ++ ys) = (cuts δ sep d xs || cuts δ sep (d + net δ xs) ys) := by
  induction xs generalizing d with
  | nil => simp [cuts]
  | cons c cs ih =>
    have h1 := h.isPrefixOf_append (cons_ne_nil c cs)
    rw [cons_append] at h1
    rw [cons_append, cuts, cuts, h1, net_cons]
    rcases eq_or_ne cs [] with rfl | hne
    · simp [cuts]
    · rw [ih (h.tail hne), Bool.or_assoc, add_assoc]

theorem cuts_of_not_mem (hx : x ∈ sep) (h : x ∉ xs) : cuts δ sep d xs = false := by
  induction xs generalizing d with
  | nil => rfl
  | cons c cs ih =>
    have h1 : sep.isPrefixOf (c :: cs) = false := by
      by_contra hp
      rw [not_eq_false, List.isPrefixOf_iff_prefix] at hp
      exact h (hp.subset hx)
    rw [cuts, h1, Bool.and_false, Bool.false_or]
    exact ih fun hm => h (mem_cons_of_mem _ hm)

theorem split_skip (k : Nat) : split δ sep d k xs = split δ sep d 0 (xs.drop k) := by
  induction k generalizing xs with
  | zero => rfl
  | succ k ih =>
    cases xs with
    | nil => rfl
    | cons c cs => exact ih

theorem split_of_sealed (h : cuts δ sep d xs = false) : split δ sep d 0 xs = [xs] := by
  induction xs generalizing d with
  | nil => rfl
  | cons c cs ih =>
    rw [cuts, or_eq_false_iff] at h
    have hno : ¬ (d + δ c = 0 ∧ sep.isPrefixOf (c :: cs) = true) := by
      rintro ⟨h1, h2⟩
      rw [decide_eq_true h1, h2] at h
      exact absurd h.1 (by decide)
    rw [split, if_neg hno, ih h.2]

section

variable (hsep : sep ≠ []) (hflat : ∀ c ∈ sep, δ c = 0)
include hsep hflat

/-- The first cut of a text that is not sealed: at a sealed front that ends at depth 0. -/
theorem exists_split_of_cuts (h : cuts δ sep d xs = true) :
    ∃ front rest, xs = front ++ sep ++ rest ∧ cuts δ sep d front = false ∧ d + net δ front = 0 ∧
      split δ sep d 0 xs = front :: split δ sep 0 0 rest := by
  induction xs generalizing d with
  | nil => simp [cuts] at h
  | cons c cs ih =>
    by_cases hcut : d + δ c = 0 ∧ sep.isPrefixOf (c :: cs) = true
    · obtain ⟨rest, hrest⟩ := List.isPrefixOf_iff_prefix.mp hcut.2
      have hc : δ c = 0 := by
        cases sep with
        | nil => exact absurd rfl hsep
        | cons e s =>
          obtain rfl : e = c := by
            rw [cons_append] at hrest
            exact (List.cons.inj hrest).1
          exact hflat e mem_cons_self
      refine ⟨[], rest, by simpa using hrest.symm, rfl, by simpa [hc] using hcut.1, ?_⟩
      have h1 : cs.drop (sep.length - 1) = rest := by
        have hlen : 0 < sep.length := length_pos_of_ne_nil hsep
        have := congrArg (List.drop sep.length) hrest
        rw [drop_left] at this
        rw [this, show sep.length = sep.length - 1 + 1 by omega, drop_succ_cons]
        rfl
      rw [split, if_pos hcut, split_skip, h1, hcut.1]
    · have hlt : cuts δ sep (d + δ c) cs = true := by
        rw [cuts, or_eq_true] at h
        rcases h with h | h
        · rw [and_eq_true, decide_eq_true_eq] at h
          exact absurd h hcut
        · exact h
      obtain ⟨front, rest, hcs, h, h1, h1⟩ := ih hlt
      refine ⟨c :: front, rest, by rw [hcs]; rfl, ?_, by rw [net_cons]; omega, ?_⟩
      · rw [cuts, h, Bool.or_false]
        by_contra hne
        rw [not_eq_false, and_eq_true, decide_eq_true_eq, List.isPrefixOf_iff_prefix] at hne
        refine hcut ⟨hne.1, List.isPrefixOf_iff_prefix.mpr (hne.2.trans ?_)⟩
        rw [hcs]
        exact ⟨sep ++ rest, by simp⟩
      · rw [split, if_neg hcut, h1]

theorem split_append (hsealed : cuts δ sep d xs = false) (hdepth : d + net δ xs = 0)
    (hlast : ∀ c ∈ xs.getLast?, c ∉ sep) :
    split δ sep d 0 (xs ++ sep ++ ys) = xs :: split δ sep 0 0 ys := by
  induction xs generalizing d with
  | nil =>
    obtain ⟨e, s, rfl⟩ := exists_cons_of_ne_nil hsep
    have he : δ e = 0 := hflat e mem_cons_self
    have hd : d = 0 := by simpa using hdepth
    have h : (e :: s).isPrefixOf (e :: (s ++ ys)) = true :=
      List.isPrefixOf_iff_prefix.mpr ⟨ys, rfl⟩
    rw [nil_append, cons_append, split, if_pos ⟨by omega, h⟩, split_skip]
    simp [he, hd]
  | cons c cs ih =>
    have h : Apart sep (c :: cs) (sep ++ ys) := .inl hlast
    rw [cuts, or_eq_false_iff] at hsealed
    have hno : ¬ (d + δ c = 0 ∧ sep.isPrefixOf (c :: (cs ++ sep ++ ys)) = true) := by
      have := h.isPrefixOf_append (cons_ne_nil c cs)
      rw [cons_append, ← append_assoc] at this
      rw [this]
      rintro ⟨h1, h2⟩
      rw [decide_eq_true h1, h2] at hsealed
      exact absurd hsealed.1 (by decide)
    rw [cons_append, cons_append, split, if_neg hno]
    rcases eq_or_ne cs [] with rfl | hne
    · rw [ih hsealed.2 (by simpa using hdepth) (by simp)]
    · rw [ih hsealed.2 (by rw [net_cons] at hdepth; omega)
        (by rwa [List.getLast?_cons_of_ne_nil hne] at hlast)]

end

/-! ## Joined texts -/

variable (δ sep) in
/-- Joined by the separator, the texts are cut at the joints and nowhere else. -/
def Joints : List (List α) → Prop
  | [] => True
  | [w] => cuts δ sep 0 w = false
  | w :: ws => cuts δ sep 0 w = false ∧ net δ w = 0 ∧ Joints ws

theorem joints_cons_cons (w v : List α) (ws : List (List α)) :
    Joints δ sep (w :: v :: ws) ↔
      cuts δ sep 0 w = false ∧ net δ w = 0 ∧ Joints δ sep (v :: ws) := .rfl

instance decidableJoints : (ws : List (List α)) → Decidable (Joints δ sep ws)
  | [] => isTrue trivial
  | [w] => inferInstanceAs (Decidable (cuts δ sep 0 w = false))
  | w :: v :: ws =>
    have := decidableJoints (v :: ws)
    inferInstanceAs (Decidable (cuts δ sep 0 w = false ∧ net δ w = 0 ∧ Joints δ sep (v :: ws)))

variable {ws vs : List (List α)}

theorem split_join (hsep : sep ≠ []) (hflat : ∀ c ∈ sep, δ c = 0) (hne : ws ≠ [])
    (hlast : ∀ w ∈ ws, ∀ c ∈ w.getLast?, c ∉ sep) (hj : Joints δ sep ws) :
    split δ sep 0 0 (join sep ws) = ws := by
  induction ws with
  | nil => exact absurd rfl hne
  | cons w ws ih =>
    cases ws with
    | nil => exact split_of_sealed hj
    | cons v ws =>
      obtain ⟨h, hnet, hj⟩ := (joints_cons_cons w v ws).mp hj
      rw [join_cons_cons, split_append hsep hflat h (by omega) (hlast w mem_cons_self),
        ih (cons_ne_nil v ws) (fun u hu => hlast u (mem_cons_of_mem _ hu)) hj]

theorem Joints.sealed (h : Joints δ sep ws) : ∀ w ∈ ws, cuts δ sep 0 w = false := by
  induction ws with
  | nil => simp
  | cons w ws ih =>
    cases ws with
    | nil =>
      have hw : cuts δ sep 0 w = false := h
      simpa using hw
    | cons v ws =>
      obtain ⟨hw, -, hrest⟩ := (joints_cons_cons w v ws).mp h
      exact forall_mem_cons.mpr ⟨hw, ih hrest⟩

/-! ## Texts that are read alike -/

variable (δ sep) in
/-- The two texts are cut at the same depths and add the same depth. -/
structure Alike (xs ys : List α) : Prop where
  net_eq : net δ xs = net δ ys
  cuts_eq : ∀ d, cuts δ sep d xs = cuts δ sep d ys

theorem Alike.refl (xs : List α) : Alike δ sep xs xs := ⟨rfl, fun _ => rfl⟩

theorem Alike.symm (h : Alike δ sep xs ys) : Alike δ sep ys xs :=
  ⟨h.net_eq.symm, fun d => (h.cuts_eq d).symm⟩

theorem Alike.trans (h1 : Alike δ sep xs ys) (h2 : Alike δ sep ys zs) : Alike δ sep xs zs :=
  ⟨h1.net_eq.trans h2.net_eq, fun d => (h1.cuts_eq d).trans (h2.cuts_eq d)⟩

theorem alike_of_not_mem (hx : x ∈ sep) (hxs : x ∉ xs) (hys : x ∉ ys)
    (hnet : net δ xs = net δ ys) : Alike δ sep xs ys :=
  ⟨hnet, fun d => by rw [cuts_of_not_mem hx hxs, cuts_of_not_mem hx hys]⟩

theorem alike_skip (hsep : sep ≠ []) (hxs : ∀ c ∈ xs, c ∉ sep ∧ δ c = 0) (ys : List α) :
    Alike δ sep (xs ++ ys) ys := by
  obtain ⟨e, he⟩ := exists_mem_of_ne_nil sep hsep
  have hnet : net δ xs = 0 := net_of_flat fun c hc => (hxs c hc).2
  refine ⟨by rw [net_append, hnet, zero_add], fun d => ?_⟩
  rw [cuts_append (.inl fun c hc => (hxs c (mem_of_getLast? hc)).1),
    cuts_of_not_mem he fun hm => (hxs e hm).1 he, hnet, add_zero, Bool.false_or]

theorem Alike.append {us vs : List α} (h1 : Alike δ sep xs us) (h2 : Alike δ sep ys vs)
    (hx : Apart sep xs ys) (hu : Apart sep us vs) : Alike δ sep (xs ++ ys) (us ++ vs) :=
  ⟨by rw [net_append, net_append, h1.net_eq, h2.net_eq], fun d => by
    rw [cuts_append hx, cuts_append hu, h1.cuts_eq, h1.net_eq, h2.cuts_eq]⟩

theorem joints_congr (h : List.Forall₂ (Alike δ sep) ws vs) :
    Joints δ sep ws ↔ Joints δ sep vs := by
  induction h with
  | nil => exact .rfl
  | cons h hs ih =>
    cases hs with
    | nil => simp only [Joints, h.cuts_eq]
    | cons h' hs' => rw [joints_cons_cons, joints_cons_cons, ih, h.cuts_eq, h.net_eq]

end TopLevel
