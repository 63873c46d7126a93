import Mathlib.Logic.Basic

/-!
# Maps by reference

A map of the host language is a reference: what is written through one is read through every other
that is equal to it. `Prog` is a program over such maps that may fail. What it has written by then
stays written, so a failure undoes nothing by itself.

Two judgements are about programs as a whole, with one rule per construct.

* `Frames n x`: the maps below `n` are the same after `x` as before, however `x` ends. The maps that
  were there before a program starts are those below the size of the heap, and a new map is not.
* `Follows view x f`: what `x` does, seen through `view`, is what the pure `f` says.
-/

namespace MapHeap

open List

/-- The maps there are; a reference is the place of its map. -/
structure Heap (κ ν : Type) where
  size : Nat
  cell : Nat → List (κ × ν)

abbrev Ref := Nat

variable {κ ν ε α β σ : Type}

namespace Heap

/-- What a reference gives; nothing can be read from `nil`. -/
def read (h : Heap κ ν) (r : Option Ref) : List (κ × ν) := (r.map h.cell).getD []

def write (h : Heap κ ν) (r : Ref) (m : List (κ × ν)) : Heap κ ν :=
  { h with cell := fun q => if q = r then m else h.cell q }

/-- A new map lies above all that were there. -/
def alloc (h : Heap κ ν) (m : List (κ × ν)) : Heap κ ν :=
  { size := h.size + 1, cell := fun q => if q = h.size then m else h.cell q }

@[simp] theorem cell_write_self (h : Heap κ ν) (r : Ref) (m : List (κ × ν)) :
    (h.write r m).cell r = m := if_pos rfl

variable (h : Heap κ ν) (m : List (κ × ν))

include h m

@[simp] theorem cell_alloc_self :
    (h.alloc m).cell h.size = m := if_pos rfl

theorem cell_write_of_ne {r q : Ref} (hne : q ≠ r) :
    (h.write r m).cell q = h.cell q := if_neg hne

theorem cell_alloc_of_lt {q : Ref} (hlt : q < h.size) :
    (h.alloc m).cell q = h.cell q := if_neg (Nat.ne_of_lt hlt)

end Heap

/-- A program that may fail. -/
def Prog (κ ν ε α : Type) : Type := Heap κ ν → Except ε α × Heap κ ν

namespace Prog

protected def bind (x : Prog κ ν ε α) (f : α → Prog κ ν ε β) : Prog κ ν ε β := fun h =>
  match x h with
  | (.ok a, h) => f a h
  | (.error e, h) => (.error e, h)

instance : Monad (Prog κ ν ε) where
  pure a := fun h => (.ok a, h)
  bind := Prog.bind

def ofExcept (r : Except ε α) : Prog κ ν ε α := fun h => (r, h)

instance : MonadLift (Except ε) (Prog κ ν ε) where
  monadLift := ofExcept

def heap : Prog κ ν ε (Heap κ ν) := fun h => (.ok h, h)

def make (m : List (κ × ν)) : Prog κ ν ε Ref := fun h => (.ok h.size, h.alloc m)

def modify (r : Ref) (f : List (κ × ν) → List (κ × ν)) : Prog κ ν ε Unit := fun h =>
  (.ok (), h.write r (f (h.cell r)))

def assign [DecidableEq κ] (r : Ref) (k : κ) (v : ν) : Prog κ ν ε Unit :=
  modify r fun m => m.filter (·.1 ≠ k) ++ [(k, v)]

def delete [DecidableEq κ] (r : Ref) (k : κ) : Prog κ ν ε Unit :=
  modify r fun m => m.filter (·.1 ≠ k)

/-- Errors pass through `f`; what has been written stays. -/
def mapError (f : ε → ε) (x : Prog κ ν ε α) : Prog κ ν ε α := fun h =>
  ((x h).1.mapError f, (x h).2)

/-- Errors that `p` knows are dropped, and what has been written stays. -/
def ignore (p : ε → Bool) (x : Prog κ ν ε Unit) : Prog κ ν ε Unit := fun h =>
  match x h with
  | (.error e, h) => (if p e then .ok () else .error e, h)
  | r => r

theorem bind_apply (x : Prog κ ν ε α) (f : α → Prog κ ν ε β) (h : Heap κ ν) :
    (x >>= f) h = match x h with
      | (.ok a, h) => f a h
      | (.error e, h) => (.error e, h) := rfl

variable {x : Prog κ ν ε α} {f k : α → Prog κ ν ε β} {h h' : Heap κ ν} {r : Ref} {e : ε} {a : α}

theorem bind_ok (hx : x h = (.ok a, h')) :
    (x >>= f) h = f a h' := by rw [bind_apply, hx]

theorem bind_error (hx : x h = (.error e, h')) :
    (x >>= f) h = (.error e, h') := by rw [bind_apply, hx]

/-! ## What is left alone -/

/-- However `x` ends, the maps below `n` are as before and no map is lost. -/
def Frames (n : Nat) (x : Prog κ ν ε α) : Prop :=
  ∀ h, n ≤ h.size → h.size ≤ (x h).2.size ∧ ∀ r < n, (x h).2.cell r = h.cell r

variable {n : Nat}

theorem Frames.pure (a : α) : Frames n (pure a : Prog κ ν ε α) :=
  fun _ _ => ⟨Nat.le_refl _, fun _ _ => rfl⟩

theorem Frames.ofExcept (r : Except ε α) : Frames n (ofExcept r : Prog κ ν ε α) :=
  fun _ _ => ⟨Nat.le_refl _, fun _ _ => rfl⟩

theorem Frames.heap : Frames n (heap : Prog κ ν ε (Heap κ ν)) :=
  fun _ _ => ⟨Nat.le_refl _, fun _ _ => rfl⟩

theorem Frames.bind_of {P : α → Prop} (hx : Frames n x)
    (hP : ∀ h a, n ≤ h.size → (x h).1 = .ok a → P a) (hf : ∀ a, P a → Frames n (f a)) :
    Frames n (x >>= f) := by
  intro h hn
  have hfirst := hx h hn
  have hval := hP h
  rw [bind_apply]
  revert hfirst hval
  obtain ⟨r, h1⟩ := x h
  intro hfirst hval
  cases r with
  | error e => exact hfirst
  | ok a =>
    have h2 := hf a (hval a hn rfl) h1 (Nat.le_trans hn hfirst.1)
    exact ⟨Nat.le_trans hfirst.1 h2.1, fun r hr => (h2.2 r hr).trans (hfirst.2 r hr)⟩

theorem Frames.bind (hx : Frames n x) (hf : ∀ a, Frames n (f a)) : Frames n (x >>= f) :=
  .bind_of (P := fun _ => True) hx (fun _ _ _ _ => trivial) fun a _ => hf a

theorem Frames.make (m : List (κ × ν)) : Frames n (make m : Prog κ ν ε Ref) :=
  fun h hn => ⟨Nat.le_succ _, fun _ hr => h.cell_alloc_of_lt m (Nat.lt_of_lt_of_le hr hn)⟩

theorem Frames.make_bind {m : List (κ × ν)} {f : Ref → Prog κ ν ε β}
    (hf : ∀ r, n ≤ r → Frames n (f r)) : Frames n (Prog.make m >>= f) := by
  refine .bind_of (.make m) (fun h a hn ha => ?_) hf
  cases ha
  exact hn

theorem Frames.modify (hr : n ≤ r) (f : List (κ × ν) → List (κ × ν)) :
    Frames n (modify r f : Prog κ ν ε Unit) :=
  fun h _ => ⟨Nat.le_refl _,
    fun _ hq => h.cell_write_of_ne _ (Nat.ne_of_lt (Nat.lt_of_lt_of_le hq hr))⟩

theorem Frames.assign [DecidableEq κ] (hr : n ≤ r) (k : κ) (v : ν) :
    Frames n (assign r k v : Prog κ ν ε Unit) := .modify hr _

theorem Frames.delete [DecidableEq κ] (hr : n ≤ r) (k : κ) :
    Frames n (delete r k : Prog κ ν ε Unit) := .modify hr _

theorem Frames.mapError (hx : Frames n x) (f : ε → ε) :
    Frames n (x.mapError f) := hx

theorem Frames.ignore {x : Prog κ ν ε Unit} (hx : Frames n x) (p : ε → Bool) :
    Frames n (x.ignore p) := by
  intro h hn
  have h1 := hx h hn
  unfold Prog.ignore
  revert h1
  obtain ⟨r, h1⟩ := x h
  cases r <;> exact id

theorem Frames.forM {f : α → Prog κ ν ε PUnit} (l : List α) (hf : ∀ a ∈ l, Frames n (f a)) :
    Frames n (l.forM f) := by
  induction l with
  | nil => exact .pure _
  | cons a l ih =>
    show Frames n (f a >>= fun _ => l.forM f)
    exact .bind (hf a mem_cons_self) fun _ =>
      ih fun b hb => hf b (mem_cons_of_mem _ hb)

theorem Frames.foldlM {f : β → α → Prog κ ν ε β} (l : List α) (b : β)
    (hf : ∀ b, ∀ a ∈ l, Frames n (f b a)) : Frames n (l.foldlM f b) := by
  induction l generalizing b with
  | nil => exact .pure _
  | cons a l ih =>
    rw [foldlM_cons]
    exact .bind (hf b a mem_cons_self) fun b' =>
      ih b' fun b'' a' ha' => hf b'' a' (mem_cons_of_mem _ ha')

/-! ## What is done, seen through a view -/

/-- What a program returns, with what is seen of the heap it leaves. -/
def seen (view : Heap κ ν → σ) (x : Prog κ ν ε α) (h : Heap κ ν) : Except ε (α × σ) :=
  (x h).1.map fun a => (a, view (x h).2)

variable {view : Heap κ ν → σ} {f : σ → Except ε (α × σ)} {g : α → σ → Except ε (β × σ)}

theorem seen_eq_ok {s : σ} (hseen : x.seen view h = .ok (a, s)) :
    ∃ h', x h = (.ok a, h') ∧ view h' = s := by
  revert hseen
  unfold seen
  obtain ⟨r, h1⟩ := x h
  cases r with
  | error e => exact fun hseen => nomatch hseen
  | ok a' =>
    intro hseen
    obtain ⟨rfl, rfl⟩ := Prod.mk.inj (Except.ok.inj hseen)
    exact ⟨h1, rfl, rfl⟩

theorem seen_eq_error (h2 : x.seen view h = .error e) : ∃ h', x h = (.error e, h') := by
  revert h2
  unfold seen
  obtain ⟨r, h1⟩ := x h
  cases r with
  | error e' => exact fun h2 => ⟨h1, by rw [Except.error.inj h2]⟩
  | ok a => exact fun h2 => nomatch h2

/-- `x` does what `f` says of the part of the heap that is seen. -/
def Follows (view : Heap κ ν → σ) (x : Prog κ ν ε α) (f : σ → Except ε (α × σ)) : Prop :=
  ∀ h, x.seen view h = f (view h)

theorem Follows.congr {g : σ → Except ε (α × σ)} (hx : Follows view x f) (hfg : ∀ s, f s = g s) :
    Follows view x g := fun h => (hx h).trans (hfg (view h))

theorem Follows.pure (a : α) :
    Follows view (pure a : Prog κ ν ε α) (fun s => .ok (a, s)) := fun _ => rfl

theorem Follows.ofExcept (r : Except ε α) :
    Follows view (ofExcept r : Prog κ ν ε α) (fun s => r.map (·, s)) := fun _ => rfl

theorem Follows.modify {f : List (κ × ν) → List (κ × ν)} {g : σ → σ}
    (hg : ∀ h, view (h.write r (f (h.cell r))) = g (view h)) :
    Follows view (modify r f : Prog κ ν ε Unit) (fun s => .ok ((), g s)) :=
  fun h => congrArg (fun s => Except.ok ((), s)) (hg h)

theorem seen_bind (x : Prog κ ν ε α) (k : α → Prog κ ν ε β) (h : Heap κ ν) :
    (x >>= k).seen view h = match x h with
      | (.ok a, h) => (k a).seen view h
      | (.error e, _) => .error e := by
  unfold seen
  rw [bind_apply]
  obtain ⟨r, h1⟩ := x h
  cases r <;> rfl

theorem seen_ofExcept_bind (r : Except ε α) (k : α → Prog κ ν ε β) (h : Heap κ ν) :
    (Prog.ofExcept r >>= k).seen view h = r >>= fun a => (k a).seen view h := by
  rw [seen_bind]
  cases r <;> rfl

theorem Follows.ofExcept_bind {r : Except ε α} (hk : ∀ a, Follows view (k a) (g a)) :
    Follows view (Prog.ofExcept r >>= k) (fun s => r >>= fun a => g a s) := by
  intro h
  rw [seen_ofExcept_bind]
  cases r with
  | error e => rfl
  | ok a => exact hk a h

theorem Follows.bind (hx : Follows view x f) (hk : ∀ a, Follows view (k a) (g a)) :
    Follows view (x >>= k) (fun s => f s >>= fun r => g r.1 r.2) := by
  intro h
  show _ = f (view h) >>= _
  rw [seen_bind, ← hx h]
  unfold seen
  obtain ⟨r, h1⟩ := x h
  cases r with
  | error e => rfl
  | ok a => exact hk a h1

theorem Follows.mapError (hx : Follows view x f) (g : ε → ε) :
    Follows view (x.mapError g) (fun s => (f s).mapError g) := by
  intro h
  show _ = (f (view h)).mapError g
  rw [← hx h]
  unfold seen Prog.mapError
  obtain ⟨r, h1⟩ := x h
  cases r <;> rfl

/-- Before it fails with an error that `p` knows, `x` has written nothing. -/
def Clean (p : ε → Bool) (x : Prog κ ν ε α) : Prop :=
  ∀ h e, (x h).1 = .error e → p e = true → (x h).2 = h

variable {p : ε → Bool} {k : α → Prog κ ν ε PUnit}

theorem Clean.ofExcept (r : Except ε α) : Clean p (Prog.ofExcept r : Prog κ ν ε α) :=
  fun _ _ _ _ => rfl

theorem Clean.modify (r : Ref) (f : List (κ × ν) → List (κ × ν)) :
    Clean p (Prog.modify r f : Prog κ ν ε Unit) := fun _ _ he => nomatch he

theorem Clean.read_bind (hx : ∀ h, (x h).2 = h) (hk : ∀ a, Clean p (k a)) : Clean p (x >>= k) := by
  intro h e he hpe
  have h1 := hx h
  rw [bind_apply] at he ⊢
  revert he h1
  obtain ⟨r, h1⟩ := x h
  rintro he (rfl : h1 = h)
  cases r with
  | error e => rfl
  | ok a => exact hk a h1 e he hpe

theorem Clean.bind_last (hx : Clean p x) (hk : ∀ a h e, (k a h).1 = .error e → p e = false) :
    Clean p (x >>= k) := by
  intro h e he hpe
  have h2 := hx h
  rw [bind_apply] at he ⊢
  revert he h2
  obtain ⟨r, h1⟩ := x h
  intro he h2
  cases r with
  | error e' => exact h2 e' rfl (Except.error.inj he ▸ hpe)
  | ok a => exact absurd hpe (by rw [hk a h1 e he]; exact Bool.false_ne_true)

/-- An error that `p` knows is dropped, and `s` is seen again. -/
def recover (p : ε → Bool) (s : σ) : Except ε (Unit × σ) → Except ε (Unit × σ)
  | .error e => if p e then .ok ((), s) else .error e
  | r => r

theorem Follows.ignore {x : Prog κ ν ε Unit} {f : σ → Except ε (Unit × σ)} (hx : Follows view x f)
    (h1 : Clean p x) :
    Follows view (x.ignore p) (fun s => recover p s (f s)) := by
  intro h
  have hsame := h1 h
  have h2 := hx h
  revert hsame h2
  unfold seen Prog.ignore
  obtain ⟨r, h1⟩ := x h
  intro hsame h2
  show _ = recover p (view h) (f (view h))
  rw [← h2]
  cases r with
  | ok a => rfl
  | error e =>
    cases hpe : p e with
    | false =>
      simp [recover, Except.map, hpe]
    | true =>
      simp only [recover, Except.map, hpe, if_true]
      rw [show h1 = h from hsame e rfl hpe]

theorem Follows.forM {f : σ → α → Except ε σ} {l : List α}
    (hk : ∀ a ∈ l, Follows view (k a) (fun s => (f s a).map ((), ·))) :
    Follows view (l.forM k) (fun s => (l.foldlM f s).map ((), ·)) := by
  induction l with
  | nil => exact Follows.pure _
  | cons a l ih =>
    have hrest := ih fun b hb => hk b (mem_cons_of_mem _ hb)
    refine (Follows.bind (hk a mem_cons_self) fun _ => hrest).congr fun s => ?_
    rw [foldlM_cons]
    cases f s a <;> rfl

theorem Follows.forM_ok {g : σ → α → σ} (l : List α)
    (hk : ∀ a ∈ l, Follows view (k a) (fun s => .ok ((), g s a))) :
    Follows view (l.forM k) (fun s => .ok ((), l.foldl g s)) := by
  induction l with
  | nil => exact .pure _
  | cons a l ih =>
    have hrest := ih fun b hb => hk b (mem_cons_of_mem _ hb)
    exact .bind (hk a mem_cons_self) fun _ => hrest

end Prog

end MapHeap
