import Xingkong.Lib.Pool
import Xingkong.Lib.Tx

/-!
# Transactions side by side

Any number of transaction bodies run on one database at READ COMMITTED, one statement at a time. A
query sees what is committed and the updates of its own transaction. An update locks the rows it
changes until its transaction ends, and waits while another transaction has locked one of them.
Commit makes the updates of a transaction visible to all; an error undoes them.

Between two statements of one transaction others may commit, so a body that checks a row and
then acts on it may act on what is no longer there. The rule of this file is for runs in which no
transaction starts while another one is under way: they keep every invariant that the bodies keep
when they run alone.
-/

namespace Rdb.ReadCommitted

structure Store (σ κ : Type) where
  committed : σ
  locked : List κ

inductive Phase (ε α : Type)
  | waiting
  | running
  | ended (result : Except ε α)

instance {ε α : Type} (p : Phase ε α) : Decidable (p = .waiting) :=
  match p with
  | .waiting => isTrue rfl
  | .running => isFalse nofun
  | .ended _ => isFalse nofun

instance {ε α : Type} (p : Phase ε α) : Decidable (p = .running) :=
  match p with
  | .waiting => isFalse nofun
  | .running => isTrue rfl
  | .ended _ => isFalse nofun

structure Txn (σ κ ε α : Type) where
  body : Tx σ ε α
  /-- Its updates so far, in order. -/
  updates : List (σ → σ)
  locks : List κ
  phase : Phase ε α

variable {σ κ ε α ι : Type}

namespace Txn

def new (body : Tx σ ε α) : Txn σ κ ε α := ⟨body, [], [], .waiting⟩

def view (t : Txn σ κ ε α) (db : σ) : σ := t.updates.foldl (fun d u => u d) db

section Step

variable [DbError ε] [DecidableEq κ] (changed : σ → σ → List κ)

def finish (t : Txn σ κ ε α) (result : Except ε α) (committed : σ) (s : Store σ κ) :
    Txn σ κ ε α × Store σ κ :=
  ({ t with phase := .ended result, locks := [] }, ⟨committed, s.locked.filter (· ∉ t.locks)⟩)

/-- Is one of the rows locked by another transaction? -/
def blocked (t : Txn σ κ ε α) (rows : List κ) (s : Store σ κ) : Bool :=
  rows.any fun k => k ∈ s.locked ∧ k ∉ t.locks

/-- Carry out an update on `rows`, unless it has to wait. -/
def write (t : Txn σ κ ε α) (u : σ → σ) (next : Tx σ ε α) (rows : List κ) (s : Store σ κ) :
    Txn σ κ ε α × Store σ κ :=
  if t.blocked rows s then (t, s)
  else ({ body := next, updates := t.updates ++ [u], locks := rows ++ t.locks, phase := .running },
    { s with locked := rows ++ s.locked })

/-- The next statement; `changed` lists the rows an update changes. -/
def step (t : Txn σ κ ε α) (fault : Bool) (s : Store σ κ) : Txn σ κ ε α × Store σ κ :=
  match t.phase with
  | .ended _ => (t, s)
  | _ =>
    match t.body with
    | .ret a =>
      if fault then t.finish (.error DbError.failed) s.committed s
      else t.finish (.ok a) (t.view s.committed) s
    | .fail e => t.finish (.error e) s.committed s
    | .select k =>
      ({ t with
        body := k (if fault then none else some (t.view s.committed)), phase := .running }, s)
    | .update u k =>
      if fault then ({ t with body := k false, phase := .running }, s)
      else t.write u (k true) (changed (t.view s.committed) (u (t.view s.committed))) s

end Step

/-- What the rest of the transaction does on what it sees, `body` could do on `db`. -/
def Continues (body : Tx σ ε α) (db : σ) (t : Txn σ κ ε α) : Prop :=
  ∀ a db', Tx.Ok t.body (t.view db) a db' → Tx.Ok body db a db'

/-- A statement ends the transaction or goes on; only a commit changes what is committed. -/
inductive Stepped (body : Tx σ ε α) (t : Txn σ κ ε α) (db : σ) : Txn σ κ ε α → σ → Prop
  | idle : Stepped body t db t db
  | advanced {t' : Txn σ κ ε α} (hp : t'.phase = .running) (h : t'.Continues body db) :
    Stepped body t db t' db
  | rolledBack {t' : Txn σ κ ε α} {e : ε} (hp : t'.phase = .ended (.error e)) :
    Stepped body t db t' db
  | committed {t' : Txn σ κ ε α} {a : α} {db' : σ} (hp : t'.phase = .ended (.ok a))
    (h : Tx.Ok body db a db') : Stepped body t db t' db'

theorem Stepped.keeps {body : Tx σ ε α} {t t' : Txn σ κ ε α} {db db' : σ} {P : σ → Prop}
    (h : Stepped body t db t' db') (hP : P db) (h1 : t.phase = .waiting → t = .new body)
    (hrun : t.Continues body db) (hbody : ∀ db a db', P db → Tx.Ok body db a db' → P db') :
    P db' ∧ (t'.phase = .waiting → t' = .new body) ∧
      (t'.phase = .running → t'.Continues body db') := by
  cases h with
  | idle => exact ⟨hP, h1, fun _ => hrun⟩
  | advanced hp h =>
    rw [hp]
    exact ⟨hP, nofun, fun _ => h⟩
  | rolledBack hp =>
    rw [hp]
    exact ⟨hP, nofun, nofun⟩
  | committed hp h =>
    rw [hp]
    exact ⟨hbody _ _ _ hP h, nofun, nofun⟩

variable [DbError ε] [DecidableEq κ]

omit [DbError ε] in
theorem write_cases (t : Txn σ κ ε α) (u : σ → σ) (next : Tx σ ε α) (rows : List κ)
    (s : Store σ κ) :
    t.write u next rows s = (t, s) ∨
      ∃ t' s', t.write u next rows s = (t', s') ∧ t'.phase = .running ∧ t'.body = next ∧
        s'.committed = s.committed ∧ ∀ db, t'.view db = u (t.view db) := by
  unfold write
  split
  · exact .inl rfl
  · exact .inr ⟨_, _, rfl, rfl, rfl, rfl, fun db => by simp [view]⟩

theorem Continues.step {body : Tx σ ε α} {t : Txn σ κ ε α} {s : Store σ κ}
    (h : t.Continues body s.committed) (changed : σ → σ → List κ) (fault : Bool) :
    Stepped body t s.committed (t.step changed fault s).1
      (t.step changed fault s).2.committed := by
  have hrest := h
  unfold Continues at hrest
  unfold Txn.step
  split
  · exact .idle
  cases hb : t.body with
  | ret a =>
    rw [hb] at hrest
    cases fault with
    | true => exact .rolledBack rfl
    | false => exact .committed rfl (hrest a _ (.ret ..))
  | fail e => exact .rolledBack rfl
  | select k =>
    rw [hb] at hrest
    refine .advanced rfl fun a db' hok => hrest a db' ?_
    cases fault with
    | true => exact .unseen hok
    | false => exact .seen hok
  | update u k =>
    rw [hb] at hrest
    cases fault with
    | true => exact .advanced rfl fun a db' hok => hrest a db' (.undone hok)
    | false =>
      change Stepped body t s.committed (t.write u (k true) _ s).1
        (t.write u (k true) _ s).2.committed
      rcases t.write_cases u (k true) (changed (t.view s.committed) (u (t.view s.committed))) s with
        hw | ⟨t', s', hw, hp, h, hdb, h1⟩
      · rw [hw]
        exact .idle
      · rw [hw]
        dsimp only
        rw [hdb]
        refine .advanced hp fun a db' hok => hrest a db' (.done ?_)
        rwa [h, h1] at hok

end Txn

/-! ## Runs -/

section Serial

variable [DecidableEq ι] [DbError ε] [DecidableEq κ]

def start (db : σ) (bodies : ι → Tx σ ε α) : Pool.State ι (Txn σ κ ε α) (Store σ κ) :=
  ⟨⟨db, []⟩, fun i => .new (bodies i)⟩

def next (changed : σ → σ → List κ) :
    Pool.State ι (Txn σ κ ε α) (Store σ κ) → ι × Bool → Pool.State ι (Txn σ κ ε α) (Store σ κ) :=
  Pool.next (Txn.step changed)

/-- A transaction starts only when no other is under way. -/
def StartsAlone (p : Pool.State ι (Txn σ κ ε α) (Store σ κ)) (x : ι × Bool) : Prop :=
  (p.threads x.1).phase = .waiting → ∀ j, (p.threads j).phase ≠ .running

/-- At most one transaction is under way, and it goes on as it would alone. -/
structure Serial (P : σ → Prop) (bodies : ι → Tx σ ε α)
    (p : Pool.State ι (Txn σ κ ε α) (Store σ κ)) : Prop where
  holds : P p.shared.committed
  waiting : ∀ i, (p.threads i).phase = .waiting → p.threads i = .new (bodies i)
  one : ∀ i j, (p.threads i).phase = .running → (p.threads j).phase = .running → i = j
  running : ∀ i, (p.threads i).phase = .running →
    (p.threads i).Continues (bodies i) p.shared.committed

variable {P : σ → Prop} {bodies : ι → Tx σ ε α} {p : Pool.State ι (Txn σ κ ε α) (Store σ κ)}

theorem Serial.next (h : Serial P bodies p) (changed : σ → σ → List κ) {x : ι × Bool}
    (hx : StartsAlone p x) (hP : ∀ i db a db', P db → Tx.Ok (bodies i) db a db' → P db') :
    Serial P bodies (ReadCommitted.next changed p x) := by
  by_cases hend : ∃ r, (p.threads x.1).phase = .ended r
  · -- nothing is left to do
    obtain ⟨r, hr⟩ := hend
    have h1 : (p.threads x.1).step changed x.2 p.shared = (p.threads x.1, p.shared) := by
      unfold Txn.step
      rw [hr]
    have hp : ReadCommitted.next changed p x = p := by
      unfold ReadCommitted.next Pool.next
      rw [h1, Function.update_eq_self]
    rw [hp]
    exact h
  have hcont : (p.threads x.1).Continues (bodies x.1) p.shared.committed := by
    cases hph : (p.threads x.1).phase with
    | waiting =>
      rw [h.waiting x.1 hph]
      exact fun _ _ hok => hok
    | running => exact h.running x.1 hph
    | ended r => exact absurd ⟨r, hph⟩ hend
  have hothers : ∀ j, j ≠ x.1 → (p.threads j).phase ≠ .running := by
    intro j hj hrun
    cases hph : (p.threads x.1).phase with
    | waiting => exact hx hph j hrun
    | running => exact hj (h.one j x.1 hrun hph)
    | ended r => exact hend ⟨r, hph⟩
  obtain ⟨h1, h2, hrun⟩ := (hcont.step changed x.2).keeps h.holds (h.waiting x.1) hcont
    (hP x.1)
  refine ⟨h1, ?_, ?_, ?_⟩
  · exact Pool.forall_next
      (L := fun _ j (t : Txn σ κ ε α) => t.phase = .waiting → t = .new (bodies j))
      h2 fun j _ => h.waiting j
  · exact Pool.one_next (K := fun t : Txn σ κ ε α => t.phase = .running) h.one
      fun _ => .inr hothers
  · exact Pool.forall_next
      (L := fun (s : Store σ κ) j (t : Txn σ κ ε α) =>
        t.phase = .running → t.Continues (bodies j) s.committed)
      hrun fun j hj h => absurd h (hothers j hj)

/-- **Runs without overlap keep what the bodies keep alone.** -/
theorem serial_invariant {db : σ} (changed : σ → σ → List κ) (h0 : P db)
    (hP : ∀ i db a db', P db → Tx.Ok (bodies i) db a db' → P db') {steps : List (ι × Bool)}
    (h : ∀ e ∈ Run.trace (next changed) (start db bodies) steps, StartsAlone e.before e.act) :
    P (Run.final (next changed) (start db bodies) steps).shared.committed := by
  refine (Run.guarded_final (P := Serial P bodies) ?_ h fun p x hx h =>
    h.next changed hx hP).holds
  exact ⟨h0, fun _ _ => rfl, fun _ _ hi => (by cases hi), fun _ hi => (by cases hi)⟩

end Serial

end Rdb.ReadCommitted
