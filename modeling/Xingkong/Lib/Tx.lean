import Mathlib.Logic.Basic

/-!
# Transaction bodies

A transaction body issues statements one after the other: a query goes on with what the database
shows, an update with whether it was carried out. Every statement can be made to fail from
outside. `Tx.run` runs a body by itself, with a list of verdicts, one per statement: a statement
whose verdict is `true` fails. A theorem about every fault list is therefore a theorem about every
place at which the database can go wrong. Bodies that run side by side are in
`Lib/ReadCommitted.lean`.

`Tx.Ok x db a db'` says that `x` can finish from `db` with value `a` and
database `db'`. Its inversion lemmas peel a body apart statement by statement,
and no proof about a body has to look at the fault list again.
-/

namespace Rdb

/-- What a statement answers when the database fails it. -/
class DbError (ε : Type) where
  failed : ε

/-- A body over databases `σ` with errors `ε`. -/
inductive Tx (σ ε α : Type) : Type
  | ret (a : α)
  | fail (e : ε)
  /-- A query goes on with the database it sees, or with `none` if it fails. -/
  | select (k : Option σ → Tx σ ε α)
  /-- An update goes on with whether it was carried out. -/
  | update (u : σ → σ) (k : Bool → Tx σ ε α)

namespace Tx

variable {σ ε α β : Type} {x : Tx σ ε α} {db : σ} {a : α}

protected def bind : Tx σ ε α → (α → Tx σ ε β) → Tx σ ε β
  | ret a, f => f a
  | fail e, _ => fail e
  | select k, f => select fun o => (k o).bind f
  | update u k, f => update u fun b => (k b).bind f

instance : Monad (Tx σ ε) where
  pure := ret
  bind := Tx.bind

protected theorem bind_ret (x : Tx σ ε α) : x.bind ret = x := by
  induction x with
  | ret _ | fail _ => rfl
  | select k ih => exact congrArg select (funext ih)
  | update u k ih => exact congrArg (update u) (funext ih)

protected theorem bind_assoc {γ : Type} (x : Tx σ ε α) (f : α → Tx σ ε β) (g : β → Tx σ ε γ) :
    (x.bind f).bind g = x.bind fun a => (f a).bind g := by
  induction x with
  | ret _ | fail _ => rfl
  | select k ih => exact congrArg select (funext ih)
  | update u k ih => exact congrArg (update u) (funext ih)

instance : LawfulMonad (Tx σ ε) :=
  LawfulMonad.mk' (Tx σ ε) Tx.bind_ret (fun _ _ => rfl) Tx.bind_assoc

def ofExcept : Except ε α → Tx σ ε α
  | .ok a => ret a
  | .error e => fail e

instance : MonadLift (Except ε) (Tx σ ε) where
  monadLift := ofExcept

/-! ## Statements -/

def stmt [DbError ε] : Tx σ ε Unit := select fun
  | some _ => ret ()
  | none => fail DbError.failed

def query [DbError ε] (f : σ → α) : Tx σ ε α := select fun
  | some db => ret (f db)
  | none => fail DbError.failed

/-- A query for one row; `missing` is the error when there is none. -/
def first [DbError ε] (f : σ → Option α) (missing : ε) : Tx σ ε α := do
  match ← query f with
  | some a => pure a
  | none => fail missing

def exec [DbError ε] (f : σ → σ) : Tx σ ε Unit := update f fun
  | true => ret ()
  | false => fail DbError.failed

/-- A query whose error the caller drops: it then goes on with `dflt`. -/
def queryOr (f : σ → α) (dflt : α) : Tx σ ε α := select fun
  | some db => ret (f db)
  | none => ret dflt

def failIf (c : Prop) [Decidable c] (e : ε) : Tx σ ε Unit := if c then fail e else pure ()

def orFail (x : Tx σ ε α) (e : ε) : Tx σ ε α :=
  match x with
  | ret a => ret a
  | fail _ => fail e
  | select k => select fun o => (k o).orFail e
  | update u k => update u fun b => (k b).orFail e

/-- Go on with the error of `x` instead of failing. -/
def attempt : Tx σ ε α → Tx σ ε (Except ε α)
  | ret a => ret (.ok a)
  | fail e => ret (.error e)
  | select k => select fun o => (k o).attempt
  | update u k => update u fun b => (k b).attempt

/-! ## Runs -/

structure TxState (σ : Type) where
  db : σ
  faults : List Bool

/-- The verdict on the next statement, and those on the later ones. -/
def TxState.verdict (s : TxState σ) : Bool × List Bool :=
  match s.faults with
  | [] => (false, [])
  | b :: fs => (b, fs)

def run : Tx σ ε α → TxState σ → Except ε (α × TxState σ)
  | ret a, s => .ok (a, s)
  | fail e, _ => .error e
  | select k, s =>
    if s.verdict.1 then (k none).run { s with faults := s.verdict.2 }
    else (k (some s.db)).run { s with faults := s.verdict.2 }
  | update u k, s =>
    if s.verdict.1 then (k false).run { s with faults := s.verdict.2 }
    else (k true).run ⟨u s.db, s.verdict.2⟩

/-- Run a body to its commit; an error anywhere rolls everything back. -/
def transaction [DbError ε] (body : Tx σ ε α) (faults : List Bool) (db : σ) : Except ε α × σ :=
  match (do let a ← body; stmt; pure a : Tx σ ε α).run ⟨db, faults⟩ with
  | .ok (a, s) => (.ok a, s.db)
  | .error e => (.error e, db)

def reportAs (e : ε) : Except ε α × σ → Except ε α × σ
  | (.ok a, db) => (.ok a, db)
  | (.error _, db) => (.error e, db)

/-! ## What a body can do -/

/-- `x` can finish from `db` with value `a` and database `db'`. -/
inductive Ok : Tx σ ε α → σ → α → σ → Prop
  | ret (a : α) (db : σ) : Ok (.ret a) db a db
  | seen {k : Option σ → Tx σ ε α} {db : σ} {a : α} {db' : σ} (h : Ok (k (some db)) db a db') :
    Ok (.select k) db a db'
  | unseen {k : Option σ → Tx σ ε α} {db : σ} {a : α} {db' : σ} (h : Ok (k none) db a db') :
    Ok (.select k) db a db'
  | done {u : σ → σ} {k : Bool → Tx σ ε α} {db : σ} {a : α} {db' : σ}
    (h : Ok (k true) (u db) a db') : Ok (.update u k) db a db'
  | undone {u : σ → σ} {k : Bool → Tx σ ε α} {db : σ} {a : α} {db' : σ}
    (h : Ok (k false) db a db') : Ok (.update u k) db a db'

variable {body : Tx σ ε α} {s : TxState σ} {db' : σ} {faults : List Bool}
  {f : α → Tx σ ε β} {e : ε} {c : Prop} {g : σ → σ}

theorem ok_of_run {s' : TxState σ} (h : x.run s = .ok (a, s')) : Ok x s.db a s'.db := by
  induction x generalizing s with
  | ret _ => cases h; exact .ret ..
  | fail e => cases h
  | select k ih =>
    unfold run at h
    split at h
    · have hk := ih none h
      exact .unseen hk
    · have hk := ih (some s.db) h
      exact .seen hk
  | update u k ih =>
    unfold run at h
    split at h
    · have hk := ih false h
      exact .undone hk
    · have hk := ih true h
      exact .done hk

variable {b : β}

namespace Ok

variable {u : Unit}

theorem bind (h : Ok (x >>= f) db b db') :
    ∃ a db1, Ok x db a db1 ∧ Ok (f a) db1 b db' := by
  induction x generalizing db with
  | ret a => exact ⟨a, db, .ret .., h⟩
  | fail e => cases h
  | select k ih =>
    cases h with
    | seen h =>
      obtain ⟨a, db1, h1, h2⟩ := ih _ h
      exact ⟨a, db1, .seen h1, h2⟩
    | unseen h =>
      obtain ⟨a, db1, h1, h2⟩ := ih _ h
      exact ⟨a, db1, .unseen h1, h2⟩
  | update u k ih =>
    cases h with
    | done h =>
      obtain ⟨a, db1, h1, h2⟩ := ih _ h
      exact ⟨a, db1, .done h1, h2⟩
    | undone h =>
      obtain ⟨a, db1, h1, h2⟩ := ih _ h
      exact ⟨a, db1, .undone h1, h2⟩

theorem pure {v : α} (h : Ok (Pure.pure v : Tx σ ε α) db a db') : a = v ∧ db' = db := by
  cases h
  exact ⟨rfl, rfl⟩

theorem fail (h : Ok (.fail e : Tx σ ε α) db a db') : False := by
  cases h

theorem failIf [Decidable c] (h : Ok (Tx.failIf c e : Tx σ ε Unit) db u db') :
    ¬ c ∧ db' = db := by
  unfold Tx.failIf at h
  split at h
  · exact h.fail.elim
  next hc =>
    exact ⟨hc, h.pure.2⟩

theorem orFail (h : Ok (x.orFail e) db a db') : Ok x db a db' := by
  induction x generalizing db with
  | ret _ => exact h
  | fail _ => cases h
  | select k ih =>
    cases h with
    | seen h => exact .seen (ih _ h)
    | unseen h => exact .unseen (ih _ h)
  | update u k ih =>
    cases h with
    | done h => exact .done (ih _ h)
    | undone h => exact .undone (ih _ h)

theorem attempt (h : Ok x.attempt db (.ok a) db') : Ok x db a db' := by
  induction x generalizing db with
  | ret _ => cases h; exact .ret ..
  | fail _ => cases h
  | select k ih =>
    cases h with
    | seen h => exact .seen (ih _ h)
    | unseen h => exact .unseen (ih _ h)
  | update u k ih =>
    cases h with
    | done h => exact .done (ih _ h)
    | undone h => exact .undone (ih _ h)

section Statements

variable [DbError ε]

theorem stmt (h : Ok (Tx.stmt : Tx σ ε Unit) db u db') : db' = db := by
  cases h with
  | seen h => exact h.pure.2
  | unseen h => exact h.fail.elim

theorem query {f : σ → α} (h : Ok (Tx.query f : Tx σ ε α) db a db') : a = f db ∧ db' = db := by
  cases h with
  | seen h => exact h.pure
  | unseen h => exact h.fail.elim

theorem first {f : σ → Option α} (h : Ok (Tx.first f e : Tx σ ε α) db a db') :
    f db = some a ∧ db' = db := by
  unfold Tx.first at h
  obtain ⟨o, db1, h1, h2⟩ := h.bind
  obtain ⟨rfl, rfl⟩ := h1.query
  cases hf : f db1 with
  | none => rw [hf] at h2; exact h2.fail.elim
  | some v =>
    rw [hf] at h2
    obtain ⟨rfl, rfl⟩ := h2.pure
    exact ⟨rfl, rfl⟩

theorem exec {f : σ → σ} (h : Ok (Tx.exec f : Tx σ ε Unit) db u db') : db' = f db := by
  cases h with
  | done h => exact h.pure.2
  | undone h => exact h.fail.elim

end Statements

theorem queryOr {f : σ → α} {d : α} (h : Ok (Tx.queryOr f d : Tx σ ε α) db a db') :
    (a = f db ∨ a = d) ∧ db' = db := by
  cases h with
  | seen h => exact ⟨.inl h.pure.1, h.pure.2⟩
  | unseen h => exact ⟨.inr h.pure.1, h.pure.2⟩

/-! The same, for a statement followed by the rest of the body. -/

theorem failIf_bind [Decidable c] {f : Unit → Tx σ ε β}
    (h : Ok (Tx.failIf c e >>= f) db b db') : ¬ c ∧ Ok (f ()) db b db' := by
  obtain ⟨_, db1, h1, h2⟩ := h.bind
  obtain ⟨hc, rfl⟩ := h1.failIf
  exact ⟨hc, h2⟩

section StatementsBind

variable [DbError ε]

theorem query_bind {g : σ → α} (h : Ok (Tx.query g >>= f) db b db') :
    Ok (f (g db)) db b db' := by
  obtain ⟨a, db1, h1, h2⟩ := h.bind
  obtain ⟨rfl, rfl⟩ := h1.query
  exact h2

theorem first_bind {g : σ → Option α} (h : Ok (Tx.first g e >>= f) db b db') :
    ∃ a, g db = some a ∧ Ok (f a) db b db' := by
  obtain ⟨a, db1, h1, h2⟩ := h.bind
  obtain ⟨ha, rfl⟩ := h1.first
  exact ⟨a, ha, h2⟩

theorem exec_bind {f : Unit → Tx σ ε β} (h : Ok (Tx.exec g >>= f) db b db') :
    Ok (f ()) (g db) b db' := by
  obtain ⟨_, db1, h1, h2⟩ := h.bind
  obtain rfl := h1.exec
  exact h2

end StatementsBind

end Ok

/-! ## Bodies whose statements are all carried out -/

/-- `x` finishes from `db` with value `a` and database `db'` when no statement fails. -/
inductive Done : Tx σ ε α → σ → α → σ → Prop
  | ret (a : α) (db : σ) : Done (.ret a) db a db
  | seen {k : Option σ → Tx σ ε α} {db : σ} {a : α} {db' : σ} (h : Done (k (some db)) db a db') :
    Done (.select k) db a db'
  | done {u : σ → σ} {k : Bool → Tx σ ε α} {db : σ} {a : α} {db' : σ}
    (h : Done (k true) (u db) a db') : Done (.update u k) db a db'

theorem TxState.verdict_of_not_mem (h : true ∉ s.faults) :
    s.verdict.1 = false ∧ true ∉ s.verdict.2 := by
  obtain ⟨db, _ | ⟨b, fs⟩⟩ := s
  · exact ⟨rfl, h⟩
  · rw [List.mem_cons, not_or] at h
    exact ⟨Bool.eq_false_iff.2 (Ne.symm h.1), h.2⟩

namespace Done

theorem ok (h : Done x db a db') : Ok x db a db' := by
  induction h with
  | ret a db => exact .ret a db
  | seen _ ih => exact .seen ih
  | done _ ih => exact .done ih

theorem bind (h : Done (x >>= f) db b db') :
    ∃ a db1, Done x db a db1 ∧ Done (f a) db1 b db' := by
  induction x generalizing db with
  | ret a => exact ⟨a, db, .ret .., h⟩
  | fail e => cases h
  | select k ih =>
    cases h with
    | seen h =>
      obtain ⟨a, db1, h1, h2⟩ := ih _ h
      exact ⟨a, db1, .seen h1, h2⟩
  | update u k ih =>
    cases h with
    | done h =>
      obtain ⟨a, db1, h1, h2⟩ := ih _ h
      exact ⟨a, db1, .done h1, h2⟩

theorem queryOr_bind {g : σ → α} {d : α} (h : Done (Tx.queryOr g d >>= f) db b db') : Done
    (f (g db)) db b db' := by
  obtain ⟨a, db1, h1, h2⟩ := h.bind
  cases h1 with
  | seen h1 =>
    cases h1
    exact h2

theorem exec_bind [DbError ε] {f : Unit → Tx σ ε β}
    (h : Done (Tx.exec g >>= f) db b db') : Done (f ()) (g db) b db' := by
  obtain ⟨_, db1, h1, h2⟩ := h.bind
  obtain rfl := h1.ok.exec
  exact h2

end Done

/-! ## Bodies by themselves -/

/-- What a body comes to when every statement is carried out. -/
def eval : Tx σ ε α → σ → Except ε (α × σ)
  | ret a, db => .ok (a, db)
  | fail e, _ => .error e
  | select k, db => (k (some db)).eval db
  | update u k, db => (k true).eval (u db)

@[simp] theorem eval_pure (a : α) (db : σ) : (pure a : Tx σ ε α).eval db = .ok (a, db) := rfl

theorem eval_bind (x : Tx σ ε α) (f : α → Tx σ ε β) (db : σ) :
    (x >>= f).eval db =
      match x.eval db with
      | .ok (a, db1) => (f a).eval db1
      | .error e => .error e := by
  induction x generalizing db with
  | ret a | fail e => rfl
  | select k ih => exact ih _ db
  | update u k ih => exact ih _ (u db)

theorem eval_bind_ok {db1 : σ} (h : x.eval db = .ok (a, db1)) :
    (x >>= f).eval db = (f a).eval db1 := by
  rw [eval_bind, h]

theorem eval_orFail {r : α × σ} (h : x.eval db = .ok r) :
    (x.orFail e).eval db = .ok r := by
  induction x generalizing db with
  | ret a => exact h
  | fail e => cases h
  | select k ih | update u k ih => exact ih _ h

theorem eval_failIf_bind [Decidable c] (e : ε) (f : Unit → Tx σ ε β) (h : ¬c) (db : σ) :
    (failIf c e >>= f).eval db = (f ()).eval db := by
  rw [failIf, if_neg h]
  rfl

theorem eval_failIf_bind_error [Decidable c] (e : ε) (f : Unit → Tx σ ε β) (h : c)
    (db : σ) : (failIf c e >>= f).eval db = .error e := by
  rw [failIf, if_pos h]
  rfl

@[simp] theorem eval_queryOr_bind (g : σ → α) (d : α) (f : α → Tx σ ε β) (db : σ) :
    (queryOr g d >>= f).eval db = (f (g db)).eval db := rfl

section EvalStatements

variable [DbError ε]

@[simp] theorem eval_stmt_bind (f : Unit → Tx σ ε β) (db : σ) :
    (stmt >>= f).eval db = (f ()).eval db := rfl

@[simp] theorem eval_query_bind (g : σ → α) (f : α → Tx σ ε β) (db : σ) :
    (query g >>= f).eval db = (f (g db)).eval db := rfl

@[simp] theorem eval_exec_bind (g : σ → σ) (f : Unit → Tx σ ε β) (db : σ) :
    (exec g >>= f).eval db = (f ()).eval (g db) := rfl

theorem eval_first_bind (g : σ → Option α) (h : g db = some a) : (first g e >>= f).eval db =
    (f a).eval db := by
  refine eval_bind_ok ?_
  rw [first, eval_query_bind, h]
  rfl

end EvalStatements

theorem run_eq_eval (x : Tx σ ε α) (hf : true ∉ s.faults) :
    match x.eval s.db with
    | .ok (a, db) => ∃ fs, true ∉ fs ∧ x.run s = .ok (a, ⟨db, fs⟩)
    | .error e => x.run s = .error e := by
  induction x generalizing s with
  | ret a => exact ⟨s.faults, hf, rfl⟩
  | fail e => rfl
  | select k ih =>
    obtain ⟨hv, hrest⟩ := TxState.verdict_of_not_mem hf
    have hk := ih (some s.db) (s := { s with faults := s.verdict.2 }) hrest
    simp only [eval, run, hv, Bool.false_eq_true, if_false]
    exact hk
  | update u k ih =>
    obtain ⟨hv, hrest⟩ := TxState.verdict_of_not_mem hf
    have hk := ih true (s := ⟨u s.db, s.verdict.2⟩) hrest
    simp only [eval, run, hv, Bool.false_eq_true, if_false]
    exact hk

theorem transaction_eq_eval [DbError ε] (body : Tx σ ε α) (db : σ) (hf : true ∉ faults) :
    transaction body faults db =
      match body.eval db with
      | .ok (a, db') => (.ok a, db')
      | .error e => (.error e, db) := by
  have hrun := run_eq_eval (do let a ← body; stmt; pure a : Tx σ ε α) (s := ⟨db, faults⟩) hf
  rw [eval_bind] at hrun
  unfold transaction
  cases hb : body.eval db with
  | error e =>
    simp only [hb] at hrun
    rw [hrun]
  | ok r =>
    simp only [hb, eval_stmt_bind, eval_pure] at hrun
    obtain ⟨fs, -, hrun⟩ := hrun
    rw [hrun]

/-! ## Bodies that only read -/

inductive ReadOnly : Tx σ ε α → Prop
  | ret (a : α) : ReadOnly (.ret a)
  | fail (e : ε) : ReadOnly (.fail e)
  | select {k : Option σ → Tx σ ε α} (h : ∀ o, ReadOnly (k o)) : ReadOnly (.select k)

namespace ReadOnly

theorem db_eq (hx : ReadOnly x) (h : Ok x db a db') :
    db' = db := by
  induction hx with
  | ret _ => exact h.pure.2
  | fail _ => exact h.fail.elim
  | select _ ih =>
    cases h with
    | seen h | unseen h => exact ih _ h

theorem bind (hx : ReadOnly x) (hf : ∀ a, ReadOnly (f a)) :
    ReadOnly (x >>= f) := by
  induction hx with
  | ret a => exact hf a
  | fail e => exact .fail e
  | select _ ih => exact .select ih

theorem attempt (hx : ReadOnly x) : ReadOnly x.attempt := by
  induction hx with
  | ret a | fail e => exact .ret _
  | select _ ih => exact .select ih

theorem query [DbError ε] (f : σ → α) : ReadOnly (Tx.query f : Tx σ ε α) :=
  .select fun o => by
    cases o with
    | none => exact .fail _
    | some db => exact .ret _

theorem failIf (c : Prop) [Decidable c] (e : ε) : ReadOnly (Tx.failIf c e : Tx σ ε Unit) := by
  unfold Tx.failIf
  split
  · exact .fail e
  · exact .ret ()

end ReadOnly

/-! ## Transactions -/

/-- A transaction commits what its body did, or changes nothing. -/
theorem transaction_cases [DbError ε] (body : Tx σ ε α) (faults : List Bool) (db : σ) :
    (∃ a db', transaction body faults db = (.ok a, db') ∧ Ok body db a db') ∨
      ∃ e, transaction body faults db = (.error e, db) := by
  unfold transaction
  split
  next a s hs =>
    obtain ⟨a', db1, h1, h2⟩ := (ok_of_run hs).bind
    obtain ⟨_, db2, h3, h4⟩ := h2.bind
    obtain rfl := h3.stmt
    obtain ⟨rfl, hdb⟩ := h4.pure
    exact .inl ⟨_, _, rfl, hdb ▸ h1⟩
  next e _ =>
    exact .inr ⟨e, rfl⟩

theorem done_of_eval (h : x.eval db = .ok (a, db')) : Done x db a db' := by
  induction x generalizing db with
  | ret _ => cases h; exact .ret ..
  | fail e => cases h
  | select k ih => exact .seen (ih _ h)
  | update u k ih => exact .done (ih _ h)

theorem transaction_done [DbError ε] (hf : true ∉ faults)
    (h : transaction body faults db = (.ok a, db')) : Done body db a db' := by
  rw [transaction_eq_eval body db hf] at h
  cases hb : body.eval db with
  | error e => rw [hb] at h; cases h
  | ok r =>
    rw [hb] at h
    cases h
    exact done_of_eval hb

theorem transaction_ok [DbError ε] (h : transaction body faults db = (.ok a, db')) :
    Ok body db a db' := by
  rcases transaction_cases body faults db with ⟨a', db1, h1, hok⟩ | ⟨e, he⟩
  · rw [h1] at h; cases h; exact hok
  · rw [he] at h; cases h

/-- What the body's successful runs establish holds after the transaction if it held before. -/
theorem transaction_invariant [DbError ε] {P : σ → Prop} (h : P db)
    (hok : ∀ a db', Ok body db a db' → P db') (faults : List Bool) :
    P (transaction body faults db).2 := by
  rcases transaction_cases body faults db with ⟨a, db', he, hb⟩ | ⟨e, he⟩
  · rw [he]; exact hok a db' hb
  · rw [he]; exact h

theorem transaction_error [DbError ε] (h : (transaction body faults db).1 = .error e) :
    (transaction body faults db).2 = db := by
  rcases transaction_cases body faults db with ⟨a', db1, h1, hok⟩ | ⟨e', he⟩
  · rw [h1] at h; cases h
  · rw [he]

theorem guarded_error [DbError ε] [Decidable c] {refusal : ε}
    (h : (if c then (.error refusal, db) else transaction body faults db).1 = .error e) :
    (if c then (.error refusal, db) else transaction body faults db).2 = db := by
  split at h
  next hc => rw [if_pos hc]
  next hc => rw [if_neg hc]; exact transaction_error h

@[simp] theorem reportAs_snd (e : ε) (r : Except ε α × σ) : (reportAs e r).2 = r.2 := by
  obtain ⟨r | r, db⟩ := r <;> rfl

theorem reportAs_error {e' : ε} {r : Except ε α × σ} (h : (reportAs e r).1 = .error e') :
    ∃ e'', r.1 = .error e'' := by
  obtain ⟨r | r, db⟩ := r
  · exact ⟨r, rfl⟩
  · cases h

end Tx

end Rdb
