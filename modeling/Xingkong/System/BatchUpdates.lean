import Xingkong.Lib.Pool
import Xingkong.Model.Batch
import Xingkong.Spec.Quota
import Mathlib.Tactic.LinearCombination

/-!
# Batch mode against direct mode

Calls of `addNewRecord` and runs of `batchUpdate` interleave, stopping wherever a lock of a store
is released and after each write. An update that was recorded is in one of three places: in the
store of its type, in a map a `batchUpdate` has taken out, or in the column. `Conserved` says
that the three add up. A step keeps it exactly when it does not drop an entry because its write
failed, and then the columns of a flushed state are those of direct mode.
-/

namespace Xingkong

open Rdb Option Function
open Tally (amount amount_nil)

/-! ## The columns that move -/

/-- A column that batch updates change. An update of a token's quota changes two. -/
inductive Counter
  | quota
  | remainQuota
  | tokenUsedQuota
  | usedQuota
  | channelUsedQuota
  | requestCount
  deriving DecidableEq, Repr

namespace Counter

def type : Counter → BatchUpdateType
  | quota => .userQuota
  | remainQuota | tokenUsedQuota => .tokenQuota
  | usedQuota => .usedQuota
  | channelUsedQuota => .channelUsedQuota
  | requestCount => .requestCount

/-- A token's used quota goes down by what its remaining quota goes up. -/
def sign : Counter → Int
  | tokenUsedQuota => -1
  | _ => 1

def column (c : Counter) (n : Nat) (db : Database) : Option Int :=
  match c with
  | quota => (db.liveUser? n).map (·.quota)
  | usedQuota => (db.liveUser? n).map (·.usedQuota)
  | requestCount => (db.liveUser? n).map (·.requestCount)
  | remainQuota => (db.tokens.find? n).map (·.remainQuota)
  | tokenUsedQuota => (db.tokens.find? n).map (·.usedQuota)
  | channelUsedQuota => (db.channels.find? n).map (·.usedQuota)

theorem sign_mul_eq_zero (c : Counter) (v : Int) : c.sign * v = 0 ↔ v = 0 := by
  cases c <;> simp [sign]

theorem exists_type (type_ : BatchUpdateType) : ∃ c : Counter, c.type = type_ := by
  cases type_
  exacts [⟨quota, rfl⟩, ⟨remainQuota, rfl⟩, ⟨usedQuota, rfl⟩, ⟨channelUsedQuota, rfl⟩,
    ⟨requestCount, rfl⟩]

theorem isSome_column (c : Counter) (n : Nat) (db : Database) :
    (c.column n db).isSome = c.type.hasRow n db := by
  cases c <;> exact isSome_map

def moved (c : Counter) (type_ : BatchUpdateType) (value : Int) : Int :=
  if c.type = type_ then c.sign * value else 0

section Write

variable {db : Database} {key n : Nat} {d : Int}

theorem map_add_zero_ite (o : Option Int) : o = o.map (· + if key = n then (0 : Int) else 0) := by
  simp

theorem column_updateLiveUser {f : User → User} (hf : ∀ u, (f u).id = u.id)
    (hd : ∀ u, (f u).deleted = u.deleted) {g : User → Int} (hg : ∀ u, g (f u) = g u + d) :
    ((db.updateLiveUser key f hf).liveUser? n).map g =
      ((db.liveUser? n).map g).map (· + if key = n then d else 0) := by
  rw [Database.liveUser?_updateLiveUser hf hd, map_map, map_map]
  congr 1
  funext u
  by_cases h : n = key
  · simp [h, hg]
  · simp [h, Ne.symm h]

theorem column_update {ρ : Type} [Row ρ] {t : Table ρ} {p : ρ → Bool} {f : ρ → ρ}
    (hf : ∀ r, Row.key (f r) = Row.key r) (hp : ∀ r, p r = decide (Row.key r = key)) {g : ρ → Int}
    (hg : ∀ r, g (f r) = g r + d) :
    ((t.update p f hf).find? n).map g =
      ((t.find? n).map g).map (· + if key = n then d else 0) := by
  rw [Table.find?_update, map_map, map_map]
  cases hr : t.find? n with
  | none => rfl
  | some r =>
    have hk : Row.key r = n := (Table.find?_eq_some.1 hr).2
    by_cases h : n = key
    · simp [hp, hk, h, hg]
    · simp [hp, hk, h, Ne.symm h]

theorem column_write (c : Counter) (type_ : BatchUpdateType) (value : Int) :
    c.column n (type_.write key value db) =
      (c.column n db).map (· + if key = n then c.moved type_ value else 0) := by
  cases type_ with
  | userQuota | usedQuota | requestCount =>
    cases c with
    | quota | usedQuota | requestCount =>
      refine column_updateLiveUser _ ?_ ?_
      · exact fun _ => rfl
      · intro u
        simp [moved, type, sign, User.credit]
    | _ => exact map_add_zero_ite _
  | tokenQuota =>
    cases c with
    | remainQuota | tokenUsedQuota =>
      refine column_update ?_ ?_ ?_
      · exact fun _ => rfl
      · exact fun _ => rfl
      · intro t
        simp [moved, type, sign, sub_eq_add_neg]
    | _ => exact map_add_zero_ite _
  | channelUsedQuota =>
    cases c with
    | channelUsedQuota =>
      refine column_update ?_ ?_ ?_
      · exact fun _ => rfl
      · exact fun _ => rfl
      · intro t
        simp [moved, type, sign]
    | _ => exact map_add_zero_ite _

end Write

end Counter

/-! ## Direct mode -/

abbrev BatchRecord := (BatchUpdateType × Nat) × Int

def directMode (db : Database) (log : List BatchRecord) : Database :=
  log.foldl (fun db e => e.1.1.write e.1.2 e.2 db) db

theorem column_directMode (c : Counter) (n : Nat) (log : List BatchRecord) (db : Database) :
    c.column n (directMode db log) =
      (c.column n db).map (· + c.sign * amount (c.type, n) log) := by
  induction log generalizing db with
  | nil =>
    show c.column n db = _
    simp
  | cons e log ih =>
    obtain ⟨⟨type_, key⟩, value⟩ := e
    show c.column n (directMode (type_.write key value db) log) = _
    rw [ih, Counter.column_write, map_map, Tally.amount_cons]
    congr 1
    funext v
    by_cases h : (type_, key) = (c.type, n)
    · obtain ⟨rfl, rfl⟩ := Prod.mk.inj h
      simp only [comp_apply, Counter.moved, if_true]
      ring
    · have h1 : (if key = n then c.moved type_ value else 0) = 0 := by
        split
        next hkey =>
          exact if_neg fun h2 => h (by rw [h2, hkey])
        · rfl
      simp only [comp_apply, h1, if_neg h]
      ring

/-! Without batch mode, used quota and request count move in one statement. -/

theorem updateUserUsedQuotaAndRequestCount_direct (id : Nat) (quota count : Int) (db : Database) :
    db.updateUserUsedQuotaAndRequestCount id quota count =
      directMode db [((.usedQuota, id), quota), ((.requestCount, id), count)] := by
  symm
  refine Database.updateLiveUser_updateLiveUser _ _ ?_
  exact fun _ => rfl

theorem amount_addNewRecord (type_ : BatchUpdateType) (id : Nat) (value : Int)
    (stores : BatchStores) (k : BatchUpdateType × Nat) :
    amount k.2 (addNewRecord type_ id value stores k.1) =
      amount k.2 (stores k.1) + if (type_, id) = k then value else 0 := by
  obtain ⟨type', n⟩ := k
  unfold addNewRecord
  by_cases h : type' = type_
  · subst h
    simp [Tally.amount_add]
  · simp [update_of_ne h, Ne.symm h]

/-! ## Calls and runs as threads -/

/-- A call of `addNewRecord` or a run of `batchUpdate`, between two of its steps. -/
inductive BatchThread
  | record (type_ : BatchUpdateType) (id : Nat) (value : Int)
  /-- Looking for data in the stores of the types that are left. -/
  | checking (types : List BatchUpdateType)
  /-- About to take the stores of the types that are left, one by one. -/
  | taking (types : List BatchUpdateType)
  /-- Holds a store that was taken out and is not all written. -/
  | writing (type_ : BatchUpdateType) (store : List (Nat × Int)) (types : List BatchUpdateType)
  | finished

/-- Which entry the loop over a map meets next, and whether its write fails. -/
structure BatchAct where
  pick : Nat
  fails : Bool

structure BatchState where
  db : Database
  stores : BatchStores
  log : List BatchRecord

namespace BatchThread

def run (t : BatchThread) (a : BatchAct) (s : BatchState) : BatchThread × BatchState :=
  match t with
  | record type_ id value =>
    (finished, { s with
      stores := addNewRecord type_ id value s.stores
      log := s.log ++ [((type_, id), value)] })
  | checking [] => (finished, s)
  | checking (type_ :: types) =>
    (if (s.stores type_).isEmpty then checking types else taking BatchUpdateType.all, s)
  | taking [] => (finished, s)
  | taking (type_ :: types) =>
    (writing type_ (s.stores type_) types,
      { s with stores := Function.update s.stores type_ [] })
  | writing _ [] types => (taking types, s)
  | writing type_ (e :: store) types =>
    match (e :: store)[a.pick]? with
    | none => (t, s)
    | some (key, value) =>
      (writing type_ ((e :: store).eraseIdx a.pick) types,
        { s with db := writeEntry a.fails type_ key value s.db })
  | finished => (finished, s)

def store : BatchThread → List (Nat × Int)
  | writing _ store _ => store
  | _ => []

def taken (t : BatchThread) (k : BatchUpdateType × Nat) : Int :=
  match t with
  | writing type_ store _ => if type_ = k.1 then amount k.2 store else 0
  | _ => 0

def lost (t : BatchThread) (a : BatchAct) (k : BatchUpdateType × Nat) : Int :=
  match t with
  | writing type_ store _ =>
    match store[a.pick]? with
    | some e => if a.fails ∧ (type_, e.1) = k then e.2 else 0
    | none => 0
  | _ => 0

/-- A write fails only for an entry that adds nothing, or whose row does not exist. -/
def lossless (t : BatchThread) (a : BatchAct) (db : Database) : Bool :=
  match t with
  | writing type_ store _ =>
    match store[a.pick]? with
    | some e => !a.fails || e.2 = 0 || !type_.hasRow e.1 db
    | none => true
  | _ => true

theorem taken_of_store {t : BatchThread} (h : t.store = []) (k : BatchUpdateType × Nat) :
    t.taken k = 0 := by
  cases t with
  | writing type_ store types =>
    have hs : store = [] := h
    subst hs
    exact ite_self 0
  | _ => rfl

theorem lossless_iff (t : BatchThread) (a : BatchAct) (db : Database) :
    t.lossless a db = true ↔
      ∀ (c : Counter) (n : Nat), (c.column n db).isSome → t.lost a (c.type, n) = 0 := by
  cases t with
  | writing type_ store types =>
    unfold lossless lost
    dsimp only
    cases he : store[a.pick]? with
    | none => simp
    | some e =>
      simp only [Bool.or_eq_true, Bool.not_eq_true', decide_eq_true_eq]
      constructor
      · intro h c n hrow
        split
        next h1 =>
          obtain ⟨rfl, rfl⟩ := Prod.mk.inj h1.2
          rw [Counter.isSome_column] at hrow
          rcases h with (hf | h2) | h3
          · rw [hf] at h1
            exact absurd h1.1 Bool.false_ne_true
          · exact h2
          · rw [h3] at hrow
            exact absurd hrow Bool.false_ne_true
        · rfl
      · intro h
        obtain ⟨c, rfl⟩ := Counter.exists_type type_
        have hc := h c e.1
        rw [Counter.isSome_column] at hc
        cases hf : a.fails with
        | false => exact .inl (.inl rfl)
        | true =>
          cases hrow : c.type.hasRow e.1 db with
          | false => exact .inr rfl
          | true =>
            refine .inl (.inr ?_)
            simpa [hf] using hc hrow
  | _ => exact ⟨fun _ _ _ _ => rfl, fun _ => rfl⟩

theorem column_writeEntry (c : Counter) (fails : Bool) (type_ : BatchUpdateType) (key n : Nat)
    (value : Int) (db : Database) :
    c.column n (writeEntry fails type_ key value db) =
      (c.column n db).map
        (· + c.sign * if fails = false ∧ (type_, key) = (c.type, n) then value else 0) := by
  unfold writeEntry
  cases fails with
  | true => simp
  | false =>
    rw [if_neg Bool.false_ne_true, Counter.column_write]
    congr 1
    funext v
    by_cases hk : key = n
    · by_cases ht : c.type = type_
      · simp [Counter.moved, hk, ht]
      · simp [Counter.moved, hk, ht, Ne.symm ht]
    · simp [hk]

/-- What was pending, taken or is newly recorded for a type and a row is afterwards pending,
taken, written to the columns, or lost. -/
def Accounted (k : BatchUpdateType × Nat) (t t' : BatchThread) (s s' : BatchState) (lost : Int) :
    Prop :=
  ∃ written : Int,
    (∀ c : Counter, c.type = k.1 →
      c.column k.2 s'.db = (c.column k.2 s.db).map (· + c.sign * written)) ∧
    amount k.2 (s'.stores k.1) + t'.taken k + written + lost =
      amount k.2 (s.stores k.1) + t.taken k + (amount k s'.log - amount k s.log)

variable {type_ : BatchUpdateType}

section Steps

variable {k : BatchUpdateType × Nat} {t t' : BatchThread} {a : BatchAct} {s s' : BatchState}

theorem Accounted.unwritten (hdb : s'.db = s.db)
    (h : amount k.2 (s'.stores k.1) + t'.taken k =
      amount k.2 (s.stores k.1) + t.taken k +
        (amount k s'.log - amount k s.log)) :
    Accounted k t t' s s' 0 := by
  refine ⟨0, ?_, ?_⟩
  · intro c _
    rw [hdb]
    simp
  · omega

theorem Accounted.same (h : t'.taken k = t.taken k) : Accounted k t t' s s 0 := by
  apply Accounted.unwritten rfl
  omega

theorem record_accounted (type_ : BatchUpdateType) (id : Nat) (value : Int) :
    Accounted k (record type_ id value) finished s
      { s with
        stores := addNewRecord type_ id value s.stores
        log := s.log ++ [((type_, id), value)] } 0 := by
  refine .unwritten rfl ?_
  dsimp only [taken]
  rw [amount_addNewRecord, Tally.amount_append, Tally.amount_cons, amount_nil]
  dsimp only
  omega

theorem take_accounted (type_ : BatchUpdateType) (types types' : List BatchUpdateType) :
    Accounted k (taking types) (writing type_ (s.stores type_) types') s
      { s with stores := Function.update s.stores type_ [] } 0 := by
  refine .unwritten rfl ?_
  dsimp only [taken]
  by_cases h : type_ = k.1
  · subst h
    rw [update_self, if_pos rfl, amount_nil]
    omega
  · rw [update_of_ne (Ne.symm h), if_neg h]
    omega

theorem write_accounted {store : List (Nat × Int)}
    {types : List BatchUpdateType} {i key : Nat} {value : Int}
    (hpc : store[i]? = some (key, value)) (fails : Bool) :
    Accounted k (writing type_ store types) (writing type_ (store.eraseIdx i) types) s
      { s with db := writeEntry fails type_ key value s.db }
      (if fails ∧ (type_, key) = k then value else 0) := by
  refine ⟨if fails = false ∧ (type_, key) = k then value else 0, ?_, ?_⟩
  · obtain ⟨type', n⟩ := k
    intro c hc
    subst hc
    exact column_writeEntry c fails type_ key n value s.db
  · obtain ⟨hi, hget⟩ := List.getElem?_eq_some_iff.1 hpc
    have h := Tally.amount_eraseIdx k.2 hi
    rw [hget] at h
    dsimp only [taken] at h ⊢
    rw [h]
    obtain ⟨type', n⟩ := k
    by_cases h1 : type_ = type'
    · by_cases h2 : key = n
      · cases fails <;> simp [h1, h2] <;> omega
      · simp [h1, h2]
    · simp [h1]

/-- **Where a step leaves the amounts it handles.** -/
theorem run_accounted (k : BatchUpdateType × Nat) (t : BatchThread) (a : BatchAct)
    (s : BatchState) : Accounted k t (t.run a s).1 s (t.run a s).2 (t.lost a k) := by
  cases t with
  | record type_ id value => exact record_accounted type_ id value
  | checking types =>
    cases types with
    | nil => exact .same rfl
    | cons type_ types =>
      apply Accounted.same
      show (if (s.stores type_).isEmpty then checking types
        else taking BatchUpdateType.all).taken k = 0
      split <;> rfl
  | taking types =>
    cases types with
    | nil => exact .same rfl
    | cons type_ types => exact take_accounted type_ (type_ :: types) types
  | writing type_ store types =>
    cases store with
    | nil =>
      apply Accounted.same
      exact (taken_of_store (t := writing type_ [] types) rfl k).symm
    | cons e store =>
      unfold run lost
      dsimp only
      cases hpc : (e :: store)[a.pick]? with
      | none => exact .same rfl
      | some entry => exact write_accounted hpc a.fails
  | finished => exact .same rfl

end Steps

/-! ## A run with nothing in between -/

section Alone

variable (fails : BatchUpdateType → Nat → Bool)

def alone (q : BatchThread × BatchState) (a : BatchAct) : BatchThread × BatchState := q.1.run a q.2

theorem alone_writing (type_ : BatchUpdateType) (types : List BatchUpdateType) (s : BatchState)
    (store : List (Nat × Int)) (db : Database) :
    ∃ as, Run.final alone (writing type_ store types, { s with db }) as =
      (taking types, { s with db := writeStore fails type_ store db }) := by
  induction store generalizing db with
  | nil => exact ⟨[⟨0, false⟩], rfl⟩
  | cons e store ih =>
    obtain ⟨key, value⟩ := e
    obtain ⟨as, has⟩ := ih (writeEntry (fails type_ key) type_ key value db)
    exact ⟨⟨0, fails type_ key⟩ :: as, has⟩

variable (s : BatchState) (types : List BatchUpdateType) (stores : BatchStores) (db : Database)

theorem alone_taking :
    ∃ as, Run.final alone (taking types, { s with stores, db }) as =
      (finished, { s with
        stores := (flushStores fails types stores db).1
        db := (flushStores fails types stores db).2 }) := by
  induction types generalizing stores db with
  | nil => exact ⟨[⟨0, false⟩], rfl⟩
  | cons type_ types ih =>
    obtain ⟨as, has⟩ := alone_writing fails type_ types
      { s with stores := Function.update stores type_ [] } (stores type_) db
    obtain ⟨bs, hbs⟩ := ih (Function.update stores type_ [])
      (writeStore fails type_ (stores type_) db)
    refine ⟨⟨0, false⟩ :: (as ++ bs), ?_⟩
    rw [Run.final_cons, Run.final_append]
    exact (congrArg (Run.final alone · bs) has).trans hbs

theorem alone_checking :
    ∃ as, Run.final alone (checking types, s) as =
      if types.any fun type_ => !(s.stores type_).isEmpty then (taking BatchUpdateType.all, s)
      else (finished, s) := by
  induction types with
  | nil => exact ⟨[⟨0, false⟩], rfl⟩
  | cons type_ types ih =>
    obtain ⟨as, has⟩ := ih
    cases h : (s.stores type_).isEmpty with
    | true =>
      refine ⟨⟨0, false⟩ :: as, ?_⟩
      simpa [alone, run, h] using has
    | false =>
      refine ⟨[⟨0, false⟩], ?_⟩
      simp [alone, run, h]

/-- With no other thread in between, the steps of a run are `batchUpdate`. -/
theorem alone_batchUpdate :
    ∃ as, Run.final alone (checking BatchUpdateType.all, s) as =
      (finished, { s with
        stores := (batchUpdate fails s.stores s.db).1
        db := (batchUpdate fails s.stores s.db).2 }) := by
  obtain ⟨as, has⟩ := alone_checking s BatchUpdateType.all
  unfold batchUpdate
  split
  next h =>
    rw [if_pos h] at has
    obtain ⟨bs, hbs⟩ := alone_taking fails s BatchUpdateType.all s.stores s.db
    refine ⟨as ++ bs, ?_⟩
    rw [Run.final_append, has]
    exact hbs
  next h =>
    rw [if_neg h] at has
    exact ⟨as, has⟩

end Alone

end BatchThread

/-! ## Any number of calls and runs -/

section Pool

variable {ι : Type} [Fintype ι] {p : Pool.State ι BatchThread BatchState} {db0 : Database}

/-- What is recorded for a type and a row and not yet in the database: the amount in the store,
and what the runs have taken out. -/
def outstanding (p : Pool.State ι BatchThread BatchState) (k : BatchUpdateType × Nat) : Int :=
  amount k.2 (p.shared.stores k.1) + ∑ j, (p.threads j).taken k

/-- Every stored value and what is outstanding for it are the initial value and everything that
was recorded for it. -/
def Conserved (db0 : Database) (p : Pool.State ι BatchThread BatchState) : Prop :=
  ∀ (c : Counter) (n : Nat),
    (c.column n p.shared.db).map (· + c.sign * outstanding p (c.type, n)) =
      (c.column n db0).map (· + c.sign * amount (c.type, n) p.shared.log)

def Flushed (p : Pool.State ι BatchThread BatchState) : Prop :=
  (∀ type_, p.shared.stores type_ = []) ∧ ∀ j, (p.threads j).store = []

/-- The process starts: the stores are empty and every call and run is still to come. -/
structure BatchStart (p : Pool.State ι BatchThread BatchState) : Prop where
  stores : ∀ type_, p.shared.stores type_ = []
  log : p.shared.log = []
  fresh : ∀ j, (∃ type_ id value, p.threads j = .record type_ id value) ∨
    p.threads j = .checking BatchUpdateType.all

omit [Fintype ι] in
theorem BatchStart.flushed (h : BatchStart p) : Flushed p := by
  refine ⟨h.stores, ?_⟩
  intro j
  rcases h.fresh j with ⟨type_, id, value, hj⟩ | hj
  all_goals
    rw [hj]
    rfl

theorem Flushed.outstanding (h : Flushed p) (k : BatchUpdateType × Nat) : outstanding p k = 0 := by
  unfold Xingkong.outstanding
  rw [h.1 k.1, amount_nil, zero_add]
  exact Finset.sum_eq_zero fun j _ => BatchThread.taken_of_store (h.2 j) k

theorem BatchStart.conserved (h : BatchStart p) : Conserved p.shared.db p := by
  intro c n
  rw [h.flushed.outstanding, h.log]
  rfl

theorem Conserved.column_eq (h : Conserved db0 p) (hf : Flushed p) (c : Counter) (n : Nat) :
    c.column n p.shared.db = c.column n (directMode db0 p.shared.log) := by
  rw [column_directMode, ← h c n, hf.outstanding]
  simp

variable [DecidableEq ι] {x : ι × BatchAct}

theorem Conserved.next_iff (h : Conserved db0 p) :
    Conserved db0 (Pool.next BatchThread.run p x) ↔
      (p.threads x.1).lossless x.2 p.shared.db = true := by
  rw [BatchThread.lossless_iff]
  refine forall_congr' fun c => forall_congr' fun n => ?_
  obtain ⟨written, hcolumn, hsum⟩ :=
    BatchThread.run_accounted (c.type, n) (p.threads x.1) x.2 p.shared
  have hmoved : outstanding (Pool.next BatchThread.run p x) (c.type, n) =
      outstanding p (c.type, n) +
        (amount (c.type, n) (Pool.next BatchThread.run p x).shared.log -
          amount (c.type, n) p.shared.log) -
        written - (p.threads x.1).lost x.2 (c.type, n) := by
    unfold outstanding
    rw [Pool.sum_next fun t => BatchThread.taken t (c.type, n), Pool.next_shared]
    omega
  have hc := h c n
  rw [hmoved, Pool.next_shared, hcolumn c rfl]
  cases hv : c.column n p.shared.db with
  | none =>
    rw [hv, map_none, eq_comm, map_eq_none_iff] at hc
    simp [hc]
  | some v =>
    rw [hv] at hc
    cases hv0 : c.column n db0 with
    | none =>
      rw [hv0] at hc
      cases hc
    | some v0 =>
      rw [hv0, map_some, map_some, some_inj] at hc
      simp only [map_some, some_inj, isSome_some, true_imp_iff]
      rw [← Counter.sign_mul_eq_zero c]
      constructor
      · intro heq
        linear_combination hc - heq
      · intro h
        linear_combination hc - h

/-- **Batch mode refines direct mode as long as no write drops its entry.** In every interleaving
the stored values and what is outstanding add up exactly if each write that fails is of an entry
that adds nothing or has no row. Then a flushed state stores what direct mode stores. -/
theorem batch_mode_refines_direct_mode (hstart : BatchStart p) (as : List (ι × BatchAct)) :
    ((∀ e ∈ Run.trace (Pool.next BatchThread.run) p as, Conserved p.shared.db e.after) ↔
      ∀ e ∈ Run.trace (Pool.next BatchThread.run) p as,
        (e.before.threads e.act.1).lossless e.act.2 e.before.shared.db = true) ∧
    ((∀ e ∈ Run.trace (Pool.next BatchThread.run) p as,
        (e.before.threads e.act.1).lossless e.act.2 e.before.shared.db = true) →
      Flushed (Run.final (Pool.next BatchThread.run) p as) →
      ∀ (c : Counter) (n : Nat),
        c.column n (Run.final (Pool.next BatchThread.run) p as).shared.db =
          c.column n (directMode p.shared.db
            (Run.final (Pool.next BatchThread.run) p as).shared.log)) := by
  have h : ∀ (q : Pool.State ι BatchThread BatchState) (y : ι × BatchAct),
      Conserved p.shared.db q → (Conserved p.shared.db (Pool.next BatchThread.run q y) ↔
        (q.threads y.1).lossless y.2 q.shared.db = true) := fun _ _ hq => hq.next_iff
  refine ⟨Run.forall_after_iff hstart.conserved h, ?_⟩
  intro h1 h2
  have h3 := Run.guarded_final hstart.conserved h1 fun q y hy hq => (h q y hq).2 hy
  exact h3.column_eq h2

end Pool

/-! ## One decrease and one run -/

def batchDb : Database :=
  { Database.empty with
    users := Table.empty.insert
      { id := 0, role := 1, quota := 100, group := "default", email := "", stripeCustomer := ""
        deleted := false } }

def decreaseAndFlush : Pool.State Bool BatchThread BatchState where
  shared := ⟨batchDb, fun _ => [], []⟩
  threads j := if j then .checking BatchUpdateType.all else .record .userQuota 1 (-30)

def upToWrite (fails : Bool) : List (Bool × BatchAct) :=
  [(false, ⟨0, false⟩), (true, ⟨0, false⟩), (true, ⟨0, false⟩), (true, ⟨0, fails⟩)]

theorem decreaseAndFlush_start : BatchStart decreaseAndFlush := by
  refine ⟨fun _ => rfl, rfl, ?_⟩
  intro j
  cases j with
  | false => exact .inl ⟨.userQuota, 1, -30, rfl⟩
  | true => exact .inr rfl

theorem decreaseAndFlush_flushed (fails : Bool) :
    Flushed (Run.final (Pool.next BatchThread.run) decreaseAndFlush (upToWrite fails)) := by
  constructor
  · intro type_
    cases type_ <;> cases fails <;> rfl
  · intro j
    cases j <;> cases fails <;> rfl

/-- With a write that succeeds the sums hold all along, and the user's quota ends as in direct
mode. -/
theorem batch_mode_refines_direct_mode_once :
    (∀ e ∈ Run.trace (Pool.next BatchThread.run) decreaseAndFlush (upToWrite false),
      Conserved batchDb e.after) ∧
    ∀ (c : Counter) (n : Nat),
      c.column n
          (Run.final (Pool.next BatchThread.run) decreaseAndFlush (upToWrite false)).shared.db =
        c.column n (directMode batchDb
          (Run.final (Pool.next BatchThread.run) decreaseAndFlush
            (upToWrite false)).shared.log) := by
  have h1 : ∀ e ∈ Run.trace (Pool.next BatchThread.run) decreaseAndFlush (upToWrite false),
      (e.before.threads e.act.1).lossless e.act.2 e.before.shared.db = true := by
    decide +kernel
  have h := batch_mode_refines_direct_mode decreaseAndFlush_start (upToWrite false)
  exact ⟨h.1.2 h1, h.2 h1 (decreaseAndFlush_flushed false)⟩

/-- The write fails: the entry is gone from the store and from the run, and the quota is still 100
where direct mode has 70. -/
theorem batch_update_lost :
    Flushed (Run.final (Pool.next BatchThread.run) decreaseAndFlush (upToWrite true)) ∧
      ¬ Conserved batchDb
        (Run.final (Pool.next BatchThread.run) decreaseAndFlush (upToWrite true)) ∧
      Counter.quota.column 1
          (Run.final (Pool.next BatchThread.run) decreaseAndFlush (upToWrite true)).shared.db =
        some 100 ∧
      Counter.quota.column 1 (directMode batchDb
          (Run.final (Pool.next BatchThread.run) decreaseAndFlush (upToWrite true)).shared.log) =
        some 70 := by
  have hstored : Counter.quota.column 1
      (Run.final (Pool.next BatchThread.run) decreaseAndFlush (upToWrite true)).shared.db =
      some 100 := by
    decide +kernel
  have h : Counter.quota.column 1 (directMode batchDb
      (Run.final (Pool.next BatchThread.run) decreaseAndFlush (upToWrite true)).shared.log) =
      some 70 := by
    decide +kernel
  refine ⟨decreaseAndFlush_flushed true, ?_, hstored, h⟩
  intro h1
  have heq := h1.column_eq (decreaseAndFlush_flushed true) .quota 1
  rw [hstored, h] at heq
  cases heq

end Xingkong
