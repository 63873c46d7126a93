import Xingkong.Lib.Pool
import Xingkong.Spec.TopUp

/-!
# The Epay webhook and manual completion

Notifications of one Epay order and manual completions of it run in any number of server
processes. A handler takes the lock of its process, reads the order and acts on what it has read.
The webhook saves the new status with one statement and credits the owner in a later
transaction; a manual completion does both in one. Any step may fail, and a handler may stop for
good between any two steps.

Follows `EpayNotify` and `AdminCompleteTopUp` of `controller/topup.go`, from `LockOrder` on: the
webhook answers "success" before it does any of this.
-/

namespace Xingkong

open Rdb

variable {db db' db0 : Database} {cfg : Config} {pc : EpayPc} {o : TopUp}

/-! ## Handlers -/

inductive EpayHandler
  /-- A verified notification of a payment, with the way it was paid. -/
  | notify (paymentType : String)
  | manualComplete
  deriving DecidableEq

inductive EpayPc
  | waiting
  | locked
  /-- A notification has found the order pending; the row to be saved. -/
  | paying (topUp : TopUp)
  /-- The row is saved; the credit comes next. -/
  | crediting (topUp : TopUp)
  /-- A manual completion has read the order. -/
  | completing (topUp : TopUp)
  | finished
  | failed
  | crashed
  deriving DecidableEq

structure EpayThread where
  process : Nat
  handler : EpayHandler
  pc : EpayPc
  deriving DecidableEq

structure EpayWorld where
  db : Database
  locks : Nat → Bool
  credits : Nat

inductive EpayAct
  | acquire
  | read (fails : Bool)
  | save (fails : Bool)
  | credit (now : Int) (faults : List Bool)
  | complete (now : Int) (faults : List Bool)
  /-- The process dies, or the handler panics. -/
  | crash

namespace EpayPc

def holdsLock : EpayPc → Bool
  | locked => true
  | paying _ => true
  | crediting _ => true
  | completing _ => true
  | _ => false

def active : EpayPc → Bool
  | paying _ => true
  | crediting _ => true
  | completing _ => true
  | _ => false

theorem holdsLock_of_active (h : pc.active = true) : pc.holdsLock = true := by
  cases pc <;> first | rfl | cases h

end EpayPc

def EpayHandler.isNotify : EpayHandler → Bool
  | notify _ => true
  | manualComplete => false

def EpayAct.isRead : EpayAct → Bool
  | read _ => true
  | _ => false

namespace EpayThread

def leave (t : EpayThread) (pc : EpayPc) (w : EpayWorld) : EpayThread × EpayWorld :=
  ({ t with pc }, { w with locks := Function.update w.locks t.process false })

def acquire (t : EpayThread) (w : EpayWorld) : EpayThread × EpayWorld :=
  if w.locks t.process then (t, w)
  else ({ t with pc := .locked }, { w with locks := Function.update w.locks t.process true })

/-- A failed read looks like an order that does not exist. -/
def read (tradeNo : String) (fails : Bool) (t : EpayThread) (w : EpayWorld) :
    EpayThread × EpayWorld :=
  match if fails then none else w.db.topUps.first? (·.tradeNo = tradeNo) with
  | none => t.leave .failed w
  | some topUp =>
    match t.handler with
    | .notify paymentType =>
      if topUp.paymentProvider = .epay ∧ topUp.status = .pending then
        ({ t with pc := .paying (topUp.epayPaid paymentType) }, w)
      else t.leave .finished w
    | .manualComplete =>
      if tradeNo = "" then t.leave .failed w else ({ t with pc := .completing topUp }, w)

def save (fails : Bool) (topUp : TopUp) (t : EpayThread) (w : EpayWorld) :
    EpayThread × EpayWorld :=
  if fails then t.leave .failed w
  else ({ t with pc := .crediting topUp },
    { w with db := { w.db with topUps := w.db.topUps.save topUp } })

def credit (cfg : Config) (now : Int) (faults : List Bool) (topUp : TopUp) (t : EpayThread)
    (w : EpayWorld) : EpayThread × EpayWorld :=
  match Tx.transaction (epayCreditTx cfg now topUp) faults w.db with
  | (.ok _, db) => t.leave .finished { w with db, credits := w.credits + 1 }
  | (.error _, db) => t.leave .failed { w with db }

/-- The writes of a manual completion become visible together, when it commits. -/
def complete (cfg : Config) (now : Int) (faults : List Bool) (topUp : TopUp) (t : EpayThread)
    (w : EpayWorld) : EpayThread × EpayWorld :=
  match Tx.transaction (completeByHandTx cfg now topUp) faults w.db with
  | (.ok _, db) =>
    t.leave .finished
      { w with db, credits := w.credits + if topUp.status = .pending then 1 else 0 }
  | (.error _, db) => t.leave .failed { w with db }

/-- An action that the handler is not waiting for does nothing. -/
def run (cfg : Config) (tradeNo : String) (t : EpayThread) (a : EpayAct) (w : EpayWorld) :
    EpayThread × EpayWorld :=
  match t.pc, a with
  | .waiting, .acquire => t.acquire w
  | .locked, .read fails => t.read tradeNo fails w
  | .paying topUp, .save fails => t.save fails topUp w
  | .crediting topUp, .credit now faults => t.credit cfg now faults topUp w
  | .completing topUp, .complete now faults => t.complete cfg now faults topUp w
  | pc, .crash => if pc.holdsLock then t.leave .crashed w else (t, w)
  | _, _ => (t, w)

/-- Between the saved status and the committed credit nothing fails. -/
def goesThrough (cfg : Config) (t : EpayThread) (a : EpayAct) (w : EpayWorld) : Bool :=
  match t.pc, a with
  | .crediting _, .crash => false
  | .crediting topUp, .credit now faults =>
    (Tx.transaction (epayCreditTx cfg now topUp) faults w.db).1.isOk
  | _, _ => true

def stopped (t : EpayThread) : Bool := !t.pc.holdsLock

end EpayThread

/-! ## The order -/

structure TopUp.KeepsOrder (o o' : TopUp) : Prop where
  userId : o'.userId = o.userId
  amount : o'.amount = o.amount
  tradeNo : o'.tradeNo = o.tradeNo
  paymentProvider : o'.paymentProvider = o.paymentProvider

/-- The row of order `o` is now `o'`, and its owner has been credited `n` times since `db0`. -/
structure OrderAt (cfg : Config) (o : TopUp) (db0 : Database) (o' : TopUp) (n : Nat)
    (db : Database) (credits : Nat) : Prop where
  row : db.topUps.first? (·.tradeNo = o.tradeNo) = some o'
  same : o.KeepsOrder o'
  count : credits = n
  live : (db.liveUser? o.userId).isSome = true
  quota : db.userQuota o.userId = db0.userQuota o.userId + n * amountQuota cfg o

/-- Not paid and not credited, or paid and credited once. -/
def AtRest (cfg : Config) (o : TopUp) (db0 : Database) (o' : TopUp) (db : Database)
    (credits : Nat) : Prop :=
  (OrderAt cfg o db0 o' 0 db credits ∧ o'.status = o.status) ∨
    (OrderAt cfg o db0 o' 1 db credits ∧ o'.status = .success)

/-- What a handler that has read the order relies on. -/
def EpayPc.Sound (cfg : Config) (o : TopUp) (db0 db : Database) (credits : Nat) : EpayPc → Prop
  | paying u => o.status = .pending ∧ ∃ o' paymentType, OrderAt cfg o db0 o' 0 db credits ∧
      o'.status = .pending ∧ u = o'.epayPaid paymentType
  | crediting u => OrderAt cfg o db0 u 0 db credits ∧ u.status = .success
  | completing u => AtRest cfg o db0 u db credits
  | _ => True

section Order

variable {o' : TopUp} {n credits : Nat}

theorem TopUp.KeepsOrder.amountQuota (h : o.KeepsOrder o') :
    amountQuota cfg o' = amountQuota cfg o := by
  simp [Xingkong.amountQuota, h.amount]

theorem TopUp.KeepsOrder.manualQuota (h : o.KeepsOrder o') (h1 : o.paymentProvider = .epay) :
    manualQuota cfg o' = Xingkong.amountQuota cfg o := by
  simp [Xingkong.manualQuota, h.paymentProvider, h1, h.amountQuota]

section

variable (h : OrderAt cfg o db0 o' 0 db credits)

include h

theorem OrderAt.succeeded {now : Int} (hprov : o.paymentProvider = .epay)
    (hc : Completion now o' (manualQuota cfg o') (manualQuota cfg o') db db') :
    OrderAt cfg o db0 (o'.succeeded now) 1 db' (credits + 1) := by
  refine ⟨?_, ⟨h.same.userId, h.same.amount, h.same.tradeNo, h.same.paymentProvider⟩,
    by rw [h.count], ?_, ?_⟩
  · rw [hc.topUps]
    exact Table.first?_save h.row rfl (decide_eq_true h.same.tradeNo)
  · rw [hc.live]
    exact h.live
  · rw [hc.userQuota, if_pos ⟨h.same.userId.symm, h.live⟩, h.quota, h.same.manualQuota hprov]
    simp

theorem OrderAt.credited (ht : db'.topUps = db.topUps)
    (hu : db'.users = (db.addUserQuota o'.userId (amountQuota cfg o')).users) :
    OrderAt cfg o db0 o' 1 db' (credits + 1) := by
  refine ⟨by rw [ht]; exact h.row, h.same, by rw [h.count], ?_, ?_⟩
  · rw [Database.liveUser?_congr hu]
    exact (Database.live_addUserQuota _).trans h.live
  · rw [Database.userQuota_congr hu, Database.userQuota_addUserQuota,
      if_pos ⟨h.same.userId.symm, h.live⟩, h.quota, h.same.amountQuota]
    simp

theorem OrderAt.paid {paymentType : String} : OrderAt cfg o db0 (o'.epayPaid paymentType) 0
      { db with topUps := db.topUps.save (o'.epayPaid paymentType) } credits :=
  ⟨Table.first?_save h.row rfl (decide_eq_true h.same.tradeNo),
    ⟨h.same.userId, h.same.amount, h.same.tradeNo, h.same.paymentProvider⟩, h.count, h.live,
    h.quota⟩

end

section

variable (h : AtRest cfg o db0 o' db credits)

include h

theorem AtRest.success_iff (ho : o.status ≠ .success) : o'.status = .success ↔ credits = 1 := by
  rcases h with ⟨hat, h1⟩ | ⟨hat, h1⟩
  · simp [h1, ho, hat.count]
  · simp [h1, hat.count]

theorem AtRest.row : db.topUps.first? (·.tradeNo = o.tradeNo) = some o' := by
  rcases h with ⟨h, _⟩ | ⟨h, _⟩ <;> exact h.row

theorem AtRest.same : o.KeepsOrder o' := by
  rcases h with ⟨h, _⟩ | ⟨h, _⟩ <;> exact h.same

theorem AtRest.quota :
    db.userQuota o.userId = db0.userQuota o.userId + credits * amountQuota cfg o := by
  rcases h with ⟨h, _⟩ | ⟨h, _⟩ <;> rw [h.quota, h.count]

end

theorem EpayPc.Sound.rest (h : pc.Sound cfg o db0 db credits)
    (ha : pc.active = true) (hc : ∀ u, pc ≠ .crediting u) :
    ∃ o', AtRest cfg o db0 o' db credits := by
  cases pc with
  | paying u =>
    obtain ⟨hp, o', _, hat, hp', _⟩ := h
    exact ⟨o', .inl ⟨hat, hp'.trans hp.symm⟩⟩
  | crediting u => exact absurd rfl (hc u)
  | completing u => exact ⟨u, h⟩
  | _ => cases ha

theorem EpayPc.Sound.of_not_active (h : pc.active = false) :
    pc.Sound cfg o db0 db credits := by
  cases pc <;> trivial

end Order

/-! ## One step of a handler -/

/-- What one step of a handler does to its lock, to the order and to the count of credits. -/
structure EpayAdvance (cfg : Config) (o : TopUp) (db0 : Database) (a : EpayAct)
    (t t' : EpayThread) (w w' : EpayWorld) : Prop where
  process : t'.process = t.process
  handler : t'.handler = t.handler
  lock : Pool.LockMove EpayThread.process (fun t => t.pc.holdsLock = true) t t' w.locks w'.locks
  active : t'.pc.active = true → t.pc.active = true ∨ (t.pc = .locked ∧ a.isRead = true)
  idle : t.pc.active = false → w'.db = w.db ∧ w'.credits = w.credits
  sound : t'.pc.Sound cfg o db0 w'.db w'.credits
  rest : t.pc.active = true → (∀ u, t'.pc ≠ .crediting u) →
    ∃ o', AtRest cfg o db0 o' w'.db w'.credits
  credited : w.credits = 1 → w'.credits = 1
  delivered : t'.handler.isNotify = true → t'.pc = .finished →
    t.pc = .finished ∨ (o.status = .pending → w'.credits = 1)

namespace EpayAdvance

variable {a : EpayAct} {t t' : EpayThread} {w w' w1 : EpayWorld}

theorem stay (hs : t.pc.Sound cfg o db0 w.db w.credits) :
    EpayAdvance cfg o db0 a t t w w where
  process := rfl
  handler := rfl
  lock := .keep id rfl
  active := .inl
  idle _ := ⟨rfl, rfl⟩
  sound := hs
  rest := hs.rest
  credited := id
  delivered := fun _ h => .inl h

variable {fails : Bool} {u : TopUp} {now : Int} {faults : List Bool}

theorem leave (hholds : t.pc.holdsLock = true) (hpc : pc.holdsLock = false)
    (hl : w1.locks = w.locks)
    (hid : t.pc.active = false → w1.db = w.db ∧ w1.credits = w.credits)
    (hrest : t.pc.active = true → ∃ o', AtRest cfg o db0 o' w1.db w1.credits)
    (h1 : w.credits = 1 → w1.credits = 1)
    (h2 : t.handler.isNotify = true → pc = .finished → o.status = .pending →
      w1.credits = 1) : EpayAdvance cfg o db0 a t (t.leave pc w1).1 w (t.leave pc w1).2 := by
  have hpc' : pc.active = false := by
    cases h : pc.active with
    | false => rfl
    | true => rw [EpayPc.holdsLock_of_active h] at hpc; cases hpc
  refine ⟨rfl, rfl, .release hholds ?_ ?_, fun h => ?_, hid, .of_not_active hpc',
    fun h _ => hrest h, h1, fun h hf => .inr (h2 h hf)⟩
  · change ¬ pc.holdsLock = true
    rw [hpc]
    nofun
  · change Function.update w1.locks t.process false = _
    rw [hl]
  · change pc.active = true at h
    rw [hpc'] at h
    cases h

theorem abandon (hs : t.pc.Sound cfg o db0 w.db w.credits) (hc : ∀ u, t.pc ≠ .crediting u)
    (h1 : t.pc.holdsLock = true) (hpc : pc = .failed ∨ pc = .crashed) :
    EpayAdvance cfg o db0 a t (t.leave pc w).1 w (t.leave pc w).2 := by
  refine leave h1 ?_ rfl (fun _ => ⟨rfl, rfl⟩) (fun h => hs.rest h hc) id fun _ hf => ?_
  · rcases hpc with rfl | rfl <;> rfl
  · rcases hpc with rfl | rfl <;> cases hf

theorem acquire (hpc : t.pc = .waiting) :
    EpayAdvance cfg o db0 a t (t.acquire w).1 w (t.acquire w).2 := by
  have hid : t.pc.active = false := by rw [hpc]; rfl
  unfold EpayThread.acquire
  split
  · exact stay (.of_not_active hid)
  next hfree =>
    exact ⟨rfl, rfl, .acquire (by simpa using hfree) rfl, nofun, fun _ => ⟨rfl, rfl⟩, trivial,
      fun h => (by rw [hid] at h; cases h), id, nofun⟩

theorem read (hpc : t.pc = .locked) (hprov : o.paymentProvider = .epay)
    (hrest : ∃ o', AtRest cfg o db0 o' w.db w.credits) :
    EpayAdvance cfg o db0 (.read fails) t (t.read o.tradeNo fails w).1 w
      (t.read o.tradeNo fails w).2 := by
  have hid : t.pc.active = false := by rw [hpc]; rfl
  have hholds : t.pc.holdsLock = true := by rw [hpc]; rfl
  have hgive : EpayAdvance cfg o db0 (.read fails) t (t.leave .failed w).1 w
      (t.leave .failed w).2 :=
    abandon (.of_not_active hid) (by simp [hpc]) hholds (.inl rfl)
  -- the order is at rest, so the row read is the row of the invariant
  obtain ⟨o', hrest⟩ := hrest
  have hsees : ∀ pc : EpayPc, pc.holdsLock = true → pc.Sound cfg o db0 w.db w.credits →
      EpayAdvance cfg o db0 (.read fails) t { t with pc } w w := fun pc hl hs =>
    ⟨rfl, rfl, .keep (fun _ => hholds) rfl, fun _ => .inr ⟨hpc, rfl⟩, fun _ => ⟨rfl, rfl⟩, hs,
      fun h => (by rw [hid] at h; cases h), id, fun _ h => by subst h; cases hl⟩
  unfold EpayThread.read
  cases fails with
  | true => exact hgive
  | false =>
    rw [if_neg nofun, hrest.row]
    dsimp only
    split
    · split
      next h1 =>
        refine hsees _ rfl ?_
        rcases hrest with ⟨h, h2⟩ | ⟨_, h2⟩
        · exact ⟨h2.symm.trans h1.2, o', _, h, h1.2, rfl⟩
        · rw [h2] at h1
          cases h1.2
      next hnot =>
        refine leave hholds rfl rfl (fun _ => ⟨rfl, rfl⟩)
          (fun h => by rw [hid] at h; cases h) id fun _ _ hp => ?_
        rcases id hrest with ⟨_, h2⟩ | ⟨h, _⟩
        · exact absurd ⟨hrest.same.paymentProvider.trans hprov, h2.trans hp⟩ hnot
        · exact h.count
    · split
      · exact hgive
      · exact hsees _ rfl hrest

theorem save (hpc : t.pc = .paying u) (hs : t.pc.Sound cfg o db0 w.db w.credits) :
    EpayAdvance cfg o db0 a t (t.save fails u w).1 w (t.save fails u w).2 := by
  have h1 : t.pc.holdsLock = true := by rw [hpc]; rfl
  have h2 : t.pc.active = true := by rw [hpc]; rfl
  unfold EpayThread.save
  split
  · exact abandon hs (by simp [hpc]) h1 (.inl rfl)
  · rw [hpc] at hs
    obtain ⟨_, o', paymentType, hat, _, rfl⟩ := hs
    exact ⟨rfl, rfl, .keep (fun _ => h1) rfl, fun _ => .inl h2,
      fun h => (by rw [h2] at h; cases h), ⟨hat.paid, rfl⟩, fun _ h => absurd rfl (h _), id,
      nofun⟩

theorem credit (hpc : t.pc = .crediting u) (hs : t.pc.Sound cfg o db0 w.db w.credits)
    (hok : (Tx.transaction (epayCreditTx cfg now u) faults w.db).1.isOk = true) :
    EpayAdvance cfg o db0 a t (t.credit cfg now faults u w).1 w
    (t.credit cfg now faults u w).2 := by
  rw [hpc] at hs
  obtain ⟨hat, h1⟩ := hs
  have h2 : t.pc.active = true := by rw [hpc]; rfl
  unfold EpayThread.credit
  rcases Tx.transaction_cases (epayCreditTx cfg now u) faults w.db with
    ⟨_, db', he, h3⟩ | ⟨e, he⟩
  · obtain ⟨ht, hu⟩ := epayCreditTx_ok h3
    have hat' := hat.credited ht hu
    rw [he]
    exact leave (by rw [hpc]; rfl) rfl rfl (fun h => by rw [h2] at h; cases h)
      (fun _ => ⟨u, .inr ⟨hat', h1⟩⟩) (fun _ => hat'.count) fun _ _ _ => hat'.count
  · rw [he] at hok
    cases hok

theorem complete (hpc : t.pc = .completing u) (hprov : o.paymentProvider = .epay)
    (hs : t.pc.Sound cfg o db0 w.db w.credits) :
    EpayAdvance cfg o db0 a t (t.complete cfg now faults u w).1 w
      (t.complete cfg now faults u w).2 := by
  have hheld : t.pc.holdsLock = true := by rw [hpc]; rfl
  have hactive : t.pc.active = true := by rw [hpc]; rfl
  unfold EpayThread.complete
  rcases Tx.transaction_cases (completeByHandTx cfg now u) faults w.db with
    ⟨_, db', he, hbody⟩ | ⟨e, he⟩
  · rw [he]
    rw [hpc] at hs
    have hend : ∀ (n : Nat) (o' : TopUp), AtRest cfg o db0 o' db' n → o'.status = .success →
        (w.credits = 1 → n = 1) →
        EpayAdvance cfg o db0 a t (t.leave .finished { w with db := db', credits := n }).1 w
          (t.leave .finished { w with db := db', credits := n }).2 := fun n o' hr h1 hn =>
      leave hheld rfl rfl (fun h => by rw [hactive] at h; cases h) (fun _ => ⟨o', hr⟩) hn
        fun _ _ hp => (hr.success_iff (by rw [hp]; nofun)).1 h1
    rcases completeByHandTx_ok hbody with ⟨h1, rfl⟩ | ⟨h1, hc⟩
    · refine hend _ u ?_ h1 fun h => by rw [h, h1]; rfl
      rw [h1]
      exact hs
    · rcases hs with ⟨hat, _⟩ | ⟨_, h2⟩
      · have hat' := hat.succeeded hprov hc
        refine hend _ (u.succeeded now) ?_ rfl fun h => ?_
        · rw [if_pos h1]
          exact .inr ⟨hat', rfl⟩
        · rw [hat.count] at h
          cases h
      · rw [h1] at h2
        cases h2
  · rw [he]
    exact abandon hs (by simp [hpc]) hheld (.inl rfl)

theorem run (hprov : o.paymentProvider = .epay) (hs : t.pc.Sound cfg o db0 w.db w.credits)
    (hrest : t.pc = .locked → a.isRead = true → ∃ o', AtRest cfg o db0 o' w.db w.credits)
    (hthrough : t.goesThrough cfg a w = true) :
    EpayAdvance cfg o db0 a t (t.run cfg o.tradeNo a w).1 w (t.run cfg o.tradeNo a w).2 := by
  unfold EpayThread.run
  split
  next hpc =>
    exact acquire hpc
  next hpc =>
    exact read hpc hprov (hrest hpc rfl)
  next hpc =>
    exact save hpc hs
  next hpc =>
    refine credit hpc hs ?_
    simpa only [EpayThread.goesThrough, hpc] using hthrough
  next hpc =>
    exact complete hpc hprov hs
  · split
    · refine abandon hs (fun u hpc => ?_) ‹_› (.inr rfl)
      simp only [EpayThread.goesThrough, hpc] at hthrough
      cases hthrough
    · exact stay hs
  · exact stay hs

end EpayAdvance

/-! ## All handlers -/

section System

variable {ι : Type}

/-- **What the handlers rely on**: an order is read while no handler of another process is
between its read and its end, and nothing fails between the saved status and the credit. -/
structure EpayUndisturbed (cfg : Config) (p : Pool.State ι EpayThread EpayWorld)
    (x : ι × EpayAct) : Prop where
  alone : (p.threads x.1).pc = .locked → x.2.isRead = true →
    ∀ j, (p.threads j).process ≠ (p.threads x.1).process → (p.threads j).pc.active = false
  through : (p.threads x.1).goesThrough cfg x.2 p.shared = true

instance [Fintype ι] (p : Pool.State ι EpayThread EpayWorld) (x : ι × EpayAct) :
    Decidable (EpayUndisturbed cfg p x) :=
  decidable_of_iff (_ ∧ _) ⟨fun h => ⟨h.1, h.2⟩, fun h => ⟨h.1, h.2⟩⟩

structure EpayInv (cfg : Config) (o : TopUp) (db0 : Database)
    (p : Pool.State ι EpayThread EpayWorld) : Prop where
  lock : Pool.Exclusive EpayThread.process (fun t => t.pc.holdsLock = true) EpayWorld.locks p
  one : ∀ i j, (p.threads i).pc.active = true → (p.threads j).pc.active = true → i = j
  sound : ∀ i, (p.threads i).pc.Sound cfg o db0 p.shared.db p.shared.credits
  rest : (∀ i u, (p.threads i).pc ≠ .crediting u) →
    ∃ o', AtRest cfg o db0 o' p.shared.db p.shared.credits
  delivered : ∀ i, (p.threads i).handler.isNotify = true → (p.threads i).pc = .finished →
    o.status = .pending → p.shared.credits = 1

namespace EpayInv

variable {p : Pool.State ι EpayThread EpayWorld} {x : ι × EpayAct}

/-- Nobody acts on the order when it is read: in the same process because of the lock, in the
others by assumption. -/
theorem idle_of_read (h : EpayInv cfg o db0 p) (hu : EpayUndisturbed cfg p x)
    (hpc : (p.threads x.1).pc = .locked) (h1 : x.2.isRead = true) (j : ι) :
    (p.threads j).pc.active = false := by
  by_contra hj
  have hj : (p.threads j).pc.active = true := by simpa using hj
  by_cases hg : (p.threads j).process = (p.threads x.1).process
  · have hx : (p.threads x.1).pc.holdsLock = true := by rw [hpc]; rfl
    rw [h.lock.one j x.1 (EpayPc.holdsLock_of_active hj) hx hg, hpc] at hj
    cases hj
  · rw [hu.alone hpc h1 j hg] at hj
    cases hj

theorem advance (h : EpayInv cfg o db0 p) (h1 : o.paymentProvider = .epay)
    (hu : EpayUndisturbed cfg p x) :
    EpayAdvance cfg o db0 x.2 (p.threads x.1)
      ((p.threads x.1).run cfg o.tradeNo x.2 p.shared).1 p.shared
      ((p.threads x.1).run cfg o.tradeNo x.2 p.shared).2 := by
  refine .run h1 (h.sound x.1) (fun hpc h1 => h.rest fun j u hj => ?_) hu.through
  have hid := h.idle_of_read hu hpc h1 j
  rw [hj] at hid
  cases hid

variable [DecidableEq ι]

theorem next (h : EpayInv cfg o db0 p) (h1 : o.paymentProvider = .epay)
    (hu : EpayUndisturbed cfg p x) :
    EpayInv cfg o db0 (Pool.next (EpayThread.run cfg o.tradeNo) p x) := by
  have hadv := h.advance h1 hu
  constructor
  · exact h.lock.next hadv.process hadv.lock
  · refine Pool.one_next (K := fun t : EpayThread => t.pc.active = true) h.one fun ha => ?_
    rcases hadv.active ha with hold | ⟨hpc, h1⟩
    · exact .inl hold
    · exact .inr fun j _ hj => by rw [h.idle_of_read hu hpc h1 j] at hj; cases hj
  · refine Pool.forall_next
      (L := fun (w : EpayWorld) _ (t : EpayThread) => t.pc.Sound cfg o db0 w.db w.credits)
      hadv.sound fun j hj => ?_
    -- either the order was left alone or nobody else relies on it
    cases hx : (p.threads x.1).pc.active with
    | true =>
      refine .of_not_active (Bool.eq_false_iff.2 fun hj' => ?_)
      exact hj (h.one j x.1 hj' hx)
    | false =>
      rw [Pool.next_shared, (hadv.idle hx).1, (hadv.idle hx).2]
      exact h.sound j
  · intro hnone
    have hown := hnone x.1
    rw [Pool.next_own] at hown
    cases hx : (p.threads x.1).pc.active with
    | true => exact hadv.rest hx hown
    | false =>
      rw [Pool.next_shared, (hadv.idle hx).1, (hadv.idle hx).2]
      refine h.rest fun j u hj => ?_
      by_cases hjx : j = x.1
      · rw [hjx] at hj
        rw [hj] at hx
        cases hx
      · exact hnone j u ((Pool.next_other hjx).symm ▸ hj)
  · refine Pool.forall_next
      (L := fun (w : EpayWorld) _ (t : EpayThread) => t.handler.isNotify = true →
        t.pc = .finished → o.status = .pending → w.credits = 1)
      (fun hn hf hp => ?_) fun j _ hn hf hp => hadv.credited (h.delivered j hn hf hp)
    rcases hadv.delivered hn hf with hold | hnew
    · exact hadv.credited (h.delivered x.1 (hadv.handler ▸ hn) hold hp)
    · exact hnew hp

end EpayInv

def epayStart (db : Database) (calls : ι → Nat × EpayHandler) :
    Pool.State ι EpayThread EpayWorld where
  shared := { db, locks := fun _ => false, credits := 0 }
  threads i := { process := (calls i).1, handler := (calls i).2, pc := .waiting }

theorem epayStart_inv (calls : ι → Nat × EpayHandler)
    (hrow : db0.topUps.first? (·.tradeNo = o.tradeNo) = some o)
    (hlive : (db0.liveUser? o.userId).isSome = true) :
    EpayInv cfg o db0 (epayStart db0 calls) where
  lock := ⟨nofun, nofun⟩
  one := nofun
  sound _ := trivial
  rest _ := ⟨o, .inl ⟨⟨hrow, ⟨rfl, rfl, rfl, rfl⟩, rfl, hlive, by simp [epayStart]⟩, rfl⟩⟩
  delivered := nofun

variable [DecidableEq ι]

def epayNext (cfg : Config) (tradeNo : String) :
    Pool.State ι EpayThread EpayWorld → ι × EpayAct → Pool.State ι EpayThread EpayWorld :=
  Pool.next (EpayThread.run cfg tradeNo)

/-- **An order that is read by one handler at a time and whose credit goes through is in status
success exactly if it was credited once**, and is, once a notification of it has finished. -/
theorem epay_order_credited_once (cfg : Config) (o : TopUp) (db0 : Database)
    (calls : ι → Nat × EpayHandler) (acts : List (ι × EpayAct))
    (hrow : db0.topUps.first? (·.tradeNo = o.tradeNo) = some o)
    (hprov : o.paymentProvider = .epay) (hopen : o.status ≠ .success)
    (hlive : (db0.liveUser? o.userId).isSome = true)
    (hundisturbed : ∀ e ∈ Run.trace (epayNext cfg o.tradeNo) (epayStart db0 calls) acts,
      EpayUndisturbed cfg e.before e.act)
    (hstopped : ∀ i,
      ((Run.final (epayNext cfg o.tradeNo) (epayStart db0 calls) acts).threads i).stopped = true) :
    let p := Run.final (epayNext cfg o.tradeNo) (epayStart db0 calls) acts
    (∃ o', p.shared.db.topUps.first? (·.tradeNo = o.tradeNo) = some o' ∧
      (o'.status = .success ↔ p.shared.credits = 1)) ∧
    p.shared.db.userQuota o.userId =
      db0.userQuota o.userId + p.shared.credits * amountQuota cfg o ∧
    (o.status = .pending →
      (∃ i, (p.threads i).handler.isNotify = true ∧ (p.threads i).pc = .finished) →
        p.shared.credits = 1) := by
  intro p
  have hinv : EpayInv cfg o db0 p :=
    Run.guarded_final (epayStart_inv calls hrow hlive) hundisturbed
      fun _ _ hu h => h.next hprov hu
  obtain ⟨o', hrest⟩ := hinv.rest fun i u hpc => by
    have hs : (p.threads i).stopped = true := hstopped i
    rw [EpayThread.stopped, hpc] at hs
    cases hs
  refine ⟨⟨o', hrest.row, hrest.success_iff hopen⟩, hrest.quota, ?_⟩
  rintro hp ⟨i, hn, hf⟩
  exact hinv.delivered i hn hf hp

end System

/-! ## Two handlers -/

def epayOrder : TopUp :=
  { id := 1, userId := 1, amount := 10, money := 10, paymentFeeCNY := 1, tradeNo := "T"
    paymentMethod := "alipay", paymentProvider := .epay, createTime := 0, completeTime := 0
    status := .pending }

def epayDb : Database :=
  { Database.empty with
    users := Table.empty.insert
      { id := 1, role := 1, quota := 0, group := "default", email := "", stripeCustomer := ""
        deleted := false }
    topUps := Table.empty.insert epayOrder }

def notifyAnd (process : Nat) (handler : EpayHandler) (b : Bool) : Nat × EpayHandler :=
  if b then (process, handler) else (0, .notify "alipay")

def afterHandlers (process : Nat) (handler : EpayHandler) (acts : List (Bool × EpayAct)) :
    Pool.State Bool EpayThread EpayWorld :=
  Run.final (epayNext .fresh "T") (epayStart epayDb (notifyAnd process handler)) acts

def notifySteps (i : Bool) : List (Bool × EpayAct) :=
  [(i, .acquire), (i, .read false), (i, .save false), (i, .credit 5 [])]

def manualSteps (i : Bool) : List (Bool × EpayAct) :=
  [(i, .acquire), (i, .read false), (i, .complete 5 [])]

theorem epay_order_credited_once_then_manual :
    (afterHandlers 1 .manualComplete (notifySteps false ++ manualSteps true)).shared.credits = 1 :=
  (epay_order_credited_once .fresh epayOrder epayDb (notifyAnd 1 .manualComplete)
    (notifySteps false ++ manualSteps true) (by decide +kernel) rfl (by decide)
    (by decide +kernel) (by decide +kernel) (by decide +kernel)).2.2 rfl
    ⟨false, by decide +kernel⟩

/-- A notification that dies after it has saved the status leaves the order paid and nobody
credited; a manual completion in another process between the read and the write of a notification
credits the owner twice. -/
theorem epay_order_credited_never_or_twice :
    (let p := afterHandlers 0 (.notify "alipay")
      ((notifySteps false).take 3 ++ [(false, .crash)] ++ notifySteps true)
     (∀ i, (p.threads i).stopped = true) ∧ (p.threads true).pc = .finished ∧
      (p.shared.db.topUps.first? (·.tradeNo = "T")).map (·.status) = some .success ∧
      p.shared.credits = 0 ∧ p.shared.db.userQuota 1 = 0) ∧
    (let p := afterHandlers 1 .manualComplete
      ((notifySteps false).take 2 ++ manualSteps true ++ (notifySteps false).drop 2)
     (∀ i, (p.threads i).stopped = true) ∧ (p.threads false).pc = .finished ∧
      (p.shared.db.topUps.first? (·.tradeNo = "T")).map (·.status) = some .success ∧
      p.shared.credits = 2 ∧ p.shared.db.userQuota 1 = 2 * amountQuota .fresh epayOrder) := by
  decide +kernel

end Xingkong
