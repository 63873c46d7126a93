import Xingkong.Lib.Run
import Xingkong.Spec.BillingSession

/-!
# The life of a billing session

After a successful pre-consumption a session takes any number of calls: reserve more, settle,
refund, and the refund's goroutine. Any statement of any of them may fail. What the session has
taken from its funding source and from its token is, in every state it can reach, what its
outcome says: the pre-consumed quota while it is open, the actual quota once it is settled,
nothing once it is completely refunded.
-/

namespace Xingkong

open Rdb
open Accounts (token billed paid addToken addWallet addUsed note wallet used)

variable {a0 : Accounts} {db db' : Database} {cfg : Config} {s : BillingSession} {w : BillingWorld}
  {step : BillingStep} {env : CallEnv}

/-! ## Calls -/

inductive BillingStep
  | reserve (env : CallEnv) (targetQuota : Int)
  | settle (env : CallEnv) (actualQuota : Int)
  | refund
  /-- The goroutine of an effective refund runs. -/
  | runRefund (env : JobEnv)

inductive BillingOutcome
  | pending
  /-- `Settle(actual)` returned with the funding step done; `token` is what it answered. -/
  | settled (actual : Int) (token : Except Err Unit)
  /-- `Refund` took effect; its goroutine has not run. -/
  | refunding (job : RefundJob)
  | refunded (report : RefundReport)

structure BillingWorld where
  session : BillingSession
  db : Database
  outcome : BillingOutcome

namespace BillingWorld

def settle (cfg : Config) (env : CallEnv) (actual : Int) (w : BillingWorld) : BillingWorld :=
  let r := w.session.settle cfg env actual w.db
  { session := r.2.1, db := r.2.2
    outcome := if !w.session.settled && r.2.1.settled then .settled actual r.1 else w.outcome }

def refund (w : BillingWorld) : BillingWorld :=
  match w.session.refund with
  | (s, none) => { w with session := s }
  | (s, some job) => { w with session := s, outcome := .refunding job }

def runRefund (cfg : Config) (env : JobEnv) (w : BillingWorld) : BillingWorld :=
  match w.outcome with
  | .refunding job =>
    let r := job.run cfg env w.db
    { w with db := r.2, outcome := .refunded r.1 }
  | _ => w

def next (cfg : Config) (w : BillingWorld) : BillingStep → BillingWorld
  | .reserve env target =>
    let r := w.session.reserve cfg env target w.db
    { w with session := r.2.1, db := r.2.2 }
  | .settle env actual => w.settle cfg env actual
  | .refund => w.refund
  | .runRefund env => w.runRefund cfg env

end BillingWorld

/-! ## What a session owes -/

namespace BillingWorld

def fundingDue (a0 : Accounts) (w : BillingWorld) : Int :=
  match w.outcome with
  | .pending => w.session.preConsumedQuota
  | .settled actual _ => w.session.funding.land a0 actual
  | .refunding _ => w.session.preConsumedQuota
  | .refunded report =>
    unreturned report.funding w.session.ownPart + unreturned report.extra w.session.extraPart

def quotaDue (w : BillingWorld) : Int :=
  match w.outcome with
  | .pending => w.session.preConsumedQuota
  | .settled actual token => settledQuota token actual w.session.preConsumedQuota
  | .refunding _ => w.session.preConsumedQuota
  | .refunded report => unreturned report.token w.session.preConsumedQuota

def tokenDue (w : BillingWorld) : Int := w.session.relayInfo.tokenShare w.quotaDue

end BillingWorld

namespace BillingWorld

def recordStatus (w : BillingWorld) : PreConsumeStatus :=
  match w.outcome with
  | .refunded report => BillingSession.recordStatus report.funding
  | _ => .consumed

def Phase (a0 : Accounts) (w : BillingWorld) : Prop :=
  match w.outcome with
  | .pending => w.session.Live ∧ w.session.Held a0
  | .settled _ _ => w.session.settled = true
  | .refunding job =>
    w.session.settled = false ∧ w.session.refunded = true ∧ w.session.Held a0 ∧
      job = w.session.refundJob
  | .refunded _ => w.session.settled = false ∧ w.session.refunded = true

/-- The accounts are those at the start, less what the session owes. -/
structure Sound (a0 : Accounts) (w : BillingWorld) : Prop where
  phase : w.Phase a0
  balance : w.db.accounts = a0.billed w.recordStatus w.session (w.fundingDue a0) w.tokenDue

/-- The calls of a run: a failed reservation can be undone, and nothing is settled after a
refund took effect. -/
def Allowed (cfg : Config) (w : BillingWorld) : BillingStep → Prop
  | .reserve env target =>
    w.session.ReserveRollbackOk cfg env (target - w.session.preConsumedQuota) w.db
  | .settle _ _ => w.session.refunded = false
  | .refund => True
  | .runRefund _ => True

theorem Sound.open (h : Sound a0 ⟨s, db, .pending⟩) : s.Open a0 db :=
  ⟨h.phase.1, h.phase.2, h.balance⟩

theorem sound_of_open (h : s.Open a0 db) : Sound a0 ⟨s, db, .pending⟩ :=
  ⟨⟨h.live, h.held⟩, h.balance⟩

/-! ## Steps -/

theorem Phase.closed (h : w.Phase a0) (ho : w.outcome ≠ .pending) :
    w.session.settled = true ∨ w.session.refunded = true := by
  obtain ⟨s, db, o⟩ := w
  cases o with
  | pending => exact absurd rfl ho
  | settled _ _ => exact .inl h
  | refunding _ => exact .inr h.2.1
  | refunded _ => exact .inr h.2

/-- **After the session has ended, reserving, settling and refunding change nothing.** -/
theorem Sound.quiet (h : w.Sound a0) (ho : w.outcome ≠ .pending) (hok : w.Allowed cfg step)
    (hrun : ∀ env, step ≠ .runRefund env) : w.next cfg step = w := by
  have hclosed := h.phase.closed ho
  cases step with
  | reserve env target =>
    have hskip : w.session.reserve cfg env target w.db = (.ok (), w.session, w.db) := by
      unfold BillingSession.reserve
      rcases hclosed with hs | hr <;> simp [*]
    simp only [next, hskip]
  | settle env actual =>
    have hs : w.session.settled = true := hclosed.resolve_right (by simp [show
      w.session.refunded = false from hok])
    have hskip : w.session.settle cfg env actual w.db = (.ok (), w.session, w.db) := by
      unfold BillingSession.settle
      rw [if_pos hs]
    simp [next, settle, hskip]
  | refund =>
    have hskip : w.session.refund = (w.session, none) := by
      unfold BillingSession.refund
      rcases hclosed with hs | hr <;> simp [*]
    simp only [next, refund, hskip]
  | runRefund env => exact absurd rfl (hrun env)

theorem Sound.runRefund (h : w.Sound a0) (env : JobEnv) : (w.runRefund cfg env).Sound a0 := by
  obtain ⟨s, db, o⟩ := w
  cases o with
  | pending | settled _ _ | refunded _ => exact h
  | refunding job =>
    obtain ⟨hs, hr, h1, hjob⟩ := h.phase
    have h2 := h.balance
    obtain rfl : job = s.refundJob := hjob
    exact ⟨⟨hs, hr⟩, h1.runRefund h2 cfg env⟩

end BillingWorld

open BillingWorld (sound_of_open fundingDue tokenDue quotaDue)

namespace BillingSession

theorem Open.reserve_sound {target : Int} (h : s.Open a0 db)
    (h1 : s.ReserveRollbackOk cfg env (target - s.preConsumedQuota) db) :
    BillingWorld.Sound a0 ⟨(s.reserve cfg env target db).2.1, (s.reserve cfg env target db).2.2,
        .pending⟩ ∧
      ∀ e, (s.reserve cfg env target db).1 = .error e →
        (s.reserve cfg env target db).2.2.accounts = db.accounts := by
  unfold reserve
  split
  · exact ⟨sound_of_open h, fun _ _ => rfl⟩
  next hc =>
    simp only [Bool.or_eq_true, decide_eq_true_eq] at hc
    rcases h.reserveBy (by omega) h1 with ⟨e, db', hr, hacc⟩ | ⟨s', db', hr, hopen⟩
    · rw [hr]
      exact ⟨sound_of_open ⟨h.live, h.held, hacc.trans h.balance⟩, fun _ _ => hacc⟩
    · rw [hr]
      exact ⟨sound_of_open hopen, fun _ he => by cases he⟩

theorem Open.settle_sound {actual : Int} (h : s.Open a0 db) :
    (BillingWorld.settle cfg env actual ⟨s, db, .pending⟩).Sound a0 := by
  unfold BillingWorld.settle
  rcases h.settle cfg env actual with ⟨e, hr⟩ | ⟨r, s', db', hr, hs, hq, hf, ht, hp, hacc⟩
  · simp only [hr, Bool.not_and_self]
    exact sound_of_open h
  · simp only [hr, hs, h.live.settled]
    refine ⟨hs, hacc.trans ?_⟩
    simp only [fundingDue, tokenDue, quotaDue, RelayInfo.tokenShare, hq, hp, hf]
    exact (Accounts.billed_congr (d := 0) (by rw [hf, FundingSource.addConsumed_zero]) ht).symm

theorem Open.refund_sound (h : s.Open a0 db) :
    (BillingWorld.refund ⟨s, db, .pending⟩).Sound a0 := by
  unfold BillingWorld.refund refund
  split
  next s' hr =>
    split at hr
    · cases hr
      exact sound_of_open h
    · cases hr
  next s' job hr =>
    split at hr
    · cases hr
    · cases hr
      refine ⟨⟨h.live.settled, rfl, ?_, rfl⟩, h.balance⟩
      exact ⟨h.held.backed, h.held.counted, h.held.issued, h.held.quota, h.held.token,
        h.held.extra, h.held.consumed, h.held.reserved⟩

end BillingSession

namespace BillingWorld

/-- **Every allowed call keeps the accounts in step with the session.** -/
theorem Sound.next (h : w.Sound a0) (hok : w.Allowed cfg step) :
    (w.next cfg step).Sound a0 := by
  by_cases ho : w.outcome = .pending
  · obtain ⟨s, db, o⟩ := w
    obtain rfl : o = .pending := ho
    cases step with
    | reserve env target => exact (h.open.reserve_sound hok).1
    | settle env actual => exact h.open.settle_sound
    | refund => exact h.open.refund_sound
    | runRefund env => exact h
  · cases step with
    | runRefund env => exact h.runRefund env
    | _ =>
      rw [h.quiet ho hok fun _ he => by cases he]; exact h

end BillingWorld

/-! ## What has been taken -/

def FundingSource.taken (db₀ db : Database) : FundingSource → Int
  | .wallet userId _ => db₀.spendable userId - db.spendable userId
  | .subscription f => db.amountUsed f.subscriptionId - db₀.amountUsed f.subscriptionId

def BillingSession.tokenTaken (db₀ db : Database) (s : BillingSession) : Int :=
  db₀.tokenSpendable s.relayInfo.tokenId - db.tokenSpendable s.relayInfo.tokenId

namespace BillingWorld

/-- The session has taken exactly what its outcome says. -/
def Net (db₀ : Database) (w : BillingWorld) : Prop :=
  w.session.funding.taken db₀ w.db = w.fundingDue db₀.accounts ∧
    w.session.tokenTaken db₀ w.db = w.tokenDue

theorem Sound.net {db0 : Database} (h : w.Sound db0.accounts) : w.Net db0 := by
  have hbalance := h.balance
  unfold Net BillingSession.tokenTaken
  generalize w.fundingDue db0.accounts = x at hbalance ⊢
  generalize w.tokenDue = y at hbalance ⊢
  have ht : w.db.tokenSpendable w.session.relayInfo.tokenId =
      db0.tokenSpendable w.session.relayInfo.tokenId + -y := by
    refine (congrFun (congrArg token hbalance) _).trans ?_
    unfold billed
    cases w.session.funding <;>
      simp [paid, addToken, addWallet, addUsed, note, Database.accounts]
  refine ⟨?_, by omega⟩
  unfold billed at hbalance
  cases hf : w.session.funding with
  | wallet u c =>
    have hw := congrFun (congrArg wallet hbalance) u
    simp only [hf, paid, addToken, addWallet, Function.update_self, Database.accounts] at hw
    simp only [FundingSource.taken]
    omega
  | subscription f =>
    have hw := congrFun (congrArg used hbalance) f.subscriptionId
    simp only [hf, paid, addToken, addUsed, note, Function.update_self, Database.accounts] at hw
    simp only [FundingSource.taken]
    omega

/-- A failed reservation moves no account, and a session that has ended stays as it is. -/
def Inert (cfg : Config) (e : Run.Ev BillingWorld BillingStep) : Prop :=
  (∀ env target err, e.act = .reserve env target →
      (e.before.session.reserve cfg env target e.before.db).1 = .error err →
      e.after.db.accounts = e.before.db.accounts) ∧
    (e.before.outcome ≠ .pending → (∀ env, e.act ≠ .runRefund env) → e.after = e.before)

theorem Sound.inert (h : w.Sound a0)
    (hok : w.Allowed cfg step) : Inert cfg ⟨w, step, w.next cfg step⟩ := by
  refine ⟨fun env target err hact herr => ?_, fun ho hrun => h.quiet ho hok hrun⟩
  obtain rfl : step = .reserve env target := hact
  by_cases ho : w.outcome = .pending
  · obtain ⟨s, db, o⟩ := w
    obtain rfl : o = .pending := ho
    exact (h.open.reserve_sound hok).2 err herr
  · exact congrArg (·.db.accounts) (h.quiet ho hok fun _ he => by cases he)

def openAndRun (cfg : Config) (env : CallEnv) (quota : Int) (s0 : BillingSession) (db₀ : Database)
    (steps : List BillingStep) : BillingWorld :=
  Run.final (next cfg) ⟨(s0.preConsume cfg env quota db₀).2.1,
    (s0.preConsume cfg env quota db₀).2.2, .pending⟩ steps

end BillingWorld

/-- **What a session has taken is what its outcome says.** A failed pre-consumption moves no
account. After a successful one, in every state, funding source and token have given what is due:
the pre-consumed quota while the session is open, the settled quota (not below an empty counter),
nothing once refunded; a failed reservation moves no account, and a session that has ended stays
as it is. -/
theorem billing_session_net (cfg : Config) (db₀ : Database) {s0 : BillingSession} {quota : Int}
    (hb : Billable db₀.accounts s0 quota) (env : CallEnv) :
    match s0.preConsume cfg env quota db₀ with
    | (.error _, _, db) =>
      (s0.screened cfg env).PreConsumeRollbackOk cfg env (s0.effectiveQuota cfg env quota) db₀ →
        db.accounts = db₀.accounts
    | (.ok _, s, db) =>
      ∀ steps, (∀ e ∈ Run.trace (BillingWorld.next cfg) ⟨s, db, .pending⟩ steps,
          e.before.Allowed cfg e.act) →
        (Run.final (BillingWorld.next cfg) ⟨s, db, .pending⟩ steps).Net db₀ ∧
          ∀ e ∈ Run.trace (BillingWorld.next cfg) ⟨s, db, .pending⟩ steps,
            BillingWorld.Inert cfg e := by
  rcases hb.preConsume cfg env with ⟨e, s', db', hr, hacc⟩ | ⟨s, db, hr, hopen⟩
  · rw [hr]
    exact hacc
  · rw [hr]
    intro steps h1
    have h2 : ∀ (w : BillingWorld) step, w.Allowed cfg step → w.Sound db₀.accounts →
        (w.next cfg step).Sound db₀.accounts := fun w step hok h => h.next hok
    have h0 := sound_of_open hopen
    refine ⟨(Run.guarded_final h0 h1 h2).net, fun e he => ?_⟩
    obtain ⟨h, h3, _⟩ := Run.guarded_invariant h0 h1 h2 he
    obtain ⟨w, step, w'⟩ := e
    obtain rfl : w' = w.next cfg step := h3
    exact h.inert (h1 _ he)

/-! ## One user, one token, one subscription -/

theorem eq_ok_of_isOk {ε α : Type} {r : Except ε Unit × α} (h : r.1.isOk = true) :
    r = (.ok (), r.2) := by
  obtain ⟨r | r, x⟩ := r
  · cases h
  · rfl

theorem BillingSession.ReserveRollbackOk.of_token {delta : Int}
    (h : ((s.reserveFunding cfg env delta db).2.1.reserveToken cfg env delta
      (s.reserveFunding cfg env delta db).2.2).1.isOk = true) :
    s.ReserveRollbackOk cfg env delta db := by
  intro s1 db1 e db2 h1 h2
  rw [h1, h2] at h
  cases h

def billingDb (deleted : Bool) : Database :=
  { Database.empty with
    users := Table.empty.insert
      { id := 0, role := 1, quota := 1000, group := "default", email := "", stripeCustomer := ""
        deleted }
    tokens := Table.empty.insert token
    userSubscriptions := Table.empty.insert
      { id := 0, userId := 1, planId := 1, amountTotal := 1000, amountUsed := 400
        amountFiveHourLimit := 0, amountDailyLimit := 0, amountWeeklyLimit := 0
        paidAmount := 1000, startTime := 0, endTime := 100, status := .active, source := .wallet
        upgradeGroup := "", prevUserGroup := "", modelLimitsEnabled := false, modelLimits := "" } }
where
  token : Token :=
    { id := 1, key := "k", unlimitedQuota := false, remainQuota := 500, usedQuota := 0 }

def billingInfo : RelayInfo where
  userId := 1
  tokenId := 1
  tokenUnlimited := false
  isPlayground := false
  forcePreConsume := false
  requestId := "r"
  originModelName := "m"
  billingPreference := ""
  userQuota := 1000
  finalPreConsumedQuota := 0
  billingSource := none
  subscriptionId := 0
  subscriptionPreConsumed := 0
  subscriptionPostDelta := 0
  subscriptionAmountTotal := 0
  subscriptionAmountUsedAfterPreConsume := 0

def CallEnv.calm : CallEnv where
  now := 0
  userQuota := .ok 1000
  token := .ok (billingDb.token)
  contextTokenQuota := 500
  fundingFaults := []
  tokenFaults := []
  rollbackFaults := []

def CallEnv.stuck : CallEnv := { calm with token := .error .db, rollbackFaults := [true] }

theorem billing_session_net_settled :
    (BillingWorld.openAndRun .fresh .calm 100 (.onWallet billingInfo) (billingDb false)
      [.reserve .calm 150, .settle .calm 120, .refund]).Net (billingDb false) := by
  have h := billing_session_net .fresh (billingDb false)
    (.wallet billingInfo (by decide +kernel) (fun _ => by decide +kernel)
      (by decide : (0 : Int) ≤ 100))
    .calm
  rw [eq_ok_of_isOk (r := (BillingSession.onWallet billingInfo).preConsume .fresh .calm 100
    (billingDb false)) (by decide +kernel)] at h
  refine (h [.reserve .calm 150, .settle .calm 120, .refund] fun e he => ?_).1
  rcases List.mem_cons.1 he with rfl | he
  · exact .of_token (by decide +kernel)
  rcases List.mem_cons.1 he with rfl | he
  · change BillingSession.refunded _ = false
    decide +kernel
  obtain rfl := List.mem_singleton.1 he
  trivial

def BillingWorld.funded (db₀ : Database) (w : BillingWorld) : Int × Int :=
  (w.session.preConsumedQuota, w.session.funding.taken db₀ w.db)

def JobEnv.halfway : JobEnv where
  now := 1
  first := []
  second := []
  third := []
  extraFaults := [true]
  tokenFaults := []

/-- Where a session takes something else: after a reservation whose undoing fails, a refund whose
second operation fails, a negative settlement at an empty counter, for a deleted user, and under a
request id that was used before. -/
theorem billing_session_net_exceptions :
    (BillingWorld.openAndRun .fresh .calm 100 (.onWallet billingInfo) (billingDb false)
        [.reserve .stuck 150]).funded (billingDb false) = (100, 150) ∧
      (BillingWorld.openAndRun .fresh .calm 100 (.onWallet billingInfo) (billingDb false)
        [.reserve .stuck 150, .settle .calm 120]).funded (billingDb false) = (100, 170) ∧
      (BillingWorld.openAndRun .fresh .calm 100 (.onSubscription billingInfo 100) (billingDb false)
        [.reserve .calm 150, .refund, .runRefund .halfway]).funded (billingDb false) = (150, 50) ∧
      (BillingWorld.openAndRun .fresh .calm 100 (.onSubscription billingInfo 100) (billingDb false)
        [.settle .calm (-1000)]).funded (billingDb false) = (100, -400) ∧
      (BillingWorld.openAndRun .fresh .calm 100 (.onWallet billingInfo) (billingDb true)
        []).funded (billingDb true) = (100, 0) ∧
      (let db := (BillingWorld.openAndRun .fresh .calm 100 (.onSubscription billingInfo 100)
          (billingDb false) []).db
       (BillingWorld.openAndRun .fresh .calm 100 (.onSubscription billingInfo 100) db
          []).funded db = (100, 0)) := by
  decide +kernel

end Xingkong
