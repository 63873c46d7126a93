import Xingkong.Lib.Run
import Xingkong.Spec.BillingSession

/-!
# A session as a thread

A session that stops after every transaction on its subscription, so that the transactions of
many sessions can interleave. The calls on one session exclude each other (its mutex), and
nothing is settled after a refund took effect. Token quota is moved within the thread's steps: no
transaction on a subscription reads it. With no other thread in between, the steps are the calls
of the session and the goroutine of its refund.
-/

namespace Xingkong

open Rdb

/-! ## Threads -/

inductive SessionPc
  | start (quota : Int)
  | rejected
  | ready
  /-- `reserveFunding` has charged `delta`; the token comes next. -/
  | reserving (delta : Int)
  /-- The token refused; `rollbackFundingReserve` comes next. -/
  | rollingBack (delta : Int)
  | settled (actual : Int)
  /-- The goroutine of `Refund` has `attempts` left after the next one. -/
  | refunding (job : RefundJob) (attempts : Nat)
  /-- `kept` is what could not be given back. -/
  | refundingExtra (job : RefundJob) (kept : Int)
  | refundingToken (job : RefundJob) (kept : Int)
  | refunded (kept : Int)

structure SessionThread where
  session : BillingSession
  pc : SessionPc
  /-- What was reserved for calls of `Reserve` that failed and could not be undone. -/
  stranded : Int

inductive SessionAct
  | preConsume (env : CallEnv)
  | reserve (env : CallEnv) (targetQuota : Int)
  | reserveToken (env : CallEnv)
  | rollback (env : CallEnv)
  | settle (env : CallEnv) (actualQuota : Int)
  | refund
  | refundFunding (now : Int) (faults : List Bool)
  | refundExtra (env : JobEnv)
  | refundToken (env : JobEnv)

def FundingSource.refundAttempt (now : Int) (faults : List Bool) (db : Database) :
    FundingSource → Except Err Unit × Database
  | .wallet userId consumed => (FundingSource.wallet userId consumed).refund now faults [] [] db
  | .subscription f =>
    if f.preConsumed ≤ 0 then (.ok (), db)
    else refundSubscriptionPreConsume now f.requestId faults db

namespace SessionThread

def preConsume (cfg : Config) (env : CallEnv) (quota : Int) (t : SessionThread) (db : Database) :
    SessionThread × Database :=
  match t.session.preConsume cfg env (subConsume quota) db with
  | (.ok _, s, db) => ({ t with session := s, pc := .ready }, db)
  | (.error _, s, db) => ({ t with session := s, pc := .rejected }, db)

def reserveBy (cfg : Config) (env : CallEnv) (delta : Int) (t : SessionThread) (db : Database) :
    SessionThread × Database :=
  match t.session.reserveFunding cfg env delta db with
  | (.ok _, s, db) => ({ t with session := s, pc := .reserving delta }, db)
  | (.error _, s, db) => ({ t with session := s }, db)

def reserve (cfg : Config) (env : CallEnv) (targetQuota : Int) (t : SessionThread)
    (db : Database) : SessionThread × Database :=
  if t.session.settled || t.session.refunded || t.session.trusted ||
      targetQuota ≤ t.session.preConsumedQuota then (t, db)
  else t.reserveBy cfg env (targetQuota - t.session.preConsumedQuota) db

def reserveToken (cfg : Config) (env : CallEnv) (delta : Int) (t : SessionThread)
    (db : Database) : SessionThread × Database :=
  match t.session.reserveToken cfg env delta db with
  | (.error _, db) => ({ t with pc := .rollingBack delta }, db)
  | (.ok _, db) =>
    ({ t with
      pc := .ready
      session := { t.session with
        preConsumedQuota := t.session.preConsumedQuota + delta
        tokenConsumed := t.session.tokenConsumed + delta
        extraReserved := t.session.extraReserved + delta }.syncRelayInfo }, db)

def rollback (env : CallEnv) (delta : Int) (t : SessionThread) (db : Database) :
    SessionThread × Database :=
  match t.session.rollbackFundingReserve env delta db with
  | (.ok _, s, db) => ({ t with session := s, pc := .ready }, db)
  | (.error _, s, db) => ({ session := s, pc := .ready, stranded := t.stranded + delta }, db)

def settle (cfg : Config) (env : CallEnv) (actualQuota : Int) (t : SessionThread)
    (db : Database) : SessionThread × Database :=
  match t.session.settle cfg env actualQuota db with
  | (_, s, db) =>
    ({ t with session := s, pc := if s.settled then .settled actualQuota else .ready }, db)

def refund (t : SessionThread) : SessionThread :=
  match t.session.refund with
  | (s, none) => { t with session := s }
  | (s, some job) => { t with session := s, pc := .refunding job 2 }

/-- The last attempt that fails is logged, and the goroutine goes on. -/
def refundFunding (now : Int) (faults : List Bool) (job : RefundJob) (attempts : Nat)
    (t : SessionThread) (db : Database) : SessionThread × Database :=
  match job.funding.refundAttempt now faults db with
  | (.ok _, db) => ({ t with pc := .refundingExtra job 0 }, db)
  | (.error _, db) =>
    match attempts with
    | 0 => ({ t with pc := .refundingExtra job t.session.ownPart }, db)
    | attempts + 1 => ({ t with pc := .refunding job attempts }, db)

def refundExtra (env : JobEnv) (job : RefundJob) (kept : Int) (t : SessionThread)
    (db : Database) : SessionThread × Database :=
  match job.refundExtra env db with
  | (.ok _, db) => ({ t with pc := .refundingToken job kept }, db)
  | (.error _, db) => ({ t with pc := .refundingToken job (kept + job.extraReserved) }, db)

def refundToken (cfg : Config) (env : JobEnv) (job : RefundJob) (kept : Int) (t : SessionThread)
    (db : Database) : SessionThread × Database :=
  ({ t with pc := .refunded kept }, (job.refundToken cfg env db).2)

/-- An action that the session is not waiting for does nothing. -/
def run (cfg : Config) (t : SessionThread) (a : SessionAct) (db : Database) :
    SessionThread × Database :=
  match t.pc, a with
  | .start quota, .preConsume env => t.preConsume cfg env quota db
  | .ready, .reserve env target => t.reserve cfg env target db
  | .reserving delta, .reserveToken env => t.reserveToken cfg env delta db
  | .rollingBack delta, .rollback env => t.rollback env delta db
  | .ready, .settle env actual => t.settle cfg env actual db
  | .ready, .refund => (t.refund, db)
  | .refunding job attempts, .refundFunding now faults =>
    t.refundFunding now faults job attempts db
  | .refundingExtra job kept, .refundExtra env => t.refundExtra env job kept db
  | .refundingToken job kept, .refundToken env => t.refundToken cfg env job kept db
  | _, _ => (t, db)

def runAlone (cfg : Config) (p : SessionThread × Database) (as : List SessionAct) :
    SessionThread × Database :=
  Run.final (fun p a => p.1.run cfg a p.2) p as

variable {s : BillingSession} {stranded : Int}

theorem runAlone_reserve (cfg : Config) (env : CallEnv) (target : Int) (db : Database) :
    ∃ stranded', runAlone cfg (⟨s, .ready, stranded⟩, db)
        [.reserve env target, .reserveToken env, .rollback env] =
      (⟨(s.reserve cfg env target db).2.1, .ready, stranded'⟩,
        (s.reserve cfg env target db).2.2) := by
  unfold BillingSession.reserve
  show ∃ _, runAlone cfg (reserve cfg env target ⟨s, .ready, stranded⟩ db) _ = _
  unfold reserve
  by_cases hc : s.settled || s.refunded || s.trusted || target ≤ s.preConsumedQuota
  · rw [if_pos hc, if_pos hc]
    exact ⟨stranded, rfl⟩
  rw [if_neg hc, if_neg hc]
  generalize target - s.preConsumedQuota = delta
  unfold BillingSession.reserveBy reserveBy
  generalize s.reserveFunding cfg env delta db = x
  obtain ⟨e | u, s1, db1⟩ := x
  · exact ⟨stranded, rfl⟩
  show ∃ _, runAlone cfg (reserveToken cfg env delta ⟨s1, .reserving delta, stranded⟩ db1) _ = _
  unfold reserveToken
  dsimp only
  generalize s1.reserveToken cfg env delta db1 = y
  obtain ⟨e | u, db2⟩ := y
  · show ∃ _, rollback env delta ⟨s1, .rollingBack delta, stranded⟩ db2 = _
    unfold rollback
    dsimp only
    generalize s1.rollbackFundingReserve env delta db2 = z
    obtain ⟨e | u, s2, db3⟩ := z <;> exact ⟨_, rfl⟩
  · exact ⟨_, rfl⟩

theorem runAlone_refundExtra (cfg : Config) (env : JobEnv) (job : RefundJob) (kept : Int)
    (db : Database) :
    runAlone cfg (⟨s, .refundingExtra job kept, stranded⟩, db)
        [.refundExtra env, .refundToken env] =
      (⟨s, .refunded (kept + unreturned (job.refundExtra env db).1 job.extraReserved), stranded⟩,
        (job.refundToken cfg env (job.refundExtra env db).2).2) := by
  show runAlone cfg (refundExtra env job kept _ db) _ = _
  unfold refundExtra
  generalize job.refundExtra env db = x
  obtain ⟨e | u, db1⟩ := x
  · rfl
  · simp only [unreturned, add_zero]
    rfl

theorem runAlone_refund (cfg : Config) (env : JobEnv) (job : RefundJob) (f : SubscriptionFunding)
    (db : Database) :
    let job := { job with funding := .subscription f }
    runAlone cfg (⟨s, .refunding job 2, stranded⟩, db)
        [.refundFunding env.now env.first, .refundFunding env.now env.second,
          .refundFunding env.now env.third, .refundExtra env, .refundToken env] =
      (⟨s, .refunded (unreturned (job.run cfg env db).1.funding s.ownPart +
        unreturned (job.run cfg env db).1.extra job.extraReserved), stranded⟩,
        (job.run cfg env db).2) := by
  intro job
  unfold RefundJob.run FundingSource.refund
  show runAlone cfg (refundFunding env.now env.first job 2 _ db) _ = _
  by_cases hz : f.preConsumed ≤ 0
  · simp only [refundFunding, FundingSource.refundAttempt, job, if_pos hz]
    exact runAlone_refundExtra ..
  simp only [refundFunding, FundingSource.refundAttempt, refundWithRetry, job, if_neg hz]
  -- one attempt after another, until one gives the quota back
  generalize refundSubscriptionPreConsume env.now f.requestId env.first db = x
  obtain ⟨e | u, db1⟩ := x
  · show runAlone cfg (refundFunding env.now env.second job 1 _ db1) _ = _
    simp only [refundFunding, FundingSource.refundAttempt, job, if_neg hz]
    generalize refundSubscriptionPreConsume env.now f.requestId env.second db1 = x
    obtain ⟨e | u, db2⟩ := x
    · show runAlone cfg (refundFunding env.now env.third job 0 _ db2) _ = _
      simp only [refundFunding, FundingSource.refundAttempt, job, if_neg hz]
      generalize refundSubscriptionPreConsume env.now f.requestId env.third db2 = x
      obtain ⟨e | u, db3⟩ := x <;> exact runAlone_refundExtra ..
    · exact runAlone_refundExtra ..
  · exact runAlone_refundExtra ..

end SessionThread

end Xingkong
