import Xingkong.Model.Billing

/-!
# Asynchronous tasks

A task is submitted to an upstream provider, paid for in advance and finished by the polling
loop. `UpdateWithStatus` writes a row back under the condition that its status is still the one
given; `TaskBulkUpdateByID` writes without a condition.

Follows `model/task.go` and `service/task_billing.go`.
-/

namespace Xingkong

open Rdb

/-! ## Rows -/

/-- `TaskStatus`: the constants of the source, and whatever else a provider may answer. -/
inductive TaskStatus
  | notStart
  | submitted
  | queued
  | inProgress
  | failure
  | success
  | unknown
  | other (text : String)
  deriving DecidableEq

def TaskStatus.empty : TaskStatus := .other ""

def TaskStatus.done : TaskStatus → Bool
  | success => true
  | failure => true
  | _ => false

inductive TaskPlatform
  | midjourney
  | suno
  | other (name : String)
  deriving DecidableEq

structure Task where
  id : Nat
  taskID : String
  platform : TaskPlatform
  userId : Nat
  channelId : Nat
  quota : Int
  status : TaskStatus
  failReason : String
  submitTime : Int
  startTime : Int
  finishTime : Int
  progress : String
  upstreamTaskID : String
  resultURL : String
  billingSource : BillingSource
  subscriptionId : Nat
  tokenId : Nat
  perCallBilling : Bool
  data : String
  deriving DecidableEq

instance : Row Task := ⟨(·.id), fun n r => { r with id := n }, fun _ _ => rfl⟩

/-- The columns `Snapshot` keeps. -/
structure TaskSnapshot where
  status : TaskStatus
  progress : String
  startTime : Int
  finishTime : Int
  failReason : String
  resultURL : String
  data : String
  deriving DecidableEq

namespace Task

def snapshot (t : Task) : TaskSnapshot where
  status := t.status
  progress := t.progress
  startTime := t.startTime
  finishTime := t.finishTime
  failReason := t.failReason
  resultURL := t.resultURL
  data := t.data

/-- Rows from before upstream ids were kept apart carry theirs as task id. -/
def getUpstreamTaskID (t : Task) : String :=
  if t.upstreamTaskID ≠ "" then t.upstreamTaskID else t.taskID

def unfinished (t : Task) : Bool := t.progress ≠ "100%" && !t.status.done

/-- Submitted under the old system; 2026-02-22 00:00:00 UTC in the source's words. -/
def isLegacy (t : Task) : Bool := 0 < t.submitTime && t.submitTime < 1740182400

end Task

/-! ## Statements -/

/-- Empty also if the statement fails. -/
def getTimedOutUnfinishedTasks (cutoffUnix : Int) (limit : Nat) (fails : Bool)
    (tasks : Table Task) : List Task :=
  if fails then []
  else ((tasks.filter fun t => t.unfinished && t.submitTime < cutoffUnix).insertionSort
    fun a b => a.submitTime ≤ b.submitTime).take limit

def getAllUnFinishSyncTasks (limit : Nat) (fails : Bool) (tasks : Table Task) : List Task :=
  if fails then [] else (tasks.filter Task.unfinished).take limit

/-- Every column is written, if the status column still is `fromStatus`. Answers whether it was,
or nothing if the statement failed. -/
def Task.updateWithStatus (task : Task) (fromStatus : TaskStatus) (fails : Bool)
    (tasks : Table Task) : Option Bool × Table Task :=
  if fails then (none, tasks)
  else if (tasks.find? task.id).map (·.status) = some fromStatus then (some true, tasks.save task)
  else (some false, tasks)

/-- `Task.Update`: every column is written. -/
def Task.update (task : Task) (fails : Bool) (tasks : Table Task) : Table Task :=
  if fails then tasks else tasks.save task

/-- What the bulk updates write; those for an empty upstream id leave the reason as it is. -/
def Task.fail (failReason : Option String) (t : Task) : Task :=
  { t with status := .failure, progress := "100%", failReason := failReason.getD t.failReason }

theorem Task.key_fail (failReason : Option String) (t : Task) :
    Row.key (t.fail failReason) = Row.key t := rfl

def taskBulkUpdateByID (ids : List Nat) (failReason : Option String) (fails : Bool)
    (tasks : Table Task) : Table Task :=
  if fails then tasks else tasks.update (·.id ∈ ids) (Task.fail failReason)
    (Task.key_fail failReason)

/-! ## Billing -/

inductive TaskFunding
  | wallet (userId : Nat)
  | subscription (subscriptionId : Nat)
  deriving DecidableEq

def taskIsSubscription (task : Task) : Bool :=
  task.billingSource = .subscription && 0 < task.subscriptionId

def Task.funding (task : Task) : TaskFunding :=
  if taskIsSubscription task then .subscription task.subscriptionId else .wallet task.userId

structure TaskEnv where
  now : Int
  faults : List Bool
  tokenFaults : List Bool
  tokenLookupFails : Bool

/-- `delta > 0` charges, `delta < 0` gives back. -/
def taskAdjustFunding (cfg : Config) (env : TaskEnv) (task : Task) (delta : Int) (db : Database) :
    Except Err Unit × Database :=
  match task.funding with
  | .subscription id => postConsumeUserSubscriptionDelta env.now id delta env.faults db
  | .wallet id =>
    if 0 < delta then decreaseUserQuota cfg id delta false env.faults db
    else increaseUserQuota env.now id (-delta) env.faults db

/-- The token's key has to be found first; the outcome of the update is only logged. -/
def taskAdjustTokenQuota (cfg : Config) (env : TaskEnv) (task : Task) (delta : Int)
    (db : Database) : Database :=
  if task.tokenId = 0 ∨ delta = 0 then db
  else if env.tokenLookupFails ∨ (db.tokens.find? task.tokenId).isNone then db
  else if 0 < delta then (decreaseTokenQuota cfg task.tokenId delta env.tokenFaults db).2
  else (increaseTokenQuota cfg task.tokenId (-delta) env.tokenFaults db).2

/-- Answers whether the funding source accepted the refund; nothing if there was none to make. -/
def refundTaskQuota (cfg : Config) (env : TaskEnv) (task : Task) (db : Database) :
    Option Bool × Database :=
  if task.quota = 0 then (none, db)
  else
    match taskAdjustFunding cfg env task (-task.quota) db with
    | (.ok _, db) => (some true, taskAdjustTokenQuota cfg env task (-task.quota) db)
    | (.error _, db) => (some false, db)

/-- The task in memory takes over the actual quota; its row does not. -/
def recalculateTaskQuota (cfg : Config) (env : TaskEnv) (task : Task) (actualQuota : Int)
    (db : Database) : Task × Database :=
  if actualQuota ≤ 0 ∨ actualQuota = task.quota then (task, db)
  else
    match taskAdjustFunding cfg env task (actualQuota - task.quota) db with
    | (.ok _, db) =>
      ({ task with quota := actualQuota },
        taskAdjustTokenQuota cfg env task (actualQuota - task.quota) db)
    | (.error _, db) => (task, db)

structure TaskPricing where
  /-- `AdjustBillingOnComplete` of the adaptor. -/
  adjusted : Int
  totalTokens : Int
  /-- What the tokens cost, where the model has a ratio and the group is known. -/
  tokenQuota : Option Int

def settleTaskBillingOnComplete (cfg : Config) (env : TaskEnv) (task : Task)
    (pricing : TaskPricing) (db : Database) : Task × Database :=
  if task.perCallBilling then (task, db)
  else if 0 < pricing.adjusted then recalculateTaskQuota cfg env task pricing.adjusted db
  else if 0 < pricing.totalTokens then
    match pricing.tokenQuota with
    | some quota => recalculateTaskQuota cfg env task quota db
    | none => (task, db)
  else (task, db)

end Xingkong
