import Xingkong.Model.Subscription

/-!
# Charging a subscription

A request reserves an amount on one of the user's active subscriptions under its
request id, adjusts it by deltas, and may give the reservation back. Three things
are written together in each transaction: the counter on the subscription, the
per-request record, and an append-only ledger of deltas which also feeds the rolling
limits.
-/

namespace Xingkong

open Rdb

def clampSubscriptionUsage (sum : Int) : Int := if sum < 0 then 0 else sum

def subscriptionWindowFiveHours : Int := 5 * 3600
def subscriptionWindowDaily : Int := 24 * 3600
def subscriptionWindowWeekly : Int := 7 * 24 * 3600

def createSubscriptionUsageLedgerTx (now : Int) (sub : UserSubscription) (requestId : String)
    (delta : Int) (action : LedgerAction) : DbTx Unit :=
  if delta = 0 then pure ()
  else Tx.exec fun db =>
    { db with
      usageLedgers := db.usageLedgers.insert
        { id := 0, userId := sub.userId, userSubscriptionId := sub.id
          requestId := trimSpace requestId, delta, action, createdAt := now } }

def ledgerSumSince (db : Database) (subId : Nat) (windowStart : Int) : Int :=
  db.usageLedgers.sum fun r =>
    if r.userSubscriptionId = subId ∧ windowStart ≤ r.createdAt then r.delta else 0

def getSubscriptionWindowUsageTx (subId : Nat) (windowSeconds now startTime : Int) : DbTx Int :=
  if subId = 0 ∨ windowSeconds ≤ 0 then pure 0 else do
  let total ← Tx.query (ledgerSumSince · subId (max startTime (now - windowSeconds)))
  pure (clampSubscriptionUsage total)

def checkWindowTx (sub : UserSubscription) (amount now limit window : Int) (label : String) :
    DbTx Unit :=
  if limit ≤ 0 then pure () else do
  let used ← getSubscriptionWindowUsageTx sub.id window now sub.startTime
  Tx.failIf (limit < used + amount) (.limitExceeded label)

def checkSubscriptionRollingLimitsTx (sub : UserSubscription) (amount now : Int) : DbTx Unit :=
  if amount ≤ 0 then pure () else do
  Tx.failIf (0 < sub.amountTotal ∧ sub.amountTotal < sub.amountUsed + amount)
    (.quotaInsufficient amount)
  checkWindowTx sub amount now sub.amountFiveHourLimit subscriptionWindowFiveHours "5-hour"
  checkWindowTx sub amount now sub.amountDailyLimit subscriptionWindowDaily "daily"
  checkWindowTx sub amount now sub.amountWeeklyLimit subscriptionWindowWeekly "weekly"

structure SubscriptionPreConsumeResult where
  userSubscriptionId : Nat
  preConsumed : Int
  amountTotal : Int
  amountUsedBefore : Int
  amountUsedAfter : Int
  deriving DecidableEq

/-- Does the limit check pass? A limit that is hit makes the caller try the next
subscription, any other error ends the transaction. -/
def passesLimitsTx (sub : UserSubscription) (amount now : Int) : DbTx Bool := do
  match ← (checkSubscriptionRollingLimitsTx sub amount now).attempt with
  | .ok _ => pure true
  | .error (.limitExceeded _) => pure false
  | .error (.quotaInsufficient _) => pure false
  | .error e => Tx.fail e

def saveUserSubscription (sub : UserSubscription) : DbTx Unit :=
  Tx.exec fun db => { db with userSubscriptions := db.userSubscriptions.save sub }

def findPreConsumeRecord (db : Database) (requestId : String) :
    Option SubscriptionPreConsumeRecord :=
  db.preConsumeRecords.first? (·.requestId = requestId)

/-- Charge one subscription for a new request. The insert fails on a taken request id;
the row that holds it is then answered without a charge. -/
def chargeSubscriptionTx (now : Int) (requestId : String) (userId : Nat) (amount : Int)
    (sub : UserSubscription) : DbTx SubscriptionPreConsumeResult := do
  match ← Tx.query (findPreConsumeRecord · requestId) with
  | some dup =>
    Tx.failIf (dup.status = .refunded) (.msg "subscription pre-consume already refunded")
    pure { userSubscriptionId := sub.id, preConsumed := dup.preConsumed
           amountTotal := sub.amountTotal, amountUsedBefore := sub.amountUsed
           amountUsedAfter := sub.amountUsed }
  | none =>
    Tx.exec fun db =>
      { db with
        preConsumeRecords := db.preConsumeRecords.insert
          { id := 0, requestId, userId, userSubscriptionId := sub.id, preConsumed := amount
            status := .consumed } }
    saveUserSubscription { sub with amountUsed := sub.amountUsed + amount }
    createSubscriptionUsageLedgerTx now sub requestId amount .preConsume
    pure { userSubscriptionId := sub.id, preConsumed := amount
           amountTotal := sub.amountTotal, amountUsedBefore := sub.amountUsed
           amountUsedAfter := sub.amountUsed + amount }

/-- Charge the first candidate that allows the model and has room. -/
def chargeFirstTx (cfg : Config) (now : Int) (requestId : String) (userId : Nat)
    (modelName : String) (amount : Int) :
    List UserSubscription → DbTx SubscriptionPreConsumeResult
  | [] => Tx.fail (.msg ("subscription quota insufficient or model not allowed, need=" ++
      toString amount ++ ", model=" ++ modelName))
  | sub :: rest => do
    if !sub.allowsModel cfg modelName then
      chargeFirstTx cfg now requestId userId modelName amount rest
    else if ← passesLimitsTx sub amount now then
      chargeSubscriptionTx now requestId userId amount sub
    else chargeFirstTx cfg now requestId userId modelName amount rest

def activeSubscriptions (db : Database) (userId : Nat) (now : Int) : List UserSubscription :=
  (db.userSubscriptions.filter fun s =>
    s.userId = userId && s.status = .active && now < s.endTime).insertionSort endsFirst

def preConsumeUserSubscriptionTx (cfg : Config) (now : Int) (requestId : String) (userId : Nat)
    (modelName : String) (amount : Int) : DbTx SubscriptionPreConsumeResult := do
  match ← Tx.query (findPreConsumeRecord · requestId) with
  | some existing => do
    Tx.failIf (existing.status = .refunded) (.msg "subscription pre-consume already refunded")
    let sub ← Tx.first (fun db => db.userSubscriptions.find? existing.userSubscriptionId)
      .recordNotFound
    pure { userSubscriptionId := sub.id, preConsumed := existing.preConsumed
           amountTotal := sub.amountTotal, amountUsedBefore := sub.amountUsed
           amountUsedAfter := sub.amountUsed }
  | none => do
    let subs ← (Tx.query (activeSubscriptions · userId now)).orFail (.msg "no active subscription")
    Tx.failIf (subs = []) (.msg "no active subscription")
    chargeFirstTx cfg now requestId userId modelName amount subs

def preConsumeUserSubscription (cfg : Config) (now : Int) (requestId : String) (userId : Nat)
    (modelName : String) (amount : Int) (faults : List Bool) (db : Database) :
    Except Err SubscriptionPreConsumeResult × Database :=
  if userId = 0 then (.error (.msg "invalid userId"), db)
  else if trimSpace requestId = "" then (.error (.msg "requestId is empty"), db)
  else if amount ≤ 0 then (.error (.msg "amount must be > 0"), db)
  else Tx.transaction (preConsumeUserSubscriptionTx cfg now requestId userId modelName amount)
    faults db

/-- The counter after a delta: it never goes below zero. -/
def newUsed (sub : UserSubscription) (delta : Int) : Int :=
  if sub.amountUsed + delta < 0 then 0 else sub.amountUsed + delta

/-- Only an increase is checked against the limits. -/
def checkIncreaseTx (sub : UserSubscription) (delta now : Int) : DbTx Unit :=
  if 0 < delta then checkSubscriptionRollingLimitsTx sub delta now else pure ()

def postConsumeUserSubscriptionDeltaTx (now : Int) (subId : Nat) (delta : Int)
    (requestId : String) (action : LedgerAction) : DbTx Unit := do
  let sub ← Tx.first (fun db => db.userSubscriptions.find? subId) .recordNotFound
  checkIncreaseTx sub delta now
  Tx.failIf (0 < sub.amountTotal ∧ sub.amountTotal < newUsed sub delta)
    (.msg ("subscription used exceeds total, used=" ++ toString (newUsed sub delta) ++
      " total=" ++ toString sub.amountTotal))
  saveUserSubscription { sub with amountUsed := newUsed sub delta }
  createSubscriptionUsageLedgerTx now sub requestId delta action

def postConsumeUserSubscriptionDelta (now : Int) (subId : Nat) (delta : Int)
    (faults : List Bool) (db : Database) : Except Err Unit × Database :=
  if subId = 0 then (.error (.msg "invalid userSubscriptionId"), db)
  else if delta = 0 then (.ok (), db)
  else Tx.transaction (postConsumeUserSubscriptionDeltaTx now subId delta "" .settle) faults db

def savePreConsumeRecord (record : SubscriptionPreConsumeRecord) : DbTx Unit :=
  Tx.exec fun db => { db with preConsumeRecords := db.preConsumeRecords.save record }

def refundSubscriptionPreConsumeTx (now : Int) (requestId : String) : DbTx Unit := do
  let record ← Tx.first (findPreConsumeRecord · requestId) .recordNotFound
  if record.status = .refunded then pure ()
  else if record.preConsumed ≤ 0 then savePreConsumeRecord { record with status := .refunded }
  else do
    postConsumeUserSubscriptionDeltaTx now record.userSubscriptionId (-record.preConsumed)
      record.requestId .refund
    savePreConsumeRecord { record with status := .refunded }

def refundSubscriptionPreConsume (now : Int) (requestId : String) (faults : List Bool)
    (db : Database) : Except Err Unit × Database :=
  if trimSpace requestId = "" then (.error (.msg "requestId is empty"), db)
  else Tx.transaction (refundSubscriptionPreConsumeTx now requestId) faults db

end Xingkong
