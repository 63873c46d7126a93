import Xingkong.Model.Quota

/-!
# Subscriptions: plans, orders and the life of a user subscription

A user subscription is a snapshot of a plan. It is created by a paid order, by a
purchase from the wallet or by an administrator, and it ends by cancellation,
invalidation, deletion or expiry. Ending it early credits the unused part of what
was paid for it back to the wallet, together with that part of its lot.

Follows `model/subscription.go`. Reads of a plan may come from a cache, so they take
what the cache answers as an argument.
-/

namespace Xingkong

open Rdb

/-! ## Model limits -/

def normalizeSubscriptionModelLimits (raw : String) : String :=
  if trimSpace raw = "" then ""
  else
    let parts := (raw.toList.splitOn ',').map fun cs => trimSpace (String.ofList cs)
    ",".intercalate (parts.filter (· ≠ "")).eraseDups

def subscriptionModelLimits (cfg : Config) (raw : String) : List String :=
  let normalized := normalizeSubscriptionModelLimits raw
  if normalized = "" then []
  else (normalized.toList.splitOn ',').map fun cs => cfg.formatMatchingModelName (String.ofList cs)

def SubscriptionPlan.normalizeModelLimits (p : SubscriptionPlan) : SubscriptionPlan :=
  let limits := normalizeSubscriptionModelLimits p.modelLimits
  { p with modelLimits := limits, modelLimitsEnabled := limits ≠ "" }

def UserSubscription.normalizeModelLimits (s : UserSubscription) : UserSubscription :=
  let limits := normalizeSubscriptionModelLimits s.modelLimits
  { s with modelLimits := limits, modelLimitsEnabled := limits ≠ "" }

def UserSubscription.allowsModel (cfg : Config) (s : UserSubscription) (modelName : String) :
    Bool :=
  if !s.modelLimitsEnabled || trimSpace s.modelLimits = "" then true
  else (subscriptionModelLimits cfg s.modelLimits).contains (cfg.formatMatchingModelName modelName)

/-! ## Plans -/

def calcPlanEndTime (cfg : Config) (start : Int) (plan : SubscriptionPlan) : Except Err Int :=
  if plan.durationValue ≤ 0 ∧ plan.durationUnit ≠ .custom then
    .error (.msg "duration_value must be > 0")
  else match plan.durationUnit with
    | .year => .ok (cfg.addDate start plan.durationValue 0)
    | .month => .ok (cfg.addDate start 0 plan.durationValue)
    | .day => .ok (start + plan.durationValue * 86400)
    | .hour => .ok (start + plan.durationValue * 3600)
    | .custom =>
      if plan.customSeconds ≤ 0 then .error (.msg "custom_seconds must be > 0")
      else .ok (start + plan.customSeconds)

def subscriptionQuotaFromUSD (cfg : Config) (amount : ℚ) : Int :=
  if amount ≤ 0 then 0 else intPart (amount * cfg.quotaPerUnit)

/-- `cached` is what the plan cache holds under this id. -/
def getSubscriptionPlanByIdTx (cached : Option SubscriptionPlan) (id : Nat) :
    DbTx SubscriptionPlan := do
  Tx.failIf (id = 0) (.msg "invalid plan id")
  match cached with
  | some plan => pure plan
  | none =>
    let plan ← Tx.first (fun db => db.plans.find? id) .recordNotFound
    pure plan.normalizeModelLimits

/-! ## User groups -/

/-- A missing user has the empty group. -/
def getUserGroupByIdTx (userId : Nat) : DbTx String := do
  Tx.failIf (userId = 0) (.msg "invalid userId")
  Tx.query fun db => ((db.liveUser? userId).map User.group).getD ""

def Database.setUserGroup (db : Database) (userId : Nat) (group : String) : Database :=
  db.updateLiveUser userId (fun u => { u with group }) fun _ => rfl

/-- Is another upgraded subscription of the user still running? -/
def hasOtherActiveUpgrade (db : Database) (userId subId : Nat) (now : Int) : Bool :=
  (db.userSubscriptions.first? fun s =>
    s.userId = userId && s.status = .active && now < s.endTime && s.id ≠ subId &&
      s.upgradeGroup ≠ "").isSome

/-- Returns the group the user falls back to, "" if it stays. A failed search for
another upgraded subscription counts as none. -/
def downgradeUserGroupForSubscriptionTx (sub : UserSubscription) (now : Int) : DbTx String :=
  let upgradeGroup := trimSpace sub.upgradeGroup
  if upgradeGroup = "" then pure "" else do
  let currentGroup ← getUserGroupByIdTx sub.userId
  if currentGroup ≠ upgradeGroup then pure ""
  else if ← Tx.queryOr (hasOtherActiveUpgrade · sub.userId sub.id now) false then pure ""
  else
    let prevGroup := trimSpace sub.prevUserGroup
    if prevGroup = "" ∨ prevGroup = currentGroup then pure ""
    else do
      Tx.exec (·.setUserGroup sub.userId prevGroup)
      pure prevGroup

/-! ## Creating a subscription -/

def subscriptionFromPlan (userId : Nat) (plan : SubscriptionPlan) (source : SubscriptionSource)
    (paidAmount startTime endTime : Int) (upgradeGroup prevGroup : String) : UserSubscription :=
  { id := 0, userId, planId := plan.id
    amountTotal := plan.totalAmount, amountUsed := 0
    amountFiveHourLimit := plan.fiveHourAmount, amountDailyLimit := plan.dailyAmount
    amountWeeklyLimit := plan.weeklyAmount
    paidAmount, startTime, endTime, status := .active, source
    upgradeGroup, prevUserGroup := prevGroup
    modelLimitsEnabled := plan.modelLimitsEnabled, modelLimits := plan.modelLimits }

/-- Move the user to the plan's group; returns the group left behind. -/
def upgradeUserGroupTx (userId : Nat) (upgradeGroup : String) : DbTx String :=
  if upgradeGroup = "" then pure "" else do
  let currentGroup ← getUserGroupByIdTx userId
  if currentGroup = upgradeGroup then pure "" else do
    Tx.exec (·.setUserGroup userId upgradeGroup)
    pure currentGroup

def createUserSubscription (sub : UserSubscription) : DbTx UserSubscription := do
  let stored ← Tx.query fun db => db.userSubscriptions.stored sub
  Tx.exec fun db => { db with userSubscriptions := db.userSubscriptions.insert sub }
  pure stored

def countUserSubscriptionsByPlan (db : Database) (userId planId : Nat) : Int :=
  (db.userSubscriptions.filter fun s => s.userId = userId && s.planId = planId).length

def countPurchasesTx (userId : Nat) (plan : SubscriptionPlan) : DbTx Int :=
  if 0 < plan.maxPurchasePerUser
  then Tx.query (countUserSubscriptionsByPlan · userId plan.id) else pure 0

/-- The lot of a new subscription; that of a paid order is created by the order. -/
def createSubscriptionLotTx (now : Int) (source : SubscriptionSource) (userId : Nat)
    (sub : UserSubscription) (paidAmount : Int) : DbTx Unit :=
  match source with
  | .wallet =>
    if 0 < paidAmount then createSubscriptionLotFromWalletTx now userId sub paidAmount
    else createSubscriptionLotFromAdminTx now sub
  | .admin => createSubscriptionLotFromAdminTx now sub
  | .order => pure ()

def createUserSubscriptionFromPlanWithPaidAmountTx (cfg : Config) (now : Int) (userId : Nat)
    (plan : SubscriptionPlan) (source : SubscriptionSource) (paidAmount : Int) :
    DbTx UserSubscription := do
  Tx.failIf (plan.id = 0) (.msg "invalid plan")
  Tx.failIf (userId = 0) (.msg "invalid user id")
  let plan := plan.normalizeModelLimits
  let purchases ← countPurchasesTx userId plan
  Tx.failIf (0 < plan.maxPurchasePerUser ∧ plan.maxPurchasePerUser ≤ purchases)
    (.msg "已达到该套餐购买上限")
  let endTime ← liftM (calcPlanEndTime cfg now plan)
  let prevGroup ← upgradeUserGroupTx userId (trimSpace plan.upgradeGroup)
  let sub ← createUserSubscription
    (subscriptionFromPlan userId plan source paidAmount now endTime (trimSpace plan.upgradeGroup)
      prevGroup).normalizeModelLimits
  createSubscriptionLotTx now source userId sub paidAmount
  pure sub

def payFromWalletTx (userId : Nat) (requiredQuota : Int) : DbTx Unit :=
  if 0 < requiredQuota then Tx.exec (·.addUserQuota userId (-requiredQuota)) else pure ()

def purchaseSubscriptionWithWalletTx (cfg : Config) (now : Int) (cached : Option SubscriptionPlan)
    (userId planId : Nat) : DbTx UserSubscription := do
  let plan ← getSubscriptionPlanByIdTx cached planId
  Tx.failIf (plan.enabled = false) (.msg "套餐未启用")
  let requiredQuota := max (subscriptionQuotaFromUSD cfg plan.priceAmount) 0
  let user ← Tx.first (·.liveUser? userId) .recordNotFound
  Tx.failIf (user.quota < requiredQuota) (.msg "余额不足")
  payFromWalletTx userId requiredQuota
  createUserSubscriptionFromPlanWithPaidAmountTx cfg now userId plan .wallet requiredQuota

def purchaseSubscriptionWithWallet (cfg : Config) (now : Int) (cached : Option SubscriptionPlan)
    (userId planId : Nat) (faults : List Bool) (db : Database) :
    Except Err UserSubscription × Database :=
  if userId = 0 ∨ planId = 0 then (.error (.msg "invalid userId or planId"), db)
  else Tx.transaction (purchaseSubscriptionWithWalletTx cfg now cached userId planId) faults db

def adminBindSubscription (cfg : Config) (now : Int) (cached : Option SubscriptionPlan)
    (userId planId : Nat) (faults : List Bool) (db : Database) : Except Err Unit × Database :=
  if userId = 0 ∨ planId = 0 then (.error (.msg "invalid userId or planId"), db)
  else
    Tx.transaction (do
      let plan ← getSubscriptionPlanByIdTx cached planId
      let _ ← createUserSubscriptionFromPlanWithPaidAmountTx cfg now userId plan .admin 0
      pure ()) faults db

/-! ## Ending a subscription -/

def calculateSubscriptionRefundQuota (sub : UserSubscription) : Int :=
  if sub.paidAmount ≤ 0 then 0
  else if sub.paidAmount - sub.amountUsed < 0 then 0
  else sub.paidAmount - sub.amountUsed

/-- `status = cancelled, end_time = now` on one row. -/
def Database.cancelSubscriptionRow (db : Database) (subId : Nat) (now : Int) : Database :=
  { db with
    userSubscriptions := db.userSubscriptions.update (fun s => s.id = subId)
      (fun s => { s with status := .cancelled, endTime := now }) fun _ => rfl }

def refundSubscriptionTx (now : Int) (sub : UserSubscription) : DbTx Unit :=
  let refundQuota := calculateSubscriptionRefundQuota sub
  if 0 < refundQuota then do
    Tx.exec (·.addUserQuota sub.userId refundQuota)
    transferSubscriptionLotToWalletTx now sub refundQuota
  else pure ()

/-- Returns the refunded quota and the group the user falls back to. -/
def cancelSubscriptionByUserTx (now : Int) (userId subId : Nat) : DbTx (Int × String) := do
  let sub ← Tx.first
    (fun db => db.userSubscriptions.first? fun s => s.id = subId && s.userId = userId)
    .recordNotFound
  Tx.failIf (sub.status ≠ .active ∨ sub.endTime ≤ now) (.msg "订阅已不可退订")
  Tx.exec (·.cancelSubscriptionRow sub.id now)
  refundSubscriptionTx now sub
  let target ← downgradeUserGroupForSubscriptionTx sub now
  pure (calculateSubscriptionRefundQuota sub, target)

def cancelSubscriptionByUser (now : Int) (userId subId : Nat) (faults : List Bool)
    (db : Database) : Except Err (Int × String) × Database :=
  if userId = 0 ∨ subId = 0 then (.error (.msg "invalid userId or subId"), db)
  else Tx.transaction (cancelSubscriptionByUserTx now userId subId) faults db

/-- Unlike the user's own cancellation this does not look at the status. -/
def adminInvalidateUserSubscriptionTx (now : Int) (subId : Nat) : DbTx String := do
  let sub ← Tx.first (fun db => db.userSubscriptions.find? subId) .recordNotFound
  Tx.exec (·.cancelSubscriptionRow sub.id now)
  refundSubscriptionTx now sub
  downgradeUserGroupForSubscriptionTx sub now

def adminInvalidateUserSubscription (now : Int) (subId : Nat) (faults : List Bool)
    (db : Database) : Except Err String × Database :=
  if subId = 0 then (.error (.msg "invalid userSubscriptionId"), db)
  else Tx.transaction (adminInvalidateUserSubscriptionTx now subId) faults db

def adminDeleteUserSubscriptionTx (now : Int) (subId : Nat) : DbTx String := do
  let sub ← Tx.first (fun db => db.userSubscriptions.find? subId) .recordNotFound
  refundSubscriptionTx now sub
  let target ← downgradeUserGroupForSubscriptionTx sub now
  Tx.exec fun db =>
    { db with userSubscriptions := db.userSubscriptions.delete fun s => s.id = subId }
  pure target

def adminDeleteUserSubscription (now : Int) (subId : Nat) (faults : List Bool)
    (db : Database) : Except Err String × Database :=
  if subId = 0 then (.error (.msg "invalid userSubscriptionId"), db)
  else Tx.transaction (adminDeleteUserSubscriptionTx now subId) faults db

/-! ## Expiry -/

/-- `ORDER BY end_time ASC, id ASC`. -/
def endsFirst (a b : UserSubscription) : Prop :=
  a.endTime < b.endTime ∨ a.endTime = b.endTime ∧ a.id ≤ b.id

instance : DecidableRel endsFirst := fun a b => by unfold endsFirst; infer_instance

def UserSubscription.due (now : Int) (s : UserSubscription) : Bool :=
  s.status = .active && 0 < s.endTime && s.endTime ≤ now

def dueSubscriptions (db : Database) (now : Int) (limit : Nat) : List UserSubscription :=
  ((db.userSubscriptions.filter (·.due now)).insertionSort endsFirst).take limit

def Database.expireUserRows (db : Database) (userId : Nat) (now : Int) : Database :=
  { db with
    userSubscriptions := db.userSubscriptions.update (fun s => s.userId = userId && s.due now)
      (fun s => { s with status := .expired }) fun _ => rfl }

/-- The upgraded subscription of the user that expired last. -/
def lastExpiredUpgrade (db : Database) (userId : Nat) : Option UserSubscription :=
  ((db.userSubscriptions.filter fun s =>
      s.userId = userId && s.status = .expired && s.upgradeGroup ≠ "").insertionSort
    fun a b => endsFirst b a).head?

/-- One user's expiry; returns the group the user falls back to. Failed searches
count as empty. -/
def expireUserSubscriptionsTx (now : Int) (userId : Nat) : DbTx String := do
  Tx.exec (·.expireUserRows userId now)
  if ← Tx.queryOr (hasOtherActiveUpgrade · userId 0 now) false then pure ""
  else match ← Tx.queryOr (lastExpiredUpgrade · userId) none with
    | none => pure ""
    | some lastExpired =>
      let upgradeGroup := trimSpace lastExpired.upgradeGroup
      let prevGroup := trimSpace lastExpired.prevUserGroup
      if upgradeGroup = "" ∨ prevGroup = "" then pure "" else do
      let currentGroup ← getUserGroupByIdTx userId
      if currentGroup ≠ upgradeGroup ∨ currentGroup = prevGroup then pure "" else do
        Tx.exec (·.setUserGroup userId prevGroup)
        pure prevGroup

/-- The users' transactions one after the other, stopping at the first error. Each
one's row count is added even when it fails after its first statement. -/
def expireUsers (now : Int) (faults : Nat → List Bool) :
    List Nat → Int → Database → (Int × Option Err) × Database
  | [], count, db => ((count, none), db)
  | userId :: rest, count, db =>
    let due := (db.userSubscriptions.filter fun s => s.userId = userId && s.due now).length
    let count := if (faults userId).head? = some true then count else count + due
    match Tx.transaction (expireUserSubscriptionsTx now userId) (faults userId) db with
    | (.ok _, db) => expireUsers now faults rest count db
    | (.error e, db) => ((count, some e), db)

/-- Breakage of each listed subscription; errors are dropped. -/
def recognizeBreakages (now : Int) (faults : Nat → List Bool) :
    List UserSubscription → Database → Database
  | [], db => db
  | sub :: rest, db =>
    recognizeBreakages now faults rest
      (Tx.transaction (recognizeSubscriptionBreakageTx now sub.id) (faults sub.id) db).2

/-- `visit` is the order in which the set of user ids is walked. Returns the number
of expired rows and the error, if any. -/
def expireDueSubscriptions (cfg : Config) (now : Int) (limit : Int) (visit : List Nat → List Nat)
    (listFails : Bool) (userFaults lotFaults : Nat → List Bool) (db : Database) :
    (Int × Option Err) × Database :=
  if listFails then ((0, some .db), db)
  else
    let subs := dueSubscriptions db now (if limit ≤ 0 then 200 else limit.toNat)
    if subs = [] then ((0, none), db)
    else
      let userIds := ((subs.map UserSubscription.userId).filter (0 < ·)).eraseDups
      match expireUsers now userFaults (visit userIds) 0 db with
      | ((count, some e), db) => ((count, some e), db)
      | ((count, none), db) =>
        ((count, none),
          if cfg.breakageEnabled then recognizeBreakages now lotFaults subs db else db)

/-! ## Paid orders -/

/-- The mirror row of a completed subscription order among the top-ups. -/
def mirrorTopUp (now : Int) (order : SubscriptionOrder) : TopUp :=
  { id := 0, userId := order.userId, amount := 0, money := order.money
    paymentFeeCNY := order.paymentFeeCNY, tradeNo := order.tradeNo
    paymentMethod := order.paymentMethod, paymentProvider := .unset
    createTime := order.createTime, completeTime := now, status := .success }

def upsertSubscriptionTopUpTx (now : Int) (order : SubscriptionOrder) : DbTx Unit := do
  match ← Tx.query fun db => db.topUps.first? (·.tradeNo = order.tradeNo) with
  | none => Tx.exec fun db => { db with topUps := db.topUps.insert (mirrorTopUp now order) }
  | some topup => do
    Tx.failIf (topup.paymentMethod ≠ "" ∧ topup.paymentMethod ≠ order.paymentMethod)
      .paymentMethodMismatch
    let saved :=
      { topup with
        money := order.money, paymentFeeCNY := order.paymentFeeCNY
        paymentMethod := order.paymentMethod
        createTime := if topup.createTime = 0 then order.createTime else topup.createTime
        completeTime := now, status := .success }
    Tx.exec fun db => { db with topUps := db.topUps.save saved }

def firstOrder (tradeNo : String) : DbTx SubscriptionOrder :=
  (Tx.first (fun db => db.subscriptionOrders.first? (·.tradeNo = tradeNo))
    .subscriptionOrderNotFound).orFail .subscriptionOrderNotFound

def saveOrder (order : SubscriptionOrder) : DbTx Unit :=
  Tx.exec fun db => { db with subscriptionOrders := db.subscriptionOrders.save order }

def SubscriptionOrder.completed (order : SubscriptionOrder) (now : Int)
    (providerPayload actualPaymentMethod : String) : SubscriptionOrder :=
  { order with
    status := .success, completeTime := now
    providerPayload := if providerPayload ≠ "" then providerPayload else order.providerPayload
    paymentMethod := if actualPaymentMethod ≠ "" ∧ order.paymentMethod ≠ actualPaymentMethod
      then actualPaymentMethod else order.paymentMethod }

def fulfilSubscriptionOrderTx (cfg : Config) (now : Int) (cached : Option SubscriptionPlan)
    (order : SubscriptionOrder) (providerPayload actualPaymentMethod : String) : DbTx Unit := do
  let plan ← getSubscriptionPlanByIdTx cached order.planId
  let sub ← createUserSubscriptionFromPlanWithPaidAmountTx cfg now order.userId plan .order
    (subscriptionQuotaFromUSD cfg order.money)
  createSubscriptionLotFromOrderTx now order sub
  recordPaymentFeeLedgerForSubscriptionOrderTx now order
  upsertSubscriptionTopUpTx now order
  saveOrder (order.completed now providerPayload actualPaymentMethod)

def completeSubscriptionOrderTx (cfg : Config) (now : Int) (cached : Option SubscriptionPlan)
    (tradeNo providerPayload : String) (expectedPaymentProvider : PaymentProvider)
    (actualPaymentMethod : String) : DbTx Unit := do
  let order ← firstOrder tradeNo
  Tx.failIf (expectedPaymentProvider ≠ .unset ∧ order.paymentProvider ≠ expectedPaymentProvider)
    .paymentMethodMismatch
  if order.status = .success then pure () else do
    Tx.failIf (order.status ≠ .pending) .subscriptionOrderStatusInvalid
    fulfilSubscriptionOrderTx cfg now cached order providerPayload actualPaymentMethod

def completeSubscriptionOrder (cfg : Config) (now : Int) (cached : Option SubscriptionPlan)
    (tradeNo providerPayload : String) (expectedPaymentProvider : PaymentProvider)
    (actualPaymentMethod : String) (faults : List Bool) (db : Database) :
    Except Err Unit × Database :=
  if tradeNo = "" then (.error (.msg "tradeNo is empty"), db)
  else Tx.transaction (completeSubscriptionOrderTx cfg now cached tradeNo providerPayload
    expectedPaymentProvider actualPaymentMethod) faults db

def expireSubscriptionOrderTx (now : Int) (tradeNo : String)
    (expectedPaymentProvider : PaymentProvider) : DbTx Unit := do
  let order ← firstOrder tradeNo
  Tx.failIf (expectedPaymentProvider ≠ .unset ∧ order.paymentProvider ≠ expectedPaymentProvider)
    .paymentMethodMismatch
  if order.status ≠ .pending then pure ()
  else saveOrder { order with status := .expired, completeTime := now }

def expireSubscriptionOrder (now : Int) (tradeNo : String)
    (expectedPaymentProvider : PaymentProvider) (faults : List Bool) (db : Database) :
    Except Err Unit × Database :=
  if tradeNo = "" then (.error (.msg "tradeNo is empty"), db)
  else Tx.transaction (expireSubscriptionOrderTx now tradeNo expectedPaymentProvider) faults db

end Xingkong
