import Xingkong.Model.Subscription

/-!
# Top-up orders and redemption codes

Each payment provider has its own function that completes a pending top-up order;
an administrator can complete any order by hand, and one more function moves a pending
order to another status. Completing an order saves its new status, credits the owner and
records the lot and the fee, all in one transaction.

Follows `model/topup.go`, `Redeem` of `model/redemption.go` and `EpayNotify` of
`controller/topup.go`.
-/

namespace Xingkong

open Rdb

def saveTopUp (topUp : TopUp) : DbTx Unit :=
  Tx.exec fun db => { db with topUps := db.topUps.save topUp }

def firstTopUp (tradeNo : String) (missing : Err) : DbTx TopUp :=
  (Tx.first (fun db => db.topUps.first? (·.tradeNo = tradeNo)) missing).orFail missing

def updatePendingTopUpStatusTx (tradeNo : String) (expectedPaymentProvider : PaymentProvider)
    (targetStatus : TopUpStatus) : DbTx Unit := do
  let topUp ← firstTopUp tradeNo .topUpNotFound
  Tx.failIf (expectedPaymentProvider ≠ .unset ∧ topUp.paymentProvider ≠ expectedPaymentProvider)
    .paymentMethodMismatch
  Tx.failIf (topUp.status ≠ .pending) .topUpStatusInvalid
  saveTopUp { topUp with status := targetStatus }

def updatePendingTopUpStatus (tradeNo : String) (expectedPaymentProvider : PaymentProvider)
    (targetStatus : TopUpStatus) (faults : List Bool) (db : Database) :
    Except Err Unit × Database :=
  if tradeNo = "" then (.error (.msg "未提供支付单号"), db)
  else Tx.transaction (updatePendingTopUpStatusTx tradeNo expectedPaymentProvider targetStatus)
    faults db

/-! ## Completion -/

/-- Rewrite the owner's row: the columns `f` sets and the credit. -/
def creditOwner (userId : Nat) (quota : Int) (f : User → User) (hf : ∀ u, (f u).id = u.id) :
    DbTx Unit :=
  Tx.exec (·.updateLiveUser userId (fun u => (f u).credit quota) hf)

def TopUp.succeeded (topUp : TopUp) (now : Int) : TopUp :=
  { topUp with completeTime := now, status := .success }

/-- What every completion does after its checks: `quota` is credited to the owner and
`lotQuota` becomes the lot. -/
def completeTopUpTx (now : Int) (topUp : TopUp) (quota lotQuota : Int) (f : User → User)
    (hf : ∀ u, (f u).id = u.id) : DbTx Unit := do
  saveTopUp (topUp.succeeded now)
  creditOwner topUp.userId quota f hf
  createWalletLotFromTopUpTx now (topUp.succeeded now) lotQuota .topUp
  recordPaymentFeeLedgerForTopUpTx now (topUp.succeeded now)

/-- The message a provider's function answers for every error of its transaction. -/
def rechargeFailed : Err := .msg "充值失败，请稍后重试"

/-- Run a provider's transaction under its trade number. -/
def rechargeWith (tradeNo : String) (body : DbTx Unit) (faults : List Bool) (db : Database) :
    Except Err Unit × Database :=
  if tradeNo = "" then (.error (.msg "未提供支付单号"), db)
  else Tx.reportAs rechargeFailed (Tx.transaction body faults db)

/-- The quota of a Stripe order is a product of floats; the column stores it as the
database does, the lot truncates it. -/
def rechargeTx (cfg : Config) (now : Int) (referenceId customerId : String) : DbTx Unit := do
  let topUp ← firstTopUp referenceId (.msg "充值订单不存在")
  Tx.failIf (topUp.paymentProvider ≠ .stripe) .paymentMethodMismatch
  Tx.failIf (topUp.status ≠ .pending) (.msg "充值订单状态错误")
  let quota := topUp.money * cfg.quotaPerUnit
  completeTopUpTx now topUp (cfg.storeInt quota) (intPart quota)
    (fun u => { u with stripeCustomer := customerId }) fun _ => rfl

def recharge (cfg : Config) (now : Int) (referenceId customerId : String) (faults : List Bool)
    (db : Database) : Except Err Unit × Database :=
  rechargeWith referenceId (rechargeTx cfg now referenceId customerId) faults db

/-- The e-mail of the payment is to fill an empty one; the look-up of the user may fail. -/
def creemEmailTx (userId : Nat) (customerEmail : String) : DbTx (Option String) :=
  if customerEmail = "" then pure none else do
    let user ← Tx.first (·.liveUser? userId) .recordNotFound
    pure (if user.email = "" then some customerEmail else none)

def rechargeCreemTx (now : Int) (referenceId customerEmail : String) : DbTx Unit := do
  let topUp ← firstTopUp referenceId (.msg "充值订单不存在")
  Tx.failIf (topUp.paymentProvider ≠ .creem) .paymentMethodMismatch
  Tx.failIf (topUp.status ≠ .pending) (.msg "充值订单状态错误")
  let saved := topUp.succeeded now
  saveTopUp saved
  let email ← creemEmailTx saved.userId customerEmail
  creditOwner saved.userId saved.amount (fun u => { u with email := email.getD u.email })
    fun _ => rfl
  createWalletLotFromTopUpTx now saved saved.amount .topUp
  recordPaymentFeeLedgerForTopUpTx now saved

def rechargeCreem (now : Int) (referenceId customerEmail : String) (faults : List Bool)
    (db : Database) : Except Err Unit × Database :=
  rechargeWith referenceId (rechargeCreemTx now referenceId customerEmail) faults db

def amountQuota (cfg : Config) (topUp : TopUp) : Int := intPart (topUp.amount * cfg.quotaPerUnit)

/-- The two Waffo functions: an order that already succeeded is answered without effect. -/
def rechargeAmountTx (cfg : Config) (now : Int) (provider : PaymentProvider) (tradeNo : String) :
    DbTx Unit := do
  let topUp ← firstTopUp tradeNo (.msg "充值订单不存在")
  Tx.failIf (topUp.paymentProvider ≠ provider) .paymentMethodMismatch
  if topUp.status = .success then pure () else do
    Tx.failIf (topUp.status ≠ .pending) (.msg "充值订单状态错误")
    Tx.failIf (amountQuota cfg topUp ≤ 0) (.msg "无效的充值额度")
    completeTopUpTx now topUp (amountQuota cfg topUp) (amountQuota cfg topUp) id fun _ => rfl

def rechargeWaffo (cfg : Config) (now : Int) (tradeNo : String) (faults : List Bool)
    (db : Database) : Except Err Unit × Database :=
  rechargeWith tradeNo (rechargeAmountTx cfg now .waffo tradeNo) faults db

def rechargeWaffoPancake (cfg : Config) (now : Int) (tradeNo : String) (faults : List Bool)
    (db : Database) : Except Err Unit × Database :=
  rechargeWith tradeNo (rechargeAmountTx cfg now .waffoPancake tradeNo) faults db

/-- A Stripe order carries its dollars in `money`, the others in `amount`. -/
def manualQuota (cfg : Config) (topUp : TopUp) : Int :=
  if topUp.paymentProvider = .stripe then intPart (topUp.money * cfg.quotaPerUnit)
  else amountQuota cfg topUp

def completeByHandTx (cfg : Config) (now : Int) (topUp : TopUp) : DbTx Unit :=
  if topUp.status = .success then pure () else do
    Tx.failIf (topUp.status ≠ .pending) (.msg "订单状态不是待支付，无法补单")
    Tx.failIf (manualQuota cfg topUp ≤ 0) (.msg "无效的充值额度")
    completeTopUpTx now topUp (manualQuota cfg topUp) (manualQuota cfg topUp) id fun _ => rfl

def manualCompleteTopUpTx (cfg : Config) (now : Int) (tradeNo : String) : DbTx Unit := do
  let topUp ← firstTopUp tradeNo (.msg "充值订单不存在")
  completeByHandTx cfg now topUp

def manualCompleteTopUp (cfg : Config) (now : Int) (tradeNo : String) (faults : List Bool)
    (db : Database) : Except Err Unit × Database :=
  if tradeNo = "" then (.error (.msg "未提供订单号"), db)
  else Tx.transaction (manualCompleteTopUpTx cfg now tradeNo) faults db

/-! ## The Epay webhook -/

/-- The row the webhook saves before it credits: the status, and the way it was really paid. -/
def TopUp.epayPaid (topUp : TopUp) (paymentType : String) : TopUp :=
  { topUp with paymentMethod := paymentType, status := .success }

/-- The webhook's credit, a transaction of its own after the save. -/
def epayCreditTx (cfg : Config) (now : Int) (topUp : TopUp) : DbTx Unit := do
  Tx.exec (·.addUserQuota topUp.userId (amountQuota cfg topUp))
  createWalletLotFromTopUpTx now topUp (amountQuota cfg topUp) .topUp
  recordPaymentFeeLedgerForTopUpTx now topUp

/-! ## Redemption codes -/

def redeemTx (now : Int) (key : String) (userId : Nat) : DbTx Int := do
  let redemption ← (Tx.first
    (fun db => db.redemptions.first? fun r => r.key = key && !r.deleted)
    (.msg "无效的兑换码")).orFail (.msg "无效的兑换码")
  Tx.failIf (redemption.status ≠ .enabled) (.msg "该兑换码已被使用")
  Tx.failIf (redemption.expiredTime ≠ 0 ∧ redemption.expiredTime < now) (.msg "该兑换码已过期")
  Tx.exec (·.addUserQuota userId redemption.quota)
  createWalletLotFromRedemptionTx now redemption userId
  let saved := { redemption with redeemedTime := now, status := .used, usedUserId := userId }
  Tx.exec fun db => { db with redemptions := db.redemptions.save saved }
  pure redemption.quota

def redeem (now : Int) (key : String) (userId : Nat) (faults : List Bool) (db : Database) :
    Except Err Int × Database :=
  if key = "" then (.error (.msg "未提供兑换码"), db)
  else if userId = 0 then (.error (.msg "无效的 user id"), db)
  else Tx.reportAs .redeemFailed (Tx.transaction (redeemTx now key userId) faults db)

end Xingkong
