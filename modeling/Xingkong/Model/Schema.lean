import Xingkong.Lib.Table
import Xingkong.Lib.Tx
import Mathlib.Data.List.Infix
import Mathlib.Data.Rat.Floor

/-!
# The stored rows

One structure per stored row type, with the columns that the modelled functions
read or write. Quotas are integers and money is an exact rational. Enumerated
text columns are inductive types; a top-up status may also be any other text,
since one entry point writes the status it is given.

`Database` is what one server's database holds, together with the two batch
stores of pending relative updates that the server keeps in memory.
-/

namespace Xingkong

open Rdb

/-! ## Errors -/

inductive Err
  | db
  | recordNotFound
  | paymentMethodMismatch
  | topUpNotFound
  | topUpStatusInvalid
  | subscriptionOrderNotFound
  | subscriptionOrderStatusInvalid
  | redeemFailed
  /-- `subscription quota insufficient, need=…`. -/
  | quotaInsufficient (need : Int)
  /-- `subscription … limit exceeded`, for one of the rolling windows. -/
  | limitExceeded (label : String)
  | msg (text : String)
  deriving DecidableEq, Repr

instance : DbError Err := ⟨.db⟩

/-! ## Text -/

/-- The code points `unicode.IsSpace` accepts. -/
def isSpace (c : Char) : Bool :=
  c.toNat ∈ [0x09, 0x0A, 0x0B, 0x0C, 0x0D, 0x20, 0x85, 0xA0, 0x1680, 0x2000, 0x2001, 0x2002,
    0x2003, 0x2004, 0x2005, 0x2006, 0x2007, 0x2008, 0x2009, 0x200A, 0x2028, 0x2029, 0x202F,
    0x205F, 0x3000]

/-- `strings.TrimSpace`. -/
def trimSpace (s : String) : String :=
  String.ofList ((s.toList.dropWhile isSpace).reverse.dropWhile isSpace).reverse

/-- `strings.Contains`. -/
def containsText (s sub : String) : Bool := decide (sub.toList <:+: s.toList)

/-! ## Users, tokens and channels -/

structure User where
  id : Nat
  role : Int
  quota : Int
  group : String
  email : String
  stripeCustomer : String
  /-- Soft deletion: `deleted_at` is set. -/
  deleted : Bool
  usedQuota : Int := 0
  requestCount : Int := 0
  affCount : Int := 0
  affQuota : Int := 0
  affHistoryQuota : Int := 0
  deriving DecidableEq, Repr

def roleAdminUser : Int := 10

structure Token where
  id : Nat
  key : String
  unlimitedQuota : Bool
  remainQuota : Int
  usedQuota : Int
  deriving DecidableEq, Repr

structure Channel where
  id : Nat
  usedQuota : Int
  deriving DecidableEq, Repr

/-! ## Top-ups and redemption codes -/

inductive TopUpStatus
  | pending
  | success
  | failed
  | expired
  | other (text : String)
  deriving DecidableEq, Repr

/-- The payment provider column; `unset` is the empty text. -/
inductive PaymentProvider
  | unset
  | epay
  | stripe
  | creem
  | waffo
  | waffoPancake
  deriving DecidableEq, Repr

structure TopUp where
  id : Nat
  userId : Nat
  amount : Int
  money : ℚ
  paymentFeeCNY : ℚ
  tradeNo : String
  paymentMethod : String
  paymentProvider : PaymentProvider
  createTime : Int
  completeTime : Int
  status : TopUpStatus
  deriving DecidableEq, Repr

inductive RedemptionStatus
  | enabled
  | disabled
  | used
  deriving DecidableEq, Repr

inductive RedemptionPurpose
  | gift
  | externalSale
  deriving DecidableEq, Repr

structure Redemption where
  id : Nat
  key : String
  status : RedemptionStatus
  quota : Int
  purpose : RedemptionPurpose
  salePriceCNY : ℚ
  redeemedTime : Int
  usedUserId : Nat
  deleted : Bool
  expiredTime : Int
  deriving DecidableEq, Repr

/-! ## Subscriptions -/

inductive DurationUnit
  | year
  | month
  | day
  | hour
  | custom
  deriving DecidableEq, Repr

structure SubscriptionPlan where
  id : Nat
  priceAmount : ℚ
  durationUnit : DurationUnit
  durationValue : Int
  customSeconds : Int
  enabled : Bool
  maxPurchasePerUser : Int
  upgradeGroup : String
  modelLimitsEnabled : Bool
  modelLimits : String
  totalAmount : Int
  fiveHourAmount : Int
  dailyAmount : Int
  weeklyAmount : Int
  deriving DecidableEq, Repr

structure SubscriptionOrder where
  id : Nat
  userId : Nat
  planId : Nat
  money : ℚ
  paymentFeeCNY : ℚ
  tradeNo : String
  paymentMethod : String
  paymentProvider : PaymentProvider
  status : TopUpStatus
  createTime : Int
  completeTime : Int
  providerPayload : String
  deriving DecidableEq, Repr

inductive SubscriptionStatus
  | active
  | expired
  | cancelled
  deriving DecidableEq, Repr

inductive SubscriptionSource
  | order
  | wallet
  | admin
  deriving DecidableEq, Repr

structure UserSubscription where
  id : Nat
  userId : Nat
  planId : Nat
  amountTotal : Int
  amountUsed : Int
  amountFiveHourLimit : Int
  amountDailyLimit : Int
  amountWeeklyLimit : Int
  paidAmount : Int
  startTime : Int
  endTime : Int
  status : SubscriptionStatus
  source : SubscriptionSource
  upgradeGroup : String
  prevUserGroup : String
  modelLimitsEnabled : Bool
  modelLimits : String
  deriving DecidableEq, Repr

inductive PreConsumeStatus
  | consumed
  | refunded
  deriving DecidableEq, Repr

structure SubscriptionPreConsumeRecord where
  id : Nat
  requestId : String
  userId : Nat
  userSubscriptionId : Nat
  preConsumed : Int
  status : PreConsumeStatus
  deriving DecidableEq, Repr

inductive LedgerAction
  | preConsume
  | settle
  | refund
  deriving DecidableEq, Repr

structure SubscriptionUsageLedger where
  id : Nat
  userId : Nat
  userSubscriptionId : Nat
  requestId : String
  delta : Int
  action : LedgerAction
  createdAt : Int
  deriving DecidableEq, Repr

/-! ## Profit accounting -/

inductive LotSource
  | topUp
  | gift
  | redemptionGift
  | redemptionSale
  | subscriptionRefund
  deriving DecidableEq, Repr

structure WalletLot where
  id : Nat
  userId : Nat
  sourceType : LotSource
  sourceId : Nat
  quotaTotal : Int
  quotaRemaining : Int
  grossCNYBasis : ℚ
  grossCNYRemaining : ℚ
  paymentFeeCNY : ℚ
  cashNetCNY : ℚ
  createdAt : Int
  deriving DecidableEq, Repr

structure SubscriptionLot where
  id : Nat
  userId : Nat
  userSubscriptionId : Nat
  planId : Nat
  sourceType : SubscriptionSource
  paidQuota : Int
  remainingQuota : Int
  grossCNYBasis : ℚ
  grossCNYRemaining : ℚ
  paymentFeeCNY : ℚ
  cashNetCNY : ℚ
  status : SubscriptionStatus
  startTime : Int
  endTime : Int
  createdAt : Int
  deriving DecidableEq, Repr

inductive LotType
  | wallet
  | subscription
  | admin
  deriving DecidableEq, Repr

structure UsageSettlement where
  id : Nat
  userId : Nat
  requestId : String
  sourceLotType : LotType
  sourceLotId : Nat
  promptTokens : Int
  completionTokens : Int
  cacheReadTokens : Int
  cacheWriteTokens : Int
  quotaUsed : Int
  realizedRevenueCNY : ℚ
  upstreamCostUSD : ℚ
  upstreamCostCNY : ℚ
  requestGrossProfitCNY : ℚ
  createdAt : Int
  deriving DecidableEq, Repr

inductive FinanceType
  | paymentFee
  | refundFeeLoss
  | aftersaleRefund
  | manualCompensation
  deriving DecidableEq, Repr

inductive RelatedType
  | topUp
  | subscriptionOrder
  deriving DecidableEq, Repr

structure FinanceLedger where
  id : Nat
  userId : Nat
  type : FinanceType
  relatedType : RelatedType
  relatedId : Nat
  amountCNY : ℚ
  createdAt : Int
  deriving DecidableEq, Repr

structure BreakageSettlement where
  id : Nat
  userId : Nat
  sourceLotType : LotType
  sourceLotId : Nat
  amountCNY : ℚ
  createdAt : Int
  deriving DecidableEq, Repr

/-! ## Primary keys -/

instance : Row User := ⟨(·.id), fun n r => { r with id := n }, fun _ _ => rfl⟩
instance : Row Token := ⟨(·.id), fun n r => { r with id := n }, fun _ _ => rfl⟩
instance : Row Channel := ⟨(·.id), fun n r => { r with id := n }, fun _ _ => rfl⟩
instance : Row TopUp := ⟨(·.id), fun n r => { r with id := n }, fun _ _ => rfl⟩
instance : Row Redemption := ⟨(·.id), fun n r => { r with id := n }, fun _ _ => rfl⟩
instance : Row SubscriptionPlan := ⟨(·.id), fun n r => { r with id := n }, fun _ _ => rfl⟩
instance : Row SubscriptionOrder := ⟨(·.id), fun n r => { r with id := n }, fun _ _ => rfl⟩
instance : Row UserSubscription := ⟨(·.id), fun n r => { r with id := n }, fun _ _ => rfl⟩
instance : Row SubscriptionPreConsumeRecord :=
  ⟨(·.id), fun n r => { r with id := n }, fun _ _ => rfl⟩
instance : Row SubscriptionUsageLedger := ⟨(·.id), fun n r => { r with id := n }, fun _ _ => rfl⟩
instance : Row WalletLot := ⟨(·.id), fun n r => { r with id := n }, fun _ _ => rfl⟩
instance : Row SubscriptionLot := ⟨(·.id), fun n r => { r with id := n }, fun _ _ => rfl⟩
instance : Row UsageSettlement := ⟨(·.id), fun n r => { r with id := n }, fun _ _ => rfl⟩
instance : Row FinanceLedger := ⟨(·.id), fun n r => { r with id := n }, fun _ _ => rfl⟩
instance : Row BreakageSettlement := ⟨(·.id), fun n r => { r with id := n }, fun _ _ => rfl⟩

/-! ## The database -/

structure Database where
  users : Table User
  tokens : Table Token
  channels : Table Channel
  topUps : Table TopUp
  redemptions : Table Redemption
  plans : Table SubscriptionPlan
  subscriptionOrders : Table SubscriptionOrder
  userSubscriptions : Table UserSubscription
  preConsumeRecords : Table SubscriptionPreConsumeRecord
  usageLedgers : Table SubscriptionUsageLedger
  walletLots : Table WalletLot
  subscriptionLots : Table SubscriptionLot
  usageSettlements : Table UsageSettlement
  financeLedgers : Table FinanceLedger
  breakageSettlements : Table BreakageSettlement
  /-- Pending relative updates of users' and tokens' quotas (batch mode). -/
  batchUserQuota : Nat → Int
  batchTokenQuota : Nat → Int

namespace Database

def empty : Database where
  users := .empty
  tokens := .empty
  channels := .empty
  topUps := .empty
  redemptions := .empty
  plans := .empty
  subscriptionOrders := .empty
  userSubscriptions := .empty
  preConsumeRecords := .empty
  usageLedgers := .empty
  walletLots := .empty
  subscriptionLots := .empty
  usageSettlements := .empty
  financeLedgers := .empty
  breakageSettlements := .empty
  batchUserQuota _ := 0
  batchTokenQuota _ := 0

end Database

/-- Settings and clock arithmetic the modelled functions read. -/
structure Config where
  /-- `common.QuotaPerUnit`: quota of one dollar. -/
  quotaPerUnit : ℚ
  /-- `common.BatchUpdateEnabled`. -/
  batchUpdateEnabled : Bool
  /-- The profit setting that turns breakage recognition on. -/
  breakageEnabled : Bool
  /-- How the database stores a fractional amount added to an integer column. -/
  storeInt : ℚ → Int
  /-- `time.AddDate` of so many years and months. -/
  addDate : Int → Int → Int → Int
  /-- `ratio_setting.FormatMatchingModelName`. -/
  formatMatchingModelName : String → String
  /-- `logger.FormatQuota`: quota in the currency that is displayed. -/
  formatQuota : Int → String

def intPart (q : ℚ) : Int := q.num.tdiv q.den

theorem intPart_of_nonneg {q : ℚ} (h : 0 ≤ q) : intPart q = ⌊q⌋ := by
  rw [intPart, Int.tdiv_eq_ediv_of_nonneg (Rat.num_nonneg.mpr h), Rat.floor_def']

theorem intPart_neg (q : ℚ) : intPart (-q) = -intPart q := Int.neg_tdiv q.num q.den

/-- Settings to compute with: half a million quota for a dollar (an option; the source starts with
10000) displayed as it is, and a calendar of 365-day years and 30-day months. -/
def Config.fresh : Config where
  quotaPerUnit := 500000
  batchUpdateEnabled := false
  breakageEnabled := true
  storeInt := intPart
  addDate start years months := start + years * 31536000 + months * 2592000
  formatMatchingModelName := id
  formatQuota := toString

abbrev DbTx := Tx Database Err

end Xingkong
