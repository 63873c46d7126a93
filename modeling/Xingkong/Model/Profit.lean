import Xingkong.Model.Schema
import Mathlib.Data.List.Sort
import Mathlib.Algebra.Order.Ring.Rat

/-!
# Profit accounting: wallet and subscription lots

Every quota a user can spend is backed by lots. A lot knows how much quota it
still holds and which part of the money paid for it has not been recognised yet.
Spending quota draws on lots and splits the money in proportion; the share goes to
a usage settlement, to another lot, or is released.

The statements of this file follow `model/profit.go`. Three functions walk a list
of wallet lots in the same way, so that loop is `drawLots`; each of them supplies
its own query, order and use of the shares.
-/

namespace Xingkong

open Rdb

def User.credit (u : User) (quota : Int) : User := { u with quota := u.quota + quota }

namespace Database

/-- The row `WHERE id = ?` finds: soft deletion hides users. -/
def liveUser? (db : Database) (userId : Nat) : Option User :=
  db.users.first? fun u => u.id = userId && !u.deleted

/-- Administrators are exempt from profit accounting. A missing user has role 0. -/
def exempt (db : Database) (userId : Nat) : Bool :=
  roleAdminUser ≤ ((db.liveUser? userId).map User.role).getD 0

/-- `UPDATE users SET … WHERE id = ?`. -/
def updateLiveUser (db : Database) (userId : Nat) (f : User → User) (hf : ∀ u, (f u).id = u.id) :
    Database :=
  { db with users := db.users.update (fun u => u.id = userId && !u.deleted) f hf }

/-- `UPDATE users SET quota = quota + ? WHERE id = ?`. -/
def addUserQuota (db : Database) (userId : Nat) (quota : Int) : Database :=
  db.updateLiveUser userId (·.credit quota) fun _ => rfl

/-- The quota of a user's lots that still have some. -/
def coveredQuota (db : Database) (userId : Nat) : Int :=
  db.walletLots.sum fun l =>
    if l.userId = userId ∧ 0 < l.quotaRemaining then l.quotaRemaining else 0

end Database

/-- A failed role query counts as "not exempt". -/
def isProfitExemptUserTx (userId : Nat) : DbTx Bool :=
  if userId = 0 then pure false else Tx.queryOr (·.exempt userId) false

def unlessExempt (userId : Nat) (body : DbTx Unit) : DbTx Unit := do
  if ← isProfitExemptUserTx userId then pure () else body

/-! ## Creating lots -/

def createWalletLot (lot : WalletLot) : DbTx Unit :=
  Tx.exec fun db => { db with walletLots := db.walletLots.insert lot }

/-- `FirstOrCreate` of a wallet lot under a condition: a query, and an insert if it finds none. -/
def firstOrCreateWalletLot (p : WalletLot → Bool) (lot : WalletLot) : DbTx Unit := do
  match ← Tx.query (·.walletLots.first? p) with
  | some _ => pure ()
  | none => createWalletLot lot

def saveWalletLot (lot : WalletLot) : DbTx Unit :=
  Tx.exec fun db => { db with walletLots := db.walletLots.save lot }

/-- `FirstOrCreate` of a subscription lot by its subscription. -/
def firstOrCreateSubscriptionLot (lot : SubscriptionLot) : DbTx Unit := do
  match ← Tx.query (·.subscriptionLots.first? (·.userSubscriptionId = lot.userSubscriptionId)) with
  | some _ => pure ()
  | none => Tx.exec fun db => { db with subscriptionLots := db.subscriptionLots.insert lot }

def saveSubscriptionLot (lot : SubscriptionLot) : DbTx Unit :=
  Tx.exec fun db => { db with subscriptionLots := db.subscriptionLots.save lot }

def topUpLot (now : Int) (topUp : TopUp) (quota : Int) (sourceType : LotSource) : WalletLot :=
  { id := 0, userId := topUp.userId, sourceType, sourceId := topUp.id
    quotaTotal := quota, quotaRemaining := quota
    grossCNYBasis := topUp.money, grossCNYRemaining := topUp.money
    paymentFeeCNY := max topUp.paymentFeeCNY 0
    cashNetCNY := topUp.money - max topUp.paymentFeeCNY 0
    createdAt := now }

def createWalletLotFromTopUpTx (now : Int) (topUp : TopUp) (quota : Int)
    (sourceType : LotSource) : DbTx Unit :=
  if quota ≤ 0 then pure () else
  unlessExempt topUp.userId <|
    firstOrCreateWalletLot (fun l => l.sourceType = sourceType && l.sourceId = topUp.id)
      (topUpLot now topUp quota sourceType)

/-- Only a code that was sold has money behind it. -/
def Redemption.gross (r : Redemption) : ℚ := if r.purpose = .externalSale then r.salePriceCNY else 0

def Redemption.lotSource (r : Redemption) : LotSource :=
  if r.purpose = .externalSale then .redemptionSale else .redemptionGift

def redemptionLot (now : Int) (redemption : Redemption) (userId : Nat) : WalletLot :=
  { id := 0, userId, sourceType := redemption.lotSource, sourceId := redemption.id
    quotaTotal := redemption.quota, quotaRemaining := redemption.quota
    grossCNYBasis := redemption.gross, grossCNYRemaining := redemption.gross
    paymentFeeCNY := 0, cashNetCNY := redemption.gross
    createdAt := now }

def createWalletLotFromRedemptionTx (now : Int) (redemption : Redemption) (userId : Nat) :
    DbTx Unit :=
  if userId = 0 ∨ redemption.quota ≤ 0 then pure () else
  unlessExempt userId <|
    firstOrCreateWalletLot
      (fun l => l.sourceType = redemption.lotSource && l.sourceId = redemption.id)
      (redemptionLot now redemption userId)

def subscriptionLot (now : Int) (sub : UserSubscription) (userId : Nat)
    (sourceType : SubscriptionSource) (paidQuota : Int) (gross fee net : ℚ) : SubscriptionLot :=
  { id := 0, userId, userSubscriptionId := sub.id, planId := sub.planId, sourceType
    paidQuota, remainingQuota := paidQuota
    grossCNYBasis := gross, grossCNYRemaining := gross
    paymentFeeCNY := fee, cashNetCNY := net
    status := sub.status, startTime := sub.startTime, endTime := sub.endTime
    createdAt := now }

def orderLot (now : Int) (order : SubscriptionOrder) (sub : UserSubscription) : SubscriptionLot :=
  subscriptionLot now sub sub.userId .order sub.paidAmount order.money (max order.paymentFeeCNY 0)
    (order.money - max order.paymentFeeCNY 0)

def createSubscriptionLotFromOrderTx (now : Int) (order : SubscriptionOrder)
    (sub : UserSubscription) : DbTx Unit :=
  if sub.paidAmount ≤ 0 then pure () else
  unlessExempt sub.userId <| firstOrCreateSubscriptionLot (orderLot now order sub)

def createSubscriptionLotFromAdminTx (now : Int) (sub : UserSubscription) : DbTx Unit :=
  unlessExempt sub.userId <|
    firstOrCreateSubscriptionLot (subscriptionLot now sub sub.userId .admin sub.paidAmount 0 0 0)

def grantLot (now : Int) (userId : Nat) (quota : Int) (sourceType : LotSource) : WalletLot :=
  { id := 0, userId, sourceType, sourceId := 0, quotaTotal := quota, quotaRemaining := quota
    grossCNYBasis := 0, grossCNYRemaining := 0, paymentFeeCNY := 0, cashNetCNY := 0
    createdAt := now }

def createWalletLotFromQuotaGrantTx (now : Int) (userId : Nat) (quota : Int)
    (sourceType : LotSource) : DbTx Unit :=
  if userId = 0 ∨ quota ≤ 0 then pure () else
  unlessExempt userId <| createWalletLot (grantLot now userId quota sourceType)

/-! ## Drawing on lots -/

/-- The money that goes with `useQuota` of the remaining quota. -/
def allocateLotPortion (grossRemaining : ℚ) (quotaRemaining useQuota : Int) : ℚ :=
  if quotaRemaining ≤ 0 ∨ useQuota ≤ 0 ∨ grossRemaining ≤ 0 then 0
  else grossRemaining * useQuota / quotaRemaining

/-- An emptied lot drops a rounding residue. -/
def clearResidue (quotaRemaining : Int) (grossRemaining : ℚ) : ℚ :=
  if quotaRemaining = 0 ∧ grossRemaining < 1 / 1000000 then 0 else grossRemaining

/-- One lot's part in a draw: the row as read and as saved, the quota used and
the money that goes with it. -/
structure Draw where
  before : WalletLot
  lot : WalletLot
  useQuota : Int
  portion : ℚ
  deriving DecidableEq

def takeFromLot (lot : WalletLot) (remaining : Int) : Draw :=
  let useQuota := min remaining lot.quotaRemaining
  let portion := allocateLotPortion lot.grossCNYRemaining lot.quotaRemaining useQuota
  { before := lot, useQuota, portion
    lot := { lot with
      quotaRemaining := lot.quotaRemaining - useQuota
      grossCNYRemaining :=
        clearResidue (lot.quotaRemaining - useQuota) (lot.grossCNYRemaining - portion) } }

/-- Draw on the lots in order until `remaining` is used up. `skipEmpty` is the
loops' test for lots without quota, which the admin reduction does not make. -/
def drawLots (skipEmpty : Bool) : List WalletLot → Int → DbTx (List Draw × Int)
  | [], remaining => pure ([], remaining)
  | lot :: lots, remaining =>
    if remaining ≤ 0 then pure ([], remaining)
    else if skipEmpty ∧ lot.quotaRemaining ≤ 0 then drawLots skipEmpty lots remaining
    else do
      let d := takeFromLot lot remaining
      saveWalletLot d.lot
      let rest ← drawLots skipEmpty lots (remaining - d.useQuota)
      pure (d :: rest.1, rest.2)

/-- `ORDER BY created_at ASC, id ASC`. -/
def olderFirst (a b : WalletLot) : Prop :=
  a.createdAt < b.createdAt ∨ a.createdAt = b.createdAt ∧ a.id ≤ b.id

instance : DecidableRel olderFirst := fun a b => by unfold olderFirst; infer_instance

/-- `ORDER BY gross_cny_remaining <= 0 DESC, created_at DESC, id DESC`. -/
def giftThenNewerFirst (a b : WalletLot) : Prop :=
  (a.grossCNYRemaining ≤ 0 ∧ ¬ b.grossCNYRemaining ≤ 0) ∨
    ((a.grossCNYRemaining ≤ 0 ↔ b.grossCNYRemaining ≤ 0) ∧ olderFirst b a)

instance : DecidableRel giftThenNewerFirst := fun a b => by
  unfold giftThenNewerFirst; infer_instance

/-- The paid lots, oldest first, and then the gift lots, oldest first. -/
def spendableLots (db : Database) (userId : Nat) : List WalletLot :=
  ((db.walletLots.filter fun l =>
      l.userId = userId && 0 < l.quotaRemaining && 0 < l.grossCNYRemaining).insertionSort
    olderFirst) ++
  ((db.walletLots.filter fun l =>
      l.userId = userId && 0 < l.quotaRemaining && l.grossCNYRemaining ≤ 0).insertionSort
    olderFirst)

/-- The two queries of `getSpendableWalletLotsTx`, appended as its callers do. -/
def getSpendableWalletLotsTx (userId : Nat) : DbTx (List WalletLot) := do
  Tx.stmt
  Tx.query (spendableLots · userId)

def totalPortion (ds : List Draw) : ℚ := (ds.map Draw.portion).sum

def createSubscriptionLotFromWalletTx (now : Int) (userId : Nat) (sub : UserSubscription)
    (paidQuota : Int) : DbTx Unit :=
  if userId = 0 ∨ paidQuota ≤ 0 then pure () else
  unlessExempt userId do
    let lots ← getSpendableWalletLotsTx userId
    let drawn ← drawLots true lots paidQuota
    Tx.failIf (0 < drawn.2) (.msg "wallet lots are insufficient for subscription transfer")
    firstOrCreateSubscriptionLot
      (subscriptionLot now sub userId .wallet paidQuota (totalPortion drawn.1) 0 0)

/-- The first lot row of a subscription; no row is not an error to the callers. -/
def findSubscriptionLot (userSubscriptionId : Nat) : DbTx (Option SubscriptionLot) :=
  Tx.query fun db => db.subscriptionLots.first? (·.userSubscriptionId = userSubscriptionId)

def SubscriptionLot.take (lot : SubscriptionLot) (useQuota : Int) (portion : ℚ) :
    SubscriptionLot :=
  { lot with
    remainingQuota := lot.remainingQuota - useQuota
    grossCNYRemaining :=
      clearResidue (lot.remainingQuota - useQuota) (lot.grossCNYRemaining - portion) }

def refundLot (now : Int) (sub : UserSubscription) (quota : Int) (gross : ℚ) : WalletLot :=
  { id := 0, userId := sub.userId, sourceType := .subscriptionRefund, sourceId := sub.id
    quotaTotal := quota, quotaRemaining := quota
    grossCNYBasis := gross, grossCNYRemaining := gross, paymentFeeCNY := 0, cashNetCNY := 0
    createdAt := now }

def transferSubscriptionLotToWalletTx (now : Int) (sub : UserSubscription) (refundQuota : Int) :
    DbTx Unit :=
  if refundQuota ≤ 0 then pure () else
  unlessExempt sub.userId do
    match ← findSubscriptionLot sub.id with
    | none => pure ()
    | some lot =>
      if lot.remainingQuota ≤ 0 then pure () else do
        let useQuota := min refundQuota lot.remainingQuota
        let portion := allocateLotPortion lot.grossCNYRemaining lot.remainingQuota useQuota
        saveSubscriptionLot { lot.take useQuota portion with status := .cancelled }
        createWalletLot (refundLot now sub useQuota portion)

def recognizeSubscriptionBreakageTx (now : Int) (userSubscriptionId : Nat) : DbTx Unit :=
  if userSubscriptionId = 0 then pure () else do
  match ← findSubscriptionLot userSubscriptionId with
  | none => pure ()
  | some lot =>
    if lot.remainingQuota ≤ 0 ∨ lot.grossCNYRemaining ≤ 0 then
      if lot.status = .expired then pure ()
      else saveSubscriptionLot { lot with status := .expired }
    else do
      Tx.exec fun db =>
        { db with
          breakageSettlements := db.breakageSettlements.insert
            { id := 0, userId := lot.userId, sourceLotType := .subscription, sourceLotId := lot.id
              amountCNY := lot.grossCNYRemaining, createdAt := now } }
      saveSubscriptionLot
        { lot with grossCNYRemaining := 0, remainingQuota := 0, status := .expired }

/-! ## Payment fees -/

/-- `FirstOrCreate` of a ledger row by its type and what it is about. -/
def firstOrCreateFinanceLedger (ledger : FinanceLedger) : DbTx Unit := do
  match ← Tx.query (·.financeLedgers.first? fun l =>
      l.type = ledger.type && l.relatedType = ledger.relatedType &&
        l.relatedId = ledger.relatedId) with
  | some _ => pure ()
  | none => Tx.exec fun db => { db with financeLedgers := db.financeLedgers.insert ledger }

def recordPaymentFeeLedgerTx (now : Int) (relatedType : RelatedType) (relatedId userId : Nat)
    (fee : ℚ) : DbTx Unit :=
  if relatedId = 0 ∨ fee ≤ 0 then pure () else
  unlessExempt userId <|
    firstOrCreateFinanceLedger
      { id := 0, userId, type := .paymentFee, relatedType, relatedId
        amountCNY := -fee, createdAt := now }

def recordPaymentFeeLedgerForTopUpTx (now : Int) (topUp : TopUp) : DbTx Unit :=
  recordPaymentFeeLedgerTx now .topUp topUp.id topUp.userId topUp.paymentFeeCNY

def recordPaymentFeeLedgerForSubscriptionOrderTx (now : Int) (order : SubscriptionOrder) :
    DbTx Unit :=
  recordPaymentFeeLedgerTx now .subscriptionOrder order.id order.userId order.paymentFeeCNY

/-! ## Keeping lots and quota together -/

def ensureWalletLotsCoverCurrentQuotaTx (now : Int) (userId : Nat) : DbTx Unit :=
  if userId = 0 then pure () else
  unlessExempt userId do
    let user ← Tx.first (·.liveUser? userId) .recordNotFound
    let covered ← Tx.query (·.coveredQuota userId)
    if user.quota - covered ≤ 0 then pure ()
    else createWalletLotFromQuotaGrantTx now userId (user.quota - covered) .gift

def reducibleLots (db : Database) (userId : Nat) : List WalletLot :=
  (db.walletLots.filter fun l => l.userId = userId && 0 < l.quotaRemaining).insertionSort
    giftThenNewerFirst

/-- Returns the draws it made; the source keeps only their effect on the lots. -/
def reduceWalletLotsForAdminAdjustmentTx (userId : Nat) (reduceQuota : Int) :
    DbTx (List Draw) := do
  if userId = 0 ∨ reduceQuota ≤ 0 then pure []
  else if ← isProfitExemptUserTx userId then pure []
  else do
    let lots ← Tx.query (reducibleLots · userId)
    let drawn ← drawLots false lots reduceQuota
    Tx.failIf (0 < drawn.2)
      (.msg ("wallet lots are insufficient for quota reduction, remaining=" ++ toString drawn.2))
    pure drawn.1

def syncWalletLotsToUserQuotaTx (now : Int) (userId : Nat) (targetQuota : Int) :
    DbTx (List Draw) := do
  if userId = 0 ∨ targetQuota < 0 then pure []
  else if ← isProfitExemptUserTx userId then pure []
  else do
    ensureWalletLotsCoverCurrentQuotaTx now userId
    let covered ← Tx.query (·.coveredQuota userId)
    if covered < targetQuota then do
      createWalletLotFromQuotaGrantTx now userId (targetQuota - covered) .gift
      pure []
    else if targetQuota < covered then
      reduceWalletLotsForAdminAdjustmentTx userId (covered - targetQuota)
    else pure []

/-! ## Usage settlements -/

structure ProfitUsageInput where
  requestId : String
  userId : Nat
  sourceType : LotType
  subscriptionId : Nat
  promptTokens : Int
  completionTokens : Int
  cacheReadTokens : Int
  cacheWriteTokens : Int
  quotaUsed : Int
  /-- What `resolveUpstreamPricingSnapshotTx` and `calculateUpstreamCostUSD` give. -/
  upstreamCostUSD : ℚ
  upstreamCostCNY : ℚ
  deriving DecidableEq

structure UsageSettlementAuditSummary where
  realizedRevenueCNY : ℚ
  upstreamCostCNY : ℚ
  requestGrossProfitCNY : ℚ
  deriving DecidableEq

/-- All shares but the last get `part share`; the last gets what is left. -/
def splitLoop {α : Type} [Add α] [Sub α] (total : α) (part : Int → α) : α → List Int → List α
  | _, [] => []
  | allocated, [_] => [total - allocated]
  | allocated, share :: shares => part share :: splitLoop total part (allocated + part share) shares

def splitInt64ByShares (total : Int) (shares : List Int) : List Int :=
  if total ≤ 0 ∨ shares.sum ≤ 0 then shares.map fun _ => 0
  else splitLoop total (fun share => (total * share).tdiv shares.sum) 0 shares

def splitFloatByShares (total : ℚ) (shares : List Int) : List ℚ :=
  if total = 0 ∨ shares.sum ≤ 0 then shares.map fun _ => 0
  else splitLoop total (fun share => total * share / shares.sum) 0 shares

def usageSettlement (now : Int) (input : ProfitUsageInput) (requestId : String) (lotType : LotType)
    (lotId : Nat) (quotaUsed : Int) (revenue costUSD costCNY : ℚ)
    (prompt completion cacheRead cacheWrite : Int) : UsageSettlement :=
  { id := 0, userId := input.userId, requestId
    sourceLotType := lotType, sourceLotId := lotId
    promptTokens := prompt, completionTokens := completion
    cacheReadTokens := cacheRead, cacheWriteTokens := cacheWrite
    quotaUsed, realizedRevenueCNY := revenue
    upstreamCostUSD := costUSD, upstreamCostCNY := costCNY
    requestGrossProfitCNY := revenue - costCNY
    createdAt := now }

def createUsageSettlement (settlement : UsageSettlement) : DbTx Unit :=
  Tx.exec fun db => { db with usageSettlements := db.usageSettlements.insert settlement }

def UsageSettlementAuditSummary.add (summary : UsageSettlementAuditSummary)
    (s : UsageSettlement) : UsageSettlementAuditSummary :=
  { realizedRevenueCNY := summary.realizedRevenueCNY + s.realizedRevenueCNY
    upstreamCostCNY := summary.upstreamCostCNY + s.upstreamCostCNY
    requestGrossProfitCNY := summary.requestGrossProfitCNY + s.requestGrossProfitCNY }

/-- One settlement row per draw, with the draw's share of tokens and cost. -/
def walletSettlements (now : Int) (input : ProfitUsageInput) (draws : List Draw) :
    List UsageSettlement :=
  let shares := draws.map Draw.useQuota
  let prompt := splitInt64ByShares input.promptTokens shares
  let completion := splitInt64ByShares input.completionTokens shares
  let cacheRead := splitInt64ByShares input.cacheReadTokens shares
  let cacheWrite := splitInt64ByShares input.cacheWriteTokens shares
  let costCNY := splitFloatByShares input.upstreamCostCNY shares
  let costUSD := splitFloatByShares input.upstreamCostUSD shares
  draws.mapIdx fun i d =>
    usageSettlement now input input.requestId .wallet d.lot.id d.useQuota d.portion
      (costUSD.getD i 0) (costCNY.getD i 0)
      (prompt.getD i 0) (completion.getD i 0) (cacheRead.getD i 0) (cacheWrite.getD i 0)

def createUsageSettlements : List UsageSettlement → DbTx Unit
  | [] => pure ()
  | s :: ss => do
    createUsageSettlement s
    createUsageSettlements ss

def emptySummary : UsageSettlementAuditSummary := ⟨0, 0, 0⟩

def consumeWalletLotsForUsageTx (now : Int) (input : ProfitUsageInput) :
    DbTx UsageSettlementAuditSummary := do
  let lots ← getSpendableWalletLotsTx input.userId
  let drawn ← drawLots true lots input.quotaUsed
  Tx.failIf (0 < drawn.2)
    (.msg ("wallet lots do not fully cover usage settlement, remaining=" ++ toString drawn.2))
  let settlements := walletSettlements now input drawn.1
  createUsageSettlements settlements
  pure (settlements.foldl .add emptySummary)

def consumeSubscriptionLotForUsageTx (now : Int) (input : ProfitUsageInput) :
    DbTx UsageSettlementAuditSummary :=
  if input.subscriptionId = 0 then pure emptySummary else do
  let lot ← Tx.first
    (fun db => db.subscriptionLots.first? (·.userSubscriptionId = input.subscriptionId))
    .recordNotFound
  if lot.remainingQuota ≤ 0 then pure emptySummary else do
    let useQuota := min input.quotaUsed lot.remainingQuota
    let revenue := allocateLotPortion lot.grossCNYRemaining lot.remainingQuota useQuota
    saveSubscriptionLot (lot.take useQuota revenue)
    let settlement := usageSettlement now input input.requestId .subscription lot.id useQuota
      revenue input.upstreamCostUSD input.upstreamCostCNY input.promptTokens
      input.completionTokens input.cacheReadTokens input.cacheWriteTokens
    createUsageSettlement settlement
    pure (emptySummary.add settlement)

def settlementExists (db : Database) (requestId : String) (lotType : LotType) : Bool :=
  (db.usageSettlements.first? fun s =>
    s.requestId = trimSpace requestId && s.sourceLotType = lotType).isSome

def recordAdminExpenseUsageSettlementTx (now : Int) (input : ProfitUsageInput) :
    DbTx UsageSettlementAuditSummary := do
  if ← Tx.query (settlementExists · input.requestId .admin) then pure emptySummary else do
    let settlement := usageSettlement now input (trimSpace input.requestId) .admin 0
      input.quotaUsed 0 input.upstreamCostUSD input.upstreamCostCNY input.promptTokens
      input.completionTokens input.cacheReadTokens input.cacheWriteTokens
    createUsageSettlement settlement
    pure (emptySummary.add settlement)

def recordUsageSettlementTx (now : Int) (input : ProfitUsageInput) :
    DbTx UsageSettlementAuditSummary := do
  if ← isProfitExemptUserTx input.userId then recordAdminExpenseUsageSettlementTx now input
  else if ← Tx.query (settlementExists · input.requestId input.sourceType) then pure emptySummary
  else do
    ensureWalletLotsCoverCurrentQuotaTx now input.userId
    match input.sourceType with
    | .subscription => consumeSubscriptionLotForUsageTx now input
    | _ => consumeWalletLotsForUsageTx now input

/-- `none` stands for the nil summary of a request with nothing to settle. -/
def recordUsageSettlementWithSummary (now : Int) (input : ProfitUsageInput)
    (faults : List Bool) (db : Database) :
    Except Err (Option UsageSettlementAuditSummary) × Database :=
  if input.userId = 0 ∨ input.quotaUsed ≤ 0 then (.ok none, db)
  else Tx.transaction (some <$> recordUsageSettlementTx now input) faults db

end Xingkong
