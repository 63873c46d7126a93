import Xingkong.Lib.Run
import Xingkong.Spec.Subscription
import Xingkong.Spec.TopUp

/-!
# The cash books

Money enters with the lots of top-ups, sold redemption codes and subscription orders. From
then on it sits in wallet lots and subscription lots, or was realised as usage revenue, written
off as breakage, or released by an administrator. `Books db x` says that all of it is accounted
for, up to the amount `x` that is on its way from one place to another. Every function that
moves lots is read as a change of `x`; over a whole transaction these cancel out, and what
remains of `x` is what administrators released.
-/

namespace Xingkong

open Rdb Table

def WalletLot.cash (l : WalletLot) : ℚ :=
  if l.sourceType = .topUp ∨ l.sourceType = .redemptionSale then l.grossCNYBasis else 0

def SubscriptionLot.cash (l : SubscriptionLot) : ℚ :=
  if l.sourceType = .order then l.grossCNYBasis else 0

namespace Database

def cashBasis (db : Database) : ℚ :=
  db.walletLots.sum WalletLot.cash + db.subscriptionLots.sum SubscriptionLot.cash

def accounted (db : Database) : ℚ :=
  db.walletLots.sum WalletLot.grossCNYRemaining +
    db.subscriptionLots.sum SubscriptionLot.grossCNYRemaining +
    db.usageSettlements.sum UsageSettlement.realizedRevenueCNY +
    db.breakageSettlements.sum BreakageSettlement.amountCNY

end Database

open Database (cashBasis accounted)

/-- All cash is accounted for but for `x`, and every lot is in proportion. -/
structure Books (db : Database) (x : ℚ) : Prop where
  cash : db.cashBasis = db.accounted + x
  wallet : ∀ l ∈ db.walletLots.rows, l.Balanced
  subscription : ∀ l ∈ db.subscriptionLots.rows, l.Balanced

namespace Books

variable {db db' : Database} {x y : ℚ}

theorem of_eq (h : Books db x) (hx : x = y) : Books db y := hx ▸ h

theorem congr (h : Books db x) (hw : db'.walletLots = db.walletLots)
    (hs : db'.subscriptionLots = db.subscriptionLots)
    (hu : db'.usageSettlements = db.usageSettlements)
    (hb : db'.breakageSettlements = db.breakageSettlements) : Books db' x := by
  refine ⟨?_, by rw [hw]; exact h.wallet, by rw [hs]; exact h.subscription⟩
  have := h.cash
  unfold cashBasis accounted at this ⊢
  rw [hw, hs, hu, hb]
  exact this

/-! ## Single statements -/

theorem insertWallet (h : Books db x) {l : WalletLot} (hl : l.Balanced) :
    Books { db with walletLots := db.walletLots.insert l } (x + l.cash - l.grossCNYRemaining) := by
  refine ⟨?_, fun r hr => ?_, h.subscription⟩
  · have := h.cash
    unfold cashBasis accounted at this ⊢
    simp only [sum_insert]
    have hc : (db.walletLots.stored l).cash = l.cash := rfl
    have hg : (db.walletLots.stored l).grossCNYRemaining = l.grossCNYRemaining := rfl
    linarith
  · rcases mem_insert.1 hr with hr | rfl
    · exact h.wallet r hr
    · exact hl

variable {l : SubscriptionLot} {sourceType : LotSource} {lots : List WalletLot} {ds : List Draw}

section

variable (h : Books db x)

include h

theorem insertSubscription (hl : l.Balanced) :
    Books { db with subscriptionLots := db.subscriptionLots.insert l }
      (x + l.cash - l.grossCNYRemaining) := by
  refine ⟨?_, h.wallet, fun r hr => ?_⟩
  · have := h.cash
    unfold cashBasis accounted at this ⊢
    simp only [sum_insert]
    have hc : (db.subscriptionLots.stored l).cash = l.cash := rfl
    have hg : (db.subscriptionLots.stored l).grossCNYRemaining = l.grossCNYRemaining := rfl
    linarith
  · rcases mem_insert.1 hr with hr | rfl
    · exact h.subscription r hr
    · exact hl

theorem saveSubscription (new : SubscriptionLot)
    (hm : l ∈ db.subscriptionLots.rows) (hid : new.id = l.id) (hc : new.cash = l.cash)
    (hl : new.Balanced) : Books { db with subscriptionLots := db.subscriptionLots.save new }
      (x + l.grossCNYRemaining - new.grossCNYRemaining) := by
  refine ⟨?_, h.wallet, fun r hr => ?_⟩
  · have := h.cash
    unfold cashBasis accounted at this ⊢
    rw [sum_save hm hid.symm, sum_save hm hid.symm, hc]
    linarith
  · rcases mem_of_mem_save hr with rfl | hr
    · exact hl
    · exact h.subscription r hr

theorem insertUsage (s : UsageSettlement) :
    Books { db with usageSettlements := db.usageSettlements.insert s }
      (x - s.realizedRevenueCNY) := by
  refine ⟨?_, h.wallet, h.subscription⟩
  have := h.cash
  unfold cashBasis accounted at this ⊢
  simp only [sum_insert]
  have hs : (db.usageSettlements.stored s).realizedRevenueCNY = s.realizedRevenueCNY := rfl
  linarith

theorem insertUsages (ss : List UsageSettlement) :
    Books { db with usageSettlements := ss.foldl Table.insert db.usageSettlements }
      (x - (ss.map UsageSettlement.realizedRevenueCNY).sum) := by
  induction ss generalizing db x with
  | nil => exact h.of_eq (by simp)
  | cons s ss ih =>
    refine (ih (h.insertUsage s)).of_eq ?_
    rw [List.map_cons, List.sum_cons]
    ring

theorem insertBreakage (b : BreakageSettlement) :
    Books { db with breakageSettlements := db.breakageSettlements.insert b } (x - b.amountCNY) := by
  refine ⟨?_, h.wallet, h.subscription⟩
  have := h.cash
  unfold cashBasis accounted at this ⊢
  simp only [sum_insert]
  have hb : (db.breakageSettlements.stored b).amountCNY = b.amountCNY := rfl
  linarith

end

variable {now quota : Int} {userId : Nat} {u : Unit} {sub : UserSubscription}
  {r : UsageSettlementAuditSummary} {input : ProfitUsageInput}

variable (h : Books db x)

include h

theorem insertGrant (hq : 0 ≤ quota) : Books { db with
      walletLots := db.walletLots.insert (grantLot now userId quota sourceType) } x := by
  have hl : (grantLot now userId quota sourceType).Balanced := Share.Balanced.full hq (le_refl _)
  have hc : (grantLot now userId quota sourceType).cash = 0 := by
    unfold WalletLot.cash
    split <;> rfl
  refine (h.insertWallet hl).of_eq ?_
  rw [hc]
  simp [grantLot]

theorem totalPortion_nonneg {skipEmpty : Bool} (hp : lots.Perm (openLots db userId)) :
    0 ≤ totalPortion (Xingkong.draws skipEmpty lots quota).1 := by
  refine List.sum_nonneg fun p hp' => ?_
  obtain ⟨d, hd, rfl⟩ := List.mem_map.1 hp'
  obtain ⟨hm, _, hq⟩ := draws_before_mem hp hd
  obtain ⟨r, hr, he⟩ := mem_draws hd
  rw [he, takeFromLot_portion (h.wallet _ hm) hq hr]
  exact Share.portion_nonneg (h.wallet _ hm).gross_nonneg hq (takeFromLot_useQuota_pos hq hr).le

theorem draws (skipEmpty : Bool) (quota : Int) (hp : lots.Perm (openLots db userId)) :
    Books { db with
      walletLots := db.walletLots.saveAll ((Xingkong.draws skipEmpty lots quota).1.map Draw.lot) }
      (x + totalPortion (Xingkong.draws skipEmpty lots quota).1) := by
  refine ⟨?_, fun l hl => balanced_draws hp h.wallet hl, h.subscription⟩
  have hcash : (db.walletLots.saveAll
      ((Xingkong.draws skipEmpty lots quota).1.map Draw.lot)).sum WalletLot.cash =
      db.walletLots.sum WalletLot.cash := sum_draws_congr hp fun _ _ => rfl
  have := h.cash
  unfold cashBasis accounted at this ⊢
  rw [hcash, gross_draws hp h.wallet]
  linarith

/-! ## Functions -/

theorem createWalletLotFromTopUpTx {topUp : TopUp} (hm : 0 ≤ topUp.money)
    (hok : Tx.Ok (createWalletLotFromTopUpTx now topUp quota .topUp) db u db') : Books db' x := by
  obtain ⟨lots, rfl, ⟨_, rfl⟩ | ⟨hq, _, rfl⟩⟩ := createWalletLotFromTopUpTx_ok hok
  · exact h
  · have hl : (topUpLot now topUp quota .topUp).Balanced := Share.Balanced.full hq.le hm
    refine (h.insertWallet hl).of_eq ?_
    simp [topUpLot, WalletLot.cash]

theorem createWalletLotFromRedemptionTx {r : Redemption}
    (hm : r.purpose = .externalSale → 0 ≤ r.salePriceCNY)
    (hok : Tx.Ok (createWalletLotFromRedemptionTx now r userId) db u db') : Books db' x := by
  rcases createWalletLotFromRedemptionTx_ok hok with rfl | ⟨hq, rfl⟩
  · exact h
  · have h1 : 0 ≤ r.gross := by
      unfold Redemption.gross
      split
      next hp =>
        exact hm hp
      · exact le_refl _
    have hl : (redemptionLot now r userId).Balanced := Share.Balanced.full hq.le h1
    refine (h.insertWallet hl).of_eq ?_
    by_cases hp : r.purpose = .externalSale <;>
      simp [redemptionLot, WalletLot.cash, Redemption.lotSource, Redemption.gross, hp]

theorem createWalletLotFromQuotaGrantTx
    (hok : Tx.Ok (createWalletLotFromQuotaGrantTx now userId quota sourceType) db u db') :
    Books db' x := by
  rcases createWalletLotFromQuotaGrantTx_ok hok with ⟨_, rfl⟩ | ⟨hq, rfl⟩
  · exact h
  · exact h.insertGrant hq.le

theorem createSubscriptionLotFromAdminTx (hp : 0 ≤ sub.paidAmount)
    (hok : Tx.Ok (createSubscriptionLotFromAdminTx now sub) db u db') : Books db' x := by
  rcases createSubscriptionLotFromAdminTx_ok hok with rfl | ⟨_, rfl⟩
  · exact h
  · have hl := Share.Balanced.full hp (le_refl _)
    refine (h.insertSubscription hl).of_eq ?_
    simp [subscriptionLot, SubscriptionLot.cash]

theorem createSubscriptionLotFromWalletTx {paidQuota : Int}
    (hnew : ∀ l ∈ db.subscriptionLots.rows, l.userSubscriptionId ≠ sub.id)
    (hok : Tx.Ok (createSubscriptionLotFromWalletTx now userId sub paidQuota) db u db') :
    Books db' x := by
  rcases createSubscriptionLotFromWalletTx_ok hok with
    rfl | ⟨hq, _, db1, rfl, ⟨⟨l, hl, hid⟩, _⟩ | ⟨_, rfl⟩⟩
  · exact h
  · exact absurd hid (hnew l hl)
  · have h1 := h.draws true paidQuota (spendableLots_perm db userId)
    have hl : (subscriptionLot now sub userId .wallet paidQuota
        (totalPortion (Xingkong.draws true (spendableLots db userId) paidQuota).1) 0 0).Balanced :=
      Share.Balanced.full hq.le (h.totalPortion_nonneg (spendableLots_perm db userId))
    refine (h1.insertSubscription hl).of_eq ?_
    simp [subscriptionLot, SubscriptionLot.cash]

theorem takeSubscription {lot : SubscriptionLot} {use : Int} {portion : ℚ}
    (hm : lot ∈ db.subscriptionLots.rows) (hr : 0 < lot.remainingQuota) (hu : 0 < use)
    (hle : use ≤ lot.remainingQuota)
    (hp : portion = allocateLotPortion lot.grossCNYRemaining lot.remainingQuota use)
    (status : SubscriptionStatus) : 0 ≤ portion ∧
      Books { db with
        subscriptionLots := db.subscriptionLots.save { lot.take use portion with status } }
        (x + portion) := by
  subst hp
  have hb := h.subscription lot hm
  have h1 : 0 ≤ allocateLotPortion lot.grossCNYRemaining lot.remainingQuota use := by
    rw [allocateLotPortion_eq hb.gross_nonneg hr hu]
    exact Share.portion_nonneg hb.gross_nonneg hr hu.le
  refine ⟨h1, ?_⟩
  have h1 := SubscriptionLot.take_balanced hb hr hu hle
  refine (h.saveSubscription { lot.take use _ with status } hm rfl rfl h1).of_eq ?_
  have h1 := SubscriptionLot.take_portion hb hr hu
  rw [h1]
  ring

theorem transferSubscriptionLotToWalletTx {refundQuota : Int}
    (hok : Tx.Ok (transferSubscriptionLotToWalletTx now sub refundQuota) db u db') :
    Books db' x := by
  rcases transferSubscriptionLotToWalletTx_ok hok with
    rfl | ⟨lot, hm, use, portion, _, hr, hu, hle, _, hp, rfl⟩
  · exact h
  · obtain ⟨h1, h2⟩ := h.takeSubscription hm hr hu hle hp .cancelled
    have hl : (refundLot now sub use portion).Balanced := Share.Balanced.full hu.le h1
    refine (h2.insertWallet hl).of_eq ?_
    simp [refundLot, WalletLot.cash]

theorem recognizeSubscriptionBreakageTx {subId : Nat}
    (hok : Tx.Ok (recognizeSubscriptionBreakageTx now subId) db u db') : Books db' x := by
  rcases recognizeSubscriptionBreakageTx_ok hok with
    rfl | ⟨lot, hm, _, rfl | ⟨_, _, rfl⟩⟩
  · exact h
  · refine (h.saveSubscription { lot with status := .expired } hm rfl rfl
      (h.subscription lot hm)).of_eq ?_
    simp
  · have hb := h.subscription lot hm
    have hl : Share.Balanced lot.paidQuota 0 lot.grossCNYBasis 0 :=
      .empty hb.total_nonneg hb.basis_nonneg
    refine ((h.insertBreakage _).saveSubscription { lot with
      grossCNYRemaining := 0, remainingQuota := 0, status := .expired } hm rfl rfl hl).of_eq ?_
    simp

theorem ensureWalletLotsCoverCurrentQuotaTx
    (hok : Tx.Ok (ensureWalletLotsCoverCurrentQuotaTx now userId) db u db') : Books db' x := by
  rcases ensureWalletLotsCoverCurrentQuotaTx_ok hok with ⟨rfl, _⟩ | ⟨user, _, hq, rfl⟩
  · exact h
  · exact h.insertGrant (by omega)

theorem reduceWalletLotsForAdminAdjustmentTx {reduceQuota : Int}
    (hok : Tx.Ok (reduceWalletLotsForAdminAdjustmentTx userId reduceQuota) db ds db') :
    Books db' (x + totalPortion ds) := by
  rcases reduceWalletLotsForAdminAdjustmentTx_ok hok with ⟨_, rfl, rfl⟩ | ⟨_, _, rfl, rfl⟩
  · exact h.of_eq (by simp [totalPortion])
  · exact h.draws false reduceQuota (reducibleLots_perm db userId)

theorem syncWalletLotsToUserQuotaTx {target : Int}
    (hok : Tx.Ok (syncWalletLotsToUserQuotaTx now userId target) db ds db') :
    Books db' (x + totalPortion ds) := by
  rcases syncWalletLotsToUserQuotaTx_ok hok with ⟨rfl, rfl⟩ | ⟨db1, he, h2⟩
  · exact h.of_eq (by simp [totalPortion])
  · have h1 := h.ensureWalletLotsCoverCurrentQuotaTx he
    rcases h2 with ⟨rfl, rfl⟩ | ⟨rfl, quota, hg⟩ | ⟨quota, hr⟩
    · exact h1.of_eq (by simp [totalPortion])
    · exact (h1.createWalletLotFromQuotaGrantTx hg).of_eq (by simp [totalPortion])
    · exact h1.reduceWalletLotsForAdminAdjustmentTx hr

/-! ## Usage -/

theorem consumeWalletLotsForUsageTx
    (hok : Tx.Ok (consumeWalletLotsForUsageTx now input) db r db') : Books db' x := by
  obtain ⟨_, ds, rfl, rfl⟩ := consumeWalletLotsForUsageTx_ok hok
  have h1 := h.draws true input.quotaUsed (spendableLots_perm db input.userId)
  refine (h1.insertUsages (walletSettlements now input _)).of_eq ?_
  rw [(map_walletSettlements now input _).1]
  unfold totalPortion
  ring

theorem consumeSubscriptionLotForUsageTx (hq : 0 < input.quotaUsed)
    (hok : Tx.Ok (consumeSubscriptionLotForUsageTx now input) db r db') : Books db' x := by
  rcases consumeSubscriptionLotForUsageTx_ok hq hok with
    rfl | ⟨lot, hm, use, revenue, s, hr, hu, hle, hrev, hs, rfl⟩
  · exact h
  · obtain ⟨_, h1⟩ := h.takeSubscription hm hr hu hle hrev lot.status
    refine (h1.insertUsage s).of_eq ?_
    rw [hs]
    ring

theorem recordUsageSettlementTx (hq : 0 < input.quotaUsed)
    (hok : Tx.Ok (recordUsageSettlementTx now input) db r db') : Books db' x := by
  rcases recordUsageSettlementTx_ok hok with
    ⟨_, h1⟩ | ⟨_, rfl⟩ | ⟨_, db1, he, ⟨_, hs⟩ | ⟨_, hw⟩⟩
  · rcases recordAdminExpenseUsageSettlementTx_ok h1 with rfl | ⟨s, hs, rfl⟩
    · exact h
    · exact (h.insertUsage s).of_eq (by rw [hs, sub_zero])
  · exact h
  · exact (h.ensureWalletLotsCoverCurrentQuotaTx he).consumeSubscriptionLotForUsageTx hq hs
  · exact (h.ensureWalletLotsCoverCurrentQuotaTx he).consumeWalletLotsForUsageTx hw

end Books

end Xingkong
