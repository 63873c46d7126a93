import Xingkong.System.CashBooks
import Xingkong.System.SubscriptionOrders
import Xingkong.System.SubscriptionRefunds
import Xingkong.System.TopUpOrders

/-!
# Money is conserved over every run

A run is any list of the calls that create orders and codes, complete top-ups, redeem codes,
buy, bind, end and expire subscriptions, settle usage and set quotas by hand, over any users,
each transaction with any statement failures; the transactions of the expiry job also come one by
one, with others between them. Along the run we add up the money that
administrators released. The books of `Xingkong.System.CashBooks` then balance in every state.
-/

namespace Xingkong

open Rdb Table

inductive CashCall
  | createTopUp (topUp : TopUp)
  | createRedemption (redemption : Redemption)
  | createSubscriptionOrder (order : SubscriptionOrder)
  | topUp (call : TopUpCall)
  /-- The credit of the Epay webhook, for the order as the webhook holds it. -/
  | epayCredit (topUp : TopUp)
  | redeem (key : String) (userId : Nat)
  | subscriptionOrder (tradeNo : String) (call : OrderCall)
  | purchaseSubscriptionWithWallet (cached : Option SubscriptionPlan) (userId planId : Nat)
  | adminBindSubscription (cached : Option SubscriptionPlan) (userId planId : Nat)
  | endSubscription (subId : Nat) (call : EndCall)
  /-- The transaction of `ExpireDueSubscriptions` for one user. -/
  | expireUserSubscriptions (userId : Nat)
  /-- The transaction of `ExpireDueSubscriptions` for the breakage of one subscription. -/
  | recognizeSubscriptionBreakage (subId : Nat)
  | recordUsageSettlement (input : ProfitUsageInput)
  | overrideUserQuota (userId : Nat) (value : Int)
  | increaseUserQuota (userId : Nat) (quota : Int) (sourceType : LotSource)

structure CashStep where
  call : CashCall
  now : Int
  faults : List Bool

structure CashRun where
  db : Database
  released : ℚ

def releasedBy : Except Err (List Draw) → ℚ
  | .ok ds => totalPortion ds
  | .error _ => 0

def CashStep.nextDb (cfg : Config) (db : Database) (s : CashStep) : Database :=
  match s.call with
  | .createTopUp topUp => { db with topUps := db.topUps.insert topUp }
  | .createRedemption redemption => { db with redemptions := db.redemptions.insert redemption }
  | .createSubscriptionOrder order =>
    { db with subscriptionOrders := db.subscriptionOrders.insert order }
  | .topUp call => TopUpStep.next cfg db ⟨call, s.now, s.faults⟩
  | .epayCredit topUp => (Tx.transaction (epayCreditTx cfg s.now topUp) s.faults db).2
  | .redeem key userId => (redeem s.now key userId s.faults db).2
  | .subscriptionOrder tradeNo call => OrderStep.next cfg tradeNo db ⟨call, s.now, s.faults⟩
  | .purchaseSubscriptionWithWallet cached userId planId =>
    (purchaseSubscriptionWithWallet cfg s.now cached userId planId s.faults db).2
  | .adminBindSubscription cached userId planId =>
    (adminBindSubscription cfg s.now cached userId planId s.faults db).2
  | .endSubscription subId call => EndStep.next cfg subId db ⟨call, s.now, s.faults⟩
  | .expireUserSubscriptions userId =>
    (Tx.transaction (expireUserSubscriptionsTx s.now userId) s.faults db).2
  | .recognizeSubscriptionBreakage subId =>
    (Tx.transaction (recognizeSubscriptionBreakageTx s.now subId) s.faults db).2
  | .recordUsageSettlement input => (recordUsageSettlementWithSummary s.now input s.faults db).2
  | .overrideUserQuota userId value =>
    (Tx.transaction (overrideUserQuotaTx s.now userId value) s.faults db).2
  | .increaseUserQuota userId quota sourceType =>
    (increaseUserQuotaWithSource s.now userId quota sourceType s.faults db).2

def CashStep.released (db : Database) (s : CashStep) : ℚ :=
  match s.call with
  | .overrideUserQuota userId value =>
    releasedBy (Tx.transaction (overrideUserQuotaTx s.now userId value) s.faults db).1
  | _ => 0

def CashStep.next (cfg : Config) (r : CashRun) (s : CashStep) : CashRun :=
  ⟨s.nextDb cfg r.db, r.released + s.released r.db⟩

def CashStep.Paid (s : CashStep) : Prop :=
  match s.call with
  | .createTopUp topUp | .epayCredit topUp => 0 ≤ topUp.money
  | .createRedemption r => r.purpose = .externalSale → 0 ≤ r.salePriceCNY
  | _ => True

/-- The books balance but for `x`, and nothing waits that could unbalance them. -/
structure CashState (db : Database) (x : ℚ) : Prop where
  books : Books db x
  topUps : ∀ t ∈ db.topUps.rows, t.status = .pending → 0 ≤ t.money
  redemptions : ∀ r ∈ db.redemptions.rows, r.purpose = .externalSale → 0 ≤ r.salePriceCNY
  /-- Subscription lots belong to subscriptions that were created. -/
  lotIds : ∀ l ∈ db.subscriptionLots.rows, l.userSubscriptionId < db.userSubscriptions.next

variable {now : Int} {cfg : Config}

namespace CashState

variable {db db' : Database} {x y : ℚ}

theorem congr (h : CashState db x) (hw : db'.walletLots = db.walletLots)
    (hs : db'.subscriptionLots = db.subscriptionLots)
    (hu : db'.usageSettlements = db.usageSettlements)
    (hb : db'.breakageSettlements = db.breakageSettlements)
    (ht : db'.topUps = db.topUps) (hr : db'.redemptions = db.redemptions)
    (hn : db.userSubscriptions.next ≤ db'.userSubscriptions.next) : CashState db' x :=
  ⟨h.books.congr hw hs hu hb, by rw [ht]; exact h.topUps, by rw [hr]; exact h.redemptions,
    by rw [hs]; exact fun l hl => (h.lotIds l hl).trans_le hn⟩

end CashState

/-! ## Functions that move lots -/

/-- `db'` has the orders, codes and subscriptions of `db`, and no lot of another subscription. -/
structure LotFrame (db db' : Database) : Prop where
  topUps : db'.topUps = db.topUps
  redemptions : db'.redemptions = db.redemptions
  subscriptions : db'.userSubscriptions = db.userSubscriptions
  lots : ∀ l' ∈ db'.subscriptionLots.rows,
    ∃ l ∈ db.subscriptionLots.rows, l'.userSubscriptionId = l.userSubscriptionId

variable {quota : Int} {sub : UserSubscription} {sourceType : LotSource} {ds : List Draw}
  {topUp : TopUp} {userId : Nat}

variable {u : Unit}

section LotFrame

variable {db db' db'' : Database} {x y : ℚ}

theorem LotFrame.of_wallet (ht : db'.topUps = db.topUps) (hr : db'.redemptions = db.redemptions)
    (hs : db'.userSubscriptions = db.userSubscriptions)
    (hl : db'.subscriptionLots = db.subscriptionLots) : LotFrame db db' :=
  ⟨ht, hr, hs, fun l hl' => ⟨l, hl ▸ hl', rfl⟩⟩

theorem LotFrame.trans (h : LotFrame db db') (h' : LotFrame db' db'') : LotFrame db db'' := by
  refine ⟨h'.topUps.trans h.topUps, h'.redemptions.trans h.redemptions,
    h'.subscriptions.trans h.subscriptions, fun l'' hl'' => ?_⟩
  obtain ⟨l', hl', he'⟩ := h'.lots l'' hl''
  obtain ⟨l, hl, he⟩ := h.lots l' hl'
  exact ⟨l, hl, he'.trans he⟩

theorem LotFrame.of_save {l new : SubscriptionLot} (hm : l ∈ db.subscriptionLots.rows)
    (hl : db'.subscriptionLots = db.subscriptionLots.save new)
    (hid : new.userSubscriptionId = l.userSubscriptionId)
    (ht : db'.topUps = db.topUps) (hr : db'.redemptions = db.redemptions)
    (hs : db'.userSubscriptions = db.userSubscriptions) : LotFrame db db' := by
  refine ⟨ht, hr, hs, fun l' hl' => ?_⟩
  rw [hl] at hl'
  rcases mem_of_mem_save hl' with rfl | hl'
  · exact ⟨l, hm, hid⟩
  · exact ⟨l', hl', rfl⟩

theorem CashState.move (h : CashState db x) (hf : LotFrame db db') (hb : Books db' y) :
    CashState db' y := by
  refine ⟨hb, by rw [hf.topUps]; exact h.topUps, by rw [hf.redemptions]; exact h.redemptions,
    fun l' hl' => ?_⟩
  obtain ⟨l, hl, he⟩ := hf.lots l' hl'
  rw [he, hf.subscriptions]
  exact h.lotIds l hl

theorem createWalletLotFromTopUpTx_frame
    (hok : Tx.Ok (createWalletLotFromTopUpTx now topUp quota .topUp) db u db') :
    LotFrame db db' := by
  obtain ⟨lots, rfl, _⟩ := createWalletLotFromTopUpTx_ok hok
  exact .of_wallet rfl rfl rfl rfl

theorem createWalletLotFromQuotaGrantTx_frame
    (hok : Tx.Ok (createWalletLotFromQuotaGrantTx now userId quota sourceType) db u db') :
    LotFrame db db' := by
  rcases createWalletLotFromQuotaGrantTx_ok hok with ⟨_, rfl⟩ | ⟨_, rfl⟩ <;>
    exact .of_wallet rfl rfl rfl rfl

theorem transferSubscriptionLotToWalletTx_lotFrame {refundQuota : Int}
    (hok : Tx.Ok (transferSubscriptionLotToWalletTx now sub refundQuota) db u db') :
    LotFrame db db' := by
  rcases transferSubscriptionLotToWalletTx_ok hok with rfl | ⟨lot, hm, _, _, _, _, _, _, _, _, rfl⟩
  · exact .of_wallet rfl rfl rfl rfl
  · exact .of_save hm rfl rfl rfl rfl rfl

theorem recognizeSubscriptionBreakageTx_lotFrame {subId : Nat}
    (hok : Tx.Ok (recognizeSubscriptionBreakageTx now subId) db u db') : LotFrame db db' := by
  rcases recognizeSubscriptionBreakageTx_ok hok with rfl | ⟨lot, hm, _, rfl | ⟨_, _, rfl⟩⟩
  · exact .of_wallet rfl rfl rfl rfl
  · exact .of_save hm rfl rfl rfl rfl rfl
  · exact .of_save hm rfl rfl rfl rfl rfl

theorem ensureWalletLotsCoverCurrentQuotaTx_frame
    (hok : Tx.Ok (ensureWalletLotsCoverCurrentQuotaTx now userId) db u db') : LotFrame db db' := by
  rcases ensureWalletLotsCoverCurrentQuotaTx_ok hok with ⟨rfl, _⟩ | ⟨_, _, _, rfl⟩ <;>
    exact .of_wallet rfl rfl rfl rfl

theorem syncWalletLotsToUserQuotaTx_frame {target : Int}
    (hok : Tx.Ok (syncWalletLotsToUserQuotaTx now userId target) db ds db') : LotFrame db db' := by
  rcases syncWalletLotsToUserQuotaTx_ok hok with ⟨_, rfl⟩ | ⟨db1, he, h1⟩
  · exact .of_wallet rfl rfl rfl rfl
  · refine (ensureWalletLotsCoverCurrentQuotaTx_frame he).trans ?_
    rcases h1 with ⟨_, rfl⟩ | ⟨_, quota, hg⟩ | ⟨quota, hr⟩
    · exact .of_wallet rfl rfl rfl rfl
    · exact createWalletLotFromQuotaGrantTx_frame hg
    · rcases reduceWalletLotsForAdminAdjustmentTx_ok hr with ⟨_, _, rfl⟩ | ⟨_, _, _, rfl⟩ <;>
        exact .of_wallet rfl rfl rfl rfl

theorem recordUsageSettlementTx_frame {input : ProfitUsageInput} {r : UsageSettlementAuditSummary}
    (hq : 0 < input.quotaUsed) (hok : Tx.Ok (recordUsageSettlementTx now input) db r db') :
    LotFrame db db' := by
  rcases recordUsageSettlementTx_ok hok with
    ⟨_, h1⟩ | ⟨_, rfl⟩ | ⟨_, db1, he, ⟨_, hs⟩ | ⟨_, hw⟩⟩
  · rcases recordAdminExpenseUsageSettlementTx_ok h1 with rfl | ⟨s, _, rfl⟩ <;>
      exact .of_wallet rfl rfl rfl rfl
  · exact .of_wallet rfl rfl rfl rfl
  · refine (ensureWalletLotsCoverCurrentQuotaTx_frame he).trans ?_
    rcases consumeSubscriptionLotForUsageTx_ok hq hs with
      rfl | ⟨lot, hm, _, _, _, _, _, _, _, _, rfl⟩
    · exact .of_wallet rfl rfl rfl rfl
    · exact .of_save hm rfl rfl rfl rfl rfl
  · refine (ensureWalletLotsCoverCurrentQuotaTx_frame he).trans ?_
    obtain ⟨_, ds, _, rfl⟩ := consumeWalletLotsForUsageTx_ok hw
    exact .of_wallet rfl rfl rfl rfl

end LotFrame

/-! ## Single steps -/

namespace CashState

variable {db db' : Database} {x : ℚ}

section

variable (h : CashState db x)

include h

theorem users (users : Table User) : CashState { db with users } x :=
  h.congr rfl rfl rfl rfl rfl rfl (le_refl _)

theorem regrouped (hg : Regrouped db db') : CashState db' x := by
  obtain ⟨users, rfl⟩ := hg.frame
  exact h.users users

theorem saveTopUp {t : TopUp} (ht : t.status = .pending → 0 ≤ t.money) :
    CashState { db with topUps := db.topUps.save t } x := by
  refine ⟨h.books.congr rfl rfl rfl rfl, fun t' ht' hs => ?_, h.redemptions, h.lotIds⟩
  rcases mem_of_mem_save ht' with rfl | ht'
  · exact ht hs
  · exact h.topUps t' ht' hs

theorem completion {o : TopUp} {lotQuota : Int}
    (ho : o ∈ db.topUps.rows) (hs : o.status = .pending)
    (hc : Completion now o quota lotQuota db db') : CashState db' x := by
  have hmoney := h.topUps o ho hs
  have hlt := hc.lots
  obtain ⟨users, lots, ledgers, rfl⟩ := hc.frame
  have h1 : CashState { db with
      topUps := db.topUps.save (o.succeeded now), users, financeLedgers := ledgers } x :=
    (h.saveTopUp (t := o.succeeded now) fun hp => by cases hp).congr rfl rfl rfl rfl rfl rfl
      (le_refl _)
  rcases hlt with ⟨_, hl⟩ | ⟨hq, _, hl⟩
  · exact h1.congr hl rfl rfl rfl rfl rfl (le_refl _)
  · have hb : (topUpLot now (o.succeeded now) lotQuota .topUp).Balanced :=
      Share.Balanced.full hq.le hmoney
    have h2 := (h1.books.insertWallet hb).of_eq (y := x) (by simp [topUpLot, WalletLot.cash])
    exact ⟨h2.congr hl rfl rfl rfl, h1.topUps, h1.redemptions, h1.lotIds⟩

theorem topUpStep (s : TopUpStep) : CashState (s.next cfg db) x := by
  rcases TopUpStep.next_outcome cfg db s with hn | ⟨o, ho, hs, _, ⟨_, hdb⟩ | ⟨_, hc⟩⟩
  · rw [hn]; exact h
  · rw [hdb]
    exact h.saveTopUp fun _ => h.topUps o (mem_of_first? ho).1 hs
  · exact h.completion (mem_of_first? ho).1 hs hc

end

theorem epayCredit (h : CashState db x) (hm : 0 ≤ topUp.money)
    (hok : Tx.Ok (epayCreditTx cfg now topUp) db u db') : CashState db' x := by
  obtain ⟨_, db1, h1, h2⟩ := (Tx.Ok.exec_bind hok).bind
  have hb := (h.users _).books.createWalletLotFromTopUpTx hm h1
  have h3 := (h.users _).move (createWalletLotFromTopUpTx_frame h1) hb
  obtain ⟨ledgers, rfl, _⟩ := recordPaymentFeeLedgerTx_ok h2
  exact h3.congr rfl rfl rfl rfl rfl rfl (le_refl _)

theorem redeemTx {key : String} {q : Int} (h : CashState db x)
    (hok : Tx.Ok (redeemTx now key userId) db q db') : CashState db' x := by
  obtain ⟨r, hr, _, _, db1, h1, rfl⟩ := redeemTx_ok hok
  have hmem := (mem_of_first? hr).1
  have hb := (h.users _).books.createWalletLotFromRedemptionTx (h.redemptions r hmem) h1
  have h2 := (h.users _).move (by
    rcases createWalletLotFromRedemptionTx_ok h1 with rfl | ⟨_, rfl⟩ <;>
      exact .of_wallet rfl rfl rfl rfl) hb
  refine ⟨h2.books.congr rfl rfl rfl rfl, h2.topUps, fun r' hr' hp => ?_, h2.lotIds⟩
  rcases mem_of_mem_save hr' with rfl | hr'
  · exact h.redemptions r hmem hp
  · exact h2.redemptions r' hr' hp

/-! ### Subscriptions -/

theorem insertLot {y : ℚ} {lot : SubscriptionLot} (h : CashState db x)
    (hb : Books { db with subscriptionLots := db.subscriptionLots.insert lot } y)
    (hid : lot.userSubscriptionId < db.userSubscriptions.next) :
    CashState { db with subscriptionLots := db.subscriptionLots.insert lot } y := by
  refine ⟨hb, h.topUps, h.redemptions, fun l hl => ?_⟩
  rcases mem_insert.1 hl with hl | rfl
  · exact h.lotIds l hl
  · exact hid

theorem subscriptionQuotaFromUSD_pos {money : ℚ} (h : 0 < subscriptionQuotaFromUSD cfg money) :
    0 ≤ money := by
  unfold subscriptionQuotaFromUSD at h
  split at h
  · omega
  next hm =>
    exact (not_le.1 hm).le

section

variable (h : CashState db x) {source : SubscriptionSource}

include h

theorem fulfilment {o : SubscriptionOrder}
    (hf : Fulfilment cfg now o sub db db') : CashState db' x := by
  have hlt := hf.lots
  have hpaid := hf.new.paidAmount
  have htop : ∀ t ∈ db'.topUps.rows, t.status = .pending → 0 ≤ t.money := by
    rcases hf.mirror with ⟨_, hm⟩ | ⟨old, new, _, _, h2, hm⟩
    · intro t ht hs
      rw [hm] at ht
      rcases mem_insert.1 ht with ht | rfl
      · exact h.topUps t ht hs
      · cases hs
    · intro t ht hs
      rw [hm] at ht
      rcases mem_of_mem_save ht with rfl | ht
      · rw [h2] at hs; cases hs
      · exact h.topUps t ht hs
  have hframe := hf.frame
  have hsub := hf.subscriptions
  -- the lots of the order, on a database with the new subscription
  have h2 : CashState { db with
      userSubscriptions := db.userSubscriptions.insert sub
      subscriptionLots := db'.subscriptionLots } x := by
    have h1 : CashState { db with userSubscriptions := db.userSubscriptions.insert sub } x :=
      h.congr rfl rfl rfl rfl rfl rfl (Nat.le_succ _)
    rcases hlt with ⟨_, hl⟩ | ⟨hq, _, hl⟩
    · rw [hl]; exact h1
    · rw [hl]
      have hb : (orderLot now o (db.userSubscriptions.stored sub)).Balanced :=
        Share.Balanced.full hq.le (subscriptionQuotaFromUSD_pos (hpaid ▸ hq))
      have h3 := (h1.books.insertSubscription hb).of_eq (y := x)
        (by simp [orderLot, subscriptionLot, SubscriptionLot.cash])
      refine h1.insertLot h3 ?_
      have hid := key_stored db.userSubscriptions sub
      exact hid.trans_lt (Nat.lt_succ_self _)
  have h3 : Books db' x := h2.books.congr (by rw [hframe]) rfl (by rw [hframe]) (by rw [hframe])
  refine ⟨h3, htop, ?_, ?_⟩
  · rw [hframe]; exact h.redemptions
  · rw [hsub]; exact h2.lotIds

theorem orderStep (tradeNo : String) (s : OrderStep) : CashState (s.next cfg tradeNo db) x := by
  rcases OrderStep.next_cases cfg tradeNo db s with hn | ⟨o, _, _, _, hdb | ⟨sub, hf⟩⟩
  · rw [hn]; exact h
  · rw [hdb]
    exact h.congr rfl rfl rfl rfl rfl rfl (le_refl _)
  · exact h.fulfilment hf

theorem createSubscriptionLotTx
    (hnew : ∀ l ∈ db.subscriptionLots.rows, l.userSubscriptionId ≠ sub.id)
    (hid : sub.id < db.userSubscriptions.next) (hp : 0 ≤ sub.paidAmount)
    (hok : Tx.Ok (createSubscriptionLotTx now source userId sub sub.paidAmount) db u db') :
    CashState db' x := by
  have hadmin : ∀ {u}, Tx.Ok (createSubscriptionLotFromAdminTx now sub) db u db' →
      CashState db' x := by
    intro u hok
    have hb := h.books.createSubscriptionLotFromAdminTx hp hok
    rcases createSubscriptionLotFromAdminTx_ok hok with rfl | ⟨_, rfl⟩
    · exact h
    · exact h.insertLot hb hid
  cases source with
  | wallet =>
    unfold Xingkong.createSubscriptionLotTx at hok
    simp only at hok
    split at hok
    · have hb := h.books.createSubscriptionLotFromWalletTx hnew hok
      rcases createSubscriptionLotFromWalletTx_ok hok with
        rfl | ⟨_, _, db1, hdb1, ⟨⟨l, hl, hl'⟩, _⟩ | ⟨_, hdb'⟩⟩
      · exact h
      · exact absurd hl' (hnew l hl)
      · subst hdb1
        refine ⟨hb, ?_, ?_, ?_⟩ <;> rw [hdb']
        · exact h.topUps
        · exact h.redemptions
        · intro l hl
          rcases mem_insert.1 hl with hl | rfl
          · exact h.lotIds l hl
          · exact hid
    · exact hadmin hok
  | admin => exact hadmin hok
  | order =>
    obtain ⟨_, rfl⟩ := Tx.Ok.pure hok
    exact h

theorem createUserSubscription {plan : SubscriptionPlan} {paid : Int}
    (hp : 0 ≤ paid)
    (hok : Tx.Ok (createUserSubscriptionFromPlanWithPaidAmountTx cfg now userId plan source paid)
      db sub db') : CashState db' x := by
  obtain ⟨db1, s, hg, hs, rfl, hlot⟩ := createUserSubscriptionFromPlanWithPaidAmountTx_ok hok
  have h1 : CashState { db1 with userSubscriptions := db1.userSubscriptions.insert s } x :=
    (h.regrouped hg).congr rfl rfl rfl rfl rfl rfl (Nat.le_succ _)
  have hid : (db1.userSubscriptions.stored s).id = db1.userSubscriptions.next :=
    key_stored db1.userSubscriptions s
  have h2 : (db1.userSubscriptions.stored s).paidAmount = paid := hs.paidAmount
  rw [← h2] at hlot hp
  refine h1.createSubscriptionLotTx (fun l hl he => ?_) (hid.trans_lt (Nat.lt_succ_self _)) hp hlot
  exact absurd ((h.regrouped hg).lotIds l hl) (by rw [he, hid]; exact Nat.lt_irrefl _)

theorem purchase {cached : Option SubscriptionPlan} {planId : Nat}
    (hok : Tx.Ok (purchaseSubscriptionWithWalletTx cfg now cached userId planId) db sub db') :
    CashState db' x := by
  obtain ⟨db1, plan, required, _, hr, hdb1, hsub⟩ := purchaseSubscriptionWithWalletTx_ok hok
  rcases hdb1 with rfl | rfl
  · exact h.createUserSubscription hr hsub
  · exact (h.users _).createUserSubscription hr hsub

theorem refundSubscriptionTx
    (hok : Tx.Ok (refundSubscriptionTx now sub) db u db') : CashState db' x := by
  rcases refundSubscriptionTx_ok hok with ⟨_, rfl⟩ | ⟨_, ht⟩
  · exact h
  · have hu := h.users (db.addUserQuota sub.userId (calculateSubscriptionRefundQuota sub)).users
    exact hu.move (transferSubscriptionLotToWalletTx_lotFrame ht)
      (hu.books.transferSubscriptionLotToWalletTx ht)

theorem expireUser {target : String}
    (hok : Tx.Ok (expireUserSubscriptionsTx now userId) db target db') : CashState db' x := by
  have h1 : CashState (db.expireUserRows userId now) x :=
    h.congr rfl rfl rfl rfl rfl rfl (le_refl _)
  exact h1.regrouped (expireUserSubscriptionsTx_ok hok)

theorem breakage {subId : Nat}
    (hok : Tx.Ok (recognizeSubscriptionBreakageTx now subId) db u db') : CashState db' x :=
  h.move (recognizeSubscriptionBreakageTx_lotFrame hok)
    (h.books.recognizeSubscriptionBreakageTx hok)

theorem expireDue (limit : Int) (visit : List Nat → List Nat)
    (listFails : Bool) (userFaults lotFaults : Nat → List Bool) :
    CashState
    (expireDueSubscriptions cfg now limit visit listFails userFaults lotFaults db).2 x := by
  exact expireDueSubscriptions_invariant (P := fun d => CashState d x)
    (fun _ _ _ _ hd he => hd.expireUser (Tx.transaction_ok he)) (fun _ _ _ _ hd => hd.breakage)
    cfg limit visit listFails lotFaults h

theorem endStep (subId : Nat) (s : EndStep) : CashState (s.next cfg subId db) x := by
  rcases s.next_cases cfg subId db with he | ⟨sub, db1, -, -, hr, hg⟩ |
    ⟨sub, db1, db2, -, -, hr, hg, he⟩ | ⟨limit, visit, _, listFails, userFaults, lotFaults, -, he⟩
  · rw [he]
    exact h
  · have h1 : CashState (db.cancelSubscriptionRow sub.id s.now) x :=
      h.congr rfl rfl rfl rfl rfl rfl (le_refl _)
    exact (h1.refundSubscriptionTx hr).regrouped hg.regrouped
  · rw [he]
    exact ((h.refundSubscriptionTx hr).regrouped hg.regrouped).congr rfl rfl rfl rfl rfl rfl
      (le_refl _)
  · rw [he]
    exact h.expireDue limit visit listFails userFaults lotFaults

theorem overrideUserQuotaTx {value : Int}
    (hok : Tx.Ok (overrideUserQuotaTx now userId value) db ds db') :
    CashState db' (x + totalPortion ds) := by
  have h1 := Tx.Ok.exec_bind hok
  exact (h.users _).move (syncWalletLotsToUserQuotaTx_frame h1)
    ((h.users _).books.syncWalletLotsToUserQuotaTx h1)

theorem creditUserQuotaTx (hok : Tx.Ok (creditUserQuotaTx now userId quota sourceType) db u db') :
    CashState db' x := by
  have h1 := Tx.Ok.exec_bind hok
  exact (h.users _).move (createWalletLotFromQuotaGrantTx_frame h1)
    ((h.users _).books.createWalletLotFromQuotaGrantTx h1)

end

/-! ### All steps -/

theorem next {r : CashRun} {s : CashStep} (h : CashState r.db r.released) (hp : s.Paid) :
    CashState (s.next cfg r).db (s.next cfg r).released := by
  obtain ⟨db, released⟩ := r
  obtain ⟨call, now, faults⟩ := s
  -- all calls but the override release nothing
  have hzero : ∀ {db' : Database}, CashState db' released → CashState db' (released + 0) :=
    fun hs => by rw [add_zero]; exact hs
  have h5 : ∀ {α : Type} {body : DbTx α}, (∀ a db', Tx.Ok body db a db' → CashState db' released) →
      CashState (Tx.transaction body faults db).2 released := fun hok =>
    Tx.transaction_invariant (P := fun d => CashState d released) h hok faults
  cases call with
  | createTopUp topUp =>
    refine hzero ⟨h.books.congr rfl rfl rfl rfl, fun t ht hs => ?_, h.redemptions, h.lotIds⟩
    rcases mem_insert.1 ht with ht | rfl
    · exact h.topUps t ht hs
    · exact hp
  | createRedemption redemption =>
    refine hzero ⟨h.books.congr rfl rfl rfl rfl, h.topUps, fun r hr hs => ?_, h.lotIds⟩
    rcases mem_insert.1 hr with hr | rfl
    · exact h.redemptions r hr hs
    · exact hp hs
  | createSubscriptionOrder order => exact hzero (h.congr rfl rfl rfl rfl rfl rfl (le_refl _))
  | topUp call => exact hzero (h.topUpStep _)
  | epayCredit topUp => exact hzero (h5 fun _ _ hok => h.epayCredit hp hok)
  | redeem key userId =>
    refine hzero ?_
    simp only [CashStep.next, CashStep.nextDb, Xingkong.redeem]
    split
    · exact h
    · split
      · exact h
      · rw [Tx.reportAs_snd]
        exact h5 fun _ _ hok => h.redeemTx hok
  | subscriptionOrder tradeNo call => exact hzero (h.orderStep tradeNo _)
  | purchaseSubscriptionWithWallet cached userId planId =>
    refine hzero ?_
    simp only [CashStep.next, CashStep.nextDb, Xingkong.purchaseSubscriptionWithWallet]
    split
    · exact h
    · exact h5 fun _ _ hok => h.purchase hok
  | adminBindSubscription cached userId planId =>
    refine hzero ?_
    simp only [CashStep.next, CashStep.nextDb, Xingkong.adminBindSubscription]
    split
    · exact h
    · refine h5 fun _ db' hok => ?_
      obtain ⟨plan, db1, h1, h2⟩ := Tx.Ok.bind hok
      obtain ⟨_, rfl⟩ := getSubscriptionPlanByIdTx_ok h1
      obtain ⟨sub, db2, h3, h4⟩ := h2.bind
      obtain ⟨_, rfl⟩ := h4.pure
      exact h.createUserSubscription (le_refl 0) h3
  | endSubscription subId call => exact hzero (h.endStep subId _)
  | expireUserSubscriptions userId => exact hzero (h5 fun _ _ hok => h.expireUser hok)
  | recognizeSubscriptionBreakage subId => exact hzero (h5 fun _ _ hok => h.breakage hok)
  | recordUsageSettlement input =>
    refine hzero ?_
    simp only [CashStep.next, CashStep.nextDb, recordUsageSettlementWithSummary]
    split
    · exact h
    next hq =>
      have hq : 0 < input.quotaUsed := by omega
      refine h5 fun _ db' hok => ?_
      obtain ⟨summary, db1, h1, h2⟩ := hok.bind
      obtain ⟨_, rfl⟩ := h2.pure
      exact h.move (recordUsageSettlementTx_frame hq h1) (h.books.recordUsageSettlementTx hq h1)
  | overrideUserQuota userId value =>
    simp only [CashStep.next, CashStep.nextDb, CashStep.released]
    rcases Tx.transaction_cases (Xingkong.overrideUserQuotaTx now userId value) faults db with
      ⟨ds, db', he, hok⟩ | ⟨e, he⟩
    · rw [he]
      exact h.overrideUserQuotaTx hok
    · rw [he]
      exact hzero h
  | increaseUserQuota userId quota sourceType =>
    refine hzero ?_
    simp only [CashStep.next, CashStep.nextDb, increaseUserQuotaWithSource]
    split
    · exact h
    · split
      · exact h
      · exact h5 fun _ _ hok => h.creditUserQuotaTx hok

end CashState

/-! ## Whole runs -/

structure FreshBooks (db : Database) : Prop where
  walletLots : db.walletLots.rows = []
  subscriptionLots : db.subscriptionLots.rows = []
  usageSettlements : db.usageSettlements.rows = []
  breakageSettlements : db.breakageSettlements.rows = []
  topUps : ∀ t ∈ db.topUps.rows, t.status = .pending → 0 ≤ t.money
  redemptions : ∀ r ∈ db.redemptions.rows, r.purpose = .externalSale → 0 ≤ r.salePriceCNY

theorem FreshBooks.state {db : Database} (h : FreshBooks db) : CashState db 0 := by
  have hb : Books db 0 := by
    refine ⟨?_, by simp [h.walletLots], by simp [h.subscriptionLots]⟩
    simp [Database.cashBasis, Database.accounted, Table.sum, h.walletLots, h.subscriptionLots,
      h.usageSettlements, h.breakageSettlements]
  exact ⟨hb, h.topUps, h.redemptions, by simp [h.subscriptionLots]⟩

/-- **Money is conserved.** After every run from fresh books, the cash that came in is the money
in lots, the realised revenue, the breakage and what administrators released; and every lot is
within its bounds and in proportion. -/
theorem cash_conserved (cfg : Config) (db : Database) (steps : List CashStep)
    (h : FreshBooks db) (hp : ∀ s ∈ steps, s.Paid) (r : CashRun)
    (hr : r = Run.final (CashStep.next cfg) ⟨db, 0⟩ steps) :
    r.db.cashBasis =
        r.db.walletLots.sum WalletLot.grossCNYRemaining +
          r.db.subscriptionLots.sum SubscriptionLot.grossCNYRemaining +
          r.db.usageSettlements.sum UsageSettlement.realizedRevenueCNY +
          r.db.breakageSettlements.sum BreakageSettlement.amountCNY + r.released ∧
      (∀ l ∈ r.db.walletLots.rows, l.Balanced) ∧ ∀ l ∈ r.db.subscriptionLots.rows, l.Balanced := by
  have h1 : CashState r.db r.released := by
    rw [hr]
    exact Run.final_invariant (P := fun r : CashRun => CashState r.db r.released) h.state
      fun r s hs h1 => h1.next (hp s hs)
  exact ⟨h1.books.cash, h1.books.wallet, h1.books.subscription⟩

def topUpUseOverride : List CashStep :=
  [⟨.topUp (.manualCompleteTopUp "T1"), 1, []⟩,
    ⟨.recordUsageSettlement
      { requestId := "r1", userId := 1, sourceType := .wallet, subscriptionId := 0
        promptTokens := 10, completionTokens := 5, cacheReadTokens := 0, cacheWriteTokens := 0
        quotaUsed := 4000000, upstreamCostUSD := 1, upstreamCostCNY := 7 }, 2, []⟩,
    ⟨.overrideUserQuota 1 2000000, 3, []⟩]

theorem cash_conserved_topUpUseOverride :
    ∃ r, r = Run.final (CashStep.next .fresh) ⟨oneOrderDb 1 false, 0⟩ topUpUseOverride ∧
      r.db.cashBasis = 20 ∧ r.released = 8 ∧
      r.db.usageSettlements.sum UsageSettlement.realizedRevenueCNY = 8 ∧
      r.db.cashBasis = r.db.accounted + r.released ∧ ∀ l ∈ r.db.walletLots.rows, l.Balanced := by
  have h := cash_conserved .fresh (oneOrderDb 1 false) topUpUseOverride
    ⟨rfl, rfl, rfl, rfl, by decide +kernel, by decide +kernel⟩
    (by simp [topUpUseOverride, CashStep.Paid]) _ rfl
  exact ⟨_, rfl, by decide +kernel, by decide +kernel, by decide +kernel, h.1, h.2.1⟩

end Xingkong
