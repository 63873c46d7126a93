import Xingkong.System.TopUpOrders

/-!
# Orders completed by hand

An administrator may complete a pending order in place of the provider it was made with. The
two completions of an order run here on the same database, with every statement carried out.
-/

namespace Xingkong

open Rdb Tx

variable {db : Database} {o : TopUp}

theorem eval_firstTopUp_bind {tradeNo : String} {e : Err} {f : TopUp → DbTx Unit}
    (h : db.topUps.first? (·.tradeNo = tradeNo) = some o) :
    (firstTopUp tradeNo e >>= f).eval db = (f o).eval db := by
  refine eval_bind_ok (eval_orFail ?_)
  rw [Tx.first, eval_query_bind, h]
  rfl

theorem eval_unlessExempt_cases (userId : Nat) (body : DbTx Unit) (db : Database) :
    (unlessExempt userId body).eval db = .ok ((), db) ∨
      (unlessExempt userId body).eval db = body.eval db := by
  rw [unlessExempt, isProfitExemptUserTx]
  split
  · exact .inr rfl
  · rw [eval_queryOr_bind]
    cases db.exempt userId
    · exact .inr rfl
    · exact .inl rfl

/-- Booking an order adds to the lots and the ledger at most, and does not fail by itself. -/
theorem eval_booking (now : Int) (o : TopUp) (quota : Int) (db : Database) :
    ∃ lots ledgers, (do
        createWalletLotFromTopUpTx now o quota .topUp
        recordPaymentFeeLedgerForTopUpTx now o : DbTx Unit).eval db =
      .ok ((), { db with walletLots := lots, financeLedgers := ledgers }) := by
  have hlot : ∃ lots, (createWalletLotFromTopUpTx now o quota .topUp).eval db =
      .ok ((), { db with walletLots := lots }) := by
    unfold createWalletLotFromTopUpTx
    split
    · exact ⟨_, rfl⟩
    rcases eval_unlessExempt_cases o.userId (firstOrCreateWalletLot
      (fun l => l.sourceType = .topUp && l.sourceId = o.id) (topUpLot now o quota .topUp)) db with
      h | h
    · exact ⟨_, h⟩
    · rw [h, firstOrCreateWalletLot, eval_query_bind]
      split <;> exact ⟨_, rfl⟩
  obtain ⟨lots, hlot⟩ := hlot
  rw [eval_bind_ok hlot, recordPaymentFeeLedgerForTopUpTx, recordPaymentFeeLedgerTx]
  refine ⟨lots, ?_⟩
  split
  · exact ⟨_, rfl⟩
  rcases eval_unlessExempt_cases o.userId (firstOrCreateFinanceLedger
    { id := 0, userId := o.userId, type := .paymentFee, relatedType := .topUp, relatedId := o.id
      amountCNY := -o.paymentFeeCNY, createdAt := now }) { db with walletLots := lots } with h | h
  · exact ⟨_, h⟩
  · rw [h, firstOrCreateFinanceLedger, eval_query_bind]
    split <;> exact ⟨_, rfl⟩

/-- The transaction, with every statement carried out, credits the order's owner. -/
def CreditsOwner (body : DbTx Unit) (o : TopUp) (quota : Int) (db : Database) : Prop :=
  (Tx.transaction body [] db).2.userQuota o.userId = db.userQuota o.userId + quota

variable {quota : Int} {body : DbTx Unit}

theorem credits_of_tail (now lotQuota : Int) (db1 : Database) (o1 : TopUp) (f : User → User)
    (hf : ∀ u, (f u).id = u.id) (hd : ∀ u, (f u).deleted = u.deleted)
    (hq : ∀ u, (f u).quota = u.quota + quota) (hlive : (db.liveUser? o.userId).isSome = true)
    (husers : db1.users = db.users) (hon : o1.userId = o.userId)
    (h : body.eval db = (do
        Tx.exec (·.updateLiveUser o1.userId f hf)
        createWalletLotFromTopUpTx now o1 lotQuota .topUp
        recordPaymentFeeLedgerForTopUpTx now o1 : DbTx Unit).eval db1) :
    CreditsOwner body o quota db := by
  obtain ⟨lots, ledgers, h1⟩ := eval_booking now o1 lotQuota (db1.updateLiveUser o1.userId f hf)
  rw [CreditsOwner, transaction_eq_eval _ _ List.not_mem_nil, h, eval_exec_bind, h1]
  refine (Database.userQuota_updateLiveUser hf hd hq o.userId).trans ?_
  rw [Database.liveUser?_congr husers, Database.userQuota_congr husers, if_pos ⟨hon.symm, hlive⟩]

theorem credits_of_checked (now : Int) (e : Err) (hlive : (db.liveUser? o.userId).isSome = true)
    (h : body.eval db = (do
      Tx.failIf (quota ≤ 0) e
      completeTopUpTx now o quota quota id fun _ => rfl).eval db) :
    CreditsOwner body o (max quota 0) db := by
  by_cases hq : quota ≤ 0
  · rw [eval_failIf_bind_error _ _ hq] at h
    rw [max_eq_right hq]
    rw [CreditsOwner, transaction_eq_eval _ _ List.not_mem_nil, h]
    exact (add_zero _).symm
  · rw [eval_failIf_bind _ _ hq] at h
    rw [max_eq_left (by omega)]
    exact credits_of_tail now quota { db with topUps := db.topUps.save (o.succeeded now) }
      (o.succeeded now) (fun u => u.credit quota) (fun _ => rfl) (fun _ => rfl) (fun _ => rfl)
      hlive rfl rfl h

theorem eval_creemEmailTx {userId : Nat} (customerEmail : String)
    (hlive : (db.liveUser? userId).isSome = true) :
    ∃ email, (creemEmailTx userId customerEmail).eval db = .ok (email, db) := by
  unfold creemEmailTx
  split
  · exact ⟨_, rfl⟩
  · obtain ⟨user, huser⟩ := Option.isSome_iff_exists.1 hlive
    rw [eval_first_bind (fun d : Database => d.liveUser? userId) huser]
    exact ⟨_, rfl⟩

section Order

variable (cfg : Config) (now : Int) (ho : db.topUps.first? (·.tradeNo = o.tradeNo) = some o)
  (hs : o.status = .pending) (hlive : (db.liveUser? o.userId).isSome = true)
include ho hs hlive

theorem credits_manualCompleteTopUpTx :
    CreditsOwner (manualCompleteTopUpTx cfg now o.tradeNo) o (max (manualQuota cfg o) 0) db := by
  refine credits_of_checked now (.msg "无效的充值额度") hlive ?_
  rw [manualCompleteTopUpTx, eval_firstTopUp_bind ho, completeByHandTx,
    if_neg (by rw [hs]; decide), eval_failIf_bind _ _ (not_not.2 hs)]

theorem credits_rechargeAmountTx {provider : PaymentProvider} (hp : o.paymentProvider = provider) :
    CreditsOwner (rechargeAmountTx cfg now provider o.tradeNo) o
      (max (amountQuota cfg o) 0) db := by
  refine credits_of_checked now (.msg "无效的充值额度") hlive ?_
  rw [rechargeAmountTx, eval_firstTopUp_bind ho, eval_failIf_bind _ _ (not_not.2 hp),
    if_neg (by rw [hs]; decide), eval_failIf_bind _ _ (not_not.2 hs)]

theorem credits_rechargeTx (customerId : String) (hp : o.paymentProvider = .stripe) :
    CreditsOwner (rechargeTx cfg now o.tradeNo customerId) o
      (cfg.storeInt (o.money * cfg.quotaPerUnit)) db := by
  refine credits_of_tail now (intPart (o.money * cfg.quotaPerUnit))
    { db with topUps := db.topUps.save (o.succeeded now) } (o.succeeded now)
    (fun u => ({ u with stripeCustomer := customerId } : User).credit
      (cfg.storeInt (o.money * cfg.quotaPerUnit)))
    (fun _ => rfl) (fun _ => rfl) (fun _ => rfl) hlive rfl rfl ?_
  rw [rechargeTx, eval_firstTopUp_bind ho, eval_failIf_bind _ _ (not_not.2 hp),
    eval_failIf_bind _ _ (not_not.2 hs)]
  rfl

theorem credits_rechargeCreemTx (customerEmail : String) (hp : o.paymentProvider = .creem) :
    CreditsOwner (rechargeCreemTx now o.tradeNo customerEmail) o o.amount db := by
  generalize hsaved : { db with topUps := db.topUps.save (o.succeeded now) } = saved
  have h : (saved.liveUser? o.userId).isSome = true := by
    rw [← hsaved]
    exact hlive
  obtain ⟨email, h1⟩ := eval_creemEmailTx customerEmail h
  refine credits_of_tail now o.amount saved (o.succeeded now)
    (fun u => ({ u with email := email.getD u.email } : User).credit o.amount)
    (fun _ => rfl) (fun _ => rfl) (fun _ => rfl) hlive (by rw [← hsaved]) rfl ?_
  rw [rechargeCreemTx, eval_firstTopUp_bind ho, eval_failIf_bind _ _ (not_not.2 hp),
    eval_failIf_bind _ _ (not_not.2 hs)]
  subst hsaved
  exact eval_bind_ok h1

end Order

/-- The completion of an order by the function of its own provider, which is told `reported`: a
customer, an e-mail or the way it was paid. The Epay webhook saves the order first. -/
def completeByProvider (cfg : Config) (now : Int) (reported : String) (o : TopUp) (db : Database) :
    Database :=
  match o.paymentProvider with
  | .unset => db
  | .epay =>
    (Tx.transaction (epayCreditTx cfg now (o.epayPaid reported)) []
      { db with topUps := db.topUps.save (o.epayPaid reported) }).2
  | .stripe => (recharge cfg now o.tradeNo reported [] db).2
  | .creem => (rechargeCreem now o.tradeNo reported [] db).2
  | .waffo => (rechargeWaffo cfg now o.tradeNo [] db).2
  | .waffoPancake => (rechargeWaffoPancake cfg now o.tradeNo [] db).2

/-- The two completions mean the same by the amount and the money of the order. -/
def TopUp.SameByHand (cfg : Config) (o : TopUp) : Prop :=
  match o.paymentProvider with
  | .epay => -1 < o.amount * cfg.quotaPerUnit
  | .stripe =>
    cfg.storeInt (o.money * cfg.quotaPerUnit) = max (intPart (o.money * cfg.quotaPerUnit)) 0
  | .creem => o.amount = 0 ∨
      0 < o.amount ∧ 1 ≤ cfg.quotaPerUnit ∧ o.amount * (cfg.quotaPerUnit - 1) < 1
  | _ => True

theorem intPart_nonneg_iff {q : ℚ} : 0 ≤ intPart q ↔ -1 < q := by
  rcases le_or_gt 0 q with h | h
  · rw [intPart_of_nonneg h, Int.floor_nonneg]
    exact iff_of_true h (by linarith)
  · have hfloor := intPart_of_nonneg (neg_nonneg.mpr h.le)
    rw [intPart_neg] at hfloor
    rw [← neg_nonpos, ← Int.lt_add_one_iff, hfloor, Int.floor_lt]
    norm_num [neg_lt]

theorem eq_max_intPart_iff {n : Int} {q : ℚ} :
    n = max (intPart (n * q)) 0 ↔ n = 0 ∨ 0 < n ∧ 1 ≤ q ∧ n * (q - 1) < 1 := by
  rcases lt_trichotomy n 0 with hn | rfl | hn
  · exact iff_of_false (fun h => absurd (h ▸ le_max_right _ _) (not_le.mpr hn)) (by omega)
  · simp [intPart]
  have hn' : (0 : ℚ) < n := by exact_mod_cast hn
  have hmax : n = max (intPart (n * q)) 0 ↔ intPart (n * q) = n := by omega
  rw [hmax]
  rcases lt_or_ge q 0 with hq | hq
  · refine iff_of_false (fun h => ?_) (by rintro (h | ⟨-, h, -⟩) <;> [omega; linarith])
    have hfloor := intPart_of_nonneg (neg_nonneg.mpr (mul_neg_of_pos_of_neg hn' hq).le)
    have := Int.floor_nonneg.mpr (neg_nonneg.mpr (mul_neg_of_pos_of_neg hn' hq).le)
    rw [intPart_neg] at hfloor
    omega
  · rw [intPart_of_nonneg (mul_nonneg hn'.le hq), Int.floor_eq_iff, le_mul_iff_one_le_right hn',
      mul_sub, mul_one, sub_lt_iff_lt_add']
    exact ⟨fun h => .inr ⟨hn, h⟩, fun h => (h.resolve_left hn.ne').2⟩

/-- **An order completed by hand is credited as its provider would**, for Waffo orders always,
for Epay orders of dollars that are not negative, for Stripe orders whose quota is stored
truncated, and for Creem orders only if the quota per dollar is as good as one. -/
theorem credited_by_hand_iff (cfg : Config) (now now' : Int) (reported : String) (db : Database)
    (o : TopUp) (ho : db.topUps.first? (·.tradeNo = o.tradeNo) = some o) (hs : o.status = .pending)
    (htrade : o.tradeNo ≠ "") (hp : o.paymentProvider ≠ .unset)
    (hlive : (db.liveUser? o.userId).isSome = true) :
    (manualCompleteTopUp cfg now o.tradeNo [] db).2.userQuota o.userId =
        (completeByProvider cfg now' reported o db).userQuota o.userId ↔
      o.SameByHand cfg := by
  have h := credits_manualCompleteTopUpTx cfg now ho hs hlive
  have hrecharge : ∀ body,
      (rechargeWith o.tradeNo body [] db).2 = (Tx.transaction body [] db).2 := by
    intro body
    rw [rechargeWith, if_neg htrade, reportAs_snd]
  rw [manualCompleteTopUp, if_neg htrade, h, completeByProvider, TopUp.SameByHand, manualQuota]
  cases hprov : o.paymentProvider with
  | unset => exact absurd hprov hp
  | epay =>
    have h : CreditsOwner (epayCreditTx cfg now' (o.epayPaid reported)) o (amountQuota cfg o)
        { db with topUps := db.topUps.save (o.epayPaid reported) } :=
      credits_of_tail now' (amountQuota cfg o) _ (o.epayPaid reported)
        (fun u => u.credit (amountQuota cfg o)) (fun _ => rfl) (fun _ => rfl) (fun _ => rfl) hlive
        rfl rfl rfl
    rw [if_neg (by decide), h]
    exact (add_right_inj _).trans (max_eq_left_iff.trans intPart_nonneg_iff)
  | stripe =>
    rw [if_pos rfl, recharge, hrecharge, credits_rechargeTx cfg now' ho hs hlive reported hprov]
    exact (add_right_inj _).trans eq_comm
  | creem =>
    rw [if_neg (by decide), rechargeCreem, hrecharge,
      credits_rechargeCreemTx now' ho hs hlive reported hprov]
    exact (add_right_inj _).trans (eq_comm.trans eq_max_intPart_iff)
  | waffo =>
    rw [if_neg (by decide), rechargeWaffo, hrecharge,
      credits_rechargeAmountTx cfg now' ho hs hlive hprov]
    exact iff_of_true rfl trivial
  | waffoPancake =>
    rw [if_neg (by decide), rechargeWaffoPancake, hrecharge,
      credits_rechargeAmountTx cfg now' ho hs hlive hprov]
    exact iff_of_true rfl trivial

theorem credited_by_hand_epay :
    (manualCompleteTopUp .fresh 1 "T1" [] (oneOrderDb 1 false)).2.userQuota 1 =
      (completeByProvider .fresh 1 "alipay" oneOrderDb.oneOrder
        (oneOrderDb 1 false)).userQuota 1 := by
  refine (credited_by_hand_iff .fresh 1 1 "alipay" (oneOrderDb 1 false) oneOrderDb.oneOrder
    (by decide +kernel) rfl (by decide) (by decide) (by decide +kernel)).2 ?_
  show (-1 : ℚ) < oneOrderDb.oneOrder.amount * 500000
  decide +kernel

def creemOrder : TopUp :=
  { oneOrderDb.oneOrder with
    amount := 500000, money := 1, paymentMethod := "creem", paymentProvider := .creem }

theorem creem_order_overcredited :
    let db := { oneOrderDb 1 false with topUps := Table.empty.insert creemOrder }
    (completeByProvider .fresh 1 "" creemOrder db).userQuota 1 = 500100 ∧
      (manualCompleteTopUp .fresh 1 "T1" [] db).2.userQuota 1 = 250000000100 := by
  decide +kernel

end Xingkong
