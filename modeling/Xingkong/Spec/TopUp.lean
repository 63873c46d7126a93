import Xingkong.Model.TopUp
import Xingkong.Spec.Quota

/-!
# What the top-up functions do

All completions come down to `Completion`: the order is saved as successful, its owner is
credited, and the lot and the fee row are added where they are due.
-/

namespace Xingkong

open Rdb Database

variable {db db' : Database} {now : Int} {o : TopUp} {quota lotQuota : Int} {tradeNo : String}

theorem firstTopUp_bind {α : Type} {missing : Err} {f : TopUp → DbTx α} {a : α}
    (h : Tx.Ok (firstTopUp tradeNo missing >>= f) db a db') :
    ∃ o, db.topUps.first? (·.tradeNo = tradeNo) = some o ∧ Tx.Ok (f o) db a db' := by
  obtain ⟨o, db1, h1, h2⟩ := h.bind
  obtain ⟨ho, rfl⟩ := h1.orFail.first
  exact ⟨o, ho, h2⟩

/-- The whole effect of completing order `o` with a credit of `quota`. -/
structure Completion (now : Int) (o : TopUp) (quota lotQuota : Int) (db db' : Database) : Prop where
  frame : ∃ users lots ledgers, db' = { db with
    topUps := db.topUps.save (o.succeeded now), users, walletLots := lots
    financeLedgers := ledgers }
  userQuota : ∀ v, db'.userQuota v =
    db.userQuota v + if v = o.userId ∧ (db.liveUser? v).isSome then quota else 0
  live : ∀ v, (db'.liveUser? v).isSome = (db.liveUser? v).isSome
  exempt : ∀ v, db'.exempt v = db.exempt v
  lots : TopUpLotDue now (o.succeeded now) lotQuota .topUp (db.exempt o.userId) db.walletLots
    db'.walletLots
  ledgers : FeeDue now .topUp o.id o.userId o.paymentFeeCNY (db.exempt o.userId)
    db.financeLedgers db'.financeLedgers

namespace Completion

theorem topUps (h : Completion now o quota lotQuota db db') :
    db'.topUps = db.topUps.save (o.succeeded now) := by
  obtain ⟨users, lots, ledgers, rfl⟩ := h.frame
  rfl

end Completion

variable {f : User → User} {provider : PaymentProvider} {userId : Nat} {customerEmail : String}
  {hf : ∀ u, (f u).id = u.id} {u : Unit}

theorem completion_of_tail (h : Tx.Ok (do
      creditOwner o.userId quota f hf
      createWalletLotFromTopUpTx now (o.succeeded now) lotQuota .topUp
      recordPaymentFeeLedgerForTopUpTx now (o.succeeded now))
      { db with topUps := db.topUps.save (o.succeeded now) } u db')
    (hd : ∀ u, (f u).deleted = u.deleted) (hr : ∀ u, (f u).role = u.role)
    (hq : ∀ u, (f u).quota = u.quota) : Completion now o quota lotQuota db db' := by
  have hd' : ∀ u : User, ((f u).credit quota).deleted = u.deleted := hd
  have hr' : ∀ u : User, ((f u).credit quota).role = u.role := hr
  have hq' : ∀ u : User, ((f u).credit quota).quota = u.quota + quota := by
    intro u; simp [User.credit, hq]
  obtain ⟨_, db1, h1, h2⟩ := Tx.Ok.bind h
  have hdb1 := h1.exec
  obtain ⟨_, db2, h3, h4⟩ := h2.bind
  obtain ⟨lots, hdb2, hlot⟩ := createWalletLotFromTopUpTx_ok h3
  obtain ⟨ledgers, hdb', hfee⟩ := recordPaymentFeeLedgerTx_ok h4
  -- the users table is the credited one from then on
  have hu1 : db1.users = (db.updateLiveUser o.userId (fun u => (f u).credit quota) hf).users := by
    rw [hdb1]; rfl
  have hu2 : db2.users = (db.updateLiveUser o.userId (fun u => (f u).credit quota) hf).users := by
    rw [hdb2]; exact hu1
  have hu' : db'.users = (db.updateLiveUser o.userId (fun u => (f u).credit quota) hf).users := by
    rw [hdb']; exact hu2
  have h : ∀ v, (db.updateLiveUser o.userId (fun u => (f u).credit quota) hf).exempt v =
      db.exempt v := exempt_updateLiveUser _ hd' hr'
  refine ⟨⟨db'.users, lots, ledgers, ?_⟩, fun v => ?_, fun v => ?_, fun v => ?_, ?_, ?_⟩
  · rw [hdb', hdb2, hdb1]; rfl
  · rw [userQuota_congr hu']
    exact userQuota_updateLiveUser _ hd' hq' v
  · rw [Database.liveUser?_congr hu']
    exact live_updateLiveUser _ hd' v
  · rw [exempt_congr hu', h]
  · rw [exempt_congr hu1, h] at hlot
    rw [hdb', hdb2]
    rw [hdb1] at hlot
    exact hlot
  · rw [exempt_congr hu2, h] at hfee
    rw [hdb']
    rw [hdb2, hdb1] at hfee
    exact hfee

theorem completeTopUpTx_ok (h : Tx.Ok (completeTopUpTx now o quota lotQuota f hf) db u db')
    (hd : ∀ u, (f u).deleted = u.deleted) (hr : ∀ u, (f u).role = u.role)
    (hq : ∀ u, (f u).quota = u.quota) : Completion now o quota lotQuota db db' :=
  completion_of_tail (Tx.Ok.exec_bind h) hd hr hq

/-! ## The functions -/

variable {cfg : Config}

theorem updatePendingTopUpStatusTx_ok {target : TopUpStatus}
    (h : Tx.Ok (updatePendingTopUpStatusTx tradeNo provider target) db u db') :
    ∃ o, db.topUps.first? (·.tradeNo = tradeNo) = some o ∧
      (provider ≠ .unset → o.paymentProvider = provider) ∧ o.status = .pending ∧
      db' = { db with topUps := db.topUps.save { o with status := target } } := by
  obtain ⟨o, ho, h1⟩ := firstTopUp_bind h
  obtain ⟨hp, h2⟩ := h1.failIf_bind
  obtain ⟨hs, h3⟩ := h2.failIf_bind
  exact ⟨o, ho, not_and_not_right.1 hp, not_not.1 hs, h3.exec⟩

theorem rechargeTx_ok {customerId : String}
    (h : Tx.Ok (rechargeTx cfg now tradeNo customerId) db u db') :
    ∃ o, db.topUps.first? (·.tradeNo = tradeNo) = some o ∧ o.paymentProvider = .stripe ∧
      o.status = .pending ∧
      Completion now o (cfg.storeInt (o.money * cfg.quotaPerUnit))
        (intPart (o.money * cfg.quotaPerUnit)) db db' := by
  obtain ⟨o, ho, h1⟩ := firstTopUp_bind h
  obtain ⟨hp, h2⟩ := h1.failIf_bind
  obtain ⟨hs, h3⟩ := h2.failIf_bind
  exact ⟨o, ho, not_not.1 hp, not_not.1 hs,
    completeTopUpTx_ok h3 (fun _ => rfl) (fun _ => rfl) (fun _ => rfl)⟩

theorem creemEmailTx_ok {email : Option String}
    (h : Tx.Ok (creemEmailTx userId customerEmail) db email db') : db' = db := by
  unfold creemEmailTx at h
  split at h
  · exact h.pure.2
  · obtain ⟨_, _, h1⟩ := h.first_bind
    exact h1.pure.2

theorem rechargeCreemTx_ok (h : Tx.Ok (rechargeCreemTx now tradeNo customerEmail) db u db') :
    ∃ o, db.topUps.first? (·.tradeNo = tradeNo) = some o ∧ o.paymentProvider = .creem ∧
      o.status = .pending ∧ Completion now o o.amount o.amount db db' := by
  obtain ⟨o, ho, h1⟩ := firstTopUp_bind h
  obtain ⟨hp, h2⟩ := h1.failIf_bind
  obtain ⟨hs, h3⟩ := h2.failIf_bind
  obtain ⟨email, db1, h4, h5⟩ := h3.exec_bind.bind
  obtain rfl := creemEmailTx_ok h4
  exact ⟨o, ho, not_not.1 hp, not_not.1 hs,
    completion_of_tail h5 (fun _ => rfl) (fun _ => rfl) (fun _ => rfl)⟩

theorem rechargeAmountTx_ok (h : Tx.Ok (rechargeAmountTx cfg now provider tradeNo) db u db') :
    db' = db ∨ ∃ o, db.topUps.first? (·.tradeNo = tradeNo) = some o ∧
      o.paymentProvider = provider ∧ o.status = .pending ∧
      Completion now o (amountQuota cfg o) (amountQuota cfg o) db db' := by
  obtain ⟨o, ho, h1⟩ := firstTopUp_bind h
  obtain ⟨hp, h2⟩ := h1.failIf_bind
  split at h2
  · exact .inl h2.pure.2
  · obtain ⟨hs, h3⟩ := h2.failIf_bind
    obtain ⟨_, h4⟩ := h3.failIf_bind
    exact .inr ⟨o, ho, not_not.1 hp, not_not.1 hs,
      completeTopUpTx_ok h4 (fun _ => rfl) (fun _ => rfl) (fun _ => rfl)⟩

theorem completeByHandTx_ok (h : Tx.Ok (completeByHandTx cfg now o) db u db') :
    (o.status = .success ∧ db' = db) ∨
      (o.status = .pending ∧ Completion now o (manualQuota cfg o) (manualQuota cfg o) db db') := by
  unfold completeByHandTx at h
  split at h
  next hs =>
    exact .inl ⟨hs, h.pure.2⟩
  · obtain ⟨hs, h1⟩ := h.failIf_bind
    obtain ⟨_, h2⟩ := h1.failIf_bind
    exact .inr ⟨not_not.1 hs, completeTopUpTx_ok h2 (fun _ => rfl) (fun _ => rfl) (fun _ => rfl)⟩

theorem manualCompleteTopUpTx_ok (h : Tx.Ok (manualCompleteTopUpTx cfg now tradeNo) db u db') :
    db' = db ∨ ∃ o, db.topUps.first? (·.tradeNo = tradeNo) = some o ∧ o.status = .pending ∧
      Completion now o (manualQuota cfg o) (manualQuota cfg o) db db' := by
  obtain ⟨o, ho, h1⟩ := firstTopUp_bind h
  rcases completeByHandTx_ok h1 with ⟨_, rfl⟩ | ⟨hs, hc⟩
  · exact .inl rfl
  · exact .inr ⟨o, ho, hs, hc⟩

theorem epayCreditTx_ok (h : Tx.Ok (epayCreditTx cfg now o) db u db') :
    db'.topUps = db.topUps ∧ db'.users = (db.addUserQuota o.userId (amountQuota cfg o)).users := by
  obtain ⟨_, db1, h1, h2⟩ := h.exec_bind.bind
  obtain ⟨lots, rfl, _⟩ := createWalletLotFromTopUpTx_ok h1
  obtain ⟨ledgers, rfl, _⟩ := recordPaymentFeeLedgerTx_ok h2
  exact ⟨rfl, rfl⟩

theorem epayCreditTx_lots (h : Tx.Ok (epayCreditTx cfg now o) db u db') :
    db'.subscriptionLots = db.subscriptionLots ∧
      TopUpLotDue now o (amountQuota cfg o) .topUp (db.exempt o.userId) db.walletLots
        db'.walletLots ∧
      FeeDue now .topUp o.id o.userId o.paymentFeeCNY (db.exempt o.userId) db.financeLedgers
        db'.financeLedgers := by
  obtain ⟨_, db1, h1, h2⟩ := h.exec_bind.bind
  obtain ⟨lots, rfl, hlt⟩ := createWalletLotFromTopUpTx_ok h1
  obtain ⟨ledgers, rfl, hfee⟩ := recordPaymentFeeLedgerTx_ok h2
  have h1 : (db.addUserQuota o.userId (amountQuota cfg o)).exempt o.userId =
      db.exempt o.userId := exempt_addUserQuota o.userId
  rw [h1] at hlt
  replace hfee : FeeDue now .topUp o.id o.userId o.paymentFeeCNY
      ((db.addUserQuota o.userId (amountQuota cfg o)).exempt o.userId) db.financeLedgers
      ledgers := hfee
  rw [h1] at hfee
  exact ⟨rfl, hlt, hfee⟩

theorem redeemTx_ok {key : String} {q : Int} (h : Tx.Ok (redeemTx now key userId) db q db') :
    ∃ r, db.redemptions.first? (fun r => r.key = key && !r.deleted) = some r ∧
      r.status = .enabled ∧ q = r.quota ∧
      ∃ db1, Tx.Ok (createWalletLotFromRedemptionTx now r userId)
          (db.addUserQuota userId r.quota) () db1 ∧
        db' = { db1 with
          redemptions := db1.redemptions.save
            { r with redeemedTime := now, status := .used, usedUserId := userId } } := by
  obtain ⟨r, db1, h1, h2⟩ := Tx.Ok.bind h
  obtain ⟨hr, rfl⟩ := h1.orFail.first
  obtain ⟨hs, h3⟩ := h2.failIf_bind
  obtain ⟨_, h4⟩ := h3.failIf_bind
  obtain ⟨_, db2, h5, h6⟩ := h4.exec_bind.bind
  obtain ⟨rfl, rfl⟩ := h6.exec_bind.pure
  exact ⟨r, hr, not_not.1 hs, rfl, db2, h5, rfl⟩

end Xingkong
