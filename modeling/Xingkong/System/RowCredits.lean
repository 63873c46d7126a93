import Xingkong.Lib.ReadCommitted
import Xingkong.Spec.TopUp
import Xingkong.System.SubscriptionRefunds

/-!
# Credits of one row under concurrent calls

A redemption code, a pending Stripe order and an active subscription each stand for a quota that
may be credited once. `Redeem`, `Recharge` and `CancelSubscriptionByUser` read the row, check its
status, credit a user and write the status back. The `FOR UPDATE` of the read is set in a way the
pinned gorm ignores, so nothing keeps a second call from reading the row before the first one has
committed: both credit. The bodies are those of the model, statement by statement; here they run
side by side at READ COMMITTED.
-/

namespace Xingkong

open Rdb

variable {db db' : Database} {cfg : Config}

/-! ## Calls on a row -/

inductive CreditRow
  | redemption (key : String)
  | topUp (tradeNo : String)
  | subscription (id : Nat)
  deriving DecidableEq

inductive CreditCall
  | redeem (now : Int) (key : String) (userId : Nat)
  | recharge (now : Int) (referenceId customerId : String)
  | cancelSubscriptionByUser (now : Int) (userId subId : Nat)

namespace CreditCall

def row : CreditCall → CreditRow
  | redeem _ key _ => .redemption key
  | recharge _ referenceId _ => .topUp referenceId
  | cancelSubscriptionByUser _ _ subId => .subscription subId

def body (cfg : Config) : CreditCall → DbTx Unit
  | redeem now key userId => do
    Tx.failIf (key = "") (.msg "未提供兑换码")
    Tx.failIf (userId = 0) (.msg "无效的 user id")
    let _ ← redeemTx now key userId
  | recharge now referenceId customerId => do
    Tx.failIf (referenceId = "") (.msg "未提供支付单号")
    rechargeTx cfg now referenceId customerId
  | cancelSubscriptionByUser now userId subId => do
    Tx.failIf (userId = 0 ∨ subId = 0) (.msg "invalid userId or subId")
    let _ ← cancelSubscriptionByUserTx now userId subId

end CreditCall

def CreditRow.worth (cfg : Config) (db : Database) : CreditRow → Option Int
  | redemption key =>
    match db.redemptions.first? fun r => r.key = key && !r.deleted with
    | some r => if r.status = .enabled then some r.quota else none
    | none => none
  | topUp tradeNo =>
    match db.topUps.first? (·.tradeNo = tradeNo) with
    | some o =>
      if o.paymentProvider = .stripe ∧ o.status = .pending then
        some (cfg.storeInt (o.money * cfg.quotaPerUnit))
      else none
    | none => none
  | subscription id =>
    match db.userSubscriptions.find? id with
    | some s =>
      if s.status = .active ∧ s.amountUsed < s.paidAmount then
        some (calculateSubscriptionRefundQuota s)
      else none
    | none => none

open CreditRow (worth)

/-- At most one user got `w` more; nobody else got anything. -/
def Credited (w : Int) (db db' : Database) : Prop :=
  ∃ user : Option Nat, ∀ v, db'.userQuota v = db.userQuota v + if user = some v then w else 0

variable {w now : Int} {userId : Nat} {u : Unit}

theorem credited_of_user (userId : Nat) (h : ∀ v, db'.userQuota v =
      db.userQuota v + if v = userId ∧ (db.liveUser? v).isSome then w else 0) :
    Credited w db db' := by
  by_cases hlive : (db.liveUser? userId).isSome
  · refine ⟨some userId, fun v => ?_⟩
    rw [h]
    by_cases hv : v = userId
    · subst hv
      rw [if_pos ⟨rfl, hlive⟩, if_pos rfl]
    · rw [if_neg fun hc => hv hc.1, if_neg fun hc => hv (Option.some.inj hc).symm]
  · refine ⟨none, fun v => ?_⟩
    rw [h, if_neg, if_neg nofun]
    rintro ⟨rfl, hl⟩
    exact hlive hl

theorem Credited.le (h : Credited w db db') (hw : 0 ≤ w) (v : Nat) :
    db'.userQuota v ≤ db.userQuota v + w := by
  obtain ⟨user, hu⟩ := h
  rw [hu]
  split <;> omega

theorem Credited.one (h : Credited w db db') {v v' : Nat} (hne : v ≠ v') :
    db'.userQuota v = db.userQuota v ∨ db'.userQuota v' = db.userQuota v' := by
  obtain ⟨user, hu⟩ := h
  rw [hu, hu]
  by_cases hv : user = some v
  · refine .inr ?_
    rw [if_neg fun hv' => hne (Option.some.inj (hv.symm.trans hv')), add_zero]
  · exact .inl (by rw [if_neg hv, add_zero])

/-! ## Each body alone -/

/-- A call that succeeds closes the row; it credits what the row stood for, or nothing if that
was nothing. -/
def Closes (cfg : Config) (row : CreditRow) (db db' : Database) : Prop :=
  row.worth cfg db' = none ∧
    ((∃ w, row.worth cfg db = some w ∧ Credited w db db') ∨
      (row.worth cfg db = none ∧ ∀ v, db'.userQuota v = db.userQuota v))

theorem redeemTx_closes {key : String} {q : Int} (h : Tx.Ok (redeemTx now key userId) db q db') :
    Closes cfg (.redemption key) db db' := by
  obtain ⟨r, hr, hs, _, db1, hlot, rfl⟩ := redeemTx_ok h
  have hsame : db1.redemptions = db.redemptions ∧
      db1.users = (db.addUserQuota userId r.quota).users := by
    rcases createWalletLotFromRedemptionTx_ok hlot with rfl | ⟨_, rfl⟩ <;> exact ⟨rfl, rfl⟩
  refine ⟨?_, .inl ⟨r.quota, by simp [worth, hr, hs], ?_⟩⟩
  · have h := Table.first?_save (r := { r with
      redeemedTime := now, status := .used, usedUserId := userId }) hr rfl
      (Table.mem_of_first? hr).2
    dsimp only [worth]
    rw [hsame.1, h]
    rfl
  · refine credited_of_user userId fun v => ?_
    rw [← Database.userQuota_addUserQuota]
    exact Database.userQuota_congr hsame.2 v

theorem rechargeTx_closes {referenceId customerId : String}
    (h : Tx.Ok (rechargeTx cfg now referenceId customerId) db u db') :
    Closes cfg (.topUp referenceId) db db' := by
  obtain ⟨o, ho, hp, hs, hc⟩ := rechargeTx_ok h
  refine ⟨?_, .inl ⟨_, by simp [worth, ho, hp, hs], credited_of_user _ hc.userQuota⟩⟩
  have h := Table.first?_save (r := o.succeeded now) ho rfl (Table.mem_of_first? ho).2
  dsimp only [worth]
  rw [hc.topUps, h]
  simp [TopUp.succeeded]

theorem cancelSubscriptionByUserTx_closes {subId : Nat} {r : Int × String}
    (h : Tx.Ok (cancelSubscriptionByUserTx now userId subId) db r db') :
    Closes cfg (.subscription subId) db db' := by
  obtain ⟨sub, db1, hf, _, hs, _, _, href, h1⟩ := cancelSubscriptionByUserTx_ok h
  have hg := h1.regrouped
  obtain ⟨_, hid⟩ := Table.find?_eq_some.1 hf
  obtain ⟨h, hsubs⟩ := refundSubscriptionTx_refunded href
  have hquota : ∀ v, db'.userQuota v = db.userQuota v +
      if v = sub.userId ∧ (db.liveUser? v).isSome then calculateSubscriptionRefundQuota sub
      else 0 :=
    fun v => (hg.userQuota v).trans (h v)
  have hrow : db'.userSubscriptions.find? subId =
      some { sub with status := .cancelled, endTime := now } := by
    obtain ⟨users, rfl⟩ := hg.frame
    rw [hsubs]
    dsimp only [Database.cancelSubscriptionRow]
    rw [Table.find?_update, hf]
    simp
  refine ⟨by simp [worth, hrow], ?_⟩
  by_cases h : sub.amountUsed < sub.paidAmount
  · exact .inl ⟨_, by simp [worth, hf, hs, h], credited_of_user _ hquota⟩
  · have h1 : calculateSubscriptionRefundQuota sub = 0 := by
      rw [calculateSubscriptionRefundQuota_eq]
      split <;> omega
    refine .inr ⟨by simp [worth, hf, h], fun v => ?_⟩
    rw [hquota, h1, ite_self, add_zero]

theorem CreditCall.body_closes {c : CreditCall} (h : Tx.Ok (c.body cfg) db u db') :
    Closes cfg c.row db db' := by
  cases c with
  | redeem now key userId =>
    obtain ⟨_, h1⟩ := h.failIf_bind
    obtain ⟨_, h2⟩ := h1.failIf_bind
    obtain ⟨_, db1, h3, h4⟩ := h2.bind
    obtain ⟨_, rfl⟩ := h4.pure
    exact redeemTx_closes h3
  | recharge now referenceId customerId => exact rechargeTx_closes h.failIf_bind.2
  | cancelSubscriptionByUser now userId subId =>
    obtain ⟨_, db1, h3, h4⟩ := h.failIf_bind.2.bind
    obtain ⟨_, rfl⟩ := h4.pure
    exact cancelSubscriptionByUserTx_closes h3

/-! ## Side by side -/

inductive LockedTable
  | users
  | redemptions
  | topUps
  | userSubscriptions
  | subscriptionLots
  deriving DecidableEq

def Database.changedRows (db db' : Database) : List (LockedTable × Nat) :=
  (db.users.changed db'.users).map (.users, ·) ++
    (db.redemptions.changed db'.redemptions).map (.redemptions, ·) ++
    (db.topUps.changed db'.topUps).map (.topUps, ·) ++
    (db.userSubscriptions.changed db'.userSubscriptions).map (.userSubscriptions, ·) ++
    (db.subscriptionLots.changed db'.subscriptionLots).map (.subscriptionLots, ·)

section Run

variable {ι : Type} [DecidableEq ι]

abbrev CreditState (ι : Type) :=
  Pool.State ι (ReadCommitted.Txn Database (LockedTable × Nat) Err Unit)
    (ReadCommitted.Store Database (LockedTable × Nat))

def creditStart (cfg : Config) (db : Database) (calls : ι → CreditCall) : CreditState ι :=
  ReadCommitted.start db fun i => (calls i).body cfg

def creditNext : CreditState ι → ι × Bool → CreditState ι :=
  ReadCommitted.next Database.changedRows

/-- Until the row is closed nothing has been credited; from then on at most what it stood for. -/
def OpenOrCredited (cfg : Config) (row : CreditRow) (w : Int) (db₀ db : Database) : Prop :=
  (row.worth cfg db = some w ∧ ∀ v, db.userQuota v = db₀.userQuota v) ∨
    (row.worth cfg db = none ∧ Credited w db₀ db)

theorem Closes.openOrCredited {row : CreditRow} {w : Int} {db0 : Database}
    (h : Closes cfg row db db') (ho : OpenOrCredited cfg row w db0 db) :
    OpenOrCredited cfg row w db0 db' := by
  obtain ⟨h1, h2⟩ := h
  refine .inr ⟨h1, ?_⟩
  rcases h2 with ⟨w', hw', hc⟩ | ⟨hw', hq⟩
  · rcases ho with ⟨hw, hq⟩ | ⟨hw, _⟩
    · obtain rfl : w' = w := Option.some.inj (hw'.symm.trans hw)
      exact hc.imp fun user hu v => by rw [hu, hq]
    · rw [hw] at hw'
      cases hw'
  · rcases ho with ⟨hw, _⟩ | ⟨_, hc⟩
    · rw [hw] at hw'
      cases hw'
    · exact hc.imp fun user hu v => by rw [hq, hu]

/-- **Calls that do not overlap credit a row at most once.** Calls on one row run statement by
statement, any statements failing, and no call starts while another one is between its start and
its end. Then in every state at most one user has been credited, and with what the row stood for.
-/
theorem row_credited_once (cfg : Config) (row : CreditRow) (db₀ : Database) (w : Int)
    (hw : row.worth cfg db₀ = some w) (calls : ι → CreditCall) (hcalls : ∀ i, (calls i).row = row)
    (steps : List (ι × Bool))
    (hsteps : ∀ e ∈ Run.trace creditNext (creditStart cfg db₀ calls) steps,
      ReadCommitted.StartsAlone e.before e.act) :
    Credited w db₀
      (Run.final creditNext (creditStart cfg db₀ calls) steps).shared.committed := by
  have h : OpenOrCredited cfg row w db₀
      (Run.final creditNext (creditStart cfg db₀ calls) steps).shared.committed := by
    refine ReadCommitted.serial_invariant Database.changedRows (.inl ⟨hw, fun _ => rfl⟩)
      (fun i db u db' ho hok => ?_) hsteps
    have h1 := CreditCall.body_closes hok
    rw [hcalls i] at h1
    exact h1.openOrCredited ho
  rcases h with ⟨_, hq⟩ | ⟨_, hc⟩
  · exact ⟨none, fun v => by rw [hq, if_neg nofun, add_zero]⟩
  · exact hc

end Run

/-! ## Two calls -/

def rowsDb : Database :=
  { Database.empty with
    users := (Table.empty.insert (user 1)).insert (user 2)
    redemptions := Table.empty.insert
      { id := 1, key := "K", status := .enabled, quota := 100, purpose := .gift
        salePriceCNY := 0, redeemedTime := 0, usedUserId := 0, deleted := false, expiredTime := 0 }
    topUps := Table.empty.insert
      { id := 1, userId := 1, amount := 10, money := 10, paymentFeeCNY := 1, tradeNo := "T"
        paymentMethod := "stripe", paymentProvider := .stripe, createTime := 0, completeTime := 0
        status := .pending }
    userSubscriptions := Table.empty.insert oneSubscriptionDb.paidSubscription
    subscriptionLots := Table.empty.insert
      (subscriptionLot 0 oneSubscriptionDb.paidSubscription 1 .wallet 1000 10 0 0) }
where
  user (id : Nat) : User :=
    { id, role := 1, quota := 0, group := "default", email := "", stripeCustomer := ""
      deleted := false }

def twoCalls (first second : CreditCall) (b : Bool) : CreditCall := if b then second else first

def afterTwo (first second : CreditCall) (order : List Bool) : Database :=
  (Run.final creditNext (creditStart .fresh rowsDb (twoCalls first second))
    (order.map (·, false))).shared.committed

def inTurn : List Bool := List.replicate 12 false ++ List.replicate 12 true

def readBoth : List Bool := false :: true :: inTurn

theorem row_credited_once_in_turn :
    Credited 100 rowsDb (afterTwo (.redeem 5 "K" 1) (.redeem 5 "K" 2) inTurn) := by
  refine row_credited_once .fresh (.redemption "K") rowsDb 100 (by decide +kernel)
    (twoCalls (.redeem 5 "K" 1) (.redeem 5 "K" 2)) (by decide) _ ?_
  unfold ReadCommitted.StartsAlone
  decide +kernel

/-- Two calls that both read the row before either commits: a code is credited to two users, an
order and a subscription are credited twice to their owner. -/
theorem row_credited_twice :
    (CreditRow.worth .fresh rowsDb (.redemption "K") = some 100 ∧
      (afterTwo (.redeem 5 "K" 1) (.redeem 5 "K" 2) readBoth).userQuota 1 = 100 ∧
      (afterTwo (.redeem 5 "K" 1) (.redeem 5 "K" 2) readBoth).userQuota 2 = 100 ∧
      ¬ Credited 100 rowsDb (afterTwo (.redeem 5 "K" 1) (.redeem 5 "K" 2) readBoth)) ∧
    (CreditRow.worth .fresh rowsDb (.topUp "T") = some 5000000 ∧
      (afterTwo (.recharge 5 "T" "c") (.recharge 6 "T" "c") readBoth).userQuota 1 = 10000000 ∧
      ¬ Credited 5000000 rowsDb (afterTwo (.recharge 5 "T" "c") (.recharge 6 "T" "c") readBoth)) ∧
    (CreditRow.worth .fresh rowsDb (.subscription 1) = some 600 ∧
      (afterTwo (.cancelSubscriptionByUser 5 1 1) (.cancelSubscriptionByUser 6 1 1)
        readBoth).userQuota 1 = 1200 ∧
      ¬ Credited 600 rowsDb (afterTwo (.cancelSubscriptionByUser 5 1 1)
        (.cancelSubscriptionByUser 6 1 1) readBoth)) := by
  refine ⟨⟨by decide +kernel, by decide +kernel, by decide +kernel, fun h => ?_⟩,
    ⟨by decide +kernel, by decide +kernel, fun h => ?_⟩,
    ⟨by decide +kernel, by decide +kernel, fun h => ?_⟩⟩
  · exact absurd (h.one (by decide : (1 : Nat) ≠ 2)) (by decide +kernel)
  · exact absurd (h.le (by decide) 1) (by decide +kernel)
  · exact absurd (h.le (by decide) 1) (by decide +kernel)

end Xingkong
