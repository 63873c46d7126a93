import Xingkong.Spec.Accounts

/-!
# What a billing session does to the accounts

A session moves one funding source and one token. `Accounts.billed` is the accounts of a
database in which the session has taken `x` from its funding and `y` from its token and nothing
else has moved; each step of a session takes one such position to another. A counter of a
subscription stops at zero, so what can be given back on one is bounded by what was on it
(`FundingSource.land`).
-/

namespace Xingkong

open Rdb

variable {a a0 : Accounts} {db db' : Database} {cfg : Config}

/-! ## Positions -/

namespace Accounts

def addUsed (a : Accounts) (subId : Nat) (x : Int) : Accounts :=
  { a with used := Function.update a.used subId (a.used subId + x) }

def paid (a : Accounts) (status : PreConsumeStatus) (x : Int) : FundingSource → Accounts
  | .wallet userId _ => a.addWallet userId (-x)
  | .subscription f =>
    (a.addUsed f.subscriptionId x).note f.requestId ⟨f.subscriptionId, f.preConsumed, status⟩

def billed (a : Accounts) (status : PreConsumeStatus) (s : BillingSession) (x y : Int) : Accounts :=
  (a.paid status x s.funding).addToken s.relayInfo.tokenId (-y)

section

variable (a : Accounts)

@[simp] theorem addWallet_addWallet (u : Nat) (x y : Int) :
    (a.addWallet u x).addWallet u y = a.addWallet u (x + y) := by
  simp [addWallet, add_assoc]

@[simp] theorem addToken_addToken (t : Nat) (x y : Int) :
    (a.addToken t x).addToken t y = a.addToken t (x + y) := by
  simp [addToken, add_assoc]

theorem addToken_addWallet (t u : Nat) (x y : Int) :
    (a.addToken t x).addWallet u y = (a.addWallet u y).addToken t x := rfl

theorem addToken_meter (t n : Nat) (x y : Int) :
    (a.addToken t x).meter n y = (a.meter n y).addToken t x := rfl

theorem addToken_note (t : Nat) (x : Int) (r : String) (v : Reservation) :
    (a.addToken t x).note r v = (a.note r v).addToken t x := rfl

theorem note_meter (r : String) (v : Reservation) (n : Nat) (y : Int) :
    (a.note r v).meter n y = (a.meter n y).note r v := rfl

@[simp] theorem note_note (r : String) (v w : Reservation) :
    (a.note r v).note r w = a.note r w := by
  simp [note]

@[simp] theorem addWallet_zero (u : Nat) : a.addWallet u 0 = a := by
  simp [addWallet]

@[simp] theorem addToken_zero (t : Nat) : a.addToken t 0 = a := by
  simp [addToken]

theorem addUsed_meter (n : Nat) (x y : Int) :
    (a.addUsed n x).meter n y = a.addUsed n (max (x + y) (-a.used n)) := by
  simp only [addUsed, meter, Function.update_self, Function.update_idem]
  congr 2
  omega

end

variable (st : PreConsumeStatus) (s : BillingSession) (x : Int) (f : FundingSource) (y : Int)

theorem paid_addToken (t : Nat) (y : Int) :
    (a.addToken t y).paid st x f = (a.paid st x f).addToken t y := by
  cases f <;> rfl

@[simp] theorem paid_live : (a.paid st x f).live = a.live := by
  cases f <;> rfl

@[simp] theorem paid_issued : (a.paid st x f).issued = a.issued := by
  cases f <;> rfl

@[simp] theorem billed_live : (a.billed st s x y).live = a.live :=
  paid_live st x s.funding

@[simp] theorem billed_issued : (a.billed st s x y).issued = a.issued :=
  paid_issued st x s.funding

theorem billed_addToken (z : Int) :
    (a.billed st s x y).addToken s.relayInfo.tokenId (-z) = a.billed st s x (y + z) := by
  unfold billed
  rw [addToken_addToken, ← neg_add]

end Accounts

namespace FundingSource

/-- What is taken from a source that should have given `z` in all. -/
def land (a : Accounts) (z : Int) : FundingSource → Int
  | wallet _ _ => z
  | subscription f => max z (-a.used f.subscriptionId)

def shift (delta : Int) : FundingSource → Accounts → Accounts
  | wallet userId _, a => a.addWallet userId (-delta)
  | subscription f, a => a.meter f.subscriptionId delta

/-- The counter a source draws on is not below zero. -/
def Counted (a : Accounts) : FundingSource → Prop
  | wallet _ _ => True
  | subscription f => 0 ≤ a.used f.subscriptionId

theorem land_of_nonneg {f : FundingSource} (hc : f.Counted a) {z : Int} (hz : 0 ≤ z) :
    f.land a z = z := by
  cases f with
  | wallet _ _ => rfl
  | subscription f => exact max_eq_left (le_trans (neg_nonpos.2 hc) hz)

theorem shift_billed (st : PreConsumeStatus) (s : BillingSession) (x y delta : Int) :
    s.funding.shift delta (a.billed st s x y) =
      a.billed st s (s.funding.land a (x + delta)) y := by
  unfold Accounts.billed
  cases s.funding with
  | wallet u c =>
    simp only [shift, land, Accounts.paid, Accounts.addToken_addWallet,
      Accounts.addWallet_addWallet, neg_add]
  | subscription f =>
    simp only [shift, land, Accounts.paid, Accounts.addToken_meter, Accounts.note_meter,
      Accounts.addUsed_meter]

def Backed (a : Accounts) : FundingSource → Prop
  | wallet userId _ => a.live userId = true
  | subscription _ => True

theorem settle_atomic (cfg : Config) (env : CallEnv) {delta : Int} (f : FundingSource)
    (hd : delta ≠ 0)
    (hb : f.Backed db.accounts) : Atomic (f.shift delta) db (f.settle cfg env delta db) := by
  cases f with
  | wallet userId _ =>
    simp only [settle, if_neg hd]
    split
    · exact decreaseUserQuota_atomic hb
    · exact increaseUserQuota_atomic hb
  | subscription f =>
    simp only [settle, if_neg hd]
    exact postConsumeUserSubscriptionDelta_atomic hd

def addConsumed (delta : Int) : FundingSource → FundingSource
  | wallet userId consumed => wallet userId (consumed + delta)
  | subscription f => subscription f

end FundingSource

@[simp] theorem Accounts.paid_addConsumed (st : PreConsumeStatus) (x d : Int) (f : FundingSource) :
    a.paid st x (f.addConsumed d) = a.paid st x f := by
  cases f <;> rfl

/-! ## Token steps -/

def TokenOnly (db db' : Database) : Prop :=
  ∃ tokens batchTokenQuota, db' = { db with tokens, batchTokenQuota }

theorem TokenOnly.refl (db : Database) : TokenOnly db db := ⟨_, _, rfl⟩

theorem TokenOnly.users {db' : Database} (h : TokenOnly db db') : db'.users = db.users := by
  obtain ⟨_, _, rfl⟩ := h
  rfl

theorem moveTokenQuota_tokenOnly (id : Nat) (quota delta : Int) (faults : List Bool) :
    TokenOnly db (moveTokenQuota cfg id quota delta faults db).2 := by
  unfold moveTokenQuota
  split
  · exact .refl db
  · split
    · exact ⟨_, _, rfl⟩
    · refine Tx.transaction_invariant (.refl db) (fun _ d h => ?_) faults
      rw [h.exec]
      exact ⟨_, _, rfl⟩

theorem preConsumeTokenQuota_tokenOnly (cfg : Config) (env : CallEnv) (info : RelayInfo)
    (quota : Int) (db : Database) :
    TokenOnly db (preConsumeTokenQuota cfg env info quota db).2 := by
  unfold preConsumeTokenQuota
  split
  · exact .refl db
  split
  · exact .refl db
  split
  · exact .refl db
  split
  · exact .refl db
  · exact moveTokenQuota_tokenOnly ..

def RelayInfo.tokenShare (info : RelayInfo) (q : Int) : Int := if info.isPlayground then 0 else q

def RelayInfo.Issued (a : Accounts) (info : RelayInfo) : Prop :=
  info.isPlayground = false → a.issued info.tokenId = true

theorem preConsumeTokenQuota_atomic {env : CallEnv} {info : RelayInfo} {quota : Int}
    (hi : info.Issued db.accounts) :
    Atomic (·.addToken info.tokenId (-info.tokenShare quota)) db
      (preConsumeTokenQuota cfg env info quota db) := by
  unfold preConsumeTokenQuota
  by_cases hq : quota < 0
  · rw [if_pos hq]
    exact .inr ⟨_, rfl⟩
  rw [if_neg hq]
  cases hp : info.isPlayground with
  | true => exact .inl ⟨(), rfl, by simp [RelayInfo.tokenShare, hp]⟩
  | false =>
    have h : info.tokenShare quota = quota := by simp [RelayInfo.tokenShare, hp]
    rw [if_neg Bool.false_ne_true, h]
    split
    · exact .inr ⟨_, rfl⟩
    · split
      · exact .inr ⟨_, rfl⟩
      · exact moveTokenQuota_atomic (hi hp)

namespace BillingSession

variable {s : BillingSession} {delta : Int} (cfg : Config) (env : CallEnv)

theorem settleToken_tokenOnly (cfg : Config) (env : CallEnv) (delta : Int) (s : BillingSession)
    (db : Database) : TokenOnly db (s.settleToken cfg env delta db).2 := by
  unfold settleToken
  split
  · exact .refl db
  split <;> exact moveTokenQuota_tokenOnly ..

theorem reserveToken_tokenOnly (cfg : Config) (env : CallEnv) (delta : Int) (s : BillingSession)
    (db : Database) : TokenOnly db (s.reserveToken cfg env delta db).2 := by
  unfold reserveToken
  split
  · exact .refl db
  · exact preConsumeTokenQuota_tokenOnly ..

theorem rollbackToken_tokenOnly (cfg : Config) (env : CallEnv) (s : BillingSession)
    (db : Database) : TokenOnly db (s.rollbackToken cfg env db).2.2 := by
  unfold rollbackToken
  split
  · exact moveTokenQuota_tokenOnly ..
  · exact .refl db

theorem rollbackToken_session (s : BillingSession) (db : Database) :
    (s.rollbackToken cfg env db).2.1.relayInfo = s.relayInfo ∧
      (s.rollbackToken cfg env db).2.1.funding = s.funding := by
  unfold rollbackToken
  split <;> exact ⟨rfl, rfl⟩

theorem preConsumeToken_spec (quota : Int) (s : BillingSession) (db : Database) :
    ∃ r n db', s.preConsumeToken cfg env quota db = (r, { s with tokenConsumed := n }, db') ∧
      TokenOnly db db' ∧ (r = .ok () → 0 ≤ quota → s.tokenConsumed = 0 → n = quota) := by
  unfold preConsumeToken
  split
  · have hon := preConsumeTokenQuota_tokenOnly cfg env s.relayInfo quota db
    generalize preConsumeTokenQuota cfg env s.relayInfo quota db = r at hon
    obtain ⟨e | u, db1⟩ := r
    · exact ⟨_, s.tokenConsumed, _, rfl, hon, nofun⟩
    · exact ⟨_, _, _, rfl, hon, fun _ _ _ => rfl⟩
  · exact ⟨_, s.tokenConsumed, _, rfl, .refl db, fun _ _ _ => by omega⟩

theorem onSubscription_untrusted (info : RelayInfo) (quota : Int) :
    (onSubscription info quota).shouldTrust cfg env = false := by
  simp [shouldTrust, onSubscription, new, FundingSource.source]

theorem onSubscription_preConsume (info : RelayInfo)
    (quota amount : Int) : (onSubscription info quota).preConsume cfg env amount db =
      (onSubscription info quota).preConsumeBy cfg env amount db := by
  unfold preConsume
  rw [onSubscription_untrusted, if_neg Bool.false_ne_true]

theorem settleToken_atomic (delta : Int) (hi : s.relayInfo.Issued db.accounts) :
    Atomic (·.addToken s.relayInfo.tokenId (-s.relayInfo.tokenShare delta)) db
      (s.settleToken cfg env delta db) := by
  unfold settleToken RelayInfo.tokenShare
  cases hp : s.relayInfo.isPlayground with
  | true => exact .inl ⟨(), rfl, by simp⟩
  | false =>
    simp only [Bool.false_eq_true, if_false]
    split <;> exact moveTokenQuota_atomic (hi hp)

theorem reserveToken_atomic (hd : 0 < delta) (hi : s.relayInfo.Issued db.accounts) :
    Atomic (·.addToken s.relayInfo.tokenId (-s.relayInfo.tokenShare delta)) db
      (s.reserveToken cfg env delta db) := by
  unfold reserveToken
  split
  next h =>
    have hp : s.relayInfo.isPlayground = true := h.resolve_left (by omega)
    exact .inl ⟨(), rfl, by simp [RelayInfo.tokenShare, hp]⟩
  · exact preConsumeTokenQuota_atomic hi

/-! ## Funding steps -/

theorem reserveFunding_cases (hd : delta ≠ 0) (hb : s.funding.Backed db.accounts) :
    (∃ e, s.reserveFunding cfg env delta db = (.error e, s, db)) ∨
      ∃ db', s.reserveFunding cfg env delta db =
          (.ok (), { s with funding := s.funding.addConsumed delta }, db') ∧
        db'.accounts = s.funding.shift delta db.accounts := by
  obtain ⟨info, funding, p, t, x, tr, fs, st, rf⟩ := s
  cases funding with
  | wallet userId consumed =>
    simp only [reserveFunding]
    rcases (decreaseUserQuota_atomic hb).cases with ⟨u, db', hr, hacc⟩ | ⟨e, hr⟩ <;> rw [hr]
    · exact .inr ⟨_, rfl, hacc⟩
    · exact .inl ⟨_, rfl⟩
  | subscription f =>
    simp only [reserveFunding]
    rcases (postConsumeUserSubscriptionDelta_atomic hd).cases with ⟨u, db', hr, hacc⟩ | ⟨e, hr⟩ <;>
      rw [hr]
    · exact .inr ⟨_, rfl, hacc⟩
    · exact .inl ⟨_, rfl⟩

theorem rollbackFundingReserve_cases (hd : delta ≠ 0) (hb : s.funding.Backed db.accounts) :
    (∃ e, s.rollbackFundingReserve env delta db = (.error e, s, db)) ∨
      ∃ db', s.rollbackFundingReserve env delta db =
          (.ok (), { s with funding := s.funding.addConsumed (-delta) }, db') ∧
        db'.accounts = s.funding.shift (-delta) db.accounts := by
  obtain ⟨info, funding, p, t, x, tr, fs, st, rf⟩ := s
  cases funding with
  | wallet userId consumed =>
    simp only [rollbackFundingReserve]
    rcases (increaseUserQuota_atomic hb).cases with ⟨u, db', hr, hacc⟩ | ⟨e, hr⟩ <;> rw [hr]
    · exact .inr ⟨_, rfl, hacc.trans (by simp [FundingSource.shift])⟩
    · exact .inl ⟨_, rfl⟩
  | subscription f =>
    simp only [rollbackFundingReserve]
    rcases (postConsumeUserSubscriptionDelta_atomic (neg_ne_zero.2 hd)).cases with
      ⟨u, db', hr, hacc⟩ | ⟨e, hr⟩ <;> rw [hr]
    · exact .inr ⟨_, rfl, hacc⟩
    · exact .inl ⟨_, rfl⟩

end BillingSession

theorem RefundJob.refundToken_tokenOnly (cfg : Config) (env : JobEnv) (job : RefundJob)
    (db : Database) : TokenOnly db (job.refundToken cfg env db).2 := by
  unfold RefundJob.refundToken
  split
  · exact moveTokenQuota_tokenOnly ..
  · exact .refl db

end Xingkong
