import Xingkong.Spec.Metering
import Xingkong.System.SessionThread

/-!
# Net charges of a session thread

What a session stands for in each of its states, and that every step of its thread moves the
counter of its subscription and the ledger by exactly the change of that charge. The counter stops
at zero; it never gets there by a session's own deltas, because it shows at least what the session
has charged.
-/

namespace Xingkong

open Rdb BillingSession

variable {db db' : Database} {cfg : Config} {t t' : SessionThread} {s s' : BillingSession}
  {status : PreConsumeStatus} {f : SubscriptionFunding} {delta actual : Int}

/-! ## Net charges -/

def FundingSource.subscriptionId : FundingSource → Nat
  | .wallet _ _ => 0
  | .subscription f => f.subscriptionId

def FundingSource.requestId : FundingSource → String
  | .wallet _ _ => ""
  | .subscription f => f.requestId

namespace SessionThread

/-- What the session stands for: its pre-consumed and reserved quota while it is open, the actual
quota once it is settled, what could not be given back once it is refunded. -/
def charge (t : SessionThread) : Int :=
  match t.pc with
  | .start _ => 0
  | .rejected => 0
  | .ready => t.session.preConsumedQuota
  | .reserving delta => t.session.preConsumedQuota + delta
  | .rollingBack delta => t.session.preConsumedQuota + delta
  | .settled actual => actual
  | .refunding _ _ => t.session.preConsumedQuota
  | .refundingExtra job kept => kept + job.extraReserved
  | .refundingToken _ kept => kept
  | .refunded kept => kept

def chargeOn (subId : Nat) (t : SessionThread) : Int :=
  if t.session.funding.subscriptionId = subId then t.charge else 0

def netOn (subId : Nat) (t : SessionThread) : Int :=
  if t.session.funding.subscriptionId = subId then t.charge + t.stranded else 0

end SessionThread

/-! ## Invariant of a thread -/

/-- The session has a record of its reservation, and its counters agree with it. -/
structure BillingSession.Reserved (db : Database) (status : PreConsumeStatus)
    (f : SubscriptionFunding) (s : BillingSession) : Prop where
  funding : s.funding = .subscription f
  record : db.accounts.request f.requestId = some ⟨f.subscriptionId, f.preConsumed, status⟩
  own : 0 < f.preConsumed
  extra : 0 ≤ s.extraReserved
  parts : f.preConsumed + s.extraReserved = s.preConsumedQuota
  known : f.subscriptionId ≠ 0
  synced : s.relayInfo.subscriptionId = f.subscriptionId

namespace SessionThread

def Returned (db : Database) (kept : Int) (s : BillingSession) : Prop :=
  0 ≤ kept ∧ ∃ status f, s.Reserved db status f ∧ (kept = 0 → status = .refunded)

def PcSound (db : Database) (s : BillingSession) (stranded : Int) : SessionPc → Prop
  | .start quota => stranded = 0 ∧ s = .onSubscription s.relayInfo quota ∧
      db.accounts.request s.relayInfo.requestId = none
  | .rejected => stranded = 0
  | .ready => s.Live ∧ ∃ f, s.Reserved db .consumed f
  | .reserving delta => 0 < delta ∧ s.Live ∧ ∃ f, s.Reserved db .consumed f
  | .rollingBack delta => 0 < delta ∧ s.Live ∧ ∃ f, s.Reserved db .consumed f
  | .settled actual => 0 ≤ actual ∧ ∃ f, s.Reserved db .consumed f
  | .refunding job _ => job = s.refundJob ∧ ∃ f, s.Reserved db .consumed f
  | .refundingExtra job kept => job = s.refundJob ∧ Returned db kept s
  | .refundingToken _ kept => Returned db kept s
  | .refunded kept => Returned db kept s

structure Sound (db : Database) (t : SessionThread) : Prop where
  stranded : 0 ≤ t.stranded
  pc : PcSound db t.session t.stranded t.pc

end SessionThread

/-! ## Frame -/

namespace BillingSession.Reserved

variable (h : s.Reserved db status f)

include h

theorem congr (hreq : db'.accounts.request f.requestId = db.accounts.request f.requestId) :
    s.Reserved db' status f :=
  { h with record := hreq.trans h.record }

theorem requestId : s.funding.requestId = f.requestId := by
  rw [h.funding]; rfl

theorem subscriptionId : s.funding.subscriptionId = f.subscriptionId := by
  rw [h.funding]; rfl

theorem quota_nonneg : 0 ≤ s.preConsumedQuota :=
  h.parts ▸ add_nonneg h.own.le h.extra

theorem ownPart : s.ownPart = f.preConsumed := by
  unfold BillingSession.ownPart
  rw [h.funding]

end BillingSession.Reserved

namespace SessionThread

theorem Sound.congr (h : t.Sound db)
    (hreq : db'.accounts.request t.session.funding.requestId =
      db.accounts.request t.session.funding.requestId) : t.Sound db' := by
  refine ⟨h.stranded, ?_⟩
  have hpc := h.pc
  have hkeep : ∀ {status f}, t.session.Reserved db status f → t.session.Reserved db' status f :=
    fun hr => hr.congr (by rw [← hr.requestId]; exact hreq)
  have hback : ∀ {kept}, Returned db kept t.session → Returned db' kept t.session :=
    fun ⟨hk, status, f, hr, h1⟩ => ⟨hk, status, f, hkeep hr, h1⟩
  unfold PcSound at hpc ⊢
  split at hpc
  · obtain ⟨h0, hs, hno⟩ := hpc
    refine ⟨h0, hs, ?_⟩
    have hid : t.session.funding.requestId = t.session.relayInfo.requestId := by
      rw [hs]; rfl
    rwa [hid, hno] at hreq
  · exact hpc
  · exact ⟨hpc.1, hpc.2.imp fun _ => hkeep⟩
  · exact ⟨hpc.1, hpc.2.1, hpc.2.2.imp fun _ => hkeep⟩
  · exact ⟨hpc.1, hpc.2.1, hpc.2.2.imp fun _ => hkeep⟩
  · exact ⟨hpc.1, hpc.2.imp fun _ => hkeep⟩
  · exact ⟨hpc.1, hpc.2.imp fun _ => hkeep⟩
  · exact ⟨hpc.1, hback hpc.2⟩
  · exact hback hpc
  · exact hback hpc

theorem Sound.netOn_nonneg (h : t.Sound db) (subId : Nat) : 0 ≤ t.netOn subId := by
  have hstr := h.stranded
  have hpc := h.pc
  have hcharge : 0 ≤ t.charge := by
    unfold charge
    unfold PcSound at hpc
    split at hpc
    · exact le_refl 0
    · exact le_refl 0
    · obtain ⟨-, f, hr⟩ := hpc
      exact hr.quota_nonneg
    · obtain ⟨hd, -, f, hr⟩ := hpc
      exact add_nonneg hr.quota_nonneg hd.le
    · obtain ⟨hd, -, f, hr⟩ := hpc
      exact add_nonneg hr.quota_nonneg hd.le
    · exact hpc.1
    · obtain ⟨-, f, hr⟩ := hpc
      exact hr.quota_nonneg
    · obtain ⟨rfl, hk, _, f, hr, -⟩ := hpc
      exact add_nonneg hk hr.extra
    · exact hpc.1
    · exact hpc.1
  unfold netOn
  split
  · exact add_nonneg hcharge hstr
  · exact le_refl 0

/-! ## Steps -/

/-- A step of a thread: one counter and the ledger move by what the thread's net charge does, and
no other request is touched. -/
structure Advances (db db' : Database) (t t' : SessionThread) : Prop where
  moved : ∃ n d, MovedBy n d db db' ∧ ∀ m, t'.netOn m = t.netOn m + if m = n then d else 0
  request : ∀ r, r ≠ t.session.funding.requestId →
    db'.accounts.request r = db.accounts.request r
  requestId : t'.session.funding.requestId = t.session.funding.requestId
  sound : t'.Sound db'

theorem Advances.of_moved (h1 : t'.session.funding = t.session.funding)
    (hm : MovedBy t.session.funding.subscriptionId
      (t'.charge + t'.stranded - (t.charge + t.stranded)) db db')
    (hreq : ∀ r, r ≠ t.session.funding.requestId →
      db'.accounts.request r = db.accounts.request r) (hs : t'.Sound db') :
    Advances db db' t t' := by
  refine ⟨⟨_, _, hm, fun m => ?_⟩, hreq, by rw [h1], hs⟩
  unfold netOn
  rw [h1]
  by_cases hid : t.session.funding.subscriptionId = m
  · rw [if_pos hid, if_pos hid, if_pos hid.symm]
    omega
  · rw [if_neg hid, if_neg hid, if_neg fun h => hid h.symm, add_zero]

theorem Advances.of_reserved {d : Int} (hr : t.session.Reserved db status f)
    (h1 : t'.session.funding = t.session.funding)
    (hm : MovedBy f.subscriptionId d db db')
    (hd : t'.charge + t'.stranded = t.charge + t.stranded + d)
    (hreq : db'.accounts.request = db.accounts.request) (hs : t'.Sound db') :
    Advances db db' t t' := by
  refine .of_moved h1 ?_ (fun r _ => congrFun hreq r) hs
  rw [hr.subscriptionId, hd, add_sub_cancel_left]
  exact hm

theorem Advances.of_same (h1 : t'.session.funding = t.session.funding)
    (hnet : t'.charge + t'.stranded = t.charge + t.stranded) (h2 : SameCharges db db')
    (hs : t'.Sound db') : Advances db db' t t' := by
  refine .of_moved h1 ?_ (fun r _ => congrFun h2.request r) hs
  rw [hnet, sub_self]
  exact h2.moved _

theorem Advances.refl (hs : t.Sound db) : Advances db db t t :=
  .of_same rfl rfl (.refl db) hs

end SessionThread

/-! ### Pre-consumption -/

namespace BillingSession

variable (cfg : Config) (env : CallEnv)

theorem preConsume_reserved {info : RelayInfo} (quota : Int)
    (hnew : db.accounts.request info.requestId = none) :
    (∃ e s' db', (onSubscription info quota).preConsume cfg env (subConsume quota) db =
        (.error e, s', db') ∧ SameCharges db db' ∧
        s'.funding = (onSubscription info quota).funding) ∨
      ∃ s' f db', (onSubscription info quota).preConsume cfg env (subConsume quota) db =
        (.ok (), s', db') ∧ s'.Live ∧ s'.Reserved db' .consumed f ∧
        f.requestId = info.requestId ∧ MovedBy f.subscriptionId s'.preConsumedQuota db db' ∧
        ∀ r, r ≠ info.requestId → db'.accounts.request r = db.accounts.request r := by
  rw [onSubscription_preConsume]
  unfold preConsumeBy
  obtain ⟨r, n, db1, hr, hon, -⟩ :=
    preConsumeToken_spec cfg env (subConsume quota) (onSubscription info quota) db
  have hsame := hon.sameCharges
  rw [hr]
  obtain e | u := r
  · exact .inl ⟨_, _, _, rfl, hsame, rfl⟩
  dsimp only [FundingSource.preConsume, onSubscription, new]
  have hnew1 : db1.accounts.request info.requestId = none := by rw [hsame.request, hnew]
  generalize hp : preConsumeUserSubscription cfg env.now info.requestId info.userId
    info.originModelName (subConsume quota) env.fundingFaults db1 = p
  obtain ⟨e | res, db2⟩ := p
  · obtain rfl := preConsumeUserSubscription_error hp
    refine .inl ⟨_, _, _, rfl, hsame.trans (rollbackToken_tokenOnly ..).sameCharges, ?_⟩
    exact (rollbackToken_session ..).2
  · obtain ⟨hpos, sub, rfl, hc⟩ :=
      preConsumeUserSubscription_charged (Option.map_eq_none_iff.1 hnew1) hp
    dsimp only
    rw [syncRelayInfo_frame]
    refine .inr ⟨_, _, _, rfl, ⟨rfl, rfl, rfl⟩, ⟨rfl, ?_, hpos, le_rfl, add_zero _, hc.id_ne_zero,
      rfl⟩, rfl, hsame.trans_moved (hc.moved hpos), fun r hne => ?_⟩
    · rw [hc.request, Function.update_self]
      rfl
    · rw [hc.request, Function.update_of_ne hne, hsame.request]

end BillingSession

namespace SessionThread

theorem Sound.preConsume {quota : Int} (h : t.Sound db) (hpc : t.pc = .start quota)
    (cfg : Config) (env : CallEnv) :
    Advances db (t.preConsume cfg env quota db).2 t (t.preConsume cfg env quota db).1 := by
  obtain ⟨s, _, stranded⟩ := t
  cases hpc
  obtain ⟨hstr, rfl, hs, hnew⟩ := h
  unfold SessionThread.preConsume
  generalize s.relayInfo = info at hs hnew
  subst hs
  rcases preConsume_reserved cfg env quota hnew with
    ⟨e, s', db', hr, h1, hf⟩ | ⟨s', f, db', hr, hlive, hres, hid, hm, hreq⟩
  · rw [hr]
    exact .of_same hf rfl h1 ⟨hstr, rfl⟩
  · rw [hr]
    refine ⟨⟨_, _, hm, fun m => ?_⟩, hreq, hres.requestId.trans hid, hstr, hlive, f, hres⟩
    have h1 : netOn m ⟨.onSubscription info quota, .start quota, 0⟩ = 0 := by
      simp [netOn, charge]
    rw [h1, zero_add]
    unfold netOn
    rw [hres.subscriptionId]
    by_cases hm : f.subscriptionId = m
    · rw [if_pos hm, if_pos hm.symm]
      exact add_zero _
    · rw [if_neg hm, if_neg fun h => hm h.symm]

theorem le_amountUsed (hr : t.session.Reserved db status f)
    (hle : ∀ n, t.netOn n ≤ db.amountUsed n) :
    t.charge + t.stranded ≤ db.amountUsed f.subscriptionId := by
  have h := hle f.subscriptionId
  unfold netOn at h
  rwa [if_pos hr.subscriptionId] at h

end SessionThread

/-! ### Reserving more -/

namespace BillingSession.Reserved

variable (h : s.Reserved db .consumed f)

include h

theorem reserveFunding (cfg : Config) (env : CallEnv)
    (hpos : 0 ≤ db.amountUsed f.subscriptionId + delta) :
    (∃ e, s.reserveFunding cfg env delta db = (.error e, s, db)) ∨
      ∃ db', s.reserveFunding cfg env delta db = (.ok (), s, db') ∧
        MovedBy f.subscriptionId delta db db' ∧ db'.accounts.request = db.accounts.request := by
  unfold BillingSession.reserveFunding
  rw [h.funding]
  dsimp only
  rcases postConsumeUserSubscriptionDelta_moved env.now env.fundingFaults hpos with
    ⟨e, hr⟩ | ⟨db', hr, hm, hreq⟩ <;> rw [hr]
  · exact .inl ⟨_, rfl⟩
  · exact .inr ⟨db', rfl, hm, hreq⟩

theorem rollbackFundingReserve (env : CallEnv)
    (hpos : 0 ≤ db.amountUsed f.subscriptionId + -delta) :
    (∃ e, s.rollbackFundingReserve env delta db = (.error e, s, db)) ∨
      ∃ db', s.rollbackFundingReserve env delta db = (.ok (), s, db') ∧
        MovedBy f.subscriptionId (-delta) db db' ∧
        db'.accounts.request = db.accounts.request := by
  unfold BillingSession.rollbackFundingReserve
  rw [h.funding]
  dsimp only
  rcases postConsumeUserSubscriptionDelta_moved env.now env.rollbackFaults hpos with
    ⟨e, hr⟩ | ⟨db', hr, hm, hreq⟩ <;> rw [hr]
  · exact .inl ⟨_, rfl⟩
  · exact .inr ⟨db', rfl, hm, hreq⟩

theorem add (hd : 0 < delta) : ({ s with
      preConsumedQuota := s.preConsumedQuota + delta
      tokenConsumed := s.tokenConsumed + delta
      extraReserved := s.extraReserved + delta }.syncRelayInfo).Reserved db .consumed f := by
  rw [syncRelayInfo_frame]
  refine ⟨h.funding, h.record, h.own, add_nonneg h.extra hd.le, ?_, h.known, ?_⟩ <;> dsimp only
  · rw [← add_assoc, h.parts]
  · exact syncRelayInfo_subscriptionId h.funding

end BillingSession.Reserved

namespace SessionThread

theorem Sound.reserve {target : Int} (h : t.Sound db) (hpc : t.pc = .ready)
    (hle : ∀ n, t.netOn n ≤ db.amountUsed n) (cfg : Config) (env : CallEnv) :
    Advances db (t.reserve cfg env target db).2 t (t.reserve cfg env target db).1 := by
  unfold SessionThread.reserve
  split
  · exact .refl h
  rename_i hc
  simp only [Bool.or_eq_true, decide_eq_true_eq, not_or, not_le] at hc
  have hd : 0 < target - t.session.preConsumedQuota := by omega
  generalize target - t.session.preConsumedQuota = delta at hd
  obtain ⟨s, _, stranded⟩ := t
  cases hpc
  obtain ⟨hlive, f, hr⟩ := h.pc
  have hnn := h.netOn_nonneg f.subscriptionId
  have hpos := le_trans hnn (hle f.subscriptionId)
  unfold SessionThread.reserveBy
  rcases hr.reserveFunding cfg env (add_nonneg hpos hd.le) with ⟨e, he⟩ | ⟨db', he, hm, hreq⟩
  · rw [he]
    exact .refl h
  · rw [he]
    refine .of_reserved hr rfl hm ?_ hreq
      ⟨h.stranded, hd, hlive, f, hr.congr (congrFun hreq _)⟩
    dsimp only [charge]
    omega

theorem Sound.reserveToken (h : t.Sound db) (hpc : t.pc = .reserving delta)
    (cfg : Config) (env : CallEnv) :
    Advances db (t.reserveToken cfg env delta db).2 t (t.reserveToken cfg env delta db).1 := by
  obtain ⟨s, _, stranded⟩ := t
  cases hpc
  obtain ⟨hd, hlive, f, hr⟩ := h.pc
  unfold SessionThread.reserveToken
  have h1 := (s.reserveToken_tokenOnly cfg env delta db).sameCharges
  generalize s.reserveToken cfg env delta db = r at h1
  have hr' := hr.congr (congrFun h1.request f.requestId)
  obtain ⟨e | u, db1⟩ := r
  · exact .of_same rfl rfl h1 ⟨h.stranded, hd, hlive, f, hr'⟩
  · refine .of_same ?_ ?_ h1 ⟨h.stranded, Live.syncRelayInfo { hlive with }, f, hr'.add hd⟩
    · rw [syncRelayInfo_frame]
    · dsimp only [charge]
      rw [syncRelayInfo_frame]

theorem Sound.rollback (h : t.Sound db) (hpc : t.pc = .rollingBack delta)
    (hle : ∀ n, t.netOn n ≤ db.amountUsed n) (env : CallEnv) :
    Advances db (t.rollback env delta db).2 t (t.rollback env delta db).1 := by
  obtain ⟨s, _, stranded⟩ := t
  cases hpc
  obtain ⟨hd, hlive, f, hr⟩ := h.pc
  have hstr := h.stranded
  have hused := le_amountUsed hr hle
  have hquota : 0 ≤ s.preConsumedQuota := hr.quota_nonneg
  dsimp only [charge] at hused hstr
  unfold SessionThread.rollback
  rcases hr.rollbackFundingReserve env (by omega : 0 ≤ _ + -delta)
    with ⟨e, he⟩ | ⟨db', he, hm, hreq⟩
  · rw [he]
    refine .of_same rfl ?_ (.refl db) ⟨add_nonneg hstr hd.le, hlive, f, hr⟩
    dsimp only [charge]
    omega
  · rw [he]
    refine .of_reserved hr rfl hm ?_ hreq ⟨hstr, hlive, f, hr.congr (congrFun hreq _)⟩
    dsimp only [charge]
    omega

end SessionThread

/-! ### Settling -/

namespace BillingSession.Reserved

theorem settle (h : s.Reserved db .consumed f) (hlive : s.Live) (cfg : Config)
    (env : CallEnv)
    (hpos : 0 ≤ db.amountUsed f.subscriptionId + (actual - s.preConsumedQuota)) :
    (∃ e, s.settle cfg env actual db = (.error e, s, db)) ∨
      ∃ r s' db', s.settle cfg env actual db = (r, s', db') ∧ s'.settled = true ∧
        s'.Reserved db' .consumed f ∧
        MovedBy f.subscriptionId (actual - s.preConsumedQuota) db db' ∧
        db'.accounts.request = db.accounts.request := by
  unfold BillingSession.settle
  rw [hlive.settled, if_neg Bool.false_ne_true]
  split
  next hz =>
    rw [hz]
    exact .inr ⟨_, _, _, rfl, rfl, { h with }, (SameCharges.refl db).moved _, rfl⟩
  rename_i hz
  unfold BillingSession.settleBy BillingSession.settleFunding
  rw [hlive.fundingSettled, if_neg Bool.false_ne_true, h.funding]
  dsimp only [FundingSource.settle]
  rw [if_neg hz]
  rcases postConsumeUserSubscriptionDelta_moved env.now env.fundingFaults hpos with
    ⟨e, hr⟩ | ⟨db1, hr, hm, hreq⟩
  · rw [hr]
    exact .inl ⟨e, rfl⟩
  · rw [hr]
    dsimp only
    have h1 := (s.settleToken_tokenOnly cfg env (actual - s.preConsumedQuota) db1).sameCharges
    generalize s.settleToken cfg env (actual - s.preConsumedQuota) db1 = r at h1
    have hreq' := h1.request.trans hreq
    obtain ⟨posted, hmark⟩ := s.markSettled_frame (actual - s.preConsumedQuota)
    rw [hmark]
    exact .inr ⟨_, _, _, rfl, rfl, { h.congr (congrFun hreq' _) with }, hm.trans_same h1, hreq'⟩

end BillingSession.Reserved

namespace SessionThread

theorem Sound.settle (h : t.Sound db) (hpc : t.pc = .ready)
    (hle : ∀ n, t.netOn n ≤ db.amountUsed n) (ha : 0 ≤ actual) (cfg : Config) (env : CallEnv) :
    Advances db (t.settle cfg env actual db).2 t (t.settle cfg env actual db).1 := by
  obtain ⟨s, _, stranded⟩ := t
  cases hpc
  obtain ⟨hlive, f, hr⟩ := h.pc
  have hstr := h.stranded
  have hused := le_amountUsed hr hle
  dsimp only [charge] at hused hstr
  unfold SessionThread.settle
  rcases hr.settle hlive cfg env (by omega : 0 ≤ _ + (actual - s.preConsumedQuota)) with
    ⟨e, he⟩ | ⟨r, s', db', he, hs, hr', hm, hreq⟩
  · rw [he]
    dsimp only
    rw [hlive.settled, if_neg Bool.false_ne_true]
    exact .refl h
  · rw [he]
    dsimp only
    rw [hs, if_pos rfl]
    refine .of_reserved hr (hr'.funding.trans hr.funding.symm) hm ?_ hreq ⟨hstr, ha, f, hr'⟩
    dsimp only [charge]
    omega

end SessionThread

/-! ### Refunding -/

theorem BillingSession.Reserved.refundExtra (h : s.Reserved db status f) (env : JobEnv)
    (hpos : 0 ≤ db.amountUsed f.subscriptionId + -s.extraReserved) :
    (∃ e, s.refundJob.refundExtra env db = (.error e, db)) ∨
      ∃ db', s.refundJob.refundExtra env db = (.ok (), db') ∧
        MovedBy f.subscriptionId (-s.extraReserved) db db' ∧
        db'.accounts.request = db.accounts.request := by
  have hextra := h.extra
  have hsub : s.refundJob.subscriptionId = f.subscriptionId := h.synced
  have hsource : s.refundJob.funding.source = .subscription := by
    rw [show s.refundJob.funding = s.funding from rfl, h.funding]
    rfl
  unfold RefundJob.refundExtra
  rw [hsub, show s.refundJob.extraReserved = s.extraReserved from rfl]
  split
  · exact postConsumeUserSubscriptionDelta_moved env.now env.extraFaults hpos
  next hc =>
    have hnone : s.extraReserved = 0 := by
      by_contra hne
      exact hc ⟨by omega, hsource, h.known⟩
    rw [hnone, neg_zero]
    exact .inr ⟨db, rfl, (SameCharges.refl db).moved _, rfl⟩

namespace SessionThread

variable (h : t.Sound db) {job : RefundJob} {kept : Int}

include h

theorem Sound.refund (hpc : t.pc = .ready) : Advances db db t t.refund := by
  obtain ⟨s, _, stranded⟩ := t
  cases hpc
  obtain ⟨hlive, f, hr⟩ := h.pc
  unfold SessionThread.refund BillingSession.refund
  split
  next s' hs =>
    split at hs
    · cases hs
      exact .refl h
    · cases hs
  next s' job hs =>
    split at hs
    · cases hs
    · cases hs
      exact .of_same rfl rfl (.refl db) ⟨h.stranded, rfl, f, { hr with }⟩

theorem Sound.refundFunding {attempts : Nat}
    (hpc : t.pc = .refunding job attempts) (hle : ∀ n, t.netOn n ≤ db.amountUsed n) (now : Int)
    (faults : List Bool) : Advances db (t.refundFunding now faults job attempts db).2 t
      (t.refundFunding now faults job attempts db).1 := by
  obtain ⟨s, _, stranded⟩ := t
  cases hpc
  obtain ⟨rfl, f, hr⟩ : job = s.refundJob ∧ ∃ f, s.Reserved db .consumed f := h.pc
  have hstr := h.stranded
  have hown := hr.own
  have hextra := hr.extra
  have hparts := hr.parts
  have hused := le_amountUsed hr hle
  dsimp only [charge] at hused hstr
  have hjob : s.refundJob.funding = .subscription f := hr.funding
  unfold SessionThread.refundFunding
  rw [hjob]
  dsimp only [FundingSource.refundAttempt]
  rw [if_neg (not_le.2 hown)]
  generalize hx : refundSubscriptionPreConsume now f.requestId faults db = x
  obtain ⟨r, db'⟩ := x
  rcases refundSubscriptionPreConsume_moved hr.record rfl hown
    (by dsimp only; omega) hx with ⟨e, rfl, rfl⟩ | ⟨rfl, hm, hreq⟩
  · cases attempts with
    | zero =>
      refine .of_same rfl ?_ (.refl _) ⟨hstr, rfl, ?_, .consumed, f, hr, fun h0 => ?_⟩
      · dsimp only [charge]
        rw [hr.ownPart, ← hparts]
        rfl
      · exact hr.ownPart ▸ hown.le
      · rw [hr.ownPart] at h0
        exact absurd h0 hown.ne'
    | succ n => exact .of_same rfl rfl (.refl _) ⟨hstr, rfl, f, hr⟩
  · refine .of_moved rfl ?_ (fun r hne => ?_) ⟨hstr, rfl, le_refl 0, .refunded, f,
      { hr with record := ?_ }, fun _ => rfl⟩
    · have h1 : 0 + s.extraReserved + stranded - (s.preConsumedQuota + stranded) =
          -f.preConsumed := by omega
      rw [hr.subscriptionId]
      exact h1 ▸ hm
    · rw [hreq, Function.update_of_ne]
      rwa [← hr.requestId]
    · rw [hreq, Function.update_self]

theorem Sound.refundExtra (hpc : t.pc = .refundingExtra job kept)
    (hle : ∀ n, t.netOn n ≤ db.amountUsed n)
    (env : JobEnv) :
    Advances db (t.refundExtra env job kept db).2 t (t.refundExtra env job kept db).1 := by
  obtain ⟨s, _, stranded⟩ := t
  cases hpc
  obtain ⟨rfl, hkept, status, f, hr, hst⟩ : job = s.refundJob ∧ Returned db kept s := h.pc
  have hstr := h.stranded
  have h1 := hr.extra
  have hjob : s.refundJob.extraReserved = s.extraReserved := rfl
  have hused := le_amountUsed hr hle
  dsimp only [charge] at hused hstr
  unfold SessionThread.refundExtra
  rcases hr.refundExtra env (by omega) with ⟨e, he⟩ | ⟨db', he, hm, hreq⟩
  · rw [he]
    exact .of_same rfl rfl (.refl db) ⟨hstr, add_nonneg hkept h1, status, f, hr,
      fun h0 => hst (by omega)⟩
  · rw [he]
    refine .of_reserved hr rfl hm ?_ hreq ⟨hstr, hkept, status, f, hr.congr (congrFun hreq _), hst⟩
    dsimp only [charge]
    omega

theorem Sound.refundToken (hpc : t.pc = .refundingToken job kept) (cfg : Config) (env : JobEnv) :
    Advances db (t.refundToken cfg env job kept db).2 t (t.refundToken cfg env job kept db).1 := by
  obtain ⟨s, _, stranded⟩ := t
  cases hpc
  obtain ⟨h1, status, f, hr, hst⟩ := h.pc
  have h2 := (job.refundToken_tokenOnly cfg env db).sameCharges
  exact .of_same rfl rfl h2 ⟨h.stranded, h1, status, f, hr.congr (congrFun h2.request _), hst⟩

def Promised : SessionAct → Prop
  | .settle _ actual => 0 ≤ actual
  | _ => True

/-- **Every step of a thread is accounted for.** -/
theorem Sound.run {a : SessionAct} (hle : ∀ n, t.netOn n ≤ db.amountUsed n)
    (ha : Promised a) (cfg : Config) : Advances db (t.run cfg a db).2 t (t.run cfg a db).1 := by
  unfold SessionThread.run
  split
  next hpc => exact h.preConsume hpc cfg _
  next hpc => exact h.reserve hpc hle cfg _
  next hpc => exact h.reserveToken hpc cfg _
  next hpc => exact h.rollback hpc hle _
  next hpc => exact h.settle hpc hle ha cfg _
  next hpc => exact h.refund hpc
  next hpc => exact h.refundFunding hpc hle _ _
  next hpc => exact h.refundExtra hpc hle _
  next hpc => exact h.refundToken hpc cfg _
  · exact .refl h

end SessionThread

end Xingkong
