import Xingkong.Spec.Billing

/-!
# Steps of a billing session

A session that has pre-consumed is open: its counters agree with each other and with the
accounts (`BillingSession.Open`). One lemma per call says what the call can do to an open
session, whichever of its statements fail.
-/

namespace Xingkong

open Rdb BillingSession
open Accounts (billed_live billed_issued billed_addToken billed paid note meter addUsed
  addToken_zero)

variable {a0 a a' : Accounts} {db db' : Database} {cfg : Config} {s : BillingSession}
  {f : FundingSource} {st : PreConsumeStatus} {quota : Int}

/-! ## Counters -/

/-- Zero if the operation succeeded, else what it should have given back. -/
def unreturned (r : Except Err Unit) (x : Int) : Int :=
  match r with
  | .ok _ => 0
  | .error _ => x

def settledQuota (r : Except Err Unit) (actual preConsumed : Int) : Int :=
  match r with
  | .ok _ => actual
  | .error _ => preConsumed

namespace BillingSession

/-- The part of the reservation that the funding source gives back itself … -/
def ownPart (s : BillingSession) : Int :=
  match s.funding with
  | .wallet _ _ => s.preConsumedQuota
  | .subscription f => f.preConsumed

/-- … and the part a refund gives back apart from it. -/
def extraPart (s : BillingSession) : Int :=
  match s.funding with
  | .wallet _ _ => 0
  | .subscription _ => s.extraReserved

structure Held (a : Accounts) (s : BillingSession) : Prop where
  backed : s.funding.Backed a
  counted : s.funding.Counted a
  issued : s.relayInfo.Issued a
  quota : 0 ≤ s.preConsumedQuota
  token : s.tokenConsumed = s.preConsumedQuota
  extra : 0 ≤ s.extraReserved
  consumed : ∀ u c, s.funding = .wallet u c → c = s.preConsumedQuota
  reserved : ∀ f, s.funding = .subscription f →
    0 < f.preConsumed ∧ f.preConsumed + s.extraReserved = s.preConsumedQuota ∧
      f.subscriptionId ≠ 0 ∧ s.relayInfo.subscriptionId = f.subscriptionId

theorem Held.parts (h : s.Held a) :
    s.ownPart + s.extraPart = s.preConsumedQuota ∧ 0 ≤ s.ownPart ∧ 0 ≤ s.extraPart := by
  have hq := h.quota
  have he := h.extra
  unfold ownPart extraPart
  cases hf : s.funding with
  | wallet u c => exact ⟨add_zero _, hq, le_refl 0⟩
  | subscription f =>
    obtain ⟨hp, hsum, _⟩ := h.reserved f hf
    exact ⟨hsum, hp.le, he⟩

structure Live (s : BillingSession) : Prop where
  settled : s.settled = false
  fundingSettled : s.fundingSettled = false
  refunded : s.refunded = false

end BillingSession

/-! ## Steps of an open session -/

theorem Accounts.billed_congr {s' : BillingSession} {x y d : Int}
    (hf : s'.funding = s.funding.addConsumed d)
    (ht : s'.relayInfo.tokenId = s.relayInfo.tokenId) :
    a0.billed st s' x y = a0.billed st s x y := by
  unfold billed
  rw [hf, ht, paid_addConsumed]

namespace FundingSource

section

variable (f : FundingSource)

@[simp] theorem addConsumed_zero : f.addConsumed 0 = f := by
  cases f <;> simp [addConsumed]

@[simp] theorem addConsumed_addConsumed (x y : Int) :
    (f.addConsumed x).addConsumed y = f.addConsumed (x + y) := by
  cases f <;> simp [addConsumed, add_assoc]

@[simp] theorem shift_addConsumed (x y : Int) : (f.addConsumed x).shift y = f.shift y := by
  cases f <;> rfl

@[simp] theorem backed_addConsumed (x : Int) :
    (f.addConsumed x).Backed a ↔ f.Backed a := by
  cases f <;> rfl

end

theorem Backed.congr (h : f.Backed a)
    (hl : a'.live = a.live) : f.Backed a' := by
  cases f with
  | wallet u c => exact (congrFun hl u).trans h
  | subscription f => trivial

theorem Counted.congr (h : f.Counted a)
    (hu : a'.used = a.used) : f.Counted a' := by
  cases f with
  | wallet u c => trivial
  | subscription f => exact h.trans_eq (congrFun hu f.subscriptionId).symm

end FundingSource

variable {env : CallEnv}

theorem RelayInfo.Issued.congr {info : RelayInfo} (h : info.Issued a)
    (hi : a'.issued = a.issued) : info.Issued a' := fun hp =>
  (congrFun hi info.tokenId).trans (h hp)

theorem RelayInfo.tokenShare_add (info : RelayInfo) (x y : Int) :
    info.tokenShare x + info.tokenShare y = info.tokenShare (x + y) := by
  unfold tokenShare
  split <;> omega

open RelayInfo (tokenShare tokenShare_add)

namespace BillingSession

section

variable (s : BillingSession)

theorem syncRelayInfo_frame :
    s.syncRelayInfo = { s with relayInfo := s.syncRelayInfo.relayInfo } := by
  unfold syncRelayInfo; split <;> rfl

@[simp] theorem syncRelayInfo_tokenId :
    s.syncRelayInfo.relayInfo.tokenId = s.relayInfo.tokenId := by
  unfold syncRelayInfo; split <;> rfl

@[simp] theorem syncRelayInfo_isPlayground :
    s.syncRelayInfo.relayInfo.isPlayground = s.relayInfo.isPlayground := by
  unfold syncRelayInfo; split <;> rfl

end

theorem syncRelayInfo_subscriptionId {f : SubscriptionFunding} (hf : s.funding = .subscription f) :
    s.syncRelayInfo.relayInfo.subscriptionId = f.subscriptionId := by
  unfold syncRelayInfo; rw [hf]

theorem Live.syncRelayInfo (h : s.Live) : s.syncRelayInfo.Live := by
  rw [syncRelayInfo_frame]
  exact { h with }

theorem tokenShare_syncRelayInfo (x : Int) :
    s.syncRelayInfo.relayInfo.tokenShare x = s.relayInfo.tokenShare x := by
  unfold tokenShare; rw [syncRelayInfo_isPlayground]

/-- An open session: its counters agree and the accounts show what they say. -/
structure Open (a0 : Accounts) (s : BillingSession) (db : Database) : Prop where
  live : s.Live
  held : s.Held a0
  balance : db.accounts =
    a0.billed .consumed s s.preConsumedQuota (s.relayInfo.tokenShare s.preConsumedQuota)

namespace Open

variable (h : s.Open a0 db)

include h

theorem backed : s.funding.Backed db.accounts :=
  h.held.backed.congr (by rw [h.balance, billed_live])

theorem shift (delta : Int) : s.funding.shift delta db.accounts =
    a0.billed .consumed s (s.funding.land a0 (s.preConsumedQuota + delta))
      (s.relayInfo.tokenShare s.preConsumedQuota) := by
  rw [h.balance, FundingSource.shift_billed]

end Open

theorem Held.add {delta : Int} (h : s.Held a0) (hd : 0 < delta) :
    ({ s with
      funding := s.funding.addConsumed delta
      preConsumedQuota := s.preConsumedQuota + delta
      tokenConsumed := s.tokenConsumed + delta
      extraReserved := s.extraReserved + delta }.syncRelayInfo).Held a0 := by
  have hq := h.quota
  have he := h.extra
  rw [syncRelayInfo_frame]
  refine ⟨?_, ?_, ?_, add_nonneg hq hd.le, congrArg (· + delta) h.token, add_nonneg he hd.le,
    ?_, ?_⟩ <;> dsimp only
  · simpa using h.backed
  · have hc := h.counted
    cases hf : s.funding with
    | wallet u c => trivial
    | subscription f => rw [hf] at hc; exact hc
  · intro hp
    rw [syncRelayInfo_tokenId]
    exact h.issued (by simpa using hp)
  · intro u c hf
    cases hs : s.funding with
    | wallet u' c' =>
      rw [hs] at hf
      cases hf
      rw [h.consumed _ _ hs]
    | subscription f => rw [hs] at hf; cases hf
  · intro f hf
    rw [syncRelayInfo_subscriptionId hf]
    cases hs : s.funding with
    | wallet u c => rw [hs] at hf; cases hf
    | subscription f' =>
      rw [hs] at hf
      cases hf
      obtain ⟨hp, hsum, hid, _⟩ := h.reserved _ hs
      exact ⟨hp, by omega, hid, rfl⟩

/-- If the token step of a reservation fails, the write that undoes its funding step succeeds. -/
def ReserveRollbackOk (cfg : Config) (env : CallEnv) (delta : Int) (s : BillingSession)
    (db : Database) : Prop :=
  ∀ s₁ db₁ e db₂, s.reserveFunding cfg env delta db = (.ok (), s₁, db₁) →
    s₁.reserveToken cfg env delta db₁ = (.error e, db₂) →
    (s₁.rollbackFundingReserve env delta db₂).1 = .ok ()

/-- **A reservation adds to an open session, or leaves session and accounts as they were.** -/
theorem Open.reserveBy {delta : Int} (h : s.Open a0 db) (hd : 0 < delta)
    (h1 : s.ReserveRollbackOk cfg env delta db) :
    (∃ e db', s.reserveBy cfg env delta db = (.error e, s, db') ∧ db'.accounts = db.accounts) ∨
      ∃ s' db', s.reserveBy cfg env delta db = (.ok (), s', db') ∧ s'.Open a0 db' := by
  have hq := h.held.quota
  have h2 := FundingSource.land_of_nonneg h.held.counted (z := s.preConsumedQuota + delta)
    (by omega)
  unfold BillingSession.reserveBy
  rcases reserveFunding_cases cfg env hd.ne' h.backed with ⟨e, hr⟩ | ⟨db1, hr, hacc⟩
  · rw [hr]
    exact .inl ⟨e, db, rfl, rfl⟩
  rw [h.shift, h2] at hacc
  have hissued : s.relayInfo.Issued db1.accounts :=
    h.held.issued.congr (by rw [hacc, billed_issued])
  have h2 := fun e db2 => h1 _ _ e db2 hr
  rw [hr]
  generalize hs1 : { s with funding := s.funding.addConsumed delta } = s1 at h2 ⊢
  have hf1 : s1.funding = s.funding.addConsumed delta := by rw [← hs1]
  have hi1 : s1.relayInfo = s.relayInfo := by rw [← hs1]
  dsimp only
  rcases (reserveToken_atomic (s := s1) cfg env hd (by rw [hi1]; exact hissued)).cases with
    ⟨u, db2, ht, hacc2⟩ | ⟨e, ht⟩ <;> rw [ht]
  · refine .inr ⟨_, _, rfl, ?_, ?_, ?_⟩
    · rw [← hs1]
      exact Live.syncRelayInfo { h.live with }
    · rw [← hs1]
      exact h.held.add hd
    · have hp1 : s1.preConsumedQuota = s.preConsumedQuota := by rw [← hs1]
      rw [tokenShare_syncRelayInfo, syncRelayInfo_frame]
      simp only [hp1, hi1] at hacc2 ⊢
      rw [hacc2, hacc, billed_addToken, tokenShare_add]
      refine (Accounts.billed_congr (d := delta) ?_ ?_).symm
      · exact hf1
      · exact syncRelayInfo_tokenId _
  · -- the token refused: the funding source moves back
    have h3 : s1.funding.Backed db1.accounts := by
      rw [hf1, FundingSource.backed_addConsumed]
      exact h.held.backed.congr (by rw [hacc, billed_live])
    rcases rollbackFundingReserve_cases env hd.ne' h3 with ⟨e', hb⟩ | ⟨db3, hb, hacc3⟩
    · have := h2 e db1 ht
      rw [hb] at this
      cases this
    · refine .inl ⟨.tokenQuotaFailed e, db3, ?_, ?_⟩
      · have h1 : { s1 with funding := s1.funding.addConsumed (-delta) } = s := by
          rw [← hs1]
          simp
        dsimp only
        rw [hb, h1]
      · rw [hacc3, hf1, FundingSource.shift_addConsumed, hacc, FundingSource.shift_billed,
          add_neg_cancel_right, FundingSource.land_of_nonneg h.held.counted hq, h.balance]

theorem markSettled_frame (s : BillingSession) (delta : Int) : ∃ posted,
    s.markSettled delta = { s with
      fundingSettled := true, settled := true
      relayInfo := { s.relayInfo with subscriptionPostDelta := posted } } := by
  unfold markSettled
  split
  · exact ⟨s.relayInfo.subscriptionPostDelta, rfl⟩
  · exact ⟨_, rfl⟩

/-- **Settling ends an open session, or leaves session and database as they were.** -/
theorem Open.settle (h : s.Open a0 db) (cfg : Config) (env : CallEnv) (actual : Int) :
    (∃ e, s.settle cfg env actual db = (.error e, s, db)) ∨
      ∃ r s' db', s.settle cfg env actual db = (r, s', db') ∧ s'.settled = true ∧
        s'.preConsumedQuota = s.preConsumedQuota ∧ s'.funding = s.funding ∧
        s'.relayInfo.tokenId = s.relayInfo.tokenId ∧
        s'.relayInfo.isPlayground = s.relayInfo.isPlayground ∧
        db'.accounts = a0.billed .consumed s (s.funding.land a0 actual)
          (s.relayInfo.tokenShare (settledQuota r actual s.preConsumedQuota)) := by
  have hq := h.held.quota
  unfold BillingSession.settle
  rw [if_neg (by simp [h.live.settled])]
  by_cases hd : actual - s.preConsumedQuota = 0
  · obtain rfl : actual = s.preConsumedQuota := by omega
    refine .inr ⟨.ok (), { s with settled := true }, db, if_pos hd, rfl, rfl, rfl, rfl, rfl, ?_⟩
    rw [FundingSource.land_of_nonneg h.held.counted hq]
    exact h.balance
  rw [if_neg hd]
  have hsum : s.preConsumedQuota + (actual - s.preConsumedQuota) = actual := by omega
  generalize actual - s.preConsumedQuota = delta at hd hsum ⊢
  unfold settleBy settleFunding
  rw [if_neg (by simp [h.live.fundingSettled])]
  rcases (FundingSource.settle_atomic cfg env s.funding hd h.backed).cases with
    ⟨u, db1, hr, hacc⟩ | ⟨e, hr⟩ <;> rw [hr]
  · rw [h.shift, hsum] at hacc
    have h1 := settleToken_atomic (s := s) cfg env delta
      (h.held.issued.congr (by rw [hacc, billed_issued]))
    dsimp only
    generalize s.settleToken cfg env delta db1 = r2 at h1 ⊢
    obtain ⟨r2, db2⟩ := r2
    obtain ⟨posted, hmark⟩ := s.markSettled_frame delta
    rw [hmark]
    refine .inr ⟨r2, _, db2, rfl, rfl, rfl, rfl, rfl, rfl, ?_⟩
    rcases h1 with ⟨u', hr2, hacc2⟩ | ⟨e, he⟩
    · obtain rfl : r2 = .ok u' := hr2
      dsimp only at hacc hacc2
      rw [hacc2, hacc, billed_addToken, tokenShare_add, hsum]
      rfl
    · cases he
      exact hacc
  · exact .inl ⟨e, rfl⟩

/-! ## The refund's goroutine -/

def refundJob (s : BillingSession) : RefundJob where
  tokenId := s.relayInfo.tokenId
  isPlayground := s.relayInfo.isPlayground
  tokenConsumed := s.tokenConsumed
  extraReserved := s.extraReserved
  subscriptionId := s.relayInfo.subscriptionId
  funding := s.funding

end BillingSession

theorem refundWithRetry_atomic {f : Accounts → Accounts}
    {fn : List Bool → Database → Except Err Unit × Database} (attempts : List (List Bool))
    (h : ∀ faults, Atomic f db (fn faults db)) (hne : attempts ≠ []) :
    Atomic f db (refundWithRetry fn attempts db) := by
  induction attempts with
  | nil => exact absurd rfl hne
  | cons faults rest ih =>
    cases rest with
    | nil => exact h faults
    | cons faults' rest =>
      unfold refundWithRetry
      rcases (h faults).cases with ⟨u, db1, hr, hacc⟩ | ⟨e, hr⟩ <;> rw [hr]
      · exact .inl ⟨u, rfl, hacc⟩
      · -- a failed attempt left the database as it was
        exact ih (List.cons_ne_nil _ _)

namespace BillingSession

variable {x y : Int}

def recordStatus (r : Except Err Unit) : PreConsumeStatus :=
  match r with
  | .ok _ => .refunded
  | .error _ => .consumed

theorem billed_wallet {u : Nat} {c : Int} (hf : s.funding = .wallet u c)
    (st st' : PreConsumeStatus) : a0.billed st s x y = a0.billed st' s x y := by
  unfold billed
  rw [hf]
  rfl

theorem Held.refund (h : s.Held a0) (now : Int) (first second third : List Bool)
    (hb : db.accounts = a0.billed .consumed s s.preConsumedQuota y) :
    (s.funding.refund now first second third db).2.accounts =
      a0.billed (recordStatus (s.funding.refund now first second third db).1) s
        (unreturned (s.funding.refund now first second third db).1 s.ownPart + s.extraPart) y := by
  obtain ⟨hsum, hown, h1⟩ := h.parts
  suffices h1 : ∀ r, s.funding.refund now first second third db = r →
      (∃ u, r.1 = .ok u ∧ r.2.accounts = a0.billed .refunded s s.extraPart y) ∨
        ∃ e, r = (.error e, db) by
    rcases h1 _ rfl with ⟨u, hr, hacc⟩ | ⟨e, hr⟩
    · rw [hr, hacc]
      simp [recordStatus, unreturned]
    · rw [hr]
      simp only [recordStatus, unreturned, hsum]
      exact hb
  rintro r rfl
  have hback := h.backed
  have hcount := h.counted
  cases hf : s.funding with
  | wallet u c =>
    obtain rfl := h.consumed u c hf
    rw [hf] at hback
    have hx : s.extraPart = 0 := by simp [extraPart, hf]
    simp only [FundingSource.refund]
    split
    · have hq : s.preConsumedQuota = 0 := le_antisymm ‹_› h.quota
      refine .inl ⟨(), rfl, ?_⟩
      rw [hx, billed_wallet hf .refunded .consumed, hb, hq]
    · have hlive : db.accounts.live u = true := by rw [hb, billed_live]; exact hback
      rcases increaseUserQuota_atomic hlive with ⟨v, hr, hacc⟩ | herr
      · refine .inl ⟨v, hr, hacc.trans ?_⟩
        have := FundingSource.shift_billed (a := a0) .consumed s s.preConsumedQuota y
          (-s.preConsumedQuota)
        rw [hf] at this
        simp only [FundingSource.shift, FundingSource.land, neg_neg, add_neg_cancel] at this
        rw [hx, billed_wallet hf .refunded .consumed, hb]
        exact this
      · exact .inr herr
  | subscription f =>
    obtain ⟨hp, hsum', hid, hinfo⟩ := h.reserved f hf
    have hx : s.extraPart = s.extraReserved := by simp [extraPart, hf]
    rw [hf] at hcount
    simp only [FundingSource.refund, if_neg (not_le.2 hp)]
    have hreq : db.accounts.request f.requestId =
        some ⟨f.subscriptionId, f.preConsumed, .consumed⟩ := by
      rw [hb]
      simp [billed, hf, paid, Accounts.addToken, note]
    rcases refundWithRetry_atomic [first, second, third]
        (fun faults => refundSubscriptionPreConsume_atomic hreq rfl hp)
        (List.cons_ne_nil _ _) with ⟨v, hr, hacc⟩ | herr
    · refine .inl ⟨v, hr, hacc.trans ?_⟩
      rw [hb, hx]
      unfold billed
      simp only [hf, paid, Accounts.addToken_meter, Accounts.note_meter,
        Accounts.addUsed_meter, Accounts.addToken_note, Accounts.note_note]
      have hmax : max (s.preConsumedQuota + -f.preConsumed) (-a0.used f.subscriptionId) =
          s.extraReserved := by
        have : 0 ≤ a0.used f.subscriptionId := hcount
        have := h.extra
        omega
      rw [hmax]
    · exact .inr herr

theorem Held.refundExtra (h : s.Held a0) (env : JobEnv) (hx : 0 ≤ x)
    (hb : db.accounts = a0.billed st s (x + s.extraPart) y) :
    (s.refundJob.refundExtra env db).2.accounts =
      a0.billed st s (x + unreturned (s.refundJob.refundExtra env db).1 s.extraPart) y := by
  have he := h.extra
  have hcount := h.counted
  unfold RefundJob.refundExtra
  split
  next hc =>
    obtain ⟨hpos, hsrc, _⟩ := hc
    cases hf : s.funding with
    | wallet u c => simp [refundJob, hf, FundingSource.source] at hsrc
    | subscription f =>
      obtain ⟨_, _, hid, hinfo⟩ := h.reserved f hf
      have h1 : s.extraPart = s.extraReserved := by simp [extraPart, hf]
      have hjob : s.refundJob.subscriptionId = f.subscriptionId := hinfo
      have hex : s.refundJob.extraReserved = s.extraReserved := rfl
      rw [hjob, hex, h1]
      rw [h1] at hb
      have h1 : Atomic (·.meter f.subscriptionId (-s.extraReserved)) db
          (postConsumeUserSubscriptionDelta env.now f.subscriptionId (-s.extraReserved)
            env.extraFaults db) :=
        postConsumeUserSubscriptionDelta_atomic (neg_ne_zero.2 hpos.ne')
      rcases h1 with ⟨u, hr, hacc⟩ | ⟨e, hr⟩
      · rw [hr, hacc, hb]
        have h1 := FundingSource.shift_billed (a := a0) st s (x + s.extraReserved) y
          (-s.extraReserved)
        have h2 := FundingSource.land_of_nonneg hcount (z := x + s.extraReserved + -s.extraReserved)
          (by omega)
        rw [h2, hf] at h1
        simp only [FundingSource.shift, add_neg_cancel_right] at h1
        simp only [unreturned, add_zero]
        exact h1
      · rw [hr]
        exact hb
  next hc =>
    have hzero : s.extraPart = 0 := by
      unfold extraPart
      cases hf : s.funding with
      | wallet u c => rfl
      | subscription f =>
        obtain ⟨_, _, hid, hinfo⟩ := h.reserved f hf
        by_contra hne
        refine hc ⟨lt_of_le_of_ne he (Ne.symm hne), ?_, ?_⟩
        · simp [refundJob, hf, FundingSource.source]
        · simpa [refundJob, hinfo] using hid
    rw [hb, hzero]
    simp [unreturned]

theorem Held.refundToken (h : s.Held a0) (cfg : Config) (env : JobEnv)
    (hb : db.accounts = a0.billed st s x (s.relayInfo.tokenShare s.preConsumedQuota)) :
    (s.refundJob.refundToken cfg env db).2.accounts =
      a0.billed st s x (s.relayInfo.tokenShare
        (unreturned (s.refundJob.refundToken cfg env db).1 s.preConsumedQuota)) := by
  have hq := h.quota
  have htok : s.refundJob.tokenConsumed = s.preConsumedQuota := h.token
  unfold RefundJob.refundToken
  split
  next hc =>
    have hplay : s.relayInfo.isPlayground = false := hc.2
    have hissued : db.accounts.issued s.relayInfo.tokenId = true := by
      rw [hb, billed_issued]
      exact h.issued hplay
    have hshare : ∀ z, s.relayInfo.tokenShare z = z := fun z => by
      simp [tokenShare, hplay]
    rw [htok]
    have h1 : Atomic (·.addToken s.relayInfo.tokenId s.preConsumedQuota) db
        (increaseTokenQuota cfg s.refundJob.tokenId s.preConsumedQuota env.tokenFaults db) :=
      moveTokenQuota_atomic hissued
    rcases h1 with ⟨u, hr, hacc⟩ | ⟨e, hr⟩
    · rw [hr, hacc, hb]
      have hadd := billed_addToken (a := a0) st s x s.preConsumedQuota (-s.preConsumedQuota)
      rw [neg_neg, add_neg_cancel] at hadd
      simpa only [hshare, unreturned] using hadd
    · rw [hr]
      exact hb
  next hc =>
    rw [hb]
    cases hplay : s.relayInfo.isPlayground with
    | true => simp [tokenShare, hplay]
    | false =>
      have h1 : s.preConsumedQuota = 0 := by
        by_contra hne
        exact hc ⟨by rw [htok]; omega, hplay⟩
      simp [h1, unreturned]

/-- **The goroutine gives back each part whose operation succeeds, and nothing else.** -/
theorem Held.runRefund (h : s.Held a0)
    (hb : db.accounts =
      a0.billed .consumed s s.preConsumedQuota (s.relayInfo.tokenShare s.preConsumedQuota))
    (cfg : Config) (env : JobEnv) :
    (s.refundJob.run cfg env db).2.accounts =
      a0.billed (recordStatus (s.refundJob.run cfg env db).1.funding) s
        (unreturned (s.refundJob.run cfg env db).1.funding s.ownPart +
          unreturned (s.refundJob.run cfg env db).1.extra s.extraPart)
        (s.relayInfo.tokenShare
          (unreturned (s.refundJob.run cfg env db).1.token s.preConsumedQuota)) := by
  have hown := h.parts.2.1
  have h1 : 0 ≤ unreturned (s.refundJob.funding.refund env.now env.first env.second env.third
      db).1 s.ownPart := by
    unfold unreturned
    split
    · exact le_refl 0
    · exact hown
  exact h.refundToken cfg env
    (h.refundExtra env h1 (h.refund env.now env.first env.second env.third hb))

end BillingSession

/-! ## Opening a session -/

/-- A session as `NewBillingSession` builds it, with the quota it then pre-consumes. The request
is new, and the user and the token it is charged to are there. -/
inductive Billable (a0 : Accounts) : BillingSession → Int → Prop
  | wallet (info : RelayInfo) {quota : Int} (hlive : a0.live info.userId = true)
      (hissued : info.Issued a0) (hquota : 0 ≤ quota) : Billable a0 (.onWallet info) quota
  | subscription (info : RelayInfo) (quota : Int) (hnew : a0.request info.requestId = none)
      (hused : ∀ n, 0 ≤ a0.used n) (hissued : info.Issued a0) :
      Billable a0 (.onSubscription info quota) (subConsume quota)

/-- A funding source before its first charge, which is to take `quota`. -/
inductive FundingSource.Unpaid (a : Accounts) (quota : Int) : FundingSource → Prop
  | wallet (userId : Nat) (hlive : a.live userId = true) : Unpaid a quota (.wallet userId 0)
  | subscription (f : SubscriptionFunding) (hnew : a.request f.requestId = none)
      (hused : ∀ n, 0 ≤ a.used n) (hamount : f.amount = quota) : Unpaid a quota (.subscription f)

structure FundingSource.Paid (a : Accounts) (quota : Int) (f : FundingSource) : Prop where
  backed : f.Backed a
  counted : f.Counted a
  consumed : ∀ u c, f = .wallet u c → c = quota
  reserved : ∀ g, f = .subscription g → g.preConsumed = quota ∧ 0 < quota ∧ g.subscriptionId ≠ 0

theorem FundingSource.Unpaid.addToken (h : f.Unpaid a quota) (t : Nat) (x : Int) :
    f.Unpaid (a.addToken t x) quota := by
  cases h with
  | wallet u hl => exact .wallet u hl
  | subscription f hn hu ha => exact .subscription f hn hu ha

theorem FundingSource.Unpaid.preConsume (cfg : Config) (env : CallEnv)
    (h : f.Unpaid db.accounts quota) (hq : 0 ≤ quota) :
    (∃ e, f.preConsume cfg env quota db = (.error e, db)) ∨
      ∃ f' db', f.preConsume cfg env quota db = (.ok f', db') ∧ f'.Paid db.accounts quota ∧
        db'.accounts = db.accounts.paid .consumed quota f' := by
  cases h with
  | wallet userId hlive =>
    have h1 : (FundingSource.wallet userId quota).Paid db.accounts quota :=
      ⟨hlive, trivial, fun _ _ he => by cases he; rfl, fun _ he => by cases he⟩
    simp only [FundingSource.preConsume]
    split
    · obtain rfl : quota = 0 := by omega
      exact .inr ⟨_, _, rfl, h1, by simp [paid]⟩
    · rcases (decreaseUserQuota_atomic hlive).cases with ⟨u, db1, hr, hacc⟩ | ⟨e, hr⟩ <;> rw [hr]
      · exact .inr ⟨_, _, rfl, h1, hacc⟩
      · exact .inl ⟨e, rfl⟩
  | subscription f hnew hused hamount =>
    subst hamount
    simp only [FundingSource.preConsume]
    generalize hr : preConsumeUserSubscription cfg env.now f.requestId f.userId f.modelName f.amount
      env.fundingFaults db = r
    obtain ⟨r | res, db1⟩ := r
    · obtain rfl := preConsumeUserSubscription_error hr
      exact .inl ⟨r, rfl⟩
    · obtain ⟨hpos, hid, hpre, hacc⟩ := preConsumeUserSubscription_accounts hnew hused hr
      refine .inr ⟨_, _, rfl, ⟨trivial, hused _, fun _ _ he => (by cases he), fun g he => ?_⟩, ?_⟩
      · cases he
        exact ⟨hpre, hpos, hid⟩
      · rw [hacc]
        simp only [paid, hpre]
        have h1 : db.accounts.meter res.userSubscriptionId f.amount =
            db.accounts.addUsed res.userSubscriptionId f.amount := by
          have := hused res.userSubscriptionId
          unfold meter addUsed
          rw [max_eq_right (by omega)]
        rw [h1]

namespace BillingSession

/-- If the funding step of a pre-consumption fails, the write that undoes its token step
succeeds. -/
def PreConsumeRollbackOk (cfg : Config) (env : CallEnv) (effectiveQuota : Int) (s : BillingSession)
    (db : Database) : Prop :=
  ∀ s₁ db₁ e db₂, s.preConsumeToken cfg env effectiveQuota db = (.ok (), s₁, db₁) →
    s₁.funding.preConsume cfg env effectiveQuota db₁ = (.error e, db₂) →
    (s₁.rollbackToken cfg env db₂).1 = .ok ()

theorem preConsumeToken_cases (cfg : Config) (env : CallEnv) (hq : 0 ≤ quota)
    (ht : s.tokenConsumed = 0)
    (hi : s.relayInfo.Issued db.accounts) :
    (∃ e, s.preConsumeToken cfg env quota db = (.error e, s, db)) ∨
      ∃ db', s.preConsumeToken cfg env quota db = (.ok (), { s with tokenConsumed := quota }, db') ∧
        db'.accounts =
          db.accounts.addToken s.relayInfo.tokenId (-s.relayInfo.tokenShare quota) := by
  unfold preConsumeToken
  split
  · rcases (preConsumeTokenQuota_atomic hi).cases with ⟨u, db1, hr, hacc⟩ | ⟨e, hr⟩ <;> rw [hr]
    · exact .inr ⟨_, rfl, hacc⟩
    · exact .inl ⟨e, rfl⟩
  · obtain rfl : quota = 0 := by omega
    refine .inr ⟨db, ?_, ?_⟩
    · rw [← ht]
    · simp [tokenShare]

theorem rollbackToken_accounts (hq : 0 ≤ s.tokenConsumed)
    (hi : s.relayInfo.Issued a)
    (hb : db.accounts = a.addToken s.relayInfo.tokenId (-s.relayInfo.tokenShare s.tokenConsumed))
    (hok : (s.rollbackToken cfg env db).1 = .ok ()) :
    (s.rollbackToken cfg env db).2.2.accounts = a := by
  unfold rollbackToken at hok ⊢
  split at hok
  next hc =>
    rw [if_pos hc]
    have h1 : s.relayInfo.tokenShare s.tokenConsumed = s.tokenConsumed := by
      simp [tokenShare, hc.2]
    have hissued : db.accounts.issued s.relayInfo.tokenId = true := by rw [hb]; exact hi hc.2
    have h2 : Atomic (·.addToken s.relayInfo.tokenId s.tokenConsumed) db
        (increaseTokenQuota cfg s.relayInfo.tokenId s.tokenConsumed env.rollbackFaults db) :=
      moveTokenQuota_atomic hissued
    have hacc := h2.of_ok hok
    rw [hacc, hb, h1, Accounts.addToken_addToken, neg_add_cancel, addToken_zero]
  next hc =>
    rw [if_neg hc]
    have h1 : s.relayInfo.tokenShare s.tokenConsumed = 0 := by
      unfold tokenShare
      split
      · rfl
      next hp =>
        by_contra hne
        exact hc ⟨by omega, by simpa using hp⟩
    rw [hb, h1, neg_zero, addToken_zero]

/-- **A pre-consumption opens the session, or leaves the accounts as they were.** -/
theorem preConsumeBy_cases (hq : 0 ≤ quota) (hlive : s.Live) (ht : s.tokenConsumed = 0)
    (hx : s.extraReserved = 0) (hi : s.relayInfo.Issued db.accounts)
    (hf : s.funding.Unpaid db.accounts quota) :
    (∃ e s' db', s.preConsumeBy cfg env quota db = (.error e, s', db') ∧
        (s.PreConsumeRollbackOk cfg env quota db → db'.accounts = db.accounts)) ∨
      ∃ s' db', s.preConsumeBy cfg env quota db = (.ok (), s', db') ∧ s'.Open db.accounts db' := by
  unfold preConsumeBy
  rcases preConsumeToken_cases cfg env hq ht hi with ⟨e, hr⟩ | ⟨db1, hr, hacc⟩
  · rw [hr]
    exact .inl ⟨_, s, db, rfl, fun _ => rfl⟩
  have hf1 : s.funding.Unpaid db1.accounts quota := by
    rw [hacc]
    exact hf.addToken _ _
  rw [hr]
  dsimp only
  rcases hf1.preConsume cfg env hq with ⟨e, hp⟩ | ⟨f', db2, hp, hpaid, hacc2⟩
  · rw [hp]
    refine .inl ⟨_, _, _, rfl, fun h1 => ?_⟩
    exact rollbackToken_accounts (s := { s with tokenConsumed := quota }) hq hi hacc
      (h1 _ _ e db1 hr hp)
  · rw [hp]
    refine .inr ⟨_, _, rfl, .syncRelayInfo { hlive with }, ?_, ?_⟩
    · rw [hacc] at hpaid
      rw [syncRelayInfo_frame]
      refine ⟨hpaid.backed.congr rfl, hpaid.counted.congr rfl, ?_, hq, rfl, hx.ge, hpaid.consumed,
        ?_⟩ <;> dsimp only
      · intro hp
        rw [syncRelayInfo_tokenId]
        exact hi (by simpa using hp)
      · intro g he
        obtain ⟨hpre, hpos, hid⟩ := hpaid.reserved g he
        rw [syncRelayInfo_subscriptionId he, hx, hpre]
        exact ⟨hpos, add_zero _, hid, rfl⟩
    · rw [hacc2, hacc, Accounts.paid_addToken, tokenShare_syncRelayInfo, syncRelayInfo_frame]
      unfold billed
      rw [syncRelayInfo_tokenId]

def effectiveQuota (cfg : Config) (env : CallEnv) (quota : Int) (s : BillingSession) : Int :=
  if s.shouldTrust cfg env then 0 else quota

def screened (cfg : Config) (env : CallEnv) (s : BillingSession) : BillingSession :=
  if s.shouldTrust cfg env then { s with trusted := true } else s

theorem preConsume_eq : s.preConsume cfg env quota db =
      (s.screened cfg env).preConsumeBy cfg env (s.effectiveQuota cfg env quota) db := by
  unfold preConsume screened effectiveQuota
  split <;> rfl

end BillingSession

theorem Billable.preConsume {s0 : BillingSession} (hb : Billable db.accounts s0 quota)
    (cfg : Config) (env : CallEnv) :
    (∃ e s' db', s0.preConsume cfg env quota db = (.error e, s', db') ∧
        ((s0.screened cfg env).PreConsumeRollbackOk cfg env (s0.effectiveQuota cfg env quota) db →
          db'.accounts = db.accounts)) ∨
      ∃ s' db', s0.preConsume cfg env quota db = (.ok (), s', db') ∧ s'.Open db.accounts db' := by
  rw [preConsume_eq]
  cases hb with
  | wallet info hlive hissued hquota =>
    refine preConsumeBy_cases ?_ ?_ ?_ ?_ ?_ ?_
    · unfold BillingSession.effectiveQuota
      split
      · exact le_refl 0
      · exact hquota
    all_goals
      unfold BillingSession.screened
      split
    · exact ⟨rfl, rfl, rfl⟩
    · exact ⟨rfl, rfl, rfl⟩
    · rfl
    · rfl
    · rfl
    · rfl
    · exact hissued
    · exact hissued
    · exact .wallet _ hlive
    · exact .wallet _ hlive
  | subscription info q hnew hused hissued =>
    unfold BillingSession.screened BillingSession.effectiveQuota
    rw [onSubscription_untrusted]
    refine preConsumeBy_cases ?_ ⟨rfl, rfl, rfl⟩ rfl rfl hissued
      (.subscription _ hnew hused rfl)
    unfold subConsume
    split <;> omega

end Xingkong
