import Xingkong.Lib.Run
import Xingkong.Spec.BillingSession

/-!
# Wallet lots and wallet quota

The quota of a user is backed by lots. A request paid from the wallet moves the two at
different times: the quota when the request is pre-consumed and settled, the lots when its usage
is recorded. `Database.drift` is how far the lots are ahead of the quota. Quota that a request
took and gives back comes back with a new gift lot, though the lots behind it were never drawn
on; apart from that, and from the backfill of uncovered quota, a request leaves the drift alone.
-/

namespace Xingkong

open Rdb BillingSession

variable {db db' : Database} {cfg : Config} {userId : Nat} {now quota : Int} {faults : List Bool}
  {s : BillingSession} {env : CallEnv} {u : Unit}

/-! ## The wallet of a user -/

namespace Database

def lotsQuota (db : Database) (userId : Nat) : Int :=
  db.walletLots.sum fun l => if l.userId = userId then l.quotaRemaining else 0

/-- How far the lots are ahead of the quota they account for. -/
def drift (db : Database) (userId : Nat) : Int := db.lotsQuota userId - db.userQuota userId

end Database

/-- What the steps of a request read and move of a user's wallet. -/
@[ext] structure Wallet where
  quota : Int
  lots : Int
  covered : Int
  live : Bool
  exempt : Bool
  settled : String → Bool

def Database.wallet (db : Database) (userId : Nat) : Wallet where
  quota := db.userQuota userId
  lots := db.lotsQuota userId
  covered := db.coveredQuota userId
  live := (db.liveUser? userId).isSome
  exempt := db.exempt userId
  settled := (settlementExists db · .wallet)

namespace Wallet

def drift (w : Wallet) : Int := w.lots - w.quota

def addQuota (w : Wallet) (x : Int) : Wallet := { w with quota := w.quota + x }

def addLots (w : Wallet) (x : Int) : Wallet :=
  { w with lots := w.lots + x, covered := w.covered + x }

/-- The quota that no lot covers. -/
def uncovered (w : Wallet) : Int := max 0 (w.quota - w.covered)

structure Charged (w : Wallet) : Prop where
  live : w.live = true
  exempt : w.exempt = false

@[simp] theorem addQuota_zero (w : Wallet) : w.addQuota 0 = w := by simp [addQuota]

@[simp] theorem addLots_zero (w : Wallet) : w.addLots 0 = w := by simp [addLots]

@[simp] theorem addQuota_addQuota (w : Wallet) (x y : Int) :
    (w.addQuota x).addQuota y = w.addQuota (x + y) := by simp [addQuota, add_assoc]

end Wallet

theorem wallet_addUserQuota (quota : Int) (h : (db.wallet userId).live = true) :
    (db.addUserQuota userId quota).wallet userId = (db.wallet userId).addQuota quota := by
  have hlive : (db.liveUser? userId).isSome = true := h
  ext1
  · change (db.addUserQuota userId quota).userQuota userId = db.userQuota userId + quota
    rw [Database.userQuota_addUserQuota, if_pos ⟨rfl, hlive⟩]
  · rfl
  · rfl
  · change ((db.addUserQuota userId quota).liveUser? userId).isSome = (db.liveUser? userId).isSome
    refine Database.live_updateLiveUser _ ?_ userId
    exact fun _ => rfl
  · exact Database.exempt_addUserQuota userId
  · rfl

variable {info : RelayInfo} {s' : BillingSession} {lots : List WalletLot}
  {r : WalletRequest}

theorem wallet_insert_grant (hq : 0 < quota) :
    { db with
      walletLots := db.walletLots.insert (grantLot now userId quota .gift) }.wallet userId =
      (db.wallet userId).addLots quota := by
  ext1 <;> try rfl
  · simp [Database.wallet, Database.lotsQuota, Wallet.addLots, grantLot, Table.stored, Row.withKey]
  · simp [Database.wallet, Database.coveredQuota, Wallet.addLots, grantLot, Table.stored,
      Row.withKey, hq]

/-! ## Quota steps -/

theorem TokenOnly.wallet (h : TokenOnly db db') (v : Nat) : db'.wallet v = db.wallet v := by
  obtain ⟨_, _, rfl⟩ := h
  rfl

theorem decreaseUserQuota_wallet (hbatch : cfg.batchUpdateEnabled = false)
    (hlive : (db.wallet userId).live = true)
    (h : decreaseUserQuota cfg userId quota false faults db = (.ok u, db')) :
    db'.wallet userId = (db.wallet userId).addQuota (-quota) := by
  unfold decreaseUserQuota at h
  split at h
  · cases h
  · rw [hbatch] at h
    rw [(Tx.transaction_ok h).exec]
    exact wallet_addUserQuota (-quota) hlive

theorem increaseUserQuota_wallet (hu : userId ≠ 0) (hw : (db.wallet userId).Charged)
    (h : increaseUserQuota now userId quota faults db = (.ok u, db')) :
    db'.wallet userId = ((db.wallet userId).addQuota quota).addLots quota := by
  unfold increaseUserQuota increaseUserQuotaWithSource at h
  split at h
  · cases h
  split at h
  next hq =>
    cases h
    simp [hq]
  · have hcredit := wallet_addUserQuota quota hw.live
    rcases createWalletLotFromQuotaGrantTx_ok (Tx.transaction_ok h).exec_bind with
      ⟨h, _⟩ | ⟨hq, rfl⟩
    · have h1 : (db.addUserQuota userId quota).exempt userId = false := by
        rw [Database.exempt_addUserQuota]
        exact hw.exempt
      rcases h with h0 | hle | he
      · exact absurd h0 hu
      · omega
      · rw [h1] at he
        cases he
    · rw [wallet_insert_grant hq, hcredit]

/-! ## Recording usage -/

theorem sum_draws_of_user (hq : 0 ≤ quota)
    (hp : lots.Perm (openLots db userId)) (hrest : (draws true lots quota).2 ≤ 0)
    {g : WalletLot → Int}
    (hg : ∀ l : WalletLot, l.userId = userId → 0 ≤ l.quotaRemaining → g l = l.quotaRemaining) :
    (db.walletLots.saveAll ((draws true lots quota).1.map Draw.lot)).sum g =
      db.walletLots.sum g - quota := by
  have h : (draws true lots quota).2 = 0 := le_antisymm hrest (draws_rest_nonneg hq)
  have hsum := draws_useQuota_sum true lots quota
  rw [h, add_zero] at hsum
  have hmap : ((draws true lots quota).1.map fun d => g d.lot - g d.before) =
      (draws true lots quota).1.map fun d => -d.useQuota := by
    refine List.map_congr_left fun d hd => ?_
    obtain ⟨_, hown, hpos⟩ := draws_before_mem hp hd
    obtain ⟨r, _, he⟩ := mem_draws hd
    have hle := takeFromLot_useQuota_le d.before r
    have hlot : d.lot.quotaRemaining = d.before.quotaRemaining - d.useQuota := by rw [he]; rfl
    have huse : d.useQuota = (takeFromLot d.before r).useQuota := by rw [← he]
    have hown' : d.lot.userId = userId := by rw [he]; exact hown
    rw [hg _ hown hpos.le, hg _ hown' (by omega)]
    omega
  have hneg : ((draws true lots quota).1.map fun d => -d.useQuota).sum = -quota := by
    rw [show (fun d : Draw => -d.useQuota) = (fun x => -x) ∘ Draw.useQuota from rfl,
      ← List.map_map, ← List.sum_neg, hsum]
  rw [sum_draws hp, hmap, hneg, sub_eq_add_neg]

theorem coveredQuota_draws (hq : 0 ≤ quota)
    (hp : lots.Perm (openLots db userId)) (hrest : (draws true lots quota).2 ≤ 0) :
    ({ db with walletLots := db.walletLots.saveAll ((draws true lots quota).1.map Draw.lot) } :
      Database).coveredQuota userId = db.coveredQuota userId - quota := by
  refine sum_draws_of_user hq hp hrest fun l hown h => ?_
  by_cases hpos : 0 < l.quotaRemaining
  · exact if_pos ⟨hown, hpos⟩
  · rw [if_neg fun hc => hpos hc.2]
    omega

/-- The wallet after usage of `used` was recorded: uncovered quota first gets its lot. -/
structure Consumed (used : Int) (w w' : Wallet) : Prop where
  quota : w'.quota = w.quota
  lots : w'.lots = w.lots + w.uncovered - used
  covered : w'.covered = w.covered + w.uncovered - used
  live : w'.live = w.live
  exempt : w'.exempt = w.exempt

theorem ensureWalletLots_wallet (hu : userId ≠ 0) (hw : (db.wallet userId).Charged)
    (h : Tx.Ok (ensureWalletLotsCoverCurrentQuotaTx now userId) db u db') :
    db'.wallet userId = (db.wallet userId).addLots (db.wallet userId).uncovered := by
  have hquota : ∀ user, db.liveUser? userId = some user → db.userQuota userId = user.quota :=
    fun user hf => by simp [Database.userQuota, hf]
  rcases ensureWalletLotsCoverCurrentQuotaTx_ok h with ⟨rfl, h⟩ | ⟨user, hf, hlt, rfl⟩
  · have h1 : (db'.wallet userId).uncovered = 0 := by
      rcases h with h0 | he | ⟨user, hf, hle⟩
      · exact absurd h0 hu
      · exact absurd (he.symm.trans hw.exempt) (by decide)
      · refine max_eq_left ?_
        change db'.userQuota userId - db'.coveredQuota userId ≤ 0
        rw [hquota user hf]
        omega
    rw [h1, Wallet.addLots_zero]
  · have hunc : (db.wallet userId).uncovered = user.quota - db.coveredQuota userId := by
      change max 0 (db.userQuota userId - db.coveredQuota userId) = _
      rw [hquota user hf]
      omega
    rw [hunc]
    exact wallet_insert_grant (by omega)

theorem recordUsageSettlement_wallet (input : ProfitUsageInput)
    {x : Option UsageSettlementAuditSummary} (hu : input.userId ≠ 0)
    (hused : 0 < input.quotaUsed) (hsource : input.sourceType = .wallet)
    (hw : (db.wallet input.userId).Charged)
    (hnew : (db.wallet input.userId).settled input.requestId = false)
    (h : recordUsageSettlementWithSummary now input faults db = (.ok x, db')) :
    Consumed input.quotaUsed (db.wallet input.userId) (db'.wallet input.userId) := by
  unfold recordUsageSettlementWithSummary at h
  rw [if_neg (by omega)] at h
  have hok := Tx.transaction_ok h
  obtain ⟨y, db1, h1, h2⟩ := Tx.Ok.bind (show Tx.Ok
    (recordUsageSettlementTx now input >>= fun a => pure (some a)) db x db' from hok)
  obtain ⟨_, rfl⟩ := h2.pure
  rcases recordUsageSettlementTx_ok h1 with ⟨he, _⟩ | ⟨he, _⟩ | ⟨_, db2, h3, h4⟩
  · exact absurd (he.symm.trans hw.exempt) (by decide)
  · rw [hsource] at he
    exact absurd (he.symm.trans hnew) (by decide)
  · rcases h4 with ⟨hs, _⟩ | ⟨_, h5⟩
    · rw [hsource] at hs
      cases hs
    have hback := ensureWalletLots_wallet hu hw h3
    obtain ⟨hrest, ds, rfl, rfl⟩ := consumeWalletLotsForUsageTx_ok h5
    have hp := spendableLots_perm db2 input.userId
    have hlots := sum_draws_of_user hused.le hp hrest
      (g := fun l => if l.userId = input.userId then l.quotaRemaining else 0)
      (fun l hl _ => if_pos hl)
    have hcov := coveredQuota_draws hused.le hp hrest
    have hquota := congrArg Wallet.quota hback
    have hlive := congrArg Wallet.live hback
    have h : db2.exempt input.userId = db.exempt input.userId :=
      congrArg Wallet.exempt hback
    refine ⟨hquota, ?_, ?_, hlive, h⟩
    · exact hlots.trans (congrArg (· - input.quotaUsed) (congrArg Wallet.lots hback))
    · exact hcov.trans (congrArg (· - input.quotaUsed) (congrArg Wallet.covered hback))

/-! ## Opening a session -/

namespace BillingSession

theorem preConsumeBy_wallet {r : Except BillingErr Unit} {f : SubscriptionFunding}
    (hf : s.funding = .subscription f)
    (h : s.preConsumeBy cfg env quota db = (r, s', db')) (v : Nat) :
    (∃ u, r = .ok u ∧ s'.funding.source = .subscription) ∨
      (∃ e, r = .error e) ∧ db'.wallet v = db.wallet v ∧ s'.relayInfo = s.relayInfo := by
  obtain ⟨info, _, p, t, x, tr, fs, st, rf⟩ := s
  cases hf
  obtain ⟨r1, n, db1, hr1, h1, -⟩ := preConsumeToken_spec cfg env quota
    ⟨info, .subscription f, p, t, x, tr, fs, st, rf⟩ db
  have hw := h1.wallet v
  unfold preConsumeBy at h
  rw [hr1] at h
  cases r1 with
  | error e =>
    cases h
    exact .inr ⟨⟨_, rfl⟩, hw, rfl⟩
  | ok u =>
    simp only [FundingSource.preConsume] at h
    generalize hr2 :
    preConsumeUserSubscription cfg env.now f.requestId f.userId f.modelName f.amount
      env.fundingFaults db1 = r2 at h
    obtain ⟨r2 | res, db2⟩ := r2
    · obtain rfl := preConsumeUserSubscription_error hr2
      dsimp only at h
      generalize hs1 : BillingSession.mk info _ p n x tr fs st rf = s1 at h
      have h1 := (rollbackToken_tokenOnly cfg env s1 db2).wallet v
      have hs := (rollbackToken_session cfg env s1 db2).1
      generalize s1.rollbackToken cfg env db2 = r3 at h h1 hs
      obtain ⟨_, s3, db3⟩ := r3
      cases h
      exact .inr ⟨⟨_, rfl⟩, h1.trans hw, hs.trans (by rw [← hs1])⟩
    · cases h
      refine .inl ⟨_, rfl, ?_⟩
      rfl

end BillingSession

structure OnWallet (userId : Nat) (q : Int) (s : BillingSession) : Prop where
  live : s.Live
  funding : s.funding = .wallet userId q
  preConsumed : s.preConsumedQuota = q
  token : s.tokenConsumed = q
  nonneg : 0 ≤ q

section

variable (hbatch : cfg.batchUpdateEnabled = false)

include hbatch

theorem preConsume_onWallet {f : FundingSource}
    (hlive : (db.wallet userId).live = true) (hq : 0 ≤ quota)
    (h : (FundingSource.wallet userId 0).preConsume cfg env quota db = (.ok f, db')) :
    f = .wallet userId quota ∧ db'.wallet userId = (db.wallet userId).addQuota (-quota) := by
  simp only [FundingSource.preConsume] at h
  split at h
  · obtain rfl : quota = 0 := by omega
    cases h
    simp
  · split at h
    next hr =>
      cases h
      exact ⟨rfl, decreaseUserQuota_wallet hbatch hlive hr⟩
    · cases h

theorem preConsumeBy_onWallet (hlive : (db.wallet userId).live = true) (hq : 0 ≤ quota)
    (hs : s.Live)
    (ht : s.tokenConsumed = 0) (hf : s.funding = .wallet userId 0)
    (h : s.preConsumeBy cfg env quota db = (.ok u, s', db')) :
    OnWallet userId quota s' ∧ db'.wallet userId = (db.wallet userId).addQuota (-quota) := by
  obtain ⟨r1, n, db1, hr1, h1, htok⟩ := s.preConsumeToken_spec cfg env quota db
  have hw := h1.wallet userId
  unfold BillingSession.preConsumeBy at h
  rw [hr1] at h
  cases r1 with
  | error e => cases h
  | ok u1 =>
    simp only [hf] at h
    generalize hr2 : (FundingSource.wallet userId 0).preConsume cfg env quota db1 = r2 at h
    obtain ⟨r2 | f, db2⟩ := r2
    · cases h
    · obtain ⟨rfl, hw2⟩ := preConsume_onWallet hbatch (by rw [hw]; exact hlive) hq hr2
      cases h
      rw [syncRelayInfo_frame]
      exact ⟨⟨{ hs with }, rfl, rfl, htok rfl hq ht, hq⟩, hw2.trans (by rw [hw])⟩

def OpenedOnWallet (userId : Nat) (db : Database) (s : BillingSession) (db' : Database) : Prop :=
  OnWallet userId s.preConsumedQuota s ∧
    db'.wallet userId = (db.wallet userId).addQuota (-s.preConsumedQuota)

theorem tryWallet_onWallet (hlive : (db.wallet info.userId).live = true) (hq : 0 ≤ quota)
    (h : tryWallet cfg env info quota db = (.ok s, db')) : OpenedOnWallet info.userId db s db' := by
  unfold tryWallet at h
  split at h
  · cases h
  rename_i userQuota _
  split at h
  · cases h
  split at h
  · cases h
  unfold BillingSession.openWith at h
  split at h
  on_goal 2 => cases h
  rename_i r _ _ hr
  cases h
  have hby : ∀ {s0 : BillingSession} {q : Int}, 0 ≤ q → s0.Live → s0.tokenConsumed = 0 →
      s0.funding = .wallet info.userId 0 → s0.preConsumeBy cfg env q db = (.ok r, s, db') →
      OpenedOnWallet info.userId db s db' := fun hq0 hl ht hf h0 => by
    obtain ⟨hon, hw⟩ := preConsumeBy_onWallet hbatch hlive hq0 hl ht hf h0
    have hpre := hon.preConsumed
    subst hpre
    exact ⟨hon, hw⟩
  unfold BillingSession.preConsume at hr
  split at hr
  · exact hby (le_refl 0) ⟨rfl, rfl, rfl⟩ rfl rfl hr
  · exact hby hq ⟨rfl, rfl, rfl⟩ rfl rfl hr

end

theorem trySubscription_wallet {r : Except (BillingErr × RelayInfo) BillingSession}
    (h : trySubscription cfg env info quota db = (r, db')) (v : Nat) :
    (∃ s, r = .ok s ∧ s.funding.source = .subscription) ∨
      ∃ e, r = .error (e, info) ∧ db'.wallet v = db.wallet v := by
  unfold trySubscription BillingSession.openWith at h
  rw [onSubscription_preConsume] at h
  generalize hr : (BillingSession.onSubscription info quota).preConsumeBy cfg env (subConsume quota)
    db = r1 at h
  obtain ⟨r1, s1, db1⟩ := r1
  rcases preConsumeBy_wallet rfl hr v with ⟨u, rfl, hsrc⟩ | ⟨⟨e, rfl⟩, hw, hinfo⟩
  · cases h
    exact .inl ⟨s1, rfl, hsrc⟩
  · cases h
    refine .inr ⟨e, ?_, hw⟩
    rw [hinfo]
    rfl

/-- **A session on the wallet has taken its pre-consumed quota from the wallet, whichever
sources were tried before.** -/
theorem newBillingSession_onWallet {wallet sub : CallEnv} {countFails : Bool}
    (hbatch : cfg.batchUpdateEnabled = false) (hlive : (db.wallet info.userId).live = true)
    (hq : 0 ≤ quota) (h : newBillingSession cfg wallet sub countFails info quota db = (.ok s, db'))
    (hs : s.funding.source = .wallet) : OpenedOnWallet info.userId db s db' := by
  have hnosub : ∀ {d d' : Database} {i : RelayInfo},
      trySubscription cfg sub i quota d ≠ (.ok s, d') := fun {d d' i} he => by
    rcases trySubscription_wallet he 0 with ⟨s', hr, hsrc⟩ | ⟨e, hr, _⟩
    · cases hr
      rw [hs] at hsrc
      cases hsrc
    · cases hr
  unfold newBillingSession at h
  split at h
  · exact absurd h hnosub
  · exact tryWallet_onWallet hbatch hlive hq h
  · unfold orElseInsufficient at h
    split at h
    next hr =>
      cases h
      exact tryWallet_onWallet hbatch hlive hq hr
    · split at h
      · exact absurd h hnosub
      · cases h
  · split at h
    · cases h
    · exact tryWallet_onWallet hbatch hlive hq h
    · unfold orElseInsufficient at h
      split at h
      next hr =>
        cases h
        exact absurd hr hnosub
      next e info' db1 hr =>
        split at h
        · rcases trySubscription_wallet hr info.userId with ⟨_, hr', _⟩ | ⟨e', hr', hw⟩
          · cases hr'
          · cases hr'
            obtain ⟨hon, hw'⟩ := tryWallet_onWallet hbatch (by rw [hw]; exact hlive) hq h
            exact ⟨hon, hw'.trans (by rw [hw])⟩
        · cases h

/-! ## Requests -/

inductive RequestEnd
  | settle (env : CallEnv) (now : Int) (faults : List Bool) (usage : ProfitUsageInput)
  | refund (env : JobEnv)

structure WalletRequest where
  wallet : CallEnv
  sub : CallEnv
  countFails : Bool
  info : RelayInfo
  quota : Int
  ending : RequestEnd

def RefundReport.ok (r : RefundReport) : Bool := r.funding.isOk && r.extra.isOk && r.token.isOk

/-- What a request that was paid from the wallet did: the quota it pre-consumed, the quota it
used, and the database it left. -/
structure Served where
  preConsumed : Int
  used : Int
  db : Database

namespace WalletRequest

def settle (cfg : Config) (env : CallEnv) (now : Int) (faults : List Bool)
    (usage : ProfitUsageInput) (s : BillingSession) (db : Database) : Option Served :=
  match s.settle cfg env usage.quotaUsed db with
  | (.error _, _, _) => none
  | (.ok _, _, db) =>
    match recordUsageSettlementWithSummary now usage faults db with
    | (.error _, _) => none
    | (.ok _, db) => some ⟨s.preConsumedQuota, usage.quotaUsed, db⟩

def refund (cfg : Config) (env : JobEnv) (s : BillingSession) (db : Database) : Option Served :=
  match s.refund.2 with
  | none => some ⟨s.preConsumedQuota, 0, db⟩
  | some job =>
    if (job.run cfg env db).1.ok then some ⟨s.preConsumedQuota, 0, (job.run cfg env db).2⟩
    else none

def exec (cfg : Config) (r : WalletRequest) (db : Database) : Option Served :=
  match newBillingSession cfg r.wallet r.sub r.countFails r.info r.quota db with
  | (.error _, _) => none
  | (.ok s, db) =>
    if s.funding.source = .wallet then
      match r.ending with
      | .settle env now faults usage => settle cfg env now faults usage s db
      | .refund env => refund cfg env s db
    else none

def For (userId : Nat) (db : Database) (r : WalletRequest) : Prop :=
  r.info.userId = userId ∧ 0 ≤ r.quota ∧
    match r.ending with
    | .settle _ _ _ usage =>
      usage.userId = userId ∧ usage.sourceType = .wallet ∧ 0 < usage.quotaUsed ∧
        settlementExists db usage.requestId .wallet = false
    | .refund _ => True

end WalletRequest

/-! ## What a request does to the wallet -/

section Request

variable {q : Int}

theorem OnWallet.settle {actual : Int} (h : OnWallet userId q s)
    (hbatch : cfg.batchUpdateEnabled = false) (hu : userId ≠ 0) (hw : (db.wallet userId).Charged)
    (hs : s.settle cfg env actual db = (.ok u, s', db')) :
    db'.wallet userId = ((db.wallet userId).addQuota (q - actual)).addLots
    (max 0 (q - actual)) := by
  have hpre := h.preConsumed
  unfold BillingSession.settle at hs
  rw [if_neg (by simp [h.live.settled]), hpre] at hs
  split at hs
  · cases hs
    have h1 : q - actual = 0 := by omega
    simp [h1]
  rename_i hd
  unfold BillingSession.settleBy BillingSession.settleFunding at hs
  rw [if_neg (by simp [h.live.fundingSettled]), h.funding] at hs
  generalize hr : (FundingSource.wallet userId q).settle cfg env (actual - q) db = r at hs
  obtain ⟨r | v, db1⟩ := r
  · cases hs
  have h := (s.settleToken_tokenOnly cfg env (actual - q) db1).wallet userId
  dsimp only at hs
  generalize s.settleToken cfg env (actual - q) db1 = r2 at hs h
  obtain ⟨r2, db2⟩ := r2
  cases hs
  refine h.trans ?_
  simp only [FundingSource.settle, if_neg hd] at hr
  split at hr
  · have hneg : max 0 (q - actual) = 0 := by omega
    rw [decreaseUserQuota_wallet hbatch hw.live hr, hneg, Wallet.addLots_zero, neg_sub]
  · have hpos : max 0 (q - actual) = q - actual := by omega
    rw [increaseUserQuota_wallet hu hw hr, hpos, neg_sub]

theorem OnWallet.refund_none (h : OnWallet userId q s) (hr : s.refund.2 = none) : q = 0 := by
  have hq := h.nonneg
  by_contra hne
  have hpos : 0 < s.tokenConsumed := by rw [h.token]; omega
  have hnd : s.needsRefund = true := by
    simp [BillingSession.needsRefund, h.live.settled, h.live.refunded, h.live.fundingSettled, hpos]
  simp [BillingSession.refund, h.live.settled, h.live.refunded, hnd] at hr

theorem OnWallet.refund_some {env : JobEnv} {job : RefundJob} (h : OnWallet userId q s)
    (hu : userId ≠ 0) (hw : (db.wallet userId).Charged) (hr : s.refund.2 = some job)
    (hok : (job.run cfg env db).1.ok = true) :
    (job.run cfg env db).2.wallet userId = ((db.wallet userId).addQuota q).addLots q := by
  have hfunding : job.funding = .wallet userId q := by
    unfold BillingSession.refund at hr
    split at hr
    · cases hr
    · cases hr
      exact h.funding
  have hextra : ∀ d, job.refundExtra env d = (.ok (), d) := fun d => by
    unfold RefundJob.refundExtra
    simp [hfunding, FundingSource.source]
  have h1 : ∀ d, (job.refundToken cfg env d).2.wallet userId = d.wallet userId := fun d =>
    (job.refundToken_tokenOnly cfg env d).wallet userId
  have hfirst : (job.funding.refund env.now env.first env.second env.third db).1.isOk = true := by
    simp only [RefundReport.ok, Bool.and_eq_true] at hok
    exact hok.1.1
  have hrun : (job.run cfg env db).2.wallet userId =
      (job.funding.refund env.now env.first env.second env.third db).2.wallet userId := by
    unfold RefundJob.run
    simp only [hextra, h1]
  rw [hrun]
  simp only [hfunding, FundingSource.refund] at hfirst ⊢
  split
  next hle =>
    have h1 : q = 0 := le_antisymm hle h.nonneg
    simp [h1]
  next hle =>
    rw [if_neg hle] at hfirst
    generalize hinc : increaseUserQuota env.now userId q env.first db = r at hfirst ⊢
    obtain ⟨r | v, db1⟩ := r
    · cases hfirst
    · exact increaseUserQuota_wallet hu hw hinc

end Request

def Served.returned (x : Served) : Int := max 0 (x.preConsumed - x.used)

/-- The lot that recording the usage adds for quota no lot covers. -/
def Served.backfill (w : Wallet) (x : Served) : Int :=
  if 0 < x.used then max 0 (w.quota - x.used - (w.covered + x.returned)) else 0

open Served (returned backfill)

/-- **The effect of a request**: the quota falls by what was used, the lots by as much, except
that what was returned and what was uncovered got new lots. -/
structure Serves (w : Wallet) (x : Served) (w' : Wallet) : Prop where
  quota : w'.quota = w.quota - x.used
  lots : w'.lots = w.lots - x.used + x.returned + x.backfill w
  covered : w'.covered = w.covered - x.used + x.returned + x.backfill w
  live : w'.live = w.live
  exempt : w'.exempt = w.exempt

namespace WalletRequest

variable {x : Served} {w : Wallet}

theorem settle_serves {usage : ProfitUsageInput} (hbatch : cfg.batchUpdateEnabled = false)
    (hu : usage.userId ≠ 0) (hw : w.Charged)
    (hsource : usage.sourceType = .wallet) (hused : 0 < usage.quotaUsed)
    (hnew : w.settled usage.requestId = false)
    (hon : OnWallet usage.userId s.preConsumedQuota s)
    (hopen : db.wallet usage.userId = w.addQuota (-s.preConsumedQuota))
    (h : settle cfg env now faults usage s db = some x) :
    Serves w x (x.db.wallet usage.userId) := by
  have h1 : (db.wallet usage.userId).Charged := by rw [hopen]; exact ⟨hw.live, hw.exempt⟩
  unfold settle at h
  split at h
  · cases h
  rename_i db2 hs
  have hw2 := hon.settle hbatch hu h1 hs
  rw [hopen, Wallet.addQuota_addQuota] at hw2
  split at h
  · cases h
  rename_i hrec
  cases h
  -- neither opening nor settling a session writes usage records
  have h := recordUsageSettlement_wallet usage hu hused hsource
    (by rw [hw2]; exact ⟨hw.live, hw.exempt⟩) (by rw [hw2]; exact hnew) hrec
  rw [hw2] at h
  have hsum : -s.preConsumedQuota + (s.preConsumedQuota - usage.quotaUsed) = -usage.quotaUsed := by
    omega
  obtain ⟨h1, h2, h3, h4, h5⟩ := h
  simp only [Wallet.uncovered, Wallet.addQuota, Wallet.addLots] at h1 h2 h3 h4 h5
  refine ⟨?_, ?_, ?_, h4, h5⟩ <;>
    simp only [returned, backfill, if_pos hused] <;> omega

theorem refund_serves {env : JobEnv} (hu : userId ≠ 0)
    (hw : w.Charged) (hon : OnWallet userId s.preConsumedQuota s)
    (hopen : db.wallet userId = w.addQuota (-s.preConsumedQuota))
    (h : refund cfg env s db = some x) : Serves w x (x.db.wallet userId) := by
  have hnonneg := hon.nonneg
  unfold refund at h
  split at h
  next hno =>
    cases h
    have h1 := hon.refund_none hno
    rw [hopen]
    refine ⟨?_, ?_, ?_, rfl, rfl⟩ <;> simp [returned, backfill, h1]
  next job hjob =>
    split at h
    next hok =>
      cases h
      have hw2 := hon.refund_some hu (by rw [hopen]; exact ⟨hw.live, hw.exempt⟩) hjob hok
      rw [hopen, Wallet.addQuota_addQuota, neg_add_cancel, Wallet.addQuota_zero] at hw2
      rw [hw2]
      refine ⟨?_, ?_, ?_, rfl, rfl⟩ <;>
        simp only [returned, backfill, Wallet.addLots, lt_irrefl, if_false] <;> omega
    · cases h

theorem exec_serves (hbatch : cfg.batchUpdateEnabled = false) (hu : userId ≠ 0)
    (hw : (db.wallet userId).Charged) (hfor : r.For userId db) (h : r.exec cfg db = some x) :
    Serves (db.wallet userId) x (x.db.wallet userId) := by
  obtain ⟨rfl, hq, hend⟩ := hfor
  unfold exec at h
  split at h
  · cases h
  rename_i hr
  split at h
  next hsrc =>
    obtain ⟨hon, hw1⟩ := newBillingSession_onWallet hbatch hw.live hq hr hsrc
    cases h1 : r.ending with
    | settle env now faults usage =>
      rw [h1] at h hend
      obtain ⟨huser, h2, hused, hnew⟩ := hend
      rw [← huser] at hu hw hon hw1 ⊢
      exact settle_serves hbatch hu hw h2 hused hnew hon hw1 h
    | refund env =>
      rw [h1] at h
      exact refund_serves hu hw hon hw1 h
  · cases h

/-- **The drift of a request is what it returned and what it backfilled.** -/
theorem exec_drift (hbatch : cfg.batchUpdateEnabled = false) (hu : userId ≠ 0)
    (hw : (db.wallet userId).Charged) (hfor : r.For userId db) (h : r.exec cfg db = some x) :
    x.db.drift userId = db.drift userId + x.returned + x.backfill (db.wallet userId) := by
  obtain ⟨hquota, h1, _⟩ := exec_serves hbatch hu hw hfor h
  change (x.db.wallet userId).lots - (x.db.wallet userId).quota =
    (db.wallet userId).lots - (db.wallet userId).quota + _ + _
  omega

def next (cfg : Config) (db : Database) (r : WalletRequest) : Database :=
  match r.exec cfg db with
  | some x => x.db
  | none => db

/-- All steps of the request succeed, and it takes no more in advance than it uses. -/
def Steady (cfg : Config) (userId : Nat) (db : Database) (r : WalletRequest) : Prop :=
  r.For userId db ∧ ∃ x, r.exec cfg db = some x ∧ x.preConsumed ≤ x.used

end WalletRequest

/-- A wallet whose lots cover its quota, with a drift of `d`. -/
structure Covered (userId : Nat) (d : Int) (db : Database) : Prop where
  charged : (db.wallet userId).Charged
  covers : db.userQuota userId ≤ db.coveredQuota userId
  drift : db.drift userId = d

theorem Covered.next {d : Int} (hbatch : cfg.batchUpdateEnabled = false)
    (hu : userId ≠ 0) (h : Covered userId d db) (hr : r.Steady cfg userId db) :
    Covered userId d (r.next cfg db) := by
  obtain ⟨hfor, x, hx, hle⟩ := hr
  have hs := WalletRequest.exec_serves hbatch hu h.charged hfor hx
  have hdrift := WalletRequest.exec_drift hbatch hu h.charged hfor hx
  have hret : x.returned = 0 := by unfold returned; omega
  have hcov : (db.wallet userId).quota ≤ (db.wallet userId).covered := h.covers
  have hback : x.backfill (db.wallet userId) = 0 := by
    unfold backfill
    split
    · rw [hret]
      omega
    · rfl
  unfold WalletRequest.next
  rw [hx]
  refine ⟨⟨hs.live.trans h.charged.live, hs.exempt.trans h.charged.exempt⟩, ?_, ?_⟩
  · have h1 := hs.quota
    have h2 := hs.covered
    change (x.db.wallet userId).quota ≤ (x.db.wallet userId).covered
    omega
  · rw [hdrift, hret, hback, h.drift]
    omega

/-- **Wallet lots keep up with wallet quota.** With direct updates, a request that takes no more
in advance than it uses changes the drift by the backfill of uncovered quota only; and once the
lots cover the quota, no run of such requests changes it. -/
theorem wallet_drift_constant (cfg : Config) (hbatch : cfg.batchUpdateEnabled = false)
    {userId : Nat} (hu : userId ≠ 0) (db : Database)
    (hlive : (db.liveUser? userId).isSome = true) (hexempt : db.exempt userId = false) :
    (∀ (r : WalletRequest) (x : Served), r.For userId db → r.exec cfg db = some x →
        x.preConsumed ≤ x.used →
        x.db.drift userId = db.drift userId +
          if 0 < x.used then max 0 (db.userQuota userId - x.used - db.coveredQuota userId) else 0) ∧
      (db.userQuota userId ≤ db.coveredQuota userId → ∀ rs : List WalletRequest,
        (∀ e ∈ Run.trace (WalletRequest.next cfg) db rs, e.act.Steady cfg userId e.before) →
        (Run.final (WalletRequest.next cfg) db rs).drift userId = db.drift userId) := by
  have hcharged : (db.wallet userId).Charged := ⟨hlive, hexempt⟩
  constructor
  · intro r x hfor hx hle
    rw [WalletRequest.exec_drift hbatch hu hcharged hfor hx]
    have hret : x.returned = 0 := by unfold returned; omega
    unfold backfill
    rw [hret, add_zero, add_zero]
    rfl
  · intro hcov rs h
    have h0 : Covered userId (db.drift userId) db := ⟨hcharged, hcov, rfl⟩
    exact (Run.guarded_final h0 h fun _ _ hr h => h.next hbatch hu hr).drift

/-! ## One user -/

def walletDb (lot : Int) : Database :=
  { Database.empty with
    users := Table.empty.insert
      { id := 0, role := 1, quota := 1000, group := "default", email := "", stripeCustomer := ""
        deleted := false }
    tokens := Table.empty.insert token
    walletLots := if 0 < lot then Table.empty.insert (grantLot 0 1 lot .gift) else .empty }
where
  token : Token :=
    { id := 1, key := "k", unlimitedQuota := false, remainQuota := 500, usedQuota := 0 }

def walletRequest (requestId : String) (quota : Int) (ending : RequestEnd) : WalletRequest where
  wallet := calm
  sub := calm
  countFails := false
  info :=
    { userId := 1, tokenId := 1, tokenUnlimited := false, isPlayground := false
      forcePreConsume := false, requestId, originModelName := "m",
      billingPreference := "wallet_only"
      userQuota := 0, finalPreConsumedQuota := 0, billingSource := none, subscriptionId := 0
      subscriptionPreConsumed := 0, subscriptionPostDelta := 0, subscriptionAmountTotal := 0
      subscriptionAmountUsedAfterPreConsume := 0 }
  quota := quota
  ending := ending
where
  calm : CallEnv :=
    { now := 0, userQuota := .ok 1000, token := .ok walletDb.token, contextTokenQuota := 500
      fundingFaults := [], tokenFaults := [], rollbackFaults := [] }

def settleAt (requestId : String) (used : Int) : RequestEnd :=
  .settle walletRequest.calm 1 []
    { requestId, userId := 1, sourceType := .wallet, subscriptionId := 0, promptTokens := 10
      completionTokens := 5, cacheReadTokens := 0, cacheWriteTokens := 0, quotaUsed := used
      upstreamCostUSD := 0, upstreamCostCNY := 0 }

theorem wallet_drift_constant_twice :
    (Run.final (WalletRequest.next .fresh) (walletDb 1000)
      [walletRequest "a" 60 (settleAt "a" 100), walletRequest "b" 40 (settleAt "b" 40)]).drift 1 =
      (walletDb 1000).drift 1 := by
  refine (wallet_drift_constant .fresh rfl (by decide) (walletDb 1000) (by decide +kernel)
    (by decide +kernel)).2 (by decide +kernel) _ fun e he => ?_
  have hsteady : ∀ (r : WalletRequest) (db : Database), r.For 1 db →
      ((r.exec .fresh db).any fun x => x.preConsumed ≤ x.used) = true →
      r.Steady .fresh 1 db := fun r db hfor hx => by
    cases hr : r.exec .fresh db with
    | none => rw [hr] at hx; cases hx
    | some x => exact ⟨hfor, x, hr, by simpa [hr] using hx⟩
  rcases List.mem_cons.1 he with rfl | he
  · exact hsteady _ _ ⟨rfl, by decide, rfl, rfl, by decide, by decide +kernel⟩ (by decide +kernel)
  · obtain rfl := List.mem_singleton.1 he
    exact hsteady _ _ ⟨rfl, by decide, rfl, rfl, by decide, by decide +kernel⟩ (by decide +kernel)

/-- Where the drift moves. Quota that is given back, by a settlement or by a refund, gets a lot
though its own was never drawn on; uncovered quota is backfilled; and with batch updates the
column stays behind. -/
theorem wallet_drift_moves :
    (walletDb 1000).drift 1 = 0 ∧
      (WalletRequest.next .fresh (walletDb 1000)
        (walletRequest "a" 100 (settleAt "a" 60))).drift 1 = 40 ∧
      (WalletRequest.next .fresh (walletDb 1000)
        (walletRequest "a" 100 (.refund ⟨1, [], [], [], [], []⟩))).drift 1 = 100 ∧
      (walletDb 0).drift 1 = -1000 ∧
      (WalletRequest.next .fresh (walletDb 0)
        (walletRequest "a" 60 (settleAt "a" 60))).drift 1 = -60 ∧
      (WalletRequest.next { Config.fresh with batchUpdateEnabled := true } (walletDb 1000)
        (walletRequest "a" 60 (settleAt "a" 60))).drift 1 = -60 := by
  decide +kernel

end Xingkong
