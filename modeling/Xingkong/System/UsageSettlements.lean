import Xingkong.Spec.Settlement
import Xingkong.System.WalletDrift

/-!
# Usage on the lots of a wallet

Two settlements of a user, one after the other, leave the lots that one settlement of both
usages leaves, and realize the same revenue. A settlement fails when the lots do not cover
the usage; the backfill that precedes it looks at a balance from which the usage is already
deducted, so it covers a legacy balance only by half.
-/

namespace Xingkong

open Rdb Drain List
open UsageSettlement (quotaUsed)

variable {db db' : Database} {userId : Nat} {m n : Int}

/-! ## One settlement after the other -/

theorem spendableLots_congr (h : db'.walletLots = db.walletLots) (userId : Nat) :
    spendableLots db' userId = spendableLots db userId := by
  unfold spendableLots
  rw [h]

theorem coveredQuota_spent (hn : 0 ≤ n) (hle : n ≤ db.coveredQuota userId) :
    (db.spent userId n).coveredQuota userId = db.coveredQuota userId - n := by
  rw [← content_spendableLots, spendableLots_spent]
  have h : content lotVessel ((drain lotVessel (spendableLots db userId) n).filter
      fun l => 0 < l.quotaRemaining) =
        content lotVessel (drain lotVessel (spendableLots db userId) n) :=
    content_filter
  rw [h, content_drain, rest_eq hn, content_spendableLots]
  omega

variable {x : WalletLot} {input : ProfitUsageInput} {faults : List Bool}

/-- **Spending twice leaves the lots that spending at once leaves.** -/
theorem spent_spent (hm : 0 ≤ m) (hn : 0 ≤ n) :
    ((db.spent userId m).spent userId n).walletLots = (db.spent userId (m + n)).walletLots := by
  refine Table.ext_rows ?_ ?_
  · have hnd := spendableLots_nodup db userId
    have h : drawn (spendableLots (db.spent userId m) userId) n =
        drawn (drain lotVessel (spendableLots db userId) m) n := by
      funext x
      rw [spendableLots_spent, drawn, draws_filter, drawn]
    rw [rows_spent, rows_spent, rows_spent, h, map_map]
    have htwice : (spendableLots db userId).map
        (drawn (drain lotVessel (spendableLots db userId) m) n ∘
          drawn (spendableLots db userId) m) =
        (spendableLots db userId).map (drawn (spendableLots db userId) (m + n)) := by
      rw [← map_map, map_drawn hnd, map_drawn (by rwa [drain_ids]), map_drawn hnd,
        drain_drain hm hn]
    refine map_congr_left fun x hx => ?_
    by_cases hid : x.id ∈ (spendableLots db userId).map WalletLot.id
    · obtain ⟨l, hl, heq⟩ := mem_map.mp hid
      have hrow := (mem_openLots.mp ((spendableLots_perm db userId).subset hl)).1
      exact map_inj_left.mp htwice x (Table.eq_of_key hrow hx heq ▸ hl)
    · rw [Function.comp_apply, drawn_of_not_mem hid, drawn_of_not_mem hid,
        drawn_of_not_mem (by rwa [drain_ids])]
  · simp [Database.spent]

/-! ## The order of spending -/

/-- The lot `a` is to be spent before `b`: it is paid and `b` is a gift, or both are of one
class and `a` is the older one. -/
def WalletLot.Before (a b : WalletLot) : Prop :=
  (0 < a.grossCNYRemaining ∧ b.grossCNYRemaining ≤ 0) ∨
    ((0 < a.grossCNYRemaining ↔ 0 < b.grossCNYRemaining) ∧ olderFirst a b ∧ a.id ≠ b.id)

/-- Among the open lots of a user, no lot is touched before those that come first are empty. -/
def SpentInOrder (userId : Nat) (db db' : Database) : Prop :=
  ∀ a ∈ openLots db userId, ∀ b ∈ openLots db userId, a.Before b →
    db'.walletLots.find? b.id ≠ some b →
    ∃ a', db'.walletLots.find? a.id = some a' ∧ a'.quotaRemaining = 0

theorem spendableLots_ordered (db : Database) (userId : Nat) :
    (spendableLots db userId).Pairwise fun a b => ¬ b.Before a := by
  have hclass : ∀ {a b : WalletLot}, (0 < a.grossCNYRemaining ↔ 0 < b.grossCNYRemaining) →
      olderFirst a b → ¬ b.Before a := by
    rintro a b hsame hab (⟨hb, ha⟩ | ⟨-, hba, hne⟩)
    · exact absurd (hsame.mpr hb) (not_lt.mpr ha)
    · unfold olderFirst at hab hba
      omega
  have hfilter : ∀ {lots : List WalletLot} {p : WalletLot → Bool} {q : WalletLot → Prop}
      [DecidablePred q] {a : WalletLot},
      a ∈ (lots.filter fun l => p l && q l).insertionSort olderFirst → q a := by
    intro lots p q _ a ha
    have hpq := of_mem_filter ((mem_insertionSort _).mp ha)
    exact of_decide_eq_true ((Bool.and_eq_true _ _).mp hpq).2
  unfold spendableLots
  rw [pairwise_append]
  refine ⟨?_, ?_, ?_⟩
  · exact (pairwise_insertionSort olderFirst _).imp_of_mem fun ha hb hab =>
      hclass (iff_of_true (hfilter ha) (hfilter hb)) hab
  · exact (pairwise_insertionSort olderFirst _).imp_of_mem fun ha hb hab =>
      hclass (iff_of_false (not_lt.mpr (hfilter ha)) (not_lt.mpr (hfilter hb))) hab
  · intro a ha b hb
    rintro (⟨hb', -⟩ | ⟨hsame, -⟩)
    · exact absurd hb' (not_lt.mpr (hfilter hb))
    · exact absurd (hsame.mpr (hfilter ha)) (not_lt.mpr (hfilter hb))

theorem spentInOrder_spent (db : Database) (userId : Nat) (n : Int) :
    SpentInOrder userId db (db.spent userId n) := by
  intro a ha b hb hab htouched
  have h := spendableLots_perm db userId
  have h3 : ∀ a : WalletLot, ¬ a.Before a := by
    rintro a (⟨h1, h2⟩ | ⟨-, -, hne⟩)
    · exact absurd h1 (not_lt.mpr h2)
    · exact absurd rfl hne
  have h1 : ∀ x ∈ db.walletLots.rows, (db.spent userId n).walletLots.find? x.id =
      some (drawn (spendableLots db userId) n x) := fun x hx => find?_saveAll_draws h n hx
  rw [h1 b (mem_openLots.mp hb).1] at htouched
  exact ⟨_, h1 a (mem_openLots.mp ha).1, drawn_in_order h n (spendableLots_ordered db userId)
    h3 ha hb hab fun h => htouched (congrArg some h)⟩

theorem spentInOrder_congr {db1 db2 : Database} (h : db'.walletLots = db.walletLots)
    (h1 : db1.walletLots = db2.walletLots) (hor : SpentInOrder userId db db2) :
    SpentInOrder userId db' db1 := by
  intro a ha b hb hab h2
  unfold openLots at ha hb
  rw [h] at ha hb
  rw [h1] at h2 ⊢
  exact hor a ha b hb hab h2

/-- **Usage can be settled in parts.** Settling one usage and then another leaves the lots that
settling both at once leaves and realizes the same revenue. Paid lots are spent before gifts, and
older lots before newer ones of their class, and what the open lots hold falls by the usage. -/
theorem usage_settled_in_parts (now1 now2 now : Int) (first second whole : ProfitUsageInput)
    (db : Database) (hsecond : second.userId = first.userId) (hwhole : whole.userId = first.userId)
    (hfirst : 0 < first.quotaUsed) (hlater : 0 < second.quotaUsed)
    (htotal : whole.quotaUsed = first.quotaUsed + second.quotaUsed)
    (hcover : whole.quotaUsed ≤ db.coveredQuota first.userId) :
    ∃ x1 db₁ x2 db₂ x db',
      (consumeWalletLotsForUsageTx now1 first).eval db = .ok (x1, db₁) ∧
      (consumeWalletLotsForUsageTx now2 second).eval db₁ = .ok (x2, db₂) ∧
      (consumeWalletLotsForUsageTx now whole).eval db = .ok (x, db') ∧
      db₂.walletLots = db'.walletLots ∧
      db'.coveredQuota first.userId = db.coveredQuota first.userId - whole.quotaUsed ∧
      x1.realizedRevenueCNY + x2.realizedRevenueCNY = x.realizedRevenueCNY ∧
      SpentInOrder first.userId db db₁ ∧ SpentInOrder first.userId db₁ db₂ ∧
      SpentInOrder first.userId db db' := by
  have hlots : (db.used now1 first).walletLots =
      (db.spent first.userId first.quotaUsed).walletLots := rfl
  have h : (db.used now1 first).coveredQuota second.userId =
      db.coveredQuota first.userId - first.quotaUsed := by
    rw [hsecond, Database.coveredQuota, hlots]
    exact coveredQuota_spent hfirst.le (by omega)
  obtain ⟨x1, he1, hx1⟩ := (eval_consumeWalletLotsForUsageTx now1 hfirst.le db).1 (by omega)
  obtain ⟨x2, he2, hx2⟩ :=
    (eval_consumeWalletLotsForUsageTx now2 hlater.le (db.used now1 first)).1 (by omega)
  have hpos : 0 ≤ whole.quotaUsed := by omega
  obtain ⟨x, he, hx⟩ := (eval_consumeWalletLotsForUsageTx now hpos db).1 (by rwa [hwhole])
  have hlater2 : ((db.used now1 first).used now2 second).walletLots =
      ((db.spent first.userId first.quotaUsed).spent first.userId second.quotaUsed).walletLots := by
    show ((db.used now1 first).spent second.userId second.quotaUsed).walletLots = _
    rw [hsecond, Database.spent, spendableLots_congr hlots, hlots]
    rfl
  have hatOnce : (db.used now whole).walletLots =
      (db.spent first.userId (first.quotaUsed + second.quotaUsed)).walletLots := by
    rw [← htotal, ← hwhole]
    rfl
  refine ⟨x1, _, x2, _, x, _, he1, he2, he, ?_, ?_, ?_, ?_, ?_, ?_⟩
  · rw [hlater2, hatOnce, spent_spent hfirst.le hlater.le]
  · rw [Database.coveredQuota, hatOnce, htotal]
    exact coveredQuota_spent (by omega) (by omega)
  · rw [hx1, hx2, hx, hsecond, hwhole, htotal, spendableLots_congr hlots, spendableLots_spent,
      ← gain_add hfirst.le hlater.le]
    congr 1
    rw [← (draws_eq_drain _ _).1, ← (draws_eq_drain _ _).1, draws_filter]
  · exact spentInOrder_congr rfl hlots (spentInOrder_spent db _ _)
  · exact spentInOrder_congr hlots hlater2 (spentInOrder_spent _ _ _)
  · exact spentInOrder_congr rfl hatOnce (spentInOrder_spent db _ _)

def walletUsage (quotaUsed : Int) : ProfitUsageInput :=
  { requestId := "r1", userId := 1, sourceType := .wallet, subscriptionId := 0
    promptTokens := 10, completionTokens := 5, cacheReadTokens := 0, cacheWriteTokens := 0
    quotaUsed, upstreamCostUSD := 1, upstreamCostCNY := 7 }

def giftAndPaidDb (quota : Int) : Database :=
  { Database.empty with
    users := Table.empty.insert
      { id := 0, role := 1, quota, group := "default", email := "", stripeCustomer := ""
        deleted := false }
    walletLots := (Table.empty.insert (grantLot 1 1 6 .gift)).insert
      { grantLot 2 1 4 .topUp with grossCNYBasis := 8, grossCNYRemaining := 8 } }

/-- A usage of 3 and one of 4: the paid lot first. -/
theorem usage_settled_in_parts_three_four :
    ∃ x1 db₁ x2 db₂,
      (consumeWalletLotsForUsageTx 3 (walletUsage 3)).eval (giftAndPaidDb 10) = .ok (x1, db₁) ∧
      (consumeWalletLotsForUsageTx 4 (walletUsage 4)).eval db₁ = .ok (x2, db₂) ∧
      SpentInOrder 1 (giftAndPaidDb 10) db₁ ∧ SpentInOrder 1 db₁ db₂ := by
  obtain ⟨x1, db₁, x2, db₂, _, _, h1, h2, _, _, _, _, h3, h4, _⟩ :=
    usage_settled_in_parts 3 4 3 (walletUsage 3) (walletUsage 4) (walletUsage 7) (giftAndPaidDb 10)
      rfl rfl (by decide) (by decide) rfl (by decide +kernel)
  exact ⟨x1, db₁, x2, db₂, h1, h2, h3, h4⟩

/-! ## Usage of a legacy balance -/

/-- The settlement succeeds, and its rows make up the usage. -/
def UsageRecorded (now : Int) (input : ProfitUsageInput) (faults : List Bool) (db : Database) :
    Prop :=
  ∃ x db', recordUsageSettlementWithSummary now input faults db = (.ok (some x), db') ∧
    db'.usageSettlements.sum quotaUsed =
      db.usageSettlements.sum quotaUsed + input.quotaUsed

theorem sum_insert_settlements (ss : List UsageSettlement) (t : Table UsageSettlement) :
    (ss.foldl Table.insert t).sum quotaUsed =
      t.sum quotaUsed + (ss.map quotaUsed).sum := by
  induction ss generalizing t with
  | nil => exact (add_zero _).symm
  | cons s ss ih =>
    rw [foldl_cons, ih, Table.sum_insert, map_cons, sum_cons, add_assoc]
    rfl

section

variable (now : Int) (hf : true ∉ faults) (hu : input.userId ≠ 0) (hn : 0 < input.quotaUsed)
  (hw : (db.wallet input.userId).Charged)

include hf hu hn hw

theorem recordUsageSettlement_new
    (hnew : settlementExists db input.requestId input.sourceType = false) :
    ∃ lots, { db with walletLots := lots }.coveredQuota input.userId =
        max (db.coveredQuota input.userId) (db.userQuota input.userId) ∧
      recordUsageSettlementWithSummary now input faults db =
        match (match input.sourceType with
          | .subscription => consumeSubscriptionLotForUsageTx now input
          | _ => consumeWalletLotsForUsageTx now input).eval { db with walletLots := lots } with
        | .ok (x, db') => (.ok (some x), db')
        | .error e => (.error e, db) := by
  obtain ⟨user, hlive⟩ := Option.isSome_iff_exists.mp hw.live
  have hquota : db.userQuota input.userId = user.quota := by
    rw [Database.userQuota, hlive]
    rfl
  obtain ⟨lots, hback, h⟩ := eval_ensureWalletLotsCoverCurrentQuotaTx now hu hlive hw.exempt
  refine ⟨lots, by rw [h, hquota], ?_⟩
  have heval : (recordUsageSettlementTx now input).eval db =
      (match input.sourceType with
        | .subscription => consumeSubscriptionLotForUsageTx now input
        | _ => consumeWalletLotsForUsageTx now input).eval { db with walletLots := lots } := by
    have h : db.exempt input.userId = false := hw.exempt
    rw [recordUsageSettlementTx, isProfitExemptUserTx, if_neg hu, Tx.eval_queryOr_bind, h]
    simp only [Bool.false_eq_true, if_false, Tx.eval_query_bind, hnew]
    exact Tx.eval_bind_ok hback
  rw [recordUsageSettlementWithSummary, if_neg (by omega), Tx.transaction_eq_eval _ db hf]
  have hmap : (some <$> recordUsageSettlementTx now input).eval db =
      (recordUsageSettlementTx now input >>= fun x => pure (some x)).eval db := rfl
  rw [hmap, Tx.eval_bind, heval]
  generalize Tx.eval _ { db with walletLots := lots } = r
  cases r with
  | error e | ok r => rfl

theorem usageRecorded_iff (h : input.sourceType = .wallet)
    (hnew : settlementExists db input.requestId .wallet = false) :
    UsageRecorded now input faults db ↔
      input.quotaUsed ≤ max (db.coveredQuota input.userId) (db.userQuota input.userId) := by
  obtain ⟨lots, hcover, hrecord⟩ := recordUsageSettlement_new now hf hu hn hw (h ▸ hnew)
  rw [h] at hrecord
  obtain ⟨hok, herr⟩ := eval_consumeWalletLotsForUsageTx now hn.le { db with walletLots := lots }
  rw [hcover] at hok herr
  rw [UsageRecorded, hrecord]
  constructor
  · rintro ⟨x, db', h, -⟩
    by_contra hlt
    obtain ⟨e, he⟩ := herr (by omega)
    rw [he] at h
    cases h
  · intro hle
    obtain ⟨x, he, -⟩ := hok hle
    rw [he]
    have hsum := draws_useQuota_sum true (spendableLots { db with walletLots := lots } input.userId)
      input.quotaUsed
    rw [(draws_eq_drain _ _).2, rest_eq hn.le, content_spendableLots, hcover] at hsum
    refine ⟨x, _, rfl, ?_⟩
    rw [Database.used, sum_insert_settlements, (map_walletSettlements now input _).2]
    dsimp only
    omega

end

/-- **A wallet usage that was deducted from the balance before it is settled is recorded exactly
when the lots cover it, or the balance covered it twice.** -/
theorem charged_usage_recorded_iff (now : Int) (input : ProfitUsageInput) (faults : List Bool)
    (db : Database) (hf : true ∉ faults) (hu : input.userId ≠ 0) (hn : 0 < input.quotaUsed)
    (hw : (db.wallet input.userId).Charged) (hsource : input.sourceType = .wallet)
    (hnew : settlementExists db input.requestId .wallet = false) :
    UsageRecorded now input faults (db.addUserQuota input.userId (-input.quotaUsed)) ↔
      input.quotaUsed ≤ db.coveredQuota input.userId ∨
        2 * input.quotaUsed ≤ db.userQuota input.userId := by
  have h := wallet_addUserQuota (-input.quotaUsed) hw.live
  have h1 : ((db.addUserQuota input.userId (-input.quotaUsed)).wallet input.userId).Charged := by
    rw [h]
    exact ⟨hw.live, hw.exempt⟩
  have hquota : (db.addUserQuota input.userId (-input.quotaUsed)).userQuota input.userId =
      db.userQuota input.userId + -input.quotaUsed := congrArg Wallet.quota h
  have h : (db.addUserQuota input.userId (-input.quotaUsed)).coveredQuota input.userId =
      db.coveredQuota input.userId := rfl
  rw [usageRecorded_iff now hf hu hn h1 hsource hnew, hquota, h]
  omega

/-- Of a balance of 20 with lots of 10, a usage of 10 is recorded. -/
theorem charged_usage_recorded_ten :
    (giftAndPaidDb 20).coveredQuota 1 = 10 ∧
      UsageRecorded 3 (walletUsage 10) [] ((giftAndPaidDb 20).addUserQuota 1 (-10)) :=
  ⟨by decide +kernel,
    (charged_usage_recorded_iff 3 (walletUsage 10) [] (giftAndPaidDb 20) (by decide) (by decide)
      (by decide) ⟨by decide +kernel, by decide +kernel⟩ rfl (by decide +kernel)).mpr
      (.inl (by decide +kernel))⟩

/-- The last 12 of a balance of 12, of which lots cover 10, are used: the backfill finds a balance
of 0 and adds nothing, and the usage is not recorded. -/
theorem charged_usage_lost :
    (giftAndPaidDb 12).coveredQuota 1 ≤ (giftAndPaidDb 12).userQuota 1 ∧
      12 ≤ (giftAndPaidDb 12).userQuota 1 ∧
      (recordUsageSettlementWithSummary 3 (walletUsage 12) []
        ((giftAndPaidDb 12).addUserQuota 1 (-12))).1 =
        .error (.msg "wallet lots do not fully cover usage settlement, remaining=2") := by
  refine ⟨by decide +kernel, by decide +kernel, by decide +kernel⟩

/-! ## Usage of a subscription -/

def Database.settlementsOf (db : Database) (requestId : String) : List UsageSettlement :=
  db.usageSettlements.filter (·.requestId = requestId)

/-- **The books of a subscription usage are complete** exactly when what is left of the paid quota
covers it: the rows of the request then carry its whole cost and all its quota. -/
theorem subscription_usage_recorded_iff (now : Int) (input : ProfitUsageInput)
    (faults : List Bool) (db : Database) (lot : SubscriptionLot) (hf : true ∉ faults)
    (hu : input.userId ≠ 0) (hn : 0 < input.quotaUsed) (hw : (db.wallet input.userId).Charged)
    (hsource : input.sourceType = .subscription) (hsub : input.subscriptionId ≠ 0)
    (hlot : db.subscriptionLots.first? (·.userSubscriptionId = input.subscriptionId) = some lot)
    (hnew : ∀ s ∈ db.usageSettlements.rows,
      s.requestId ≠ input.requestId ∧ s.requestId ≠ trimSpace input.requestId) :
    (let rows :=
      (recordUsageSettlementWithSummary now input faults db).2.settlementsOf input.requestId
     (rows.map UsageSettlement.upstreamCostUSD).sum = input.upstreamCostUSD ∧
      (rows.map UsageSettlement.upstreamCostCNY).sum = input.upstreamCostCNY ∧
      (rows.map quotaUsed).sum = input.quotaUsed) ↔
      input.quotaUsed ≤ lot.remainingQuota := by
  have h : settlementExists db input.requestId input.sourceType = false := by
    rw [settlementExists, Option.isSome_eq_false_iff, Option.isNone_iff_eq_none,
      Table.first?_eq_none]
    intro s hs
    simp [(hnew s hs).2]
  have h1 : db.usageSettlements.filter (·.requestId = input.requestId) = [] :=
    Table.filter_eq_nil.2 fun s hs => by simp [(hnew s hs).1]
  obtain ⟨lots, -, hrecord⟩ := recordUsageSettlement_new now hf hu hn hw h
  rw [hsource] at hrecord
  have h : { db with walletLots := lots }.subscriptionLots.first?
      (·.userSubscriptionId = input.subscriptionId) = some lot := hlot
  have hrows : { db with walletLots := lots }.usageSettlements.filter
      (·.requestId = input.requestId) = [] := h1
  generalize { db with walletLots := lots } = db1 at hrecord h hrows
  dsimp only at hrecord
  rw [consumeSubscriptionLotForUsageTx, if_neg hsub, Tx.eval_first_bind
    (fun d : Database => d.subscriptionLots.first? (·.userSubscriptionId = input.subscriptionId))
    h] at hrecord
  by_cases hleft : lot.remainingQuota ≤ 0
  · rw [if_pos hleft] at hrecord
    rw [hrecord]
    simp only [Tx.eval_pure, Database.settlementsOf, hrows, map_nil, sum_nil]
    omega
  · rw [if_neg hleft] at hrecord
    simp only [saveSubscriptionLot, createUsageSettlement, Tx.eval_exec_bind, Tx.eval_pure]
      at hrecord
    rw [hrecord]
    simp only [Database.settlementsOf, Table.filter_insert, hrows]
    simp only [Table.stored, Row.withKey, usageSettlement, decide_true, if_true, nil_append,
      map_cons, map_nil, sum_cons, sum_nil, add_zero, true_and]
    omega

def subscriptionUsage (quotaUsed : Int) : ProfitUsageInput :=
  { walletUsage quotaUsed with sourceType := .subscription, subscriptionId := 1 }

def subscribedDb (left : Int) : Database :=
  { giftAndPaidDb 10 with
    subscriptionLots := Table.empty.insert
      { id := 0, userId := 1, userSubscriptionId := 1, planId := 1, sourceType := .order
        paidQuota := 10, remainingQuota := left, grossCNYBasis := 10, grossCNYRemaining := left
        paymentFeeCNY := 0, cashNetCNY := 10, status := .active, startTime := 0, endTime := 100
        createdAt := 0 } }

/-- The last 4 of the paid quota are used at once. -/
theorem subscription_usage_recorded_four :
    (((recordUsageSettlementWithSummary 3 (subscriptionUsage 4) [] (subscribedDb 4)).2.settlementsOf
      "r1").map UsageSettlement.upstreamCostCNY).sum = 7 :=
  ((subscription_usage_recorded_iff 3 (subscriptionUsage 4) [] (subscribedDb 4) _ (by decide)
    (by decide) (by decide) ⟨by decide +kernel, by decide +kernel⟩ rfl (by decide) rfl
    (by decide +kernel)).2 (by decide)).2.1

/-- A usage of 4 with 3 left is booked as a usage of 3; with nothing left, its cost is lost. -/
theorem subscription_usage_lost :
    (((recordUsageSettlementWithSummary 3 (subscriptionUsage 4) [] (subscribedDb 3)).2.settlementsOf
      "r1").map UsageSettlement.quotaUsed).sum = 3 ∧
    (recordUsageSettlementWithSummary 3 (subscriptionUsage 4) [] (subscribedDb 0)).2.settlementsOf
      "r1" = [] := by
  decide +kernel

/-! ## Tokens split over lots -/

theorem splitLoop_concat (total allocated : Int) (part : Int → Int) (init : List Int) (last : Int) :
    splitLoop total part allocated (init ++ [last]) =
      init.map part ++ [total - allocated - (init.map part).sum] := by
  induction init generalizing allocated with
  | nil => simp [splitLoop]
  | cons s init ih =>
    have h : splitLoop total part allocated (s :: (init ++ [last])) =
        part s :: splitLoop total part (allocated + part s) (init ++ [last]) := by
      cases init <;> rfl
    rw [cons_append, h, ih, map_cons, sum_cons, cons_append, sub_sub, sub_sub, add_assoc]

theorem splitInt64ByShares_concat {total : Int} {init : List Int} {last : Int} (ht : 0 ≤ total)
    (hs : ∀ s ∈ init ++ [last], 0 ≤ s) (hp : 0 < (init ++ [last]).sum) :
    let floor := fun s => total * s / (init ++ [last]).sum
    splitInt64ByShares total (init ++ [last]) =
      init.map floor ++ [total - (init.map floor).sum] := by
  intro floor
  unfold splitInt64ByShares
  split
  · -- the source returns early for a total of zero, where every floor is zero
    obtain rfl : total = 0 := by omega
    simp [floor]
  · have h : init.map (fun s => (total * s).tdiv (init ++ [last]).sum) = init.map floor :=
      map_congr_left fun s hm =>
        Int.tdiv_eq_ediv_of_nonneg (mul_nonneg ht (hs s (mem_append_left _ hm)))
    rw [splitLoop_concat, h, sub_zero]

/-- What the floors lose is less than one for each share. -/
theorem sum_floors {sum : Int} (hp : 0 < sum) (total : Int) (shares : List Int) :
    sum * (shares.map fun s => total * s / sum).sum ≤ total * shares.sum ∧
      total * shares.sum ≤
        sum * (shares.map fun s => total * s / sum).sum + (sum - 1) * shares.length := by
  induction shares with
  | nil => simp
  | cons s shares ih =>
    have hdiv := Int.emod_add_mul_ediv (total * s) sum
    have hnonneg := Int.emod_nonneg (total * s) hp.ne'
    have hlt := Int.emod_lt_of_pos (total * s) hp
    simp only [map_cons, sum_cons, length_cons, mul_add]
    push_cast
    constructor <;> linarith

/-- **A split over shares is exact**: each part but the last is its floor, and the last makes up for
what the floors lose. -/
theorem shares_split_exactly (total : Int) (shares : List Int) (ht : 0 ≤ total)
    (hs : ∀ s ∈ shares, 0 ≤ s) (hp : 0 < shares.sum) :
    let parts := splitInt64ByShares total shares
    let floor := fun s => total * s / shares.sum
    parts.length = shares.length ∧ (∀ p ∈ parts, 0 ≤ p) ∧ parts.sum = total ∧
      parts.dropLast = (shares.map floor).dropLast ∧
      ∀ p ∈ parts.getLast?, ∀ s ∈ shares.getLast?, floor s ≤ p ∧ p < floor s + shares.length := by
  rcases eq_nil_or_concat' shares with rfl | ⟨init, last, rfl⟩
  · exact absurd hp (lt_irrefl 0)
  intro parts floor
  have hparts : parts = init.map floor ++ [total - (init.map floor).sum] :=
    splitInt64ByShares_concat ht hs hp
  obtain ⟨h, h1⟩ := sum_floors hp total (init ++ [last])
  have h1 : 0 ≤ floor last :=
    Int.ediv_nonneg (mul_nonneg ht (hs last (by simp))) hp.le
  have hsum : ((init ++ [last]).map floor).sum = (init.map floor).sum + floor last := by simp
  have hle : (init.map floor).sum + floor last ≤ total := by
    refine le_of_mul_le_mul_left ?_ hp
    rw [← hsum, mul_comm _ total]
    exact h
  have hlt : total < (init.map floor).sum + floor last + (init ++ [last]).length := by
    refine lt_of_mul_lt_mul_left ?_ hp.le
    have hone : (0 : Int) < (init ++ [last]).length := by simp
    rw [← hsum]
    linarith
  rw [hparts]
  refine ⟨by simp, ?_, by simp, by simp, ?_⟩
  · simp only [forall_mem_append, forall_mem_map, forall_mem_singleton]
    exact ⟨fun s hm => Int.ediv_nonneg (mul_nonneg ht (hs s (mem_append_left _ hm))) hp.le,
      by omega⟩
  · simp only [List.getLast?_concat, Option.mem_def, Option.some.injEq, forall_eq']
    omega

theorem shares_split_thirds : (splitInt64ByShares 10 [1, 1, 1]).sum = 10 :=
  (shares_split_exactly 10 [1, 1, 1] (by decide) (by decide) (by decide)).2.2.1

end Xingkong
