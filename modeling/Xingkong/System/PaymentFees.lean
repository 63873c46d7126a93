import Xingkong.Spec.ProfitReport
import Xingkong.System.SubscriptionOrders
import Xingkong.System.TopUpOrders

/-!
# Payment fees in the reported cash flow

A completed payment leaves a lot, whose net cash is the money less the fee, and a ledger row over
the fee. The report adds up the net cash of the lots and all ledger rows, so a fee is deducted
in both. Runs consist of the calls that complete top-ups and subscription orders, in any order
and with any failures, next to any settlements of usage.
-/

namespace Xingkong

open Rdb List Table Database

/-! ## Runs -/

structure Payment where
  userId : Nat
  money : ℚ
  fee : ℚ

inductive PaymentCall
  | topUp (call : TopUpCall)
  /-- The credit of the Epay webhook, for the order as the webhook holds it. -/
  | epayCredit (topUp : TopUp)
  | subscriptionOrder (tradeNo : String) (call : OrderCall)
  | recordUsageSettlement (input : ProfitUsageInput)
  /-- Any settlement row at all. -/
  | createUsageSettlement (row : UsageSettlement)

structure PaymentStep where
  call : PaymentCall
  now : Int
  faults : List Bool

structure PaymentRun where
  db : Database
  paid : List Payment

namespace PaymentStep

def nextDb (cfg : Config) (db : Database) (s : PaymentStep) : Database :=
  match s.call with
  | .topUp call => TopUpStep.next cfg db ⟨call, s.now, s.faults⟩
  | .epayCredit topUp => (Tx.transaction (epayCreditTx cfg s.now topUp) s.faults db).2
  | .subscriptionOrder tradeNo call => OrderStep.next cfg tradeNo db ⟨call, s.now, s.faults⟩
  | .recordUsageSettlement input => (recordUsageSettlementWithSummary s.now input s.faults db).2
  | .createUsageSettlement row => { db with usageSettlements := db.usageSettlements.insert row }

/-- The payment a call completes: its pending order is a successful one afterwards, or the
webhook's credit goes through. -/
def payment (cfg : Config) (db : Database) (s : PaymentStep) : Option Payment :=
  match s.call with
  | .topUp call =>
    (db.topUps.first? (·.tradeNo = call.tradeNo)).bind fun o =>
      if o.status = .pending ∧ ((s.nextDb cfg db).topUps.find? o.id).any (·.status = .success)
      then some ⟨o.userId, o.money, o.paymentFeeCNY⟩ else none
  | .epayCredit topUp =>
    match (Tx.transaction (epayCreditTx cfg s.now topUp) s.faults db).1 with
    | .ok _ => some ⟨topUp.userId, topUp.money, topUp.paymentFeeCNY⟩
    | .error _ => none
  | .subscriptionOrder tradeNo _ =>
    (db.subscriptionOrders.first? (·.tradeNo = tradeNo)).bind fun o =>
      if o.status = .pending ∧
        ((s.nextDb cfg db).subscriptionOrders.find? o.id).any (·.status = .success)
      then some ⟨o.userId, o.money, o.paymentFeeCNY⟩ else none
  | .recordUsageSettlement _ | .createUsageSettlement _ => none

def next (cfg : Config) (r : PaymentRun) (s : PaymentStep) : PaymentRun :=
  ⟨s.nextDb cfg r.db, r.paid ++ (s.payment cfg r.db).toList⟩

/-- A payment of the step is one of the period and of a user who is not exempt, its fee is part of
its money, and its lot and its fee row, if there is a fee, were created. -/
def regular (cfg : Config) (startTs : Int) (db : Database) (s : PaymentStep) : Bool :=
  match s.payment cfg db with
  | none => true
  | some p =>
    startTs ≤ s.now && db.nonAdmin p.userId && 0 ≤ p.fee && p.fee ≤ p.money &&
      (s.nextDb cfg db).walletLots.next + (s.nextDb cfg db).subscriptionLots.next =
        db.walletLots.next + db.subscriptionLots.next + 1 &&
      (p.fee = 0 || (s.nextDb cfg db).financeLedgers.next = db.financeLedgers.next + 1)

end PaymentStep

/-! ## What lots and ledgers report -/

def walletCash (startTs : Int) (users : Nat → Bool) (lots : Table WalletLot) : ℚ :=
  lots.sum fun l => if startTs ≤ l.createdAt && users l.userId then l.cashNetCNY else 0

def subscriptionCash (startTs : Int) (users : Nat → Bool) (lots : Table SubscriptionLot) : ℚ :=
  lots.sum fun l => if startTs ≤ l.createdAt && users l.userId then l.cashNetCNY else 0

def financeTotal (startTs : Int) (ledgers : Table FinanceLedger) : ℚ :=
  ledgers.sum fun l => if startTs ≤ l.createdAt then l.amountCNY else 0

def upstreamCostSince (startTs : Int) (db : Database) : ℚ :=
  ((db.usageSince startTs).map (·.upstreamCostCNY)).sum

theorem sumWalletCashInflowSince_eq (startTs : Int) (db : Database) :
    sumWalletCashInflowSince startTs db = walletCash startTs db.nonAdmin db.walletLots :=
  sum_filter ..

theorem sumSubscriptionCashInflowSince_eq (startTs : Int) (db : Database) :
    sumSubscriptionCashInflowSince startTs db =
      subscriptionCash startTs db.nonAdmin db.subscriptionLots :=
  sum_filter ..

theorem cashFlow_profitOverview (zone : Int) (period : String) (now : Int) (db : Database) :
    (profitOverview zone period now db).summary.cashFlowCNY =
      walletCash (profitPeriodStart zone period now) db.nonAdmin db.walletLots +
        subscriptionCash (profitPeriodStart zone period now) db.nonAdmin db.subscriptionLots +
        financeTotal (profitPeriodStart zone period now) db.financeLedgers -
        upstreamCostSince (profitPeriodStart zone period now) db := by
  have hcash : TrendComponent.cashFlow.ofSummary (profitOverview zone period now db).summary =
      _ := ofSummary_profitSummary ..
  have hbreakage : ∀ rows : List BreakageSettlement,
      (rows.map TrendComponent.cashFlow.ofBreakage).sum = 0 := by
    intro rows
    show (rows.map fun _ => (0 : ℚ)).sum = 0
    simp
  have husage : ∀ rows : List UsageSettlement,
      (rows.map TrendComponent.cashFlow.ofUsage).sum = -(rows.map (·.upstreamCostCNY)).sum := by
    intro rows
    show (rows.map fun row => -row.upstreamCostCNY).sum = _
    induction rows with
    | nil => simp
    | cons row rows ih =>
      rw [map_cons, sum_cons, ih, map_cons, sum_cons]
      ring
  have h : ((db.financeSince (profitPeriodStart zone period now)).map
      TrendComponent.cashFlow.ofFinance).sum =
      financeTotal (profitPeriodStart zone period now) db.financeLedgers := by
    refine (sum_filter ..).trans ?_
    simp only [decide_eq_true_eq]
    rfl
  rw [hbreakage, husage, h, sumWalletCashInflowSince_eq, sumSubscriptionCashInflowSince_eq]
    at hcash
  refine hcash.trans ?_
  show -upstreamCostSince _ db + 0 + _ + walletCash _ _ _ + subscriptionCash _ _ _ = _
  ring

variable {s : PaymentStep} {userId : Nat} {cfg : Config} {p : Payment} {now : Int}

/-! ## What a step can do -/

section Steps

variable {db db' : Database}

theorem Database.nonAdmin_eq (v : Nat) :
    db.nonAdmin v = ((db.liveUser? v).isSome && !db.exempt v) := by
  unfold Database.nonAdmin Database.exempt
  cases db.liveUser? v with
  | none => rfl
  | some u =>
    simp [← decide_not]

theorem Database.nonAdmin_congr (hlive : ∀ v, (db'.liveUser? v).isSome = (db.liveUser? v).isSome)
    (h : ∀ v, db'.exempt v = db.exempt v) : db'.nonAdmin = db.nonAdmin := by
  funext v
  rw [nonAdmin_eq, nonAdmin_eq, hlive, h]

theorem Database.nonAdmin_users (h : db'.users = db.users) : db'.nonAdmin = db.nonAdmin :=
  nonAdmin_congr (fun v => congrArg Option.isSome (Database.liveUser?_congr h v))
    (exempt_congr h)

structure Unbooked (db db' : Database) : Prop where
  nonAdmin : db'.nonAdmin = db.nonAdmin
  walletLots : db'.walletLots = db.walletLots
  subscriptionLots : db'.subscriptionLots = db.subscriptionLots
  financeLedgers : db'.financeLedgers = db.financeLedgers

structure CashKept (db db' : Database) : Prop where
  users : db'.users = db.users
  wallet : ∀ startTs users, walletCash startTs users db'.walletLots =
    walletCash startTs users db.walletLots
  subscription : ∀ startTs users, subscriptionCash startTs users db'.subscriptionLots =
    subscriptionCash startTs users db.subscriptionLots
  financeLedgers : db'.financeLedgers = db.financeLedgers

inductive LotBooked (now : Int) (p : Payment) (db db' : Database) : Prop
  | wallet (lot : WalletLot) (hw : db'.walletLots = db.walletLots.insert lot)
      (hs : db'.subscriptionLots = db.subscriptionLots) (huser : lot.userId = p.userId)
      (hcreated : lot.createdAt = now) (hcash : lot.cashNetCNY = p.money - max p.fee 0)
  | subscription (lot : SubscriptionLot) (hw : db'.walletLots = db.walletLots)
      (hs : db'.subscriptionLots = db.subscriptionLots.insert lot) (huser : lot.userId = p.userId)
      (hcreated : lot.createdAt = now) (hcash : lot.cashNetCNY = p.money - max p.fee 0)
  | none (hw : db'.walletLots = db.walletLots) (hs : db'.subscriptionLots = db.subscriptionLots)

inductive FeeBooked (now : Int) (p : Payment) (db db' : Database) : Prop
  | row (ledger : FinanceLedger) (h : db'.financeLedgers = db.financeLedgers.insert ledger)
      (hcreated : ledger.createdAt = now) (hamount : ledger.amountCNY = -p.fee)
  | none (h : db'.financeLedgers = db.financeLedgers)

structure Booked (now : Int) (p : Payment) (db db' : Database) : Prop where
  nonAdmin : db'.nonAdmin = db.nonAdmin
  lot : LotBooked now p db db'
  fee : FeeBooked now p db db'

variable {o : TopUp} {quota : Int} {exempt : Bool} {u : Unit}

theorem TopUpLotDue.booked (h : TopUpLotDue now o quota .topUp exempt db.walletLots db'.walletLots)
    (hs : db'.subscriptionLots = db.subscriptionLots) :
    LotBooked now ⟨o.userId, o.money, o.paymentFeeCNY⟩ db db' := by
  rcases h with ⟨_, hw⟩ | ⟨_, _, hw⟩
  · exact .none hw hs
  · exact .wallet _ hw hs rfl rfl rfl

theorem FeeDue.booked {relatedType : RelatedType} {relatedId : Nat} {money fee : ℚ}
    (h : FeeDue now relatedType relatedId userId fee exempt db.financeLedgers db'.financeLedgers) :
    FeeBooked now ⟨userId, money, fee⟩ db db' := by
  rcases h with ⟨_, hl⟩ | ⟨_, _, _, hl⟩
  · exact .none hl
  · exact .row _ hl rfl rfl

theorem Completion.booked {lotQuota : Int} (h : Completion now o quota lotQuota db db') :
    Booked now ⟨o.userId, o.money, o.paymentFeeCNY⟩ db db' where
  nonAdmin := nonAdmin_congr h.live h.exempt
  lot := by
    have hs : db'.subscriptionLots = db.subscriptionLots := by
      obtain ⟨users, lots, ledgers, rfl⟩ := h.frame
      rfl
    exact h.lots.booked hs
  fee := h.ledgers.booked

theorem Fulfilment.booked {o : SubscriptionOrder} {sub : UserSubscription}
    (h : Fulfilment cfg now o sub db db') :
    Booked now ⟨o.userId, o.money, o.paymentFeeCNY⟩ db db' where
  nonAdmin := nonAdmin_congr h.live h.exempt
  lot := by
    have hw : db'.walletLots = db.walletLots := by rw [h.frame]
    rcases h.lots with ⟨_, hs⟩ | ⟨_, _, hs⟩
    · exact .none hw hs
    · exact .subscription _ hw hs h.new.userId rfl rfl
  fee := h.ledgers.booked

theorem epayCreditTx_booked (h : Tx.Ok (epayCreditTx cfg now o) db u db') :
    Booked now ⟨o.userId, o.money, o.paymentFeeCNY⟩ db db' := by
  obtain ⟨hs, hlt, h1⟩ := epayCreditTx_lots h
  refine ⟨?_, hlt.booked hs, h1.booked⟩
  have hu := (epayCreditTx_ok h).2
  apply nonAdmin_congr
  · intro v
    rw [Database.liveUser?_congr hu, live_addUserQuota]
  · intro v
    rw [exempt_congr hu, exempt_addUserQuota]

/-! Settlements take quota from lots, and the backfill adds lots without cash. -/

theorem CashKept.of_lots (hu : db'.users = db.users) (hw : db'.walletLots = db.walletLots)
    (hs : db'.subscriptionLots = db.subscriptionLots)
    (hf : db'.financeLedgers = db.financeLedgers) : CashKept db db' :=
  ⟨hu, fun _ _ => by rw [hw], fun _ _ => by rw [hs], hf⟩

theorem CashKept.trans {db'' : Database} (h : CashKept db db') (h' : CashKept db' db'') :
    CashKept db db'' where
  users := h'.users.trans h.users
  wallet startTs users := (h'.wallet startTs users).trans (h.wallet startTs users)
  subscription startTs users := (h'.subscription startTs users).trans (h.subscription startTs users)
  financeLedgers := h'.financeLedgers.trans h.financeLedgers

theorem ensureWalletLotsCoverCurrentQuotaTx_cash
    (h : Tx.Ok (ensureWalletLotsCoverCurrentQuotaTx now userId) db u db') : CashKept db db' := by
  rcases ensureWalletLotsCoverCurrentQuotaTx_ok h with ⟨rfl, _⟩ | ⟨user, _, _, rfl⟩
  · exact .of_lots rfl rfl rfl rfl
  · refine ⟨rfl, ?_, fun _ _ => rfl, rfl⟩
    intro startTs users
    unfold walletCash
    rw [sum_insert]
    show _ + (if _ then (0 : ℚ) else 0) = _
    rw [ite_self, add_zero]

theorem recordUsageSettlementTx_cash {input : ProfitUsageInput} {x : UsageSettlementAuditSummary}
    (hq : 0 < input.quotaUsed) (h : Tx.Ok (recordUsageSettlementTx now input) db x db') :
    CashKept db db' := by
  rcases recordUsageSettlementTx_ok h with
    ⟨_, h⟩ | ⟨_, rfl⟩ | ⟨_, db1, he, ⟨_, hs⟩ | ⟨_, hw⟩⟩
  · rcases recordAdminExpenseUsageSettlementTx_ok h with rfl | ⟨s, _, rfl⟩
    all_goals exact .of_lots rfl rfl rfl rfl
  · exact .of_lots rfl rfl rfl rfl
  · refine (ensureWalletLotsCoverCurrentQuotaTx_cash he).trans ?_
    rcases consumeSubscriptionLotForUsageTx_ok hq hs with
      rfl | ⟨lot, hm, use, revenue, _, _, _, _, _, _, rfl⟩
    · exact .of_lots rfl rfl rfl rfl
    · refine ⟨rfl, fun _ _ => rfl, ?_, rfl⟩
      intro startTs users
      unfold subscriptionCash
      refine sum_save_congr hm ?_ ?_
      · rfl
      · rfl
  · refine (ensureWalletLotsCoverCurrentQuotaTx_cash he).trans ?_
    obtain ⟨_, ds, rfl, rfl⟩ := consumeWalletLotsForUsageTx_ok hw
    refine ⟨rfl, ?_, fun _ _ => rfl, rfl⟩
    intro startTs users
    unfold walletCash
    refine sum_draws_congr (spendableLots_perm db1 input.userId) ?_
    exact fun _ _ => rfl

theorem recordUsageSettlementWithSummary_cash (now : Int) (input : ProfitUsageInput)
    (faults : List Bool) (db : Database) :
    CashKept db (recordUsageSettlementWithSummary now input faults db).2 := by
  unfold recordUsageSettlementWithSummary
  split
  · exact .of_lots rfl rfl rfl rfl
  next h =>
    refine Tx.transaction_invariant (P := CashKept db) (.of_lots rfl rfl rfl rfl) ?_ faults
    intro _ db' hok
    rw [map_eq_pure_bind] at hok
    obtain ⟨_, db1, h1, h2⟩ := hok.bind
    obtain ⟨_, rfl⟩ := h2.pure
    exact recordUsageSettlementTx_cash (by omega) h1

/-- **All a step can do**: leave the lots and ledgers alone, settle usage, or complete a payment
and book it. -/
theorem PaymentStep.nextDb_cases (cfg : Config) (db : Database) (s : PaymentStep) :
    Unbooked db (s.nextDb cfg db) ∨
      (s.payment cfg db = none ∧ CashKept db (s.nextDb cfg db)) ∨
      ∃ p, s.payment cfg db = some p ∧ Booked s.now p db (s.nextDb cfg db) := by
  obtain ⟨call, now, faults⟩ := s
  have h1 : ∀ {d d'}, d = d' → Unbooked db d' → Unbooked db d := fun hd h => hd ▸ h
  cases call with
  | topUp call =>
    rcases TopUpStep.next_outcome cfg db ⟨call, now, faults⟩ with
      hdb | ⟨o, ho, hpending, _, ⟨_, hdb⟩ | ⟨_, hc⟩⟩
    · exact .inl (h1 hdb ⟨rfl, rfl, rfl, rfl⟩)
    · exact .inl (h1 hdb ⟨nonAdmin_users rfl, rfl, rfl, rfl⟩)
    · refine .inr (.inr ⟨⟨o.userId, o.money, o.paymentFeeCNY⟩, ?_, hc.booked⟩)
      obtain ⟨hm, _⟩ := mem_of_first? ho
      have hfind : (nextDb cfg db ⟨.topUp call, now, faults⟩).topUps.find? o.id =
          some (o.succeeded now) := by
        show (TopUpStep.next cfg db ⟨call, now, faults⟩).topUps.find? o.id = _
        rw [hc.topUps]
        exact Table.find?_save_self (Table.find?_key hm) rfl
      show (db.topUps.first? _).bind _ = _
      rw [ho, Option.bind_some, hfind]
      exact if_pos ⟨hpending, rfl⟩
  | epayCredit topUp =>
    rcases Tx.transaction_cases (epayCreditTx cfg now topUp) faults db with
      ⟨u, db', he, hok⟩ | ⟨e, he⟩
    · refine .inr (.inr ⟨⟨topUp.userId, topUp.money, topUp.paymentFeeCNY⟩, ?_, ?_⟩)
      · unfold payment
        dsimp only
        rw [he]
      · show Booked now _ db (Tx.transaction (epayCreditTx cfg now topUp) faults db).2
        rw [he]
        exact epayCreditTx_booked hok
    · left
      show Unbooked db (Tx.transaction (epayCreditTx cfg now topUp) faults db).2
      rw [he]
      exact ⟨rfl, rfl, rfl, rfl⟩
  | subscriptionOrder tradeNo call =>
    rcases OrderStep.next_cases cfg tradeNo db ⟨call, now, faults⟩ with
      hdb | ⟨o, ho, hpending, _, hdb | ⟨sub, hf⟩⟩
    · exact .inl (h1 hdb ⟨rfl, rfl, rfl, rfl⟩)
    · exact .inl (h1 hdb ⟨nonAdmin_users rfl, rfl, rfl, rfl⟩)
    · refine .inr (.inr ⟨⟨o.userId, o.money, o.paymentFeeCNY⟩, ?_, hf.booked⟩)
      obtain ⟨hm, _⟩ := mem_of_first? ho
      obtain ⟨payload, method, hor⟩ := hf.order
      have hfind : (nextDb cfg db
          ⟨.subscriptionOrder tradeNo call, now, faults⟩).subscriptionOrders.find? o.id =
            some (o.completed now payload method) := by
        show (OrderStep.next cfg tradeNo db ⟨call, now, faults⟩).subscriptionOrders.find? o.id = _
        rw [hor]
        exact Table.find?_save_self (Table.find?_key hm) rfl
      show (db.subscriptionOrders.first? _).bind _ = _
      rw [ho, Option.bind_some, hfind]
      exact if_pos ⟨hpending, rfl⟩
  | recordUsageSettlement input =>
    exact .inr (.inl ⟨rfl, recordUsageSettlementWithSummary_cash now input faults db⟩)
  | createUsageSettlement row => exact .inr (.inl ⟨rfl, .of_lots rfl rfl rfl rfl⟩)

end Steps

/-! ## Every run -/

section Runs

variable {startTs : Int} {db db' : Database} {r : PaymentRun}

/-- The cash of the lots is what the payments left after their fees, and the ledgers hold the
fees once more. -/
structure FeesBooked (startTs : Int) (r : PaymentRun) : Prop where
  cash : walletCash startTs r.db.nonAdmin r.db.walletLots +
      subscriptionCash startTs r.db.nonAdmin r.db.subscriptionLots =
    (r.paid.map fun p => p.money - p.fee).sum
  fees : financeTotal startTs r.db.financeLedgers = -(r.paid.map (·.fee)).sum
  nonneg : ∀ p ∈ r.paid, 0 ≤ p.fee

theorem PaymentStep.regular_some (hp : s.payment cfg db = some p)
    (h : s.regular cfg startTs db = true) :
    startTs ≤ s.now ∧ db.nonAdmin p.userId = true ∧ 0 ≤ p.fee ∧
      (s.nextDb cfg db).walletLots.next + (s.nextDb cfg db).subscriptionLots.next =
        db.walletLots.next + db.subscriptionLots.next + 1 ∧
      (p.fee = 0 ∨ (s.nextDb cfg db).financeLedgers.next = db.financeLedgers.next + 1) := by
  unfold regular at h
  rw [hp] at h
  simp only [Bool.and_eq_true, Bool.or_eq_true, decide_eq_true_eq] at h
  obtain ⟨⟨⟨⟨⟨hnow, huser⟩, hfee⟩, _⟩, hlot⟩, hrow⟩ := h
  exact ⟨hnow, huser, hfee, hlot, hrow⟩

theorem netCash_counted {createdAt : Int} {cash : ℚ} (hnow : startTs ≤ now)
    (huser : db.nonAdmin p.userId = true) (hfee : 0 ≤ p.fee) (hu : userId = p.userId)
    (hc : createdAt = now) (hcash : cash = p.money - max p.fee 0) :
    (if startTs ≤ createdAt && db.nonAdmin userId then cash else 0) = p.money - p.fee := by
  rw [hc, hu, huser, hcash, max_eq_left hfee]
  simp [hnow]

theorem LotBooked.cash (h : LotBooked now p db db') (hn : db'.nonAdmin = db.nonAdmin)
    (hnow : startTs ≤ now) (huser : db.nonAdmin p.userId = true) (hfee : 0 ≤ p.fee)
    (hlot : db'.walletLots.next + db'.subscriptionLots.next =
      db.walletLots.next + db.subscriptionLots.next + 1) :
    walletCash startTs db'.nonAdmin db'.walletLots +
        subscriptionCash startTs db'.nonAdmin db'.subscriptionLots =
      walletCash startTs db.nonAdmin db.walletLots +
        subscriptionCash startTs db.nonAdmin db.subscriptionLots + (p.money - p.fee) := by
  rw [hn]
  cases h with
  | wallet lot hw hs hu hc hcash =>
    have hnew : walletCash startTs db.nonAdmin (db.walletLots.insert lot) =
        walletCash startTs db.nonAdmin db.walletLots + (p.money - p.fee) :=
      (sum_insert ..).trans
        (congrArg (_ + ·) (netCash_counted hnow huser hfee hu hc hcash))
    rw [hw, hs, hnew]
    ring
  | subscription lot hw hs hu hc hcash =>
    have hnew : subscriptionCash startTs db.nonAdmin (db.subscriptionLots.insert lot) =
        subscriptionCash startTs db.nonAdmin db.subscriptionLots + (p.money - p.fee) :=
      (sum_insert ..).trans
        (congrArg (_ + ·) (netCash_counted hnow huser hfee hu hc hcash))
    rw [hw, hs, hnew]
    ring
  | none hw hs =>
    rw [hw, hs] at hlot
    omega

theorem FeeBooked.total (h : FeeBooked now p db db') (hnow : startTs ≤ now)
    (hrow : p.fee = 0 ∨ db'.financeLedgers.next = db.financeLedgers.next + 1) :
    financeTotal startTs db'.financeLedgers =
      financeTotal startTs db.financeLedgers - p.fee := by
  cases h with
  | row ledger hl hc hamount =>
    have hnew : (if startTs ≤ (db.financeLedgers.stored ledger).createdAt
        then (db.financeLedgers.stored ledger).amountCNY else 0) = -p.fee := by
      show (if startTs ≤ ledger.createdAt then ledger.amountCNY else 0) = _
      rw [hc, if_pos hnow, hamount]
    unfold financeTotal
    rw [hl, sum_insert, hnew]
    ring
  | none hl =>
    rcases hrow with h | hrow
    · rw [hl, h, sub_zero]
    · rw [hl] at hrow
      omega

theorem FeesBooked.kept (h : FeesBooked startTs r)
    (hn : db'.nonAdmin = r.db.nonAdmin)
    (hw : walletCash startTs r.db.nonAdmin db'.walletLots =
      walletCash startTs r.db.nonAdmin r.db.walletLots)
    (hs : subscriptionCash startTs r.db.nonAdmin db'.subscriptionLots =
      subscriptionCash startTs r.db.nonAdmin r.db.subscriptionLots)
    (hf : db'.financeLedgers = r.db.financeLedgers) : FeesBooked startTs ⟨db', r.paid⟩ := by
  refine ⟨?_, ?_, h.nonneg⟩
  · dsimp only
    rw [hn, hw, hs]
    exact h.cash
  · dsimp only
    rw [hf]
    exact h.fees

theorem FeesBooked.next (h : FeesBooked startTs r)
    (hs : s.regular cfg startTs r.db = true) : FeesBooked startTs (s.next cfg r) := by
  unfold PaymentStep.next
  rcases s.nextDb_cases cfg r.db with hsame | ⟨hnone, hkept⟩ | ⟨p, hp, hbooked⟩
  · cases hpay : s.payment cfg r.db with
    | none =>
      rw [Option.toList_none, append_nil]
      exact h.kept hsame.nonAdmin (by rw [hsame.walletLots]) (by rw [hsame.subscriptionLots])
        hsame.financeLedgers
    | some p =>
      -- a payment without a lot is not regular
      obtain ⟨_, _, _, hlot, _⟩ := PaymentStep.regular_some hpay hs
      rw [hsame.walletLots, hsame.subscriptionLots] at hlot
      omega
  · rw [hnone, Option.toList_none, append_nil]
    exact h.kept (nonAdmin_users hkept.users) (hkept.wallet ..) (hkept.subscription ..)
      hkept.financeLedgers
  · obtain ⟨hnow, huser, hfee, hlot, hrow⟩ := PaymentStep.regular_some hp hs
    rw [hp]
    constructor
    · dsimp only
      rw [hbooked.lot.cash hbooked.nonAdmin hnow huser hfee hlot, h.cash]
      simp
    · dsimp only
      rw [hbooked.fee.total hnow hrow, h.fees]
      simp only [Option.toList_some, map_append, map_cons, map_nil, sum_append, sum_singleton]
      ring
    · intro q hq
      rcases mem_append.1 hq with hq | hq
      · exact h.nonneg q hq
      · rw [mem_singleton.1 hq]
        exact hfee

theorem sum_map_eq_zero {α : Type} {l : List α} {f : α → ℚ} (h : ∀ x ∈ l, f x = 0) :
    (l.map f).sum = 0 := by
  apply sum_eq_zero
  intro x hx
  obtain ⟨a, ha, rfl⟩ := mem_map.1 hx
  exact h a ha

structure BeforePeriod (startTs : Int) (db : Database) : Prop where
  walletLots : ∀ l ∈ db.walletLots.rows, l.createdAt < startTs
  subscriptionLots : ∀ l ∈ db.subscriptionLots.rows, l.createdAt < startTs
  financeLedgers : ∀ l ∈ db.financeLedgers.rows, l.createdAt < startTs

theorem BeforePeriod.booked (h : BeforePeriod startTs db) : FeesBooked startTs ⟨db, []⟩ := by
  have h1 : walletCash startTs db.nonAdmin db.walletLots = 0 :=
    sum_map_eq_zero fun l hl => by simp [not_le.2 (h.walletLots l hl)]
  have h2 : subscriptionCash startTs db.nonAdmin db.subscriptionLots = 0 :=
    sum_map_eq_zero fun l hl => by simp [not_le.2 (h.subscriptionLots l hl)]
  have h3 : financeTotal startTs db.financeLedgers = 0 :=
    sum_map_eq_zero fun l hl => if_neg (not_le.2 (h.financeLedgers l hl))
  refine ⟨?_, ?_, ?_⟩
  · show walletCash _ _ _ + subscriptionCash _ _ _ = 0
    rw [h1, h2, add_zero]
  · show financeTotal _ _ = -0
    rw [h3, neg_zero]
  · intro p hp
    cases hp

/-- **The report deducts every fee twice.** After any run of completions and settlements it shows
the money of the payments less their fees and the upstream cost exactly if no payment had a
fee. -/
theorem fees_deducted_once_iff (cfg : Config) (zone : Int) (period : String) (now : Int)
    (db0 : Database) (hdb : BeforePeriod (profitPeriodStart zone period now) db0)
    (steps : List PaymentStep)
    (hsteps : ∀ e ∈ Run.trace (PaymentStep.next cfg) ⟨db0, []⟩ steps,
      e.act.regular cfg (profitPeriodStart zone period now) e.before.db = true) :
    ∃ overview,
      getProfitOverview zone period now []
        (Run.final (PaymentStep.next cfg) ⟨db0, []⟩ steps).db = .ok overview ∧
      (overview.summary.cashFlowCNY =
          ((Run.final (PaymentStep.next cfg) ⟨db0, []⟩ steps).paid.map fun p =>
            p.money - p.fee).sum -
          upstreamCostSince (profitPeriodStart zone period now)
            (Run.final (PaymentStep.next cfg) ⟨db0, []⟩ steps).db ↔
        ∀ p ∈ (Run.final (PaymentStep.next cfg) ⟨db0, []⟩ steps).paid, p.fee = 0) := by
  refine ⟨_, getProfitOverview_nil zone period now _, ?_⟩
  have hfinal := Run.guarded_final hdb.booked hsteps fun _ _ hs hr => hr.next hs
  rw [cashFlow_profitOverview, hfinal.cash, hfinal.fees]
  generalize (Run.final (PaymentStep.next cfg) ⟨db0, []⟩ steps) = r at hfinal ⊢
  have h : (r.paid.map (·.fee)).sum = 0 ↔ ∀ p ∈ r.paid, p.fee = 0 := by
    constructor
    · intro hsum p hp
      refine all_zero_of_le_zero_le_of_sum_eq_zero ?_ hsum (mem_map_of_mem hp)
      intro x hx
      obtain ⟨q, hq, rfl⟩ := mem_map.1 hx
      exact hfinal.nonneg q hq
    · exact sum_map_eq_zero
  rw [← h]
  constructor
  · intro h
    linarith
  · intro h
    rw [h]
    ring

end Runs

/-! ## A top-up and a subscription order of 100 each -/

def pendingPayments (fee : ℚ) : Database :=
  { Database.empty with
    users := Table.empty.insert
      { id := 0, role := 1, quota := 0, group := "default", email := "", stripeCustomer := ""
        deleted := false }
    topUps := Table.empty.insert
      { id := 0, userId := 1, amount := 10, money := 100, paymentFeeCNY := fee, tradeNo := "t"
        paymentMethod := "", paymentProvider := .waffo, createTime := 0, completeTime := 0
        status := .pending }
    plans := Table.empty.insert
      { id := 0, priceAmount := 100, durationUnit := .day, durationValue := 1, customSeconds := 0
        enabled := true, maxPurchasePerUser := 0, upgradeGroup := "", modelLimitsEnabled := false
        modelLimits := "", totalAmount := 0, fiveHourAmount := 0, dailyAmount := 0
        weeklyAmount := 0 }
    subscriptionOrders := Table.empty.insert
      { id := 0, userId := 1, planId := 1, money := 100, paymentFeeCNY := fee, tradeNo := "s"
        paymentMethod := "", paymentProvider := .epay, status := .pending, createTime := 0
        completeTime := 0, providerPayload := "" } }

def costOfTen : UsageSettlement where
  id := 0
  userId := 1
  requestId := "r"
  sourceLotType := .wallet
  sourceLotId := 1
  promptTokens := 0
  completionTokens := 0
  cacheReadTokens := 0
  cacheWriteTokens := 0
  quotaUsed := 1
  realizedRevenueCNY := 0
  upstreamCostUSD := 0
  upstreamCostCNY := 10
  requestGrossProfitCNY := -10
  createdAt := 700

def completeBoth : List PaymentStep :=
  [⟨.topUp (.rechargeWaffo "t"), 500, []⟩,
    ⟨.subscriptionOrder "s" (.complete none "" .unset ""), 600, []⟩,
    ⟨.createUsageSettlement costOfTen, 700, []⟩]

theorem fees_deducted_once_without_fees :
    ∃ overview,
      getProfitOverview 0 "day" 1000 []
        (Run.final (PaymentStep.next .fresh) ⟨pendingPayments 0, []⟩ completeBoth).db =
          .ok overview ∧
      overview.summary.cashFlowCNY = 190 := by
  obtain ⟨overview, h, hiff⟩ := fees_deducted_once_iff .fresh 0 "day" 1000
    (pendingPayments 0) ⟨by decide, by decide, by decide⟩ completeBoth (by decide +kernel)
  refine ⟨overview, h, (hiff.2 (by decide +kernel)).trans ?_⟩
  decide +kernel

/-- With fees of 3 the payments left 194, and with the cost of 10 the cash flow is 184; the report
shows 178. -/
theorem fees_deducted_twice :
    (∀ e ∈ Run.trace (PaymentStep.next .fresh) ⟨pendingPayments 3, []⟩ completeBoth,
      e.act.regular .fresh (profitPeriodStart 0 "day" 1000) e.before.db = true) ∧
    ((Run.final (PaymentStep.next .fresh) ⟨pendingPayments 3, []⟩ completeBoth).paid.map
        fun p => p.money - p.fee).sum -
      upstreamCostSince (profitPeriodStart 0 "day" 1000)
        (Run.final (PaymentStep.next .fresh) ⟨pendingPayments 3, []⟩ completeBoth).db = 184 ∧
    (getProfitOverview 0 "day" 1000 []
        (Run.final (PaymentStep.next .fresh) ⟨pendingPayments 3, []⟩ completeBoth).db).toOption.map
          (·.summary.cashFlowCNY) = some 178 := by
  decide +kernel

end Xingkong
