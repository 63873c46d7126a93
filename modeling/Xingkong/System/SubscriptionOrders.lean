import Xingkong.Lib.Run
import Xingkong.Spec.Subscription

/-!
# Subscription orders under any sequence of calls

A run is any list of completions and expiries of one trade number, each one transaction, at
any times, with any arguments and any statement failures. The order moves through the phases
of `OrderPhase`: it is as the run found it, or it was expired, or it was fulfilled by one call.
What a fulfilled order leaves behind is `Delivered`; an order that is not fulfilled leaves
nothing but its row.
-/

namespace Xingkong

open Rdb Table

inductive OrderCall
  /-- `cached` is what the plan cache holds when the order is completed. -/
  | complete (cached : Option SubscriptionPlan) (providerPayload : String)
      (expectedPaymentProvider : PaymentProvider) (actualPaymentMethod : String)
  | expire (expectedPaymentProvider : PaymentProvider)

/-- The provider an order must have for the call to touch it; `unset` accepts all. -/
def OrderCall.provider : OrderCall → PaymentProvider
  | complete _ _ p _ => p
  | expire p => p

structure OrderStep where
  call : OrderCall
  now : Int
  faults : List Bool

namespace OrderStep

def exec (cfg : Config) (tradeNo : String) (db : Database) (s : OrderStep) :
    Except Err Unit × Database :=
  match s.call with
  | .complete cached payload provider method =>
    completeSubscriptionOrder cfg s.now cached tradeNo payload provider method s.faults db
  | .expire provider => expireSubscriptionOrder s.now tradeNo provider s.faults db

def next (cfg : Config) (tradeNo : String) (db : Database) (s : OrderStep) : Database :=
  (s.exec cfg tradeNo db).2

end OrderStep

def expiredDb (now : Int) (o : SubscriptionOrder) (db : Database) : Database :=
  { db with
    subscriptionOrders := db.subscriptionOrders.save
      { o with status := .expired, completeTime := now } }

/-- What a call that changes the database does to the order it finds. -/
def OrderStep.Effect (cfg : Config) (s : OrderStep) (o : SubscriptionOrder) (db db' : Database) :
    Prop :=
  o.status = .pending ∧ (s.call.provider ≠ .unset → o.paymentProvider = s.call.provider) ∧
    (db' = expiredDb s.now o db ∨ ∃ sub, Fulfilment cfg s.now o sub db db')

variable {cfg : Config} {sub : UserSubscription} {o : SubscriptionOrder} {now : Int} {s : OrderStep}

section Step

variable {tradeNo : String} {db : Database}

theorem OrderStep.next_cases (cfg : Config) (tradeNo : String) (db : Database) (s : OrderStep) :
    s.next cfg tradeNo db = db ∨
      ∃ o, db.subscriptionOrders.first? (·.tradeNo = tradeNo) = some o ∧
        s.Effect cfg o db (s.next cfg tradeNo db) := by
  obtain ⟨call, now, faults⟩ := s
  cases call with
  | complete cached payload provider method =>
    unfold next exec completeSubscriptionOrder
    simp only
    split
    · exact .inl rfl
    · rcases Tx.transaction_cases (completeSubscriptionOrderTx cfg now cached tradeNo payload
        provider method) faults db with ⟨_, db', he, hok⟩ | ⟨_, he⟩
      · obtain ⟨o, ho, hp, ⟨_, hdb⟩ | ⟨hs, hf⟩⟩ := completeSubscriptionOrderTx_ok hok
        · exact .inl (by rw [he]; exact hdb)
        · exact .inr ⟨o, ho, hs, hp, .inr (by rw [he]; exact hf)⟩
      · exact .inl (by rw [he])
  | expire provider =>
    unfold next exec expireSubscriptionOrder
    simp only
    split
    · exact .inl rfl
    · rcases Tx.transaction_cases (expireSubscriptionOrderTx now tradeNo provider) faults db with
        ⟨_, db', he, hok⟩ | ⟨_, he⟩
      · obtain ⟨o, ho, hp, ⟨_, hdb⟩ | ⟨hs, hdb⟩⟩ := expireSubscriptionOrderTx_ok hok
        · exact .inl (by rw [he]; exact hdb)
        · exact .inr ⟨o, ho, hs, hp, .inl (by rw [he]; exact hdb)⟩
      · exact .inl (by rw [he])

theorem OrderStep.exec_error {err : Err} (h : (s.exec cfg tradeNo db).1 = .error err) :
    s.next cfg tradeNo db = db := by
  obtain ⟨call, now, faults⟩ := s
  cases call with
  | complete cached payload provider method =>
    exact Tx.guarded_error h
  | expire provider =>
    exact Tx.guarded_error h

end Step

/-! ## Phases of an order -/

/-- Where a run has brought the order it found as `o` in `db0`. -/
inductive OrderPhase (cfg : Config) (o : SubscriptionOrder) (db0 : Database) : Database → Prop
  | untouched : OrderPhase cfg o db0 db0
  | expired (now : Int) : o.status = .pending → OrderPhase cfg o db0 (expiredDb now o db0)
  | fulfilled {now : Int} {sub : UserSubscription} {db : Database} : o.status = .pending →
      Fulfilment cfg now o sub db0 db → OrderPhase cfg o db0 db

def orderRow (tradeNo : String) (db : Database) : Option SubscriptionOrder :=
  db.subscriptionOrders.first? (·.tradeNo = tradeNo)

namespace OrderPhase

variable {db0 db : Database}

variable (ho : orderRow o.tradeNo db0 = some o)

include ho

theorem row_expired : orderRow o.tradeNo (expiredDb now o db0) =
      some { o with status := .expired, completeTime := now } :=
  Table.first?_save ho rfl (by simp)

theorem row_fulfilled (h : Fulfilment cfg now o sub db0 db) :
    ∃ payload method, orderRow o.tradeNo db = some (o.completed now payload method) := by
  obtain ⟨payload, method, hdb⟩ := h.order
  refine ⟨payload, method, ?_⟩
  unfold orderRow
  rw [hdb]
  exact Table.first?_save ho rfl (by simp [SubscriptionOrder.completed])

theorem next (h : OrderPhase cfg o db0 db) : OrderPhase cfg o db0 (s.next cfg o.tradeNo db) ∧
      (s.next cfg o.tradeNo db = db ∨ db = db0 ∧ s.Effect cfg o db0 (s.next cfg o.tradeNo db)) := by
  rcases OrderStep.next_cases cfg o.tradeNo db s with hn | ⟨o', ho', he⟩
  · rw [hn]
    exact ⟨h, .inl rfl⟩
  · have ho'' : orderRow o.tradeNo db = some o' := ho'
    cases h with
    | untouched =>
      rw [ho] at ho''
      cases ho''
      refine ⟨?_, .inr ⟨rfl, he⟩⟩
      obtain ⟨hs, _, hdb | ⟨sub, hf⟩⟩ := he
      · rw [hdb]
        exact .expired _ hs
      · exact .fulfilled hs hf
    | expired now hs =>
      -- the row a call finds is no longer pending
      rw [row_expired ho] at ho''
      cases ho''
      cases he.1
    | fulfilled hs hf =>
      obtain ⟨payload, method, hrow⟩ := row_fulfilled ho hf
      rw [hrow] at ho''
      cases ho''
      cases he.1

end OrderPhase

/-! ## What an order leaves behind -/

def mirrorsOf (o : SubscriptionOrder) (db : Database) : List TopUp :=
  db.topUps.filter (·.tradeNo = o.tradeNo)

def orderFees (o : SubscriptionOrder) (db : Database) : List FinanceLedger :=
  db.financeLedgers.filter fun l =>
    l.type = .paymentFee && l.relatedType = .subscriptionOrder && l.relatedId = o.id

def newSubscriptions (db0 db : Database) : List UserSubscription :=
  db.userSubscriptions.filter (db0.userSubscriptions.next ≤ ·.id)

def newSubscriptionLots (db0 db : Database) : List SubscriptionLot :=
  db.subscriptionLots.filter (db0.userSubscriptions.next ≤ ·.userSubscriptionId)

/-- Nothing is recorded for the order yet, and subscription lots belong to subscriptions
that were created. -/
structure OrderFresh (o : SubscriptionOrder) (db : Database) : Prop where
  mirrors : mirrorsOf o db = []
  fees : orderFees o db = []
  lots : ∀ l ∈ db.subscriptionLots.rows, l.userSubscriptionId < db.userSubscriptions.next

/-- One subscription and one mirror row exist for the order, and one lot and one fee row
where they are due. -/
structure Delivered (cfg : Config) (o : SubscriptionOrder) (db0 db : Database) : Prop where
  subscription : ∃ s, newSubscriptions db0 db = [s] ∧
    NewSubscription o.userId .order (subscriptionQuotaFromUSD cfg o.money) s
  mirror : ∃ m, mirrorsOf o db = [m] ∧ m.status = .success ∧ m.userId = o.userId
  lots_le : (newSubscriptionLots db0 db).length ≤ 1
  lot : 0 < subscriptionQuotaFromUSD cfg o.money → db0.exempt o.userId = false →
    (newSubscriptionLots db0 db).length = 1
  noLot : subscriptionQuotaFromUSD cfg o.money ≤ 0 → newSubscriptionLots db0 db = []
  fees_le : (orderFees o db).length ≤ 1
  fee : 0 < o.paymentFeeCNY → db0.exempt o.userId = false → (orderFees o db).length = 1
  noFee : o.paymentFeeCNY ≤ 0 → orderFees o db = []

/-- Nothing exists for the order: the database is the old one up to the order's row. -/
structure Undelivered (o : SubscriptionOrder) (db0 db : Database) : Prop where
  frame : db = { db0 with subscriptionOrders := db.subscriptionOrders }
  subscriptions : newSubscriptions db0 db = []
  mirrors : mirrorsOf o db = []
  lots : newSubscriptionLots db0 db = []
  fees : orderFees o db = []

section Deliver

variable {db0 db : Database}

theorem newSubscriptions_self (db : Database) : newSubscriptions db db = [] :=
  filter_eq_nil.2 fun r hr => by
    have := db.userSubscriptions.keys_lt r hr
    simp only [Row.key] at this
    simpa using this

theorem OrderFresh.newLots (h : OrderFresh o db0) : newSubscriptionLots db0 db0 = [] :=
  filter_eq_nil.2 fun l hl => by simpa using h.lots l hl

theorem OrderFresh.undelivered (h : OrderFresh o db0)
    (hdb : db = { db0 with subscriptionOrders := db.subscriptionOrders }) :
    Undelivered o db0 db := by
  refine ⟨hdb, ?_, ?_, ?_, ?_⟩ <;> rw [hdb]
  · exact newSubscriptions_self db0
  · exact h.mirrors
  · exact h.newLots
  · exact h.fees

theorem Fulfilment.subscription (h : Fulfilment cfg now o sub db0 db) :
    newSubscriptions db0 db = [db0.userSubscriptions.stored sub] := by
  have hold := newSubscriptions_self db0
  unfold newSubscriptions at hold ⊢
  have hid : (db0.userSubscriptions.stored sub).id = db0.userSubscriptions.next :=
    key_stored db0.userSubscriptions sub
  rw [h.subscriptions, filter_insert, hold, hid]
  simp

section

variable (hfresh : OrderFresh o db0)

include hfresh

theorem Fulfilment.mirrors (h : Fulfilment cfg now o sub db0 db) :
    mirrorsOf o db = [db0.topUps.stored (mirrorTopUp now o)] := by
  have hold := hfresh.mirrors
  unfold mirrorsOf at hold ⊢
  rcases h.mirror with ⟨_, hm⟩ | ⟨old, _, hf, _⟩
  · have h : (db0.topUps.stored (mirrorTopUp now o)).tradeNo = o.tradeNo := rfl
    rw [hm, filter_insert, hold, h]
    simp
  · obtain ⟨hmem, hp⟩ := mem_of_first? hf
    rw [filter_eq_nil.1 hold old hmem] at hp
    cases hp

theorem Fulfilment.newLots (h : Fulfilment cfg now o sub db0 db) :
    ((subscriptionQuotaFromUSD cfg o.money ≤ 0 ∨ db0.exempt o.userId = true) ∧
        newSubscriptionLots db0 db = []) ∨
      (0 < subscriptionQuotaFromUSD cfg o.money ∧ (newSubscriptionLots db0 db).length = 1) := by
  have hold := hfresh.newLots
  unfold newSubscriptionLots at hold ⊢
  have hpaid := h.new.paidAmount
  have hid : (db0.userSubscriptions.stored sub).id = db0.userSubscriptions.next :=
    key_stored db0.userSubscriptions sub
  rcases h.lots with ⟨hwhy, hl⟩ | ⟨hpos, _, hl⟩
  · rw [hl, hold]
    rcases hwhy with hq | hx | ⟨l, hl', hlid⟩
    · exact .inl ⟨.inl (hpaid ▸ hq), rfl⟩
    · exact .inl ⟨.inr hx, rfl⟩
    · have := hfresh.lots l hl'
      omega
  · have hnew : (db0.subscriptionLots.stored
        (orderLot now o (db0.userSubscriptions.stored sub))).userSubscriptionId =
          db0.userSubscriptions.next := hid
    rw [hl, filter_insert, hold, hnew]
    exact .inr ⟨hpaid ▸ hpos, by simp⟩

theorem Fulfilment.fees (hid : o.id ≠ 0) (h : Fulfilment cfg now o sub db0 db) :
    ((o.paymentFeeCNY ≤ 0 ∨ db0.exempt o.userId = true) ∧ orderFees o db = []) ∨
      (0 < o.paymentFeeCNY ∧ (orderFees o db).length = 1) := by
  have hold := hfresh.fees
  unfold orderFees at hold ⊢
  rcases h.ledgers with ⟨hwhy, hl⟩ | ⟨_, hpos, _, hl⟩
  · rw [hl, hold]
    rcases hwhy with h0 | hq | hx | ⟨l, hl', hrel⟩
    · exact absurd h0 hid
    · exact .inl ⟨.inl hq, rfl⟩
    · exact .inl ⟨.inr hx, rfl⟩
    · have := filter_eq_nil.1 hold l hl'
      simp [hrel] at this
  · rw [hl, filter_insert, hold]
    refine .inr ⟨hpos, ?_⟩
    simp [Table.stored, Row.withKey]

theorem Fulfilment.delivered (hid : o.id ≠ 0)
    (h : Fulfilment cfg now o sub db0 db) : Delivered cfg o db0 db := by
  have hlt := h.newLots hfresh
  have hfees := h.fees hfresh hid
  refine ⟨⟨_, h.subscription, h.new.userId, h.new.source, h.new.paidAmount, h.new.amountUsed,
    h.new.active⟩, ⟨_, h.mirrors hfresh, rfl, rfl⟩, ?_, fun hq hx => ?_, fun hq => ?_, ?_,
    fun hq hx => ?_, fun hq => ?_⟩
  · rcases hlt with ⟨_, hl⟩ | ⟨_, hl⟩
    · rw [hl]; exact Nat.zero_le 1
    · exact hl.le
  · rcases hlt with ⟨hq' | hx', _⟩ | ⟨_, hl⟩
    · omega
    · rw [hx] at hx'; cases hx'
    · exact hl
  · rcases hlt with ⟨_, hl⟩ | ⟨hq', _⟩
    · exact hl
    · omega
  · rcases hfees with ⟨_, hl⟩ | ⟨_, hl⟩
    · rw [hl]; exact Nat.zero_le 1
    · exact hl.le
  · rcases hfees with ⟨hq' | hx', _⟩ | ⟨_, hl⟩
    · exact absurd hq (not_lt.2 hq')
    · rw [hx] at hx'; cases hx'
    · exact hl
  · rcases hfees with ⟨_, hl⟩ | ⟨hq', _⟩
    · exact hl
    · exact absurd hq' (not_lt.2 hq)

end

theorem OrderPhase.status (h : OrderPhase cfg o db0 db) (ho : orderRow o.tradeNo db0 = some o)
    (hid : o.id ≠ 0) :
    ∃ o', orderRow o.tradeNo db = some o' ∧ o'.id = o.id ∧
      (o.status = .pending → OrderFresh o db0 →
        if o'.status = .success then Delivered cfg o db0 db else Undelivered o db0 db) := by
  cases h with
  | untouched =>
    refine ⟨o, ho, rfl, fun hs hfresh => ?_⟩
    rw [if_neg (by rw [hs]; decide)]
    exact hfresh.undelivered rfl
  | expired now hs =>
    refine ⟨_, OrderPhase.row_expired ho, rfl, fun _ hfresh => ?_⟩
    exact hfresh.undelivered rfl
  | fulfilled hs hf =>
    obtain ⟨payload, method, hrow⟩ := OrderPhase.row_fulfilled ho hf
    refine ⟨_, hrow, rfl, fun _ hfresh => ?_⟩
    exact hf.delivered hfresh hid

end Deliver

/-! ## Whole runs -/

abbrev orderTrace (cfg : Config) (tradeNo : String) (db : Database) (steps : List OrderStep) :
    List (Run.Ev Database OrderStep) :=
  Run.trace (OrderStep.next cfg tradeNo) db steps

abbrev orderFinal (cfg : Config) (tradeNo : String) (db : Database) (steps : List OrderStep) :
    Database :=
  Run.final (OrderStep.next cfg tradeNo) db steps

structure FulfilledOnce (cfg : Config) (o : SubscriptionOrder) (db : Database)
    (steps : List OrderStep) : Prop where
  /-- The row stays, and what exists for a pending order is what its status says. -/
  row : ∃ o', orderRow o.tradeNo (orderFinal cfg o.tradeNo db steps) = some o' ∧ o'.id = o.id ∧
    (o.status = .pending → OrderFresh o db →
      if o'.status = .success then Delivered cfg o db (orderFinal cfg o.tradeNo db steps)
      else Undelivered o db (orderFinal cfg o.tradeNo db steps))
  /-- Once the order is not pending, every call is a no-op. -/
  closed : ∀ e ∈ orderTrace cfg o.tradeNo db steps,
    ∀ o', orderRow o.tradeNo e.before = some o' → o'.status ≠ .pending → e.after = e.before
  /-- A call for another provider changes nothing. -/
  mismatch : ∀ e ∈ orderTrace cfg o.tradeNo db steps,
    e.act.call.provider ≠ .unset → o.paymentProvider ≠ e.act.call.provider → e.after = e.before
  /-- A call that returns an error changes nothing. -/
  failed : ∀ e ∈ orderTrace cfg o.tradeNo db steps,
    ∀ err, (e.act.exec cfg o.tradeNo e.before).1 = .error err → e.after = e.before

/-- **A subscription order is fulfilled at most once, and exactly when it succeeds**, over
every run of completions and expiries of its trade number. -/
theorem subscription_order_fulfilled_once (cfg : Config) (db : Database) (o : SubscriptionOrder)
    (steps : List OrderStep) (ho : orderRow o.tradeNo db = some o) :
    FulfilledOnce cfg o db steps := by
  have hstep : ∀ d, ∀ s ∈ steps, OrderPhase cfg o db d →
      OrderPhase cfg o db (s.next cfg o.tradeNo d) := fun d s _ h => (h.next ho).1
  have h : ∀ e ∈ orderTrace cfg o.tradeNo db steps, OrderPhase cfg o db e.before ∧
      e.after = e.act.next cfg o.tradeNo e.before := fun e he => by
    obtain ⟨h1, _, h3⟩ := Run.trace_invariant (P := OrderPhase cfg o db) .untouched hstep he
    exact ⟨h1, h3⟩
  refine ⟨?_, fun e he o' ho' hs => ?_, fun e he hp hne => ?_, fun e he err herr => ?_⟩
  · have hid : o.id ≠ 0 :=
      (db.subscriptionOrders.keys_pos o (mem_of_first? ho).1).ne'
    exact (Run.final_invariant (P := OrderPhase cfg o db) .untouched hstep).status ho hid
  · obtain ⟨hphase, h1⟩ := h e he
    rw [h1]
    rcases (hphase.next ho).2 with hn | ⟨hb, h2, _⟩
    · exact hn
    · rw [hb, ho] at ho'
      cases ho'
      exact absurd h2 hs
  · obtain ⟨hphase, h1⟩ := h e he
    rw [h1]
    rcases (hphase.next ho).2 with hn | ⟨_, _, h1, _⟩
    · exact hn
    · exact absurd (h1 hp) hne
  · rw [(h e he).2]
    exact OrderStep.exec_error herr

def onePlanOrderDb (role : Int) (fee : ℚ) : Database :=
  { Database.empty with
    users := Table.empty.insert
      { id := 0, role, quota := 0, group := "default", email := "", stripeCustomer := ""
        deleted := false }
    plans := Table.empty.insert
      { id := 0, priceAmount := 10, enabled := true, durationUnit := .month
        durationValue := 1, customSeconds := 0, maxPurchasePerUser := 0, upgradeGroup := ""
        totalAmount := 5000000, fiveHourAmount := 0, dailyAmount := 0, weeklyAmount := 0
        modelLimitsEnabled := false, modelLimits := "" }
    subscriptionOrders := Table.empty.insert (planOrder fee) }
where
  planOrder (fee : ℚ) : SubscriptionOrder :=
    { id := 1, userId := 1, planId := 1, money := 10, paymentFeeCNY := fee, tradeNo := "S1"
      paymentMethod := "alipay", paymentProvider := .epay, status := .pending, createTime := 0
      completeTime := 0, providerPayload := "" }

def fulfilSteps : List OrderStep :=
  [⟨.complete none "" .epay "alipay", 1, List.replicate 9 false ++ [true]⟩,
    ⟨.complete none "" .epay "alipay", 2, []⟩, ⟨.complete none "" .epay "alipay", 3, []⟩,
    ⟨.expire .epay, 4, []⟩]

def orderCounts (db : Database) (o : SubscriptionOrder) (steps : List OrderStep) :
    Option TopUpStatus × List Nat :=
  let db' := orderFinal .fresh o.tradeNo db steps
  ((orderRow o.tradeNo db').map (·.status),
    [(newSubscriptions db db').length, (mirrorsOf o db').length,
      (newSubscriptionLots db db').length, (orderFees o db').length])

theorem subscription_order_fulfilled_once_epay :
    FulfilledOnce .fresh (onePlanOrderDb.planOrder 1) (onePlanOrderDb 1 1) fulfilSteps ∧
      orderCounts (onePlanOrderDb 1 1) (onePlanOrderDb.planOrder 1) fulfilSteps =
        (some .success, [1, 1, 1, 1]) :=
  ⟨subscription_order_fulfilled_once .fresh (onePlanOrderDb 1 1) (onePlanOrderDb.planOrder 1)
      fulfilSteps (by decide +kernel),
    by decide +kernel⟩

/-- A successful order without a fee leaves no fee row, and one of an administrator neither
lot nor fee row. -/
theorem subscription_order_success_without_lot_or_fee :
    orderCounts (onePlanOrderDb 1 0) (onePlanOrderDb.planOrder 0) fulfilSteps =
        (some .success, [1, 1, 1, 0]) ∧
      orderCounts (onePlanOrderDb 10 1) (onePlanOrderDb.planOrder 1) fulfilSteps =
        (some .success, [1, 1, 0, 0]) := by
  decide +kernel

end Xingkong
