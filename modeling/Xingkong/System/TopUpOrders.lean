import Xingkong.Lib.Run
import Xingkong.Spec.TopUp

/-!
# Top-up orders under any sequence of calls

A run is any list of calls of the functions that complete or close top-up orders, each one
transaction, at any times, with any arguments and any statement failures. For one order of an
existing user this file shows that its status leaves `pending` at most once, and that its owner
is credited, with lot and fee row, in exactly the call that makes it succeed.
-/

namespace Xingkong

open Rdb

inductive TopUpCall
  | updatePendingTopUpStatus (tradeNo : String) (expectedPaymentProvider : PaymentProvider)
      (targetStatus : TopUpStatus)
  | recharge (referenceId customerId : String)
  | rechargeCreem (referenceId customerEmail : String)
  | rechargeWaffo (tradeNo : String)
  | rechargeWaffoPancake (tradeNo : String)
  | manualCompleteTopUp (tradeNo : String)
  deriving DecidableEq

namespace TopUpCall

def tradeNo : TopUpCall → String
  | updatePendingTopUpStatus t _ _ => t
  | recharge t _ => t
  | rechargeCreem t _ => t
  | rechargeWaffo t => t
  | rechargeWaffoPancake t => t
  | manualCompleteTopUp t => t

/-- The provider an order must have for the call to touch it; `unset` accepts all. -/
def provider : TopUpCall → PaymentProvider
  | updatePendingTopUpStatus _ p _ => p
  | recharge _ _ => .stripe
  | rechargeCreem _ _ => .creem
  | rechargeWaffo _ => .waffo
  | rechargeWaffoPancake _ => .waffoPancake
  | manualCompleteTopUp _ => .unset

def target : TopUpCall → TopUpStatus
  | updatePendingTopUpStatus _ _ s => s
  | _ => .success

def completes : TopUpCall → Bool
  | updatePendingTopUpStatus _ _ _ => false
  | _ => true

def quota (cfg : Config) (o : TopUp) : TopUpCall → Int
  | updatePendingTopUpStatus _ _ _ => 0
  | recharge _ _ => cfg.storeInt (o.money * cfg.quotaPerUnit)
  | rechargeCreem _ _ => o.amount
  | manualCompleteTopUp _ => manualQuota cfg o
  | _ => amountQuota cfg o

def lotQuota (cfg : Config) (o : TopUp) : TopUpCall → Int
  | recharge _ _ => intPart (o.money * cfg.quotaPerUnit)
  | c => c.quota cfg o

end TopUpCall

structure TopUpStep where
  call : TopUpCall
  now : Int
  faults : List Bool

variable {s : TopUpStep} {cfg : Config} {db db' : Database} {faults : List Bool} {body : DbTx Unit}
  {o oc : TopUp} {tradeNo : String}

namespace TopUpStep

def exec (cfg : Config) (db : Database) (s : TopUpStep) : Except Err Unit × Database :=
  match s.call with
  | .updatePendingTopUpStatus tradeNo provider target =>
    updatePendingTopUpStatus tradeNo provider target s.faults db
  | .recharge referenceId customerId => recharge cfg s.now referenceId customerId s.faults db
  | .rechargeCreem referenceId email => rechargeCreem s.now referenceId email s.faults db
  | .rechargeWaffo tradeNo => rechargeWaffo cfg s.now tradeNo s.faults db
  | .rechargeWaffoPancake tradeNo => rechargeWaffoPancake cfg s.now tradeNo s.faults db
  | .manualCompleteTopUp tradeNo => manualCompleteTopUp cfg s.now tradeNo s.faults db

def next (cfg : Config) (db : Database) (s : TopUpStep) : Database := (s.exec cfg db).2

/-- What a call that changes the database does to the pending order it finds. -/
def Effect (cfg : Config) (s : TopUpStep) (o : TopUp) (db db' : Database) : Prop :=
  (s.call.completes = false ∧
      db' = { db with topUps := db.topUps.save { o with status := s.call.target } }) ∨
    (s.call.completes = true ∧
      Completion s.now o (s.call.quota cfg o) (s.call.lotQuota cfg o) db db')

def Outcome (cfg : Config) (s : TopUpStep) (db db' : Database) : Prop :=
  db' = db ∨ ∃ o, db.topUps.first? (·.tradeNo = s.call.tradeNo) = some o ∧ o.status = .pending ∧
    (s.call.provider ≠ .unset → o.paymentProvider = s.call.provider) ∧ s.Effect cfg o db db'

/-- A transaction whose successful runs have the outcome of `s` has it in any case. -/
theorem outcome_of_transaction (h : ∀ u db', Tx.Ok body db u db' → Outcome cfg s db db') :
    Outcome cfg s db (Tx.transaction body faults db).2 := by
  rcases Tx.transaction_cases body faults db with ⟨a, db', he, hok⟩ | ⟨e, he⟩
  · rw [he]; exact h a db' hok
  · rw [he]; exact .inl rfl

theorem outcome_of_rechargeWith (h : ∀ u db', Tx.Ok body db u db' → Outcome cfg s db db') :
    Outcome cfg s db (rechargeWith tradeNo body faults db).2 := by
  unfold rechargeWith
  split
  · exact .inl rfl
  · rw [Tx.reportAs_snd]
    exact outcome_of_transaction h

theorem next_outcome (cfg : Config) (db : Database) (s : TopUpStep) :
    Outcome cfg s db (s.next cfg db) := by
  obtain ⟨call, now, faults⟩ := s
  cases call with
  | updatePendingTopUpStatus tradeNo provider target =>
    unfold next exec updatePendingTopUpStatus
    simp only
    split
    · exact .inl rfl
    · refine outcome_of_transaction fun u db' h => ?_
      obtain ⟨o, ho, hp, hs, rfl⟩ := updatePendingTopUpStatusTx_ok h
      exact .inr ⟨o, ho, hs, hp, .inl ⟨rfl, rfl⟩⟩
  | recharge referenceId customerId =>
    refine outcome_of_rechargeWith fun u db' h => ?_
    obtain ⟨o, ho, hp, hs, hc⟩ := rechargeTx_ok h
    exact .inr ⟨o, ho, hs, fun _ => hp, .inr ⟨rfl, hc⟩⟩
  | rechargeCreem referenceId email =>
    refine outcome_of_rechargeWith fun u db' h => ?_
    obtain ⟨o, ho, hp, hs, hc⟩ := rechargeCreemTx_ok h
    exact .inr ⟨o, ho, hs, fun _ => hp, .inr ⟨rfl, hc⟩⟩
  | rechargeWaffo tradeNo | rechargeWaffoPancake tradeNo =>
    refine outcome_of_rechargeWith fun u db' h => ?_
    rcases rechargeAmountTx_ok h with h | ⟨o, ho, hp, hs, hc⟩
    · exact .inl h
    · exact .inr ⟨o, ho, hs, fun _ => hp, .inr ⟨rfl, hc⟩⟩
  | manualCompleteTopUp tradeNo =>
    unfold next exec manualCompleteTopUp
    simp only
    split
    · exact .inl rfl
    · refine outcome_of_transaction fun u db' h => ?_
      rcases manualCompleteTopUpTx_ok h with h | ⟨o, ho, hs, hc⟩
      · exact .inl h
      · exact .inr ⟨o, ho, hs, fun hne => absurd rfl hne, .inr ⟨rfl, hc⟩⟩

end TopUpStep

/-! ## One order in a run -/

/-- `o'` is the order `o`, perhaps in another status. -/
def TopUp.SameOrder (o o' : TopUp) : Prop :=
  o' = { o with status := o'.status, completeTime := o'.completeTime }

def lotsOf (o : TopUp) (db : Database) : List WalletLot :=
  db.walletLots.filter fun l => l.sourceType = .topUp && l.sourceId = o.id

def feesOf (o : TopUp) (db : Database) : List FinanceLedger :=
  db.financeLedgers.filter fun l =>
    l.type = .paymentFee && l.relatedType = .topUp && l.relatedId = o.id

def UniqueTradeNo (t : Table TopUp) : Prop :=
  ∀ a ∈ t.rows, ∀ b ∈ t.rows, a.tradeNo = b.tradeNo → a.id = b.id

/-- The state of order `o` in a run that found it as `o`. -/
structure OrderState (o : TopUp) (db : Database) : Prop where
  unique : UniqueTradeNo db.topUps
  /-- Its row is `o` still, or has left `pending`. -/
  row : ∃ oc, db.topUps.find? o.id = some oc ∧
    (oc = o ∨ o.status = .pending ∧ oc.status ≠ .pending ∧ o.SameOrder oc)
  live : (db.liveUser? o.userId).isSome = true
  /-- While it is pending there is neither lot nor fee row for it. -/
  fresh : db.topUps.find? o.id = some o → o.status = .pending → lotsOf o db = [] ∧ feesOf o db = []

def Pending (o : TopUp) (db : Database) : Prop :=
  ∃ oc, db.topUps.find? o.id = some oc ∧ oc.status = .pending

namespace OrderState

theorem find?_of_pending (h : OrderState o db) (hp : Pending o db) :
    db.topUps.find? o.id = some o ∧ o.status = .pending := by
  obtain ⟨oc, hoc, hs⟩ := hp
  obtain ⟨oc', hoc', rfl | ⟨_, hne, _⟩⟩ := h.row
  · rw [hoc] at hoc'; cases hoc'; exact ⟨hoc, hs⟩
  · rw [hoc] at hoc'; cases hoc'; exact absurd hs hne

theorem tradeNo_of_find? (h : OrderState o db) (hf : db.topUps.find? o.id = some oc) :
    oc.tradeNo = o.tradeNo := by
  obtain ⟨oc', hoc', rfl | ⟨_, _, h1⟩⟩ := h.row
  · rw [hf] at hoc'; cases hoc'; rfl
  · rw [hf] at hoc'; cases hoc'; rw [h1]

theorem find?_of_first? (h : OrderState o db)
    (hf : db.topUps.first? (·.tradeNo = o.tradeNo) = some oc) : db.topUps.find? o.id = some oc := by
  obtain ⟨hm, ht⟩ := Table.mem_of_first? hf
  obtain ⟨oc', hoc', _⟩ := h.row
  obtain ⟨hm', hid'⟩ := Table.find?_eq_some.1 hoc'
  have hid : oc.id = oc'.id := h.unique oc hm oc' hm'
    ((by simpa using ht : oc.tradeNo = _).trans (h.tradeNo_of_find? hoc').symm)
  exact Table.find?_eq_some.2 ⟨hm, hid.trans hid'⟩

/-- A call on the order's trade number leaves a pending order alone or has its effect, and
does nothing once the order has left `pending`. -/
theorem next_same (cfg : Config) (h : OrderState o db) (ht : s.call.tradeNo = o.tradeNo) :
    s.next cfg db = db ∨
      (db.topUps.find? o.id = some o ∧ o.status = .pending ∧
        (s.call.provider ≠ .unset → o.paymentProvider = s.call.provider) ∧
        s.Effect cfg o db (s.next cfg db)) := by
  rcases TopUpStep.next_outcome cfg db s with hn | ⟨oc, hf, hs, hp, he⟩
  · exact .inl hn
  · rw [ht] at hf
    have hoc := h.find?_of_first? hf
    obtain ⟨ho, hso⟩ := h.find?_of_pending ⟨oc, hoc, hs⟩
    rw [ho] at hoc
    cases hoc
    exact .inr ⟨ho, hso, hp, he⟩

end OrderState

theorem TopUpStep.Effect.other (he : s.Effect cfg oc db db') (hne : o.id ≠ oc.id) :
    db'.topUps.find? o.id = db.topUps.find? o.id ∧ lotsOf o db' = lotsOf o db ∧
      feesOf o db' = feesOf o db := by
  rcases he with ⟨_, rfl⟩ | ⟨_, hc⟩
  · exact ⟨Table.find?_save_of_ne hne, rfl, rfl⟩
  · refine ⟨?_, ?_, ?_⟩
    · rw [hc.topUps]
      exact Table.find?_save_of_ne hne
    · unfold lotsOf
      rcases hc.lots with ⟨_, hl⟩ | ⟨_, _, hl⟩
      · rw [hl]
      · rw [hl]
        simp [Table.filter, Table.stored, Row.withKey, topUpLot, TopUp.succeeded, hne.symm]
    · unfold feesOf
      rcases hc.ledgers with ⟨_, hl⟩ | ⟨_, _, _, hl⟩
      · rw [hl]
      · rw [hl]
        simp [Table.filter, Table.stored, Row.withKey, hne.symm]

/-- An effect saves one row of the orders, under the trade number it had. If that row is
still pending, nothing was changed at all. -/
theorem TopUpStep.Effect.topUps (he : s.Effect cfg oc db db') (hm : oc ∈ db.topUps.rows)
    (hs : oc.status = .pending) :
    ∃ r : TopUp, r.id = oc.id ∧ oc.SameOrder r ∧ r.status = s.call.target ∧
      db'.topUps = db.topUps.save r ∧ db'.topUps.find? oc.id = some r ∧
      (r.status = .pending → db' = db) := by
  have h1 : ∀ {r : TopUp}, r.id = oc.id → (db.topUps.save r).find? oc.id = some r :=
    Table.find?_save_self (Table.find?_eq_some.2 ⟨hm, rfl⟩)
  rcases he with ⟨_, rfl⟩ | ⟨hc, h⟩
  · refine ⟨{ oc with status := s.call.target }, rfl, rfl, rfl, rfl, h1 rfl, fun hp => ?_⟩
    have h2 : ({ oc with status := s.call.target } : TopUp) = oc := by
      rw [show s.call.target = .pending from hp, ← hs]
    rw [h2, Table.save_eq_self hm]
  · refine ⟨oc.succeeded s.now, rfl, rfl, ?_, h.topUps, h.topUps ▸ h1 rfl, nofun⟩
    obtain ⟨call, _, _⟩ := s
    cases call <;> first | rfl | cases hc

theorem TopUpStep.Effect.live (he : s.Effect cfg oc db db') (v : Nat) :
    (db'.liveUser? v).isSome = (db.liveUser? v).isSome := by
  rcases he with ⟨_, rfl⟩ | ⟨_, h⟩
  · exact congrArg Option.isSome (Database.liveUser?_congr rfl v)
  · exact h.live v

theorem UniqueTradeNo.save {t : Table TopUp} (h : UniqueTradeNo t) {r old : TopUp}
    (ho : old ∈ t.rows) (hid : r.id = old.id) (ht : r.tradeNo = old.tradeNo) :
    UniqueTradeNo (t.save r) := by
  intro a ha b hb hab
  rcases Table.mem_save.1 ha with ⟨rfl, _⟩ | ⟨ha', _⟩ <;>
    rcases Table.mem_save.1 hb with ⟨rfl, _⟩ | ⟨hb', _⟩
  · rfl
  · rw [hid]; exact h old ho b hb' (ht.symm.trans hab)
  · rw [hid]; exact h a ha' old ho (hab.trans ht)
  · exact h a ha' b hb' hab

namespace OrderState

theorem next_other (cfg : Config) (h : OrderState o db) (ht : s.call.tradeNo ≠ o.tradeNo) :
    (s.next cfg db).topUps.find? o.id = db.topUps.find? o.id ∧
      lotsOf o (s.next cfg db) = lotsOf o db ∧ feesOf o (s.next cfg db) = feesOf o db := by
  rcases TopUpStep.next_outcome cfg db s with hn | ⟨oc, hf, _, _, he⟩
  · rw [hn]; exact ⟨rfl, rfl, rfl⟩
  · refine he.other fun hid => ht ?_
    -- the row the call found has the order's key, so it has the order's trade number
    obtain ⟨hm, h1⟩ := Table.mem_of_first? hf
    have h2 : oc.tradeNo = s.call.tradeNo := by simpa using h1
    rw [← h2, h.tradeNo_of_find? (Table.find?_eq_some.2 ⟨hm, hid.symm⟩)]

theorem of_effect (h : OrderState o db) (ho : db.topUps.find? o.id = some o)
    (hs : o.status = .pending) (he : s.Effect cfg o db db') : OrderState o db' := by
  have hm := (Table.find?_eq_some.1 ho).1
  obtain ⟨r, hrid, h1, _, htop, h2, h3⟩ := he.topUps hm hs
  by_cases hp : r.status = .pending
  · rw [h3 hp]; exact h
  · refine ⟨?_, ⟨r, h2, .inr ⟨hs, hp, h1⟩⟩, by rw [he.live]; exact h.live, fun hf _ => ?_⟩
    · rw [htop]
      exact h.unique.save hm hrid (by rw [h1])
    · rw [h2] at hf
      cases hf
      exact absurd hs hp

theorem next (cfg : Config) (s : TopUpStep) (h : OrderState o db) :
    OrderState o (s.next cfg db) := by
  by_cases ht : s.call.tradeNo = o.tradeNo
  · rcases h.next_same cfg ht with hn | ⟨ho, hs, _, he⟩
    · rw [hn]; exact h
    · exact h.of_effect ho hs he
  · obtain ⟨h1, h2, h3⟩ := h.next_other cfg ht
    rcases TopUpStep.next_outcome cfg db s with hn | ⟨oc, hf, hs, _, he⟩
    · rw [hn]; exact h
    · have hm := (Table.mem_of_first? hf).1
      obtain ⟨r, hrid, h4, _, htop, _, _⟩ := he.topUps hm hs
      refine ⟨?_, by rw [h1]; exact h.row, by rw [he.live]; exact h.live, ?_⟩
      · rw [htop]
        exact h.unique.save hm hrid (by rw [h4])
      · rw [h1, h2, h3]
        exact h.fresh

theorem next_of_not_pending (cfg : Config) (h : OrderState o db)
    (ht : s.call.tradeNo = o.tradeNo) (hp : ¬ Pending o db) : s.next cfg db = db := by
  rcases h.next_same cfg ht with hn | ⟨ho, hs, _, _⟩
  · exact hn
  · exact absurd ⟨o, ho, hs⟩ hp

theorem row_of_not_pending (cfg : Config) (s : TopUpStep) (h : OrderState o db)
    (hp : ¬ Pending o db) : (s.next cfg db).topUps.find? o.id = db.topUps.find? o.id := by
  by_cases ht : s.call.tradeNo = o.tradeNo
  · rw [h.next_of_not_pending cfg ht hp]
  · exact (h.next_other cfg ht).1

theorem not_pending_next (cfg : Config) (s : TopUpStep) (h : OrderState o db)
    (hp : ¬ Pending o db) : ¬ Pending o (s.next cfg db) := by
  rwa [Pending, h.row_of_not_pending cfg s hp]

theorem next_of_pending (cfg : Config) (h : OrderState o db) (ht : s.call.tradeNo = o.tradeNo)
    (hp : Pending o db) : s.next cfg db = db ∨ ¬ Pending o (s.next cfg db) := by
  obtain ⟨ho, hs⟩ := h.find?_of_pending hp
  rcases h.next_same cfg ht with hn | ⟨_, _, _, he⟩
  · exact .inl hn
  · obtain ⟨r, _, _, _, _, h, h1⟩ := he.topUps (Table.find?_eq_some.1 ho).1 hs
    by_cases h2 : r.status = .pending
    · exact .inl (h1 h2)
    · refine .inr ?_
      rintro ⟨oc, hoc, hsoc⟩
      rw [h] at hoc
      cases hoc
      exact h2 hsoc

end OrderState

/-! ## Whole runs -/

abbrev topUpTrace (cfg : Config) (db : Database) (steps : List TopUpStep) :
    List (Run.Ev Database TopUpStep) :=
  Run.trace (TopUpStep.next cfg) db steps

abbrev topUpFinal (cfg : Config) (db : Database) (steps : List TopUpStep) : Database :=
  Run.final (TopUpStep.next cfg) db steps

/-- A step on the order's trade number that changes nothing, or a step on another order. -/
def QuietFor (o : TopUp) (e : Run.Ev Database TopUpStep) : Prop :=
  e.act.call.tradeNo = o.tradeNo → e.after = e.before

section Runs

variable {steps : List TopUpStep}

variable {e : Run.Ev Database TopUpStep} {err : Err}

theorem OrderState.trace (h : OrderState o db) (he : e ∈ topUpTrace cfg db steps) :
    OrderState o e.before ∧ e.after = e.act.next cfg e.before := by
  obtain ⟨h1, _, h3⟩ := Run.trace_invariant h (fun db s _ hs => .next cfg s hs) he
  exact ⟨h1, h3⟩

theorem OrderState.closed (cfg : Config) (steps : List TopUpStep) (h : OrderState o db)
    (hp : ¬ Pending o db) :
    (∀ e ∈ topUpTrace cfg db steps, QuietFor o e) ∧
      (topUpFinal cfg db steps).topUps.find? o.id = db.topUps.find? o.id := by
  induction steps generalizing db with
  | nil =>
    refine ⟨fun e he => ?_, rfl⟩
    cases he
  | cons s ss ih =>
    obtain ⟨h1, h2⟩ := ih (h.next cfg s) (h.not_pending_next cfg s hp)
    refine ⟨fun e he => ?_, h2.trans (h.row_of_not_pending cfg s hp)⟩
    rcases List.mem_cons.1 he with rfl | he
    · exact fun ht => h.next_of_not_pending cfg ht hp
    · exact h1 e he

structure EffectAt (cfg : Config) (o : TopUp) (db : Database) (steps : List TopUpStep)
    (e : Run.Ev Database TopUpStep) : Prop where
  mem : e ∈ topUpTrace cfg db steps
  tradeNo : e.act.call.tradeNo = o.tradeNo
  row : e.before.topUps.find? o.id = some o
  pending : o.status = .pending
  effect : e.act.Effect cfg o e.before e.after
  /-- The row it left is the row at the end of the run. -/
  final : (topUpFinal cfg db steps).topUps.find? o.id = e.after.topUps.find? o.id
  others : ∀ e' ∈ topUpTrace cfg db steps, QuietFor o e' ∨ e' = e

/-- What a run does to an order: nothing, or one effect. -/
def Verdict (cfg : Config) (o : TopUp) (db : Database) (steps : List TopUpStep) : Prop :=
  ((∀ e ∈ topUpTrace cfg db steps, QuietFor o e) ∧
      (topUpFinal cfg db steps).topUps.find? o.id = db.topUps.find? o.id) ∨
    ∃ e, EffectAt cfg o db steps e

/-- A first step that is quiet for the order leaves the verdict to the rest of the run. -/
theorem Verdict.cons (hq : QuietFor o ⟨db, s, s.next cfg db⟩)
    (hrow : (s.next cfg db).topUps.find? o.id = db.topUps.find? o.id)
    (h : Verdict cfg o (s.next cfg db) steps) : Verdict cfg o db (s :: steps) := by
  rcases h with ⟨hall, hfin⟩ | ⟨e, he⟩
  · refine .inl ⟨fun e he => ?_, hfin.trans hrow⟩
    rcases List.mem_cons.1 he with rfl | he
    · exact hq
    · exact hall e he
  · refine .inr ⟨e, List.mem_cons_of_mem _ he.mem, he.tradeNo, he.row, he.pending, he.effect,
      he.final, fun e' he' => ?_⟩
    rcases List.mem_cons.1 he' with rfl | he'
    · exact .inl hq
    · exact he.others e' he'

theorem OrderState.verdict (cfg : Config) (steps : List TopUpStep) (h : OrderState o db) :
    Verdict cfg o db steps := by
  induction steps generalizing db with
  | nil =>
    refine .inl ⟨fun e he => ?_, rfl⟩
    cases he
  | cons s ss ih =>
    have hrest := ih (h.next cfg s)
    by_cases ht : s.call.tradeNo = o.tradeNo
    · by_cases hp : Pending o db
      · rcases h.next_of_pending cfg ht hp with hn | h1
        · exact hrest.cons (fun _ => hn) (by rw [hn])
        · rcases h.next_same cfg ht with hn | ⟨ho, hs, _, he⟩
          · rw [hn] at h1; exact absurd hp h1
          · obtain ⟨hall, hfin⟩ := (h.next cfg s).closed cfg ss h1
            refine .inr ⟨_, List.mem_cons_self, ht, ho, hs, he, hfin, fun e' he' => ?_⟩
            rcases List.mem_cons.1 he' with rfl | he'
            · exact .inr rfl
            · exact .inl (hall e' he')
      · have hn := h.next_of_not_pending cfg ht hp
        exact hrest.cons (fun _ => hn) (by rw [hn])
    · exact hrest.cons (fun ht' => absurd ht' ht) (h.next_other cfg ht).1

/-- The row is the latch: at most one step on the order's trade number changes anything. -/
theorem OrderState.pairwise_quietFor (cfg : Config) (steps : List TopUpStep)
    (h : OrderState o db) :
    (topUpTrace cfg db steps).Pairwise fun e e' => QuietFor o e ∨ QuietFor o e' := by
  have hclosed : ∀ db, ∀ s ∈ steps, OrderState o db → ¬ Pending o db →
      QuietFor o ⟨db, s, s.next cfg db⟩ ∧ ¬ Pending o (s.next cfg db) := fun db s _ hs hc =>
    ⟨fun h1 => hs.next_of_not_pending cfg h1 hc, hs.not_pending_next cfg s hc⟩
  refine Run.pairwise_quiet h (fun db s _ hs => .next cfg s hs) hclosed
    fun db s _ hs hp => ?_
  by_cases ht : s.call.tradeNo = o.tradeNo
  · rcases hs.next_of_pending cfg ht hp with hn | h
    · exact .inl fun _ => hn
    · exact .inr h
  · exact .inl fun ht' => absurd ht' ht

/-- Step `e` credits order `o`: its quota to the owner and to nobody else, its lot and its fee
row where they are due, and neither was there before. -/
structure Credits (cfg : Config) (o : TopUp) (e : Run.Ev Database TopUpStep) : Prop where
  owner : e.after.userQuota o.userId = e.before.userQuota o.userId + e.act.call.quota cfg o
  nobodyElse : ∀ v, v ≠ o.userId → e.after.userQuota v = e.before.userQuota v
  noLotBefore : lotsOf o e.before = []
  noFeeBefore : feesOf o e.before = []
  lot : 0 < e.act.call.lotQuota cfg o → e.before.exempt o.userId = false →
    e.after.walletLots = e.before.walletLots.insert
      (topUpLot e.act.now (o.succeeded e.act.now) (e.act.call.lotQuota cfg o) .topUp)
  noLot : e.act.call.lotQuota cfg o ≤ 0 → e.after.walletLots = e.before.walletLots
  /-- An exempt owner gets a lot only when the exemption could not be read. -/
  lots : e.after.walletLots = e.before.walletLots ∨
    e.after.walletLots = e.before.walletLots.insert
      (topUpLot e.act.now (o.succeeded e.act.now) (e.act.call.lotQuota cfg o) .topUp)
  fee : 0 < o.paymentFeeCNY → e.before.exempt o.userId = false →
    e.after.financeLedgers = e.before.financeLedgers.insert
      { id := 0, userId := o.userId, type := .paymentFee, relatedType := .topUp, relatedId := o.id
        amountCNY := -o.paymentFeeCNY, createdAt := e.act.now }
  noFee : o.paymentFeeCNY ≤ 0 → e.after.financeLedgers = e.before.financeLedgers

def SameCredits (db db' : Database) : Prop :=
  db'.users = db.users ∧ db'.walletLots = db.walletLots ∧ db'.financeLedgers = db.financeLedgers

theorem OrderState.credits (h : OrderState o e.before) (ho : e.before.topUps.find? o.id = some o)
    (hs : o.status = .pending)
    (hc : Completion e.act.now o (e.act.call.quota cfg o) (e.act.call.lotQuota cfg o)
      e.before e.after) : Credits cfg o e := by
  obtain ⟨hlt, hfees⟩ := h.fresh ho hs
  have hnolot : ∀ l ∈ e.before.walletLots.rows, ¬ (l.sourceType = .topUp ∧ l.sourceId = o.id) := by
    intro l hl hsrc
    have : l ∈ lotsOf o e.before := List.mem_filter.2 ⟨hl, by simp [hsrc]⟩
    rw [hlt] at this
    cases this
  have hnofee : ∀ l ∈ e.before.financeLedgers.rows,
      ¬ (l.type = .paymentFee ∧ l.relatedType = .topUp ∧ l.relatedId = o.id) := by
    intro l hl hrel
    have : l ∈ feesOf o e.before := List.mem_filter.2 ⟨hl, by simp [hrel]⟩
    rw [hfees] at this
    cases this
  have hid : o.id ≠ 0 := by
    obtain ⟨hm, _⟩ := Table.find?_eq_some.1 ho
    exact (e.before.topUps.keys_pos o hm).ne'
  refine ⟨?_, fun v hv => ?_, hlt, hfees, fun hq hx => ?_, fun hq => ?_, ?_, fun hf hx => ?_,
    fun hf => ?_⟩
  · rw [hc.userQuota, if_pos ⟨rfl, h.live⟩]
  · rw [hc.userQuota, if_neg fun hv' => hv hv'.1, add_zero]
  · rcases hc.lots with ⟨hq' | hx' | ⟨l, hl, hsrc⟩, _⟩ | ⟨_, _, hl⟩
    · omega
    · rw [hx] at hx'; cases hx'
    · exact absurd hsrc (hnolot l hl)
    · exact hl
  · rcases hc.lots with ⟨_, hl⟩ | ⟨hq', _⟩
    · exact hl
    · omega
  · exact hc.lots.imp (·.2) (·.2.2)
  · rcases hc.ledgers with ⟨h0 | hf' | hx' | ⟨l, hl, hrel⟩, _⟩ | ⟨_, _, _, hl⟩
    · exact absurd h0 hid
    · exact absurd hf (not_lt.2 hf')
    · rw [hx] at hx'; cases hx'
    · exact absurd hrel (hnofee l hl)
    · exact hl
  · rcases hc.ledgers with ⟨_, hl⟩ | ⟨_, hf', _⟩
    · exact hl
    · exact absurd hf' (not_lt.2 hf)

structure SettledOnce (cfg : Config) (o : TopUp) (db : Database) (steps : List TopUpStep) :
    Prop where
  row : ∃ o', (topUpFinal cfg db steps).topUps.find? o.id = some o' ∧ o.SameOrder o'
  /-- At most one step on the order's trade number changes anything. -/
  once : (topUpTrace cfg db steps).Pairwise fun e e' => QuietFor o e ∨ QuietFor o e'
  /-- An order that is not pending stays as it is. -/
  closed : o.status ≠ .pending → (topUpFinal cfg db steps).topUps.find? o.id = some o
  /-- A pending order that ends in success was credited by one of the steps. -/
  credited : o.status = .pending → ∀ o', (topUpFinal cfg db steps).topUps.find? o.id = some o' →
    o'.status = .success →
      ∃ e ∈ topUpTrace cfg db steps, e.act.call.tradeNo = o.tradeNo ∧ Credits cfg o e
  /-- Otherwise no step on its trade number credits anything. -/
  notCredited : ∀ o', (topUpFinal cfg db steps).topUps.find? o.id = some o' →
    ¬ (o.status = .pending ∧ o'.status = .success) →
      ∀ e ∈ topUpTrace cfg db steps, e.act.call.tradeNo = o.tradeNo → SameCredits e.before e.after
  /-- Steps on other trade numbers leave the order, its lots and its fee rows alone. -/
  otherOrders : ∀ e ∈ topUpTrace cfg db steps, e.act.call.tradeNo ≠ o.tradeNo →
    e.after.topUps.find? o.id = e.before.topUps.find? o.id ∧
      lotsOf o e.after = lotsOf o e.before ∧ feesOf o e.after = feesOf o e.before
  /-- A call for another provider changes nothing. -/
  mismatch : ∀ e ∈ topUpTrace cfg db steps, e.act.call.tradeNo = o.tradeNo →
    e.act.call.provider ≠ .unset → o.paymentProvider ≠ e.act.call.provider → e.after = e.before
  /-- A call that returns an error changes nothing. -/
  failed : ∀ e ∈ topUpTrace cfg db steps, ∀ err, (e.act.exec cfg e.before).1 = .error err →
    e.after = e.before

theorem rechargeWith_error (h : (rechargeWith tradeNo body faults db).1 = .error err) :
    (rechargeWith tradeNo body faults db).2 = db := by
  unfold rechargeWith at h ⊢
  split at h
  next ht =>
    rw [if_pos ht]
  next ht =>
    obtain ⟨e, he⟩ := Tx.reportAs_error h
    rw [if_neg ht, Tx.reportAs_snd]
    exact Tx.transaction_error he

theorem TopUpStep.exec_error (h : (s.exec cfg db).1 = .error err) :
    s.next cfg db = db := by
  obtain ⟨call, now, faults⟩ := s
  cases call with
  | updatePendingTopUpStatus | manualCompleteTopUp => exact Tx.guarded_error h
  | _ => exact rechargeWith_error h

theorem EffectAt.final_row (h : EffectAt cfg o db steps e) :
    ∃ r : TopUp, (topUpFinal cfg db steps).topUps.find? o.id = some r ∧ o.SameOrder r ∧
      r.status = e.act.call.target := by
  obtain ⟨r, _, h1, h2, _, h3, _⟩ := h.effect.topUps (Table.find?_eq_some.1 h.row).1 h.pending
  exact ⟨r, h.final.trans h3, h1, h2⟩

/-- **An order of an existing user is settled at most once and credited exactly when it
succeeds**, over every run of calls in which the status function is not asked to write
`success` itself. -/
theorem topUp_order_settled_once (cfg : Config) (db : Database) (o : TopUp)
    (steps : List TopUpStep) (h : OrderState o db) (ho : db.topUps.find? o.id = some o)
    (ht : ∀ s ∈ steps, s.call.completes = false → s.call.target ≠ .success) :
    SettledOnce cfg o db steps := by
  have hverdict := h.verdict cfg steps
  have h1 := fun {e} (he : e ∈ topUpTrace cfg db steps) => h.trace he
  have hact : ∀ e ∈ topUpTrace cfg db steps, e.act ∈ steps := fun e he =>
    (Run.trace_invariant (P := fun _ => True) trivial (fun _ _ _ _ => trivial) he).2.1
  refine ⟨?_, ?_, fun hs => ?_, fun hs o' ho' hsucc => ?_, fun o' ho' hn e he h2 => ?_,
    fun e he h2 => ?_, fun e he h2 h3 hne => ?_, fun e he err herr => ?_⟩
  · rcases hverdict with ⟨_, hfin⟩ | ⟨e, he⟩
    · exact ⟨o, hfin.trans ho, rfl⟩
    · obtain ⟨r, hr, h4, _⟩ := he.final_row
      exact ⟨r, hr, h4⟩
  · exact h.pairwise_quietFor cfg steps
  · rcases hverdict with ⟨_, hfin⟩ | ⟨e, he⟩
    · exact hfin.trans ho
    · exact absurd he.pending hs
  · rcases hverdict with ⟨_, hfin⟩ | ⟨e, he⟩
    · rw [hfin, ho] at ho'
      cases ho'
      rw [hs] at hsucc
      cases hsucc
    · refine ⟨e, he.mem, he.tradeNo, ?_⟩
      rcases he.effect with ⟨h, _⟩ | ⟨_, hc⟩
      · -- the status function would have h4 to write `success`
        obtain ⟨r, hr, _, h4⟩ := he.final_row
        rw [hr] at ho'
        cases ho'
        exact absurd (h4.symm.trans hsucc) (ht _ (hact e he.mem) h)
      · exact (h1 he.mem).1.credits he.row hs hc
  · rcases hverdict with ⟨hall, _⟩ | ⟨e', he'⟩
    · rw [hall e he h2]; exact ⟨rfl, rfl, rfl⟩
    · rcases he'.others e he with hq | rfl
      · rw [hq h2]; exact ⟨rfl, rfl, rfl⟩
      · rcases he'.effect with ⟨_, hdb⟩ | ⟨hc, _⟩
        · rw [hdb]; exact ⟨rfl, rfl, rfl⟩
        · -- a completion leaves the order in success
          obtain ⟨r, hr, _, h4⟩ := he'.final_row
          rw [hr] at ho'
          cases ho'
          refine absurd ⟨he'.pending, h4.trans ?_⟩ hn
          obtain ⟨_, ⟨call, _, _⟩, _⟩ := e
          cases call <;> first | rfl | cases hc
  · rw [(h1 he).2]
    exact (h1 he).1.next_other cfg h2
  · rw [(h1 he).2]
    rcases (h1 he).1.next_same cfg h2 with hn | ⟨_, _, hp, _⟩
    · exact hn
    · exact absurd (hp h3) hne
  · rw [(h1 he).2]
    exact TopUpStep.exec_error herr

end Runs

def oneOrderDb (role : Int) (deleted : Bool) : Database :=
  { Database.empty with
    users := Table.empty.insert
      { id := 0, role, quota := 100, group := "default", email := "", stripeCustomer := "",
        deleted }
    topUps := Table.empty.insert oneOrder }
where
  oneOrder : TopUp :=
    { id := 1, userId := 1, amount := 20, money := 20, paymentFeeCNY := 1, tradeNo := "T1"
      paymentMethod := "alipay", paymentProvider := .epay, createTime := 0, completeTime := 0
      status := .pending }

def settleSteps : List TopUpStep :=
  [⟨.updatePendingTopUpStatus "T1" .stripe .expired, 1, []⟩, ⟨.manualCompleteTopUp "T1", 2, []⟩,
    ⟨.updatePendingTopUpStatus "T1" .epay .expired, 3, []⟩]

theorem topUp_order_settled_once_manual :
    SettledOnce .fresh oneOrderDb.oneOrder (oneOrderDb 1 false) settleSteps ∧
      (topUpFinal .fresh (oneOrderDb 1 false) settleSteps).userQuota 1 = 10000100 :=
  ⟨topUp_order_settled_once .fresh (oneOrderDb 1 false) oneOrderDb.oneOrder settleSteps
      ⟨by unfold UniqueTradeNo; decide +kernel, ⟨_, by decide +kernel, .inl rfl⟩, by decide +kernel,
        by decide +kernel⟩
      (by decide +kernel) (by decide +kernel),
    by decide +kernel⟩

def orderView (db : Database) (steps : List TopUpStep) : Option TopUpStatus × Option Int × Nat :=
  let db' := topUpFinal .fresh db steps
  ((db'.topUps.find? 1).map (·.status), (db'.users.find? 1).map (·.quota),
    db'.walletLots.rows.length)

/-- The status function writes `success` without a credit when it is asked to; a completed
order of an administrator gives quota but no lot; one of a deleted user gives no quota. -/
theorem topUp_success_without_credit :
    orderView (oneOrderDb 1 false) [⟨.updatePendingTopUpStatus "T1" .epay .success, 1, []⟩] =
        (some .success, some 100, 0) ∧
      orderView (oneOrderDb 10 false) [⟨.manualCompleteTopUp "T1", 1, []⟩] =
        (some .success, some 10000100, 0) ∧
      orderView (oneOrderDb 1 true) [⟨.manualCompleteTopUp "T1", 1, []⟩] =
        (some .success, some 100, 1) := by
  decide +kernel

end Xingkong
