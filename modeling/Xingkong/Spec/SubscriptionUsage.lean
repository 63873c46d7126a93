import Xingkong.Model.SubscriptionUsage
import Xingkong.Spec.Subscription

/-!
# What charging a subscription does

One lemma per function of `Xingkong.Model.SubscriptionUsage`. A successful charge or delta
writes the counter of one subscription and one ledger row; the checks before it only read.
-/

namespace Xingkong

open Rdb

variable {db db' : Database} {now : Int}

def Database.amountUsed (db : Database) (subId : Nat) : Int :=
  ((db.userSubscriptions.find? subId).map UserSubscription.amountUsed).getD 0

/-! ## Ledger and limits -/

def ledgerRow (now : Int) (sub : UserSubscription) (requestId : String) (delta : Int)
    (action : LedgerAction) : SubscriptionUsageLedger :=
  { id := 0, userId := sub.userId, userSubscriptionId := sub.id
    requestId := trimSpace requestId, delta, action, createdAt := now }

def ledgerAfter (now : Int) (sub : UserSubscription) (requestId : String) (delta : Int)
    (action : LedgerAction) (t : Table SubscriptionUsageLedger) : Table SubscriptionUsageLedger :=
  if delta = 0 then t else t.insert (ledgerRow now sub requestId delta action)

variable {sub : UserSubscription} {requestId modelName : String} {delta amount : Int} {u : Unit}
  {userId : Nat} {cfg : Config} {r : SubscriptionPreConsumeResult}

theorem createSubscriptionUsageLedgerTx_ok {action : LedgerAction}
    (h : Tx.Ok (createSubscriptionUsageLedgerTx now sub requestId delta action) db u db') :
    db' = { db with
      usageLedgers := ledgerAfter now sub requestId delta action db.usageLedgers } := by
  unfold createSubscriptionUsageLedgerTx at h
  unfold ledgerAfter
  split at h
  next hd =>
    rw [if_pos hd]
    exact h.pure.2
  next hd =>
    rw [if_neg hd]
    exact h.exec

theorem checkWindowTx_readOnly (amount now limit window : Int) (label : String) :
    Tx.ReadOnly (checkWindowTx sub amount now limit window label) := by
  unfold checkWindowTx getSubscriptionWindowUsageTx
  split
  · exact .ret ()
  · refine .bind ?_ fun _ => .failIf ..
    split
    · exact .ret 0
    · exact .bind (.query _) fun _ => .ret _

theorem checkSubscriptionRollingLimitsTx_readOnly (sub : UserSubscription) (amount now : Int) :
    Tx.ReadOnly (checkSubscriptionRollingLimitsTx sub amount now) := by
  unfold checkSubscriptionRollingLimitsTx
  split
  · exact .ret ()
  · exact .bind (.failIf ..) fun _ => .bind (checkWindowTx_readOnly ..) fun _ =>
      .bind (checkWindowTx_readOnly ..) fun _ => checkWindowTx_readOnly ..

def UserSubscription.rollingLimits (sub : UserSubscription) : List (Int × Int) :=
  [(sub.amountFiveHourLimit, subscriptionWindowFiveHours),
    (sub.amountDailyLimit, subscriptionWindowDaily),
    (sub.amountWeeklyLimit, subscriptionWindowWeekly)]

/-- There is room for `amount` under the total and in every window that has a limit. -/
structure HasRoom (now : Int) (sub : UserSubscription) (amount : Int) (db : Database) : Prop where
  total : 0 < sub.amountTotal → sub.amountUsed + amount ≤ sub.amountTotal
  windows : sub.id ≠ 0 → ∀ l ∈ sub.rollingLimits, 0 < l.1 →
    clampSubscriptionUsage (ledgerSumSince db sub.id (max sub.startTime (now - l.2))) + amount ≤ l.1

theorem checkWindowTx_ok {limit window : Int} {label : String}
    (h : Tx.Ok (checkWindowTx sub amount now limit window label) db u db') (hid : sub.id ≠ 0)
    (hw : 0 < window) (hl : 0 < limit) :
    clampSubscriptionUsage (ledgerSumSince db sub.id (max sub.startTime (now - window))) + amount ≤
      limit := by
  unfold checkWindowTx getSubscriptionWindowUsageTx at h
  rw [if_neg (by omega), if_neg (by omega)] at h
  obtain ⟨used, db1, h1, h2⟩ := h.bind
  obtain ⟨rfl, rfl⟩ := (Tx.Ok.query_bind h1).pure
  exact not_lt.1 h2.failIf.1

theorem checkSubscriptionRollingLimitsTx_ok
    (h : Tx.Ok (checkSubscriptionRollingLimitsTx sub amount now) db u db') :
    db' = db ∧ (0 < amount → HasRoom now sub amount db) := by
  refine ⟨(checkSubscriptionRollingLimitsTx_readOnly sub amount now).db_eq h, fun hpos => ?_⟩
  unfold checkSubscriptionRollingLimitsTx at h
  rw [if_neg (not_le.2 hpos)] at h
  obtain ⟨h6, h1⟩ := h.failIf_bind
  obtain ⟨_, db1, h2, h3⟩ := h1.bind
  obtain rfl := (checkWindowTx_readOnly ..).db_eq h2
  obtain ⟨_, db2, h4, h5⟩ := h3.bind
  obtain rfl := (checkWindowTx_readOnly ..).db_eq h4
  refine ⟨fun ht => not_lt.1 fun hlt => h6 ⟨ht, hlt⟩, fun hid l hl hpos => ?_⟩
  simp only [UserSubscription.rollingLimits, List.mem_cons, List.not_mem_nil, or_false] at hl
  rcases hl with rfl | rfl | rfl
  · exact checkWindowTx_ok h2 hid (show 0 < subscriptionWindowFiveHours by decide) hpos
  · exact checkWindowTx_ok h4 hid (show 0 < subscriptionWindowDaily by decide) hpos
  · exact checkWindowTx_ok h5 hid (show 0 < subscriptionWindowWeekly by decide) hpos

theorem passesLimitsTx_ok {b : Bool} (h : Tx.Ok (passesLimitsTx sub amount now) db b db') :
    db' = db ∧ (b = true → 0 < amount → HasRoom now sub amount db) := by
  obtain ⟨r, db1, h1, h2⟩ := Tx.Ok.bind h
  obtain rfl := (checkSubscriptionRollingLimitsTx_readOnly sub amount now).attempt.db_eq h1
  split at h2
  · obtain ⟨hdb, h⟩ := checkSubscriptionRollingLimitsTx_ok h1.attempt
    exact ⟨h2.pure.2, fun _ => h⟩
  · obtain ⟨rfl, rfl⟩ := h2.pure
    exact ⟨rfl, fun hb => by cases hb⟩
  · obtain ⟨rfl, rfl⟩ := h2.pure
    exact ⟨rfl, fun hb => by cases hb⟩
  · exact h2.fail.elim

theorem checkIncreaseTx_ok (h : Tx.Ok (checkIncreaseTx sub delta now) db u db') : db' = db := by
  unfold checkIncreaseTx at h
  split at h
  · exact (checkSubscriptionRollingLimitsTx_ok h).1
  · exact h.pure.2

/-! ## Deltas -/

theorem newUsed_eq : newUsed sub delta = max 0 (sub.amountUsed + delta) := by
  unfold newUsed
  split <;> omega

/-- `db'` is `db` after the counter of `sub` was set to `used` with a ledger row of `delta`. -/
structure Metered (now : Int) (sub : UserSubscription) (used delta : Int) (requestId : String)
    (action : LedgerAction) (db db' : Database) : Prop where
  row : db.userSubscriptions.find? sub.id = some sub
  within : 0 < sub.amountTotal → used ≤ sub.amountTotal
  frame : db' = { db with
    userSubscriptions := db.userSubscriptions.save { sub with amountUsed := used }
    usageLedgers := ledgerAfter now sub requestId delta action db.usageLedgers }

theorem postConsumeUserSubscriptionDeltaTx_ok {subId : Nat} {action : LedgerAction}
    (h : Tx.Ok (postConsumeUserSubscriptionDeltaTx now subId delta requestId action) db u db') :
    ∃ sub, sub.id = subId ∧
      Metered now sub (max 0 (sub.amountUsed + delta)) delta requestId action db db' := by
  obtain ⟨sub, hf, h1⟩ := h.first_bind
  have hid : sub.id = subId := (Table.find?_eq_some.1 hf).2
  obtain ⟨_, db1, h2, h3⟩ := h1.bind
  obtain rfl := checkIncreaseTx_ok h2
  obtain ⟨hc, h4⟩ := h3.failIf_bind
  have hdb := createSubscriptionUsageLedgerTx_ok h4.exec_bind
  rw [newUsed_eq] at hc hdb
  exact ⟨sub, hid, by rw [hid]; exact hf, fun ht => not_lt.1 fun hlt => hc ⟨ht, hlt⟩, hdb⟩

/-! ## Charges and refunds of a request -/

/-- `db'` is `db` after a charge of `amount` for a new request. -/
structure Charged (now : Int) (requestId : String) (userId : Nat) (amount : Int)
    (sub : UserSubscription) (db db' : Database) : Prop where
  row : db.userSubscriptions.find? sub.id = some sub
  owner : sub.userId = userId
  new : findPreConsumeRecord db requestId = none
  room : 0 < amount → HasRoom now sub amount db
  frame : db' = { db with
    preConsumeRecords := db.preConsumeRecords.insert
      { id := 0, requestId, userId, userSubscriptionId := sub.id, preConsumed := amount
        status := .consumed }
    userSubscriptions := db.userSubscriptions.save
      { sub with amountUsed := sub.amountUsed + amount }
    usageLedgers := ledgerAfter now sub requestId amount .preConsume db.usageLedgers }

theorem Charged.id_ne_zero (h : Charged now requestId userId amount sub db db') : sub.id ≠ 0 := by
  intro h0
  have hrow := h.row
  rw [h0, Table.find?_zero] at hrow
  cases hrow

theorem Charged.ledger (h : Charged now requestId userId amount sub db db') (hpos : 0 < amount) :
    db'.usageLedgers =
      db.usageLedgers.insert (ledgerRow now sub requestId amount .preConsume) := by
  rw [h.frame]
  exact if_neg hpos.ne'

def chargeResult (sub : UserSubscription) (amount : Int) : SubscriptionPreConsumeResult :=
  { userSubscriptionId := sub.id, preConsumed := amount
    amountTotal := sub.amountTotal, amountUsedBefore := sub.amountUsed
    amountUsedAfter := sub.amountUsed + amount }

theorem chargeFirstTx_ok {subs : List UserSubscription}
    (hnew : findPreConsumeRecord db requestId = none)
    (hsubs : ∀ s ∈ subs, db.userSubscriptions.find? s.id = some s ∧ s.userId = userId)
    (h : Tx.Ok (chargeFirstTx cfg now requestId userId modelName amount subs) db r db') :
    ∃ sub ∈ subs, r = chargeResult sub amount ∧ Charged now requestId userId amount sub db db' := by
  induction subs with
  | nil => exact (Tx.Ok.fail h).elim
  | cons sub rest ih =>
    have hrest : Tx.Ok (chargeFirstTx cfg now requestId userId modelName amount rest) db r db' →
        ∃ s ∈ sub :: rest, r = chargeResult s amount ∧
          Charged now requestId userId amount s db db' := fun hr => by
      obtain ⟨s, hs, h1⟩ := ih (fun s hs => hsubs s (List.mem_cons_of_mem _ hs)) hr
      exact ⟨s, List.mem_cons_of_mem _ hs, h1⟩
    unfold chargeFirstTx at h
    split at h
    · exact hrest h
    · obtain ⟨b, db1, h1, h2⟩ := h.bind
      obtain ⟨rfl, h⟩ := passesLimitsTx_ok h1
      split at h2
      next hb =>
        have h3 := Tx.Ok.query_bind h2
        rw [hnew] at h3
        obtain ⟨_, db2, h4, h5⟩ := h3.exec_bind.exec_bind.bind
        obtain ⟨hr, rfl⟩ := h5.pure
        obtain ⟨hrow, hown⟩ := hsubs sub List.mem_cons_self
        exact ⟨sub, List.mem_cons_self, hr, hrow, hown, hnew, h hb,
          createSubscriptionUsageLedgerTx_ok h4⟩
      · exact hrest h2

theorem preConsumeUserSubscriptionTx_ok
    (h : Tx.Ok (preConsumeUserSubscriptionTx cfg now requestId userId modelName amount) db r db') :
    (∃ record, findPreConsumeRecord db requestId = some record ∧ record.status ≠ .refunded ∧
        r.userSubscriptionId = record.userSubscriptionId ∧ r.preConsumed = record.preConsumed ∧
        db' = db) ∨
      ∃ sub, r = chargeResult sub amount ∧ Charged now requestId userId amount sub db db' := by
  have h1 := Tx.Ok.query_bind h
  cases hf : findPreConsumeRecord db requestId with
  | some record =>
    rw [hf] at h1
    obtain ⟨hs, h2⟩ := Tx.Ok.failIf_bind h1
    obtain ⟨sub, hsub, h3⟩ := Tx.Ok.first_bind h2
    obtain ⟨rfl, rfl⟩ := h3.pure
    exact .inl ⟨record, rfl, hs, (Table.find?_eq_some.1 hsub).2, rfl, rfl⟩
  | none =>
    rw [hf] at h1
    obtain ⟨subs, db1, h2, h3⟩ := Tx.Ok.bind h1
    obtain ⟨rfl, rfl⟩ := h2.orFail.query
    obtain ⟨_, h4⟩ := h3.failIf_bind
    have hsubs : ∀ s ∈ activeSubscriptions db1 userId now,
        db1.userSubscriptions.find? s.id = some s ∧ s.userId = userId := fun s hs => by
      obtain ⟨hm, hp⟩ := List.mem_filter.1 ((List.mem_insertionSort _).1 hs)
      simp only [Bool.and_eq_true, decide_eq_true_eq] at hp
      exact ⟨Table.find?_key hm, hp.1.1⟩
    obtain ⟨sub, _, hr, hc⟩ := chargeFirstTx_ok hf hsubs h4
    exact .inr ⟨sub, hr, hc⟩

theorem preConsumeUserSubscription_cases (cfg : Config) (now : Int) (requestId : String)
    (userId : Nat) (modelName : String) (amount : Int) (faults : List Bool) (db : Database) :
    (∃ e, preConsumeUserSubscription cfg now requestId userId modelName amount faults db =
      (.error e, db)) ∨
    ∃ r db', 0 < amount ∧
      preConsumeUserSubscription cfg now requestId userId modelName amount faults db =
        (.ok r, db') ∧
      Tx.Ok (preConsumeUserSubscriptionTx cfg now requestId userId modelName amount) db r db' := by
  unfold preConsumeUserSubscription
  split
  · exact .inl ⟨_, rfl⟩
  split
  · exact .inl ⟨_, rfl⟩
  split
  · exact .inl ⟨_, rfl⟩
  next hpos =>
    rcases Tx.transaction_cases (preConsumeUserSubscriptionTx cfg now requestId userId modelName
        amount) faults db with ⟨r, db', he, h⟩ | ⟨e, he⟩
    · exact .inr ⟨r, db', by omega, he, h⟩
    · exact .inl ⟨e, he⟩

theorem preConsumeUserSubscription_charged {faults : List Bool}
    (hnew : findPreConsumeRecord db requestId = none)
    (h : preConsumeUserSubscription cfg now requestId userId modelName amount faults db =
      (.ok r, db')) :
    0 < amount ∧ ∃ sub, r = chargeResult sub amount ∧
      Charged now requestId userId amount sub db db' := by
  rcases preConsumeUserSubscription_cases cfg now requestId userId modelName amount faults db with
    ⟨e, he⟩ | ⟨r', db1, hpos, he, h1⟩
  · rw [he] at h
    cases h
  · rw [he] at h
    cases h
    rcases preConsumeUserSubscriptionTx_ok h1 with ⟨record, hrec, _⟩ | h
    · rw [hnew] at hrec
      cases hrec
    · exact ⟨hpos, h⟩

theorem refundSubscriptionPreConsumeTx_ok
    (h : Tx.Ok (refundSubscriptionPreConsumeTx now requestId) db u db') :
    ∃ record, findPreConsumeRecord db requestId = some record ∧
      ((record.status = .refunded ∧ db' = db) ∨
        (record.status ≠ .refunded ∧ ∃ db1, (record.preConsumed ≤ 0 ∧ db1 = db ∨
            0 < record.preConsumed ∧ ∃ sub, sub.id = record.userSubscriptionId ∧
              Metered now sub (max 0 (sub.amountUsed + -record.preConsumed)) (-record.preConsumed)
                record.requestId .refund db db1) ∧
          db' = { db1 with
            preConsumeRecords := db1.preConsumeRecords.save
              { record with status := .refunded } })) := by
  obtain ⟨record, hf, h1⟩ := h.first_bind
  refine ⟨record, hf, ?_⟩
  split at h1
  next hs =>
    exact .inl ⟨hs, h1.pure.2⟩
  next hs =>
    refine .inr ⟨hs, ?_⟩
    split at h1
    next hp =>
      exact ⟨db, .inl ⟨hp, rfl⟩, h1.exec⟩
    next hp =>
      obtain ⟨_, db1, h2, h3⟩ := h1.bind
      exact ⟨db1, .inr ⟨by omega, postConsumeUserSubscriptionDeltaTx_ok h2⟩, h3.exec⟩

end Xingkong
