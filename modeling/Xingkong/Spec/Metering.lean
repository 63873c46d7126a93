import Xingkong.Spec.Billing

/-!
# Counter and ledger of a subscription

Every transaction that charges a subscription moves its counter and writes the same delta to the
ledger. `MovedBy n d` says so for one transaction: the counter and the ledger sum of subscription
`n` moved by `d`, nothing else of either did, and no counter went above its total.
-/

namespace Xingkong

open Rdb

variable {db db1 db' : Database} {cfg : Config} {now : Int} {faults : List Bool}

namespace Database

def ledgerSum (db : Database) (subId : Nat) : Int :=
  db.usageLedgers.sum fun r => if r.userSubscriptionId = subId then r.delta else 0

/-- No counter is above its total; a total of 0 means no limit. -/
def Capped (db : Database) : Prop :=
  ∀ sub ∈ db.userSubscriptions.rows, 0 < sub.amountTotal → sub.amountUsed ≤ sub.amountTotal

instance (db : Database) : Decidable db.Capped :=
  inferInstanceAs (Decidable (∀ sub ∈ db.userSubscriptions.rows, _ → _))

end Database

theorem Database.amountUsed_nonneg (h : ∀ sub ∈ db.userSubscriptions.rows, 0 ≤ sub.amountUsed)
    (n : Nat) : 0 ≤ db.amountUsed n := by
  unfold Database.amountUsed
  cases hrow : db.userSubscriptions.find? n with
  | none => exact le_refl 0
  | some sub => exact h sub (Table.find?_eq_some.1 hrow).1

theorem Database.request_congr (h : db'.preConsumeRecords = db.preConsumeRecords) :
    db'.accounts.request = db.accounts.request := by
  funext r
  simp [Database.accounts, findPreConsumeRecord, h]

structure SameCharges (db db' : Database) : Prop where
  subs : db'.userSubscriptions = db.userSubscriptions
  ledger : db'.usageLedgers = db.usageLedgers
  records : db'.preConsumeRecords = db.preConsumeRecords

structure MovedBy (n : Nat) (d : Int) (db db' : Database) : Prop where
  used : ∀ m, db'.amountUsed m = db.amountUsed m + if m = n then d else 0
  ledger : ∀ m, db'.ledgerSum m = db.ledgerSum m + if m = n then d else 0
  capped : db.Capped → db'.Capped

namespace SameCharges

theorem refl (db : Database) : SameCharges db db := ⟨rfl, rfl, rfl⟩

theorem trans (h : SameCharges db db1) (h' : SameCharges db1 db') : SameCharges db db' :=
  ⟨h'.subs.trans h.subs, h'.ledger.trans h.ledger, h'.records.trans h.records⟩

theorem moved (h : SameCharges db db') (n : Nat) : MovedBy n 0 db db' := by
  refine ⟨fun m => ?_, fun m => ?_, fun hc => ?_⟩
  · simp [Database.amountUsed, h.subs]
  · simp [Database.ledgerSum, h.ledger]
  · unfold Database.Capped
    rw [h.subs]
    exact hc

theorem request (h : SameCharges db db') : db'.accounts.request = db.accounts.request :=
  Database.request_congr h.records

end SameCharges

variable {n : Nat} {d : Int} {action : LedgerAction} {modelName : String}

theorem MovedBy.trans_same (h : MovedBy n d db db1) (h' : SameCharges db1 db') :
    MovedBy n d db db' := by
  have h0 := h'.moved n
  refine ⟨fun m => ?_, fun m => ?_, fun hc => h0.capped (h.capped hc)⟩
  · rw [h0.used, h.used]; simp
  · rw [h0.ledger, h.ledger]; simp

theorem SameCharges.trans_moved (h : SameCharges db db1) (h' : MovedBy n d db1 db') :
    MovedBy n d db db' := by
  have h0 := h.moved n
  refine ⟨fun m => ?_, fun m => ?_, fun hc => h'.capped (h0.capped hc)⟩
  · rw [h'.used, h0.used]; simp
  · rw [h'.ledger, h0.ledger]; simp

/-! ## Transactions -/

variable {sub : UserSubscription} {delta amount : Int} {requestId : String} {userId : Nat}
  {v : Reservation}

theorem movedBy_of_save (hrow : db.userSubscriptions.find? sub.id = some sub)
    (hcap : (0 < sub.amountTotal → sub.amountUsed ≤ sub.amountTotal) → 0 < sub.amountTotal →
      sub.amountUsed + delta ≤ sub.amountTotal) (hsubs : db'.userSubscriptions =
      db.userSubscriptions.save { sub with amountUsed := sub.amountUsed + delta })
    (hledger : db'.usageLedgers = ledgerAfter now sub requestId delta action db.usageLedgers) :
    MovedBy sub.id delta db db' := by
  obtain ⟨hm, _⟩ := Table.find?_eq_some.1 hrow
  refine ⟨fun m => ?_, fun m => ?_, fun hc => ?_⟩
  · unfold Database.amountUsed
    rw [hsubs]
    by_cases he : m = sub.id
    · subst he
      rw [Table.find?_save_self (r := { sub with amountUsed := sub.amountUsed + delta }) hrow rfl,
        hrow]
      simp
    · rw [Table.find?_save_of_ne he, if_neg he, add_zero]
  · unfold Database.ledgerSum
    rw [hledger]
    unfold ledgerAfter
    split
    next hz =>
      simp [hz]
    · rw [Table.sum_insert]
      congr 1
      by_cases he : m = sub.id
      · subst he
        simp [ledgerRow, Table.stored, Row.withKey]
      · have he' : ¬ sub.id = m := fun h => he h.symm
        simp [ledgerRow, Table.stored, Row.withKey, he, he']
  · intro s hs hpos
    rw [hsubs] at hs
    rcases Table.mem_of_mem_save hs with rfl | hs
    · exact hcap (hc sub hm) hpos
    · exact hc s hs hpos

theorem Metered.moved (h : Metered now sub (max 0 (sub.amountUsed + delta)) delta requestId
      action db db') (hpos : 0 ≤ db.amountUsed sub.id + delta) : MovedBy sub.id delta db db' := by
  have hused : db.amountUsed sub.id = sub.amountUsed := amountUsed_of_row h.row
  have hmax : max 0 (sub.amountUsed + delta) = sub.amountUsed + delta := max_eq_right (by omega)
  have h1 := h.within
  have h2 := h.frame
  rw [hmax] at h1 h2
  exact movedBy_of_save h.row (fun _ hp => h1 hp) (by rw [h2]) (by rw [h2])

theorem Charged.moved (hpos : 0 < amount) (h : Charged now requestId userId amount sub db db') :
    MovedBy sub.id amount db db' :=
  movedBy_of_save h.row (fun _ hp => (h.room hpos).total hp) (by rw [h.frame]) (by rw [h.frame])

theorem postConsumeUserSubscriptionDelta_moved {subId : Nat} (now : Int) (faults : List Bool)
    (hpos : 0 ≤ db.amountUsed subId + delta) :
    (∃ e, postConsumeUserSubscriptionDelta now subId delta faults db = (.error e, db)) ∨
      ∃ db', postConsumeUserSubscriptionDelta now subId delta faults db = (.ok (), db') ∧
        MovedBy subId delta db db' ∧ db'.accounts.request = db.accounts.request := by
  unfold postConsumeUserSubscriptionDelta
  split
  · exact .inl ⟨_, rfl⟩
  split
  next hz =>
    subst hz
    exact .inr ⟨db, rfl, (SameCharges.refl db).moved subId, rfl⟩
  · rcases Tx.transaction_cases (postConsumeUserSubscriptionDeltaTx now subId delta "" .settle)
      faults db with ⟨u, d, he, hok⟩ | ⟨e, he⟩
    · obtain ⟨sub, rfl, hm⟩ := postConsumeUserSubscriptionDeltaTx_ok hok
      exact .inr ⟨d, he, hm.moved hpos, Database.request_congr (by rw [hm.frame])⟩
    · exact .inl ⟨e, he⟩

theorem Charged.request (h : Charged now requestId userId amount sub db db') :
    db'.accounts.request = Function.update db.accounts.request requestId
      (some ⟨sub.id, amount, .consumed⟩) := by
  let record : SubscriptionPreConsumeRecord :=
    { id := 0, requestId, userId, userSubscriptionId := sub.id, preConsumed := amount
      status := .consumed }
  have h1 := congrArg Accounts.request (accounts_insert_record db record h.new)
  rw [h.frame]
  exact h1

/-- **A request that has a record is not charged again.** -/
theorem preConsumeUserSubscription_repeat (hold : db.accounts.request requestId = some v) :
    (preConsumeUserSubscription cfg now requestId userId modelName amount faults db).2 = db := by
  obtain ⟨record, hrec, _⟩ := Option.map_eq_some_iff.1 hold
  rcases preConsumeUserSubscription_cases cfg now requestId userId modelName amount faults db with
    ⟨e, he⟩ | ⟨r, db1, _, he, h⟩
  · rw [he]
  · rw [he]
    rcases preConsumeUserSubscriptionTx_ok h with ⟨_, _, _, _, _, rfl⟩ | ⟨sub, _, hc⟩
    · rfl
    · rw [hc.new] at hrec
      cases hrec

theorem refundSubscriptionPreConsume_moved {r : Except Err Unit}
    (hreq : db.accounts.request requestId = some v) (hs : v.status = .consumed)
    (hamount : 0 < v.amount) (hpos : 0 ≤ db.amountUsed v.subscriptionId + -v.amount)
    (h : refundSubscriptionPreConsume now requestId faults db = (r, db')) :
    (∃ e, r = .error e ∧ db' = db) ∨
      (r = .ok () ∧ MovedBy v.subscriptionId (-v.amount) db db' ∧
        db'.accounts.request =
          Function.update db.accounts.request requestId (some { v with status := .refunded })) := by
  have h1 : Atomic _ db (refundSubscriptionPreConsume now requestId faults db) :=
    refundSubscriptionPreConsume_atomic hreq hs hamount
  rcases h1 with ⟨u, hok, hacc⟩ | ⟨e, he⟩
  · rw [h] at hok hacc
    obtain rfl : r = .ok u := hok
    refine .inr ⟨rfl, ?_, congrArg Accounts.request hacc⟩
    unfold refundSubscriptionPreConsume at h
    split at h
    · cases h
    obtain ⟨record, hrec, h1⟩ := refundSubscriptionPreConsumeTx_ok (Tx.transaction_ok h)
    obtain rfl : record.reservation = v := by
      have : (findPreConsumeRecord db requestId).map (·.reservation) = some v := hreq
      rw [hrec] at this
      exact Option.some.inj this
    rcases h1 with ⟨href, _⟩ | ⟨_, db1, hm, rfl⟩
    · exact absurd (href.symm.trans hs) (by decide)
    rcases hm with ⟨hle, _⟩ | ⟨_, sub, hsub, hm⟩
    · exact absurd hamount (not_lt.2 hle)
    have h1 := hm.moved (by rw [hsub]; exact hpos)
    rw [hsub] at h1
    -- saving the record moves no counter
    exact ⟨h1.used, h1.ledger, h1.capped⟩
  · rw [he] at h
    cases h
    exact .inl ⟨e, rfl, rfl⟩

/-- **A reservation that was refunded is not refunded again.** -/
theorem refundSubscriptionPreConsume_repeat (hreq : db.accounts.request requestId = some v)
    (hs : v.status = .refunded) :
    (refundSubscriptionPreConsume now requestId faults db).2 = db := by
  obtain ⟨record, hrec, rfl⟩ := Option.map_eq_some_iff.1 hreq
  unfold refundSubscriptionPreConsume
  split
  · rfl
  refine Tx.transaction_invariant (P := fun d => d = db) rfl (fun _ d hok => ?_) faults
  obtain ⟨record', hrec', h⟩ := refundSubscriptionPreConsumeTx_ok hok
  rw [hrec] at hrec'
  obtain rfl := Option.some.inj hrec'
  rcases h with ⟨_, rfl⟩ | ⟨hne, _⟩
  · rfl
  · exact absurd hs hne

theorem TokenOnly.sameCharges (h : TokenOnly db db') : SameCharges db db' := by
  obtain ⟨_, _, rfl⟩ := h
  exact ⟨rfl, rfl, rfl⟩

end Xingkong
