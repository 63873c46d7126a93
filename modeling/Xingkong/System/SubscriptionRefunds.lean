import Xingkong.Lib.Run
import Xingkong.Spec.Subscription

/-!
# Refunds over the life of a subscription

A run is any list of the four calls that end a subscription: the user's cancellation, the
administrator's invalidation and deletion, and the expiry job. The two administrator calls
refund without looking at the status. This file shows that the refunds of a run stay within
the unused paid part, and that none comes after breakage, as long as the administrator calls
find the subscription neither cancelled nor written off.
-/

namespace Xingkong

open Rdb List Database

inductive EndCall
  | cancelSubscriptionByUser (userId : Nat)
  | adminInvalidateUserSubscription
  | adminDeleteUserSubscription
  /-- `visit` is the order in which the users of due subscriptions are walked. -/
  | expireDueSubscriptions (limit : Int) (visit : List Nat → List Nat)
      (visits : ∀ us, (visit us).Perm us) (listFails : Bool)
    (userFaults lotFaults : Nat → List Bool)

structure EndStep where
  call : EndCall
  now : Int
  faults : List Bool

def EndStep.next (cfg : Config) (subId : Nat) (db : Database) (s : EndStep) : Database :=
  match s.call with
  | .cancelSubscriptionByUser userId => (cancelSubscriptionByUser s.now userId subId s.faults db).2
  | .adminInvalidateUserSubscription =>
    (adminInvalidateUserSubscription s.now subId s.faults db).2
  | .adminDeleteUserSubscription => (adminDeleteUserSubscription s.now subId s.faults db).2
  | .expireDueSubscriptions limit visit _ listFails userFaults lotFaults =>
    (expireDueSubscriptions cfg s.now limit visit listFails userFaults lotFaults db).2

/-- The lot of the subscription was marked by the breakage job. -/
def Recognised (subId : Nat) (db : Database) : Prop :=
  ∃ l ∈ db.subscriptionLots.rows, l.userSubscriptionId = subId ∧ l.status = .expired

/-- An administrator call that would refund something finds a subscription that is neither
cancelled nor written off. -/
def EndStep.Guarded (s : EndStep) (subId : Nat) (db : Database) : Prop :=
  match s.call with
  | .adminInvalidateUserSubscription | .adminDeleteUserSubscription =>
    ∀ sub, db.userSubscriptions.find? subId = some sub →
      0 < calculateSubscriptionRefundQuota sub → sub.status ≠ .cancelled ∧ ¬ Recognised subId db
  | _ => True

/-- A call does nothing, ends the subscription it finds, or runs the expiry job. -/
theorem EndStep.next_cases (cfg : Config) (subId : Nat) (db : Database) (s : EndStep) :
    s.next cfg subId db = db ∨
    (∃ sub db1, db.userSubscriptions.find? subId = some sub ∧
      (sub.status = .active ∧ sub.userId ≠ 0 ∨ s.call = .adminInvalidateUserSubscription) ∧
      Tx.Ok (refundSubscriptionTx s.now sub) (db.cancelSubscriptionRow sub.id s.now) () db1 ∧
      Downgraded sub s.now db1 (s.next cfg subId db)) ∨
    (∃ sub db1 db2, db.userSubscriptions.find? subId = some sub ∧
      s.call = .adminDeleteUserSubscription ∧
      Tx.Ok (refundSubscriptionTx s.now sub) db () db1 ∧ Downgraded sub s.now db1 db2 ∧
      s.next cfg subId db = { db2 with
        userSubscriptions := db2.userSubscriptions.delete fun s => s.id = subId }) ∨
    ∃ limit visit visits listFails userFaults lotFaults,
      s.call = .expireDueSubscriptions limit visit visits listFails userFaults lotFaults ∧
      s.next cfg subId db =
        (expireDueSubscriptions cfg s.now limit visit listFails userFaults lotFaults db).2 := by
  obtain ⟨call, now, faults⟩ := s
  cases call with
  | cancelSubscriptionByUser userId =>
    simp only [EndStep.next, cancelSubscriptionByUser]
    split
    next => exact .inl rfl
    next hids =>
      rcases Tx.transaction_cases (cancelSubscriptionByUserTx now userId subId) faults db with
        ⟨r, db', he, hok⟩ | ⟨e, he⟩ <;> rw [he]
      · obtain ⟨sub, db1, hrow, hown, hact, _, _, hr, hdown⟩ := cancelSubscriptionByUserTx_ok hok
        exact .inr (.inl ⟨sub, db1, hrow, .inl ⟨hact, by omega⟩, hr, hdown⟩)
      · exact .inl rfl
  | adminInvalidateUserSubscription =>
    simp only [EndStep.next, adminInvalidateUserSubscription]
    split
    · exact .inl rfl
    rcases Tx.transaction_cases (adminInvalidateUserSubscriptionTx now subId) faults db with
      ⟨r, db', he, hok⟩ | ⟨e, he⟩ <;> rw [he]
    · obtain ⟨sub, db1, hrow, hr, hdown⟩ := adminInvalidateUserSubscriptionTx_ok hok
      exact .inr (.inl ⟨sub, db1, hrow, .inr trivial, hr, hdown⟩)
    · exact .inl rfl
  | adminDeleteUserSubscription =>
    simp only [EndStep.next, adminDeleteUserSubscription]
    split
    · exact .inl rfl
    rcases Tx.transaction_cases (adminDeleteUserSubscriptionTx now subId) faults db with
      ⟨r, db', he, hok⟩ | ⟨e, he⟩ <;> rw [he]
    · obtain ⟨sub, db1, db2, hrow, hr, hdown, hdb⟩ := adminDeleteUserSubscriptionTx_ok hok
      exact .inr (.inr (.inl ⟨sub, db1, db2, hrow, trivial, hr, hdown, hdb⟩))
    · exact .inl rfl
  | expireDueSubscriptions => exact .inr (.inr (.inr ⟨_, _, _, _, _, _, rfl, rfl⟩))

/-! ## A refund -/

def Refunded (sub : UserSubscription) (db db' : Database) : Prop :=
  ∀ v, db'.userQuota v = db.userQuota v +
    if v = sub.userId ∧ (db.liveUser? v).isSome then calculateSubscriptionRefundQuota sub else 0

variable {now : Int} {u : Unit}

section Refund

variable {db db' : Database} {sub : UserSubscription}

theorem calculateSubscriptionRefundQuota_nonneg (sub : UserSubscription) :
    0 ≤ calculateSubscriptionRefundQuota sub := by
  rw [calculateSubscriptionRefundQuota_eq]
  split <;> omega

theorem calculateSubscriptionRefundQuota_le (sub : UserSubscription) :
    calculateSubscriptionRefundQuota sub ≤ max 0 (sub.paidAmount - sub.amountUsed) := by
  rw [calculateSubscriptionRefundQuota_eq]
  split <;> omega

theorem transferSubscriptionLotToWalletTx_frame {refundQuota : Int}
    (h : Tx.Ok (transferSubscriptionLotToWalletTx now sub refundQuota) db u db') :
    db'.users = db.users ∧ db'.userSubscriptions = db.userSubscriptions := by
  rcases transferSubscriptionLotToWalletTx_ok h with rfl | ⟨_, _, _, _, _, _, _, _, _, _, rfl⟩
  all_goals exact ⟨rfl, rfl⟩

theorem refundSubscriptionTx_refunded (h : Tx.Ok (refundSubscriptionTx now sub) db u db') :
    Refunded sub db db' ∧ db'.userSubscriptions = db.userSubscriptions := by
  rcases refundSubscriptionTx_ok h with ⟨hq, rfl⟩ | ⟨_, ht⟩
  · have h0 : calculateSubscriptionRefundQuota sub = 0 :=
      le_antisymm hq (calculateSubscriptionRefundQuota_nonneg sub)
    exact ⟨fun v => by simp [h0], rfl⟩
  · obtain ⟨hu, hs⟩ := transferSubscriptionLotToWalletTx_frame ht
    refine ⟨fun v => ?_, hs⟩
    rw [userQuota_congr hu, userQuota_addUserQuota]

end Refund

/-! ## The expiry job -/

def expireRow (now : Int) (us : List Nat) (s : UserSubscription) : UserSubscription :=
  if s.userId ∈ us ∧ s.due now = true then { s with status := .expired } else s

@[simp] theorem expireRow_nil (now : Int) (s : UserSubscription) : expireRow now [] s = s := by
  simp [expireRow]

theorem expireRow_cons (now : Int) (u : Nat) (us : List Nat) (s : UserSubscription) :
    expireRow now us (expireRow now [u] s) = expireRow now (u :: us) s := by
  unfold expireRow
  by_cases hd : s.due now = true
  · by_cases hu : s.userId = u
    · simp [hu, hd]
    · simp [hu]
  · simp [hd]

theorem find?_expireUserRows (db : Database) (u : Nat) (n : Nat) :
    (db.expireUserRows u now).userSubscriptions.find? n =
      (db.userSubscriptions.find? n).map (expireRow now [u]) := by
  unfold Database.expireUserRows
  rw [Table.find?_update]
  congr 1
  funext s
  simp [expireRow]

/-- `db'` is `db` after the due subscriptions of users `us` were marked. -/
structure Expiry (now : Int) (us : List Nat) (db db' : Database) : Prop where
  quota : ∀ v, db'.userQuota v = db.userQuota v
  lots : db'.subscriptionLots = db.subscriptionLots
  rows : ∀ n, db'.userSubscriptions.find? n =
    (db.userSubscriptions.find? n).map (expireRow now us)

section Expiry

variable {us : List Nat} {db db' db'' : Database}

theorem Expiry.refl (now : Int) (db : Database) : Expiry now [] db db :=
  ⟨fun _ => rfl, rfl, fun n => by cases db.userSubscriptions.find? n <;> simp⟩

theorem Expiry.cons {u : Nat} (h : Expiry now [u] db db') (h' : Expiry now us db' db'') :
    Expiry now (u :: us) db db'' := by
  refine ⟨fun v => (h'.quota v).trans (h.quota v), h'.lots.trans h.lots, fun n => ?_⟩
  rw [h'.rows, h.rows, Option.map_map]
  congr 1
  funext s
  exact expireRow_cons now u us s

theorem expiry_of_ok {u : Nat} {target : String}
    (h : Tx.Ok (expireUserSubscriptionsTx now u) db target db') : Expiry now [u] db db' := by
  have hg := expireUserSubscriptionsTx_ok h
  refine ⟨fun v => (hg.userQuota v).trans rfl, ?_, fun n => ?_⟩
  · obtain ⟨users, rfl⟩ := hg.frame
    rfl
  · rw [← find?_expireUserRows]
    obtain ⟨users, rfl⟩ := hg.frame
    rfl

theorem expireUsers_expiry (now : Int) (faults : Nat → List Bool) (us : List Nat) (count : Int)
    (db : Database) :
    ∃ vs, Expiry now vs db (expireUsers now faults us count db).2 ∧
      ((expireUsers now faults us count db).1.2 = none → vs = us) := by
  induction us generalizing count db with
  | nil => exact ⟨[], .refl now db, fun _ => rfl⟩
  | cons u us ih =>
    unfold expireUsers
    rcases Tx.transaction_cases (expireUserSubscriptionsTx now u) (faults u) db with
      ⟨target, db1, he, hok⟩ | ⟨e, he⟩
    · simp only [he]
      obtain ⟨vs, hvs, hall⟩ := ih (if (faults u).head? = some true then count else count +
        (db.userSubscriptions.filter fun s => s.userId = u && s.due now).length) db1
      refine ⟨u :: vs, (expiry_of_ok hok).cons hvs, fun hno => ?_⟩
      rw [hall hno]
    · simp only [he]
      exact ⟨[], .refl now db, fun hno => by cases hno⟩

theorem recognizeSubscriptionBreakageTx_recognised {subId n : Nat}
    (h : Tx.Ok (recognizeSubscriptionBreakageTx now subId) db u db') (hr : Recognised n db') :
    Recognised n db ∨ n = subId := by
  rcases recognizeSubscriptionBreakageTx_ok h with
    rfl | ⟨lot, hm, hid, rfl | ⟨_, _, rfl⟩⟩
  · exact .inl hr
  all_goals
    obtain ⟨l, hl, hln, h1⟩ := hr
    rcases Table.mem_of_mem_save hl with rfl | hl
    · exact .inr (hln.symm.trans hid)
    · exact .inl ⟨l, hl, hln, h1⟩

theorem recognizeSubscriptionBreakageTx_frame {subId : Nat}
    (h : Tx.Ok (recognizeSubscriptionBreakageTx now subId) db u db') :
    db'.users = db.users ∧ db'.userSubscriptions = db.userSubscriptions := by
  rcases recognizeSubscriptionBreakageTx_ok h with rfl | ⟨_, _, _, rfl | ⟨_, _, rfl⟩⟩ <;>
    exact ⟨rfl, rfl⟩

theorem recognizeBreakages_frame (now : Int) (faults : Nat → List Bool)
    (subs : List UserSubscription)
    (db : Database) :
    (recognizeBreakages now faults subs db).users = db.users ∧
      (recognizeBreakages now faults subs db).userSubscriptions = db.userSubscriptions ∧
      ∀ n, Recognised n (recognizeBreakages now faults subs db) →
        Recognised n db ∨ ∃ s ∈ subs, s.id = n := by
  induction subs generalizing db with
  | nil => exact ⟨rfl, rfl, fun n hr => .inl hr⟩
  | cons sub subs ih =>
    unfold recognizeBreakages
    obtain ⟨h1, h2, h3⟩ := ih
      (Tx.transaction (recognizeSubscriptionBreakageTx now sub.id) (faults sub.id) db).2
    rcases Tx.transaction_cases (recognizeSubscriptionBreakageTx now sub.id) (faults sub.id) db with
      ⟨u, db1, he, hok⟩ | ⟨e, he⟩
    · rw [he] at h1 h2 h3 ⊢
      obtain ⟨hu, hs⟩ := recognizeSubscriptionBreakageTx_frame hok
      refine ⟨h1.trans hu, h2.trans hs, fun n hr => ?_⟩
      rcases h3 n hr with hr | ⟨s, hs, hid⟩
      · rcases recognizeSubscriptionBreakageTx_recognised hok hr with hr | rfl
        · exact .inl hr
        · exact .inr ⟨sub, mem_cons_self, rfl⟩
      · exact .inr ⟨s, mem_cons_of_mem _ hs, hid⟩
    · rw [he] at h1 h2 h3 ⊢
      refine ⟨h1, h2, fun n hr => (h3 n hr).imp_right ?_⟩
      rintro ⟨s, hs, hid⟩
      exact ⟨s, mem_cons_of_mem _ hs, hid⟩

/-- `db'` is `db` after the job: rows are marked, and a subscription is written off only after
the due rows of its owner were marked. -/
def ExpiryJob (now : Int) (db db' : Database) : Prop :=
  ∃ vs db₁, Expiry now vs db db₁ ∧ db'.users = db₁.users ∧
    db'.userSubscriptions = db₁.userSubscriptions ∧
    ∀ n, Recognised n db' → Recognised n db ∨
      ∃ s, db.userSubscriptions.find? n = some s ∧ s.due now = true ∧
        (s.userId = 0 ∨ s.userId ∈ vs)

theorem Expiry.recognised (h : Expiry now us db db') {n : Nat} (hr : Recognised n db') :
    Recognised n db := by
  obtain ⟨l, hl, hid⟩ := hr
  rw [h.lots] at hl
  exact ⟨l, hl, hid⟩

theorem Expiry.job (h : Expiry now us db db') : ExpiryJob now db db' :=
  ⟨us, db', h, rfl, rfl, fun _ hr => .inl (h.recognised hr)⟩

theorem expireDueSubscriptions_job (cfg : Config) (now limit : Int) {visit : List Nat → List Nat}
    (hv : ∀ us, (visit us).Perm us) (listFails : Bool) (userFaults lotFaults : Nat → List Bool)
    (db : Database) :
    ExpiryJob now db
      (expireDueSubscriptions cfg now limit visit listFails userFaults lotFaults db).2 := by
  unfold expireDueSubscriptions
  generalize (if limit ≤ 0 then 200 else limit.toNat) = n
  by_cases hl : listFails = true
  · rw [if_pos hl]
    exact (Expiry.refl now db).job
  rw [if_neg hl]
  by_cases hnil : dueSubscriptions db now n = []
  · simp only [hnil, if_true]
    exact (Expiry.refl now db).job
  · simp only [if_neg hnil]
    have hus := expireUsers_expiry now userFaults (visit (((dueSubscriptions db now n).map
      UserSubscription.userId).filter (0 < ·)).eraseDups) 0 db
    obtain ⟨vs, hexp, hall⟩ := hus
    revert hexp hall
    generalize expireUsers now userFaults _ 0 db = r
    obtain ⟨⟨count, err⟩, db1⟩ := r
    intro hexp hall
    cases err with
    | some e => exact hexp.job
    | none =>
      by_cases hb : cfg.breakageEnabled = true
      · simp only [if_pos hb]
        obtain ⟨hu, hs, hr⟩ := recognizeBreakages_frame now lotFaults
          (dueSubscriptions db now n) db1
        refine ⟨vs, db1, hexp, hu, hs, fun m hm => (hr m hm).imp (hexp.recognised) ?_⟩
        rintro ⟨s, hmem, rfl⟩
        obtain ⟨hrow, hdue⟩ := mem_filter.1 ((mem_insertionSort _).1 (mem_of_mem_take hmem))
        refine ⟨s, Table.find?_key hrow, hdue, ?_⟩
        rcases Nat.eq_zero_or_pos s.userId with h0 | hpos
        · exact .inl h0
        · -- the owner of a listed row is among the users to visit
          right
          rw [hall rfl, (hv _).mem_iff, mem_eraseDups, mem_filter]
          exact ⟨mem_map_of_mem hmem, by simpa using hpos⟩
      · simp only [if_neg hb]
        exact hexp.job

end Expiry

/-! ## One subscription in a run -/

/-- Where a run has brought the subscription it found as `s0` in `db0`. -/
structure RefundState (s0 : UserSubscription) (db0 db : Database) : Prop where
  row : ∀ s, db.userSubscriptions.find? s0.id = some s →
    s.userId = s0.userId ∧ s.paidAmount = s0.paidAmount ∧ s.amountUsed = s0.amountUsed
  others : ∀ v, v ≠ s0.userId → db.userQuota v = db0.userQuota v
  /-- Nothing was credited yet, or one refund was and the subscription is cancelled or gone. -/
  credited : db.userQuota s0.userId = db0.userQuota s0.userId ∨
    (db0.userQuota s0.userId ≤ db.userQuota s0.userId ∧
      db.userQuota s0.userId ≤ db0.userQuota s0.userId + calculateSubscriptionRefundQuota s0 ∧
      ∀ s, db.userSubscriptions.find? s0.id = some s → s.status = .cancelled)
  /-- What was written off cannot be cancelled by its user any more. -/
  recognised : Recognised s0.id db → ∀ s, db.userSubscriptions.find? s0.id = some s →
    s.status = .active → s.userId = 0

section States

variable {s0 sub : UserSubscription} {db0 db db' : Database}

namespace RefundState

variable (h : RefundState s0 db0 db)

include h

theorem refund (hrow : db.userSubscriptions.find? s0.id = some sub)
    (hnew : sub.status ≠ .cancelled ∨ calculateSubscriptionRefundQuota sub = 0)
    (hr : Refunded sub db db') (hend : ∀ s, db'.userSubscriptions.find? s0.id = some s →
      ∃ now, s = { sub with status := .cancelled, endTime := now }) : RefundState s0 db0 db' := by
  obtain ⟨hown, h1, hused⟩ := h.row sub hrow
  have hc : calculateSubscriptionRefundQuota sub = calculateSubscriptionRefundQuota s0 := by
    unfold calculateSubscriptionRefundQuota
    rw [h1, hused]
  have h2 := calculateSubscriptionRefundQuota_nonneg s0
  refine ⟨fun s hs => ?_, fun v hv => ?_, ?_, fun _ s hs ha => ?_⟩
  · obtain ⟨now, rfl⟩ := hend s hs
    exact ⟨hown, h1, hused⟩
  · have hne : ¬ (v = sub.userId ∧ (db.liveUser? v).isSome) := fun hc => hv (hc.1.trans hown)
    rw [hr v, if_neg hne, add_zero, h.others v hv]
  · have hold : db.userQuota s0.userId = db0.userQuota s0.userId ∨
        calculateSubscriptionRefundQuota s0 = 0 := by
      rcases hnew with hs | h0
      · exact h.credited.imp_right fun ⟨_, _, hcan⟩ => absurd (hcan sub hrow) hs
      · exact .inr (hc ▸ h0)
    have hq : db'.userQuota s0.userId = db.userQuota s0.userId ∨
        db'.userQuota s0.userId = db.userQuota s0.userId + calculateSubscriptionRefundQuota s0 := by
      rw [hr s0.userId, hc]
      split
      · exact .inr rfl
      · exact .inl (add_zero _)
    have hle : db0.userQuota s0.userId ≤ db.userQuota s0.userId ∧
        db.userQuota s0.userId ≤ db0.userQuota s0.userId + calculateSubscriptionRefundQuota s0 := by
      rcases h.credited with h1 | ⟨h1, h1, _⟩ <;> omega
    refine .inr ⟨by omega, by omega, fun s hs => ?_⟩
    obtain ⟨now, rfl⟩ := hend s hs
    rfl
  · obtain ⟨now, rfl⟩ := hend s hs
    cases ha

theorem expire (hj : ExpiryJob now db db') : RefundState s0 db0 db' := by
  obtain ⟨vs, db1, hexp, hu, hs, hrec⟩ := hj
  have hquota : ∀ v, db'.userQuota v = db.userQuota v := fun v =>
    (userQuota_congr hu v).trans (hexp.quota v)
  have hrows : ∀ s', db'.userSubscriptions.find? s0.id = some s' →
      ∃ s, db.userSubscriptions.find? s0.id = some s ∧ s' = expireRow now vs s := fun s' hs' => by
    rw [hs, hexp.rows, Option.map_eq_some_iff] at hs'
    obtain ⟨s, hs, rfl⟩ := hs'
    exact ⟨s, hs, rfl⟩
  -- marking keeps every column but the status, and marks active rows only
  have hsame : ∀ s, (expireRow now vs s).userId = s.userId ∧
      (expireRow now vs s).paidAmount = s.paidAmount ∧
      (expireRow now vs s).amountUsed = s.amountUsed := fun s => by
    unfold expireRow
    split <;> exact ⟨rfl, rfl, rfl⟩
  have h4 : ∀ s, s.status = .cancelled → (expireRow now vs s).status = .cancelled :=
    fun s hc => by simp [expireRow, UserSubscription.due, hc]
  refine ⟨fun s' hs' => ?_, fun v hv => by rw [hquota, h.others v hv], ?_, fun hr s' hs' ha => ?_⟩
  · obtain ⟨s, hs, rfl⟩ := hrows s' hs'
    obtain ⟨h1, h2, h3⟩ := hsame s
    rw [h1, h2, h3]
    exact h.row s hs
  · rw [hquota]
    refine h.credited.imp_right fun ⟨h1, h2, hc⟩ => ⟨h1, h2, fun s' hs' => ?_⟩
    obtain ⟨s, hs, rfl⟩ := hrows s' hs'
    exact h4 s (hc s hs)
  · obtain ⟨s, hs, rfl⟩ := hrows s' hs'
    rw [(hsame s).1]
    have hact : s.status = .active ∧ ¬ (s.userId ∈ vs ∧ s.due now = true) := by
      unfold expireRow at ha
      split at ha
      · cases ha
      next hn =>
        exact ⟨ha, hn⟩
    rcases hrec _ hr with hr | ⟨s1, hs1, hdue, hown⟩
    · exact h.recognised hr s hs hact.1
    · rw [hs] at hs1
      cases hs1
      rcases hown with h0 | hmem
      · exact h0
      · exact absurd ⟨hmem, hdue⟩ hact.2

theorem cancelled {db1 : Database} (hrow : db.userSubscriptions.find? s0.id = some sub)
    (hnew : sub.status ≠ .cancelled ∨ calculateSubscriptionRefundQuota sub = 0)
    (hr : Tx.Ok (refundSubscriptionTx now sub) (db.cancelSubscriptionRow sub.id now) u db1)
    (hg : Regrouped db1 db') : RefundState s0 db0 db' ∧ Refunded sub db db' := by
  obtain ⟨hq, hs⟩ := refundSubscriptionTx_refunded hr
  have hq' : Refunded sub db db' := fun v => (hg.userQuota v).trans (hq v)
  refine ⟨h.refund hrow hnew hq' fun s hs' => ⟨now, ?_⟩, hq'⟩
  obtain ⟨users, rfl⟩ := hg.frame
  rw [hs, Database.cancelSubscriptionRow, Table.find?_update, hrow, Option.map_some,
    if_pos (decide_eq_true rfl)] at hs'
  exact (Option.some.inj hs').symm

theorem deleted {db1 db2 : Database} (hrow : db.userSubscriptions.find? s0.id = some sub)
    (hnew : sub.status ≠ .cancelled ∨ calculateSubscriptionRefundQuota sub = 0)
    (hr : Tx.Ok (refundSubscriptionTx now sub) db u db1) (hg : Regrouped db1 db2)
    (hdb : db' = { db2 with
      userSubscriptions := db2.userSubscriptions.delete fun s => s.id = s0.id }) :
    RefundState s0 db0 db' ∧ Refunded sub db db' := by
  obtain ⟨hq, _⟩ := refundSubscriptionTx_refunded hr
  have hu : db'.users = db2.users := by rw [hdb]
  have hq' : Refunded sub db db' := fun v =>
    ((userQuota_congr hu v).trans (hg.userQuota v)).trans (hq v)
  refine ⟨h.refund hrow hnew hq' fun s hs => ?_, hq'⟩
  rw [hdb, Table.find?_delete, Option.filter_eq_some_iff] at hs
  obtain ⟨hs, hne⟩ := hs
  have hid : s.id = s0.id := (Table.find?_eq_some.1 hs).2
  simp [hid] at hne

end RefundState

/-! ## Whole runs -/

variable {cfg : Config}

/-- One step: the state is kept, and after breakage nobody is credited. -/
theorem RefundState.next {s : EndStep} (h : RefundState s0 db0 db) (hg : s.Guarded s0.id db) :
    RefundState s0 db0 (s.next cfg s0.id db) ∧
      (Recognised s0.id db → ∀ v, (s.next cfg s0.id db).userQuota v = db.userQuota v) := by
  -- a refund that the guard lets through is of nothing, or not after breakage
  have hdone : ∀ {sub db'}, RefundState s0 db0 db' ∧ Refunded sub db db' →
      (0 < calculateSubscriptionRefundQuota sub → ¬ Recognised s0.id db) →
      RefundState s0 db0 db' ∧ (Recognised s0.id db → ∀ v, db'.userQuota v = db.userQuota v) := by
    rintro sub db' ⟨h1, hq⟩ h2
    refine ⟨h1, fun hr v => ?_⟩
    have h0 : calculateSubscriptionRefundQuota sub = 0 :=
      le_antisymm (not_lt.1 fun hpos => h2 hpos hr) (calculateSubscriptionRefundQuota_nonneg sub)
    rw [hq v, h0]
    simp
  have hadmin : ∀ {sub}, (0 < calculateSubscriptionRefundQuota sub →
      sub.status ≠ .cancelled ∧ ¬ Recognised s0.id db) →
      sub.status ≠ .cancelled ∨ calculateSubscriptionRefundQuota sub = 0 := fun {sub} hsub => by
    rcases (calculateSubscriptionRefundQuota_nonneg sub).lt_or_eq with hpos | h0
    · exact .inl (hsub hpos).1
    · exact .inr h0.symm
  unfold EndStep.Guarded at hg
  rcases s.next_cases cfg s0.id db with he | ⟨sub, db1, hrow, ⟨hact, hown⟩ | hcall, hr, h1⟩ |
    ⟨sub, db1, db2, hrow, hcall, hr, h1, hdb⟩ |
    ⟨limit, visit, visits, listFails, userFaults, lotFaults, -, he⟩
  · rw [he]
    exact ⟨h, fun _ _ => rfl⟩
  · have hne : sub.status ≠ .cancelled := by rw [hact]; decide
    exact hdone (h.cancelled hrow (.inl hne) hr h1.regrouped) fun _ hrec =>
      hown (h.recognised hrec sub hrow hact)
  · rw [hcall] at hg
    exact hdone (h.cancelled hrow (hadmin (hg sub hrow)) hr h1.regrouped) fun hpos =>
      (hg sub hrow hpos).2
  · rw [hcall] at hg
    exact hdone (h.deleted hrow (hadmin (hg sub hrow)) hr h1.regrouped hdb) fun hpos =>
      (hg sub hrow hpos).2
  · have hj := expireDueSubscriptions_job cfg s.now limit visits listFails userFaults lotFaults db
    rw [he]
    refine ⟨h.expire hj, fun _ v => ?_⟩
    obtain ⟨vs, db1, hexp, hu, _⟩ := hj
    exact (userQuota_congr hu v).trans (hexp.quota v)

end States

abbrev endTrace (cfg : Config) (subId : Nat) (db : Database) (steps : List EndStep) :
    List (Run.Ev Database EndStep) :=
  Run.trace (EndStep.next cfg subId) db steps

structure WithinPaid (s0 : UserSubscription) (db : Database) (e : Run.Ev Database EndStep) :
    Prop where
  nonneg : 0 ≤ e.after.userQuota s0.userId - db.userQuota s0.userId
  bound : e.after.userQuota s0.userId - db.userQuota s0.userId ≤
    max 0 (s0.paidAmount - s0.amountUsed)
  others : ∀ v, v ≠ s0.userId → e.after.userQuota v = db.userQuota v
  afterBreakage : Recognised s0.id e.before → ∀ v, e.after.userQuota v = e.before.userQuota v

/-- **The unused paid part of a subscription is refunded at most once, and never after
breakage**, in every run whose administrator calls find it neither cancelled nor written off. -/
theorem subscription_refunded_once (cfg : Config) (s0 : UserSubscription) (db : Database)
    (steps : List EndStep) (hrow : db.userSubscriptions.find? s0.id = some s0)
    (hrec : Recognised s0.id db → s0.status ≠ .active)
    (hg : ∀ e ∈ endTrace cfg s0.id db steps, e.act.Guarded s0.id e.before) :
    ∀ e ∈ endTrace cfg s0.id db steps, WithinPaid s0 db e := by
  have h0 : RefundState s0 db db := by
    refine ⟨fun s hs => ?_, fun _ _ => rfl, .inl rfl, fun hr s hs ha => ?_⟩ <;>
      obtain rfl := Option.some.inj (hrow.symm.trans hs)
    · exact ⟨rfl, rfl, rfl⟩
    · exact absurd ha (hrec hr)
  intro e he
  obtain ⟨h1, h2, h3⟩ := Run.guarded_invariant h0
    (G := fun d s => s.Guarded s0.id d) hg (fun d s h4 hd => (hd.next h4).1) he
  have hle := calculateSubscriptionRefundQuota_le s0
  refine ⟨?_, ?_, h3.others, fun hr => ?_⟩
  · rcases h3.credited with hc | ⟨h4, _, _⟩ <;> omega
  · rcases h3.credited with hc | ⟨_, h3, _⟩ <;> omega
  · rw [h2]
    exact (h1.next (hg e he)).2 hr

def oneSubscriptionDb : Database :=
  { Database.empty with
    users := Table.empty.insert
      { id := 0, role := 1, quota := 50, group := "default", email := "", stripeCustomer := ""
        deleted := false }
    userSubscriptions := Table.empty.insert paidSubscription
    subscriptionLots := Table.empty.insert
      (subscriptionLot 0 paidSubscription 1 .wallet 1000 10 0 0) }
where
  paidSubscription : UserSubscription :=
    { id := 1, userId := 1, planId := 1, amountTotal := 1000, amountUsed := 400
      amountFiveHourLimit := 0, amountDailyLimit := 0, amountWeeklyLimit := 0, paidAmount := 1000
      startTime := 0, endTime := 100, status := .active, source := .wallet, upgradeGroup := ""
      prevUserGroup := "", modelLimitsEnabled := false, modelLimits := "" }

def expireAt (now : Int) : EndStep :=
  ⟨.expireDueSubscriptions 0 id (fun us => .refl us) false (fun _ => []) fun _ => [], now, []⟩

theorem subscription_refunded_once_invalidated :
    oneSubscriptionDb.paidSubscription.status = .active ∧ ∀ e ∈ endTrace .fresh 1 oneSubscriptionDb
        [⟨.adminInvalidateUserSubscription, 10, []⟩, ⟨.cancelSubscriptionByUser 1, 20, []⟩,
          expireAt 200],
      WithinPaid oneSubscriptionDb.paidSubscription oneSubscriptionDb e := by
  refine ⟨rfl, subscription_refunded_once .fresh oneSubscriptionDb.paidSubscription
    oneSubscriptionDb _ (by decide +kernel) (fun ⟨l, hl, _, hs⟩ => ?_) fun e he => ?_⟩
  · obtain rfl := mem_singleton.1 hl
    cases hs
  · rcases mem_cons.1 he with rfl | he
    · intro sub hsub _
      obtain rfl : oneSubscriptionDb.paidSubscription = sub :=
        Option.some.inj ((by decide +kernel : oneSubscriptionDb.userSubscriptions.find? 1 =
          some oneSubscriptionDb.paidSubscription).symm.trans hsub)
      refine ⟨by decide, fun ⟨l, hl, _, hs⟩ => ?_⟩
      obtain rfl := mem_singleton.1 hl
      cases hs
    · rcases mem_cons.1 he with rfl | he
      · trivial
      · obtain rfl := mem_singleton.1 he
        trivial

/-- Two invalidations credit the 600 unused twice; an invalidation after the expiry job credits
them after breakage of the lot was booked. -/
theorem subscription_refunded_twice :
    (Run.final (EndStep.next .fresh 1) oneSubscriptionDb
        [⟨.adminInvalidateUserSubscription, 10, []⟩,
          ⟨.adminInvalidateUserSubscription, 11, []⟩]).userQuota 1 = 50 + 600 + 600 ∧
      ((Run.final (EndStep.next .fresh 1) oneSubscriptionDb [expireAt 200]).userQuota 1 = 50 ∧
        (Run.final (EndStep.next .fresh 1) oneSubscriptionDb
          [expireAt 200]).breakageSettlements.rows.length = 1 ∧
        (Run.final (EndStep.next .fresh 1) oneSubscriptionDb
          [expireAt 200, ⟨.adminInvalidateUserSubscription, 201, []⟩]).userQuota 1 = 50 + 600) := by
  decide +kernel

end Xingkong
