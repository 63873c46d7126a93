import Xingkong.Lib.Run
import Xingkong.Lib.TimedLedger
import Xingkong.Spec.SubscriptionUsage

/-!
# Rolling limits of a subscription

A pre-consume is admitted if what was written to the ledger within each limited window leaves room
for it. The ledger adds a delta to the window it is written in and not to the window of the request
it belongs to: a refund makes room in a window that no longer holds what it gives back. The limits
hold for requests as long as no such room is used.
-/

namespace Xingkong

open Rdb TimedLedger List Table

/-! ## Runs -/

inductive UsageAct
  | preConsume (requestId : String) (userId : Nat) (modelName : String) (amount : Int)
  /-- `PostConsumeUserSubscriptionDelta`, by which a session reserves more and settles. The ledger
  row does not name the request. -/
  | adjust (owner : String) (subId : Nat) (delta : Int)
  | refund (requestId : String)

def UsageAct.owner : UsageAct → String
  | preConsume requestId _ _ _ => requestId
  | adjust owner _ _ => owner
  | refund requestId => requestId

structure UsageStep where
  now : Int
  act : UsageAct
  faults : List Bool

def UsageStep.run (cfg : Config) (s : UsageStep) (db : Database) : Database :=
  match s.act with
  | .preConsume requestId userId modelName amount =>
    (preConsumeUserSubscription cfg s.now requestId userId modelName amount s.faults db).2
  | .adjust _ subId delta => (postConsumeUserSubscriptionDelta s.now subId delta s.faults db).2
  | .refund requestId => (refundSubscriptionPreConsume s.now requestId s.faults db).2

/-- The database, with the request each ledger row was written for, and the time of the last
operation. -/
structure UsageState where
  db : Database
  owners : List String
  clock : Int

def usageStart (db : Database) (clock : Int) : UsageState :=
  { db, owners := db.usageLedgers.rows.map fun _ => "", clock }

def usageNext (cfg : Config) (st : UsageState) (s : UsageStep) : UsageState where
  db := s.run cfg st.db
  owners := st.owners ++ List.replicate
    ((s.run cfg st.db).usageLedgers.rows.length - st.db.usageLedgers.rows.length) s.act.owner
  clock := s.now

def usageEntry (σ : Nat) (o : String) (r : SubscriptionUsageLedger) : Option (Entry String) :=
  if r.userSubscriptionId = σ then
    some { owner := o, time := r.createdAt, delta := r.delta, opens := r.action = .preConsume }
  else none

def UsageState.entries (st : UsageState) (σ : Nat) : List (Entry String) :=
  (st.owners.zip st.db.usageLedgers.rows).filterMap fun p => usageEntry σ p.1 p.2

/-- **What requests have used**: the net usage of those pre-consumed within the window. -/
def UsageState.netUsage (st : UsageState) (σ : Nat) (window t : Int) : Int :=
  TimedLedger.net (st.entries σ) (t - window) t

/-- Deltas within the window of requests that were pre-consumed before it. -/
def UsageState.foreignUsage (st : UsageState) (sub : UserSubscription) (window t : Int) : Int :=
  TimedLedger.foreign (st.entries sub.id) (max sub.startTime (t - window)) (t - window) t

/-- A pre-consume that charges the subscription for a new request. -/
def UsageStep.accepts (cfg : Config) (σ : Nat) (s : UsageStep) (db : Database) : Bool :=
  match s.act with
  | .preConsume requestId userId modelName amount =>
    (findPreConsumeRecord db requestId).isNone &&
      match (preConsumeUserSubscription cfg s.now requestId userId modelName amount s.faults
        db).1 with
      | .ok r => r.userSubscriptionId = σ
      | .error _ => false
  | _ => false

/-- Time does not go back, and a session adjusts what it has pre-consumed. -/
def UsageStep.inOrder (σ : Nat) (st : UsageState) (s : UsageStep) : Bool :=
  st.clock ≤ s.now &&
    match s.act with
    | .adjust owner subId _ => subId ≠ σ || (openedAt (st.entries σ) owner).isSome
    | _ => true

/-- **What the limits rely on**: a pre-consume finds no room in a limited window that was made by
requests from before it. -/
def UsageStep.roomIsOwn (sub : UserSubscription) (st : UsageState) (s : UsageStep) : Bool :=
  match s.act with
  | .preConsume _ _ _ _ =>
    sub.rollingLimits.all fun l => l.1 ≤ 0 || 0 ≤ st.foreignUsage sub l.2 s.now
  | _ => true

/-! ## What an operation does -/

variable {cfg : Config} {db db' : Database} {now : Int} {s0 : UserSubscription}
  {st st' : UsageState} {s : UsageStep}

/-- Whatever has happened to the records, they are of the same requests. -/
def SameRequests (db db' : Database) : Prop :=
  ∀ r ∈ db'.preConsumeRecords.rows, ∃ r₀ ∈ db.preConsumeRecords.rows,
    r₀.requestId = r.requestId ∧ r₀.userSubscriptionId = r.userSubscriptionId ∧
      r₀.preConsumed = r.preConsumed

theorem SameRequests.refl (db : Database) : SameRequests db db := fun r hr => ⟨r, hr, rfl, rfl, rfl⟩

theorem SameRequests.save {record : SubscriptionPreConsumeRecord} {status : PreConsumeStatus}
    (h : record ∈ db.preConsumeRecords.rows)
    (hdb : db'.preConsumeRecords = db.preConsumeRecords.save { record with status }) :
    SameRequests db db' := by
  intro r hr
  rw [hdb] at hr
  rcases mem_of_mem_save hr with rfl | hr
  · exact ⟨record, h, rfl, rfl, rfl⟩
  · exact ⟨r, hr, rfl, rfl, rfl⟩

inductive UsageMove (now : Int) (act : UsageAct) (db db' : Database) : Prop
  | idle (hledger : db'.usageLedgers = db.usageLedgers)
      (hsubs : db'.userSubscriptions = db.userSubscriptions) (hrecords : SameRequests db db')
  | charged (requestId : String) (userId : Nat) (modelName : String) (amount : Int)
      (sub : UserSubscription) (hact : act = .preConsume requestId userId modelName amount)
      (hpos : 0 < amount) (h : Charged now requestId userId amount sub db db')
  | adjusted (owner : String) (delta used : Int) (sub : UserSubscription)
      (hact : act = .adjust owner sub.id delta) (hd : delta ≠ 0)
      (h : Metered now sub used delta "" .settle db db')
  | refunded (record : SubscriptionPreConsumeRecord) (used : Int) (sub : UserSubscription)
      (db₁ : Database) (hact : act = .refund record.requestId)
      (hrecord : record ∈ db.preConsumeRecords.rows) (hsub : sub.id = record.userSubscriptionId)
      (hpos : 0 < record.preConsumed)
      (h : Metered now sub used (-record.preConsumed) record.requestId .refund db db₁)
      (hdb : db' = { db₁ with
        preConsumeRecords := db₁.preConsumeRecords.save { record with status := .refunded } })

theorem UsageMove.same (now : Int) (act : UsageAct) (db : Database) : UsageMove now act db db :=
  .idle rfl rfl (.refl db)

theorem preConsume_move (requestId : String) (userId : Nat)
    (modelName : String) (amount : Int) (faults : List Bool) :
    UsageMove now (.preConsume requestId userId modelName amount) db
      (preConsumeUserSubscription cfg now requestId userId modelName amount faults db).2 := by
  rcases preConsumeUserSubscription_cases cfg now requestId userId modelName amount faults db with
    ⟨e, he⟩ | ⟨r, db', hpos, he, h1⟩
  · rw [he]
    exact .same ..
  · rw [he]
    rcases preConsumeUserSubscriptionTx_ok h1 with ⟨_, _, _, _, _, rfl⟩ | ⟨sub, _, hc⟩
    · exact .same ..
    · exact .charged requestId userId modelName amount sub rfl hpos hc

theorem adjust_move (owner : String) (subId : Nat) (delta : Int) (faults : List Bool) :
    UsageMove now (.adjust owner subId delta) db
      (postConsumeUserSubscriptionDelta now subId delta faults db).2 := by
  unfold postConsumeUserSubscriptionDelta
  split
  · exact .same ..
  split
  · exact .same ..
  next hd =>
    refine Tx.transaction_invariant (.same ..) (fun _ db' h => ?_) faults
    obtain ⟨sub, rfl, hm⟩ := postConsumeUserSubscriptionDeltaTx_ok h
    exact .adjusted owner delta _ sub rfl hd hm

theorem refund_move (requestId : String) (faults : List Bool) :
    UsageMove now (.refund requestId) db
      (refundSubscriptionPreConsume now requestId faults db).2 := by
  unfold refundSubscriptionPreConsume
  split
  · exact .same ..
  · refine Tx.transaction_invariant (.same ..) (fun _ db' h => ?_) faults
    obtain ⟨record, hf, h1⟩ := refundSubscriptionPreConsumeTx_ok h
    obtain ⟨hmem, hid⟩ := mem_of_first? hf
    have hid : record.requestId = requestId := of_decide_eq_true hid
    subst hid
    rcases h1 with ⟨_, rfl⟩ | ⟨_, db1, ⟨_, rfl⟩ | ⟨hpos, sub, hsub, hm⟩, hdb⟩
    · exact .same ..
    · exact .idle (by rw [hdb]) (by rw [hdb]) (.save hmem (by rw [hdb]))
    · exact .refunded record _ sub db1 rfl hmem hsub hpos hm hdb

/-- **Every operation** is one of these. -/
theorem UsageStep.run_move (cfg : Config) (s : UsageStep) (db : Database) :
    UsageMove s.now s.act db (s.run cfg db) := by
  unfold run
  cases s.act with
  | preConsume requestId userId modelName amount => exact preConsume_move ..
  | adjust owner subId delta => exact adjust_move ..
  | refund requestId => exact refund_move ..

/-! ## Entries -/

theorem next_same (h : (s.run cfg st.db).usageLedgers = st.db.usageLedgers) :
    (usageNext cfg st s).owners = st.owners ∧
      ∀ σ, (usageNext cfg st s).entries σ = st.entries σ := by
  have hon : (usageNext cfg st s).owners = st.owners := by
    show st.owners ++ List.replicate _ _ = st.owners
    rw [h, Nat.sub_self, replicate_zero, append_nil]
  refine ⟨hon, fun σ => ?_⟩
  unfold UsageState.entries
  rw [hon]
  show (st.owners.zip (s.run cfg st.db).usageLedgers.rows).filterMap _ = _
  rw [h]

theorem next_insert {row : SubscriptionUsageLedger}
    (hlen : st.owners.length = st.db.usageLedgers.rows.length)
    (h : (s.run cfg st.db).usageLedgers = st.db.usageLedgers.insert row) :
    (usageNext cfg st s).owners = st.owners ++ [s.act.owner] ∧
      ∀ σ, (usageNext cfg st s).entries σ =
        st.entries σ ++ (usageEntry σ s.act.owner row).toList := by
  have hon : (usageNext cfg st s).owners = st.owners ++ [s.act.owner] := by
    show st.owners ++ List.replicate _ _ = _
    rw [h, rows_insert, length_append, length_singleton, Nat.add_sub_cancel_left]
    rfl
  refine ⟨hon, fun σ => ?_⟩
  unfold UsageState.entries
  rw [hon]
  show (List.zip _ (s.run cfg st.db).usageLedgers.rows).filterMap _ = _
  rw [h, rows_insert, zip_append hlen, filterMap_append]
  rfl

theorem since_entries (hlen : st.owners.length = st.db.usageLedgers.rows.length) (σ : Nat)
    (start : Int) : since (st.entries σ) start = ledgerSumSince st.db σ start := by
  have hlist : ∀ (os : List String) (rows : List SubscriptionUsageLedger), os.length = rows.length →
      since ((os.zip rows).filterMap fun p => usageEntry σ p.1 p.2) start =
        (rows.map fun r =>
          if r.userSubscriptionId = σ ∧ start ≤ r.createdAt then r.delta else 0).sum := by
    intro os rows
    induction rows generalizing os with
    | nil =>
      intro _
      rw [zip_nil_right]
      rfl
    | cons r rows ih =>
      intro hlen
      cases os with
      | nil => cases hlen
      | cons o os =>
        have hrest := ih os (Nat.succ.inj hlen)
        unfold since at hrest ⊢
        rw [zip_cons_cons, filterMap_cons, map_cons, sum_cons, ← hrest]
        by_cases hσ : r.userSubscriptionId = σ
        · simp [usageEntry, hσ]
        · simp [usageEntry, hσ]
  exact hlist _ _ hlen

/-! ## The invariant -/

/-- Every request of the subscription has been opened before its deltas, and the ledger is in the
order of time. -/
structure Tallied (s0 : UserSubscription) (st : UsageState) : Prop where
  owners : st.owners.length = st.db.usageLedgers.rows.length
  anchored : Anchored (st.entries s0.id)
  times : ∀ x ∈ st.entries s0.id, s0.startTime ≤ x.time ∧ x.time ≤ st.clock
  started : s0.startTime ≤ st.clock
  records : ∀ r ∈ st.db.preConsumeRecords.rows, r.userSubscriptionId = s0.id → 0 < r.preConsumed →
    (openedAt (st.entries s0.id) r.requestId).isSome = true
  row : ∀ sub, st.db.userSubscriptions.find? s0.id = some sub →
    sub.rollingLimits = s0.rollingLimits ∧ sub.startTime = s0.startTime

theorem tallied_start {clock : Int} (hrow : db.userSubscriptions.find? s0.id = some s0)
    (hledger : ∀ r ∈ db.usageLedgers.rows, r.userSubscriptionId ≠ s0.id)
    (hrecords : ∀ r ∈ db.preConsumeRecords.rows, r.userSubscriptionId ≠ s0.id)
    (h1 : s0.startTime ≤ clock) : Tallied s0 (usageStart db clock) := by
  have hnil : (usageStart db clock).entries s0.id = [] := by
    refine filterMap_eq_nil_iff.2 fun p hp => ?_
    exact if_neg (hledger p.2 (of_mem_zip hp).2)
  refine ⟨length_map _, ?_, ?_, h1, fun r hr hid => absurd hid (hrecords r hr), ?_⟩
  · rw [hnil]
    exact .nil
  · rw [hnil]
    exact nofun
  · intro sub hsub
    obtain rfl : sub = s0 := Option.some.inj (hsub.symm.trans hrow)
    exact ⟨rfl, rfl⟩

namespace Tallied

variable {sub : UserSubscription}

variable (h : Tallied s0 st) {requestId : String}

include h

theorem row_save {used : Int} (hrow : st.db.userSubscriptions.find? sub.id = some sub) :
    ∀ sub', (st.db.userSubscriptions.save { sub with amountUsed := used }).find? s0.id = some sub' →
      sub'.rollingLimits = s0.rollingLimits ∧ sub'.startTime = s0.startTime := by
  intro sub' hsub'
  by_cases hid : s0.id = sub.id
  · have h1 := Table.find?_save_self (r := { sub with amountUsed := used }) hrow rfl
    rw [hid] at hsub'
    obtain rfl := Option.some.inj (hsub'.symm.trans h1)
    exact h.row sub (hid ▸ hrow)
  · rw [Table.find?_save_of_ne hid] at hsub'
    exact h.row sub' hsub'

theorem write {used delta : Int} {action : LedgerAction}
    (h1 : st.clock ≤ s.now) (hrow : st.db.userSubscriptions.find? sub.id = some sub)
    (hsubs : (s.run cfg st.db).userSubscriptions =
      st.db.userSubscriptions.save { sub with amountUsed := used })
    (hledger : (s.run cfg st.db).usageLedgers =
      st.db.usageLedgers.insert (ledgerRow s.now sub requestId delta action))
    (hopen : sub.id = s0.id → action = .preConsume ∨
      (openedAt (st.entries s0.id) s.act.owner).isSome = true)
    (hrecords : ∀ r ∈ (s.run cfg st.db).preConsumeRecords.rows, r.userSubscriptionId = s0.id →
      0 < r.preConsumed → (openedAt (st.entries s0.id) r.requestId).isSome = true ∨
        (r.requestId = s.act.owner ∧ sub.id = s0.id ∧ action = .preConsume)) :
    Tallied s0 (usageNext cfg st s) := by
  obtain ⟨hon, h1⟩ := next_insert h.owners hledger
  have hst := h.started
  have hnext : Anchored ((usageNext cfg st s).entries s0.id) ∧
      (∀ x ∈ (usageNext cfg st s).entries s0.id, s0.startTime ≤ x.time ∧ x.time ≤ s.now) ∧
      ∀ r, (openedAt (st.entries s0.id) r).isSome = true ∨
        (r = s.act.owner ∧ sub.id = s0.id ∧ action = .preConsume) →
        (openedAt ((usageNext cfg st s).entries s0.id) r).isSome = true := by
    rw [h1]
    by_cases hid : sub.id = s0.id
    · have hentry : usageEntry s0.id s.act.owner (ledgerRow s.now sub requestId delta action) =
          some { owner := s.act.owner, time := s.now, delta, opens := action = .preConsume } :=
        if_pos hid
      rw [hentry, Option.toList_some]
      refine ⟨h.anchored.append (fun x hx => ?_) ?_, fun x hx => ?_, fun r hr => ?_⟩
      · have := (h.times x hx).2
        show x.time ≤ s.now
        omega
      · rcases hopen hid with ha | ho
        · exact .inl (decide_eq_true ha)
        · exact .inr ho
      · rcases mem_append.1 hx with hx | hx
        · have := h.times x hx
          omega
        · rw [mem_singleton.1 hx]
          exact ⟨by show s0.startTime ≤ s.now; omega, Int.le_refl _⟩
      · cases ho : openedAt (st.entries s0.id) r with
        | some p =>
          rw [openedAt_append ho]
          rfl
        | none =>
          rcases hr with hr | ⟨rfl, _, ha⟩
          · rw [ho] at hr
            cases hr
          · rw [openedAt_append_self ho (decide_eq_true ha)]
            rfl
    · have hentry : usageEntry s0.id s.act.owner (ledgerRow s.now sub requestId delta action) =
          none := if_neg hid
      rw [hentry, Option.toList_none, append_nil]
      refine ⟨h.anchored, fun x hx => ?_, fun r hr => ?_⟩
      · have := h.times x hx
        omega
      · rcases hr with hr | ⟨_, hid', _⟩
        · exact hr
        · exact absurd hid' hid
  refine ⟨?_, hnext.1, hnext.2.1, ?_, fun r hr hid hpos => hnext.2.2 _ (hrecords r hr hid hpos), ?_⟩
  · rw [hon]
    show _ = (s.run cfg st.db).usageLedgers.rows.length
    rw [hledger, rows_insert, length_append, length_append, h.owners]
    rfl
  · show s0.startTime ≤ s.now
    omega
  · intro sub' hsub'
    have hsub' : (s.run cfg st.db).userSubscriptions.find? s0.id = some sub' := hsub'
    rw [hsubs] at hsub'
    exact h.row_save hrow sub' hsub'

/-- **An operation keeps the ledger tallied.** -/
theorem next (hor : s.inOrder s0.id st = true) : Tallied s0 (usageNext cfg st s) := by
  obtain ⟨hclock, hact⟩ := Bool.and_eq_true_iff.1 hor
  have hclock : st.clock ≤ s.now := of_decide_eq_true hclock
  have hst := h.started
  cases s.run_move cfg st.db with
  | idle hledger hsubs hrecords =>
    obtain ⟨hon, hentries⟩ := next_same hledger
    refine ⟨?_, ?_, fun x hx => ?_, ?_, fun r hr hid hpos => ?_, fun sub hsub => ?_⟩
    · rw [hon, h.owners]
      show _ = (s.run cfg st.db).usageLedgers.rows.length
      rw [hledger]
    · rw [hentries]
      exact h.anchored
    · rw [hentries] at hx
      have := h.times x hx
      show _ ∧ x.time ≤ s.now
      omega
    · show s0.startTime ≤ s.now
      omega
    · rw [hentries]
      obtain ⟨r0, hr0, hreq, hsub, hpre⟩ := hrecords r hr
      rw [← hreq]
      exact h.records r0 hr0 (hsub.trans hid) (hpre ▸ hpos)
    · have hsub : (s.run cfg st.db).userSubscriptions.find? s0.id = some sub := hsub
      rw [hsubs] at hsub
      exact h.row sub hsub
  | charged requestId userId modelName amount sub hact' hpos hc =>
    refine h.write hclock hc.row (by rw [hc.frame]) (hc.ledger hpos) (fun _ => .inl rfl) ?_
    intro r hr hid hpos
    rw [hc.frame] at hr
    rcases mem_insert.1 hr with hr | rfl
    · exact .inl (h.records r hr hid hpos)
    · right
      rw [hact']
      exact ⟨rfl, hid, rfl⟩
  | adjusted owner delta used sub hact' hd hm =>
    have hledger : (s.run cfg st.db).usageLedgers = st.db.usageLedgers.insert
        (ledgerRow s.now sub "" delta .settle) := by
      rw [hm.frame]
      exact if_neg hd
    refine h.write hclock hm.row (by rw [hm.frame]) hledger (fun hid => .inr ?_) ?_
    · rw [hact'] at hact ⊢
      show (openedAt (st.entries s0.id) owner).isSome = true
      simpa [hid] using hact
    · intro r hr hid hpos
      rw [hm.frame] at hr
      exact .inl (h.records r hr hid hpos)
  | refunded record used sub db1 hact' hrecord hsub hpos hm hdb =>
    have hledger : (s.run cfg st.db).usageLedgers = st.db.usageLedgers.insert
        (ledgerRow s.now sub record.requestId (-record.preConsumed) .refund) := by
      rw [hdb, hm.frame]
      exact if_neg (by omega)
    refine h.write hclock hm.row (by rw [hdb, hm.frame]) hledger (fun hid => .inr ?_) ?_
    · rw [hact']
      exact h.records record hrecord (hsub.symm.trans hid) hpos
    · intro r hr hid hpos'
      rw [hdb, hm.frame] at hr
      left
      rcases mem_of_mem_save hr with rfl | hr
      · exact h.records record hrecord hid hpos
      · exact h.records r hr hid hpos'

theorem charged {userId : Nat} {modelName : String}
    {amount : Int} (hact : s.act = .preConsume requestId userId modelName amount)
    (hpos : 0 < amount) (hid : sub.id = s0.id)
    (hc : Charged s.now requestId userId amount sub st.db (s.run cfg st.db))
    (hroom : s.roomIsOwn s0 st = true) :
    ∀ l ∈ s0.rollingLimits, 0 < l.1 → (usageNext cfg st s).netUsage s0.id l.2 s.now ≤ l.1 := by
  intro l hl h1
  obtain ⟨_, hentries⟩ := next_insert h.owners (hc.ledger hpos)
  have hentry : usageEntry s0.id s.act.owner (ledgerRow s.now sub requestId amount .preConsume) =
      some { owner := s.act.owner, time := s.now, delta := amount, opens := true } := if_pos hid
  obtain ⟨hlt, hst⟩ := h.row sub (hid ▸ hc.row)
  have hfits := (hc.room hpos).windows hc.id_ne_zero l (hlt ▸ hl) h1
  have hforeign : 0 ≤ st.foreignUsage s0 l.2 s.now := by
    unfold UsageStep.roomIsOwn at hroom
    rw [hact] at hroom
    have hall := all_eq_true.1 hroom l hl
    simp only [Bool.or_eq_true, decide_eq_true_eq] at hall
    omega
  rw [hst, hid, ← since_entries h.owners] at hfits
  unfold UsageState.netUsage
  rw [hentries, hentry]
  refine net_append_le_limit h.anchored (fun x hx => (h.times x hx).1) hpos.le ?_ hforeign
  have h1 : max 0 (since (st.entries s0.id) (max s0.startTime (s.now - l.2))) =
      clampSubscriptionUsage (since (st.entries s0.id) (max s0.startTime (s.now - l.2))) := by
    unfold clampSubscriptionUsage
    split <;> omega
  rw [h1]
  exact hfits

end Tallied

theorem UsageStep.charged_of_accepts {σ : Nat} (h : s.accepts cfg σ db = true) :
    ∃ requestId userId modelName amount sub, s.act = .preConsume requestId userId modelName amount ∧
      0 < amount ∧ sub.id = σ ∧ Charged s.now requestId userId amount sub db (s.run cfg db) := by
  unfold accepts at h
  unfold run
  cases hact : s.act with
  | adjust _ _ _ | refund _ => rw [hact] at h; cases h
  | preConsume requestId userId modelName amount =>
    rw [hact] at h
    simp only [Bool.and_eq_true, Option.isNone_iff_eq_none] at h
    obtain ⟨h1, hok⟩ := h
    rcases preConsumeUserSubscription_cases cfg s.now requestId userId modelName amount s.faults db
      with ⟨e, he⟩ | ⟨r, db', _, he, _⟩
    · rw [he] at hok
      cases hok
    · rw [he] at hok
      obtain ⟨hpos, sub, hres, hc⟩ := preConsumeUserSubscription_charged h1 he
      have hσ : r.userSubscriptionId = σ := of_decide_eq_true hok
      rw [hres] at hσ
      refine ⟨requestId, userId, modelName, amount, sub, rfl, hpos, hσ, ?_⟩
      dsimp only
      rw [he]
      exact hc

/-- **Requests stay within the rolling limits**: in every run of a subscription from its first use
on, after every pre-consume that is accepted the requests pre-consumed within a limited window
have used at most its limit, if no pre-consume finds room that older requests have made. -/
theorem rolling_limits_hold (cfg : Config) (s0 : UserSubscription) (db : Database) (clock : Int)
    (steps : List UsageStep) (hrow : db.userSubscriptions.find? s0.id = some s0)
    (hledger : ∀ r ∈ db.usageLedgers.rows, r.userSubscriptionId ≠ s0.id)
    (hrecords : ∀ r ∈ db.preConsumeRecords.rows, r.userSubscriptionId ≠ s0.id)
    (hclock : s0.startTime ≤ clock)
    (horder : ∀ e ∈ Run.trace (usageNext cfg) (usageStart db clock) steps,
      e.act.inOrder s0.id e.before = true)
    (hroom : ∀ e ∈ Run.trace (usageNext cfg) (usageStart db clock) steps,
      e.act.roomIsOwn s0 e.before = true) :
    ∀ e ∈ Run.trace (usageNext cfg) (usageStart db clock) steps,
      e.act.accepts cfg s0.id e.before.db = true → ∀ l ∈ s0.rollingLimits, 0 < l.1 →
        e.after.netUsage s0.id l.2 e.act.now ≤ l.1 := by
  intro e he hacc
  obtain ⟨h1, h2, _⟩ := Run.guarded_invariant
    (tallied_start hrow hledger hrecords hclock) horder (fun _ _ ho h => h.next ho) he
  obtain ⟨requestId, userId, modelName, amount, sub, hact, hpos, hid, hc⟩ :=
    UsageStep.charged_of_accepts hacc
  rw [h2]
  exact h1.charged hact hpos hid hc (hroom e he)

/-! ## A daily limit -/

def limitedSubscription : UserSubscription :=
  { id := 1, userId := 1, planId := 1, amountTotal := 0, amountUsed := 0, amountFiveHourLimit := 0
    amountDailyLimit := 100, amountWeeklyLimit := 0, paidAmount := 0, startTime := 0
    endTime := 1000000, status := .active, source := .order, upgradeGroup := ""
    prevUserGroup := "", modelLimitsEnabled := false, modelLimits := "" }

def limitedDb : Database :=
  { Database.empty with userSubscriptions := Table.empty.insert limitedSubscription }

def limitedStep (now : Int) (act : UsageAct) : UsageStep := { now, act, faults := [] }

def reserveAt (now : Int) (requestId : String) (amount : Int) : UsageStep :=
  limitedStep now (.preConsume requestId 1 "m" amount)

/-- Request `a` is settled below what it reserved, which leaves room for `b` on the same day; `c`
has to wait for the next. -/
theorem rolling_limits_hold_two_days :
    limitedSubscription.rollingLimits ≠ [] ∧
    ∀ e ∈ Run.trace (usageNext .fresh) (usageStart limitedDb 0)
        [reserveAt 10 "a" 100, limitedStep 20 (.adjust "a" 1 (-60)), reserveAt 30 "b" 60,
          reserveAt 40 "c" 60, reserveAt 86440 "c" 60],
      e.act.accepts .fresh 1 e.before.db = true → ∀ l ∈ limitedSubscription.rollingLimits,
        0 < l.1 → e.after.netUsage 1 l.2 e.act.now ≤ l.1 :=
  ⟨by decide, rolling_limits_hold .fresh limitedSubscription limitedDb 0 _ (by decide +kernel)
    (by decide +kernel) (by decide +kernel) (by decide) (by decide +kernel) (by decide +kernel)⟩

/-- Request `a` is refunded at once, and `b` takes its place. A day after `a` was reserved the
ledger still holds its refund: `c` is admitted, and the two requests of that day have used 200. -/
theorem rolling_limits_exceeded :
    let steps := [reserveAt 10 "a" 100, limitedStep 20 (.refund "a"), reserveAt 30 "b" 100]
    let st := Run.final (usageNext .fresh) (usageStart limitedDb 0) steps
    let c := reserveAt 86411 "c" 100
    c.accepts .fresh 1 st.db = true ∧
      (usageNext .fresh st c).netUsage 1 subscriptionWindowDaily 86411 = 200 ∧
      limitedSubscription.amountDailyLimit = 100 := by
  decide +kernel

end Xingkong
