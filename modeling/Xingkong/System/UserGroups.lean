import Mathlib.Data.List.DropRight
import Xingkong.System.HomeGroup

/-!
# The group of a user over the life of its upgraded subscriptions

A subscription whose plan names a group moves its user there and remembers the group it found.
When it ends, the user falls back to the remembered group, unless the user is elsewhere or
another upgraded subscription is running. A run is any list of the calls that create a
subscription and of the calls that end one. What a subscription remembers is the user's own
group as long as no upgraded subscription is created while another is active; the file shows
that the user is then back in that group whenever none is active.
-/

namespace Xingkong

open Rdb List Option Database

/-! ## Calls -/

/-- The calls that create a subscription; `cached` is what the plan cache holds. -/
inductive CreateCall
  | purchaseSubscriptionWithWallet (cached : Option SubscriptionPlan) (userId planId : Nat)
  | adminBindSubscription (cached : Option SubscriptionPlan) (userId planId : Nat)
  | completeSubscriptionOrder (cached : Option SubscriptionPlan) (tradeNo providerPayload : String)
      (expectedPaymentProvider : PaymentProvider) (actualPaymentMethod : String)

def CreateCall.next (cfg : Config) (now : Int) (faults : List Bool) (db : Database) :
    CreateCall → Database
  | .purchaseSubscriptionWithWallet cached userId planId =>
    (Xingkong.purchaseSubscriptionWithWallet cfg now cached userId planId faults db).2
  | .adminBindSubscription cached userId planId =>
    (Xingkong.adminBindSubscription cfg now cached userId planId faults db).2
  | .completeSubscriptionOrder cached tradeNo payload provider method =>
    (Xingkong.completeSubscriptionOrder cfg now cached tradeNo payload provider method faults db).2

inductive GroupCall
  | create (call : CreateCall)
  | finish (subId : Nat) (call : EndCall)

structure GroupStep where
  call : GroupCall
  now : Int
  faults : List Bool

structure GroupWorld where
  db : Database
  clock : Int

def groupNext (cfg : Config) (w : GroupWorld) (s : GroupStep) : GroupWorld where
  db := match s.call with
    | .create call => call.next cfg s.now s.faults w.db
    | .finish subId call => (EndStep.mk call s.now s.faults).next cfg subId w.db
  clock := s.now

/-! ## The condition on runs -/

def hasActiveUpgrade (db : Database) (u : Nat) : Bool :=
  db.userSubscriptions.rows.any fun s => s.Upgraded u ∧ s.status = .active

theorem hasActiveUpgrade_eq_false {db : Database} {u : Nat} :
    hasActiveUpgrade db u = false ↔
      ∀ s ∈ db.userSubscriptions.rows, s.Upgraded u → s.status ≠ .active := by
  simp [hasActiveUpgrade]

def CreateCall.planFor (db : Database) : CreateCall → Option (Nat × SubscriptionPlan)
  | .purchaseSubscriptionWithWallet cached userId planId
  | .adminBindSubscription cached userId planId => (readPlan db cached planId).map (userId, ·)
  | .completeSubscriptionOrder cached tradeNo _ _ _ =>
    ((db.subscriptionOrders.first? (·.tradeNo = tradeNo)).filter (·.status = .pending)).bind
      fun o => (readPlan db cached o.planId).map (o.userId, ·)

def CreateCall.upgrades (db : Database) (u : Nat) (call : CreateCall) : Bool :=
  (call.planFor db).any fun p => p.1 = u && trimSpace p.2.upgradeGroup ≠ ""

/-- Time does not go back, no upgraded subscription is created for the user while another is
active, and no statement of the user's expiry fails. -/
def GroupStep.oneUpgrade (u : Nat) (w : GroupWorld) (s : GroupStep) : Bool :=
  w.clock ≤ s.now &&
    match s.call with
    | .create call => !call.upgrades w.db u || !hasActiveUpgrade w.db u
    | .finish _ (.expireDueSubscriptions _ _ _ _ userFaults _) => !(userFaults u).contains true
    | .finish _ _ => true

/-- A plan that lasts for some years or months ends after it starts. -/
def Config.DatesAdvance (cfg : Config) : Prop :=
  ∀ start years months, 0 ≤ years → 0 ≤ months → 0 < years + months →
    start < cfg.addDate start years months

/-! ## Trimmed names -/

theorem trimSpace_toList (s : String) :
    (trimSpace s).toList = (s.toList.dropWhile isSpace).rdropWhile isSpace := by
  unfold trimSpace
  rw [String.toList_ofList]
  rfl

theorem trimSpace_trimSpace (s : String) : trimSpace (trimSpace s) = trimSpace s := by
  apply String.toList_injective
  rw [trimSpace_toList, trimSpace_toList]
  generalize s.toList = l
  -- the first character that is left is no space, so there is nothing to drop in front
  have hfront : ((l.dropWhile isSpace).rdropWhile isSpace).dropWhile isSpace =
      (l.dropWhile isSpace).rdropWhile isSpace := by
    rw [dropWhile_eq_self_iff]
    intro hpos hspace
    have hpre := List.rdropWhile_prefix isSpace (l.dropWhile isSpace)
    have hne : l.dropWhile isSpace ≠ [] := by
      intro hnil
      rw [hnil] at hpos
      simp at hpos
    have h1 := head_dropWhile_not isSpace hne
    have hget := hpre.getElem hpos
    rw [hget] at hspace
    rw [head_eq_getElem, hspace] at h1
    cases h1
  rw [hfront, rdropWhile_idempotent]

variable {plan : SubscriptionPlan} {now : Int} {userId : Nat} {cfg : Config}

/-! ## What a creation does -/

section Creation

variable {db db' db'' : Database}

structure SameGroups (db db' : Database) : Prop where
  group : ∀ v, db'.userGroup v = db.userGroup v
  rows : db'.userSubscriptions = db.userSubscriptions

theorem SameGroups.refl (db : Database) : SameGroups db db := ⟨fun _ => rfl, rfl⟩

theorem SameGroups.of_users (hu : db'.users = db.users)
    (hs : db'.userSubscriptions = db.userSubscriptions) : SameGroups db db' :=
  ⟨userGroup_congr hu, hs⟩

theorem SameGroups.addUserQuota (db : Database) (userId : Nat) (quota : Int) :
    SameGroups db (db.addUserQuota userId quota) :=
  ⟨userGroup_addUserQuota userId quota, rfl⟩

/-- `s` is a new row of the plan, running from now on. -/
structure SnapshotOf (now : Int) (userId : Nat) (plan : SubscriptionPlan) (s : UserSubscription) :
    Prop where
  owner : s.userId = userId
  active : s.status = .active
  upgradeGroup : s.upgradeGroup = trimSpace plan.upgradeGroup
  lasts : now < s.endTime

/-- The row `s` was added, and its owner moved to its group, which remembers the one before. -/
structure Joined (s : UserSubscription) (db db' : Database) : Prop where
  rows : db'.userSubscriptions.rows = db.userSubscriptions.rows ++ [s]
  group : (s.prevUserGroup = "" ∧ (∀ v, db'.userGroup v = db.userGroup v) ∧
      (s.upgradeGroup = "" ∨ (db.userGroup s.userId).getD "" = s.upgradeGroup)) ∨
    (s.prevUserGroup = (db.userGroup s.userId).getD "" ∧ s.upgradeGroup ≠ "" ∧
      ∀ v, db'.userGroup v =
        (db.userGroup v).map fun g => if v = s.userId then s.upgradeGroup else g)

variable {s sub : UserSubscription} {source : SubscriptionSource} {paidAmount : Int} {u : Unit}

theorem Joined.after (h : Joined s db db') (hs : SameGroups db' db'') : Joined s db db'' := by
  refine ⟨by rw [hs.rows]; exact h.rows, h.group.imp ?_ ?_⟩
  · rintro ⟨h1, h2, hup⟩
    exact ⟨h1, fun v => (hs.group v).trans (h2 v), hup⟩
  · rintro ⟨h1, hne, h2⟩
    exact ⟨h1, hne, fun v => (hs.group v).trans (h2 v)⟩

theorem Joined.before (hs : SameGroups db db') (h : Joined s db' db'') : Joined s db db'' := by
  obtain ⟨hrows, h1⟩ := h
  rw [hs.rows] at hrows
  simp only [hs.group] at h1
  exact ⟨hrows, h1⟩

theorem calcPlanEndTime_lt (hcfg : cfg.DatesAdvance) {start endTime : Int}
    (h : calcPlanEndTime cfg start plan = .ok endTime) : start < endTime := by
  unfold calcPlanEndTime at h
  split at h
  · cases h
  next hval =>
    have hpos : plan.durationUnit ≠ .custom → 0 < plan.durationValue := by
      intro h1
      exact not_le.1 fun hle => hval ⟨hle, h1⟩
    cases h1 : plan.durationUnit with rw [h1] at h hpos
    | custom =>
      dsimp only at h
      split at h
      · cases h
      · cases h
        omega
    | year | month =>
      have := hpos nofun
      cases h
      apply hcfg <;> omega
    | day | hour =>
      have := hpos nofun
      cases h
      omega

theorem createSubscriptionLotTx_same
    (h : Tx.Ok (createSubscriptionLotTx now source userId sub paidAmount) db u db') :
    SameGroups db db' := by
  have hadmin : Tx.Ok (createSubscriptionLotFromAdminTx now sub) db u db' → SameGroups db db' := by
    intro hok
    rcases createSubscriptionLotFromAdminTx_ok hok with rfl | ⟨_, rfl⟩
    · exact .refl _
    · exact .of_users rfl rfl
  cases source with
  | order =>
    obtain ⟨_, rfl⟩ := Tx.Ok.pure h
    exact .refl _
  | admin => exact hadmin h
  | wallet =>
    simp only [createSubscriptionLotTx] at h
    split at h
    · rcases createSubscriptionLotFromWalletTx_ok h with
        rfl | ⟨_, _, db1, rfl, ⟨_, rfl⟩ | ⟨_, rfl⟩⟩
      · exact .refl _
      · exact .of_users rfl rfl
      · exact .of_users rfl rfl
    · exact hadmin h

theorem createUserSubscriptionFromPlanWithPaidAmountTx_joined (hcfg : cfg.DatesAdvance)
    (h : Tx.Ok (createUserSubscriptionFromPlanWithPaidAmountTx cfg now userId plan source
      paidAmount)
      db sub db') : SnapshotOf now userId plan sub ∧ Joined sub db db' := by
  obtain ⟨db1, s, endTime, prev, hend, hup, hs, rfl, hlot⟩ :=
    createUserSubscriptionFromPlanWithPaidAmountTx_steps h
  have h1 : Joined (db1.userSubscriptions.stored s) db
      { db1 with userSubscriptions := db1.userSubscriptions.insert s } := by
    subst hs
    rcases upgradeUserGroupTx_cases hup with ⟨rfl, rfl, h2⟩ | ⟨rfl, hne, _, rfl⟩
    · exact ⟨rfl, .inl ⟨rfl, fun _ => rfl, h2⟩⟩
    · refine ⟨rfl, .inr ⟨rfl, hne, fun v => ?_⟩⟩
      exact userGroup_setUserGroup userId _ v
  refine ⟨?_, h1.after (createSubscriptionLotTx_same hlot)⟩
  subst hs
  refine ⟨rfl, rfl, ?_, calcPlanEndTime_lt hcfg hend⟩
  show trimSpace plan.normalizeModelLimits.upgradeGroup = _
  simp only [SubscriptionPlan.normalizeModelLimits]

/-- A creation for the user and the plan that the call names, or nothing to see. -/
def Creates (now : Int) (planFor : Option (Nat × SubscriptionPlan)) (db db' : Database) : Prop :=
  SameGroups db db' ∨
    ∃ userId plan s, planFor = some (userId, plan) ∧ SnapshotOf now userId plan s ∧ Joined s db db'

theorem fulfilSubscriptionOrderTx_joined (hcfg : cfg.DatesAdvance)
    {cached : Option SubscriptionPlan} {o : SubscriptionOrder} {payload method : String}
    (h : Tx.Ok (fulfilSubscriptionOrderTx cfg now cached o payload method) db u db') :
    ∃ plan s, readPlan db cached o.planId = some plan ∧ SnapshotOf now o.userId plan s ∧
      Joined s db db' := by
  obtain ⟨plan, db1, h1, h2⟩ := h.bind
  obtain ⟨hplan, rfl⟩ := getSubscriptionPlanByIdTx_ok h1
  obtain ⟨s, db2, h3, h4⟩ := h2.bind
  obtain ⟨hsnap, hjoin⟩ := createUserSubscriptionFromPlanWithPaidAmountTx_joined hcfg h3
  -- what follows writes lots, ledgers, top-ups and the order
  obtain ⟨_, db3, h5, h6⟩ := h4.bind
  obtain ⟨_, rfl, _⟩ := createSubscriptionLotFromOrderTx_ok h5
  obtain ⟨_, db4, h7, h8⟩ := h6.bind
  obtain ⟨_, rfl, _⟩ := recordPaymentFeeLedgerTx_ok h7
  obtain ⟨_, db5, h9, h10⟩ := h8.bind
  obtain ⟨_, rfl, _⟩ := upsertSubscriptionTopUpTx_ok h9
  obtain rfl := h10.exec
  exact ⟨plan, s, hplan, hsnap, hjoin.after (.of_users rfl rfl)⟩

theorem CreateCall.next_creates (hcfg : cfg.DatesAdvance) (call : CreateCall) (faults : List Bool)
    (db : Database) : Creates now (call.planFor db) db (call.next cfg now faults db) := by
  have hsame : ∀ {p}, Creates now p db db := .inl (.refl db)
  cases call with
  | purchaseSubscriptionWithWallet cached userId planId =>
    simp only [CreateCall.next, Xingkong.purchaseSubscriptionWithWallet]
    split
    · exact hsame
    · apply Tx.transaction_invariant (P := Creates now _ db) hsame
      intro s db' hok
      obtain ⟨db1, plan, required, hplan, _, hpay, hc⟩ := purchaseSubscriptionWithWalletTx_ok hok
      have h1 : SameGroups db db1 := by
        rcases hpay with rfl | rfl
        · exact .refl _
        · exact .addUserQuota db userId _
      obtain ⟨hsnap, hjoin⟩ := createUserSubscriptionFromPlanWithPaidAmountTx_joined hcfg hc
      refine .inr ⟨userId, plan, s, ?_, hsnap, hjoin.before h1⟩
      show (readPlan db cached planId).map _ = _
      rw [hplan, map_some]
  | adminBindSubscription cached userId planId =>
    simp only [CreateCall.next, Xingkong.adminBindSubscription]
    split
    · exact hsame
    · apply Tx.transaction_invariant (P := Creates now _ db) hsame
      intro _ db' hok
      obtain ⟨plan, db1, h1, h2⟩ := hok.bind
      obtain ⟨hplan, rfl⟩ := getSubscriptionPlanByIdTx_ok h1
      obtain ⟨s, db2, h3, h4⟩ := h2.bind
      obtain ⟨_, rfl⟩ := h4.pure
      obtain ⟨hsnap, hjoin⟩ := createUserSubscriptionFromPlanWithPaidAmountTx_joined hcfg h3
      refine .inr ⟨userId, plan, s, ?_, hsnap, hjoin⟩
      show (readPlan _ cached planId).map _ = _
      rw [hplan, map_some]
  | completeSubscriptionOrder cached tradeNo payload provider method =>
    simp only [CreateCall.next, Xingkong.completeSubscriptionOrder]
    split
    · exact hsame
    · apply Tx.transaction_invariant (P := Creates now _ db) hsame
      intro _ db' hok
      obtain ⟨o, ho, h1⟩ := firstOrder_bind hok
      obtain ⟨_, h2⟩ := h1.failIf_bind
      split at h2
      · obtain ⟨_, rfl⟩ := h2.pure
        exact hsame
      · obtain ⟨hs, h3⟩ := h2.failIf_bind
        obtain ⟨plan, s, hplan, hsnap, hjoin⟩ := fulfilSubscriptionOrderTx_joined hcfg h3
        refine .inr ⟨o.userId, plan, s, ?_, hsnap, hjoin⟩
        have h1 : decide (o.status = .pending) = true := decide_eq_true (not_not.1 hs)
        simp [CreateCall.planFor, ho, filter_some, h1, hplan]

end Creation

/-! ## Steps -/

theorem rows_cancelSubscriptionRow (db : Database) (subId : Nat) :
    (db.cancelSubscriptionRow subId now).userSubscriptions.rows =
      db.userSubscriptions.rows.map fun s =>
        if s.id = subId then { s with status := .cancelled, endTime := now } else s := by
  simp [Database.cancelSubscriptionRow, Table.update]

theorem rows_expireUserRows (db : Database) :
    (db.expireUserRows userId now).userSubscriptions.rows =
      db.userSubscriptions.rows.map (expireRow now [userId]) := by
  simp [Database.expireUserRows, Table.update, expireRow]

def Home (u : Nat) (g : String) (clock : Int) (db : Database) : Prop :=
  HomeGroup u g clock (db.userGroup u) db.userSubscriptions.rows

namespace Home

variable {u : Nat} {g : String} {clock : Int} {db db1 db' : Database}
  {sub : UserSubscription}

theorem same (h : Home u g clock db) (hs : SameGroups db db') : Home u g clock db' := by
  unfold Home
  rw [hs.group, hs.rows]
  exact h

theorem created (h : Home u g clock db) (hle : clock ≤ now) (hsnap : SnapshotOf now userId plan sub)
    (hjoin : Joined sub db db')
    (hone : userId = u → trimSpace plan.upgradeGroup ≠ "" → hasActiveUpgrade db u = false) :
    Home u g now db' := by
  unfold Home
  rw [hjoin.rows]
  by_cases hup : sub.Upgraded u
  · obtain ⟨hown, hname⟩ := hup
    have h1 := hasActiveUpgrade_eq_false.1
      (hone (hsnap.owner.symm.trans hown) (hsnap.upgradeGroup ▸ hname))
    have hhome : db.userGroup u = some g := HomeGroup.home h h1
    have h2 : trimSpace sub.upgradeGroup = sub.upgradeGroup := by
      rw [hsnap.upgradeGroup, trimSpace_trimSpace]
    refine .add_upgraded h hle h1 ⟨hown, hname⟩ hsnap.active h2 hsnap.lasts ?_
    rcases hjoin.group with ⟨h1, h2, h3⟩ | ⟨h1, _, hmove⟩
    · rw [hown, hhome, getD_some] at h3
      exact .inl ⟨h1, (h3.resolve_left hname).symm, (h2 u).trans hhome⟩
    · rw [hown, hhome, getD_some] at h1
      refine .inr ⟨h1, ?_⟩
      rw [hmove u, hhome, map_some, if_pos hown.symm]
  · have h1 : db'.userGroup u = db.userGroup u := by
      rcases hjoin.group with ⟨_, h2, _⟩ | ⟨_, hname, hmove⟩
      · exact h2 u
      · have hne : u ≠ sub.userId := fun hown => hup ⟨hown.symm, hname⟩
        rw [hmove u]
        simp [hne]
    rw [h1]
    exact (HomeGroup.add_other h hup).later hle

theorem downgraded (h : Home u g clock db) (hg : GroupName g)
    (hsub : sub ∈ db.userSubscriptions.rows) (hgroup : db1.userGroup u = db.userGroup u)
    (hrows : ∀ x ∈ db1.userSubscriptions.rows, x.id ≠ sub.id → x ∈ db.userSubscriptions.rows)
    (hdown : Downgraded sub now db1 db') {rows' : List UserSubscription}
    (he : HomeGroup.Ended sub db.userSubscriptions.rows rows') :
    HomeGroup u g clock (db'.userGroup u) rows' := by
  refine .ended h hg hsub ?_ he ?_ ?_
  · intro x hx hid
    exact Table.eq_of_key hx hsub hid
  · intro hne
    rcases hdown with ⟨rfl, _⟩ | ⟨_, rfl⟩
    · exact hgroup
    · rw [userGroup_setUserGroup, hgroup]
      simp [Ne.symm hne]
  · intro hown
    rcases hdown with ⟨rfl, h1⟩ | ⟨hfalls, rfl⟩
    · rw [← hgroup]
      refine .inl ⟨rfl, ?_⟩
      rw [hown] at h1
      refine h1.imp_left ?_
      intro h1
      obtain ⟨x, hx⟩ := isSome_iff_exists.1 h1
      obtain ⟨hmem, hp⟩ := Table.mem_of_first? hx
      simp only [Bool.and_eq_true, decide_eq_true_eq] at hp
      obtain ⟨⟨⟨⟨h1, hact⟩, _⟩, hid⟩, hup⟩ := hp
      exact ⟨x, hrows x hmem hid, ⟨h1, hup⟩, hact, hid⟩
    · rw [hown] at hfalls ⊢
      exact .inr ⟨hgroup ▸ hfalls, hfalls.moved _⟩

variable {n : Unit} {e : UserSubscription} {target : String}

theorem refundSubscriptionTx_same (h : Tx.Ok (refundSubscriptionTx now sub) db n db') :
    SameGroups db db' := by
  rcases refundSubscriptionTx_ok h with ⟨_, rfl⟩ | ⟨_, ht⟩
  · exact .refl _
  · obtain ⟨hu, hs⟩ := transferSubscriptionLotToWalletTx_frame ht
    refine ⟨fun v => ?_, hs⟩
    rw [userGroup_congr hu, userGroup_addUserQuota]

section

variable (h : Home u g clock db) (hle : clock ≤ now) (hg : GroupName g)

include h hle hg

theorem cancelled (hsub : db.userSubscriptions.find? sub.id = some sub)
    (hr : Tx.Ok (refundSubscriptionTx now sub) (db.cancelSubscriptionRow sub.id now) n db1)
    (hdown : Downgraded sub now db1 db') : Home u g now db' := by
  have hmem := (Table.find?_eq_some.1 hsub).1
  have hsame := refundSubscriptionTx_same hr
  have hrows' : db'.userSubscriptions =
      (db.cancelSubscriptionRow sub.id now).userSubscriptions := by
    obtain ⟨users, rfl⟩ := hdown.regrouped.frame
    exact hsame.rows
  -- a row of the new table is the cancelled one, or an old one with another key
  have hcases : ∀ x' ∈ (db.cancelSubscriptionRow sub.id now).userSubscriptions.rows,
      (x' ∈ db.userSubscriptions.rows ∧ x'.id ≠ sub.id) ∨
        x' = { sub with status := .cancelled, endTime := now } := by
    intro x' hx'
    rw [rows_cancelSubscriptionRow] at hx'
    obtain ⟨x, hx, rfl⟩ := mem_map.1 hx'
    by_cases hid : x.id = sub.id
    · right
      rw [if_pos hid, Table.eq_of_key hx hmem hid]
    · left
      rw [if_neg hid]
      exact ⟨hx, hid⟩
  have hended : HomeGroup.Ended sub db.userSubscriptions.rows db'.userSubscriptions.rows := by
    rw [hrows']
    constructor
    · intro x' hx'
      rcases hcases x' hx' with ⟨hx, hid⟩ | rfl
      · exact ⟨x', hx, rfl, rfl, rfl, fun _ => ⟨rfl, hid⟩, fun _ => rfl⟩
      · exact ⟨sub, hmem, rfl, rfl, rfl, nofun, nofun⟩
    · intro x hx hid
      rw [rows_cancelSubscriptionRow]
      exact mem_map.2 ⟨x, hx, if_neg hid⟩
  refine (h.downgraded hg hmem ?_ ?_ hdown hended).later hle
  · exact (hsame.group u).trans (userGroup_congr rfl u)
  · intro x hx hid
    rw [hsame.rows] at hx
    rcases hcases x hx with ⟨hx, _⟩ | rfl
    · exact hx
    · exact absurd rfl hid

theorem deleted {db2 : Database} (hsub : db.userSubscriptions.find? sub.id = some sub)
    (hr : Tx.Ok (refundSubscriptionTx now sub) db n db1) (hdown : Downgraded sub now db1 db2)
    (hdb : db' = { db2 with
      userSubscriptions := db2.userSubscriptions.delete fun s => s.id = sub.id }) :
    Home u g now db' := by
  have hmem := (Table.find?_eq_some.1 hsub).1
  have hsame := refundSubscriptionTx_same hr
  have hrows : db2.userSubscriptions = db.userSubscriptions := by
    obtain ⟨users, rfl⟩ := hdown.regrouped.frame
    exact hsame.rows
  have hended : HomeGroup.Ended sub db.userSubscriptions.rows db'.userSubscriptions.rows := by
    rw [hdb]
    rw [hrows, Table.rows_delete]
    constructor
    · intro x hx
      obtain ⟨hx, hid⟩ := mem_filter.1 hx
      exact ⟨x, hx, rfl, rfl, rfl, fun _ => ⟨rfl, by simpa using hid⟩, fun _ => rfl⟩
    · intro x hx hid
      exact mem_filter.2 ⟨hx, by simpa using hid⟩
  have h1 : db'.userGroup u = db2.userGroup u := by
    rw [hdb]
    exact userGroup_congr rfl u
  unfold Home
  rw [h1]
  refine (h.downgraded hg hmem (hsame.group u) ?_ hdown hended).later hle
  intro x hx _
  rw [← hsame.rows]
  exact hx

end

/-! The expiry job. -/

instance : IsTrans UserSubscription fun a b => endsFirst b a :=
  ⟨fun a b c hab hbc => by unfold endsFirst at *; omega⟩

instance : Std.Total fun a b : UserSubscription => endsFirst b a :=
  ⟨fun a b => by unfold endsFirst; omega⟩

theorem lastExpiredUpgrade_mem (h : lastExpiredUpgrade db u = some e) :
    e ∈ db.userSubscriptions.rows ∧ e.Upgraded u ∧ e.status = .expired := by
  have hmem := mem_of_mem_head? h
  rw [mem_insertionSort] at hmem
  obtain ⟨hrow, hp⟩ := mem_filter.1 hmem
  simp only [Bool.and_eq_true, decide_eq_true_eq] at hp
  exact ⟨hrow, ⟨hp.1.1, hp.2⟩, hp.1.2⟩

theorem lastExpiredUpgrade_eq (h : HomeGroup.LastExpired u e db.userSubscriptions.rows) :
    lastExpiredUpgrade db u = some e := by
  obtain ⟨hrow, hup, hexp, hlast⟩ := h
  have hsorted := pairwise_insertionSort (fun a b : UserSubscription => endsFirst b a)
    (db.userSubscriptions.filter fun s =>
      s.userId = u && s.status = .expired && s.upgradeGroup ≠ "")
  have hmem : e ∈ (db.userSubscriptions.filter fun s =>
      s.userId = u && s.status = .expired && s.upgradeGroup ≠ "").insertionSort
        fun a b => endsFirst b a := by
    rw [mem_insertionSort]
    refine mem_filter.2 ⟨hrow, ?_⟩
    simp [hup.1, hup.2, hexp]
  cases hl : lastExpiredUpgrade db u with
  | none =>
    rw [List.head?_eq_none_iff.1 hl] at hmem
    cases hmem
  | some m =>
    obtain ⟨hm, hmu, hme⟩ := lastExpiredUpgrade_mem hl
    obtain ⟨l, h1⟩ := List.head?_eq_some_iff.1 hl
    rw [h1] at hmem hsorted
    rcases mem_cons.1 hmem with rfl | hin
    · rfl
    · -- the head of the list does not end before `e`, so it is `e`
      have hle : endsFirst e m := (pairwise_cons.1 hsorted).1 e hin
      rcases hlast m hm hmu hme with rfl | hlt
      · rfl
      · unfold endsFirst at hle
        omega

theorem expire_user (h : Home u g clock db) (hle : clock ≤ now) (hg : GroupName g)
    (hok : Tx.Done (expireUserSubscriptionsTx now u) db target db') :
    Home u g now db' := by
  obtain ⟨db1, rfl, hcases⟩ := expireUserSubscriptionsTx_done hok
  have h1 : (db.expireUserRows u now).userGroup u = db.userGroup u :=
    userGroup_congr rfl u
  have hrows : db'.userSubscriptions = (db.expireUserRows u now).userSubscriptions := by
    rcases hcases with ⟨rfl, _⟩ | ⟨_, _, _, rfl⟩ <;> rfl
  unfold Home
  rw [hrows, rows_expireUserRows]
  refine .expired h hle hg ?_
  rw [← rows_expireUserRows, ← h1]
  rcases hcases with ⟨rfl, h1 | h2⟩ | ⟨e, he, hfalls, rfl⟩
  · refine .inl ⟨rfl, .inl ?_⟩
    obtain ⟨x, hx⟩ := isSome_iff_exists.1 h1
    obtain ⟨hmem, hp⟩ := Table.mem_of_first? hx
    simp only [Bool.and_eq_true, decide_eq_true_eq] at hp
    exact ⟨x, hmem, ⟨hp.1.1.1.1, hp.2⟩, hp.1.1.1.2⟩
  · refine .inl ⟨rfl, .inr ?_⟩
    intro e he
    exact h2 e (lastExpiredUpgrade_eq he)
  · obtain ⟨hmem, hup, _⟩ := lastExpiredUpgrade_mem he
    exact .inr ⟨e, hmem, hup, hfalls, hfalls.moved _⟩

theorem expire_other (h : Home u g clock db) {v : Nat} (hv : v ≠ u)
    (hok : Tx.Ok (expireUserSubscriptionsTx now v) db target db') : Home u g clock db' := by
  have hrows : db'.userSubscriptions = (db.expireUserRows v now).userSubscriptions := by
    obtain ⟨users, rfl⟩ := (expireUserSubscriptionsTx_ok hok).frame
    rfl
  have h1 : (db.expireUserRows v now).userGroup u = db.userGroup u :=
    userGroup_congr rfl u
  have h2 : db'.userGroup u = db.userGroup u := by
    rcases expireUserSubscriptionsTx_cases hok with rfl | ⟨group, rfl⟩
    · exact h1
    · rw [userGroup_setUserGroup, h1]
      simp [Ne.symm hv]
  unfold Home
  rw [h2, hrows, rows_expireUserRows]
  apply HomeGroup.map_other h
  · intro x
    unfold expireRow
    split <;> rfl
  · intro x hx
    unfold expireRow
    rw [if_neg]
    rintro ⟨hmem, _⟩
    exact hv ((mem_singleton.1 hmem).symm.trans hx)

theorem expireDueSubscriptions (h : Home u g now db) (hg : GroupName g)
    (limit : Int) (visit : List Nat → List Nat) (listFails : Bool)
    (userFaults lotFaults : Nat → List Bool) (hf : true ∉ userFaults u) :
    Home u g now
      (Xingkong.expireDueSubscriptions cfg now limit visit listFails userFaults lotFaults
        db).2 := by
  refine expireDueSubscriptions_invariant (P := Home u g now) (fun v d _ d' hd he => ?_)
    (fun subId d _ d' hd hok => ?_) cfg limit visit listFails lotFaults h
  · by_cases hv : v = u
    · subst hv
      exact hd.expire_user le_rfl hg (Tx.transaction_done hf he)
    · exact hd.expire_other hv (Tx.transaction_ok he)
  · obtain ⟨hu, hs⟩ := recognizeSubscriptionBreakageTx_frame hok
    exact hd.same (.of_users hu hs)

theorem finished (h : Home u g clock db) (hle : clock ≤ now) (hg : GroupName g) (subId : Nat)
    (call : EndCall) (faults : List Bool)
    (hf : ∀ limit visit visits listFails userFaults lotFaults,
      call = .expireDueSubscriptions limit visit visits listFails userFaults lotFaults →
        true ∉ userFaults u) :
    Home u g now ((EndStep.mk call now faults).next cfg subId db) := by
  have hsame : Home u g now db := .later h hle
  rcases EndStep.next_cases cfg subId db ⟨call, now, faults⟩ with he |
    ⟨sub, db1, hrow, -, hr, h1⟩ | ⟨sub, db1, db2, hrow, -, hr, h1, hdb⟩ |
    ⟨limit, visit, visits, listFails, userFaults, lotFaults, hcall, he⟩
  · rw [he]
    exact hsame
  · obtain rfl := (Table.find?_eq_some.1 hrow).2
    exact h.cancelled hle hg hrow hr h1
  · obtain rfl := (Table.find?_eq_some.1 hrow).2
    exact h.deleted hle hg hrow hr h1 hdb
  · rw [he]
    exact hsame.expireDueSubscriptions hg limit visit listFails userFaults lotFaults
      (hf _ _ visits _ _ _ hcall)

theorem next {w : GroupWorld} {s : GroupStep} (h : Home u g w.clock w.db)
    (hcfg : cfg.DatesAdvance) (hg : GroupName g) (hone : s.oneUpgrade u w = true) :
    Home u g (groupNext cfg w s).clock (groupNext cfg w s).db := by
  obtain ⟨call, now, faults⟩ := s
  unfold GroupStep.oneUpgrade at hone
  rw [Bool.and_eq_true, decide_eq_true_eq] at hone
  obtain ⟨hle, hone⟩ := hone
  cases call with
  | create call =>
    rcases call.next_creates hcfg faults w.db with h1 | ⟨userId, plan, sub, hfor, h2, h3⟩
    · exact HomeGroup.later (h.same h1) hle
    · refine h.created hle h2 h3 ?_
      rintro rfl h1
      have hup : call.upgrades w.db userId = true := by
        unfold CreateCall.upgrades
        rw [hfor]
        simp [h1]
      simpa [hup] using hone
  | finish subId call =>
    refine h.finished hle hg subId call faults ?_
    rintro limit visit visits listFails userFaults lotFaults rfl hmem
    simp [hmem] at hone

end Home

/-! ## Whole runs -/

/-- **A user is back in their own group when no upgrade is active.** If no upgraded subscription
is created for the user while another is active, time does not go back and the user's expiry meets
no failing statement, then after every call after which no upgrade is active, the user's group is
the one before the first upgrade. -/
theorem user_group_restored (cfg : Config) (hcfg : cfg.DatesAdvance) (u : Nat) (g : String)
    (hg : g ≠ "") (htrim : trimSpace g = g) (w : GroupWorld) (hgroup : w.db.userGroup u = some g)
    (hfresh : ∀ s ∈ w.db.userSubscriptions.rows, ¬ s.Upgraded u) (steps : List GroupStep)
    (hone : ∀ e ∈ Run.trace (groupNext cfg) w steps, e.act.oneUpgrade u e.before = true) :
    ∀ e ∈ Run.trace (groupNext cfg) w steps,
      hasActiveUpgrade e.after.db u = false → e.after.db.userGroup u = some g := by
  have hstart : Home u g w.clock w.db := by
    refine ⟨?_, ?_, fun _ => hgroup, ?_, ?_⟩
    · intro s hs hup
      exact absurd hup (hfresh s hs)
    · intro s hs _ _ hup
      exact absurd hup (hfresh s hs)
    · intro s hs hup
      exact absurd hup (hfresh s hs)
    · intro s hs hup
      exact absurd hup (hfresh s hs)
  intro e he h1
  obtain ⟨_, _, h2⟩ := Run.guarded_invariant (P := fun w => Home u g w.clock w.db) hstart hone
    (fun w s hs h => h.next hcfg ⟨hg, htrim⟩ hs) he
  exact HomeGroup.home h2 (hasActiveUpgrade_eq_false.1 h1)

def defaultUserWorld : GroupWorld where
  db := { Database.empty with
    users := Table.empty.insert
      { id := 0, role := 1, quota := 0, group := "default", email := "", stripeCustomer := ""
        deleted := false } }
  clock := 0

def upgradePlan (id : Nat) (group : String) : SubscriptionPlan where
  id := id
  priceAmount := 0
  durationUnit := .hour
  durationValue := 1
  customSeconds := 0
  enabled := true
  maxPurchasePerUser := 0
  upgradeGroup := group
  modelLimitsEnabled := false
  modelLimits := ""
  totalAmount := 0
  fiveHourAmount := 0
  dailyAmount := 0
  weeklyAmount := 0

def bindAt (now : Int) (id : Nat) (group : String) : GroupStep :=
  ⟨.create (.adminBindSubscription (some (upgradePlan id group)) 1 id), now, []⟩

def cancelAt (now : Int) (subId : Nat) : GroupStep :=
  ⟨.finish subId (.cancelSubscriptionByUser 1), now, []⟩

def expireGroupAt (now : Int) : GroupStep :=
  ⟨.finish 0 (expireAt now).call, now, []⟩

theorem fresh_datesAdvance : Config.fresh.DatesAdvance := by
  intro start years months hy hm hpos
  show start < start + years * 31536000 + months * 2592000
  omega

/-- One upgrade after the other, the first cancelled and the second expired. -/
theorem user_group_restored_twice :
    defaultUserWorld.db.userGroup 1 = some "default" ∧
    ∀ e ∈ Run.trace (groupNext .fresh) defaultUserWorld
        [bindAt 10 1 "vip", cancelAt 20 1, bindAt 30 2 "svip", expireGroupAt 4000],
      hasActiveUpgrade e.after.db 1 = false → e.after.db.userGroup 1 = some "default" :=
  ⟨by decide +kernel, user_group_restored .fresh fresh_datesAdvance 1 "default" (by decide)
    (by decide +kernel) defaultUserWorld (by decide +kernel) (by decide +kernel) _
    (by decide +kernel)⟩

/-- Two upgrades that overlap: the second remembers the group of the first, where the user is left
when both are cancelled; and with two upgrades to one group the user keeps it when the first ends
first. -/
theorem user_group_not_restored :
    let both := Run.final (groupNext .fresh) defaultUserWorld
      [bindAt 10 1 "vip", bindAt 20 2 "svip", cancelAt 30 1, cancelAt 40 2]
    let same := Run.final (groupNext .fresh) defaultUserWorld
      [bindAt 10 1 "vip", bindAt 20 2 "vip", cancelAt 30 1, expireGroupAt 4000]
    (hasActiveUpgrade both.db 1 = false ∧ both.db.userGroup 1 = some "vip") ∧
      (hasActiveUpgrade same.db 1 = false ∧ same.db.userGroup 1 = some "vip") := by
  decide +kernel

end Xingkong
