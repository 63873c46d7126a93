import Xingkong.Model.Subscription
import Xingkong.Spec.Quota

/-!
# What the subscription functions do

One lemma per function of `Xingkong.Model.Subscription`. Moves between user groups are
read as `Regrouped`: whatever group they choose, no quota, no exemption and no other table
is touched. `Downgraded` and `expireUserSubscriptionsTx_done` say which group it is.
-/

namespace Xingkong

open Rdb Database Tx

variable {db db' : Database} {now : Int}

/-! ## User groups -/

/-- `db'` is `db`, or `db` with one user moved to another group. -/
def Regrouped (db db' : Database) : Prop :=
  db' = db ∨ ∃ userId group, db' = db.setUserGroup userId group

namespace Regrouped

variable (h : Regrouped db db')

include h

theorem frame : ∃ users, db' = { db with users } := by
  rcases h with rfl | ⟨userId, group, rfl⟩ <;> exact ⟨_, rfl⟩

theorem live (v : Nat) : (db'.liveUser? v).isSome = (db.liveUser? v).isSome := by
  rcases h with rfl | ⟨userId, group, rfl⟩
  · rfl
  · refine live_updateLiveUser _ ?_ v
    exact fun _ => rfl

theorem exempt (v : Nat) : db'.exempt v = db.exempt v := by
  rcases h with rfl | ⟨userId, group, rfl⟩
  · rfl
  · refine exempt_updateLiveUser _ ?_ ?_ v <;> exact fun _ => rfl

theorem userQuota (v : Nat) : db'.userQuota v = db.userQuota v := by
  rcases h with rfl | ⟨userId, group, rfl⟩
  · rfl
  · have hq : (db.setUserGroup userId group).userQuota v =
        db.userQuota v + if v = userId ∧ (db.liveUser? v).isSome then 0 else 0 := by
      refine userQuota_updateLiveUser _ ?_ ?_ v
      · exact fun _ => rfl
      · exact fun u => (add_zero u.quota).symm
    simpa using hq

end Regrouped

def Database.userGroup (db : Database) (userId : Nat) : Option String :=
  (db.liveUser? userId).map User.group

theorem Database.userGroup_congr (h : db'.users = db.users) (v : Nat) :
    db'.userGroup v = db.userGroup v := by
  unfold Database.userGroup
  rw [Database.liveUser?_congr h]

variable {userId subId : Nat} {sub : UserSubscription} {target tradeNo : String}
  {cached : Option SubscriptionPlan} {plan : SubscriptionPlan} {cfg : Config} {u : Unit}

theorem Database.userGroup_updateLiveUser {f : User → User} (hf : ∀ u, (f u).id = u.id)
    {k : String → String} (hd : ∀ u, (f u).deleted = u.deleted) (hk : ∀ u, (f u).group = k u.group)
    (v : Nat) :
    (db.updateLiveUser userId f hf).userGroup v =
      (db.userGroup v).map fun g => if v = userId then k g else g := by
  unfold Database.userGroup
  rw [Database.liveUser?_updateLiveUser hf hd, Option.map_map, Option.map_map]
  congr 1
  funext u
  by_cases hv : v = userId <;> simp [hv, hk]

theorem Database.userGroup_addUserQuota (userId : Nat) (quota : Int) (v : Nat) :
    (db.addUserQuota userId quota).userGroup v = db.userGroup v := by
  have h : (db.addUserQuota userId quota).userGroup v =
      (db.userGroup v).map fun g => if v = userId then id g else g := by
    refine userGroup_updateLiveUser _ ?_ ?_ v <;> exact fun _ => rfl
  simpa using h

theorem Database.userGroup_setUserGroup (userId : Nat) (group : String) (v : Nat) :
    (db.setUserGroup userId group).userGroup v =
      (db.userGroup v).map fun g => if v = userId then group else g := by
  refine userGroup_updateLiveUser _ ?_ ?_ v <;> exact fun _ => rfl

theorem getUserGroupByIdTx_ok {group : String}
    (h : Tx.Ok (getUserGroupByIdTx userId) db group db') :
    group = (db.userGroup userId).getD "" ∧ db' = db := by
  obtain ⟨_, h1⟩ := Ok.failIf_bind h
  exact h1.query

variable {upgradeGroup prev payload method : String} {source : SubscriptionSource}
  {paidAmount : Int} {provider : PaymentProvider}

theorem upgradeUserGroupTx_cases (h : Tx.Ok (upgradeUserGroupTx userId upgradeGroup) db prev db') :
    (prev = "" ∧ db' = db ∧
        (upgradeGroup = "" ∨ (db.userGroup userId).getD "" = upgradeGroup)) ∨
      (prev = (db.userGroup userId).getD "" ∧ upgradeGroup ≠ "" ∧ prev ≠ upgradeGroup ∧
        db' = db.setUserGroup userId upgradeGroup) := by
  unfold upgradeUserGroupTx at h
  split at h
  next hup =>
    exact .inl ⟨h.pure.1, h.pure.2, .inl hup⟩
  next hup =>
    obtain ⟨g, db1, h1, h2⟩ := h.bind
    obtain ⟨rfl, rfl⟩ := getUserGroupByIdTx_ok h1
    split at h2
    next hg =>
      exact .inl ⟨h2.pure.1, h2.pure.2, .inr hg⟩
    next hg =>
      obtain ⟨rfl, rfl⟩ := h2.exec_bind.pure
      exact .inr ⟨rfl, hup, hg, rfl⟩

theorem upgradeUserGroupTx_ok (h : Tx.Ok (upgradeUserGroupTx userId upgradeGroup) db prev db') :
    Regrouped db db' := by
  rcases upgradeUserGroupTx_cases h with ⟨_, rfl, _⟩ | ⟨_, _, _, rfl⟩
  · exact .inl rfl
  · exact .inr ⟨_, _, rfl⟩

/-- The user is in the group of a subscription that remembers where they came from. -/
def FallsBack (sub : UserSubscription) (group : Option String) : Prop :=
  trimSpace sub.upgradeGroup ≠ "" ∧ trimSpace sub.prevUserGroup ≠ "" ∧
    group.getD "" = trimSpace sub.upgradeGroup

theorem FallsBack.moved (h : FallsBack sub (db.userGroup userId)) (group : String) :
    (db.setUserGroup userId group).userGroup userId = some group := by
  rw [userGroup_setUserGroup]
  cases hlive : db.userGroup userId with
  | none =>
    have hcur := h.2.2
    rw [hlive] at hcur
    exact absurd hcur.symm h.1
  | some c => rw [Option.map_some, if_pos rfl]

/-- The user of a subscription that ends falls back to the group it remembers, or stays for a
reason. -/
def Downgraded (sub : UserSubscription) (now : Int) (db db' : Database) : Prop :=
  (db' = db ∧ (hasOtherActiveUpgrade db sub.userId sub.id now = true ∨
      ¬ FallsBack sub (db.userGroup sub.userId) ∨
      trimSpace sub.prevUserGroup = (db.userGroup sub.userId).getD "")) ∨
    (FallsBack sub (db.userGroup sub.userId) ∧
      db' = db.setUserGroup sub.userId (trimSpace sub.prevUserGroup))

theorem Downgraded.regrouped (h : Downgraded sub now db db') : Regrouped db db' := by
  rcases h with ⟨rfl, _⟩ | ⟨_, rfl⟩
  · exact .inl rfl
  · exact .inr ⟨_, _, rfl⟩

theorem downgradeUserGroupForSubscriptionTx_ok
    (h : Tx.Ok (downgradeUserGroupForSubscriptionTx sub now) db target db') :
    Downgraded sub now db db' := by
  unfold downgradeUserGroupForSubscriptionTx at h
  simp only at h
  split at h
  next hup =>
    exact .inl ⟨h.pure.2, .inr (.inl fun hf => hf.1 hup)⟩
  next hup =>
    obtain ⟨g, db1, h1, h2⟩ := h.bind
    obtain ⟨rfl, rfl⟩ := getUserGroupByIdTx_ok h1
    split at h2
    next hg =>
      exact .inl ⟨h2.pure.2, .inr (.inl fun hf => hg hf.2.2)⟩
    next hg =>
      obtain ⟨b, db2, h3, h4⟩ := h2.bind
      obtain ⟨hb, rfl⟩ := h3.queryOr
      split at h4
      next ht =>
        -- a failed search answers `false`
        have h1 := hb.resolve_right (by rw [ht]; exact Bool.noConfusion)
        exact .inl ⟨h4.pure.2, .inl (h1.symm.trans ht)⟩
      · split at h4
        next h1 =>
          exact .inl ⟨h4.pure.2, .inr (h1.imp (fun hp hf => hf.2.1 hp) id)⟩
        next h1 =>
          obtain ⟨_, rfl⟩ := h4.exec_bind.pure
          exact .inr ⟨⟨hup, fun hp => h1 (.inl hp), not_not.1 hg⟩, rfl⟩

/-! ## Creating a subscription -/

def readPlan (db : Database) (cached : Option SubscriptionPlan) (planId : Nat) :
    Option SubscriptionPlan :=
  match cached with
  | some plan => some plan
  | none => (db.plans.find? planId).map SubscriptionPlan.normalizeModelLimits

theorem getSubscriptionPlanByIdTx_ok {id : Nat}
    (h : Tx.Ok (getSubscriptionPlanByIdTx cached id) db plan db') :
    readPlan db cached id = some plan ∧ db' = db := by
  obtain ⟨_, h1⟩ := Ok.failIf_bind h
  cases cached with
  | some p =>
    obtain ⟨rfl, rfl⟩ := h1.pure
    exact ⟨rfl, rfl⟩
  | none =>
    obtain ⟨p, hp, h2⟩ := Ok.first_bind h1
    obtain ⟨rfl, rfl⟩ := h2.pure
    refine ⟨?_, rfl⟩
    show (db'.plans.find? id).map _ = _
    rw [hp, Option.map_some]

theorem countPurchasesTx_ok {n : Int} (h : Tx.Ok (countPurchasesTx userId plan) db n db') :
    db' = db := by
  unfold countPurchasesTx at h
  split at h
  · exact h.query.2
  · exact h.pure.2

/-- A new subscription of the user, before it has a key. -/
structure NewSubscription (userId : Nat) (source : SubscriptionSource) (paidAmount : Int)
    (sub : UserSubscription) : Prop where
  userId : sub.userId = userId
  source : sub.source = source
  paidAmount : sub.paidAmount = paidAmount
  amountUsed : sub.amountUsed = 0
  active : sub.status = .active

/-- The steps of a creation: the owner is moved to the plan's group, the row is inserted, the
lot of the source is created. -/
theorem createUserSubscriptionFromPlanWithPaidAmountTx_steps
    (h : Tx.Ok (createUserSubscriptionFromPlanWithPaidAmountTx cfg now userId plan source
      paidAmount)
      db sub db') :
    ∃ db1 s endTime prev, calcPlanEndTime cfg now plan.normalizeModelLimits = .ok endTime ∧
      Tx.Ok (upgradeUserGroupTx userId (trimSpace plan.normalizeModelLimits.upgradeGroup))
        db prev db1 ∧
      s = (subscriptionFromPlan userId plan.normalizeModelLimits source paidAmount now endTime
        (trimSpace plan.normalizeModelLimits.upgradeGroup) prev).normalizeModelLimits ∧
      sub = db1.userSubscriptions.stored s ∧
      Tx.Ok (createSubscriptionLotTx now source userId sub paidAmount)
        { db1 with userSubscriptions := db1.userSubscriptions.insert s } () db' := by
  obtain ⟨_, h1⟩ := h.failIf_bind
  obtain ⟨_, h2⟩ := h1.failIf_bind
  obtain ⟨n, db1, h3, h4⟩ := h2.bind
  obtain rfl := countPurchasesTx_ok h3
  obtain ⟨_, h5⟩ := h4.failIf_bind
  obtain ⟨endTime, db2, h6, h7⟩ := h5.bind
  have hend : calcPlanEndTime cfg now plan.normalizeModelLimits = .ok endTime ∧ db2 = db1 := by
    cases he : calcPlanEndTime cfg now plan.normalizeModelLimits with
    | error e => rw [he] at h6; exact (Ok.fail h6).elim
    | ok t =>
      rw [he] at h6
      obtain ⟨rfl, rfl⟩ := Ok.pure h6
      exact ⟨rfl, rfl⟩
  obtain ⟨hend, rfl⟩ := hend
  obtain ⟨prev, db3, h8, h9⟩ := h7.bind
  obtain ⟨stored, db4, h10, h11⟩ := h9.bind
  unfold createUserSubscription at h10
  obtain ⟨rfl, rfl⟩ := h10.query_bind.exec_bind.pure
  obtain ⟨_, db5, h12, h13⟩ := h11.bind
  obtain ⟨rfl, rfl⟩ := h13.pure
  exact ⟨db3, _, endTime, prev, hend, h8, rfl, rfl, h12⟩

/-- One row is inserted, perhaps after a move of its owner to another group; then the
lot of the source is created. -/
theorem createUserSubscriptionFromPlanWithPaidAmountTx_ok
    (h : Tx.Ok (createUserSubscriptionFromPlanWithPaidAmountTx cfg now userId plan source
      paidAmount)
      db sub db') :
    ∃ db1 s, Regrouped db db1 ∧ NewSubscription userId source paidAmount s ∧
      sub = db1.userSubscriptions.stored s ∧
      Tx.Ok (createSubscriptionLotTx now source userId sub paidAmount)
        { db1 with userSubscriptions := db1.userSubscriptions.insert s } () db' := by
  obtain ⟨db1, s, endTime, prev, _, hup, rfl, hsub, hlot⟩ :=
    createUserSubscriptionFromPlanWithPaidAmountTx_steps h
  exact ⟨db1, _, upgradeUserGroupTx_ok hup, ⟨rfl, rfl, rfl, rfl, rfl⟩, hsub, hlot⟩

theorem payFromWalletTx_ok {requiredQuota : Int}
    (h : Tx.Ok (payFromWalletTx userId requiredQuota) db u db') :
    db' = db ∨ db' = db.addUserQuota userId (-requiredQuota) := by
  unfold payFromWalletTx at h
  split at h
  · exact .inr h.exec
  · exact .inl h.pure.2

theorem purchaseSubscriptionWithWalletTx_ok {planId : Nat}
    (h : Tx.Ok (purchaseSubscriptionWithWalletTx cfg now cached userId planId) db sub db') :
    ∃ db1 plan required, readPlan db cached planId = some plan ∧ 0 ≤ required ∧
      (db1 = db ∨ db1 = db.addUserQuota userId (-required)) ∧
      Tx.Ok (createUserSubscriptionFromPlanWithPaidAmountTx cfg now userId plan .wallet required)
        db1 sub db' := by
  obtain ⟨plan, db1, h1, h2⟩ := h.bind
  obtain ⟨h8, rfl⟩ := getSubscriptionPlanByIdTx_ok h1
  obtain ⟨_, h3⟩ := h2.failIf_bind
  obtain ⟨user, _, h4⟩ := Ok.first_bind h3
  obtain ⟨_, h5⟩ := h4.failIf_bind
  obtain ⟨_, db2, h6, h7⟩ := h5.bind
  exact ⟨db2, plan, _, h8, le_max_right _ _, payFromWalletTx_ok h6, h7⟩

/-! ## Ending a subscription -/

theorem calculateSubscriptionRefundQuota_eq :
    calculateSubscriptionRefundQuota sub =
      if sub.paidAmount ≤ 0 then 0 else max 0 (sub.paidAmount - sub.amountUsed) := by
  unfold calculateSubscriptionRefundQuota
  split
  · rfl
  · split <;> omega

theorem refundSubscriptionTx_ok (h : Tx.Ok (refundSubscriptionTx now sub) db u db') :
    (calculateSubscriptionRefundQuota sub ≤ 0 ∧ db' = db) ∨
      (0 < calculateSubscriptionRefundQuota sub ∧
        Tx.Ok (transferSubscriptionLotToWalletTx now sub (calculateSubscriptionRefundQuota sub))
          (db.addUserQuota sub.userId (calculateSubscriptionRefundQuota sub)) () db') := by
  unfold refundSubscriptionTx at h
  simp only at h
  split at h
  next hq =>
    exact .inr ⟨hq, h.exec_bind⟩
  next hq =>
    exact .inl ⟨by omega, h.pure.2⟩

theorem cancelSubscriptionByUserTx_ok {r : Int × String}
    (h : Tx.Ok (cancelSubscriptionByUserTx now userId subId) db r db') :
    ∃ sub db1, db.userSubscriptions.find? subId = some sub ∧ sub.userId = userId ∧
      sub.status = .active ∧ now < sub.endTime ∧ r.1 = calculateSubscriptionRefundQuota sub ∧
      Tx.Ok (refundSubscriptionTx now sub) (db.cancelSubscriptionRow sub.id now) () db1 ∧
      Downgraded sub now db1 db' := by
  obtain ⟨sub, hf, h1⟩ := h.first_bind
  obtain ⟨hm, hp⟩ := Table.mem_of_first? hf
  simp only [Bool.and_eq_true, decide_eq_true_eq] at hp
  obtain ⟨hc, h2⟩ := h1.failIf_bind
  rw [not_or, not_not, not_le] at hc
  obtain ⟨_, db1, h3, h4⟩ := h2.exec_bind.bind
  obtain ⟨target, db2, h5, h6⟩ := h4.bind
  obtain ⟨rfl, rfl⟩ := h6.pure
  exact ⟨sub, db1, Table.find?_eq_some.2 ⟨hm, hp.1⟩, hp.2, hc.1, hc.2, rfl, h3,
    downgradeUserGroupForSubscriptionTx_ok h5⟩

theorem adminInvalidateUserSubscriptionTx_ok
    (h : Tx.Ok (adminInvalidateUserSubscriptionTx now subId) db target db') :
    ∃ sub db1, db.userSubscriptions.find? subId = some sub ∧
      Tx.Ok (refundSubscriptionTx now sub) (db.cancelSubscriptionRow sub.id now) () db1 ∧
      Downgraded sub now db1 db' := by
  obtain ⟨sub, hf, h1⟩ := h.first_bind
  obtain ⟨_, db1, h2, h3⟩ := h1.exec_bind.bind
  exact ⟨sub, db1, hf, h2, downgradeUserGroupForSubscriptionTx_ok h3⟩

theorem adminDeleteUserSubscriptionTx_ok
    (h : Tx.Ok (adminDeleteUserSubscriptionTx now subId) db target db') :
    ∃ sub db1 db2, db.userSubscriptions.find? subId = some sub ∧
      Tx.Ok (refundSubscriptionTx now sub) db () db1 ∧ Downgraded sub now db1 db2 ∧
      db' = { db2 with
        userSubscriptions := db2.userSubscriptions.delete fun s => s.id = subId } := by
  obtain ⟨sub, hf, h1⟩ := h.first_bind
  obtain ⟨_, db1, h2, h3⟩ := h1.bind
  obtain ⟨t, db2, h4, h5⟩ := h3.bind
  obtain ⟨_, rfl⟩ := h5.exec_bind.pure
  exact ⟨sub, db1, db2, hf, h2, downgradeUserGroupForSubscriptionTx_ok h4, rfl⟩

/-! ## Expiry -/

theorem expireUserSubscriptionsTx_cases
    (h : Tx.Ok (expireUserSubscriptionsTx now userId) db target db') :
    db' = db.expireUserRows userId now ∨
      ∃ group, db' = (db.expireUserRows userId now).setUserGroup userId group := by
  obtain ⟨b, db1, h1, h2⟩ := h.exec_bind.bind
  obtain ⟨_, rfl⟩ := h1.queryOr
  split at h2
  · exact .inl h2.pure.2
  · obtain ⟨o, db2, h3, h4⟩ := h2.bind
    obtain ⟨_, rfl⟩ := h3.queryOr
    cases o with
    | none => exact .inl h4.pure.2
    | some last =>
      simp only at h4
      split at h4
      · exact .inl h4.pure.2
      · obtain ⟨g, db3, h5, h6⟩ := h4.bind
        obtain ⟨_, rfl⟩ := getUserGroupByIdTx_ok h5
        split at h6
        · exact .inl h6.pure.2
        · obtain ⟨_, rfl⟩ := h6.exec_bind.pure
          exact .inr ⟨_, rfl⟩

theorem expireUserSubscriptionsTx_ok
    (h : Tx.Ok (expireUserSubscriptionsTx now userId) db target db') :
    Regrouped (db.expireUserRows userId now) db' := by
  rcases expireUserSubscriptionsTx_cases h with rfl | ⟨group, rfl⟩
  · exact .inl rfl
  · exact .inr ⟨_, _, rfl⟩

/-- Without failing statements the last of the expired subscriptions decides, as soon as no
upgraded one is running. -/
theorem expireUserSubscriptionsTx_done
    (h : Tx.Done (expireUserSubscriptionsTx now userId) db target db') :
    ∃ db1, db1 = db.expireUserRows userId now ∧
      ((db' = db1 ∧ (hasOtherActiveUpgrade db1 userId 0 now = true ∨
          ∀ last, lastExpiredUpgrade db1 userId = some last → ¬ FallsBack last
    (db1.userGroup userId) ∨
            trimSpace last.prevUserGroup = (db1.userGroup userId).getD "")) ∨
        ∃ last, lastExpiredUpgrade db1 userId = some last ∧
          FallsBack last (db1.userGroup userId) ∧
          db' = db1.setUserGroup userId (trimSpace last.prevUserGroup)) := by
  refine ⟨_, rfl, ?_⟩
  have h1 := h.exec_bind.queryOr_bind
  split at h1
  next h2 =>
    exact .inl ⟨h1.ok.pure.2, .inl h2⟩
  have h2 := h1.queryOr_bind
  cases h1 : lastExpiredUpgrade (db.expireUserRows userId now) userId with
  | none =>
    rw [h1] at h2
    exact .inl ⟨h2.ok.pure.2, .inr fun _ hn => by cases hn⟩
  | some last =>
    rw [h1] at h2
    simp only at h2
    -- the only expired subscription that is looked at
    have hstay : ∀ {P : UserSubscription → Prop}, P last →
        ∀ e, some last = some e → P e := by
      rintro P hP e ⟨⟩
      exact hP
    split at h2
    next hname =>
      refine .inl ⟨h2.ok.pure.2, .inr (hstay (.inl fun hf => ?_))⟩
      exact hname.elim hf.1 hf.2.1
    next hname =>
      obtain ⟨g, db1, h3, h4⟩ := h2.bind
      obtain ⟨rfl, rfl⟩ := getUserGroupByIdTx_ok h3.ok
      split at h4
      next hg =>
        refine .inl ⟨h4.ok.pure.2, .inr (hstay ?_)⟩
        exact hg.imp (fun hne hf => hne hf.2.2) Eq.symm
      next hg =>
        obtain ⟨_, rfl⟩ := h4.ok.exec_bind.pure
        rw [not_or] at hname hg
        exact .inr ⟨last, rfl, ⟨hname.1, hname.2, not_not.1 hg.1⟩, rfl⟩

/-! The job over all users keeps what each of its transactions keeps. -/

section ExpiryJob

variable {P : Database → Prop}

theorem expireUsers_invariant {faults : Nat → List Bool}
    (huser : ∀ v d target d', P d →
      Tx.transaction (expireUserSubscriptionsTx now v) (faults v) d = (.ok target, d') → P d')
    (us : List Nat) (count : Int) (h : P db) : P (expireUsers now faults us count db).2 := by
  induction us generalizing count db with
  | nil => exact h
  | cons v us ih =>
    unfold expireUsers
    rcases transaction_cases (expireUserSubscriptionsTx now v) (faults v) db with
      ⟨target, db1, he, _⟩ | ⟨e, he⟩
    · simp only [he]
      exact ih _ (huser v db target db1 h he)
    · simp only [he]
      exact h

theorem recognizeBreakages_invariant
    (h1 : ∀ subId d u d', P d → Tx.Ok (recognizeSubscriptionBreakageTx now subId) d u d' → P d')
    (faults : Nat → List Bool) (subs : List UserSubscription) (h : P db) :
    P (recognizeBreakages now faults subs db) := by
  induction subs generalizing db with
  | nil => exact h
  | cons sub subs ih =>
    exact ih (transaction_invariant h (fun u db' hok => h1 sub.id db u db' h hok) (faults sub.id))

/-- The list of due rows may be unreadable or empty; after a user that fails the others and the
breakage are left out. -/
theorem expireDueSubscriptions_invariant {userFaults : Nat → List Bool}
    (huser : ∀ v d target d', P d →
      Tx.transaction (expireUserSubscriptionsTx now v) (userFaults v) d = (.ok target, d') → P d')
    (hbreak : ∀ subId d u d', P d → Tx.Ok (recognizeSubscriptionBreakageTx now subId) d u d' → P d')
    (cfg : Config) (limit : Int) (visit : List Nat → List Nat) (listFails : Bool)
    (lotFaults : Nat → List Bool) (h : P db) :
    P (expireDueSubscriptions cfg now limit visit listFails userFaults lotFaults db).2 := by
  unfold expireDueSubscriptions
  split
  · exact h
  · simp only
    generalize dueSubscriptions db now _ = subs
    split
    · exact h
    · have hu := expireUsers_invariant huser
        (visit ((subs.map UserSubscription.userId).filter (0 < ·)).eraseDups) 0 h
      revert hu
      generalize expireUsers now userFaults _ 0 db = r
      obtain ⟨⟨count, err⟩, db1⟩ := r
      intro hu
      cases err with
      | some e => exact hu
      | none =>
        simp only
        split
        · exact recognizeBreakages_invariant hbreak lotFaults subs hu
        · exact hu

end ExpiryJob

/-! ## Paid orders -/

theorem firstOrder_bind {α : Type} {f : SubscriptionOrder → DbTx α} {a : α}
    (h : Tx.Ok (firstOrder tradeNo >>= f) db a db') :
    ∃ o, db.subscriptionOrders.first? (·.tradeNo = tradeNo) = some o ∧ Tx.Ok (f o) db a db' := by
  obtain ⟨o, db1, h1, h2⟩ := h.bind
  obtain ⟨ho, rfl⟩ := h1.orFail.first
  exact ⟨o, ho, h2⟩

/-- The top-ups after an order: the mirror row is inserted, or an existing row of the trade
number is brought up to date. -/
def MirrorDue (now : Int) (order : SubscriptionOrder) (topUps topUps' : Table TopUp) : Prop :=
  (topUps.first? (·.tradeNo = order.tradeNo) = none ∧
      topUps' = topUps.insert (mirrorTopUp now order)) ∨
    ∃ old new : TopUp, topUps.first? (·.tradeNo = order.tradeNo) = some old ∧
      new.id = old.id ∧ new.status = .success ∧ topUps' = topUps.save new

theorem upsertSubscriptionTopUpTx_ok {order : SubscriptionOrder}
    (h : Tx.Ok (upsertSubscriptionTopUpTx now order) db u db') :
    ∃ topUps, db' = { db with topUps } ∧ MirrorDue now order db.topUps topUps := by
  have h1 := Ok.query_bind h
  cases hf : db.topUps.first? (·.tradeNo = order.tradeNo) with
  | none =>
    rw [hf] at h1
    exact ⟨_, h1.exec, .inl ⟨hf, rfl⟩⟩
  | some old =>
    rw [hf] at h1
    obtain ⟨_, h2⟩ := Ok.failIf_bind h1
    refine ⟨_, h2.exec, .inr ⟨old, _, hf, ?_, ?_, rfl⟩⟩
    · rfl
    · rfl

/-- `db'` is `db` after the completion of the pending order `o`, which created `sub`. -/
structure Fulfilment (cfg : Config) (now : Int) (o : SubscriptionOrder) (sub : UserSubscription)
    (db db' : Database) : Prop where
  frame : db' = { db with
    users := db'.users, userSubscriptions := db'.userSubscriptions
    subscriptionLots := db'.subscriptionLots, financeLedgers := db'.financeLedgers
    topUps := db'.topUps, subscriptionOrders := db'.subscriptionOrders }
  userQuota : ∀ v, db'.userQuota v = db.userQuota v
  live : ∀ v, (db'.liveUser? v).isSome = (db.liveUser? v).isSome
  exempt : ∀ v, db'.exempt v = db.exempt v
  new : NewSubscription o.userId .order (subscriptionQuotaFromUSD cfg o.money) sub
  subscriptions : db'.userSubscriptions = db.userSubscriptions.insert sub
  lots : OrderLotDue now o (db.userSubscriptions.stored sub) (db.exempt o.userId)
    db.subscriptionLots db'.subscriptionLots
  ledgers : FeeDue now .subscriptionOrder o.id o.userId o.paymentFeeCNY (db.exempt o.userId)
    db.financeLedgers db'.financeLedgers
  mirror : MirrorDue now o db.topUps db'.topUps
  order : ∃ payload method,
    db'.subscriptionOrders = db.subscriptionOrders.save (o.completed now payload method)

theorem fulfilSubscriptionOrderTx_ok {o : SubscriptionOrder}
    (h : Tx.Ok (fulfilSubscriptionOrderTx cfg now cached o payload method) db u db') :
    ∃ sub, Fulfilment cfg now o sub db db' := by
  obtain ⟨plan, db0, h1, h2⟩ := h.bind
  rw [(getSubscriptionPlanByIdTx_ok h1).2] at h2
  obtain ⟨stored, db2, h3, h4⟩ := h2.bind
  obtain ⟨db1, sub, hg, hsub, rfl, h5⟩ := createUserSubscriptionFromPlanWithPaidAmountTx_ok h3
  obtain ⟨_, hdb2⟩ := Ok.pure h5
  obtain ⟨_, db3, h6, h7⟩ := h4.bind
  obtain ⟨lots, hdb3, hlt⟩ := createSubscriptionLotFromOrderTx_ok h6
  obtain ⟨_, db4, h8, h9⟩ := h7.bind
  obtain ⟨ledgers, hdb4, hledgers⟩ := recordPaymentFeeLedgerTx_ok h8
  obtain ⟨_, db5, h10, h11⟩ := h9.bind
  obtain ⟨topUps, hdb5, hmirror⟩ := upsertSubscriptionTopUpTx_ok h10
  have hdb' := h11.exec
  -- the exemption is asked for on databases that differ from the first in a group only
  have hu2 : db2.users = db1.users := by rw [hdb2]
  have hu3 : db3.users = db2.users := by rw [hdb3]
  have hu' : db'.users = db1.users := by rw [hdb', hdb5, hdb4, hu3, hu2]
  have he2 : db2.exempt o.userId = db.exempt o.userId :=
    (exempt_congr hu2 _).trans (hg.exempt _)
  have he3 : db3.exempt o.userId = db.exempt o.userId :=
    (exempt_congr hu3 _).trans he2
  have hquota : ∀ v, db'.userQuota v = db.userQuota v := fun v =>
    (userQuota_congr hu' v).trans (hg.userQuota v)
  have hlive : ∀ v, (db'.liveUser? v).isSome = (db.liveUser? v).isSome := fun v =>
    (congrArg Option.isSome (Database.liveUser?_congr hu' v)).trans (hg.live v)
  have hexempt : ∀ v, db'.exempt v = db.exempt v := fun v =>
    (exempt_congr hu' v).trans (hg.exempt v)
  obtain ⟨users, hdb1⟩ := hg.frame
  have hown : (db1.userSubscriptions.stored sub).userId = o.userId := hsub.userId
  rw [hown, he2] at hlt
  replace hledgers : FeeDue now .subscriptionOrder o.id o.userId o.paymentFeeCNY
      (db3.exempt o.userId) db3.financeLedgers ledgers := hledgers
  rw [he3] at hledgers
  subst hdb1 hdb2 hdb3 hdb4 hdb5 hdb'
  exact ⟨sub, rfl, hquota, hlive, hexempt, hsub, rfl, hlt, hledgers, hmirror, payload, method, rfl⟩

theorem completeSubscriptionOrderTx_ok
    (h : Tx.Ok (completeSubscriptionOrderTx cfg now cached tradeNo payload provider method)
      db u db') :
    ∃ o, db.subscriptionOrders.first? (·.tradeNo = tradeNo) = some o ∧
      (provider ≠ .unset → o.paymentProvider = provider) ∧
      ((o.status = .success ∧ db' = db) ∨
        (o.status = .pending ∧ ∃ sub, Fulfilment cfg now o sub db db')) := by
  obtain ⟨o, ho, h1⟩ := firstOrder_bind h
  obtain ⟨hp, h2⟩ := h1.failIf_bind
  refine ⟨o, ho, not_and_not_right.1 hp, ?_⟩
  split at h2
  next hs =>
    exact .inl ⟨hs, h2.pure.2⟩
  · obtain ⟨hs, h3⟩ := h2.failIf_bind
    exact .inr ⟨not_not.1 hs, fulfilSubscriptionOrderTx_ok h3⟩

theorem expireSubscriptionOrderTx_ok
    (h : Tx.Ok (expireSubscriptionOrderTx now tradeNo provider) db u db') :
    ∃ o, db.subscriptionOrders.first? (·.tradeNo = tradeNo) = some o ∧
      (provider ≠ .unset → o.paymentProvider = provider) ∧
      ((o.status ≠ .pending ∧ db' = db) ∨
        (o.status = .pending ∧
          db' = { db with
            subscriptionOrders := db.subscriptionOrders.save
              { o with status := .expired, completeTime := now } })) := by
  obtain ⟨o, ho, h1⟩ := firstOrder_bind h
  obtain ⟨hp, h2⟩ := h1.failIf_bind
  refine ⟨o, ho, not_and_not_right.1 hp, ?_⟩
  split at h2
  next hs =>
    exact .inl ⟨hs, h2.pure.2⟩
  next hs =>
    exact .inr ⟨not_not.1 hs, h2.exec⟩

end Xingkong
