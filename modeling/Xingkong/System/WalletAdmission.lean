import Xingkong.Lib.Pool
import Xingkong.Spec.BillingSession

/-!
# Opening sessions on one wallet at the same time

`NewBillingSession` on the wallet reads the user's quota, compares it with what the request
pre-consumes, charges the token and then takes the amount off the wallet with an unconditional
update. Here a call stops after each of its database statements, so that the statements of many
calls can interleave. What the admitted sessions took stays within the quota at the start as
long as no call reads the quota of a user while another one is between its comparison and its
update.
-/

namespace Xingkong

open Rdb Pool

/-! ## A call as a thread -/

inductive AdmissionPc
  | start
  /-- The quota that was read is enough; the token comes next. -/
  | checked (session : BillingSession)
  /-- The token is charged; the wallet comes next. -/
  | charging (session : BillingSession) (effectiveQuota : Int)
  /-- The wallet refused; the token is given back. -/
  | rollingBack (session : BillingSession)
  | admitted (session : BillingSession)
  | rejected

structure Admission where
  info : RelayInfo
  preConsumedQuota : Int
  pc : AdmissionPc

inductive AdmissionAct
  | getUserQuota (fails : Bool)
  | preConsumeToken (env : CallEnv)
  | preConsumeFunding (env : CallEnv)
  | rollbackToken (env : CallEnv)

variable {cfg : Config}

namespace Admission

def check (fails : Bool) (t : Admission) (db : Database) : AdmissionPc :=
  match getUserQuota fails t.info.userId db with
  | .error _ => .rejected
  | .ok userQuota =>
    if userQuota ≤ 0 then .rejected
    else if userQuota - t.preConsumedQuota < 0 then .rejected
    else .checked (.onWallet { t.info with userQuota })

def preConsumeToken (cfg : Config) (env : CallEnv) (quota : Int) (s : BillingSession)
    (db : Database) : AdmissionPc × Database :=
  let trusted := s.shouldTrust cfg env
  let effectiveQuota := if trusted then 0 else quota
  match (if trusted then { s with trusted := true } else s).preConsumeToken cfg env effectiveQuota
      db with
  | (.error _, _, db) => (.rejected, db)
  | (.ok _, s, db) => (.charging s effectiveQuota, db)

def preConsumeFunding (cfg : Config) (env : CallEnv) (effectiveQuota : Int) (s : BillingSession)
    (db : Database) : AdmissionPc × Database :=
  match s.funding.preConsume cfg env effectiveQuota db with
  | (.error _, db) => (.rollingBack s, db)
  | (.ok funding, db) =>
    (.admitted { s with funding, preConsumedQuota := effectiveQuota }.syncRelayInfo, db)

/-- An action the call is not waiting for does nothing. -/
def move (cfg : Config) (t : Admission) (a : AdmissionAct) (db : Database) :
    AdmissionPc × Database :=
  match t.pc, a with
  | .start, .getUserQuota fails => (t.check fails db, db)
  | .checked s, .preConsumeToken env => preConsumeToken cfg env t.preConsumedQuota s db
  | .charging s effectiveQuota, .preConsumeFunding env =>
    preConsumeFunding cfg env effectiveQuota s db
  | .rollingBack s, .rollbackToken env => (.rejected, (s.rollbackToken cfg env db).2.2)
  | pc, _ => (pc, db)

def run (cfg : Config) (t : Admission) (a : AdmissionAct) (db : Database) :
    Admission × Database :=
  ({ t with pc := (t.move cfg a db).1 }, (t.move cfg a db).2)

/-! With no other call in between, the steps are the attempt on the wallet. -/

def outcome : Except (BillingErr × RelayInfo) BillingSession → AdmissionPc
  | .ok s => .admitted s
  | .error _ => .rejected

def runAlone (cfg : Config) (p : Admission × Database) (as : List AdmissionAct) :
    Admission × Database :=
  Run.final (fun p a => p.1.run cfg a p.2) p as

theorem runAlone_checked (cfg : Config) (env : CallEnv) (info : RelayInfo) (quota : Int)
    (s : BillingSession) (db : Database) :
    runAlone cfg (⟨info, quota, .checked s⟩, db)
        [.preConsumeToken env, .preConsumeFunding env, .rollbackToken env] =
      (⟨info, quota, outcome (s.openWith cfg env quota db).1⟩,
        (s.openWith cfg env quota db).2) := by
  have hby : s.preConsume cfg env quota db =
      (if s.shouldTrust cfg env then { s with trusted := true } else s).preConsumeBy cfg env
        (if s.shouldTrust cfg env then 0 else quota) db := by
    unfold BillingSession.preConsume
    split <;> rfl
  unfold BillingSession.openWith
  rw [hby]
  unfold BillingSession.preConsumeBy
  simp only [runAlone, Run.final_cons, run, move, preConsumeToken]
  generalize (if s.shouldTrust cfg env then 0 else quota) = effective
  generalize (if s.shouldTrust cfg env then { s with trusted := true } else s) = s0
  generalize s0.preConsumeToken cfg env effective db = x
  obtain ⟨e | u, s1, db1⟩ := x
  · rfl
  · simp only [preConsumeFunding]
    generalize s1.funding.preConsume cfg env effective db1 = y
    obtain ⟨e | f, db2⟩ := y <;> rfl

theorem runAlone_eq (cfg : Config) (env : CallEnv) (fails : Bool) (info : RelayInfo) (quota : Int)
    (db : Database) :
    runAlone cfg (⟨info, quota, .start⟩, db)
        [.getUserQuota fails, .preConsumeToken env, .preConsumeFunding env, .rollbackToken env] =
      let opened := tryWallet cfg { env with userQuota := getUserQuota fails info.userId db }
        info quota db
      (⟨info, quota, outcome opened.1⟩, opened.2) := by
  show runAlone cfg (⟨info, quota, check fails ⟨info, quota, .start⟩ db⟩, db) _ = _
  unfold check tryWallet
  generalize getUserQuota fails info.userId db = r
  obtain e | userQuota := r
  · rfl
  dsimp only
  by_cases hpos : userQuota ≤ 0
  · rw [if_pos hpos, if_pos hpos]
    rfl
  rw [if_neg hpos, if_neg hpos]
  by_cases h1 : userQuota - quota < 0
  · rw [if_pos h1, if_pos h1]
    rfl
  rw [if_neg h1, if_neg h1]
  exact runAlone_checked cfg env info quota _ db

/-! ## What a step can do -/

def claim (t : Admission) : Option Int :=
  match t.pc with
  | .checked _ => some t.preConsumedQuota
  | .charging _ effectiveQuota => some effectiveQuota
  | _ => none

def admittedQuota (t : Admission) : Int :=
  match t.pc with
  | .admitted s => s.preConsumedQuota
  | _ => 0

/-- The session that is being opened draws on the wallet of the request's user. -/
def Sound (t : Admission) : Prop :=
  match t.pc with
  | .checked s | .charging s _ => s.funding = .wallet t.info.userId 0
  | _ => True

theorem admittedQuota_of_claim {t : Admission} {c : Int} (h : t.claim = some c) :
    t.admittedQuota = 0 := by
  obtain ⟨info, quota, pc⟩ := t
  cases pc with
  | admitted s => cases h
  | _ => rfl

/-- A step of a call: nothing to the wallet, the comparison, the token of a call that passed it,
or the update of the wallet. -/
inductive Move (a : AdmissionAct) (t t' : Admission) (db db' : Database) : Prop
  | quiet (hu : db'.users = db.users) (hc : t'.claim = none)
      (ha : t'.admittedQuota = t.admittedQuota)
  | compare (fails : Bool) (hact : a = .getUserQuota fails) (hc : t.claim = none)
      (hc' : t'.claim = some t.preConsumedQuota) (ha : t.admittedQuota = 0) (hdb : db' = db)
      (hpos : 0 < db.userQuota t.info.userId)
      (hle : t.preConsumedQuota ≤ db.userQuota t.info.userId)
  | keep (c c' : Int) (hu : db'.users = db.users) (hc : t.claim = some c)
      (hc' : t'.claim = some c') (hle : c' = c ∨ c' = 0)
  | take (c : Int) (hc : t.claim = some c) (hc' : t'.claim = none) (ha : t'.admittedQuota = c)
      (hquota : ∀ v, db'.userQuota v = db.userQuota v -
        if v = t.info.userId ∧ (db.liveUser? v).isSome then max c 0 else 0)

section Steps

variable {env : CallEnv} {db : Database} {s : BillingSession} {info : RelayInfo}
  {quota : Int}

theorem preConsumeToken_move (hs : s.funding = .wallet info.userId 0) :
    Sound ⟨info, quota, (preConsumeToken cfg env quota s db).1⟩ ∧
      Move (.preConsumeToken env) ⟨info, quota, .checked s⟩
        ⟨info, quota, (preConsumeToken cfg env quota s db).1⟩ db
        (preConsumeToken cfg env quota s db).2 := by
  have hfunding : (if s.shouldTrust cfg env then { s with trusted := true } else s).funding =
      s.funding := by
    split <;> rfl
  unfold preConsumeToken
  dsimp only
  generalize (if s.shouldTrust cfg env then { s with trusted := true } else s) = s0 at hfunding
  obtain ⟨r, n, db1, hr, hon, -⟩ := s0.preConsumeToken_spec cfg env
    (if s.shouldTrust cfg env then 0 else quota) db
  rw [hr]
  cases r with
  | error e => exact ⟨trivial, .quiet hon.users rfl rfl⟩
  | ok u =>
    refine ⟨hfunding.trans hs, .keep quota _ hon.users rfl rfl ?_⟩
    split
    · exact .inr rfl
    · exact .inl rfl

theorem preConsume_wallet (hb : cfg.batchUpdateEnabled = false) (userId : Nat) (amount : Int) :
    (∃ e, (FundingSource.wallet userId 0).preConsume cfg env amount db = (.error e, db)) ∨
      ∃ f db', (FundingSource.wallet userId 0).preConsume cfg env amount db = (.ok f, db') ∧
        ∀ v, db'.userQuota v = db.userQuota v -
          if v = userId ∧ (db.liveUser? v).isSome then max amount 0 else 0 := by
  unfold FundingSource.preConsume
  dsimp only
  by_cases hpos : amount ≤ 0
  · rw [if_pos hpos]
    refine .inr ⟨_, _, rfl, fun v => ?_⟩
    rw [max_eq_right hpos, ite_self, sub_zero]
  · rw [if_neg hpos]
    unfold decreaseUserQuota
    rw [if_neg (by omega), hb]
    rcases Tx.transaction_cases (Tx.exec (·.addUserQuota userId (-amount)) : DbTx Unit)
        env.fundingFaults db with ⟨_, db', he, hok⟩ | ⟨e, he⟩
    · right
      simp only [Bool.not_false, Bool.and_false, Bool.false_eq_true, if_false, he]
      refine ⟨_, _, rfl, fun v => ?_⟩
      rw [hok.exec, Database.userQuota_addUserQuota, max_eq_left (not_le.1 hpos).le]
      split
      · rfl
      · rw [add_zero, sub_zero]
    · left
      simp only [Bool.not_false, Bool.and_false, Bool.false_eq_true, if_false, he]
      exact ⟨e, rfl⟩

theorem preConsumeFunding_move (hb : cfg.batchUpdateEnabled = false) {effectiveQuota : Int}
    (hs : s.funding = .wallet info.userId 0) :
    Sound ⟨info, quota, (preConsumeFunding cfg env effectiveQuota s db).1⟩ ∧
      Move (.preConsumeFunding env) ⟨info, quota, .charging s effectiveQuota⟩
        ⟨info, quota, (preConsumeFunding cfg env effectiveQuota s db).1⟩ db
        (preConsumeFunding cfg env effectiveQuota s db).2 := by
  unfold preConsumeFunding
  rw [hs]
  rcases preConsume_wallet hb info.userId effectiveQuota with ⟨e, he⟩ | ⟨f, db', he, hquota⟩
  · rw [he]
    exact ⟨trivial, .quiet rfl rfl rfl⟩
  · rw [he]
    exact ⟨trivial, .take effectiveQuota rfl rfl
      (congrArg (·.preConsumedQuota) (BillingSession.syncRelayInfo_frame _)) hquota⟩

theorem check_move {fails : Bool} :
    Sound ⟨info, quota, check fails ⟨info, quota, .start⟩ db⟩ ∧
      Move (.getUserQuota fails) ⟨info, quota, .start⟩
        ⟨info, quota, check fails ⟨info, quota, .start⟩ db⟩ db db := by
  unfold check getUserQuota
  cases fails with
  | true => exact ⟨trivial, .quiet rfl rfl rfl⟩
  | false =>
    rw [if_neg Bool.false_ne_true]
    dsimp only
    by_cases hpos : db.userQuota info.userId ≤ 0
    · rw [if_pos hpos]
      exact ⟨trivial, .quiet rfl rfl rfl⟩
    · rw [if_neg hpos]
      by_cases h1 : db.userQuota info.userId - quota < 0
      · rw [if_pos h1]
        exact ⟨trivial, .quiet rfl rfl rfl⟩
      · rw [if_neg h1]
        refine ⟨rfl, .compare false rfl rfl rfl rfl rfl (not_le.1 hpos) ?_⟩
        show quota ≤ db.userQuota info.userId
        omega

end Steps

/-- **One step of a call.** -/
theorem run_move (hb : cfg.batchUpdateEnabled = false) {t : Admission}
    (ht : t.Sound) (a : AdmissionAct) (db : Database) :
    (t.run cfg a db).1.Sound ∧ (t.run cfg a db).1.info = t.info ∧
      Move a t (t.run cfg a db).1 db (t.run cfg a db).2 := by
  obtain ⟨info, quota, pc⟩ := t
  have hid : ∀ {pc : AdmissionPc}, Sound ⟨info, quota, pc⟩ →
      Sound ⟨info, quota, pc⟩ ∧ info = info ∧
        Move a ⟨info, quota, pc⟩ ⟨info, quota, pc⟩ db db := by
    intro pc hs
    refine ⟨hs, rfl, ?_⟩
    cases hc : claim ⟨info, quota, pc⟩ with
    | none => exact .quiet rfl hc rfl
    | some c => exact .keep c c rfl hc hc (.inl rfl)
  cases pc with
  | start =>
    cases a with
    | getUserQuota fails => exact ⟨check_move.1, rfl, check_move.2⟩
    | _ => exact hid ht
  | checked s =>
    cases a with
    | preConsumeToken env =>
      exact ⟨(preConsumeToken_move ht).1, rfl, (preConsumeToken_move ht).2⟩
    | _ => exact hid ht
  | charging s e =>
    cases a with
    | preConsumeFunding env =>
      exact ⟨(preConsumeFunding_move hb ht).1, rfl, (preConsumeFunding_move hb ht).2⟩
    | _ => exact hid ht
  | rollingBack s =>
    cases a with
    | rollbackToken env => exact ⟨trivial, rfl,
        .quiet (BillingSession.rollbackToken_tokenOnly ..).users rfl rfl⟩
    | _ => exact hid ht
  | admitted s | rejected => exact hid ht

end Admission

/-! ## Any number of calls -/

section Calls

variable {ι : Type} [Fintype ι] [DecidableEq ι] {p : Pool.State ι Admission Database}
  {x : ι × AdmissionAct} {u : Nat} {q0 : Int}

def admittedTotal (u : Nat) (p : Pool.State ι Admission Database) : Int :=
  ∑ j, if (p.threads j).info.userId = u then (p.threads j).admittedQuota else 0

/-- A call does not read a user's quota while another one is between its comparison and its
update. -/
def readsAlone (p : Pool.State ι Admission Database) (x : ι × AdmissionAct) : Bool :=
  match x.2 with
  | .getUserQuota _ => decide (∀ j, j ≠ x.1 →
      (p.threads j).info.userId = (p.threads x.1).info.userId → (p.threads j).claim = none)
  | _ => true

def Admission.taken (u : Nat) (t : Admission) : Int :=
  if t.info.userId = u then max t.admittedQuota 0 else 0

def Admission.Claims (u : Nat) (t : Admission) : Prop := t.info.userId = u ∧ t.claim ≠ none

/-- The wallet of user `u`, which had `q0` at the start. One call at most is about to take from
it, and what it is about to take is there. -/
structure WithinWallet (u : Nat) (q0 : Int) (p : Pool.State ι Admission Database) : Prop where
  sound : ∀ j, (p.threads j).Sound
  quota : p.shared.userQuota u = q0 - ∑ j, (p.threads j).taken u
  floor : 0 ≤ p.shared.userQuota u ∨ p.shared.userQuota u = q0
  one : ∀ i j, (p.threads i).Claims u → (p.threads j).Claims u → i = j
  enough : ∀ i c, (p.threads i).info.userId = u → (p.threads i).claim = some c →
    0 < p.shared.userQuota u ∧ c ≤ p.shared.userQuota u

namespace WithinWallet

section

variable {t' : Admission} {db' : Database} (h : WithinWallet u q0 p)
  (hrun : (t', db') = (p.threads x.1).run cfg x.2 p.shared) (hs : t'.Sound)
  (hinfo : t'.info = (p.threads x.1).info)

include h hrun hs hinfo

theorem next_same (hq : db'.userQuota u = p.shared.userQuota u)
    (h1 : t'.taken u = (p.threads x.1).taken u)
    (hnew : t'.Claims u → (p.threads x.1).Claims u ∨ ∀ j, j ≠ x.1 → ¬ (p.threads j).Claims u)
    (henough : ∀ c, (p.threads x.1).info.userId = u → t'.claim = some c →
      0 < p.shared.userQuota u ∧ c ≤ p.shared.userQuota u) :
    WithinWallet u q0 (Pool.next (Admission.run cfg) p x) := by
  obtain ⟨rfl, rfl⟩ := Prod.ext_iff.mp hrun
  refine ⟨?_, ?_, ?_, ?_, ?_⟩
  · exact forall_next (L := fun _ _ (t : Admission) => t.Sound) hs fun j _ => h.sound j
  · rw [next_shared, hq, sum_next, h1, sub_self, add_zero]
    exact h.quota
  · rw [next_shared, hq]
    exact h.floor
  · exact one_next h.one hnew
  · rw [next_shared, hq]
    refine forall_next (L := fun _ _ (t : Admission) => ∀ c,
      t.info.userId = u → t.claim = some c →
        0 < p.shared.userQuota u ∧ c ≤ p.shared.userQuota u) ?_ ?_
    · rw [hinfo]
      exact henough
    · intro j _
      exact h.enough j

theorem next_take {c : Int} (hown : (p.threads x.1).info.userId = u)
    (hc : (p.threads x.1).claim = some c)
    (hc' : t'.claim = none)
    (ha : t'.admittedQuota = c)
    (hq : db'.userQuota u = p.shared.userQuota u - max c 0) :
    WithinWallet u q0 (Pool.next (Admission.run cfg) p x) := by
  obtain ⟨rfl, rfl⟩ := Prod.ext_iff.mp hrun
  obtain ⟨hpos, hle⟩ := h.enough x.1 c hown hc
  have hnone : ∀ j, j ≠ x.1 → ¬ (p.threads j).Claims u := by
    intro j hj hclaims
    refine hj (h.one j x.1 hclaims ⟨hown, ?_⟩)
    rw [hc]
    exact Option.some_ne_none c
  have h1 : (p.threads x.1).taken u = 0 := by
    unfold Admission.taken
    rw [Admission.admittedQuota_of_claim hc, max_self, ite_self]
  have h2 : ((p.threads x.1).run cfg x.2 p.shared).1.taken u = max c 0 := by
    unfold Admission.taken
    rw [hinfo, if_pos hown, ha]
  refine ⟨?_, ?_, ?_, ?_, ?_⟩
  · exact forall_next (L := fun _ _ (t : Admission) => t.Sound) hs fun j _ => h.sound j
  · rw [next_shared, hq, sum_next, h1, h2, h.quota]
    omega
  · left
    rw [next_shared, hq]
    omega
  · apply one_next h.one
    intro hclaims
    exact absurd hc' hclaims.2
  · refine forall_next (L := fun (d : Database) _ (t : Admission) => ∀ c,
      t.info.userId = u → t.claim = some c → 0 < d.userQuota u ∧ c ≤ d.userQuota u) ?_ ?_
    · intro c' _ h1
      rw [hc'] at h1
      cases h1
    · intro j hj c' hju h1
      refine absurd ⟨hju, ?_⟩ (hnone j hj)
      rw [h1]
      exact Option.some_ne_none c'

end

theorem next (hb : cfg.batchUpdateEnabled = false) (h : WithinWallet u q0 p)
    (hread : readsAlone p x = true) :
    WithinWallet u q0 (Pool.next (Admission.run cfg) p x) := by
  obtain ⟨hs, hinfo, hmove⟩ := Admission.run_move hb (h.sound x.1) x.2 p.shared
  generalize hrun : (p.threads x.1).run cfg x.2 p.shared = r at hs hinfo hmove
  obtain ⟨t', db'⟩ := r
  dsimp only at hs hinfo hmove
  have htaken : t'.admittedQuota = (p.threads x.1).admittedQuota →
      t'.taken u = (p.threads x.1).taken u := by
    intro ha
    unfold Admission.taken
    rw [hinfo, ha]
  cases hmove with
  | quiet hu hc ha =>
    refine h.next_same hrun.symm hs hinfo (Database.userQuota_congr hu u) (htaken ha) ?_ ?_
    · intro h1
      exact absurd hc h1.2
    · intro c _ hsome
      rw [hc] at hsome
      cases hsome
  | compare fails hact hc hc' ha hdb hpos hle =>
    have ha' := Admission.admittedQuota_of_claim hc'
    refine h.next_same hrun.symm hs hinfo (by rw [hdb]) (htaken (ha'.trans ha.symm)) ?_ ?_
    · -- nobody else is about to take from this wallet
      rintro ⟨hown, _⟩
      right
      rintro j hj ⟨hju, h1⟩
      unfold readsAlone at hread
      rw [hact] at hread
      rw [hinfo] at hown
      exact h1 (of_decide_eq_true hread j hj (hju.trans hown.symm))
    · intro c hown hsome
      rw [hown] at hpos hle
      obtain rfl := Option.some.inj (hc'.symm.trans hsome)
      exact ⟨hpos, hle⟩
  | keep c c' hu hc hc' hle =>
    have ha : t'.admittedQuota = (p.threads x.1).admittedQuota := by
      rw [Admission.admittedQuota_of_claim hc, Admission.admittedQuota_of_claim hc']
    refine h.next_same hrun.symm hs hinfo (Database.userQuota_congr hu u) (htaken ha) ?_ ?_
    · rintro ⟨hown, _⟩
      left
      rw [hinfo] at hown
      refine ⟨hown, ?_⟩
      rw [hc]
      exact Option.some_ne_none c
    · intro c'' hown hsome
      obtain rfl := Option.some.inj (hc'.symm.trans hsome)
      obtain ⟨hpos, hc⟩ := h.enough x.1 c hown hc
      rcases hle with rfl | rfl <;> omega
  | take c hc hc' ha hquota =>
    by_cases hown : (p.threads x.1).info.userId = u
    · -- a user with quota is live, so the update reaches them
      obtain ⟨hpos, _⟩ := h.enough x.1 c hown hc
      have hlive : (p.shared.liveUser? u).isSome = true := by
        cases hl : p.shared.liveUser? u with
        | some v => rfl
        | none =>
          unfold Database.userQuota at hpos
          rw [hl] at hpos
          exact absurd hpos (lt_irrefl 0)
      refine h.next_take hrun.symm hs hinfo hown hc hc' ha ?_
      rw [hquota u, if_pos ⟨hown.symm, hlive⟩]
    · have hq : db'.userQuota u = p.shared.userQuota u := by
        rw [hquota u, if_neg fun hu => hown hu.1.symm, sub_zero]
      refine h.next_same hrun.symm hs hinfo hq ?_ ?_ ?_
      · unfold Admission.taken
        rw [hinfo, if_neg hown, if_neg hown]
      · rintro ⟨hu, _⟩
        exact absurd (hinfo ▸ hu) hown
      · intro _ hu
        exact absurd hu hown

end WithinWallet

omit [DecidableEq ι] in
theorem WithinWallet.start (db0 : Database) (requests : ι → RelayInfo × Int) (u : Nat) :
    WithinWallet u (db0.userQuota u)
      ⟨db0, fun j => ⟨(requests j).1, (requests j).2, .start⟩⟩ := by
  refine ⟨fun _ => trivial, ?_, .inr rfl, ?_, ?_⟩
  · have h1 : ∀ j, Admission.taken u ⟨(requests j).1, (requests j).2, .start⟩ = 0 := by
      intro j
      unfold Admission.taken Admission.admittedQuota
      rw [max_self, ite_self]
    simp [h1]
  · rintro i j ⟨_, h1⟩
    exact absurd rfl h1
  · intro i c _ h1
    cases h1

omit [DecidableEq ι] in
theorem WithinWallet.admittedTotal_le (h : WithinWallet u q0 p) :
    admittedTotal u p ≤ max q0 0 ∧ min q0 0 ≤ p.shared.userQuota u := by
  have hsum : admittedTotal u p ≤ ∑ j, (p.threads j).taken u := by
    apply Finset.sum_le_sum
    intro j _
    unfold Admission.taken
    split
    · exact le_max_left _ _
    · exact le_refl 0
  have hquota := h.quota
  rcases h.floor with h1 | h1
  all_goals
    constructor <;> omega

/-- **Sessions on one wallet take no more than it had.** As long as no call reads a user's quota
while another call on that user is between its comparison and its update, the admitted sessions
have at every point pre-consumed at most the quota at the start, and the stored quota is not
negative. -/
theorem wallet_admissions_covered (cfg : Config) (hb : cfg.batchUpdateEnabled = false)
    (db₀ : Database) (requests : ι → RelayInfo × Int) (u : Nat) (steps : List (ι × AdmissionAct))
    (hreads : ∀ e ∈ Run.trace (Pool.next (Admission.run cfg))
        ⟨db₀, fun j => ⟨(requests j).1, (requests j).2, .start⟩⟩ steps,
      readsAlone e.before e.act = true) :
    ∀ e ∈ Run.trace (Pool.next (Admission.run cfg))
        ⟨db₀, fun j => ⟨(requests j).1, (requests j).2, .start⟩⟩ steps,
      admittedTotal u e.after ≤ max (db₀.userQuota u) 0 ∧
        min (db₀.userQuota u) 0 ≤ e.after.shared.userQuota u := by
  intro e he
  obtain ⟨_, _, h1⟩ := Run.guarded_invariant (P := WithinWallet u (db₀.userQuota u))
    (.start db₀ requests u) hreads (fun p x hx h => h.next hb hx) he
  exact h1.admittedTotal_le

end Calls

/-! ## Two requests -/

def hundredDb : Database :=
  { Database.empty with
    users := Table.empty.insert
      { id := 0, role := 1, quota := 100, group := "default", email := "", stripeCustomer := ""
        deleted := false } }

def playgroundRequest : RelayInfo where
  userId := 1
  tokenId := 0
  tokenUnlimited := true
  isPlayground := true
  forcePreConsume := true
  requestId := ""
  originModelName := ""
  billingPreference := "wallet_only"
  userQuota := 0
  finalPreConsumedQuota := 0
  billingSource := none
  subscriptionId := 0
  subscriptionPreConsumed := 0
  subscriptionPostDelta := 0
  subscriptionAmountTotal := 0
  subscriptionAmountUsedAfterPreConsume := 0

def quietEnv : CallEnv where
  now := 0
  userQuota := .error .db
  token := .error .db
  contextTokenQuota := 0
  fundingFaults := []
  tokenFaults := []
  rollbackFaults := []

def opens (j : Bool) : List (Bool × AdmissionAct) :=
  [(j, .getUserQuota false), (j, .preConsumeToken quietEnv), (j, .preConsumeFunding quietEnv)]

/-- Two requests of 80 each, one after the other: the second is rejected. -/
theorem wallet_admissions_covered_in_turn :
    hundredDb.userQuota 1 = 100 ∧ ∀ e ∈ Run.trace (Pool.next (Admission.run .fresh))
        ⟨hundredDb, fun _ : Bool => ⟨playgroundRequest, 80, .start⟩⟩ (opens true ++ opens false),
      admittedTotal 1 e.after ≤ max (hundredDb.userQuota 1) 0 ∧
        min (hundredDb.userQuota 1) 0 ≤ e.after.shared.userQuota 1 :=
  ⟨by decide +kernel, wallet_admissions_covered .fresh rfl hundredDb
    (fun _ => (playgroundRequest, 80)) 1 (opens true ++ opens false) (by decide +kernel)⟩

/-- Both requests read the quota before either takes its 80. -/
theorem wallet_overdrawn :
    let p := Run.final (Pool.next (Admission.run .fresh))
      ⟨hundredDb, fun _ : Bool => ⟨playgroundRequest, 80, .start⟩⟩
      ((true, .getUserQuota false) :: opens false ++
        [(true, .preConsumeToken quietEnv), (true, .preConsumeFunding quietEnv)])
    hundredDb.userQuota 1 = 100 ∧ admittedTotal 1 p = 160 ∧ p.shared.userQuota 1 = -60 := by
  decide +kernel

end Xingkong
