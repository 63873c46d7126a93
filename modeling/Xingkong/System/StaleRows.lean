import Xingkong.Lib.Pool
import Xingkong.Model.User
import Xingkong.Spec.Quota

/-!
# Balances next to rows that are written back

Increases and decreases of a user's quota are single relative updates. An invitation, a profile
update and an affiliate transfer read the user's row and later write a copy of it back, with the
quota it had when it was read. Here calls of all five kinds stop after each statement and
interleave. The stored quota is the quota at the start plus what the calls moved, as long as
nobody moves a user's quota while another call holds a copy of that user's row.
-/

namespace Xingkong

open Rdb Option Database

/-! ## A call as a thread -/

/-- What a caller of `User.Update` does to the row it has read. The struct it passes on keeps
the row's quota, or is filled from scratch without one. -/
structure ProfileEdit where
  apply : User → User
  id_eq : ∀ u, (apply u).id = u.id
  deleted_eq : ∀ u, (apply u).deleted = u.deleted
  quota_eq : ∀ u, (apply u).quota = u.quota ∨ (apply u).quota = 0

inductive RowCall
  | increaseUserQuota (quota : Int)
  | decreaseUserQuota (quota : Int)
  | inviteUser (quotaForInviter : Int)
  | update (edit : ProfileEdit)
  | transferAffQuotaToQuota (quota : Int)

inductive RowPc
  | start
  /-- It has read the row and is about to write this one back. -/
  | holds (row : User)
  | done (result : Except Err Unit)

structure RowThread where
  userId : Nat
  call : RowCall
  pc : RowPc

structure RowAct where
  now : Int
  faults : List Bool

def RowAct.fails (a : RowAct) : Bool := a.faults.head? = some true

variable {cfg : Config}

namespace RowThread

def hold (r : Except Err User) (f : User → User) : RowPc :=
  match r with
  | .error e => .done (.error e)
  | .ok user => .holds (f user)

/-- An increase is a transaction: its update takes effect when it commits. -/
def move (cfg : Config) (t : RowThread) (a : RowAct) (db : Database) : RowPc × Database :=
  match t.pc, t.call with
  | .start, .increaseUserQuota quota =>
    let r := increaseUserQuota a.now t.userId quota a.faults db
    (.done r.1, r.2)
  | .start, .decreaseUserQuota quota =>
    let r := decreaseUserQuota cfg t.userId quota false a.faults db
    (.done r.1, r.2)
  | .start, .inviteUser quotaForInviter =>
    (hold (getUserById a.fails t.userId db) (·.invited quotaForInviter), db)
  | .start, .update edit => (hold (getUserById a.fails t.userId db) edit.apply, db)
  | .start, .transferAffQuotaToQuota quota =>
    (hold (transferRow cfg quota t.userId a.fails db) id, db)
  | .holds row, .update _ =>
    let r := row.update a.fails db
    (.done r.1, r.2)
  | .holds row, .inviteUser _ | .holds row, .transferAffQuotaToQuota _ =>
    let r := saveUser a.fails row db
    (.done r.1, r.2)
  | pc, _ => (pc, db)

def run (cfg : Config) (t : RowThread) (a : RowAct) (db : Database) : RowThread × Database :=
  ({ t with pc := (t.move cfg a db).1 }, (t.move cfg a db).2)

/-! With no other call in between, the statements are the functions of the model. -/

theorem run_inviteUser_alone (cfg : Config) (n : Int) (u : Nat) (a b : RowAct) (db : Database) :
    Run.final (fun p a => run cfg p.1 a p.2) (⟨u, .inviteUser n, .start⟩, db) [a, b] =
      (⟨u, .inviteUser n, .done (inviteUser n u a.fails b.fails db).1⟩,
        (inviteUser n u a.fails b.fails db).2) := by
  simp only [Run.final_cons, Run.final_nil, run, move, inviteUser]
  generalize getUserById a.fails u db = r
  obtain e | user := r <;> rfl

theorem run_transferAffQuotaToQuota_alone (cfg : Config) (q : Int) (u : Nat) (a b : RowAct)
    (db : Database) :
    Run.final (fun p a => run cfg p.1 a p.2) (⟨u, .transferAffQuotaToQuota q, .start⟩, db) [a, b] =
      (⟨u, .transferAffQuotaToQuota q,
        .done (transferAffQuotaToQuota cfg q u a.fails b.fails db).1⟩,
        (transferAffQuotaToQuota cfg q u a.fails b.fails db).2) := by
  simp only [Run.final_cons, Run.final_nil, run, move, transferAffQuotaToQuota]
  generalize transferRow cfg q u a.fails db = r
  obtain e | user := r <;> rfl

/-! ## What a step can do -/

def credited (t : RowThread) : Int :=
  match t.pc, t.call with
  | .done (.ok _), .increaseUserQuota quota => quota
  | .done (.ok _), .decreaseUserQuota quota => -quota
  | .done (.ok _), .transferAffQuotaToQuota quota => quota
  | _, _ => 0

def movesQuota (t : RowThread) : Bool :=
  match t.pc, t.call with
  | .start, .increaseUserQuota _ => true
  | .start, .decreaseUserQuota _ => true
  | .holds _, .transferAffQuotaToQuota _ => true
  | _, _ => false

/-- The quota the row had when it was read, if the call is about to write a quota back. -/
def seenQuota (t : RowThread) : Option Int :=
  match t.pc, t.call with
  | .holds row, .transferAffQuotaToQuota quota => some (row.quota - quota)
  | .holds row, .update _ => if row.quota = 0 then none else some row.quota
  | .holds row, _ => some row.quota
  | _, _ => none

def Sound (t : RowThread) : Prop :=
  match t.pc with
  | .holds row => row.id = t.userId ∧ row.deleted = false
  | _ => True

/-- A statement moves the quota of the call's user only, by what it adds to `credited`; that of
a write-back rests on the quota that was read still being there. -/
structure Stepped (t t' : RowThread) (db db' : Database) : Prop where
  sound : t'.Sound
  userId : t'.userId = t.userId
  live : ∀ v, (db.liveUser? v).isSome → (db'.liveUser? v).isSome
  others : ∀ v, v ≠ t.userId → db'.userQuota v = db.userQuota v
  quota : (db.liveUser? t.userId).isSome → (∀ n, t.seenQuota = some n → n = db.userQuota t.userId) →
    db'.userQuota t.userId = db.userQuota t.userId + (t'.credited - t.credited)
  still : t.movesQuota = false → t'.credited = t.credited
  seen : ∀ n, t'.seenQuota = some n → db' = db ∧ n = db.userQuota t.userId ∨
    t' = t ∧ db' = db

section Steps

variable {db db' : Database} {u : Nat} {call : RowCall} {row : User}

theorem liveUser?_save_of_ne {v : Nat} (hv : v ≠ row.id) :
    ({ db with users := db.users.save row }).liveUser? v = db.liveUser? v := by
  rw [Database.liveUser?_eq, Database.liveUser?_eq, Table.find?_save_of_ne hv]

theorem liveUser?_save_self (hd : row.deleted = false) (hrow : (db.liveUser? row.id).isSome) :
    ({ db with users := db.users.save row }).liveUser? row.id = some row := by
  obtain ⟨old, hold⟩ := isSome_iff_exists.1 hrow
  rw [Database.liveUser?_eq, filter_eq_some_iff] at hold
  rw [Database.liveUser?_eq, Table.find?_save_self hold.1 rfl, filter_some, hd]
  rfl

variable {user : User} {pc : RowPc} {quota : Int} {fails : Bool}

theorem userQuota_of_live (h : db.liveUser? u = some user) : db.userQuota u = user.quota := by
  unfold Database.userQuota
  rw [h]
  rfl

theorem Stepped.idle (t : RowThread) (ht : t.Sound) (db : Database) : Stepped t t db db where
  sound := ht
  userId := rfl
  live _ h := h
  others _ _ := rfl
  quota _ _ := by rw [sub_self, add_zero]
  still _ := rfl
  seen _ _ := .inr ⟨rfl, rfl⟩

theorem Stepped.ended {r : Except Err Unit} (hc : credited ⟨u, call, pc⟩ = 0)
    (hr : credited ⟨u, call, .done r⟩ = 0) (db : Database) :
    Stepped ⟨u, call, pc⟩ ⟨u, call, .done r⟩ db db where
  sound := trivial
  userId := rfl
  live _ h := h
  others _ _ := rfl
  quota _ _ := by rw [hc, hr, sub_self, add_zero]
  still _ := by rw [hc, hr]
  seen n h := by cases h

theorem Stepped.failed (hc : credited ⟨u, call, pc⟩ = 0) (e : Err) (db : Database) :
    Stepped ⟨u, call, pc⟩ ⟨u, call, .done (.error e)⟩ db db :=
  .ended hc rfl db

theorem Stepped.relative (hstart : credited ⟨u, call, .start⟩ = 0)
    (hdone : credited ⟨u, call, .done (.ok ())⟩ = quota)
    (hmoves : movesQuota ⟨u, call, .start⟩ = true)
    (hu : db'.users = (db.addUserQuota u quota).users) :
    Stepped ⟨u, call, .start⟩ ⟨u, call, .done (.ok ())⟩ db db' where
  sound := trivial
  userId := rfl
  live v h := by
    rw [Database.liveUser?_congr hu, live_addUserQuota]
    exact h
  others v hv := by
    rw [userQuota_congr hu, userQuota_addUserQuota, if_neg fun h => hv h.1, add_zero]
  quota hl _ := by
    rw [userQuota_congr hu, userQuota_addUserQuota, if_pos ⟨rfl, hl⟩, hstart, hdone, sub_zero]
  still h := by
    rw [hmoves] at h
    cases h
  seen n h := by cases h

theorem Stepped.read {r : Except Err User} {f : User → User}
    (hstart : credited ⟨u, call, .start⟩ = 0)
    (hr : ∀ user, r = .ok user → user.id = u ∧ user.deleted = false ∧
      (f user).id = user.id ∧ (f user).deleted = user.deleted ∧
      credited ⟨u, call, .holds (f user)⟩ = 0 ∧
      ∀ n, seenQuota ⟨u, call, .holds (f user)⟩ = some n → n = db.userQuota u) :
    Stepped ⟨u, call, .start⟩ ⟨u, call, hold r f⟩ db db := by
  cases r with
  | error e => exact .failed hstart e db
  | ok user =>
    obtain ⟨hid, hd, hfid, h, hc, h1⟩ := hr user rfl
    show Stepped ⟨u, call, .start⟩ ⟨u, call, .holds (f user)⟩ db db
    refine ⟨⟨hfid.trans hid, h.trans hd⟩, rfl, fun _ h => h, fun _ _ => rfl, ?_, ?_, ?_⟩
    · intro _ _
      rw [hc, hstart, sub_self, add_zero]
    · intro _
      rw [hc, hstart]
    · intro n hn
      exact .inl ⟨rfl, h1 n hn⟩

theorem Stepped.save (ht : Sound ⟨u, call, .holds row⟩) (fails : Bool)
    (hholds : credited ⟨u, call, .holds row⟩ = 0)
    (hseen : seenQuota ⟨u, call, .holds row⟩ =
      some (row.quota - credited ⟨u, call, .done (.ok ())⟩))
    (hstill : movesQuota ⟨u, call, .holds row⟩ = false → credited ⟨u, call, .done (.ok ())⟩ = 0) :
    Stepped ⟨u, call, .holds row⟩ ⟨u, call, .done (saveUser fails row db).1⟩ db
      (saveUser fails row db).2 := by
  obtain ⟨hid, hd⟩ := ht
  unfold saveUser
  split
  · exact .failed hholds .db db
  · refine ⟨trivial, rfl, ?_, ?_, ?_, ?_, ?_⟩
    · intro v hv
      by_cases hvu : v = row.id
      · subst hvu
        rw [liveUser?_save_self hd hv]
        rfl
      · rw [liveUser?_save_of_ne hvu]
        exact hv
    · intro v hv
      unfold Database.userQuota
      rw [liveUser?_save_of_ne (by rw [hid]; exact hv)]
    · intro hl h
      -- what is written back is the quota that is there, plus what a transfer adds
      have hold := h _ hseen
      dsimp only at hid hl hold ⊢
      subst hid
      rw [userQuota_of_live (liveUser?_save_self hd hl), hholds]
      omega
    · intro hm
      rw [hstill hm, hholds]
    · intro n hn
      cases hn

theorem Stepped.updates {edit : ProfileEdit} (ht : Sound ⟨u, .update edit, .holds row⟩)
    (fails : Bool) :
    Stepped ⟨u, .update edit, .holds row⟩ ⟨u, .update edit, .done (row.update fails db).1⟩ db
      (row.update fails db).2 := by
  obtain ⟨hid, hd⟩ := ht
  unfold User.update updatesUser
  split
  · exact .failed rfl .db db
  · have hdel : ∀ v : User, (row.updates v).deleted = v.deleted := by
      intro v
      show orOld false row.deleted v.deleted = v.deleted
      rw [hd]
      rfl
    have hlook : ∀ v, (db.updateLiveUser row.id row.updates fun _ => rfl).liveUser? v =
        (db.liveUser? v).map fun w => if v = row.id then row.updates w else w :=
      Database.liveUser?_updateLiveUser _ hdel
    refine ⟨trivial, rfl, ?_, ?_, ?_, fun _ => rfl, ?_⟩
    · intro v hv
      rw [hlook v, isSome_map]
      exact hv
    · intro v hv
      have hne : v ≠ row.id := by
        rw [hid]
        exact hv
      unfold Database.userQuota
      rw [hlook v]
      simp [hne]
    · intro hl hfresh
      obtain ⟨old, hold⟩ := isSome_iff_exists.1 hl
      have hnew : (db.updateLiveUser row.id row.updates fun _ => rfl).liveUser? u =
          some (row.updates old) := by
        rw [hlook u, hold, map_some, if_pos hid.symm]
      rw [userQuota_of_live hnew, userQuota_of_live hold]
      show orOld 0 row.quota old.quota = old.quota + (0 - 0)
      unfold orOld
      split
      · omega
      next hne =>
        have h : seenQuota ⟨u, .update edit, .holds row⟩ = some row.quota := if_neg hne
        have hq := hfresh _ h
        rw [userQuota_of_live hold] at hq
        omega
    · intro n hn
      cases hn

theorem increaseUserQuota_stepped (now : Int) (quota : Int) (faults : List Bool) :
    Stepped ⟨u, .increaseUserQuota quota, .start⟩
      ⟨u, .increaseUserQuota quota, .done (increaseUserQuota now u quota faults db).1⟩ db
      (increaseUserQuota now u quota faults db).2 := by
  unfold increaseUserQuota increaseUserQuotaWithSource
  split
  · exact .failed rfl negativeQuota db
  · split
    next h =>
      have hend : credited ⟨u, .increaseUserQuota quota, .done (.ok ())⟩ = 0 := h
      exact .ended rfl hend db
    · rcases Tx.transaction_cases (creditUserQuotaTx now u quota .gift) faults db with
        ⟨_, db', he, hok⟩ | ⟨e, he⟩
      · rw [he]
        refine Stepped.relative rfl rfl rfl ?_
        rcases createWalletLotFromQuotaGrantTx_ok (Tx.Ok.exec_bind hok) with ⟨_, rfl⟩ | ⟨_, rfl⟩
        · rfl
        · rfl
      · rw [he]
        exact .failed rfl e db

theorem decreaseUserQuota_stepped (hb : cfg.batchUpdateEnabled = false) (quota : Int)
    (faults : List Bool) :
    Stepped ⟨u, .decreaseUserQuota quota, .start⟩
      ⟨u, .decreaseUserQuota quota, .done (decreaseUserQuota cfg u quota false faults db).1⟩ db
      (decreaseUserQuota cfg u quota false faults db).2 := by
  unfold decreaseUserQuota
  split
  · exact .failed rfl negativeQuota db
  · rw [hb, Bool.and_false, if_neg Bool.false_ne_true]
    rcases Tx.transaction_cases (Tx.exec (·.addUserQuota u (-quota)) : DbTx Unit) faults db with
      ⟨_, db', he, hok⟩ | ⟨e, he⟩
    · rw [he]
      refine Stepped.relative rfl rfl rfl ?_
      rw [hok.exec]
      rfl
    · rw [he]
      exact .failed rfl e db

theorem getUserById_ok (h : getUserById fails u db = .ok user) :
    user.id = u ∧ user.deleted = false ∧ db.userQuota u = user.quota := by
  unfold getUserById at h
  split at h
  · cases h
  · split at h
    · cases h
    · split at h
      next hl =>
        cases h
        obtain ⟨_, hid, hd⟩ := Database.liveUser?_eq_some.1 hl
        exact ⟨hid, hd, userQuota_of_live hl⟩
      · cases h

theorem transferRow_ok (h : transferRow cfg quota u fails db = .ok user) :
    user.id = u ∧ user.deleted = false ∧ db.userQuota u = user.quota - quota := by
  unfold transferRow at h
  split at h
  · cases h
  · split at h
    · cases h
    · split at h
      · cases h
      next old hl =>
        split at h
        · cases h
        · cases h
          obtain ⟨_, hid, hd⟩ := Database.liveUser?_eq_some.1 hl
          refine ⟨hid, hd, ?_⟩
          rw [userQuota_of_live hl]
          show old.quota = old.quota + quota - quota
          omega

end Steps

/-- **One statement of a call.** -/
theorem run_stepped (hb : cfg.batchUpdateEnabled = false) {t : RowThread}
    (ht : t.Sound) (a : RowAct) (db : Database) :
    Stepped t (t.run cfg a db).1 db (t.run cfg a db).2 := by
  obtain ⟨u, call, pc⟩ := t
  cases pc with
  | start =>
    cases call with
    | increaseUserQuota quota => exact increaseUserQuota_stepped a.now quota a.faults
    | decreaseUserQuota quota => exact decreaseUserQuota_stepped hb quota a.faults
    | inviteUser n =>
      refine .read rfl ?_
      intro user hr
      obtain ⟨hid, hd, hq⟩ := getUserById_ok hr
      refine ⟨hid, hd, rfl, rfl, rfl, ?_⟩
      intro n' hn
      cases hn
      exact hq.symm
    | update edit =>
      refine .read rfl ?_
      intro user hr
      obtain ⟨hid, hd, hq⟩ := getUserById_ok hr
      refine ⟨hid, hd, edit.id_eq user, edit.deleted_eq user, rfl, ?_⟩
      intro n hn
      have hn' : (if (edit.apply user).quota = 0 then none else some (edit.apply user).quota) =
          some n := hn
      split at hn'
      · cases hn'
      next hne =>
        cases hn'
        rw [hq]
        exact (edit.quota_eq user).resolve_right hne
    | transferAffQuotaToQuota quota =>
      refine .read rfl ?_
      intro user hr
      obtain ⟨hid, hd, hq⟩ := transferRow_ok hr
      refine ⟨hid, hd, rfl, rfl, rfl, ?_⟩
      intro n hn
      cases hn
      exact hq.symm
  | holds row =>
    cases call with
    | increaseUserQuota quota | decreaseUserQuota quota => exact .idle _ ht db
    | inviteUser n =>
      refine .save ht a.fails rfl ?_ fun _ => rfl
      show some row.quota = some (row.quota - 0)
      rw [sub_zero]
    | update edit => exact .updates ht a.fails
    | transferAffQuotaToQuota quota =>
      refine .save ht a.fails rfl rfl ?_
      intro hm
      cases hm
  | done r => exact .idle _ ht db

end RowThread

/-! ## Any number of calls -/

section Calls

variable {ι : Type} [Fintype ι] [DecidableEq ι] {p : Pool.State ι RowThread Database}
  {x : ι × RowAct} {u : Nat} {q0 : Int}

def creditedTotal (u : Nat) (p : Pool.State ι RowThread Database) : Int :=
  ∑ j, if (p.threads j).userId = u then (p.threads j).credited else 0

/-- Nobody moves a user's quota while another call is about to write back the quota it has read
from that user's row. -/
def movesAlone (p : Pool.State ι RowThread Database) (x : ι × RowAct) : Bool :=
  !(p.threads x.1).movesQuota || decide (∀ j, j ≠ x.1 →
    (p.threads j).userId = (p.threads x.1).userId → (p.threads j).seenQuota = none)

/-- The quota of user `u`, which was `q0` at the start, and the copies of their row. -/
structure BalanceKept (u : Nat) (q0 : Int) (p : Pool.State ι RowThread Database) : Prop where
  sound : ∀ j, (p.threads j).Sound
  live : (p.shared.liveUser? u).isSome
  quota : p.shared.userQuota u = q0 + creditedTotal u p
  fresh : ∀ j n, (p.threads j).userId = u → (p.threads j).seenQuota = some n →
    n = p.shared.userQuota u

theorem BalanceKept.next (hb : cfg.batchUpdateEnabled = false)
    (h : BalanceKept u q0 p) (halone : movesAlone p x = true) :
    BalanceKept u q0 (Pool.next (RowThread.run cfg) p x) := by
  have hs := RowThread.run_stepped hb (h.sound x.1) x.2 p.shared
  set r := (p.threads x.1).run cfg x.2 p.shared
  -- the stored quota moves by what the total moves
  have hquota : r.2.userQuota u = p.shared.userQuota u +
      ((if (p.threads x.1).userId = u then r.1.credited else 0) -
        if (p.threads x.1).userId = u then (p.threads x.1).credited else 0) := by
    by_cases hown : (p.threads x.1).userId = u
    · subst hown
      rw [if_pos rfl, if_pos rfl]
      exact hs.quota h.live fun n hn => h.fresh x.1 n rfl hn
    · rw [if_neg hown, if_neg hown, hs.others u (Ne.symm hown), sub_self, add_zero]
  refine ⟨?_, ?_, ?_, ?_⟩
  · exact Pool.forall_next (L := fun _ _ (t : RowThread) => t.Sound) hs.sound fun j _ => h.sound j
  · exact hs.live u h.live
  · have hsum : creditedTotal u (Pool.next (RowThread.run cfg) p x) = creditedTotal u p +
        ((if r.1.userId = u then r.1.credited else 0) -
          if (p.threads x.1).userId = u then (p.threads x.1).credited else 0) :=
      Pool.sum_next fun t : RowThread => if t.userId = u then t.credited else 0
    rw [hs.userId] at hsum
    rw [Pool.next_shared, hquota, hsum, h.quota]
    omega
  · refine Pool.forall_next (L := fun (d : Database) _ (t : RowThread) => ∀ n,
      t.userId = u → t.seenQuota = some n → n = d.userQuota u) ?_ ?_
    · intro n hown hn
      rw [hs.userId] at hown
      rw [Pool.next_shared]
      rcases hs.seen n hn with ⟨hdb, hnow⟩ | ⟨ht, hdb⟩
      · rw [hdb, hnow, hown]
      · rw [ht] at hn
        rw [hdb]
        exact h.fresh x.1 n hown hn
    · intro j hj n hown hn
      have hold := h.fresh j n hown hn
      rw [Pool.next_shared, hquota, hold]
      by_cases hx : (p.threads x.1).userId = u
      · -- this call holds a copy, so the one that moved has left the quota as it was
        have h : (p.threads x.1).movesQuota = false := by
          cases hm : (p.threads x.1).movesQuota with
          | false => rfl
          | true =>
            unfold movesAlone at halone
            rw [hm, Bool.not_true, Bool.false_or] at halone
            rw [of_decide_eq_true halone j hj (hown.trans hx.symm)] at hn
            cases hn
        rw [hs.still h, sub_self, add_zero]
      · rw [if_neg hx, if_neg hx, sub_self, add_zero]

/-- **Profile, invitation and transfer updates keep the balance.** As long as nobody moves a
user's quota while another call is about to write back a quota read from that user's row, the
stored quota is at every point the one at the start plus the increases, minus the decreases, plus
the successful transfers. -/
theorem balance_not_undone (cfg : Config) (hb : cfg.batchUpdateEnabled = false) (db0 : Database)
    (calls : ι → Nat × RowCall) (u : Nat) (hu : (db0.liveUser? u).isSome)
    (steps : List (ι × RowAct))
    (halone : ∀ e ∈ Run.trace (Pool.next (RowThread.run cfg))
        ⟨db0, fun j => ⟨(calls j).1, (calls j).2, .start⟩⟩ steps,
      movesAlone e.before e.act = true) :
    ∀ e ∈ Run.trace (Pool.next (RowThread.run cfg))
        ⟨db0, fun j => ⟨(calls j).1, (calls j).2, .start⟩⟩ steps,
      e.after.shared.userQuota u = db0.userQuota u + creditedTotal u e.after := by
  have h : BalanceKept u (db0.userQuota u)
      ⟨db0, fun j => ⟨(calls j).1, (calls j).2, .start⟩⟩ := by
    refine ⟨fun _ => trivial, hu, ?_, ?_⟩
    · have h1 : ∀ j, RowThread.credited ⟨(calls j).1, (calls j).2, .start⟩ = 0 := fun _ => rfl
      simp [creditedTotal, h1]
    · intro j n _ hn
      cases hn
  intro e he
  obtain ⟨_, _, h1⟩ := Run.guarded_invariant (P := BalanceKept u (db0.userQuota u)) h
    halone (fun p x hx h => h.next hb hx) he
  exact h1.quota

end Calls

/-! ## A decrease next to each of them -/

def affiliateDb : Database :=
  { Database.empty with
    users := Table.empty.insert
      { id := 0, role := 1, quota := 100, group := "default", email := "", stripeCustomer := ""
        deleted := false, affQuota := 60 } }

def newEmail : ProfileEdit where
  apply user := { user with email := "new" }
  id_eq _ := rfl
  deleted_eq _ := rfl
  quota_eq _ := .inl rfl

def smallUnits : Config := { Config.fresh with quotaPerUnit := 50 }

def besideDecrease (call : RowCall) (j : Bool) : Nat × RowCall :=
  (1, if j then call else .decreaseUserQuota 30)

def turn (j : Bool) : Bool × RowAct := (j, ⟨0, []⟩)

def balanceAfter (call : RowCall) (steps : List (Bool × RowAct)) : Int × Int :=
  let p := Run.final (Pool.next (RowThread.run smallUnits))
    ⟨affiliateDb, fun j => ⟨(besideDecrease call j).1, (besideDecrease call j).2, .start⟩⟩ steps
  (p.shared.userQuota 1, creditedTotal 1 p)

theorem balance_not_undone_in_turn :
    affiliateDb.userQuota 1 = 100 ∧ ∀ e ∈ Run.trace (Pool.next (RowThread.run smallUnits))
        ⟨affiliateDb, fun j => ⟨(besideDecrease (.transferAffQuotaToQuota 50) j).1,
          (besideDecrease (.transferAffQuotaToQuota 50) j).2, .start⟩⟩
        [turn true, turn true, turn false],
      e.after.shared.userQuota 1 = affiliateDb.userQuota 1 + creditedTotal 1 e.after :=
  ⟨by decide +kernel, balance_not_undone smallUnits rfl affiliateDb
    (besideDecrease (.transferAffQuotaToQuota 50)) 1 (by decide +kernel) _ (by decide +kernel)⟩

/-- A decrease between the read and the write-back of an invitation, a profile update or a
transfer is lost: the quota of 100 should be 70, or 120 after the transfer of 50. -/
theorem balance_undone :
    affiliateDb.userQuota 1 = 100 ∧
      balanceAfter (.inviteUser 5) [turn true, turn false, turn true] = (100, -30) ∧
      balanceAfter (.update newEmail) [turn true, turn false, turn true] = (100, -30) ∧
      balanceAfter (.transferAffQuotaToQuota 50) [turn true, turn false, turn true] =
        (150, 20) := by
  decide +kernel

end Xingkong
