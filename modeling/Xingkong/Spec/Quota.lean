import Xingkong.Model.Quota
import Xingkong.Spec.Profit

/-!
# What quota updates do

How relative updates move the quota of a user and of a token, column and pending part
together, and that they leave everything else alone.
-/

namespace Xingkong

open Rdb

variable {db db' : Database} {userId tokenId : Nat} {quota : Int}

namespace Database

/-! ## Users -/

theorem liveUser?_eq :
    db.liveUser? userId = (db.users.find? userId).filter fun u => !u.deleted := by
  cases hf : db.users.find? userId with
  | none =>
    refine Table.first?_eq_none.2 fun u hu => ?_
    have := Table.find?_eq_none.1 hf u hu
    simp only [Row.key] at this
    simp [this]
  | some u =>
    obtain ⟨hu, hid⟩ := Table.find?_eq_some.1 hf
    simp only [Row.key] at hid
    by_cases hd : u.deleted = true
    · rw [Option.filter_some, hd]
      refine Table.first?_eq_none.2 fun v hv => ?_
      by_cases hvid : v.id = userId
      · rw [Table.eq_of_key hv hu (hvid.trans hid.symm), hd]; simp
      · simp [hvid]
    · rw [Bool.not_eq_true] at hd
      rw [Option.filter_some, hd]
      unfold liveUser?
      cases hv : db.users.first? fun u => u.id = userId && !u.deleted with
      | none =>
        have := Table.first?_eq_none.1 hv u hu
        simp [hid, hd] at this
      | some v =>
        obtain ⟨hm, hp⟩ := Table.mem_of_first? hv
        simp only [Bool.and_eq_true, decide_eq_true_eq] at hp
        rw [Table.eq_of_key hm hu (hp.1.trans hid.symm)]
        rfl

theorem liveUser?_eq_some {u : User} :
    db.liveUser? userId = some u ↔ u ∈ db.users.rows ∧ u.id = userId ∧ u.deleted = false := by
  rw [liveUser?_eq, Option.filter_eq_some_iff, Table.find?_eq_some]
  simp [Row.key, and_assoc]

/-! What is read off the users table alone. -/

section

variable (h : db'.users = db.users) (v : Nat)

include h v

theorem liveUser?_congr : db'.liveUser? v = db.liveUser? v := by
  unfold liveUser?; rw [h]

theorem exempt_congr : db'.exempt v = db.exempt v := by
  unfold exempt; rw [liveUser?_congr h]

theorem userQuota_congr : db'.userQuota v = db.userQuota v := by
  unfold userQuota; rw [liveUser?_congr h]

end

section UpdateLiveUser

variable {f : User → User} (hf : ∀ u, (f u).id = u.id)

theorem liveUser?_updateLiveUser (hd : ∀ u, (f u).deleted = u.deleted) (v : Nat) :
    (db.updateLiveUser userId f hf).liveUser? v =
      (db.liveUser? v).map fun u => if v = userId then f u else u := by
  rw [liveUser?_eq, liveUser?_eq]
  change ((db.users.update _ f hf).find? v).filter _ = _
  rw [Table.find?_update]
  cases h : db.users.find? v with
  | none => rfl
  | some u =>
    obtain ⟨_, hk⟩ := Table.find?_eq_some.1 h
    simp only [Row.key] at hk
    cases hdel : u.deleted with
    | true => simp [hdel, Option.filter]
    | false =>
      by_cases hv : v = userId
      · simp [hdel, hv, hk, Option.filter, hd]
      · simp [hdel, hv, hk, Option.filter]

theorem updateLiveUser_updateLiveUser {g : User → User} (hg : ∀ u, (g u).id = u.id)
    (hd : ∀ u, (f u).deleted = u.deleted) :
    (db.updateLiveUser userId f hf).updateLiveUser userId g hg =
      db.updateLiveUser userId (g ∘ f) fun u => (hg (f u)).trans (hf u) := by
  unfold updateLiveUser
  rw [Table.update_update]
  intro u
  rw [hf, hd]

variable (hd : ∀ u, (f u).deleted = u.deleted)

include hd

theorem live_updateLiveUser (v : Nat) :
    ((db.updateLiveUser userId f hf).liveUser? v).isSome = (db.liveUser? v).isSome := by
  rw [liveUser?_updateLiveUser hf hd, Option.isSome_map]

theorem exempt_updateLiveUser (hr : ∀ u, (f u).role = u.role) (v : Nat) :
    (db.updateLiveUser userId f hf).exempt v = db.exempt v := by
  unfold exempt
  rw [liveUser?_updateLiveUser hf hd]
  cases db.liveUser? v with
  | none => rfl
  | some u => by_cases hv : v = userId <;> simp [hv, hr]

theorem userQuota_updateLiveUser (hq : ∀ u, (f u).quota = u.quota + quota) (v : Nat) :
    (db.updateLiveUser userId f hf).userQuota v =
      db.userQuota v + if v = userId ∧ (db.liveUser? v).isSome then quota else 0 := by
  unfold userQuota
  rw [liveUser?_updateLiveUser hf hd]
  cases db.liveUser? v with
  | none => simp
  | some u => by_cases hv : v = userId <;> simp [hv, hq]

end UpdateLiveUser

@[simp] theorem exempt_addUserQuota (v : Nat) :
    (db.addUserQuota userId quota).exempt v = db.exempt v := by
  refine exempt_updateLiveUser _ ?_ ?_ v <;> exact fun _ => rfl

theorem live_addUserQuota (v : Nat) :
    ((db.addUserQuota userId quota).liveUser? v).isSome = (db.liveUser? v).isSome := by
  refine live_updateLiveUser _ ?_ v
  exact fun _ => rfl

theorem userQuota_addUserQuota (v : Nat) :
    (db.addUserQuota userId quota).userQuota v =
      db.userQuota v + if v = userId ∧ (db.liveUser? v).isSome then quota else 0 := by
  refine userQuota_updateLiveUser _ ?_ ?_ v <;> exact fun _ => rfl

end Database

end Xingkong
