import Xingkong.Model.Quota

/-!
# User rows that are read and written back

Invitations, profile updates and affiliate transfers read a user's row, change a copy of it and
write the copy back: `DB.Save` writes every column, `Updates` with a struct every column that is
not zero in it.

Follows `model/user.go`. Every statement takes whether it fails.
-/

namespace Xingkong

open Rdb

def getUserById (fails : Bool) (id : Nat) (db : Database) : Except Err User :=
  if id = 0 then .error (.msg "id 为空！")
  else if fails then .error .db
  else match db.liveUser? id with
    | some user => .ok user
    | none => .error .recordNotFound

/-- `DB.Save(user)`. -/
def saveUser (fails : Bool) (user : User) (db : Database) : Except Err Unit × Database :=
  if fails then (.error .db, db) else (.ok (), { db with users := db.users.save user })

/-! ## Invitations -/

def User.invited (quotaForInviter : Int) (user : User) : User :=
  { user with
    affCount := user.affCount + 1
    affQuota := user.affQuota + quotaForInviter
    affHistoryQuota := user.affHistoryQuota + quotaForInviter }

def inviteUser (quotaForInviter : Int) (inviterId : Nat) (readFails saveFails : Bool)
    (db : Database) : Except Err Unit × Database :=
  match getUserById readFails inviterId db with
  | .error e => (.error e, db)
  | .ok user => saveUser saveFails (user.invited quotaForInviter) db

/-! ## Profile updates -/

def orOld {α : Type} [DecidableEq α] (zero new old : α) : α := if new = zero then old else new

/-- A row after `Updates(newUser)`. -/
def User.updates (newUser user : User) : User where
  id := user.id
  role := orOld 0 newUser.role user.role
  quota := orOld 0 newUser.quota user.quota
  group := orOld "" newUser.group user.group
  email := orOld "" newUser.email user.email
  stripeCustomer := orOld "" newUser.stripeCustomer user.stripeCustomer
  deleted := orOld false newUser.deleted user.deleted
  usedQuota := orOld 0 newUser.usedQuota user.usedQuota
  requestCount := orOld 0 newUser.requestCount user.requestCount
  affCount := orOld 0 newUser.affCount user.affCount
  affQuota := orOld 0 newUser.affQuota user.affQuota
  affHistoryQuota := orOld 0 newUser.affHistoryQuota user.affHistoryQuota

/-- `DB.Model(user).Updates(newUser)`. -/
def updatesUser (fails : Bool) (newUser : User) (db : Database) : Except Err Unit × Database :=
  if fails then (.error .db, db)
  else (.ok (), db.updateLiveUser newUser.id newUser.updates fun _ => rfl)

/-- `User.Update(false)` of the struct `newUser`; the row it reads first only feeds the cache. -/
def User.update (newUser : User) (fails : Bool) (db : Database) : Except Err Unit × Database :=
  updatesUser fails newUser db

/-! ## Affiliate transfers -/

def User.transferred (quota : Int) (user : User) : User :=
  { user with affQuota := user.affQuota - quota, quota := user.quota + quota }

def transferRow (cfg : Config) (quota : Int) (userId : Nat) (readFails : Bool) (db : Database) :
    Except Err User :=
  if (quota : ℚ) < cfg.quotaPerUnit then
    .error (.msg ("转移额度最小为" ++ toString (intPart cfg.quotaPerUnit) ++ "！"))
  else if readFails then .error .db
  else match db.liveUser? userId with
    | none => .error .recordNotFound
    | some user =>
      if user.affQuota < quota then .error (.msg "邀请额度不足！")
      else .ok (user.transferred quota)

/-- The query asks for a row lock in a way the object mapper does not know, so it takes none. -/
def transferAffQuotaToQuota (cfg : Config) (quota : Int) (userId : Nat)
    (readFails saveFails : Bool) (db : Database) : Except Err Unit × Database :=
  match transferRow cfg quota userId readFails db with
  | .error e => (.error e, db)
  | .ok user => saveUser saveFails user db

end Xingkong
