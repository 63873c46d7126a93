import Xingkong.Model.Profit

/-!
# User and token quota

Quota moves by relative updates. In batch mode a decrease is only noted in a
store of pending updates, which the batch updater applies later; an increase of a
user's quota always runs as a transaction of its own, since it has to add the
wallet lot that backs it. What a user or token can spend is the column plus what
is pending for it.
-/

namespace Xingkong

open Rdb

namespace Database

def addBatchUserQuota (db : Database) (userId : Nat) (quota : Int) : Database :=
  { db with
    batchUserQuota :=
      Function.update db.batchUserQuota userId (db.batchUserQuota userId + quota) }

def addBatchTokenQuota (db : Database) (tokenId : Nat) (quota : Int) : Database :=
  { db with
    batchTokenQuota :=
      Function.update db.batchTokenQuota tokenId (db.batchTokenQuota tokenId + quota) }

/-- `remain_quota + ?` and `used_quota - ?` on one token. -/
def addTokenQuota (db : Database) (tokenId : Nat) (quota : Int) : Database :=
  { db with
    tokens := db.tokens.update (fun t => t.id = tokenId)
      (fun t => { t with remainQuota := t.remainQuota + quota, usedQuota := t.usedQuota - quota })
      fun _ => rfl }

/-- The `users.quota` column of a live user, 0 if there is none. -/
def userQuota (db : Database) (userId : Nat) : Int := ((db.liveUser? userId).map User.quota).getD 0

def spendable (db : Database) (userId : Nat) : Int := db.userQuota userId + db.batchUserQuota userId

def tokenSpendable (db : Database) (tokenId : Nat) : Int :=
  ((db.tokens.find? tokenId).map Token.remainQuota).getD 0 + db.batchTokenQuota tokenId

end Database

/-- `GetUserQuota` answered by the database; `fails` fails its query. -/
def getUserQuota (fails : Bool) (id : Nat) (db : Database) : Except Err Int :=
  if fails then .error .db else .ok (db.userQuota id)

def negativeQuota : Err := .msg "quota 不能为负数！"

/-- The transaction of a positive credit: the column and the lot behind it. -/
def creditUserQuotaTx (now : Int) (id : Nat) (quota : Int) (sourceType : LotSource) :
    DbTx Unit := do
  Tx.exec (·.addUserQuota id quota)
  createWalletLotFromQuotaGrantTx now id quota sourceType

def increaseUserQuotaWithSource (now : Int) (id : Nat) (quota : Int) (sourceType : LotSource)
    (faults : List Bool) (db : Database) : Except Err Unit × Database :=
  if quota < 0 then (.error negativeQuota, db)
  else if quota = 0 then (.ok (), db)
  else Tx.transaction (creditUserQuotaTx now id quota sourceType) faults db

def increaseUserQuota (now : Int) (id : Nat) (quota : Int) (faults : List Bool) (db : Database) :
    Except Err Unit × Database :=
  increaseUserQuotaWithSource now id quota .gift faults db

/-- `direct` is the source's flag that bypasses the batch store. -/
def decreaseUserQuota (cfg : Config) (id : Nat) (quota : Int) (direct : Bool)
    (faults : List Bool) (db : Database) : Except Err Unit × Database :=
  if quota < 0 then (.error negativeQuota, db)
  else if !direct && cfg.batchUpdateEnabled then (.ok (), db.addBatchUserQuota id (-quota))
  else Tx.transaction (Tx.exec (·.addUserQuota id (-quota))) faults db

/-- An administrator's override: the column is set and the lots follow. Returns the draws
of the reduction, if there was one. -/
def overrideUserQuotaTx (now : Int) (userId : Nat) (value : Int) : DbTx (List Draw) := do
  Tx.exec (·.updateLiveUser userId (fun u => { u with quota := value }) fun _ => rfl)
  syncWalletLotsToUserQuotaTx now userId value

def moveTokenQuota (cfg : Config) (id : Nat) (quota delta : Int) (faults : List Bool)
    (db : Database) : Except Err Unit × Database :=
  if quota < 0 then (.error negativeQuota, db)
  else if cfg.batchUpdateEnabled then (.ok (), db.addBatchTokenQuota id delta)
  else Tx.transaction (Tx.exec (·.addTokenQuota id delta)) faults db

def increaseTokenQuota (cfg : Config) (id : Nat) (quota : Int) (faults : List Bool)
    (db : Database) : Except Err Unit × Database :=
  moveTokenQuota cfg id quota quota faults db

def decreaseTokenQuota (cfg : Config) (id : Nat) (quota : Int) (faults : List Bool)
    (db : Database) : Except Err Unit × Database :=
  moveTokenQuota cfg id quota (-quota) faults db

end Xingkong
