import Xingkong.Lib.Tally
import Xingkong.Model.Quota

/-!
# The batch updater

In batch mode the relative updates of five columns are summed up in memory, in one map from ids
to amounts for each kind of update, and written later by `batchUpdate`. It takes a map out of
its place before it writes the entries, and an entry whose write fails is only logged.
-/

namespace Xingkong

open Rdb

namespace Database

def updateUserUsedQuota (db : Database) (id : Nat) (quota : Int) : Database :=
  db.updateLiveUser id (fun u => { u with usedQuota := u.usedQuota + quota }) fun _ => rfl

def updateUserRequestCount (db : Database) (id : Nat) (count : Int) : Database :=
  db.updateLiveUser id (fun u => { u with requestCount := u.requestCount + count }) fun _ => rfl

/-- The direct mode of the two: both columns in one statement. -/
def updateUserUsedQuotaAndRequestCount (db : Database) (id : Nat) (quota count : Int) : Database :=
  db.updateLiveUser id
    (fun u => { u with usedQuota := u.usedQuota + quota, requestCount := u.requestCount + count })
    fun _ => rfl

def updateChannelUsedQuota (db : Database) (id : Nat) (quota : Int) : Database :=
  { db with
    channels := db.channels.update (fun c => c.id = id)
      (fun c => { c with usedQuota := c.usedQuota + quota }) fun _ => rfl }

end Database

inductive BatchUpdateType
  | userQuota
  | tokenQuota
  | usedQuota
  | channelUsedQuota
  | requestCount
  deriving DecidableEq, Repr

namespace BatchUpdateType

def all : List BatchUpdateType :=
  [userQuota, tokenQuota, usedQuota, channelUsedQuota, requestCount]

/-- The statement for one entry of a store. -/
def write (type_ : BatchUpdateType) (key : Nat) (value : Int) (db : Database) : Database :=
  match type_ with
  | userQuota => db.addUserQuota key value
  | tokenQuota => db.addTokenQuota key value
  | usedQuota => db.updateUserUsedQuota key value
  | requestCount => db.updateUserRequestCount key value
  | channelUsedQuota => db.updateChannelUsedQuota key value

def hasRow (type_ : BatchUpdateType) (key : Nat) (db : Database) : Bool :=
  match type_ with
  | userQuota | usedQuota | requestCount => (db.liveUser? key).isSome
  | tokenQuota => (db.tokens.find? key).isSome
  | channelUsedQuota => (db.channels.find? key).isSome

end BatchUpdateType

abbrev BatchStores := BatchUpdateType → List (Nat × Int)

def addNewRecord (type_ : BatchUpdateType) (id : Nat) (value : Int) (stores : BatchStores) :
    BatchStores :=
  Function.update stores type_ (Tally.add id value (stores type_))

/-- A write that fails is logged, and its entry is gone. -/
def writeEntry (fails : Bool) (type_ : BatchUpdateType) (key : Nat) (value : Int)
    (db : Database) : Database :=
  if fails then db else type_.write key value db

def writeStore (fails : BatchUpdateType → Nat → Bool) (type_ : BatchUpdateType) :
    List (Nat × Int) → Database → Database
  | [], db => db
  | (key, value) :: store, db =>
    writeStore fails type_ store (writeEntry (fails type_ key) type_ key value db)

/-- Swap the stores of the given types out, one after the other, and write them. -/
def flushStores (fails : BatchUpdateType → Nat → Bool) :
    List BatchUpdateType → BatchStores → Database → BatchStores × Database
  | [], stores, db => (stores, db)
  | type_ :: types, stores, db =>
    flushStores fails types (Function.update stores type_ [])
      (writeStore fails type_ (stores type_) db)

/-- `batchUpdate` with nothing else going on, going through each map in the order it is listed. -/
def batchUpdate (fails : BatchUpdateType → Nat → Bool) (stores : BatchStores) (db : Database) :
    BatchStores × Database :=
  if BatchUpdateType.all.any fun type_ => !(stores type_).isEmpty then
    flushStores fails BatchUpdateType.all stores db
  else (stores, db)

end Xingkong
