import Xingkong.Lib.Dict
import Xingkong.Model.ChannelCache

/-!
# The status of a channel and of its keys

A channel in multi-key mode holds several keys. Its status list says which of them are disabled, by
their place among the keys; a key that is not in the list is enabled. `UpdateChannelStatus` changes
the copy in the channel cache, if there is a cache, and then the stored row.

Follows `model/channel.go` and `CacheUpdateChannelStatus` of `model/channel_cache.go`. The two
copies of one channel are modelled; the cache's lists of channel ids, which only a channel with one
key leaves, are not.
-/

namespace Xingkong

def channelStatusAutoDisabled : Int := 3

structure ChannelInfo where
  isMultiKey : Bool
  multiKeySize : Nat
  /-- Place of the key and its status. -/
  multiKeyStatusList : Dict Nat Int
  multiKeyDisabledReason : Dict Nat String
  multiKeyDisabledTime : Dict Nat Int
  deriving DecidableEq

structure ChannelRecord where
  id : Nat
  key : String
  status : Int
  otherInfo : String
  channelInfo : ChannelInfo
  deriving DecidableEq

/-- What the JSON library does besides: the raw texts of the items of an array. -/
structure KeyLib extends JsonLib where
  rawArray : String → Option (List String)

/-- `strings.Trim(s, "\n")`. -/
def trimNewlines (s : String) : String :=
  String.ofList (((s.toList.dropWhile (· = '\n')).reverse.dropWhile (· = '\n')).reverse)

/-- One call of `UpdateChannelStatus`. `clock` is what `common.GetTimestamp` answers for the cached
copy (0 and 1) and for the stored row (2 and 3). -/
structure StatusUpdate where
  usingKey : String
  status : Int
  reason : String
  clock : Nat → Int

section Lib

variable (lib : KeyLib)

namespace ChannelRecord

variable (channel : ChannelRecord)

def getKeys : List String :=
  if channel.key = "" then []
  else
    let trimmed := trimSpace channel.key
    let raw := if startsWith trimmed "[" then lib.rawArray trimmed else none
    match raw with
    | some keys => keys
    | none => splitText (trimNewlines channel.key) '\n'

/-- A text that is not an object counts as empty. -/
def getOtherInfo : JsonObject :=
  match lib.parse channel.otherInfo with
  | some (.obj o) => o
  | _ => []

def setOtherInfo (info : JsonObject) : ChannelRecord :=
  { channel with otherInfo := lib.encode (.obj info) }

def withStatusReason (reason : String) (time : Int) : ChannelRecord :=
  channel.setOtherInfo lib (objPut (objPut (channel.getOtherInfo lib) "status_reason" (.str reason))
    "status_time" (.num time))

def keyIndex (keys : List String) (usingKey : String) : Nat :=
  (keys.findIdx? (· = usingKey)).getD 0

def markKey (info : ChannelInfo) (index : Nat) (status : Int) (reason : String) (time : Int) :
    ChannelInfo :=
  if status = channelStatusEnabled then
    { info with multiKeyStatusList := info.multiKeyStatusList.erase index }
  else
    { info with
      multiKeyStatusList := info.multiKeyStatusList.put index status
      multiKeyDisabledReason := info.multiKeyDisabledReason.put index reason
      multiKeyDisabledTime := info.multiKeyDisabledTime.put index time }

def handlerMultiKeyUpdate (u : StatusUpdate) : ChannelRecord :=
  let keys := channel.getKeys lib
  if keys.isEmpty then { channel with status := u.status }
  else
    let info := markKey channel.channelInfo (keyIndex keys u.usingKey) u.status u.reason (u.clock 0)
    let channel := { channel with channelInfo := info }
    if info.multiKeySize ≤ info.multiKeyStatusList.size then
      { channel with status := channelStatusAutoDisabled }.withStatusReason lib
        "All keys are disabled" (u.clock 1)
    else channel

end ChannelRecord

/-- The copies of a channel, and its abilities. -/
structure ChannelStore where
  memoryCacheEnabled : Bool
  cached : Option ChannelRecord
  stored : Option ChannelRecord
  abilities : List Ability

namespace ChannelStore

/-- The cached copy after an update; nothing if the update ends here. -/
def updateCached (s : ChannelStore) (u : StatusUpdate) : Option ChannelStore :=
  if s.memoryCacheEnabled then
    match s.cached with
    | none => none
    | some channelCache =>
      if channelCache.channelInfo.isMultiKey then
        some { s with cached := some (channelCache.handlerMultiKeyUpdate lib u) }
      else if channelCache.status = u.status then none
      else some { s with cached := some { channelCache with status := u.status } }
  else some s

def updatedRow (channel : ChannelRecord) (u : StatusUpdate) : ChannelRecord :=
  if channel.channelInfo.isMultiKey then
    channel.handlerMultiKeyUpdate lib { u with clock := fun n => u.clock (n + 2) }
  else { (channel.withStatusReason lib u.reason (u.clock 2)) with status := u.status }

/-- Abilities follow the status; a channel with one key always gets here with another status. -/
def updateStored (s : ChannelStore) (u : StatusUpdate) : Bool × ChannelStore :=
  match s.stored with
  | none => (false, s)
  | some channel =>
    if channel.status = u.status then (false, s)
    else
      let updated := updatedRow lib channel u
      let s :=
        if updated.status = channel.status then s
        else { s with abilities := s.abilities.map fun a =>
          if a.channelId = channel.id then { a with enabled := u.status = channelStatusEnabled }
          else a }
      -- `SaveWithoutKey`
      if channel.id = 0 then (false, s)
      else (true, { s with stored := some updated })

def updateChannelStatus (s : ChannelStore) (u : StatusUpdate) : Bool × ChannelStore :=
  match s.updateCached lib u with
  | none => (false, s)
  | some s => s.updateStored lib u

def next (s : ChannelStore) (u : StatusUpdate) : ChannelStore := (s.updateChannelStatus lib u).2

def init (memoryCacheEnabled : Bool) (channel : ChannelRecord) (abilities : List Ability) :
    ChannelStore :=
  { memoryCacheEnabled, cached := if memoryCacheEnabled then some channel else none
    stored := some channel, abilities }

end ChannelStore

end Lib

end Xingkong
