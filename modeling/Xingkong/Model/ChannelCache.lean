import Xingkong.Lib.Selection
import Xingkong.Model.Json

/-!
# Channels, abilities and the channel cache

A channel serves the models of its `Models` text for the groups of its `Group` text.
`model/ability.go` stores one ability per pair and picks a channel with queries on them;
`model/channel_cache.go` builds lists of channel ids per group and model from the channels
themselves and picks from the lists. A random draw is a number that is reduced modulo the
range asked for.

Texts are compared exactly. An unset priority is stored as 0 (the column's default).
-/

namespace Xingkong

open Rdb Selection

def channelStatusEnabled : Int := 1

structure ChannelRow where
  id : Nat
  status : Int
  group : String
  models : String
  priority : Option Int
  weight : Option Nat
  deriving DecidableEq

instance : Row ChannelRow := ⟨(·.id), fun n r => { r with id := n }, fun _ _ => rfl⟩

namespace ChannelRow

def getPriority (c : ChannelRow) : Int := c.priority.getD 0

def getWeight (c : ChannelRow) : Nat := c.weight.getD 0

def enabled (c : ChannelRow) : Bool := c.status = channelStatusEnabled

/-- `strings.Split(channel.Group, ",")`. -/
def groups (c : ChannelRow) : List String := splitText c.group ','

def modelNames (c : ChannelRow) : List String := splitText c.models ','

end ChannelRow

/-! ## Abilities -/

structure Ability where
  group : String
  model : String
  channelId : Nat
  enabled : Bool
  priority : Int
  weight : Nat
  deriving DecidableEq

/-- Keep the first of the pairs that have the same key `group|model`. -/
def distinctPairs (seen : List String) : List (String × String) → List (String × String)
  | [] => []
  | (group, model) :: pairs =>
    let key := group ++ "|" ++ model
    if key ∈ seen then distinctPairs seen pairs
    else (group, model) :: distinctPairs (key :: seen) pairs

/-- The pairs in the order of the two loops, models outside. -/
def ChannelRow.abilityPairs (c : ChannelRow) : List (String × String) :=
  distinctPairs [] (c.modelNames.flatMap fun model => c.groups.map fun group => (group, model))

def ChannelRow.addAbilities (c : ChannelRow) : List Ability :=
  c.abilityPairs.map fun pair =>
    { group := pair.1, model := pair.2, channelId := c.id, enabled := c.enabled
      priority := c.getPriority, weight := c.getWeight }

def derivedAbilities (channels : Table ChannelRow) : List Ability :=
  channels.rows.flatMap ChannelRow.addAbilities

/-- A change of the abilities table that other connections see: a statement of `FixAbility`,
`AddAbilities` or `DeleteAbilities`, or the transaction of `UpdateAbilities`. -/
inductive AbilityStatement
  | truncate
  | deleteOf (channelIds : List Nat)
  | create (chunk : List Ability)
  | updateAbilities (channel : ChannelRow)

/-- `OnConflict{DoNothing: true}` on the key of group, model and channel. -/
def createAbility (abilities : List Ability) (a : Ability) : List Ability :=
  if abilities.any fun b => b.group = a.group && b.model = a.model && b.channelId = a.channelId
  then abilities
  else abilities ++ [a]

def AbilityStatement.exec (abilities : List Ability) : AbilityStatement → List Ability
  | truncate => []
  | deleteOf channelIds => abilities.filter (·.channelId ∉ channelIds)
  | create chunk => chunk.foldl createAbility abilities
  | updateAbilities c =>
    c.addAbilities.foldl createAbility (abilities.filter (·.channelId ≠ c.id))

def fixAbility (channels : Table ChannelRow) : List AbilityStatement :=
  .truncate :: (channels.rows.toChunks 50).flatMap fun chunk =>
    .deleteOf (chunk.map ChannelRow.id) ::
      chunk.flatMap fun c => (c.addAbilities.toChunks 50).map .create

/-! ## Picking through the database -/

def enabledAbilities (abilities : List Ability) (group model : String) : List Ability :=
  abilities.filter fun a => a.group = group && a.model = model && a.enabled

/-- `SELECT DISTINCT(priority) … ORDER BY priority DESC`, then the one for the retry. -/
def getPriority (abilities : List Ability) (group model : String) (retry : Nat) :
    Except String Int :=
  match level ((enabledAbilities abilities group model).map Ability.priority) retry with
  | none => .error "数据库一致性被破坏"
  | some priority => .ok priority

/-- The rows of the query: the greatest priority at first, that of `getPriority` on a
retry. -/
def getChannelQuery (abilities : List Ability) (group model : String) (retry : Nat) :
    Except String (List Ability) :=
  let found := enabledAbilities abilities group model
  if retry = 0 then
    match (found.map Ability.priority).max? with
    | none => .ok []
    | some priority => .ok (found.filter fun a => a.priority = priority)
  else
    match getPriority abilities group model retry with
    | .error message => .error message
    | .ok priority => .ok (found.filter fun a => a.priority = priority)

/-- `weight -= ability.Weight + 10` until it is used up. -/
def pickAbility : List Ability → Int → Option Ability
  | [], _ => none
  | a :: abilities, weight =>
    let weight := weight - (a.weight + 10 : Nat)
    if weight ≤ 0 then some a else pickAbility abilities weight

def getChannel (channels : Table ChannelRow) (abilities : List Ability) (group model : String)
    (retry draw : Nat) : Except String (Option ChannelRow) :=
  match getChannelQuery abilities group model retry with
  | .error message => .error message
  | .ok found =>
    let found := found.insertionSort fun a b => b.weight ≤ a.weight
    if found = [] then .ok none
    else
      let weightSum := (found.map fun a => a.weight + 10).sum
      let channelId := match pickAbility found ((draw % weightSum : Nat) : Int) with
        | none => 0
        | some a => a.channelId
      match channels.find? channelId with
      | none => .error "record not found"
      | some channel => .ok (some channel)

/-! ## The cache -/

structure ChannelCache where
  /-- Ids per group and model. A missing group is `none`, a missing model the empty list. -/
  group2model2channels : String → Option (String → List Nat)
  channelsIDM : Nat → Option ChannelRow

def cacheEntries (channels : List ChannelRow) : List (Nat × String × String) :=
  (channels.filter ChannelRow.enabled).flatMap fun c =>
    c.groups.flatMap fun group => c.modelNames.map fun model => (c.id, group, model)

/-- One append. `none` is the panic of an assignment into a nil map. -/
def appendChannel (lists : String → Option (String → List Nat)) (e : Nat × String × String) :
    Option (String → Option (String → List Nat)) :=
  match lists e.2.1 with
  | none => none
  | some byModel =>
    some (Function.update lists e.2.1
      (some (Function.update byModel e.2.2 (byModel e.2.2 ++ [e.1]))))

/-- Groups come from the abilities; lists are sorted by priority. -/
def initChannelCache (channels : Table ChannelRow) (abilities : List Ability) :
    Option ChannelCache :=
  let empty : String → Option (String → List Nat) := fun group =>
    if group ∈ abilities.map Ability.group then some fun _ => [] else none
  let priorityOf (id : Nat) : Int := ((channels.find? id).map ChannelRow.getPriority).getD 0
  match (cacheEntries channels.rows).foldlM appendChannel empty with
  | none => none
  | some lists =>
    some
      { group2model2channels := fun group => (lists group).map fun byModel model =>
          (byModel model).insertionSort fun i j => priorityOf j ≤ priorityOf i
        channelsIDM := channels.find? }

namespace ChannelCache

def channels (cache : ChannelCache) (group model : String) : List Nat :=
  match cache.group2model2channels group with
  | none => []
  | some byModel => byModel model

def lookUp (cache : ChannelCache) : List Nat → Except String (List ChannelRow)
  | [] => .ok []
  | id :: ids =>
    match cache.channelsIDM id with
    | none => .error ("数据库一致性错误，渠道# " ++ toString id ++ " 不存在，请联系管理员修复")
    | some channel =>
      match cache.lookUp ids with
      | .error message => .error message
      | .ok channels => .ok (channel :: channels)

end ChannelCache

def handleThinkingBudgetModel (name pre wildcard : String) : String :=
  if startsWith name pre && (cutAt "-thinking-".toList name.toList).isSome then wildcard else name

/-- `ratio_setting.FormatMatchingModelName`. -/
def formatMatchingModelName (name : String) : String :=
  let name :=
    if startsWith name "gemini-2.5-flash-lite" then
      handleThinkingBudgetModel name "gemini-2.5-flash-lite" "gemini-2.5-flash-lite-thinking-*"
    else if startsWith name "gemini-2.5-flash" then
      handleThinkingBudgetModel name "gemini-2.5-flash" "gemini-2.5-flash-thinking-*"
    else if startsWith name "gemini-2.5-pro" then
      handleThinkingBudgetModel name "gemini-2.5-pro" "gemini-2.5-pro-thinking-*"
    else name
  let name := if startsWith name "gpt-4-gizmo" then "gpt-4-gizmo-*" else name
  if startsWith name "gpt-4o-gizmo" then "gpt-4o-gizmo-*" else name

/-- The weights the draw is made with: all alike when there are none, and a hundredfold
when they are small. -/
def effectiveWeight (targetChannels : List ChannelRow) (c : ChannelRow) : Int :=
  let sumWeight := (targetChannels.map ChannelRow.getWeight).sum
  if sumWeight = 0 then 100
  else if sumWeight / targetChannels.length < 10 then c.getWeight * 100
  else c.getWeight

def ChannelCache.candidates (cache : ChannelCache) (group model : String) : List Nat :=
  if cache.channels group model = [] then cache.channels group (formatMatchingModelName model)
  else cache.channels group model

def getRandomSatisfiedChannel (cache : ChannelCache) (group model : String)
    (retry draw : Nat) : Except String (Option ChannelRow) :=
  match cache.candidates group model with
  | [] => .ok none
  | [id] =>
    match cache.lookUp [id] with
    | .error message => .error message
    | .ok channels => .ok channels.head?
  | ids =>
    match cache.lookUp ids with
    | .error message => .error message
    | .ok channels =>
      match level (channels.map ChannelRow.getPriority) retry with
      -- not reached: there are at least two channels here
      | none => .ok none
      | some targetPriority =>
        let targetChannels := channels.filter fun c => c.getPriority = targetPriority
        let totalWeight := total (effectiveWeight targetChannels) targetChannels
        match walk (effectiveWeight targetChannels) targetChannels
            ((draw : Int) % totalWeight) with
        | none => .error "channel not found"
        | some channel => .ok (some channel)

/-- The list without the first occurrence of the id, as the loop with `break` leaves it. -/
def cacheUpdateChannelStatus (cache : ChannelCache) (id : Nat) (status : Int) : ChannelCache :=
  { group2model2channels :=
      if status ≠ channelStatusEnabled then
        fun group => (cache.group2model2channels group).map fun byModel model =>
          (byModel model).erase id
      else cache.group2model2channels
    channelsIDM := Function.update cache.channelsIDM id
      ((cache.channelsIDM id).map fun c => { c with status := status }) }

/-- `none` is the panic on a channel the cache does not know, which is read for a trace
line first. -/
def cacheUpdateChannel (cache : ChannelCache) (channel : ChannelRow) : Option ChannelCache :=
  match cache.channelsIDM channel.id with
  | none => none
  | some _ =>
    some { cache with
      channelsIDM := Function.update cache.channelsIDM channel.id (some channel) }

end Xingkong
