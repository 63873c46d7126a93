import Xingkong.Lib.Dict
import Xingkong.Lib.Follow
import Xingkong.Model.Json

/-!
# Model mapping

A channel may map model names to others, and those to others again; the name at the end of the chain
is sent upstream. In responses-compact mode names carry a suffix on the way through the relay and
are mapped without it. One relay information serves all channels a request is tried on, and each
attempt rewrites the model in it.

Follows `relay/helper/model_mapped.go`, `InitChannelMeta` of `relay/common/relay_info.go`, the loop
and `getChannel` of `controller/relay.go` and what `middleware/distributor.go` puts in the context.
-/

namespace Xingkong

def compactModelSuffix : String := "-openai-compact"

def withCompactModelSuffix (modelName : String) : String :=
  if endsWith modelName compactModelSuffix then modelName else modelName ++ compactModelSuffix

def withoutCompactModelSuffix (modelName : String) : String :=
  if endsWith modelName compactModelSuffix then trimSuffix modelName compactModelSuffix
  else modelName

/-! ## Following a mapping -/

inductive Walk
  | found (model : String) (mapped : Bool)
  | identity
  | cycle
  | unfinished

/-- `visitedModels` has the models on the way. -/
def walk (modelMap : Dict String String) (originModelName : String) :
    Nat → List String → String → Bool → Walk
  | 0, _, _, _ => .unfinished
  | n + 1, visited, current, mapped =>
    match modelMap.get current with
    | none => .found current mapped
    | some mappedModel =>
      if mappedModel = "" then .found current mapped
      else if mappedModel ∈ visited then
        if mappedModel = current then
          if current = originModelName then .identity else .found current true
        else .cycle
      else walk modelMap originModelName n (mappedModel :: visited) mappedModel true

/-- Every turn leaves a model of the map, so the size of the map bounds their number. -/
def walkFrom (modelMap : Dict String String) (originModelName model : String) (mapped : Bool) :
    Walk :=
  walk modelMap originModelName (modelMap.size + 1) [model] model mapped

/-! ## The relay information -/

inductive RelayMode
  | responsesCompact
  | other
  deriving DecidableEq

/-- What the mapping reads of the request's context. -/
structure MappingContext where
  originalModel : String
  modelMapping : String

structure MappingMeta where
  upstreamModelName : String
  isModelMapped : Bool

structure MappingInfo where
  relayMode : RelayMode
  originModelName : String
  channelMeta : Option MappingMeta
  requestModel : String

/-- `json.Unmarshal` into a map of texts. -/
abbrev UnmarshalMap := String → Option (Dict String String)

def MappingInfo.initChannelMeta (info : MappingInfo) (c : MappingContext) : MappingInfo :=
  { info with
    channelMeta := some { upstreamModelName := c.originalModel, isModelMapped := false }
    requestModel := info.originModelName }

section Lib

variable (unmarshal : UnmarshalMap)

/-- The channel's part after its mapping is followed; nothing if the helper returns here. -/
def mapModel (c : MappingContext) (channelMeta : MappingMeta) (originModelName model : String) :
    Except String (Option MappingMeta) :=
  if c.modelMapping ≠ "" ∧ c.modelMapping ≠ "\x7b\x7d" then
    match unmarshal c.modelMapping with
    | none => .error "unmarshal_model_mapping_failed"
    | some modelMap =>
      match walkFrom modelMap originModelName model channelMeta.isModelMapped with
      | .found current true => .ok (some { upstreamModelName := current, isModelMapped := true })
      | .found _ false => .ok (some channelMeta)
      | .identity => .ok none
      | .cycle => .error "model_mapping_contains_cycle"
      | .unfinished => .error ""
  else .ok (some channelMeta)

/-- The relay information afterwards and the model of the request that is sent. -/
def modelMappedHelper (c : MappingContext) (info : MappingInfo) (request : String) :
    Except String (MappingInfo × String) :=
  let channelMeta := info.channelMeta.getD { upstreamModelName := "", isModelMapped := false }
  let isResponsesCompact := info.relayMode = .responsesCompact
  let mappingModelName :=
    if isResponsesCompact then withoutCompactModelSuffix info.originModelName
    else info.originModelName
  match mapModel unmarshal c channelMeta info.originModelName mappingModelName with
  | .error e => .error e
  | .ok none =>
    .ok ({ info with channelMeta := some { channelMeta with isModelMapped := false } }, request)
  | .ok (some channelMeta) =>
    if isResponsesCompact then
      let finalUpstreamModelName :=
        if channelMeta.isModelMapped ∧ channelMeta.upstreamModelName ≠ "" then
          channelMeta.upstreamModelName
        else mappingModelName
      .ok ({ info with
              channelMeta := some { channelMeta with upstreamModelName := finalUpstreamModelName }
              originModelName := withCompactModelSuffix finalUpstreamModelName },
        finalUpstreamModelName)
    else .ok ({ info with channelMeta := some channelMeta }, channelMeta.upstreamModelName)

/-! ## The retry loop -/

structure MappingChannel where
  modelMapping : Option String

def MappingChannel.getModelMapping (channel : MappingChannel) : String :=
  channel.modelMapping.getD ""

/-- The first channel is in the context already; for another one the context is set up again. -/
def getChannelContext (c : MappingContext) (info : MappingInfo) (channel : MappingChannel) :
    MappingContext :=
  match info.channelMeta with
  | none => c
  | some _ =>
    { originalModel := info.originModelName, modelMapping := channel.getModelMapping }

/-- The models sent to the channels, one after the other. A mapping that fails is an error of the
channel, which `shouldRetry` tries again; what it wrote of the channel is set up anew there. -/
def sentModels (c : MappingContext) (info : MappingInfo) :
    List MappingChannel → List (Except String String)
  | [] => []
  | channel :: channels =>
    let c := getChannelContext c info channel
    let info := info.initChannelMeta c
    match modelMappedHelper unmarshal c info info.requestModel with
    | .error e => .error e :: sentModels c info channels
    | .ok (info, sent) => .ok sent :: sentModels c info channels

/-- What the distributor takes for the model of a request to `/v1/responses/compact`. -/
def compactRequestModel (model : String) : String :=
  if model ≠ "" then withCompactModelSuffix model else model

/-- A request in responses-compact mode, tried on some channels. -/
def relayCompact (model : String) (channels : List MappingChannel) : List (Except String String) :=
  match channels with
  | [] => []
  | channel :: _ =>
    sentModels unmarshal
      { originalModel := compactRequestModel model, modelMapping := channel.getModelMapping }
      { relayMode := .responsesCompact, originModelName := compactRequestModel model
        channelMeta := none, requestModel := model } channels

end Lib

end Xingkong
