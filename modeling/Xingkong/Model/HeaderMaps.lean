import Xingkong.Lib.MapHeap
import Xingkong.Model.HeaderOverride

/-!
# Header overrides in memory

`Model/HeaderOverride.lean` passes headers on by value. In the program they are maps, and a map is a
reference: the relay information and its channel hold maps, the context of an override holds maps,
and the header operations write into a map of the context while the loop over the operations runs.
Whether a failed override leaves anything behind depends on which of these maps are the same. Here
they are on a heap.

Every context is built by `BuildParamOverrideContext`, so that both of its header maps are there
and `ensureMapKeyInContext` finds them.

Follows `relay/common/override.go`.
-/

namespace Xingkong.Mem

open MapHeap MapHeap.Prog

abbrev HeaderHeap := Heap String Json

abbrev HeaderM := Prog String Json OverrideErr

section Lib

variable (lib : JsonLib)

def texts (m : JsonObject) : Headers := m.map fun e => (e.1, lib.sprint e.2)

def sanitizeEntry (target : Ref) (e : String × Json) : HeaderM PUnit :=
  let key := normalizeHeaderContextKey e.1
  let value := trimSpace (lib.sprint e.2)
  if key = "" then pure ()
  else if value = "" then
    if isHeaderPassthroughRuleKeyForOverride key then assign target key (.str "") else pure ()
  else assign target key (.str value)

/-- The result is a map of its own, also if the source is empty. -/
def sanitizeHeaderOverrideMap (source : Option Ref) : HeaderM Ref := do
  let h ← heap
  let target ← make []
  (h.read source).forM (sanitizeEntry lib target)
  return target

/-! ## The context -/

structure Context where
  requestHeaders : Ref
  headerOverride : Ref
  entries : JsonObject

namespace Context

variable (ctx : Context)

def view (h : HeaderHeap) : OverrideContext where
  requestHeaders := texts lib (h.cell ctx.requestHeaders)
  headerOverride := texts lib (h.cell ctx.headerOverride)
  entries := ctx.entries

/-- What is in the context at this point of the program. -/
def now : HeaderM OverrideContext := fun h => (.ok (ctx.view lib h), h)

def marshalContextJSON : HeaderM Json := do
  return (← ctx.now lib).json

def setHeaderOverrideInContext (headerName : String) (value : Json) (keepOrigin : Bool) :
    HeaderM Unit :=
  let headerName := normalizeHeaderContextKey headerName
  if headerName = "" then ofExcept (.error (.msg "header name is required"))
  else do
    let c ← ctx.now lib
    if keepOrigin ∧ trimSpace ((getHeader c.headerOverride headerName).getD "") ≠ "" then
      return ()
    else
      match ← ofExcept (resolveHeaderOverrideValue lib c headerName value) with
      | none => delete ctx.headerOverride headerName
      | some v => assign ctx.headerOverride headerName (.str v)

def deleteHeaderOverrideInContext (headerName : String) : HeaderM Unit :=
  let headerName := normalizeHeaderContextKey headerName
  if headerName = "" then ofExcept (.error (.msg "header name is required"))
  else delete ctx.headerOverride headerName

def copyHeaderInContext (fromHeader toHeader : String) (keepOrigin : Bool) : HeaderM Unit :=
  let fromHeader := normalizeHeaderContextKey fromHeader
  let toHeader := normalizeHeaderContextKey toHeader
  if fromHeader = "" ∨ toHeader = "" then
    ofExcept (.error (.msg "copy_header from/to is required"))
  else do
    match getHeaderValueFromContext (← ctx.now lib) fromHeader with
    | none => ofExcept (.error (.sourceHeaderNotFound fromHeader))
    | some value => ctx.setHeaderOverrideInContext lib toHeader (.str value) keepOrigin

def moveHeaderInContext (fromHeader toHeader : String) (keepOrigin : Bool) : HeaderM Unit :=
  let fromHeader := normalizeHeaderContextKey fromHeader
  let toHeader := normalizeHeaderContextKey toHeader
  if fromHeader = "" ∨ toHeader = "" then
    ofExcept (.error (.msg "move_header from/to is required"))
  else do
    ctx.copyHeaderInContext lib fromHeader toHeader keepOrigin
    if equalFold fromHeader toHeader then return ()
    else ctx.deleteHeaderOverrideInContext fromHeader

def writeSyncTargetValue (json : Json) (target : SyncTarget) (value : Json) : HeaderM Json :=
  match target with
  | .json key => ofExcept (liftLib (lib.set json (processNegativeIndex lib json key) value))
  | .header key => do
    ctx.setHeaderOverrideInContext lib key value false
    return json

def syncFieldsBetweenTargets (json : Json) (fromSpec toSpec : String) : HeaderM Json := do
  let source ← ofExcept (parseSyncTarget fromSpec)
  let target ← ofExcept (parseSyncTarget toSpec)
  let c ← ctx.now lib
  match readSyncTargetValue lib json c source, readSyncTargetValue lib json c target with
  | some v, none => ctx.writeSyncTargetValue lib json target v
  | none, some v => ctx.writeSyncTargetValue lib json source v
  | _, _ => return json

end Context

/-! ## Running operations -/

def isSourceHeaderNotFound : OverrideErr → Bool
  | .sourceHeaderNotFound _ => true
  | _ => false

def onBody (op : ParamOperation) (json contextJSON : Json) : Option (OverrideM Json) :=
  match op.atPath lib contextJSON with
  | some f => some (((resolveOperationPaths json (processNegativeIndex lib json op.path)).foldlM
      f json).mapError (.failed op.mode))
  | none =>
    match op.mode with
    | .move => some ((moveValue lib json (processNegativeIndex lib json op.source)
        (processNegativeIndex lib json op.target)).mapError (.failed op.mode))
    | .copy =>
      if op.source = "" ∨ op.target = "" then some (.error (.msg "copy from/to is required"))
      else some ((copyValue lib json (processNegativeIndex lib json op.source)
        (processNegativeIndex lib json op.target)).mapError (.failed op.mode))
    | .returnError =>
      match parseParamOverrideReturnError lib op.value with
      | .ok e => some (.error (.returned e))
      | .error e => some (.error e)
    | .unknown text => some (.error (.msg ("unknown operation: " ++ text)))
    | _ => none

def onHeaders (op : ParamOperation) (json : Json) (ctx : Context) : HeaderM Json :=
  match op.mode with
  | .setHeader => do
    mapError (.failed op.mode) (ctx.setHeaderOverrideInContext lib op.path op.value op.keepOrigin)
    return json
  | .deleteHeader => do
    mapError (.failed op.mode) (ctx.deleteHeaderOverrideInContext op.path)
    return json
  | .copyHeader => do
    mapError (.failed op.mode) (ignore isSourceHeaderNotFound
      (ctx.copyHeaderInContext lib op.headerPair.1 op.headerPair.2 op.keepOrigin))
    return json
  | .moveHeader => do
    mapError (.failed op.mode) (ignore isSourceHeaderNotFound
      (ctx.moveHeaderInContext lib op.headerPair.1 op.headerPair.2 op.keepOrigin))
    return json
  | .passHeaders => do
    let names ← ofExcept (parseHeaderPassThroughNames lib op.value)
    mapError (.failed op.mode) (names.forM fun name => ignore isSourceHeaderNotFound
      (ctx.copyHeaderInContext lib name name op.keepOrigin))
    return json
  | .syncFields => mapError (.failed op.mode)
      (ctx.syncFieldsBetweenTargets lib json op.source op.target)
  -- the operations on the body
  | _ => return json

/-- One turn of the loop. Conditions see the context as it was marshalled last, which is done again
after an operation on headers. -/
def applyOperation (ctx : Context) (s : Json × Json) (op : ParamOperation) :
    HeaderM (Json × Json) := do
  if ← ofExcept (checkConditions lib s.1 s.2 op.conditions op.logic) then
    match onBody lib op s.1 s.2 with
    | some r => do
      return (← ofExcept r, s.2)
    | none => do
      let json ← onHeaders lib op s.1 ctx
      return (json, ← ctx.marshalContextJSON lib)
  else return s

def applyOperations (json : Json) (operations : List ParamOperation) (ctx : Context) :
    HeaderM Json := do
  let contextJSON ← ctx.marshalContextJSON lib
  return (← operations.foldlM (applyOperation lib ctx) (json, contextJSON)).1

def applyParamOverride (json : Json) (paramOverride : JsonObject) (ctx : Context) :
    HeaderM Json :=
  if paramOverride.isEmpty then return json
  else
    match tryParseOperations paramOverride with
    | some operations => do
      let legacy := buildLegacyParamOverride paramOverride
      let json ← ofExcept (if legacy.isEmpty then .ok json else applyOperationsLegacy json legacy)
      applyOperations lib json operations ctx
    | none => ofExcept (applyOperationsLegacy json paramOverride)

/-! ## Relay information -/

structure ChannelMeta where
  paramOverride : JsonObject
  headersOverride : Option Ref
  upstreamModelName : String

structure RelayInfo where
  originModelName : String
  requestURLPath : String
  requestHeaders : Headers
  isChannelTest : Bool
  retryIndex : Nat
  lastError : Option RelayError
  runtimeHeadersOverride : Option Ref
  useRuntimeHeadersOverride : Bool
  channelMeta : Option ChannelMeta

namespace RelayInfo

variable (info : RelayInfo)

def getHeaderOverrideMap : Option Ref := info.channelMeta.bind (·.headersOverride)

def getParamOverrideMap : JsonObject := (info.channelMeta.map (·.paramOverride)).getD []

def getEffectiveHeaderOverride : HeaderM Ref :=
  if info.useRuntimeHeadersOverride then
    sanitizeHeaderOverrideMap lib info.runtimeHeadersOverride
  else sanitizeHeaderOverrideMap lib info.getHeaderOverrideMap

def view (h : HeaderHeap) : OverrideInfo where
  originModelName := info.originModelName
  requestURLPath := info.requestURLPath
  requestHeaders := info.requestHeaders
  isChannelTest := info.isChannelTest
  retryIndex := info.retryIndex
  lastError := info.lastError
  runtimeHeadersOverride := texts lib (h.read info.runtimeHeadersOverride)
  useRuntimeHeadersOverride := info.useRuntimeHeadersOverride
  channelMeta := info.channelMeta.map fun c =>
    { paramOverride := c.paramOverride, headersOverride := h.read c.headersOverride
      upstreamModelName := c.upstreamModelName }

/-- The entries that hold no headers are as in `Xingkong.buildParamOverrideContext`. -/
def buildParamOverrideContext : HeaderM Context := do
  let h ← heap
  let requestHeaders ← make
    ((buildRequestHeadersContext info.requestHeaders).map fun e => (e.1, .str e.2))
  let headerOverrideSource ← info.getEffectiveHeaderOverride lib
  let headerOverride ← sanitizeHeaderOverrideMap lib (some headerOverrideSource)
  return { requestHeaders, headerOverride
           entries := (Xingkong.buildParamOverrideContext lib (info.view lib h)).entries }

def syncRuntimeHeaderOverrideFromContext (ctx : Context) : HeaderM RelayInfo := do
  let runtimeHeadersOverride ← sanitizeHeaderOverrideMap lib (some ctx.headerOverride)
  return { info with runtimeHeadersOverride := some runtimeHeadersOverride
                     useRuntimeHeadersOverride := true }

/-- The body, and the relay information as it is then. -/
def applyParamOverrideWithRelayInfo (json : Json) : HeaderM (Json × RelayInfo) :=
  if info.getParamOverrideMap.isEmpty then return (json, info)
  else do
    let overrideCtx ← info.buildParamOverrideContext lib
    let result ← applyParamOverride lib json info.getParamOverrideMap overrideCtx
    return (result, ← info.syncRuntimeHeaderOverrideFromContext lib overrideCtx)

/-- The references of the relay information lead to maps of the heap. -/
structure Held (h : HeaderHeap) : Prop where
  runtimeHeadersOverride : ∀ r ∈ info.runtimeHeadersOverride, r < h.size
  headersOverride : ∀ r ∈ info.getHeaderOverrideMap, r < h.size

end RelayInfo

end Lib

end Xingkong.Mem
