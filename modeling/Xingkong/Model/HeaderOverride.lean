import Xingkong.Model.Override

/-!
# Header overrides

The headers in force for an attempt are those of its channel, unless an override has left headers
of its own in the relay information. Operations on headers, and the driver that runs a list of
operations, work on a copy of them; what is left of it is stored when all operations succeed.

Follows `relay/common/override.go` and `InitChannelMeta` of `relay/common/relay_info.go`.
-/

namespace Xingkong

/-! ## Headers -/

/-- Names and values, in the order in which the map is visited. -/
abbrev Headers := List (String × String)

def getHeader (h : Headers) (name : String) : Option String := h.lookup name

def putHeader (h : Headers) (name value : String) : Headers :=
  h.filter (·.1 ≠ name) ++ [(name, value)]

def dropHeader (h : Headers) (name : String) : Headers := h.filter (·.1 ≠ name)

def normalizeHeaderContextKey (key : String) : String := trimSpace (toLower key)

def isHeaderPassthroughRuleKeyForOverride (key : String) : Bool :=
  let key := trimSpace (toLower key)
  key = "*" || startsWith key "re:" || startsWith key "regex:"

/-- Names are normalised; a header without a value only stays as a passthrough rule. -/
def sanitizeHeaderOverrideMap (source : Headers) : Headers :=
  source.foldl (fun target e =>
    let key := normalizeHeaderContextKey e.1
    let value := trimSpace e.2
    if key = "" then target
    else if value = "" then
      if isHeaderPassthroughRuleKeyForOverride key then putHeader target key "" else target
    else putHeader target key value) []

def buildRequestHeadersContext (headers : Headers) : Headers :=
  headers.foldl (fun target e =>
    let key := normalizeHeaderContextKey e.1
    let value := trimSpace e.2
    if key = "" ∨ value = "" then target else putHeader target key value) []

/-! ## The context of an override -/

structure OverrideContext where
  requestHeaders : Headers
  headerOverride : Headers
  entries : JsonObject

def headersJson (h : Headers) : Json := .obj (h.map fun e => (e.1, .str e.2))

/-- `marshalContextJSON`. -/
def OverrideContext.json (ctx : OverrideContext) : Json :=
  .obj (ctx.entries ++ [("request_headers", headersJson ctx.requestHeaders),
    ("header_override", headersJson ctx.headerOverride)])

/-- The override is asked before the request. -/
def getHeaderValueFromContext (ctx : OverrideContext) (headerName : String) : Option String :=
  let headerName := normalizeHeaderContextKey headerName
  if headerName = "" then none
  else
    [ctx.headerOverride, ctx.requestHeaders].findSome? fun source =>
      ((getHeader source headerName).map trimSpace).filter (· ≠ "")

def splitHeaderListValue (raw : String) : List String :=
  ((splitText raw ',').map trimSpace).filter (· ≠ "")

section Lib

variable (lib : JsonLib)

mutual

def parseHeaderReplacementTokens : Json → OverrideM (List String)
  | .null => .ok []
  | .str s => .ok (splitHeaderListValue s)
  | .arr items => do
    return (← parseHeaderReplacementItems items).eraseDups
  | .obj _ => .error (.msg "header replacement value must be string, array or null")
  | v => .ok ([trimSpace (lib.sprint v)].filter (· ≠ ""))

def parseHeaderReplacementItems : List Json → OverrideM (List String)
  | [] => .ok []
  | v :: rest => do
    return (← parseHeaderReplacementTokens v) ++ (← parseHeaderReplacementItems rest)

end

def replaceHeaderToken (mapping : JsonObject) (keepOnlyDeclared : Bool) (token : String) :
    OverrideM (List String) :=
  match objField mapping token with
  | some replacement => parseHeaderReplacementTokens lib replacement
  | none =>
    if keepOnlyDeclared then .ok []
    else
      match objField mapping "*" with
      | some replacement => parseHeaderReplacementTokens lib replacement
      | none => .ok [token]

def resolveHeaderOverrideValueByMapping (ctx : OverrideContext) (headerName : String)
    (mapping : JsonObject) : OverrideM (Option String) :=
  if mapping.isEmpty then .error (.msg "header value mapping cannot be empty")
  else do
    let appendTokens ← parseHeaderReplacementTokens lib ((objField mapping "$append").getD .null)
    let keepOnlyDeclared := (objBool mapping "$keep_only_declared").getD false
    let sourceTokens :=
      ((getHeaderValueFromContext ctx headerName).map splitHeaderListValue).getD []
    let replaced ← sourceTokens.mapM (replaceHeaderToken lib mapping keepOnlyDeclared)
    return match (replaced.flatten ++ appendTokens).eraseDups with
      | [] => none
      | tokens => some (joinTexts tokens ",")

/-- The text a header is set to; nothing if it is to be removed. -/
def resolveHeaderOverrideValue (ctx : OverrideContext) (headerName : String) :
    Json → OverrideM (Option String)
  | .null => .error (.msg "header value is required")
  | .obj mapping => resolveHeaderOverrideValueByMapping lib ctx headerName mapping
  | v => .ok (some (trimSpace (lib.sprint v)) |>.filter (· ≠ ""))

def setHeaderOverrideInContext (ctx : OverrideContext) (headerName : String) (value : Json)
    (keepOrigin : Bool) : OverrideM OverrideContext :=
  let headerName := normalizeHeaderContextKey headerName
  if headerName = "" then .error (.msg "header name is required")
  else if keepOrigin ∧ trimSpace ((getHeader ctx.headerOverride headerName).getD "") ≠ "" then
    .ok ctx
  else do
    match ← resolveHeaderOverrideValue lib ctx headerName value with
    | none => return { ctx with headerOverride := dropHeader ctx.headerOverride headerName }
    | some v => return { ctx with headerOverride := putHeader ctx.headerOverride headerName v }

def deleteHeaderOverrideInContext (ctx : OverrideContext) (headerName : String) :
    OverrideM OverrideContext :=
  let headerName := normalizeHeaderContextKey headerName
  if headerName = "" then .error (.msg "header name is required")
  else .ok { ctx with headerOverride := dropHeader ctx.headerOverride headerName }

def copyHeaderInContext (ctx : OverrideContext) (fromHeader toHeader : String)
    (keepOrigin : Bool) : OverrideM OverrideContext :=
  let fromHeader := normalizeHeaderContextKey fromHeader
  let toHeader := normalizeHeaderContextKey toHeader
  if fromHeader = "" ∨ toHeader = "" then .error (.msg "copy_header from/to is required")
  else
    match getHeaderValueFromContext ctx fromHeader with
    | none => .error (.sourceHeaderNotFound fromHeader)
    | some value => setHeaderOverrideInContext lib ctx toHeader (.str value) keepOrigin

def moveHeaderInContext (ctx : OverrideContext) (fromHeader toHeader : String)
    (keepOrigin : Bool) : OverrideM OverrideContext :=
  let fromHeader := normalizeHeaderContextKey fromHeader
  let toHeader := normalizeHeaderContextKey toHeader
  if fromHeader = "" ∨ toHeader = "" then .error (.msg "move_header from/to is required")
  else do
    let ctx ← copyHeaderInContext lib ctx fromHeader toHeader keepOrigin
    if equalFold fromHeader toHeader then return ctx
    deleteHeaderOverrideInContext ctx fromHeader

/-- A source header that is missing is passed over. -/
def orMissing (ctx : OverrideContext) : OverrideM OverrideContext → OverrideM OverrideContext
  | .error (.sourceHeaderNotFound _) => .ok ctx
  | r => r

def normalizeNames (values : List String) : List String :=
  ((values.map normalizeHeaderContextKey).filter (· ≠ "")).eraseDups

def namesOrInvalid (names : List String) : OverrideM (List String) :=
  match names with
  | [] => .error (.msg "pass_headers value is invalid")
  | names => .ok names

/-- A text may hold encoded names, which may be texts again; each holds less than the one around
it, so its length is fuel enough. -/
def passThroughNames : Nat → Json → OverrideM (List String)
  | 0, _ => .error .library
  | _ + 1, .null => .error (.msg "pass_headers value is required")
  | fuel + 1, .str raw =>
    let trimmed := trimSpace raw
    if trimmed = "" then .error (.msg "pass_headers value is required")
    else
      let parsed := if startsWith trimmed "[" ∨ startsWith trimmed "\x7b" then lib.parse trimmed
        else none
      match parsed with
      | some v => passThroughNames fuel v
      | none => namesOrInvalid (normalizeNames (splitText trimmed ','))
  | _ + 1, .arr items => namesOrInvalid (normalizeNames (items.map lib.sprint))
  | fuel + 1, .obj o =>
    namesOrInvalid (normalizeNames (["headers", "names", "header"].flatMap fun key =>
      match (objField o key).map (passThroughNames fuel) with
      | some (.ok names) => names
      | _ => []))
  | _ + 1, _ => .error (.msg "pass_headers value must be string, array or object")

def parseHeaderPassThroughNames (value : Json) : OverrideM (List String) :=
  passThroughNames lib (2 * (lib.text value).length + 2) value

/-! ## Synchronised fields -/

inductive SyncTarget
  | json (key : String)
  | header (key : String)

def parseSyncTarget (spec : String) : OverrideM SyncTarget :=
  let raw := trimSpace spec
  if raw = "" then .error (.msg "sync_fields target is required")
  else
    match cutAt [':'] raw.toList with
    | none => .ok (.json raw)
    | some (kind, key) =>
      let key := trimSpace (String.ofList key)
      if key = "" then .error (.msg ("sync_fields target key is required: " ++ raw))
      else
        match toLower (trimSpace (String.ofList kind)) with
        | "json" => .ok (.json key)
        | "body" => .ok (.json key)
        | "header" => .ok (.header key)
        | _ => .error (.msg ("sync_fields target prefix is invalid: " ++ raw))

def readSyncTargetValue (json : Json) (ctx : OverrideContext) : SyncTarget → Option Json
  | .json key =>
    match lib.get json (processNegativeIndex lib json key) with
    | some .null => none
    | some (.str s) => if trimSpace s = "" then none else some (.str s)
    | v => v
  | .header key => (getHeaderValueFromContext ctx key).map .str

def writeSyncTargetValue (json : Json) (ctx : OverrideContext) (target : SyncTarget)
    (value : Json) : OverrideM (Json × OverrideContext) :=
  match target with
  | .json key => do
    return (← liftLib (lib.set json (processNegativeIndex lib json key) value), ctx)
  | .header key => do
    return (json, ← setHeaderOverrideInContext lib ctx key value false)

/-- The side that is missing is filled from the other. -/
def syncFieldsBetweenTargets (json : Json) (ctx : OverrideContext) (fromSpec toSpec : String) :
    OverrideM (Json × OverrideContext) := do
  let source ← parseSyncTarget fromSpec
  let target ← parseSyncTarget toSpec
  match readSyncTargetValue lib json ctx source, readSyncTargetValue lib json ctx target with
  | some v, none => writeSyncTargetValue lib json ctx target v
  | none, some v => writeSyncTargetValue lib json ctx source v
  | _, _ => return (json, ctx)

/-! ## Running operations -/

def parseOverrideInt : Json → Option Int
  | .num q => if q.den = 1 then some q.num else none
  | _ => none

def returnErrorStatus (o : JsonObject) : OverrideM Int :=
  match objField o "status_code", objField o "status" with
  | some raw, _ =>
    match parseOverrideInt raw with
    | some n => .ok n
    | none => .error (.msg "return_error status_code must be an integer")
  | none, some raw =>
    match parseOverrideInt raw with
    | some n => .ok n
    | none => .error (.msg "return_error status must be an integer")
  | none, none => .ok 400

def nonBlank (text : Option String) (default : String) : String :=
  match text.map trimSpace with
  | some "" => default
  | some s => s
  | none => default

def parseParamOverrideReturnError (value : Json) : OverrideM ParamOverrideReturnError := do
  let e ← match value with
    | .null => .error (.msg "return_error value is required")
    | .str s => .ok { message := trimSpace s, statusCode := 400, code := "invalid_request"
                      type := "invalid_request_error", skipRetry := true }
    | .obj o => do
      .ok { message := nonBlank (objStr o "message") (trimSpace ((objStr o "msg").getD ""))
            statusCode := ← returnErrorStatus o
            code := nonBlank ((objField o "code").map lib.sprint) "invalid_request"
            type := nonBlank (objStr o "type") "invalid_request_error"
            skipRetry := (objBool o "skip_retry").getD true }
    | _ => .error (.msg "return_error value must be string or object")
  if e.message = "" then .error (.msg "return_error message is required")
  else if e.statusCode < 100 ∨ 511 < e.statusCode then
    .error (.msg ("return_error status code out of range: " ++ toString e.statusCode))
  else .ok e

/-- `isPathBasedOperation`, with what is done at each path. -/
def ParamOperation.atPath (op : ParamOperation) (context : Json) :
    Option (Json → String → OverrideM Json) :=
  match op.mode with
  | .delete => some (deleteValue lib)
  | .set => some fun json path => setValue lib json path op.value op.keepOrigin
  | .prepend => some fun json path => modifyValue lib json path op.value op.keepOrigin true
  | .append => some fun json path => modifyValue lib json path op.value op.keepOrigin false
  | .trimPrefix => some fun json path => trimStringValue lib json path op.value true
  | .trimSuffix => some fun json path => trimStringValue lib json path op.value false
  | .ensurePrefix => some fun json path => ensureStringAffix lib json path op.value true
  | .ensureSuffix => some fun json path => ensureStringAffix lib json path op.value false
  | .trimSpace => some fun json path => transformStringValue lib json path trimSpace
  | .toLower => some fun json path => transformStringValue lib json path toLower
  | .toUpper => some fun json path => transformStringValue lib json path toUpper
  | .replace => some fun json path => replaceStringValue lib json path op.source op.target
  | .regexReplace => some fun json path => regexReplaceStringValue lib json path op.source op.target
  | .pruneObjects => some fun json path => pruneObjects lib json path context op.value
  | _ => none

/-- The two headers of a copy or a move; the path stands in for a missing one. -/
def ParamOperation.headerPair (op : ParamOperation) : String × String :=
  (if trimSpace op.source = "" then trimSpace op.path else trimSpace op.source,
    if trimSpace op.target = "" then trimSpace op.path else trimSpace op.target)

/-- What an operation does once its conditions hold. -/
def ParamOperation.exec (op : ParamOperation) (json : Json) (ctx : OverrideContext) :
    OverrideM (Json × OverrideContext) :=
  let failed {α : Type} (r : OverrideM α) : OverrideM α := r.mapError (.failed op.mode)
  match op.atPath lib ctx.json with
  | some f => do
    return (← failed ((resolveOperationPaths json (processNegativeIndex lib json op.path)).foldlM
      f json), ctx)
  | none =>
    match op.mode with
    | .move => do
      return (← failed (moveValue lib json (processNegativeIndex lib json op.source)
        (processNegativeIndex lib json op.target)), ctx)
    | .copy =>
      if op.source = "" ∨ op.target = "" then .error (.msg "copy from/to is required")
      else do
        return (← failed (copyValue lib json (processNegativeIndex lib json op.source)
          (processNegativeIndex lib json op.target)), ctx)
    | .returnError =>
      match parseParamOverrideReturnError lib op.value with
      | .ok e => .error (.returned e)
      | .error e => .error e
    | .setHeader => do
      return (json, ← failed (setHeaderOverrideInContext lib ctx op.path op.value op.keepOrigin))
    | .deleteHeader => do
      return (json, ← failed (deleteHeaderOverrideInContext ctx op.path))
    | .copyHeader => do
      return (json, ← failed (orMissing ctx
        (copyHeaderInContext lib ctx op.headerPair.1 op.headerPair.2 op.keepOrigin)))
    | .moveHeader => do
      return (json, ← failed (orMissing ctx
        (moveHeaderInContext lib ctx op.headerPair.1 op.headerPair.2 op.keepOrigin)))
    | .passHeaders => do
      let names ← parseHeaderPassThroughNames lib op.value
      return (json, ← failed (names.foldlM (fun ctx name =>
        orMissing ctx (copyHeaderInContext lib ctx name name op.keepOrigin)) ctx))
    | .syncFields => failed (syncFieldsBetweenTargets lib json ctx op.source op.target)
    | .unknown text => .error (.msg ("unknown operation: " ++ text))
    -- the operations on paths
    | _ => .ok (json, ctx)

def applyOperation (s : Json × OverrideContext) (op : ParamOperation) :
    OverrideM (Json × OverrideContext) := do
  if ← checkConditions lib s.1 s.2.json op.conditions op.logic then op.exec lib s.1 s.2
  else return s

def applyOperations (json : Json) (operations : List ParamOperation) (ctx : OverrideContext) :
    OverrideM (Json × OverrideContext) :=
  operations.foldlM (applyOperation lib) (json, ctx)

def applyOperationsLegacy (json : Json) (paramOverride : JsonObject) : OverrideM Json := do
  let request ← objectOf json
  return .obj (paramOverride.foldl (fun r e => objPut r e.1 e.2) request)

def applyParamOverride (json : Json) (paramOverride : JsonObject) (ctx : OverrideContext) :
    OverrideM (Json × OverrideContext) :=
  if paramOverride.isEmpty then .ok (json, ctx)
  else
    match tryParseOperations paramOverride with
    | some operations => do
      let legacy := buildLegacyParamOverride paramOverride
      let json ← if legacy.isEmpty then .ok json else applyOperationsLegacy json legacy
      applyOperations lib json operations ctx
    | none => do
      return (← applyOperationsLegacy json paramOverride, ctx)

/-! ## Relay information -/

structure RelayError where
  statusCode : Int
  message : String
  code : String
  type : String
  skipRetry : Bool

structure ChannelMeta where
  paramOverride : JsonObject
  headersOverride : JsonObject
  upstreamModelName : String

/-- The fields of `RelayInfo` that overrides read and write. One value serves all attempts. -/
structure OverrideInfo where
  originModelName : String
  requestURLPath : String
  requestHeaders : Headers
  isChannelTest : Bool
  retryIndex : Nat
  lastError : Option RelayError
  runtimeHeadersOverride : Headers
  useRuntimeHeadersOverride : Bool
  channelMeta : Option ChannelMeta

def getHeaderOverrideMap (info : OverrideInfo) : Headers :=
  ((info.channelMeta.map (·.headersOverride)).getD []).map fun e => (e.1, lib.sprint e.2)

def getParamOverrideMap (info : OverrideInfo) : JsonObject :=
  (info.channelMeta.map (·.paramOverride)).getD []

def getEffectiveHeaderOverride (info : OverrideInfo) : Headers :=
  if info.useRuntimeHeadersOverride then sanitizeHeaderOverrideMap info.runtimeHeadersOverride
  else sanitizeHeaderOverrideMap (getHeaderOverrideMap lib info)

def RelayError.entries (e : RelayError) : JsonObject :=
  [("last_error", .obj [("status_code", .num e.statusCode), ("message", .str e.message),
      ("code", .str e.code), ("error_code", .str e.code), ("type", .str e.type),
      ("error_type", .str e.type), ("skip_retry", .bool e.skipRetry)]),
    ("last_error_status_code", .num e.statusCode), ("last_error_message", .str e.message),
    ("last_error_code", .str e.code), ("last_error_type", .str e.type)]

def buildParamOverrideContext (info : OverrideInfo) : OverrideContext :=
  let upstream := (info.channelMeta.map (·.upstreamModelName)).getD ""
  let retry := info.retryIndex
  let models : JsonObject :=
    (if upstream ≠ "" then [("model", .str upstream), ("upstream_model", .str upstream)] else []) ++
    (if info.originModelName ≠ "" then
      ("original_model", .str info.originModelName) ::
        (if upstream = "" then [("model", .str info.originModelName)] else []) else [])
  let path : JsonObject :=
    if info.requestURLPath ≠ "" then [("request_path", .str info.requestURLPath)] else []
  { requestHeaders := buildRequestHeadersContext info.requestHeaders
    headerOverride := sanitizeHeaderOverrideMap (getEffectiveHeaderOverride lib info)
    entries := models ++ path ++
      [("retry_index", .num retry), ("is_retry", .bool (0 < retry)),
        ("retry", .obj [("index", .num retry), ("is_retry", .bool (0 < retry))])] ++
      ((info.lastError.map (·.entries)).getD []) ++
        [("is_channel_test", .bool info.isChannelTest)] }

/-- What is left of the headers in the context becomes the headers in force. -/
def syncRuntimeHeaderOverrideFromContext (info : OverrideInfo) (ctx : OverrideContext) :
    OverrideInfo :=
  { info with
    runtimeHeadersOverride := sanitizeHeaderOverrideMap ctx.headerOverride
    useRuntimeHeadersOverride := true }

def applyParamOverrideWithRelayInfo (json : Json) (info : OverrideInfo) :
    OverrideM Json × OverrideInfo :=
  if (getParamOverrideMap info).isEmpty then (.ok json, info)
  else
    match applyParamOverride lib json (getParamOverrideMap info)
        (buildParamOverrideContext lib info) with
    | .error e => (.error e, info)
    | .ok (json, ctx) => (.ok json, syncRuntimeHeaderOverrideFromContext info ctx)

/-- The channel is exchanged; the runtime headers are not touched. -/
def OverrideInfo.initChannelMeta (info : OverrideInfo) (channel : ChannelMeta) : OverrideInfo :=
  { info with channelMeta := some channel }

end Lib

end Xingkong
