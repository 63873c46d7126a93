import Mathlib.Data.List.Sort
import Xingkong.Model.Json

/-!
# Parameter overrides

A channel may rewrite the request it is sent: its override lists operations on the body and on the
headers, each under conditions. Operations run in order; the first that fails ends the request.
Header operations work on a context that starts with the headers in force.

Follows `relay/common/override.go`; the audit lines it keeps for the log are left out.
-/

namespace Xingkong

/-! ## Operations -/

structure ConditionOperation where
  path : String
  mode : String
  value : Json
  invert : Bool
  passMissingKey : Bool

inductive OverrideMode
  | delete
  | set
  | move
  | copy
  | prepend
  | append
  | trimPrefix
  | trimSuffix
  | ensurePrefix
  | ensureSuffix
  | trimSpace
  | toLower
  | toUpper
  | replace
  | regexReplace
  | returnError
  | pruneObjects
  | setHeader
  | deleteHeader
  | copyHeader
  | moveHeader
  | passHeaders
  | syncFields
  | unknown (text : String)
  deriving DecidableEq

def OverrideMode.ofText : String → OverrideMode
  | "delete" => delete
  | "set" => set
  | "move" => move
  | "copy" => copy
  | "prepend" => prepend
  | "append" => append
  | "trim_prefix" => trimPrefix
  | "trim_suffix" => trimSuffix
  | "ensure_prefix" => ensurePrefix
  | "ensure_suffix" => ensureSuffix
  | "trim_space" => trimSpace
  | "to_lower" => toLower
  | "to_upper" => toUpper
  | "replace" => replace
  | "regex_replace" => regexReplace
  | "return_error" => returnError
  | "prune_objects" => pruneObjects
  | "set_header" => setHeader
  | "delete_header" => deleteHeader
  | "copy_header" => copyHeader
  | "move_header" => moveHeader
  | "pass_headers" => passHeaders
  | "sync_fields" => syncFields
  | text => unknown text

structure ParamOperation where
  path : String
  mode : OverrideMode
  value : Json
  keepOrigin : Bool
  source : String
  target : String
  conditions : List ConditionOperation
  logic : String

structure ParamOverrideReturnError where
  message : String
  statusCode : Int
  code : String
  type : String
  skipRetry : Bool
  deriving DecidableEq

inductive OverrideErr
  | msg (text : String)
  | library
  | returned (e : ParamOverrideReturnError)
  | sourceHeaderNotFound (name : String)
  /-- `operation … failed`, with its cause. -/
  | failed (mode : OverrideMode) (cause : OverrideErr)
  deriving DecidableEq

abbrev OverrideM := Except OverrideErr

def liftLib {α : Type} : Option α → OverrideM α
  | some a => .ok a
  | none => .error .library

/-! ## Parsing -/

def parseCondition : Json → OverrideM ConditionOperation
  | .obj o =>
    let path := (objStr o "path").getD ""
    let mode := (objStr o "mode").getD ""
    if trimSpace path = "" ∨ trimSpace mode = "" then
      .error (.msg "condition path/mode is required")
    else
      .ok { path, mode, value := (objField o "value").getD .null
            invert := (objBool o "invert").getD false
            passMissingKey := (objBool o "pass_missing_key").getD false }
  | _ => .error (.msg "condition must be object")

def fullCondition (path : String) (value : Json) : ConditionOperation :=
  { path, mode := "full", value, invert := false, passMissingKey := false }

def parseConditionOperations : Json → OverrideM (List ConditionOperation)
  | .obj o =>
    match o.filterMap fun e =>
        if trimSpace e.1 = "" then none else some (fullCondition (trimSpace e.1) e.2) with
    | [] => .error (.msg "conditions object must contain at least one key")
    | conditions => .ok conditions
  | .arr items => items.mapM parseCondition
  | _ => .error (.msg "conditions must be an array or object")

def parseOperation : Json → Option ParamOperation
  | .obj o => do
    let mode ← objStr o "mode"
    let conditions ← match objField o "conditions" with
      | some raw => (parseConditionOperations raw).toOption
      | none => some []
    some { path := (objStr o "path").getD "", mode := .ofText mode
           value := (objField o "value").getD .null
           keepOrigin := (objBool o "keep_origin").getD false
           source := (objStr o "from").getD "", target := (objStr o "to").getD ""
           conditions, logic := (objStr o "logic").getD "OR" }
  | _ => none

/-- Nothing if the override is not in the form of operations. -/
def tryParseOperations (paramOverride : JsonObject) : Option (List ParamOperation) :=
  match objField paramOverride "operations" with
  | some (.arr ops) => ops.mapM parseOperation
  | _ => none

def buildLegacyParamOverride (paramOverride : JsonObject) : JsonObject :=
  paramOverride.filter fun e => toLower (trimSpace e.1) ≠ "operations"

/-! ## Paths -/

/-- The text a match of `\.(-\d+)` captures, if one stands here. -/
def negativeIndexHere : List Char → Option (List Char)
  | '.' :: '-' :: cs =>
    match cs.takeWhile Char.isDigit with
    | [] => none
    | ds => some ('-' :: ds)
  | _ => none

def negativeIndexes : List Char → List String
  | [] => []
  | c :: cs =>
    match negativeIndexHere (c :: cs) with
    | some index => String.ofList index :: negativeIndexes cs
    | none => negativeIndexes cs

section Lib

variable (lib : JsonLib)

/-- An index from the end becomes the index from the start, where the path before its first
occurrence leads to a list that has it. -/
def resolveNegativeIndex (json : Json) (path result negIndex : String) : String :=
  let arrayPath := ((cutAt negIndex.toList path.toList).map fun p => String.ofList p.1).getD path
  match lib.get json (trimSuffix arrayPath "."), atoi negIndex with
  | some (.arr items), some index =>
    let actualIndex := (items.length : Int) + index
    if 0 ≤ actualIndex ∧ actualIndex < items.length then
      replaceFirst result ("." ++ negIndex) ("." ++ toString actualIndex)
    else result
  | _, _ => result

def processNegativeIndex (json : Json) (path : String) : String :=
  (negativeIndexes path.toList).foldl (resolveNegativeIndex lib json path) path

def collectWildcardPaths (node : Json) (segments : List String) (pre : List String) : List String :=
  match segments with
  | [] => [joinTexts pre "."]
  | segment :: rest =>
    let segment := trimSpace segment
    if segment = "" then []
    else if segment = "*" then
      match node with
      | .obj fields =>
        ((fields.map Prod.fst).insertionSort (· ≤ ·)).flatMap fun key =>
          ((objField fields key).map fun v =>
            collectWildcardPaths v rest (pre ++ [key])).getD []
      | .arr items =>
        items.zipIdx.flatMap fun e => collectWildcardPaths e.1 rest (pre ++ [toString e.2])
      | _ => []
    else
      match node with
      | .obj fields =>
        if rest = [] then [joinTexts (pre ++ [segment]) "."]
        else ((objField fields segment).map fun v =>
          collectWildcardPaths v rest (pre ++ [segment])).getD []
      | .arr items =>
        match (atoi segment).bind fun n => if 0 ≤ n then items[n.toNat]? else none with
        | none => []
        | some v =>
          if rest = [] then [joinTexts (pre ++ [segment]) "."]
          else collectWildcardPaths v rest (pre ++ [segment])
      | _ => []

/-- `resolveOperationPaths` and `expandWildcardPaths`. -/
def resolveOperationPaths (json : Json) (path : String) : List String :=
  if containsText path "*" then (collectWildcardPaths json (splitText path '.') []).eraseDups
  else [path]

/-! ## Conditions -/

def compareEqual (v target : Json) : OverrideM Bool :=
  match v, target with
  | .null, .null => .ok true
  | .null, _ => .ok false
  | _, .null => .ok false
  | .bool a, .bool b => .ok (a = b)
  | .num a, .num b => .ok (a = b)
  | .str a, .str b => .ok (a = b)
  | v, target =>
    if v.type = target.type then .ok (lib.text v = lib.text target)
    else .error (.msg ("compare for different types, got " ++ v.type.text ++ " and " ++
      target.type.text))

def compareNumeric (holds : ℚ → ℚ → Bool) (v target : Json) : OverrideM Bool :=
  match v, target with
  | .num a, .num b => .ok (holds a b)
  | _, _ => .error (.msg ("numeric comparison requires both values to be numbers, got " ++
      v.type.text ++ " and " ++ target.type.text))

def compareGjsonValues (v target : Json) (mode : String) : OverrideM Bool :=
  match mode with
  | "full" => compareEqual lib v target
  | "prefix" => .ok (startsWith (lib.text v) (lib.text target))
  | "suffix" => .ok (endsWith (lib.text v) (lib.text target))
  | "contains" => .ok (containsText (lib.text v) (lib.text target))
  | "gt" => compareNumeric (fun a b => a > b) v target
  | "gte" => compareNumeric (fun a b => a ≥ b) v target
  | "lt" => compareNumeric (fun a b => a < b) v target
  | "lte" => compareNumeric (fun a b => a ≤ b) v target
  | mode => .error (.msg ("unsupported comparison mode: " ++ mode))

/-- The body is asked first, then the context. -/
def checkSingleCondition (json context : Json) (condition : ConditionOperation) :
    OverrideM Bool :=
  match (lib.get json (processNegativeIndex lib json condition.path)).orElse fun _ =>
      lib.get context condition.path with
  | none => .ok condition.passMissingKey
  | some v => do
    let result ← compareGjsonValues lib v condition.value (toLower condition.mode)
    return result ^^ condition.invert

def checkConditions (json context : Json) (conditions : List ConditionOperation) (logic : String) :
    OverrideM Bool :=
  if conditions.isEmpty then .ok true
  else do
    let results ← conditions.mapM (checkSingleCondition lib json context)
    return if toUpper logic = "AND" then results.all id else results.any id

/-! ## The body -/

def typeOf (v : Option Json) : JsonType := (v.map Json.type).getD .null

def unsupportedType (v : Option Json) : OverrideErr :=
  .msg ("operation not supported for type: " ++ (typeOf v).text)

def deleteValue (json : Json) (path : String) : OverrideM Json :=
  if trimSpace path = "" then .ok json else liftLib (lib.delete json path)

def setValue (json : Json) (path : String) (value : Json) (keepOrigin : Bool) : OverrideM Json :=
  if keepOrigin ∧ (lib.get json path).isSome then .ok json else liftLib (lib.set json path value)

def copyValue (json : Json) (source target : String) : OverrideM Json :=
  match lib.get json source with
  | none => .error (.msg ("source path does not exist: " ++ source))
  | some v => liftLib (lib.set json target v)

def moveValue (json : Json) (source target : String) : OverrideM Json := do
  liftLib (lib.delete (← copyValue lib json source target) source)

def modifyArray (current : List Json) (value : Json) (isPrepend : Bool) : Json :=
  let added := match value with
    | .arr items => items
    | v => [v]
  .arr (if isPrepend then added ++ current else current ++ added)

def objectOf : Json → OverrideM JsonObject
  | .obj o => .ok o
  | .null => .ok []
  | _ => .error .library

def mergeObjects (current : JsonObject) (value : Json) (keepOrigin : Bool) : OverrideM Json := do
  let added ← objectOf value
  return .obj (added.foldl (fun result e =>
    if !keepOrigin || (typeOf (objField result e.1) = .null : Bool) then objPut result e.1 e.2
    else result) current)

/-- `modifyValue`: append to a list or a text, or merge into an object. -/
def modifyValue (json : Json) (path : String) (value : Json) (keepOrigin isPrepend : Bool) :
    OverrideM Json :=
  match lib.get json path with
  | some (.arr items) => liftLib (lib.set json path (modifyArray items value isPrepend))
  | some (.str s) =>
    let added := lib.sprint value
    liftLib (lib.set json path (.str (if isPrepend then added ++ s else s ++ added)))
  | some (.obj o) => do
    liftLib (lib.set json path (← mergeObjects o value keepOrigin))
  | v => .error (unsupportedType v)

def onText (json : Json) (path : String) (f : String → OverrideM String) : OverrideM Json :=
  match lib.get json path with
  | some (.str s) => do
    liftLib (lib.set json path (.str (← f s)))
  | v => .error (unsupportedType v)

def trimStringValue (json : Json) (path : String) (value : Json) (prefixed : Bool) :
    OverrideM Json :=
  onText lib json path fun s =>
    if value.type = .null then .error (.msg "trim value is required")
    else .ok (if prefixed then trimPrefix s (lib.sprint value) else trimSuffix s (lib.sprint value))

/-- A text that has the affix already is not written again. -/
def ensureStringAffix (json : Json) (path : String) (value : Json) (prefixed : Bool) :
    OverrideM Json :=
  match lib.get json path with
  | some (.str s) =>
    if value.type = .null ∨ lib.sprint value = "" then .error (.msg "ensure value is required")
    else if prefixed then
      if startsWith s (lib.sprint value) then .ok json
      else liftLib (lib.set json path (.str (lib.sprint value ++ s)))
    else
      if endsWith s (lib.sprint value) then .ok json
      else liftLib (lib.set json path (.str (s ++ lib.sprint value)))
  | v => .error (unsupportedType v)

def transformStringValue (json : Json) (path : String) (f : String → String) : OverrideM Json :=
  onText lib json path fun s => .ok (f s)

def replaceStringValue (json : Json) (path source target : String) : OverrideM Json :=
  onText lib json path fun s =>
    if source = "" then .error (.msg "replace from is required")
    else .ok (replaceAll s source target)

def regexReplaceStringValue (json : Json) (path pattern replacement : String) : OverrideM Json :=
  onText lib json path fun s =>
    if pattern = "" then .error (.msg "regex pattern is required")
    else liftLib (lib.regexReplace pattern s replacement)

structure PruneObjectsOptions where
  conditions : List ConditionOperation
  logic : String
  recursive : Bool

def parsePruneObjectsOptions : Json → OverrideM PruneObjectsOptions
  | .null => .error (.msg "prune_objects value is required")
  | .str s =>
    if trimSpace s = "" then .error (.msg "prune_objects value is required")
    else .ok { conditions := [fullCondition "type" (.str (trimSpace s))], logic := "AND"
               recursive := true }
  | .obj o => do
    let logic := match objStr o "logic" with
      | some l => if trimSpace l = "" then "AND" else l
      | none => "AND"
    let listed ← match objField o "conditions" with
      | some raw => parseConditionOperations raw
      | none => .ok []
    let here ← match objField o "where" with
      | some (.obj fields) => .ok (fields.filterMap fun e =>
          if trimSpace e.1 = "" then none else some (fullCondition (trimSpace e.1) e.2))
      | some _ => .error (.msg "prune_objects where must be object")
      | none => .ok []
    let typed := ((objField o "type").map (fullCondition "type")).toList
    match listed ++ here ++ typed with
    | [] => .error (.msg "prune_objects conditions are required")
    | conditions => .ok { conditions, logic, recursive := (objBool o "recursive").getD true }
  | _ => .error (.msg "prune_objects value must be string or object")

mutual

/-- What is left of a node; nothing if it is dropped. -/
def pruneObjectsNode (options : PruneObjectsOptions) (context : Json) (isRoot : Bool) :
    Json → OverrideM (Option Json)
  | .arr items => do
    return some (.arr (← pruneObjectsItems options context items))
  | .obj fields => do
    let shouldDrop ← checkConditions lib (.obj fields) context options.conditions options.logic
    if shouldDrop && !isRoot then return none
    if !options.recursive then return some (.obj fields)
    return some (.obj (← pruneObjectsFields options context fields))
  | v => .ok (some v)

def pruneObjectsItems (options : PruneObjectsOptions) (context : Json) :
    List Json → OverrideM (List Json)
  | [] => .ok []
  | v :: rest => do
    let next ← pruneObjectsNode options context false v
    return next.toList ++ (← pruneObjectsItems options context rest)

def pruneObjectsFields (options : PruneObjectsOptions) (context : Json) :
    List (String × Json) → OverrideM (List (String × Json))
  | [] => .ok []
  | (k, v) :: rest => do
    let next ← pruneObjectsNode options context false v
    return (next.map fun v => (k, v)).toList ++ (← pruneObjectsFields options context rest)

end

def pruneObjects (json : Json) (path : String) (context : Json) (value : Json) :
    OverrideM Json := do
  let options ← parsePruneObjectsOptions value
  if path = "" then
    return (← pruneObjectsNode lib options context true json).getD json
  match lib.get json path with
  | none => return json
  | some node =>
    liftLib (lib.set json path ((← pruneObjectsNode lib options context true node).getD node))

end Lib

end Xingkong
