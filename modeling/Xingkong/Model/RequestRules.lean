import Xingkong.Lib.JsonString
import Xingkong.Lib.TopLevel
import Mathlib.Data.List.DropRight

/-!
# Request rules and billing expressions in the editor

`web/default/src/features/pricing/lib/billing-expr.ts`: the conditions of the request-rule editor,
the texts they are written as, and the parser that reads those texts back. A text is the list of
its characters. The regular expressions are written out as readers: each takes what its pattern
matches from the front of a text, and all patterns are anchored at both ends.
-/

namespace Xingkong

abbrev Text := List Char

namespace Text

/-- What `String.prototype.trim` removes. -/
def isSpace (c : Char) : Bool :=
  c.toNat ∈ [0x09, 0x0a, 0x0b, 0x0c, 0x0d, 0x20, 0xa0, 0x1680, 0x2028, 0x2029, 0x202f, 0x205f,
    0x3000, 0xfeff] || decide (0x2000 ≤ c.toNat ∧ c.toNat ≤ 0x200a)

def trim (s : Text) : Text := (s.dropWhile isSpace).rdropWhile isSpace

/-- `String.prototype.includes`. -/
def includes (s sub : Text) : Bool := s.tails.any fun t => sub.isPrefixOf t

/-- The characters `.` does not match. -/
def isLineTerminator (c : Char) : Bool := c.toNat ∈ [0x0a, 0x0d, 0x2028, 0x2029]

def expect (fixed s : Text) : Option Text :=
  if fixed.isPrefixOf s then some (s.drop fixed.length) else none

/-- `"([^"]+)"`: the name and what follows it. -/
def quotedName (s : Text) : Option (Text × Text) := do
  let s ← expect ['"'] s
  let name := s.takeWhile (· ≠ '"')
  let rest ← expect ['"'] (s.dropWhile (· ≠ '"'))
  if name.isEmpty then none else some (name, rest)

/-- `name("argument")`. -/
def callText (name argument : Text) : Text :=
  name ++ "(\"".toList ++ argument ++ "\")".toList

/-- `name\("([^"]+)"\)`: the argument and what follows the call. -/
def readCall (name s : Text) : Option (Text × Text) := do
  let s ← expect name s
  let s ← expect "(".toList s
  let (argument, s) ← quotedName s
  let s ← expect ")".toList s
  return (argument, s)

/-- The class `[\d.eE+-]`. -/
def isNumberChar (c : Char) : Bool := c.isDigit || c ∈ ['.', 'e', 'E', '+', '-']

/-- `([\d.eE+-]+)`: the longest number text. No pattern goes on with such a character. -/
def number (s : Text) : Option (Text × Text) :=
  let digits := s.takeWhile isNumberChar
  if digits.isEmpty then none else some (digits, s.dropWhile isNumberChar)

/-- The body of `"(?:[^"\\]|\\.)*"` behind the opening quote, with its closing quote. -/
def literalBody : Text → Option (Text × Text)
  | [] => none
  | c :: s =>
    if c = '"' then some (['"'], s)
    else if c = '\\' then
      match s with
      | [] => none
      | e :: s =>
        if isLineTerminator e then none
        else (literalBody s).map fun p => (c :: e :: p.1, p.2)
    else (literalBody s).map fun p => (c :: p.1, p.2)

def literal (s : Text) : Option (Text × Text) := do
  let s ← expect ['"'] s
  let (body, rest) ← literalBody s
  return ('"' :: body, rest)

def dropSign (signs : List Char) : Text → Text
  | [] => []
  | c :: s => if c ∈ signs then s else c :: s

/-- `(?:[eE][+-]?\d+)?$`. -/
def isExponent : Text → Bool
  | [] => true
  | e :: s =>
    let digits := dropSign ['+', '-'] s
    (e == 'e' || e == 'E') && !digits.isEmpty && digits.all Char.isDigit

/-- `(?:\d+\.?\d*|\.\d+)` and the exponent. -/
def isUnsigned (s : Text) : Bool :=
  let whole := s.takeWhile Char.isDigit
  match s.dropWhile Char.isDigit with
  | [] => !whole.isEmpty
  | c :: rest =>
    if c = '.' then
      (!whole.isEmpty || !(rest.takeWhile Char.isDigit).isEmpty) &&
        isExponent (rest.dropWhile Char.isDigit)
    else !whole.isEmpty && isExponent (c :: rest)

/-- `NUMERIC_LITERAL_REGEX`. -/
def isNumericLiteral (s : Text) : Bool := isUnsigned (dropSign ['-'] s)

end Text

open Text

/-! ## Conditions -/

inductive TimeFunc where
  | hour | minute | weekday | month | day
  deriving DecidableEq

def TimeFunc.name : TimeFunc → Text
  | hour => "hour".toList
  | minute => "minute".toList
  | weekday => "weekday".toList
  | month => "month".toList
  | day => "day".toList

inductive MatchMode where
  | eq | contains | gt | gte | lt | lte | exists | range
  deriving DecidableEq

/-- The sources other than time. -/
inductive FieldSource where
  | param | header
  deriving DecidableEq

def FieldSource.name : FieldSource → Text
  | param => "param".toList
  | header => "header".toList

inductive RequestCondition where
  | time (timeFunc : TimeFunc) (timezone : Text) (mode : MatchMode)
      (value rangeStart rangeEnd : Text)
  | field (source : FieldSource) (path : Text) (mode : MatchMode) (value : Text)
  deriving DecidableEq

structure RequestRuleGroup where
  conditions : List RequestCondition
  multiplier : Text
  deriving DecidableEq

/-- `getRequestRuleMatchOptions` for the time source. -/
def timeMatchOptions : List MatchMode := [.eq, .gte, .lt, .range]

/-- `getRequestRuleMatchOptions` for the other sources. -/
def FieldSource.matchOptions : FieldSource → List MatchMode
  | header => [.eq, .contains, .exists]
  | param => [.eq, .contains, .exists, .gt, .gte, .lt, .lte]

def normalizeCondition : RequestCondition → RequestCondition
  | .time timeFunc timezone mode value rangeStart rangeEnd =>
    .time timeFunc (if timezone.isEmpty then "Asia/Shanghai".toList else timezone)
      (if mode ∈ timeMatchOptions then mode else .gte) value rangeStart rangeEnd
  | .field source path mode value =>
    .field source path (if mode ∈ source.matchOptions then mode else .eq) value

/-! ## Building -/

def buildExprLiteral (mode : MatchMode) (value : Text) : Text :=
  let text := trim value
  if mode = .contains then JsonString.quote text
  else if text = "true".toList ∨ text = "false".toList then text
  else if isNumericLiteral text then text
  else JsonString.quote text

/-- The operators of a comparison, as written in an expression. -/
def MatchMode.operator : MatchMode → Text
  | gt => ">".toList
  | gte => ">=".toList
  | lt => "<".toList
  | lte => "<=".toList
  | _ => "==".toList

def buildTimeConditionExpr (timeFunc : TimeFunc) (timezone : Text) (mode : MatchMode)
    (value rangeStart rangeEnd : Text) : Text :=
  let fn := timeFunc.name ++ "(".toList ++ JsonString.quote timezone ++ ")".toList
  if mode = .range then
    let s := trim rangeStart
    let e := trim rangeEnd
    if ¬ isNumericLiteral s ∨ ¬ isNumericLiteral e then []
    else fn ++ " >= ".toList ++ s ++ " || ".toList ++ fn ++ " < ".toList ++ e
  else
    let v := trim value
    if ¬ isNumericLiteral v then []
    else fn ++ " ".toList ++ mode.operator ++ " ".toList ++ v

def buildFieldConditionExpr (source : FieldSource) (path : Text) (mode : MatchMode)
    (value : Text) : Text :=
  let path := trim path
  if path.isEmpty then []
  else
    let sourceExpr := source.name ++ "(".toList ++ JsonString.quote path ++ ")".toList
    match mode with
    | .exists =>
      match source with
      | .header => sourceExpr ++ " != \"\"".toList
      | .param => sourceExpr ++ " != nil".toList
    | .contains =>
      let has := "has(".toList ++ sourceExpr ++ ", ".toList ++ buildExprLiteral mode value ++
        ")".toList
      match source with
      | .header => has
      | .param => sourceExpr ++ " != nil && ".toList ++ has
    | .gt | .gte | .lt | .lte =>
      let numText := trim value
      if ¬ isNumericLiteral numText then []
      else sourceExpr ++ " != nil && ".toList ++ sourceExpr ++ " ".toList ++ mode.operator ++
        " ".toList ++ numText
    | _ => sourceExpr ++ " == ".toList ++ buildExprLiteral mode value

def buildRequestConditionExpr (cond : RequestCondition) : Text :=
  match normalizeCondition cond with
  | .time timeFunc timezone mode value rangeStart rangeEnd =>
    buildTimeConditionExpr timeFunc timezone mode value rangeStart rangeEnd
  | .field source path mode value => buildFieldConditionExpr source path mode value

def buildRuleGroupFactor (group : RequestRuleGroup) : Text :=
  let multiplier := trim group.multiplier
  if ¬ isNumericLiteral multiplier then []
  else
    let condExprs := (group.conditions.map buildRequestConditionExpr).filter (! ·.isEmpty)
    if condExprs.isEmpty then []
    else
      let combined :=
        match condExprs with
        | [e] => e
        | es => TopLevel.join " && ".toList
            (es.map fun e => if includes e " || ".toList then "(".toList ++ e ++ ")".toList else e)
      "(".toList ++ combined ++ " ? ".toList ++ multiplier ++ " : 1)".toList

def buildRequestRuleExpr (groups : List RequestRuleGroup) : Text :=
  TopLevel.join " * ".toList ((groups.map buildRuleGroupFactor).filter (! ·.isEmpty))

/-! ## Parsing -/

def parenDepth (c : Char) : Int := if c = '(' then 1 else if c = ')' then -1 else 0

/-- The two splitters differ in the separator only. -/
def splitTopLevel (sep : Text) (expr : Text) : List Text :=
  ((TopLevel.split parenDepth sep 0 0 expr).map trim).filter (! ·.isEmpty)

def splitTopLevelMultiply (expr : Text) : List Text := splitTopLevel " * ".toList expr

def splitTopLevelAnd (expr : Text) : List Text := splitTopLevel " && ".toList expr

/-- The exception `JSON.parse` throws. -/
inductive Thrown where
  | syntaxError
  deriving DecidableEq

/-- `String(JSON.parse(text))` of a text that begins like an array or an object, or none if
parsing throws. No text the editor writes begins so. -/
abbrev JsonComposite := Text → Option Text

/-- What `JSON.parse` gives for a text that is neither a boolean nor a number: none if it throws,
`some none` for null, and otherwise the value as a string. -/
def jsonParse (composite : JsonComposite) (text : Text) : Option (Option Text) :=
  match text with
  | [] => none
  | c :: rest =>
    if c = '"' then (JsonString.parseBody rest).map some
    else if c = '[' ∨ c = '\x7b' then (composite text).map some
    else if text = "null".toList then some none
    else none

def parseExprLiteral (composite : JsonComposite) (raw : Text) : Option Text :=
  let text := trim raw
  if text = "true".toList ∨ text = "false".toList then some text
  else if isNumericLiteral text then some text
  else (jsonParse composite text).join

def timeFuncs : List TimeFunc := [.hour, .minute, .weekday, .month, .day]

/-- `(hour|minute|weekday|month|day)\("([^"]+)"\)`. -/
def readTimeCall (s : Text) : Option (TimeFunc × Text × Text) :=
  timeFuncs.findSome? fun f => (readCall f.name s).map fun r => (f, r)

def atEnd (s : Text) : Option Unit := if s.isEmpty then some () else none

/-- The two patterns of an overnight range, which differ in the parentheses around it. The second
call repeats the first (`\1\("\2"\)`). -/
def matchTimeRange (opening closing expr : Text) : Option RequestCondition := do
  let s ← expect opening expr
  let (timeFunc, timezone, s) ← readTimeCall s
  let s ← expect " >= ".toList s
  let (rangeStart, s) ← number s
  let s ← expect " || ".toList s
  let s ← expect (callText timeFunc.name timezone) s
  let s ← expect " < ".toList s
  let (rangeEnd, s) ← number s
  let s ← expect closing s
  atEnd s
  return .time timeFunc timezone .range [] rangeStart rangeEnd

/-- An operator between blanks: ` (==|>=|<) ` and ` (>|>=|<|<=) `. -/
def readOperator (modes : List MatchMode) (s : Text) : Option (MatchMode × Text) :=
  modes.findSome? fun m =>
    (expect (" ".toList ++ m.operator ++ " ".toList) s).map fun rest => (m, rest)

def matchTimeComparison (expr : Text) : Option RequestCondition := do
  let (timeFunc, timezone, s) ← readTimeCall expr
  let (mode, s) ← readOperator [.eq, .gte, .lt] s
  let (value, s) ← number s
  atEnd s
  return .time timeFunc timezone mode value [] []

def tryParseTimeCondition (expr : Text) : Option RequestCondition :=
  (matchTimeRange [] [] expr).or
    ((matchTimeRange "(".toList ")".toList expr).or (matchTimeComparison expr))

/-- The two patterns of an existence test. -/
def matchExists (source : FieldSource) (test expr : Text) : Option RequestCondition := do
  let (path, s) ← readCall source.name expr
  let s ← expect test s
  atEnd s
  return .field source path .exists []

/-- `has(source("path"), "…")` to the end: the path and the literal. -/
def readHas (source : FieldSource) (expr : Text) : Option (Text × Text) := do
  let s ← expect "has(".toList expr
  let (path, s) ← readCall source.name s
  let s ← expect ", ".toList s
  let (lit, s) ← literal s
  let s ← expect ")".toList s
  atEnd s
  return (path, lit)

/-- The literal of a `has` condition; `JSON.parse` may throw here. -/
def containsCondition (source : FieldSource) (path lit : Text) : Except Thrown RequestCondition :=
  match JsonString.parseBody (lit.drop 1) with
  | none => .error .syntaxError
  | some value => .ok (.field source path .contains value)

def matchParamContains (expr : Text) : Option (Text × Text) := do
  let (path, s) ← readCall FieldSource.param.name expr
  let s ← expect " != nil && ".toList s
  let (again, lit) ← readHas .param s
  if path = again then some (path, lit) else none

def matchParamComparison (expr : Text) : Option RequestCondition := do
  let (path, s) ← readCall FieldSource.param.name expr
  let s ← expect " != nil && ".toList s
  let (again, s) ← readCall FieldSource.param.name s
  let (mode, s) ← readOperator [.gt, .gte, .lt, .lte] s
  let (value, s) ← number s
  atEnd s
  if path = again then some (.field .param path mode value) else none

/-- `(param|header)("…") == (.+)`: the source, the path and the raw value. -/
def matchEquals (expr : Text) : Option (FieldSource × Text × Text) :=
  [FieldSource.param, .header].findSome? fun source => do
    let (path, s) ← readCall source.name expr
    let raw ← expect " == ".toList s
    if raw.isEmpty ∨ raw.any isLineTerminator then none else some (source, path, raw)

def tryParseRequestCondition (composite : JsonComposite) (expr : Text) :
    Except Thrown (Option RequestCondition) :=
  match tryParseTimeCondition expr with
  | some tc => .ok (some tc)
  | none =>
  match matchExists .header " != \"\"".toList expr with
  | some cond => .ok (some cond)
  | none =>
  match matchExists .param " != nil".toList expr with
  | some cond => .ok (some cond)
  | none =>
  match readHas .header expr with
  | some (path, lit) => (containsCondition .header path lit).map some
  | none =>
  match matchParamContains expr with
  | some (path, lit) => (containsCondition .param path lit).map some
  | none =>
  match matchParamComparison expr with
  | some cond => .ok (some cond)
  | none =>
  match matchEquals expr with
  | some (source, path, raw) =>
    .ok ((parseExprLiteral composite raw).map fun value => .field source path .eq value)
  | none => .ok none

/-- The loops over parts: the first part that is not read ends them. -/
def readAll {α : Type} (read : Text → Except Thrown (Option α)) :
    List Text → Except Thrown (Option (List α))
  | [] => .ok (some [])
  | part :: parts =>
    match read part with
    | .error e => .error e
    | .ok none => .ok none
    | .ok (some a) => (readAll read parts).map fun rest => rest.map (a :: ·)

/-- `^\((.+) \? ([\d.eE+-]+) : 1\)$`, read from the end: the condition and the multiplier. -/
def matchRuleFactor (part : Text) : Option (Text × Text) := do
  let s ← expect "(".toList part
  let s ← expect " : 1)".toList.reverse s.reverse
  let (multiplier, s) ← number s
  let s ← expect " ? ".toList.reverse s
  if s.isEmpty then none else some (s.reverse, multiplier.reverse)

def tryParseRuleGroupFactor (composite : JsonComposite) (part : Text) :
    Except Thrown (Option RequestRuleGroup) :=
  match matchRuleFactor part with
  | none => .ok none
  | some (conditionStr, multiplier) =>
    (readAll (fun ap => tryParseRequestCondition composite (trim ap))
      (splitTopLevelAnd conditionStr)).map fun
        | none => none
        | some conditions => if conditions.isEmpty then none else some ⟨conditions, multiplier⟩

def tryParseRequestRuleExpr (composite : JsonComposite) (expr : Text) :
    Except Thrown (Option (List RequestRuleGroup)) :=
  let trimmed := trim expr
  if trimmed.isEmpty then .ok (some [])
  else readAll (tryParseRuleGroupFactor composite) (splitTopLevelMultiply trimmed)

/-! ## Combining and splitting -/

/-- The parentheses opened so far close at the last character and not before. -/
def closesAtEnd : Int → Text → Bool
  | depth, [] => decide (depth = 0)
  | depth, c :: s =>
    if depth + parenDepth c = 0 ∧ ¬ s.isEmpty then false else closesAtEnd (depth + parenDepth c) s

def hasFullOuterParens (expr : Text) : Bool :=
  "(".toList.isPrefixOf expr && ")".toList.isSuffixOf expr && closesAtEnd 0 expr

/-- The loop of `unwrapOuterParens`; every round drops two characters at least. -/
def unwrapLoop : Nat → Text → Text
  | 0, current => current
  | n + 1, current =>
    if hasFullOuterParens current then unwrapLoop n (trim (current.drop 1).dropLast) else current

def unwrapOuterParens (expr : Text) : Text := unwrapLoop expr.length (trim expr)

structure SplitExpr where
  billingExpr : Text
  requestRuleExpr : Text
  deriving DecidableEq

/-- The parts that are read as request rules, and the others. -/
def sortParts (composite : JsonComposite) : List Text → Except Thrown (List Text × List Text)
  | [] => .ok ([], [])
  | part :: parts =>
    match tryParseRequestRuleExpr composite part with
    | .error e => .error e
    | .ok parsed =>
      (sortParts composite parts).map fun (ruleParts, baseParts) =>
        if parsed.any fun groups => !groups.isEmpty then (part :: ruleParts, baseParts)
        else (ruleParts, part :: baseParts)

def splitBillingExprAndRequestRules (composite : JsonComposite) (expr : Text) :
    Except Thrown SplitExpr :=
  let trimmed := trim expr
  if trimmed.isEmpty then .ok ⟨[], []⟩
  else
    let parts := splitTopLevelMultiply trimmed
    if parts.length ≤ 1 then .ok ⟨trimmed, []⟩
    else
      (sortParts composite parts).map fun (ruleParts, baseParts) =>
        match ruleParts, baseParts with
        | _ :: _, [base] => ⟨unwrapOuterParens base, TopLevel.join " * ".toList ruleParts⟩
        | _, _ => ⟨trimmed, []⟩

def combineBillingExpr (baseExpr requestRuleExpr : Text) : Text :=
  let base := trim baseExpr
  let rules := trim requestRuleExpr
  if base.isEmpty then []
  else if rules.isEmpty then base
  else "(".toList ++ base ++ ") * ".toList ++ rules

end Xingkong
