import Mathlib.Algebra.Order.Ring.Unbundled.Rat
import Xingkong.Model.Schema

/-!
# JSON values and texts

Request bodies and channel overrides are JSON. A body is modelled as the value it decodes to. The
path language of the libraries the source calls, number formats and regular expressions are given
by a `JsonLib`; everything the repository writes itself is defined.
-/

namespace Xingkong

/-! ## Texts -/

/-- `strings.ToLower`, for ASCII letters. -/
def toLower (s : String) : String := String.ofList (s.toList.map Char.toLower)

/-- `strings.EqualFold`, for ASCII letters. -/
def equalFold (s t : String) : Bool := toLower s = toLower t

def toUpper (s : String) : String := String.ofList (s.toList.map Char.toUpper)

/-- `strings.HasPrefix`. -/
def startsWith (s pre : String) : Bool := pre.toList.isPrefixOf s.toList

def endsWith (s suf : String) : Bool := suf.toList.isSuffixOf s.toList

def splitText (s : String) (sep : Char) : List String := (s.toList.splitOn sep).map String.ofList

def cutAt (sub : List Char) : List Char → Option (List Char × List Char)
  | [] => if sub.isEmpty then some ([], []) else none
  | c :: cs =>
    if sub.isPrefixOf (c :: cs) then some ([], (c :: cs).drop sub.length)
    else (cutAt sub cs).map fun p => (c :: p.1, p.2)

theorem cutAt_eq {sub s before after : List Char} (h : cutAt sub s = some (before, after)) :
    s = before ++ sub ++ after := by
  fun_induction cutAt sub s generalizing before with
  | case1 hs =>
    cases h
    simpa using hs
  | case2 => cases h
  | case3 c cs hp =>
    cases h
    exact List.prefix_append_drop (List.isPrefixOf_iff_prefix.1 hp)
  | case4 c cs _ ih =>
    obtain ⟨_, hp, heq⟩ := Option.map_eq_some_iff.1 h
    cases heq
    rw [List.cons_append, List.cons_append, ← ih hp]

/-- `strings.Replace` with the count 1. -/
def replaceFirst (s old new : String) : String :=
  match cutAt old.toList s.toList with
  | some (before, after) => String.ofList (before ++ new.toList ++ after)
  | none => s

/-- `skip` characters still belong to the last place that was replaced. -/
def replaceChars (old new : List Char) (skip : Nat) : List Char → List Char
  | [] => []
  | c :: cs =>
    match skip with
    | n + 1 => replaceChars old new n cs
    | 0 =>
      if old.isPrefixOf (c :: cs) then new ++ replaceChars old new (old.length - 1) cs
      else c :: replaceChars old new 0 cs

/-- `strings.ReplaceAll` for a text that is not empty. -/
def replaceAll (s old new : String) : String :=
  String.ofList (replaceChars old.toList new.toList 0 s.toList)

def trimPrefix (s pre : String) : String :=
  if startsWith s pre then String.ofList (s.toList.drop pre.length) else s

def trimSuffix (s suf : String) : String :=
  if endsWith s suf then String.ofList (s.toList.take (s.length - suf.length)) else s

def digitsValue (ds : List Char) : Nat := ds.foldl (fun n c => 10 * n + (c.toNat - '0'.toNat)) 0

def decimal (s : String) : Option Int :=
  let digits := fun ds : List Char =>
    if ds ≠ [] ∧ ds.all Char.isDigit then some (digitsValue ds : Int) else none
  match s.toList with
  | '-' :: ds => (digits ds).map fun n => -n
  | '+' :: ds => digits ds
  | ds => digits ds

/-- `strconv.Atoi`, with the bound of an `int`. -/
def atoi (s : String) : Option Int :=
  (decimal s).filter fun n => -(2 ^ 63) ≤ n && n < 2 ^ 63

/-- `strings.Join`. -/
def joinTexts (parts : List String) (sep : String) : String :=
  String.ofList (sep.toList.intercalate (parts.map String.toList))

/-! ## Values -/

inductive Json
  | null
  | bool (b : Bool)
  | num (q : ℚ)
  | str (s : String)
  | arr (items : List Json)
  | obj (fields : List (String × Json))

/-- A decoded object, in the order in which its map is visited. -/
abbrev JsonObject := List (String × Json)

/-- `gjson.Type`. -/
inductive JsonType
  | null
  | false
  | number
  | string
  | true
  | json
  deriving DecidableEq

def JsonType.text : JsonType → String
  | null => "Null"
  | false => "False"
  | number => "Number"
  | string => "String"
  | true => "True"
  | json => "JSON"

namespace Json

def type : Json → JsonType
  | null => .null
  | bool b => if b then .true else .false
  | num _ => .number
  | str _ => .string
  | arr _ => .json
  | obj _ => .json

def str? : Json → Option String
  | str s => some s
  | _ => none

def bool? : Json → Option Bool
  | bool b => some b
  | _ => none

end Json

def objField (o : JsonObject) (key : String) : Option Json := o.lookup key

def objStr (o : JsonObject) (key : String) : Option String := (objField o key).bind Json.str?

def objBool (o : JsonObject) (key : String) : Option Bool := (objField o key).bind Json.bool?

def objPut (o : JsonObject) (key : String) (v : Json) : JsonObject :=
  o.filter (·.1 ≠ key) ++ [(key, v)]

/-- **What the libraries do**: paths into values (`gjson.Get`, `sjson.Set`, `sjson.Delete`; nothing
is an error), how numbers, lists and objects are printed, and regular expressions. -/
structure JsonLib where
  get : Json → String → Option Json
  set : Json → String → Json → Option Json
  delete : Json → String → Option Json
  encode : Json → String
  /-- `fmt.Sprintf` with the verb `%v`. -/
  format : Json → String
  parse : String → Option Json
  /-- Pattern, text and replacement; nothing if the pattern does not compile. -/
  regexReplace : String → String → String → Option String

namespace JsonLib

variable (lib : JsonLib)

/-- `Result.String`. -/
def text : Json → String
  | .null => ""
  | .bool b => if b then "true" else "false"
  | .str s => s
  | v => lib.encode v

def sprint : Json → String
  | .null => "<nil>"
  | .bool b => if b then "true" else "false"
  | .str s => s
  | v => lib.format v

end JsonLib

end Xingkong
