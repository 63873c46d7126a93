import Xingkong.Model.RequestRules
import Mathlib.Algebra.GroupWithZero.WithZero
import Mathlib.Algebra.Group.Pi.Basic

/-!
# Compiling a billing expression

`pkg/billingexpr/compile.go`. The version tag is read here; the rest of the text goes to the
expression library. The library is a parameter: `ExprLang` is what the backend gets from it, and
`ExprLang.Lawful` what its language definition says about texts in parentheses, products, line
comments and the limit on the size of an expression.
-/

namespace Xingkong

open Text

/-- `DefaultExprVersion`. -/
def defaultExprVersion : Nat := 1

def parseExprVersion (exprStr : Text) : Nat × Text :=
  if "v1:".toList.isPrefixOf exprStr then (1, exprStr.drop 3) else (defaultExprVersion, exprStr)

def Text.parens (t : Text) : Text := "(".toList ++ (t ++ ")".toList)

/-- What a text means: `0` if it is not an expression with a numeric result, and otherwise for
each environment the value, or `0` if running fails there. The values are multiplied exactly. -/
abbrev Meaning (Env V : Type) := WithZero (Env → WithZero V)

/-- The expression language, with the variables and functions of `compileEnvPrototypeV1` and a
numeric result. `Closed` are the texts whose strings, comments and brackets end within them. -/
structure ExprLang (Env V : Type) where
  meaning : Text → Meaning Env V
  nodes : Text → Nat
  maxNodes : Nat
  Closed : Text → Prop

variable {Env V : Type}

/-- `expr.Compile`: an expression of too many nodes is refused. -/
def ExprLang.compile (lang : ExprLang Env V) (body : Text) : Meaning Env V :=
  if lang.nodes body ≤ lang.maxNodes then lang.meaning body else 0

/-- `CompileFromCache`. There is one environment for all versions, and the cache holds what was
compiled from the same text. -/
def ExprLang.compileFromCache (lang : ExprLang Env V) (exprStr : Text) : Meaning Env V :=
  lang.compile (parseExprVersion exprStr).2

/-! ## The language definition -/

/-- The characters of names, numbers and operators, the slash of a comment apart. -/
def isCode (c : Char) : Bool := c.isAlphanum || c ∈ " .,+-=<>!?:&|_".toList

/-- Code with string literals in it and its parentheses in pairs. -/
inductive Written : Text → Prop
  | nil : Written []
  | code {c : Char} {t : Text} : isCode c = true → Written t → Written (c :: t)
  | string {s t : Text} : Written t → Written (JsonString.quote s ++ t)
  | parens {s t : Text} : Written s → Written t → Written (s.parens ++ t)

/-- A product of texts in parentheses. -/
inductive ExprLang.Product (lang : ExprLang Env V) : Text → Prop
  | group {t : Text} : lang.Closed t → Product lang t.parens
  | mul {p t : Text} : Product lang p → lang.Closed t →
      Product lang (p ++ (" * ".toList ++ t.parens))

/-- The part of the language definition that matters for combined expressions. -/
structure ExprLang.Lawful [Monoid V] (lang : ExprLang Env V) : Prop where
  /-- The empty text is no expression. -/
  empty : lang.meaning [] = 0
  /-- Blanks around an expression do not matter. -/
  blanks : ∀ {t : Text}, lang.meaning t ≠ 0 →
    lang.meaning (trim t) = lang.meaning t ∧ lang.nodes (trim t) = lang.nodes t
  /-- Strings are written as in JSON. -/
  closed : ∀ {t : Text}, Written t → lang.Closed t
  /-- Parentheses group, and are no node. -/
  group : ∀ {t : Text}, lang.Closed t →
    lang.meaning t.parens = lang.meaning t ∧ lang.nodes t.parens = lang.nodes t
  /-- `*` multiplies from left to right; its operands are numeric. -/
  product : ∀ {p t : Text}, lang.Product p → lang.Closed t →
    lang.meaning (p ++ (" * ".toList ++ t.parens)) = lang.meaning p * lang.meaning t ∧
      lang.nodes (p ++ (" * ".toList ++ t.parens)) = lang.nodes p + lang.nodes t + 1
  /-- An expression that is not closed ends in a line comment, and what follows it on the same
  line belongs to the comment. -/
  comment : ∀ {t rest : Text}, lang.meaning t ≠ 0 → ¬ lang.Closed t → '\n' ∉ rest →
    lang.meaning (t.parens ++ rest) = 0
  /-- No name is followed by a colon behind an opening parenthesis. -/
  tag : ∀ {t : Text}, lang.meaning ("(v1:".toList ++ t) = 0

/-- `y` is the expression `x` without redundant outer parentheses: what they enclose is an
expression each time. -/
inductive ExprLang.Strips (lang : ExprLang Env V) : Text → Text → Prop
  | refl (t : Text) : Strips lang t t
  | strip {s y : Text} : lang.meaning (trim s) ≠ 0 → Strips lang (trim s) y →
      Strips lang s.parens y

/-- The two texts are the same expression up to redundant outer parentheses. -/
def ExprLang.UpToParens (lang : ExprLang Env V) (x b : Text) : Prop :=
  ∃ y, lang.Strips x y ∧ lang.Strips (trim b) y

end Xingkong
