import Xingkong.Spec.OuterParens
import Xingkong.Spec.RuleParts

/-!
# The parts of a combined expression

Splitting a combined expression cuts it at the stars outside parentheses and sorts the parts into
rules and the rest. A part without such a star is read as one rule or none, and a base expression
in front of rules is split off (`splitBillingExprAndRequestRules_of_parts`).
-/

namespace Xingkong

open Text TopLevel List

variable {composite : JsonComposite} {p e : Text} {rules : List Text}

/-! ## One part -/

section

variable (htrim : trim p = p) (hne : p ≠ []) (h : cuts parenDepth " * ".toList 0 p = false)
include htrim hne h

theorem tryParseRequestRuleExpr_of_sealed :
    tryParseRequestRuleExpr composite p =
      (tryParseRuleGroupFactor composite p).map (Option.map fun g => [g]) := by
  have hempty : p.isEmpty = false := by simpa using hne
  have hsplit : splitTopLevelMultiply p = [p] := by
    rw [splitTopLevelMultiply, splitTopLevel, split_of_sealed h]
    simp [htrim, hne]
  rw [tryParseRequestRuleExpr]
  simp only [htrim, hempty, Bool.false_eq_true, if_false, hsplit, readAll]
  cases tryParseRuleGroupFactor composite p with
  | error e => rfl
  | ok g => cases g <;> rfl

theorem splitTopLevelMultiply_append (hlast : ∀ c ∈ p.getLast?, c ∉ " * ".toList)
    (hnet : net parenDepth p = 0) (r : Text) :
    splitTopLevelMultiply (p ++ " * ".toList ++ r) = p :: splitTopLevelMultiply r := by
  have hempty : p.isEmpty = false := by simpa using hne
  rw [splitTopLevelMultiply, splitTopLevel, split_append (by decide) (by decide) h (by omega) hlast,
    map_cons, filter_cons, htrim, hempty]
  rfl

end

/-! ## Sorting parts -/

def IsRule (composite : JsonComposite) (part : Text) : Prop :=
  ∃ g, tryParseRequestRuleExpr composite part = .ok (some [g])

theorem sortParts_rules (h : ∀ p ∈ rules, IsRule composite p) :
    sortParts composite rules = .ok (rules, []) := by
  induction rules with
  | nil => rfl
  | cons p rules ih =>
    obtain ⟨⟨g, hg⟩, h⟩ := forall_mem_cons.mp h
    rw [sortParts, hg]
    dsimp only
    rw [ih h]
    rfl

/-- A part that is no rule, in front of rules, is the base expression. -/
theorem splitBillingExprAndRequestRules_of_parts
    (hparts : splitTopLevelMultiply (trim e) = p :: rules) (hne : rules ≠ [])
    (hp : tryParseRequestRuleExpr composite p = .ok none) (h : ∀ q ∈ rules, IsRule composite q) :
    splitBillingExprAndRequestRules composite e =
      .ok ⟨unwrapOuterParens p, join " * ".toList rules⟩ := by
  have hempty : ¬ (trim e).isEmpty = true := by
    intro h
    rw [isEmpty_iff.mp h] at hparts
    exact absurd hparts.symm (cons_ne_nil p rules)
  have hlen : ¬ (splitTopLevelMultiply (trim e)).length ≤ 1 := by
    have := length_pos_of_ne_nil hne
    rw [hparts, length_cons]
    omega
  have hsort : sortParts composite (p :: rules) = .ok (rules, [p]) := by
    rw [sortParts, hp]
    dsimp only
    rw [sortParts_rules h]
    rfl
  unfold splitBillingExprAndRequestRules
  simp only
  rw [if_neg hempty, if_neg hlen, hparts, hsort]
  obtain ⟨q, qs, rfl⟩ := exists_cons_of_ne_nil hne
  rfl

end Xingkong
