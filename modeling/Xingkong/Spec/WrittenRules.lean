import Xingkong.Model.CompileExpr
import Xingkong.Spec.RuleTexts

/-!
# The rules of the editor as expressions

Whatever the user enters, what the editor writes is code with string literals, its parentheses in
pairs: a product of texts in parentheses (`buildRequestRuleExpr_written`).
-/

namespace Xingkong

open Text TopLevel JsonString List

/-! ## Written texts -/

namespace Written

variable {s t : Text}

theorem append (hs : Written s) (ht : Written t) : Written (s ++ t) := by
  induction hs with
  | nil => exact ht
  | code hc _ ih => exact .code hc ih
  | @string u s _ ih =>
    rw [append_assoc]
    exact .string ih
  | parens hu _ _ ih =>
    rw [append_assoc]
    exact .parens hu ih

theorem of_code (h : t.all isCode = true) : Written t := by
  induction t with
  | nil => exact .nil
  | cons c t ih =>
    rw [all_cons, Bool.and_eq_true] at h
    exact .code h.1 (ih h.2)

theorem quote (t : Text) : Written (quote t) := by
  have := Written.string (s := t) .nil
  rwa [append_nil] at this

theorem inParens (h : Written t) : Written t.parens := by
  have := Written.parens h .nil
  rwa [append_nil] at this

theorem number (h : IsNumber t) : Written t := by
  refine of_code (all_eq_true.mpr fun c hc => ?_)
  have h1 : ∀ c ∈ ['.', 'e', 'E', '+', '-'], isCode c = true := by decide
  have := h.2 c hc
  rw [isNumberChar, Bool.or_eq_true, decide_eq_true_eq] at this
  rcases this with hd | hm
  · simp [isCode, Char.isAlphanum, hd]
  · exact h1 c hm

theorem join {sep : Text} {ws : List Text} (hsep : Written sep) (h : ∀ w ∈ ws, Written w) :
    Written (TopLevel.join sep ws) := by
  induction ws with
  | nil => exact .nil
  | cons w ws ih =>
    rw [forall_mem_cons] at h
    cases ws with
    | nil => exact h.1
    | cons v ws => exact (h.1.append hsep).append (ih h.2)

theorem newline_not_mem (h : Written t) : '\n' ∉ t := by
  induction h with
  | nil => simp
  | @code c t hc _ ih =>
    rw [mem_cons, not_or]
    refine ⟨?_, ih⟩
    rintro rfl
    exact absurd hc (by decide)
  | @string s t _ ih =>
    have h : '\n' ∉ escape s := fun hm => by
      rcases mem_escape hm with ⟨-, hp⟩ | ⟨hl, -⟩
      · exact absurd hp (by decide)
      · exact absurd hl (by decide)
    simp [JsonString.quote, h, ih]
  | parens _ _ ihs iht => simp [Text.parens, ihs, iht]

end Written

/-! ## Conditions -/

theorem written_call (name : Text) (h : name.all isCode = true) (t : Text) :
    Written (name ++ "(".toList ++ quote t ++ ")".toList) := by
  have := (Written.of_code h).append (Written.quote t).inParens
  simpa [Text.parens] using this

theorem written_exprLiteral (m : MatchMode) (v : Text) : Written (buildExprLiteral m v) := by
  unfold buildExprLiteral
  simp only
  split
  · exact .quote _
  split
  · next h => rcases h with h | h <;> rw [h] <;> exact .of_code (by decide)
  split
  · next h => exact .number (isNumber_of_literal h)
  · exact .quote _

theorem written_operator (m : MatchMode) : Written m.operator :=
  .of_code (by cases m <;> decide)

theorem written_timeCondition (f : TimeFunc) (tz : Text) (m : MatchMode) (v a b : Text) :
    Written (buildTimeConditionExpr f tz m v a b) := by
  have hcall := written_call f.name (by cases f <;> decide) tz
  have hnumber : ∀ {t : Text}, isNumericLiteral t = true → Written t := fun h =>
    .number (isNumber_of_literal h)
  have hfixed : ∀ {t : Text}, t.all isCode = true → Written t := .of_code
  unfold buildTimeConditionExpr
  simp only
  split
  · split
    · exact .nil
    · next h =>
      rw [not_or, not_not, not_not] at h
      exact ((((hcall.append (hfixed (by decide))).append (hnumber h.1)).append
        (hfixed (by decide))).append hcall |>.append (hfixed (by decide))).append (hnumber h.2)
  · split
    · exact .nil
    · next h =>
      rw [not_not] at h
      exact (((hcall.append (hfixed (by decide))).append (written_operator m)).append
        (hfixed (by decide))).append (hnumber h)

theorem written_fieldCondition (source : FieldSource) (p : Text) (m : MatchMode) (v : Text) :
    Written (buildFieldConditionExpr source p m v) := by
  have hcall := written_call source.name (by cases source <;> decide) (trim p)
  have hfixed : ∀ {t : Text}, t.all isCode = true → Written t := .of_code
  have hhas : ∀ {call lit : Text}, Written call → Written lit →
      Written ("has(".toList ++ call ++ ", ".toList ++ lit ++ ")".toList) := fun hc hl => by
    have h := (hc.append (hfixed (by decide : (", ".toList).all isCode = true))).append hl
    have := (hfixed (by decide : ("has".toList).all isCode = true)).append h.inParens
    simpa [Text.parens] using this
  have hcompared : ∀ {m : MatchMode} {call num : Text}, Written call → isNumericLiteral num = true →
      Written (call ++ " != nil && ".toList ++ call ++ " ".toList ++ m.operator ++ " ".toList ++
        num) := fun {m _ _} hc hn =>
    ((((hc.append (hfixed (by decide))).append hc |>.append (hfixed (by decide))).append
      (written_operator m)).append (hfixed (by decide))).append
      (.number (isNumber_of_literal hn))
  unfold buildFieldConditionExpr
  simp only
  split
  · exact .nil
  · cases m with
    | «exists» =>
      cases source with
      | header =>
        have := (hcall.append (hfixed (by decide : (" != ".toList).all isCode = true))).append
          (.quote [])
        simpa [quote] using this
      | param => exact hcall.append (hfixed (by decide))
    | contains =>
      have hlit := written_exprLiteral .contains v
      cases source with
      | header => exact hhas hcall hlit
      | param => exact (hcall.append (hfixed (by decide))).append (hhas hcall hlit)
    | gt | gte | lt | lte =>
      simp only
      split
      · exact .nil
      · next h =>
        rw [not_not] at h
        exact hcompared hcall h
    | eq => exact (hcall.append (hfixed (by decide))).append (written_exprLiteral .eq v)
    | range => exact (hcall.append (hfixed (by decide))).append (written_exprLiteral .range v)

theorem written_condition (c : RequestCondition) : Written (buildRequestConditionExpr c) := by
  unfold buildRequestConditionExpr
  split
  · exact written_timeCondition _ _ _ _ _ _
  · exact written_fieldCondition _ _ _ _

/-! ## Groups -/

theorem buildRuleGroupFactor_written {g : RequestRuleGroup} (h : buildRuleGroupFactor g ≠ []) :
    ∃ t, buildRuleGroupFactor g = t.parens ∧ Written t := by
  unfold buildRuleGroupFactor at h ⊢
  simp only at h ⊢
  split at h
  · exact absurd rfl h
  · next hmult =>
    rw [not_not] at hmult
    rw [if_neg (not_not.mpr hmult)]
    split at h
    · exact absurd rfl h
    · next hne =>
      rw [if_neg hne]
      have hexprs : ∀ e ∈ (g.conditions.map buildRequestConditionExpr).filter (! ·.isEmpty),
          Written e := fun e he => by
        obtain ⟨c, -, rfl⟩ := mem_map.mp (mem_of_mem_filter he)
        exact written_condition c
      generalize (g.conditions.map buildRequestConditionExpr).filter (! ·.isEmpty) = es at hexprs ⊢
      have hend : Written (" ? ".toList ++ (trim g.multiplier ++ " : 1".toList)) :=
        (Written.of_code (by decide)).append ((Written.number
          (isNumber_of_literal hmult)).append (.of_code (by decide)))
      have h : ∀ t : Text, Written t → ∃ u : Text, "(".toList ++ t ++ " ? ".toList ++
          trim g.multiplier ++ " : 1)".toList = u.parens ∧ Written u := fun t ht =>
        ⟨t ++ (" ? ".toList ++ (trim g.multiplier ++ " : 1".toList)), by simp [Text.parens],
          ht.append hend⟩
      refine h _ ?_
      split
      · exact hexprs _ (by simp)
      · refine .join (.of_code (by decide)) fun w hw => ?_
        obtain ⟨e, he, rfl⟩ := mem_map.mp hw
        split
        · have := (hexprs e he).inParens
          simpa [Text.parens] using this
        · exact hexprs e he

/-- **The rules of the editor are a product of texts in parentheses.** -/
theorem buildRequestRuleExpr_written (groups : List RequestRuleGroup) :
    ∃ ts : List Text,
      buildRequestRuleExpr groups = TopLevel.join " * ".toList (ts.map Text.parens) ∧
        ∀ t ∈ ts, Written t := by
  unfold buildRequestRuleExpr
  have hfactors : ∀ w ∈ (groups.map buildRuleGroupFactor).filter (! ·.isEmpty),
      ∃ t, w = .parens t ∧ Written t := fun w hw => by
    obtain ⟨hmem, hne⟩ := mem_filter.mp hw
    obtain ⟨g, -, rfl⟩ := mem_map.mp hmem
    exact buildRuleGroupFactor_written (by simpa using hne)
  generalize (groups.map buildRuleGroupFactor).filter (! ·.isEmpty) = ws at hfactors ⊢
  have hall : ∃ ts : List Text, ws = ts.map .parens ∧ ∀ t ∈ ts, Written t := by
    induction ws with
    | nil => exact ⟨[], rfl, by simp⟩
    | cons w ws ih =>
      rw [forall_mem_cons] at hfactors
      obtain ⟨⟨t, rfl, ht⟩, hrest⟩ := hfactors
      obtain ⟨ts, rfl, hts⟩ := ih hrest
      exact ⟨t :: ts, rfl, forall_mem_cons.mpr ⟨ht, hts⟩⟩
  obtain ⟨ts, rfl, hts⟩ := hall
  exact ⟨ts, rfl, hts⟩

end Xingkong
