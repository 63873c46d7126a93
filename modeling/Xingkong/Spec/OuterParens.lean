import Xingkong.Model.CompileExpr
import Xingkong.Spec.RuleTexts

/-!
# Outer parentheses

The editor puts a base expression in parentheses and takes outer parentheses off again, with the
blanks around what they enclose. It counts the parentheses of the text, those in strings as well:
what it takes off encloses texts whose parentheses are in pairs (`Encloses`), and it is redundant
if these are expressions (`upToParens_unwrap`).
-/

namespace Xingkong

open Text TopLevel List

def Text.squeeze (t : Text) : Text := t.filter fun c => !Text.isSpace c

/-- The parentheses that are counted in the text are in pairs. -/
def Paired (t : Text) : Prop := net parenDepth t = 0 ∧ ∀ pre, pre <+: t → 0 ≤ net parenDepth pre

/-- The text `u` is enclosed by outer parentheses of `t`, one pair or several. -/
inductive Encloses : Text → Text → Prop
  | one {s : Text} : Paired s → Encloses s.parens (trim s)
  | more {s u : Text} : Paired s → Encloses (trim s) u → Encloses s.parens u

variable {s t : Text}

/-! ## Texts in parentheses -/

theorem parens_eq : t.parens = '(' :: (t ++ [')']) := rfl

theorem trim_parens : trim t.parens = t.parens := by
  refine trim_eq_self_iff.mpr ⟨fun c hc => ?_, fun c hc => ?_⟩
  · cases hc
    decide
  · rw [parens_eq, ← cons_append, List.getLast?_append_of_ne_nil _ (by simp)] at hc
    cases hc
    decide

theorem exists_blanks_trim (s : Text) : ∃ ws vs, s = ws ++ (trim s ++ vs) ∧
    (∀ c ∈ ws, Text.isSpace c = true) ∧ ∀ c ∈ vs, Text.isSpace c = true := by
  refine ⟨s.takeWhile Text.isSpace, (s.dropWhile Text.isSpace).rtakeWhile Text.isSpace, ?_,
    fun c hc => mem_takeWhile_imp hc, fun c hc => mem_rtakeWhile_imp hc⟩
  rw [trim, rdropWhile_append_rtakeWhile, takeWhile_append_dropWhile]

theorem squeeze_blanks {ws : Text} (h : ∀ c ∈ ws, Text.isSpace c = true) : squeeze ws = [] := by
  simpa [squeeze] using h

@[simp] theorem squeeze_append : squeeze (s ++ t) = squeeze s ++ squeeze t := filter_append ..

@[simp] theorem squeeze_trim : squeeze (trim s) = squeeze s := by
  obtain ⟨ws, vs, hs, hws, hvs⟩ := exists_blanks_trim s
  conv_rhs => rw [hs]
  rw [squeeze_append, squeeze_append, squeeze_blanks hws, squeeze_blanks hvs, append_nil,
    nil_append]

theorem squeeze_parens : squeeze t.parens = '(' :: (squeeze t ++ [')']) := by
  have hopen : squeeze "(".toList = ['('] := by decide
  have h : squeeze ")".toList = [')'] := by decide
  rw [Text.parens, squeeze_append, squeeze_append, hopen, h]
  rfl

theorem net_parens : net parenDepth t.parens = net parenDepth t := by
  have hopen : parenDepth '(' = 1 := by decide
  have h : parenDepth ')' = -1 := by decide
  rw [parens_eq, net_cons, net_append, net_cons, net_nil, hopen, h]
  omega

theorem Paired.not_cuts (h : Paired t) : cuts parenDepth " * ".toList 0 t.parens = false := by
  by_contra hcut
  rw [Bool.not_eq_false] at hcut
  obtain ⟨front, rest, heq, -, hnet, -⟩ := exists_split_of_cuts (by decide) (by decide) hcut
  have hopen : parenDepth '(' = 1 := by decide
  rw [parens_eq] at heq
  cases front with
  | nil => exact absurd (List.cons.inj heq).1 (by decide)
  | cons c front =>
    obtain ⟨rfl, htail⟩ := List.cons.inj heq
    -- the cut leaves a letter of the text behind the front
    have hpre : front <+: t := by
      refine prefix_of_prefix_length_le ⟨" * ".toList ++ rest, ?_⟩ (prefix_append t [')']) ?_
      · rw [htail]
        simp
      · have := congrArg List.length htail
        simp at this
        omega
    have := h.2 front hpre
    rw [net_cons, hopen] at hnet
    omega

theorem closesAtEnd_concat {d : Int} (hd : 0 < d) (h : closesAtEnd d (t ++ [')']) = true) :
    d + net parenDepth t = 1 ∧ ∀ pre, pre <+: t → 0 < d + net parenDepth pre := by
  have hclose : parenDepth ')' = -1 := by decide
  induction t generalizing d with
  | nil =>
    simp only [nil_append, closesAtEnd, hclose, isEmpty_nil, not_true_eq_false, and_false, if_false,
      decide_eq_true_eq] at h
    refine ⟨by rw [net_nil]; omega, fun pre hpre => ?_⟩
    rw [prefix_nil.mp hpre, net_nil]
    omega
  | cons c t ih =>
    rw [cons_append, closesAtEnd] at h
    split at h
    · cases h
    next hne =>
      have hne : d + parenDepth c ≠ 0 := fun h0 => hne ⟨h0, by simp⟩
      have hstep : -1 ≤ parenDepth c := by
        unfold parenDepth
        split
        · omega
        · split <;> omega
      obtain ⟨hnet, hall⟩ := ih (by omega) h
      refine ⟨by rw [net_cons]; omega, fun pre hpre => ?_⟩
      cases pre with
      | nil =>
        rw [net_nil]
        omega
      | cons e pre =>
        obtain ⟨rfl, hrest⟩ := cons_prefix_cons.mp hpre
        have := hall pre hrest
        rw [net_cons]
        omega

/-! ## Taking off outer parentheses -/

theorem inside_parens : (s.parens.drop 1).dropLast = s := by
  rw [parens_eq, drop_one, tail_cons, dropLast_concat]

theorem exists_parens_of_full (h : hasFullOuterParens t = true) : ∃ s : Text, t = s.parens := by
  have hopen : "(".toList = ['('] := by decide
  have h1 : ")".toList = [')'] := by decide
  rw [hasFullOuterParens, Bool.and_eq_true, Bool.and_eq_true, List.isPrefixOf_iff_prefix,
    isSuffixOf_iff_suffix, hopen, h1] at h
  obtain ⟨⟨⟨t', rfl⟩, ⟨u, hu⟩⟩, -⟩ := h
  cases u with
  | nil => exact absurd (List.cons.inj hu).1 (by decide)
  | cons c u =>
    obtain ⟨rfl, rfl⟩ := List.cons.inj hu
    exact ⟨u, rfl⟩

theorem paired_of_full (h : hasFullOuterParens s.parens = true) : Paired s := by
  have hopen : parenDepth '(' = 1 := by decide
  rw [hasFullOuterParens, Bool.and_eq_true, parens_eq, closesAtEnd, hopen, if_neg (by simp)] at h
  obtain ⟨hnet, hall⟩ := closesAtEnd_concat (by decide) h.2
  refine ⟨by omega, fun pre hpre => ?_⟩
  have := hall pre hpre
  omega

theorem unwrapLoop_cases (t : Text) :
    (∃ s : Text, t = s.parens ∧ Paired s ∧ ∀ k, unwrapLoop (k + 1) t = unwrapLoop k (trim s)) ∨
      ∀ k, unwrapLoop k t = t := by
  cases hfull : hasFullOuterParens t with
  | true =>
    obtain ⟨s, rfl⟩ := exists_parens_of_full hfull
    refine .inl ⟨s, rfl, paired_of_full hfull, fun k => ?_⟩
    rw [unwrapLoop, if_pos hfull, inside_parens]
  | false =>
    refine .inr fun k => ?_
    cases k with
    | zero => rfl
    | succ k => rw [unwrapLoop, if_neg (by simp [hfull])]

/-! ## Redundant parentheses -/

section

variable {Env V : Type} {lang : ExprLang Env V}

theorem strips_unwrapLoop (k : Nat) (t : Text)
    (h : ∀ s, Encloses t s → lang.meaning s ≠ 0) : lang.Strips t (unwrapLoop k t) := by
  induction k generalizing t with
  | zero => exact .refl t
  | succ k ih =>
    rcases unwrapLoop_cases t with ⟨s, rfl, hs, hstep⟩ | hstop
    · rw [hstep]
      exact .strip (h _ (.one hs)) (ih (trim s) fun u hu => h u (.more hs hu))
    · rw [hstop]
      exact .refl t

/-- **What the editor takes off is redundant** if what outer parentheses enclose are
expressions. -/
theorem upToParens_unwrap {b : Text} (hb : lang.meaning (trim b) ≠ 0)
    (h : ∀ s, Encloses (trim b) s → lang.meaning s ≠ 0) :
    lang.UpToParens (unwrapOuterParens (trim b).parens) b := by
  rw [unwrapOuterParens, trim_parens]
  rcases unwrapLoop_cases (trim b).parens with ⟨s, hs, -, hstep⟩ | hstop
  · obtain ⟨k, hk⟩ : ∃ k, (trim b).parens.length = k + 1 := ⟨_, rfl⟩
    have hsb : s = trim b := by
      rw [parens_eq, parens_eq, List.cons.injEq] at hs
      exact (append_cancel_right hs.2).symm
    rw [hk, hstep, hsb, trim_trim]
    exact ⟨_, .refl _, strips_unwrapLoop k (trim b) h⟩
  · rw [hstop]
    refine ⟨trim b, .strip ?_ ?_, .refl _⟩
    · rwa [trim_trim]
    · rw [trim_trim]
      exact .refl _

end

end Xingkong
