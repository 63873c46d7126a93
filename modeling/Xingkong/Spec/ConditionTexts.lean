import Xingkong.Spec.RequestConditions

/-!
# Conditions, written and read back

The text the editor writes for a complete condition, and what the parser makes of it. A text
that the parser reads as the condition and that begins like the written one is the written one
(`reads_front`): nothing shorter and nothing longer is taken for it. And the written text is read
back as the condition exactly when the condition is legible: its name needs no escape, and what
is trimmed or left out in writing was not there (`reads_written`).
-/

namespace Xingkong

open Text JsonString List

variable {composite : JsonComposite} {q e rest : Text} {c : RequestCondition}

/-! ## The written texts -/

/-- The condition of the editor is complete: its name is not blank and its numbers are numbers. -/
def RequestCondition.Complete : RequestCondition → Prop
  | .time _ _ m v a b =>
    if m = .range then isNumericLiteral (trim a) = true ∧ isNumericLiteral (trim b) = true
    else isNumericLiteral (trim v) = true
  | .field _ p m v =>
    trim p ≠ [] ∧ (m ∈ [MatchMode.gt, .gte, .lt, .lte] → isNumericLiteral (trim v) = true)

def writtenName (p : Text) : Text := escape (trim p)

theorem quote_callText (name t : Text) :
    name ++ "(".toList ++ quote t ++ ")".toList =
      callText name (escape t) := by
  simp [callText, quote]

variable {f : TimeFunc} {tz v a b p X Y name t raw : Text} {m : MatchMode} {x : Char}
  {source : FieldSource} {n : RequestCondition}

theorem build_range (h : (RequestCondition.time f tz .range v a b).Complete) :
    buildTimeConditionExpr f tz .range v a b =
      rangeText f (escape tz) (trim a) (trim b) := by
  obtain ⟨ha, hb⟩ : isNumericLiteral (trim a) = true ∧ isNumericLiteral (trim b) = true := h
  simp only [buildTimeConditionExpr, if_true, ha, hb, not_true_eq_false, or_self, if_false,
    quote_callText]
  simp [rangeText]

theorem build_timeComparison (hm : m ≠ .range) (h : (RequestCondition.time f tz m v a b).Complete) :
    buildTimeConditionExpr f tz m v a b =
      callText f.name (escape tz) ++ (m.spaced ++ trim v) := by
  have hv : isNumericLiteral (trim v) = true := by
    simpa only [RequestCondition.Complete, if_neg hm] using h
  simp only [buildTimeConditionExpr, if_neg hm, hv, not_true_eq_false, if_false, quote_callText]
  simp [MatchMode.spaced]

section

variable (source : FieldSource)

theorem build_exists (v : Text) (hp : trim p ≠ []) : buildFieldConditionExpr source p .exists v =
      callText source.name (writtenName p) ++ source.existsTest := by
  have hne : (trim p).isEmpty = false := by simpa using hp
  cases source with
  | header | param =>
    simp only [buildFieldConditionExpr, hne, Bool.false_eq_true, if_false]
    rw [quote_callText]
    rfl

theorem build_contains (v : Text) (hp : trim p ≠ []) :
    buildFieldConditionExpr source p .contains v =
      match source with
      | .header => hasText .header (writtenName p) (quote (trim v))
      | .param => callText FieldSource.param.name (writtenName p) ++
          (" != nil && ".toList ++ hasText .param (writtenName p) (quote (trim v))) := by
  have hne : (trim p).isEmpty = false := by simpa using hp
  cases source <;>
    simp only [buildFieldConditionExpr, hne, Bool.false_eq_true, if_false, quote_callText,
      buildExprLiteral, if_true] <;>
    simp [writtenName, hasText]

theorem build_comparison (hm : m ∈ [MatchMode.gt, .gte, .lt, .lte])
    (hp : trim p ≠ []) (hv : isNumericLiteral (trim v) = true) :
    buildFieldConditionExpr source p m v =
      callText source.name (writtenName p) ++ (" != nil && ".toList ++
        (callText source.name (writtenName p) ++ (m.spaced ++ trim v))) := by
  have hne : (trim p).isEmpty = false := by simpa using hp
  simp only [mem_cons, not_mem_nil, or_false] at hm
  rcases hm with rfl | rfl | rfl | rfl <;>
    simp only [buildFieldConditionExpr, hne, Bool.false_eq_true, if_false, quote_callText, hv,
      not_true_eq_false] <;>
    simp [writtenName, MatchMode.spaced]

theorem build_equals (v : Text) (hp : trim p ≠ []) : buildFieldConditionExpr source p .eq v =
      callText source.name (writtenName p) ++ (" == ".toList ++ buildExprLiteral .eq v) := by
  have hne : (trim p).isEmpty = false := by simpa using hp
  simp only [buildFieldConditionExpr, hne, Bool.false_eq_true, if_false, quote_callText]
  simp only [writtenName, append_assoc]

end

/-! ## Comparing texts from the front -/

theorem front_eq {e : Text} (hp : x ∉ p) (he : x ∉ e) (h : p ++ x :: X <+: e ++ x :: Y) :
    p = e ∧ X <+: Y := by
  induction p generalizing e with
  | nil =>
    cases e with
    | nil => exact ⟨rfl, (cons_prefix_cons.mp h).2⟩
    | cons y e =>
      have hxy : x = y := (cons_prefix_cons.mp h).1
      exact absurd (hxy ▸ mem_cons_self) he
  | cons z p ih =>
    cases e with
    | nil =>
      have hzx : z = x := (cons_prefix_cons.mp h).1
      exact absurd (hzx ▸ mem_cons_self) hp
    | cons y e =>
      obtain ⟨rfl, h1⟩ := cons_prefix_cons.mp h
      obtain ⟨rfl, hXY⟩ := ih (fun hm => hp (mem_cons_of_mem _ hm))
        (fun hm => he (mem_cons_of_mem _ hm)) h1
      exact ⟨rfl, hXY⟩

theorem callText_front {e : Text} (hp : '"' ∉ p) (he : '"' ∉ e)
    (h : callText name p ++ X <+: callText name e ++ Y) : p = e ∧ X <+: Y := by
  rw [callText_append, callText_append, prefix_append_right_inj, prefix_append_right_inj] at h
  obtain ⟨rfl, h1⟩ := front_eq (X := ')' :: X) (Y := ')' :: Y) hp he h
  exact ⟨rfl, (cons_prefix_cons.mp h1).2⟩

theorem writtenName_eq (h : p = writtenName p) :
    trim p = p ∧ ∀ c ∈ p, plain c = true := by
  have h1 : trim p = p := by
    rw [h]
    exact trim_escape trim_trim
  refine ⟨h1, escape_eq_self_iff.mp ?_⟩
  rw [writtenName, h1] at h
  exact h.symm

theorem mem_of_mem_trim (h : x ∈ trim p) : x ∈ p :=
  (dropWhile_sublist _).subset (trim_isPrefix.subset h)

theorem quote_not_mem_writtenName (h : '"' ∉ p) : '"' ∉ writtenName p := fun hm =>
  h (mem_of_mem_trim (quote_mem_of_mem_escape hm))

/-! ## Literals -/

theorem jsonParse_none (hx : x ∉ "\"[n".toList) (hb : x ≠ '\x7b') :
    jsonParse composite (x :: t) = none := by
  have h3 : x :: t ≠ "null".toList := by
    intro h
    exact hx ((List.cons.inj h).1 ▸ by decide)
  have h1 : x ≠ '"' := fun h => hx (h ▸ by decide)
  have h2 : x ≠ '[' := fun h => hx (h ▸ by decide)
  simp only [jsonParse, if_neg h1, h2, hb, or_self, if_false, if_neg h3]

theorem buildExprLiteral_eq : buildExprLiteral .eq v =
    if trim v = "true".toList ∨ trim v = "false".toList then trim v
    else if isNumericLiteral (trim v) then trim v else quote (trim v) := by
  rw [buildExprLiteral, if_neg (by decide)]

theorem equalsLiteral_front (htrim : trim raw = raw) (hne : raw ≠ [])
    (hv : parseExprLiteral composite raw = some v) (h : raw <+: buildExprLiteral .eq v ++ rest) :
    raw = buildExprLiteral .eq v ∧ trim v = v := by
  obtain ⟨x, raw', rfl⟩ := List.exists_cons_of_ne_nil hne
  unfold parseExprLiteral at hv
  simp only [htrim] at hv
  rw [buildExprLiteral_eq] at h ⊢
  -- A literal that is read as it stands is the value itself, and is written as it stands.
  have hbare : x :: raw' = v → (x :: raw' = "true".toList ∨ x :: raw' = "false".toList ∨
      isNumericLiteral (x :: raw') = true) → x :: raw' =
        (if trim v = "true".toList ∨ trim v = "false".toList then trim v
        else if isNumericLiteral (trim v) then trim v else quote (trim v)) ∧
      trim v = v := by
    rintro rfl hbare
    rw [htrim]
    rcases hbare with h | h | h <;> simp [h]
  split at hv
  · next hword => exact hbare (Option.some.inj hv) (hword.elim .inl fun h => .inr (.inl h))
  split at hv
  · next h1 => exact hbare (Option.some.inj hv) (.inr (.inr h1))
  · next h1 =>
    split at h
    · next hword =>
      exfalso
      have hx : x ∈ ['t', 'f'] := by
        rcases hword with ht | ht <;> rw [ht] at h <;>
          exact (List.cons_prefix_cons.mp h).1 ▸ by decide
      have hx' : ∀ x ∈ ['t', 'f'], x ∉ "\"[n".toList ∧ x ≠ '\x7b' := by decide
      rw [jsonParse_none (hx' x hx).1 (hx' x hx).2] at hv
      cases hv
    split at h
    · next hnumber' =>
      exfalso
      obtain ⟨htne, h1⟩ := isNumber_of_literal hnumber'
      obtain ⟨y, t, ht⟩ := exists_cons_of_ne_nil htne
      have hxy : x = y := by
        rw [ht] at h
        exact (cons_prefix_cons.mp h).1
      obtain ⟨-, hx, hb⟩ := isNumberChar_ne (h1 x (by rw [ht, hxy]; exact mem_cons_self))
      rw [jsonParse_none (fun hm => hx ((by decide : ∀ z ∈ "\"[n".toList,
        z ∈ " \"()[&*|n".toList) x hm)) hb] at hv
      cases hv
    · next hword hnumber' =>
      rw [quote, cons_append] at h
      obtain ⟨rfl, hbody⟩ := cons_prefix_cons.mp h
      rw [append_assoc] at hbody
      obtain ⟨w, hw, hwv⟩ := Option.map_eq_some_iff.mp (Option.join_eq_some_iff.mp hv)
      cases hwv
      obtain ⟨hfull, hvt⟩ := parseBody_front hw hbody
      rw [if_neg hword, if_neg hnumber', quote, hfull]
      exact ⟨rfl, hvt.symm⟩

theorem hasText_front (hb : literalBody b = some (b, []))
    (h : hasText source p ('"' :: b) <+: hasText source p (quote t) ++ rest) :
    b = escape t ++ ['"'] := by
  have h1 := (literalBody_append hb ")".toList).2
  simp only [hasText, append_assoc, prefix_append_right_inj] at h
  rw [quote, cons_append, cons_append] at h
  refine literalBody_front (u := ")".toList ++ rest) h1 ?_
  have h1 := (cons_prefix_cons.mp h).2
  rwa [append_assoc] at h1

/-! ## Written and read -/

def RequestCondition.written : RequestCondition → Text
  | .time f tz m v a b => buildTimeConditionExpr f tz m v a b
  | .field source p m v => buildFieldConditionExpr source p m v

open RequestCondition (time written field)

theorem buildRequestConditionExpr_eq :
    buildRequestConditionExpr c = (normalizeCondition c).written := rfl

def RequestCondition.isRange : RequestCondition → Bool
  | .time _ _ m _ _ _ => decide (m = .range)
  | .field .. => false

/-- The characters that end a line for a pattern and are not escaped in writing. -/
def isSeparator (x : Char) : Bool := x.toNat ∈ [0x2028, 0x2029]

/-- Nothing of the condition is changed or lost in writing. -/
def RequestCondition.Legible : RequestCondition → Prop
  | .time _ tz m v a b =>
    (∀ x ∈ tz, plain x = true) ∧
      if m = .range then v = [] ∧ trim a = a ∧ trim b = b else trim v = v ∧ a = [] ∧ b = []
  | .field _ p m v =>
    (∀ x ∈ p, plain x = true) ∧ trim p = p ∧
      (if m = .exists then v = [] else trim v = v) ∧ (m = .eq → ∀ x ∈ v, isSeparator x = false)

theorem writtenName_front (hp : IsName p)
    (h : callText name p ++ X <+: callText name (writtenName p) ++ Y ++ rest) :
    writtenName p = p ∧ X <+: Y ++ rest ∧ trim p = p ∧ ∀ x ∈ p, plain x = true := by
  rw [append_assoc] at h
  obtain ⟨h1, h2⟩ := callText_front hp.2 (quote_not_mem_writtenName hp.2) h
  exact ⟨h1.symm, h2, (writtenName_eq h1).1, (writtenName_eq h1).2⟩

theorem timezone_front (htz : IsName tz)
    (h : callText name tz ++ X <+: callText name (escape tz) ++ Y ++ rest) :
    escape tz = tz ∧ ∀ x ∈ tz, plain x = true := by
  rw [append_assoc] at h
  have h1 := (callText_front htz.2 (fun hm => htz.2 (quote_mem_of_mem_escape hm)) h).1
  exact ⟨h1.symm, escape_eq_self_iff.mp h1.symm⟩

theorem equalsLiteral_head (v : Text) :
    ∃ x t, buildExprLiteral .eq v = x :: t ∧ Text.isSpace x = false := by
  have h := isSpace_head_trim (s := v)
  rw [buildExprLiteral_eq]
  have h1 : trim v ≠ [] → ∃ x t, trim v = x :: t ∧ Text.isSpace x = false := fun hne => by
    obtain ⟨x, t, ht⟩ := exists_cons_of_ne_nil hne
    rw [ht] at h
    exact ⟨x, t, ht, h x rfl⟩
  split
  · next h => exact h1 (by rcases h with h | h <;> rw [h] <;> decide)
  split
  · next h => exact h1 (isNumber_of_literal h).1
  · exact ⟨'"', _, rfl, by decide⟩

theorem plain_of_isSeparator (h : isSeparator x = true) :
    plain x = true ∧ isLineTerminator x = true := by
  have hall : ∀ n ∈ [0x2028, 0x2029], plain (Char.ofNat n) = true ∧
      isLineTerminator (Char.ofNat n) = true := by decide
  rw [← Char.ofNat_toNat x]
  exact hall x.toNat (by simpa [isSeparator] using h)

theorem mem_escape_of_plain (hx : x ∈ t) (hp : plain x = true) :
    x ∈ escape t :=
  List.mem_flatMap.mpr ⟨x, hx, by rw [escapeChar_of_plain hp]; simp⟩

theorem isSeparator_of_line (h : trim v = v)
    (hline : ∀ x ∈ buildExprLiteral .eq v, isLineTerminator x = false) :
    ∀ x ∈ v, isSeparator x = false := by
  intro x hx
  by_contra hsep
  obtain ⟨h1, hterm⟩ := plain_of_isSeparator (Bool.eq_true_of_not_eq_false hsep)
  have hmem : x ∈ buildExprLiteral .eq v := by
    rw [buildExprLiteral_eq, h]
    split
    · exact hx
    split
    · exact hx
    · exact List.mem_cons_of_mem _ (List.mem_append_left _ (mem_escape_of_plain hx h1))
  rw [hline x hmem] at hterm
  cases hterm

theorem not_front_paren {m : Text}
    (hm : m ∈ ["header".toList, "param".toList, "has(".toList] ∨ ∃ f : TimeFunc, m = f.name) :
    ¬ "(".toList ++ X <+: m ++ Y ∧ ¬ m ++ Y <+: "(".toList ++ X := by
  have h : ∀ m ∈ ["header".toList, "param".toList, "has(".toList],
      ("(".toList.isPrefixOf m || m.isPrefixOf "(".toList) = false := by decide
  have h1 : ∀ f ∈ timeFuncs,
      ("(".toList.isPrefixOf f.name || f.name.isPrefixOf "(".toList) = false := by decide
  have h2 : ("(".toList.isPrefixOf m || m.isPrefixOf "(".toList) = false := by
    rcases hm with hm | ⟨f, rfl⟩
    · exact h m hm
    · exact h1 f (mem_timeFuncs f)
  exact ⟨not_front h2, not_front (by rw [Bool.or_comm]; exact h2)⟩

theorem rangeText_append (f : TimeFunc) (tz a b r : Text) :
    ∃ Y, rangeText f tz a b ++ r = f.name ++ Y := by
  rw [rangeText, List.append_assoc, callText_append]
  exact ⟨_, rfl⟩

theorem containsBody_front (hb : literalBody b = some (b, []))
    (hv : parseBody b = some v)
    (h : hasText source p ('"' :: b) <+: hasText source p (quote (trim v)) ++ rest) :
    b = escape (trim v) ++ ['"'] ∧ trim v = v := by
  have h1 := hasText_front hb h
  rw [h1, parseBody_escape] at hv
  exact ⟨h1, Option.some.inj hv⟩

/-- What is read as the value of an equality begins like a literal, so it is trimmed if the
whole text is. -/
theorem trim_of_equalsLiteral_front (hne : raw ≠ [])
    (h1 : trim (t ++ raw) = t ++ raw) (h : raw <+: buildExprLiteral .eq v ++ rest) :
    trim raw = raw := by
  refine trim_eq_self_iff.mpr ⟨fun x hx => ?_, fun x hx => ?_⟩
  · obtain ⟨y, t, hlit, hy⟩ := equalsLiteral_head v
    obtain ⟨z, raw, rfl⟩ := List.exists_cons_of_ne_nil hne
    rw [hlit] at h
    cases hx
    exact (List.cons_prefix_cons.mp h).1 ▸ hy
  · refine (trim_eq_self_iff.mp h1).2 x ?_
    rw [List.getLast?_append_of_ne_nil _ hne]
    exact hx

theorem reads_front (hc : n.Complete) (h1 : Reads composite q n) (htrim : trim q = q)
    (h : q <+: n.written ++ rest) : q = n.written ∧ n.Legible := by
  cases h1 with
  | @range f tz a b htz ha hb =>
    have hw := build_range hc
    rw [ha.trim_eq, hb.trim_eq] at hw
    simp only [written, hw] at h ⊢
    rw [rangeText, rangeText] at h
    obtain ⟨hname, hplain⟩ := timezone_front htz h
    rw [hname]
    exact ⟨rfl, hplain, by simp [ha.trim_eq, hb.trim_eq]⟩
  | @rangeParens f tz a b htz ha hb =>
    obtain ⟨Y, hY⟩ := rangeText_append f (escape tz) (trim a) (trim b) rest
    simp only [written, build_range hc, hY] at h
    exact absurd h (not_front_paren (.inr ⟨f, rfl⟩)).1
  | @timeComparison f tz v m htz hv hm =>
    have h1 : m ≠ .range := by
      rintro rfl
      exact absurd hm (by decide)
    have hw := build_timeComparison h1 hc
    rw [hv.trim_eq] at hw
    simp only [written, hw] at h ⊢
    obtain ⟨hname, hplain⟩ := timezone_front htz h
    rw [hname]
    exact ⟨rfl, hplain, by simp [h1, hv.trim_eq]⟩
  | @«exists» source p hp =>
    have hw := build_exists source [] hc.1
    simp only [written, hw] at h ⊢
    obtain ⟨hname, -, h1, hplain⟩ := writtenName_front hp h
    rw [hname]
    exact ⟨rfl, hplain, h1, by simp, by simp⟩
  | @headerContains p b v hp hb hv =>
    have hw := build_contains .header v hc.1
    simp only [written, hw] at h ⊢
    have h2 := h
    rw [hasText, hasText, List.append_assoc, List.prefix_append_right_inj] at h2
    obtain ⟨hname, -, h1, hplain⟩ := writtenName_front hp h2
    rw [hname] at h ⊢
    obtain ⟨hbody, h2⟩ := containsBody_front hb hv h
    rw [hbody]
    exact ⟨rfl, hplain, h1, by simp [h2], by simp⟩
  | @paramContains p b v hp hb hv =>
    have hw := build_contains .param v hc.1
    simp only [written, hw] at h ⊢
    obtain ⟨hname, htail, h1, hplain⟩ := writtenName_front hp h
    rw [List.append_assoc, List.prefix_append_right_inj, hname] at htail
    rw [hname]
    obtain ⟨hbody, h2⟩ := containsBody_front hb hv htail
    rw [hbody]
    exact ⟨rfl, hplain, h1, by simp [h2], by simp⟩
  | @paramComparison p v m hp hv hm =>
    have hw := build_comparison .param hm hc.1 (hc.2 hm)
    rw [hv.trim_eq] at hw
    simp only [written, hw] at h ⊢
    obtain ⟨hname, -, h1, hplain⟩ := writtenName_front hp h
    have h3 : m ≠ .exists ∧ m ≠ .eq := by
      constructor <;> rintro rfl <;> exact absurd hm (by decide)
    rw [hname]
    exact ⟨rfl, hplain, h1, by simp [h3.1, hv.trim_eq], fun he => absurd he h3.2⟩
  | @equals source p raw v hp hne hline hv =>
    have hw := build_equals source v hc.1
    simp only [written, hw] at h ⊢
    obtain ⟨hname, htail, h1, hplain⟩ := writtenName_front hp h
    rw [List.append_assoc, List.prefix_append_right_inj] at htail
    rw [← List.append_assoc] at htrim
    have h := trim_of_equalsLiteral_front hne htrim htail
    obtain ⟨hraw, h2⟩ := equalsLiteral_front h hne hv htail
    rw [hname, hraw]
    rw [hraw] at hline
    exact ⟨rfl, hplain, h1, by simp [h2], fun _ => isSeparator_of_line h2 hline⟩

theorem reads_front_parens (hc : n.Complete) (h1 : Reads composite q n)
    (h : q <+: "(".toList ++ (n.written ++ ")".toList) ++ rest) :
    q = "(".toList ++ (n.written ++ ")".toList) ∧ n.Legible ∧ n.isRange = true := by
  rw [List.append_assoc] at h
  cases h1 with
  | @range f tz a b htz ha hb =>
    obtain ⟨Y, hY⟩ := rangeText_append f tz a b []
    rw [List.append_nil] at hY
    rw [hY] at h
    exact absurd h (not_front_paren (.inr ⟨f, rfl⟩)).2
  | @rangeParens f tz a b htz ha hb =>
    have hw := build_range hc
    rw [ha.trim_eq, hb.trim_eq] at hw
    simp only [written, hw] at h ⊢
    rw [List.prefix_append_right_inj, rangeText, rangeText] at h
    simp only [List.append_assoc] at h
    rw [← List.append_assoc (callText f.name (escape tz))] at h
    obtain ⟨h1, h2⟩ := timezone_front htz h
    rw [h1]
    exact ⟨rfl, ⟨h2, by simp [ha.trim_eq, hb.trim_eq]⟩, rfl⟩
  | @timeComparison f tz v m htz hv hm =>
    rw [callText_append] at h
    exact absurd h (not_front_paren (.inr ⟨f, rfl⟩)).2
  | @«exists» source p hp =>
    rw [callText_append] at h
    exact absurd h (not_front_paren (.inl (by cases source <;> decide))).2
  | headerContains hp hb hv => exact absurd h (not_front_paren (.inl (by decide))).2
  | paramContains hp hb hv | paramComparison hp hv hm =>
    rw [callText_append] at h
    exact absurd h (not_front_paren (.inl (by decide))).2
  | @equals source p raw v hp hne h1 hv =>
    rw [callText_append] at h
    exact absurd h (not_front_paren (.inl (by cases source <;> decide))).2

/-! ## Legible conditions are read back -/

def RequestCondition.Normal : RequestCondition → Prop
  | .time _ tz m _ _ _ => tz ≠ [] ∧ m ∈ timeMatchOptions
  | .field source _ m _ => m ∈ source.matchOptions

theorem normalizeCondition_normal (c : RequestCondition) : (normalizeCondition c).Normal := by
  cases c with
  | time f tz m v a b =>
    refine ⟨?_, ?_⟩
    · split
      · decide
      · next h => simpa using h
    · split
      · next h => exact h
      · decide
  | field source p m v =>
    show (if m ∈ source.matchOptions then m else .eq) ∈ source.matchOptions
    split
    · next h => exact h
    · cases source <;> decide

theorem field_modes (h : (field source p m v).Normal) :
    m = .exists ∨ m = .contains ∨ m = .eq ∨
      (source = .param ∧ m ∈ [MatchMode.gt, .gte, .lt, .lte]) := by
  have hall : ∀ source ∈ [FieldSource.param, .header], ∀ m ∈ source.matchOptions,
      m = .exists ∨ m = .contains ∨ m = .eq ∨
        (source = .param ∧ m ∈ [MatchMode.gt, .gte, .lt, .lte]) := by decide
  exact hall source (by cases source <;> decide) m h

theorem isName_of_plain (hne : p ≠ []) (h : ∀ x ∈ p, plain x = true) : IsName p :=
  ⟨hne, fun hm => absurd (h _ hm) (by decide)⟩

theorem isSpace_of_isLineTerminator (h : isLineTerminator x = true) : Text.isSpace x = true := by
  have hall : ∀ n ∈ [0x0a, 0x0d, 0x2028, 0x2029], Text.isSpace (Char.ofNat n) = true := by decide
  rw [← Char.ofNat_toNat x]
  exact hall x.toNat (by simpa [isLineTerminator] using h)

theorem isSeparator_of_isLineTerminator (h : isLineTerminator x = true)
    (hp : plain x = true) : isSeparator x = true := by
  have hall : ∀ n ∈ [0x0a, 0x0d, 0x2028, 0x2029], plain (Char.ofNat n) = true →
      isSeparator (Char.ofNat n) = true := by decide
  rw [← Char.ofNat_toNat x] at hp ⊢
  exact hall x.toNat (by simpa [isLineTerminator] using h) hp

theorem parseExprLiteral_build (htrim : trim v = v) :
    parseExprLiteral composite (buildExprLiteral .eq v) = some v := by
  have htquote : trim (quote v) = quote v := by
    refine trim_eq_self_iff.mpr ⟨fun x hx => ?_, fun x hx => ?_⟩
    · cases hx
      decide
    · rw [quote, ← List.cons_append, List.getLast?_append_of_ne_nil _ (by simp)] at hx
      cases hx
      decide
  rw [buildExprLiteral_eq, parseExprLiteral, htrim]
  split
  · next h1 => simp only [htrim, if_pos h1]
  split
  · next h1 h2 => simp only [htrim, if_neg h1, if_pos h2]
  · have h1 : ¬ (quote v = "true".toList ∨ quote v = "false".toList) := by
      rintro (h | h) <;> exact absurd (List.cons.inj h).1 (by decide)
    have h2 : ¬ isNumericLiteral (quote v) = true := fun h =>
      absurd ((isNumber_of_literal h).2 '"' mem_cons_self) (by decide)
    simp only [htquote, if_neg h1, if_neg h2]
    simp only [quote, jsonParse, if_true, parseBody_escape]
    rfl

theorem isLineTerminator_build (h : trim v = v) (hsep : ∀ x ∈ v, isSeparator x = false) :
    ∀ x ∈ buildExprLiteral .eq v, isLineTerminator x = false := by
  intro x hx
  rw [buildExprLiteral_eq, h] at hx
  split at hx
  · next h =>
    have hall : ∀ word ∈ ["true".toList, "false".toList], ∀ x ∈ word,
        isLineTerminator x = false := by decide
    exact hall v (by simpa using h) x hx
  split at hx
  · next h1 =>
    by_contra h
    have h2 := isSpace_of_isLineTerminator (Bool.eq_true_of_not_eq_false h)
    rw [(isNumberChar_ne ((isNumber_of_literal h1).2 x hx)).1] at h2
    cases h2
  · rw [quote, mem_cons, mem_append, mem_singleton] at hx
    rcases hx with rfl | hx | rfl
    · decide
    · rcases mem_escape hx with ⟨hx, hp⟩ | ⟨hx, -⟩
      · by_contra h
        have := isSeparator_of_isLineTerminator (Bool.eq_true_of_not_eq_false h) hp
        rw [hsep x hx] at this
        cases this
      · exact (not_isLineTerminator_of_mem_escapeLetters hx).1
    · decide

theorem range_written (hnormal : (time f tz .range v a b).Normal)
    (hc : (time f tz .range v a b).Complete)
    (hl : (time f tz .range v a b).Legible) :
    v = [] ∧ IsName tz ∧ IsNumber a ∧ IsNumber b ∧
      (time f tz .range v a b).written = rangeText f tz a b := by
  obtain ⟨h, hv, ha, hb⟩ :
    (∀ x ∈ tz, plain x = true) ∧ v = [] ∧ trim a = a ∧ trim b = b := hl
  have hc' : isNumericLiteral (trim a) = true ∧ isNumericLiteral (trim b) = true := hc
  rw [ha, hb] at hc'
  refine ⟨hv, isName_of_plain hnormal.1 h, isNumber_of_literal hc'.1,
    isNumber_of_literal hc'.2, ?_⟩
  rw [written, build_range hc, escape_eq_self_iff.mpr h, ha, hb]

/-- **A legible condition is read back** from its written text. -/
theorem reads_written (hnormal : n.Normal) (hc : n.Complete) (hl : n.Legible) :
    Reads composite n.written n := by
  cases n with
  | time f tz m v a b =>
    by_cases hm : m = .range
    · subst hm
      obtain ⟨rfl, hname, ha, hb, h⟩ := range_written hnormal hc hl
      rw [h]
      exact .range hname ha hb
    · obtain ⟨hplain, h⟩ := hl
      have hescape := escape_eq_self_iff.mpr hplain
      have hname := isName_of_plain hnormal.1 hplain
      rw [if_neg hm] at h
      obtain ⟨hv, rfl, rfl⟩ := h
      have hc' : isNumericLiteral (trim v) = true := by
        simpa only [RequestCondition.Complete, if_neg hm] using hc
      rw [hv] at hc'
      rw [written, build_timeComparison hm hc, hescape, hv]
      refine .timeComparison hname (isNumber_of_literal hc') ?_
      have hall : ∀ m ∈ timeMatchOptions, m ≠ .range → m ∈ [MatchMode.eq, .gte, .lt] := by decide
      exact hall m hnormal.2 hm
  | field source p m v =>
    obtain ⟨hplain, htp, hv, hsep⟩ := hl
    have hescape : writtenName p = p := by
      rw [writtenName, htp]
      exact escape_eq_self_iff.mpr hplain
    have hname := isName_of_plain (htp ▸ hc.1) hplain
    rcases field_modes hnormal with rfl | rfl | rfl | ⟨rfl, hm⟩
    · obtain rfl : v = [] := hv
      rw [written, build_exists source [] hc.1, hescape]
      exact .exists hname
    · have hv : trim v = v := hv
      have h : literalBody (escape v ++ ['"']) =
          some (escape v ++ ['"'], []) := literalBody_escape v
      rw [written, build_contains source v hc.1, hescape, hv]
      cases source with
      | header => exact .headerContains hname h (parseBody_escape v)
      | param => exact .paramContains hname h (parseBody_escape v)
    · have hv : trim v = v := hv
      rw [written, build_equals source v hc.1, hescape]
      obtain ⟨x, t, hlit, -⟩ := equalsLiteral_head v
      exact .equals hname (by rw [hlit]; exact cons_ne_nil x t)
        (isLineTerminator_build hv (hsep rfl)) (parseExprLiteral_build hv)
    · have hne : m ≠ .exists := by
        rintro rfl
        exact absurd hm (by decide)
      rw [if_neg hne] at hv
      have hnum := hc.2 hm
      rw [written, build_comparison .param hm hc.1 hnum, hescape, hv]
      rw [hv] at hnum
      exact .paramComparison hname (isNumber_of_literal hnum) hm

end Xingkong
