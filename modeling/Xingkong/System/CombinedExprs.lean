import Xingkong.System.RequestRuleRoundTrip
import Xingkong.Spec.WrittenRules
import Xingkong.Spec.CombinedParts
import Mathlib.Data.List.Chain
import Mathlib.Algebra.Field.Rat
import Mathlib.Algebra.Ring.Pi
import Mathlib.Algebra.Ring.WithZero

/-!
# Combined billing expressions

The editor keeps a base expression and the request rules apart and stores their product as one
text, `(base) * rules`, for the backend to compile and for itself to split again. The backend takes
that text for the product unless a version tag or a line comment in the base expression stands in
the way (`compile_combined_iff`). It is split into its two halves if the rules are read back and
the text of the base expression has its parentheses in pairs and does not end like a rule
(`split_combined`).
-/

namespace Xingkong

open Text TopLevel List

variable {Env V : Type} [Monoid V] {lang : ExprLang Env V} {t p : Text} {ts : List Text} {c : Char}

/-! ## Products in the expression language -/

def productText (ts : List Text) : Text := ts.flatMap fun t => " * ".toList ++ t.parens

theorem join_parens :
    join " * ".toList ((t :: ts).map Text.parens) = t.parens ++ productText ts := by
  induction ts generalizing t with
  | nil => simp [join, productText]
  | cons u ts ih =>
    rw [map_cons, map_cons, join_cons_cons, ← map_cons, ih]
    simp [productText]

theorem product_meaning (hlang : lang.Lawful) (hp : lang.Product p)
    (hts : ∀ t ∈ ts, lang.Closed t) :
    lang.meaning (p ++ productText ts) = lang.meaning p * (ts.map lang.meaning).prod ∧
      lang.nodes (p ++ productText ts) = lang.nodes p + (ts.map fun t => lang.nodes t + 1).sum := by
  induction ts generalizing p with
  | nil => simp [productText]
  | cons t ts ih =>
    rw [forall_mem_cons] at hts
    obtain ⟨h, hnd⟩ := hlang.product hp hts.1
    obtain ⟨ihm, ihn⟩ := ih (.mul hp hts.1) hts.2
    have h1 : p ++ productText (t :: ts) =
        p ++ (" * ".toList ++ t.parens) ++ productText ts := by
      simp [productText]
    rw [h1, ihm, ihn, h, hnd, map_cons, prod_cons, map_cons, sum_cons, mul_assoc]
    exact ⟨rfl, by omega⟩

theorem times_meaning (hlang : lang.Lawful) {s : Text} (hs : lang.Closed s)
    (ht : lang.Closed t) (hts : ∀ t ∈ ts, lang.Closed t) :
    lang.meaning (s.parens ++ " * ".toList ++ (t.parens ++ productText ts)) =
        lang.meaning s * lang.meaning (t.parens ++ productText ts) ∧
      lang.nodes (s.parens ++ " * ".toList ++ (t.parens ++ productText ts)) =
        lang.nodes s + lang.nodes (t.parens ++ productText ts) + 1 := by
  have hall : ∀ u ∈ t :: ts, lang.Closed u := forall_mem_cons.mpr ⟨ht, hts⟩
  obtain ⟨hm, hn⟩ := product_meaning hlang (.group hs) hall
  obtain ⟨hm', hn'⟩ := product_meaning hlang (.group ht) hts
  have h : s.parens ++ " * ".toList ++ (t.parens ++ productText ts) =
      s.parens ++ productText (t :: ts) := by
    simp [productText]
  rw [h, hm, hn, hm', hn', (hlang.group hs).1, (hlang.group hs).2, (hlang.group ht).1,
    (hlang.group ht).2, map_cons, prod_cons, map_cons, sum_cons]
  exact ⟨rfl, by omega⟩

/-! ## Rules -/

def IsRules (r : Text) : Prop :=
  ∃ t ts, r = t.parens ++ productText ts ∧ Written t ∧ ∀ t ∈ ts, Written t

theorem isRules_of_build {groups : List RequestRuleGroup} (h : buildRequestRuleExpr groups ≠ []) :
    IsRules (buildRequestRuleExpr groups) := by
  obtain ⟨ts, hr, hts⟩ := buildRequestRuleExpr_written groups
  cases ts with
  | nil =>
    rw [hr] at h
    exact absurd rfl h
  | cons t ts =>
    rw [forall_mem_cons] at hts
    exact ⟨t, ts, by rw [hr, join_parens], hts.1, hts.2⟩

theorem edged_parens (t : Text) : Edged t.parens := edged_enclosed t

namespace IsRules

variable {r : Text}

theorem edged (h : IsRules r) : Edged r := by
  obtain ⟨t, ts, rfl, -, -⟩ := h
  rw [← join_parens]
  refine edged_join (fun w hw => ?_) (by simp)
  obtain ⟨u, -, rfl⟩ := mem_map.mp hw
  exact edged_parens u

theorem newline_not_mem (h : IsRules r) : '\n' ∉ r := by
  obtain ⟨t, ts, rfl, ht, hts⟩ := h
  have h1 : '\n' ∉ productText ts := fun hm => by
    obtain ⟨u, hu, hmem⟩ := mem_flatMap.mp hm
    rcases mem_append.mp hmem with h | h
    · exact absurd h (by decide)
    · exact (hts u hu).inParens.newline_not_mem h
  simp [ht.inParens.newline_not_mem, h1]

end IsRules

/-! ## Accepted by the backend -/

theorem parseExprVersion_of_head (hc : c ≠ 'v') :
    (parseExprVersion (c :: t)).2 = c :: t := by
  have hno : "v1:".toList.isPrefixOf (c :: t) = false := by
    by_contra h
    rw [Bool.not_eq_false, List.isPrefixOf_iff_prefix] at h
    exact hc (cons_prefix_cons.mp h).1.symm
  rw [parseExprVersion, hno]
  rfl

theorem tag_isPrefix_trim {b : Text} (h : "v1:".toList <+: b) : "v1:".toList <+: trim b := by
  have h1 : ∀ c ∈ b.head?, Text.isSpace c = false := by
    obtain ⟨s, rfl⟩ := h
    rintro c hc
    cases hc
    decide
  obtain ⟨ws, hws, hblank⟩ := exists_trim_append h1
  have h1 : trim b <+: b := ⟨ws, hws.symm⟩
  rcases List.prefix_or_prefix_of_prefix h h1 with htag | h1
  · exact htag
  · obtain ⟨s, hs⟩ := h
    obtain ⟨e, he⟩ := h1
    have hs := hs.trans hws
    rw [← he, append_assoc, append_cancel_left_eq] at hs
    cases e with
    | nil =>
      rw [append_nil] at he
      exact he ▸ prefix_rfl
    | cons c e =>
      have hc : Text.isSpace c = true := hblank c (by rw [← hs]; exact mem_cons_self)
      have hlt : ∀ c ∈ "v1:".toList, Text.isSpace c = false := by decide
      rw [hlt c (by rw [← he]; simp)] at hc
      cases hc

section

variable (hlang : lang.Lawful) {b r : Text} (hb : lang.compileFromCache b ≠ 0) (hr : IsRules r)

omit [Monoid V] in
theorem compile_ne_zero (h : lang.compile t ≠ 0) :
    lang.nodes t ≤ lang.maxNodes ∧ lang.meaning t ≠ 0 ∧ lang.compile t = lang.meaning t := by
  unfold ExprLang.compile at h ⊢
  split at h
  · next hn =>
    rw [if_pos hn]
    exact ⟨hn, h, rfl⟩
  · exact absurd rfl h

omit [Monoid V] in
theorem compileFromCache_of_untagged (h : ¬ "v1:".toList <+: t) :
    lang.compileFromCache t = lang.compile t := by
  have hno : "v1:".toList.isPrefixOf t = false := by
    rw [← Bool.not_eq_true, List.isPrefixOf_iff_prefix]
    exact h
  rw [ExprLang.compileFromCache, parseExprVersion, hno]
  rfl

include hlang hb in
theorem base_meaning (h : ¬ "v1:".toList <+: trim b) :
    lang.meaning (trim b) ≠ 0 ∧ lang.compileFromCache b = lang.meaning (trim b) := by
  have hb' : ¬ "v1:".toList <+: b := fun htag => h (tag_isPrefix_trim htag)
  rw [compileFromCache_of_untagged hb'] at hb ⊢
  obtain ⟨-, hm, heq⟩ := compile_ne_zero hb
  rw [(hlang.blanks hm).1]
  exact ⟨hm, heq⟩

include hlang hb in
theorem base_ne_nil : trim b ≠ [] := by
  intro hnil
  have htag : ¬ "v1:".toList <+: trim b := by
    rw [hnil]
    decide
  have := (base_meaning hlang hb htag).1
  rw [hnil, hlang.empty] at this
  exact this rfl

include hlang hb hr in
theorem combineBillingExpr_eq :
    combineBillingExpr b r = (trim b).parens ++ " * ".toList ++ r := by
  have h : (trim b).isEmpty = false := by simpa using base_ne_nil hlang hb
  have h1 : r.isEmpty = false := by simpa using hr.edged.ne_nil
  simp only [combineBillingExpr, h, hr.edged.trim_eq, h1, Bool.false_eq_true, if_false]
  simp [Text.parens]

include hlang hb hr in
/-- **When the backend takes the combined expression for the product.** -/
theorem compile_combined_iff :
    (lang.compileFromCache (combineBillingExpr b r) ≠ 0 ∧
      lang.compileFromCache (combineBillingExpr b r) =
        lang.compileFromCache b * lang.compileFromCache r) ↔
      ¬ "v1:".toList <+: trim b ∧ lang.Closed (trim b) ∧ lang.compileFromCache r ≠ 0 ∧
        lang.nodes (trim b) + lang.nodes r + 1 ≤ lang.maxNodes := by
  have hcombined : lang.compileFromCache (combineBillingExpr b r) =
      lang.compile ((trim b).parens ++ " * ".toList ++ r) := by
    rw [combineBillingExpr_eq hlang hb hr, ExprLang.compileFromCache]
    exact congrArg lang.compile (parseExprVersion_of_head (by decide))
  have hnewline : '\n' ∉ " * ".toList ++ r := by
    simp [hr.newline_not_mem]
  have hr' : lang.compileFromCache r = lang.compile r := by
    obtain ⟨t, ts, rfl, -, -⟩ := hr
    exact congrArg lang.compile (parseExprVersion_of_head (by decide))
  obtain ⟨t, ts, rfl, ht, hts⟩ := hr
  rw [hcombined, hr']
  constructor
  · rintro ⟨haccepted, hproduct⟩
    obtain ⟨hn, hm, -⟩ := compile_ne_zero haccepted
    have htag : ¬ "v1:".toList <+: trim b := by
      rintro ⟨s, hs⟩
      refine hm ?_
      rw [← hs]
      exact hlang.tag
    have hclosed : lang.Closed (trim b) := by
      by_contra hopen
      rw [append_assoc] at hm
      exact hm (hlang.comment (base_meaning hlang hb htag).1 hopen hnewline)
    obtain ⟨-, hnd⟩ := times_meaning hlang hclosed (hlang.closed ht)
      fun u hu => hlang.closed (hts u hu)
    refine ⟨htag, hclosed, ?_, by rwa [hnd] at hn⟩
    intro h
    rw [hproduct, h, mul_zero] at haccepted
    exact haccepted rfl
  · rintro ⟨htag, hclosed, h, h1⟩
    obtain ⟨h1, hbeq⟩ := base_meaning hlang hb htag
    obtain ⟨-, h2, hreq⟩ := compile_ne_zero h
    obtain ⟨h, hnd⟩ := times_meaning hlang hclosed (hlang.closed ht)
      fun u hu => hlang.closed (hts u hu)
    have h3 : lang.compile ((trim b).parens ++ " * ".toList ++ (t.parens ++ productText ts)) =
        lang.meaning (trim b) * lang.meaning (t.parens ++ productText ts) := by
      rw [ExprLang.compile, if_pos (by omega), h]
    rw [h3, hbeq, hreq]
    exact ⟨mul_ne_zero h1 h2, rfl⟩

end

/-! ## Splitting -/

section

variable {composite : JsonComposite} {groups : List RequestRuleGroup}

open RequestRuleGroup (asWritten written)

/-- Rules that are read back are the parts of their product. -/
theorem rules_parts (composite : JsonComposite) (hne : groups ≠ [])
    (hentered : ∀ g ∈ groups, g.Entered)
    (hrec : ∀ g ∈ groups, (normalizeGroup g).Recoverable)
    (hj : Joints parenDepth " * ".toList (groups.map fun g => (normalizeGroup g).outline)) :
    ∃ parts, parts ≠ [] ∧ join " * ".toList parts = buildRequestRuleExpr groups ∧
      splitTopLevelMultiply (buildRequestRuleExpr groups) = parts ∧
      ∀ p ∈ parts, IsRule composite p := by
  have hnorm := map_normalizeGroup fun g hg => (hrec g hg).multiplier
  have hcomplete := complete_asWritten hentered
  have hrec' : ∀ g ∈ groups.map asWritten, g.Recoverable := by
    rw [← hnorm]
    exact forall_mem_map.mpr hrec
  have hjoints : Joints parenDepth " * ".toList ((groups.map asWritten).map written) := by
    rw [joints_written_iff hcomplete hrec', ← hnorm, map_map]
    exact hj
  rw [buildRequestRuleExpr_eq hentered]
  generalize groups.map asWritten = gs at *
  have hgs : gs ≠ [] := by
    rintro rfl
    exact hne (map_eq_nil_iff.mp hnorm)
  have hedged : ∀ w ∈ gs.map written, Edged w := forall_mem_map.mpr fun _ _ => edged_group
  refine ⟨gs.map written, by simpa using hgs, rfl, ?_, forall_mem_map.mpr fun g hg => ⟨g, ?_⟩⟩
  · rw [splitTopLevelMultiply, splitTopLevel, split_join (by decide) (by decide)
      (by simpa using hgs) (fun w hw => (hedged w hw).not_star) hjoints,
      map_congr_left fun w hw => (hedged w hw).trim_eq, map_id', filter_eq_self]
    intro w hw
    simpa using (hedged w hw).ne_nil
  · have hmem := mem_map_of_mem (f := written) hg
    rw [tryParseRequestRuleExpr_of_sealed (hedged _ hmem).trim_eq (hedged _ hmem).ne_nil
      (hjoints.sealed _ hmem),
      (tryParseRuleGroupFactor_iff_recoverable (hcomplete g hg)).mpr (hrec' g hg)]
    rfl

/-- What keeps a combined expression apart, in terms of the texts: the parentheses of the base
expression are in pairs, those that enclose it enclose expressions, and it does not end like a
rule; and the rules are such that they are read back. -/
structure ExprLang.SplitsOff (lang : ExprLang Env V) (b : Text) (groups : List RequestRuleGroup) :
    Prop where
  untagged : ¬ "v1:".toList <+: trim b
  paired : Paired (trim b)
  outer : ∀ s, Encloses (trim b) s → lang.meaning s ≠ 0
  noRule : ¬ ∃ front number, IsNumber number ∧
    trim b = front ++ (" ? ".toList ++ (number ++ " : 1".toList))
  entered : ∀ g ∈ groups, g.Entered
  recoverable : ∀ g ∈ groups, (normalizeGroup g).Recoverable
  joints : Joints parenDepth " * ".toList (groups.map fun g => (normalizeGroup g).outline)

variable {b : Text}

theorem tryParseRequestRuleExpr_base (composite : JsonComposite) (hpaired : Paired (trim b))
    (h : ¬ ∃ front number, IsNumber number ∧
      trim b = front ++ (" ? ".toList ++ (number ++ " : 1".toList))) :
    tryParseRequestRuleExpr composite (trim b).parens = .ok none := by
  rw [tryParseRequestRuleExpr_of_sealed trim_parens (edged_parens _).ne_nil hpaired.not_cuts,
    tryParseRuleGroupFactor]
  cases hmatch : matchRuleFactor (trim b).parens with
  | none => rfl
  | some x =>
    obtain ⟨front, number⟩ := x
    obtain ⟨heq, -, hnumber⟩ := matchRuleFactor_eq_some.mp hmatch
    refine absurd ⟨front, number, hnumber, ?_⟩ h
    have hend : " : 1)".toList = " : 1".toList ++ [')'] := by decide
    rw [parens_eq, hend] at heq
    have htail : trim b ++ [')'] =
        front ++ (" ? ".toList ++ (number ++ " : 1".toList)) ++ [')'] := by
      simpa using (List.cons.inj heq).2
    exact append_cancel_right htail

omit [Monoid V] in
/-- **A combined expression is split into its two halves.** -/
theorem split_combined (composite : JsonComposite) (hb : lang.meaning (trim b) ≠ 0)
    (hne : groups ≠ []) (hr : Edged (buildRequestRuleExpr groups)) (h : lang.SplitsOff b groups) :
    ∃ x, splitBillingExprAndRequestRules composite
        ((trim b).parens ++ " * ".toList ++ buildRequestRuleExpr groups) =
      .ok ⟨x, buildRequestRuleExpr groups⟩ ∧ lang.UpToParens x b := by
  obtain ⟨parts, hparts, hjoin, hsplit, hrules⟩ :=
    rules_parts composite hne h.entered h.recoverable h.joints
  have hedged := edged_parens (trim b)
  have htrim : trim ((trim b).parens ++ " * ".toList ++ buildRequestRuleExpr groups) =
      (trim b).parens ++ " * ".toList ++ buildRequestRuleExpr groups := by
    rw [append_assoc]
    exact (hedged.append hr).trim_eq
  refine ⟨_, ?_, upToParens_unwrap hb h.outer⟩
  have hcut : splitTopLevelMultiply
      (trim ((trim b).parens ++ " * ".toList ++ buildRequestRuleExpr groups)) =
        (trim b).parens :: parts := by
    rw [htrim, splitTopLevelMultiply_append trim_parens hedged.ne_nil h.paired.not_cuts
      hedged.not_star (net_parens.trans h.paired.1), hsplit]
  rw [splitBillingExprAndRequestRules_of_parts hcut hparts
    (tryParseRequestRuleExpr_base composite h.paired h.noRule) hrules, hjoin]

end

/-- **Combining a base expression with the rules of the editor** gives their product exactly if the
base expression has no version tag and is closed, the backend takes the rules as well and both are
not too large together; and splitting undoes it if the texts do not stand in the way. -/
theorem combined_expr_splits (hlang : lang.Lawful) (composite : JsonComposite) (b : Text)
    (groups : List RequestRuleGroup) (hb : lang.compileFromCache b ≠ 0)
    (hr : buildRequestRuleExpr groups ≠ []) :
    ((lang.compileFromCache (combineBillingExpr b (buildRequestRuleExpr groups)) ≠ 0 ∧
      lang.compileFromCache (combineBillingExpr b (buildRequestRuleExpr groups)) =
        lang.compileFromCache b * lang.compileFromCache (buildRequestRuleExpr groups)) ↔
      ¬ "v1:".toList <+: trim b ∧ lang.Closed (trim b) ∧
        lang.compileFromCache (buildRequestRuleExpr groups) ≠ 0 ∧
        lang.nodes (trim b) + lang.nodes (buildRequestRuleExpr groups) + 1 ≤ lang.maxNodes) ∧
    (lang.SplitsOff b groups → ∃ x, splitBillingExprAndRequestRules composite
        (combineBillingExpr b (buildRequestRuleExpr groups)) =
      .ok ⟨x, buildRequestRuleExpr groups⟩ ∧ lang.UpToParens x b) := by
  have hrules := isRules_of_build hr
  refine ⟨compile_combined_iff hlang hb hrules, fun h => ?_⟩
  rw [combineBillingExpr_eq hlang hb hrules]
  refine split_combined composite (base_meaning hlang hb h.untagged).1 ?_ hrules.edged h
  rintro rfl
  exact hr rfl

/-! ## A language of products -/

def follows (x y : Char) : Prop := ¬ (x = '(' ∧ (y = ')' ∨ y = 'v'))

instance (x y : Char) : Decidable (follows x y) := inferInstanceAs (Decidable (¬ _))

def factors (t : Text) : Text := (squeeze t).filter fun c => !"()*".toList.contains c

def factorsValue (t : Text) (env : Char → ℚ) : WithZero ℚ := ((factors t).map env).prod

def letterLang : ExprLang (Char → ℚ) ℚ where
  meaning t := if List.IsChain follows (squeeze t.parens) then (factorsValue t : Meaning _ ℚ) else 0
  nodes t := (squeeze t).count '*'
  maxNodes := 100
  Closed _ := True

theorem factorsValue_append (s t : Text) :
    factorsValue (s ++ t) = factorsValue s * factorsValue t := by
  funext env
  simp [factorsValue, factors, WithZero.coe_mul]

theorem factorsValue_fixed (h : factors t = []) : factorsValue t = 1 := by
  funext env
  simp [factorsValue, h]

theorem factorsValue_parens : factorsValue t.parens = factorsValue t := by
  rw [Text.parens, factorsValue_append, factorsValue_append, factorsValue_fixed (by decide),
    factorsValue_fixed (by decide : factors ")".toList = []), one_mul, mul_one]

theorem isChain_close {l m : Text} :
    List.IsChain follows (l ++ ')' :: c :: m) ↔
      List.IsChain follows (l ++ [')']) ∧ List.IsChain follows (c :: m) := by
  have h1 : follows ')' c := fun h => absurd h.1 (by decide)
  simp [h1]

theorem isChain_parens :
    List.IsChain follows (squeeze t.parens.parens) ↔ List.IsChain follows (squeeze t.parens) := by
  have h : follows '(' '(' := by decide
  have h1 : squeeze t.parens.parens = '(' :: '(' :: squeeze t ++ ')' :: ')' :: [] := by
    simp [squeeze_parens]
  rw [h1, isChain_close, cons_append, cons_append, isChain_cons_cons, squeeze_parens]
  simp [h]

theorem squeeze_mul :
    squeeze (p ++ (" * ".toList ++ t.parens)) =
      squeeze p ++ '*' :: '(' :: (squeeze t ++ [')']) := by
  have hsep : squeeze " * ".toList = ['*'] := by decide
  rw [squeeze_append, squeeze_append, hsep, squeeze_parens]
  rfl

theorem isChain_product (hp : letterLang.Product p) :
    List.IsChain follows (squeeze (p ++ (" * ".toList ++ t.parens)).parens) ↔
      List.IsChain follows (squeeze p.parens) ∧ List.IsChain follows (squeeze t.parens) := by
  have hfollows : follows '*' '(' := by decide
  -- A product ends with a closing parenthesis.
  obtain ⟨z, hz⟩ : ∃ z, squeeze p = z ++ [')'] := by
    cases hp with
    | @group u _ => exact ⟨'(' :: squeeze u, squeeze_parens⟩
    | @mul q u _ _ =>
      refine ⟨squeeze q ++ '*' :: '(' :: squeeze u, ?_⟩
      rw [squeeze_mul]
      simp
  have hword : squeeze (p ++ (" * ".toList ++ t.parens)).parens =
      ('(' :: z) ++ ')' :: '*' :: ('(' :: (squeeze t ++ ')' :: ')' :: [])) := by
    rw [squeeze_parens, squeeze_mul, hz]
    simp
  have hfactor : List.IsChain follows ('*' :: '(' :: (squeeze t ++ ')' :: ')' :: [])) ↔
      List.IsChain follows (squeeze t.parens) := by
    rw [isChain_cons_cons, ← cons_append, isChain_close, squeeze_parens]
    simp [hfollows]
  have h : List.IsChain follows (squeeze p.parens) ↔
      List.IsChain follows ('(' :: z ++ [')']) := by
    have h1 : squeeze p.parens = ('(' :: z) ++ ')' :: ')' :: [] := by
      simp [squeeze_parens, hz]
    rw [h1, isChain_close]
    simp
  rw [hword, isChain_close, hfactor, h]

theorem letterLang_meaning : letterLang.meaning t =
    if List.IsChain follows (squeeze t.parens) then (factorsValue t : Meaning _ ℚ) else 0 := rfl

theorem letterLang_nodes : letterLang.nodes t = (squeeze t).count '*' := rfl

theorem letterLang_lawful : letterLang.Lawful where
  empty := by
    rw [letterLang_meaning, if_neg (by decide)]
  blanks {t} _ := by
    have hvalue : factorsValue (trim t) = factorsValue t := by
      funext env
      simp [factorsValue, factors]
    rw [letterLang_meaning, letterLang_meaning, letterLang_nodes, letterLang_nodes, squeeze_parens,
      squeeze_parens, squeeze_trim, hvalue]
    exact ⟨rfl, rfl⟩
  closed _ := trivial
  group {t} _ := by
    refine ⟨?_, ?_⟩
    · rw [letterLang_meaning, letterLang_meaning, factorsValue_parens]
      simp only [isChain_parens]
    · rw [letterLang_nodes, letterLang_nodes, squeeze_parens]
      simp
  product {p t} hp _ := by
    have hvalue : factorsValue (p ++ (" * ".toList ++ t.parens)) =
        factorsValue p * factorsValue t := by
      rw [factorsValue_append, factorsValue_append,
        factorsValue_fixed (by decide : factors " * ".toList = []), one_mul, factorsValue_parens]
    refine ⟨?_, ?_⟩
    · rw [letterLang_meaning, letterLang_meaning, letterLang_meaning, hvalue]
      simp only [isChain_product hp]
      by_cases h1 : List.IsChain follows (squeeze p.parens)
      · by_cases h2 : List.IsChain follows (squeeze t.parens)
        · rw [if_pos ⟨h1, h2⟩, if_pos h1, if_pos h2, WithZero.coe_mul]
        · rw [if_neg (fun h => h2 h.2), if_neg h2, mul_zero]
      · rw [if_neg (fun h => h1 h.1), if_neg h1, zero_mul]
    · rw [letterLang_nodes, letterLang_nodes, letterLang_nodes, squeeze_mul]
      simp
      omega
  comment _ h _ := absurd trivial h
  tag {t} := by
    have hbad : ¬ List.IsChain follows (squeeze (.parens ("(v1:".toList ++ t))) := by
      have h : squeeze (.parens ("(v1:".toList ++ t)) =
          '(' :: '(' :: 'v' :: '1' :: ':' :: (squeeze t ++ [')']) := by
        have htag : squeeze "(v1:".toList = ['(', 'v', '1', ':'] := by decide
        rw [squeeze_parens, squeeze_append, htag]
        rfl
      rw [h, isChain_cons_cons, isChain_cons_cons]
      rintro ⟨-, h, -⟩
      exact absurd h (by decide)
    rw [letterLang_meaning, if_neg hbad]

theorem letterLang_compile (htag : "v1:".toList.isPrefixOf t = false)
    (hnd : letterLang.nodes t ≤ letterLang.maxNodes)
    (h : List.IsChain follows (squeeze t.parens)) : letterLang.compileFromCache t ≠ 0 := by
  have h1 : (parseExprVersion t).2 = t := by
    rw [parseExprVersion, htag]
    rfl
  rw [ExprLang.compileFromCache, h1, ExprLang.compile, if_pos hnd, letterLang_meaning, if_pos h]
  exact WithZero.coe_ne_zero

def planRule : List RequestRuleGroup :=
  [⟨[.field .header "x-plan".toList .contains "pro".toList], "2".toList⟩]

theorem planRule_splitsOff : letterLang.SplitsOff "p * c".toList planRule where
  untagged := by decide
  paired := by
    refine ⟨by decide, fun pre hpre => ?_⟩
    exact (by decide : ∀ pre ∈ inits (trim "p * c".toList), 0 ≤ net parenDepth pre) pre
      ((mem_inits _ _).mpr hpre)
  outer s h := by
    have hopen : (trim "p * c".toList).head? ≠ some '(' := by decide
    generalize trim "p * c".toList = t at h hopen
    cases h <;> exact absurd rfl hopen
  noRule := by
    rintro ⟨front, number, -, h⟩
    have hend : " : 1".toList <:+ trim "p * c".toList :=
      ⟨front ++ (" ? ".toList ++ number), by rw [h]; simp⟩
    exact absurd hend (by decide)
  entered g hg := by
    obtain rfl := mem_singleton.mp hg
    refine ⟨by decide, fun c hc => ?_, by decide⟩
    obtain rfl := mem_singleton.mp hc
    exact ⟨by decide, fun h => absurd h (by decide)⟩
  recoverable g hg := by
    obtain rfl := mem_singleton.mp hg
    refine ⟨by decide, fun n hn => ?_, fun h => absurd h (by decide), by decide⟩
    obtain rfl := mem_singleton.mp hn
    exact ⟨by decide, by decide, by decide, fun h => absurd h (by decide)⟩
  joints := by decide

theorem combined_expr_plan :
    letterLang.compileFromCache
    (combineBillingExpr "p * c".toList (buildRequestRuleExpr planRule)) ≠
      0 ∧
    letterLang.compileFromCache
    (combineBillingExpr "p * c".toList (buildRequestRuleExpr planRule)) =
      letterLang.compileFromCache "p * c".toList *
        letterLang.compileFromCache (buildRequestRuleExpr planRule) ∧
    ∃ x, splitBillingExprAndRequestRules (fun _ => none)
        (combineBillingExpr "p * c".toList (buildRequestRuleExpr planRule)) =
      .ok ⟨x, buildRequestRuleExpr planRule⟩ ∧ letterLang.UpToParens x "p * c".toList := by
  have hb : letterLang.compileFromCache "p * c".toList ≠ 0 :=
    letterLang_compile (by decide) (by decide) (by decide)
  have hr : buildRequestRuleExpr planRule ≠ [] := by decide
  obtain ⟨hproduct, hsplit⟩ := combined_expr_splits letterLang_lawful (fun _ => none)
    "p * c".toList planRule hb hr
  obtain ⟨h1, h2⟩ := hproduct.mpr ⟨by decide, trivial,
    letterLang_compile (by decide) (by decide) (by decide), by decide⟩
  exact ⟨h1, h2, hsplit planRule_splitsOff⟩

/-- **A version tag is lost in parentheses, and a rule on a parameter in the base expression**: the
backend refuses the combined expression in the one case, and splitting finds no rule in the
other. -/
theorem combined_expr_lost :
    letterLang.compileFromCache "v1:p * c".toList ≠ 0 ∧
    (∀ {Env V : Type} [Monoid V] (lang : ExprLang Env V), lang.Lawful →
      lang.compileFromCache
        (combineBillingExpr "v1:p * c".toList (buildRequestRuleExpr planRule)) = 0) ∧
    splitBillingExprAndRequestRules (fun _ => none) (combineBillingExpr "p * c".toList
        (buildRequestRuleExpr
          [⟨[.field .param "model".toList .contains "gpt".toList], "2".toList⟩])) =
      .ok ⟨combineBillingExpr "p * c".toList (buildRequestRuleExpr
        [⟨[.field .param "model".toList .contains "gpt".toList], "2".toList⟩]), []⟩ := by
  refine ⟨?_, fun lang hlang => ?_, by decide⟩
  · have h : letterLang.compileFromCache "v1:p * c".toList =
        letterLang.compileFromCache "p * c".toList :=
      congrArg letterLang.compile
        (by decide : (parseExprVersion "v1:p * c".toList).2 = (parseExprVersion "p * c".toList).2)
    rw [h]
    exact letterLang_compile (by decide) (by decide) (by decide)
  have h : ∃ t, (parseExprVersion (combineBillingExpr "v1:p * c".toList
      (buildRequestRuleExpr planRule))).2 = "(v1:".toList ++ t :=
    ⟨"p * c) * (has(header(\"x-plan\"), \"pro\") ? 2 : 1)".toList, by decide⟩
  obtain ⟨t, ht⟩ := h
  rw [ExprLang.compileFromCache, ht, ExprLang.compile, hlang.tag, ite_self]

end Xingkong
