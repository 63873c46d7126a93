import Xingkong.Spec.RuleParts

/-!
# Request rules, written and read back

What the editor writes for a group is `(conditions ? multiplier : 1)`, and for a list of groups
the product of these. The parser cuts the product at ` * ` and the conditions at ` && `, wherever
these stand outside parentheses. So a text is read back as the groups it was written for exactly
when it is cut at the joints between its parts and nowhere else, and each part is read back
(`tryParseRuleGroupFactor_written_iff`, `tryParseRequestRuleExpr_join_iff`).
-/

namespace Xingkong

open Text TopLevel List

variable {composite : JsonComposite} {n : RequestCondition} {g : RequestRuleGroup}

/-! ## The edges of the written texts -/

/-- A character that may stand at an end of a part: no blank and no letter of a separator. -/
def isEdge (c : Char) : Bool := !" &*".toList.contains c && !Text.isSpace c

structure Edged (w : Text) : Prop where
  first : w.head?.any isEdge = true
  last : w.getLast?.any isEdge = true

namespace Edged

variable {w v u : Text}

theorem isEdge_iff {c : Char} : isEdge c = true ↔ c ∉ " &*".toList ∧ Text.isSpace c = false := by
  simp only [isEdge, Bool.and_eq_true, Bool.not_eq_true', contains_eq_mem, decide_eq_false_iff_not]

theorem head (h : Edged w) : ∀ c ∈ w.head?, c ∉ " &*".toList ∧ Text.isSpace c = false := by
  intro c hc
  have := h.first
  rw [Option.mem_def.mp hc] at this
  exact isEdge_iff.mp this

theorem getLast (h : Edged w) : ∀ c ∈ w.getLast?, c ∉ " &*".toList ∧ Text.isSpace c = false := by
  intro c hc
  have := h.last
  rw [Option.mem_def.mp hc] at this
  exact isEdge_iff.mp this

theorem ne_nil (h : Edged w) : w ≠ [] := by
  rintro rfl
  exact absurd h.first (by decide)

theorem not_star (h : Edged w) (c : Char) (hc : c ∈ w.getLast?) : c ∉ " * ".toList := fun hm =>
  (h.getLast c hc).1 ((by decide : ∀ z ∈ " * ".toList, z ∈ " &*".toList) c hm)

theorem trim_eq (h : Edged w) : trim w = w :=
  trim_eq_self_iff.mpr ⟨fun c hc => (h.head c hc).2, fun c hc => (h.getLast c hc).2⟩

theorem append (hw : Edged w) (hv : Edged v) : Edged (w ++ (u ++ v)) := by
  refine ⟨?_, ?_⟩
  · rw [List.head?_append_of_ne_nil _ hw.ne_nil]
    exact hw.first
  · rw [List.getLast?_append_of_ne_nil _ (by simp [hv.ne_nil]),
      List.getLast?_append_of_ne_nil _ hv.ne_nil]
    exact hv.last

theorem of_number {d : Text} (h : IsNumber d) : Edged d := by
  have hall : ∀ c ∈ d, isEdge c = true := fun c hc => by
    obtain ⟨h1, h2, -⟩ := isNumberChar_ne (h.2 c hc)
    exact isEdge_iff.mpr
      ⟨fun hm => h2 ((by decide : ∀ z ∈ " &*".toList, z ∈ " \"()[&*|n".toList) c hm), h1⟩
  refine ⟨?_, ?_⟩
  · rw [List.head?_eq_some_head h.1]
    exact hall _ (head_mem h.1)
  · rw [List.getLast?_eq_some_getLast h.1]
    exact hall _ (getLast_mem h.1)

theorem callText {name : Text} (h : Edged name) (arg : Text) : Edged (Text.callText name arg) := by
  have h1 : Edged ")".toList := ⟨by decide, by decide⟩
  have := h.append (u := "(\"".toList ++ (arg ++ ['"'])) h1
  simpa [Text.callText] using this

end Edged

theorem edged_enclosed (t : Text) : Edged ("(".toList ++ (t ++ ")".toList)) := by
  have hopen : Edged "(".toList := ⟨by decide, by decide⟩
  have h : Edged ")".toList := ⟨by decide, by decide⟩
  exact hopen.append h

theorem edged_timeFunc (f : TimeFunc) : Edged f.name := by
  cases f <;> exact ⟨by decide, by decide⟩

theorem edged_source (source : FieldSource) : Edged source.name := by
  cases source <;> exact ⟨by decide, by decide⟩

theorem edged_hasText (source : FieldSource) (p lit : Text) : Edged (hasText source p lit) := by
  have hopen : Edged "has(".toList := ⟨by decide, by decide⟩
  have h : Edged ")".toList := ⟨by decide, by decide⟩
  have := hopen.append (u := .callText source.name p ++ (", ".toList ++ lit)) h
  simpa [hasText] using this

theorem edged_equalsLiteral (v : Text) : Edged (buildExprLiteral .eq v) := by
  have h : ¬ MatchMode.eq = .contains := by decide
  unfold buildExprLiteral
  simp only [if_neg h]
  split
  · next h => rcases h with h | h <;> rw [h] <;> exact ⟨by decide, by decide⟩
  split
  · next h => exact Edged.of_number (isNumber_of_literal h)
  · have h : Edged ['"'] := ⟨by decide, by decide⟩
    exact h.append (u := JsonString.escape (trim v)) h

theorem edged_written (hnormal : n.Normal) (hc : n.Complete) :
    Edged n.written := by
  cases n with
  | time f tz m v a b =>
    have hcall := (edged_timeFunc f).callText (JsonString.escape tz)
    by_cases hm : m = .range
    · subst hm
      have hb : isNumericLiteral (trim b) = true := hc.2
      have h := Edged.of_number (isNumber_of_literal hb)
      rw [RequestCondition.written, build_range hc, rangeText]
      have := hcall.append (u := " >= ".toList ++ (trim a ++ (" || ".toList ++
        (.callText f.name (JsonString.escape tz) ++ " < ".toList)))) h
      simpa [append_assoc] using this
    · have hv : isNumericLiteral (trim v) = true := by
        simpa only [RequestCondition.Complete, if_neg hm] using hc
      rw [RequestCondition.written, build_timeComparison hm hc]
      exact hcall.append (.of_number (isNumber_of_literal hv))
  | field source p m v =>
    have hcall := (edged_source source).callText (writtenName p)
    rcases field_modes hnormal with rfl | rfl | rfl | ⟨rfl, hm⟩
    · have h : Edged (source.existsTest.drop 1) := by
        cases source <;> exact ⟨by decide, by decide⟩
      rw [RequestCondition.written, build_exists source v hc.1]
      have := hcall.append (u := " ".toList) h
      cases source <;> exact this
    · rw [RequestCondition.written, build_contains source v hc.1]
      cases source with
      | header => exact edged_hasText _ _ _
      | param => exact hcall.append (edged_hasText _ _ _)
    · rw [RequestCondition.written, build_equals source v hc.1]
      exact hcall.append (edged_equalsLiteral v)
    · have hnum := hc.2 hm
      rw [RequestCondition.written, build_comparison .param hm hc.1 hnum]
      have := hcall.append (u := " != nil && ".toList ++
        (Text.callText FieldSource.param.name (writtenName p) ++ m.spaced))
        (.of_number (isNumber_of_literal hnum))
      simpa [append_assoc] using this

/-! ## The parts of a group -/

/-- What is written for a condition of a group; in a group of several, a text with ` || ` in it
goes in parentheses. -/
def RequestCondition.part (multi : Bool) (n : RequestCondition) : Text :=
  if multi && includes n.written " || ".toList then "(".toList ++ (n.written ++ ")".toList)
  else n.written

section

variable (hnormal : n.Normal) (hc : n.Complete) (multi : Bool)
include hnormal hc

theorem edged_part : Edged (n.part multi) := by
  unfold RequestCondition.part
  split
  · exact edged_enclosed _
  · exact edged_written hnormal hc

theorem part_condition :
    Part " && ".toList (fun q n => Reads composite (trim q) n) (n.part multi) n := by
  have h1 := edged_part hnormal hc multi
  refine ⟨h1.ne_nil, h1.trim_eq, fun c hc hm => ?_, fun {q rest} htrim hreads h => ?_⟩
  · exact (h1.getLast c hc).1 ((by decide : ∀ z ∈ " && ".toList, z ∈ " &*".toList) c hm)
  · rw [htrim] at hreads
    unfold RequestCondition.part at h ⊢
    split at h
    · next h1 =>
      rw [if_pos h1]
      exact (reads_front_parens hc hreads h).1
    · next h1 =>
      rw [if_neg h1]
      exact (reads_front hc hreads htrim h).1

/-- A part is read back as its condition exactly when the condition is legible and, in a group of
several, ` || ` stands in the text of a range only. -/
theorem reads_part_iff :
    Reads composite (n.part multi) n ↔
      n.Legible ∧ (multi = true → n.isRange = true ∨ includes n.written " || ".toList = false) := by
  unfold RequestCondition.part
  split
  · next hwrap =>
    rw [Bool.and_eq_true] at hwrap
    constructor
    · intro hreads
      obtain ⟨-, hl, hrange⟩ := reads_front_parens hc hreads (prefix_append _ [])
      exact ⟨hl, fun _ => .inl hrange⟩
    · rintro ⟨hl, h⟩
      have hrange : n.isRange = true := by
        rcases h hwrap.1 with h | h
        · exact h
        · rw [hwrap.2] at h
          cases h
      cases n with
      | time f tz m v a b =>
        obtain rfl : m = .range := of_decide_eq_true hrange
        obtain ⟨rfl, h, ha, hb, h1⟩ := range_written hnormal hc hl
        rw [h1]
        exact .rangeParens h ha hb
      | field source p m v => cases hrange
  · next hwrap =>
    constructor
    · intro hreads
      obtain ⟨-, hl⟩ := reads_front hc hreads (edged_written hnormal hc).trim_eq
        (prefix_append _ [])
      refine ⟨hl, fun h => .inr ?_⟩
      rw [h, Bool.true_and] at hwrap
      exact Bool.eq_false_iff.mpr hwrap
    · rintro ⟨hl, -⟩
      exact reads_written hnormal hc hl

end

/-! ## A group -/

def factorText (parts : List Text) (multiplier : Text) : Text :=
  "(".toList ++ (join " && ".toList parts ++ (" ? ".toList ++ (multiplier ++ " : 1)".toList)))

theorem matchRuleFactor_eq_some {part S m : Text} :
    matchRuleFactor part = some (S, m) ↔
      part = "(".toList ++ (S ++ (" ? ".toList ++ (m ++ " : 1)".toList))) ∧ S ≠
    [] ∧ IsNumber m := by
  unfold matchRuleFactor
  simp only [Option.bind_eq_bind, Option.bind_eq_some_iff, expect_eq_some, Prod.exists,
    number_eq_some]
  constructor
  · rintro ⟨s1, rfl, s2, h2, d, s3, ⟨rfl, hne, hd, -⟩, s4, rfl, h⟩
    split at h
    · cases h
    · next hS =>
      cases h
      have hs1 := congrArg List.reverse h2
      rw [reverse_reverse] at hs1
      refine ⟨by rw [hs1]; simp, by simpa using hS, by simpa using hne, fun c hc => ?_⟩
      exact hd c (mem_reverse.mp hc)
  · rintro ⟨rfl, hS, hne, hm⟩
    refine ⟨_, rfl, m.reverse ++ (" ? ".toList.reverse ++ S.reverse), by simp, m.reverse, _,
      ⟨rfl, by simpa using hne, fun c hc => hm c (mem_reverse.mp hc), ?_⟩, S.reverse, rfl, ?_⟩
    · rintro c hc
      cases hc
      decide
    · have : S.reverse.isEmpty = false := by simpa using hS
      simp [this]

theorem tryParseRuleGroupFactor_eq_some {part : Text} :
    tryParseRuleGroupFactor composite part = .ok (some g) ↔
      ∃ S, part = "(".toList ++ (S ++ (" ? ".toList ++ (g.multiplier ++ " : 1)".toList))) ∧
        S ≠ [] ∧ IsNumber g.multiplier ∧ g.conditions ≠ [] ∧
        List.Forall₂ (fun q n => Reads composite (trim q) n) (splitTopLevelAnd S) g.conditions := by
  have hreads : ∀ {parts : List Text} {ns : List RequestCondition},
      readAll (fun ap => tryParseRequestCondition composite (trim ap)) parts = .ok (some ns) ↔
        List.Forall₂ (fun q n => Reads composite (trim q) n) parts ns := fun {parts ns} => by
    simp only [readAll_eq_some, tryParseRequestCondition_eq_some]
  unfold tryParseRuleGroupFactor
  constructor
  · intro h
    split at h
    · cases h
    · next S m h1 =>
      obtain ⟨rfl, hS, hm⟩ := matchRuleFactor_eq_some.mp h1
      cases hparts : readAll (fun ap => tryParseRequestCondition composite (trim ap))
          (splitTopLevelAnd S) with
      | error e =>
        rw [hparts] at h
        cases h
      | ok ns =>
        rw [hparts] at h
        cases ns with
        | none => cases h
        | some ns =>
          have h := Except.ok.inj h
          simp only at h
          split at h
          · cases h
          · next hne =>
            cases h
            exact ⟨S, rfl, hS, hm, by simpa using hne, hreads.mp hparts⟩
  · rintro ⟨S, h, hS, hm, hne, hparts⟩
    have h1 : g.conditions.isEmpty = false := by simpa using hne
    rw [matchRuleFactor_eq_some.mpr ⟨h, hS, hm⟩]
    simp [hreads.mpr hparts, Except.map, h1]

theorem edged_join {sep : Text} {ws : List Text} (h : ∀ w ∈ ws, Edged w) (hne : ws ≠ []) :
    Edged (join sep ws) := by
  induction ws with
  | nil => exact absurd rfl hne
  | cons w ws ih =>
    rw [forall_mem_cons] at h
    cases ws with
    | nil => exact h.1
    | cons v ws =>
      rw [join_cons_cons, append_assoc]
      exact h.1.append (ih h.2 (cons_ne_nil v ws))

/-- A group whose conditions are normalized and complete, with a number as its multiplier. -/
structure RequestRuleGroup.Complete (g : RequestRuleGroup) : Prop where
  nonempty : g.conditions ≠ []
  normal : ∀ n ∈ g.conditions, n.Normal
  complete : ∀ n ∈ g.conditions, n.Complete
  multiplier : IsNumber g.multiplier

def RequestRuleGroup.multi (g : RequestRuleGroup) : Bool := decide (g.conditions.length ≠ 1)

def RequestRuleGroup.parts (g : RequestRuleGroup) : List Text :=
  g.conditions.map (RequestCondition.part g.multi)

def RequestRuleGroup.written (g : RequestRuleGroup) : Text := factorText g.parts g.multiplier

open RequestRuleGroup (parts written)

section

variable (hg : g.Complete)
include hg

theorem parts_conditions :
    List.Forall₂ (Part " && ".toList fun q n => Reads composite (trim q) n) g.parts
      g.conditions := by
  rw [parts, forall₂_map_left_iff, forall₂_same]
  exact fun n hn => part_condition (hg.normal n hn) (hg.complete n hn) g.multi

theorem parts_ne_nil : g.parts ≠ [] := by
  simpa [parts] using hg.nonempty

theorem edged_parts : ∀ w ∈ g.parts, Edged w := by
  intro w hw
  obtain ⟨n, hn, rfl⟩ := mem_map.mp hw
  exact edged_part (hg.normal n hn) (hg.complete n hn) g.multi

omit hg in
theorem edged_group : Edged g.written := by
  have := edged_enclosed (join " && ".toList g.parts ++ (" ? ".toList ++
    (g.multiplier ++ " : 1".toList)))
  simpa [written, factorText] using this

/-- A text that is read as the group and begins like the written one is the written one, cut at
the joints between its conditions. -/
theorem group_front {q rest : Text}
    (h : tryParseRuleGroupFactor composite q = .ok (some g)) (hq : q <+: g.written ++ rest) :
    q = g.written ∧ Joints parenDepth " && ".toList g.parts ∧
      List.Forall₂ (fun q n => Reads composite (trim q) n) g.parts g.conditions := by
  obtain ⟨S, rfl, -, -, -, hread⟩ := tryParseRuleGroupFactor_eq_some.mp h
  rw [written, factorText, append_assoc, prefix_append_right_inj, append_assoc] at hq
  have h1 : Text.isSpace '?' = false := by decide
  have h2 : ∀ {us s : Text}, (∀ c ∈ us, Text.isSpace c = true) →
      us ++ ' ' :: s <+: " ? ".toList ++ (g.multiplier ++ " : 1)".toList) ++ rest → us = [] :=
    fun hus h => blanks_eq_nil h1 hus h
  have hsep : " && ".toList = ' ' :: '&' :: "& ".toList := by decide
  obtain ⟨hS, hj, hall⟩ := parts_of_pieces hsep (by decide) (by decide)
    (parts_conditions hg) (parts_ne_nil hg) hq (fun us hus h => h2 hus h)
    (fun us hus h => by
      obtain rfl := h2 hus h
      have h1 := (cons_prefix_cons.mp h).2
      exact absurd (cons_prefix_cons.mp h1).1 (by decide)) hread
  refine ⟨?_, hj, hall⟩
  rw [hS]
  rfl

/-- The text of a group is read back exactly when it is cut at the joints and its conditions are
read back. -/
theorem tryParseRuleGroupFactor_written_iff :
    tryParseRuleGroupFactor composite g.written = .ok (some g) ↔
      Joints parenDepth " && ".toList g.parts ∧
        ∀ n ∈ g.conditions, Reads composite (n.part g.multi) n := by
  have h : ∀ n ∈ g.conditions, trim (n.part g.multi) = n.part g.multi := fun n hn =>
    (edged_part (hg.normal n hn) (hg.complete n hn) g.multi).trim_eq
  have h1 : List.Forall₂ (fun q n => Reads composite (trim q) n) g.parts g.conditions ↔
      ∀ n ∈ g.conditions, Reads composite (n.part g.multi) n := by
    rw [parts, forall₂_map_left_iff, forall₂_same]
    exact forall₂_congr fun n hn => by rw [h n hn]
  rw [← h1]
  constructor
  · intro h
    exact (group_front hg h (prefix_append _ [])).2
  · rintro ⟨hj, hall⟩
    refine tryParseRuleGroupFactor_eq_some.mpr ⟨join " && ".toList g.parts, rfl, ?_, hg.multiplier,
      hg.nonempty, ?_⟩
    · exact (edged_join (edged_parts hg) (parts_ne_nil hg)).ne_nil
    · have h : List.Forall₂ (Part " && ".toList fun q n => Reads composite (trim q) n) g.parts
          g.conditions := parts_conditions hg
      rw [splitTopLevelAnd, pieces_of_parts (by decide) (by decide) h (parts_ne_nil hg) hj]
      exact hall

end

/-! ## A list of rules -/

/-- The text of a list of rules is read back exactly when it is cut at the joints and its groups
are read back. -/
theorem tryParseRequestRuleExpr_join_iff {gs : List RequestRuleGroup}
    (hgs : ∀ g ∈ gs, g.Complete) :
    tryParseRequestRuleExpr composite (join " * ".toList (gs.map written)) =
        .ok (some gs) ↔
      Joints parenDepth " * ".toList (gs.map written) ∧
        ∀ g ∈ gs, tryParseRuleGroupFactor composite g.written = .ok (some g) := by
  rcases eq_or_ne gs [] with rfl | hne
  · simp [join, tryParseRequestRuleExpr, trim, Joints]
  · have hne' : gs.map written ≠ [] := by simpa using hne
    have hedged : Edged (join " * ".toList (gs.map written)) :=
      edged_join (fun w hw => by
        obtain ⟨g, -, rfl⟩ := mem_map.mp hw
        exact edged_group) hne'
    have hempty : (join " * ".toList (gs.map written)).isEmpty = false := by
      simpa using hedged.ne_nil
    have hparts : List.Forall₂ (Part " * ".toList fun q g =>
        tryParseRuleGroupFactor composite q = .ok (some g)) (gs.map written)
        gs := by
      rw [forall₂_map_left_iff, forall₂_same]
      intro g hg
      have hedged := edged_group (g := g)
      exact ⟨hedged.ne_nil, hedged.trim_eq, hedged.not_star,
        fun {q rest} _ h hq => (group_front (hgs g hg) h hq).1⟩
    have h1 : List.Forall₂ (fun q g => tryParseRuleGroupFactor composite q = .ok (some g))
        (gs.map written) gs ↔
        ∀ g ∈ gs, tryParseRuleGroupFactor composite g.written = .ok (some g) := by
      rw [forall₂_map_left_iff, forall₂_same]
    rw [tryParseRequestRuleExpr]
    simp only [hedged.trim_eq, hempty, Bool.false_eq_true, if_false]
    rw [readAll_eq_some, ← h1]
    constructor
    · intro h1
      have hsep : " * ".toList = ' ' :: '*' :: " ".toList := by decide
      have h2 : join " * ".toList (gs.map written) ++ [] <+:
          join " * ".toList (gs.map written) ++ [] := prefix_rfl
      refine (parts_of_pieces hsep (by decide) (by decide) hparts hne' h2
        (fun us _ h => ?_) (fun us _ h => ?_) h1).2
      · simpa using h
      · simp at h
    · rintro ⟨hj, hall⟩
      rw [splitTopLevelMultiply, pieces_of_parts (by decide) (by decide) hparts hne' hj]
      exact hall

end Xingkong
