import Xingkong.System.RequestRules
import Xingkong.Spec.RuleOutlines
import Mathlib.Data.List.Infix

/-!
# The round trip of request rules

When the rules of the editor survive being written and read, in terms of the texts the user
entered. The outlines of the conditions say where the written text is cut, and what is left to ask
is that each text is written as it stands (`RequestRuleGroup.Recoverable`). A parameter that is
tested before it is used is written with a ` && ` of its own, which is cut too.
-/

namespace Xingkong

open Text TopLevel List

variable {composite : JsonComposite} {g : RequestRuleGroup}

/-! ## What the editor writes for its groups -/

def normalizeGroup (g : RequestRuleGroup) : RequestRuleGroup :=
  ⟨g.conditions.map normalizeCondition, g.multiplier⟩

def RequestRuleGroup.asWritten (g : RequestRuleGroup) : RequestRuleGroup :=
  ⟨g.conditions.map normalizeCondition, trim g.multiplier⟩

/-- A group of the editor with conditions, all complete, and a number as its multiplier. -/
structure RequestRuleGroup.Entered (g : RequestRuleGroup) : Prop where
  nonempty : g.conditions ≠ []
  complete : ∀ c ∈ g.conditions, (normalizeCondition c).Complete
  multiplier : isNumericLiteral (trim g.multiplier) = true

open RequestRuleGroup (asWritten written parts multi)

variable {gs : List RequestRuleGroup}

theorem RequestRuleGroup.Entered.asWritten (h : g.Entered) :
    g.asWritten.Complete where
  nonempty := by simpa [RequestRuleGroup.asWritten] using h.nonempty
  normal n hn := by
    obtain ⟨c, -, rfl⟩ := mem_map.mp hn
    exact normalizeCondition_normal c
  complete n hn := by
    obtain ⟨c, hc, rfl⟩ := mem_map.mp hn
    exact h.complete c hc
  multiplier := isNumber_of_literal h.multiplier

theorem complete_asWritten (h : ∀ g ∈ gs, g.Entered) :
    ∀ g ∈ gs.map RequestRuleGroup.asWritten, g.Complete := by
  intro g hg
  obtain ⟨g', hg', rfl⟩ := mem_map.mp hg
  exact (h g' hg').asWritten

/-- Multipliers that are written as they stand. -/
theorem map_normalizeGroup (h : ∀ g ∈ gs, trim g.multiplier = g.multiplier) :
    gs.map normalizeGroup = gs.map RequestRuleGroup.asWritten :=
  map_congr_left fun g hg => by rw [normalizeGroup, RequestRuleGroup.asWritten, h g hg]

theorem buildRuleGroupFactor_eq (h : g.Entered) : buildRuleGroupFactor g = g.asWritten.written := by
  have h1 : (g.conditions.map buildRequestConditionExpr).filter (! ·.isEmpty) =
      g.conditions.map buildRequestConditionExpr := by
    rw [filter_eq_self]
    intro e he
    obtain ⟨c, hc, rfl⟩ := mem_map.mp he
    have := (edged_written (normalizeCondition_normal c) (h.complete c hc)).ne_nil
    simpa [buildRequestConditionExpr_eq] using this
  simp only [buildRuleGroupFactor, h.multiplier, not_true_eq_false, if_false, h1,
    written, factorText]
  cases hconds : g.conditions with
  | nil => exact absurd hconds h.nonempty
  | cons c cs =>
    cases cs with
    | nil =>
      simp [asWritten, parts, multi, hconds,
        RequestCondition.part, join, buildRequestConditionExpr_eq]
    | cons c' cs =>
      have h : g.asWritten.multi = true := by
        simp [multi, asWritten, hconds]
      have h1 : ((c :: c' :: cs).map buildRequestConditionExpr).map (fun e =>
          if includes e " || ".toList then "(".toList ++ e ++ ")".toList else e) =
            g.asWritten.parts := by
        rw [parts, h]
        simp only [asWritten, hconds, map_map]
        refine map_congr_left fun c _ => ?_
        rfl
      rw [← h1]
      simp [asWritten]

theorem buildRequestRuleExpr_eq (h : ∀ g ∈ gs, g.Entered) :
    buildRequestRuleExpr gs =
      join " * ".toList ((gs.map asWritten).map written) := by
  have h1 : gs.map buildRuleGroupFactor =
      (gs.map asWritten).map written := by
    rw [map_map]
    exact map_congr_left fun g hg => buildRuleGroupFactor_eq (h g hg)
  rw [buildRequestRuleExpr, h1, filter_eq_self.mpr]
  intro w hw
  obtain ⟨g, -, rfl⟩ := mem_map.mp hw
  simpa using (edged_group (g := g)).ne_nil

/-! ## Outlines of groups -/

theorem parenDepth_of_ne {c : Char} (h1 : c ≠ '(') (h2 : c ≠ ')') : parenDepth c = 0 := by
  rw [parenDepth, if_neg h1, if_neg h2]

theorem marked_star : Marked parenDepth " * ".toList '*' :=
  ⟨fun _ => parenDepth_of_ne, by decide, by decide, by decide⟩

theorem marked_and : Marked parenDepth " && ".toList '&' :=
  ⟨fun _ => parenDepth_of_ne, by decide, by decide, by decide⟩

theorem marked_bars : Marked (fun _ => 0) " || ".toList '|' :=
  ⟨fun _ _ _ => rfl, by decide, by decide, by decide⟩

def RequestCondition.partOutline (multi : Bool) (n : RequestCondition) : Text :=
  if multi && n.isRange then "(".toList ++ (n.outline ++ ")".toList) else n.outline

def RequestRuleGroup.outlines (g : RequestRuleGroup) : List Text :=
  g.conditions.map (RequestCondition.partOutline g.multi)

def RequestRuleGroup.outline (g : RequestRuleGroup) : Text :=
  "(".toList ++ (join " && ".toList g.outlines ++ ")".toList)

open RequestRuleGroup (outlines outline)

theorem includes_iff {t sub : Text} : includes t sub = true ↔ sub <:+: t := by
  simp [includes, infix_iff_prefix_suffix, and_comm]

theorem includes_eq_cuts {sub : Text} (hsub : sub ≠ []) (t : Text) :
    includes t sub = cuts (fun _ => 0) sub 0 t := by
  induction t with
  | nil =>
    cases sub with
    | nil => exact absurd rfl hsub
    | cons c sub => rfl
  | cons c t ih =>
    rw [cuts, add_zero, ← ih]
    simp [includes]

theorem edged_nameOutline (p : Text) : Edged (nameOutline p) := by
  have := edged_enclosed ('"' :: (p ++ ['"']))
  simpa [nameOutline, Text.callText] using this

theorem edged_outline (n : RequestCondition) : Edged n.outline := by
  have hquote : Edged ['"'] := ⟨by decide, by decide⟩
  cases n with
  | time f tz m v a b =>
    have hname := edged_nameOutline tz
    rw [RequestCondition.outline]
    split
    · exact hname.append (u := []) hname
    · exact hname
  | field source p m v =>
    have hname := edged_nameOutline p
    have hvalue : Edged (nameOutline p ++ '"' :: (v ++ ['"'])) :=
      hname.append (u := '"' :: v) hquote
    have hhas : Edged ("(".toList ++ (nameOutline p ++ ('"' :: (v ++ ['"']) ++ ")".toList))) := by
      have := edged_enclosed (nameOutline p ++ '"' :: (v ++ ['"']))
      simpa using this
    cases m with
    | contains =>
      cases source with
      | header => exact hhas
      | param => exact hname.append hhas
    | «exists» => exact hname
    | gt | gte | lt | lte => exact hname.append hname
    | eq | range => exact hvalue

theorem edged_partOutline (multi : Bool) (n : RequestCondition) : Edged (n.partOutline multi) := by
  unfold RequestCondition.partOutline
  split
  · exact edged_enclosed _
  · exact edged_outline n

section

variable {n : RequestCondition} (hnormal : n.Normal) (hc : n.Complete) (hl : n.Legible)
include hnormal hc hl

theorem includes_written_of_range (hrange : n.isRange = true) :
    includes n.written " || ".toList = true := by
  cases n with
  | time f tz m v a b =>
    obtain rfl : m = .range := of_decide_eq_true hrange
    obtain ⟨-, -, -, -, h⟩ := range_written hnormal hc hl
    rw [h, includes_iff, rangeText]
    refine ⟨callText f.name tz ++ (" >= ".toList ++ a),
      callText f.name tz ++ (" < ".toList ++ b), ?_⟩
    simp
  | field source p m v => cases hrange

theorem includes_written (h : n.isRange = false) :
    includes n.written " || ".toList = includes n.outline " || ".toList := by
  rw [includes_eq_cuts (by decide), includes_eq_cuts (by decide)]
  exact (written_alike marked_bars hnormal hc hl (.inr h)).cuts_eq 0

theorem part_alike {multi : Bool}
    (hbars : multi = true → n.isRange = true ∨ includes n.outline " || ".toList = false)
    {sep : Text} {x : Char} (hk : Marked parenDepth sep x) (hbar : x ≠ '|') :
    Alike parenDepth sep (n.part multi) (n.partOutline multi) := by
  have hwhole : Alike parenDepth sep n.written n.outline :=
    written_alike hk hnormal hc hl (.inl hbar)
  have hwrap : (multi && includes n.written " || ".toList) = (multi && n.isRange) := by
    cases multi with
    | false => rfl
    | true =>
      cases h : n.isRange with
      | true => rw [includes_written_of_range hnormal hc hl h]
      | false =>
        rw [includes_written hnormal hc hl h, (hbars rfl).resolve_left (by simp [h])]
  unfold RequestCondition.part RequestCondition.partOutline
  rw [hwrap]
  split
  · exact (Alike.refl _).append (hwhole.append (Alike.refl _) (apart_of_head hk rfl)
      (apart_of_head hk rfl)) (apart_of_last hk rfl) (apart_of_last hk rfl)
  · exact hwhole

end

/-! ## Groups that are read back -/

/-- No separator of the rules starts in a text of which no letter of one is the last. -/
theorem Edged.apart {w u : Text} (h : Edged w) : Apart " * ".toList w u := .inl h.not_star

theorem Edged.apart_right {w u : Text} (h : Edged u) : Apart " * ".toList w u :=
  .inr fun c hc hm => (h.head c hc).1 ((by decide : ∀ z ∈ " * ".toList, z ∈ " &*".toList) c hm)

theorem alike_join {ws us : List Text}
    (h : List.Forall₂ (Alike parenDepth " * ".toList) ws us) (hws : ∀ w ∈ ws, Edged w)
    (hus : ∀ u ∈ us, Edged u) :
    Alike parenDepth " * ".toList (join " && ".toList ws) (join " && ".toList us) := by
  induction h with
  | nil => exact .refl _
  | @cons w u ws us hwu hrest ih =>
    rw [forall_mem_cons] at hws hus
    cases hrest with
    | nil => exact hwu
    | @cons v t vs ts hvt hvs =>
      have h := (Alike.refl " && ".toList).append (ih hws.2 hus.2)
        (edged_join hws.2 (cons_ne_nil v vs)).apart_right
        (edged_join hus.2 (cons_ne_nil t ts)).apart_right
      rw [join_cons_cons, join_cons_cons, append_assoc, append_assoc]
      exact hwu.append h hws.1.apart hus.1.apart

/-- Nothing in the texts of the group keeps it from being read back. -/
structure RequestRuleGroup.Recoverable (g : RequestRuleGroup) : Prop where
  multiplier : trim g.multiplier = g.multiplier
  legible : ∀ n ∈ g.conditions, n.Legible
  bars : g.multi = true → ∀ n ∈ g.conditions,
    n.isRange = true ∨ includes n.outline " || ".toList = false
  joints : Joints parenDepth " && ".toList g.outlines

section

variable (hg : g.Complete)
include hg

theorem reads_parts_iff :
    (∀ n ∈ g.conditions, Reads composite (n.part g.multi) n) ↔
      (∀ n ∈ g.conditions, n.Legible) ∧ (g.multi = true → ∀ n ∈ g.conditions,
        n.isRange = true ∨ includes n.outline " || ".toList = false) := by
  have hbars : ∀ n ∈ g.conditions, n.Legible →
      ((n.isRange = true ∨ includes n.written " || ".toList = false) ↔
        (n.isRange = true ∨ includes n.outline " || ".toList = false)) := fun n hn hl => by
    cases h : n.isRange with
    | true => simp
    | false => rw [includes_written (hg.normal n hn) (hg.complete n hn) hl h]
  constructor
  · intro h
    have h' := fun n hn => (reads_part_iff (hg.normal n hn) (hg.complete n hn) g.multi).mp (h n hn)
    exact ⟨fun n hn => (h' n hn).1, fun h1 n hn =>
      (hbars n hn (h' n hn).1).mp ((h' n hn).2 h1)⟩
  · rintro ⟨hl, h⟩ n hn
    exact (reads_part_iff (hg.normal n hn) (hg.complete n hn) g.multi).mpr
      ⟨hl n hn, fun h1 => (hbars n hn (hl n hn)).mpr (h h1 n hn)⟩

section

variable (hl : ∀ n ∈ g.conditions, n.Legible) (hbars : g.multi = true → ∀ n ∈ g.conditions,
  n.isRange = true ∨ includes n.outline " || ".toList = false)
include hl hbars

theorem parts_alike {sep : Text} {x : Char} (hk : Marked parenDepth sep x) (hbar : x ≠ '|') :
    List.Forall₂ (Alike parenDepth sep) g.parts g.outlines := by
  rw [parts, outlines, forall₂_map_left_iff, forall₂_map_right_iff, forall₂_same]
  exact fun n hn => part_alike (hg.normal n hn) (hg.complete n hn) (hl n hn)
    (fun h => hbars h n hn) hk hbar

theorem group_alike : Alike parenDepth " * ".toList g.written g.outline := by
  have h := parts_alike hg hl hbars marked_star (by decide)
  have hedged := edged_parts hg
  have h1 : ∀ w ∈ g.outlines, Edged w := fun w hw => by
    obtain ⟨n, -, rfl⟩ := mem_map.mp hw
    exact edged_partOutline g.multi n
  have hne := parts_ne_nil hg
  have h2 := alike_join h hedged h1
  have h : Quiet (" ? ".toList ++ (g.multiplier ++ " : 1".toList)) :=
    Quiet.append (by decide) ((quiet_of_number hg.multiplier).append (by decide))
  have hend : Alike parenDepth " * ".toList
      (" ? ".toList ++ (g.multiplier ++ " : 1".toList) ++ ")".toList) ([] ++ ")".toList) :=
    (alike_quiet marked_star h (by decide)).append (Alike.refl _)
      (apart_of_head marked_star rfl) (apart_of_head marked_star rfl)
  have h := h2.append hend (edged_join hedged hne).apart (apart_of_head marked_star rfl)
  have := (Alike.refl "(".toList).append h (apart_of_last marked_star rfl)
    (apart_of_last marked_star rfl)
  simpa [written, factorText, outline] using this

end

theorem tryParseRuleGroupFactor_iff_recoverable :
    tryParseRuleGroupFactor composite g.written = .ok (some g) ↔ g.Recoverable := by
  rw [tryParseRuleGroupFactor_written_iff hg, reads_parts_iff hg]
  constructor
  · rintro ⟨hj, hl, hbars⟩
    have h := parts_alike hg hl hbars marked_and (by decide)
    exact ⟨hg.multiplier.trim_eq, hl, hbars, (joints_congr h).mp hj⟩
  · rintro ⟨-, hl, hbars, hj⟩
    have h := parts_alike hg hl hbars marked_and (by decide)
    exact ⟨(joints_congr h).mpr hj, hl, hbars⟩

end

theorem joints_written_iff (hgs : ∀ g ∈ gs, g.Complete) (hrec : ∀ g ∈ gs, g.Recoverable) :
    Joints parenDepth " * ".toList (gs.map written) ↔
      Joints parenDepth " * ".toList (gs.map outline) := by
  refine joints_congr ?_
  rw [forall₂_map_left_iff, forall₂_map_right_iff, forall₂_same]
  exact fun g hg => group_alike (hgs g hg) (hrec g hg).legible (hrec g hg).bars

variable (composite) in
/-- The text of a list of rules is read back exactly when each group is recoverable and the list
is cut at the joints between them. -/
theorem tryParseRequestRuleExpr_iff_recoverable (hgs : ∀ g ∈ gs, g.Complete) :
    tryParseRequestRuleExpr composite (join " * ".toList (gs.map written)) =
        .ok (some gs) ↔
      (∀ g ∈ gs, g.Recoverable) ∧
        Joints parenDepth " * ".toList (gs.map outline) := by
  rw [tryParseRequestRuleExpr_join_iff hgs, and_comm,
    forall₂_congr fun g hg => tryParseRuleGroupFactor_iff_recoverable (hgs g hg)]
  exact and_congr_right fun hrec => joints_written_iff hgs hrec

theorem isNumber_of_tryParse {e : Text} (h : tryParseRequestRuleExpr composite e = .ok (some gs)) :
    ∀ g ∈ gs, IsNumber g.multiplier := by
  unfold tryParseRequestRuleExpr at h
  simp only at h
  split at h
  · cases h
    simp
  · have h1 := readAll_eq_some.mp h
    clear h
    generalize splitTopLevelMultiply (trim e) = parts at h1
    induction h1 with
    | nil => simp
    | cons h _ ih =>
      obtain ⟨-, -, -, h1, -⟩ := tryParseRuleGroupFactor_eq_some.mp h
      exact forall_mem_cons.mpr ⟨h1, ih⟩

/-! ## The round trip -/

/-- **The rules of the editor survive being written and read exactly when their texts do not
stand in the way.** -/
theorem request_rules_round_trip_iff (composite : JsonComposite) (groups : List RequestRuleGroup)
    (hentered : ∀ g ∈ groups, g.Entered) :
    tryParseRequestRuleExpr composite (buildRequestRuleExpr groups) =
        .ok (some (groups.map normalizeGroup)) ↔
      (∀ g ∈ groups, (normalizeGroup g).Recoverable) ∧
        Joints parenDepth " * ".toList
          (groups.map fun g => (normalizeGroup g).outline) := by
  have hiff := tryParseRequestRuleExpr_iff_recoverable composite (complete_asWritten hentered)
  rw [← buildRequestRuleExpr_eq hentered] at hiff
  -- either side forces the multipliers to be written as they stand
  constructor
  · intro h
    have h1 := isNumber_of_tryParse h
    have heq := map_normalizeGroup fun g hg =>
      (h1 (normalizeGroup g) (mem_map_of_mem hg)).trim_eq
    rw [heq, hiff, ← heq] at h
    simpa [map_map, Function.comp_def] using h
  · rintro ⟨hrec, hj⟩
    have heq := map_normalizeGroup fun g hg => (hrec g hg).multiplier
    rw [heq, hiff, ← heq]
    simpa [map_map, Function.comp_def] using And.intro hrec hj

def nightRules : List RequestRuleGroup :=
  [⟨[.field .header "x-plan".toList .contains "pro (trial)".toList,
      .time .hour "UTC".toList .range [] "22".toList "6".toList], "1.5".toList⟩,
    ⟨[.field .header "x-speed".toList .eq "fast".toList], "2".toList⟩]

theorem nightRules_entered : ∀ g ∈ nightRules, g.Entered := by
  intro g hg
  simp only [nightRules, mem_cons, not_mem_nil, or_false] at hg
  rcases hg with rfl | rfl
  · refine ⟨by decide, fun c hc => ?_, by decide⟩
    simp only [mem_cons, not_mem_nil, or_false] at hc
    rcases hc with rfl | rfl
    · exact ⟨by decide, fun h => absurd h (by decide)⟩
    · exact ⟨by decide, by decide⟩
  · refine ⟨by decide, fun c hc => ?_, by decide⟩
    obtain rfl := mem_singleton.mp hc
    exact ⟨by decide, fun h => absurd h (by decide)⟩

theorem request_rules_round_trip_night :
    (∀ g ∈ nightRules, g.Entered) ∧
      tryParseRequestRuleExpr (fun _ => none) (buildRequestRuleExpr nightRules) =
        .ok (some (nightRules.map normalizeGroup)) := by
  refine ⟨nightRules_entered, (request_rules_round_trip_iff _ nightRules nightRules_entered).mpr
    ⟨fun g hg => ?_, ?_⟩⟩
  · simp only [nightRules, mem_cons, not_mem_nil, or_false] at hg
    rcases hg with rfl | rfl
    · refine ⟨by decide, fun n hn => ?_, fun _ n hn => ?_, ?_⟩
      · simp only [normalizeGroup, map_cons, map_nil, mem_cons, not_mem_nil, or_false] at hn
        rcases hn with rfl | rfl
        · exact ⟨by decide, by decide, by decide, fun h => absurd h (by decide)⟩
        · exact ⟨by decide, by decide⟩
      · simp only [normalizeGroup, map_cons, map_nil, mem_cons, not_mem_nil, or_false] at hn
        rcases hn with rfl | rfl <;> decide
      · decide
    · refine ⟨by decide, fun n hn => ?_, fun h => absurd h (by decide), ?_⟩
      · obtain rfl := mem_singleton.mp hn
        exact ⟨by decide, by decide, by decide, fun _ => by decide⟩
      · decide
  · decide

/-- **A rule on a request parameter is not read back**: the text of a single condition is cut at
the ` && ` it is written with. -/
theorem param_contains_rule_lost :
    (∀ g ∈ [RequestRuleGroup.mk [.field .param "model".toList .contains "gpt".toList]
      "2".toList], g.Entered) ∧
    tryParseRequestRuleExpr (fun _ => none) (buildRequestRuleExpr
      [⟨[.field .param "model".toList .contains "gpt".toList], "2".toList⟩]) = .ok none := by
  refine ⟨fun g hg => ?_, by decide⟩
  obtain rfl := mem_singleton.mp hg
  refine ⟨by decide, fun c hc => ?_, by decide⟩
  obtain rfl := mem_singleton.mp hc
  exact ⟨by decide, fun h => absurd h (by decide)⟩

end Xingkong
