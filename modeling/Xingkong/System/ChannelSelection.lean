import Xingkong.System.ChannelLists
import Mathlib.Data.Set.Basic

/-!
# Selecting a channel from the cache and from the database

Abilities are derived from the channels and the cache was just rebuilt. For each mode the
outcomes over all draws are worked out: the cache reaches, at the priority the retry asks
for, the serving channels with a weight, or all of them if none has one
(`memory_outcomes`); the database reaches every channel with an ability there, because
each weight is raised by ten (`database_outcomes`). The modes agree at every retry
exactly under `ModesAgree`.
-/

namespace Xingkong

open Rdb Selection List

def ChannelRow.Serves (c : ChannelRow) (group model : String) : Prop :=
  c.enabled = true ∧ group ∈ c.groups ∧ model ∈ c.modelNames

instance (c : ChannelRow) (group model : String) : Decidable (c.Serves group model) :=
  inferInstanceAs (Decidable (_ ∧ _ ∧ _))

def ChannelRow.HasAbility (c : ChannelRow) (group model : String) : Prop :=
  c.enabled = true ∧ (group, model) ∈ c.abilityPairs

instance (c : ChannelRow) (group model : String) : Decidable (c.HasAbility group model) :=
  inferInstanceAs (Decidable (_ ∧ _))

def chosen : Except String (Option ChannelRow) → Option ChannelRow
  | .ok o => o
  | .error _ => none

def memoryOutcomes (cache : ChannelCache) (group model : String) (retry : Nat) :
    Set (Option ChannelRow) :=
  { o | ∃ draw, chosen (getRandomSatisfiedChannel cache group model retry draw) = o }

def databaseOutcomes (channels : Table ChannelRow) (abilities : List Ability)
    (group model : String) (retry : Nat) : Set (Option ChannelRow) :=
  { o | ∃ draw, chosen (getChannel channels abilities group model retry draw) = o }

/-! ## Abilities -/

variable {seen : List String} {a : Ability} {priority : Int} {name : String}

theorem mem_of_mem_distinctPairs {pair : String × String} {pairs : List (String × String)}
    (h : pair ∈ distinctPairs seen pairs) : pair ∈ pairs := by
  induction pairs generalizing seen with
  | nil => cases h
  | cons p pairs ih =>
    obtain ⟨g, m⟩ := p
    simp only [distinctPairs] at h
    split at h
    · exact mem_cons_of_mem _ (ih h)
    · rcases mem_cons.mp h with rfl | h
      · exact mem_cons_self
      · exact mem_cons_of_mem _ (ih h)

variable {c : ChannelRow} {group model : String} {channels : Table ChannelRow}
  {cache : ChannelCache} {rows : List ChannelRow} {abilities : List Ability}

theorem HasAbility.serves (h : c.HasAbility group model) : c.Serves group model := by
  have hmem := mem_of_mem_distinctPairs h.2
  simp only [mem_flatMap, mem_map, Prod.mk.injEq] at hmem
  obtain ⟨m, hm, g, hg, rfl, rfl⟩ := hmem
  exact ⟨h.1, hg, hm⟩

theorem key_inj {other : String} (h : group ++ "|" ++ model = other ++ "|" ++ model) :
    group = other := by
  have h1 := congrArg String.toList h
  simp only [String.toList_append, append_cancel_right_eq] at h1
  exact String.toList_inj.mp h1

theorem mem_distinctPairs_of_first {groups : List String} {rest : List (String × String)}
    (hgroup : group ∈ groups) (hseen : group ++ "|" ++ model ∉ seen) :
    (group, model) ∈ distinctPairs seen ((groups.map fun g => (g, model)) ++ rest) := by
  induction groups generalizing seen with
  | nil => cases hgroup
  | cons g groups ih =>
    simp only [map_cons, cons_append, distinctPairs]
    by_cases hg : group = g
    · subst hg
      rw [if_neg hseen]
      exact mem_cons_self
    · have h : group ∈ groups := (mem_cons.mp hgroup).resolve_left hg
      split
      · exact ih h hseen
      · refine mem_cons_of_mem _ (ih h fun hmem => ?_)
        rcases mem_cons.mp hmem with heq | hmem
        · exact hg (key_inj heq)
        · exact hseen hmem

theorem exists_ability_of_group (h : group ∈ c.groups) :
    ∃ model, (group, model) ∈ c.abilityPairs := by
  obtain ⟨model, models, h1⟩ := exists_cons_of_ne_nil (modelNames_ne_nil c)
  refine ⟨model, ?_⟩
  rw [ChannelRow.abilityPairs, h1, flatMap_cons]
  exact mem_distinctPairs_of_first h not_mem_nil

theorem mem_derivedAbilities :
    a ∈ derivedAbilities channels ↔ ∃ c ∈ channels.rows, ∃ pair ∈ c.abilityPairs,
      a = { group := pair.1, model := pair.2, channelId := c.id, enabled := c.enabled
            priority := c.getPriority, weight := c.getWeight } := by
  simp only [derivedAbilities, ChannelRow.addAbilities, mem_flatMap, mem_map]
  constructor
  all_goals
    rintro ⟨c, hc, pair, h, rfl⟩
    exact ⟨c, hc, pair, h, rfl⟩

theorem init_isSome (channels : Table ChannelRow) :
    (initChannelCache channels (derivedAbilities channels)).isSome := by
  refine (init_isSome_iff _ _).mpr fun c hc _ group h => ?_
  obtain ⟨m, hm⟩ := exists_ability_of_group h
  exact mem_map.mpr ⟨_, mem_derivedAbilities.mpr ⟨c, hc, _, hm, rfl⟩, rfl⟩

/-! ## The cache -/

/-- The channel is within reach of the draws at its priority: it has a weight, or no
serving channel of its priority has one. -/
def Drawable (rows : List ChannelRow) (c : ChannelRow) : Prop :=
  0 < c.getWeight ∨ ∀ d ∈ rows, d.getPriority = c.getPriority → d.getWeight = 0

theorem effectiveWeight_nonneg (targets : List ChannelRow) (c : ChannelRow) :
    0 ≤ effectiveWeight targets c := by
  simp only [effectiveWeight]
  split
  · omega
  · split <;> omega

theorem effectiveWeight_pos_iff (targets : List ChannelRow) (c : ChannelRow) :
    0 < effectiveWeight targets c ↔ 0 < c.getWeight ∨ ∀ d ∈ targets, d.getWeight = 0 := by
  have hsum : (targets.map ChannelRow.getWeight).sum = 0 ↔ ∀ d ∈ targets, d.getWeight = 0 := by
    simp [sum_eq_zero_iff]
  simp only [effectiveWeight]
  split
  · next h => exact iff_of_true (by omega) (.inr (hsum.mp h))
  · next h =>
    rw [hsum] at h
    split <;> simp [h]

theorem total_effectiveWeight_pos {targets : List ChannelRow} (hne : targets ≠ []) :
    0 < total (effectiveWeight targets) targets := by
  have hnonneg : ∀ c ∈ targets, 0 ≤ effectiveWeight targets c :=
    fun c _ => effectiveWeight_nonneg targets c
  -- Some target has a positive weight: one with a weight of its own, or any.
  by_cases hall : ∀ d ∈ targets, d.getWeight = 0
  · obtain ⟨c, hc⟩ := exists_mem_of_ne_nil _ hne
    exact lt_of_lt_of_le ((effectiveWeight_pos_iff targets c).mpr (.inr hall))
      (weight_le_total hnonneg hc)
  · simp only [not_forall] at hall
    obtain ⟨c, hc, h⟩ := hall
    exact lt_of_lt_of_le
      ((effectiveWeight_pos_iff targets c).mpr (.inl (Nat.pos_of_ne_zero h)))
      (weight_le_total hnonneg hc)

theorem lookUp_known {ids : List Nat} (h : ∀ id ∈ ids, (cache.channelsIDM id).isSome) :
    ∃ rows, cache.lookUp ids = .ok rows ∧
      ∀ c, c ∈ rows ↔ ∃ id ∈ ids, cache.channelsIDM id = some c := by
  induction ids with
  | nil => exact ⟨[], rfl, by simp⟩
  | cons id ids ih =>
    obtain ⟨c, hc⟩ := Option.isSome_iff_exists.mp (h id mem_cons_self)
    obtain ⟨rows, hrows, hmem⟩ := ih fun i hi => h i (mem_cons_of_mem _ hi)
    refine ⟨c :: rows, by simp [ChannelCache.lookUp, hc, hrows], fun d => ?_⟩
    simp only [mem_cons, hmem, exists_eq_or_imp, hc, Option.some.injEq]
    rw [eq_comm]

theorem drawable_targets (hc : c.getPriority = priority) :
    0 < effectiveWeight (rows.filter fun d => d.getPriority = priority) c ↔ Drawable rows c := by
  rw [effectiveWeight_pos_iff, Drawable, hc]
  simp

/-- Candidates that are all known: the outcomes over all draws. -/
theorem memory_outcomes_of_rows (h : cache.Keyed) (hne : cache.candidates group model ≠ [])
    (hrows : cache.lookUp (cache.candidates group model) = .ok rows) (retry : Nat)
    (o : Option ChannelRow) :
    o ∈ memoryOutcomes cache group model retry ↔
      ∃ c ∈ rows, level (rows.map ChannelRow.getPriority) retry = some c.getPriority ∧
        Drawable rows c ∧ o = some c := by
  have hids := ChannelCache.lookUp_mem h hrows
  have hrowsne : rows ≠ [] := by
    rintro rfl
    exact hne hids.symm
  simp only [memoryOutcomes, Set.mem_ofPred_eq, getRandomSatisfiedChannel]
  split
  · next hnil => exact absurd hnil hne
  · -- One candidate is taken as it is.
    next id hone =>
    rw [hone] at hrows hids
    obtain ⟨c, rfl⟩ : ∃ c, rows = [c] := by
      rw [map_eq_singleton_iff] at hids
      exact hids.imp fun c hc => hc.1
    have hlevel : level [c.getPriority] retry = some c.getPriority := by
      simp [level, levels]
    have hdraw : Drawable [c] c := by
      rcases Nat.eq_zero_or_pos c.getWeight with h | hpos
      · exact Or.inr fun d hd _ => by rwa [mem_singleton.mp hd]
      · exact Or.inl hpos
    simp only [hrows, List.head?_cons, chosen, mem_singleton, map_cons, map_nil,
      exists_eq_left, hlevel, hdraw, true_and]
    constructor
    · rintro ⟨-, rfl⟩
      rfl
    · rintro rfl
      exact ⟨0, rfl⟩
  · next h =>
    obtain ⟨priority, h1, hlevel⟩ :=
      level_isSome (fun h => hrowsne (map_eq_nil_iff.mp h)) retry
    have h : rows.filter (fun c => c.getPriority = priority) ≠ [] := by
      obtain ⟨c, hc, hpc⟩ := mem_map.mp h1
      exact ne_nil_of_mem (mem_filter.mpr ⟨hc, by simpa using hpc⟩)
    simp only [hrows, hlevel, Option.some.injEq]
    generalize h1 : rows.filter (fun c => c.getPriority = priority) = targets at h ⊢
    refine Iff.trans (exists_congr fun draw => ?_) ((exists_draw_iff
      (total_effectiveWeight_pos h)
      fun x => Selection.walk (effectiveWeight targets) targets x = o).trans
        ((mem_walk_iff (fun c _ => effectiveWeight_nonneg targets c) o).trans ?_))
    · split
      · next h => rw [h, chosen]
      · next c h => rw [h, chosen]
    subst h1
    simp only [mem_filter, decide_eq_true_eq]
    constructor
    · rintro ⟨c, ⟨hc, hpc⟩, h, rfl⟩
      exact ⟨c, hc, hpc.symm, (drawable_targets hpc).mp h, rfl⟩
    · rintro ⟨c, hc, hpc, hdraw, rfl⟩
      exact ⟨c, ⟨hc, hpc.symm⟩, (drawable_targets hpc.symm).mpr hdraw, rfl⟩

def serving (channels : Table ChannelRow) (group model : String) : List ChannelRow :=
  channels.rows.filter fun c => c.Serves group model

theorem mem_serving :
    c ∈ serving channels group model ↔ c ∈ channels.rows ∧ c.Serves group model := by
  simp [serving]

section

variable (hinit : initChannelCache channels abilities = some cache)

include hinit

theorem mem_channels_iff {id : Nat} :
    id ∈ cache.channels group model ↔ ∃ c ∈ serving channels group model, c.id = id := by
  rw [(init_channels hinit group model).1.mem_iff, mem_idsFor]
  constructor
  · rintro ⟨c, hc, hid, h⟩
    exact ⟨c, mem_serving.mpr ⟨hc, h⟩, hid⟩
  · rintro ⟨c, hc, hid⟩
    obtain ⟨hrow, h⟩ := mem_serving.mp hc
    exact ⟨c, hrow, hid, h⟩

theorem channels_eq_nil_iff :
    cache.channels group model = [] ↔ serving channels group model = [] := by
  simp only [eq_nil_iff_forall_not_mem, mem_channels_iff hinit]
  constructor
  · intro h c hc
    exact h c.id ⟨c, hc, rfl⟩
  · rintro h id ⟨c, hc, -⟩
    exact h c hc

/-- **Outcomes from a cache that was just built**: a draw reaches the drawable channels of
the priority the retry asks for. -/
theorem memory_outcomes (hname : cache.candidates group model = cache.channels group name)
    (hne : serving channels group name ≠ []) (retry : Nat) (o : Option ChannelRow) :
    o ∈ memoryOutcomes cache group model retry ↔
      ∃ c ∈ serving channels group name,
        level ((serving channels group name).map ChannelRow.getPriority) retry =
          some c.getPriority ∧
        Drawable (serving channels group name) c ∧ o = some c := by
  have hcand : cache.candidates group model ≠ [] := by
    rw [hname]
    exact fun h => hne ((channels_eq_nil_iff hinit).mp h)
  have hidm := (init_channels hinit group name).2
  have h : ∀ id ∈ cache.candidates group model, (cache.channelsIDM id).isSome := by
    intro id hid
    rw [hname, mem_channels_iff hinit] at hid
    obtain ⟨c, hc, rfl⟩ := hid
    rw [hidm]
    exact Option.isSome_iff_exists.mpr ⟨c, Table.find?_key (mem_serving.mp hc).1⟩
  obtain ⟨rows, hrows, hmem⟩ := lookUp_known h
  have hsame : ∀ c, c ∈ rows ↔ c ∈ serving channels group name := by
    intro c
    rw [hmem, hname, hidm]
    constructor
    · rintro ⟨id, hid, h⟩
      obtain ⟨d, hd, rfl⟩ := (mem_channels_iff hinit).mp hid
      rw [show d.id = Row.key d from rfl, Table.find?_key (mem_serving.mp hd).1] at h
      cases h
      exact hd
    · intro hc
      exact ⟨c.id, (mem_channels_iff hinit).mpr ⟨c, hc, rfl⟩, Table.find?_key (mem_serving.mp hc).1⟩
  have h : level (rows.map ChannelRow.getPriority) retry =
      level ((serving channels group name).map ChannelRow.getPriority) retry :=
    level_congr (fun v => by simp [hsame]) retry
  have h1 : ∀ c, Drawable rows c ↔ Drawable (serving channels group name) c := by
    intro c
    simp only [Drawable, hsame]
  rw [memory_outcomes_of_rows (init_keyed hinit) hcand hrows]
  simp only [hsame, h, h1]

end

theorem memory_outcomes_none (h : cache.candidates group model = []) (retry : Nat)
    (o : Option ChannelRow) : o ∈ memoryOutcomes cache group model retry ↔ o = none := by
  simp only [memoryOutcomes, Set.mem_ofPred_eq, getRandomSatisfiedChannel, h, chosen]
  constructor
  · rintro ⟨-, rfl⟩
    rfl
  · rintro rfl
    exact ⟨0, rfl⟩

/-! ## The database -/

def able (channels : Table ChannelRow) (group model : String) : List ChannelRow :=
  channels.rows.filter fun c => c.HasAbility group model

theorem mem_able :
    c ∈ able channels group model ↔ c ∈ channels.rows ∧ c.HasAbility group model := by
  simp [able]

theorem mem_enabledAbilities :
    a ∈ enabledAbilities (derivedAbilities channels) group model ↔
      ∃ c ∈ able channels group model, a =
        { group := group, model := model, channelId := c.id, enabled := true
          priority := c.getPriority, weight := c.getWeight } := by
  simp only [enabledAbilities, mem_filter, mem_derivedAbilities, Bool.and_eq_true,
    decide_eq_true_eq]
  constructor
  · rintro ⟨⟨c, hc, pair, h, rfl⟩, ⟨hg, hm⟩, h1⟩
    simp only at hg hm h1
    subst hg hm
    exact ⟨c, mem_able.mpr ⟨hc, h1, h⟩, by rw [h1]⟩
  · rintro ⟨c, hc, rfl⟩
    obtain ⟨hrow, h1, h⟩ := mem_able.mp hc
    exact ⟨⟨c, hrow, _, h, by rw [h1]⟩, ⟨rfl, rfl⟩, rfl⟩

theorem getChannelQuery_eq {retry : Nat}
    (hlevel : level ((enabledAbilities abilities group model).map Ability.priority) retry =
      some priority) :
    getChannelQuery abilities group model retry =
      .ok ((enabledAbilities abilities group model).filter fun a => a.priority = priority) := by
  simp only [getChannelQuery]
  split
  · next h =>
    rw [h, level_zero] at hlevel
    rw [hlevel]
  · rw [getPriority, hlevel]

theorem getChannelQuery_none (retry : Nat) (h : enabledAbilities abilities group model = []) :
    (∃ message, getChannelQuery abilities group model retry = .error message) ∨
      getChannelQuery abilities group model retry = .ok [] := by
  simp only [getChannelQuery, h]
  split
  · exact .inr rfl
  · refine .inl ⟨"数据库一致性被破坏", ?_⟩
    simp [getPriority, h, level, levels]

def Ability.drawWeight (a : Ability) : Int := (a.weight + 10 : Nat)

theorem pickAbility_eq (x : Int) :
    pickAbility abilities x = Selection.walk Ability.drawWeight abilities (x - 1) := by
  induction abilities generalizing x with
  | nil => rfl
  | cons a abilities ih =>
    simp only [pickAbility, Selection.walk]
    have h : x - 1 - a.drawWeight = x - (a.weight + 10 : Nat) - 1 := by
      simp only [Ability.drawWeight]
      omega
    rw [h, ← ih]
    split
    · rw [if_pos (by omega)]
    · rw [if_neg (by omega)]

theorem picks_iff {found : List Ability} (hne : found ≠ []) (o : Option Ability) :
    (∃ draw : Nat, pickAbility found
        ((draw % (found.map fun a => a.weight + 10).sum : Nat) : Int) = o) ↔
      ∃ a ∈ found, o = some a := by
  have hweight : ∀ a ∈ found, 2 ≤ a.drawWeight := by
    intro a _
    simp only [Ability.drawWeight]
    omega
  have hsum : (((found.map fun a => a.weight + 10).sum : Nat) : Int) =
      total Ability.drawWeight found := by
    clear hweight hne
    induction found with
    | nil => rfl
    | cons a found ih =>
      rw [map_cons, sum_cons, Nat.cast_add, ih, total_cons]
      rfl
  have hpos : 0 < total Ability.drawWeight found := by
    obtain ⟨a, ha⟩ := exists_mem_of_ne_nil _ hne
    have hle := weight_le_total (fun a ha => (by norm_num : (0 : Int) ≤ 2).trans (hweight a ha)) ha
    have := hweight a ha
    omega
  simp only [Int.natCast_emod, hsum, pickAbility_eq]
  rw [exists_draw_iff hpos fun x => Selection.walk Ability.drawWeight found (x - 1) = o]
  exact mem_walk_pred_iff hweight hne o

/-- **Outcomes through the database**: every channel with an ability at the priority the
retry asks for. -/
theorem database_outcomes (hne : able channels group model ≠ []) (retry : Nat)
    (o : Option ChannelRow) :
    o ∈ databaseOutcomes channels (derivedAbilities channels) group model retry ↔
      ∃ c ∈ able channels group model,
        level ((able channels group model).map ChannelRow.getPriority) retry =
          some c.getPriority ∧ o = some c := by
  have hvalues : ∀ v, v ∈ (enabledAbilities (derivedAbilities channels) group model).map
      Ability.priority ↔ v ∈ (able channels group model).map ChannelRow.getPriority := by
    intro v
    simp only [mem_map, mem_enabledAbilities]
    constructor
    · rintro ⟨a, ⟨c, hc, rfl⟩, rfl⟩
      exact ⟨c, hc, rfl⟩
    · rintro ⟨c, hc, rfl⟩
      exact ⟨_, ⟨c, hc, rfl⟩, rfl⟩
  obtain ⟨priority, hpriority, hlevel⟩ :=
    level_isSome (fun h => hne (map_eq_nil_iff.mp h)) retry
  have hquery := getChannelQuery_eq ((level_congr hvalues retry).trans hlevel)
  set found := (enabledAbilities (derivedAbilities channels) group model).filter
    fun a => a.priority = priority with h
  have hmem : ∀ a, a ∈ found.insertionSort (fun a b => b.weight ≤ a.weight) ↔
      ∃ c ∈ able channels group model, c.getPriority = priority ∧ a =
        { group := group, model := model, channelId := c.id, enabled := true
          priority := c.getPriority, weight := c.getWeight } := by
    intro a
    rw [(perm_insertionSort _ _).mem_iff, h]
    simp only [mem_filter, mem_enabledAbilities, decide_eq_true_eq]
    constructor
    · rintro ⟨⟨c, hc, rfl⟩, hp⟩
      exact ⟨c, hc, hp, rfl⟩
    · rintro ⟨c, hc, hp, rfl⟩
      exact ⟨⟨c, hc, rfl⟩, hp⟩
  have hsome : found.insertionSort (fun a b => b.weight ≤ a.weight) ≠ [] := by
    obtain ⟨c, hc, hp⟩ := mem_map.mp hpriority
    exact ne_nil_of_mem ((hmem _).mpr ⟨c, hc, hp, rfl⟩)
  simp only [databaseOutcomes, Set.mem_ofPred_eq, getChannel, hquery, if_neg hsome, hlevel,
    Option.some.injEq]
  have hrow : ∀ c ∈ able channels group model, channels.find? c.id = some c :=
    fun c hc => Table.find?_key (mem_able.mp hc).1
  constructor
  · rintro ⟨draw, rfl⟩
    obtain ⟨a, ha, h⟩ := (picks_iff hsome _).mp ⟨draw, rfl⟩
    obtain ⟨c, hc, hp, rfl⟩ := (hmem a).mp ha
    refine ⟨c, hc, hp.symm, ?_⟩
    rw [h]
    simp only [hrow c hc, chosen]
  · rintro ⟨c, hc, hp, rfl⟩
    obtain ⟨draw, h⟩ := (picks_iff hsome _).mpr ⟨_, (hmem _).mpr ⟨c, hc, hp.symm, rfl⟩, rfl⟩
    refine ⟨draw, ?_⟩
    rw [h]
    simp only [hrow c hc, chosen]

theorem database_outcomes_none (h : able channels group model = []) (retry : Nat)
    (o : Option ChannelRow) :
    o ∈ databaseOutcomes channels (derivedAbilities channels) group model retry ↔ o = none := by
  have hnone : enabledAbilities (derivedAbilities channels) group model = [] := by
    rw [eq_nil_iff_forall_not_mem]
    intro a ha
    obtain ⟨c, hc, -⟩ := mem_enabledAbilities.mp ha
    rw [h] at hc
    nomatch hc
  have h : ∀ draw, chosen
      (getChannel channels (derivedAbilities channels) group model retry draw) = none := by
    intro draw
    rcases getChannelQuery_none retry hnone with ⟨message, h1⟩ | h1
    · simp only [getChannel, h1, chosen]
    · simp [getChannel, h1, chosen]
  simp only [databaseOutcomes, Set.mem_ofPred_eq, h]
  constructor
  · rintro ⟨-, rfl⟩
    rfl
  · rintro rfl
    exact ⟨0, rfl⟩

/-! ## When the two modes agree -/

/-- If no channel serves the model by its name, none serves it by the name it is matched
by. Else the serving channels whose ability was stored are the drawable ones. -/
def ModesAgree (channels : Table ChannelRow) (group model : String) : Prop :=
  (serving channels group model = [] →
      serving channels group (formatMatchingModelName model) = []) ∧
    ∀ c ∈ serving channels group model,
      c.HasAbility group model ↔ Drawable (serving channels group model) c

theorem exists_drawable (hc : c ∈ rows) :
    ∃ d ∈ rows, d.getPriority = c.getPriority ∧ Drawable rows d := by
  by_cases hall : ∀ d ∈ rows, d.getPriority = c.getPriority → d.getWeight = 0
  · exact ⟨c, hc, rfl, .inr hall⟩
  · simp only [not_forall] at hall
    obtain ⟨d, hd, hp, h⟩ := hall
    exact ⟨d, hd, hp, .inl (Nat.pos_of_ne_zero h)⟩

theorem able_subset (hc : c ∈ able channels group model) : c ∈ serving channels group model := by
  obtain ⟨hrow, h⟩ := mem_able.mp hc
  exact mem_serving.mpr ⟨hrow, HasAbility.serves h⟩

theorem exists_memory_outcome (hinit : initChannelCache channels abilities = some cache)
    (h1 : cache.candidates group model = cache.channels group name)
    (hne : serving channels group name ≠ []) (retry : Nat) :
    ∃ c ∈ serving channels group name, some c ∈ memoryOutcomes cache group model retry := by
  obtain ⟨priority, h2, h3⟩ :=
    level_isSome (fun h => hne (map_eq_nil_iff.mp h)) retry
  obtain ⟨c, hc, rfl⟩ := mem_map.mp h2
  obtain ⟨d, hd, hp, h⟩ := exists_drawable hc
  exact ⟨d, hd, (memory_outcomes hinit h1 hne retry _).mpr ⟨d, hd, by rw [h3, hp], h, rfl⟩⟩

theorem modes_agree_of_unserved
    (hinit : initChannelCache channels (derivedAbilities channels) = some cache)
    (hserving : serving channels group model = []) :
    (∀ retry, memoryOutcomes cache group model retry =
        databaseOutcomes channels (derivedAbilities channels) group model retry) ↔
      ModesAgree channels group model := by
  have hable : able channels group model = [] := by
    rw [eq_nil_iff_forall_not_mem]
    intro c hc
    have hmem := able_subset hc
    rw [hserving] at hmem
    nomatch hmem
  have hname : cache.candidates group model =
      cache.channels group (formatMatchingModelName model) := by
    rw [ChannelCache.candidates, if_pos ((channels_eq_nil_iff hinit).mpr hserving)]
  constructor
  · intro h
    refine ⟨fun _ => ?_, fun c hc => ?_⟩
    · by_contra h1
      obtain ⟨c, -, hc⟩ := exists_memory_outcome hinit hname h1 0
      rw [h 0, database_outcomes_none hable] at hc
      cases hc
    · rw [hserving] at hc
      nomatch hc
  · intro h retry
    ext o
    rw [database_outcomes_none hable, memory_outcomes_none]
    rw [hname]
    exact (channels_eq_nil_iff hinit).mpr (h.1 hserving)

theorem modes_agree_of_served
    (hinit : initChannelCache channels (derivedAbilities channels) = some cache)
    (hserving : serving channels group model ≠ []) :
    (∀ retry, memoryOutcomes cache group model retry =
        databaseOutcomes channels (derivedAbilities channels) group model retry) ↔
      ModesAgree channels group model := by
  have hname : cache.candidates group model = cache.channels group model := by
    rw [ChannelCache.candidates, if_neg fun h => hserving ((channels_eq_nil_iff hinit).mp h)]
  constructor
  · intro h
    refine ⟨fun hnil => absurd hnil hserving, fun c hc => ?_⟩
    have hable : able channels group model ≠ [] := by
      intro hnil
      obtain ⟨d, -, hd⟩ := exists_memory_outcome hinit hname hserving 0
      rw [h 0, database_outcomes_none hnil] at hd
      cases hd
    -- Take the retry that asks for this channel's priority. Both modes then look at it.
    obtain ⟨retry, hlevel⟩ := exists_level (mem_map_of_mem hc)
    have hlevel' : level ((able channels group model).map ChannelRow.getPriority) retry =
        some c.getPriority := by
      obtain ⟨d, -, hd⟩ := exists_memory_outcome hinit hname hserving retry
      obtain ⟨e, -, h1, -, he⟩ := (memory_outcomes hinit hname hserving retry _).mp hd
      rw [h retry] at hd
      obtain ⟨f, -, h2, hf⟩ := (database_outcomes hable retry _).mp hd
      cases he
      cases hf
      rw [h2, ← h1, hlevel]
    constructor
    · intro h1
      have hout : some c ∈ memoryOutcomes cache group model retry := by
        rw [h retry]
        exact (database_outcomes hable retry _).mpr
          ⟨c, mem_able.mpr ⟨(mem_serving.mp hc).1, h1⟩, hlevel', rfl⟩
      obtain ⟨d, -, -, hdraw, hd⟩ := (memory_outcomes hinit hname hserving retry _).mp hout
      cases hd
      exact hdraw
    · intro hdraw
      have hout : some c ∈ memoryOutcomes cache group model retry :=
        (memory_outcomes hinit hname hserving retry _).mpr ⟨c, hc, hlevel, hdraw, rfl⟩
      rw [h retry] at hout
      obtain ⟨d, hd, -, heq⟩ := (database_outcomes hable retry _).mp hout
      cases heq
      exact (mem_able.mp hd).2
  · rintro ⟨-, h⟩ retry
    have hmem : ∀ c, c ∈ able channels group model ↔
        c ∈ serving channels group model ∧ Drawable (serving channels group model) c := by
      intro c
      constructor
      · intro hc
        exact ⟨able_subset hc, (h c (able_subset hc)).mp (mem_able.mp hc).2⟩
      · rintro ⟨hc, hdraw⟩
        exact mem_able.mpr ⟨(mem_serving.mp hc).1, (h c hc).mpr hdraw⟩
    have hable : able channels group model ≠ [] := by
      obtain ⟨c, hc⟩ := exists_mem_of_ne_nil _ hserving
      obtain ⟨d, hd, -, hdraw⟩ := exists_drawable hc
      exact ne_nil_of_mem ((hmem d).mpr ⟨hd, hdraw⟩)
    have hlevel : level ((able channels group model).map ChannelRow.getPriority) retry =
        level ((serving channels group model).map ChannelRow.getPriority) retry := by
      refine level_congr (fun v => ?_) retry
      simp only [mem_map]
      constructor
      · rintro ⟨c, hc, rfl⟩
        exact ⟨c, able_subset hc, rfl⟩
      · rintro ⟨c, hc, rfl⟩
        obtain ⟨d, hd, hp, hdraw⟩ := exists_drawable hc
        exact ⟨d, (hmem d).mpr ⟨hd, hdraw⟩, hp⟩
    ext o
    rw [memory_outcomes hinit hname hserving, database_outcomes hable, hlevel]
    constructor
    · rintro ⟨c, hc, hp, hdraw, rfl⟩
      exact ⟨c, (hmem c).mpr ⟨hc, hdraw⟩, hp, rfl⟩
    · rintro ⟨c, hc, hp, rfl⟩
      exact ⟨c, ((hmem c).mp hc).1, hp, ((hmem c).mp hc).2, rfl⟩

/-- **Cache and database can return the same channels at every retry exactly under
`ModesAgree`.** -/
theorem selection_modes_agree_iff (channels : Table ChannelRow) (group model : String) :
    ∃ cache, initChannelCache channels (derivedAbilities channels) = some cache ∧
      ((∀ retry, memoryOutcomes cache group model retry =
          databaseOutcomes channels (derivedAbilities channels) group model retry) ↔
        ModesAgree channels group model) := by
  obtain ⟨cache, hinit⟩ := Option.isSome_iff_exists.mp (init_isSome channels)
  refine ⟨cache, hinit, ?_⟩
  by_cases h : serving channels group model = []
  · exact modes_agree_of_unserved hinit h
  · exact modes_agree_of_served hinit h

/-! ### Channels the modes see differently -/

def mixedChannels : Table ChannelRow where
  rows := [⟨1, 1, "default", "gpt-4o", none, none⟩, ⟨2, 1, "default", "gpt-4o", none, some 10⟩,
    ⟨3, 1, "default", "gpt-4-gizmo-*", none, none⟩]
  next := 4
  sorted := by decide
  keys_pos := by decide
  keys_lt := by decide
  next_pos := by decide

instance (rows : List ChannelRow) (c : ChannelRow) : Decidable (Drawable rows c) :=
  inferInstanceAs (Decidable (_ ∨ _))

/-- The database may return channel 1, the cache never does; the cache returns channel 3 for
a model of the family, the database returns none. -/
theorem selection_modes_disagree :
    ∃ cache, initChannelCache mixedChannels (derivedAbilities mixedChannels) = some cache ∧
      memoryOutcomes cache "default" "gpt-4o" 0 ≠
        databaseOutcomes mixedChannels (derivedAbilities mixedChannels) "default" "gpt-4o" 0 ∧
      memoryOutcomes cache "default" "gpt-4-gizmo-x" 0 ≠
        databaseOutcomes mixedChannels (derivedAbilities mixedChannels) "default"
          "gpt-4-gizmo-x" 0 := by
  obtain ⟨cache, hinit⟩ := Option.isSome_iff_exists.mp (init_isSome mixedChannels)
  refine ⟨cache, hinit, fun h => ?_, fun h => ?_⟩
  · have hserving : serving mixedChannels "default" "gpt-4o" ≠ [] := by decide +kernel
    have hname : cache.candidates "default" "gpt-4o" = cache.channels "default" "gpt-4o" := by
      rw [ChannelCache.candidates, if_neg fun h => hserving ((channels_eq_nil_iff hinit).mp h)]
    have hdb : some ⟨1, 1, "default", "gpt-4o", none, none⟩ ∈ databaseOutcomes mixedChannels
        (derivedAbilities mixedChannels) "default" "gpt-4o" 0 :=
      (database_outcomes (by decide +kernel) 0 _).mpr
        ⟨⟨1, 1, "default", "gpt-4o", none, none⟩, by decide +kernel, by decide +kernel, rfl⟩
    rw [← h] at hdb
    obtain ⟨c, -, -, h1, hc⟩ := (memory_outcomes hinit hname hserving 0 _).mp hdb
    cases hc
    exact absurd h1 (by decide +kernel)
  · have hserving : serving mixedChannels "default" "gpt-4-gizmo-x" = [] := by decide +kernel
    have hname : cache.candidates "default" "gpt-4-gizmo-x" =
        cache.channels "default" (formatMatchingModelName "gpt-4-gizmo-x") := by
      rw [ChannelCache.candidates, if_pos ((channels_eq_nil_iff hinit).mpr hserving)]
    obtain ⟨c, -, hc⟩ := exists_memory_outcome hinit hname (by decide +kernel) 0
    rw [h, database_outcomes_none (by decide +kernel)] at hc
    cases hc

end Xingkong
