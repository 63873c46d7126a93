import Xingkong.Lib.Run
import Xingkong.Model.ChannelCache
import Mathlib.Data.List.Count
import Mathlib.Tactic.Ring

/-!
# The lists of the channel cache

What `InitChannelCache` leaves in each list, in terms of the channels (`init_channels`):
every enabled channel once for each time its texts name the group and the model. From
that it follows when disabling a channel takes it out of all lists: the loop removes one
occurrence per list, so a text that repeats a name leaves the channel behind
(`disabled_channel_gone_iff`). No update lists a channel that was not enabled at the rebuild.
-/

namespace Xingkong

open Rdb Selection List Function

/-! ## Building the lists -/

def listAt (lists : String → Option (String → List Nat)) (group model : String) : List Nat :=
  match lists group with
  | none => []
  | some byModel => byModel model

variable {cache : ChannelCache}

variable {lists : String → Option (String → List Nat)} {channels : Table ChannelRow}
  {id : Nat} {group model : String}

variable {lists' : String → Option (String → List Nat)} {es : List (Nat × String × String)}
  {abilities : List Ability} {c : ChannelRow}

theorem appendChannel_spec {e : Nat × String × String} (h : appendChannel lists e = some lists')
    (group model : String) :
    listAt lists' group model =
      listAt lists group model ++ (if e.2 = (group, model) then [e.1] else []) := by
  obtain ⟨id, g, m⟩ := e
  unfold appendChannel at h
  cases hg : lists g with
  | none => simp [hg] at h
  | some byModel =>
    simp only [hg, Option.some.injEq] at h
    subst h
    by_cases h : group = g
    · subst h
      by_cases h1 : model = m
      · subst h1
        simp [listAt, hg]
      · simp [listAt, hg, update_of_ne h1, Ne.symm h1]
    · simp [listAt, update_of_ne h, Ne.symm h]

theorem foldlM_appendChannel (h : es.foldlM appendChannel lists = some lists')
    (group model : String) :
    listAt lists' group model = listAt lists group model ++
      (es.filter fun e => e.2 = (group, model)).map Prod.fst := by
  induction es generalizing lists with
  | nil =>
    cases h
    simp
  | cons e es ih =>
    rw [foldlM_cons] at h
    cases h1 : appendChannel lists e with
    | none => simp [h1] at h
    | some lists1 =>
      simp only [h1, Option.bind_eq_bind, Option.bind_some] at h
      rw [ih h, appendChannel_spec h1, filter_cons, append_assoc]
      congr 1
      by_cases he : e.2 = (group, model)
      · simp [he]
      · simp [he]

theorem foldlM_appendChannel_isSome_iff :
    (es.foldlM appendChannel lists).isSome ↔ ∀ e ∈ es, (lists e.2.1).isSome := by
  induction es generalizing lists with
  | nil => simp
  | cons e es ih =>
    rw [foldlM_cons, forall_mem_cons]
    cases h : lists e.2.1 with
    | none => simp [appendChannel, h]
    | some byModel =>
      simp only [appendChannel, h, Option.bind_eq_bind, Option.bind_some, ih,
        Option.isSome_some, true_and]
      refine forall₂_congr fun e' _ => ?_
      by_cases h1 : e'.2.1 = e.2.1
      · simp [h1, h]
      · rw [update_of_ne h1]

def idsFor (channels : Table ChannelRow) (group model : String) : List Nat :=
  ((cacheEntries channels.rows).filter fun e => e.2 = (group, model)).map Prod.fst

/-- **What `InitChannelCache` puts into the lists**, up to the order by priority. -/
theorem init_channels (h : initChannelCache channels abilities = some cache)
    (group model : String) :
    (cache.channels group model).Perm (idsFor channels group model) ∧
      cache.channelsIDM = channels.find? := by
  simp only [initChannelCache] at h
  split at h
  · cases h
  next lists h1 =>
    cases h
    refine ⟨?_, rfl⟩
    have hlt := foldlM_appendChannel h1 group model
    have hempty : listAt (fun group =>
        if group ∈ abilities.map Ability.group then some fun _ => [] else none)
        group model = [] := by
      unfold listAt
      split
      · rfl
      next byModel h =>
        simp only at h
        split at h <;> cases h
        rfl
    rw [hempty, nil_append] at hlt
    rw [idsFor, ← hlt]
    unfold ChannelCache.channels listAt
    cases h : lists group with
    | none => simp [h]
    | some byModel =>
      simp only [h, Option.map_some]
      exact perm_insertionSort _ _

theorem mem_cacheEntries {channels : List ChannelRow} :
    (id, group, model) ∈ cacheEntries channels ↔
      ∃ c ∈ channels, c.id = id ∧ c.enabled = true ∧ group ∈ c.groups ∧ model ∈ c.modelNames := by
  simp only [cacheEntries, mem_flatMap, mem_filter, mem_map, Prod.mk.injEq]
  constructor
  · rintro ⟨c, ⟨hc, h⟩, g, hg, m, hm, rfl, rfl, rfl⟩
    exact ⟨c, hc, rfl, h, hg, hm⟩
  · rintro ⟨c, hc, rfl, h, hg, hm⟩
    exact ⟨c, ⟨hc, h⟩, group, hg, model, hm, rfl, rfl, rfl⟩

theorem modelNames_ne_nil (c : ChannelRow) : c.modelNames ≠ [] := by
  simp [ChannelRow.modelNames, splitText, List.splitOn, splitOnP_ne_nil]

theorem init_isSome_iff (channels : Table ChannelRow) (abilities : List Ability) :
    (initChannelCache channels abilities).isSome ↔ ∀ c ∈ channels.rows, c.enabled = true →
      ∀ group ∈ c.groups, group ∈ abilities.map Ability.group := by
  have h : (initChannelCache channels abilities).isSome =
      ((cacheEntries channels.rows).foldlM appendChannel fun group =>
        if group ∈ abilities.map Ability.group then some fun _ => [] else none).isSome := by
    simp only [initChannelCache]
    split <;> rename_i h1 <;> rw [h1] <;> rfl
  rw [h, foldlM_appendChannel_isSome_iff]
  constructor
  · intro h c hc h1 group h2
    obtain ⟨model, h3⟩ := exists_mem_of_ne_nil _ (modelNames_ne_nil c)
    have := h (c.id, group, model) (mem_cacheEntries.mpr ⟨c, hc, rfl, h1, h2, h3⟩)
    by_contra h3
    simp [h3] at this
  · rintro h ⟨id, group, model⟩ he
    obtain ⟨c, hc, -, h1, h2, -⟩ := mem_cacheEntries.mp he
    rw [if_pos (h c hc h1 group h2)]; rfl

theorem mem_idsFor :
    id ∈ idsFor channels group model ↔
      ∃ c ∈ channels.rows, c.id = id ∧ c.enabled = true ∧ group ∈ c.groups ∧
        model ∈ c.modelNames := by
  rw [← mem_cacheEntries]
  simp only [idsFor, mem_map, mem_filter, decide_eq_true_eq]
  constructor
  · rintro ⟨⟨i, g, m⟩, ⟨he, hgm⟩, rfl⟩
    obtain ⟨rfl, rfl⟩ := hgm
    exact he
  · intro he
    exact ⟨_, ⟨he, rfl⟩, rfl⟩

/-! ## How often a channel is listed -/

theorem count_pairs (groups models : List String) :
    (groups.flatMap fun g => models.map fun m => (g, m)).count (group, model) =
      groups.count group * models.count model := by
  induction groups with
  | nil => simp
  | cons g groups ih =>
    have hrow : (models.map fun m => (g, m)).count (group, model) =
        if g = group then models.count model else 0 := by
      by_cases hg : g = group
      · subst hg
        rw [if_pos rfl]
        exact count_map_of_injective models (fun m => (g, m)) (fun a b h => by simpa using h) model
      · rw [if_neg hg]
        refine count_eq_zero.mpr fun hmem => hg ?_
        obtain ⟨m, -, hm⟩ := mem_map.mp hmem
        exact congrArg Prod.fst hm
    rw [flatMap_cons, count_append, ih, hrow, count_cons]
    by_cases hg : g = group
    · simp only [hg, if_true, beq_self_eq_true]
      ring
    · simp [hg]

theorem count_idsFor (hc : c ∈ channels.rows) (henabled : c.enabled = true) (group model : String) :
    (idsFor channels group model).count c.id =
      c.groups.count group * c.modelNames.count model := by
  have hentries : (idsFor channels group model).count c.id =
      (cacheEntries channels.rows).count (c.id, group, model) := by
    rw [idsFor, count_eq_countP, countP_map, countP_filter, count_eq_countP]
    refine countP_congr fun e _ => ?_
    simp [Prod.ext_iff]
  have hrow : (c.groups.flatMap fun g => c.modelNames.map fun m => (c.id, g, m)).count
      (c.id, group, model) = c.groups.count group * c.modelNames.count model := by
    have hmap := count_map_of_injective
      (c.groups.flatMap fun g => c.modelNames.map fun m => (g, m)) (fun p => (c.id, p))
      (fun a b h => by simpa using h) (group, model)
    rw [count_pairs, map_flatMap] at hmap
    simpa only [map_map, comp_def] using hmap
  -- Only the one row with this id contributes.
  obtain ⟨before, after, hrows⟩ := append_of_mem hc
  have hnd := channels.nodup
  rw [hrows, map_append, map_cons, nodup_append, nodup_cons] at hnd
  have hbefore : (cacheEntries before).count (c.id, group, model) = 0 := by
    refine count_eq_zero.mpr fun hmem => ?_
    obtain ⟨d, hd, hid, -⟩ := mem_cacheEntries.mp hmem
    exact hnd.2.2 _ (mem_map_of_mem hd) _ mem_cons_self hid
  have h : (cacheEntries after).count (c.id, group, model) = 0 := by
    refine count_eq_zero.mpr fun hmem => ?_
    obtain ⟨d, hd, hid, -⟩ := mem_cacheEntries.mp hmem
    exact hnd.2.1.1 (mem_map.mpr ⟨d, hd, hid⟩)
  have h1 : cacheEntries (before ++ c :: after) = cacheEntries before ++
      ((c.groups.flatMap fun g => c.modelNames.map fun m => (c.id, g, m)) ++
        cacheEntries after) := by
    simp [cacheEntries, henabled]
  rw [hentries, hrows, h1, count_append, count_append, hbefore, h, hrow]
  omega

theorem groups_ne_nil (c : ChannelRow) : c.groups ≠ [] := by
  simp [ChannelRow.groups, splitText, List.splitOn, splitOnP_ne_nil]

def NamesOnce (c : ChannelRow) : Prop := c.groups.Nodup ∧ c.modelNames.Nodup

instance (c : ChannelRow) : Decidable (NamesOnce c) := inferInstanceAs (Decidable (_ ∧ _))

theorem count_le_one_iff (c : ChannelRow) :
    (∀ group model, c.groups.count group * c.modelNames.count model ≤ 1) ↔ NamesOnce c := by
  constructor
  · intro h
    obtain ⟨group, h1⟩ := exists_mem_of_ne_nil _ (groups_ne_nil c)
    obtain ⟨model, h2⟩ := exists_mem_of_ne_nil _ (modelNames_ne_nil c)
    have hg := count_pos_iff.mpr h1
    have hm := count_pos_iff.mpr h2
    refine ⟨nodup_iff_count_le_one.mpr fun g => ?_, nodup_iff_count_le_one.mpr fun m => ?_⟩
    · exact (Nat.le_mul_of_pos_right _ hm).trans (h g model)
    · exact (Nat.le_mul_of_pos_left _ hg).trans (h group m)
  · rintro ⟨h, h1⟩ group model
    have hg := nodup_iff_count_le_one.mp h group
    have hm := nodup_iff_count_le_one.mp h1 model
    exact Nat.mul_le_mul hg hm

/-! ## Disabling a channel -/

namespace ChannelCache

def Keyed (cache : ChannelCache) : Prop := ∀ id c, cache.channelsIDM id = some c → c.id = id

theorem lookUp_mem (hkeyed : cache.Keyed) {ids : List Nat}
    {rows : List ChannelRow} (h : cache.lookUp ids = .ok rows) : rows.map ChannelRow.id = ids := by
  induction ids generalizing rows with
  | nil =>
    cases h
    rfl
  | cons id ids ih =>
    unfold lookUp at h
    split at h
    · cases h
    next c hc =>
      split at h
      · cases h
      next rest hrest =>
        cases h
        rw [map_cons, ih hrest, hkeyed id c hc]

end ChannelCache

theorem chosen_mem (hkeyed : cache.Keyed) {retry draw : Nat}
    (h : getRandomSatisfiedChannel cache group model retry draw = .ok (some c)) :
    c.id ∈ cache.candidates group model := by
  unfold getRandomSatisfiedChannel at h
  split at h
  · cases h
  next id hids =>
    split at h
    · cases h
    next rows hrows =>
      have hmap := ChannelCache.lookUp_mem hkeyed hrows
      simp only [Except.ok.injEq] at h
      rw [hids, ← hmap]
      exact mem_map_of_mem (mem_of_mem_head? h)
  next ids hids =>
    split at h
    · cases h
    next rows hrows =>
      have hmap := ChannelCache.lookUp_mem hkeyed hrows
      split at h
      · cases h
      next priority h1 =>
        simp only at h
        split at h
        · cases h
        next c' h1 =>
          cases h
          rw [← hmap]
          exact mem_map_of_mem (mem_of_mem_filter (mem_of_walk h1))

inductive CacheOp where
  | updateStatus (id : Nat) (status : Int)
  | update (channel : ChannelRow)

def CacheOp.apply (cache : ChannelCache) : CacheOp → ChannelCache
  | .updateStatus id status => cacheUpdateChannelStatus cache id status
  | .update channel => (cacheUpdateChannel cache channel).getD cache

def Gone (cache : ChannelCache) (id : Nat) : Prop :=
  (∀ group model, id ∉ cache.channels group model) ∧
    ∀ group model retry draw c,
      getRandomSatisfiedChannel cache group model retry draw = .ok (some c) → c.id ≠ id

theorem gone_of_lists (h1 : cache.Keyed) (h : ∀ group model, id ∉ cache.channels group model) :
    Gone cache id := by
  refine ⟨h, fun group model retry draw c h2 hid => ?_⟩
  obtain ⟨name, h3⟩ : ∃ name, cache.candidates group model = cache.channels group name := by
    unfold ChannelCache.candidates
    split <;> exact ⟨_, rfl⟩
  have hmem := chosen_mem h1 h2
  rw [h3, hid] at hmem
  exact h group name hmem

theorem channels_updateStatus (status : Int) :
    (cacheUpdateChannelStatus cache id status).channels group model =
      if status ≠ channelStatusEnabled then (cache.channels group model).erase id
      else cache.channels group model := by
  unfold ChannelCache.channels cacheUpdateChannelStatus
  by_cases h : status ≠ channelStatusEnabled
  · simp only [if_pos h]
    cases cache.group2model2channels group with
    | none | some byModel => rfl
  · simp only [if_neg h]

theorem apply_subset (cache : ChannelCache) (op : CacheOp) (group model : String) :
    ∀ id ∈ (op.apply cache).channels group model, id ∈ cache.channels group model := by
  intro id hid
  cases op with
  | updateStatus other status =>
    rw [CacheOp.apply, channels_updateStatus] at hid
    split at hid
    · exact mem_of_mem_erase hid
    · exact hid
  | update channel =>
    simp only [CacheOp.apply, cacheUpdateChannel] at hid
    split at hid <;> exact hid

theorem Keyed.apply (h : cache.Keyed) (op : CacheOp) : (op.apply cache).Keyed := by
  intro id c hc
  cases op with
  | updateStatus other status =>
    by_cases hid : id = other
    · subst hid
      simp only [CacheOp.apply, cacheUpdateChannelStatus, update_self, Option.map_eq_some_iff] at hc
      obtain ⟨c', hc', rfl⟩ := hc
      exact h id c' hc'
    · simp only [CacheOp.apply, cacheUpdateChannelStatus, update_of_ne hid] at hc
      exact h id c hc
  | update channel =>
    simp only [CacheOp.apply, cacheUpdateChannel] at hc
    split at hc
    · exact h id c hc
    · by_cases hid : id = channel.id
      · subst hid
        simp only [Option.getD_some, update_self, Option.some.injEq] at hc
        rw [hc]
      · simp only [Option.getD_some, update_of_ne hid] at hc
        exact h id c hc

theorem gone_run (h1 : cache.Keyed) (h : ∀ group model, id ∉ cache.channels group model)
    (ops : List CacheOp) : Gone (Run.final CacheOp.apply cache ops) id := by
  have hrun := Run.final_invariant (P := fun cache : ChannelCache =>
      cache.Keyed ∧ ∀ group model, id ∉ cache.channels group model) ⟨h1, h⟩
    fun cache op (_ : op ∈ ops) h => ⟨Keyed.apply h.1 op, fun group model hmem =>
      h.2 group model (apply_subset cache op group model id hmem)⟩
  exact gone_of_lists hrun.1 hrun.2

theorem init_keyed (h : initChannelCache channels abilities = some cache) : cache.Keyed := by
  intro id c hc
  rw [(init_channels h "" "").2, Table.find?_eq_some] at hc
  exact hc.2

/-- **A disabled channel is gone until the next rebuild exactly when its texts repeat no
group and no model**, or it was not enabled or not there to begin with. -/
theorem disabled_channel_gone_iff (channels : Table ChannelRow) (abilities : List Ability)
    (cache : ChannelCache) (hinit : initChannelCache channels abilities = some cache)
    (id : Nat) (status : Int) (hstatus : status ≠ channelStatusEnabled) :
    (∀ ops, Gone (Run.final CacheOp.apply (cacheUpdateChannelStatus cache id status) ops) id) ↔
      ∀ c ∈ channels.rows, c.id = id → c.enabled = true → NamesOnce c := by
  have hlists : ∀ group model, (cacheUpdateChannelStatus cache id status).channels group model =
      (cache.channels group model).erase id := by
    intro group model
    rw [channels_updateStatus, if_pos hstatus]
  constructor
  · rintro h c hc rfl henabled
    refine (count_le_one_iff c).mp fun group model => ?_
    have hout := (h []).1 group model
    rw [Run.final_nil, hlists, ← count_eq_zero, count_erase_self,
      (init_channels hinit group model).1.count_eq, count_idsFor hc henabled] at hout
    omega
  · intro h ops
    refine gone_run (Keyed.apply (init_keyed hinit) (.updateStatus id status))
      (fun group model => ?_) ops
    rw [CacheOp.apply, hlists, ← count_eq_zero, count_erase_self,
      (init_channels hinit group model).1.count_eq]
    by_cases hmem : id ∈ idsFor channels group model
    · obtain ⟨c, hc, rfl, henabled, -⟩ := mem_idsFor.mp hmem
      have h1 := (count_le_one_iff c).mpr (h c hc rfl henabled) group model
      rw [count_idsFor hc henabled]
      omega
    · rw [count_eq_zero.mpr hmem]

/-! ### A channel whose text repeats a model -/

def repeatedName : Table ChannelRow where
  rows := [⟨1, 1, "default", "gpt-4o,gpt-4o", none, none⟩, ⟨2, 1, "default", "gpt-4o", none, none⟩]
  next := 3
  sorted := by decide
  keys_pos := by decide
  keys_lt := by decide
  next_pos := by decide

theorem disabled_channel_selected :
    ((initChannelCache repeatedName (derivedAbilities repeatedName)).map fun cache =>
      let disabled := cacheUpdateChannelStatus cache 1 2
      (disabled.channels "default" "gpt-4o",
        (getRandomSatisfiedChannel disabled "default" "gpt-4o" 0 0).toOption.map
          (Option.map ChannelRow.id))) =
      some ([1, 2], some (some 1)) := by
  decide +kernel

theorem disabled_channel_gone_sample :
    ∃ cache, initChannelCache repeatedName (derivedAbilities repeatedName) = some cache ∧
      ∀ ops, Gone (Run.final CacheOp.apply (cacheUpdateChannelStatus cache 2 2) ops) 2 := by
  have h : (initChannelCache repeatedName (derivedAbilities repeatedName)).isSome := by
    decide +kernel
  obtain ⟨cache, h1⟩ := Option.isSome_iff_exists.mp h
  exact ⟨cache, h1, (disabled_channel_gone_iff repeatedName _ cache h1 2 2
    (by decide)).mpr (by decide +kernel)⟩

/-! ## Choosing a channel -/

/-- **Until the next rebuild a channel is chosen only for what it served when enabled at the last
one**, whatever is written to the cache in between. -/
theorem chosen_channel_served (hinit : initChannelCache channels abilities = some cache)
    (ops : List CacheOp) (retry draw : Nat)
    (hc : getRandomSatisfiedChannel (Run.final CacheOp.apply cache ops) group model retry draw =
      .ok (some c)) :
    ∃ r ∈ channels.rows, r.id = c.id ∧ r.enabled = true ∧ group ∈ r.groups ∧
      (model ∈ r.modelNames ∨ formatMatchingModelName model ∈ r.modelNames) := by
  have hrun := Run.final_invariant (P := fun q : ChannelCache => q.Keyed ∧
      ∀ name, ∀ id ∈ q.channels group name, id ∈ idsFor channels group name)
    ⟨init_keyed hinit, fun name id => (init_channels hinit group name).1.mem_iff.mp⟩
    fun q op (_ : op ∈ ops) hq => ⟨Keyed.apply hq.1 op,
      fun name id hid => hq.2 name id (apply_subset q op group name id hid)⟩
  have hmem := chosen_mem hrun.1 hc
  unfold ChannelCache.candidates at hmem
  split at hmem <;> obtain ⟨r, hr, hid, h, hg, hm⟩ := mem_idsFor.mp (hrun.2 _ _ hmem)
  · exact ⟨r, hr, hid, h, hg, .inr hm⟩
  · exact ⟨r, hr, hid, h, hg, .inl hm⟩

theorem chosen_channel_served_once :
    ∃ r ∈ repeatedName.rows, r.id = 2 ∧ r.enabled = true ∧ "default" ∈ r.groups ∧
      ("gpt-4o" ∈ r.modelNames ∨ formatMatchingModelName "gpt-4o" ∈ r.modelNames) :=
  chosen_channel_served (c := ⟨2, 1, "default", "gpt-4o", none, none⟩)
    (Option.some_get (show (initChannelCache repeatedName (derivedAbilities repeatedName)).isSome by
      decide +kernel)).symm [.updateStatus 1 2] 0 150 (by decide +kernel)

/-! ## Rebuilding the cache while abilities are maintained -/

/-- **The cache is built exactly if every group of an enabled channel has an ability**, whatever
statements have left in the two tables: a group without an ability has no inner map. -/
theorem channel_cache_built_iff (channels : Table ChannelRow) (abilities : List Ability) :
    (initChannelCache channels abilities).isSome ↔
      ∀ c ∈ channels.rows, c.enabled = true → ∀ group ∈ c.groups,
        ∃ a ∈ abilities, a.group = group := by
  simp only [init_isSome_iff, mem_map]

/-- Between the first two statements of `FixAbility` there is no ability. -/
theorem channel_cache_panics :
    (initChannelCache repeatedName (((fixAbility repeatedName).take 1).foldl AbilityStatement.exec
      (derivedAbilities repeatedName))).isSome = false := by
  decide +kernel

end Xingkong
