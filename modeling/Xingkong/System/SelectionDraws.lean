import Xingkong.System.ChannelSelection

/-!
# How many draws each channel gets

The cache gives a channel as many of the draws as its smoothed weight, once for each time it
is listed (`memory_draws`). The database walk stops at zero, one draw too early: the first
ability takes a draw that belongs to the others (`ability_draws_exact_iff`).
-/

namespace Xingkong

open Rdb Selection List

variable {cache : ChannelCache} {group model : String} {priority : Int} {retry : Nat}

theorem lookUp_eq_filterMap {ids : List Nat} (h : ∀ id ∈ ids, (cache.channelsIDM id).isSome) :
    cache.lookUp ids = .ok (ids.filterMap cache.channelsIDM) := by
  induction ids with
  | nil => rfl
  | cons id ids ih =>
    obtain ⟨hid, hids⟩ := forall_mem_cons.mp h
    obtain ⟨c, hc⟩ := Option.isSome_iff_exists.mp hid
    simp [ChannelCache.lookUp, hc, ih hids]

/-- The channels a request chooses from. -/
def ChannelCache.candidateRows (cache : ChannelCache) (group model : String) : List ChannelRow :=
  (cache.candidates group model).filterMap cache.channelsIDM

section

variable (hknown : ∀ id ∈ cache.candidates group model, (cache.channelsIDM id).isSome)

include hknown

/-- A draw is answered by the walk, also where a single candidate is taken without one. -/
theorem drawn_of_walk
    (hlevel : level ((cache.candidateRows group model).map ChannelRow.getPriority) retry =
      some priority) {draw : Nat} {c : ChannelRow}
    {targets : List ChannelRow}
    (htargets : targets =
      (cache.candidateRows group model).filter fun c => c.getPriority = priority)
    (hwalk : Selection.walk (effectiveWeight targets) targets
      ((draw : Int) % total (effectiveWeight targets) targets) = some c) :
    getRandomSatisfiedChannel cache group model retry draw = .ok (some c) := by
  have hrows := lookUp_eq_filterMap hknown
  have hc : c ∈ cache.candidateRows group model := by
    have hmem := mem_of_walk hwalk
    rw [htargets] at hmem
    exact (mem_filter.mp hmem).1
  rw [ChannelCache.candidateRows, mem_filterMap] at hc
  rw [ChannelCache.candidateRows] at hlevel htargets
  subst htargets
  rw [getRandomSatisfiedChannel]
  split
  · next hnil => simp [hnil] at hc
  · next id hone =>
    simp only [hone, mem_singleton, exists_eq_left] at hc
    simp [ChannelCache.lookUp, hc]
  · simp only [hrows, hlevel, hwalk]

/-- **Every draw from the cache returns a channel of the priority the retry asks for**, and over
the draws a channel is returned as often as its smoothed weight says, once for each time it is
listed. -/
theorem memory_draws (hne : cache.candidates group model ≠ []) (retry : Nat) :
    ∃ priority, level ((cache.candidateRows group model).map ChannelRow.getPriority) retry =
        some priority ∧
      let targets := (cache.candidateRows group model).filter fun c => c.getPriority = priority
      let totalWeight := total (effectiveWeight targets) targets
      0 < totalWeight ∧
      (∀ draw, ∃ c ∈ targets,
        getRandomSatisfiedChannel cache group model retry draw = .ok (some c)) ∧
      ∀ c, Nat.count (fun draw =>
          chosen (getRandomSatisfiedChannel cache group model retry draw) = some c)
            totalWeight.toNat =
        targets.count c * (effectiveWeight targets c).toNat := by
  obtain ⟨id, hid⟩ := exists_mem_of_ne_nil _ hne
  obtain ⟨c, hc⟩ := Option.isSome_iff_exists.mp (hknown id hid)
  have hrows : cache.candidateRows group model ≠ [] :=
    ne_nil_of_mem (mem_filterMap.mpr ⟨id, hid, hc⟩)
  obtain ⟨priority, h1, hlevel⟩ := level_isSome (fun h => hrows (map_eq_nil_iff.mp h)) retry
  refine ⟨priority, hlevel, ?_⟩
  intro targets totalWeight
  have h : targets ≠ [] := by
    obtain ⟨c, hc, hpc⟩ := mem_map.mp h1
    exact ne_nil_of_mem (mem_filter.mpr ⟨hc, by simpa using hpc⟩)
  have hpos : 0 < totalWeight := total_effectiveWeight_pos h
  have hdrawn : ∀ draw : Nat, ∃ c,
      Selection.walk (effectiveWeight targets) targets ((draw : Int) % totalWeight) = some c ∧
        getRandomSatisfiedChannel cache group model retry draw = .ok (some c) := fun draw => by
    obtain ⟨c, hc⟩ := Option.isSome_iff_exists.mp
      (walk_isSome (Int.emod_nonneg draw hpos.ne') (Int.emod_lt_of_pos draw hpos))
    exact ⟨c, hc, drawn_of_walk hknown hlevel rfl hc⟩
  refine ⟨hpos, fun draw => ?_, fun c => ?_⟩
  · obtain ⟨c, h, hget⟩ := hdrawn draw
    exact ⟨c, mem_of_walk h, hget⟩
  · -- Below the total a draw is the number the walk starts from.
    have hiff : ∀ draw < totalWeight.toNat,
        (chosen (getRandomSatisfiedChannel cache group model retry draw) = some c ↔
          Selection.walk (effectiveWeight targets) targets draw = some c) := fun draw h1 => by
      obtain ⟨d, h, hget⟩ := hdrawn draw
      rw [Int.emod_eq_of_lt (by omega) (by omega)] at h
      rw [hget, h, chosen]
    rw [← count_walk (fun c _ => effectiveWeight_nonneg targets c) c]
    exact le_antisymm (Nat.count_mono_left fun draw h1 => (hiff draw h1).mp)
      (Nat.count_mono_left fun draw h1 => (hiff draw h1).mpr)

end

/-- Two channels without weights, of which the first repeats the model in its text: it gets 200
of the 300 draws. -/
theorem repeated_channel_drawn_twice :
    ((initChannelCache repeatedName (derivedAbilities repeatedName)).map fun cache =>
      ((cache.candidateRows "default" "gpt-4o").map fun c => (c.id,
        effectiveWeight (cache.candidateRows "default" "gpt-4o") c,
        Nat.count (fun draw =>
          chosen (getRandomSatisfiedChannel cache "default" "gpt-4o" 0 draw) = some c) 300))) =
      some [(1, 100, 200), (1, 100, 200), (2, 100, 100)] := by
  decide +kernel

theorem memory_draws_repeatedName :
    ∃ cache, initChannelCache repeatedName (derivedAbilities repeatedName) = some cache ∧
      ∀ draw, ∃ c ∈ cache.candidateRows "default" "gpt-4o",
        getRandomSatisfiedChannel cache "default" "gpt-4o" 1 draw = .ok (some c) := by
  have h : (initChannelCache repeatedName (derivedAbilities repeatedName)).isSome := by
    decide +kernel
  obtain ⟨cache, h1⟩ := Option.isSome_iff_exists.mp h
  have h : ∀ cache ∈ initChannelCache repeatedName (derivedAbilities repeatedName),
      cache.candidates "default" "gpt-4o" ≠ [] ∧
        ∀ id ∈ cache.candidates "default" "gpt-4o", (cache.channelsIDM id).isSome := by
    decide +kernel
  obtain ⟨hne, hknown⟩ := h cache h1
  obtain ⟨priority, -, -, h, -⟩ := memory_draws hknown hne 1
  refine ⟨cache, h1, fun draw => ?_⟩
  obtain ⟨c, hc, hget⟩ := h draw
  exact ⟨c, (mem_filter.mp hc).1, hget⟩

/-! ## The database -/

theorem pickAbility_exact_iff {found : List Ability} (hne : found ≠ []) :
    (∀ a ∈ found, Nat.count (fun draw => pickAbility found draw = some a)
        (found.map fun a => a.weight + 10).sum = a.weight + 10) ↔
      found.length = 1 := by
  match found with
  | [] => exact absurd rfl hne
  | [a] =>
    refine iff_of_true (fun b hb => ?_) rfl
    rw [mem_singleton.mp hb]
    simp only [map_cons, map_nil, sum_cons, sum_nil]
    refine Nat.count_of_forall fun {draw} hdraw => ?_
    rw [pickAbility, if_pos (by omega)]
  | a :: b :: rest =>
    refine iff_of_false (fun h => ?_) (by simp)
    have h1 : ∀ draw < a.weight + 11, pickAbility (a :: b :: rest) draw = some a :=
      fun draw hdraw => by
        rw [pickAbility, if_pos (by omega)]
    have h2 := h a mem_cons_self
    have h := Nat.count_monotone (fun draw : Nat => pickAbility (a :: b :: rest) draw = some a)
      (show a.weight + 11 ≤ ((a :: b :: rest).map fun a => a.weight + 10).sum by
        simp only [map_cons, sum_cons]
        omega)
    rw [Nat.count_of_forall fun {draw} hdraw => h1 draw hdraw] at h
    omega

/-- **The draws of an ability are exact only where it is alone.** The first of several takes
one more than its weight and ten. The draws are those by which `getChannel` finds the ability's
channel, for the abilities of a query in the order of their weights. -/
theorem ability_draws_exact_iff (found : List Ability) (hne : found ≠ []) :
    ((∀ a ∈ found, Nat.count (fun draw => pickAbility found draw = some a)
        (found.map fun a => a.weight + 10).sum = a.weight + 10) ↔
      found.length = 1) ∧
    ∀ (channels : Table ChannelRow) (abilities : List Ability) (group model : String) (retry : Nat)
      (rows : List Ability), getChannelQuery abilities group model retry = .ok rows →
      found = rows.insertionSort (fun a b => b.weight ≤ a.weight) →
      (found.map (·.channelId)).Nodup → (∀ a ∈ found, (channels.find? a.channelId).isSome) →
      ∀ a ∈ found, ∀ draw < (found.map fun a => a.weight + 10).sum,
        (chosen (getChannel channels abilities group model retry draw)).map ChannelRow.id =
            some a.channelId ↔ pickAbility found draw = some a := by
  refine ⟨pickAbility_exact_iff hne, ?_⟩
  intro channels abilities group model retry rows hquery hsort hids hstored a ha draw hdraw
  obtain ⟨b, hb, hpick⟩ := (picks_iff hne _).mp ⟨draw, rfl⟩
  obtain ⟨c, hc⟩ := Option.isSome_iff_exists.mp (hstored b hb)
  have hget : getChannel channels abilities group model retry draw = .ok (some c) := by
    rw [getChannel, hquery]
    simp only [← hsort, if_neg hne, hpick, hc]
  rw [Nat.mod_eq_of_lt hdraw] at hpick
  rw [hget, hpick, chosen, Option.map_some, Option.some.injEq, Option.some.injEq,
    show c.id = b.channelId from (Table.find?_eq_some.mp hc).2]
  exact ⟨fun h => inj_on_of_nodup_map hids hb ha h, congrArg _⟩

theorem ability_draws_exact_one :
    Nat.count (fun draw => pickAbility [⟨"default", "gpt-4o", 1, true, 0, 3⟩] draw =
      some ⟨"default", "gpt-4o", 1, true, 0, 3⟩) 13 = 13 :=
  (ability_draws_exact_iff [⟨"default", "gpt-4o", 1, true, 0, 3⟩] (by decide)).1.mpr rfl _
    mem_cons_self

/-- Two channels of equal weight get eleven and nine of the twenty draws. -/
theorem ability_draws_shifted :
    ([1, 2].map fun id => Nat.count (fun draw => (chosen (getChannel repeatedName
      (derivedAbilities repeatedName) "default" "gpt-4o" 0 draw)).map ChannelRow.id = some id) 20) =
      [11, 9] := by
  decide +kernel

end Xingkong
