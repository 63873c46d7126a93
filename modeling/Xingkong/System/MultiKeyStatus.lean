import Xingkong.Lib.Run
import Xingkong.Model.ChannelStatus

/-!
# Which keys of a channel are disabled

A channel with several keys starts with all of them enabled. After a list of updates its status list
should mark the keys that were disabled last, a string that is not a key should change nothing, and
the channel should be disabled when all its keys are.

While the channel is enabled an update to enabled ends before the status list is touched, so the
marks grow until they cover all keys (`Grown`). From then on the channel stays disabled and an
update to disabled ends early, so a mark that is taken away never returns (`Stuck`). A string that
is not a key counts as the first key; in the cached copy, where no update ends early, it changes no
mark only if it sets the status that the first key has.
-/

namespace Xingkong

open List Option

/-! ## Lists of updates -/

def StatusUpdate.disables (u : StatusUpdate) (key : String) : Prop :=
  u.usingKey = key ∧ u.status = channelStatusAutoDisabled

instance (u : StatusUpdate) (key : String) : Decidable (u.disables key) :=
  inferInstanceAs (Decidable (_ ∧ _))

def EverDisabled (updates : List StatusUpdate) (key : String) : Prop :=
  ∃ u ∈ updates, u.disables key

def lastStatus (updates : List StatusUpdate) (key : String) : Option Int :=
  ((updates.filter (·.usingKey = key)).getLast?).map (·.status)

def lastDisable (updates : List StatusUpdate) (key : String) : Option StatusUpdate :=
  (updates.filter (·.disables key)).getLast?

variable {pre updates : List StatusUpdate} {u : StatusUpdate} {key : String} {keys : List String}
  {lib : KeyLib}

theorem everDisabled_concat :
    EverDisabled (pre ++ [u]) key ↔ EverDisabled pre key ∨ u.disables key := by
  constructor
  · rintro ⟨d, hd, hkey⟩
    rcases mem_append.1 hd with hd | hd
    · exact .inl ⟨d, hd, hkey⟩
    · exact .inr (mem_singleton.1 hd ▸ hkey)
  · rintro (⟨d, hd, hkey⟩ | hkey)
    · exact ⟨d, mem_append_left _ hd, hkey⟩
    · exact ⟨u, mem_append_right _ mem_cons_self, hkey⟩

theorem lastDisable_concat :
    lastDisable (pre ++ [u]) key = if u.disables key then some u else lastDisable pre key := by
  unfold lastDisable
  rw [filter_append]
  by_cases h : u.disables key
  · rw [if_pos h, filter_cons_of_pos (by simpa using h), filter_nil, List.getLast?_concat]
  · rw [if_neg h, filter_cons_of_neg (by simpa using h), filter_nil, append_nil]

theorem lastStatus_concat : lastStatus (pre ++ [u]) key =
    if u.usingKey = key then some u.status else lastStatus pre key := by
  unfold lastStatus
  rw [filter_append]
  by_cases h : u.usingKey = key
  · rw [if_pos h, filter_cons_of_pos (by simpa using h), filter_nil, List.getLast?_concat, map_some]
  · rw [if_neg h, filter_cons_of_neg (by simpa using h), filter_nil, append_nil]

theorem EverDisabled.exists_last (h : EverDisabled updates key) :
    ∃ d, lastDisable updates key = some d := by
  obtain ⟨u, hu, hkey⟩ := h
  have hmem : u ∈ updates.filter (·.disables key) := mem_filter.2 ⟨hu, by simpa using hkey⟩
  exact ⟨_, List.getLast?_eq_some_getLast (ne_nil_of_mem hmem)⟩

theorem everDisabled_of_lastDisable (h : lastDisable updates key = some u) :
    EverDisabled updates key := by
  obtain ⟨hmem, hkey⟩ := mem_filter.1 (mem_of_getLast? h)
  exact ⟨u, hmem, by simpa using hkey⟩

/-! ## One row -/

section Row

open ChannelRecord (keyIndex markKey)
open ChannelStore (updatedRow)

def rowNext (lib : KeyLib) (row : ChannelRecord) (u : StatusUpdate) : ChannelRecord :=
  if row.status = u.status then row else updatedRow lib row u

structure ChannelRecord.HasKeys (lib : KeyLib) (keys : List String) (row : ChannelRecord) :
    Prop where
  id_ne : row.id ≠ 0
  isMultiKey : row.channelInfo.isMultiKey = true
  multiKeySize : row.channelInfo.multiKeySize = keys.length
  getKeys : row.getKeys lib = keys

variable {row : ChannelRecord} {s : ChannelStore} {k : String}

theorem ChannelRecord.HasKeys.of_eq {row' : ChannelRecord} (h : row.HasKeys lib keys)
    (hid : row'.id = row.id) (hkey : row'.key = row.key)
    (h1 : row'.channelInfo.isMultiKey = row.channelInfo.isMultiKey)
    (h2 : row'.channelInfo.multiKeySize = row.channelInfo.multiKeySize) :
    row'.HasKeys lib keys where
  id_ne := hid ▸ h.id_ne
  isMultiKey := h1.trans h.isMultiKey
  multiKeySize := h2.trans h.multiKeySize
  getKeys := by
    rw [← h.getKeys]
    unfold ChannelRecord.getKeys
    rw [hkey]

theorem keys_markKey {info : ChannelInfo} {index : Nat} {status : Int} {reason : String}
    {time : Int} :
    (markKey info index status reason time).isMultiKey = info.isMultiKey ∧
      (markKey info index status reason time).multiKeySize = info.multiKeySize := by
  unfold markKey
  split <;> exact ⟨rfl, rfl⟩

section

variable (h : row.HasKeys lib keys)

include h

theorem ChannelRecord.HasKeys.handlerMultiKeyUpdate (u : StatusUpdate) :
    (row.handlerMultiKeyUpdate lib u).HasKeys lib keys := by
  simp only [ChannelRecord.handlerMultiKeyUpdate]
  split
  · exact h.of_eq rfl rfl rfl rfl
  · split <;> exact h.of_eq rfl rfl keys_markKey.1 keys_markKey.2

theorem ChannelRecord.HasKeys.updated (u : StatusUpdate) :
    (updatedRow lib row u).HasKeys lib keys := by
  unfold updatedRow
  rw [if_pos h.isMultiKey]
  exact h.handlerMultiKeyUpdate _

theorem ChannelRecord.HasKeys.list_handler (hne : keys ≠ []) (u : StatusUpdate) :
    (row.handlerMultiKeyUpdate lib u).channelInfo.multiKeyStatusList =
      if u.status = channelStatusEnabled then
        row.channelInfo.multiKeyStatusList.erase (keyIndex keys u.usingKey)
      else row.channelInfo.multiKeyStatusList.put (keyIndex keys u.usingKey) u.status := by
  simp only [ChannelRecord.handlerMultiKeyUpdate, h.getKeys]
  rw [if_neg (by simpa using hne)]
  split <;> exact apply_ite ChannelInfo.multiKeyStatusList _ _ _

def ChannelRecord.marked (keys : List String) (row : ChannelRecord) (u : StatusUpdate) :
    ChannelInfo :=
  markKey row.channelInfo (keyIndex keys u.usingKey) u.status u.reason
    (u.clock 2)

theorem ChannelRecord.HasKeys.updatedRow_eq (hne : keys ≠ []) (u : StatusUpdate) :
    updatedRow lib row u =
      if keys.length ≤ (row.marked keys u).multiKeyStatusList.size then
        { row with channelInfo := row.marked keys u
                   status := channelStatusAutoDisabled }.withStatusReason lib
          "All keys are disabled" (u.clock 3)
      else { row with channelInfo := row.marked keys u } := by
  unfold updatedRow
  rw [if_pos h.isMultiKey]
  simp only [ChannelRecord.handlerMultiKeyUpdate, h.getKeys]
  rw [if_neg (by simpa using hne), keys_markKey.2, h.multiKeySize]
  rfl

theorem ChannelRecord.HasKeys.channelInfo_updatedRow (hne : keys ≠ []) (u : StatusUpdate) :
    (updatedRow lib row u).channelInfo = row.marked keys u := by
  rw [h.updatedRow_eq hne]
  split <;> rfl

theorem ChannelRecord.HasKeys.status_updatedRow (hne : keys ≠ []) (u : StatusUpdate) :
    (updatedRow lib row u).status =
      if keys.length ≤ (row.marked keys u).multiKeyStatusList.size then channelStatusAutoDisabled
      else row.status := by
  rw [h.updatedRow_eq hne]
  split <;> rfl

end

/-! ## The place of a key -/

theorem keyIndex_of_mem (hnd : keys.Nodup) (hk : k ∈ keys) (i : Nat) :
    keys[i]? = some k ↔ keyIndex keys k = i := by
  cases hfind : keys.findIdx? (· = k) with
  | none =>
    rw [List.findIdx?_eq_none_iff] at hfind
    exact absurd (hfind k hk) (by simp)
  | some j =>
    obtain ⟨hj, hkey, -⟩ := List.findIdx?_eq_some_iff_getElem.1 hfind
    have hkey : keys[j] = k := by simpa using hkey
    have h1 : keyIndex keys k = j := by
      unfold keyIndex
      rw [hfind]
      rfl
    rw [h1, List.getElem?_eq_some_iff]
    constructor
    · rintro ⟨hi, hik⟩
      exact (hnd.getElem_inj_iff.1 (hkey.trans hik.symm))
    · rintro rfl
      exact ⟨hj, hkey⟩

theorem keyIndex_of_not_mem (hk : k ∉ keys) : keyIndex keys k = 0 := by
  unfold keyIndex
  have h1 : keys.findIdx? (· = k) = none := by
    rw [List.findIdx?_eq_none_iff]
    intro x hx
    simpa using fun heq : x = k => hk (heq ▸ hx)
  rw [h1]
  rfl

/-! ## While the marks grow -/

def AllDisabled (keys : List String) (updates : List StatusUpdate) : Prop :=
  ∀ k ∈ keys, EverDisabled updates k

/-- The marks of a status list are the keys that have been disabled. -/
structure Marks (keys : List String) (updates : List StatusUpdate) (list : Dict Nat Int) :
    Prop where
  marked : ∀ i, list.get i = some channelStatusAutoDisabled ↔
    ∃ k, keys[i]? = some k ∧ EverDisabled updates k
  only : ∀ i v, list.get i = some v → v = channelStatusAutoDisabled

namespace Marks

variable {list : Dict Nat Int}

variable (m : Marks keys updates list)

include m

theorem isSome_get (i : Nat) :
    (list.get i).isSome ↔ ∃ k, keys[i]? = some k ∧ EverDisabled updates k := by
  rw [← m.marked i]
  constructor
  · intro h
    obtain ⟨v, hv⟩ := isSome_iff_exists.1 h
    rw [hv, m.only i v hv]
  · intro h
    rw [h]
    rfl

theorem allMarked_iff : (∀ i < keys.length, (list.get i).isSome) ↔ AllDisabled keys updates := by
  constructor
  · intro h k hk
    obtain ⟨i, hi, rfl⟩ := getElem_of_mem hk
    obtain ⟨k, hget, hk⟩ := (m.isSome_get i).1 (h i hi)
    rw [List.getElem?_eq_getElem hi] at hget
    exact Option.some.inj hget ▸ hk
  · intro h i hi
    exact (m.isSome_get i).2 ⟨keys[i], List.getElem?_eq_getElem hi, h _ (getElem_mem hi)⟩

theorem length_le_size_iff : keys.length ≤ list.size ↔ AllDisabled keys updates := by
  rw [← m.allMarked_iff]
  refine Dict.le_size_iff fun i hi => ?_
  obtain ⟨k, hk, -⟩ := (m.isSome_get i).1 hi
  exact (List.getElem?_eq_some_iff.1 hk).1

theorem put (hnd : keys.Nodup) (hkey : u.usingKey ∈ keys)
    (h1 : u.status = channelStatusAutoDisabled) : Marks keys (updates ++ [u])
      (list.put (keyIndex keys u.usingKey) channelStatusAutoDisabled) where
  marked i := by
    rw [Dict.get_put]
    have hplace := keyIndex_of_mem hnd hkey i
    split
    next hi =>
      exact iff_of_true rfl ⟨u.usingKey, hplace.2 hi, everDisabled_concat.2 (.inr ⟨rfl, h1⟩)⟩
    next hi =>
      rw [m.marked i]
      refine exists_congr fun k => and_congr_right fun hk => ?_
      rw [everDisabled_concat]
      refine ⟨.inl, fun hor => hor.resolve_right ?_⟩
      rintro ⟨rfl, -⟩
      exact hi (hplace.1 hk)
  only i v hv := by
    rw [Dict.get_put] at hv
    split at hv
    · exact (Option.some.inj hv).symm
    · exact m.only i v hv

end Marks

/-- The row after some updates, as long as no mark has been taken away: the channel is disabled when
all its keys have been. -/
structure Grown (lib : KeyLib) (keys : List String) (updates : List StatusUpdate)
    (row : ChannelRecord) : Prop where
  hasKeys : row.HasKeys lib keys
  marks : Marks keys updates row.channelInfo.multiKeyStatusList
  status : row.status = channelStatusAutoDisabled ∧ AllDisabled keys updates ∨
    row.status = channelStatusEnabled ∧ ¬ AllDisabled keys updates
  first : ¬ AllDisabled keys updates → ∀ d, keys.head?.bind (lastDisable updates) = some d →
    row.channelInfo.multiKeyDisabledReason.get 0 = some d.reason ∧
      row.channelInfo.multiKeyDisabledTime.get 0 = some (d.clock 2)

/-- What an update must be like for the marks to go on growing. -/
structure Fits (keys : List String) (updates : List StatusUpdate) (u : StatusUpdate) : Prop where
  enabling : AllDisabled keys updates → u.status ≠ channelStatusEnabled
  foreign : u.usingKey ∉ keys → u.status = channelStatusAutoDisabled →
    AllDisabled keys updates ∨ ∃ d, keys.head?.bind (lastDisable updates) = some d ∧
      d.reason = u.reason ∧ d.clock 2 = u.clock 2

theorem marked_of_disable (keys : List String) (row : ChannelRecord)
    (hstatus : u.status = channelStatusAutoDisabled) :
    row.marked keys u =
      { row.channelInfo with
        multiKeyStatusList := row.channelInfo.multiKeyStatusList.put
          (keyIndex keys u.usingKey) channelStatusAutoDisabled
        multiKeyDisabledReason := row.channelInfo.multiKeyDisabledReason.put
          (keyIndex keys u.usingKey) u.reason
        multiKeyDisabledTime := row.channelInfo.multiKeyDisabledTime.put
          (keyIndex keys u.usingKey) (u.clock 2) } := by
  unfold ChannelRecord.marked markKey
  rw [hstatus, if_neg (by decide)]

namespace Grown

variable (g : Grown lib keys updates row)
include g

theorem same (h : AllDisabled keys updates ∨ ∀ k ∈ keys, ¬ u.disables k) :
    Grown lib keys (updates ++ [u]) row := by
  have hever : ∀ k ∈ keys, EverDisabled (updates ++ [u]) k ↔ EverDisabled updates k := by
    intro k hk
    rw [everDisabled_concat]
    rcases h with h | h
    · exact ⟨fun _ => h k hk, .inl⟩
    · exact ⟨fun hor => hor.resolve_right (h k hk), .inl⟩
  have hall : AllDisabled keys (updates ++ [u]) ↔ AllDisabled keys updates :=
    forall₂_congr hever
  refine ⟨g.hasKeys, ⟨fun i => ?_, g.marks.only⟩, ?_, fun hnot d hd => ?_⟩
  · rw [g.marks.marked i]
    refine exists_congr fun k => and_congr_right fun hk => (hever k ?_).symm
    exact mem_of_getElem? hk
  · rw [hall]
    exact g.status
  · rw [hall] at hnot
    obtain ⟨k, hk, h1⟩ := bind_eq_some_iff.1 hd
    have hk' := mem_of_mem_head? hk
    rw [lastDisable_concat, if_neg (h.resolve_left hnot k hk')] at h1
    exact g.first hnot d (bind_eq_some_iff.2 ⟨k, hk, h1⟩)

theorem disable (hne : keys ≠ []) (hnd : keys.Nodup) (hkey : u.usingKey ∈ keys)
    (hstatus : u.status = channelStatusAutoDisabled) (hrow : row.status = channelStatusEnabled) :
    Grown lib keys (updates ++ [u]) (updatedRow lib row u) := by
  have hnot := (g.status.resolve_left fun h => absurd (hrow.symm.trans h.1) (by decide)).2
  have hmarked := marked_of_disable keys row hstatus
  have hput := g.marks.put hnd hkey hstatus
  refine ⟨g.hasKeys.updated u, ?_, ?_, fun _ d hd => ?_⟩
  · rw [g.hasKeys.channelInfo_updatedRow hne, hmarked]
    exact hput
  · rw [g.hasKeys.status_updatedRow hne, hmarked]
    split
    next hall =>
      exact .inl ⟨rfl, hput.length_le_size_iff.1 hall⟩
    next hall =>
      exact .inr ⟨hrow, fun h => hall (hput.length_le_size_iff.2 h)⟩
  · rw [g.hasKeys.channelInfo_updatedRow hne, hmarked]
    simp only [Dict.get_put]
    obtain ⟨k, hk, hlast⟩ := bind_eq_some_iff.1 hd
    rw [lastDisable_concat] at hlast
    have h1 := keyIndex_of_mem hnd hkey 0
    rw [← List.head?_eq_getElem?, hk, Option.some.injEq] at h1
    split at hlast
    next hdis =>
      rw [if_pos (h1.1 hdis.1.symm), if_pos (h1.1 hdis.1.symm), ← Option.some.inj hlast]
      exact ⟨rfl, rfl⟩
    next hdis =>
      have h2 : keyIndex keys u.usingKey ≠ 0 := fun h =>
        hdis ⟨(h1.2 h).symm, hstatus⟩
      rw [if_neg h2, if_neg h2]
      exact g.first hnot d (bind_eq_some_iff.2 ⟨k, hk, hlast⟩)

/-- A string that is not a key, while the channel is enabled: it counts as the first key, and the
row stays as it is exactly if that key is marked with the same reason and time. -/
theorem foreign_iff (hne : keys ≠ []) (hkey : u.usingKey ∉ keys)
    (h1 : u.status = channelStatusAutoDisabled) (hnot : ¬ AllDisabled keys updates) :
    updatedRow lib row u = row ↔
      ∃ d, keys.head?.bind (lastDisable updates) = some d ∧
        d.reason = u.reason ∧ d.clock 2 = u.clock 2 := by
  have hmarked := marked_of_disable keys row h1
  rw [keyIndex_of_not_mem hkey] at hmarked
  constructor
  · intro h1
    have hinfo : row.marked keys u = row.channelInfo :=
      (g.hasKeys.channelInfo_updatedRow hne u).symm.trans (congrArg ChannelRecord.channelInfo h1)
    rw [hmarked] at hinfo
    have hlt := Dict.put_eq_self_iff.1 (congrArg ChannelInfo.multiKeyStatusList hinfo)
    have hreason := Dict.put_eq_self_iff.1 (congrArg ChannelInfo.multiKeyDisabledReason hinfo)
    have htime := Dict.put_eq_self_iff.1 (congrArg ChannelInfo.multiKeyDisabledTime hinfo)
    obtain ⟨k, hk, h1⟩ := (g.marks.marked 0).1 hlt
    obtain ⟨d, hd⟩ := h1.exists_last
    have h1 : keys.head?.bind (lastDisable updates) = some d :=
      bind_eq_some_iff.2 ⟨k, List.head?_eq_getElem?.trans hk, hd⟩
    obtain ⟨hreason', htime'⟩ := g.first hnot d h1
    exact ⟨d, h1, Option.some.inj (hreason'.symm.trans hreason),
      Option.some.inj (htime'.symm.trans htime)⟩
  · rintro ⟨d, h1, hreason, htime⟩
    obtain ⟨hreason', htime'⟩ := g.first hnot d h1
    obtain ⟨k, hk, hd⟩ := bind_eq_some_iff.1 h1
    have hlt := (g.marks.marked 0).2
      ⟨k, List.head?_eq_getElem?.symm.trans hk, everDisabled_of_lastDisable hd⟩
    rw [hreason] at hreason'
    rw [htime] at htime'
    rw [Dict.put_eq_self_iff.2 hlt, Dict.put_eq_self_iff.2 hreason',
      Dict.put_eq_self_iff.2 htime'] at hmarked
    rw [g.hasKeys.updatedRow_eq hne, hmarked, if_neg fun h => hnot (g.marks.length_le_size_iff.1 h)]

theorem next (hne : keys ≠ []) (hnd : keys.Nodup)
    (hval : u.status = channelStatusEnabled ∨ u.status = channelStatusAutoDisabled)
    (hfits : Fits keys updates u) :
    Grown lib keys (updates ++ [u]) (rowNext lib row u) ∧
      (u.usingKey ∉ keys → rowNext lib row u = row) := by
  rcases g.status with ⟨hrow, hall⟩ | ⟨hrow, hnot⟩
  · have hstatus := hval.resolve_left (hfits.enabling hall)
    have h1 : rowNext lib row u = row := if_pos (hrow.trans hstatus.symm)
    rw [h1]
    exact ⟨g.same (.inl hall), fun _ => rfl⟩
  · rcases hval with hstatus | hstatus
    · have h1 : rowNext lib row u = row := if_pos (hrow.trans hstatus.symm)
      rw [h1]
      refine ⟨g.same (.inr fun k _ hdis => ?_), fun _ => rfl⟩
      exact absurd (hstatus.symm.trans hdis.2) (by decide)
    · have h1 : rowNext lib row u = updatedRow lib row u :=
        if_neg (by rw [hrow, hstatus]; decide)
      rw [h1]
      by_cases hkey : u.usingKey ∈ keys
      · exact ⟨g.disable hne hnd hkey hstatus hrow, fun h => absurd hkey h⟩
      · rw [(g.foreign_iff hne hkey hstatus hnot).2
          ((hfits.foreign hkey hstatus).resolve_left hnot)]
        refine ⟨g.same (.inr fun k hk hdis => hkey ?_), fun _ => rfl⟩
        exact hdis.1 ▸ hk

end Grown

/-! ## Once a mark has been taken away -/

structure Stuck (lib : KeyLib) (keys : List String) (row : ChannelRecord) : Prop where
  hasKeys : row.HasKeys lib keys
  status : row.status = channelStatusAutoDisabled
  missing : ∃ i < keys.length, row.channelInfo.multiKeyStatusList.get i = none

theorem stuck_of_enable (h : row.HasKeys lib keys) (hne : keys ≠ [])
    (hstatus : u.status = channelStatusEnabled) (hrow : row.status = channelStatusAutoDisabled)
    (hmissing : ∃ i < keys.length, (row.channelInfo.multiKeyStatusList.erase
      (keyIndex keys u.usingKey)).get i = none) :
    Stuck lib keys (rowNext lib row u) := by
  have h1 : rowNext lib row u = updatedRow lib row u :=
    if_neg (by rw [hrow, hstatus]; decide)
  rw [h1]
  refine ⟨h.updated u, ?_, ?_⟩
  · rw [h.status_updatedRow hne, hrow, ite_self]
  · rw [h.channelInfo_updatedRow hne, ChannelRecord.marked, markKey, hstatus, if_pos rfl]
    exact hmissing

theorem Stuck.next (h : Stuck lib keys row)
    (hval : u.status = channelStatusEnabled ∨ u.status = channelStatusAutoDisabled) :
    Stuck lib keys (rowNext lib row u) := by
  obtain ⟨i, hi, hget⟩ := h.missing
  rcases hval with h1 | h1
  · refine stuck_of_enable h.hasKeys (ne_nil_of_length_pos (by omega)) h1 h.status
      ⟨i, hi, ?_⟩
    rw [Dict.get_erase, hget, ite_self]
  · have h2 : rowNext lib row u = row := if_pos (h.status.trans h1.symm)
    rw [h2]
    exact h

/-- One update that does not fit: either it is for a string that is not a key and changes the row,
or it takes a mark away. -/
theorem Grown.next_of_not_fits (g : Grown lib keys updates row) (hne : keys ≠ [])
    (hnd : keys.Nodup) (hfits : ¬ Fits keys updates u) :
    (u.usingKey ∉ keys ∧ rowNext lib row u ≠ row) ∨ Stuck lib keys (rowNext lib row u) := by
  by_cases hall : AllDisabled keys updates
  · have hstatus : u.status = channelStatusEnabled := by
      by_contra hstatus
      exact hfits ⟨fun _ => hstatus, fun _ _ => .inl hall⟩
    have hrow := (g.status.resolve_right fun h => h.2 hall).1
    have hpc : keyIndex keys u.usingKey < keys.length := by
      by_cases hkey : u.usingKey ∈ keys
      · have h1 := (keyIndex_of_mem hnd hkey _).2 rfl
        exact (List.getElem?_eq_some_iff.1 h1).1
      · rw [keyIndex_of_not_mem hkey]
        exact length_pos_iff.2 hne
    refine .inr (stuck_of_enable g.hasKeys hne hstatus hrow ⟨_, hpc, ?_⟩)
    rw [Dict.get_erase, if_pos rfl]
  · have hrow := (g.status.resolve_left fun h => hall h.2).1
    by_cases hkey : u.usingKey ∈ keys
    · exact absurd ⟨fun h => absurd h hall, fun h => absurd hkey h⟩ hfits
    · have hstatus : u.status = channelStatusAutoDisabled := by
        by_contra hstatus
        exact hfits ⟨fun h => absurd h hall, fun _ h => absurd h hstatus⟩
      have h1 : rowNext lib row u = updatedRow lib row u :=
        if_neg (by rw [hrow, hstatus]; decide)
      refine .inl ⟨hkey, fun h2 => hfits ⟨fun h => absurd h hall, fun _ _ => .inr ?_⟩⟩
      rw [h1] at h2
      exact (g.foreign_iff hne hkey hstatus hall).1 h2

/-! ## All updates -/

def Statuses (updates : List StatusUpdate) : Prop :=
  ∀ u ∈ updates, u.status = channelStatusEnabled ∨ u.status = channelStatusAutoDisabled

def AllFit (keys : List String) (updates : List StatusUpdate) : Prop :=
  ∀ pre u, pre ++ [u] <+: updates → Fits keys pre u

def rowAfter (lib : KeyLib) (row : ChannelRecord) (updates : List StatusUpdate) : ChannelRecord :=
  Run.final (rowNext lib) row updates

theorem rowAfter_concat :
    rowAfter lib row (updates ++ [u]) = rowNext lib (rowAfter lib row updates) u := Run.final_append

def ForeignQuiet (lib : KeyLib) (keys : List String) (row : ChannelRecord)
    (updates : List StatusUpdate) : Prop :=
  ∀ pre u, pre ++ [u] <+: updates → u.usingKey ∉ keys →
    rowAfter lib row (pre ++ [u]) = rowAfter lib row pre

theorem ForeignQuiet.rowAfter_eq (h1 : ForeignQuiet lib keys row updates)
    (h2 : ∀ u ∈ updates, u.usingKey ∉ keys) : rowAfter lib row updates = row := by
  induction updates using List.reverseRecOn with
  | nil => rfl
  | append_singleton updates u ih =>
    obtain ⟨h1, h3⟩ := Run.forall_concat_prefix.1 h1
    obtain ⟨h2, hkey⟩ := forall_mem_append.1 h2
    exact (h3 (hkey u mem_cons_self)).trans (ih h1 h2)

section Run

variable (hne : keys ≠ []) (hnd : keys.Nodup)
include hne hnd

theorem Grown.after (g : Grown lib keys [] row) (hval : Statuses updates)
    (hfit : AllFit keys updates) :
    Grown lib keys updates (rowAfter lib row updates) ∧ ForeignQuiet lib keys row updates := by
  induction updates using List.reverseRecOn with
  | nil => exact ⟨g, fun pre u h => absurd (prefix_nil.1 h) (by simp)⟩
  | append_singleton updates u ih =>
    obtain ⟨hfit, h1⟩ := Run.forall_concat_prefix.1 hfit
    obtain ⟨hval, hu⟩ := forall_mem_append.1 hval
    obtain ⟨h2, h3⟩ := ih hval hfit
    obtain ⟨h4, h5⟩ := h2.next hne hnd (hu u mem_cons_self) h1
    rw [← rowAfter_concat] at h4 h5
    exact ⟨h4, Run.forall_concat_prefix.2 ⟨h3, h5⟩⟩

/-- If some update does not fit and strings that are not keys change nothing, a mark has been taken
away for good. -/
theorem Grown.stuck_after (g : Grown lib keys [] row) (hval : Statuses updates)
    (hquiet : ForeignQuiet lib keys row updates) (hfit : ¬ AllFit keys updates) :
    Stuck lib keys (rowAfter lib row updates) := by
  induction updates using List.reverseRecOn with
  | nil => exact absurd (fun pre u h => absurd (prefix_nil.1 h) (by simp)) hfit
  | append_singleton updates u ih =>
    obtain ⟨hquiet, h1⟩ := Run.forall_concat_prefix.1 hquiet
    obtain ⟨hval, hu⟩ := forall_mem_append.1 hval
    rw [rowAfter_concat] at h1 ⊢
    by_cases hpre : AllFit keys updates
    · have h2 : ¬ Fits keys updates u := fun h =>
        hfit (Run.forall_concat_prefix.2 ⟨hpre, h⟩)
      rcases (g.after hne hnd hval hpre).1.next_of_not_fits hne hnd h2 with
        ⟨hkey, h2⟩ | h3
      · exact absurd (h1 hkey) h2
      · exact h3
    · exact (ih hval hquiet hpre).next (hu u mem_cons_self)

end Run

/-! ## The marks in the cache -/

def cacheAfter (lib : KeyLib) (channel : ChannelRecord) (updates : List StatusUpdate) :
    ChannelRecord :=
  Run.final (ChannelRecord.handlerMultiKeyUpdate lib) channel updates

theorem cacheAfter_concat : cacheAfter lib row (updates ++ [u]) =
    (cacheAfter lib row updates).handlerMultiKeyUpdate lib u := Run.final_append

def marksAfter (lib : KeyLib) (channel : ChannelRecord) (updates : List StatusUpdate) :
    Dict Nat Int :=
  (cacheAfter lib channel updates).channelInfo.multiKeyStatusList

/-- The status of a key in the copy: enabled until it gets an update. -/
def cachedStatus (updates : List StatusUpdate) (key : String) : Int :=
  (lastStatus updates key).getD channelStatusEnabled

section Cache

variable {first : String} (h : row.HasKeys lib keys) (hnd : keys.Nodup)
  (hfirst : keys.head? = some first) (hempty : row.channelInfo.multiKeyStatusList = Dict.empty)

include h hfirst

theorem marksAfter_concat : marksAfter lib row (updates ++ [u]) =
    if u.status = channelStatusEnabled then
      (marksAfter lib row updates).erase (keyIndex keys u.usingKey)
    else (marksAfter lib row updates).put (keyIndex keys u.usingKey) u.status := by
  have hkeys : (cacheAfter lib row updates).HasKeys lib keys :=
    Run.final_invariant h fun _ u _ h => h.handlerMultiKeyUpdate u
  rw [marksAfter, cacheAfter_concat, hkeys.list_handler]
  · rfl
  · rintro rfl
    cases hfirst

include hnd hempty

theorem first_marksAfter
    (hquiet : ∀ pre u, pre ++ [u] <+: updates → u.usingKey ∉ keys →
      marksAfter lib row (pre ++ [u]) = marksAfter lib row pre) :
    (marksAfter lib row updates).get 0 =
      if cachedStatus updates first = channelStatusEnabled then none
      else some (cachedStatus updates first) := by
  induction updates using List.reverseRecOn with
  | nil =>
    show row.channelInfo.multiKeyStatusList.get 0 = none
    rw [hempty]
    rfl
  | append_singleton updates u ih =>
    obtain ⟨hquiet, hsame⟩ := Run.forall_concat_prefix.1 hquiet
    have hget := ih hquiet
    unfold cachedStatus at hget ⊢
    rw [lastStatus_concat]
    by_cases hkey : u.usingKey ∈ keys
    · have hplace := keyIndex_of_mem hnd hkey 0
      rw [← List.head?_eq_getElem?, hfirst, Option.some.injEq, eq_comm] at hplace
      rw [marksAfter_concat h hfirst, apply_ite (Dict.get · 0), Dict.get_erase, Dict.get_put]
      simp only [← hplace]
      by_cases heq : u.usingKey = first
      · simp only [if_pos heq, Option.getD_some]
      · simp only [if_neg heq, ← hget, ite_self]
    · have hother : u.usingKey ≠ first := by
        rintro rfl
        exact hkey (mem_of_mem_head? hfirst)
      rw [hsame hkey, if_neg hother, hget]

/-- A string that is not a key counts as the first one, and no update ends early: it changes no mark
if it sets the status that the first key has. -/
theorem foreign_marksAfter_iff :
    (∀ pre u, pre ++ [u] <+: updates → u.usingKey ∉ keys →
      marksAfter lib row (pre ++ [u]) = marksAfter lib row pre) ↔
    ∀ pre u, pre ++ [u] <+: updates → u.usingKey ∉ keys → u.status = cachedStatus pre first := by
  induction updates using List.reverseRecOn with
  | nil => simp
  | append_singleton updates u ih =>
    rw [Run.forall_concat_prefix, Run.forall_concat_prefix, ← ih]
    refine and_congr_right fun hquiet => imp_congr_right fun hkey => ?_
    have hget := first_marksAfter h hnd hfirst hempty hquiet
    rw [marksAfter_concat h hfirst, keyIndex_of_not_mem hkey]
    split
    next hu =>
      rw [Dict.erase_eq_self_iff, hget, hu, eq_comm (a := channelStatusEnabled)]
      simp
    next hu =>
      rw [Dict.put_eq_self_iff, hget]
      split
      next h1 => simp [h1, hu]
      · rw [Option.some.injEq, eq_comm]

end Cache

/-! ## The two copies -/

/-- The stored row, and the cached copy if there is a cache; both have the same keys. -/
structure ChannelStore.Keeps (lib : KeyLib) (keys : List String) (s : ChannelStore)
    (memory : Bool) (row c : ChannelRecord) : Prop where
  memoryCache : s.memoryCacheEnabled = memory
  stored : s.stored = some row
  hasKeys : row.HasKeys lib keys
  cached : memory = true → s.cached = some c
  cachedKeys : c.HasKeys lib keys

/-- The cached copy never stops an update of a channel with several keys. -/
theorem ChannelStore.Keeps.next {memory : Bool} {c : ChannelRecord}
    (h : s.Keeps lib keys memory row c) (u : StatusUpdate) :
    (s.next lib u).Keeps lib keys memory (rowNext lib row u) (c.handlerMultiKeyUpdate lib u) := by
  have hkeys := h.cachedKeys.handlerMultiKeyUpdate u
  have hcache : ∃ s', s.updateCached lib u = some s' ∧
      s'.Keeps lib keys memory row (c.handlerMultiKeyUpdate lib u) := by
    unfold updateCached
    cases memory with
    | false =>
      exact ⟨s, by rw [h.memoryCache]; rfl, h.memoryCache, h.stored, h.hasKeys, nofun, hkeys⟩
    | true =>
      rw [h.memoryCache, h.cached rfl]
      simp only [h.cachedKeys.isMultiKey]
      exact ⟨_, rfl, rfl, h.stored, h.hasKeys, fun _ => rfl, hkeys⟩
  obtain ⟨s', hs', hkeeps⟩ := hcache
  unfold ChannelStore.next updateChannelStatus
  rw [hs']
  show (s'.updateStored lib u).2.Keeps lib keys memory _ _
  unfold updateStored rowNext
  rw [hkeeps.stored]
  simp only
  split
  · exact hkeeps
  · rw [if_neg h.hasKeys.id_ne]
    split <;> exact ⟨hkeeps.memoryCache, rfl, h.hasKeys.updated u, hkeeps.cached, hkeys⟩

theorem ChannelStore.Keeps.after {memory : Bool} {c : ChannelRecord}
    (h : s.Keeps lib keys memory row c) (updates : List StatusUpdate) :
    (Run.final (ChannelStore.next lib) s updates).Keeps lib keys memory
      (rowAfter lib row updates) (cacheAfter lib c updates) := by
  induction updates using List.reverseRecOn with
  | nil => exact h
  | append_singleton updates u ih =>
    rw [Run.final_append, rowAfter_concat, cacheAfter_concat]
    exact ih.next u

end Row

/-! ## Marks and updates -/

/-- A channel with several distinct keys, enabled and without marks. -/
structure ChannelRecord.Fresh (lib : KeyLib) (channel : ChannelRecord) : Prop where
  id_ne : channel.id ≠ 0
  isMultiKey : channel.channelInfo.isMultiKey = true
  multiKeySize : channel.channelInfo.multiKeySize = (channel.getKeys lib).length
  nodup : (channel.getKeys lib).Nodup
  status : channel.status = channelStatusEnabled
  multiKeyStatusList : channel.channelInfo.multiKeyStatusList = Dict.empty

/-- What the stored channel should say after some updates. -/
structure KeysTracked (lib : KeyLib) (s : ChannelStore) (keys : List String)
    (updates : List StatusUpdate) : Prop where
  /-- The marks are the keys whose most recent update disabled them. -/
  marked : ∀ row, (Run.final (ChannelStore.next lib) s updates).stored = some row → ∀ i,
    (row.channelInfo.multiKeyStatusList.get i).isSome ↔
      ∃ k, keys[i]? = some k ∧ lastStatus updates k = some channelStatusAutoDisabled
  /-- A string that is not a key changes nothing. -/
  foreign : ∀ pre u, pre ++ [u] <+: updates → u.usingKey ∉ keys →
    (Run.final (ChannelStore.next lib) s (pre ++ [u])).stored =
      (Run.final (ChannelStore.next lib) s pre).stored
  /-- The channel is disabled when every key is marked. -/
  status : ∀ row, (Run.final (ChannelStore.next lib) s updates).stored = some row →
    (row.status = channelStatusAutoDisabled ↔
      ∀ i < keys.length, (row.channelInfo.multiKeyStatusList.get i).isSome)

/-- A string that is not a key changes no mark in the cache. -/
def CachedMarksKept (lib : KeyLib) (s : ChannelStore) (keys : List String)
    (updates : List StatusUpdate) : Prop :=
  ∀ pre u, pre ++ [u] <+: updates → u.usingKey ∉ keys →
    (Run.final (ChannelStore.next lib) s (pre ++ [u])).cached.map
        (·.channelInfo.multiKeyStatusList) =
      (Run.final (ChannelStore.next lib) s pre).cached.map
        (·.channelInfo.multiKeyStatusList)

structure UpdatesFit (keys : List String) (updates : List StatusUpdate) : Prop where
  keys_ne : keys ≠ []
  /-- A key that has been disabled is not enabled again, or is disabled once more. -/
  lasting : ∀ k ∈ keys, EverDisabled updates k →
    lastStatus updates k = some channelStatusAutoDisabled
  /-- Nothing is enabled after all keys have been disabled. -/
  enabling : ∀ pre u, pre ++ [u] <+: updates → AllDisabled keys pre →
    u.status ≠ channelStatusEnabled
  /-- A string that is not a key is disabled after all keys, or again as the first key was. -/
  foreign : ∀ pre u, pre ++ [u] <+: updates → u.usingKey ∉ keys →
    u.status = channelStatusAutoDisabled →
    AllDisabled keys pre ∨ ∃ d, keys.head?.bind (lastDisable pre) = some d ∧
      d.reason = u.reason ∧ d.clock 2 = u.clock 2

theorem updatesFit_iff :
    UpdatesFit keys updates ↔ keys ≠ [] ∧
      (∀ k ∈ keys, EverDisabled updates k →
        lastStatus updates k = some channelStatusAutoDisabled) ∧ AllFit keys updates := by
  constructor
  · intro h
    exact ⟨h.keys_ne, h.lasting, fun pre u hpre => ⟨h.enabling pre u hpre, h.foreign pre u hpre⟩⟩
  · rintro ⟨hne, h1, hfit⟩
    exact ⟨hne, h1, fun pre u hpre => (hfit pre u hpre).enabling,
      fun pre u hpre => (hfit pre u hpre).foreign⟩

variable {channel : ChannelRecord}

theorem ChannelRecord.Fresh.hasKeys (h : channel.Fresh lib) :
    channel.HasKeys lib (channel.getKeys lib) := ⟨h.id_ne, h.isMultiKey, h.multiKeySize, rfl⟩

theorem ChannelRecord.Fresh.keeps (h : channel.Fresh lib) (memoryCacheEnabled : Bool)
    (abilities : List Ability) :
    (ChannelStore.init memoryCacheEnabled channel abilities).Keeps lib (channel.getKeys lib)
      memoryCacheEnabled channel channel :=
  ⟨rfl, rfl, h.hasKeys, fun hmem => if_pos hmem, h.hasKeys⟩

theorem ChannelRecord.Fresh.grown (h : channel.Fresh lib) (hne : channel.getKeys lib ≠ []) :
    Grown lib (channel.getKeys lib) [] channel := by
  have hnone (k : String) : ¬ EverDisabled [] k := by
    rintro ⟨u, hu, -⟩
    cases hu
  refine ⟨h.hasKeys, ?_, .inr ⟨h.status, fun hall => ?_⟩, fun _ d hd => ?_⟩
  · rw [h.multiKeyStatusList]
    refine ⟨fun i => ?_, fun i v hv => nomatch hv⟩
    exact ⟨fun h => (nomatch h), fun ⟨k, _, hk⟩ => absurd hk (hnone k)⟩
  · obtain ⟨k, hk⟩ := exists_mem_of_ne_nil _ hne
    exact hnone k (hall k hk)
  · obtain ⟨k, -, h1⟩ := bind_eq_some_iff.1 hd
    exact absurd (everDisabled_of_lastDisable h1) (hnone k)

/-- **Which keys are disabled**: the status list marks the keys that were disabled last, strings
that are not keys have changed nothing and the channel is disabled when every key is marked,
exactly for the updates in which no disabled key stays enabled at the end, nothing is enabled
after all keys were disabled, and a string that is not a key is disabled after all keys or as the
first key was just before. In the cache such strings change no mark exactly if each sets the status
that the first key had last. -/
theorem keys_tracked_iff (lib : KeyLib) (memoryCacheEnabled : Bool) (channel : ChannelRecord)
    (abilities : List Ability) (updates : List StatusUpdate) (hfresh : channel.Fresh lib)
    (hval : ∀ u ∈ updates,
      u.status = channelStatusEnabled ∨ u.status = channelStatusAutoDisabled) :
    (KeysTracked lib (ChannelStore.init memoryCacheEnabled channel abilities) (channel.getKeys lib)
        updates ↔
      UpdatesFit (channel.getKeys lib) updates) ∧
    ∀ first, (channel.getKeys lib).head? = some first →
      (CachedMarksKept lib (ChannelStore.init true channel abilities) (channel.getKeys lib)
          updates ↔
        ∀ pre u, pre ++ [u] <+: updates → u.usingKey ∉ channel.getKeys lib →
          u.status = cachedStatus pre first) := by
  have hafter := fun updates => ((hfresh.keeps memoryCacheEnabled abilities).after updates).stored
  refine ⟨?_, fun first hfirst => ?_⟩
  swap
  · rw [← foreign_marksAfter_iff hfresh.hasKeys hfresh.nodup hfirst hfresh.multiKeyStatusList]
    have hcached := fun updates => ((hfresh.keeps true abilities).after updates).cached rfl
    simp only [CachedMarksKept, hcached, Option.map_some, Option.some.injEq]
    rfl
  rw [updatesFit_iff]
  constructor
  · intro h
    have hquiet : ForeignQuiet lib (channel.getKeys lib) channel updates := by
      intro pre u hpre hkey
      have h1 := h.foreign pre u hpre hkey
      rw [hafter, hafter] at h1
      exact Option.some.inj h1
    have hstatus := h.status _ (hafter updates)
    have hne : channel.getKeys lib ≠ [] := by
      -- without keys every string is foreign, and the channel would have to start disabled
      intro hnil
      rw [hquiet.rowAfter_eq (by rw [hnil]; exact fun _ _ => not_mem_nil), hnil,
        hfresh.status] at hstatus
      exact absurd (hstatus.2 fun i hi => absurd hi (Nat.not_lt_zero i)) (by decide)
    have hgrown := hfresh.grown hne
    have hfit : AllFit (channel.getKeys lib) updates := by
      by_contra hfit
      have h1 := hgrown.stuck_after hne hfresh.nodup hval hquiet hfit
      obtain ⟨i, hi, h2⟩ := h1.missing
      have h3 := hstatus.1 h1.status i hi
      rw [h2] at h3
      cases h3
    refine ⟨hne, fun k hk h1 => ?_, hfit⟩
    have h2 := (hgrown.after hne hfresh.nodup hval hfit).1.marks
    obtain ⟨i, hi, rfl⟩ := getElem_of_mem hk
    have hget := List.getElem?_eq_getElem hi
    obtain ⟨k, hk', h3⟩ := (h.marked _ (hafter updates) i).1
      ((h2.isSome_get i).2 ⟨_, hget, h1⟩)
    exact Option.some.inj (hget.symm.trans hk') ▸ h3
  · rintro ⟨hne, h1, hfit⟩
    obtain ⟨hgrown, hquiet⟩ := (hfresh.grown hne).after hne hfresh.nodup hval hfit
    refine ⟨fun row hrow i => ?_, fun pre u hpre hkey => ?_, fun row hrow => ?_⟩
    · rw [hafter] at hrow
      rw [← Option.some.inj hrow, hgrown.marks.isSome_get]
      refine exists_congr fun k => and_congr_right fun hk => ?_
      refine ⟨h1 k (mem_of_getElem? hk), fun h => ?_⟩
      obtain ⟨u, hu, hstatus⟩ := map_eq_some_iff.1 h
      have hmem := mem_filter.1 (mem_of_getLast? hu)
      exact ⟨u, hmem.1, by simpa using hmem.2, hstatus⟩
    · rw [hafter, hafter, hquiet pre u hpre hkey]
    · rw [hafter] at hrow
      rw [← Option.some.inj hrow, hgrown.marks.allMarked_iff]
      rcases hgrown.status with ⟨hstatus, hall⟩ | ⟨hstatus, hnot⟩
      · exact iff_of_true hstatus hall
      · exact iff_of_false (by rw [hstatus]; decide) hnot

/-! ## Two keys -/

def plainKeyLib : KeyLib where
  get _ _ := none
  set json _ _ := some json
  delete json _ := some json
  encode _ := ""
  format _ := ""
  parse _ := none
  regexReplace _ s _ := some s
  rawArray _ := none

def twoKeys : ChannelRecord where
  id := 1
  key := "a\nb"
  status := channelStatusEnabled
  otherInfo := ""
  channelInfo :=
    { isMultiKey := true, multiKeySize := 2, multiKeyStatusList := Dict.empty
      multiKeyDisabledReason := Dict.empty, multiKeyDisabledTime := Dict.empty }

theorem getKeys_twoKeys : twoKeys.getKeys plainKeyLib = ["a", "b"] := by decide +kernel

theorem twoKeys_fresh : twoKeys.Fresh plainKeyLib where
  id_ne := by decide
  isMultiKey := rfl
  multiKeySize := by rw [getKeys_twoKeys]; rfl
  nodup := by rw [getKeys_twoKeys]; decide
  status := rfl
  multiKeyStatusList := rfl

def disableKey (key : String) : StatusUpdate :=
  { usingKey := key, status := channelStatusAutoDisabled, reason := "", clock := fun _ => 0 }

def enableKey (key : String) : StatusUpdate :=
  { usingKey := key, status := channelStatusEnabled, reason := "", clock := fun _ => 0 }

theorem keys_tracked_one_disabled :
    KeysTracked plainKeyLib (ChannelStore.init true twoKeys []) (twoKeys.getKeys plainKeyLib)
      [disableKey "b"] := by
  refine (keys_tracked_iff plainKeyLib true twoKeys [] [disableKey "b"] twoKeys_fresh ?_).1.2 ?_
  · intro u hu
    exact .inr (by rw [mem_singleton.1 hu]; rfl)
  · rw [getKeys_twoKeys]
    refine updatesFit_iff.2 ⟨by decide, ?_, ?_⟩
    · rintro k - ⟨u, hu, hkey, -⟩
      rw [mem_singleton.1 hu] at hkey
      rw [← hkey]
      rfl
    · show AllFit ["a", "b"] ([] ++ [disableKey "b"])
      refine Run.forall_concat_prefix.2 ⟨fun pre u h => ?_, ?_⟩
      · exact absurd (prefix_nil.1 h) (by simp)
      · exact ⟨fun _ => by decide, fun h => absurd (by decide) h⟩

def oneMark : ChannelRecord :=
  { twoKeys with
    channelInfo := ChannelRecord.markKey twoKeys.channelInfo 0 channelStatusAutoDisabled "" 0 }

def stuckMark : ChannelRecord :=
  { twoKeys with
    status := channelStatusAutoDisabled
    channelInfo := ChannelRecord.markKey
      (ChannelRecord.markKey oneMark.channelInfo 1 channelStatusAutoDisabled "" 0) 0
      channelStatusEnabled "" 0 }

/-- A string that is not a key marks the first key; an enabled channel does not enable a key again;
a disabled channel stays disabled when a key is enabled; a string that is not a key enables the
first key in the cache. -/
theorem keys_not_tracked :
    ¬ KeysTracked plainKeyLib (ChannelStore.init true twoKeys []) ["a", "b"] [disableKey "c"] ∧
    ¬ KeysTracked plainKeyLib (ChannelStore.init true twoKeys []) ["a", "b"]
        [disableKey "a", enableKey "a"] ∧
    ¬ KeysTracked plainKeyLib (ChannelStore.init true twoKeys []) ["a", "b"]
        [disableKey "a", disableKey "b", enableKey "a"] ∧
    ¬ CachedMarksKept plainKeyLib (ChannelStore.init true twoKeys []) ["a", "b"]
        [disableKey "a", enableKey "c"] := by
  refine ⟨fun h => ?_, fun h => ?_, fun h => ?_, fun h => ?_⟩
  · have h1 := h.foreign [] (disableKey "c") (prefix_refl _) (by decide)
    revert h1
    decide +kernel
  · obtain ⟨k, hk, h1⟩ := (h.marked oneMark (by decide +kernel) 0).1 (by decide)
    cases hk
    revert h1
    decide
  · have h1 := (h.status stuckMark (by decide +kernel)).1 rfl 0 (by decide)
    revert h1
    decide
  · have hkept := h [disableKey "a"] (enableKey "c") (prefix_refl _) (by decide)
    revert hkept
    decide +kernel

end Xingkong
