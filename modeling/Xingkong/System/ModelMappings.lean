import Xingkong.Model.ModelMapping

/-!
# Model mappings across retries

In responses-compact mode a channel should be sent the end of its own mapping chain, started from
the client's model. The relay maps the model that the attempt before has left instead. The two agree
for all channels exactly if each channel's chain from the end of its predecessor's chain comes to
where its chain from the client's model comes.
-/

namespace Xingkong

open Follow Relation List

/-! ## The end of a chain -/

def nextModel (modelMap : Dict String String) (model : String) : Option String :=
  (modelMap.get model).filter (· ≠ "")

variable {modelMap : Dict String String}

variable {b model origin current : String} {n : Nat} {mapped : Bool} {visited : List String}

theorem nextModel_eq_some {a : String} :
    nextModel modelMap a = some b ↔ modelMap.get a = some b ∧ b ≠ "" := by
  unfold nextModel
  simp

def chainEnd (modelMap : Dict String String) (model : String) : String :=
  follow (nextModel modelMap) modelMap.size model

theorem nextModel_chainEnd (h : Acyclic (nextModel modelMap)) (model : String) :
    nextModel modelMap (chainEnd modelMap model) = none := by
  have hdom : ∀ b, ReflTransGen (Sends (nextModel modelMap)) model b →
      (nextModel modelMap b).isSome → b ∈ modelMap.entries.map Prod.fst := by
    intro b _ hb
    obtain ⟨b', hb'⟩ := Option.isSome_iff_exists.1 hb
    rw [← Dict.isSome_get, (nextModel_eq_some.1 hb').1]
    rfl
  exact next_follow_eq_none h hdom (length_map _).le

theorem follow_nextModel_ne_empty (h : model ≠ "") : follow (nextModel modelMap) n model ≠ "" := by
  induction n generalizing model with
  | zero => exact h
  | succ n ih =>
    cases h : nextModel modelMap model with
    | none => rwa [follow_of_none h]
    | some b =>
      rw [follow_of_some h]
      exact ih (nextModel_eq_some.1 h).2

theorem chainEnd_ne_empty (h1 : Acyclic (nextModel modelMap))
    (h : nextModel modelMap model = some b) : chainEnd modelMap model ≠ "" := by
  have hend := nextModel_chainEnd h1 model
  unfold chainEnd at hend ⊢
  cases h1 : modelMap.size with
  | zero =>
    rw [h1] at hend
    exact absurd (h.symm.trans hend) (by simp)
  | succ n =>
    rw [follow_of_some h]
    exact follow_nextModel_ne_empty (nextModel_eq_some.1 h).2

/-! ## The loop -/

/-- The next model of a chain. The chain ends at a model without a mapping, with an empty mapping
or with a mapping to itself. -/
def chainNext (modelMap : Dict String String) (model : String) : Option String :=
  (nextModel modelMap model).filter (· ≠ model)

def ChainEnds (modelMap : Dict String String) (model last : String) : Prop :=
  ReflTransGen (Sends (chainNext modelMap)) model last ∧ chainNext modelMap last = none

/-- The chain runs into a cycle, which has two models at least since no step leads to itself. -/
def ChainLoops (modelMap : Dict String String) (model : String) : Prop :=
  ∃ a, ReflTransGen (Sends (chainNext modelMap)) model a ∧
    TransGen (Sends (chainNext modelMap)) a a

/-- What the loop can come to from a model. -/
inductive WalkEnds (modelMap : Dict String String) (origin model : String) (mapped : Bool) :
    Walk → Prop
  | found {last : String} {flag : Bool} : ChainEnds modelMap model last →
      (model = origin → mapped = false → flag = decide (last ≠ origin)) →
      WalkEnds modelMap origin model mapped (.found last flag)
  | identity : ChainEnds modelMap model origin → WalkEnds modelMap origin model mapped .identity
  | cycle : ChainLoops modelMap model → WalkEnds modelMap origin model mapped .cycle

/-- The loop never runs longer than it is given: the models it has left are keys of the map, and
none twice. -/
theorem walk_ends {left : List String} {flag : Bool} (hnd : (current :: left).Nodup)
    (hkeys : left ⊆ modelMap.entries.map Prod.fst) (hn : modelMap.size + 1 ≤ n + left.length)
    (hreach : ReflTransGen (Sends (chainNext modelMap)) model current)
    (hleft : ∀ v ∈ left, TransGen (Sends (chainNext modelMap)) v current)
    (hstart : model ∈ current :: left)
    (hflag : model = origin → mapped = false → flag = decide (current ≠ origin)) :
    WalkEnds modelMap origin model mapped
      (walk modelMap origin n (current :: left) current flag) := by
  induction n generalizing current left flag with
  | zero =>
    have hle := (hnd.of_cons.subperm hkeys).length_le
    rw [length_map] at hle
    have h : modelMap.size = modelMap.entries.length := rfl
    omega
  | succ n ih =>
    unfold walk
    split
    next hget => exact .found ⟨hreach, by simp [chainNext, nextModel, hget]⟩ hflag
    next mappedModel hget =>
      split
      next h => exact .found ⟨hreach, by simp [chainNext, nextModel, hget, h]⟩ hflag
      next hne =>
        have hnext : mappedModel ≠ current → chainNext modelMap current = some mappedModel :=
          fun h => by simp [chainNext, nextModel, hget, hne, h]
        split
        next hold =>
          split
          next h1 =>
            have hend : chainNext modelMap current = none := by
              simp [chainNext, nextModel, hget, h1]
            split
            next hor => exact .identity (hor ▸ ⟨hreach, hend⟩)
            next hor => exact .found ⟨hreach, hend⟩ fun _ _ => by simpa using hor
          next h1 =>
            have h2 := hleft mappedModel ((mem_cons.1 hold).resolve_left h1)
            exact .cycle ⟨current, hreach, .head (hnext h1) h2⟩
        next hnew =>
          have hstep := hnext fun h => hnew (h ▸ mem_cons_self)
          refine ih (nodup_cons.2 ⟨hnew, hnd⟩) ?_ (by rw [length_cons]; omega)
            (hreach.tail hstep) ?_ (mem_cons_of_mem _ hstart) ?_
          · refine cons_subset.2 ⟨?_, hkeys⟩
            rw [← Dict.isSome_get, hget]
            rfl
          · intro v hv
            rcases mem_cons.1 hv with rfl | hv
            · exact .single hstep
            · exact (hleft v hv).tail hstep
          · rintro rfl -
            have h1 : mappedModel ≠ model := fun h => hnew (h ▸ hstart)
            simpa using h1

theorem walkFrom_ends (origin model : String) (mapped : Bool) :
    WalkEnds modelMap origin model mapped (walkFrom modelMap origin model mapped) :=
  walk_ends (nodup_singleton model) (nil_subset _) (Nat.le_refl _) .refl
    (forall_mem_nil _) mem_cons_self fun h h' => by simp [h, h']

theorem walk_of_none (h : nextModel modelMap current = none) :
    walk modelMap origin (n + 1) visited current mapped = .found current mapped := by
  unfold walk
  split
  · rfl
  next mappedModel hget =>
    by_cases h1 : mappedModel = ""
    · rw [if_pos h1]
    · have h2 := nextModel_eq_some.2 ⟨hget, h1⟩
      rw [h] at h2
      cases h2

theorem walk_eq (h : Acyclic (nextModel modelMap)) (origin : String) (mapped : Bool)
    (hvisited : ∀ v ∈ visited, ReflTransGen (Sends (nextModel modelMap)) v current)
    (hend : nextModel modelMap (follow (nextModel modelMap) n current) = none) :
    walk modelMap origin (n + 1) visited current mapped =
      .found (follow (nextModel modelMap) n current)
        (mapped || (nextModel modelMap current).isSome) := by
  induction n generalizing visited current mapped with
  | zero =>
    have h1 : nextModel modelMap current = none := hend
    rw [walk_of_none h1, h1]
    simp [follow]
  | succ n ih =>
    cases hnext : nextModel modelMap current with
    | none =>
      rw [walk_of_none hnext, follow_of_none hnext]
      simp
    | some b =>
      have hnew : b ∉ visited := fun hb =>
        h b (TransGen.tail' (hvisited b hb) hnext)
      rw [follow_of_some hnext] at hend ⊢
      obtain ⟨hget, hne⟩ := nextModel_eq_some.1 hnext
      rw [walk, hget]
      simp only [if_neg hne, if_neg hnew]
      rw [ih true ?_ hend]
      · simp
      · intro v hv
        rcases mem_cons.1 hv with rfl | hv
        · exact .refl
        · exact (hvisited v hv).tail hnext

theorem walkFrom_eq (h : Acyclic (nextModel modelMap)) (origin model : String) :
    walkFrom modelMap origin model false =
      .found (chainEnd modelMap model) (nextModel modelMap model).isSome := by
  refine (walk_eq h origin false ?_ (nextModel_chainEnd h model)).trans ?_
  · intro v hv
    rw [mem_singleton.1 hv]
  · rw [Bool.false_or]
    rfl

/-! ## One attempt -/

def MappingChannel.mapping (unmarshal : UnmarshalMap) (channel : MappingChannel) :
    Option (Dict String String) :=
  if channel.getModelMapping ≠ "" ∧ channel.getModelMapping ≠ "\x7b\x7d" then
    unmarshal channel.getModelMapping
  else some Dict.empty

/-- The channel has a mapping, and no model comes back to itself in it. -/
def MappingChannel.Acyclic (unmarshal : UnmarshalMap) (channel : MappingChannel) : Prop :=
  ∃ modelMap, channel.mapping unmarshal = some modelMap ∧ Follow.Acyclic (nextModel modelMap)

def MappingChannel.chainEnd (unmarshal : UnmarshalMap) (channel : MappingChannel)
    (model : String) : String :=
  Xingkong.chainEnd ((channel.mapping unmarshal).getD Dict.empty) model

variable {unmarshal : UnmarshalMap} {channel : MappingChannel} {channels : List MappingChannel}

theorem mapModel_eq (h : channel.Acyclic unmarshal)
    (originalModel upstream origin model : String) :
    ∃ channelMeta, mapModel unmarshal ⟨originalModel, channel.getModelMapping⟩ ⟨upstream, false⟩
        origin model = .ok (some channelMeta) ∧
      (if channelMeta.isModelMapped ∧ channelMeta.upstreamModelName ≠ "" then
        channelMeta.upstreamModelName else model) = channel.chainEnd unmarshal model := by
  obtain ⟨modelMap, hmap, h⟩ := h
  unfold MappingChannel.chainEnd
  rw [hmap, Option.getD_some]
  unfold MappingChannel.mapping at hmap
  unfold mapModel
  split at hmap
  next htext =>
    rw [if_pos htext, hmap]
    simp only
    rw [walkFrom_eq h]
    cases h1 : nextModel modelMap model with
    | none =>
      have hend : chainEnd modelMap model = model := follow_of_none h1
      exact ⟨_, rfl, by simp [hend]⟩
    | some b =>
      exact ⟨_, rfl, if_pos ⟨rfl, chainEnd_ne_empty h h1⟩⟩
  next htext =>
    rw [if_neg htext]
    cases hmap
    exact ⟨_, rfl, by simp [chainEnd, Dict.size, Dict.empty, follow]⟩

/-! ## Where the chain ends -/

/-- The model sent, and whether it counts as mapped. -/
def mappedTo (unmarshal : UnmarshalMap) (channel : MappingChannel) (origin : String) :
    Except String (Option MappingMeta × String) :=
  let c : MappingContext := ⟨origin, channel.getModelMapping⟩
  let info := MappingInfo.initChannelMeta ⟨.other, origin, none, origin⟩ c
  (modelMappedHelper unmarshal c info info.requestModel).map fun r => (r.1.channelMeta, r.2)

theorem mappedTo_cases (hmap : channel.mapping unmarshal = some modelMap) (origin : String) :
    (∃ last, ChainEnds modelMap origin last ∧
      mappedTo unmarshal channel origin =
        .ok (some ⟨last, decide (last ≠ origin)⟩, last)) ∨
      ChainLoops modelMap origin ∧
        mappedTo unmarshal channel origin = .error "model_mapping_contains_cycle" := by
  unfold MappingChannel.mapping at hmap
  simp only [mappedTo, modelMappedHelper, MappingInfo.initChannelMeta, mapModel, reduceCtorEq,
    if_false, Option.getD_some]
  split at hmap
  next htext =>
    rw [if_pos htext, hmap]
    have h : WalkEnds modelMap origin origin false _ := walkFrom_ends origin origin false
    simp only
    generalize walkFrom modelMap origin origin false = w at h ⊢
    cases h with
    | @found last flag h1 h =>
      obtain rfl := h rfl rfl
      refine .inl ⟨last, h1, ?_⟩
      by_cases h : last = origin <;> simp [h, Except.map]
    | identity h1 => exact .inl ⟨origin, h1, by simp [Except.map]⟩
    | cycle h => exact .inr ⟨h, rfl⟩
  next htext =>
    rw [if_neg htext]
    cases hmap
    exact .inl ⟨origin, ⟨.refl, rfl⟩, by simp [Except.map]⟩

/-- **A mapping is followed to the end of its chain.** The helper fails exactly if the chain runs
into a cycle of two models or more; otherwise the last model of the chain is sent, and it counts
as mapped exactly if it is another one than the client's. -/
theorem model_mapping_followed (unmarshal : UnmarshalMap) (channel : MappingChannel)
    (modelMap : Dict String String) (hmap : channel.mapping unmarshal = some modelMap)
    (origin : String) :
    (mappedTo unmarshal channel origin = .error "model_mapping_contains_cycle" ↔
      ChainLoops modelMap origin) ∧
    (¬ ChainLoops modelMap origin →
      ∃ last, ChainEnds modelMap origin last ∧
        mappedTo unmarshal channel origin = .ok (some ⟨last, decide (last ≠ origin)⟩, last)) := by
  rcases mappedTo_cases hmap origin with ⟨last, h, hok⟩ | ⟨h1, herr⟩
  · rw [hok]
    refine ⟨⟨nofun, ?_⟩, fun _ => ⟨last, h, rfl⟩⟩
    rintro ⟨a, ha, h2⟩
    exact absurd h2 (not_cycle_of_end h.1 h.2 ha)
  · exact ⟨iff_of_true herr h1, fun h => absurd h1 h⟩

/-! ## All attempts -/

theorem withoutCompact_append :
    withoutCompactModelSuffix (model ++ compactModelSuffix) = model := by
  have h : endsWith (model ++ compactModelSuffix) compactModelSuffix = true := by
    unfold endsWith
    rw [String.toList_append, isSuffixOf_iff_suffix]
    exact suffix_append _ _
  unfold withoutCompactModelSuffix trimSuffix
  rw [if_pos h, if_pos h, String.length_append, Nat.add_sub_cancel, String.toList_append,
    ← String.length_toList, take_left, String.ofList_toList]

theorem withoutCompact_withCompact (model : String) :
    withoutCompactModelSuffix (withCompactModelSuffix model) = withoutCompactModelSuffix model := by
  by_cases h : endsWith model compactModelSuffix = true
  · have h1 : withCompactModelSuffix model = model := if_pos h
    rw [h1]
  · have h2 : withCompactModelSuffix model = model ++ compactModelSuffix := if_neg h
    have h1 : withoutCompactModelSuffix model = model := if_neg h
    rw [h2, withoutCompact_append, h1]

theorem withoutCompact_compactRequestModel :
    withoutCompactModelSuffix (compactRequestModel model) = withoutCompactModelSuffix model := by
  unfold compactRequestModel
  split
  · exact withoutCompact_withCompact model
  · rfl

/-- The chain from the end of the predecessor's chain comes to where the chain from the client's
model comes. -/
def Agrees (unmarshal : UnmarshalMap) (model : String) (channel channel' : MappingChannel) : Prop :=
  channel'.chainEnd unmarshal (withoutCompactModelSuffix (channel.chainEnd unmarshal model)) =
    channel'.chainEnd unmarshal model

instance (unmarshal : UnmarshalMap) (model : String) (channel channel' : MappingChannel) :
    Decidable (Agrees unmarshal model channel channel') := inferInstanceAs (Decidable (_ = _))

/-- What the loop sends: each channel maps what the attempt before has left. -/
def carried (unmarshal : UnmarshalMap) : String → List MappingChannel → List String
  | _, [] => []
  | model, channel :: channels =>
    channel.chainEnd unmarshal model ::
      carried unmarshal (withoutCompactModelSuffix (channel.chainEnd unmarshal model)) channels

theorem sentModels_cons (h : channel.Acyclic unmarshal) (c : MappingContext) (info : MappingInfo)
    (hmode : info.relayMode = .responsesCompact) {originalModel : String}
    (hctx : getChannelContext c info channel = ⟨originalModel, channel.getModelMapping⟩)
    (channels : List MappingChannel) :
    ∃ c' info', sentModels unmarshal c info (channel :: channels) =
        .ok (channel.chainEnd unmarshal (withoutCompactModelSuffix info.originModelName)) ::
          sentModels unmarshal c' info' channels ∧
      info'.relayMode = .responsesCompact ∧ info'.channelMeta.isSome ∧
      info'.originModelName = withCompactModelSuffix
        (channel.chainEnd unmarshal (withoutCompactModelSuffix info.originModelName)) := by
  obtain ⟨channelMeta, hmap, h1⟩ := mapModel_eq h originalModel
    originalModel info.originModelName (withoutCompactModelSuffix info.originModelName)
  simp only [sentModels, hctx, modelMappedHelper, MappingInfo.initChannelMeta, hmode,
    Option.getD_some, if_true, hmap, h1]
  exact ⟨_, _, rfl, rfl, rfl, rfl⟩

theorem sentModels_eq (h : ∀ channel ∈ channels, channel.Acyclic unmarshal) (c : MappingContext)
    (info : MappingInfo) (hmode : info.relayMode = .responsesCompact)
    (hmeta : info.channelMeta.isSome) :
    sentModels unmarshal c info channels =
      (carried unmarshal (withoutCompactModelSuffix info.originModelName) channels).map .ok := by
  induction channels generalizing c info with
  | nil => rfl
  | cons channel channels ih =>
    obtain ⟨h1, h⟩ := forall_mem_cons.1 h
    obtain ⟨channelMeta, hmeta⟩ := Option.isSome_iff_exists.1 hmeta
    have hctx : getChannelContext c info channel =
        ⟨info.originModelName, channel.getModelMapping⟩ := by
      unfold getChannelContext
      rw [hmeta]
    obtain ⟨c', info', h2, h3, h4, hor⟩ :=
      sentModels_cons h1 c info hmode hctx channels
    rw [h2, ih h c' info' h3 h4, hor, withoutCompact_withCompact]
    rfl

theorem relayCompact_eq (h : ∀ channel ∈ channels, channel.Acyclic unmarshal) (model : String) :
    relayCompact unmarshal model channels =
      (carried unmarshal (withoutCompactModelSuffix model) channels).map .ok := by
  cases channels with
  | nil => rfl
  | cons channel channels =>
    obtain ⟨h1, h⟩ := forall_mem_cons.1 h
    obtain ⟨c', info', h2, h3, h4, hor⟩ := sentModels_cons h1
      ⟨compactRequestModel model, channel.getModelMapping⟩
      ⟨.responsesCompact, compactRequestModel model, none, model⟩ rfl rfl channels
    refine h2.trans ?_
    rw [sentModels_eq h c' info' h3 h4, hor, withoutCompact_withCompact,
      withoutCompact_compactRequestModel]
    rfl

theorem carried_eq_iff (model start : String) :
    carried unmarshal start channels = channels.map (·.chainEnd unmarshal model) ↔
      (∀ channel ∈ channels.head?,
        channel.chainEnd unmarshal start = channel.chainEnd unmarshal model) ∧
      channels.IsChain (Agrees unmarshal model) := by
  induction channels generalizing start with
  | nil => simp [carried]
  | cons channel channels ih =>
    rw [carried, map_cons, List.cons.injEq, isChain_cons]
    constructor
    · rintro ⟨h, h1⟩
      rw [h, ih] at h1
      refine ⟨fun c hc => ?_, h1⟩
      cases hc
      exact h
    · rintro ⟨h, h1⟩
      have h := h channel rfl
      rw [h, ih]
      exact ⟨rfl, h1⟩

/-- **A channel is sent the end of its own chain**: with acyclic mappings the models sent in
responses-compact mode are the ends of the channels' own chains from the client's model, exactly
if each channel's chain from the end of its predecessor's chain comes to the same model. -/
theorem compact_models_own_iff (unmarshal : UnmarshalMap) (model : String)
    (channels : List MappingChannel) (hacyclic : ∀ channel ∈ channels, channel.Acyclic unmarshal) :
    relayCompact unmarshal model channels =
        channels.map (fun channel =>
          .ok (channel.chainEnd unmarshal (withoutCompactModelSuffix model))) ↔
      channels.IsChain (Agrees unmarshal (withoutCompactModelSuffix model)) := by
  have hmap : channels.map (fun channel =>
        (.ok (channel.chainEnd unmarshal (withoutCompactModelSuffix model)) :
          Except String String)) =
      (channels.map (·.chainEnd unmarshal (withoutCompactModelSuffix model))).map .ok := by
    rw [List.map_map]
    rfl
  rw [relayCompact_eq hacyclic, hmap, map_inj_right fun _ _ h => Except.ok.inj h, carried_eq_iff]
  exact and_iff_right fun _ _ => rfl

/-! ## Two mappings -/

def mapsTo (model target : String) : Dict String String := Dict.empty.put model target

def readMapping (text : String) : Option (Dict String String) :=
  if text = "\x7b\"gpt-5\":\"gpt-5-mini\"\x7d" then some (mapsTo "gpt-5" "gpt-5-mini")
  else if text = "\x7b\"gpt-5\":\"o3\"\x7d" then some (mapsTo "gpt-5" "o3")
  else none

def toMini : MappingChannel := ⟨some "\x7b\"gpt-5\":\"gpt-5-mini\"\x7d"⟩

def toO3 : MappingChannel := ⟨some "\x7b\"gpt-5\":\"o3\"\x7d"⟩

theorem mapsTo_acyclic {target : String} (h : target ≠ model) :
    Acyclic (nextModel (mapsTo model target)) := by
  refine acyclic_of_rank (fun a => if a = model then 1 else 0) fun a b hab => ?_
  obtain ⟨hget, -⟩ := nextModel_eq_some.1 hab
  rw [mapsTo, Dict.get_put] at hget
  split at hget
  next ha =>
    rw [← ha, ← Option.some.inj hget, if_pos rfl, if_neg h]
    exact Nat.one_pos
  · cases hget

theorem model_mapping_followed_mini :
    ¬ ChainLoops (mapsTo "gpt-5" "gpt-5-mini") "gpt-5" ∧
      mappedTo readMapping toMini "gpt-5" = .ok (some ⟨"gpt-5-mini", true⟩, "gpt-5-mini") := by
  have h : mappedTo readMapping toMini "gpt-5" =
      .ok (some ⟨"gpt-5-mini", true⟩, "gpt-5-mini") := rfl
  refine ⟨fun h1 => ?_, h⟩
  have herr := (model_mapping_followed readMapping toMini _ rfl "gpt-5").1.2 h1
  exact absurd (h.symm.trans herr) nofun

theorem compact_models_own_same :
    relayCompact readMapping "gpt-5" [toMini, toMini] = [.ok "gpt-5-mini", .ok "gpt-5-mini"] := by
  have h : toMini.Acyclic readMapping :=
    ⟨mapsTo "gpt-5" "gpt-5-mini", rfl, mapsTo_acyclic (by decide)⟩
  rw [(compact_models_own_iff readMapping "gpt-5" [toMini, toMini] (by simp [h])).2
    (.cons_cons (by decide +kernel) (.singleton _))]
  decide +kernel

theorem compact_models_carried :
    relayCompact readMapping "gpt-5" [toMini, toO3] = [.ok "gpt-5-mini", .ok "gpt-5-mini"] ∧
      toO3.chainEnd readMapping "gpt-5" = "o3" := by
  decide +kernel

end Xingkong
