import Xingkong.Model.ClaudeStream

/-!
# Tool calls in a streamed Claude message

A client merges tool-call fragments by their index (`addFragment`). The fragments of a block have
one less than the block's index, so those of blocks 0 and 1 cannot be told apart and all others can:
behind block 0 every new tool block comes with an index that no call so far has (`merge_blocks`).
-/

namespace Xingkong

open List

/-! ## Legal streams -/

def ClaudeContent.Takes : ClaudeContent → ClaudeDelta → Prop
  | .text _, .text _ | .thinking _, .thinking _ | .thinking _, .signature => True
  | .toolUse _ _ _, .inputJson _ => True
  | _, _ => False

/-- A block with the deltas it is streamed in. -/
structure StreamedBlock where
  start : ClaudeContent
  deltas : List ClaudeDelta
  legal : ∀ d ∈ deltas, start.Takes d

def StreamedBlock.events (b : StreamedBlock) (i : Nat) : List ClaudeEvent :=
  .contentBlockStart i b.start :: b.deltas.map (.contentBlockDelta i)

def blockEvents (i : Nat) : List StreamedBlock → List ClaudeEvent
  | [] => []
  | b :: bs => b.events i ++ blockEvents (i + 1) bs

def ClaudeEvent.isOther : ClaudeEvent → Bool
  | .other => true
  | _ => false

/-- A message is followed by any number of changes to it as a whole. Between the events there may be
ends of blocks and pings. -/
def Streams (events : List ClaudeEvent) (blocks : List StreamedBlock) : Prop :=
  ∃ stops : List _, events.filter (!·.isOther) =
    .messageStart :: blockEvents 0 blocks ++ stops.map .messageDelta

/-! ## Merging by index -/

def toolFragments (events : List ClaudeEvent) : List ToolCallResponse :=
  (events.filterMap streamResponseClaude2OpenAI).flatMap fun r =>
    r.choices.flatMap (·.delta.toolCalls)

def addFragment (calls : List ToolCallResponse) (f : ToolCallResponse) : List ToolCallResponse :=
  if calls.any (·.index = f.index) then
    calls.map fun c => if c.index = f.index then { c with arguments := c.arguments ++ f.arguments }
      else c
  else calls ++ [f]

/-- Id, name and arguments of each call. -/
def merged (fragments : List ToolCallResponse) : List (String × String × String) :=
  (fragments.foldl addFragment []).map fun c => (c.id, c.name, c.arguments)

def ClaudeDelta.partialJson : ClaudeDelta → String
  | .inputJson p => p
  | _ => ""

def StreamedBlock.toolUse (b : StreamedBlock) : Option (String × String × String) :=
  match b.start with
  | .toolUse id name _ => some (id, name, String.join (b.deltas.map (·.partialJson)))
  | _ => none

/-- Two fragments have one index exactly if they belong to one block. -/
def IndexedByBlock (blocks : List StreamedBlock) : Prop :=
  ∀ i j (b b' : StreamedBlock), blocks[i]? = some b → blocks[j]? = some b' →
    ∀ f ∈ toolFragments (b.events i), ∀ f' ∈ toolFragments (b'.events j), f.index = f'.index ↔ i = j

/-! ## The fragments of a block -/

theorem toolFragments_append (es es' : List ClaudeEvent) :
    toolFragments (es ++ es') = toolFragments es ++ toolFragments es' := by
  simp [toolFragments]

variable {b : StreamedBlock} {i : Nat} {cs : List ToolCallResponse}

theorem toolFragments_events : toolFragments (b.events i) =
    (b.start.toChunkDelta i).toolCalls ++ b.deltas.flatMap fun d =>
    (d.toChunkDelta i).toolCalls := by
  simp [toolFragments, StreamedBlock.events, streamResponseClaude2OpenAI, Function.comp_def,
    flatMap_map]

theorem toolFragments_none (h : b.toolUse = none) : toolFragments (b.events i) = [] := by
  rw [toolFragments_events]
  obtain ⟨start, deltas, hl⟩ := b
  cases start with
  | toolUse => cases h
  | text | thinking =>
    refine flatMap_eq_nil_iff.mpr fun d hd => ?_
    have := hl d hd
    cases d <;> first | rfl | cases this

theorem toolFragments_some {id name args : String} (h : b.toolUse = some (id, name, args)) :
    toolFragments (b.events i) = ⟨some (fcIdx i), id, name, ""⟩ ::
      b.deltas.map fun d => ⟨some (fcIdx i), "", "", d.partialJson⟩ := by
  rw [toolFragments_events]
  obtain ⟨start, deltas, hl⟩ := b
  cases start with
  | text | thinking => cases h
  | toolUse =>
    cases h
    rw [map_eq_flatMap]
    refine congrArg (_ :: ·) (flatMap_congr fun d hd => ?_)
    have := hl d hd
    cases d <;> first | rfl | cases this

/-! ## Merging them -/

/-- The fragments that follow the start of a call. -/
theorem foldl_arguments {c : ToolCallResponse}
    (h : ∀ x ∈ cs, x.index ≠ c.index) (ps : List String) :
    (ps.map (⟨c.index, "", "", ·⟩)).foldl addFragment (cs ++ [c]) =
      cs ++ [{ c with arguments := c.arguments ++ String.join ps }] := by
  induction ps generalizing c with
  | nil => simp
  | cons p ps ih =>
    have hcs : cs.map (fun x => if x.index = c.index then
        { x with arguments := x.arguments ++ p } else x) = cs :=
      (map_congr_left fun x hx => if_neg (h x hx)).trans cs.map_id
    have hadd : addFragment (cs ++ [c]) ⟨c.index, "", "", p⟩ =
        cs ++ [{ c with arguments := c.arguments ++ p }] := by
      simp [addFragment, hcs]
    rw [map_cons, foldl_cons, hadd]
    simpa [String.append_assoc] using ih (c := { c with arguments := c.arguments ++ p }) h

theorem foldl_tool {id name args : String}
    (h : b.toolUse = some (id, name, args)) (hf : ∀ c ∈ cs, c.index ≠ some (fcIdx i)) :
    (toolFragments (b.events i)).foldl addFragment cs =
      cs ++ [⟨some (fcIdx i), id, name, args⟩] := by
  have hargs : args = String.join (b.deltas.map (·.partialJson)) := by
    unfold StreamedBlock.toolUse at h
    split at h <;> simp_all
  have hadd : addFragment cs ⟨some (fcIdx i), id, name, ""⟩ =
      cs ++ [⟨some (fcIdx i), id, name, ""⟩] := if_neg (by simpa using hf)
  have := foldl_arguments (c := ⟨some (fcIdx i), id, name, ""⟩) hf (b.deltas.map (·.partialJson))
  rw [toolFragments_some h, foldl_cons, hadd]
  simpa [Function.comp_def, ← hargs] using this

/-- Behind block 0 a block's index is new: those of the calls so far are smaller. -/
theorem merge_blocks {bs : List StreamedBlock} (hi : 1 ≤ i)
    (h : ∀ c ∈ cs, ∃ k, c.index = some k ∧ k + 1 < i) :
    ((toolFragments (blockEvents i bs)).foldl addFragment cs).map
        (fun c => (c.id, c.name, c.arguments)) =
      cs.map (fun c => (c.id, c.name, c.arguments)) ++ bs.filterMap (·.toolUse) := by
  induction bs generalizing i cs with
  | nil => simp [blockEvents, toolFragments]
  | cons b bs ih =>
    have hnext : ∀ c ∈ cs, ∃ k, c.index = some k ∧ k + 1 < i + 1 := fun c hc => by
      obtain ⟨k, hk, hlt⟩ := h c hc
      exact ⟨k, hk, by omega⟩
    rw [blockEvents, toolFragments_append, foldl_append]
    cases hb : b.toolUse with
    | none =>
      rw [toolFragments_none hb, foldl_nil, ih (by omega) hnext]
      simp [hb]
    | some call =>
      obtain ⟨id, name, args⟩ := call
      have hf : ∀ c ∈ cs, c.index ≠ some (fcIdx i) := fun c hc hk => by
        obtain ⟨k, hk', hlt⟩ := h c hc
        rw [hk, fcIdx, Option.some.injEq] at hk'
        omega
      rw [foldl_tool hb hf, ih (by omega)]
      · simp [hb]
      · intro c hc
        rcases mem_append.mp hc with hc | hc
        · exact hnext c hc
        · exact ⟨i - 1, by simp_all [fcIdx], by omega⟩

theorem toolFragments_of_streams {events : List ClaudeEvent} {blocks : List StreamedBlock}
    (h : Streams events blocks) : toolFragments events = toolFragments (blockEvents 0 blocks) := by
  obtain ⟨stops, h⟩ := h
  have hf : events.filterMap streamResponseClaude2OpenAI =
      (events.filter (!·.isOther)).filterMap streamResponseClaude2OpenAI := by
    rw [filterMap_filter]
    exact filterMap_congr fun e _ => by cases e <;> rfl
  rw [toolFragments, hf, h]
  simp [toolFragments, streamResponseClaude2OpenAI]

theorem fragment_index {f : ToolCallResponse} (h : f ∈ toolFragments (b.events i)) :
    b.toolUse ≠ none ∧ f.index = some (fcIdx i) := by
  cases hb : b.toolUse with
  | none => simp [toolFragments_none hb] at h
  | some call =>
    rw [toolFragments_some hb, mem_cons, mem_map] at h
    obtain rfl | ⟨d, _, rfl⟩ := h <;> exact ⟨nofun, rfl⟩

theorem exists_fragment (i : Nat) (h : b.toolUse ≠ none) : ∃ f, f ∈ toolFragments (b.events i) := by
  obtain ⟨call, hc⟩ := Option.ne_none_iff_exists'.mp h
  exact ⟨_, toolFragments_some hc ▸ mem_cons_self⟩

/-- **Tool calls of a streamed message**: fragments are told apart by index and merge to the
message's tool uses exactly if its first two blocks are not both tool uses. -/
theorem tool_fragments_merge (events : List ClaudeEvent) (blocks : List StreamedBlock)
    (h : Streams events blocks) :
    (IndexedByBlock blocks ∧
        merged (toolFragments events) = blocks.filterMap (·.toolUse)) ↔
      ∀ b ∈ blocks[0]?, ∀ b' ∈ blocks[1]?, b.toolUse = none ∨ b'.toolUse = none := by
  rw [toolFragments_of_streams h, merged]
  constructor
  · rintro ⟨h, _⟩ b hb b' hb'
    by_contra hn
    rw [not_or] at hn
    obtain ⟨f, hf⟩ := exists_fragment 0 hn.1
    obtain ⟨f', hf'⟩ := exists_fragment 1 hn.2
    have hsame : f.index = f'.index := (fragment_index hf).2.trans (fragment_index hf').2.symm
    exact absurd ((h 0 1 b b' hb hb' f hf f' hf').mp hsame) (by decide)
  · intro hc
    constructor
    · intro i j b b' hb hb' f hf f' hf'
      obtain ⟨ht, hi⟩ := fragment_index hf
      obtain ⟨ht', hj⟩ := fragment_index hf'
      have h1 : ¬ (i = 0 ∧ j = 1) := by
        rintro ⟨rfl, rfl⟩
        exact (hc b hb b' hb').elim ht ht'
      have h2 : ¬ (j = 0 ∧ i = 1) := by
        rintro ⟨rfl, rfl⟩
        exact (hc b' hb' b hb).elim ht' ht
      rw [hi, hj, Option.some.injEq, fcIdx, fcIdx]
      omega
    · -- block 0 alone may have an index that the next block has too
      rcases blocks with _ | ⟨b, bs⟩
      · rfl
      rw [blockEvents, toolFragments_append, foldl_append]
      cases hb : b.toolUse with
      | none =>
        rw [toolFragments_none hb, foldl_nil, merge_blocks le_rfl (forall_mem_nil _)]
        simp [hb]
      | some call =>
        obtain ⟨id, name, args⟩ := call
        rw [foldl_tool hb (forall_mem_nil _)]
        rcases bs with _ | ⟨b', bs⟩
        · simp [blockEvents, toolFragments, hb]
        have hb' : b'.toolUse = none := (hc b rfl b' rfl).resolve_left (by simp [hb])
        rw [blockEvents, toolFragments_append, toolFragments_none hb']
        simp only [nil_append]
        rw [merge_blocks (by decide)]
        · simp [hb, hb']
        · simp [fcIdx]

def weatherBlock (id : String) : StreamedBlock :=
  ⟨.toolUse id "weather" "", [.inputJson "\x7b\x7d"], fun d hd => by simp_all [ClaudeContent.Takes]⟩

def textBlock : StreamedBlock := ⟨.text none, [], List.forall_mem_nil _⟩

def weatherEvents (blocks : List StreamedBlock) : List ClaudeEvent :=
  .messageStart :: blockEvents 0 blocks ++ [.messageDelta none]

theorem tool_fragments_merge_weather :
    merged (toolFragments (weatherEvents [textBlock, weatherBlock "t1", weatherBlock "t2"])) =
      [("t1", "weather", "\x7b\x7d"), ("t2", "weather", "\x7b\x7d")] :=
  ((tool_fragments_merge _ [textBlock, weatherBlock "t1", weatherBlock "t2"] ⟨[none], rfl⟩).mpr
    (by rintro _ ⟨⟩ _ _; exact .inl rfl)).2

/-- Two tool uses without a text before them are one call to the client. -/
theorem tool_fragments_collide :
    merged (toolFragments (weatherEvents [weatherBlock "t1", weatherBlock "t2"])) =
        [("t1", "weather", "\x7b\x7d\x7b\x7d")] ∧
      [weatherBlock "t1", weatherBlock "t2"].filterMap (·.toolUse) =
        [("t1", "weather", "\x7b\x7d"), ("t2", "weather", "\x7b\x7d")] := by
  decide

end Xingkong
