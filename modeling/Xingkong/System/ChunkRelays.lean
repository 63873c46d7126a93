import Xingkong.Model.ChatStream

/-!
# What a streaming client is sent

`settled` is what the client has once the withheld chunk is sent too. Every turn adds the new chunk
to it (`settled_onStreamData`), so before the last rule the client is short of the last chunk alone.
-/

namespace Xingkong

/-- Text, reasoning, a tool-call fragment or a finish reason. -/
def ChunkChoice.Carries (c : ChunkChoice) : Prop :=
  c.delta.content.getD "" ≠ "" ∨ c.delta.reasoningContent.getD "" ≠ "" ∨
    c.delta.reasoning.getD "" ≠ "" ∨ c.delta.toolCalls ≠ [] ∨ c.finishReason.getD "" ≠ ""

instance (c : ChunkChoice) : Decidable c.Carries := inferInstanceAs (Decidable (_ ∨ _))

def ChunkRelay.settled (s : ChunkRelay) : List String := s.sent ++ sendStreamData s.lastStreamData

section Relay

variable (unmarshal : String → Option ChatChunk)

def carries (data : String) : Bool :=
  (unmarshal data).any fun r => r.choices.any fun c => c.Carries

/-- In order, each at most once, and every one that carries something. -/
def Delivers (sent items : List String) : Prop :=
  sent.Sublist items ∧ sent.filter (carries unmarshal) = items.filter (carries unmarshal)

/-- A chunk with usage, for a client that did not ask for it and without text or reasoning. -/
def Withheld (shouldIncludeUsage : Bool) (data : String) : Prop :=
  ∃ r, unmarshal data = some r ∧ validUsage r.usage ∧ shouldIncludeUsage = false ∧
    ∀ c ∈ r.choices, ¬ c.hasText

end Relay

theorem onStreamData_of_ne {s : ChunkRelay} {d : String} (h : d ≠ "") :
    onStreamData s d = ⟨d, s.settled⟩ := by
  by_cases hl : s.lastStreamData = "" <;>
    simp [onStreamData, ChunkRelay.settled, sendStreamData, h]

theorem settled_onStreamData {s : ChunkRelay} {d : String} (h : d ≠ "") :
    (onStreamData s d).settled = s.settled ++ [d] := by
  rw [onStreamData_of_ne h]
  simp [ChunkRelay.settled, sendStreamData, h]

variable {items : List String}

theorem settled_foldl (h : "" ∉ items) (s : ChunkRelay) :
    (items.foldl onStreamData s).settled = s.settled ++ items := by
  induction items generalizing s with
  | nil => simp
  | cons d ds ih =>
    simp only [List.mem_cons, not_or] at h
    rw [List.foldl_cons, ih h.2, settled_onStreamData fun hd => h.1 hd.symm]
    simp

variable (unmarshal : String → Option ChatChunk) (shouldIncludeUsage : Bool)

theorem handleLastResponse_iff (data : String) :
    handleLastResponse unmarshal shouldIncludeUsage data = true ↔
      ¬ Withheld unmarshal shouldIncludeUsage data := by
  unfold handleLastResponse Withheld
  cases unmarshal data with
  | none => simp
  | some r => cases shouldIncludeUsage <;> cases hv : validUsage r.usage <;> simp [hv]

/-- All payloads but the last are sent; the last one unless it is withheld. -/
theorem oaiStreamHandler_concat {last : String} (h : "" ∉ items)
    (hl : last ≠ "") :
    oaiStreamHandler unmarshal shouldIncludeUsage (items ++ [last]) =
      if handleLastResponse unmarshal shouldIncludeUsage last then items ++ [last] else items := by
  have hs := settled_foldl h ⟨"", []⟩
  simp only [oaiStreamHandler, List.foldl_append, List.foldl_cons]
  rw [onStreamData_of_ne hl, hs]
  simp [ChunkRelay.settled, sendStreamData, hl]

/-- **What a client is sent of a chat stream**: the upstream's chunks in order, each at most once
and none that carries something missing, exactly if the rule for the last chunk does not withhold
one that carries something. -/
theorem chat_chunks_delivered (items : List String) (h : "" ∉ items) :
    Delivers unmarshal (oaiStreamHandler unmarshal shouldIncludeUsage items) items ↔
      ∀ last ∈ items.getLast?, Withheld unmarshal shouldIncludeUsage last →
        carries unmarshal last = false := by
  rcases items.eq_nil_or_concat with rfl | ⟨ds, last, rfl⟩
  · simp [Delivers, oaiStreamHandler, sendStreamData]
  · simp only [List.concat_eq_append, List.mem_append, List.mem_singleton, not_or] at h ⊢
    rw [oaiStreamHandler_concat unmarshal shouldIncludeUsage h.1 fun hl => h.2 hl.symm]
    cases hw : handleLastResponse unmarshal shouldIncludeUsage last with
    | true =>
      have hn := (handleLastResponse_iff unmarshal shouldIncludeUsage last).mp hw
      simp [Delivers, hn]
    | false =>
      have hn : Withheld unmarshal shouldIncludeUsage last :=
        not_not.mp fun hn => by simp [(handleLastResponse_iff ..).mpr hn] at hw
      simp [Delivers, hn]

def textData : String :=
  "\x7b\"choices\":[\x7b\"delta\":\x7b\"content\":\"hi\"\x7d\x7d]\x7d"

/-- A last chunk that has a usage report with its finish reason. -/
def stopData : String :=
  "\x7b\"choices\":[\x7b\"delta\":\x7b\x7d,\"finish_reason\":\"stop\"\x7d]," ++
    "\"usage\":\x7b\"prompt_tokens\":9,\"completion_tokens\":3\x7d\x7d"

def unmarshalChunk (data : String) : Option ChatChunk :=
  if data = textData then some { choices := [⟨{ content := some "hi" }, none⟩], usage := none }
  else if data = stopData then
    some { choices := [⟨{}, some "stop"⟩]
           usage := some ⟨9, 3, "", "", ⟨0, 0, 0, 0⟩, ⟨0, 0⟩, 0, 0, none⟩ }
  else none

theorem chat_chunks_delivered_asked :
    Delivers unmarshalChunk (oaiStreamHandler unmarshalChunk true [textData, stopData])
      [textData, stopData] := by
  refine (chat_chunks_delivered _ true _ (by decide)).mpr fun last _ hw => ?_
  obtain ⟨_, _, _, hu, _⟩ := hw
  cases hu

/-- The finish reason is lost: it came with the usage and without text. -/
theorem finish_reason_withheld :
    ¬ Delivers unmarshalChunk (oaiStreamHandler unmarshalChunk false [textData, stopData])
      [textData, stopData] := by
  intro h
  have := congrArg List.length h.2
  revert this
  decide +kernel

end Xingkong
