import Xingkong.Model.ChatStream
import Xingkong.Model.Json

/-!
# Claude's events as chat completion chunks

Claude streams a message block by block: a start, deltas and a stop for each block, all with the
block's index. `StreamResponseClaude2OpenAI` of `relay/channel/claude/relay-claude.go` turns one
event into at most one chunk.

An event has the fields its type has. Ids and models of the answer are left out.
-/

namespace Xingkong

/-- `input` is the marshalled input. -/
inductive ClaudeContent
  | text (text : Option String)
  | thinking (thinking : Option String)
  | toolUse (id name input : String)

inductive ClaudeDelta
  | text (text : String)
  | inputJson (partialJson : String)
  | signature
  | thinking (thinking : String)

inductive ClaudeEvent
  | messageStart
  | contentBlockStart (index : Nat) (contentBlock : ClaudeContent)
  | contentBlockDelta (index : Nat) (delta : ClaudeDelta)
  | messageDelta (stopReason : Option String)
  /-- The end of a block or of the message, a ping. -/
  | other

def claudeStopReasonToOpenAIFinishReason (stopReason : String) : String :=
  match toLower stopReason with
  | "stop_sequence" => "stop"
  | "end_turn" => "stop"
  | "max_tokens" => "length"
  | "tool_use" => "tool_calls"
  | "refusal" => "content_filter"
  | _ => stopReason

/-- One less than the block's index, and never negative. -/
def fcIdx (index : Nat) : Nat := index - 1

def ClaudeDelta.toChunkDelta (index : Nat) : ClaudeDelta → ChunkDelta
  | .text t => { content := some t }
  | .inputJson p => { toolCalls := [⟨some (fcIdx index), "", "", p⟩] }
  | .signature => { reasoningContent := some "\n" }
  | .thinking t => { reasoningContent := some t }

def ClaudeContent.toChunkDelta (index : Nat) : ClaudeContent → ChunkDelta
  | .text t => { content := t }
  | .thinking _ => {}
  | .toolUse id name _ => { toolCalls := [⟨some (fcIdx index), id, name, ""⟩] }

def streamResponseClaude2OpenAI : ClaudeEvent → Option ChatChunk
  | .messageStart => some ⟨[⟨{ content := some "" }, none⟩], none⟩
  | .contentBlockStart i block => some ⟨[⟨block.toChunkDelta i, none⟩], none⟩
  | .contentBlockDelta i delta => some ⟨[⟨delta.toChunkDelta i, none⟩], none⟩
  | .messageDelta stopReason =>
    let finishReason := stopReason.map claudeStopReasonToOpenAIFinishReason
    some ⟨[⟨{}, finishReason.filter (· ≠ "null")⟩], none⟩
  | .other => none

end Xingkong
