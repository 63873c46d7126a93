import Xingkong.Model.TextQuota

/-!
# Chat completion chunks

An upstream answers a streaming request with chunks. For an upstream that speaks OpenAI's format,
`OaiStreamHandler` of `relay/channel/openai/relay-openai.go` passes a chunk on when the next one
arrives, since the last one may be only a report of the usage, which a client that did not ask for
it is not sent (`handleLastResponse` of `relay/channel/openai/helper.go`).

The payloads are texts. `unmarshal` is the JSON decoder; the scanner never passes on an empty
payload.
-/

namespace Xingkong

/-! ## Chunks -/

/-- A tool call, or a fragment of one. -/
structure ToolCallResponse where
  index : Option Nat
  id : String
  name : String
  arguments : String
  deriving DecidableEq

structure ChunkDelta where
  content : Option String := none
  reasoningContent : Option String := none
  reasoning : Option String := none
  toolCalls : List ToolCallResponse := []
  deriving DecidableEq

def ChunkDelta.getContentString (d : ChunkDelta) : String := d.content.getD ""

def ChunkDelta.getReasoningContent (d : ChunkDelta) : String :=
  match d.reasoningContent, d.reasoning with
  | none, none => ""
  | some r, _ => r
  | none, some r => r

structure ChunkChoice where
  delta : ChunkDelta
  finishReason : Option String := none
  deriving DecidableEq

structure ChatChunk where
  choices : List ChunkChoice
  usage : Option Usage
  deriving DecidableEq

def validUsage : Option Usage → Bool
  | none => false
  | some u => u.promptTokens ≠ 0 || u.completionTokens ≠ 0

/-! ## Relaying them -/

/-- The payload as it is, without format forcing or think conversion. -/
def sendStreamData (data : String) : List String := if data = "" then [] else [data]

structure ChunkRelay where
  lastStreamData : String
  sent : List String

def onStreamData (s : ChunkRelay) (data : String) : ChunkRelay where
  sent := if s.lastStreamData ≠ "" then s.sent ++ sendStreamData s.lastStreamData else s.sent
  lastStreamData := if data ≠ "" then data else s.lastStreamData

def ChunkChoice.hasText (choice : ChunkChoice) : Bool :=
  choice.delta.getContentString ≠ "" || choice.delta.getReasoningContent ≠ ""

section Relay

variable (unmarshal : String → Option ChatChunk) (shouldIncludeUsage : Bool)

def handleLastResponse (lastStreamData : String) : Bool :=
  match unmarshal lastStreamData with
  | none => true
  | some r =>
    if validUsage r.usage && !shouldIncludeUsage then r.choices.any (·.hasText) else true

/-- The upstream's payloads that the client is sent. -/
def oaiStreamHandler (items : List String) : List String :=
  let s := items.foldl onStreamData ⟨"", []⟩
  if handleLastResponse unmarshal shouldIncludeUsage s.lastStreamData then
    s.sent ++ sendStreamData s.lastStreamData
  else s.sent

end Relay

end Xingkong
