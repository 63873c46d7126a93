import Xingkong.Model.Json
import Xingkong.Model.RequestRules

/-!
# Messages of the playground

`web/default/src/features/playground/lib/message-utils.ts`: how an answer that comes in chunks is
separated into what is shown and the reasoning between `<think>` and `</think>`. Of a message the
content of its version, its reasoning and the streaming flag are modelled.
-/

namespace Xingkong

open Text

structure ThinkParts where
  visibleContent : Text
  reasoning : Text
  hasUnclosedTag : Bool

/-- The loop of `parseThinkTags` from `currentPos` on: the visible parts joined, the parts of
reasoning, and whether the last tag is open. A turn that is not the last takes two tags. -/
def thinkLoop : Nat → Text → Text × List Text × Bool
  | 0, _ => ([], [], false)
  | n + 1, content =>
    match cutAt "<think>".toList content with
    | none => (content, [], false)
    | some (visible, rest) =>
      match cutAt "</think>".toList rest with
      | none => (visible, [rest], true)
      | some (reasoning, rest) =>
        let (visibles, reasonings, unclosed) := thinkLoop n rest
        (visible ++ visibles, reasoning :: reasonings, unclosed)

def parseThinkTags (content : Text) : ThinkParts :=
  if includes content "<think>".toList then
    let (visible, reasoning, unclosed) := thinkLoop (content.length + 1) content
    ⟨trim visible, trim (TopLevel.join "\n\n".toList reasoning), unclosed⟩
  else ⟨content, [], false⟩

structure ReasoningText where
  content : Text
  duration : Nat
  deriving DecidableEq

structure PlaygroundMessage where
  content : Text
  reasoning : Option ReasoningText
  isReasoningStreaming : Bool
  deriving DecidableEq

def processStreamingContent (message : PlaygroundMessage) (contentChunk : Text) :
    PlaygroundMessage :=
  let fullContent := message.content ++ contentChunk
  let parsed := parseThinkTags fullContent
  { content := fullContent
    reasoning := if parsed.reasoning = [] then message.reasoning else some ⟨parsed.reasoning, 0⟩
    isReasoningStreaming := parsed.hasUnclosedTag }

def finalizeMessage (message : PlaygroundMessage) (apiReasoningContent : Text) :
    PlaygroundMessage :=
  let parsed := parseThinkTags message.content
  let stored := message.reasoning.getD ⟨[], 0⟩
  let finalReasoning :=
    if apiReasoningContent ≠ [] then apiReasoningContent
    else if stored.content ≠ [] then stored.content
    else parsed.reasoning
  { content := parsed.visibleContent
    reasoning := if finalReasoning = [] then none else some ⟨finalReasoning, stored.duration⟩
    isReasoningStreaming := false }

end Xingkong
