import Xingkong.Model.Playground

/-!
# Answers in chunks

The reasoning read from the text so far is kept in the message and is replaced only by reasoning
that is not empty. What is shown at the end does not depend on the chunks; the reasoning does, if
the whole text has none and a part of it seems to have some, as `<think></` has.
-/

namespace Xingkong

theorem thinkLoop_enough {n : Nat} {content : Text} (h : content.length < n) :
    thinkLoop (n + 1) content = thinkLoop n content := by
  induction n generalizing content with
  | zero => cases h
  | succ n ih =>
    rw [thinkLoop]
    conv => rhs; rw [thinkLoop]
    split
    · rfl
    next hopen =>
      split
      · rfl
      next visible rest reasoning rest' hclose =>
        have hlen := congrArg List.length (cutAt_eq hopen)
        rw [cutAt_eq hclose] at hlen
        rw [ih (by simp at hlen; omega)]

def emptyMessage : PlaygroundMessage := ⟨[], none, false⟩

def receive (chunks : List Text) : PlaygroundMessage :=
  chunks.foldl processStreamingContent emptyMessage

/-- What is shown of an answer, without separate reasoning from the API. -/
def received (chunks : List Text) : PlaygroundMessage := finalizeMessage (receive chunks) []

def reasoningOf (chunks : List Text) : Text := (parseThinkTags chunks.flatten).reasoning

variable {chunks : List Text}

theorem content_receive (chunks : List Text) : (receive chunks).content = chunks.flatten := by
  induction chunks using List.reverseRecOn with
  | nil => rfl
  | append_singleton chunks chunk ih =>
    simp only [receive] at ih ⊢
    simp [processStreamingContent, ih]

theorem reasoning_receive_concat (chunks : List Text) (chunk : Text) :
    (receive (chunks ++ [chunk])).reasoning = if reasoningOf (chunks ++ [chunk]) = [] then
      (receive chunks).reasoning else some ⟨reasoningOf (chunks ++ [chunk]), 0⟩ := by
  have hc := content_receive chunks
  simp only [receive, reasoningOf] at hc ⊢
  simp [processStreamingContent, hc]

/-- What is stored is the last reasoning that was not empty. -/
theorem reasoning_receive (chunks : List Text) :
    (∀ r ∈ (receive chunks).reasoning, r.content ≠ [] ∧ r.duration = 0) ∧
      (reasoningOf chunks ≠ [] → (receive chunks).reasoning = some ⟨reasoningOf chunks, 0⟩) ∧
      ((receive chunks).reasoning = none ↔ ∀ pre, pre <+: chunks → reasoningOf pre = []) := by
  induction chunks using List.reverseRecOn with
  | nil =>
    refine ⟨nofun, fun h => absurd rfl h, iff_of_true rfl fun pre h => ?_⟩
    rw [List.prefix_nil.1 h]
    rfl
  | append_singleton chunks chunk ih =>
    obtain ⟨hne, -, hnone⟩ := ih
    rw [reasoning_receive_concat]
    have hpre : (∀ pre, pre <+: chunks ++ [chunk] → reasoningOf pre = []) ↔
        reasoningOf (chunks ++ [chunk]) = [] ∧ ∀ pre, pre <+: chunks → reasoningOf pre = [] := by
      simp only [List.prefix_concat_iff, forall_eq_or_imp]
    rw [hpre]
    split
    next hr => exact ⟨hne, fun h => absurd hr h, by simp [hr, hnone]⟩
    next hr => exact ⟨by simp [hr], fun _ => rfl, by simp [hr]⟩

theorem reasoning_received :
    (received chunks).reasoning = if reasoningOf chunks = [] then (receive chunks).reasoning
      else some ⟨reasoningOf chunks, 0⟩ := by
  obtain ⟨hne, h1, -⟩ := reasoning_receive chunks
  have hp : (parseThinkTags chunks.flatten).reasoning = reasoningOf chunks := rfl
  simp only [received, finalizeMessage, content_receive, hp]
  by_cases h : reasoningOf chunks = []
  · rw [h]
    cases hr : (receive chunks).reasoning with
    | none => rfl
    | some r => simp [(hne r hr).1]
  · rw [h1 h]
    simp [h]

/-- **Chunks do not matter** exactly if the whole text has reasoning or no part at the end of a
chunk has: what is shown is always the same. -/
theorem chunking_independent_iff (chunks : List Text) :
    ((received chunks).content = (received [chunks.flatten]).content ∧
        (received chunks).reasoning = (received [chunks.flatten]).reasoning) ↔
      reasoningOf chunks ≠ [] ∨ ∀ pre, pre <+: chunks → reasoningOf pre = [] := by
  have h : (received chunks).content = (received [chunks.flatten]).content := by
    simp only [received, finalizeMessage, content_receive, List.flatten_singleton]
  have hone : reasoningOf [chunks.flatten] = reasoningOf chunks := by
    rw [reasoningOf, List.flatten_singleton]
    rfl
  have h1 := reasoning_receive_concat [] chunks.flatten
  rw [List.nil_append, hone] at h1
  rw [reasoning_received, reasoning_received, hone, h1, ← (reasoning_receive chunks).2.2]
  by_cases hr : reasoningOf chunks = []
  · simp only [hr, h, true_and, ne_eq, not_true_eq_false, false_or]
    rfl
  · simp [hr, h]

/-- An empty think block whose closing tag comes in two chunks. -/
theorem think_tag_split :
    (received ["<think></".toList, "think>hi".toList]).reasoning = some ⟨"</".toList, 0⟩ ∧
      (received ["<think></think>hi".toList]).reasoning = none := by
  decide

end Xingkong
