import Xingkong.Lib.Run
import Xingkong.Model.HeaderOverride

/-!
# Headers across retries

The retry loop of `Relay` tries one channel after the other with one relay information. What an
override has left in it stays when the channel is exchanged, so the headers one channel was given
reach the next. A channel is sent its own headers as long as no override succeeded before.
-/

namespace Xingkong

variable {lib : JsonLib}

/-! ## The retry loop -/

structure ClientRequest where
  originModelName : String
  requestURLPath : String
  requestHeaders : Headers
  isChannelTest : Bool

/-- `GenRelayInfo`; the loop starts with neither a retry nor an error. -/
def genRelayInfo (r : ClientRequest) : OverrideInfo where
  originModelName := r.originModelName
  requestURLPath := r.requestURLPath
  requestHeaders := r.requestHeaders
  isChannelTest := r.isChannelTest
  retryIndex := 0
  lastError := none
  runtimeHeadersOverride := []
  useRuntimeHeadersOverride := false
  channelMeta := none

/-- One turn of the loop: the channel it gets, the body its handler has converted the request to,
whether the handler runs overrides on it, and how the attempt ends. -/
structure Attempt where
  channel : ChannelMeta
  retryIndex : Nat
  json : Json
  appliesOverride : Bool
  outcome : Option RelayError

/-- The relay information when the request is about to be sent, and the body if it is. -/
def Attempt.prepare (lib : JsonLib) (a : Attempt) (info : OverrideInfo) :
    OverrideM Json × OverrideInfo :=
  let info := { info with retryIndex := a.retryIndex }.initChannelMeta a.channel
  if a.appliesOverride then applyParamOverrideWithRelayInfo lib a.json info else (.ok a.json, info)

/-- The override headers an attempt sends; nothing if an override refused the request. -/
def sentHeaders (lib : JsonLib) (info : OverrideInfo) (a : Attempt) : Option Headers :=
  match a.prepare lib info with
  | (.ok _, info) => some (getEffectiveHeaderOverride lib info)
  | (.error _, _) => none

def relayNext (lib : JsonLib) (info : OverrideInfo) (a : Attempt) : OverrideInfo :=
  { (a.prepare lib info).2 with lastError := a.outcome }

/-- The attempt's channel has an override, its handler runs it, and it succeeds. -/
def Attempt.overrides (lib : JsonLib) (a : Attempt) (info : OverrideInfo) : Bool :=
  a.appliesOverride && !a.channel.paramOverride.isEmpty && (a.prepare lib info).1.isOk

/-! ## What is left for the next attempt -/

/-- Whatever the loop has done, the next attempt starts from the client's request alone. -/
structure OverrideInfo.Untouched (r : ClientRequest) (info : OverrideInfo) : Prop where
  originModelName : info.originModelName = r.originModelName
  requestURLPath : info.requestURLPath = r.requestURLPath
  requestHeaders : info.requestHeaders = r.requestHeaders
  isChannelTest : info.isChannelTest = r.isChannelTest
  runtimeHeadersOverride : info.runtimeHeadersOverride = []
  useRuntimeHeadersOverride : info.useRuntimeHeadersOverride = false

theorem genRelayInfo_untouched (r : ClientRequest) : (genRelayInfo r).Untouched r :=
  ⟨rfl, rfl, rfl, rfl, rfl, rfl⟩

variable {a : Attempt} {info : OverrideInfo} {r : ClientRequest}

theorem Attempt.prepare_quiet (h : a.overrides lib info = false) :
    (a.prepare lib info).2 =
      { info with retryIndex := a.retryIndex, channelMeta := some a.channel } := by
  unfold overrides prepare at h
  unfold prepare
  cases happ : a.appliesOverride with
  | false => rfl
  | true =>
    simp only [happ, if_true] at h ⊢
    unfold applyParamOverrideWithRelayInfo at h ⊢
    have hmap : getParamOverrideMap
        (.initChannelMeta { info with retryIndex := a.retryIndex } a.channel) =
          a.channel.paramOverride := rfl
    rw [hmap] at h ⊢
    cases h1 : a.channel.paramOverride.isEmpty with
    | true => rfl
    | false =>
      simp only [h1, Bool.false_eq_true, if_false] at h ⊢
      split at h
      · rfl
      · cases h

theorem OverrideInfo.Untouched.next (h : info.Untouched r) (ha : a.overrides lib info = false) :
    (relayNext lib info a).Untouched r := by
  unfold relayNext
  rw [Attempt.prepare_quiet ha]
  exact ⟨h.1, h.2, h.3, h.4, h.5, h.6⟩

theorem OverrideInfo.Untouched.sentHeaders_eq (h : info.Untouched r) (a : Attempt) :
    sentHeaders lib info a =
      sentHeaders lib { genRelayInfo r with lastError := info.lastError } a := by
  obtain ⟨origin, path, headers, test, retry, last, runtime, useRuntime, channel⟩ := info
  obtain ⟨rfl, rfl, rfl, rfl, rfl, rfl⟩ := h
  rfl

theorem lastError_final (pre : List Attempt) :
    (Run.final (relayNext lib) (genRelayInfo r) pre).lastError =
      (pre.getLast?.bind (·.outcome)) := by
  induction pre using List.reverseRecOn with
  | nil => rfl
  | append_singleton pre a _ =>
    rw [Run.final_append, List.getLast?_concat]
    rfl

/-! ## Two runs -/

/-- Two attempts that differ in the overrides of their channels only. -/
structure Attempt.SameButOverrides (a b : Attempt) : Prop where
  upstreamModelName : a.channel.upstreamModelName = b.channel.upstreamModelName
  retryIndex : a.retryIndex = b.retryIndex
  json : a.json = b.json
  appliesOverride : a.appliesOverride = b.appliesOverride
  outcome : a.outcome = b.outcome

theorem lastOutcome_eq {pre pre' : List Attempt}
    (h : List.Forall₂ Attempt.SameButOverrides pre pre') :
    pre.getLast?.bind (·.outcome) = pre'.getLast?.bind (·.outcome) := by
  induction h with
  | nil => rfl
  | cons h hrest ih =>
    cases hrest with
    | nil => exact h.outcome
    | cons _ _ => exact ih

/-- **A channel's headers are its own**: two runs that differ in the overrides of the earlier
channels only send the next channel the same override headers, if none of these overrides was run
with success. -/
theorem header_overrides_isolated (lib : JsonLib) (r : ClientRequest) (pre pre' : List Attempt)
    (a : Attempt) (hsame : List.Forall₂ Attempt.SameButOverrides pre pre')
    (hquiet : ∀ e ∈ Run.trace (relayNext lib) (genRelayInfo r) pre,
      e.act.overrides lib e.before = false)
    (hquiet' : ∀ e ∈ Run.trace (relayNext lib) (genRelayInfo r) pre',
      e.act.overrides lib e.before = false) :
    sentHeaders lib (Run.final (relayNext lib) (genRelayInfo r) pre) a =
      sentHeaders lib (Run.final (relayNext lib) (genRelayInfo r) pre') a := by
  have h1 : ∀ (info : OverrideInfo) (b : Attempt), b.overrides lib info = false →
      info.Untouched r → (relayNext lib info b).Untouched r := fun _ _ hb h => h.next hb
  have h := Run.guarded_final (genRelayInfo_untouched r) hquiet h1
  have h' := Run.guarded_final (genRelayInfo_untouched r) hquiet' h1
  rw [h.sentHeaders_eq a, h'.sentHeaders_eq a, lastError_final, lastError_final,
    lastOutcome_eq hsame]

/-! ## Two channels -/

def plainLib : JsonLib where
  get _ _ := none
  set json _ _ := some json
  delete json _ := some json
  encode _ := ""
  format _ := ""
  parse _ := none
  regexReplace _ s _ := some s

def channelWith (paramOverride headersOverride : JsonObject) : ChannelMeta :=
  { paramOverride, headersOverride, upstreamModelName := "m" }

def attemptOn (channel : ChannelMeta) (retryIndex : Nat) : Attempt :=
  { channel, retryIndex, json := .obj [], appliesOverride := true
    outcome := some
      { statusCode := 500, message := "", code := "", type := "", skipRetry := false } }

def setHeaderOverride (name value : String) : JsonObject :=
  [("operations", .arr [.obj [("mode", .str "set_header"), ("path", .str name),
    ("value", .str value)]])]

def chatRequest : ClientRequest :=
  { originModelName := "m", requestURLPath := "/v1/chat/completions", requestHeaders := []
    isChannelTest := false }

def afterChannel (channel : ChannelMeta) : OverrideInfo :=
  Run.final (relayNext plainLib) (genRelayInfo chatRequest) [attemptOn channel 0]

theorem header_overrides_isolated_headers_only :
    sentHeaders plainLib (afterChannel (channelWith [] [("X-Api-Key", .str "secret")]))
        (attemptOn (channelWith [] [("X-Two", .str "2")]) 1) =
      sentHeaders plainLib (afterChannel (channelWith [] []))
        (attemptOn (channelWith [] [("X-Two", .str "2")]) 1) :=
  header_overrides_isolated plainLib chatRequest
    [attemptOn (channelWith [] [("X-Api-Key", .str "secret")]) 0] [attemptOn (channelWith [] []) 0]
    (attemptOn (channelWith [] [("X-Two", .str "2")]) 1)
    (.cons ⟨rfl, rfl, rfl, rfl, rfl⟩ .nil) (by decide +kernel) (by decide +kernel)

/-- The first channel sets a header by an operation: the second is sent that header in place of its
own, with or without operations of its own. -/
theorem header_overrides_leak :
    (let two := attemptOn (channelWith [] [("X-Two", .str "2")]) 1
     sentHeaders plainLib (afterChannel (channelWith (setHeaderOverride "X-Api-Key" "secret") []))
       two =
        some [("x-api-key", "secret")] ∧
      sentHeaders plainLib (afterChannel (channelWith [] [])) two = some [("x-two", "2")]) ∧
    (let two := attemptOn (channelWith (setHeaderOverride "X-Three" "3") [("X-Two", .str "2")]) 1
     sentHeaders plainLib (afterChannel (channelWith (setHeaderOverride "X-Api-Key" "secret") []))
       two =
        some [("x-api-key", "secret"), ("x-three", "3")] ∧
      sentHeaders plainLib (afterChannel (channelWith [] [])) two =
        some [("x-two", "2"), ("x-three", "3")]) := by
  decide +kernel

end Xingkong
