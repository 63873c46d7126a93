import Xingkong.Model.Json
import Mathlib.Data.Int.Order.Basic

/-!
# The relay's retry loop for automatic groups

`service/channel_select.go` and `service/group.go` (the groups a token of group `auto` runs
through and the selector that walks them), `middleware/distributor.go` (the first channel of a
request) and the loop of `controller/relay.go` with `getChannel` and `shouldRetry`.

The channels available change while a request is served: every call of the selector draws from
a population of its own. A group is named by its index in the user's list.
-/

namespace Xingkong

/-! ## Status codes (`setting/operation_setting/status_code_ranges.go`) -/

structure StatusCodeRange where
  start : Int
  «end» : Int

def alwaysSkipRetryStatusCodes : List Int := [504, 524]

def alwaysSkipRetryCodes : List String := ["bad_response_body"]

def matchStatusCode (code : Int) : List StatusCodeRange → Bool
  | [] => false
  | r :: rest =>
    if code < r.start then false
    else if code ≤ r.end then true
    else matchStatusCode code rest

def shouldMatchStatusCodeRanges (ranges : List StatusCodeRange) (code : Int) : Bool :=
  if code < 100 ∨ code > 599 then false else matchStatusCode code ranges

def shouldRetryByStatusCode (ranges : List StatusCodeRange) (code : Int) : Bool :=
  if alwaysSkipRetryStatusCodes.contains code then false
  else shouldMatchStatusCodeRanges ranges code

/-! ## Settings and the user's groups -/

structure RetrySettings where
  autoGroups : List String
  /-- The keys of `GetUserUsableGroups` for the user's group. -/
  usableGroups : List String
  retryTimes : Nat
  crossGroupRetry : Bool
  automaticRetryStatusCodeRanges : List StatusCodeRange

def RetrySettings.getUserAutoGroup (st : RetrySettings) : List String :=
  let autoGroups := st.autoGroups.filter fun group => st.usableGroups.contains group
  if autoGroups.isEmpty then
    if st.usableGroups.contains "default" then ["default"] else []
  else autoGroups

/-! ## The selector (`service/channel_select.go`) -/

structure RetryParam where
  retry : Nat
  resetNextTry : Bool
  deriving DecidableEq

def RetryParam.increaseRetry (p : RetryParam) : RetryParam :=
  if p.resetNextTry then { p with resetNextTry := false } else { p with retry := p.retry + 1 }

/-- `GetRandomSatisfiedChannel` for the request's model: the id of the channel it draws for a
group at a priority level, or none. -/
abbrev Population := String → Nat → Option Nat

/-- One upstream attempt: the index of the group its channel was chosen in, if it was chosen
in one, and the channel. -/
structure UpstreamAttempt where
  group : Option Nat
  channel : Nat
  deriving DecidableEq

/-- `ContextKeyAutoGroupIndex` and the caller's counter, which a call of the selector updates. -/
structure Selector where
  autoGroupIndex : Option Nat
  param : RetryParam
  deriving DecidableEq

/-- The loop of `CacheGetRandomSatisfiedChannel` from index `i`, over the groups from there on.
Only the group it starts at is searched at the caller's retry. -/
def tryGroups (st : RetrySettings) (draw : Population) :
    List String → Nat → Nat → Selector → Option UpstreamAttempt × Selector
  | [], _, _, s => (none, s)
  | autoGroup :: rest, i, priorityRetry, s =>
    match draw autoGroup priorityRetry with
    | none =>
      tryGroups st draw rest (i + 1) 0
        { autoGroupIndex := some (i + 1), param := { s.param with retry := 0 } }
    | some channel =>
      if st.crossGroupRetry && decide (priorityRetry ≥ st.retryTimes) then
        (some ⟨some i, channel⟩, { autoGroupIndex := some (i + 1), param := ⟨0, true⟩ })
      else
        (some ⟨some i, channel⟩, { s with autoGroupIndex := some i })

/-- `CacheGetRandomSatisfiedChannel` for the token group `auto`. Its error and a nil channel
end the request in the same way. -/
def cacheGetRandomSatisfiedChannel (st : RetrySettings) (draw : Population) (s : Selector) :
    Option UpstreamAttempt × Selector :=
  if st.autoGroups.isEmpty then (none, s)
  else
    let startGroupIndex := s.autoGroupIndex.getD 0
    tryGroups st draw (st.getUserAutoGroup.drop startGroupIndex) startGroupIndex s.param.retry s

/-! ## The distributor (`middleware/distributor.go`) -/

/-- The channel an affinity rule remembers: its id, whether it is enabled, and the groups
`IsChannelEnabledForGroupModel` accepts it in. -/
structure PreferredChannel where
  id : Nat
  enabled : Bool
  enabledGroups : List String

structure AffinityRule where
  skipRetryOnFailure : Bool
  preferred : Option PreferredChannel

structure RelayRequest where
  specificChannelId : Option Nat
  affinity : Option AffinityRule

structure Dispatch where
  first : UpstreamAttempt
  autoGroupIndex : Option Nat
  deriving DecidableEq

/-- The distributor's own call of the selector; its counter is dropped afterwards. -/
def dispatchSelected (st : RetrySettings) (draw : Population) : Option Dispatch :=
  match cacheGetRandomSatisfiedChannel st draw ⟨none, ⟨0, false⟩⟩ with
  | (none, _) => none
  | (some first, s) => some ⟨first, s.autoGroupIndex⟩

/-- `Distribute` for a token of group `auto`. A specific channel exists and is enabled, or the
request ends here; an affinity channel is used without a call of the selector. -/
def distribute (st : RetrySettings) (req : RelayRequest) (draw : Population) : Option Dispatch :=
  match req.specificChannelId with
  | some id => some ⟨⟨none, id⟩, none⟩
  | none =>
    match req.affinity.bind AffinityRule.preferred with
    | none => dispatchSelected st draw
    | some preferred =>
      if preferred.enabled then
        match st.getUserAutoGroup.findIdx? fun g => preferred.enabledGroups.contains g with
        | some i => some ⟨⟨some i, preferred.id⟩, none⟩
        | none => dispatchSelected st draw
      else if req.affinity.any AffinityRule.skipRetryOnFailure then none
      else dispatchSelected st draw

/-- `ShouldSkipRetryAfterChannelAffinityFailure`: affinity is not looked up for a request with a
specific channel. -/
def RelayRequest.shouldSkipRetryAfterChannelAffinityFailure (req : RelayRequest) : Bool :=
  req.specificChannelId.isNone && req.affinity.any AffinityRule.skipRetryOnFailure

/-! ## The loop (`controller/relay.go`) -/

structure NewAPIError where
  errorCode : String
  skipRetry : Bool
  statusCode : Int

def NewAPIError.isChannelError (err : NewAPIError) : Bool := startsWith err.errorCode "channel:"

def shouldRetry (st : RetrySettings) (req : RelayRequest) (openaiErr : NewAPIError)
    (retryTimes : Int) : Bool :=
  if req.shouldSkipRetryAfterChannelAffinityFailure then false
  else if openaiErr.isChannelError then true
  else if openaiErr.skipRetry then false
  else if retryTimes ≤ 0 then false
  else if req.specificChannelId.isSome then false
  else
    let code := openaiErr.statusCode
    if code ≥ 200 ∧ code < 300 then false
    else if code < 100 ∨ code > 599 then true
    else if alwaysSkipRetryCodes.contains openaiErr.errorCode then false
    else shouldRetryByStatusCode st.automaticRetryStatusCodeRanges code

/-- What one turn of the loop meets: the channels there are, whether setting up the chosen
channel and reading the body succeed, and the error the upstream call ends with, if any. -/
structure Turn where
  draw : Population
  setupOk : Bool
  bodyOk : Bool
  newAPIError : Option NewAPIError

structure RelayLoop where
  selector : Selector
  channelMeta : Bool
  attempts : List UpstreamAttempt
  running : Bool

def RelayLoop.start (d : Dispatch) : RelayLoop :=
  { selector := ⟨d.autoGroupIndex, ⟨0, false⟩⟩, channelMeta := false, attempts := [],
    running := true }

/-- `getChannel`: the distributor's channel until an attempt was made, then the selector's. -/
def RelayLoop.getChannel (st : RetrySettings) (first : UpstreamAttempt) (l : RelayLoop) (t : Turn) :
    Option UpstreamAttempt × Selector :=
  if l.channelMeta then
    match cacheGetRandomSatisfiedChannel st t.draw l.selector with
    | (none, s) => (none, s)
    | (some a, s) => if t.setupOk then (some a, s) else (none, s)
  else (some first, l.selector)

/-- One turn of the loop of `Relay`, up to the next test of its condition. -/
def relayTurn (st : RetrySettings) (req : RelayRequest) (first : UpstreamAttempt) (l : RelayLoop)
    (t : Turn) : RelayLoop :=
  if l.running then
    match RelayLoop.getChannel st first l t with
    | (none, s) => { l with selector := s, running := false }
    | (some a, s) =>
      if t.bodyOk then
        let l := { l with selector := s, channelMeta := true, attempts := l.attempts ++ [a] }
        match t.newAPIError with
        | none => { l with running := false }
        | some err =>
          if shouldRetry st req err (st.retryTimes - s.param.retry) then
            let param := s.param.increaseRetry
            { l with
              selector := { s with param := param },
              running := decide (param.retry ≤ st.retryTimes) }
          else { l with running := false }
      else { l with selector := s, running := false }
  else l

/-- The attempts made for a request, in order, while the loop meets the turns `ts`. -/
def relayAttempts (st : RetrySettings) (req : RelayRequest) (draw : Population) (ts : List Turn) :
    List UpstreamAttempt :=
  match distribute st req draw with
  | none => []
  | some d => (ts.foldl (relayTurn st req d.first) (RelayLoop.start d)).attempts

end Xingkong
