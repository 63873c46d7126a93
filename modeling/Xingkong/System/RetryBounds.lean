import Xingkong.Lib.Ladder
import Xingkong.Lib.Run
import Xingkong.Model.RetryLoop

/-!
# How often and where the relay tries again

The selector keeps its place in two parts: the index of the group in the request's context and
the retry in the loop's counter, which it resets when it moves on and whose next increment it
suppresses. Read together they are a place on a ladder (`Ladder.At`): a level for each group, a
slot for each retry. A turn of the loop takes a slot and goes on above it, so the attempts are
bounded.

What the loop starts from is the distributor's choice. A channel chosen by affinity is used
without telling the context which group it came from, and the loop then starts over from the
first group (`retry_loop_bounded_iff`).
-/

namespace Xingkong

open Ladder List

variable {st : RetrySettings} {req : RelayRequest} {draw : Population}

/-! ## The selector -/

variable {s s' : Selector} {a : UpstreamAttempt} {d : Dispatch} {l : RelayLoop}

/-- What the selector does when it finds a channel: it stays in the group it starts at, or moves
to a later one at retry 0, and leaves its place for the next call. -/
theorem tryGroups_some {groups : List String} {i p : Nat} (hp : s.param.retry = p)
    (h : tryGroups st draw groups i p s = (some a, s')) :
    ∃ j q, a.group = some j ∧ j < i + groups.length ∧ (j = i ∧ q = p ∨ i < j ∧ q = 0) ∧
      (st.crossGroupRetry = true ∧ st.retryTimes ≤ q ∧ s' = ⟨some (j + 1), ⟨0, true⟩⟩ ∨
        s' = ⟨some j, ⟨q, s.param.resetNextTry⟩⟩) := by
  induction groups generalizing i p s with
  | nil => cases h
  | cons group rest ih =>
    simp only [tryGroups] at h
    split at h
    · obtain ⟨j, q, ha, hj, hq, hs'⟩ := ih (p := 0) rfl h
      refine ⟨j, q, ha, ?_, .inr ?_, hs'⟩
      · rw [length_cons]
        omega
      · rcases hq with ⟨rfl, rfl⟩ | ⟨hlt, rfl⟩ <;> exact ⟨by omega, rfl⟩
    · refine ⟨i, p, ?_, by simp, .inl ⟨rfl, rfl⟩, ?_⟩
      · split at h <;> cases h <;> rfl
      · split at h
        · next h1 =>
          simp only [Bool.and_eq_true, decide_eq_true_eq] at h1
          cases h
          exact .inl ⟨h1.1, h1.2, rfl⟩
        · cases h
          subst hp
          exact .inr rfl

/-- The place of the selector on the ladder of groups and retries. -/
abbrev Selector.At (st : RetrySettings) (s : Selector) (xs : List (Option Nat)) : Prop :=
  Ladder.At st.retryTimes (s.autoGroupIndex.getD 0) s.param.retry xs

/-- An attempt the selector chose takes a slot, and the next increment of the counter leads to
the place above it. -/
theorem select_climbs {xs : List (Option Nat)} (hat : s.At st xs)
    (hreset : s.param.resetNextTry = false) (hretry : s.param.retry ≤ st.retryTimes)
    (h : cacheGetRandomSatisfiedChannel st draw s = (some a, s')) :
    Bounded st.getUserAutoGroup.length st.retryTimes (xs ++ [a.group]) ∧
      Selector.At st ⟨s'.autoGroupIndex, s'.param.increaseRetry⟩ (xs ++ [a.group]) ∧
      s'.param.increaseRetry.resetNextTry = false := by
  unfold cacheGetRandomSatisfiedChannel at h
  split at h
  · cases h
  · obtain ⟨j, q, ha, hj, hq, hs'⟩ := tryGroups_some rfl h
    rw [length_drop] at hj
    -- The slot that is taken: the next one of the group, or the first one of a later group.
    have hst : Ladder.At st.retryTimes j q xs ∧ q ≤ st.retryTimes := by
      rcases hq with ⟨rfl, rfl⟩ | ⟨hlt, rfl⟩
      · exact ⟨hat, hretry⟩
      · exact ⟨hat.climb (by omega) hlt, by omega⟩
    have h1 : Ladder.At st.retryTimes j (q + 1) (xs ++ [a.group]) := by
      rw [ha]
      exact hst.1.stay hst.2
    refine ⟨h1.bounded (by omega) (by omega), ?_⟩
    rcases hs' with ⟨-, -, rfl⟩ | rfl
    · exact ⟨h1.climb (by omega) (Nat.lt_succ_self j), rfl⟩
    · rw [hreset]
      exact ⟨h1, rfl⟩

/-! ## Where the loop starts -/

/-- The first channel comes from affinity, in a group that is not the user's first, and the
request may be tried again. -/
def AffinityBeyondFirst (st : RetrySettings) (req : RelayRequest) : Prop :=
  1 ≤ st.retryTimes ∧ req.specificChannelId = none ∧
    ∃ rule preferred j, req.affinity = some rule ∧ rule.skipRetryOnFailure = false ∧
      rule.preferred = some preferred ∧ preferred.enabled = true ∧
      st.getUserAutoGroup.findIdx? (fun g => preferred.enabledGroups.contains g) = some j ∧ 0 < j

abbrev Dispatch.Placed (st : RetrySettings) (d : Dispatch) : Prop :=
  Ladder.At st.retryTimes (d.autoGroupIndex.getD 0) 1 [d.first.group]

theorem dispatchSelected_placed (hR : 1 ≤ st.retryTimes) (h : dispatchSelected st draw = some d) :
    d.Placed st := by
  unfold dispatchSelected at h
  split at h
  · cases h
  · next first s hsel =>
    cases h
    unfold cacheGetRandomSatisfiedChannel at hsel
    split at hsel
    · cases hsel
    · obtain ⟨j, q, ha, -, hq, hs'⟩ := tryGroups_some rfl hsel
      have hq : q = 0 := by rcases hq with ⟨-, rfl⟩ | ⟨-, rfl⟩ <;> rfl
      rcases hs' with ⟨-, hle, -⟩ | rfl
      · omega
      · unfold Dispatch.Placed
        rw [ha]
        exact (At.start st.retryTimes j).stay (Nat.zero_le _)

theorem distribute_placed (hcond : ¬ AffinityBeyondFirst st req) (hR : 1 ≤ st.retryTimes)
    (hskip : req.shouldSkipRetryAfterChannelAffinityFailure = false)
    (h : distribute st req draw = some d) : d.Placed st := by
  unfold distribute at h
  split at h
  · cases h
    exact (At.start st.retryTimes 0).off
  · next hspecific =>
    split at h
    · exact dispatchSelected_placed hR h
    · next preferred h1 =>
      obtain ⟨rule, hrule, h2⟩ := Option.bind_eq_some_iff.mp h1
      split at h
      · next henabled =>
        split at h
        · next j hj =>
          cases h
          have h1 : rule.skipRetryOnFailure = false := by
            simpa [RelayRequest.shouldSkipRetryAfterChannelAffinityFailure, hspecific, hrule]
              using hskip
          have h3 : j = 0 := by
            by_contra hne
            exact hcond ⟨hR, hspecific, rule, preferred, j, hrule, h1, h2, henabled, hj,
              Nat.pos_of_ne_zero hne⟩
          subst h3
          exact (At.start st.retryTimes 0).stay (Nat.zero_le _)
        · exact dispatchSelected_placed hR h
      · split at h
        · cases h
        · exact dispatchSelected_placed hR h

/-! ## The loop -/

def RelayLoop.groups (l : RelayLoop) : List (Option Nat) := l.attempts.map UpstreamAttempt.group

/-- What a turn does: nothing, end the loop without an attempt, or make one attempt; and the
loop goes on only after a failure it may retry. -/
theorem relayTurn_cases (st : RetrySettings) (req : RelayRequest) (first : UpstreamAttempt)
    (l : RelayLoop) (t : Turn) :
    relayTurn st req first l t = l ∨
    ((relayTurn st req first l t).attempts = l.attempts ∧
      (relayTurn st req first l t).running = false) ∨
    ∃ a s, l.running = true ∧ RelayLoop.getChannel st first l t = (some a, s) ∧
      (relayTurn st req first l t).attempts = l.attempts ++ [a] ∧
      ((relayTurn st req first l t).running = true →
        req.shouldSkipRetryAfterChannelAffinityFailure = false ∧
        (relayTurn st req first l t).channelMeta = true ∧
        (relayTurn st req first l t).selector = ⟨s.autoGroupIndex, s.param.increaseRetry⟩ ∧
        s.param.increaseRetry.retry ≤ st.retryTimes) := by
  unfold relayTurn
  split
  · next h =>
    split
    · exact .inr (.inl ⟨rfl, rfl⟩)
    · next a s hget =>
      split
      · refine .inr (.inr ⟨a, s, h, hget, ?_⟩)
        cases t.newAPIError with
        | none => exact ⟨rfl, fun h => absurd h (by simp)⟩
        | some err =>
          by_cases h1 : shouldRetry st req err (st.retryTimes - s.param.retry) = true
          · simp only [h1, if_true]
            refine ⟨trivial, fun hle => ⟨?_, trivial, trivial, of_decide_eq_true hle⟩⟩
            by_contra h2
            simp [shouldRetry, Bool.eq_true_of_not_eq_false h2] at h1
          · simp only [h1, if_false, Bool.false_eq_true]
            exact ⟨trivial, fun h => absurd h (by simp)⟩
      · exact .inr (.inl ⟨rfl, rfl⟩)
  · exact .inl rfl

/-- The state of the loop of a request that was dispatched as `d`. -/
structure RelayLoop.Inv (st : RetrySettings) (d : Dispatch) (l : RelayLoop) : Prop where
  bounded : Bounded st.getUserAutoGroup.length st.retryTimes l.groups
  fresh : l.channelMeta = false → l.running = true →
    l.groups = [] ∧ l.selector = ⟨d.autoGroupIndex, ⟨0, false⟩⟩
  placed : l.channelMeta = true → l.running = true →
    l.selector.At st l.groups ∧ l.selector.param.resetNextTry = false ∧
      l.selector.param.retry ≤ st.retryTimes

theorem RelayLoop.getChannel_some {first : UpstreamAttempt} {t : Turn}
    (h : RelayLoop.getChannel st first l t = (some a, s)) :
    (l.channelMeta = false ∧ a = first ∧ s = l.selector) ∨
      (l.channelMeta = true ∧ cacheGetRandomSatisfiedChannel st t.draw l.selector =
        (some a, s)) := by
  unfold RelayLoop.getChannel at h
  split at h
  · next hmeta =>
    refine .inr ⟨hmeta, ?_⟩
    split at h
    · cases h
    · next hsel =>
      split at h
      · cases h
        exact hsel
      · cases h
  · next hmeta =>
    cases h
    exact .inl ⟨by simpa using hmeta, rfl, rfl⟩

theorem relayTurn_inv (hg : 1 ≤ st.getUserAutoGroup.length)
    (hplaced : 1 ≤ st.retryTimes → req.shouldSkipRetryAfterChannelAffinityFailure = false →
      d.Placed st) (hinv : l.Inv st d) (t : Turn) :
    (relayTurn st req d.first l t).Inv st d := by
  rcases relayTurn_cases st req d.first l t with
    heq | ⟨h1, h2⟩ | ⟨a, s, hrunning, hget, h3, hnext⟩
  · rwa [heq]
  · refine ⟨?_, fun _ h => absurd h (by simp [h2]), fun _ h => absurd h (by simp [h2])⟩
    unfold RelayLoop.groups
    rw [h1]
    exact hinv.bounded
  · have hgroups : (relayTurn st req d.first l t).groups = l.groups ++ [a.group] := by
      unfold RelayLoop.groups
      rw [h3, map_append, map_singleton]
    -- The attempt itself, and the place the loop goes on from.
    have hmain : Bounded st.getUserAutoGroup.length st.retryTimes (l.groups ++ [a.group]) ∧
        (s.param.increaseRetry.retry ≤ st.retryTimes →
          req.shouldSkipRetryAfterChannelAffinityFailure = false →
          Selector.At st ⟨s.autoGroupIndex, s.param.increaseRetry⟩ (l.groups ++ [a.group]) ∧
            s.param.increaseRetry.resetNextTry = false) := by
      rcases RelayLoop.getChannel_some hget with ⟨hmeta, rfl, rfl⟩ | ⟨hmeta, hsel⟩
      · obtain ⟨hnil, hselector⟩ := hinv.fresh hmeta hrunning
        rw [hnil, hselector, nil_append]
        refine ⟨⟨?_, fun i => ?_, ?_⟩, fun hR hskip => ⟨hplaced hR hskip, rfl⟩⟩
        · exact Nat.mul_pos hg (Nat.succ_pos _)
        · exact (count_le_length).trans (by simp)
        · cases d.first.group <;> simp [List.reduceOption]
      · obtain ⟨hat, hreset, h1⟩ := hinv.placed hmeta hrunning
        obtain ⟨hb, hat', h2⟩ := select_climbs hat hreset h1 hsel
        exact ⟨hb, fun _ _ => ⟨hat', h2⟩⟩
    refine ⟨?_, fun hmeta h => ?_, fun _ h => ?_⟩
    · rw [hgroups]
      exact hmain.1
    · obtain ⟨-, h1, -, -⟩ := hnext h
      exact absurd (hmeta.symm.trans h1) (by simp)
    · obtain ⟨hskip, -, hselector, hle⟩ := hnext h
      obtain ⟨hat, hreset⟩ := hmain.2 hle hskip
      rw [hgroups, hselector]
      exact ⟨hat, hreset, hle⟩

def groupsTried (st : RetrySettings) (req : RelayRequest) (draw : Population) (ts : List Turn) :
    List (Option Nat) := (relayAttempts st req draw ts).map UpstreamAttempt.group

theorem groupsTried_bounded (hg : 1 ≤ st.getUserAutoGroup.length)
    (hcond : ¬ AffinityBeyondFirst st req) (draw : Population) (ts : List Turn) :
    Bounded st.getUserAutoGroup.length st.retryTimes (groupsTried st req draw ts) := by
  unfold groupsTried relayAttempts
  split
  · exact .nil _ _
  · next d hd =>
    have h1 : (RelayLoop.start d).Inv st d :=
      ⟨.nil _ _, fun _ _ => ⟨rfl, rfl⟩, fun h => absurd h (by simp [RelayLoop.start])⟩
    have h : (Run.final (relayTurn st req d.first) (.start d) ts).Inv st d :=
      Run.final_invariant h1 fun l t _ hinv =>
        relayTurn_inv hg (fun hR h1 => distribute_placed hcond hR h1 hd) hinv t
    exact h.bounded

/-! ## Starting over -/

def channelFailure : NewAPIError := ⟨"channel:no_available_key", false, 500⟩

def startOver : List Turn :=
  [⟨fun _ _ => none, true, true, some channelFailure⟩, ⟨fun _ _ => some 1, true, true, none⟩]

theorem groupsTried_startOver {preferred : PreferredChannel} {rule : AffinityRule} {j : Nat}
    (hR : 1 ≤ st.retryTimes) (h : req.specificChannelId = none)
    (hrule : req.affinity = some rule) (hskip : rule.skipRetryOnFailure = false)
    (h1 : rule.preferred = some preferred) (h2 : preferred.enabled = true)
    (hj : st.getUserAutoGroup.findIdx? (fun g => preferred.enabledGroups.contains g) = some j)
    (hpos : 0 < j) (draw : Population) :
    groupsTried st req draw startOver = [some j, some 0] := by
  have hd : distribute st req draw = some ⟨⟨some j, preferred.id⟩, none⟩ := by
    simp only [distribute, h, hrule, Option.bind_some, h1, h2, if_true, hj]
  have hfail : ∀ n, shouldRetry st req channelFailure n = true := fun n => by
    have h : channelFailure.isChannelError = true := by decide
    simp [shouldRetry, RelayRequest.shouldSkipRetryAfterChannelAffinityFailure, hrule, hskip, h]
  -- Two groups at least, so the settings name groups at all.
  have hlen : 1 < st.getUserAutoGroup.length := by
    have := (List.findIdx?_eq_some_iff_findIdx_eq.mp hj).1
    omega
  have hauto : st.autoGroups.isEmpty = false := by
    by_contra h
    have hnil : st.autoGroups = [] := by simpa using h
    have : st.getUserAutoGroup.length ≤ 1 := by
      simp only [RetrySettings.getUserAutoGroup, hnil, filter_nil, isEmpty_nil, if_true]
      split <;> simp
    omega
  obtain ⟨group, rest, h⟩ := exists_cons_of_length_pos (Nat.lt_of_succ_lt hlen)
  have hsel : ∃ s, cacheGetRandomSatisfiedChannel st (fun _ _ => some 1) ⟨none, ⟨1, false⟩⟩ =
      (some ⟨some 0, 1⟩, s) := by
    simp only [cacheGetRandomSatisfiedChannel, hauto, h, Option.getD_none, drop_zero,
      tryGroups, Bool.false_eq_true, if_false]
    split <;> exact ⟨_, rfl⟩
  obtain ⟨s, hsel⟩ := hsel
  simp [groupsTried, relayAttempts, hd, startOver, relayTurn, RelayLoop.start,
    RelayLoop.getChannel, hfail, RetryParam.increaseRetry, hR, hsel]

/-- **The retry loop is bounded** exactly when it does not start over: unless a request that may
be retried was first sent, by affinity, to a channel of a later group, every run of the loop
makes at most `g * (R + 1)` attempts, at most `R + 1` in a group, and never goes back to an
earlier group. -/
theorem retry_loop_bounded_iff (st : RetrySettings) (req : RelayRequest)
    (hg : 1 ≤ st.getUserAutoGroup.length) :
    (∀ draw ts, Bounded st.getUserAutoGroup.length st.retryTimes (groupsTried st req draw ts)) ↔
      ¬ AffinityBeyondFirst st req := by
  constructor
  · rintro h ⟨hR, h1, rule, preferred, j, h2, h3, h4, h5, hj, hpos⟩
    have h6 := (h (fun _ _ => none) startOver).sorted
    rw [groupsTried_startOver hR h1 h2 h3 h4 h5 hj hpos] at h6
    simp [List.reduceOption] at h6
    omega
  · intro h draw ts
    exact groupsTried_bounded hg h draw ts

def twoGroups : RetrySettings :=
  { autoGroups := ["default", "vip"], usableGroups := ["default", "vip"], retryTimes := 1,
    crossGroupRetry := true, automaticRetryStatusCodeRanges := [] }

def affinityRequest (group : String) : RelayRequest :=
  ⟨none, some ⟨false, some ⟨7, true, [group]⟩⟩⟩

theorem retry_loop_bounded_first_group :
    1 ≤ twoGroups.getUserAutoGroup.length ∧
      ∀ draw ts, Bounded twoGroups.getUserAutoGroup.length twoGroups.retryTimes
        (groupsTried twoGroups (affinityRequest "default") draw ts) := by
  refine ⟨by decide, (retry_loop_bounded_iff twoGroups (affinityRequest "default")
    (by decide)).2 ?_⟩
  rintro ⟨-, -, rule, preferred, j, h, -, h1, -, hj, hpos⟩
  cases h
  cases h1
  have h : twoGroups.getUserAutoGroup.findIdx? (fun g => ["default"].contains g) = some 0 := by
    decide
  cases h.symm.trans hj
  exact absurd hpos (Nat.lt_irrefl 0)

/-- The affinity channel of group 1 fails and the loop goes to group 0. When the later attempts
fail too, group 1 gets three attempts where `R + 1` is two. -/
theorem retry_loop_starts_over :
    groupsTried twoGroups (affinityRequest "vip") (fun _ _ => none)
        (List.replicate 4 ⟨fun _ _ => some 1, true, true, some channelFailure⟩) =
        [some 1, some 0, some 1, some 1] ∧
      ¬ ([1, 0, 1, 1] : List Nat).Pairwise (· ≤ ·) ∧
      ¬ [some 1, some 0, some 1, some 1].count (some 1) ≤ twoGroups.retryTimes + 1 := by
  decide

end Xingkong
