import Xingkong.Lib.Run
import Xingkong.Lib.SlidingWindow
import Xingkong.Model.RateLimit
import Mathlib.Algebra.Order.Ring.Int

/-!
# The limiter in memory over whole runs

Any callers share one limiter, each key with its own limit and window, while the cleaner
passes at any time. The queue of a key covers its window (`SlidingWindow.Covers`): a
request keeps that up, and a pass of the cleaner does so as long as it deletes old queues
only. The cleaner goes by the duration the limiter was first initialised with, so the
bound holds for all runs exactly when no window is longer than that
(`memory_limiter_bounded_iff`).
-/

namespace Xingkong

open SlidingWindow List

variable {key : String}

namespace InMemoryRateLimiter

def kept (l : InMemoryRateLimiter) (key : String) : List Int :=
  match l.store with
  | none => []
  | some store => (store key).getD []

variable {l : InMemoryRateLimiter}

/-- What a request does to an initialised limiter: it is appended while there is room, it
takes the place of an oldest entry that has left the window, or it is rejected. -/
theorem request_spec (hinit : l.store.isSome) {n : Nat} (hn : 1 ≤ n) (key : String) (d now : Int) :
    (∃ l', l.request key n d now = some (true, l') ∧ l'.store.isSome ∧
      l'.expirationDuration = l.expirationDuration ∧
      (∀ other, other ≠ key → l'.kept other = l.kept other) ∧
      ((l.kept key).length < n ∧ l'.kept key = l.kept key ++ [now] ∨
        ∃ oldest rest, l.kept key = oldest :: rest ∧ n ≤ (oldest :: rest).length ∧
          oldest + d ≤ now ∧ l'.kept key = rest ++ [now])) ∨
    (l.request key n d now = some (false, l) ∧
      ∃ oldest rest, l.kept key = oldest :: rest ∧ n ≤ (oldest :: rest).length ∧
        now < oldest + d) := by
  obtain ⟨store, hstore⟩ := Option.isSome_iff_exists.mp hinit
  -- What a write under the key leaves behind.
  have hwrite : ∀ queue, ∃ l', l' =
      ({ l with store := some (Function.update store key (some queue)) } : InMemoryRateLimiter) ∧
      l'.store.isSome ∧ l'.expirationDuration = l.expirationDuration ∧
      (∀ other, other ≠ key → l'.kept other = l.kept other) ∧ l'.kept key = queue := by
    intro queue
    refine ⟨_, rfl, rfl, rfl, fun other h1 => ?_, ?_⟩
    · simp [kept, hstore, Function.update_of_ne h1]
    · simp [kept]
  cases hqueue : store key with
  | none =>
    have hkept : l.kept key = [] := by simp [kept, hstore, hqueue]
    obtain ⟨l', rfl, h1, h2, h3, h4⟩ := hwrite [now]
    refine .inl ⟨_, ?_, h1, h2, h3, .inl ⟨?_, ?_⟩⟩
    · simp [request, hstore, hqueue]
    · rw [hkept]
      exact hn
    · rw [hkept, h4]
      rfl
  | some queue =>
    have hkept : l.kept key = queue := by simp [kept, hstore, hqueue]
    by_cases hroom : queue.length < n
    · obtain ⟨l', rfl, h1, h2, h3, h4⟩ := hwrite (queue ++ [now])
      refine .inl ⟨_, ?_, h1, h2, h3, .inl ⟨?_, ?_⟩⟩
      · simp [request, hstore, hqueue, hroom]
      · rwa [hkept]
      · rw [hkept, h4]
    · cases queue with
      | nil => exact absurd hn (by simpa using hroom)
      | cons oldest rest =>
        rw [not_lt] at hroom
        by_cases hold : oldest + d ≤ now
        · obtain ⟨l', rfl, h1, h2, h3, h4⟩ := hwrite (rest ++ [now])
          refine .inl ⟨_, ?_, h1, h2, h3, .inr ⟨oldest, rest, hkept, hroom, hold, h4⟩⟩
          have hsub : d ≤ now - oldest := by omega
          simp only [request, hstore, hqueue, not_lt.mpr hroom, if_false, hsub, if_true]
        · refine .inr ⟨?_, oldest, rest, hkept, hroom, not_le.mp hold⟩
          have hsub : ¬ d ≤ now - oldest := by omega
          simp only [request, hstore, hqueue, not_lt.mpr hroom, if_false, hsub]

theorem clear_spec (l : InMemoryRateLimiter) (now : Int) (key : String) :
    (l.clearExpiredItems now).kept key = l.kept key ∨
      ((l.clearExpiredItems now).kept key = [] ∧ 0 < l.expirationDuration ∧
        ∃ newest, (l.kept key).getLast? = some newest ∧ l.expirationSeconds < now - newest) := by
  unfold clearExpiredItems
  split
  · exact .inl rfl
  next hpos =>
    cases hstore : l.store with
    | none => simp [kept, hstore]
    | some store =>
      cases hqueue : store key with
      | none => simp [kept, hstore, hqueue]
      | some queue =>
        cases hlast : queue.getLast? with
        | none =>
          rw [List.getLast?_eq_none_iff] at hlast
          subst hlast
          simp [kept, hstore, hqueue, expired]
        | some newest =>
          by_cases hexp : l.expirationSeconds < now - newest
          · refine .inr ⟨?_, not_le.mp hpos, newest, ?_, hexp⟩
            · simp [kept, hqueue, expired, hlast, hexp]
            · simp [kept, hstore, hqueue, hlast]
          · refine .inl ?_
            simp [kept, hstore, hqueue, expired, hlast, hexp]

theorem clear_deletes (hpos : 0 < l.expirationDuration) {now : Int} {newest : Int}
    (hnewest : (l.kept key).getLast? = some newest) (hexp : l.expirationSeconds < now - newest) :
    (l.clearExpiredItems now).kept key = [] := by
  cases hstore : l.store with
  | none => simp [kept, hstore] at hnewest
  | some store =>
    cases h1 : store key with
    | none => simp [kept, hstore, h1] at hnewest
    | some queue =>
      simp only [kept, hstore, h1, Option.getD_some] at hnewest
      simp [clearExpiredItems, kept, hstore, h1, expired, hnewest, hexp, not_le.mpr hpos]

theorem clear_init (h : l.store.isSome) (now : Int) : (l.clearExpiredItems now).store.isSome := by
  unfold clearExpiredItems
  split
  · exact h
  · simpa using h

end InMemoryRateLimiter

open InMemoryRateLimiter (request_spec clear_spec clear_init clearExpiredItems expirationSeconds
  clear_deletes)

/-! ## Runs -/

/-- Each key is always used with the same limit, at least 1, and the same window. -/
structure KeyLimits where
  maxRequestNum : String → Nat
  duration : String → Int
  maxRequestNum_pos : ∀ key, 1 ≤ maxRequestNum key

inductive LimiterEvent where
  | init (expirationDuration : Int)
  | request (key : String)
  | clear

structure LimiterWorld where
  limiter : InMemoryRateLimiter
  /-- `time.Now().Unix()`. Times and durations are whole seconds; requests within one second are not
  told apart. -/
  clock : Int
  accepted : String → List Int

namespace LimiterWorld

def start (expirationDuration now : Int) : LimiterWorld :=
  { limiter := InMemoryRateLimiter.init ⟨none, 0⟩ expirationDuration
    clock := now
    accepted := fun _ => [] }

def step (limits : KeyLimits) (w : LimiterWorld) (e : Nat × LimiterEvent) : LimiterWorld :=
  let now := w.clock + e.1
  match e.2 with
  | .init expirationDuration =>
    { w with limiter := w.limiter.init expirationDuration, clock := now }
  | .request key =>
    match w.limiter.request key (limits.maxRequestNum key) (limits.duration key) now with
    | some (true, l) =>
      { limiter := l, clock := now
        accepted := Function.update w.accepted key (w.accepted key ++ [now]) }
    | some (false, l) => { w with limiter := l, clock := now }
    | none => { w with clock := now }
  | .clear => { w with limiter := w.limiter.clearExpiredItems now, clock := now }

/-- The queue of every key covers its window. Its last entry is its newest. -/
structure Ok (limits : KeyLimits) (expirationDuration : Int) (w : LimiterWorld) : Prop where
  init : w.limiter.store.isSome
  expiration : w.limiter.expirationDuration = expirationDuration
  past : ∀ key, ∀ x ∈ w.limiter.kept key, x ≤ w.clock
  newest : ∀ key newest, (w.limiter.kept key).getLast? = some newest →
    ∀ x ∈ w.limiter.kept key, x ≤ newest
  covers : ∀ key, Covers (limits.maxRequestNum key) (limits.duration key) w.clock
    (w.accepted key) (w.limiter.kept key)

variable {expirationDuration : Int} {w : LimiterWorld}

variable {limits : KeyLimits}

theorem start_ok (limits : KeyLimits) (expirationDuration now : Int) :
    Ok limits expirationDuration (start expirationDuration now) where
  init := rfl
  expiration := rfl
  past := fun _ _ hx => nomatch hx
  newest := fun _ _ h => nomatch h
  covers := fun _ => .start ..

def WindowsKept (limits : KeyLimits) (expirationDuration : Int) : Prop :=
  expirationDuration ≤ 0 ∨
    ∀ key, limits.duration key ≤ expirationDuration.tdiv 1000000000 + 1

section

variable (h : Ok limits expirationDuration w)

include h

theorem Ok.tick (elapsed : Nat) :
    Ok limits expirationDuration { w with clock := w.clock + elapsed } where
  init := h.init
  expiration := h.expiration
  past := by
    intro key x hx
    have := h.past key x hx
    simp only
    omega
  newest := h.newest
  covers := fun key => (h.covers key).advance (by simp)

theorem Ok.request (key : String) (elapsed : Nat) :
    Ok limits expirationDuration (step limits w (elapsed, .request key)) := by
  have ht := h.tick elapsed
  set now := w.clock + (elapsed : Int) with hnow
  rcases request_spec h.init (limits.maxRequestNum_pos key) key
    (limits.duration key) now with ⟨l', hreq, hinit, hexp, hother, hkey⟩ | ⟨hreq, -⟩
  · -- The new queue ends in `now`, and what it held before is from the old one.
    have h1 : ∃ before, l'.kept key = before ++ [now] ∧ ∀ x ∈ before, x ∈ w.limiter.kept key := by
      rcases hkey with ⟨-, hkept⟩ | ⟨oldest, rest, hold, -, -, hkept⟩
      · exact ⟨_, hkept, fun x hx => hx⟩
      · refine ⟨rest, hkept, fun x hx => ?_⟩
        rw [hold]
        exact mem_cons_of_mem _ hx
    obtain ⟨before, hbefore, hsub⟩ := h1
    have hpast : ∀ x ∈ l'.kept key, x ≤ now := by
      intro x hx
      rw [hbefore, mem_append, mem_singleton] at hx
      rcases hx with hx | rfl
      · exact ht.past key x (hsub x hx)
      · exact le_rfl
    have hcovers : Covers (limits.maxRequestNum key) (limits.duration key) now
        (w.accepted key ++ [now]) (l'.kept key) := by
      rcases hkey with ⟨h1, hkept⟩ | ⟨oldest, rest, hold, h2, h2, hkept⟩
      · rw [hkept]
        exact (ht.covers key).accept_of_room h1
      · have hcov := ht.covers key
        have hle := hcov.length_le
        simp only [hold] at hcov hle
        have h1 : (now :: oldest :: rest).Perm ([oldest] ++ (rest ++ [now])) :=
          (Perm.swap oldest now rest).trans
            ((perm_append_singleton now rest).symm.cons oldest)
        rw [hkept]
        refine hcov.accept h1 ?_ ?_
        · intro x hx
          rw [mem_singleton] at hx
          rwa [hx]
        · simpa using hle
    simp only [step, ← hnow, hreq]
    refine ⟨hinit, hexp.trans h.expiration, fun k => ?_, fun k => ?_, fun k => ?_⟩
    · by_cases hk : k = key
      · subst hk
        exact hpast
      · simp only [hother k hk]
        exact ht.past k
    · by_cases hk : k = key
      · subst hk
        intro newest h1
        simp only [hbefore, List.getLast?_append, List.getLast?_singleton, Option.some_or,
          Option.some.injEq] at h1
        subst h1
        exact hpast
      · simp only [hother k hk]
        exact ht.newest k
    · by_cases hk : k = key
      · subst hk
        simpa using hcovers
      · simp only [hother k hk, Function.update_of_ne hk]
        exact ht.covers k
  · simp only [step, ← hnow, hreq]
    exact ht

theorem Ok.clear (hwindows : WindowsKept limits expirationDuration) (elapsed : Nat) :
    Ok limits expirationDuration (step limits w (elapsed, .clear)) := by
  have ht := h.tick elapsed
  set now := w.clock + (elapsed : Int)
  have hspec := clear_spec w.limiter now
  have hmem : ∀ key, ∀ x ∈ (w.limiter.clearExpiredItems now).kept key,
      x ∈ w.limiter.kept key := by
    intro key x hx
    rcases hspec key with hsame | ⟨hnil, -⟩
    · rwa [hsame] at hx
    · rw [hnil] at hx
      nomatch hx
  refine ⟨?_, ?_, fun key x hx => ht.past key x (hmem key x hx), fun key newest => ?_,
    fun key => ?_⟩
  · exact clear_init h.init now
  · show (w.limiter.clearExpiredItems now).expirationDuration = expirationDuration
    unfold clearExpiredItems
    split <;> exact h.expiration
  · show ((w.limiter.clearExpiredItems now).kept key).getLast? = some newest →
      ∀ x ∈ (w.limiter.clearExpiredItems now).kept key, x ≤ newest
    rcases hspec key with hsame | ⟨hnil, -⟩
    · rw [hsame]
      exact ht.newest key newest
    · rw [hnil]
      exact fun hnone => nomatch hnone
  · show Covers _ _ now (w.accepted key) ((w.limiter.clearExpiredItems now).kept key)
    rcases hspec key with hsame | ⟨hnil, hpos, newest, h1, hexp⟩
    · rw [hsame]
      exact ht.covers key
    · rw [hnil]
      refine (ht.covers key).forget fun x hx => ?_
      have hx' := h.newest key newest h1 x hx
      simp only [expirationSeconds, h.expiration] at hexp hpos
      rcases hwindows with hnone | hall
      · omega
      · have := hall key
        simp only
        omega

/-- **Step lemma.** -/
theorem Ok.step (hwindows : WindowsKept limits expirationDuration) (e : Nat × LimiterEvent) :
    Ok limits expirationDuration (step limits w e) := by
  obtain ⟨elapsed, e⟩ := e
  cases e with
  | init expirationDuration' =>
    -- A later `Init` finds the store.
    obtain ⟨store, hstore⟩ := Option.isSome_iff_exists.mp h.init
    have h1 : w.limiter.init expirationDuration' = w.limiter := by
      simp [InMemoryRateLimiter.init, hstore]
    simp only [LimiterWorld.step, h1]
    exact h.tick elapsed
  | request key => exact h.request key elapsed
  | clear => exact h.clear hwindows elapsed

end

/-! ## A window the cleaner cuts short -/

theorem step_request_of_room (limits : KeyLimits) (h1 : w.limiter.store.isSome)
    (hroom : (w.limiter.kept key).length < limits.maxRequestNum key) (elapsed : Nat) :
    let w' := step limits w (elapsed, .request key)
    w'.limiter.store.isSome ∧
      w'.limiter.expirationDuration = w.limiter.expirationDuration ∧
      w'.limiter.kept key = w.limiter.kept key ++ [w.clock + elapsed] ∧
      w'.accepted key = w.accepted key ++ [w.clock + elapsed] ∧
      w'.clock = w.clock + elapsed := by
  rcases request_spec h1 (limits.maxRequestNum_pos key) key
    (limits.duration key) (w.clock + elapsed) with
    ⟨l', hreq, h1, hexp, -, hkey⟩ | ⟨-, oldest, rest, hold, h2, -⟩
  · have h3 : l'.kept key = w.limiter.kept key ++ [w.clock + elapsed] := by
      rcases hkey with ⟨-, h3⟩ | ⟨oldest, rest, hold, h2, -⟩
      · exact h3
      · rw [hold] at hroom
        omega
    simp only [step, hreq]
    exact ⟨h1, hexp, h3, Function.update_self .., trivial⟩
  · rw [hold] at hroom
    omega

theorem fill (limits : KeyLimits) (expirationDuration : Int) (key : String) (k : Nat)
    (hk : k ≤ limits.maxRequestNum key) :
    let w := Run.final (step limits) (start expirationDuration 0)
      (List.replicate k (0, .request key))
    w.limiter.store.isSome ∧ w.limiter.expirationDuration = expirationDuration ∧
      w.limiter.kept key = List.replicate k 0 ∧ w.accepted key = List.replicate k 0 ∧
      w.clock = 0 := by
  induction k with
  | zero => exact ⟨rfl, rfl, rfl, rfl, rfl⟩
  | succ k ih =>
    obtain ⟨h6, hexp, hkept, hacc, h7⟩ := ih (by omega)
    rw [replicate_succ', Run.final_append]
    set w := Run.final (step limits) (start expirationDuration 0)
      (List.replicate k (0, .request key))
    have h8 : (w.limiter.kept key).length < limits.maxRequestNum key := by
      rw [hkept, length_replicate]
      omega
    obtain ⟨h1, h2, h3, h4, h5⟩ := step_request_of_room limits h6 h8 0
    rw [h7] at h3 h4 h5
    refine ⟨h1, h2.trans hexp, ?_, ?_, h5⟩
    · rw [replicate_succ', ← hkept]
      exact h3
    · rw [replicate_succ', ← hacc]
      exact h4

/-- The cleaner deletes a full queue one second after the expiration, and the next request
is accepted. -/
theorem exceeds (limits : KeyLimits) (hpos : 0 < expirationDuration)
    (h1 : expirationDuration.tdiv 1000000000 + 1 < limits.duration key) :
    ∃ events, ¬ Bounded (limits.maxRequestNum key) (limits.duration key)
      ((Run.final (step limits) (start expirationDuration 0) events).accepted key) := by
  set n := limits.maxRequestNum key
  set E := expirationDuration.tdiv 1000000000
  have hE0 : 0 ≤ E := Int.tdiv_nonneg hpos.le (by omega)
  obtain ⟨hinit, hexp, hkept, hacc, h1⟩ := fill limits expirationDuration key n le_rfl
  set w := Run.final (step limits) (start expirationDuration 0)
    (List.replicate n (0, .request key))
  set w' := step limits w ((E + 1).toNat, .clear)
  have hnow : w'.clock = E + 1 := by
    show w.clock + ((E + 1).toNat : Int) = E + 1
    omega
  have hcleared : w'.limiter.kept key = [] := by
    refine clear_deletes (by rwa [hexp]) (show _ = some 0 from ?_) ?_
    · have hne : n ≠ 0 := by
        have := limits.maxRequestNum_pos key
        omega
      rw [hkept, List.getLast?_replicate, if_neg hne]
    · have h1 : w.clock + ((E + 1).toNat : Int) = E + 1 := hnow
      rw [expirationSeconds, hexp, h1]
      omega
  have h1 : (w'.limiter.kept key).length < limits.maxRequestNum key := by
    rw [hcleared]
    exact limits.maxRequestNum_pos key
  have hnext := step_request_of_room limits (clear_init hinit _) h1 0
  refine ⟨List.replicate n (0, .request key) ++ [((E + 1).toNat, .clear), (0, .request key)],
    fun hbound => ?_⟩
  have hfinal : (Run.final (step limits) (start expirationDuration 0)
      (List.replicate n (0, .request key) ++
        [((E + 1).toNat, .clear), (0, .request key)])).accepted key =
      List.replicate n 0 ++ [E + 1] := by
    rw [Run.final_append]
    show (step limits w' (0, .request key)).accepted key = _
    rw [hnext.2.2.2.1, hnow]
    show w.accepted key ++ [E + 1 + 0] = _
    rw [hacc, Int.add_zero]
  have h1 := hbound 0 (E + 1) (by omega)
  rw [hfinal, countIn_eq_length, length_append, length_replicate, length_singleton] at h1
  · omega
  · intro x hx
    rcases mem_append.mp hx with hx | hx
    · rw [eq_of_mem_replicate hx]
      omega
    · rw [mem_singleton.mp hx]
      omega

end LimiterWorld

/-- **The limiter in memory keeps its bound in every run exactly when no window is longer
than the expiration it was first initialised with**, plus the one second the comparison
allows, or when there is no cleaner. -/
theorem memory_limiter_bounded_iff (limits : KeyLimits) (expirationDuration : Int) :
    (∀ (now : Int) (events : List (Nat × LimiterEvent)) (key : String),
      Bounded (limits.maxRequestNum key) (limits.duration key)
        ((Run.final (LimiterWorld.step limits) (LimiterWorld.start expirationDuration now)
          events).accepted key)) ↔
      LimiterWorld.WindowsKept limits expirationDuration := by
  constructor
  · intro h
    by_cases hpos : expirationDuration ≤ 0
    · exact Or.inl hpos
    · refine Or.inr fun key => ?_
      by_contra h1
      obtain ⟨events, h2⟩ :=
        LimiterWorld.exceeds limits (not_le.mp hpos) (not_le.mp h1)
      exact h2 (h 0 events key)
  · intro h now events key
    have hok := Run.final_invariant (LimiterWorld.start_ok limits expirationDuration now)
      fun w e (_ : e ∈ events) hw => hw.step h e
    exact (hok.covers key).bounded

/-- Two requests an hour, behind a limiter that was first initialised with the twenty
minutes of the key expiration: after twenty minutes and a second the cleaner forgets them
and a third is accepted within the hour. -/
def hourlyLimits : KeyLimits := ⟨fun _ => 2, fun _ => 3600, fun _ => by decide⟩

theorem memory_limiter_exceeds_hourly_limit :
    ¬ Bounded 2 3600
      ((Run.final (LimiterWorld.step hourlyLimits)
        (LimiterWorld.start (20 * 60 * 1000000000) 0)
        [(0, .request "MRRL1"), (0, .request "MRRL1"), (1201, .clear),
          (0, .request "MRRL1")]).accepted "MRRL1") := by
  intro h
  exact absurd (h 0 1201 (by decide)) (by decide +kernel)

end Xingkong
