import Xingkong.Lib.Pool
import Xingkong.Lib.SlidingWindow
import Xingkong.Model.RateLimit
import Mathlib.Algebra.Order.Ring.Int
import Mathlib.Data.Fintype.Basic

/-!
# One Redis key, many clients

Clients call `redisRateLimiter` for the same key, and their commands interleave in any
order. A call that runs by itself keeps the stamps under the key a cover of the window
(`Assert` says what holds between two of its commands). Two calls that overlap may both
see room for one request, and a key that expires under a call loses the stamp it just
wrote; the bound holds in every run in which neither happens and keys outlive the window
(`redis_limiter_bounded`).
-/

namespace Xingkong

open SlidingWindow List

variable {cfg : RedisLimit}

namespace RedisLimit

def window (cfg : RedisLimit) : Int := 1000 * cfg.duration

structure Keeps (cfg : RedisLimit) (k : RedisKey) : Prop where
  covers : Covers cfg.maxRequestNum cfg.window k.clock k.accepted k.stamps
  past : ∀ x ∈ k.stamps, x ≤ k.clock

/-- The key expires only after all its stamps have left the window. -/
def Lasts (cfg : RedisLimit) (k : RedisKey) : Prop :=
  ∀ deadline, k.deadline = some deadline → ∀ x ∈ k.stamps, x + cfg.window ≤ deadline

def Full (cfg : RedisLimit) (k : RedisKey) (old : Int) : Prop :=
  k.stamps.length = cfg.maxRequestNum ∧ ∃ newer, k.stamps = newer ++ [old]

/-- What holds between two commands of a call, when no other call is in progress. -/
def Assert (cfg : RedisLimit) (k : RedisKey) : LimiterCall → Prop
  | .idle => cfg.Keeps k ∧ cfg.Lasts k
  | .counted listLength => cfg.Keeps k ∧ cfg.Lasts k ∧ listLength = k.stamps.length
  | .oldestRead oldTime => cfg.Keeps k ∧ cfg.Lasts k ∧ cfg.Full k oldTime
  | .allowed => cfg.Keeps k ∧ cfg.Lasts k ∧ ∃ old, cfg.Full k old ∧ old + cfg.window ≤ k.clock
  | .stamped false now => cfg.Keeps { k with clock := now } ∧ now ≤ k.clock ∧
      k.stamps.length < cfg.maxRequestNum
  | .stamped true now => cfg.Keeps { k with clock := now } ∧ now ≤ k.clock ∧
      ∃ old, cfg.Full k old ∧ old + cfg.window ≤ now
  | .pushed false => cfg.Keeps k
  | .pushed true => 0 < cfg.maxRequestNum ∧
      cfg.Keeps { k with stamps := k.stamps.take cfg.maxRequestNum }
  | .trimmed => cfg.Keeps k
  | .rejecting => cfg.Keeps k

variable {k : RedisKey} {call : LimiterCall}

theorem Keeps.advance (h : cfg.Keeps k) {later : Int} (hle : k.clock ≤ later) :
    cfg.Keeps { k with clock := later } :=
  ⟨h.covers.advance hle, fun x hx => (h.past x hx).trans hle⟩

theorem Keeps.expire (h : cfg.Keeps k) (httl : cfg.window ≤ cfg.keyExpiration) :
    Assert cfg (k.expire cfg.keyExpiration) .idle := by
  unfold RedisKey.expire
  split
  · next hnil => exact ⟨h, fun deadline _ x hx => by rw [hnil] at hx; nomatch hx⟩
  · refine ⟨⟨h.covers, h.past⟩, fun deadline h1 x hx => ?_⟩
    have hx' := h.past x hx
    simp only [Option.some.injEq] at h1
    omega

theorem Assert.elapse (h : Assert cfg k call) (elapsed : Nat) :
    Assert cfg { k with clock := k.clock + elapsed } call := by
  have hle : k.clock ≤ k.clock + elapsed := by omega
  cases call with
  | allowed =>
    obtain ⟨h3, h1, old, h2, hold⟩ := h
    exact ⟨h3.advance hle, h1, old, h2, hold.trans hle⟩
  | stamped trim now => cases trim <;> exact ⟨h.1, h.2.1.trans hle, h.2.2⟩
  | pushed trim =>
    cases trim with
    | false => exact .advance h hle
    | true => exact ⟨h.1, h.2.advance hle⟩
  | trimmed | rejecting => exact .advance h hle
  | _ => exact ⟨h.1.advance hle, h.2⟩

theorem Assert.bounded (h : Assert cfg k call) :
    Bounded cfg.maxRequestNum cfg.window k.accepted := by
  cases call with
  | stamped trim now => cases trim <;> exact h.1.covers.bounded
  | pushed trim =>
    cases trim with
    | false => exact Keeps.covers h |>.bounded
    | true => exact h.2.covers.bounded
  | trimmed | rejecting => exact Keeps.covers h |>.bounded
  | _ => exact h.1.covers.bounded

theorem idle_elapse (h : Assert cfg k .idle) (elapsed : Nat) :
    Assert cfg (k.elapse elapsed) .idle := by
  have ht := h.elapse elapsed
  simp only [RedisKey.elapse]
  split
  · next hdue =>
    obtain ⟨deadline, h, h1⟩ : ∃ deadline, k.deadline = some deadline ∧
        deadline ≤ k.clock + elapsed := by
      simp only [RedisKey.due] at hdue
      cases hd : k.deadline with
      | none => simp [hd] at hdue
      | some deadline => exact ⟨deadline, rfl, by simpa [hd] using hdue⟩
    refine ⟨⟨ht.1.covers.forget fun x hx => ?_, fun x hx => nomatch hx⟩, fun _ h2 => nomatch h2⟩
    exact (ht.2 deadline h x hx).trans h1
  · exact ht

theorem push_room (h : cfg.Keeps k) (h1 : k.stamps.length < cfg.maxRequestNum) :
    cfg.Keeps { k with stamps := k.clock :: k.stamps, accepted := k.accepted ++ [k.clock] } := by
  refine ⟨?_, fun x hx => ?_⟩
  · exact h.covers.accept (Perm.refl ([] ++ (k.clock :: k.stamps)))
      (fun x hx => nomatch hx) h1
  · rcases mem_cons.mp hx with rfl | hx
    · exact le_rfl
    · exact h.past x hx

theorem push_full (h : cfg.Keeps k) {old : Int} (h1 : cfg.Full k old)
    (hold : old + cfg.window ≤ k.clock) :
    0 < cfg.maxRequestNum ∧
      cfg.Keeps
        { k with
          stamps := (k.clock :: k.stamps).take cfg.maxRequestNum
          accepted := k.accepted ++ [k.clock] } := by
  obtain ⟨hlen, newer, hstamps⟩ := h1
  have hn : cfg.maxRequestNum = (k.clock :: newer).length := by
    rw [← hlen, hstamps, length_append, length_singleton, length_cons]
  have h1 : (k.clock :: k.stamps).take cfg.maxRequestNum = k.clock :: newer := by
    rw [hstamps, ← cons_append, hn, take_left]
  have h2 : (k.clock :: k.stamps).Perm ([old] ++ (k.clock :: newer)) := by
    rw [hstamps, ← cons_append]
    exact perm_append_comm
  rw [h1]
  refine ⟨by rw [hn]; exact Nat.succ_pos _, h.covers.accept h2 ?_ hn.ge, fun x hx => ?_⟩
  · intro x hx
    rw [mem_singleton] at hx
    rwa [hx]
  · rcases mem_cons.mp hx with rfl | hx
    · exact le_rfl
    · exact h.past x (by rw [hstamps]; exact mem_append_left _ hx)

/-- **Command lemma**: each command of a call that runs by itself keeps what holds between
its commands. -/
theorem Assert.command (h : Assert cfg k call)
    (httl : cfg.window ≤ cfg.keyExpiration) :
    Assert cfg (redisRateLimiter cfg call k).2 (redisRateLimiter cfg call k).1 := by
  cases call with
  | idle => exact ⟨h.1, h.2, rfl⟩
  | counted listLength =>
    obtain ⟨hkeeps, hlasts, rfl⟩ := h
    simp only [redisRateLimiter]
    split
    · next hroom => exact ⟨hkeeps, le_rfl, hroom⟩
    · next hroom =>
      split
      · exact ⟨hkeeps, hlasts⟩
      · next old hlt =>
        obtain ⟨newer, hnewer⟩ := List.getLast?_eq_some_iff.mp hlt
        have hle := hkeeps.covers.length_le
        have hlen : k.stamps.length = cfg.maxRequestNum := by omega
        exact ⟨hkeeps, hlasts, hlen, newer, hnewer⟩
  | oldestRead oldTime =>
    obtain ⟨hkeeps, hlasts, hfull⟩ := h
    simp only [redisRateLimiter]
    split
    · exact hkeeps
    · next h1 =>
      refine ⟨hkeeps, hlasts, oldTime, hfull, ?_⟩
      obtain ⟨-, newer, hnewer⟩ := hfull
      have h2 := hkeeps.past oldTime (by rw [hnewer]; simp)
      exact (le_secondsSince_iff h2 cfg.duration).mp (not_lt.mp h1)
  | allowed =>
    obtain ⟨hkeeps, -, hold⟩ := h
    exact ⟨hkeeps, le_rfl, hold⟩
  | stamped trim now =>
    cases trim with
    | false =>
      obtain ⟨hkeeps, hnow, hroom⟩ := h
      exact (push_room hkeeps hroom).advance hnow
    | true =>
      obtain ⟨hkeeps, hnow, old, hfull, hold⟩ := h
      obtain ⟨hpos, hpush⟩ := push_full hkeeps hfull hold
      exact ⟨hpos, hpush.advance hnow⟩
  | pushed trim =>
    cases trim with
    | false => exact Keeps.expire h httl
    | true =>
      show cfg.Keeps { k with stamps := ltrim k.stamps cfg.maxRequestNum }
      rw [ltrim, if_neg h.1.ne']
      exact h.2
  | trimmed | rejecting => exact Keeps.expire h httl

end RedisLimit

/-! ## Any number of clients -/

section Clients

variable {ι : Type}

abbrev RedisClients (ι : Type) := Pool.State ι LimiterCall RedisKey

/-- A client takes its next step, some milliseconds after the one before. -/
def RedisClients.step [DecidableEq ι] (cfg : RedisLimit) (p : RedisClients ι) (x : ι × Nat) :
    RedisClients ι :=
  Pool.next (redisRateLimiterStep cfg) p x

def RedisClients.start (now : Int) : RedisClients ι :=
  { shared := { stamps := [], deadline := none, clock := now, accepted := [] }
    threads := fun _ => .idle }

/-- A call begins only when no other is in progress, and the key does not expire under
it. -/
def RedisClients.Undisturbed (p : RedisClients ι) (x : ι × Nat) : Prop :=
  if p.threads x.1 = .idle then ∀ j, p.threads j = .idle
  else ({ p.shared with clock := p.shared.clock + x.2 } : RedisKey).due = false

instance [Fintype ι] (p : RedisClients ι) (x : ι × Nat) : Decidable (p.Undisturbed x) :=
  inferInstanceAs (Decidable (ite _ _ _))

/-- At most one call is in progress, and it stands as it should. -/
def RedisClients.Ok (cfg : RedisLimit) (p : RedisClients ι) : Prop :=
  (∀ j, p.threads j = .idle) ∧ cfg.Assert p.shared .idle ∨
    ∃ i, cfg.Assert p.shared (p.threads i) ∧ ∀ j, j ≠ i → p.threads j = .idle

namespace RedisClients

variable {p : RedisClients ι}

theorem start_ok (cfg : RedisLimit) (now : Int) : Ok cfg (start now : RedisClients ι) :=
  .inl ⟨fun _ => rfl, ⟨.start .., fun _ hx => nomatch hx⟩, fun _ _ _ hx => nomatch hx⟩

/-- **Step lemma.** -/
theorem Ok.step [DecidableEq ι] (h : Ok cfg p) (httl : cfg.window ≤ cfg.keyExpiration) {x : ι × Nat}
    (hx : p.Undisturbed x) : Ok cfg (p.step cfg x) := by
  -- The client that moves is the one in a call, or nobody is.
  have hmoves : cfg.Assert (p.shared.elapse x.2) (p.threads x.1) ∧
      ∀ j, j ≠ x.1 → p.threads j = .idle := by
    unfold Undisturbed at hx
    by_cases hid : p.threads x.1 = .idle
    · rw [if_pos hid] at hx
      have hrest : cfg.Assert p.shared .idle := by
        rcases h with ⟨-, hrest⟩ | ⟨i, hi, -⟩
        · exact hrest
        · rwa [hx i] at hi
      rw [hid]
      exact ⟨RedisLimit.idle_elapse hrest x.2, fun j _ => hx j⟩
    · rw [if_neg hid] at hx
      rcases h with ⟨hall, -⟩ | ⟨i, hi, hothers⟩
      · exact absurd (hall x.1) hid
      · have heq : i = x.1 := by
          by_contra hne
          exact hid (hothers x.1 fun h => hne h.symm)
        subst heq
        have h : p.shared.elapse x.2 =
            { p.shared with clock := p.shared.clock + x.2 } := by
          simp [RedisKey.elapse, hx]
        rw [h]
        exact ⟨hi.elapse x.2, hothers⟩
  refine .inr ⟨x.1, ?_, fun j hj => ?_⟩
  · have h := hmoves.1.command httl
    rw [RedisClients.step, Pool.next_own]
    exact h
  · rw [RedisClients.step, Pool.next_other hj]
    exact hmoves.2 j hj

theorem Ok.bounded (h : Ok cfg p) :
    Bounded cfg.maxRequestNum cfg.window p.shared.accepted := by
  rcases h with ⟨-, hrest⟩ | ⟨i, hi, -⟩
  · exact hrest.bounded
  · exact hi.bounded

end RedisClients

/-- **Accepted requests stay within the limit in every run of undisturbed calls.** -/
theorem redis_limiter_bounded [DecidableEq ι] (cfg : RedisLimit)
    (httl : 1000 * cfg.duration ≤ cfg.keyExpiration) (now : Int) (xs : List (ι × Nat))
    (hcalls : ∀ e ∈ Run.trace (RedisClients.step cfg) (RedisClients.start now) xs,
      e.before.Undisturbed e.act) :
    Bounded cfg.maxRequestNum (1000 * cfg.duration)
      (Run.final (RedisClients.step cfg) (RedisClients.start now) xs).shared.accepted :=
  (Run.guarded_final (RedisClients.start_ok cfg now) hcalls
    fun _ _ hx hp => hp.step httl hx).bounded

end Clients

/-- Two clients and a limit of one request: both read the length 0 before either writes,
and both are accepted. -/
theorem redis_limiter_race :
    ¬ Bounded 1 60000
      (Run.final (RedisClients.step ⟨1, 60, 1200000⟩) (RedisClients.start 0)
        [(false, 0), (true, 0), (false, 0), (true, 0), (false, 0), (true, 0)]).shared.accepted := by
  intro h
  exact absurd (h 0 0 (by decide)) (by decide +kernel)

theorem redis_limiter_bounded_in_turn :
    let calls : List (Bool × Nat) :=
      [(false, 0), (false, 1), (false, 1), (false, 1), (true, 5), (true, 1), (true, 1), (true, 1),
        (true, 60000), (true, 1), (true, 1), (true, 1), (true, 1), (true, 1), (true, 1)]
    Bounded 1 (1000 * 60)
      (Run.final (RedisClients.step ⟨1, 60, 1200000⟩) (RedisClients.start 0)
        calls).shared.accepted ∧
    (Run.final (RedisClients.step ⟨1, 60, 1200000⟩) (RedisClients.start 0)
      calls).shared.accepted = [1, 60014] := by
  intro calls
  refine ⟨redis_limiter_bounded ⟨1, 60, 1200000⟩ (by decide) 0 calls (by decide +kernel), ?_⟩
  decide +kernel

end Xingkong
