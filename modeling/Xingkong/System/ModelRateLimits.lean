import Xingkong.System.MemoryRateLimits

/-!
# The limiter of model requests in its two stores

One user's requests come one after the other, and the same requests are put to the handler
in memory and to the handler over Redis. The queue in memory holds the seconds at which the
last admitted requests arrived, the list in Redis the times at which they were done
(`Mirror`). As long as that is so the two handlers decide alike, except in the time a
request took to run and the fraction of its first second: a request that falls into that
gap is let through by one and rejected by the other.
-/

namespace Xingkong

open ModelRequest (completion)

open List Option

structure RateStores where
  memory : InMemoryRateLimiter
  redis : RedisRateStore
  clock : Int
  earlier : List ModelRequest

namespace RateStores

def start (expirationDuration now : Int) : RateStores :=
  { memory := InMemoryRateLimiter.init ⟨none, 0⟩ expirationDuration
    redis := ⟨[], none⟩
    clock := now
    earlier := [] }

variable (cfg : ModelRateLimit) (userId : String)

def step (w : RateStores) (r : ModelRequest) : RateStores :=
  { memory := ((memoryRateLimitHandler cfg userId w.memory r).map Prod.snd).getD w.memory
    redis := (redisRateLimitHandler cfg w.redis r).2
    clock := r.completion
    earlier := w.earlier ++ [r] }

def memoryVerdict (w : RateStores) (r : ModelRequest) : Option RateVerdict :=
  (memoryRateLimitHandler cfg userId w.memory r).map Prod.fst

def redisVerdict (w : RateStores) (r : ModelRequest) : RateVerdict :=
  (redisRateLimitHandler cfg w.redis r).1

/-- The success limit rejects the request in one store exactly if it does in the other. -/
def Agree (w : RateStores) (r : ModelRequest) : Prop :=
  w.memoryVerdict cfg userId r = some .successLimited ↔
    w.redisVerdict cfg r = .successLimited

def totalRoom (w : RateStores) (r : ModelRequest) : Bool :=
  cfg.totalMaxCount = 0 ||
    ((match w.memory.kept (totalKey userId) with
      | [] => true
      | oldest :: rest =>
        rest.length + 1 < cfg.totalMaxCount || oldest + cfg.duration ≤ unix r.arrival) &&
    cfg.duration ≤ TokenBucket.refill w.redis.total cfg.totalMaxCount
      (cfg.totalMaxCount * cfg.duration) (unix r.arrival))

/-- The request does not arrive in the gap of an earlier one: when that one's second has
left the window, its completion has as well. -/
def outsideGaps (w : RateStores) (r : ModelRequest) : Bool :=
  w.earlier.all fun e =>
    unix r.arrival < unix e.arrival + cfg.duration ||
      e.completion + 1000 * cfg.duration ≤ r.arrival

/-- There is a success limit; the request comes after the ones before it and succeeds;
the total limit has room for it; and it arrives outside the gaps. -/
def regular (w : RateStores) (r : ModelRequest) : Bool :=
  1 ≤ cfg.successMaxCount && w.clock ≤ r.arrival && r.arrival ≤ r.completion && r.succeeds &&
    w.totalRoom cfg userId r && w.outsideGaps cfg r

theorem regular_iff (w : RateStores) (r : ModelRequest) :
    w.regular cfg userId r = true ↔ 1 ≤ cfg.successMaxCount ∧ w.clock ≤ r.arrival ∧
      r.arrival ≤ r.completion ∧ r.succeeds = true ∧ w.totalRoom cfg userId r = true ∧
      w.outsideGaps cfg r = true := by
  simp [regular, and_assoc]

/-- The two stores hold the same requests, the last admitted ones, oldest first: the memory
by the second of their arrival, Redis by their completion. -/
structure Mirror (w : RateStores) (recent : List ModelRequest) : Prop where
  init : w.memory.store.isSome
  memory : w.memory.kept (checkKey userId) = recent.map fun e => unix e.arrival
  redis : w.redis.success = (recent.map ModelRequest.completion).reverse
  length_le : recent.length ≤ cfg.successMaxCount
  earlier : ∀ e ∈ recent, e ∈ w.earlier ∧ e.arrival ≤ e.completion ∧ e.completion ≤ w.clock

variable {cfg userId} {w : RateStores} {r : ModelRequest} {recent : List ModelRequest}

theorem keys_differ (userId : String) :
    checkKey userId ≠ totalKey userId ∧ checkKey userId ≠ successKey userId := by
  refine ⟨fun h => ?_, fun h => ?_⟩
  · have := congrArg String.length h
    simp only [checkKey, successKey, totalKey, String.length_append] at this
    change 5 + _ + 6 = 4 + _ at this
    omega
  · have := congrArg String.length h
    simp only [checkKey, successKey, String.length_append] at this
    change _ + 6 = _ at this
    omega

theorem memory_total_passes (hinit : w.memory.store.isSome)
    (hroom : w.totalRoom cfg userId r = true) :
    ∃ l, l.store.isSome ∧ l.kept (checkKey userId) = w.memory.kept (checkKey userId) ∧
      memoryRateLimitHandler cfg userId w.memory r =
        memoryRateLimitHandler { cfg with totalMaxCount := 0 } userId l r := by
  by_cases htotal : 0 < cfg.totalMaxCount
  · rcases InMemoryRateLimiter.request_spec hinit htotal (totalKey userId) cfg.duration
      (unix r.arrival) with ⟨l, hreq, h1, -, h2, -⟩ | ⟨-, oldest, rest, hold, h3, h4⟩
    · refine ⟨l, h1, h2 _ (keys_differ userId).1, ?_⟩
      simp [memoryRateLimitHandler, htotal, hreq]
    · simp only [totalRoom, hold, length_cons] at hroom h3
      simp only [Bool.or_eq_true, decide_eq_true_eq, Bool.and_eq_true] at hroom
      omega
  · refine ⟨w.memory, hinit, rfl, ?_⟩
    simp [memoryRateLimitHandler, htotal]

/-- The success limit has room: fewer requests than its limit, or the oldest of them has
left the window. -/
def Room (cfg : ModelRateLimit) (recent : List ModelRequest) (r : ModelRequest) : Prop :=
  recent.length < cfg.successMaxCount ∨
    ∃ old ∈ recent.head?, unix old.arrival + cfg.duration ≤ unix r.arrival

def push (cfg : ModelRateLimit) (recent : List ModelRequest) (r : ModelRequest) :
    List ModelRequest :=
  (if recent.length < cfg.successMaxCount then recent else recent.tail) ++ [r]

theorem memory_spec (h : Mirror cfg userId w recent) (hreg : w.regular cfg userId r = true) :
    (w.step cfg userId r).memory.store.isSome ∧
    ((Room cfg recent r ∧ w.memoryVerdict cfg userId r = some .passed ∧
      (w.step cfg userId r).memory.kept (checkKey userId) =
        (push cfg recent r).map fun e => unix e.arrival) ∨
    (¬ Room cfg recent r ∧ w.memoryVerdict cfg userId r = some .successLimited ∧
      (w.step cfg userId r).memory.kept (checkKey userId) =
        recent.map fun e => unix e.arrival)) := by
  obtain ⟨hsucc, -, -, hok, h1, -⟩ := (regular_iff cfg userId w r).mp hreg
  obtain ⟨l, hinit, hkept, h2⟩ := memory_total_passes h.init h1
  rw [h.memory] at hkept
  simp only [memoryVerdict, step, h2]
  rcases InMemoryRateLimiter.request_spec hinit hsucc (checkKey userId) cfg.duration
    (unix r.arrival) with ⟨l1, hreq, hinit1, -, -, hkey⟩ | ⟨hreq, oldest, rest, hold, hfull, h1⟩
  · -- The completed request goes to a key of its own, which nothing reads.
    have hcount : ∃ l2, memoryRateLimitHandler { cfg with totalMaxCount := 0 } userId l r =
        some (.passed, l2) ∧ l2.store.isSome ∧
        l2.kept (checkKey userId) = l1.kept (checkKey userId) := by
      rcases InMemoryRateLimiter.request_spec hinit1 hsucc (successKey userId) cfg.duration
        (unix r.completion) with ⟨l2, hreq2, h1, -, h2, -⟩ | ⟨hreq2, -⟩
      · refine ⟨l2, ?_, h1, h2 _ (keys_differ userId).2⟩
        simp [memoryRateLimitHandler, hreq, hok, hreq2]
      · refine ⟨l1, ?_, hinit1, rfl⟩
        simp [memoryRateLimitHandler, hreq, hok, hreq2]
    obtain ⟨l2, hrun, h1, hkept2⟩ := hcount
    simp only [hrun, map_some, getD_some]
    refine ⟨h1, Or.inl ?_⟩
    rcases hkey with ⟨hlt, hkey⟩ | ⟨oldest, rest, hold, hfull, hgone, hkey⟩
    · rw [hkept, length_map] at hlt
      refine ⟨Or.inl hlt, trivial, ?_⟩
      rw [hkept2, hkey, hkept, push, if_pos hlt, map_append, map_singleton]
    · obtain ⟨old, recent', rfl, rfl, rfl⟩ := map_eq_cons_iff.mp (hkept.symm.trans hold)
      have hnot : ¬ (old :: recent').length < cfg.successMaxCount := by
        simpa using hfull
      refine ⟨Or.inr ⟨old, rfl, hgone⟩, trivial, ?_⟩
      rw [hkept2, hkey, push, if_neg hnot, tail_cons, map_append, map_singleton]
  · obtain ⟨old, recent', rfl, rfl, rfl⟩ := map_eq_cons_iff.mp (hkept.symm.trans hold)
    have hrun : memoryRateLimitHandler { cfg with totalMaxCount := 0 } userId l r =
        some (.successLimited, l) := by
      simp [memoryRateLimitHandler, hreq]
    simp only [hrun, map_some, getD_some]
    refine ⟨hinit, Or.inr ⟨?_, trivial, hkept⟩⟩
    rintro (hlt | ⟨old', hmem, hgone⟩)
    · rw [length_cons, length_map] at hfull
      rw [length_cons] at hlt
      omega
    · rw [List.head?_cons, mem_some_iff] at hmem
      subst hmem
      omega

def RedisRoom (cfg : ModelRateLimit) (recent : List ModelRequest) (r : ModelRequest) : Prop :=
  recent.length < cfg.successMaxCount ∨
    ∃ old ∈ recent.head?, old.completion + 1000 * cfg.duration ≤ r.arrival

theorem length_push (h1 : 1 ≤ cfg.successMaxCount)
    (hlen : recent.length ≤ cfg.successMaxCount) :
    (push cfg recent r).length ≤ cfg.successMaxCount := by
  unfold push
  split
  · rw [length_append, length_singleton]
    omega
  · rw [length_append, length_tail, length_singleton]
    omega

theorem mem_push {e : ModelRequest} (he : e ∈ push cfg recent r) : e ∈ recent ∨ e = r := by
  unfold push at he
  rw [mem_append, mem_singleton] at he
  refine he.imp_left fun he => ?_
  split at he
  · exact he
  · exact mem_of_mem_tail he

theorem record_push (h1 : 1 ≤ cfg.successMaxCount)
    (hlen : recent.length ≤ cfg.successMaxCount) {stamps : List Int}
    (h1 : stamps = (recent.map completion).reverse) :
    recordRedisRequest stamps cfg.successMaxCount r.completion =
      ((push cfg recent r).map completion).reverse := by
  have hne : cfg.successMaxCount ≠ 0 := by omega
  rw [recordRedisRequest, if_neg hne, ltrim, if_neg hne, h1]
  by_cases hlt : recent.length < cfg.successMaxCount
  · rw [push, if_pos hlt, take_of_length_le (by simpa [Nat.succ_le_iff] using hlt)]
    simp
  · rw [push, if_neg hlt]
    cases recent with
    | nil =>
      rw [length_nil] at hlt
      omega
    | cons old rest =>
      have h1 : cfg.successMaxCount =
          (r.completion :: (rest.map completion).reverse).length := by
        simp only [length_cons, length_reverse, length_map] at hlt hlen ⊢
        omega
      rw [map_cons, reverse_cons, ← cons_append, h1, take_left]
      simp

theorem check_spec (h1 : 1 ≤ cfg.successMaxCount) (h : Mirror cfg userId w recent)
    (hclock : w.clock ≤ r.arrival) :
    ∃ b, checkRedisRateLimit w.redis.success cfg.successMaxCount cfg.duration r.arrival =
      some b ∧ (b = true ↔ RedisRoom cfg recent r) := by
  have hne : cfg.successMaxCount ≠ 0 := by omega
  have hlen : w.redis.success.length = recent.length := by simp [h.redis]
  rw [checkRedisRateLimit, if_neg hne, hlen]
  by_cases hlt : recent.length < cfg.successMaxCount
  · rw [if_pos hlt]
    exact ⟨true, rfl, iff_of_true rfl (.inl hlt)⟩
  · rw [if_neg hlt]
    cases recent with
    | nil =>
      rw [length_nil] at hlt
      omega
    | cons old rest =>
      have h1 : w.redis.success.getLast? = some old.completion := by simp [h.redis]
      have h2 := (h.earlier old mem_cons_self).2.2
      rw [h1]
      refine ⟨_, rfl, ?_⟩
      rw [decide_eq_true_iff, le_secondsSince_iff (h2.trans hclock)]
      constructor
      · intro h1
        exact .inr ⟨old, rfl, h1⟩
      · rintro (h2 | ⟨old', hmem, h1⟩)
        · exact absurd h2 hlt
        · rw [List.head?_cons, mem_some_iff] at hmem
          rwa [hmem]

section

variable (h : Mirror cfg userId w recent) (hreg : w.regular cfg userId r = true)

include h hreg

theorem redis_spec : (RedisRoom cfg recent r ∧ w.redisVerdict cfg r = .passed ∧
      (w.step cfg userId r).redis.success =
        ((push cfg recent r).map completion).reverse) ∨
    (¬ RedisRoom cfg recent r ∧ w.redisVerdict cfg r = .successLimited ∧
      (w.step cfg userId r).redis.success = (recent.map completion).reverse) := by
  obtain ⟨hsucc, hclock, -, hok, hroom, -⟩ := (regular_iff cfg userId w r).mp hreg
  -- Past the check, the total limit has room and the completion is recorded.
  have hpass : checkRedisRateLimit w.redis.success cfg.successMaxCount cfg.duration r.arrival =
      some true → (redisRateLimitHandler cfg w.redis r).1 = .passed ∧
        (redisRateLimitHandler cfg w.redis r).2.success =
          recordRedisRequest w.redis.success cfg.successMaxCount r.completion := by
    intro hcheck
    by_cases h1 : 0 < cfg.totalMaxCount
    · have h2 : cfg.duration ≤ TokenBucket.refill w.redis.total cfg.totalMaxCount
          (cfg.totalMaxCount * cfg.duration) (unix r.arrival) := by
        simp only [totalRoom, Bool.or_eq_true, decide_eq_true_eq, Bool.and_eq_true] at hroom
        omega
      simp [redisRateLimitHandler, hcheck, h1, TokenBucket.allow, h2, hok]
    · simp [redisRateLimitHandler, hcheck, h1, hok]
  have hrecord : recordRedisRequest w.redis.success cfg.successMaxCount r.completion =
      ((push cfg recent r).map completion).reverse :=
    record_push hsucc h.length_le h.redis
  obtain ⟨b, hcheck, hb⟩ := check_spec hsucc h hclock
  cases b with
  | true =>
    exact .inl ⟨hb.mp rfl, (hpass hcheck).1, (hpass hcheck).2.trans hrecord⟩
  | false =>
    refine .inr ⟨fun h1 => Bool.false_ne_true (hb.mpr h1), ?_, ?_⟩
    · simp [redisVerdict, redisRateLimitHandler, hcheck]
    · simp only [step, redisRateLimitHandler, hcheck]
      exact h.redis

theorem room_iff : Room cfg recent r ↔ RedisRoom cfg recent r := by
  obtain ⟨-, -, -, -, -, h1⟩ := (regular_iff cfg userId w r).mp hreg
  refine or_congr_right (exists_congr fun old => and_congr_right fun hmem => ?_)
  obtain ⟨h2, hrun, -⟩ := h.earlier old (mem_of_mem_head? hmem)
  have hgap := all_eq_true.mp h1 old h2
  simp only [Bool.or_eq_true, decide_eq_true_eq] at hgap
  unfold unix at hgap ⊢
  omega

/-- **Step lemma.** A regular request is judged alike and leaves the stores alike. -/
theorem Mirror.step :
    w.Agree cfg userId r ∧ ∃ recent', Mirror cfg userId (w.step cfg userId r) recent' := by
  obtain ⟨hsucc, h1, hrun, -, -, -⟩ := (regular_iff cfg userId w r).mp hreg
  obtain ⟨hinit, h1⟩ := memory_spec h hreg
  have hredis := redis_spec h hreg
  rw [← room_iff h hreg] at hredis
  have hlater : ∀ e ∈ recent, e ∈ w.earlier ++ [r] ∧ e.arrival ≤ e.completion ∧
      e.completion ≤ r.completion := by
    intro e he
    obtain ⟨h2, hle, h3⟩ := h.earlier e he
    exact ⟨mem_append_left _ h2, hle, by omega⟩
  rcases h1 with ⟨hroom, hverdict, hkept⟩ | ⟨hroom, hverdict, hkept⟩
  · rcases hredis with ⟨-, hverdict', hstamps⟩ | ⟨h1, -, -⟩
    · refine ⟨?_, push cfg recent r, hinit, hkept, hstamps, length_push hsucc h.length_le, ?_⟩
      · rw [Agree, hverdict, hverdict']
        simp
      · intro e he
        rcases mem_push he with he | rfl
        · exact hlater e he
        · exact ⟨mem_append_right _ (mem_singleton_self _), hrun, le_rfl⟩
    · exact absurd hroom h1
  · rcases hredis with ⟨h1, -, -⟩ | ⟨-, hverdict', hstamps⟩
    · exact absurd h1 hroom
    · refine ⟨?_, recent, hinit, hkept, hstamps, h.length_le, hlater⟩
      rw [Agree, hverdict, hverdict']
      simp

end

end RateStores

open RateStores in
/-- **The two stores agree on the success limit in every run of regular requests.** -/
theorem rate_limit_stores_agree (cfg : ModelRateLimit) (userId : String)
    (expirationDuration now : Int) (requests : List ModelRequest)
    (hregular : ∀ e ∈ Run.trace (step cfg userId) (start expirationDuration now) requests,
      e.before.regular cfg userId e.act = true) :
    ∀ e ∈ Run.trace (step cfg userId) (start expirationDuration now) requests,
      e.before.Agree cfg userId e.act := by
  intro e he
  have h1 := (Run.guarded_invariant (P := fun w => ∃ recent, Mirror cfg userId w recent)
    (G := fun w r => w.regular cfg userId r = true)
    ⟨[], rfl, rfl, rfl, Nat.zero_le _, fun _ he => nomatch he⟩ hregular
    (fun w r hreg ⟨recent, h⟩ => (h.step hreg).2) he).1
  obtain ⟨recent, h⟩ := h1
  exact (h.step (hregular e he)).1

/-- A failed request counts in memory and not in Redis: with one success a minute allowed,
the retry after a failure is rejected in memory only. Without a success limit the memory
rejects the second request. -/
theorem rate_limit_stores_disagree :
    let failing : ModelRequest := ⟨0, 100, false⟩
    let retry : ModelRequest := ⟨1000, 1100, true⟩
    let one : ModelRateLimit := ⟨60, 0, 1⟩
    let none : ModelRateLimit := ⟨60, 0, 0⟩
    let start := RateStores.start (60 * 1000000000) 0
    ((start.step one "1" failing).memoryVerdict one "1" retry = some .successLimited ∧
      (start.step one "1" failing).redisVerdict one retry = .passed) ∧
    (start.step none "1" retry).memoryVerdict none "1" retry = some .successLimited ∧
      (start.step none "1" retry).redisVerdict none retry = .passed := by
  decide +kernel

/-- Three requests in one second and a half, two a minute allowed: the third is rejected in
both stores, and a fourth a minute later is not. -/
theorem rate_limit_stores_agree_sample :
    let cfg : ModelRateLimit := ⟨60, 10, 2⟩
    let requests : List ModelRequest :=
      [⟨0, 100, true⟩, ⟨500, 600, true⟩, ⟨1500, 1600, true⟩, ⟨61700, 61800, true⟩]
    ∀ e ∈ Run.trace (RateStores.step cfg "1") (RateStores.start (60 * 1000000000) 0) requests,
      e.before.Agree cfg "1" e.act := by
  intro cfg requests
  exact rate_limit_stores_agree cfg "1" (60 * 1000000000) 0 requests (by decide +kernel)

end Xingkong
