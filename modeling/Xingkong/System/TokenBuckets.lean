import Xingkong.Model.RateLimit
import Mathlib.Data.Rat.Floor
import Mathlib.Tactic.Linarith

/-!
# What the token bucket lets through

The script reads the whole seconds of the server's clock. Between two of its seconds it lets
through at most a full bucket and what flowed in meanwhile (`token_bucket_bound`); within
fractions of a second it can be more (`token_bucket_exceeded`).
-/

namespace Xingkong

open List

namespace TokenBucket

variable (requested rate capacity : Int)

/-- What is stored after calls at the given times. -/
def stored : Option TokenBucket → List ℚ → Option TokenBucket :=
  List.foldl fun bucket t => some (allow bucket requested rate capacity ⌊t⌋).2

/-- The times of the calls that are allowed. -/
def allowedTimes : Option TokenBucket → List ℚ → List ℚ
  | _, [] => []
  | bucket, t :: times =>
    let (allowed, next) := allow bucket requested rate capacity ⌊t⌋
    if allowed then t :: allowedTimes (some next) times else allowedTimes (some next) times

/-- The tokens are in range and were counted by the second `n`. -/
def InRange (bucket : Option TokenBucket) (n : Int) : Prop :=
  ∀ b ∈ bucket, 0 ≤ b.tokens ∧ b.tokens ≤ capacity ∧ b.lastTime ≤ n

theorem exists_second_before (s : ℚ) (times : List ℚ) (hsorted : times.Pairwise (· ≤ ·)) :
    ∃ n ≤ ⌊s⌋, ∀ t ∈ times, n ≤ ⌊t⌋ := by
  cases times with
  | nil => exact ⟨⌊s⌋, le_rfl, by simp⟩
  | cons t times =>
    obtain ⟨ht, -⟩ := pairwise_cons.mp hsorted
    exact ⟨min ⌊s⌋ ⌊t⌋, min_le_left _ _, forall_mem_cons.mpr ⟨min_le_right _ _,
      fun u hu => (min_le_right _ _).trans (Int.floor_le_floor (ht u hu))⟩⟩

variable {requested rate capacity} {bucket : Option TokenBucket} {m n : Int} {times : List ℚ}

theorem inRange_none : InRange capacity none n := by
  rintro b ⟨⟩

theorem InRange.mono (h : InRange capacity bucket n) (hnm : n ≤ m) : InRange capacity bucket m :=
  fun b hb => ⟨(h b hb).1, (h b hb).2.1, (h b hb).2.2.trans hnm⟩

theorem refill_le : refill bucket rate capacity n ≤ capacity := by
  unfold refill; split
  · exact le_rfl
  · exact min_le_left _ _

theorem refill_self {b : TokenBucket} (h : InRange capacity (some b) n) :
    refill (some b) rate capacity b.lastTime = b.tokens := by
  have hb := (h b rfl).2.1
  simp [refill, hb]

theorem allow_cases (bucket : Option TokenBucket) (requested rate capacity now : Int) :
    let tokens := refill bucket rate capacity now
    (requested ≤ tokens ∧
        allow bucket requested rate capacity now = (true, ⟨tokens - requested, now⟩)) ∨
      tokens < requested ∧ allow bucket requested rate capacity now = (false, ⟨tokens, now⟩) := by
  intro tokens
  by_cases h : requested ≤ tokens
  · exact .inl ⟨h, if_pos h⟩
  · exact .inr ⟨by omega, if_neg h⟩

theorem allowedTimes_sublist (bucket : Option TokenBucket) (times : List ℚ) :
    (allowedTimes requested rate capacity bucket times).Sublist times := by
  induction times generalizing bucket with
  | nil => exact Sublist.slnil
  | cons t times ih =>
    rcases allow_cases bucket requested rate capacity ⌊t⌋ with ⟨-, h⟩ | ⟨-, h⟩ <;>
      simp only [allowedTimes, h]
    · exact (ih _).cons_cons t
    · exact (ih _).cons t

/-- A call leaves no more than there would be without it. -/
theorem refill_allow_le (hreq : 0 < requested) (bucket : Option TokenBucket) :
    refill (some (allow bucket requested rate capacity n).2) rate capacity m ≤
      refill bucket rate capacity m := by
  have hleft : ∃ tokens ≤ refill bucket rate capacity n,
      (allow bucket requested rate capacity n).2 = ⟨tokens, n⟩ := by
    rcases allow_cases bucket requested rate capacity n with ⟨-, h⟩ | ⟨-, h⟩ <;> rw [h]
    · exact ⟨_, by omega, rfl⟩
    · exact ⟨_, le_rfl, rfl⟩
  obtain ⟨tokens, h1, hleft⟩ := hleft
  rw [hleft]
  cases bucket with
  | none => exact min_le_left _ _
  | some b =>
    have hb := h1.trans (min_le_right _ _)
    exact min_le_min le_rfl (by linarith)

section

variable (hrate : 0 < rate) (hcap : 0 < capacity) (hreq : 0 < requested)

include hrate

theorem refill_advance (hmn : n ≤ m) :
    refill bucket rate capacity m ≤ refill bucket rate capacity n + rate * (m - n) := by
  have h1 := mul_nonneg hrate.le (sub_nonneg.mpr hmn)
  unfold refill; split
  · linarith
  · next b =>
    rw [← min_add_add_right]
    exact min_le_min (by linarith) (by linarith)

include hcap

theorem refill_nonneg (h : InRange capacity bucket n) : 0 ≤ refill bucket rate capacity n := by
  unfold refill; split
  · exact hcap.le
  · next b =>
    obtain ⟨h1, -, h1⟩ := h b rfl
    have h2 := mul_nonneg (sub_nonneg.mpr h1) hrate.le
    exact le_min hcap.le (by linarith)

include hreq

/-- The step: a call leaves the tokens in range. -/
theorem InRange.allow (h : InRange capacity bucket n) (hmn : n ≤ m) :
    InRange capacity (some (TokenBucket.allow bucket requested rate capacity m).2) m := by
  have h1 := refill_nonneg hrate hcap (h.mono hmn)
  have hle : refill bucket rate capacity m ≤ capacity := refill_le
  rintro b ⟨⟩
  rcases allow_cases bucket requested rate capacity m with ⟨hreq, h⟩ | ⟨-, h⟩ <;>
    simp only [h, le_refl, and_true] <;> omega

variable (h : InRange capacity bucket n) (hsorted : times.Pairwise (· ≤ ·))
  (hn : ∀ t ∈ times, n ≤ ⌊t⌋)

include h hsorted hn

theorem InRange.stored :
    ∃ last, InRange capacity (TokenBucket.stored requested rate capacity bucket times) last := by
  induction times generalizing bucket n with
  | nil => exact ⟨n, h⟩
  | cons t times ih =>
    obtain ⟨ht, h1⟩ := pairwise_cons.mp hsorted
    exact ih (h.allow hrate hcap hreq (hn t mem_cons_self)) h1
      fun u hu => Int.floor_le_floor (ht u hu)

/-- The calls allowed between `s` and `u` share what is in the bucket when they begin and what
flows in. -/
theorem allowed_between {s u : ℚ} (hsu : s ≤ u) (hu : n ≤ ⌊u⌋) :
    ((allowedTimes requested rate capacity bucket times).countP fun t => s ≤ t ∧ t ≤ u : Int) *
      requested ≤
        refill bucket rate capacity (max n ⌊s⌋) + rate * (⌊u⌋ - max n ⌊s⌋) := by
  have hfloor : ⌊s⌋ ≤ ⌊u⌋ := Int.floor_le_floor hsu
  have hlevel : 0 ≤ refill bucket rate capacity (max n ⌊s⌋) :=
    refill_nonneg hrate hcap (h.mono (le_max_left _ _))
  have hinflow := mul_nonneg hrate.le (sub_nonneg.mpr (max_le hu hfloor))
  induction times generalizing bucket n with
  | nil =>
    simp only [allowedTimes, countP_nil, Nat.cast_zero, zero_mul]
    linarith
  | cons t times ih =>
    obtain ⟨ht, h1⟩ := pairwise_cons.mp hsorted
    have hnt := hn t mem_cons_self
    by_cases htu : t ≤ u
    · have hnext := h.allow hrate hcap hreq hnt
      have hend : ⌊t⌋ ≤ ⌊u⌋ := Int.floor_le_floor htu
      have hrest := ih hnext h1 (fun v hv => Int.floor_le_floor (ht v hv)) hend
        (refill_nonneg hrate hcap (hnext.mono (le_max_left _ _)))
        (mul_nonneg hrate.le (sub_nonneg.mpr (max_le hend hfloor)))
      have h1 : refill bucket rate capacity (max ⌊t⌋ ⌊s⌋) ≤ _ :=
        refill_advance hrate (max_le_max_right ⌊s⌋ hnt)
      have h2 : _ ≤ refill bucket rate capacity (max ⌊t⌋ ⌊s⌋) :=
        refill_allow_le (n := ⌊t⌋) hreq bucket
      rcases allow_cases bucket requested rate capacity ⌊t⌋ with ⟨-, h3⟩ | ⟨-, h3⟩ <;>
        rw [h3] at hnext hrest h2 <;>
        simp only [allowedTimes, h3, if_true, Bool.false_eq_true, if_false]
      · by_cases hst : s ≤ t
        · rw [max_eq_left (Int.floor_le_floor hst)] at hrest h1
          rw [refill_self hnext] at hrest
          rw [countP_cons_of_pos (by simp [hst, htu])]
          push_cast
          linarith
        · rw [countP_cons_of_neg (by simp [hst])]
          linarith
      · linarith
    · -- All further calls come after `u`.
      have hno : (allowedTimes requested rate capacity bucket (t :: times)).countP
          (fun t => s ≤ t ∧ t ≤ u) = 0 := by
        rw [countP_eq_zero]
        intro v hv
        have hv := (allowedTimes_sublist bucket _).subset hv
        have huv : u < v := by
          rcases mem_cons.mp hv with rfl | hv
          · exact not_le.mp htu
          · exact lt_of_lt_of_le (not_le.mp htu) (ht v hv)
        simp [huv]
      rw [hno]
      simp only [Nat.cast_zero, zero_mul]
      linarith

end

end TokenBucket

/-- **The token bucket holds between none and `capacity` tokens, and lets through at most a
bucket and what flows in** from the second in which an interval starts to the one in which it
ends. -/
theorem token_bucket_bound (requested rate capacity : Int) (hrate : 0 < rate)
    (hcapacity : 0 < capacity) (hrequested : 0 < requested) (times : List ℚ)
    (hsorted : times.Pairwise (· ≤ ·)) :
    (∀ b ∈ TokenBucket.stored requested rate capacity none times,
      0 ≤ b.tokens ∧ b.tokens ≤ capacity) ∧
    ∀ s u : ℚ, s ≤ u →
      ((TokenBucket.allowedTimes requested rate capacity none times).countP
        fun t => s ≤ t ∧ t ≤ u : Int) * requested ≤ capacity + rate * (⌊u⌋ - ⌊s⌋) := by
  constructor
  · obtain ⟨n, -, hn⟩ := TokenBucket.exists_second_before 0 times hsorted
    obtain ⟨last, h1⟩ := TokenBucket.inRange_none.stored hrate hcapacity hrequested hsorted hn
    exact fun b hb => ⟨(h1 b hb).1, (h1 b hb).2.1⟩
  · intro s u hsu
    obtain ⟨n, hns, hn⟩ := TokenBucket.exists_second_before s times hsorted
    have h1 := TokenBucket.allowed_between hrate hcapacity hrequested
      TokenBucket.inRange_none hsorted hn hsu (hns.trans (Int.floor_le_floor hsu))
    rw [max_eq_right hns] at h1
    exact h1

theorem token_bucket_bound_two :
    ((TokenBucket.allowedTimes 1 1 1 none [9 / 10, 1]).countP fun t => (9 / 10 : ℚ) ≤ t ∧ t ≤ 1 :
      Int) * 1 ≤ 1 + 1 * (⌊(1 : ℚ)⌋ - ⌊(9 / 10 : ℚ)⌋) :=
  (token_bucket_bound 1 1 1 (by decide) (by decide) (by decide) [9 / 10, 1]
    (by norm_num)).2 _ _ (by norm_num)

/-- A bucket of one token, refilled at one a second, lets two calls through within a tenth of a
second. -/
theorem token_bucket_exceeded :
    ¬ (((TokenBucket.allowedTimes 1 1 1 none [9 / 10, 1]).countP
      fun t => (9 / 10 : ℚ) ≤ t ∧ t ≤ 1 : ℚ) * 1 ≤ 1 + 1 * (1 - 9 / 10)) := by
  have h1 : ⌊(9 / 10 : ℚ)⌋ = 0 := by norm_num
  have hall : TokenBucket.allowedTimes 1 1 1 none [9 / 10, 1] = [9 / 10, 1] := by
    simp [TokenBucket.allowedTimes, TokenBucket.allow, TokenBucket.refill, h1]
  rw [hall]
  norm_num

end Xingkong
