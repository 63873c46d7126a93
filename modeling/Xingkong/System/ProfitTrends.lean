import Xingkong.Spec.ProfitReport

/-!
# The trend against the summary

The figures of the trend add up to those of the summary if every instant from the start of the
period until now has its key in the trend. The keys of a week or a month are those of the
server's dates at the midnights of UTC, the last of them being the last one before now. If the
server's date has changed since, the rows of the new date have no key.
-/

namespace Xingkong

open Rdb Civil List

structure NotAfter (now : Int) (db : Database) : Prop where
  usage : ∀ r ∈ db.usageSettlements.rows, r.createdAt ≤ now
  finance : ∀ r ∈ db.financeLedgers.rows, r.createdAt ≤ now
  breakage : ∀ r ∈ db.breakageSettlements.rows, r.createdAt ≤ now
  walletLots : ∀ r ∈ db.walletLots.rows, r.createdAt ≤ now
  subscriptionLots : ∀ r ∈ db.subscriptionLots.rows, r.createdAt ≤ now

/-- The server's date is the one it had at the last midnight of UTC. -/
def SameDate (zone now : Int) : Prop :=
  localDay zone now = localDay zone (truncateDay now)

instance (zone now : Int) : Decidable (SameDate zone now) := by
  unfold SameDate
  infer_instance

def trendKeys (zone : Int) (period : String) (now : Int) : List String :=
  buildProfitBucketKeys zone period (profitPeriodStart zone period now) now

/-- Every instant of the period has its key in the trend. -/
def KeysCover (zone : Int) (period : String) (now : Int) : Prop :=
  ∀ t, profitPeriodStart zone period now ≤ t → t ≤ now →
    profitBucketKey zone period t ∈ trendKeys zone period now

variable {period : String}

/-! ## Which instants have a key -/

section Keys

variable {zone now start : Int}

theorem truncated_days (days : Nat) (h : start = truncateDay (now - days * day)) :
    ((now - start) / day + 1).toNat = days + 1 ∧
      start + (days + 1 : Nat) * day ≤ now + day ∧
      localDay zone now ≤ localDay zone start + (days + 1 : Nat) ∧
      (localDay zone now < localDay zone start + (days + 1 : Nat) ↔
        SameDate zone now) := by
  subst h
  unfold SameDate localDay truncateDay day
  omega

theorem today_days (h : start = localMidnight zone now) :
    ((now - start) / day + 1).toNat = 1 ∧ start + (1 : Nat) * day ≤ now + day ∧
      localDay zone now < localDay zone start + (1 : Nat) := by
  subst h
  unfold localMidnight localDay day
  omega

theorem trendKeys_dates (hday : period ≠ "day") :
    ∃ n : Nat, n ≤ 30 ∧
      trendKeys zone period now = (List.range n).map (fun i : Nat =>
        dateKey (localDay zone (profitPeriodStart zone period now) + i)) ∧
      localDay zone now ≤ localDay zone (profitPeriodStart zone period now) + n ∧
      (localDay zone now < localDay zone (profitPeriodStart zone period now) + n ↔
        (period = "week" ∨ period = "month" → SameDate zone now)) := by
  unfold trendKeys buildProfitBucketKeys
  rw [if_neg hday]
  by_cases hmonth : period = "month"
  · have hstart : profitPeriodStart zone period now =
        truncateDay (now - (29 : Nat) * day) := if_pos hmonth
    obtain ⟨hn, hfuel, hle, hiff⟩ := truncated_days 29 hstart
    refine ⟨30, le_rfl, ?_, hle, ?_⟩
    · rw [hn]
      exact dateKeys_eq hfuel
    · rw [hiff]
      exact ⟨fun h _ => h, fun h => h (.inr hmonth)⟩
  · by_cases hweek : period = "week"
    · have hstart : profitPeriodStart zone period now =
          truncateDay (now - (6 : Nat) * day) := by
        unfold profitPeriodStart
        rw [if_neg hmonth, if_pos hweek]
        rfl
      obtain ⟨hn, hfuel, hle, hiff⟩ := truncated_days 6 hstart
      refine ⟨7, by omega, ?_, hle, ?_⟩
      · rw [hn]
        exact dateKeys_eq hfuel
      · rw [hiff]
        exact ⟨fun h _ => h, fun h => h (.inl hweek)⟩
    · have hstart : profitPeriodStart zone period now = localMidnight zone now := by
        unfold profitPeriodStart
        rw [if_neg hmonth, if_neg hweek]
      obtain ⟨hn, hfuel, hlt⟩ := today_days hstart
      refine ⟨1, by omega, ?_, le_of_lt hlt, ?_⟩
      · rw [hn]
        exact dateKeys_eq hfuel
      · constructor
        · intro _ hp
          rcases hp with hp | hp
          · exact absurd hp hweek
          · exact absurd hp hmonth
        · exact fun _ => hlt

theorem trendKeys_nodup (zone : Int) (period : String) (now : Int) :
    (trendKeys zone period now).Nodup := by
  by_cases hday : period = "day"
  · unfold trendKeys buildProfitBucketKeys
    rw [if_pos hday]
    exact hourKeys_nodup
  · obtain ⟨n, hn, h, _⟩ := trendKeys_dates hday
    rw [h]
    exact dateKeys_nodup _ (by omega)

theorem localDay_mono {t t' : Int} (h : t ≤ t') :
    localDay zone t ≤ localDay zone t' := by
  unfold localDay day
  omega

theorem profitPeriodStart_le (zone : Int) (period : String) (now : Int) :
    profitPeriodStart zone period now ≤ now := by
  unfold profitPeriodStart
  split_ifs
  · unfold truncateDay day
    omega
  · unfold truncateDay day
    omega
  · unfold localMidnight localDay day
    omega

theorem bucketKey_mem_iff (hday : period ≠ "day") :
    ∃ last : Int,
      (∀ t, profitPeriodStart zone period now ≤ t → t ≤ now →
        (profitBucketKey zone period t ∈ trendKeys zone period now ↔
          localDay zone t ≤ last)) ∧
      (localDay zone now ≤ last ↔
        (period = "week" ∨ period = "month" → SameDate zone now)) := by
  obtain ⟨n, hn, h, hle, hiff⟩ :
    ∃ n : Nat, n ≤ 30 ∧ trendKeys zone period now = (List.range n).map _ ∧ _ ∧ _ :=
    trendKeys_dates hday
  refine ⟨localDay zone (profitPeriodStart zone period now) + n - 1, ?_, ?_⟩
  · intro t h1 hnow
    have h2 : localDay zone _ ≤ localDay zone t := localDay_mono h1
    have h1 : localDay zone t ≤ localDay zone now := localDay_mono hnow
    unfold profitBucketKey
    rw [if_neg hday, h, dateKey_mem h2 (by omega) (by omega)]
    omega
  · rw [← hiff]
    omega

theorem hourKey_mem (zone t : Int) :
    hourKey (hour zone t) ∈ (List.range 24).map hourKey :=
  mem_map_of_mem (mem_range.2 (hour_lt zone t))

theorem keysCover_of_now (h : profitBucketKey zone period now ∈ trendKeys zone period now) :
    KeysCover zone period now := by
  intro t h1 hnow
  by_cases hday : period = "day"
  · subst hday
    exact hourKey_mem zone t
  · obtain ⟨last, hmem, _⟩ : ∃ last : Int, (∀ t, _ → t ≤ now → _) ∧ _ :=
      bucketKey_mem_iff hday
    have h2 := (hmem now (profitPeriodStart_le zone period now) le_rfl).1 h
    have h : localDay zone t ≤ localDay zone now := localDay_mono hnow
    exact (hmem t h1 hnow).2 (h.trans h2)

theorem nowKey_mem_iff :
    profitBucketKey zone period now ∈ trendKeys zone period now ↔
      (period = "week" ∨ period = "month" → SameDate zone now) := by
  by_cases hday : period = "day"
  · subst hday
    constructor
    · intro _ h
      rcases h with h | h <;> exact absurd h (by decide)
    · exact fun _ => hourKey_mem zone now
  · obtain ⟨last, hmem, hiff⟩ := bucketKey_mem_iff hday
    rw [← hiff]
    exact hmem now (profitPeriodStart_le zone period now) le_rfl

end Keys

/-! ## The figures -/

section Figures

variable {zone now : Int} {db : Database}

theorem reportEntries_covered (h : KeysCover zone period now) (hdb : NotAfter now db)
    (c : TrendComponent) :
    ∀ e ∈ reportEntries c zone period (profitPeriodStart zone period now) db,
      e.1 ∈ trendKeys zone period now := by
  unfold reportEntries trendEntries
  simp only [forall_mem_append, forall_mem_map]
  refine ⟨⟨⟨⟨?_, ?_⟩, ?_⟩, ?_⟩, ?_⟩
  · intro r hr
    obtain ⟨hm, hs⟩ := mem_filter.1 hr
    exact h r.createdAt (of_decide_eq_true hs) (hdb.usage r hm)
  · intro r hr
    obtain ⟨hm, hs⟩ := mem_filter.1 hr
    exact h r.createdAt (of_decide_eq_true hs) (hdb.breakage r hm)
  · intro r hr
    obtain ⟨hm, hs⟩ := mem_filter.1 hr
    exact h r.createdAt (of_decide_eq_true hs) (hdb.finance r hm)
  · apply forall_key_aggregateCashLotsByBucket
    intro l hl
    obtain ⟨hm, hs⟩ := mem_filter.1 hl
    rw [Bool.and_eq_true] at hs
    exact h l.createdAt (of_decide_eq_true hs.1) (hdb.walletLots l hm)
  · apply forall_key_aggregateCashLotsByBucket
    intro l hl
    obtain ⟨hm, hs⟩ := mem_filter.1 hl
    rw [Bool.and_eq_true] at hs
    exact h l.createdAt (of_decide_eq_true hs.1) (hdb.subscriptionLots l hm)

def breakageAt (t : Int) : Database :=
  { Database.empty with
    breakageSettlements := Table.empty.insert
      { id := 0, userId := 1, sourceLotType := .subscription, sourceLotId := 1
        amountCNY := 1, createdAt := t } }

theorem breakageAt_notAfter (now : Int) : NotAfter now (breakageAt now) where
  usage := forall_mem_nil _
  finance := forall_mem_nil _
  breakage := by
    intro r hr
    rw [mem_singleton.1 hr]
    exact le_rfl
  walletLots := forall_mem_nil _
  subscriptionLots := forall_mem_nil _

theorem reportEntries_breakageAt :
    reportEntries .breakage zone period (profitPeriodStart zone period now) (breakageAt now) =
      [(profitBucketKey zone period now, 1)] := by
  have h := profitPeriodStart_le zone period now
  have hrows : (breakageAt now).breakageSince (profitPeriodStart zone period now) =
      (breakageAt now).breakageSettlements.rows := by
    apply filter_eq_self.2
    intro r hr
    rw [mem_singleton.1 hr]
    exact decide_eq_true h
  unfold reportEntries
  rw [hrows]
  rfl

/-- **The trend adds up to the summary exactly if the server's date is that of the last midnight
of UTC**, in a report over a week or a month; a report over any other period always does. -/
theorem trend_matches_summary_iff (zone : Int) (period : String) (now : Int) :
    (∀ db, NotAfter now db → ∃ overview,
      getProfitOverview zone period now [] db = .ok overview ∧
        ∀ c : TrendComponent, (overview.trend.map c.ofPoint).sum = c.ofSummary overview.summary) ↔
      (period = "week" ∨ period = "month" → SameDate zone now) := by
  rw [← nowKey_mem_iff]
  constructor
  · intro h
    by_contra hkey
    -- a breakage of this instant is in the summary only
    obtain ⟨overview, h1, heq⟩ := h (breakageAt now) (breakageAt_notAfter now)
    rw [getProfitOverview_nil] at h1
    cases h1
    have hbreakage := heq .breakage
    rw [ofSummary_profitOverview, sum_ofPoint_profitOverview, reportEntries_breakageAt] at hbreakage
    have hnone : (trendKeys zone period now).map (fun k =>
        Tally.amount k [(profitBucketKey zone period now, (1 : ℚ))]) =
        (trendKeys zone period now).map fun _ => 0 := by
      apply map_congr_left
      intro k hk
      apply Tally.amount_of_not_mem
      intro e he
      rw [mem_singleton.1 he]
      rintro rfl
      exact hkey hk
    rw [show buildProfitBucketKeys zone period (profitPeriodStart zone period now) now =
      trendKeys zone period now from rfl, hnone] at hbreakage
    simp at hbreakage
  · intro hkey db hdb
    have h := keysCover_of_now hkey
    refine ⟨_, getProfitOverview_nil zone period now db, ?_⟩
    intro c
    rw [ofSummary_profitOverview, sum_ofPoint_profitOverview]
    exact Tally.sum_amount (trendKeys_nodup zone period now) (reportEntries_covered h hdb c)

end Figures

/-- On a server eight hours ahead of UTC, at four in the morning of 11 January 2024: the trend of
the week ends with the day before, and what was recognised on the 11th is in the summary only. -/
theorem trend_drops_current_date :
    NotAfter 1704916800 (breakageAt 1704916800) ∧
      (getProfitOverview 28800 "week" 1704916800 [] (breakageAt 1704916800)).toOption.map
          (fun overview =>
            (overview.trend.map fun p => (p.time, p.breakage), overview.summary.breakageCNY)) =
        some ([("01-04", 0), ("01-05", 0), ("01-06", 0), ("01-07", 0), ("01-08", 0), ("01-09", 0),
          ("01-10", 0)], 1) :=
  ⟨breakageAt_notAfter 1704916800, by decide +kernel⟩

end Xingkong
