import Xingkong.Model.ProfitReport
import Xingkong.Spec.Quota
import Mathlib.Tactic.Linarith
import Mathlib.Tactic.Ring

/-!
# The figures of the profit report

The summary and the trend are filled by loops that add rows to records. Each of the six figures
they share is a `TrendComponent`: what a row adds to it, and where the summary and a point of the
trend keep it. The summary's figure is the sum over all rows, and a point's is what a tally of the
rows under their keys holds for the point's key.
-/

namespace Xingkong

open Rdb Civil List
open Tally (amount total add total_cons total_append)
open ProfitSummarySnapshot (addUsage addBreakage addFinance)

inductive TrendComponent
  | revenue
  | upstreamCost
  | grossProfit
  | breakage
  | financeCost
  | cashFlow
  deriving DecidableEq, Repr

namespace TrendComponent

def ofSummary (c : TrendComponent) (s : ProfitSummarySnapshot) : ℚ :=
  match c with
  | revenue => s.revenueCNY
  | upstreamCost => s.upstreamCostCNY
  | grossProfit => s.grossProfitCNY
  | breakage => s.breakageCNY
  | financeCost => s.financeCostCNY
  | cashFlow => s.cashFlowCNY

def ofPoint (c : TrendComponent) (p : ProfitTrendPoint) : ℚ :=
  match c with
  | revenue => p.revenue
  | upstreamCost => p.upstreamCost
  | grossProfit => p.grossProfit
  | breakage => p.breakage
  | financeCost => p.financeCost
  | cashFlow => p.cashFlow

def ofUsage (c : TrendComponent) (row : UsageSettlement) : ℚ :=
  match c with
  | revenue => row.realizedRevenueCNY
  | upstreamCost => row.upstreamCostCNY
  | grossProfit => row.requestGrossProfitCNY
  | cashFlow => -row.upstreamCostCNY
  | breakage | financeCost => 0

def ofBreakage (c : TrendComponent) (row : BreakageSettlement) : ℚ :=
  match c with
  | breakage => row.amountCNY
  | _ => 0

def ofFinance (c : TrendComponent) (row : FinanceLedger) : ℚ :=
  match c with
  | financeCost => if row.amountCNY < 0 then -row.amountCNY else 0
  | cashFlow => row.amountCNY
  | _ => 0

def ofCash (c : TrendComponent) (amount : ℚ) : ℚ :=
  match c with
  | cashFlow => amount
  | _ => 0

end TrendComponent

open TrendComponent (ofSummary ofUsage ofBreakage ofFinance ofCash ofPoint)

variable {ρ : Type} {c : TrendComponent} {period : String} {a : ρ → ℚ}

/-! ## The summary -/

section Summary

theorem foldl_figure {S : Type} {f : S → ρ → S} {g : S → ℚ} (h : ∀ s r, g (f s r) = g s + a r)
    (rows : List ρ) (s : S) :
    g (rows.foldl f s) = g s + (rows.map a).sum := by
  induction rows generalizing s with
  | nil => simp
  | cons r rows ih =>
    rw [foldl_cons, ih, h, map_cons, sum_cons]
    ring

theorem ofSummary_addUsage (s : ProfitSummarySnapshot) (row : UsageSettlement) :
    c.ofSummary (s.addUsage row) = c.ofSummary s + c.ofUsage row := by
  cases c <;> simp [ofSummary, ofUsage, addUsage, sub_eq_add_neg]

theorem ofSummary_addBreakage (s : ProfitSummarySnapshot) (row : BreakageSettlement) :
    c.ofSummary (s.addBreakage row) = c.ofSummary s + c.ofBreakage row := by
  cases c <;> simp [ofSummary, ofBreakage, addBreakage]

theorem ofSummary_addFinance (s : ProfitSummarySnapshot) (row : FinanceLedger) :
    c.ofSummary (s.addFinance row) = c.ofSummary s + c.ofFinance row := by
  cases c with
  | financeCost =>
    simp only [ofSummary, ofFinance, addFinance]
    split
    · rfl
    · rw [add_zero]
  | revenue | upstreamCost | grossProfit | breakage | cashFlow =>
    simp [ofSummary, ofFinance, addFinance]

theorem ofSummary_profitSummary (usageRows : List UsageSettlement)
    (financeRows : List FinanceLedger) (breakageRows : List BreakageSettlement)
    (outstanding walletInflow subscriptionInflow : ℚ) :
    c.ofSummary (profitSummary usageRows financeRows breakageRows outstanding walletInflow
        subscriptionInflow) =
      (usageRows.map c.ofUsage).sum + (breakageRows.map c.ofBreakage).sum +
        (financeRows.map c.ofFinance).sum + c.ofCash walletInflow +
        c.ofCash subscriptionInflow := by
  have hloops : c.ofSummary (financeRows.foldl addFinance (breakageRows.foldl addBreakage
        (usageRows.foldl addUsage { outstandingCNY := outstanding }))) =
      (usageRows.map c.ofUsage).sum + (breakageRows.map c.ofBreakage).sum +
        (financeRows.map c.ofFinance).sum := by
    have h : c.ofSummary { outstandingCNY := outstanding } = 0 := by
      cases c <;> rfl
    rw [foldl_figure ofSummary_addFinance, foldl_figure ofSummary_addBreakage,
      foldl_figure ofSummary_addUsage, h, zero_add]
  unfold profitSummary
  rw [← hloops]
  cases c <;> simp [ofSummary, ofCash]

end Summary

/-! ## The trend -/

section Trend

variable {points : TrendPoints}

theorem addToPoint_apply (key k : String) (f : ProfitTrendPoint → ProfitTrendPoint) :
    addToPoint points key f k = if key = k then (points k).map f else points k := by
  unfold addToPoint
  by_cases h : key = k
  · subst h
    rw [if_pos rfl]
    cases hp : points key with
    | none => exact hp
    | some p => simp
  · rw [if_neg h]
    cases points key with
    | none => rfl
    | some p => exact Function.update_of_ne (Ne.symm h) ..

theorem addRows_figure {key : ρ → String} {f : ρ → ProfitTrendPoint → ProfitTrendPoint}
    {g : ProfitTrendPoint → ℚ} (h : ∀ r p, g (f r p) = g p + a r) (rows : List ρ)
    (points : TrendPoints) (k : String) :
    (addRows key f rows points k).map g =
      ((points k).map g).map (· + amount k (rows.map fun r => (key r, a r))) := by
  induction rows generalizing points with
  | nil =>
    show (points k).map g = _
    cases points k <;> simp
  | cons r rows ih =>
    show (addRows key f rows (addToPoint points (key r) (f r)) k).map g = _
    rw [ih, addToPoint_apply, map_cons, Tally.amount_cons]
    cases points k with
    | none => simp
    | some p =>
      by_cases hk : key r = k
      · simp [hk, h, add_assoc]
      · simp [hk]

theorem freshPoints_apply (keys : List String) (k : String) :
    freshPoints keys k = if k ∈ keys then some { time := k } else none := by
  -- from any map, the keys that the loop has not met are as they were
  have hloop : ∀ points : TrendPoints,
      keys.foldl (fun points key => Function.update points key (some { time := key })) points k =
        if k ∈ keys then some { time := k } else points k := by
    induction keys with
    | nil =>
      intro points
      simp
    | cons key keys ih =>
      intro points
      rw [foldl_cons, ih]
      by_cases hk : k = key
      · subst hk
        simp
      · simp [hk]
  exact hloop _

theorem ofPoint_addUsage (row : UsageSettlement) (p : ProfitTrendPoint) :
    c.ofPoint (p.addUsage row) = c.ofPoint p + c.ofUsage row := by
  cases c <;> simp [ofPoint, ofUsage, ProfitTrendPoint.addUsage, sub_eq_add_neg]

theorem ofPoint_addBreakage (row : BreakageSettlement) (p : ProfitTrendPoint) :
    c.ofPoint (p.addBreakage row) = c.ofPoint p + c.ofBreakage row := by
  cases c <;> simp [ofPoint, ofBreakage, ProfitTrendPoint.addBreakage]

theorem ofPoint_addFinance (row : FinanceLedger) (p : ProfitTrendPoint) :
    c.ofPoint (p.addFinance row) = c.ofPoint p + c.ofFinance row := by
  cases c with
  | financeCost =>
    simp only [ofPoint, ofFinance, ProfitTrendPoint.addFinance]
    split
    · rfl
    · rw [add_zero]
  | revenue | upstreamCost | grossProfit | breakage | cashFlow =>
    simp [ofPoint, ofFinance, ProfitTrendPoint.addFinance]

theorem ofPoint_addCash (entry : String × ℚ) (p : ProfitTrendPoint) :
    c.ofPoint (p.addCash entry) = c.ofPoint p + c.ofCash entry.2 := by
  cases c <;> simp [ofPoint, ofCash, ProfitTrendPoint.addCash]

variable {zone start now : Int} {usageRows : List UsageSettlement}
  {financeRows : List FinanceLedger} {breakageRows : List BreakageSettlement}
  {walletTrend subTrend : List (String × ℚ)}

/-- What the rows add to a figure, each under the key of its bucket. -/
def trendEntries (c : TrendComponent) (zone : Int) (period : String)
    (usageRows : List UsageSettlement) (financeRows : List FinanceLedger)
    (breakageRows : List BreakageSettlement) (walletTrend subTrend : List (String × ℚ)) :
    List (String × ℚ) :=
  usageRows.map (fun row => (profitBucketKey zone period row.createdAt, c.ofUsage row)) ++
    breakageRows.map (fun row => (profitBucketKey zone period row.createdAt, c.ofBreakage row)) ++
    financeRows.map (fun row => (profitBucketKey zone period row.createdAt, c.ofFinance row)) ++
    walletTrend.map (fun entry => (entry.1, c.ofCash entry.2)) ++
    subTrend.map fun entry => (entry.1, c.ofCash entry.2)

/-- **A figure summed over the trend is what the tally of the rows holds for its keys.** -/
theorem sum_ofPoint_buildProfitTrend :
    ((buildProfitTrend zone period start now usageRows financeRows breakageRows walletTrend
        subTrend).map c.ofPoint).sum =
      ((buildProfitBucketKeys zone period start now).map fun k =>
        amount k (trendEntries c zone period usageRows financeRows breakageRows walletTrend
          subTrend)).sum := by
  unfold buildProfitTrend
  generalize buildProfitBucketKeys zone period start now = keys
  rw [map_filterMap, ← filterMap_eq_map]
  congr 1
  apply filterMap_congr
  intro k hk
  have h : ∀ o : Option ProfitTrendPoint,
      (o.map .finished).map c.ofPoint = o.map c.ofPoint := by
    intro o
    rw [Option.map_map]
    cases c <;> rfl
  have h1 : c.ofPoint { time := k } = 0 := by
    cases c <;> rfl
  rw [h, addRows_figure ofPoint_addCash, addRows_figure ofPoint_addCash,
    addRows_figure ofPoint_addFinance, addRows_figure ofPoint_addBreakage,
    addRows_figure ofPoint_addUsage, freshPoints_apply, if_pos hk]
  simp only [Option.map_some, h1, zero_add, Function.comp_apply, trendEntries, Tally.amount_append]

/-! ## The trend against the summary -/

theorem total_aggregateCashLotsByBucket (createdAt : ρ → Int) (cashNetCNY : ρ → ℚ)
    (rows : List ρ) :
    total (aggregateCashLotsByBucket zone period createdAt cashNetCNY rows) =
      (rows.map cashNetCNY).sum := by
  have h : ∀ (t : List (String × ℚ)) (row : ρ),
      total (add (profitBucketKey zone period (createdAt row)) (cashNetCNY row) t) =
        total t + cashNetCNY row := fun t row => Tally.total_add ..
  unfold aggregateCashLotsByBucket
  rw [foldl_figure h]
  exact zero_add _

theorem forall_key_aggregateCashLotsByBucket {createdAt : ρ → Int} {cashNetCNY : ρ → ℚ}
    {rows : List ρ} {P : String → Prop}
    (h : ∀ r ∈ rows, P (profitBucketKey zone period (createdAt r))) :
    ∀ e ∈ aggregateCashLotsByBucket zone period createdAt cashNetCNY rows, P e.1 := by
  have hloop : ∀ t : List (String × ℚ), (∀ e ∈ t, P e.1) →
      ∀ e ∈ rows.foldl (fun result row =>
        add (profitBucketKey zone period (createdAt row)) (cashNetCNY row) result) t,
        P e.1 := by
    induction rows with
    | nil => exact fun _ ht => ht
    | cons r rows ih =>
      rw [forall_mem_cons] at h
      intro t ht
      exact ih h.2 _ (Tally.forall_key_add h.1 ht)
  exact hloop [] nofun

theorem total_ofCash (t : List (String × ℚ)) :
    total (t.map fun entry => (entry.1, c.ofCash entry.2)) = c.ofCash (total t) := by
  induction t with
  | nil => cases c <;> rfl
  | cons e t ih =>
    rw [map_cons, total_cons, ih, total_cons]
    cases c <;> simp [ofCash]

theorem total_trendEntries (outstanding : ℚ) :
    total (trendEntries c zone period usageRows financeRows breakageRows walletTrend subTrend) =
      c.ofSummary (profitSummary usageRows financeRows breakageRows outstanding
        (total walletTrend) (total subTrend)) := by
  rw [ofSummary_profitSummary]
  unfold trendEntries
  rw [total_append, total_append, total_append, total_append, total_ofCash, total_ofCash]
  simp [total, Function.comp_def]

end Trend

/-! ## Keys -/

section Keys

variable {zone now current : Int} {n fuel : Nat}

theorem digitChar_inj {a b : Nat} (ha : a < 10) (hb : b < 10)
    (h : Nat.digitChar a = Nat.digitChar b) : a = b := by
  have hnat := congrArg Char.toNat h
  rw [Nat.toNat_digitChar_of_lt_ten ha, Nat.toNat_digitChar_of_lt_ten hb] at hnat
  omega

theorem eq_of_digits {m : Nat} (hn : n < 100) (hm : m < 100)
    (h : Nat.digitChar (n / 10) = Nat.digitChar (m / 10))
    (hon : Nat.digitChar (n % 10) = Nat.digitChar (m % 10)) : n = m := by
  have h1 := digitChar_inj (by omega) (by omega) h
  have h2 := digitChar_inj (by omega) (by omega) hon
  omega

theorem hourKey_inj {h h' : Nat} (hh : h < 100) (hh' : h' < 100) (heq : hourKey h = hourKey h') :
    h = h' := by
  have hl := congrArg String.toList heq
  simp only [hourKey, twoDigits, String.toList_append, String.toList_ofList] at hl
  simp only [cons_append, List.cons.injEq] at hl
  exact eq_of_digits hh hh' hl.1 hl.2.1

theorem dateKey_inj {n n' : Int} (h : dateKey n = dateKey n') (hlt : n < n' + 365)
    (hgt : n' < n + 365) : n = n' := by
  have hl := congrArg String.toList h
  have h : "-".toList = ['-'] := rfl
  simp only [dateKey, twoDigits, String.toList_append, String.toList_ofList, h,
    cons_append, nil_append, List.cons.injEq, true_and, and_true] at hl
  obtain ⟨hm1, hm2, hd1, hd2⟩ := hl
  exact eq_of_month_eq (eq_of_digits (month_lt n) (month_lt n') hm1 hm2)
    (eq_of_digits (dayOfMonth_lt n) (dayOfMonth_lt n') hd1 hd2) hlt hgt

theorem dateKeys_fuel (h : now < current + fuel * day)
    (more : Nat) : dateKeys zone now (fuel + more) current = dateKeys zone now fuel current := by
  induction fuel generalizing current with
  | zero =>
    have hlt : now < current := by omega
    cases more with
    | zero => rfl
    | succ more =>
      exact if_pos hlt
  | succ fuel ih =>
    rw [Nat.succ_add]
    unfold dateKeys
    split
    · rfl
    · rw [ih (by push_cast at h; linarith)]

theorem buildProfitBucketKeys_fuel (hday : period ≠ "day") (start : Int)
    (more : Nat) :
    buildProfitBucketKeys zone period start now =
      dateKeys zone now (((now - start) / day + 1).toNat + more) start := by
  unfold buildProfitBucketKeys
  rw [if_neg hday, dateKeys_fuel]
  unfold day
  omega

theorem dateKeys_eq (h : current + fuel * day ≤ now + day) :
    dateKeys zone now fuel current =
      (List.range fuel).map fun i : Nat => dateKey (localDay zone current + i) := by
  induction fuel generalizing current with
  | zero => rfl
  | succ fuel ih =>
    have hnow : ¬ now < current := by
      unfold day at h
      omega
    have hrest : current + day + fuel * day ≤ now + day := by
      push_cast at h
      linarith
    have hday : localDay zone (current + day) = localDay zone current + 1 := by
      unfold localDay day
      omega
    rw [range_succ_eq_map, map_cons, map_map]
    unfold dateKeys
    rw [if_neg hnow, ih hrest, hday]
    congr 1
    · rw [Int.natCast_zero, add_zero]
    · apply map_congr_left
      intro i _
      show dateKey _ = dateKey _
      rw [Int.natCast_succ, add_assoc, add_comm (1 : Int)]

theorem hourKeys_nodup : ((List.range 24).map hourKey).Nodup := by
  refine Nodup.map_on ?_ nodup_range
  intro h hh h' hh' heq
  rw [mem_range] at hh hh'
  exact hourKey_inj (by omega) (by omega) heq

theorem dateKeys_nodup (first : Int) (hn : n ≤ 365) :
    ((List.range n).map fun i : Nat => dateKey (first + i)).Nodup := by
  refine Nodup.map_on ?_ nodup_range
  intro i hi j hj heq
  rw [mem_range] at hi hj
  have := dateKey_inj heq (by omega) (by omega)
  omega

theorem dateKey_mem {first m : Int} (hge : first ≤ m) (hlt : m < first + 365)
    (hn : n ≤ 365) :
    dateKey m ∈ (List.range n).map (fun i : Nat => dateKey (first + i)) ↔ m < first + n := by
  rw [mem_map]
  constructor
  · rintro ⟨i, hi, heq⟩
    rw [mem_range] at hi
    have := dateKey_inj heq (by omega) (by omega)
    omega
  · intro h
    refine ⟨(m - first).toNat, ?_, ?_⟩
    · rw [mem_range]
      omega
    · congr 1
      omega

end Keys

/-! ## The report -/

def profitOverview (zone : Int) (period : String) (now : Int) (db : Database) : ProfitOverview :=
  let startTs := profitPeriodStart zone period now
  { period
    summary := profitSummary (db.usageSince startTs) (db.financeSince startTs)
      (db.breakageSince startTs) (db.outstandingWallet + db.outstandingSubscription)
      (sumWalletCashInflowSince startTs db) (sumSubscriptionCashInflowSince startTs db)
    trend := buildProfitTrend zone period startTs now (db.usageSince startTs)
      (db.financeSince startTs) (db.breakageSince startTs)
      (aggregateCashLotsByBucket zone period (·.createdAt) (·.cashNetCNY)
        (db.walletLotsSince startTs))
      (aggregateCashLotsByBucket zone period (·.createdAt) (·.cashNetCNY)
        (db.subscriptionLotsSince startTs)) }

theorem getProfitOverview_nil (zone : Int) (period : String) (now : Int) (db : Database) :
    getProfitOverview zone period now [] db = .ok (profitOverview zone period now db) := rfl

def reportEntries (c : TrendComponent) (zone : Int) (period : String) (startTs : Int)
    (db : Database) : List (String × ℚ) :=
  trendEntries c zone period (db.usageSince startTs) (db.financeSince startTs)
    (db.breakageSince startTs)
    (aggregateCashLotsByBucket zone period (·.createdAt) (·.cashNetCNY)
      (db.walletLotsSince startTs))
    (aggregateCashLotsByBucket zone period (·.createdAt) (·.cashNetCNY)
      (db.subscriptionLotsSince startTs))

theorem ofSummary_profitOverview (zone : Int) (now : Int) (db : Database) :
    c.ofSummary (profitOverview zone period now db).summary =
      total (reportEntries c zone period (profitPeriodStart zone period now) db) := by
  unfold reportEntries
  rw [total_trendEntries (db.outstandingWallet + db.outstandingSubscription),
    total_aggregateCashLotsByBucket, total_aggregateCashLotsByBucket]
  rfl

theorem sum_ofPoint_profitOverview (zone : Int) (now : Int) (db : Database) :
    ((profitOverview zone period now db).trend.map c.ofPoint).sum =
      ((buildProfitBucketKeys zone period (profitPeriodStart zone period now) now).map fun k =>
        amount k
          (reportEntries c zone period (profitPeriodStart zone period now) db)).sum :=
  sum_ofPoint_buildProfitTrend

end Xingkong
