import Xingkong.Lib.Civil
import Xingkong.Lib.Tally
import Xingkong.Model.Profit

/-!
# The profit report

`GetProfitOverview` adds up the settlements, ledgers and lots since the start of a period and
splits them over a trend of hours or days. The server's clock is `zone` seconds ahead of UTC. The
start of a week or a month is cut to a day of UTC; the start of any other period, the rows of the
trend and their keys go by the server's clock.

The rows follow `model/profit.go`; amounts are exact.
-/

namespace Xingkong

open Rdb

/-! ## Periods and keys -/

def profitPeriodStart (zone : Int) (period : String) (now : Int) : Int :=
  if period = "month" then Civil.truncateDay (now - 29 * Civil.day)
  else if period = "week" then Civil.truncateDay (now - 6 * Civil.day)
  else Civil.localMidnight zone now

def twoDigits (n : Nat) : String := String.ofList [Nat.digitChar (n / 10), Nat.digitChar (n % 10)]

def hourKey (hour : Nat) : String := twoDigits hour ++ ":00"

/-- The layout `01-02` of the day with this number. -/
def dateKey (day : Int) : String :=
  twoDigits (Civil.month day) ++ "-" ++ twoDigits (Civil.dayOfMonth day)

/-- The keys of the days from `current` on, at most `fuel` of them. -/
def dateKeys (zone now : Int) : Nat → Int → List String
  | 0, _ => []
  | fuel + 1, current =>
    if now < current then []
    else dateKey (Civil.localDay zone current) :: dateKeys zone now fuel (current + Civil.day)

def buildProfitBucketKeys (zone : Int) (period : String) (start now : Int) : List String :=
  if period = "day" then (List.range 24).map hourKey
  else dateKeys zone now ((now - start) / Civil.day + 1).toNat start

def profitBucketKey (zone : Int) (period : String) (ts : Int) : String :=
  if period = "day" then hourKey (Civil.hour zone ts) else dateKey (Civil.localDay zone ts)

/-! ## The summary -/

structure ProfitSummarySnapshot where
  operatingProfitCNY : ℚ := 0
  grossProfitCNY : ℚ := 0
  cashFlowCNY : ℚ := 0
  outstandingCNY : ℚ := 0
  revenueCNY : ℚ := 0
  upstreamCostCNY : ℚ := 0
  breakageCNY : ℚ := 0
  financeCostCNY : ℚ := 0

def ProfitSummarySnapshot.addUsage (summary : ProfitSummarySnapshot) (row : UsageSettlement) :
    ProfitSummarySnapshot :=
  { summary with
    revenueCNY := summary.revenueCNY + row.realizedRevenueCNY
    upstreamCostCNY := summary.upstreamCostCNY + row.upstreamCostCNY
    grossProfitCNY := summary.grossProfitCNY + row.requestGrossProfitCNY
    cashFlowCNY := summary.cashFlowCNY - row.upstreamCostCNY }

def ProfitSummarySnapshot.addBreakage (summary : ProfitSummarySnapshot) (row : BreakageSettlement) :
    ProfitSummarySnapshot :=
  { summary with breakageCNY := summary.breakageCNY + row.amountCNY }

/-- Only what is paid out is a cost; all of it moves cash. -/
def ProfitSummarySnapshot.addFinance (summary : ProfitSummarySnapshot) (row : FinanceLedger) :
    ProfitSummarySnapshot :=
  { summary with
    financeCostCNY :=
      if row.amountCNY < 0 then summary.financeCostCNY + -row.amountCNY else summary.financeCostCNY
    cashFlowCNY := summary.cashFlowCNY + row.amountCNY }

/-- The loops of `GetProfitOverview`, and the inflows of the two kinds of lots. -/
def profitSummary (usageRows : List UsageSettlement) (financeRows : List FinanceLedger)
    (breakageRows : List BreakageSettlement) (outstanding walletInflow subscriptionInflow : ℚ) :
    ProfitSummarySnapshot :=
  let summary : ProfitSummarySnapshot := { outstandingCNY := outstanding }
  let summary := usageRows.foldl ProfitSummarySnapshot.addUsage summary
  let summary := breakageRows.foldl ProfitSummarySnapshot.addBreakage summary
  let summary := financeRows.foldl ProfitSummarySnapshot.addFinance summary
  { summary with
    cashFlowCNY := summary.cashFlowCNY + walletInflow + subscriptionInflow
    operatingProfitCNY := summary.grossProfitCNY + summary.breakageCNY - summary.financeCostCNY }

/-! ## The trend -/

structure ProfitTrendPoint where
  time : String
  operatingProfit : ℚ := 0
  grossProfit : ℚ := 0
  cashFlow : ℚ := 0
  revenue : ℚ := 0
  upstreamCost : ℚ := 0
  breakage : ℚ := 0
  financeCost : ℚ := 0

namespace ProfitTrendPoint

def addUsage (row : UsageSettlement) (point : ProfitTrendPoint) : ProfitTrendPoint :=
  { point with
    revenue := point.revenue + row.realizedRevenueCNY
    upstreamCost := point.upstreamCost + row.upstreamCostCNY
    grossProfit := point.grossProfit + row.requestGrossProfitCNY
    cashFlow := point.cashFlow - row.upstreamCostCNY }

def addBreakage (row : BreakageSettlement) (point : ProfitTrendPoint) : ProfitTrendPoint :=
  { point with breakage := point.breakage + row.amountCNY }

def addFinance (row : FinanceLedger) (point : ProfitTrendPoint) : ProfitTrendPoint :=
  { point with
    financeCost :=
      if row.amountCNY < 0 then point.financeCost + -row.amountCNY else point.financeCost
    cashFlow := point.cashFlow + row.amountCNY }

def addCash (entry : String × ℚ) (point : ProfitTrendPoint) : ProfitTrendPoint :=
  { point with cashFlow := point.cashFlow + entry.2 }

def finished (point : ProfitTrendPoint) : ProfitTrendPoint :=
  { point with operatingProfit := point.grossProfit + point.breakage - point.financeCost }

end ProfitTrendPoint

abbrev TrendPoints := String → Option ProfitTrendPoint

/-- A key without a point is passed over. -/
def addToPoint (points : TrendPoints) (key : String) (f : ProfitTrendPoint → ProfitTrendPoint) :
    TrendPoints :=
  match points key with
  | some point => Function.update points key (some (f point))
  | none => points

def addRows {ρ : Type} (key : ρ → String) (f : ρ → ProfitTrendPoint → ProfitTrendPoint)
    (rows : List ρ) (points : TrendPoints) : TrendPoints :=
  rows.foldl (fun points row => addToPoint points (key row) (f row)) points

def freshPoints (keys : List String) : TrendPoints :=
  keys.foldl (fun points key => Function.update points key (some { time := key })) fun _ => none

def aggregateCashLotsByBucket {ρ : Type} (zone : Int) (period : String) (createdAt : ρ → Int)
    (cashNetCNY : ρ → ℚ) (rows : List ρ) : List (String × ℚ) :=
  rows.foldl
    (fun result row =>
      Tally.add (profitBucketKey zone period (createdAt row)) (cashNetCNY row) result) []

def buildProfitTrend (zone : Int) (period : String) (start now : Int)
    (usageRows : List UsageSettlement) (financeRows : List FinanceLedger)
    (breakageRows : List BreakageSettlement) (walletTrend subTrend : List (String × ℚ)) :
    List ProfitTrendPoint :=
  let keys := buildProfitBucketKeys zone period start now
  let points := freshPoints keys
  let points := addRows (fun row => profitBucketKey zone period row.createdAt) .addUsage
    usageRows points
  let points := addRows (fun row => profitBucketKey zone period row.createdAt) .addBreakage
    breakageRows points
  let points := addRows (fun row => profitBucketKey zone period row.createdAt) .addFinance
    financeRows points
  let points := addRows (·.1) .addCash walletTrend points
  let points := addRows (·.1) .addCash subTrend points
  keys.filterMap fun key => (points key).map ProfitTrendPoint.finished

/-! ## The queries -/

namespace Database

/-- `nonAdminUserIdsSubquery`: deleted users are not in it. -/
def nonAdmin (db : Database) (userId : Nat) : Bool :=
  (db.liveUser? userId).any fun u => u.role < roleAdminUser

def usageSince (startTs : Int) (db : Database) : List UsageSettlement :=
  db.usageSettlements.filter fun row => startTs ≤ row.createdAt

def financeSince (startTs : Int) (db : Database) : List FinanceLedger :=
  db.financeLedgers.filter fun row => startTs ≤ row.createdAt

def breakageSince (startTs : Int) (db : Database) : List BreakageSettlement :=
  db.breakageSettlements.filter fun row => startTs ≤ row.createdAt

def walletLotsSince (startTs : Int) (db : Database) : List WalletLot :=
  db.walletLots.filter fun row => startTs ≤ row.createdAt && db.nonAdmin row.userId

def subscriptionLotsSince (startTs : Int) (db : Database) : List SubscriptionLot :=
  db.subscriptionLots.filter fun row => startTs ≤ row.createdAt && db.nonAdmin row.userId

def outstandingWallet (db : Database) : ℚ :=
  ((db.walletLots.filter fun l => 0 < l.quotaRemaining && db.nonAdmin l.userId).map
    (·.grossCNYRemaining)).sum

def outstandingSubscription (db : Database) : ℚ :=
  ((db.subscriptionLots.filter fun l => 0 < l.remainingQuota && db.nonAdmin l.userId).map
    (·.grossCNYRemaining)).sum

end Database

def sumWalletCashInflowSince (startTs : Int) (db : Database) : ℚ :=
  ((db.walletLotsSince startTs).map (·.cashNetCNY)).sum

def sumSubscriptionCashInflowSince (startTs : Int) (db : Database) : ℚ :=
  ((db.subscriptionLotsSince startTs).map (·.cashNetCNY)).sum

structure ProfitOverview where
  period : String
  summary : ProfitSummarySnapshot
  trend : List ProfitTrendPoint

/-- The errors of the inflow and lot queries are dropped: they count as no rows. -/
def profitOverviewTx (zone : Int) (period : String) (now : Int) : DbTx ProfitOverview := do
  let startTs := profitPeriodStart zone period now
  let usageRows ← Tx.query (·.usageSince startTs)
  let financeRows ← Tx.query (·.financeSince startTs)
  let breakageRows ← Tx.query (·.breakageSince startTs)
  let outstandingWallet ← Tx.query (·.outstandingWallet)
  let outstandingSubscription ← Tx.query (·.outstandingSubscription)
  let walletInflow ← Tx.queryOr (sumWalletCashInflowSince startTs) 0
  let subscriptionInflow ← Tx.queryOr (sumSubscriptionCashInflowSince startTs) 0
  let walletRows ← Tx.queryOr (·.walletLotsSince startTs) []
  let subRows ← Tx.queryOr (·.subscriptionLotsSince startTs) []
  pure
    { period
      summary := profitSummary usageRows financeRows breakageRows
        (outstandingWallet + outstandingSubscription) walletInflow subscriptionInflow
      trend := buildProfitTrend zone period startTs now usageRows financeRows breakageRows
        (aggregateCashLotsByBucket zone period (·.createdAt) (·.cashNetCNY) walletRows)
        (aggregateCashLotsByBucket zone period (·.createdAt) (·.cashNetCNY) subRows) }

def getProfitOverview (zone : Int) (period : String) (now : Int) (faults : List Bool)
    (db : Database) : Except Err ProfitOverview :=
  ((profitOverviewTx zone period now).run ⟨db, faults⟩).map (·.1)

end Xingkong
