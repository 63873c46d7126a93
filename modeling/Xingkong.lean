import Xingkong.System.CashFlow
import Xingkong.System.SubscriptionSessions
import Xingkong.System.RowCredits
import Xingkong.System.EpayNotify
import Xingkong.System.TaskFailures
import Xingkong.System.RollingLimits
import Xingkong.System.UserGroups
import Xingkong.System.WalletAdmission
import Xingkong.System.StaleRows
import Xingkong.System.BatchUpdates
import Xingkong.System.ProfitTrends
import Xingkong.System.PaymentFees
import Xingkong.System.UsageStyles
import Xingkong.System.ModelRateLimits
import Xingkong.System.RedisRateLimits
import Xingkong.System.SelectionDraws
import Xingkong.System.RetryBounds
import Xingkong.System.RequestRuleRoundTrip
import Xingkong.System.CombinedExprs
import Xingkong.System.UsageSettlements
import Xingkong.System.OverrideAtomicity
import Xingkong.System.MultiKeyStatus
import Xingkong.System.ModelMappings
import Xingkong.System.TwoFactor
import Xingkong.System.TokenBuckets
import Xingkong.System.UrlGuard
import Xingkong.System.SunoAnswers
import Xingkong.System.TaskRatios
import Xingkong.System.ManualTopUps
import Xingkong.System.LotSync
import Xingkong.System.ChunkRelays
import Xingkong.System.ClaudeStreams
import Xingkong.System.ThinkTags
import Xingkong.System.AgentEdits
import Xingkong.System.SundaySearch
