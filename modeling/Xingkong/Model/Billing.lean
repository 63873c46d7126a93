import Xingkong.Model.SubscriptionUsage

/-!
# Billing sessions

A request is paid from the user's wallet or from one of their subscriptions, and its token
is charged along. A session reserves quota before the request is sent, may reserve more while
it runs, and ends by settling what was really used or by giving everything back. Funding and
token are charged in separate steps, each of which may fail; a failed step is undone by a
compensating write, which may fail as well.

Follows `service/billing_session.go` and `service/funding_source.go`. Each call takes what the
outside world answers it: the clock, the token row of the cache, and which statements fail.
-/

namespace Xingkong

open Rdb

inductive BillingSource
  | wallet
  | subscription
  deriving DecidableEq, Repr

structure RelayInfo where
  userId : Nat
  tokenId : Nat
  tokenUnlimited : Bool
  isPlayground : Bool
  forcePreConsume : Bool
  requestId : String
  originModelName : String
  billingPreference : String
  userQuota : Int
  finalPreConsumedQuota : Int
  billingSource : Option BillingSource
  subscriptionId : Nat
  subscriptionPreConsumed : Int
  subscriptionPostDelta : Int
  subscriptionAmountTotal : Int
  subscriptionAmountUsedAfterPreConsume : Int
  deriving DecidableEq

structure SubscriptionFunding where
  requestId : String
  userId : Nat
  modelName : String
  amount : Int
  subscriptionId : Nat
  preConsumed : Int
  amountTotal : Int
  amountUsedAfter : Int
  deriving DecidableEq

inductive FundingSource
  | wallet (userId : Nat) (consumed : Int)
  | subscription (funding : SubscriptionFunding)
  deriving DecidableEq

structure BillingSession where
  relayInfo : RelayInfo
  funding : FundingSource
  preConsumedQuota : Int
  tokenConsumed : Int
  extraReserved : Int
  trusted : Bool
  fundingSettled : Bool
  settled : Bool
  refunded : Bool
  deriving DecidableEq

structure CallEnv where
  now : Int
  /-- `GetUserQuota`, which may be answered by the cache. -/
  userQuota : Except Err Int
  /-- `GetTokenByKey`, which may be answered by the cache. -/
  token : Except Err Token
  /-- `token_quota` of the request context. -/
  contextTokenQuota : Int
  fundingFaults : List Bool
  tokenFaults : List Bool
  rollbackFaults : List Bool

/-! ## Errors -/

inductive BillingErr
  | userQuotaInsufficient (userQuota : Int)
  | preConsumeInsufficient (userQuota preConsumedQuota : Int)
  | tokenQuotaFailed (err : Err)
  | subscriptionInsufficient (err : Err)
  | updateData (err : Err)
  | queryData (err : Err)
  deriving DecidableEq

inductive ErrorCode
  | insufficientUserQuota
  | preConsumeTokenQuotaFailed
  | updateDataError
  | queryDataError
  deriving DecidableEq

def BillingErr.getErrorCode : BillingErr → ErrorCode
  | userQuotaInsufficient _ => .insufficientUserQuota
  | preConsumeInsufficient _ _ => .insufficientUserQuota
  | tokenQuotaFailed _ => .preConsumeTokenQuotaFailed
  | subscriptionInsufficient _ => .insufficientUserQuota
  | updateData _ => .updateDataError
  | queryData _ => .queryDataError

def Err.text : Err → String
  | .db => "database error"
  | .recordNotFound => "record not found"
  | .paymentMethodMismatch => "payment method mismatch"
  | .topUpNotFound => "topup not found"
  | .topUpStatusInvalid => "topup status invalid"
  | .subscriptionOrderNotFound => "subscription order not found"
  | .subscriptionOrderStatusInvalid => "subscription order status invalid"
  | .redeemFailed => "redeem.failed"
  | .quotaInsufficient need => "subscription quota insufficient, need=" ++ toString need
  | .limitExceeded label => "subscription " ++ label ++ " limit exceeded"
  | .msg text => text

def fundingError (err : Err) : BillingErr :=
  if containsText err.text "no active subscription" ||
      containsText err.text "subscription quota insufficient" then .subscriptionInsufficient err
  else .updateData err

/-! ## Token -/

def tokenQuotaNotEnough (cfg : Config) (remain need : Int) : Err :=
  .msg ("token quota is not enough, token remain quota: " ++ cfg.formatQuota remain ++
    ", need quota: " ++ cfg.formatQuota need)

def preConsumeTokenQuota (cfg : Config) (env : CallEnv) (info : RelayInfo) (quota : Int)
    (db : Database) : Except Err Unit × Database :=
  if quota < 0 then (.error negativeQuota, db)
  else if info.isPlayground then (.ok (), db)
  else match env.token with
    | .error e => (.error e, db)
    | .ok token =>
      if !info.tokenUnlimited && token.remainQuota < quota then
        (.error (tokenQuotaNotEnough cfg token.remainQuota quota), db)
      else decreaseTokenQuota cfg info.tokenId quota env.tokenFaults db

/-! ## Funding sources -/

namespace FundingSource

def source : FundingSource → BillingSource
  | wallet _ _ => .wallet
  | subscription _ => .subscription

/-- The subscription ignores `amount`: it charges the amount it was built with. -/
def preConsume (cfg : Config) (env : CallEnv) (amount : Int) (db : Database) :
    FundingSource → Except Err FundingSource × Database
  | wallet userId consumed =>
    if amount ≤ 0 then (.ok (wallet userId consumed), db)
    else match decreaseUserQuota cfg userId amount false env.fundingFaults db with
      | (.ok _, db) => (.ok (wallet userId amount), db)
      | (.error e, db) => (.error e, db)
  | subscription f =>
    match preConsumeUserSubscription cfg env.now f.requestId f.userId f.modelName f.amount
        env.fundingFaults db with
    | (.ok res, db) =>
      (.ok (subscription { f with
        subscriptionId := res.userSubscriptionId, preConsumed := res.preConsumed
        amountTotal := res.amountTotal, amountUsedAfter := res.amountUsedAfter }), db)
    | (.error e, db) => (.error e, db)

def settle (cfg : Config) (env : CallEnv) (delta : Int) (db : Database) :
    FundingSource → Except Err Unit × Database
  | wallet userId _ =>
    if delta = 0 then (.ok (), db)
    else if 0 < delta then decreaseUserQuota cfg userId delta false env.fundingFaults db
    else increaseUserQuota env.now userId (-delta) env.fundingFaults db
  | subscription f =>
    if delta = 0 then (.ok (), db)
    else postConsumeUserSubscriptionDelta env.now f.subscriptionId delta env.fundingFaults db

end FundingSource

/-- Try a transaction until it succeeds, once per fault list. -/
def refundWithRetry (fn : List Bool → Database → Except Err Unit × Database) :
    List (List Bool) → Database → Except Err Unit × Database
  | [], db => (.ok (), db)
  | [faults], db => fn faults db
  | faults :: rest, db =>
    match fn faults db with
    | (.ok u, db) => (.ok u, db)
    | (.error _, db) => refundWithRetry fn rest db

/-- `first`, `second` and `third` are the statements that fail in the three attempts. -/
def FundingSource.refund (now : Int) (first second third : List Bool) (db : Database) :
    FundingSource → Except Err Unit × Database
  | .wallet userId consumed =>
    if consumed ≤ 0 then (.ok (), db) else increaseUserQuota now userId consumed first db
  | .subscription f =>
    if f.preConsumed ≤ 0 then (.ok (), db)
    else refundWithRetry (refundSubscriptionPreConsume now f.requestId) [first, second, third] db

/-! ## Sessions -/

namespace BillingSession

/-- `GetTrustQuota`. -/
def trustQuota (cfg : Config) : Int := intPart (10 * cfg.quotaPerUnit)

def shouldTrust (cfg : Config) (env : CallEnv) (s : BillingSession) : Bool :=
  !s.relayInfo.forcePreConsume && 0 < trustQuota cfg &&
    (s.relayInfo.tokenUnlimited || trustQuota cfg < env.contextTokenQuota) &&
    match s.funding.source with
    | .wallet => trustQuota cfg < s.relayInfo.userQuota
    | .subscription => false

def syncRelayInfo (s : BillingSession) : BillingSession :=
  let info := { s.relayInfo with
    finalPreConsumedQuota := s.preConsumedQuota, billingSource := some s.funding.source }
  match s.funding with
  | .subscription f =>
    { s with relayInfo := { info with
        subscriptionId := f.subscriptionId
        subscriptionPreConsumed := f.preConsumed + s.extraReserved
        subscriptionPostDelta := 0
        subscriptionAmountTotal := f.amountTotal
        subscriptionAmountUsedAfterPreConsume := f.amountUsedAfter + s.extraReserved } }
  | .wallet _ _ =>
    { s with relayInfo := { info with subscriptionId := 0, subscriptionPreConsumed := 0 } }

def rollbackToken (cfg : Config) (env : CallEnv) (s : BillingSession) (db : Database) :
    Except Err Unit × BillingSession × Database :=
  if 0 < s.tokenConsumed ∧ s.relayInfo.isPlayground = false then
    let r := increaseTokenQuota cfg s.relayInfo.tokenId s.tokenConsumed env.rollbackFaults db
    (r.1, { s with tokenConsumed := 0 }, r.2)
  else (.ok (), s, db)

def preConsumeToken (cfg : Config) (env : CallEnv) (effectiveQuota : Int) (s : BillingSession)
    (db : Database) : Except Err Unit × BillingSession × Database :=
  if 0 < effectiveQuota then
    match preConsumeTokenQuota cfg env s.relayInfo effectiveQuota db with
    | (.ok _, db) => (.ok (), { s with tokenConsumed := effectiveQuota }, db)
    | (.error e, db) => (.error e, s, db)
  else (.ok (), s, db)

def preConsumeBy (cfg : Config) (env : CallEnv) (effectiveQuota : Int) (s : BillingSession)
    (db : Database) : Except BillingErr Unit × BillingSession × Database :=
  match s.preConsumeToken cfg env effectiveQuota db with
  | (.error e, s, db) => (.error (.tokenQuotaFailed e), s, db)
  | (.ok _, s, db) =>
    match s.funding.preConsume cfg env effectiveQuota db with
    | (.error e, db) => (.error (fundingError e), (s.rollbackToken cfg env db).2)
    | (.ok funding, db) =>
      (.ok (), { s with funding, preConsumedQuota := effectiveQuota }.syncRelayInfo, db)

/-- A trusted user is not charged in advance. -/
def preConsume (cfg : Config) (env : CallEnv) (quota : Int) (s : BillingSession) (db : Database) :
    Except BillingErr Unit × BillingSession × Database :=
  if s.shouldTrust cfg env then { s with trusted := true }.preConsumeBy cfg env 0 db
  else s.preConsumeBy cfg env quota db

/-! ### Reserving more -/

def reserveFunding (cfg : Config) (env : CallEnv) (delta : Int) (s : BillingSession)
    (db : Database) : Except BillingErr Unit × BillingSession × Database :=
  match s.funding with
  | .wallet userId consumed =>
    match decreaseUserQuota cfg userId delta false env.fundingFaults db with
    | (.ok _, db) => (.ok (), { s with funding := .wallet userId (consumed + delta) }, db)
    | (.error e, db) => (.error (.updateData e), s, db)
  | .subscription f =>
    match postConsumeUserSubscriptionDelta env.now f.subscriptionId delta env.fundingFaults db with
    | (.ok _, db) => (.ok (), s, db)
    | (.error e, db) => (.error (.subscriptionInsufficient e), s, db)

def rollbackFundingReserve (env : CallEnv) (delta : Int) (s : BillingSession) (db : Database) :
    Except Err Unit × BillingSession × Database :=
  match s.funding with
  | .wallet userId consumed =>
    match increaseUserQuota env.now userId delta env.rollbackFaults db with
    | (.ok _, db) => (.ok (), { s with funding := .wallet userId (consumed - delta) }, db)
    | (.error e, db) => (.error e, s, db)
  | .subscription f =>
    match postConsumeUserSubscriptionDelta env.now f.subscriptionId (-delta) env.rollbackFaults
        db with
    | (.ok _, db) => (.ok (), s, db)
    | (.error e, db) => (.error e, s, db)

def reserveToken (cfg : Config) (env : CallEnv) (delta : Int) (s : BillingSession)
    (db : Database) : Except Err Unit × Database :=
  if delta ≤ 0 ∨ s.relayInfo.isPlayground = true then (.ok (), db)
  else preConsumeTokenQuota cfg env s.relayInfo delta db

/-- Reserve `delta` more: first the funding source, then the token. -/
def reserveBy (cfg : Config) (env : CallEnv) (delta : Int) (s : BillingSession) (db : Database) :
    Except BillingErr Unit × BillingSession × Database :=
  match s.reserveFunding cfg env delta db with
  | (.error e, s, db) => (.error e, s, db)
  | (.ok _, s, db) =>
    match s.reserveToken cfg env delta db with
    | (.error e, db) =>
      (.error (.tokenQuotaFailed e), (s.rollbackFundingReserve env delta db).2)
    | (.ok _, db) =>
      (.ok (), { s with
        preConsumedQuota := s.preConsumedQuota + delta
        tokenConsumed := s.tokenConsumed + delta
        extraReserved := s.extraReserved + delta }.syncRelayInfo, db)

def reserve (cfg : Config) (env : CallEnv) (targetQuota : Int) (s : BillingSession)
    (db : Database) : Except BillingErr Unit × BillingSession × Database :=
  if s.settled || s.refunded || s.trusted || targetQuota ≤ s.preConsumedQuota then (.ok (), s, db)
  else s.reserveBy cfg env (targetQuota - s.preConsumedQuota) db

/-! ### Settling -/

/-- The funding step of `settle`, skipped when it was done before. -/
def settleFunding (cfg : Config) (env : CallEnv) (delta : Int) (s : BillingSession)
    (db : Database) : Except Err Unit × Database :=
  if s.fundingSettled then (.ok (), db) else s.funding.settle cfg env delta db

def settleToken (cfg : Config) (env : CallEnv) (delta : Int) (s : BillingSession)
    (db : Database) : Except Err Unit × Database :=
  if s.relayInfo.isPlayground then (.ok (), db)
  else if 0 < delta then decreaseTokenQuota cfg s.relayInfo.tokenId delta env.tokenFaults db
  else increaseTokenQuota cfg s.relayInfo.tokenId (-delta) env.tokenFaults db

/-- The session after both steps. The token's error is returned, but the session is settled. -/
def markSettled (delta : Int) (s : BillingSession) : BillingSession :=
  match s.funding with
  | .wallet _ _ => { s with fundingSettled := true, settled := true }
  | .subscription _ =>
    { s with
      fundingSettled := true, settled := true
      relayInfo := { s.relayInfo with
        subscriptionPostDelta := s.relayInfo.subscriptionPostDelta + delta } }

/-- Settle a difference: first the funding source, then the token. -/
def settleBy (cfg : Config) (env : CallEnv) (delta : Int) (s : BillingSession) (db : Database) :
    Except Err Unit × BillingSession × Database :=
  match s.settleFunding cfg env delta db with
  | (.error e, db) => (.error e, s, db)
  | (.ok _, db) =>
    match s.settleToken cfg env delta db with
    | (r, db) => (r, s.markSettled delta, db)

def settle (cfg : Config) (env : CallEnv) (actualQuota : Int) (s : BillingSession)
    (db : Database) : Except Err Unit × BillingSession × Database :=
  if s.settled then (.ok (), s, db)
  else if actualQuota - s.preConsumedQuota = 0 then (.ok (), { s with settled := true }, db)
  else s.settleBy cfg env (actualQuota - s.preConsumedQuota) db

/-! ### Refunding -/

def needsRefund (s : BillingSession) : Bool :=
  if s.settled || s.refunded || s.fundingSettled then false
  else if 0 < s.tokenConsumed then true
  else match s.funding with
    | .subscription f => 0 < f.preConsumed
    | .wallet _ _ => false

end BillingSession

/-- What `Refund` captures for the goroutine that gives the quota back. -/
structure RefundJob where
  tokenId : Nat
  isPlayground : Bool
  tokenConsumed : Int
  extraReserved : Int
  subscriptionId : Nat
  funding : FundingSource
  deriving DecidableEq

def BillingSession.refund (s : BillingSession) : BillingSession × Option RefundJob :=
  if s.settled || s.refunded || !s.needsRefund then (s, none)
  else ({ s with refunded := true }, some
    { tokenId := s.relayInfo.tokenId, isPlayground := s.relayInfo.isPlayground
      tokenConsumed := s.tokenConsumed, extraReserved := s.extraReserved
      subscriptionId := s.relayInfo.subscriptionId, funding := s.funding })

/-- What the world answers a refund goroutine; a subscription's refund is tried three times. -/
structure JobEnv where
  now : Int
  first : List Bool
  second : List Bool
  third : List Bool
  extraFaults : List Bool
  tokenFaults : List Bool

/-- How the operations of a refund goroutine ended. It logs the errors and goes on. -/
structure RefundReport where
  funding : Except Err Unit
  extra : Except Err Unit
  token : Except Err Unit

namespace RefundJob

def refundExtra (env : JobEnv) (job : RefundJob) (db : Database) : Except Err Unit × Database :=
  if 0 < job.extraReserved ∧ job.funding.source = .subscription ∧ job.subscriptionId ≠ 0 then
    postConsumeUserSubscriptionDelta env.now job.subscriptionId (-job.extraReserved)
      env.extraFaults db
  else (.ok (), db)

def refundToken (cfg : Config) (env : JobEnv) (job : RefundJob) (db : Database) :
    Except Err Unit × Database :=
  if 0 < job.tokenConsumed ∧ job.isPlayground = false then
    increaseTokenQuota cfg job.tokenId job.tokenConsumed env.tokenFaults db
  else (.ok (), db)

def run (cfg : Config) (env : JobEnv) (job : RefundJob) (db : Database) :
    RefundReport × Database :=
  let r1 := job.funding.refund env.now env.first env.second env.third db
  let r2 := job.refundExtra env r1.2
  let r3 := job.refundToken cfg env r2.2
  (⟨r1.1, r2.1, r3.1⟩, r3.2)

end RefundJob

/-! ## Opening a session -/

def BillingSession.new (relayInfo : RelayInfo) (funding : FundingSource) : BillingSession where
  relayInfo := relayInfo
  funding := funding
  preConsumedQuota := 0
  tokenConsumed := 0
  extraReserved := 0
  trusted := false
  fundingSettled := false
  settled := false
  refunded := false

def BillingSession.onWallet (info : RelayInfo) : BillingSession := .new info (.wallet info.userId 0)

/-- What a subscription is charged for a request that pre-consumes `quota`. -/
def subConsume (quota : Int) : Int := if quota ≤ 0 then 1 else quota

def BillingSession.onSubscription (info : RelayInfo) (quota : Int) : BillingSession :=
  .new info (.subscription
    { requestId := info.requestId, userId := info.userId, modelName := info.originModelName
      amount := subConsume quota, subscriptionId := 0, preConsumed := 0, amountTotal := 0
      amountUsedAfter := 0 })

abbrev Opened := Except (BillingErr × RelayInfo) BillingSession × Database

def BillingSession.openWith (cfg : Config) (env : CallEnv) (quota : Int) (s : BillingSession)
    (db : Database) : Opened :=
  match s.preConsume cfg env quota db with
  | (.ok _, s, db) => (.ok s, db)
  | (.error e, s, db) => (.error (e, s.relayInfo), db)

def tryWallet (cfg : Config) (env : CallEnv) (info : RelayInfo) (quota : Int) (db : Database) :
    Opened :=
  match env.userQuota with
  | .error e => (.error (.queryData e, info), db)
  | .ok userQuota =>
    if userQuota ≤ 0 then (.error (.userQuotaInsufficient userQuota, info), db)
    else if userQuota - quota < 0 then (.error (.preConsumeInsufficient userQuota quota, info), db)
    else (BillingSession.onWallet { info with userQuota }).openWith cfg env quota db

def trySubscription (cfg : Config) (env : CallEnv) (info : RelayInfo) (quota : Int)
    (db : Database) : Opened :=
  (BillingSession.onSubscription info quota).openWith cfg env (subConsume quota) db

inductive BillingPreference
  | subscriptionFirst
  | walletFirst
  | subscriptionOnly
  | walletOnly
  deriving DecidableEq

def normalizeBillingPreference (pref : String) : BillingPreference :=
  match trimSpace pref with
  | "wallet_first" => .walletFirst
  | "subscription_only" => .subscriptionOnly
  | "wallet_only" => .walletOnly
  | _ => .subscriptionFirst

/-- `countFails` fails the one query. -/
def hasActiveUserSubscription (now : Int) (userId : Nat) (countFails : Bool) (db : Database) :
    Except Err Bool :=
  if userId = 0 then .error (.msg "invalid userId")
  else if countFails then .error .db
  else .ok (activeSubscriptions db userId now ≠ [])

/-- Try the second source when the first has too little quota. -/
def orElseInsufficient (opened : Opened) (next : RelayInfo → Database → Opened) : Opened :=
  match opened with
  | (.ok s, db) => (.ok s, db)
  | (.error (e, info), db) =>
    if e.getErrorCode = .insufficientUserQuota then next info db else (.error (e, info), db)

/-- `wallet` and `sub` are what the world answers the attempt on each source. -/
def newBillingSession (cfg : Config) (wallet sub : CallEnv) (countFails : Bool) (info : RelayInfo)
    (quota : Int) (db : Database) : Opened :=
  match normalizeBillingPreference info.billingPreference with
  | .subscriptionOnly => trySubscription cfg sub info quota db
  | .walletOnly => tryWallet cfg wallet info quota db
  | .walletFirst =>
    orElseInsufficient (tryWallet cfg wallet info quota db) (trySubscription cfg sub · quota ·)
  | .subscriptionFirst =>
    match hasActiveUserSubscription sub.now info.userId countFails db with
    | .error e => (.error (.queryData e, info), db)
    | .ok false => tryWallet cfg wallet info quota db
    | .ok true =>
      orElseInsufficient (trySubscription cfg sub info quota db) (tryWallet cfg wallet · quota ·)

end Xingkong
