import Xingkong.Lib.Rounding

/-!
# Charging for text: ratio billing and tiered expressions

An upstream reports what a request used in one of two styles. In the OpenAI style the
prompt tokens include the cached ones and those written to the cache; in the Anthropic
style they are text only. `service/text_quota.go` turns a report into a quota with the
model's ratios, and `service/tiered_settle.go` turns it into the variables of a billing
expression.

Decimals and floats are exact rationals. `decimal.Div` keeps sixteen digits (`div`).
Prices that come from the operation settings are the functions of `PriceSettings`.
-/

namespace Xingkong

open Rounding

/-! ## What an upstream reports -/

structure InputTokenDetails where
  cachedTokens : Int
  cachedCreationTokens : Int
  audioTokens : Int
  imageTokens : Int
  deriving DecidableEq

structure OutputTokenDetails where
  audioTokens : Int
  imageTokens : Int
  deriving DecidableEq

structure Usage where
  promptTokens : Int
  completionTokens : Int
  usageSemantic : String
  usageSource : String
  promptTokensDetails : InputTokenDetails
  completionTokenDetails : OutputTokenDetails
  claudeCacheCreation5mTokens : Int
  claudeCacheCreation1hTokens : Int
  /-- OpenRouter's cost, when it is a number. -/
  cost : Option ℚ
  deriving DecidableEq

/-! ## Prices and the request -/

/-- Look-ups in the operation and ratio settings. -/
structure PriceSettings where
  quotaPerUnit : ℚ
  getToolPriceForModel : String → String → ℚ
  getToolPrice : String → ℚ
  getGPTImage1PriceOnceCall : String → String → ℚ
  getGeminiInputAudioPricePerMillionTokens : String → ℚ
  getDefaultModelRatioMap : String → Option ℚ

def PriceSettings.modelRatioQuotaFactor (s : PriceSettings) : ℚ := 2 * s.quotaPerUnit / 1000000

structure PriceData where
  modelPrice : ℚ
  modelRatio : ℚ
  completionRatio : ℚ
  cacheRatio : ℚ
  cacheCreationRatio : ℚ
  cacheCreation5mRatio : ℚ
  cacheCreation1hRatio : ℚ
  imageRatio : ℚ
  /-- The values of the map; they are only multiplied. -/
  otherRatios : List ℚ
  usePrice : Bool
  groupRatio : ℚ
  deriving DecidableEq

inductive RelayFormat where
  | openAI | claude | gemini | openAIResponses | openAIResponsesCompaction | openAIAudio
  | openAIImage | openAIRealtime | rerank | embedding | task | mjProxy
  deriving DecidableEq

def channelTypeOpenRouter : Nat := 20

/-- What a billing expression was frozen to before the request was sent. -/
structure BillingSnapshot where
  billingMode : String
  groupRatio : ℚ
  quotaPerUnit : ℚ
  estimatedTier : String
  estimatedQuotaAfterGroup : Int
  deriving DecidableEq

structure TextRelayInfo where
  originModelName : String
  priceData : PriceData
  /-- The channel's type; `none` when there is no channel meta. -/
  channelType : Option Nat
  /-- An empty format is `none`. -/
  finalRequestRelayFormat : Option RelayFormat
  requestConversionChain : List RelayFormat
  relayFormat : Option RelayFormat
  /-- Call counts of the built-in tools of a responses request. -/
  responsesUsageInfo : Option (List (String × Int))
  estimatePromptTokens : Int
  tieredBillingSnapshot : Option BillingSnapshot
  finalPreConsumedQuota : Int
  deriving DecidableEq

structure TextContext where
  claudeWebSearchRequests : Int
  imageGenerationCall : Bool
  imageGenerationCallQuality : String
  imageGenerationCallSize : String
  deriving DecidableEq

def TextRelayInfo.getFinalRequestRelayFormat (info : TextRelayInfo) : Option RelayFormat :=
  match info.finalRequestRelayFormat with
  | some format => some format
  | none =>
    match info.requestConversionChain.getLast? with
    | some format => some format
    | none => info.relayFormat

/-! ## The summary of a text request -/

structure TextQuotaSummary where
  promptTokens : Int
  completionTokens : Int
  totalTokens : Int
  cacheTokens : Int
  cacheCreationTokens : Int
  cacheCreationTokens5m : Int
  cacheCreationTokens1h : Int
  imageTokens : Int
  audioTokens : Int
  modelName : String
  completionRatio : ℚ
  cacheRatio : ℚ
  imageRatio : ℚ
  modelRatio : ℚ
  groupRatio : ℚ
  modelPrice : ℚ
  cacheCreationRatio : ℚ
  cacheCreationRatio5m : ℚ
  cacheCreationRatio1h : ℚ
  quota : Int
  isClaudeUsageSemantic : Bool
  usageSemantic : String
  webSearchPrice : ℚ
  webSearchCallCount : Int
  claudeWebSearchPrice : ℚ
  claudeWebSearchCallCount : Int
  fileSearchPrice : ℚ
  fileSearchCallCount : Int
  audioInputPrice : ℚ
  imageGenerationCallPrice : ℚ
  toolCallSurchargeQuota : ℚ
  deriving DecidableEq

def isLegacyClaudeDerivedOpenAIUsage (info : TextRelayInfo) (usage : Usage) : Bool :=
  if info.getFinalRequestRelayFormat = some .claude then false
  else if usage.usageSource ≠ "" ∨ usage.usageSemantic ≠ "" then false
  else 0 < usage.claudeCacheCreation5mTokens ∨ 0 < usage.claudeCacheCreation1hTokens

def usageSemanticFromUsage (info : TextRelayInfo) (usage : Option Usage) : String :=
  match usage with
  | some u =>
    if u.usageSemantic ≠ "" then u.usageSemantic
    else if info.getFinalRequestRelayFormat = some .claude then "anthropic" else "openai"
  | none => if info.getFinalRequestRelayFormat = some .claude then "anthropic" else "openai"

/-- `decimal.Div`: sixteen digits after the point, half away from zero. -/
def div (a b : ℚ) : ℚ := halfAway (a / b * 10 ^ 16) / 10 ^ 16

def TextRelayInfo.toolCalls (info : TextRelayInfo) (tool : String) : Option Int :=
  match info.responsesUsageInfo with
  | some tools =>
    match tools.lookup tool with
    | some callCount => if 0 < callCount then some callCount else none
    | none => none
  | none => none

/-- The part for OpenAI web searches: counted calls of a responses request, or one call of
a search model. -/
def addWebSearch (s : PriceSettings) (info : TextRelayInfo) (summary : TextQuotaSummary) :
    TextQuotaSummary × ℚ :=
  let price := s.getToolPriceForModel "web_search_preview" summary.modelName
  match info.responsesUsageInfo with
  | some _ =>
    match info.toolCalls "web_search_preview" with
    | some callCount =>
      ({ summary with webSearchCallCount := callCount, webSearchPrice := price },
        div (price * callCount) 1000 * summary.groupRatio * s.quotaPerUnit)
    | none => (summary, 0)
  | none =>
    if summary.modelName.endsWith "search-preview" then
      ({ summary with webSearchCallCount := 1, webSearchPrice := price },
        div price 1000 * summary.groupRatio * s.quotaPerUnit)
    else (summary, 0)

def addClaudeWebSearch (s : PriceSettings) (ctx : TextContext) (summary : TextQuotaSummary) :
    TextQuotaSummary × ℚ :=
  let summary := { summary with claudeWebSearchCallCount := ctx.claudeWebSearchRequests }
  if 0 < summary.claudeWebSearchCallCount then
    let price := s.getToolPrice "web_search"
    ({ summary with claudeWebSearchPrice := price },
      div price 1000 * summary.groupRatio * s.quotaPerUnit * summary.claudeWebSearchCallCount)
  else (summary, 0)

def addFileSearch (s : PriceSettings) (info : TextRelayInfo) (summary : TextQuotaSummary) :
    TextQuotaSummary × ℚ :=
  match info.toolCalls "file_search" with
  | some callCount =>
    let price := s.getToolPrice "file_search"
    ({ summary with fileSearchCallCount := callCount, fileSearchPrice := price },
      div (price * callCount) 1000 * summary.groupRatio * s.quotaPerUnit)
  | none => (summary, 0)

def addImageGeneration (s : PriceSettings) (ctx : TextContext) (summary : TextQuotaSummary) :
    TextQuotaSummary × ℚ :=
  if ctx.imageGenerationCall then
    let price :=
      s.getGPTImage1PriceOnceCall ctx.imageGenerationCallQuality ctx.imageGenerationCallSize
    ({ summary with imageGenerationCallPrice := price },
      price * summary.groupRatio * s.quotaPerUnit)
  else (summary, 0)

/-- The summary with the tools' counts and prices filled in, and what the tools cost. -/
def calculateTextToolCallSurcharge (s : PriceSettings) (ctx : TextContext)
    (info : TextRelayInfo) (summary : TextQuotaSummary) : TextQuotaSummary × ℚ :=
  let (summary, webSearch) := addWebSearch s info summary
  let (summary, claudeWebSearch) := addClaudeWebSearch s ctx summary
  let (summary, fileSearch) := addFileSearch s info summary
  let (summary, imageGeneration) := addImageGeneration s ctx summary
  (summary, webSearch + claudeWebSearch + fileSearch + imageGeneration)

def hasCustomModelRatio (s : PriceSettings) (modelName : String) (currentRatio : ℚ) : Bool :=
  match s.getDefaultModelRatioMap modelName with
  | none => true
  | some defaultRatio => currentRatio ≠ defaultRatio

/-- How many tokens were written to the cache, worked out from OpenRouter's cost. With a
model ratio of 0 the source divides by 0 and gets no number; the 0 of this definition
then changes nothing for its only caller, and neither does what the source gets. -/
def calcOpenRouterCacheCreateTokens (usage : Usage) (priceData : PriceData) : Int :=
  if priceData.cacheCreationRatio = 1 then 0
  else
    let promptPricePerTokenUSD := priceData.modelRatio * 2 / 1000000
    let promptCacheCreatePrice := promptPricePerTokenUSD * priceData.cacheCreationRatio
    let promptCacheReadPrice := promptPricePerTokenUSD * priceData.cacheRatio
    let completionPrice := promptPricePerTokenUSD * priceData.completionRatio
    halfAway ((usage.cost.getD 0 -
        usage.promptTokens * promptPricePerTokenUSD +
        usage.promptTokensDetails.cachedTokens *
          (promptPricePerTokenUSD - promptCacheReadPrice) -
        usage.completionTokens * completionPrice) /
      (promptCacheCreatePrice - promptPricePerTokenUSD))

/-- The ratios of the request and the style of the report; the tokens come later. -/
def newTextQuotaSummary (info : TextRelayInfo) (usage : Option Usage) : TextQuotaSummary :=
  let semantic := usageSemanticFromUsage info usage
  { promptTokens := 0, completionTokens := 0, totalTokens := 0, cacheTokens := 0
    cacheCreationTokens := 0, cacheCreationTokens5m := 0, cacheCreationTokens1h := 0
    imageTokens := 0, audioTokens := 0
    modelName := info.originModelName
    completionRatio := info.priceData.completionRatio
    cacheRatio := info.priceData.cacheRatio
    imageRatio := info.priceData.imageRatio
    modelRatio := info.priceData.modelRatio
    groupRatio := info.priceData.groupRatio
    modelPrice := info.priceData.modelPrice
    cacheCreationRatio := info.priceData.cacheCreationRatio
    cacheCreationRatio5m := info.priceData.cacheCreation5mRatio
    cacheCreationRatio1h := info.priceData.cacheCreation1hRatio
    quota := 0
    isClaudeUsageSemantic := semantic = "anthropic"
    usageSemantic := semantic
    webSearchPrice := 0, webSearchCallCount := 0
    claudeWebSearchPrice := 0, claudeWebSearchCallCount := 0
    fileSearchPrice := 0, fileSearchCallCount := 0
    audioInputPrice := 0, imageGenerationCallPrice := 0, toolCallSurchargeQuota := 0 }

/-- Without a report the estimate of the prompt stands in for it. -/
def estimatedUsage (info : TextRelayInfo) : Usage :=
  { promptTokens := info.estimatePromptTokens, completionTokens := 0
    usageSemantic := "", usageSource := ""
    promptTokensDetails := ⟨0, 0, 0, 0⟩, completionTokenDetails := ⟨0, 0⟩
    claudeCacheCreation5mTokens := 0, claudeCacheCreation1hTokens := 0, cost := none }

def TextQuotaSummary.withTokens (summary : TextQuotaSummary) (usage : Usage) :
    TextQuotaSummary :=
  { summary with
    promptTokens := usage.promptTokens
    completionTokens := usage.completionTokens
    totalTokens := usage.promptTokens + usage.completionTokens
    cacheTokens := usage.promptTokensDetails.cachedTokens
    cacheCreationTokens := usage.promptTokensDetails.cachedCreationTokens
    cacheCreationTokens5m := usage.claudeCacheCreation5mTokens
    cacheCreationTokens1h := usage.claudeCacheCreation1hTokens
    imageTokens := usage.promptTokensDetails.imageTokens
    audioTokens := usage.promptTokensDetails.audioTokens }

/-- OpenRouter counts cached tokens in the prompt also when it reports in the Anthropic
style. `usage.Cost != 0` compares an interface value with an `int`, which a decoded
number never equals, so that part of the source's test is always true. -/
def TextQuotaSummary.forOpenRouter (s : PriceSettings) (info : TextRelayInfo) (usage : Usage)
    (summary : TextQuotaSummary) : TextQuotaSummary :=
  let promptTokens := summary.promptTokens - summary.cacheTokens
  let isUsingCustomSettings := info.priceData.usePrice ||
    hasCustomModelRatio s summary.modelName info.priceData.modelRatio
  let cacheCreationTokens :=
    if summary.cacheCreationTokens = 0 ∧ info.priceData.cacheCreationRatio ≠ 1 ∧
        isUsingCustomSettings = false then
      let maybeCacheCreationTokens := calcOpenRouterCacheCreateTokens usage info.priceData
      if 0 ≤ maybeCacheCreationTokens ∧ maybeCacheCreationTokens ≤ promptTokens then
        maybeCacheCreationTokens
      else summary.cacheCreationTokens
    else summary.cacheCreationTokens
  { summary with
    promptTokens := promptTokens - cacheCreationTokens
    cacheCreationTokens := cacheCreationTokens }

def isOpenRouterClaudeBilling (info : TextRelayInfo) (summary : TextQuotaSummary) : Bool :=
  info.channelType = some channelTypeOpenRouter && summary.isClaudeUsageSemantic

/-- Cached tokens are counted in the prompt unless the report is in the Anthropic style or
was derived from one. -/
def promptIncludesCached (info : TextRelayInfo) (usage : Usage) (summary : TextQuotaSummary) :
    Bool :=
  !summary.isClaudeUsageSemantic && !isLegacyClaudeDerivedOpenAIUsage info usage

/-- Base tokens left after the cache reads, and the cache reads at their ratio. -/
def chargeCached (included : Bool) (summary : TextQuotaSummary) (baseTokens : ℚ) : ℚ × ℚ :=
  if summary.cacheTokens ≠ 0 then
    (if included then baseTokens - summary.cacheTokens else baseTokens,
      summary.cacheTokens * summary.cacheRatio)
  else (baseTokens, 0)

/-- The same for the cache writes. In the OpenAI style all of them have one ratio. -/
def chargeCacheCreation (included : Bool) (summary : TextQuotaSummary) (baseTokens : ℚ) :
    ℚ × ℚ :=
  if summary.cacheCreationTokens ≠ 0 ∨ 0 < summary.cacheCreationTokens5m ∨
      0 < summary.cacheCreationTokens1h then
    if included then
      (baseTokens - summary.cacheCreationTokens,
        summary.cacheCreationTokens * summary.cacheCreationRatio)
    else
      let remaining := summary.cacheCreationTokens - summary.cacheCreationTokens5m -
        summary.cacheCreationTokens1h
      (baseTokens,
        ((if remaining < 0 then 0 else remaining : Int) : ℚ) * summary.cacheCreationRatio +
          summary.cacheCreationTokens5m * summary.cacheCreationRatio5m +
          summary.cacheCreationTokens1h * summary.cacheCreationRatio1h)
  else (baseTokens, 0)

def chargeImages (summary : TextQuotaSummary) (baseTokens : ℚ) : ℚ × ℚ :=
  if summary.imageTokens ≠ 0 then
    (baseTokens - summary.imageTokens, summary.imageTokens * summary.imageRatio)
  else (baseTokens, 0)

/-- Audio input leaves the base tokens only when it has a price of its own. -/
def chargeAudio (s : PriceSettings) (summary : TextQuotaSummary) (baseTokens : ℚ) :
    TextQuotaSummary × ℚ × ℚ :=
  if summary.audioTokens ≠ 0 then
    let price := s.getGeminiInputAudioPricePerMillionTokens summary.modelName
    let summary := { summary with audioInputPrice := price }
    if 0 < price then
      (summary, baseTokens - summary.audioTokens,
        div price 1000000 * summary.audioTokens * summary.groupRatio * s.quotaPerUnit)
    else (summary, baseTokens, 0)
  else (summary, baseTokens, 0)

def applyOtherRatios (priceData : PriceData) (quota : ℚ) : ℚ :=
  priceData.otherRatios.foldl (· * ·) quota

/-- The quota of ratio billing, before the rules on empty usage. -/
def ratioQuota (s : PriceSettings) (info : TextRelayInfo) (usage : Usage)
    (summary : TextQuotaSummary) : TextQuotaSummary :=
  let ratio := summary.modelRatio * summary.groupRatio
  let included := promptIncludesCached info usage summary
  let (baseTokens, cachedTokensWithRatio) := chargeCached included summary summary.promptTokens
  let (baseTokens, cachedCreationTokensWithRatio) :=
    chargeCacheCreation included summary baseTokens
  let (baseTokens, imageTokensWithRatio) := chargeImages summary baseTokens
  let (summary, baseTokens, audioInputQuota) := chargeAudio s summary baseTokens
  let promptQuota :=
    baseTokens + cachedTokensWithRatio + imageTokensWithRatio + cachedCreationTokensWithRatio
  let completionQuota := summary.completionTokens * summary.completionRatio
  let quota := (promptQuota + completionQuota) * ratio * s.modelRatioQuotaFactor +
    summary.toolCallSurchargeQuota + audioInputQuota
  let quota := applyOtherRatios info.priceData quota
  let quota := if ratio ≠ 0 ∧ quota ≤ 0 then 1 else quota
  { summary with quota := halfAway quota }

/-- The quota of a model with a price per request. -/
def priceQuota (s : PriceSettings) (info : TextRelayInfo) (summary : TextQuotaSummary) :
    TextQuotaSummary :=
  let quota := summary.modelPrice * s.quotaPerUnit * summary.groupRatio +
    summary.toolCallSurchargeQuota
  { summary with quota := halfAway (applyOtherRatios info.priceData quota) }

/-- No tokens, no charge; otherwise at least 1 unless the model is free. -/
def TextQuotaSummary.finish (summary : TextQuotaSummary) : TextQuotaSummary :=
  if summary.totalTokens = 0 then { summary with quota := 0 }
  else if summary.modelRatio * summary.groupRatio ≠ 0 ∧ summary.quota = 0 then
    { summary with quota := 1 }
  else summary

def calculateTextQuotaSummary (s : PriceSettings) (ctx : TextContext) (info : TextRelayInfo)
    (usage : Option Usage) : TextQuotaSummary :=
  let summary := newTextQuotaSummary info usage
  let usage := usage.getD (estimatedUsage info)
  let summary := summary.withTokens usage
  let summary :=
    if isOpenRouterClaudeBilling info summary then summary.forOpenRouter s info usage
    else summary
  let (summary, surcharge) := calculateTextToolCallSurcharge s ctx info summary
  let summary := { summary with toolCallSurchargeQuota := surcharge }
  let summary :=
    if info.priceData.usePrice then priceQuota s info summary
    else ratioQuota s info usage summary
  summary.finish

/-! ## Tiered billing -/

structure TokenParams where
  p : ℚ
  c : ℚ
  len : ℚ
  cr : ℚ
  cc : ℚ
  cc1h : ℚ
  img : ℚ
  imgO : ℚ
  ai : ℚ
  ao : ℚ
  deriving DecidableEq

/-- What a name stands for while an expression runs, as far as tokens are concerned. -/
def TokenParams.env (params : TokenParams) (name : String) : Option ℚ :=
  if name = "p" then some params.p
  else if name = "c" then some params.c
  else if name = "len" then some params.len
  else if name = "cr" then some params.cr
  else if name = "cc" then some params.cc
  else if name = "cc1h" then some params.cc1h
  else if name = "img" then some params.img
  else if name = "img_o" then some params.imgO
  else if name = "ai" then some params.ai
  else if name = "ao" then some params.ao
  else none

def buildTieredTokenParams (usage : Usage) (isClaudeUsageSemantic : Bool)
    (usedVars : List String) : TokenParams :=
  let p : ℚ := usage.promptTokens
  let c : ℚ := usage.completionTokens
  let cr : ℚ := usage.promptTokensDetails.cachedTokens
  let cc5m : ℚ :=
    if usage.usageSemantic = "anthropic" then usage.claudeCacheCreation5mTokens
    else usage.promptTokensDetails.cachedCreationTokens
  let cc1h : ℚ :=
    if usage.usageSemantic = "anthropic" then usage.claudeCacheCreation1hTokens else 0
  let img : ℚ := usage.promptTokensDetails.imageTokens
  let ai : ℚ := usage.promptTokensDetails.audioTokens
  let imgO : ℚ := usage.completionTokenDetails.imageTokens
  let ao : ℚ := usage.completionTokenDetails.audioTokens
  let inputLen := if isClaudeUsageSemantic then p + cr + cc5m + cc1h else p
  -- what an expression prices by a variable of its own leaves `p` and `c`
  let priced (name : String) (tokens : ℚ) : ℚ := if name ∈ usedVars then tokens else 0
  let p :=
    if isClaudeUsageSemantic then p
    else p - priced "cr" cr - priced "cc" cc5m - priced "cc1h" cc1h - priced "img" img -
      priced "ai" ai
  let c := if isClaudeUsageSemantic then c else c - priced "img_o" imgO - priced "ao" ao
  { p := if p < 0 then 0 else p
    c := if c < 0 then 0 else c
    len := inputLen
    cr := cr, cc := cc5m, cc1h := cc1h, img := img, imgO := imgO, ai := ai, ao := ao }

/-- A compiled billing expression. The expression language is a library: all that is known
of it here is that a run depends on no token variable outside the names that occur in the
expression (`UsedVars`). A run ends with a cost and the tier it went through. -/
structure BillingExpr where
  usedVars : List String
  run : TokenParams → Option (ℚ × String)
  run_congr : ∀ a b : TokenParams, (∀ name ∈ usedVars, a.env name = b.env name) → run a = run b

structure TieredResult where
  actualQuotaBeforeGroup : ℚ
  actualQuotaAfterGroup : Int
  matchedTier : String
  crossedTier : Bool
  deriving DecidableEq

/-- Version 1: coefficients are dollars per million tokens. -/
def quotaConversion (exprOutput : ℚ) (snap : BillingSnapshot) : ℚ :=
  exprOutput / 1000000 * snap.quotaPerUnit

def computeTieredQuotaWithRequest (expr : BillingExpr) (snap : BillingSnapshot)
    (params : TokenParams) : Option TieredResult :=
  match expr.run params with
  | none => none
  | some (cost, tier) =>
    let quotaBeforeGroup := quotaConversion cost snap
    some
      { actualQuotaBeforeGroup := quotaBeforeGroup
        actualQuotaAfterGroup := halfAway (quotaBeforeGroup * snap.groupRatio)
        matchedTier := tier
        crossedTier := tier ≠ snap.estimatedTier }

/-- `none` when tiered billing does not apply; a failed run settles at the estimate. -/
def tryTieredSettle (expr : BillingExpr) (info : TextRelayInfo) (params : TokenParams) :
    Option (Int × Option TieredResult) :=
  match info.tieredBillingSnapshot with
  | none => none
  | some snap =>
    if snap.billingMode ≠ "tiered_expr" then none
    else
      match computeTieredQuotaWithRequest expr snap params with
      | none =>
        some (if info.finalPreConsumedQuota ≤ 0 then snap.estimatedQuotaAfterGroup
          else info.finalPreConsumedQuota, none)
      | some result => some (result.actualQuotaAfterGroup, some result)

def composeTieredTextQuota (info : TextRelayInfo) (summary : TextQuotaSummary)
    (tieredQuota : Int) (tieredResult : Option TieredResult) : Int :=
  if summary.toolCallSurchargeQuota = 0 then tieredQuota
  else
    match tieredResult, info.tieredBillingSnapshot with
    | some result, some snap =>
      halfAway (result.actualQuotaBeforeGroup * snap.groupRatio + summary.toolCallSurchargeQuota)
    | _, _ => tieredQuota + halfAway summary.toolCallSurchargeQuota

/-- The quota `PostTextConsumeQuota` settles: the ratio quota, or that of the expression
when there is a report. -/
def postTextConsumeQuota (s : PriceSettings) (ctx : TextContext) (expr : BillingExpr)
    (info : TextRelayInfo) (usage : Option Usage) : Int :=
  let summary := calculateTextQuotaSummary s ctx info usage
  match usage with
  | none => summary.quota
  | some u =>
    let usedVars := if info.tieredBillingSnapshot.isSome then expr.usedVars else []
    match tryTieredSettle expr info
        (buildTieredTokenParams u summary.isClaudeUsageSemantic usedVars) with
    | none => summary.quota
    | some (quota, result) => composeTieredTextQuota info summary quota result

end Xingkong
