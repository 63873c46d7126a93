import Xingkong.Model.TextQuota

/-!
# One usage, two reports

`PhysicalUsage` is what a request used; `openAIReport` and `anthropicReport` are the two
ways an upstream may put it. The quota of either report is its weight, the tokens each
counted with a ratio, times the model and group ratio (`openAI_quota`,
`anthropic_quota`). The reports are charged alike at every group ratio exactly when the
weights agree and neither report counts as empty (`usage_styles_charged_alike_iff`).

Tiered billing reads the reports into the variables of an expression; the second half
says when it reads the same out of both, and how far a settlement is from its rounded parts.
-/

namespace Xingkong

open Rounding

structure PhysicalUsage where
  text : Nat
  cacheReads : Nat
  cacheWrites5m : Nat
  cacheWrites1h : Nat
  output : Nat
  /-- What OpenRouter says the request cost it. -/
  cost : Option ℚ
  deriving DecidableEq

namespace PhysicalUsage

def cacheWrites (u : PhysicalUsage) : Nat := u.cacheWrites5m + u.cacheWrites1h

/-- The parts of a report both styles share: only the prompt and the style differ. -/
def report (u : PhysicalUsage) (usageSemantic : String) (promptTokens : Nat) : Usage :=
  { promptTokens := promptTokens
    completionTokens := u.output
    usageSemantic := usageSemantic
    usageSource := ""
    promptTokensDetails := ⟨u.cacheReads, u.cacheWrites, 0, 0⟩
    completionTokenDetails := ⟨0, 0⟩
    claudeCacheCreation5mTokens := u.cacheWrites5m
    claudeCacheCreation1hTokens := u.cacheWrites1h
    cost := u.cost }

def openAIReport (u : PhysicalUsage) : Usage :=
  u.report "openai" (u.text + u.cacheReads + u.cacheWrites)

def anthropicReport (u : PhysicalUsage) : Usage := u.report "anthropic" u.text

end PhysicalUsage

/-- No tool is charged: no counted calls, no search model, no image generation. -/
structure NoTools (ctx : TextContext) (info : TextRelayInfo) : Prop where
  webSearch : info.toolCalls "web_search_preview" = none
  searchModel : info.responsesUsageInfo = none →
    info.originModelName.endsWith "search-preview" = false
  fileSearch : info.toolCalls "file_search" = none
  claudeWebSearch : ctx.claudeWebSearchRequests ≤ 0
  imageGeneration : ctx.imageGenerationCall = false

def TextRelayInfo.withGroupRatio (info : TextRelayInfo) (groupRatio : ℚ) : TextRelayInfo :=
  { info with priceData := { info.priceData with groupRatio := groupRatio } }

/-! ## What the ratio quota comes to -/

theorem applyOtherRatios_eq (priceData : PriceData) (quota : ℚ) :
    applyOtherRatios priceData quota = quota * priceData.otherRatios.prod := by
  unfold applyOtherRatios
  generalize priceData.otherRatios = ratios
  induction ratios generalizing quota with
  | nil => simp
  | cons r rs ih => rw [List.foldl_cons, ih, List.prod_cons, mul_assoc]

variable {ctx : TextContext} {info : TextRelayInfo}

theorem calculateTextToolCallSurcharge_of_noTools (h : NoTools ctx info) (s : PriceSettings)
    (summary : TextQuotaSummary) (h1 : summary.modelName = info.originModelName) :
    calculateTextToolCallSurcharge s ctx info summary =
      ({ summary with claudeWebSearchCallCount := ctx.claudeWebSearchRequests }, 0) := by
  have hweb : addWebSearch s info summary = (summary, 0) := by
    unfold addWebSearch
    cases hinfo : info.responsesUsageInfo with
    | some tools => simp only [h.webSearch]
    | none => simp [h1, h.searchModel hinfo]
  have hclaude : addClaudeWebSearch s ctx summary =
      ({ summary with claudeWebSearchCallCount := ctx.claudeWebSearchRequests }, 0) := by
    simp [addClaudeWebSearch, h.claudeWebSearch]
  have h1 : ∀ t, addFileSearch s info t = (t, 0) := by
    intro t
    simp [addFileSearch, h.fileSearch]
  have h2 : ∀ t, addImageGeneration s ctx t = (t, 0) := by
    intro t
    simp [addImageGeneration, h.imageGeneration]
  simp [calculateTextToolCallSurcharge, hweb, hclaude, h1, h2]

theorem chargeCached_eq (included : Bool) (summary : TextQuotaSummary) (baseTokens : ℚ) :
    chargeCached included summary baseTokens =
      (if included then baseTokens - summary.cacheTokens else baseTokens,
        summary.cacheTokens * summary.cacheRatio) := by
  unfold chargeCached
  by_cases h : summary.cacheTokens = 0
  · simp [h]
  · simp [h]

variable (summary : TextQuotaSummary) (s : PriceSettings)

theorem chargeCacheCreation_included (baseTokens : ℚ) :
    chargeCacheCreation true summary baseTokens =
      (baseTokens - summary.cacheCreationTokens,
        summary.cacheCreationTokens * summary.cacheCreationRatio) := by
  unfold chargeCacheCreation
  split
  · rfl
  · next hno =>
    have hz : summary.cacheCreationTokens = 0 := by omega
    simp [hz]

theorem chargeCacheCreation_excluded (baseTokens : ℚ) (h5m : 0 ≤ summary.cacheCreationTokens5m)
    (h1h : 0 ≤ summary.cacheCreationTokens1h) :
    chargeCacheCreation false summary baseTokens =
      (baseTokens, (max 0 (summary.cacheCreationTokens - summary.cacheCreationTokens5m -
            summary.cacheCreationTokens1h) : Int) * summary.cacheCreationRatio +
          summary.cacheCreationTokens5m * summary.cacheCreationRatio5m +
          summary.cacheCreationTokens1h * summary.cacheCreationRatio1h) := by
  unfold chargeCacheCreation
  split
  · simp only [Bool.false_eq_true, if_false, Prod.mk.injEq, true_and]
    congr 4
    omega
  · next hno =>
    have hz : summary.cacheCreationTokens = 0 := by omega
    have hz5 : summary.cacheCreationTokens5m = 0 := by omega
    have hz1 : summary.cacheCreationTokens1h = 0 := by omega
    simp [hz, hz5, hz1]

/-- The tokens of a summary, each counted with its ratio. -/
def TextQuotaSummary.weight (summary : TextQuotaSummary) (included : Bool) : ℚ :=
  let (baseTokens, cached) := chargeCached included summary summary.promptTokens
  let (baseTokens, cacheCreation) := chargeCacheCreation included summary baseTokens
  baseTokens + cached + cacheCreation + summary.completionTokens * summary.completionRatio

open TextQuotaSummary (weight finish withTokens forOpenRouter)

def quotaScale (s : PriceSettings) (info : TextRelayInfo) : ℚ :=
  s.modelRatioQuotaFactor * info.priceData.otherRatios.prod

/-- The quota of an amount: nothing for an empty report or a free model. -/
def chargeFor (totalTokens : Int) (ratio amount : ℚ) : Int :=
  if totalTokens = 0 ∨ ratio = 0 then 0 else atLeastOne amount

variable {totalTokens : Int} {ratio amount : ℚ} {semantic : String}

theorem chargeFor_empty (h : totalTokens = 0) :
    chargeFor totalTokens ratio amount = 0 := by simp [chargeFor, h]

theorem chargeFor_free : chargeFor totalTokens 0 amount = 0 := by
  simp [chargeFor]

theorem chargeFor_of_pos (h : totalTokens ≠ 0) (h1 : 0 < ratio) :
    chargeFor totalTokens ratio amount = atLeastOne amount := by
  simp [chargeFor, h, h1.ne']

theorem finish_ratioQuota (info : TextRelayInfo) (usage : Usage) (summary : TextQuotaSummary)
    (himage : summary.imageTokens = 0) (haudio : summary.audioTokens = 0)
    (htool : summary.toolCallSurchargeQuota = 0) :
    (ratioQuota s info usage summary).finish.quota =
      chargeFor summary.totalTokens (summary.modelRatio * summary.groupRatio)
        (summary.weight (promptIncludesCached info usage summary) *
          (summary.modelRatio * summary.groupRatio) * quotaScale s info) := by
  set ratio := summary.modelRatio * summary.groupRatio with hratio
  set amount := summary.weight (promptIncludesCached info usage summary) * ratio *
    quotaScale s info with hamount
  have hquota : ratioQuota s info usage summary =
      { summary with quota := halfAway (if ratio ≠ 0 ∧ amount ≤ 0 then 1 else amount) } := by
    have heq : applyOtherRatios info.priceData
        ((summary.weight (promptIncludesCached info usage summary)) * ratio *
          s.modelRatioQuotaFactor) = amount := by
      rw [applyOtherRatios_eq, hamount, quotaScale]
      ring
    simp only [ratioQuota, chargeImages, chargeAudio, himage, haudio, htool, ne_eq,
      not_true_eq_false, if_false, add_zero, ← hratio]
    rw [← heq]
    rfl
  rw [hquota]
  unfold finish chargeFor
  simp only [← hratio]
  by_cases htotal : summary.totalTokens = 0
  · simp [htotal]
  by_cases hr : ratio = 0
  · have hz : amount = 0 := by rw [hamount, hr]; ring
    simp [htotal, hr, hz]
  by_cases hle : amount ≤ 0
  · have hone : halfAway 1 = 1 := by decide +kernel
    simp [htotal, hr, hle, hone, atLeastOne_of_nonpos]
  · have h := halfAway_nonneg (not_le.mp hle).le
    simp only [htotal, hr, hle, false_or, if_false, ne_eq, not_false_eq_true, true_and,
      and_false, atLeastOne]
    split
    · next h => simp [h]
    · next h =>
      show halfAway amount = max 1 (halfAway amount)
      omega

theorem calculateTextQuotaSummary_quota (htools : NoTools ctx info)
    (hbill : info.priceData.usePrice = false) (s : PriceSettings) (usage : Usage)
    (himage : usage.promptTokensDetails.imageTokens = 0)
    (haudio : usage.promptTokensDetails.audioTokens = 0) :
    let reported := (newTextQuotaSummary info (some usage)).withTokens usage
    let summary :=
      if isOpenRouterClaudeBilling info reported then reported.forOpenRouter s info usage
      else reported
    (calculateTextQuotaSummary s ctx info (some usage)).quota =
      chargeFor reported.totalTokens (info.priceData.modelRatio * info.priceData.groupRatio)
        (summary.weight (promptIncludesCached info usage reported) *
          (info.priceData.modelRatio * info.priceData.groupRatio) * quotaScale s info) := by
  intro reported summary
  -- The OpenRouter step and the tools leave everything but the tokens alone.
  have h : summary.modelName = info.originModelName ∧ summary.imageTokens = 0 ∧
      summary.audioTokens = 0 ∧ summary.totalTokens = reported.totalTokens ∧
      summary.modelRatio = info.priceData.modelRatio ∧
      summary.groupRatio = info.priceData.groupRatio ∧
      summary.isClaudeUsageSemantic = reported.isClaudeUsageSemantic := by
    simp only [summary]
    split <;> exact ⟨rfl, himage, haudio, rfl, rfl, rfl, rfl⟩
  obtain ⟨hname, himg, haud, htotal, hmodel, hgroup, hclaude⟩ := h
  have hrun : calculateTextQuotaSummary s ctx info (some usage) =
      (ratioQuota s info usage { summary with
          claudeWebSearchCallCount := ctx.claudeWebSearchRequests
          toolCallSurchargeQuota := 0 }).finish := by
    show (let charged := calculateTextToolCallSurcharge s ctx info summary
      let summary := { charged.1 with toolCallSurchargeQuota := charged.2 }
      if info.priceData.usePrice then priceQuota s info summary
      else ratioQuota s info usage summary).finish = _
    rw [calculateTextToolCallSurcharge_of_noTools htools s summary hname, hbill]
    rfl
  rw [hrun, finish_ratioQuota s info usage _ (by exact himg) (by exact haud) rfl]
  have h : promptIncludesCached info usage summary =
      promptIncludesCached info usage reported := by
    simp only [promptIncludesCached, hclaude]
  rw [← h, ← htotal, ← hmodel, ← hgroup]
  rfl

def openAIWeight (prices : PriceData) (u : PhysicalUsage) : ℚ :=
  u.text + u.cacheReads * prices.cacheRatio + u.cacheWrites * prices.cacheCreationRatio +
    u.output * prices.completionRatio

/-- The cache writes OpenRouter did not report, worked out from its cost. -/
def unreportedWrites (s : PriceSettings) (info : TextRelayInfo) (u : PhysicalUsage) : Int :=
  let estimate := calcOpenRouterCacheCreateTokens u.anthropicReport info.priceData
  if u.cacheWrites = 0 ∧ info.priceData.cacheCreationRatio ≠ 1 ∧
      hasCustomModelRatio s info.originModelName info.priceData.modelRatio = false ∧
      0 ≤ estimate ∧ estimate ≤ u.text - u.cacheReads then estimate
  else 0

section

variable (info : TextRelayInfo) (u : PhysicalUsage)

theorem unreportedWrites_nonneg : 0 ≤ unreportedWrites s info u := by
  simp only [unreportedWrites]
  split
  · next h => exact h.2.2.2.1
  · exact le_rfl

/-- On an OpenRouter channel the cached tokens are taken out of the prompt once more. -/
def openRouterCorrection (s : PriceSettings) (info : TextRelayInfo) (u : PhysicalUsage) : ℚ :=
  if info.channelType = some channelTypeOpenRouter then
    unreportedWrites s info u * info.priceData.cacheCreationRatio -
      (u.cacheReads + u.cacheWrites + unreportedWrites s info u)
  else 0

def anthropicWeight (s : PriceSettings) (info : TextRelayInfo) (u : PhysicalUsage) : ℚ :=
  u.text + u.cacheReads * info.priceData.cacheRatio +
    (u.cacheWrites5m * info.priceData.cacheCreation5mRatio +
      u.cacheWrites1h * info.priceData.cacheCreation1hRatio) +
    u.output * info.priceData.completionRatio + openRouterCorrection s info u

theorem isClaude_report (h : semantic ≠ "") (promptTokens : Nat) :
    (newTextQuotaSummary info (some (u.report semantic promptTokens))).isClaudeUsageSemantic =
      decide (semantic = "anthropic") := by
  simp [newTextQuotaSummary, usageSemanticFromUsage, PhysicalUsage.report, h]

end

theorem openAI_quota (h1 : NoTools ctx info) (h2 : info.priceData.usePrice = false)
    (s : PriceSettings) (u : PhysicalUsage) :
    (calculateTextQuotaSummary s ctx info (some u.openAIReport)).quota =
      chargeFor (u.text + u.cacheReads + u.cacheWrites + u.output)
        (info.priceData.modelRatio * info.priceData.groupRatio)
        (openAIWeight info.priceData u *
          (info.priceData.modelRatio * info.priceData.groupRatio) * quotaScale s info) := by
  have h := calculateTextQuotaSummary_quota h1 h2 s u.openAIReport rfl rfl
  set reported := (newTextQuotaSummary info (some u.openAIReport)).withTokens u.openAIReport
    with hreported
  have h1 : reported.isClaudeUsageSemantic = false :=
    isClaude_report info u (show "openai" ≠ "" by decide)
      (u.text + u.cacheReads + u.cacheWrites)
  have hplain : isOpenRouterClaudeBilling info reported = false := by
    simp [isOpenRouterClaudeBilling, h1]
  have hincluded : promptIncludesCached info u.openAIReport reported = true := by
    simp [promptIncludesCached, h1, isLegacyClaudeDerivedOpenAIUsage, PhysicalUsage.openAIReport,
      PhysicalUsage.report]
  have h1 : reported.weight true = openAIWeight info.priceData u := by
    simp only [weight, chargeCached_eq, chargeCacheCreation_included, if_true, hreported,
      withTokens, newTextQuotaSummary, PhysicalUsage.openAIReport,
      PhysicalUsage.report, openAIWeight]
    push_cast
    ring
  simp only [hplain, hincluded, Bool.false_eq_true, if_false, h1] at h
  rw [h]
  rfl

theorem forOpenRouter_report (s : PriceSettings) (hbill : info.priceData.usePrice = false)
    (u : PhysicalUsage) : let reported :=
      (newTextQuotaSummary info (some u.anthropicReport)).withTokens u.anthropicReport
    reported.forOpenRouter s info u.anthropicReport =
      { reported with
        promptTokens :=
          u.text - u.cacheReads - (u.cacheWrites + unreportedWrites s info u)
        cacheCreationTokens := u.cacheWrites + unreportedWrites s info u } := by
  intro reported
  have hwrites : (reported.forOpenRouter s info u.anthropicReport).cacheCreationTokens =
      u.cacheWrites + unreportedWrites s info u := by
    simp only [forOpenRouter, unreportedWrites, hbill, Bool.false_or, reported]
    generalize calcOpenRouterCacheCreateTokens u.anthropicReport info.priceData = estimate
    show (if (u.cacheWrites : Int) = 0 ∧ _ ∧ hasCustomModelRatio s info.originModelName _ = _ then
        if 0 ≤ estimate ∧ estimate ≤ (u.text : Int) - u.cacheReads then estimate
        else (u.cacheWrites : Int)
      else (u.cacheWrites : Int)) = _
    grind
  rw [← hwrites]
  rfl

theorem anthropic_quota (h1 : NoTools ctx info) (hbill : info.priceData.usePrice = false)
    (s : PriceSettings) (u : PhysicalUsage) :
    (calculateTextQuotaSummary s ctx info (some u.anthropicReport)).quota =
      chargeFor (u.text + u.output) (info.priceData.modelRatio * info.priceData.groupRatio)
        (anthropicWeight s info u *
          (info.priceData.modelRatio * info.priceData.groupRatio) * quotaScale s info) := by
  have h := calculateTextQuotaSummary_quota h1 hbill s u.anthropicReport rfl rfl
  set reported := (newTextQuotaSummary info (some u.anthropicReport)).withTokens
    u.anthropicReport with hreported
  have h1 : reported.isClaudeUsageSemantic = true :=
    isClaude_report info u (show "anthropic" ≠ "" by decide) u.text
  have hincluded : promptIncludesCached info u.anthropicReport reported = false := by
    simp [promptIncludesCached, h1]
  have h2 : isOpenRouterClaudeBilling info reported =
      decide (info.channelType = some channelTypeOpenRouter) := by
    simp [isOpenRouterClaudeBilling, h1]
  have hsplit : 0 ≤ reported.cacheCreationTokens5m ∧ 0 ≤ reported.cacheCreationTokens1h :=
    ⟨Int.natCast_nonneg u.cacheWrites5m, Int.natCast_nonneg u.cacheWrites1h⟩
  have hweight : (if isOpenRouterClaudeBilling info reported = true then
      reported.forOpenRouter s info u.anthropicReport else reported).weight false =
      anthropicWeight s info u := by
    simp only [h2, decide_eq_true_eq, anthropicWeight, openRouterCorrection, weight,
      chargeCached_eq, Bool.false_eq_true, if_false]
    split
    · rw [forOpenRouter_report s hbill u,
        chargeCacheCreation_excluded _ _ (by exact hsplit.1) (by exact hsplit.2)]
      have hrest : max 0 ((u.cacheWrites : Int) + unreportedWrites s info u -
          u.cacheWrites5m - u.cacheWrites1h) = unreportedWrites s info u := by
        have := unreportedWrites_nonneg s info u
        simp only [PhysicalUsage.cacheWrites]
        omega
      simp only [newTextQuotaSummary, withTokens, PhysicalUsage.anthropicReport,
        PhysicalUsage.report, hrest]
      push_cast
      ring
    · have hrest : max 0 ((u.cacheWrites : Int) - u.cacheWrites5m - u.cacheWrites1h) = 0 := by
        simp only [PhysicalUsage.cacheWrites]
        omega
      rw [chargeCacheCreation_excluded _ _ hsplit.1 hsplit.2]
      simp only [hreported, newTextQuotaSummary, withTokens,
        PhysicalUsage.anthropicReport, PhysicalUsage.report, hrest]
      push_cast
      ring
  simp only [hincluded, hweight] at h
  rw [h]
  rfl

/-! ## When the two reports are charged alike -/

/-- The model is free; or nothing was used; or there is text or output, and the billable
parts of the two weights agree. -/
def StylesAgree (s : PriceSettings) (info : TextRelayInfo) (u : PhysicalUsage) : Prop :=
  info.priceData.modelRatio = 0 ∨
    u.text + u.output + u.cacheReads + u.cacheWrites = 0 ∨
      (0 < u.text + u.output ∧
        max 0 (openAIWeight info.priceData u * quotaScale s info) =
          max 0 (anthropicWeight s info u * quotaScale s info))

instance (s : PriceSettings) (info : TextRelayInfo) (u : PhysicalUsage) :
    Decidable (StylesAgree s info u) :=
  inferInstanceAs (Decidable (_ ∨ _ ∨ (_ ∧ _)))

/-- **A usage is charged the same in both styles, at every group ratio, exactly when
`StylesAgree`.** -/
theorem usage_styles_charged_alike_iff (s : PriceSettings) (ctx : TextContext)
    (info : TextRelayInfo) (u : PhysicalUsage) (hbill : info.priceData.usePrice = false)
    (htools : NoTools ctx info) (hmodel : 0 ≤ info.priceData.modelRatio) :
    (∀ g : ℚ, 0 ≤ g →
      (calculateTextQuotaSummary s ctx (info.withGroupRatio g) (some u.openAIReport)).quota =
        (calculateTextQuotaSummary s ctx (info.withGroupRatio g)
          (some u.anthropicReport)).quota) ↔
      StylesAgree s info u := by
  have hquotas : ∀ g : ℚ,
      (calculateTextQuotaSummary s ctx (info.withGroupRatio g) (some u.openAIReport)).quota =
        chargeFor (u.text + u.cacheReads + u.cacheWrites + u.output)
          (info.priceData.modelRatio * g)
          (openAIWeight info.priceData u * (info.priceData.modelRatio * g) * quotaScale s info) ∧
      (calculateTextQuotaSummary s ctx (info.withGroupRatio g) (some u.anthropicReport)).quota =
        chargeFor (u.text + u.output) (info.priceData.modelRatio * g)
          (anthropicWeight s info u * (info.priceData.modelRatio * g) * quotaScale s info) := by
    intro g
    have h : NoTools ctx (info.withGroupRatio g) := { htools with }
    exact ⟨openAI_quota h hbill s u, anthropic_quota h hbill s u⟩
  constructor
  · intro h
    by_cases hzero : info.priceData.modelRatio = 0
    · exact .inl hzero
    have hpos : 0 < info.priceData.modelRatio := lt_of_le_of_ne hmodel (Ne.symm hzero)
    by_cases hnothing : u.text + u.output + u.cacheReads + u.cacheWrites = 0
    · exact .inr (.inl hnothing)
    by_cases htokens : 0 < u.text + u.output
    · refine .inr (.inr ⟨htokens, ?_⟩)
      rw [← atLeastOne_eq_at_every_scale_iff]
      intro k hk
      have hg := h (k / info.priceData.modelRatio) (div_nonneg hk.le hmodel)
      rw [(hquotas _).1, (hquotas _).2, mul_div_cancel₀ k hzero,
        chargeFor_of_pos (by omega) hk, chargeFor_of_pos (by omega) hk] at hg
      rwa [mul_right_comm _ k, mul_right_comm _ k] at hg
    · -- Only cached tokens: the Anthropic report counts as empty, the other one does not.
      have hg := h 1 zero_le_one
      rw [(hquotas _).1, (hquotas _).2, mul_one, chargeFor_of_pos (by omega) hpos,
        chargeFor_empty (by omega)] at hg
      have := atLeastOne_pos
        (openAIWeight info.priceData u * info.priceData.modelRatio * quotaScale s info)
      omega
  · intro h g hg
    rw [(hquotas g).1, (hquotas g).2]
    rcases h with hfree | hnothing | ⟨htokens, h⟩
    · rw [hfree, zero_mul, chargeFor_free, chargeFor_free]
    · rw [chargeFor_empty (by omega), chargeFor_empty (by omega)]
    · rcases (mul_nonneg hmodel hg).eq_or_lt with hz | hk
      · rw [← hz, chargeFor_free, chargeFor_free]
      · rw [chargeFor_of_pos (by omega) hk, chargeFor_of_pos (by omega) hk, mul_right_comm,
          mul_right_comm _ _ (quotaScale s info)]
        exact (atLeastOne_eq_at_every_scale_iff _ _).mpr h _ hk

/-! ### A priced model -/

def plainSettings : PriceSettings :=
  { quotaPerUnit := 500000
    getToolPriceForModel := fun _ _ => 0
    getToolPrice := fun _ => 0
    getGPTImage1PriceOnceCall := fun _ _ => 0
    getGeminiInputAudioPricePerMillionTokens := fun _ => 0
    getDefaultModelRatioMap := fun _ => none }

def plainContext : TextContext := ⟨0, false, "", ""⟩

def claudePrices : PriceData :=
  { modelPrice := 0, modelRatio := 1, completionRatio := 5, cacheRatio := 1 / 10
    cacheCreationRatio := 5 / 4, cacheCreation5mRatio := 5 / 4, cacheCreation1hRatio := 2
    imageRatio := 0, otherRatios := [], usePrice := false, groupRatio := 1 }

def claudeRequest : TextRelayInfo :=
  { originModelName := "claude-3-7-sonnet", priceData := claudePrices, channelType := some 14
    finalRequestRelayFormat := none, requestConversionChain := [], relayFormat := some .openAI
    responsesUsageInfo := none, estimatePromptTokens := 0, tieredBillingSnapshot := none
    finalPreConsumedQuota := 0 }

/-- A cached prompt without text or output is free in the Anthropic style, and an hour of
cache costs less in the OpenAI style. -/
theorem usage_styles_charged_differently :
    (calculateTextQuotaSummary plainSettings plainContext claudeRequest
        (some (PhysicalUsage.openAIReport ⟨0, 1000, 0, 0, 0, none⟩))).quota = 100 ∧
      (calculateTextQuotaSummary plainSettings plainContext claudeRequest
        (some (PhysicalUsage.anthropicReport ⟨0, 1000, 0, 0, 0, none⟩))).quota = 0 ∧
      (calculateTextQuotaSummary plainSettings plainContext claudeRequest
        (some (PhysicalUsage.openAIReport ⟨100, 0, 0, 1000, 10, none⟩))).quota = 1400 ∧
      (calculateTextQuotaSummary plainSettings plainContext claudeRequest
        (some (PhysicalUsage.anthropicReport ⟨100, 0, 0, 1000, 10, none⟩))).quota = 2150 := by
  decide +kernel

theorem claudeRequest_noTools : NoTools plainContext claudeRequest where
  webSearch := rfl
  searchModel := fun _ => by decide +kernel
  fileSearch := rfl
  claudeWebSearch := le_rfl
  imageGeneration := rfl

/-- Text, cache reads and five-minute cache writes are charged alike. -/
theorem usage_styles_charged_alike_sample :
    NoTools plainContext claudeRequest ∧ ∀ g : ℚ, 0 ≤ g →
      (calculateTextQuotaSummary plainSettings plainContext (claudeRequest.withGroupRatio g)
        (some (PhysicalUsage.openAIReport ⟨100, 50, 40, 0, 10, none⟩))).quota =
      (calculateTextQuotaSummary plainSettings plainContext (claudeRequest.withGroupRatio g)
        (some (PhysicalUsage.anthropicReport ⟨100, 50, 40, 0, 10, none⟩))).quota :=
  ⟨claudeRequest_noTools, (usage_styles_charged_alike_iff plainSettings plainContext claudeRequest
    ⟨100, 50, 40, 0, 10, none⟩ rfl claudeRequest_noTools (by decide +kernel)).mpr
    (by decide +kernel)⟩

/-! ## Tiered billing -/

structure SameParams (usedVars : List String) (a b : TokenParams) : Prop where
  p : a.p = b.p
  c : a.c = b.c
  len : a.len = b.len
  used : ∀ name ∈ usedVars, a.env name = b.env name

def PhysicalUsage.openAIParams (u : PhysicalUsage) (usedVars : List String) : TokenParams :=
  buildTieredTokenParams u.openAIReport false usedVars

open PhysicalUsage (report openAIReport cacheWrites openAIParams)

def PhysicalUsage.anthropicParams (u : PhysicalUsage) (usedVars : List String) : TokenParams :=
  buildTieredTokenParams u.anthropicReport true usedVars

theorem openAIParams_eq (u : PhysicalUsage) (usedVars : List String) :
    u.openAIParams usedVars =
      { p := u.text + (if "cr" ∈ usedVars then 0 else u.cacheReads) +
          (if "cc" ∈ usedVars then 0 else u.cacheWrites)
        c := u.output
        len := u.text + u.cacheReads + u.cacheWrites
        cr := u.cacheReads, cc := u.cacheWrites, cc1h := 0
        img := 0, imgO := 0, ai := 0, ao := 0 } := by
  have hc : ¬ ((u.output : ℚ) < 0) := not_lt.mpr (Nat.cast_nonneg _)
  have hp : (u.text + u.cacheReads + u.cacheWrites : ℚ) -
      (if "cr" ∈ usedVars then (u.cacheReads : ℚ) else 0) -
      (if "cc" ∈ usedVars then (u.cacheWrites : ℚ) else 0) =
      u.text + (if "cr" ∈ usedVars then 0 else (u.cacheReads : ℚ)) +
        (if "cc" ∈ usedVars then 0 else (u.cacheWrites : ℚ)) := by
    split_ifs <;> ring
  have h : ¬ ((u.text : ℚ) + (if "cr" ∈ usedVars then 0 else (u.cacheReads : ℚ)) +
      (if "cc" ∈ usedVars then 0 else (u.cacheWrites : ℚ)) < 0) := by
    split_ifs <;> linarith
  simp [openAIParams, buildTieredTokenParams, openAIReport,
    report, hp, h, hc]

theorem anthropicParams_eq (u : PhysicalUsage) (usedVars : List String) :
    u.anthropicParams usedVars =
      { p := u.text, c := u.output
        len := u.text + u.cacheReads + u.cacheWrites
        cr := u.cacheReads, cc := u.cacheWrites5m, cc1h := u.cacheWrites1h
        img := 0, imgO := 0, ai := 0, ao := 0 } := by
  have hp : ¬ ((u.text : ℚ) < 0) := not_lt.mpr (Nat.cast_nonneg _)
  have hc : ¬ ((u.output : ℚ) < 0) := not_lt.mpr (Nat.cast_nonneg _)
  simp [PhysicalUsage.anthropicParams, buildTieredTokenParams, PhysicalUsage.anthropicReport,
    report, cacheWrites, hp, hc, add_assoc]

theorem env_cc (params : TokenParams) : params.env "cc" = some params.cc := by
  simp [TokenParams.env]

/-- Cached tokens are priced by variables of their own, and none of them for an hour. -/
def CachedPricedSeparately (usedVars : List String) (u : PhysicalUsage) : Prop :=
  u.cacheWrites1h = 0 ∧ ("cr" ∈ usedVars ∨ u.cacheReads = 0) ∧
    ("cc" ∈ usedVars ∨ u.cacheWrites5m = 0)

instance (usedVars : List String) (u : PhysicalUsage) :
    Decidable (CachedPricedSeparately usedVars u) :=
  inferInstanceAs (Decidable (_ ∧ _ ∧ _))

/-- **An expression reads the same from both reports, and so costs the same, exactly when
`CachedPricedSeparately`.** -/
theorem tiered_params_upstream_agnostic_iff (expr : BillingExpr) (u : PhysicalUsage) :
    (SameParams expr.usedVars (u.openAIParams expr.usedVars) (u.anthropicParams expr.usedVars) ∧
      expr.run (u.openAIParams expr.usedVars) = expr.run (u.anthropicParams expr.usedVars)) ↔
      CachedPricedSeparately expr.usedVars u := by
  constructor
  · rintro ⟨hsame, -⟩
    rw [openAIParams_eq, anthropicParams_eq] at hsame
    have hp : u.text + (if "cr" ∈ expr.usedVars then 0 else u.cacheReads) +
        (if "cc" ∈ expr.usedVars then 0 else u.cacheWrites) = u.text := by
      have h := hsame.p
      simp only at h
      exact_mod_cast h
    -- What stays in the OpenAI prompt beside the text must be nothing.
    have hreads : "cr" ∈ expr.usedVars ∨ u.cacheReads = 0 := by
      by_cases hcr : "cr" ∈ expr.usedVars
      · exact Or.inl hcr
      · rw [if_neg hcr] at hp
        omega
    have hwrites : "cc" ∈ expr.usedVars ∨ u.cacheWrites = 0 := by
      by_cases hcc : "cc" ∈ expr.usedVars
      · exact Or.inl hcc
      · rw [if_neg hcc] at hp
        omega
    have hhr : u.cacheWrites1h = 0 := by
      rcases hwrites with hcc | hno
      · have hvar := hsame.used "cc" hcc
        simp only [env_cc, Option.some.injEq, Nat.cast_inj, cacheWrites] at hvar
        omega
      · exact (Nat.add_eq_zero_iff.mp hno).2
    refine ⟨hhr, hreads, hwrites.imp_right fun hno => ?_⟩
    exact (Nat.add_eq_zero_iff.mp hno).1
  · rintro ⟨h1h, hreads, hwrites⟩
    have h1 : u.cacheWrites = u.cacheWrites5m := by simp [cacheWrites, h1h]
    have hr : (if "cr" ∈ expr.usedVars then 0 else u.cacheReads) = 0 := by
      rcases hreads with h | h <;> simp [h]
    have hw : (if "cc" ∈ expr.usedVars then 0 else u.cacheWrites) = 0 := by
      rcases hwrites with h | h <;> simp [h, h1]
    have hsame : SameParams expr.usedVars (u.openAIParams expr.usedVars)
        (u.anthropicParams expr.usedVars) := by
      rw [openAIParams_eq, anthropicParams_eq, hr, hw, h1h, h1]
      simp only [add_zero, Nat.cast_zero]
      exact ⟨rfl, rfl, rfl, fun _ _ => rfl⟩
    exact ⟨hsame, expr.run_congr _ _ hsame.used⟩

def flatExpr : BillingExpr where
  usedVars := ["p", "c"]
  run := fun params => some (3 * params.p + 15 * params.c, "default")
  run_congr := by
    intro a b h
    have hp := h "p" (by decide)
    have hc := h "c" (by decide)
    simp only [TokenParams.env, if_true, Option.some.injEq] at hp
    simp [TokenParams.env] at hc
    rw [hp, hc]

/-- Cached tokens the flat expression does not mention cost money in the OpenAI style and
nothing in the Anthropic style. -/
theorem tiered_cost_depends_on_style :
    flatExpr.run (PhysicalUsage.openAIParams ⟨100, 1000, 0, 0, 10, none⟩ flatExpr.usedVars) =
        some (3450, "default") ∧
      flatExpr.run
        (PhysicalUsage.anthropicParams ⟨100, 1000, 0, 0, 10, none⟩ flatExpr.usedVars) =
        some (450, "default") ∧
      ¬ SameParams flatExpr.usedVars
        (PhysicalUsage.openAIParams ⟨100, 1000, 0, 0, 10, none⟩ flatExpr.usedVars)
        (PhysicalUsage.anthropicParams ⟨100, 1000, 0, 0, 10, none⟩ flatExpr.usedVars) := by
  refine ⟨by decide +kernel, by decide +kernel, fun h => ?_⟩
  exact absurd h.p (by decide +kernel)

/-- The sub-categories of an OpenAI report are parts of its totals. -/
structure Usage.CategoriesFit (usage : Usage) : Prop where
  cached : 0 ≤ usage.promptTokensDetails.cachedTokens
  cacheCreation : 0 ≤ usage.promptTokensDetails.cachedCreationTokens
  image : 0 ≤ usage.promptTokensDetails.imageTokens
  audio : 0 ≤ usage.promptTokensDetails.audioTokens
  imageOutput : 0 ≤ usage.completionTokenDetails.imageTokens
  audioOutput : 0 ≤ usage.completionTokenDetails.audioTokens
  input : usage.promptTokensDetails.cachedTokens + usage.promptTokensDetails.cachedCreationTokens +
    usage.promptTokensDetails.imageTokens + usage.promptTokensDetails.audioTokens ≤
      usage.promptTokens
  output : usage.completionTokenDetails.imageTokens + usage.completionTokenDetails.audioTokens ≤
    usage.completionTokens

def readFrom (usedVars : List String) (name : String) (tokens : ℚ) : ℚ :=
  if name ∈ usedVars then tokens else 0

theorem readFrom_mem_Icc (usedVars : List String) (name : String) {n : Int} (h : 0 ≤ n) :
    0 ≤ readFrom usedVars name n ∧ readFrom usedVars name n ≤ n := by
  have hn : (0 : ℚ) ≤ n := by exact_mod_cast h
  unfold readFrom
  split
  · exact ⟨hn, le_rfl⟩
  · exact ⟨le_rfl, hn⟩

/-- **An expression reads every token of an OpenAI report once**, whichever categories it names; the
categories are those of the report. -/
theorem tiered_params_conserve_tokens (usage : Usage) (usedVars : List String)
    (hstyle : usage.usageSemantic ≠ "anthropic") (hfit : usage.CategoriesFit) :
    let t := buildTieredTokenParams usage false usedVars
    let read := readFrom usedVars
    t.p + (read "cr" t.cr + read "cc" t.cc + read "cc1h" t.cc1h + read "img" t.img +
        read "ai" t.ai) = usage.promptTokens ∧
      t.c + (read "img_o" t.imgO + read "ao" t.ao) = usage.completionTokens ∧
      0 ≤ t.p ∧ 0 ≤ t.c ∧ t.len = usage.promptTokens ∧
      t.cr = usage.promptTokensDetails.cachedTokens ∧
      t.cc = usage.promptTokensDetails.cachedCreationTokens ∧ t.cc1h = 0 ∧
      t.img = usage.promptTokensDetails.imageTokens ∧
      t.ai = usage.promptTokensDetails.audioTokens ∧
      t.imgO = usage.completionTokenDetails.imageTokens ∧
      t.ao = usage.completionTokenDetails.audioTokens := by
  obtain ⟨hcr, hcr'⟩ := readFrom_mem_Icc usedVars "cr" hfit.cached
  obtain ⟨hcc, hcc'⟩ := readFrom_mem_Icc usedVars "cc" hfit.cacheCreation
  obtain ⟨himg, himg'⟩ := readFrom_mem_Icc usedVars "img" hfit.image
  obtain ⟨hai, hai'⟩ := readFrom_mem_Icc usedVars "ai" hfit.audio
  obtain ⟨hio, hio'⟩ := readFrom_mem_Icc usedVars "img_o" hfit.imageOutput
  obtain ⟨hao, hao'⟩ := readFrom_mem_Icc usedVars "ao" hfit.audioOutput
  have hin : (usage.promptTokensDetails.cachedTokens +
      usage.promptTokensDetails.cachedCreationTokens + usage.promptTokensDetails.imageTokens +
      usage.promptTokensDetails.audioTokens : ℚ) ≤ usage.promptTokens := by
    exact_mod_cast hfit.input
  have hout : (usage.completionTokenDetails.imageTokens +
      usage.completionTokenDetails.audioTokens : ℚ) ≤ usage.completionTokens := by
    exact_mod_cast hfit.output
  unfold readFrom at *
  simp only [buildTieredTokenParams, if_neg hstyle, Bool.false_eq_true, if_false, ite_self,
    sub_zero]
  -- nothing falls below zero, so the source's last two tests change nothing
  rw [if_neg (not_lt.mpr (by linarith)), if_neg (not_lt.mpr (by linarith))]
  exact ⟨by ring, by ring, by linarith, by linarith, by simp⟩

def cachedReport : Usage :=
  { PhysicalUsage.openAIReport ⟨50, 40, 0, 0, 10, none⟩ with
    promptTokensDetails := ⟨40, 0, 0, 20⟩ }

theorem tiered_params_conserve_tokens_cached :
    let t := buildTieredTokenParams cachedReport false ["p", "c", "cr"]
    t.p + t.cr = 90 := by
  have h := (tiered_params_conserve_tokens cachedReport ["p", "c", "cr"] (by decide +kernel)
    (by constructor <;> decide +kernel)).1
  simp only [readFrom, List.mem_cons, String.reduceEq, List.not_mem_nil, or_false, false_or,
    if_true, if_false, add_zero] at h
  exact h.trans (by decide +kernel)

/-- **A tool surcharge moves a tiered settlement by its own rounded amount**, give or take one. -/
theorem tiered_settlement_near_parts (s : PriceSettings) (ctx : TextContext) (expr : BillingExpr)
    (info : TextRelayInfo) (u : Usage) :
    let summary := calculateTextQuotaSummary s ctx info (some u)
    match tryTieredSettle expr info (buildTieredTokenParams u summary.isClaudeUsageSemantic
      (if info.tieredBillingSnapshot.isSome then expr.usedVars else [])) with
    | none => postTextConsumeQuota s ctx expr info (some u) = summary.quota
    | some (quota, _) => |postTextConsumeQuota s ctx expr info (some u) -
        (quota + halfAway summary.toolCallSurchargeQuota)| ≤ 1 := by
  simp only [postTextConsumeQuota]
  generalize calculateTextQuotaSummary s ctx info (some u) = summary
  generalize buildTieredTokenParams u _ _ = params
  rcases h : tryTieredSettle expr info params with _ | ⟨quota, result⟩
  · rfl
  simp only [composeTieredTextQuota]
  split
  · simp [*]
  split
  · rename_i result snap hs
    -- the quota of a run that ended is the rounded cost in the user's group
    have hq : quota = halfAway (result.actualQuotaBeforeGroup * snap.groupRatio) := by
      grind [tryTieredSettle, computeTieredQuotaWithRequest]
    rw [hq]
    exact abs_halfAway_add_sub _ _
  · simp

end Xingkong
