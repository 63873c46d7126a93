import Xingkong.Model.Schema

/-!
# Submitting a task

A task costs a base quota times the other ratios of the request, such as its seconds and its size.
A remix takes over the ratios of its origin task: `ResolveOriginTask` runs once, before the
attempts, and `RelayTaskSubmit` once for each attempt.

Follows `relay/relay_task.go`, `types/price_data.go`, `ModelPriceHelperPerCall` in
`relay/helper/price.go` and the loop of `RelayTask` in `controller/relay.go`.
-/

namespace Xingkong

/-- The entries of a Go map; every loop visits them in some order of its own. -/
abbrev Ratios := List (String × ℚ)

structure TaskPriceData where
  freeModel : Bool
  modelPrice : ℚ
  modelRatio : ℚ
  usePrice : Bool
  quota : Int
  groupRatio : ℚ
  otherRatios : Ratios

def TaskPriceData.setRatio (p : TaskPriceData) (key : String) (ratio : ℚ) : TaskPriceData :=
  { p with otherRatios := p.otherRatios.filter (·.1 ≠ key) ++ [(key, ratio)] }

def TaskPriceData.addOtherRatio (p : TaskPriceData) (key : String) (ratio : ℚ) : TaskPriceData :=
  if ratio ≤ 0 then p else p.setRatio key ratio

/-! ## Quotas -/

/-- The other ratios, one after the other, each truncated. -/
def multiplyRatios (quota : Int) (ratios : List ℚ) : Int :=
  ratios.foldl (fun q ra => if ra ≠ 1 then intPart (q * ra) else q) quota

def divideRatios (quota : Int) (ratios : List ℚ) : Int :=
  ratios.foldl (fun q ra => if ra ≠ 1 ∧ 0 < ra then intPart (q / ra) else q) quota

def recalcQuotaFromRatios (quota : Int) (oldRatios ratios : List ℚ) : Int :=
  intPart (ratios.foldl (fun x ra => if ra ≠ 1 then x * ra else x)
    (divideRatios quota oldRatios : ℚ))

structure PerCallSettings where
  getModelPrice : String → Option ℚ
  getDefaultModelPriceMap : String → Option ℚ
  /-- The ratio, and whether one is configured. -/
  getModelRatio : String → ℚ × Bool
  quotaPerUnit : ℚ
  enableFreeModelPreConsume : Bool
  taskPricePatches : List String

/-- The quota of a price, or of a ratio with half the unit. -/
def perCallQuota (s : PerCallSettings) (unitPrice rate groupRatio : ℚ) : Int × Bool :=
  if !s.enableFreeModelPreConsume && (groupRatio = 0 || rate = 0) then (0, true)
  else (intPart (unitPrice * s.quotaPerUnit * groupRatio), false)

/-- `none` if the model has neither a price nor a ratio. -/
def modelPriceHelperPerCall (s : PerCallSettings) (modelName : String) (groupRatio : ℚ)
    (acceptUnsetRatioModel : Bool) : Option TaskPriceData :=
  match (s.getModelPrice modelName).or (s.getDefaultModelPriceMap modelName) with
  | some modelPrice =>
    let (quota, freeModel) := perCallQuota s modelPrice modelPrice groupRatio
    some { freeModel, modelPrice, modelRatio := 0, usePrice := true, quota, groupRatio
           otherRatios := [] }
  | none =>
    let (modelRatio, configured) := s.getModelRatio modelName
    if !configured && !acceptUnsetRatioModel then none
    else
      let (quota, freeModel) := perCallQuota s (modelRatio / 2) modelRatio groupRatio
      some { freeModel, modelPrice := -1, modelRatio, usePrice := false, quota, groupRatio
             otherRatios := [] }

/-! ## Attempts -/

/-- What the origin task of a remix says about its price: the ratios of its billing context, or
without one the seconds and the size in its data. -/
inductive OriginBilling
  | context (otherRatios : Ratios)
  | data (seconds : Int) (size : String)

structure TaskRelayInfo where
  originModelName : String
  remix : Bool
  groupRatio : ℚ
  acceptUnsetRatioModel : Bool
  priceData : TaskPriceData
  /-- What was pre-consumed; `none` before that. -/
  billing : Option Int

def resolveOriginTask (info : TaskRelayInfo) (origin : OriginBilling) : TaskRelayInfo :=
  if !info.remix then info
  else
    match origin with
    | .context ratios =>
      { info with priceData := ratios.foldl (fun p r => p.addOtherRatio r.1 r.2) info.priceData }
    | .data seconds size =>
      let p := info.priceData.setRatio "seconds" (if seconds ≤ 0 then 4 else seconds)
      { info with
        priceData := p.setRatio "size"
          (if size = "1792x1024" ∨ size = "1024x1792" then 1666667 / 1000000 else 1) }

structure TaskBilling where
  estimateBilling : TaskRelayInfo → Ratios
  adjustBillingOnSubmit : TaskRelayInfo → Ratios

/-- What one attempt meets: whether the quota can be pre-consumed, whether the provider accepts the
task, and the order in which a map is visited. -/
structure TaskAttempt where
  preConsumes : Bool
  accepted : Bool
  visit : Ratios → List ℚ
  visit_perm : ∀ ratios, (visit ratios).Perm (ratios.map Prod.snd)

/-- The final quota, unless the attempt fails. -/
def relayTaskSubmit (s : PerCallSettings) (adaptor : TaskBilling) (info : TaskRelayInfo)
    (a : TaskAttempt) : TaskRelayInfo × Option Int :=
  match modelPriceHelperPerCall s info.originModelName info.groupRatio
      info.acceptUnsetRatioModel with
  | none => (info, none)
  | some priceData =>
    let info := { info with priceData }
    let priceData :=
      (adaptor.estimateBilling info).foldl (fun p r => p.addOtherRatio r.1 r.2) priceData
    let priceData :=
      if info.originModelName ∈ s.taskPricePatches then priceData
      else { priceData with
        quota := multiplyRatios priceData.quota (a.visit priceData.otherRatios) }
    let info := { info with priceData }
    let first := info.billing.isNone && !priceData.freeModel
    if first && !a.preConsumes then (info, none)
    else
      let info := if first then { info with billing := some priceData.quota } else info
      if !a.accepted then (info, none)
      else
        match adaptor.adjustBillingOnSubmit info with
        | [] => (info, some priceData.quota)
        | ratios =>
          let quota := recalcQuotaFromRatios priceData.quota (a.visit priceData.otherRatios)
            (a.visit ratios)
          ({ info with priceData := { priceData with otherRatios := ratios, quota } }, some quota)

/-- The attempts of a request, up to the first that succeeds; its quota is settled. -/
def relayTask (s : PerCallSettings) (adaptor : TaskBilling) :
    TaskRelayInfo → List TaskAttempt → TaskRelayInfo × Option Int
  | info, [] => (info, none)
  | info, a :: attempts =>
    match relayTaskSubmit s adaptor info a with
    | (info, some quota) => (info, some quota)
    | (info, none) => relayTask s adaptor info attempts

end Xingkong
