import Mathlib.Algebra.Order.BigOperators.GroupWithZero.List
import Mathlib.Data.List.Sublists
import Mathlib.Tactic.LinearCombination
import Xingkong.Model.TaskSubmit

/-!
# The ratios of a task

The quota of a task is cut to a whole number after every ratio, so what is lost depends on the
order of the ratios, and a later division does not give it back. A remix is billed without the
ratios of its origin task: every attempt builds the price data anew.
-/

namespace Xingkong

open List

variable {q : ℚ}

/-! ## One ratio after the other -/

theorem intPart_nonneg (h : 0 ≤ q) : 0 ≤ intPart q := by
  rw [intPart_of_nonneg h]
  exact Int.floor_nonneg.mpr h

theorem intPart_le (h : 0 ≤ q) : (intPart q : ℚ) ≤ q := by
  rw [intPart_of_nonneg h]
  exact Int.floor_le q

variable {q : Int} {ratios : List ℚ}

theorem multiplyRatios_singleton {ra : ℚ} (hq : 0 ≤ q) (hra : 0 < ra) :
    0 ≤ multiplyRatios q [ra] ∧ (multiplyRatios q [ra] : ℚ) ≤ q * ra := by
  have h : (0 : ℚ) ≤ q * ra := mul_nonneg (by exact_mod_cast hq) hra.le
  rw [multiplyRatios, foldl_cons, foldl_nil]
  split
  · exact ⟨intPart_nonneg h, intPart_le h⟩
  next hone =>
    exact ⟨hq, by rw [not_not.mp hone, mul_one]⟩

section

variable (hq : 0 ≤ q) (hpos : ∀ ra ∈ ratios, 0 < ra)

include hq hpos

theorem multiplyRatios_le :
    0 ≤ multiplyRatios q ratios ∧ (multiplyRatios q ratios : ℚ) ≤ q * ratios.prod := by
  induction ratios generalizing q with
  | nil => exact ⟨hq, by simp [multiplyRatios]⟩
  | cons ra ratios ih =>
    obtain ⟨hra, hpos⟩ := forall_mem_cons.1 hpos
    obtain ⟨hq', hle⟩ := multiplyRatios_singleton hq hra
    obtain ⟨hquota, hrest⟩ := ih hq' hpos
    refine ⟨hquota, ?_⟩
    calc (multiplyRatios (multiplyRatios q [ra]) ratios : ℚ)
        ≤ multiplyRatios q [ra] * ratios.prod := hrest
      _ ≤ q * ra * ratios.prod := mul_le_mul_of_nonneg_right hle (prod_pos hpos).le
      _ = q * (ra :: ratios).prod := by rw [prod_cons, mul_assoc]

theorem divideRatios_mul_le :
    0 ≤ divideRatios q ratios ∧ (divideRatios q ratios : ℚ) * ratios.prod ≤ q := by
  induction ratios generalizing q with
  | nil => exact ⟨hq, by simp [divideRatios]⟩
  | cons ra ratios ih =>
    obtain ⟨hra, hpos⟩ := forall_mem_cons.1 hpos
    have hstep : 0 ≤ divideRatios q [ra] ∧ (divideRatios q [ra] : ℚ) * ra ≤ q := by
      have h : (0 : ℚ) ≤ q / ra := div_nonneg (by exact_mod_cast hq) hra.le
      rw [divideRatios, foldl_cons, foldl_nil]
      split
      · exact ⟨intPart_nonneg h, (le_div_iff₀ hra).mp (intPart_le h)⟩
      next hone =>
        exact ⟨hq, by rw [not_not.mp fun hne => hone ⟨hne, hra⟩, mul_one]⟩
    obtain ⟨hd, hle⟩ := ih hstep.1 hpos
    refine ⟨hd, ?_⟩
    calc (divideRatios (divideRatios q [ra]) ratios : ℚ) * (ra :: ratios).prod
        = divideRatios (divideRatios q [ra]) ratios * ratios.prod * ra := by
          rw [prod_cons]
          ring
      _ ≤ divideRatios q [ra] * ra := mul_le_mul_of_nonneg_right hle hra.le
      _ ≤ q := hstep.2

end

theorem recalcQuotaFromRatios_eq_iff {old new : List ℚ} (hq : 0 ≤ q) (hpos : ∀ ra ∈ old, 0 < ra)
    (hnew : new.Perm old) :
    recalcQuotaFromRatios q old new = q ↔ (divideRatios q old : ℚ) * old.prod = q := by
  obtain ⟨hd, hle⟩ := divideRatios_mul_le hq hpos
  have hfold : ∀ (l : List ℚ) (x : ℚ),
      l.foldl (fun x ra => if ra ≠ 1 then x * ra else x) x = x * l.prod := by
    intro l
    induction l with
    | nil => simp
    | cons ra l ih =>
      intro x
      rw [foldl_cons, ih, prod_cons, ← mul_assoc]
      split
      · rfl
      next hone =>
        rw [not_not.mp hone, mul_one]
  have h : (0 : ℚ) ≤ divideRatios q old * old.prod :=
    mul_nonneg (by exact_mod_cast hd) (prod_pos hpos).le
  rw [recalcQuotaFromRatios, hfold, hnew.prod_eq, intPart_of_nonneg h, Int.floor_eq_iff]
  constructor
  · rintro ⟨h, -⟩
    exact le_antisymm hle h
  · intro h
    rw [h]
    exact ⟨le_rfl, lt_add_one _⟩

/-! ## Whole products -/

/-- All of the base quota but less than one unit of the product is a base that no selection of the
ratios makes a fraction of. -/
structure WholeBase (base : Int) (ratios : List ℚ) (whole : Int) : Prop where
  nonneg : 0 ≤ whole
  le : whole ≤ base
  products : ∀ selection : List ℚ, selection <+ ratios → ∃ n : Int, (whole : ℚ) * selection.prod = n
  rest : ((base : ℚ) - whole) * ratios.prod < 1

theorem WholeBase.subperm {base whole : Int} (h : WholeBase base ratios whole) {l : List ℚ}
    (hl : l <+~ ratios) : ∃ n : Int, (whole : ℚ) * l.prod = n := by
  obtain ⟨selection, hperm, hsub⟩ := hl
  rw [← hperm.prod_eq]
  exact h.products selection hsub

theorem intPart_intCast (n : Int) : intPart (n : ℚ) = n := by
  simp [intPart]

/-- What is whole at every ratio is not cut on the way up. -/
theorem le_multiplyRatios {b : Int} (hb : 0 ≤ b) (hle : b ≤ q) (hpos : ∀ ra ∈ ratios, 0 < ra)
    (h : ∀ pre, pre <+: ratios → ∃ n : Int, (b : ℚ) * pre.prod = n) :
    (b : ℚ) * ratios.prod ≤ multiplyRatios q ratios := by
  induction ratios generalizing b q with
  | nil => simpa [multiplyRatios] using hle
  | cons ra ratios ih =>
    obtain ⟨hra, hpos⟩ := forall_mem_cons.1 hpos
    obtain ⟨n, hn⟩ := h [ra] (by simp)
    rw [prod_singleton] at hn
    have hn0 : 0 ≤ n := by
      have : (0 : ℚ) ≤ n := by
        rw [← hn]
        exact mul_nonneg (by exact_mod_cast hb) hra.le
      exact_mod_cast this
    have hnq : n ≤ multiplyRatios q [ra] := by
      have hbq : (n : ℚ) ≤ q * ra := by
        rw [← hn]
        exact mul_le_mul_of_nonneg_right (by exact_mod_cast hle) hra.le
      have h0 : (0 : ℚ) ≤ q * ra := le_trans (by exact_mod_cast hn0) hbq
      rw [multiplyRatios, foldl_cons, foldl_nil]
      split
      · rw [intPart_of_nonneg h0]
        exact Int.le_floor.mpr hbq
      next hone =>
        rw [not_not.mp hone, mul_one] at hbq
        exact_mod_cast hbq
    have hrest := ih hn0 hnq hpos fun pre hpre => by
      obtain ⟨m, hm⟩ := h (ra :: pre) ((prefix_cons_inj ra).mpr hpre)
      exact ⟨m, by rw [← hm, prod_cons, ← mul_assoc, hn]⟩
    rw [prod_cons, ← mul_assoc, hn]
    exact hrest

/-- What is whole at every ratio is divided back. -/
theorem divideRatios_whole {b : Int} (hpos : ∀ ra ∈ ratios, 0 < ra)
    (h : ∀ suf, suf <:+ ratios → ∃ n : Int, (b : ℚ) * suf.prod = n)
    (hq : (q : ℚ) = b * ratios.prod) : divideRatios q ratios = b := by
  induction ratios generalizing q with
  | nil => exact_mod_cast (by simpa using hq : (q : ℚ) = b)
  | cons ra ratios ih =>
    obtain ⟨hra, hpos⟩ := forall_mem_cons.1 hpos
    obtain ⟨n, hn⟩ := h ratios (suffix_cons ra ratios)
    have hdiv : (q : ℚ) / ra = n := by
      rw [hq, prod_cons, ← hn]
      field_simp
    have hstep : divideRatios q [ra] = n := by
      rw [divideRatios, foldl_cons, foldl_nil]
      split
      · rw [hdiv, intPart_intCast]
      next hone =>
        rw [not_not.mp fun hne => hone ⟨hne, hra⟩, div_one] at hdiv
        exact_mod_cast hdiv
    show divideRatios (divideRatios q [ra]) ratios = b
    rw [hstep]
    exact ih hpos (fun suf hsuf => h suf (hsuf.trans (suffix_cons ra ratios))) hn.symm

/-- Divisions that lose nothing in the end have lost nothing on the way. -/
theorem divideRatios_exact_front {l rest : List ℚ} (hq : 0 ≤ q) (hl : ∀ ra ∈ l, 0 < ra)
    (hrest : ∀ ra ∈ rest, 0 < ra)
    (h : (divideRatios q (l ++ rest) : ℚ) * (l ++ rest).prod = q) :
    (divideRatios q l : ℚ) * l.prod = q := by
  obtain ⟨hd, hle⟩ := divideRatios_mul_le hq hl
  have hback := (divideRatios_mul_le hd hrest).2
  rw [divideRatios, foldl_append, ← divideRatios, ← divideRatios, prod_append] at h
  refine le_antisymm hle ?_
  calc (q : ℚ) = divideRatios (divideRatios q l) rest * rest.prod * l.prod := by
        rw [← h]
        ring
    _ ≤ divideRatios q l * l.prod := mul_le_mul_of_nonneg_right hback (prod_pos hl).le

section

variable {base whole quota : Int} (hbase : 0 ≤ base) (hpos : ∀ ra ∈ ratios, 0 < ra)
include hbase hpos

theorem product_nonneg : (0 : ℚ) ≤ base * ratios.prod :=
  mul_nonneg (by exact_mod_cast hbase) (prod_pos hpos).le

theorem WholeBase.of_exact (hquota : quota = intPart (base * ratios.prod))
    (h : ∀ old, old.Perm ratios → (divideRatios quota old : ℚ) * ratios.prod = quota) :
    WholeBase base ratios (divideRatios quota ratios) := by
  have h0 := product_nonneg hbase hpos
  have hprod := prod_pos hpos
  have hq : 0 ≤ quota := hquota ▸ intPart_nonneg h0
  rw [intPart_of_nonneg h0] at hquota
  have hle : (quota : ℚ) ≤ base * ratios.prod := hquota ▸ Int.floor_le _
  have hlt : base * ratios.prod < quota + 1 := hquota ▸ Int.lt_floor_add_one _
  have hwhole := h ratios (.refl _)
  refine ⟨(divideRatios_mul_le hq hpos).1, ?_, fun selection hsub => ?_, ?_⟩
  · have : (divideRatios quota ratios : ℚ) ≤ base := le_of_mul_le_mul_right (hwhole ▸ hle) hprod
    exact_mod_cast this
  · -- the ratios left out are divided by first
    obtain ⟨rest, hperm⟩ := hsub.exists_perm_append
    have hold : (rest ++ selection).Perm ratios := perm_append_comm.trans hperm.symm
    have hmem : ∀ ra ∈ rest ++ selection, 0 < ra := fun ra hra => hpos ra (hold.mem_iff.1 hra)
    have hr : ∀ ra ∈ rest, 0 < ra := fun ra hra => hmem ra (mem_append_left _ hra)
    have hback := divideRatios_exact_front hq hr
      (fun ra hra => hmem ra (mem_append_right _ hra)) (hold.prod_eq ▸ h _ hold)
    refine ⟨divideRatios quota rest, mul_right_cancel₀ (prod_pos hr).ne' ?_⟩
    rw [hback, ← hwhole, ← hold.prod_eq, prod_append]
    ring
  · rw [sub_mul, hwhole]
    linarith

theorem WholeBase.intPart_product (h : WholeBase base ratios whole)
    (hquota : (whole : ℚ) * ratios.prod = quota) : intPart (base * ratios.prod) = quota := by
  have hle : (whole : ℚ) * ratios.prod ≤ base * ratios.prod :=
    mul_le_mul_of_nonneg_right (by exact_mod_cast h.le) (prod_pos hpos).le
  have hrest := h.rest
  rw [sub_mul] at hrest
  rw [intPart_of_nonneg (product_nonneg hbase hpos), Int.floor_eq_iff, ← hquota]
  exact ⟨hle, by linarith⟩

theorem WholeBase.multiplyRatios (h : WholeBase base ratios whole)
    (hquota : (whole : ℚ) * ratios.prod = quota) {order : List ℚ} (horder : order.Perm ratios) :
    multiplyRatios base order = quota := by
  have hpos' : ∀ ra ∈ order, 0 < ra := fun ra hra => hpos ra (horder.mem_iff.1 hra)
  have hlow := le_multiplyRatios h.nonneg h.le hpos' fun pre hpre =>
    h.subperm (hpre.sublist.subperm.trans horder.subperm)
  have hhigh := (multiplyRatios_le hbase hpos').2
  have hrest := h.rest
  rw [horder.prod_eq, hquota] at hlow
  rw [horder.prod_eq] at hhigh
  rw [sub_mul, hquota] at hrest
  have hlt : (Xingkong.multiplyRatios base order : ℚ) < quota + 1 := by linarith
  have h1 : quota ≤ Xingkong.multiplyRatios base order := by exact_mod_cast hlow
  have h2 : Xingkong.multiplyRatios base order < quota + 1 := by exact_mod_cast hlt
  omega

end

/-- **The quota of a task does not depend on the order of its ratios, and survives a recalculation
with the same ratios, exactly if the base quota is whole for all of them** but for a rest that is
worth less than one unit. -/
theorem task_quota_order_free_iff (base : Int) (ratios : List ℚ) (hbase : 0 ≤ base)
    (hpos : ∀ ra ∈ ratios, 0 < ra) :
    (∀ order, order.Perm ratios →
      multiplyRatios base order = intPart (base * ratios.prod) ∧
      ∀ old new, old.Perm ratios → new.Perm ratios →
        recalcQuotaFromRatios (multiplyRatios base order) old new = multiplyRatios base order) ↔
    ∃ whole, WholeBase base ratios whole := by
  have hpos' : ∀ {l : List ℚ}, l.Perm ratios → ∀ ra ∈ l, 0 < ra := fun hl ra hra =>
    hpos ra (hl.mem_iff.1 hra)
  constructor
  · intro h
    obtain ⟨hquota, hrecalc⟩ := h ratios (.refl _)
    have hq := (multiplyRatios_le hbase hpos).1
    refine ⟨_, .of_exact hbase hpos hquota fun old hold => ?_⟩
    rw [← hold.prod_eq]
    exact (recalcQuotaFromRatios_eq_iff hq (hpos' hold) (.refl old)).1 (hrecalc old old hold hold)
  · rintro ⟨whole, h⟩ order horder
    obtain ⟨quota, hquota⟩ := h.products ratios (.refl _)
    have hq : 0 ≤ quota := by
      rw [← h.intPart_product hbase hpos hquota]
      exact intPart_nonneg (product_nonneg hbase hpos)
    rw [h.intPart_product hbase hpos hquota, h.multiplyRatios hbase hpos hquota horder]
    refine ⟨rfl, fun old new hold hnew => ?_⟩
    refine (recalcQuotaFromRatios_eq_iff hq (hpos' hold) (hnew.trans hold.symm)).2 ?_
    have hdiv : divideRatios quota old = whole := by
      refine divideRatios_whole (hpos' hold) (fun suf hsuf =>
        h.subperm (hsuf.sublist.subperm.trans hold.subperm)) ?_
      rw [hold.prod_eq, hquota]
    rw [hdiv, hold.prod_eq, hquota]

/-- Of a base quota of 9 the part 6 is whole for the ratios 1 / 2 and 1 / 3, and the rest is worth
half a unit. -/
theorem task_quota_order_free_nine :
    (∀ order ∈ [[1 / 2, 1 / 3], [1 / 3, 1 / 2]],
      multiplyRatios 9 order = intPart (9 * [1 / 2, 1 / 3].prod)) ∧
    recalcQuotaFromRatios (multiplyRatios 9 [1 / 2, 1 / 3]) [1 / 3, 1 / 2] [1 / 2, 1 / 3] =
      multiplyRatios 9 [1 / 2, 1 / 3] := by
  have hproducts : ∀ selection ∈ ([1 / 2, 1 / 3] : List ℚ).sublists,
      ((6 : Int) : ℚ) * selection.prod = intPart ((6 : Int) * selection.prod) := by
    decide +kernel
  have hwhole : WholeBase 9 [1 / 2, 1 / 3] 6 :=
    ⟨by decide, by decide, fun selection h => ⟨_, hproducts selection (mem_sublists.2 h)⟩,
      by decide +kernel⟩
  have h := (task_quota_order_free_iff 9 [1 / 2, 1 / 3] (by decide) (by decide +kernel)).2
    ⟨6, hwhole⟩
  have hswap : [1 / 3, 1 / 2].Perm ([1 / 2, 1 / 3] : List ℚ) := .swap ..
  refine ⟨fun order horder => ?_, (h _ (.refl _)).2 _ _ hswap (.refl _)⟩
  rcases mem_pair.1 horder with rfl | rfl
  · exact (h _ (.refl _)).1
  · exact (h _ hswap).1

theorem task_quota_order_matters :
    multiplyRatios 5 [1 / 2, 3] = 6 ∧ multiplyRatios 5 [3, 1 / 2] = 7 ∧
      recalcQuotaFromRatios 7 [3, 1 / 2] [3, 1 / 2] = 6 := by
  decide +kernel

/-! ## Remixes -/

section Remix

variable {s : PerCallSettings} {adaptor : TaskBilling} {info : TaskRelayInfo}
  {price : TaskPriceData}

/-- The request is billed `n`: what was pre-consumed, and what is settled. -/
def BilledAs (n : Int) (r : TaskRelayInfo × Option Int) : Prop :=
  (∀ q, r.1.billing = some q → q = n) ∧ ∀ q, r.2 = some q → q = n

/-- A remix whose model has the price, before or after some attempts. -/
structure RemixAt (s : PerCallSettings) (price : TaskPriceData) (info : TaskRelayInfo) : Prop where
  remix : info.remix = true
  found : modelPriceHelperPerCall s info.originModelName info.groupRatio
    info.acceptUnsetRatioModel = some price
  billing : ∀ q, info.billing = some q → q = price.quota

theorem modelPriceHelperPerCall_otherRatios {name : String} {groupRatio : ℚ} {accept : Bool}
    (h : modelPriceHelperPerCall s name groupRatio accept = some price) :
    price.otherRatios = [] := by
  unfold modelPriceHelperPerCall at h
  dsimp only at h
  split at h
  · cases h
    rfl
  · split at h
    · cases h
    · cases h
      rfl

variable (hestimate : ∀ i : TaskRelayInfo, i.remix = true → adaptor.estimateBilling i = [])
  (hadjust : ∀ i, adaptor.adjustBillingOnSubmit i = [])
include hestimate hadjust

theorem RemixAt.submit (h : RemixAt s price info) (a : TaskAttempt) :
    let first := info.billing.isNone && !price.freeModel
    relayTaskSubmit s adaptor info a =
      ({ info with
          priceData := price
          billing := if first && a.preConsumes then some price.quota else info.billing },
        if first && !a.preConsumes || !a.accepted then none else some price.quota) := by
  have h1 : a.visit price.otherRatios = [] := by
    have h2 := a.visit_perm price.otherRatios
    rw [modelPriceHelperPerCall_otherRatios h.found] at h2 ⊢
    exact perm_nil.1 h2
  have hquota : (if info.originModelName ∈ s.taskPricePatches then price
      else { price with quota := multiplyRatios price.quota (a.visit price.otherRatios) }) =
      price := by
    rw [h1]
    exact ite_self price
  unfold relayTaskSubmit
  simp only [h.found, hestimate { info with priceData := price } h.remix, foldl_nil, hquota,
    hadjust]
  cases info.billing.isNone && !price.freeModel <;> cases a.preConsumes <;> cases a.accepted <;> rfl

theorem RemixAt.relayTask (h : RemixAt s price info) (attempts : List TaskAttempt) :
    BilledAs price.quota (relayTask s adaptor info attempts) := by
  induction attempts generalizing info with
  | nil => exact ⟨h.billing, nofun⟩
  | cons a attempts ih =>
    have hsubmit := h.submit hestimate hadjust a
    have hbilling : ∀ q, (relayTaskSubmit s adaptor info a).1.billing = some q →
        q = price.quota := by
      rw [hsubmit]
      intro q hq
      split at hq
      · exact (Option.some.inj hq).symm
      · exact h.billing q hq
    have hquota : ∀ q, (relayTaskSubmit s adaptor info a).2 = some q → q = price.quota := by
      rw [hsubmit]
      intro q hq
      dsimp only at hq
      split at hq
      · cases hq
      · exact (Option.some.inj hq).symm
    have h1 : RemixAt s price (relayTaskSubmit s adaptor info a).1 :=
      ⟨by rw [hsubmit]; exact h.remix, by rw [hsubmit]; exact h.found, hbilling⟩
    unfold Xingkong.relayTask
    generalize relayTaskSubmit s adaptor info a = r at hquota h1
    obtain ⟨info', _ | q⟩ := r
    · exact ih h1
    · exact ⟨h1.billing, hquota⟩

end Remix

/-- The ratios the origin task was billed by. -/
def OriginBilling.billedRatios : OriginBilling → List ℚ
  | .context otherRatios => (otherRatios.map Prod.snd).filter (0 < ·)
  | .data seconds size =>
    [if seconds ≤ 0 then 4 else seconds,
      if size = "1792x1024" ∨ size = "1024x1792" then 1666667 / 1000000 else 1]

/-- **A remix is billed its base quota**, so it is billed by the ratios of its origin task exactly
if these leave the base quota as it is. -/
theorem remix_billed_by_origin_iff (s : PerCallSettings) (adaptor : TaskBilling)
    (info : TaskRelayInfo) (origin : OriginBilling) (price : TaskPriceData)
    (hremix : info.remix = true) (hfirst : info.billing = none)
    (hprice : modelPriceHelperPerCall s info.originModelName info.groupRatio
      info.acceptUnsetRatioModel = some price)
    (hestimate : ∀ i : TaskRelayInfo, i.remix = true → adaptor.estimateBilling i = [])
    (hadjust : ∀ i, adaptor.adjustBillingOnSubmit i = []) :
    let resolved := resolveOriginTask info origin
    let due := intPart (price.quota * origin.billedRatios.prod)
    (∀ attempts, BilledAs due (relayTask s adaptor resolved attempts)) ↔ due = price.quota := by
  intro resolved due
  have hresolved : RemixAt s price resolved := by
    have : ∃ p, resolved = { info with priceData := p } := by
      simp only [resolved, resolveOriginTask, hremix, Bool.not_true, Bool.false_eq_true, if_false]
      cases origin <;> exact ⟨_, rfl⟩
    obtain ⟨p, hp⟩ := this
    rw [hp]
    exact ⟨hremix, hprice, fun q hq => by rw [hfirst] at hq; cases hq⟩
  constructor
  · intro h
    -- one attempt that succeeds
    let a : TaskAttempt := ⟨true, true, fun ratios => ratios.map Prod.snd, fun _ => .refl _⟩
    refine ((h [a]).2 price.quota ?_).symm
    simp [relayTask, hresolved.submit hestimate hadjust a, a]
  · intro hdue attempts
    rw [hdue]
    exact hresolved.relayTask hestimate hadjust attempts

def soraSettings : PerCallSettings :=
  { getModelPrice := fun _ => some (1 / 10), getDefaultModelPriceMap := fun _ => none
    getModelRatio := fun _ => (0, false), quotaPerUnit := 500000
    enableFreeModelPreConsume := false, taskPricePatches := [] }

def soraBilling : TaskBilling :=
  { estimateBilling := fun _ => [], adjustBillingOnSubmit := fun _ => [] }

def soraRemix : TaskRelayInfo :=
  { originModelName := "sora-2", remix := true, groupRatio := 1, acceptUnsetRatioModel := false
    priceData := ⟨false, 0, 0, false, 0, 0, []⟩, billing := none }

def plainAttempt (accepted : Bool) : TaskAttempt :=
  ⟨true, accepted, fun ratios => ratios.map Prod.snd, fun _ => .refl _⟩

theorem remix_billed_by_origin_second :
    (relayTask soraSettings soraBilling
      (resolveOriginTask soraRemix (.context [("seconds", 1), ("size", 1)]))
      [plainAttempt true]).1.billing = some 50000 := by
  have h := ((remix_billed_by_origin_iff soraSettings soraBilling soraRemix
    (.context [("seconds", 1), ("size", 1)]) _ rfl rfl rfl (fun _ _ => rfl) fun _ => rfl).2
    (by decide +kernel) [plainAttempt true]).1
  cases hb : (relayTask soraSettings soraBilling
      (resolveOriginTask soraRemix (.context [("seconds", 1), ("size", 1)]))
      [plainAttempt true]).1.billing with
  | none => exact absurd hb (by decide +kernel)
  | some q => rw [h q hb]; decide +kernel

theorem remix_loses_origin_ratios :
    let resolved := resolveOriginTask soraRemix (.context [("seconds", 12)])
    let r := relayTask soraSettings soraBilling resolved [plainAttempt false, plainAttempt true]
    resolved.priceData.otherRatios = [("seconds", 12)] ∧ r.1.billing = some 50000 ∧
      r.2 = some 50000 := by
  decide +kernel

end Xingkong
