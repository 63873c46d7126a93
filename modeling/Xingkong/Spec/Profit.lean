import Xingkong.Model.Profit
import Xingkong.Lib.Share

/-!
# What the profit functions do

One lemma per function of `Xingkong.Model.Profit`: which database it can leave behind,
and why. The loop over wallet lots gets two: `drawLots_ok` reads it as a pure
computation followed by saves, and `LotOk` is kept by every lot it touches.
-/

namespace Xingkong

open Rdb List Table

variable {db db' : Database} {lots : List WalletLot} {skipEmpty : Bool} {userId : Nat}
  {remaining : Int}

/-! ## Exempt users -/

variable {u : Unit} {lot : SubscriptionLot} {now use quota : Int}
  {sub : UserSubscription} {x : UsageSettlementAuditSummary} {input : ProfitUsageInput}

theorem isProfitExemptUserTx_ok {b : Bool} (h : Tx.Ok (isProfitExemptUserTx userId) db b db') :
    (b = true → db.exempt userId = true) ∧ db' = db := by
  unfold isProfitExemptUserTx at h
  split at h
  · obtain ⟨rfl, rfl⟩ := h.pure
    exact ⟨by simp, rfl⟩
  · obtain ⟨hb, rfl⟩ := h.queryOr
    refine ⟨fun ht => ?_, rfl⟩
    rcases hb with hb | hb
    · rw [← hb, ht]
    · rw [hb] at ht; cases ht

theorem unlessExempt_ok {body : DbTx Unit} (h : Tx.Ok (unlessExempt userId body) db u db') :
    (db.exempt userId = true ∧ db' = db) ∨ Tx.Ok body db u db' := by
  obtain ⟨b, db1, h1, h2⟩ := h.bind
  obtain ⟨hb, rfl⟩ := isProfitExemptUserTx_ok h1
  cases b with
  | true => exact .inl ⟨hb rfl, h2.pure.2⟩
  | false => exact .inr h2

/-! ## Creating lots -/

theorem firstOrCreateWalletLot_ok {p : WalletLot → Bool} {lot : WalletLot}
    (h : Tx.Ok (firstOrCreateWalletLot p lot) db u db') :
    ((∃ l ∈ db.walletLots.rows, p l = true) ∧ db' = db) ∨
      ((∀ l ∈ db.walletLots.rows, p l = false) ∧
        db' = { db with walletLots := db.walletLots.insert lot }) := by
  have hk := h.query_bind
  cases hf : db.walletLots.first? p with
  | none =>
    rw [hf] at hk
    exact .inr ⟨Table.first?_eq_none.1 hf, hk.exec⟩
  | some l =>
    rw [hf] at hk
    exact .inl ⟨⟨l, mem_of_first? hf⟩, hk.pure.2⟩

theorem firstOrCreateSubscriptionLot_ok (h : Tx.Ok (firstOrCreateSubscriptionLot lot) db u db') :
    ((∃ l ∈ db.subscriptionLots.rows, l.userSubscriptionId = lot.userSubscriptionId) ∧ db' = db) ∨
      ((∀ l ∈ db.subscriptionLots.rows, l.userSubscriptionId ≠ lot.userSubscriptionId) ∧
        db' = { db with subscriptionLots := db.subscriptionLots.insert lot }) := by
  have hk := h.query_bind
  cases hf : db.subscriptionLots.first? (·.userSubscriptionId = lot.userSubscriptionId) with
  | none =>
    rw [hf] at hk
    exact .inr ⟨by simpa using Table.first?_eq_none.1 hf, hk.exec⟩
  | some l =>
    rw [hf] at hk
    exact .inl ⟨⟨l, by simpa using mem_of_first? hf⟩, hk.pure.2⟩

/-- The lots after a top-up: one more, or the old ones for one of the reasons given. -/
def TopUpLotDue (now : Int) (topUp : TopUp) (quota : Int) (sourceType : LotSource) (exempt : Bool)
    (lots lots' : Table WalletLot) : Prop :=
  ((quota ≤ 0 ∨ exempt = true ∨
      ∃ l ∈ lots.rows, l.sourceType = sourceType ∧ l.sourceId = topUp.id) ∧ lots' = lots) ∨
    (0 < quota ∧ (∀ l ∈ lots.rows, ¬ (l.sourceType = sourceType ∧ l.sourceId = topUp.id)) ∧
      lots' = lots.insert (topUpLot now topUp quota sourceType))

variable {rem : Int} {sourceType : LotSource} {subId : Nat} {ds : List Draw} {l : WalletLot}
  {d : Draw}

theorem createWalletLotFromTopUpTx_ok {topUp : TopUp}
    (h : Tx.Ok (createWalletLotFromTopUpTx now topUp quota sourceType) db u db') :
    ∃ lots, db' = { db with walletLots := lots } ∧
      TopUpLotDue now topUp quota sourceType (db.exempt topUp.userId) db.walletLots lots := by
  unfold createWalletLotFromTopUpTx at h
  split at h
  next hq =>
    exact ⟨_, h.pure.2, .inl ⟨.inl hq, rfl⟩⟩
  next hq =>
    rcases unlessExempt_ok h with ⟨he, rfl⟩ | h
    · exact ⟨_, rfl, .inl ⟨.inr (.inl he), rfl⟩⟩
    · rcases firstOrCreateWalletLot_ok h with ⟨⟨l, hl, hp⟩, rfl⟩ | ⟨hn, rfl⟩
      · exact ⟨_, rfl, .inl ⟨.inr (.inr ⟨l, hl, by simpa using hp⟩), rfl⟩⟩
      · refine ⟨_, rfl, .inr ⟨by omega, fun l hl => ?_, rfl⟩⟩
        have := hn l hl
        simpa using this

theorem createWalletLotFromRedemptionTx_ok {redemption : Redemption}
    (h : Tx.Ok (createWalletLotFromRedemptionTx now redemption userId) db u db') :
    db' = db ∨ (0 < redemption.quota ∧
      db' =
    { db with walletLots := db.walletLots.insert (redemptionLot now redemption userId) }) := by
  unfold createWalletLotFromRedemptionTx at h
  split at h
  · exact .inl h.pure.2
  next hq =>
    rcases unlessExempt_ok h with ⟨_, rfl⟩ | h
    · exact .inl rfl
    · rcases firstOrCreateWalletLot_ok h with ⟨_, rfl⟩ | ⟨_, rfl⟩
      · exact .inl rfl
      · exact .inr ⟨by omega, rfl⟩

/-- The subscription lots after a paid order: one more, or the old ones for one of the
reasons given. -/
def OrderLotDue (now : Int) (order : SubscriptionOrder) (sub : UserSubscription) (exempt : Bool)
    (lots lots' : Table SubscriptionLot) : Prop :=
  ((sub.paidAmount ≤ 0 ∨ exempt = true ∨ ∃ l ∈ lots.rows, l.userSubscriptionId = sub.id) ∧
      lots' = lots) ∨
    (0 < sub.paidAmount ∧ (∀ l ∈ lots.rows, l.userSubscriptionId ≠ sub.id) ∧
      lots' = lots.insert (orderLot now order sub))

theorem createSubscriptionLotFromOrderTx_ok {order : SubscriptionOrder}
    (h : Tx.Ok (createSubscriptionLotFromOrderTx now order sub) db u db') :
    ∃ lots, db' = { db with subscriptionLots := lots } ∧
      OrderLotDue now order sub (db.exempt sub.userId) db.subscriptionLots lots := by
  unfold createSubscriptionLotFromOrderTx at h
  split at h
  next hq =>
    exact ⟨_, h.pure.2, .inl ⟨.inl hq, rfl⟩⟩
  next hq =>
    rcases unlessExempt_ok h with ⟨he, rfl⟩ | h
    · exact ⟨_, rfl, .inl ⟨.inr (.inl he), rfl⟩⟩
    · rcases firstOrCreateSubscriptionLot_ok h with ⟨hl, rfl⟩ | ⟨hn, rfl⟩
      · exact ⟨_, rfl, .inl ⟨.inr (.inr hl), rfl⟩⟩
      · exact ⟨_, rfl, .inr ⟨by omega, hn, rfl⟩⟩

theorem createSubscriptionLotFromAdminTx_ok
    (h : Tx.Ok (createSubscriptionLotFromAdminTx now sub) db u db') :
    db' = db ∨ ((∀ l ∈ db.subscriptionLots.rows, l.userSubscriptionId ≠ sub.id) ∧
      db' = { db with
        subscriptionLots := db.subscriptionLots.insert
          (subscriptionLot now sub sub.userId .admin sub.paidAmount 0 0 0) }) := by
  rcases unlessExempt_ok h with ⟨_, rfl⟩ | h
  · exact .inl rfl
  · rcases firstOrCreateSubscriptionLot_ok h with ⟨_, rfl⟩ | ⟨hn, rfl⟩
    · exact .inl rfl
    · exact .inr ⟨hn, rfl⟩

theorem createWalletLotFromQuotaGrantTx_ok
    (h : Tx.Ok (createWalletLotFromQuotaGrantTx now userId quota sourceType) db u db') :
    ((userId = 0 ∨ quota ≤ 0 ∨ db.exempt userId = true) ∧ db' = db) ∨
      (0 < quota ∧
        db' = { db with
          walletLots := db.walletLots.insert (grantLot now userId quota sourceType) }) := by
  unfold createWalletLotFromQuotaGrantTx at h
  split at h
  next hq =>
    exact .inl ⟨hq.imp_right .inl, h.pure.2⟩
  next hq =>
    rcases unlessExempt_ok h with ⟨he, rfl⟩ | h
    · exact .inl ⟨.inr (.inr he), rfl⟩
    · exact .inr ⟨by omega, h.exec⟩

/-! ## Drawing on lots -/

/-- The draws of `drawLots` and what they leave uncovered, without the saves. -/
def draws (skipEmpty : Bool) : List WalletLot → Int → List Draw × Int
  | [], remaining => ([], remaining)
  | lot :: lots, remaining =>
    if remaining ≤ 0 then ([], remaining)
    else if skipEmpty ∧ lot.quotaRemaining ≤ 0 then draws skipEmpty lots remaining
    else
      let d := takeFromLot lot remaining
      let rest := draws skipEmpty lots (remaining - d.useQuota)
      (d :: rest.1, rest.2)

theorem drawLots_ok {x : List Draw × Int} (h : Tx.Ok (drawLots skipEmpty lots remaining) db x db') :
    x = draws skipEmpty lots remaining ∧
      db' = { db with walletLots := db.walletLots.saveAll (x.1.map Draw.lot) } := by
  induction lots generalizing remaining x db db' with
  | nil =>
    obtain ⟨rfl, rfl⟩ := h.pure
    exact ⟨rfl, rfl⟩
  | cons lot lots ih =>
    unfold drawLots at h
    unfold draws
    split at h
    next hr =>
      rw [if_pos hr]
      obtain ⟨rfl, rfl⟩ := h.pure
      exact ⟨rfl, rfl⟩
    next hr =>
      rw [if_neg hr]
      split at h
      next hs =>
        rw [if_pos hs]
        exact ih h
      next hs =>
        rw [if_neg hs]
        obtain ⟨rest, db1, h1, h2⟩ := h.exec_bind.bind
        obtain ⟨rfl, rfl⟩ := ih h1
        obtain ⟨rfl, rfl⟩ := h2.pure
        exact ⟨rfl, rfl⟩

theorem mem_draws (h : d ∈ (draws skipEmpty lots remaining).1) :
    ∃ r, 0 < r ∧ d = takeFromLot d.before r := by
  induction lots generalizing remaining with
  | nil => cases h
  | cons lot lots ih =>
    unfold draws at h
    split at h
    · cases h
    next hr =>
      split at h
      · exact ih h
      · rcases mem_cons.1 h with rfl | h
        · exact ⟨remaining, by omega, rfl⟩
        · exact ih h

theorem draws_before_sublist (skipEmpty : Bool) (lots : List WalletLot) (remaining : Int) :
    ((draws skipEmpty lots remaining).1.map Draw.before).Sublist lots := by
  induction lots generalizing remaining with
  | nil => exact .slnil
  | cons lot lots ih =>
    unfold draws
    split
    · exact nil_sublist _
    · split
      · exact (ih remaining).cons _
      · exact (ih _).cons_cons _

theorem draws_useQuota_sum (skipEmpty : Bool) (lots : List WalletLot) (remaining : Int) :
    ((draws skipEmpty lots remaining).1.map Draw.useQuota).sum +
      (draws skipEmpty lots remaining).2 = remaining := by
  induction lots generalizing remaining with
  | nil => simp [draws]
  | cons lot lots ih =>
    unfold draws
    split
    · simp
    · split
      · exact ih remaining
      · have := ih (remaining - (takeFromLot lot remaining).useQuota)
        simp only [map_cons, sum_cons]
        omega

theorem draws_rest_nonneg (h : 0 ≤ remaining) : 0 ≤ (draws skipEmpty lots remaining).2 := by
  induction lots generalizing remaining with
  | nil => exact h
  | cons lot lots ih =>
    unfold draws
    split
    · exact h
    · split
      · exact ih h
      · refine ih ?_
        have : (takeFromLot lot remaining).useQuota ≤ remaining := min_le_left _ _
        omega

/-! ### What a draw does to its lot -/

abbrev WalletLot.Balanced (l : WalletLot) : Prop :=
  Share.Balanced l.quotaTotal l.quotaRemaining l.grossCNYBasis l.grossCNYRemaining

abbrev SubscriptionLot.Balanced (l : SubscriptionLot) : Prop :=
  Share.Balanced l.paidQuota l.remainingQuota l.grossCNYBasis l.grossCNYRemaining

theorem allocateLotPortion_eq {gross : ℚ} (hg : 0 ≤ gross) (hr : 0 < rem) (hu : 0 < use) :
    allocateLotPortion gross rem use = Share.portion gross rem use := by
  unfold allocateLotPortion Share.portion
  split
  next h =>
    have h0 : gross = 0 := by
      rcases h with h | h | h
      · omega
      · omega
      · exact le_antisymm h hg
    simp [h0]
  · rfl

theorem clearResidue_portion (gross : ℚ) (use : Int) (hr : 0 < rem) :
    clearResidue (rem - use) (gross - Share.portion gross rem use) =
      gross - Share.portion gross rem use := by
  unfold clearResidue
  split
  next h =>
    have : use = rem := by omega
    rw [this, Share.portion_self hr, sub_self]
  · rfl

section TakeFromLot

variable {lot : WalletLot}

@[simp] theorem takeFromLot_before : (takeFromLot lot remaining).before = lot := rfl

theorem takeFromLot_useQuota_pos (hl : 0 < lot.quotaRemaining) (hr : 0 < remaining) :
    0 < (takeFromLot lot remaining).useQuota := lt_min hr hl

theorem takeFromLot_useQuota_le (lot : WalletLot) (remaining : Int) :
    (takeFromLot lot remaining).useQuota ≤ lot.quotaRemaining := min_le_right _ _

variable (hb : lot.Balanced) (hl : 0 < lot.quotaRemaining) (hr : 0 < remaining)

include hb hl hr

theorem takeFromLot_portion : (takeFromLot lot remaining).portion =
      Share.portion lot.grossCNYRemaining lot.quotaRemaining (takeFromLot lot remaining).useQuota :=
  allocateLotPortion_eq hb.gross_nonneg hl (takeFromLot_useQuota_pos hl hr)

theorem takeFromLot_gross : (takeFromLot lot remaining).lot.grossCNYRemaining =
      lot.grossCNYRemaining - (takeFromLot lot remaining).portion := by
  have hp := takeFromLot_portion hb hl hr
  have hc := clearResidue_portion lot.grossCNYRemaining (takeFromLot lot remaining).useQuota hl
  rw [← hp] at hc
  exact hc

theorem takeFromLot_balanced : (takeFromLot lot remaining).lot.Balanced := by
  have h := hb.take hl (takeFromLot_useQuota_pos hl hr).le
    (takeFromLot_useQuota_le lot remaining)
  rw [← takeFromLot_portion hb hl hr, ← takeFromLot_gross hb hl hr] at h
  exact h

end TakeFromLot

/-! ### Draws on a user's open lots -/

def openLots (db : Database) (userId : Nat) : List WalletLot :=
  db.walletLots.filter fun l => l.userId = userId && 0 < l.quotaRemaining

theorem mem_openLots :
    l ∈ openLots db userId ↔ l ∈ db.walletLots.rows ∧ l.userId = userId ∧ 0 < l.quotaRemaining := by
  simp [openLots, Table.filter]

theorem openLots_nodup (db : Database) (userId : Nat) :
    ((openLots db userId).map WalletLot.id).Nodup :=
  (filter_sublist.map _).nodup db.walletLots.nodup

theorem reducibleLots_perm (db : Database) (userId : Nat) :
    (reducibleLots db userId).Perm (openLots db userId) :=
  perm_insertionSort _ _

theorem spendableLots_perm (db : Database) (userId : Nat) :
    (spendableLots db userId).Perm (openLots db userId) := by
  have h := filter_append_perm (fun l : WalletLot => decide (0 < l.grossCNYRemaining))
    (openLots db userId)
  refine (((perm_insertionSort _ _).append (perm_insertionSort _ _)).trans ?_).trans h
  refine Perm.of_eq ?_
  unfold openLots Table.filter
  rw [filter_filter, filter_filter]
  congr 1
  · congr 1; funext l; simp only [Bool.and_comm]
  · congr 1; funext l
    rw [Bool.and_comm]
    congr 1
    by_cases h : 0 < l.grossCNYRemaining <;> simp [h, not_lt.1, not_le.2]

section Draws

variable (hp : lots.Perm (openLots db userId)) {M : Type}

include hp

theorem draws_before_mem (hd : d ∈ (draws skipEmpty lots quota).1) :
    d.before ∈ db.walletLots.rows ∧ d.before.userId = userId ∧ 0 < d.before.quotaRemaining := by
  have h := (draws_before_sublist skipEmpty lots quota).subset (mem_map_of_mem hd)
  exact mem_openLots.1 (hp.subset h)

theorem sum_draws [AddCommGroup M] (g : WalletLot → M) :
    (db.walletLots.saveAll ((draws skipEmpty lots quota).1.map Draw.lot)).sum g =
      db.walletLots.sum g +
        ((draws skipEmpty lots quota).1.map fun d => g d.lot - g d.before).sum := by
  have hkey : ∀ d ∈ (draws skipEmpty lots quota).1, d.lot.id = d.before.id := by
    intro d hd
    obtain ⟨r, _, he⟩ := mem_draws hd
    rw [he]; rfl
  have hnd : ((draws skipEmpty lots quota).1.map fun d => Row.key d.before).Nodup := by
    have := ((draws_before_sublist skipEmpty lots quota).map WalletLot.id).nodup
      ((hp.map _).nodup_iff.2 (openLots_nodup db userId))
    rwa [map_map] at this
  have h := fun h1 h2 h3 => sum_saveAll (t := db.walletLots)
    ((draws skipEmpty lots quota).1.map fun d => (d.before, d.lot)) h1 h2 h3 g
  simp only [map_map, Function.comp_def] at h
  refine h ?_ ?_ hnd
  · intro p hp'
    obtain ⟨d, hd, rfl⟩ := mem_map.1 hp'
    exact (draws_before_mem hp hd).1
  · intro p hp'
    obtain ⟨d, hd, rfl⟩ := mem_map.1 hp'
    exact hkey d hd

theorem balanced_draws (hb : ∀ l ∈ db.walletLots.rows, l.Balanced)
    (hl : l ∈ (db.walletLots.saveAll ((draws skipEmpty lots quota).1.map Draw.lot)).rows) :
    l.Balanced := by
  rcases mem_of_mem_saveAll hl with hl | hl
  · obtain ⟨d, hd, rfl⟩ := mem_map.1 hl
    obtain ⟨hm, _, hq⟩ := draws_before_mem hp hd
    obtain ⟨r, hr, he⟩ := mem_draws hd
    rw [he]
    exact takeFromLot_balanced (hb _ hm) hq hr
  · exact hb l hl

theorem gross_draws (hb : ∀ l ∈ db.walletLots.rows, l.Balanced) :
    (db.walletLots.saveAll ((draws skipEmpty lots quota).1.map Draw.lot)).sum
        WalletLot.grossCNYRemaining =
      db.walletLots.sum WalletLot.grossCNYRemaining -
        totalPortion (draws skipEmpty lots quota).1 := by
  rw [sum_draws hp, sub_eq_add_neg]
  congr 1
  unfold totalPortion
  rw [sum_neg]
  congr 1
  rw [map_map]
  refine map_congr_left fun d hd => ?_
  obtain ⟨hm, _, hq⟩ := draws_before_mem hp hd
  obtain ⟨r, hr, he⟩ := mem_draws hd
  have := takeFromLot_gross (hb _ hm) hq hr
  rw [← he] at this
  simp [this]

theorem sum_draws_congr [AddCommGroup M]
    {g : WalletLot → M} (hg : ∀ l r, g (takeFromLot l r).lot = g l) :
    (db.walletLots.saveAll ((draws skipEmpty lots quota).1.map Draw.lot)).sum g =
      db.walletLots.sum g := by
  rw [sum_draws hp]
  have hz : ((draws skipEmpty lots quota).1.map fun d => g d.lot - g d.before) =
      (draws skipEmpty lots quota).1.map fun _ => 0 := by
    refine map_congr_left fun d hd => ?_
    obtain ⟨r, _, he⟩ := mem_draws hd
    rw [he, takeFromLot_before, hg, sub_self]
  rw [hz]; simp

end Draws

/-! ## Moving lots -/

theorem getSpendableWalletLotsTx_ok (h : Tx.Ok (getSpendableWalletLotsTx userId) db lots db') :
    lots = spendableLots db userId ∧ db' = db := by
  obtain ⟨_, db1, h1, h2⟩ := Tx.Ok.bind h
  obtain rfl := h1.stmt
  exact h2.query

/-- A purchase draws on the wallet lots and puts what it drew into the lot of the
subscription, unless that subscription has a lot already. -/
theorem createSubscriptionLotFromWalletTx_ok {paidQuota : Int}
    (h : Tx.Ok (createSubscriptionLotFromWalletTx now userId sub paidQuota) db u db') :
    db' = db ∨
      (0 < paidQuota ∧ (draws true (spendableLots db userId) paidQuota).2 ≤ 0 ∧
        ∃ db1, db1 = { db with
            walletLots := db.walletLots.saveAll
              ((draws true (spendableLots db userId) paidQuota).1.map Draw.lot) } ∧
          ((∃ l ∈ db.subscriptionLots.rows, l.userSubscriptionId = sub.id) ∧ db' = db1 ∨
            (∀ l ∈ db.subscriptionLots.rows, l.userSubscriptionId ≠ sub.id) ∧
            db' = { db1 with
              subscriptionLots := db.subscriptionLots.insert
                (subscriptionLot now sub userId .wallet paidQuota
                  (totalPortion (draws true (spendableLots db userId) paidQuota).1) 0 0) })) := by
  unfold createSubscriptionLotFromWalletTx at h
  split at h
  · exact .inl h.pure.2
  next hq =>
    rcases unlessExempt_ok h with ⟨_, rfl⟩ | h
    · exact .inl rfl
    · obtain ⟨lots, db1, h1, h2⟩ := h.bind
      obtain ⟨rfl, rfl⟩ := getSpendableWalletLotsTx_ok h1
      obtain ⟨x, db2, h3, h4⟩ := h2.bind
      obtain ⟨rfl, rfl⟩ := drawLots_ok h3
      obtain ⟨hrest, h5⟩ := h4.failIf_bind
      exact .inr ⟨by omega, by omega, _, rfl, firstOrCreateSubscriptionLot_ok h5⟩

theorem SubscriptionLot.take_portion (hb : lot.Balanced) (hl : 0 < lot.remainingQuota)
    (hu : 0 < use) :
    (lot.take use
        (allocateLotPortion lot.grossCNYRemaining lot.remainingQuota use)).grossCNYRemaining =
      lot.grossCNYRemaining -
        allocateLotPortion lot.grossCNYRemaining lot.remainingQuota use := by
  rw [allocateLotPortion_eq hb.gross_nonneg hl hu]
  exact clearResidue_portion _ _ hl

theorem SubscriptionLot.take_balanced (hb : lot.Balanced) (hl : 0 < lot.remainingQuota)
    (hu : 0 < use) (hle : use ≤ lot.remainingQuota) :
    (lot.take use (allocateLotPortion lot.grossCNYRemaining lot.remainingQuota use)).Balanced := by
  have h := Share.Balanced.take hb hl hu.le hle
  rw [← allocateLotPortion_eq hb.gross_nonneg hl hu, ← SubscriptionLot.take_portion hb hl hu] at h
  exact h

theorem findSubscriptionLot_ok {o : Option SubscriptionLot}
    (h : Tx.Ok (findSubscriptionLot subId) db o db') :
    o = db.subscriptionLots.first? (·.userSubscriptionId = subId) ∧ db' = db := h.query

/-- A transfer takes quota and its money out of the subscription lot and makes a wallet
lot of both. -/
theorem transferSubscriptionLotToWalletTx_ok {refundQuota : Int}
    (h : Tx.Ok (transferSubscriptionLotToWalletTx now sub refundQuota) db u db') :
    db' = db ∨ ∃ lot ∈ db.subscriptionLots.rows, ∃ use portion,
      lot.userSubscriptionId = sub.id ∧ 0 < lot.remainingQuota ∧ 0 < use ∧
      use ≤ lot.remainingQuota ∧ use ≤ refundQuota ∧
      portion = allocateLotPortion lot.grossCNYRemaining lot.remainingQuota use ∧
      db' = { db with
        subscriptionLots := db.subscriptionLots.save
          { lot.take use portion with status := .cancelled }
        walletLots := db.walletLots.insert (refundLot now sub use portion) } := by
  unfold transferSubscriptionLotToWalletTx at h
  split at h
  · exact .inl h.pure.2
  next hq =>
    rcases unlessExempt_ok h with ⟨_, rfl⟩ | h
    · exact .inl rfl
    · obtain ⟨o, db1, h1, h2⟩ := h.bind
      obtain ⟨rfl, rfl⟩ := findSubscriptionLot_ok h1
      cases hf : db1.subscriptionLots.first? (·.userSubscriptionId = sub.id) with
      | none => rw [hf] at h2; exact .inl h2.pure.2
      | some lot =>
        obtain ⟨hm, hid⟩ := mem_of_first? hf
        rw [hf] at h2
        simp only at h2
        split at h2
        · exact .inl h2.pure.2
        next hr =>
          obtain rfl := h2.exec_bind.exec
          refine .inr ⟨lot, hm, min refundQuota lot.remainingQuota, _, by simpa using hid,
            by omega, by omega, min_le_right _ _, min_le_left _ _, rfl, rfl⟩

theorem recognizeSubscriptionBreakageTx_ok
    (h : Tx.Ok (recognizeSubscriptionBreakageTx now subId) db u db') :
    db' = db ∨ ∃ lot ∈ db.subscriptionLots.rows, lot.userSubscriptionId = subId ∧
      (db' = { db with
          subscriptionLots := db.subscriptionLots.save { lot with status := .expired } } ∨
        0 < lot.remainingQuota ∧ 0 < lot.grossCNYRemaining ∧
        db' = { db with
          breakageSettlements := db.breakageSettlements.insert
            { id := 0, userId := lot.userId, sourceLotType := .subscription, sourceLotId := lot.id
              amountCNY := lot.grossCNYRemaining, createdAt := now }
          subscriptionLots := db.subscriptionLots.save
            { lot with grossCNYRemaining := 0, remainingQuota := 0, status := .expired } }) := by
  unfold recognizeSubscriptionBreakageTx at h
  split at h
  · exact .inl h.pure.2
  · obtain ⟨o, db1, h1, h2⟩ := h.bind
    obtain ⟨rfl, rfl⟩ := findSubscriptionLot_ok h1
    cases hf : db1.subscriptionLots.first? (·.userSubscriptionId = subId) with
    | none => rw [hf] at h2; exact .inl h2.pure.2
    | some lot =>
      obtain ⟨hm, hid⟩ := mem_of_first? hf
      rw [hf] at h2
      simp only at h2
      split at h2
      · split at h2
        · exact .inl h2.pure.2
        · exact .inr ⟨lot, hm, by simpa using hid, .inl h2.exec⟩
      next hr =>
        rw [not_or, not_le, not_le] at hr
        exact .inr ⟨lot, hm, by simpa using hid, .inr ⟨hr.1, hr.2, h2.exec_bind.exec⟩⟩

/-! ## Fees -/

/-- The ledger after a payment: one fee row more, or the old ledger for one of the reasons
given. -/
def FeeDue (now : Int) (relatedType : RelatedType) (relatedId userId : Nat) (fee : ℚ)
    (exempt : Bool) (ledgers ledgers' : Table FinanceLedger) : Prop :=
  ((relatedId = 0 ∨ fee ≤ 0 ∨ exempt = true ∨
      ∃ l ∈ ledgers.rows, l.type = .paymentFee ∧ l.relatedType = relatedType ∧
        l.relatedId = relatedId) ∧ ledgers' = ledgers) ∨
    (relatedId ≠ 0 ∧ 0 < fee ∧
      (∀ l ∈ ledgers.rows, ¬ (l.type = .paymentFee ∧ l.relatedType = relatedType ∧
        l.relatedId = relatedId)) ∧
      ledgers' = ledgers.insert
        { id := 0, userId, type := .paymentFee, relatedType, relatedId
          amountCNY := -fee, createdAt := now })

theorem recordPaymentFeeLedgerTx_ok {relatedType : RelatedType} {relatedId : Nat} {fee : ℚ}
    (h : Tx.Ok (recordPaymentFeeLedgerTx now relatedType relatedId userId fee) db u db') :
    ∃ ledgers, db' = { db with financeLedgers := ledgers } ∧
      FeeDue now relatedType relatedId userId fee (db.exempt userId) db.financeLedgers ledgers := by
  unfold recordPaymentFeeLedgerTx at h
  split at h
  next hq =>
    exact ⟨_, h.pure.2, .inl ⟨hq.imp_right .inl, rfl⟩⟩
  next hq =>
    rw [not_or, not_le] at hq
    rcases unlessExempt_ok h with ⟨he, rfl⟩ | h
    · exact ⟨_, rfl, .inl ⟨.inr (.inr (.inl he)), rfl⟩⟩
    · have hk := h.query_bind
      cases hf : db.financeLedgers.first? fun l =>
          l.type = .paymentFee && l.relatedType = relatedType && l.relatedId = relatedId with
      | none =>
        rw [hf] at hk
        refine ⟨_, hk.exec, .inr ⟨hq.1, hq.2, fun l hl => ?_, rfl⟩⟩
        simpa [and_assoc] using Table.first?_eq_none.1 hf l hl
      | some l =>
        rw [hf] at hk
        have hm := mem_of_first? hf
        refine ⟨_, hk.pure.2, .inl ⟨.inr (.inr (.inr ⟨l, hm.1, ?_⟩)), rfl⟩⟩
        simpa [and_assoc] using hm.2

/-! ## Lots and quota -/

theorem ensureWalletLotsCoverCurrentQuotaTx_ok
    (h : Tx.Ok (ensureWalletLotsCoverCurrentQuotaTx now userId) db u db') :
    (db' = db ∧ (userId = 0 ∨ db.exempt userId = true ∨
        ∃ user, db.liveUser? userId = some user ∧ user.quota ≤ db.coveredQuota userId)) ∨
      ∃ user, db.liveUser? userId = some user ∧ db.coveredQuota userId < user.quota ∧
        db' = { db with
          walletLots := db.walletLots.insert
            (grantLot now userId (user.quota - db.coveredQuota userId) .gift) } := by
  unfold ensureWalletLotsCoverCurrentQuotaTx at h
  split at h
  next hu =>
    exact .inl ⟨h.pure.2, .inl hu⟩
  next hu =>
    rcases unlessExempt_ok h with ⟨he, rfl⟩ | h
    · exact .inl ⟨rfl, .inr (.inl he)⟩
    · obtain ⟨user, hf, h1⟩ := h.first_bind
      have h2 := h1.query_bind
      split at h2
      next hq =>
        exact .inl ⟨h2.pure.2, .inr (.inr ⟨user, hf, by omega⟩)⟩
      next hq =>
        rcases createWalletLotFromQuotaGrantTx_ok h2 with ⟨h, rfl⟩ | ⟨_, rfl⟩
        · rcases h with h0 | hle | he
          · exact absurd h0 hu
          · omega
          · exact .inl ⟨rfl, .inr (.inl he)⟩
        · exact .inr ⟨user, hf, by omega, rfl⟩

theorem reduceWalletLotsForAdminAdjustmentTx_ok {reduceQuota : Int}
    (h : Tx.Ok (reduceWalletLotsForAdminAdjustmentTx userId reduceQuota) db ds db') :
    ((userId = 0 ∨ reduceQuota ≤ 0 ∨ db.exempt userId = true) ∧ ds = [] ∧ db' = db) ∨
      (0 < reduceQuota ∧ (draws false (reducibleLots db userId) reduceQuota).2 ≤ 0 ∧
        ds = (draws false (reducibleLots db userId) reduceQuota).1 ∧
        db' = { db with walletLots := db.walletLots.saveAll (ds.map Draw.lot) }) := by
  unfold reduceWalletLotsForAdminAdjustmentTx at h
  split at h
  next hq =>
    exact .inl ⟨hq.imp_right .inl, h.pure⟩
  next hq =>
    obtain ⟨b, db1, h1, h2⟩ := h.bind
    obtain ⟨hb, rfl⟩ := isProfitExemptUserTx_ok h1
    cases b with
    | true => exact .inl ⟨.inr (.inr (hb rfl)), h2.pure⟩
    | false =>
      obtain ⟨x, db2, h3, h4⟩ := h2.query_bind.bind
      obtain ⟨rfl, rfl⟩ := drawLots_ok h3
      obtain ⟨hrest, h5⟩ := h4.failIf_bind
      obtain ⟨rfl, rfl⟩ := h5.pure
      exact .inr ⟨by omega, by omega, rfl, rfl⟩

/-- The lots are brought to the target by a grant or by a reduction, after the backfill. -/
theorem syncWalletLotsToUserQuotaTx_ok {targetQuota : Int}
    (h : Tx.Ok (syncWalletLotsToUserQuotaTx now userId targetQuota) db ds db') :
    (ds = [] ∧ db' = db) ∨
      ∃ db1, Tx.Ok (ensureWalletLotsCoverCurrentQuotaTx now userId) db () db1 ∧
        ((ds = [] ∧ db' = db1) ∨
          (ds = [] ∧ ∃ quota, Tx.Ok (createWalletLotFromQuotaGrantTx now userId quota .gift)
            db1 () db') ∨
          ∃ quota, Tx.Ok (reduceWalletLotsForAdminAdjustmentTx userId quota) db1 ds db') := by
  unfold syncWalletLotsToUserQuotaTx at h
  split at h
  · exact .inl h.pure
  · obtain ⟨b, db1, h1, h2⟩ := h.bind
    obtain ⟨_, rfl⟩ := isProfitExemptUserTx_ok h1
    cases b with
    | true => exact .inl h2.pure
    | false =>
      obtain ⟨_, db2, h3, h4⟩ := Tx.Ok.bind h2
      refine .inr ⟨db2, h3, ?_⟩
      have h5 := h4.query_bind
      split at h5
      · obtain ⟨_, db3, h6, h7⟩ := h5.bind
        obtain ⟨rfl, rfl⟩ := h7.pure
        exact .inr (.inl ⟨rfl, _, h6⟩)
      · split at h5
        · exact .inr (.inr ⟨_, h5⟩)
        · exact .inl h5.pure

/-! ## Usage settlements -/

theorem createUsageSettlements_ok {ss : List UsageSettlement}
    (h : Tx.Ok (createUsageSettlements ss) db u db') :
    db' = { db with usageSettlements := ss.foldl Table.insert db.usageSettlements } := by
  induction ss generalizing db db' with
  | nil => exact h.pure.2
  | cons s ss ih => exact ih h.exec_bind

theorem map_walletSettlements (now : Int) (input : ProfitUsageInput) (ds : List Draw) :
    (walletSettlements now input ds).map UsageSettlement.realizedRevenueCNY =
        ds.map Draw.portion ∧
      (walletSettlements now input ds).map UsageSettlement.quotaUsed = ds.map Draw.useQuota := by
  unfold walletSettlements
  constructor
  all_goals
    refine ext_getElem (by simp) fun i h1 h2 => ?_
    simp [usageSettlement]

theorem consumeWalletLotsForUsageTx_ok
    (h : Tx.Ok (consumeWalletLotsForUsageTx now input) db x db') :
    (draws true (spendableLots db input.userId) input.quotaUsed).2 ≤ 0 ∧
      ∃ ds, ds = (draws true (spendableLots db input.userId) input.quotaUsed).1 ∧
        db' = { db with
          walletLots := db.walletLots.saveAll (ds.map Draw.lot)
          usageSettlements :=
            (walletSettlements now input ds).foldl .insert db.usageSettlements } := by
  obtain ⟨lots, db1, h1, h2⟩ := h.bind
  obtain ⟨rfl, rfl⟩ := getSpendableWalletLotsTx_ok h1
  obtain ⟨y, db2, h3, h4⟩ := h2.bind
  obtain ⟨rfl, rfl⟩ := drawLots_ok h3
  obtain ⟨hrest, h5⟩ := h4.failIf_bind
  obtain ⟨_, db3, h6, h7⟩ := h5.bind
  obtain rfl := createUsageSettlements_ok h6
  obtain ⟨_, rfl⟩ := h7.pure
  exact ⟨by omega, _, rfl, rfl⟩

theorem consumeSubscriptionLotForUsageTx_ok (hq : 0 < input.quotaUsed)
    (h : Tx.Ok (consumeSubscriptionLotForUsageTx now input) db x db') :
    db' = db ∨ ∃ lot ∈ db.subscriptionLots.rows, ∃ use revenue, ∃ s : UsageSettlement,
      0 < lot.remainingQuota ∧ 0 < use ∧ use ≤ lot.remainingQuota ∧
      revenue = allocateLotPortion lot.grossCNYRemaining lot.remainingQuota use ∧
      s.realizedRevenueCNY = revenue ∧
      db' = { db with
        subscriptionLots := db.subscriptionLots.save (lot.take use revenue)
        usageSettlements := db.usageSettlements.insert s } := by
  unfold consumeSubscriptionLotForUsageTx at h
  split at h
  · exact .inl h.pure.2
  · obtain ⟨lot, hf, h1⟩ := h.first_bind
    obtain ⟨hm, _⟩ := mem_of_first? hf
    split at h1
    · exact .inl h1.pure.2
    next hr =>
      obtain ⟨_, rfl⟩ := h1.exec_bind.exec_bind.pure
      exact .inr ⟨lot, hm, min input.quotaUsed lot.remainingQuota, _, _, by omega, by omega,
        min_le_right _ _, rfl, rfl, rfl⟩

theorem recordAdminExpenseUsageSettlementTx_ok
    (h : Tx.Ok (recordAdminExpenseUsageSettlementTx now input) db x db') :
    db' = db ∨ ∃ s : UsageSettlement, s.realizedRevenueCNY = 0 ∧
      db' = { db with usageSettlements := db.usageSettlements.insert s } := by
  have h1 := h.query_bind
  split at h1
  · exact .inl h1.pure.2
  · obtain ⟨_, rfl⟩ := h1.exec_bind.pure
    exact .inr ⟨_, rfl, rfl⟩

/-- A usage settlement is an admin expense, a repeat without effect, or a backfill followed
by the consumption of the right kind of lot. -/
theorem recordUsageSettlementTx_ok (h : Tx.Ok (recordUsageSettlementTx now input) db x db') :
    (db.exempt input.userId = true ∧
        Tx.Ok (recordAdminExpenseUsageSettlementTx now input) db x db') ∨
      (settlementExists db input.requestId input.sourceType = true ∧ db' = db) ∨
      (settlementExists db input.requestId input.sourceType = false ∧
        ∃ db1, Tx.Ok (ensureWalletLotsCoverCurrentQuotaTx now input.userId) db () db1 ∧
          ((input.sourceType = .subscription ∧
              Tx.Ok (consumeSubscriptionLotForUsageTx now input) db1 x db') ∨
            (input.sourceType ≠ .subscription ∧
              Tx.Ok (consumeWalletLotsForUsageTx now input) db1 x db'))) := by
  obtain ⟨b, db1, h1, h2⟩ := h.bind
  obtain ⟨hb, rfl⟩ := isProfitExemptUserTx_ok h1
  cases b with
  | true => exact .inl ⟨hb rfl, h2⟩
  | false =>
    have h3 := Tx.Ok.query_bind h2
    split at h3
    next he =>
      exact .inr (.inl ⟨he, h3.pure.2⟩)
    next he =>
      obtain ⟨_, db2, h4, h5⟩ := h3.bind
      refine .inr (.inr ⟨by simpa using he, db2, h4, ?_⟩)
      split at h5
      next hs =>
        exact .inl ⟨hs, h5⟩
      next hs =>
        exact .inr ⟨hs, h5⟩

end Xingkong
