import Xingkong.Lib.Drain
import Xingkong.Spec.Profit

/-!
# Settling usage on wallet lots

A round of draws drains the lots from the front (`Xingkong.Lib.Drain`), with the money as its
yield. The lots a settlement leaves are the drained ones (`spendableLots_drained`), so that the
next settlement starts where this one ended. The second half evaluates the settlement functions
for a database that carries out every statement.
-/

namespace Xingkong

open Rdb Drain List

variable {db db' : Database} {lots : List WalletLot} {lot x : WalletLot} {userId : Nat}

/-! ## Lots as vessels -/

def WalletLot.spend (lot : WalletLot) (use : Int) : WalletLot :=
  { lot with
    quotaRemaining := lot.quotaRemaining - use
    grossCNYRemaining :=
      clearResidue (lot.quotaRemaining - use)
        (lot.grossCNYRemaining -
          allocateLotPortion lot.grossCNYRemaining lot.quotaRemaining use) }

section Portions

variable {gross : ℚ} {rem m n : Int}

theorem allocateLotPortion_of_nonpos (hg : gross ≤ 0) : allocateLotPortion gross rem m = 0 :=
  if_pos (.inr (.inr hg))

theorem allocateLotPortion_of_pos (hg : 0 < gross) (hr : 0 < rem) (hm : 0 < m) :
    allocateLotPortion gross rem m = gross * m / rem := by
  refine if_neg ?_
  rintro (h | h | h)
  · omega
  · omega
  · exact absurd hg (not_lt.mpr h)

theorem clearResidue_of_ne (h : rem ≠ 0) : clearResidue rem gross = gross :=
  if_neg fun hc => h hc.1

theorem gross_left (hg : 0 < gross) (hr : 0 < rem) (hm : 0 < m) :
    gross - allocateLotPortion gross rem m = gross * (rem - m : Int) / rem := by
  rw [allocateLotPortion_of_pos hg hr hm]
  push_cast
  field_simp

theorem gross_left_pos (hg : 0 < gross) (hm : 0 < m) (hlt : m < rem) :
    0 < gross - allocateLotPortion gross rem m := by
  have hr' : (0 : ℚ) < rem := by exact_mod_cast hm.trans hlt
  rw [gross_left hg (by omega) hm]
  positivity

theorem allocateLotPortion_add (gross : ℚ) (hm : 0 < m) (hn : 0 < n) (h : m + n ≤ rem) :
    allocateLotPortion gross rem m +
        allocateLotPortion (gross - allocateLotPortion gross rem m) (rem - m) n =
      allocateLotPortion gross rem (m + n) := by
  rcases le_or_gt gross 0 with hg | hg
  · rw [allocateLotPortion_of_nonpos hg, sub_zero, allocateLotPortion_of_nonpos hg,
      allocateLotPortion_of_nonpos hg, add_zero]
  · have hr' : (rem : ℚ) ≠ 0 := by exact_mod_cast (by omega : rem ≠ 0)
    have h : ((rem - m : Int) : ℚ) ≠ 0 := by exact_mod_cast (by omega : rem - m ≠ 0)
    rw [allocateLotPortion_of_pos (gross_left_pos hg hm (by omega)) (by omega) hn,
      gross_left hg (by omega) hm, allocateLotPortion_of_pos hg (by omega) hm,
      allocateLotPortion_of_pos hg (by omega) (by omega)]
    push_cast at h ⊢
    field_simp

end Portions

theorem spend_gross {m : Int} (h : m < lot.quotaRemaining) :
    (lot.spend m).grossCNYRemaining =
      lot.grossCNYRemaining - allocateLotPortion lot.grossCNYRemaining lot.quotaRemaining m :=
  clearResidue_of_ne (by omega)

/-- A wallet lot holds quota, and taking quota from it yields the money that goes with it. -/
def lotVessel : Vessel WalletLot ℚ where
  level := WalletLot.quotaRemaining
  take := WalletLot.spend
  yield lot n := allocateLotPortion lot.grossCNYRemaining lot.quotaRemaining n
  level_take _ _ := rfl
  take_take := by
    intro lot m n hm hn h
    have hadd := allocateLotPortion_add lot.grossCNYRemaining hm hn h
    have hgross := spend_gross (m := m) (by omega : m < lot.quotaRemaining)
    simp only [WalletLot.spend] at hgross ⊢
    simp only [hgross, sub_sub, hadd]
  yield_add := by
    intro lot m n hm hn h
    have hleft : (lot.spend m).quotaRemaining = lot.quotaRemaining - m := rfl
    rw [spend_gross (by omega), hleft]
    exact allocateLotPortion_add _ hm hn h

/-! ## Draws as draining -/

section Draws

variable {n : Int}

theorem draws_of_nonpos (hn : n ≤ 0) : draws true lots n = ([], n) := by
  cases lots with
  | nil => rfl
  | cons lot lots => exact if_pos hn

theorem draws_cons_of_empty (h : lot.quotaRemaining ≤ 0) :
    draws true (lot :: lots) n = draws true lots n := by
  rcases le_or_gt n 0 with hn | hn
  · rw [draws_of_nonpos hn, draws_of_nonpos hn]
  · exact (if_neg (by omega)).trans (if_pos ⟨rfl, h⟩)

theorem draws_cons_of_pos (hn : 0 < n) (h : 0 < lot.quotaRemaining) :
    draws true (lot :: lots) n =
      (takeFromLot lot n :: (draws true lots (n - min n lot.quotaRemaining)).1,
        (draws true lots (n - min n lot.quotaRemaining)).2) :=
  (if_neg (by omega)).trans (if_neg fun hc => absurd hc.2 (by omega))

section

variable (lots : List WalletLot) (n : Int)

theorem draws_eq_drain : totalPortion (draws true lots n).1 = gain lotVessel lots n ∧
      (draws true lots n).2 = rest lotVessel lots n := by
  induction lots generalizing n with
  | nil => exact ⟨rfl, rfl⟩
  | cons lot lots ih =>
    rcases le_or_gt n 0 with hn | hn
    · rw [draws_of_nonpos hn, gain_of_nonpos hn, rest_of_nonpos hn]
      exact ⟨rfl, rfl⟩
    rcases le_or_gt lot.quotaRemaining 0 with hl | hl
    · rw [draws_cons_of_empty hl, gain_cons_of_le (.inr hl), rest_cons_of_le (.inr hl)]
      exact ih n
    · obtain ⟨h, hrest⟩ := ih (n - min n lot.quotaRemaining)
      rw [draws_cons_of_pos hn hl, gain_cons_of_pos hn hl, rest_cons_of_pos hn hl]
      refine ⟨?_, hrest⟩
      exact congrArg _ h

theorem draws_filter :
    draws true (lots.filter fun l => 0 < l.quotaRemaining) n = draws true lots n := by
  induction lots generalizing n with
  | nil => rfl
  | cons lot lots ih =>
    rcases le_or_gt lot.quotaRemaining 0 with hl | hl
    · rw [filter_cons_of_neg (by simpa using hl), draws_cons_of_empty hl, ih]
    · rw [filter_cons_of_pos (by simpa using hl)]
      rcases le_or_gt n 0 with hn | hn
      · rw [draws_of_nonpos hn, draws_of_nonpos hn]
      · rw [draws_cons_of_pos hn hl, draws_cons_of_pos hn hl, ih]

def drawn (lots : List WalletLot) (n : Int) (x : WalletLot) : WalletLot :=
  (((draws true lots n).1.map Draw.lot).find? fun l => l.id = x.id).getD x

theorem draws_ids_sublist :
    (((draws true lots n).1.map Draw.lot).map WalletLot.id).Sublist (lots.map WalletLot.id) := by
  have h := (draws_before_sublist true lots n).map WalletLot.id
  rw [map_map] at h ⊢
  have h : (draws true lots n).1.map (WalletLot.id ∘ Draw.lot) =
      (draws true lots n).1.map (WalletLot.id ∘ Draw.before) := by
    refine map_congr_left fun d hd => ?_
    obtain ⟨r, -, he⟩ := mem_draws hd
    rw [he]
    rfl
  rwa [h]

end

theorem drawn_of_not_mem (hx : x.id ∉ lots.map WalletLot.id) :
    drawn lots n x = x := by
  have h : (((draws true lots n).1.map Draw.lot).find? fun l => l.id = x.id) = none := by
    refine List.find?_eq_none.mpr fun l hl => ?_
    have hmem := (draws_ids_sublist lots n).subset (mem_map_of_mem hl)
    intro heq
    rw [of_decide_eq_true heq] at hmem
    exact hx hmem
  rw [drawn, h]
  rfl

theorem map_drawn (hnd : (lots.map WalletLot.id).Nodup) :
    lots.map (drawn lots n) = drain lotVessel lots n := by
  induction lots generalizing n with
  | nil => rfl
  | cons lot lots ih =>
    rw [map_cons, nodup_cons] at hnd
    rcases le_or_gt n 0 with hn | hn
    · rw [drain_of_nonpos hn]
      refine map_congr_left (g := id) (fun x _ => ?_) |>.trans (map_id _)
      rw [drawn, draws_of_nonpos hn]
      rfl
    rcases le_or_gt lot.quotaRemaining 0 with hl | hl
    · have h : drawn (lot :: lots) n = drawn lots n := by
        funext x
        rw [drawn, draws_cons_of_empty hl, drawn]
      rw [drain_cons_of_le (.inr hl), h, map_cons, ih hnd.2, drawn_of_not_mem hnd.1]
    · rw [drain_cons_of_pos hn hl, map_cons]
      refine congrArg₂ List.cons ?_ ?_
      · rw [drawn, draws_cons_of_pos hn hl, map_cons, List.find?_cons_of_pos (by simp; rfl)]
        rfl
      · rw [← ih hnd.2]
        refine map_congr_left fun x hx => ?_
        have hne : (takeFromLot lot n).lot.id ≠ x.id := fun h => hnd.1 (h ▸ mem_map_of_mem hx)
        rw [drawn, draws_cons_of_pos hn hl, map_cons, List.find?_cons_of_neg (by simpa using hne)]
        rfl

theorem drain_ids (lots : List WalletLot) (n : Int) :
    (drain lotVessel lots n).map WalletLot.id = lots.map WalletLot.id := by
  induction lots generalizing n with
  | nil => rfl
  | cons l lots ih =>
    unfold drain
    split
    · rw [map_cons, map_cons, ih]
    · rw [map_cons, map_cons, ih]
      rfl

end Draws

/-! ## The lots after a settlement -/

instance : Std.Total olderFirst where
  total a b := by
    unfold olderFirst
    omega

instance : IsTrans WalletLot olderFirst where
  trans a b c := by
    unfold olderFirst
    omega

theorem insertionSort_filter_lots (hnd : (lots.map WalletLot.id).Nodup)
    (p : WalletLot → Bool) :
    (lots.filter p).insertionSort olderFirst = (lots.insertionSort olderFirst).filter p := by
  have hanti : ∀ a b, a ∈ (lots.filter p).insertionSort olderFirst →
      b ∈ (lots.insertionSort olderFirst).filter p → olderFirst a b → olderFirst b a → a = b := by
    intro a b ha hb hab hba
    have ha' : a ∈ lots := mem_of_mem_filter ((mem_insertionSort _).mp ha)
    have hb' : b ∈ lots := (mem_insertionSort _).mp (mem_of_mem_filter hb)
    refine inj_on_of_nodup_map hnd ha' hb' ?_
    unfold olderFirst at hab hba
    omega
  have hperm := (perm_insertionSort olderFirst (lots.filter p)).trans
    ((perm_insertionSort olderFirst lots).filter p).symm
  exact hperm.eq_of_pairwise hanti (pairwise_insertionSort _ _)
    ((pairwise_insertionSort _ _).filter p)

@[simp] theorem spend_userId (k : Int) : (lot.spend k).userId = lot.userId := rfl

@[simp] theorem spend_quotaRemaining (k : Int) :
    (lot.spend k).quotaRemaining = lot.quotaRemaining - k := rfl

section Settled

/-! A round of draws on the open lots of a user, in whatever order they are drawn on. -/

section

variable (hperm : lots.Perm (openLots db userId))

include hperm

theorem nodup_of_perm : (lots.map WalletLot.id).Nodup :=
  (hperm.map _).nodup_iff.mpr (openLots_nodup db userId)

theorem rows_saveAll_draws (n : Int) :
    (db.walletLots.saveAll ((draws true lots n).1.map Draw.lot)).rows =
      db.walletLots.rows.map (drawn lots n) :=
  Table.rows_saveAll db.walletLots ((draws_ids_sublist _ n).nodup (nodup_of_perm hperm))

theorem drawn_cases (n : Int) (hx : x ∈ db.walletLots.rows) :
    drawn lots n x = x ∨ ∃ k, 0 < k ∧ k ≤ x.quotaRemaining ∧ drawn lots n x = x.spend k := by
  unfold drawn
  cases h : ((draws true lots n).1.map Draw.lot).find? fun l => l.id = x.id with
  | none => exact .inl rfl
  | some l =>
    obtain ⟨d, hd, rfl⟩ := mem_map.mp (List.mem_of_find?_eq_some h)
    obtain ⟨r, hr, he⟩ := mem_draws hd
    obtain ⟨hmem, -, hpos⟩ := draws_before_mem hperm hd
    have hid : d.lot.id = x.id := by simpa using List.find?_some h
    have h : d.before = x := by
      refine Table.eq_of_key hmem hx ?_
      rw [he] at hid
      exact hid
    rw [h] at he hpos
    refine .inr ⟨min r x.quotaRemaining, by omega, by omega, ?_⟩
    rw [he]
    rfl

theorem find?_saveAll_draws (n : Int) (hx : x ∈ db.walletLots.rows) :
    (db.walletLots.saveAll ((draws true lots n).1.map Draw.lot)).find? x.id =
      some (drawn lots n x) := by
  rw [Table.find?_eq_some, rows_saveAll_draws hperm]
  refine ⟨mem_map_of_mem hx, ?_⟩
  rcases drawn_cases hperm n hx with h | ⟨k, -, -, h⟩
  · rw [h]
    rfl
  · rw [h]
    rfl

/-- **A lot is touched only when those drawn on before it are empty.** -/
theorem drawn_in_order {R : WalletLot → WalletLot → Prop}
    (n : Int) (hor : lots.Pairwise fun a b => ¬ R b a)
    (hirrefl : ∀ a, ¬ R a a) {a b : WalletLot} (ha : a ∈ openLots db userId)
    (hb : b ∈ openLots db userId) (hab : R a b) (htouched : drawn lots n b ≠ b) :
    (drawn lots n a).quotaRemaining = 0 := by
  obtain ⟨hrow, -, hopen⟩ := mem_openLots.mp ha
  obtain ⟨l1, l2, hlots⟩ := append_of_mem (hperm.mem_iff.mpr ha)
  -- The lot `b` stands behind `a` in the list.
  have hb2 : b ∈ l2 := by
    rw [hlots, pairwise_append] at hor
    have hmem := hperm.mem_iff.mpr hb
    rw [hlots, mem_append, mem_cons] at hmem
    rcases hmem with hmem | rfl | hmem
    · exact absurd hab (hor.2.2 b hmem a mem_cons_self)
    · exact absurd hab (hirrefl b)
    · exact hmem
  have h := map_drawn (n := n) (nodup_of_perm hperm)
  have hcases := drawn_cases hperm n hrow
  generalize drawn lots n = f at h htouched hcases ⊢
  rw [hlots, ← singleton_append, ← append_assoc, drain_append, map_append] at h
  obtain ⟨h1, h2⟩ := append_inj h (by
    have := congrArg List.length (drain_ids (l1 ++ [a]) n)
    simpa using this.symm)
  have h : drain lotVessel l2 (rest lotVessel (l1 ++ [a]) n) ≠ l2 := by
    rw [← h2]
    intro h2
    exact htouched (map_inj_left.mp (h2.trans (map_id l2).symm) b hb2)
  have h2 := empty_of_touched (l1 ++ [a]) h
  rw [← h1] at h2
  have hle : (f a).quotaRemaining ≤ 0 := h2 (f a) (mem_map_of_mem (by simp))
  rcases hcases with h | ⟨k, -, hk, h⟩
  · rw [h] at hle
    omega
  · rw [h, spend_quotaRemaining] at hle ⊢
    omega

end

variable (db) (userId : Nat) (n : Int)

def Database.spent : Database :=
  { db with
    walletLots := db.walletLots.saveAll
      ((draws true (spendableLots db userId) n).1.map Draw.lot) }

theorem spendableLots_nodup : ((spendableLots db userId).map WalletLot.id).Nodup :=
  nodup_of_perm (spendableLots_perm db userId)

theorem rows_spent :
    (db.spent userId n).walletLots.rows =
      db.walletLots.rows.map (drawn (spendableLots db userId) n) :=
  rows_saveAll_draws (spendableLots_perm db userId) n

variable {db userId n}

/-- **Spending part of a lot does not move it between the paid and the gift lots.** -/
theorem spend_paid {k : Int} (hk : 0 < k) (hlt : k < lot.quotaRemaining) :
    0 < (lot.spend k).grossCNYRemaining ↔ 0 < lot.grossCNYRemaining := by
  rw [spend_gross hlt]
  constructor
  · intro h
    by_contra hg
    rw [allocateLotPortion_of_nonpos (not_lt.mp hg), sub_zero] at h
    exact hg h
  · intro hg
    exact gross_left_pos hg hk hlt

variable (db userId n) in
theorem class_spent (p : WalletLot → Bool)
    (hp : ∀ x ∈ db.walletLots.rows, p (drawn (spendableLots db userId) n x) =
      (p x && decide (0 < (drawn (spendableLots db userId) n x).quotaRemaining))) :
    ((db.spent userId n).walletLots.filter p).insertionSort olderFirst =
      (((db.walletLots.filter p).insertionSort olderFirst).map
        (drawn (spendableLots db userId) n)).filter fun l => 0 < l.quotaRemaining := by
  generalize hf : drawn (spendableLots db userId) n = f at hp ⊢
  have hid : ∀ x ∈ db.walletLots.rows, (f x).id = x.id ∧ (f x).createdAt = x.createdAt := by
    intro x hx
    rw [← hf]
    rcases drawn_cases (spendableLots_perm db userId) n hx with h | ⟨k, -, -, h⟩
    all_goals
      rw [h]
      exact ⟨rfl, rfl⟩
  have hrows : ∀ x ∈ db.walletLots.filter p, x ∈ db.walletLots.rows :=
    fun x hx => mem_of_mem_filter hx
  have hsplit : (db.spent userId n).walletLots.filter p =
      ((db.walletLots.filter p).map f).filter fun l => 0 < l.quotaRemaining := by
    rw [Table.filter, rows_spent, hf, filter_map, filter_map, Table.filter, filter_filter]
    congr 1
    refine filter_congr fun x hx => ?_
    rw [Function.comp_apply, Function.comp_apply, hp x hx, Bool.and_comm]
  have hnd : (((db.walletLots.filter p).map f).map WalletLot.id).Nodup := by
    have hids : (db.walletLots.filter p).map (WalletLot.id ∘ f) =
        (db.walletLots.filter p).map WalletLot.id :=
      map_congr_left fun x hx => (hid x (hrows x hx)).1
    rw [map_map, hids]
    exact (filter_sublist.map _).nodup db.walletLots.nodup
  rw [hsplit, insertionSort_filter_lots hnd]
  congr 1
  symm
  refine map_insertionSort _ _ f _ fun a ha b hb => ?_
  obtain ⟨ha1, ha2⟩ := hid a (hrows a ha)
  obtain ⟨hb1, hb2⟩ := hid b (hrows b hb)
  unfold olderFirst
  rw [ha1, ha2, hb1, hb2]

theorem open_drawn (q : WalletLot → Bool)
    (hq : ∀ (x : WalletLot) (k : Int), 0 < k → k < x.quotaRemaining → q (x.spend k) = q x) :
    ∀ x ∈ db.walletLots.rows,
      (decide ((drawn (spendableLots db userId) n x).userId = userId) &&
          decide (0 < (drawn (spendableLots db userId) n x).quotaRemaining) &&
          q (drawn (spendableLots db userId) n x)) =
        (decide (x.userId = userId) && decide (0 < x.quotaRemaining) && q x &&
          decide (0 < (drawn (spendableLots db userId) n x).quotaRemaining)) := by
  intro x hx
  rcases drawn_cases (spendableLots_perm db userId) n hx with h | ⟨k, hk, hle, h⟩
  · rw [h]
    cases q x <;> cases decide (x.userId = userId) <;> simp
  · rw [h, spend_userId, spend_quotaRemaining]
    rcases eq_or_lt_of_le hle with rfl | hlt
    · simp
    · rw [hq x k hk hlt]
      have hpos : 0 < x.quotaRemaining := by omega
      simp [hpos, hlt]

/-- **The next settlement finds the lots this one left, in the same order.** -/
theorem spendableLots_spent :
    spendableLots (db.spent userId n) userId =
      (drain lotVessel (spendableLots db userId) n).filter fun l => 0 < l.quotaRemaining := by
  have hpaid := class_spent db userId n
    (fun l => l.userId = userId && 0 < l.quotaRemaining && 0 < l.grossCNYRemaining)
    (open_drawn (fun l => 0 < l.grossCNYRemaining) fun x k hk hlt =>
      decide_eq_decide.mpr (spend_paid hk hlt))
  have h := class_spent db userId n
    (fun l => l.userId = userId && 0 < l.quotaRemaining && l.grossCNYRemaining ≤ 0)
    (open_drawn (fun l => l.grossCNYRemaining ≤ 0) fun x k hk hlt => by
      rw [decide_eq_decide, ← not_lt, ← not_lt, spend_paid hk hlt])
  rw [← map_drawn (spendableLots_nodup db userId)]
  generalize drawn (spendableLots db userId) n = f at hpaid h ⊢
  rw [spendableLots, hpaid, h, spendableLots, map_append, filter_append]

end Settled

/-! ## Settlements that are carried out -/

section Eval

variable {now : Int} {input : ProfitUsageInput}

theorem eval_drawLots (skipEmpty : Bool) (lots : List WalletLot) (n : Int) (db : Database) :
    (drawLots skipEmpty lots n).eval db =
      .ok (draws skipEmpty lots n, { db with
        walletLots := db.walletLots.saveAll ((draws skipEmpty lots n).1.map Draw.lot) }) := by
  induction lots generalizing n db with
  | nil => rfl
  | cons lot lots ih =>
    unfold drawLots draws
    split
    · rfl
    split
    · exact ih n db
    · exact Tx.eval_bind_ok
        (f := fun rest : List Draw × Int => (pure (takeFromLot lot n :: rest.1, rest.2) : DbTx _))
        (ih (n - (takeFromLot lot n).useQuota)
          { db with walletLots := db.walletLots.save (takeFromLot lot n).lot })

theorem eval_createUsageSettlements (ss : List UsageSettlement) (db : Database) :
    (createUsageSettlements ss).eval db =
      .ok ((), { db with usageSettlements := ss.foldl Table.insert db.usageSettlements }) := by
  induction ss generalizing db with
  | nil => rfl
  | cons s ss ih =>
    rw [createUsageSettlements, createUsageSettlement, Tx.eval_exec_bind, ih]
    rfl

def Database.used (db : Database) (now : Int) (input : ProfitUsageInput) : Database :=
  { db.spent input.userId input.quotaUsed with
    usageSettlements :=
      (walletSettlements now input
        (draws true (spendableLots db input.userId) input.quotaUsed).1).foldl Table.insert
          db.usageSettlements }

theorem foldl_add_revenue (ss : List UsageSettlement) (x : UsageSettlementAuditSummary) :
    (ss.foldl .add x).realizedRevenueCNY =
      x.realizedRevenueCNY + (ss.map UsageSettlement.realizedRevenueCNY).sum := by
  induction ss generalizing x with
  | nil => exact (add_zero _).symm
  | cons s ss ih =>
    rw [foldl_cons, ih, map_cons, sum_cons, ← add_assoc]
    rfl

theorem content_of_perm (hperm : lots.Perm (openLots db userId)) :
    content lotVessel lots = db.coveredQuota userId := by
  have hopen : content lotVessel lots = content lotVessel (openLots db userId) :=
    (hperm.map _).sum_eq
  rw [hopen, content, openLots, Database.coveredQuota, Table.filter, Table.sum]
  induction db.walletLots.rows with
  | nil => rfl
  | cons l rows ih =>
    rw [map_cons, sum_cons, ← ih]
    by_cases h : l.userId = userId ∧ 0 < l.quotaRemaining
    · rw [if_pos h, filter_cons_of_pos (by simpa using h), map_cons, sum_cons]
      congr 1
      exact max_eq_right h.2.le
    · rw [if_neg h, filter_cons_of_neg (by simpa using h), zero_add]

theorem content_spendableLots :
    content lotVessel (spendableLots db userId) = db.coveredQuota userId :=
  content_of_perm (spendableLots_perm db userId)

/-- **A wallet usage is settled exactly when the open lots cover it.** -/
theorem eval_consumeWalletLotsForUsageTx (now : Int) (hn : 0 ≤ input.quotaUsed) (db : Database) :
    (input.quotaUsed ≤ db.coveredQuota input.userId →
      ∃ x, (consumeWalletLotsForUsageTx now input).eval db = .ok (x, db.used now input) ∧
        x.realizedRevenueCNY =
          gain lotVessel (spendableLots db input.userId) input.quotaUsed) ∧
      (db.coveredQuota input.userId < input.quotaUsed →
        ∃ e, (consumeWalletLotsForUsageTx now input).eval db = .error e) := by
  have hrest : (draws true (spendableLots db input.userId) input.quotaUsed).2 =
      max 0 (input.quotaUsed - db.coveredQuota input.userId) := by
    rw [(draws_eq_drain _ _).2, rest_eq hn, content_spendableLots]
  have heval : (consumeWalletLotsForUsageTx now input).eval db =
      (Tx.failIf (0 < (draws true (spendableLots db input.userId) input.quotaUsed).2)
        (.msg ("wallet lots do not fully cover usage settlement, remaining=" ++
          toString (draws true (spendableLots db input.userId) input.quotaUsed).2)) >>= fun _ => do
        createUsageSettlements (walletSettlements now input
          (draws true (spendableLots db input.userId) input.quotaUsed).1)
        pure ((walletSettlements now input
          (draws true (spendableLots db input.userId) input.quotaUsed).1).foldl .add
            emptySummary)).eval (db.spent input.userId input.quotaUsed) := by
    exact Tx.eval_bind_ok (eval_drawLots _ _ _ _)
  constructor
  · intro hle
    refine ⟨(walletSettlements now input
      (draws true (spendableLots db input.userId) input.quotaUsed).1).foldl .add emptySummary,
      ?_, ?_⟩
    · rw [heval, Tx.failIf, if_neg (by omega)]
      exact Tx.eval_bind_ok (eval_createUsageSettlements _ _)
    · rw [foldl_add_revenue, (map_walletSettlements now input _).1, ← (draws_eq_drain _ _).1]
      exact zero_add _
  · intro hlt
    rw [heval, Tx.failIf, if_pos (by omega)]
    exact ⟨_, rfl⟩

theorem eval_unlessExempt {body : DbTx Unit} (hu : userId ≠ 0) (he : db.exempt userId = false) :
    (unlessExempt userId body).eval db = body.eval db := by
  rw [unlessExempt, isProfitExemptUserTx, if_neg hu, Tx.eval_queryOr_bind, he]
  rfl

theorem coveredQuota_insert (db : Database) (hpos : 0 < lot.quotaRemaining) :
    { db with walletLots := db.walletLots.insert lot }.coveredQuota lot.userId =
      db.coveredQuota lot.userId + lot.quotaRemaining := by
  rw [Database.coveredQuota, Table.sum_insert]
  exact congrArg _ (if_pos ⟨rfl, hpos⟩)

theorem eval_ensureWalletLotsCoverCurrentQuotaTx (now : Int) (hu : userId ≠ 0) {user : User}
    (hlive : db.liveUser? userId = some user) (he : db.exempt userId = false) :
    ∃ lots, (ensureWalletLotsCoverCurrentQuotaTx now userId).eval db =
        .ok ((), { db with walletLots := lots }) ∧
      { db with walletLots := lots }.coveredQuota userId =
        max (db.coveredQuota userId) user.quota := by
  rw [ensureWalletLotsCoverCurrentQuotaTx, if_neg hu, eval_unlessExempt hu he,
    Tx.eval_first_bind (fun d : Database => d.liveUser? userId) hlive, Tx.eval_query_bind]
  split
  · exact ⟨db.walletLots, rfl, by show db.coveredQuota userId = _; omega⟩
  next h =>
    refine ⟨db.walletLots.insert
      (grantLot now userId (user.quota - db.coveredQuota userId) .gift), ?_, ?_⟩
    · rw [createWalletLotFromQuotaGrantTx, if_neg (by omega), eval_unlessExempt hu he]
      rfl
    · have hpos : 0 < user.quota - db.coveredQuota userId := by omega
      have hlot := hpos
      refine (coveredQuota_insert db hlot).trans ?_
      show db.coveredQuota userId + (user.quota - db.coveredQuota userId) = _
      omega

end Eval

end Xingkong
