import Xingkong.Spec.Settlement
import Xingkong.System.WalletDrift

/-!
# Bringing the lots of a wallet to a target

An administrator sets a user's quota and the lots follow: the balance is backfilled, and what is
then missing to the target is granted, or what is above it is taken from the lots, gifts first
and the newest first.
-/

namespace Xingkong

open Rdb Drain

variable {db db' : Database} {userId : Nat} {now target n : Int} {lots : List WalletLot}

/-! ## The order of a reduction -/

/-- The lot `a` is reduced before `b`: it is a gift and `b` is paid, or both are of one class and
`a` is the newer one. -/
def WalletLot.ReducedBefore (a b : WalletLot) : Prop := giftThenNewerFirst a b ∧ a.id ≠ b.id

instance : Std.Total giftThenNewerFirst where
  total a b := by
    have h := Std.Total.total (r := olderFirst) a b
    unfold giftThenNewerFirst
    tauto

instance : IsTrans WalletLot giftThenNewerFirst where
  trans a b c := by
    have h := IsTrans.trans (r := olderFirst) c b a
    unfold giftThenNewerFirst
    tauto

theorem reducibleLots_ordered (db : Database) (userId : Nat) :
    (reducibleLots db userId).Pairwise fun a b => ¬ b.ReducedBefore a := by
  refine (List.pairwise_insertionSort giftThenNewerFirst _).imp ?_
  rintro a b hab ⟨hba, hne⟩
  unfold giftThenNewerFirst olderFirst at hab hba
  have hid : b.id = a.id := by
    rcases hab with hab | ⟨h, hab⟩ <;> rcases hba with hba | ⟨h1, hba⟩
    · exact absurd hba.1 hab.2
    · exact absurd (h1.mpr hab.1) hab.2
    · exact absurd (h.mpr hba.1) hba.2
    · omega
  exact hne hid

theorem draws_false_eq (h : ∀ l ∈ lots, 0 < l.quotaRemaining) :
    draws false lots n = draws true lots n := by
  induction lots generalizing n with
  | nil => rfl
  | cons lot lots ih =>
    rw [List.forall_mem_cons] at h
    unfold draws
    split
    · rfl
    · rw [if_neg (by simp), if_neg (by simpa using h.1)]
      simp only [ih h.2]

theorem draws_reducibleLots :
    draws false (reducibleLots db userId) n = draws true (reducibleLots db userId) n :=
  draws_false_eq fun _ hl => (mem_openLots.mp ((reducibleLots_perm db userId).subset hl)).2.2

/-! ## The lots afterwards -/

/-- Nothing was added to the lot, and nothing of it is below zero that was not; a debt stays as it
is or is dropped with the last of the quota. -/
structure WalletLot.Reduced (l l' : WalletLot) : Prop where
  quota : l'.quotaRemaining ≤ l.quotaRemaining
  quota_nonneg : 0 ≤ l.quotaRemaining → 0 ≤ l'.quotaRemaining
  gross : 0 ≤ l.grossCNYRemaining →
    0 ≤ l'.grossCNYRemaining ∧ l'.grossCNYRemaining ≤ l.grossCNYRemaining
  debt : l.grossCNYRemaining < 0 →
    l'.grossCNYRemaining = if l'.quotaRemaining = 0 ∧ l' ≠ l then 0 else l.grossCNYRemaining

theorem WalletLot.Reduced.refl (l : WalletLot) : l.Reduced l :=
  ⟨le_rfl, fun h => h, fun h => ⟨h, le_rfl⟩, fun _ => by simp⟩

theorem spend_debt {l : WalletLot} (k : Int) (hg : l.grossCNYRemaining < 0) :
    (l.spend k).grossCNYRemaining =
      if (l.spend k).quotaRemaining = 0 then 0 else l.grossCNYRemaining := by
  have hsmall : l.grossCNYRemaining < 1 / 1000000 := by linarith
  show clearResidue _ (l.grossCNYRemaining - _) = _
  rw [allocateLotPortion_of_nonpos hg.le, sub_zero]
  by_cases hempty : l.quotaRemaining - k = 0 <;>
    simp only [clearResidue, hsmall, spend_quotaRemaining, hempty, and_true, if_true, if_false]

theorem reduced_spend {l : WalletLot} {k : Int} (hk : 0 < k) (hle : k ≤ l.quotaRemaining) :
    l.Reduced (l.spend k) where
  quota := by rw [spend_quotaRemaining]; omega
  quota_nonneg _ := by rw [spend_quotaRemaining]; omega
  gross hg := by
    have hgross : (l.spend k).grossCNYRemaining = l.grossCNYRemaining -
        Share.portion l.grossCNYRemaining l.quotaRemaining k := by
      rw [← clearResidue_portion _ _ (by omega), ← allocateLotPortion_eq hg (by omega) hk]
      rfl
    have hnonneg := Share.portion_nonneg hg (by omega : 0 < l.quotaRemaining) hk.le
    have hportion := Share.portion_le hg (by omega : 0 < l.quotaRemaining) hle
    exact ⟨by linarith, by linarith⟩
  debt hg := by
    have hne : l.spend k ≠ l := fun h => by
      have hquota := congrArg WalletLot.quotaRemaining h
      rw [spend_quotaRemaining] at hquota
      omega
    rw [spend_debt k hg]
    simp only [hne, ne_eq, not_false_eq_true, and_true]

/-- The lots of `db'`, as an adjustment of the lots `before` for the user leaves them. -/
structure LotsAdjusted (userId : Nat) (before : Table WalletLot) (db' : Database) : Prop where
  reduced : ∀ l ∈ before.rows, ∃ l', db'.walletLots.find? l.id = some l' ∧ l.Reduced l'
  inOrder : ∀ a ∈ before.rows, ∀ b ∈ before.rows, a.userId = userId → a.ReducedBefore b →
    db'.walletLots.find? b.id ≠ some b →
    ∃ a', db'.walletLots.find? a.id = some a' ∧ a'.quotaRemaining ≤ 0

theorem lotsAdjusted_of_kept (h : ∀ l ∈ db.walletLots.rows, l ∈ db'.walletLots.rows) :
    LotsAdjusted userId db.walletLots db' := by
  have h1 : ∀ l ∈ db.walletLots.rows, db'.walletLots.find? l.id = some l :=
    fun l hl => Table.find?_key (h l hl)
  exact ⟨fun l hl => ⟨l, h1 l hl, .refl l⟩, fun a _ b hb _ _ hne => absurd (h1 b hb) hne⟩

theorem lotsAdjusted_of_draws (db : Database) (userId : Nat) (n : Int) :
    LotsAdjusted userId db.walletLots { db with
      walletLots := db.walletLots.saveAll
        ((draws true (reducibleLots db userId) n).1.map Draw.lot) } := by
  have hperm := reducibleLots_perm db userId
  refine ⟨fun l hl => ⟨_, find?_saveAll_draws hperm n hl, ?_⟩, ?_⟩
  · rcases drawn_cases hperm n hl with h | ⟨k, hk, hle, h⟩
    · rw [h]
      exact .refl l
    · rw [h]
      exact reduced_spend hk hle
  intro a ha b hb hon hab h1
  rw [find?_saveAll_draws hperm n hb] at h1
  refine ⟨_, find?_saveAll_draws hperm n ha, ?_⟩
  have hchanged : drawn (reducibleLots db userId) n b ≠ b := fun h => h1 (congrArg some h)
  have hb' : b ∈ openLots db userId := by
    by_contra hclosed
    refine hchanged (drawn_of_not_mem fun hmem => hclosed ?_)
    obtain ⟨l, hl, hid⟩ := List.mem_map.mp hmem
    have hopen := hperm.subset hl
    rwa [← Table.eq_of_key (mem_openLots.mp hopen).1 hb hid]
  by_cases hopen : 0 < a.quotaRemaining
  · exact (drawn_in_order hperm n (reducibleLots_ordered db userId) (fun a h => h.2 rfl)
      (mem_openLots.mpr ⟨ha, hon, hopen⟩) hb' hab hchanged).le
  · rcases drawn_cases hperm n ha with h | ⟨k, hk, hle, h⟩
    · rw [h]
      omega
    · rw [h]
      omega

theorem reducible_rest (hn : 0 ≤ n) (hle : n ≤ db.coveredQuota userId) :
    (draws true (reducibleLots db userId) n).2 ≤ 0 := by
  rw [(draws_eq_drain _ _).2, rest_eq hn, content_of_perm (reducibleLots_perm db userId)]
  omega

/-! ## The whole sync -/

/-- What a sync to `target` makes of the lots: those there were, with a backfill if one was
due, are adjusted, and the open ones come to the target. -/
def LotsSynced (now : Int) (userId : Nat) (target : Int) (db db' : Database) : Prop :=
  db'.coveredQuota userId = target ∧ ∃ before,
    (before = db.walletLots ∨
      ∃ quota, before = db.walletLots.insert (grantLot now userId quota .gift)) ∧
    LotsAdjusted userId before db'

theorem syncWalletLots_synced (hu : userId ≠ 0) (ht : 0 ≤ target) (he : db.exempt userId = false)
    {ds : List Draw} (h : Tx.Ok (syncWalletLotsToUserQuotaTx now userId target) db ds db') :
    LotsSynced now userId target db db' := by
  rw [syncWalletLotsToUserQuotaTx, if_neg (by omega)] at h
  obtain ⟨b, db0, h1, h2⟩ := h.bind
  obtain ⟨hb, rfl⟩ := isProfitExemptUserTx_ok h1
  cases b with
  | true => rw [hb rfl] at he; cases he
  | false =>
    obtain ⟨_, db1, h3, h4⟩ := Tx.Ok.bind h2
    have hbackfill : (db1.walletLots = db0.walletLots ∨
        ∃ quota, db1.walletLots = db0.walletLots.insert (grantLot now userId quota .gift)) ∧
        db1.exempt userId = false := by
      rcases ensureWalletLotsCoverCurrentQuotaTx_ok h3 with ⟨rfl, _⟩ | ⟨user, _, _, rfl⟩
      · exact ⟨.inl rfl, he⟩
      · exact ⟨.inr ⟨_, rfl⟩, he⟩
    have h5 := h4.query_bind
    split at h5
    · rename_i hlt
      obtain ⟨_, db2, h6, h7⟩ := h5.bind
      obtain ⟨_, rfl⟩ := h7.pure
      rcases createWalletLotFromQuotaGrantTx_ok h6 with ⟨h0 | hle | h, _⟩ | ⟨hpos, rfl⟩
      · exact absurd h0 hu
      · omega
      · rw [hbackfill.2] at h; cases h
      refine ⟨?_, _, hbackfill.1, lotsAdjusted_of_kept fun l hl => Table.mem_insert.mpr (.inl hl)⟩
      have hlot : 0 < (grantLot now userId (target - db1.coveredQuota userId)
        .gift).quotaRemaining := hpos
      refine (coveredQuota_insert db1 hlot).trans ?_
      show db1.coveredQuota userId + (target - db1.coveredQuota userId) = target
      omega
    split at h5
    · rename_i hlt
      rcases reduceWalletLotsForAdminAdjustmentTx_ok h5 with
        ⟨h0 | hle | h, _⟩ | ⟨hpos, -, rfl, rfl⟩
      · exact absurd h0 hu
      · omega
      · rw [hbackfill.2] at h; cases h
      rw [draws_reducibleLots]
      refine ⟨?_, _, hbackfill.1, lotsAdjusted_of_draws db1 userId _⟩
      have hrest := reducible_rest hpos.le (by omega : _ ≤ db1.coveredQuota userId)
      rw [coveredQuota_draws hpos.le (reducibleLots_perm db1 userId) hrest]
      omega
    · obtain ⟨_, rfl⟩ := h5.pure
      exact ⟨by omega, _, hbackfill.1, lotsAdjusted_of_kept fun l hl => hl⟩

theorem eval_isProfitExemptUserTx_bind {α : Type} (f : Bool → DbTx α)
    (he : db.exempt userId = false) :
    (isProfitExemptUserTx userId >>= f).eval db = (f false).eval db := by
  unfold isProfitExemptUserTx
  split
  · rfl
  · rw [Tx.eval_queryOr_bind, he]

/-- As long as every statement is carried out, the lots are never too few. -/
theorem eval_syncWalletLotsToUserQuotaTx (now : Int) (hu : userId ≠ 0) (ht : 0 ≤ target)
    (he : db.exempt userId = false) {user : User} (hlive : db.liveUser? userId = some user) :
    ∃ r, (syncWalletLotsToUserQuotaTx now userId target).eval db = .ok r := by
  obtain ⟨lots, hensure, -⟩ := eval_ensureWalletLotsCoverCurrentQuotaTx now hu hlive he
  generalize hdb : { db with walletLots := lots } = db1 at hensure
  have he1 : db1.exempt userId = false := by
    rw [← hdb]
    exact he
  rw [syncWalletLotsToUserQuotaTx, if_neg (by omega), eval_isProfitExemptUserTx_bind _ he]
  suffices ∃ r, (do
      let covered ← .query (·.coveredQuota userId)
      if covered < target then do
        createWalletLotFromQuotaGrantTx now userId (target - covered) .gift
        pure []
      else if target < covered then
        reduceWalletLotsForAdminAdjustmentTx userId (covered - target)
      else pure [] : DbTx (List Draw)).eval db1 = .ok r by
    obtain ⟨r, hr⟩ := this
    exact ⟨r, (Tx.eval_bind_ok hensure).trans hr⟩
  rw [Tx.eval_query_bind]
  split
  · obtain ⟨db2, h⟩ : ∃ db2, (createWalletLotFromQuotaGrantTx now userId
        (target - db1.coveredQuota userId) .gift).eval db1 = .ok ((), db2) := by
      rw [createWalletLotFromQuotaGrantTx, if_neg (by omega), eval_unlessExempt hu he1]
      exact ⟨_, rfl⟩
    exact ⟨_, Tx.eval_bind_ok h⟩
  split
  · rw [reduceWalletLotsForAdminAdjustmentTx, if_neg (by omega),
      eval_isProfitExemptUserTx_bind _ he1]
    have hrest : (draws false (reducibleLots db1 userId)
        (db1.coveredQuota userId - target)).2 ≤ 0 := by
      rw [draws_reducibleLots]
      exact reducible_rest (by omega) (by omega)
    exact ⟨_, (Tx.eval_bind_ok (eval_drawLots false _ _ db1)).trans
      (Tx.eval_failIf_bind _ _ (not_lt.mpr hrest) _)⟩
  · exact ⟨_, rfl⟩

/-- **The lots are brought to the target.** Whenever a sync of a user who is not exempt succeeds,
the open lots come to the target, no lot that was there has more quota or more money than before,
none is brought below zero, and a lot is reduced only when all gifts before paid lots and all
newer lots of its class are used up. The lots never fall short: while no statement fails, a sync
succeeds. -/
theorem wallet_lots_synced (now : Int) (userId : Nat) (target : Int) (db : Database)
    (hu : userId ≠ 0) (ht : 0 ≤ target) (he : db.exempt userId = false) :
    (∀ faults ds db', Tx.transaction (syncWalletLotsToUserQuotaTx now userId target) faults db =
        (.ok ds, db') → LotsSynced now userId target db db') ∧
      ∀ user, db.liveUser? userId = some user → ∀ faults, true ∉ faults →
        ∃ ds db', Tx.transaction (syncWalletLotsToUserQuotaTx now userId target) faults db =
          (.ok ds, db') := by
  constructor
  · intro faults ds db' h
    exact syncWalletLots_synced hu ht he (Tx.transaction_ok h)
  · intro user hlive faults hf
    obtain ⟨⟨ds, db'⟩, h⟩ := eval_syncWalletLotsToUserQuotaTx now hu ht he hlive
    refine ⟨ds, db', ?_⟩
    rw [Tx.transaction_eq_eval _ _ hf, h]

def oneLotDb (gross : ℚ) : Database :=
  { Database.empty with
    users := Table.empty.insert
      { id := 0, role := 1, quota := 5, group := "default", email := "", stripeCustomer := ""
        deleted := false }
    walletLots := Table.empty.insert { grantLot 1 1 5 .topUp with grossCNYRemaining := gross } }

theorem wallet_lots_synced_two :
    ∃ ds db', Tx.transaction (syncWalletLotsToUserQuotaTx 2 1 2) [] (oneLotDb 10) = (.ok ds, db') ∧
      LotsSynced 2 1 2 (oneLotDb 10) db' := by
  obtain ⟨h, hok⟩ := wallet_lots_synced 2 1 2 (oneLotDb 10) (by decide) (by decide)
    (by decide +kernel)
  obtain ⟨ds, db', he⟩ := hok _ rfl [] List.not_mem_nil
  exact ⟨ds, db', he, h [] ds db' he⟩

/-- A lot with a debt of 1 behind it has none when it is used up. -/
theorem sync_clears_debt :
    ((Tx.transaction (syncWalletLotsToUserQuotaTx 2 1 0) []
      (oneLotDb (-1))).2.walletLots.find? 1).map (·.grossCNYRemaining) = some 0 := by
  decide +kernel

end Xingkong
