import Xingkong.Model.Billing
import Xingkong.Spec.SubscriptionUsage

/-!
# Accounts

What billing can move, apart from how the database stores it: the quota each user and token
can spend, the counter of each subscription, and the reservation made under each request id.
`Database.accounts` reads it off a database. Every operation a billing session issues either
fails and changes nothing, or moves the accounts as its abstract counterpart does (`Atomic`).
-/

namespace Xingkong

open Rdb Function

structure Reservation where
  subscriptionId : Nat
  amount : Int
  status : PreConsumeStatus
  deriving DecidableEq

@[ext] structure Accounts where
  wallet : Nat → Int
  token : Nat → Int
  used : Nat → Int
  live : Nat → Bool
  issued : Nat → Bool
  request : String → Option Reservation

def SubscriptionPreConsumeRecord.reservation (r : SubscriptionPreConsumeRecord) : Reservation :=
  ⟨r.userSubscriptionId, r.preConsumed, r.status⟩

def Database.accounts (db : Database) : Accounts where
  wallet := db.spendable
  token := db.tokenSpendable
  used := db.amountUsed
  live v := (db.liveUser? v).isSome
  issued t := (db.tokens.find? t).isSome
  request r := (findPreConsumeRecord db r).map (·.reservation)

namespace Accounts

def addWallet (a : Accounts) (userId : Nat) (quota : Int) : Accounts :=
  { a with wallet := Function.update a.wallet userId (a.wallet userId + quota) }

def addToken (a : Accounts) (tokenId : Nat) (quota : Int) : Accounts :=
  { a with token := Function.update a.token tokenId (a.token tokenId + quota) }

/-- Move a counter, which stops at zero. -/
def meter (a : Accounts) (subId : Nat) (delta : Int) : Accounts :=
  { a with used := Function.update a.used subId (max 0 (a.used subId + delta)) }

def note (a : Accounts) (requestId : String) (r : Reservation) : Accounts :=
  { a with request := Function.update a.request requestId (some r) }

end Accounts

open Accounts (addWallet addToken note)

/-- The operation that answered `r` failed without effect, or moved the accounts by `f`. -/
def Atomic {α : Type} (f : Accounts → Accounts) (db : Database) (r : Except Err α × Database) :
    Prop :=
  (∃ a, r.1 = .ok a ∧ r.2.accounts = f db.accounts) ∨ ∃ e, r = (.error e, db)

variable {faults : List Bool}

namespace Atomic

variable {α : Type} {f : Accounts → Accounts} {db : Database} {r : Except Err α × Database}

theorem cases (h : Atomic f db r) :
    (∃ u db', r = (.ok u, db') ∧ db'.accounts = f db.accounts) ∨ ∃ e, r = (.error e, db) := by
  obtain ⟨x, db'⟩ := r
  exact h.imp_left fun ⟨u, hu, hacc⟩ => ⟨u, db', congrArg (·, db') hu, hacc⟩

theorem of_ok {a : α} (h : Atomic f db r) (hr : r.1 = .ok a) : r.2.accounts = f db.accounts := by
  rcases h with ⟨_, _, h⟩ | ⟨e, rfl⟩
  · exact h
  · cases hr

theorem transaction {body : DbTx α}
    (h : ∀ a db', Tx.Ok body db a db' → db'.accounts = f db.accounts) :
    Atomic f db (Tx.transaction body faults db) := by
  rcases Tx.transaction_cases body faults db with ⟨a, db', he, hok⟩ | ⟨e, he⟩
  · rw [he]; exact .inl ⟨a, rfl, h a db' hok⟩
  · rw [he]; exact .inr ⟨e, rfl⟩

end Atomic

variable {db db' : Database} {cfg : Config} {now : Int}

/-! ## Reading the accounts -/

theorem Database.accounts_congr (hu : db'.users = db.users) (ht : db'.tokens = db.tokens)
    (hs : db'.userSubscriptions = db.userSubscriptions)
    (hp : db'.preConsumeRecords = db.preConsumeRecords)
    (h : db'.batchUserQuota = db.batchUserQuota)
    (h1 : db'.batchTokenQuota = db.batchTokenQuota) : db'.accounts = db.accounts := by
  ext x
  · simp only [accounts, spendable, userQuota_congr hu, h]
  · simp only [accounts, tokenSpendable, ht, h1]
  · simp only [accounts, amountUsed, hs]
  · simp only [accounts, liveUser?_congr hu]
  · simp only [accounts, ht]
  · simp only [accounts, findPreConsumeRecord, hp]

open Database (accounts spendable tokenSpendable addTokenQuota accounts_congr amountUsed)

theorem accounts_addBatchUserQuota (userId : Nat) (quota : Int) :
    (db.addBatchUserQuota userId quota).accounts = db.accounts.addWallet userId quota := by
  ext x <;> try rfl
  by_cases hx : x = userId
  · subst hx
    simp only [accounts, addWallet, spendable, Database.addBatchUserQuota, update_self]
    rw [← add_assoc]
    rfl
  · simp only [accounts, addWallet, spendable, Database.addBatchUserQuota, update_of_ne hx]
    rfl

variable {userId tokenId : Nat} {quota delta amount : Int} {sub : UserSubscription}
  {requestId modelName : String}

theorem accounts_addUserQuota (quota : Int) (hl : db.accounts.live userId = true) :
    (db.addUserQuota userId quota).accounts = db.accounts.addWallet userId quota := by
  have hlive : (db.liveUser? userId).isSome = true := hl
  ext x <;> try rfl
  · change (db.addUserQuota userId quota).userQuota x + db.batchUserQuota x = _
    rw [Database.userQuota_addUserQuota]
    by_cases hx : x = userId
    · subst hx
      simp only [addWallet, accounts, update_self, hlive, and_self, if_true, spendable]
      ring
    · simp [addWallet, accounts, spendable, hx]
  · exact Database.live_addUserQuota x

theorem accounts_addBatchTokenQuota (tokenId : Nat) (quota : Int) :
    (db.addBatchTokenQuota tokenId quota).accounts = db.accounts.addToken tokenId quota := by
  ext x <;> try rfl
  by_cases hx : x = tokenId
  · subst hx
    simp only [accounts, addToken, tokenSpendable,
      Database.addBatchTokenQuota, update_self]
    rw [← add_assoc]
  · simp only [accounts, addToken, tokenSpendable,
      Database.addBatchTokenQuota, update_of_ne hx]

theorem accounts_addTokenQuota (quota : Int)
    (hi : db.accounts.issued tokenId = true) :
    (db.addTokenQuota tokenId quota).accounts = db.accounts.addToken tokenId quota := by
  obtain ⟨t, ht⟩ := Option.isSome_iff_exists.1 hi
  have hid : t.id = tokenId := (Table.find?_eq_some.1 ht).2
  ext x <;> try rfl
  · simp only [accounts, addToken, tokenSpendable, addTokenQuota, Table.find?_update]
    by_cases hx : x = tokenId
    · subst hx
      simp only [ht, update_self, Option.map_some, Option.getD_some, hid, decide_true, if_true]
      ring
    · rw [update_of_ne hx]
      cases hf : db.tokens.find? x with
      | none => simp [tokenSpendable, hf]
      | some t' =>
        have hid' : t'.id = x := (Table.find?_eq_some.1 hf).2
        simp [tokenSpendable, hf, hid', hx]
  · simp [accounts, addToken, addTokenQuota, Table.find?_update]

/-! ## Wallet and token -/

theorem decreaseUserQuota_atomic {direct : Bool} (hl : db.accounts.live userId = true) :
    Atomic (·.addWallet userId (-quota)) db
    (decreaseUserQuota cfg userId quota direct faults db) := by
  unfold decreaseUserQuota
  split
  · exact .inr ⟨_, rfl⟩
  · split
    · exact .inl ⟨(), rfl, accounts_addBatchUserQuota userId (-quota)⟩
    · exact .transaction fun _ _ h => by rw [h.exec]; exact accounts_addUserQuota (-quota) hl

theorem increaseUserQuota_atomic (hl : db.accounts.live userId = true) :
    Atomic (·.addWallet userId quota) db (increaseUserQuota now userId quota faults db) := by
  unfold increaseUserQuota increaseUserQuotaWithSource
  split
  · exact .inr ⟨_, rfl⟩
  · split
    next hq =>
      refine .inl ⟨(), rfl, ?_⟩
      subst hq
      ext x <;> try rfl
      by_cases hx : x = userId <;> simp [addWallet, hx]
    · refine .transaction fun _ db' h => ?_
      -- the lot behind the credit is in no account
      have hlot : db'.accounts = (db.addUserQuota userId quota).accounts := by
        rcases createWalletLotFromQuotaGrantTx_ok h.exec_bind with ⟨_, rfl⟩ | ⟨_, rfl⟩
        · rfl
        · exact accounts_congr rfl rfl rfl rfl rfl rfl
      rw [hlot]
      exact accounts_addUserQuota quota hl

theorem moveTokenQuota_atomic (hi : db.accounts.issued tokenId = true) :
    Atomic (·.addToken tokenId delta) db (moveTokenQuota cfg tokenId quota delta faults db) := by
  unfold moveTokenQuota
  split
  · exact .inr ⟨_, rfl⟩
  · split
    · exact .inl ⟨(), rfl, accounts_addBatchTokenQuota tokenId delta⟩
    · exact .transaction fun _ _ h => by rw [h.exec]; exact accounts_addTokenQuota delta hi

/-! ## Subscriptions -/

theorem accounts_save_used (used : Int) (hrow : db.userSubscriptions.find? sub.id = some sub) :
    { db with
      userSubscriptions := db.userSubscriptions.save { sub with amountUsed := used } }.accounts =
      { db.accounts with used := Function.update db.accounts.used sub.id used } := by
  ext x <;> try rfl
  simp only [accounts, amountUsed]
  by_cases hx : x = sub.id
  · subst hx
    rw [Table.find?_save_self (r := { sub with amountUsed := used }) hrow rfl, update_self]
    rfl
  · rw [Table.find?_save_of_ne hx, update_of_ne hx]
    rfl

theorem amountUsed_of_row (hrow : db.userSubscriptions.find? sub.id = some sub) :
    db.accounts.used sub.id = sub.amountUsed := by
  simp [accounts, amountUsed, hrow]

theorem Metered.accounts {action : LedgerAction}
    (h : Metered now sub (max 0 (sub.amountUsed + delta)) delta requestId action db db') :
    db'.accounts = db.accounts.meter sub.id delta := by
  rw [h.frame]
  refine (accounts_congr rfl rfl rfl rfl rfl rfl).trans
    ((accounts_save_used (max 0 (sub.amountUsed + delta)) h.row).trans ?_)
  rw [← amountUsed_of_row h.row]
  rfl

theorem postConsumeUserSubscriptionDelta_atomic {subId : Nat} (hd : delta ≠ 0) :
    Atomic (·.meter subId delta) db
      (postConsumeUserSubscriptionDelta now subId delta faults db) := by
  unfold postConsumeUserSubscriptionDelta
  split
  · exact .inr ⟨_, rfl⟩
  · refine .transaction fun _ db' h => ?_
    obtain ⟨sub, rfl, hm⟩ := postConsumeUserSubscriptionDeltaTx_ok h
    exact hm.accounts

theorem accounts_insert_record (db : Database) (record : SubscriptionPreConsumeRecord)
    (hnew : findPreConsumeRecord db record.requestId = none) :
    { db with preConsumeRecords := db.preConsumeRecords.insert record }.accounts =
      db.accounts.note record.requestId record.reservation := by
  ext1 <;> try rfl
  funext r
  simp only [accounts, note, findPreConsumeRecord, Table.first?,
    Table.rows_insert, List.find?_append]
  by_cases hr : r = record.requestId
  · subst hr
    have h : db.preConsumeRecords.rows.find?
        (fun x => decide (x.requestId = record.requestId)) = none := hnew
    rw [h, update_self]
    simp [Table.stored, Row.withKey, SubscriptionPreConsumeRecord.reservation]
  · have hne : ¬ record.requestId = r := fun h => hr h.symm
    rw [update_of_ne hr]
    simp [Table.stored, Row.withKey, hne]

theorem accounts_save_record {old : SubscriptionPreConsumeRecord}
    (record : SubscriptionPreConsumeRecord) (hold : findPreConsumeRecord db requestId = some old)
    (hk : record.id = old.id) (hr : record.requestId = requestId) :
    { db with preConsumeRecords := db.preConsumeRecords.save record }.accounts =
      db.accounts.note requestId record.reservation := by
  ext1 <;> try rfl
  funext x
  simp only [accounts, note]
  by_cases hx : x = requestId
  · subst hx
    have h : findPreConsumeRecord
        { db with preConsumeRecords := db.preConsumeRecords.save record } x = some record :=
      Table.first?_save hold hk (by simp [hr])
    rw [h, update_self]
    rfl
  · have hold' : old.requestId ≠ x := fun h => hx (by
      rw [← h]; simpa using (Table.mem_of_first? hold).2)
    rw [update_of_ne hx]
    congr 1
    exact Table.first?_save_of_not (Table.mem_of_first? hold).1 hk
      (by simpa using hold') (by simpa [hr] using fun h => hx h.symm)

theorem preConsumeUserSubscription_accounts {res : SubscriptionPreConsumeResult}
    (hnew : db.accounts.request requestId = none)
    (hused : ∀ n, 0 ≤ db.accounts.used n)
    (h : preConsumeUserSubscription cfg now requestId userId modelName amount faults db =
      (.ok res, db')) :
    0 < amount ∧ res.userSubscriptionId ≠ 0 ∧ res.preConsumed = amount ∧
      db'.accounts = (db.accounts.meter res.userSubscriptionId amount).note requestId
        ⟨res.userSubscriptionId, amount, .consumed⟩ := by
  have hfresh : findPreConsumeRecord db requestId = none := Option.map_eq_none_iff.1 hnew
  obtain ⟨hpos, sub, rfl, hc⟩ := preConsumeUserSubscription_charged hfresh h
  refine ⟨hpos, hc.id_ne_zero, rfl, ?_⟩
  have hmax : sub.amountUsed + amount = max 0 (db.accounts.used sub.id + amount) := by
    have := hused sub.id
    rw [amountUsed_of_row hc.row] at this ⊢
    omega
  -- the counter first, then the record; the ledger is in no account
  let metered : Database := { db with
    userSubscriptions := db.userSubscriptions.save
      { sub with amountUsed := sub.amountUsed + amount } }
  let record : SubscriptionPreConsumeRecord :=
    { id := 0, requestId, userId, userSubscriptionId := sub.id, preConsumed := amount
      status := .consumed }
  have hrecord : db'.accounts = { metered with
      preConsumeRecords := metered.preConsumeRecords.insert record }.accounts := by
    rw [hc.frame]
    exact accounts_congr rfl rfl rfl rfl rfl rfl
  rw [hrecord, accounts_insert_record metered record hfresh, accounts_save_used _ hc.row, hmax]
  rfl

theorem preConsumeUserSubscription_error {e : Err}
    (h : preConsumeUserSubscription cfg now requestId userId modelName amount faults db =
      (.error e, db')) : db' = db := by
  rcases preConsumeUserSubscription_cases cfg now requestId userId modelName amount faults db with
    ⟨e', he⟩ | ⟨r, db1, _, he, _⟩
  · rw [he] at h
    cases h
    rfl
  · rw [he] at h
    cases h

theorem refundSubscriptionPreConsume_atomic {r : Reservation}
    (hreq : db.accounts.request requestId = some r) (hs : r.status = .consumed)
    (hpos : 0 < r.amount) :
    Atomic (fun a => (a.meter r.subscriptionId (-r.amount)).note requestId
      { r with status := .refunded }) db
      (refundSubscriptionPreConsume now requestId faults db) := by
  unfold refundSubscriptionPreConsume
  split
  · exact .inr ⟨_, rfl⟩
  refine .transaction fun _ db' h => ?_
  obtain ⟨record, hrec, h1⟩ := refundSubscriptionPreConsumeTx_ok h
  have hr : record.reservation = r := by
    have : (findPreConsumeRecord db requestId).map (·.reservation) = some r := hreq
    rw [hrec] at this
    exact Option.some.inj this
  subst hr
  have hid : record.requestId = requestId := by
    simpa using (Table.mem_of_first? hrec).2
  rcases h1 with ⟨href, _⟩ | ⟨_, db1, hm, rfl⟩
  · exact absurd (href.symm.trans hs) (by decide)
  rcases hm with ⟨hle, _⟩ | ⟨_, sub, hsub, hm⟩
  · exact absurd hpos (not_lt.2 hle)
  have hrec1 : findPreConsumeRecord db1 requestId = some record := by rw [hm.frame]; exact hrec
  have h := accounts_save_record { record with status := .refunded } hrec1 rfl hid
  rw [h, hm.accounts, hsub]
  rfl

end Xingkong
