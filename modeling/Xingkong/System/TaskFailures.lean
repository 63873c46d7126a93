import Xingkong.Spec.Billing
import Xingkong.System.TaskRefunds

/-!
# Failed tasks of one polling process

One process runs round after round. A task that it stores as a failure has been refunded exactly
once, to the source it was charged to, unless a bulk update failed it or its funding source refused.
-/

namespace Xingkong

open Rdb List Option

variable {set : PollSettings} {i : PollInput} {m : TaskMap} {w w' : TaskStore} {τ : Nat}
  {t0 t : Task}
  {work : PollWork} {rest agenda : List PollWork} {e : PollEffect}

/-! ## The charge of a task -/

def PollWork.holds : PollWork → List Task
  | sweepTask t => [t]
  | refund t => [t]
  | platform _ tasks => tasks
  | sunoSave t => [t]
  | _ => []

def Task.ChargedAs (t0 t : Task) : Prop := t.id = t0.id → t0.SameCharge t

theorem Task.ChargedAs.of_same {t' : Task} (h : t0.ChargedAs t) (hs : t.SameCharge t') :
    t0.ChargedAs t' :=
  fun hid => (h (hs.id.symm.trans hid)).trans hs

/-- Row, items and unfinished copies in memory are all charged as `t0` was. -/
structure ChargeKept (t0 : Task) (agenda : List PollWork) (m : TaskMap) (w : TaskStore) : Prop where
  row : ∀ r, w.row t0.id = some r → t0.ChargedAs r
  agenda : ∀ x ∈ agenda, ∀ t ∈ x.holds, t0.ChargedAs t
  memory : ∀ e ∈ m, e.2.unfinished = true → t0.ChargedAs e.2

namespace ChargeKept

section

variable (h : ChargeKept t0 agenda m w)

include h

theorem of_mem (ht : t ∈ w.tasks.rows) : t0.ChargedAs t :=
  fun hid => h.row t (Table.find?_eq_some.2 ⟨ht, hid⟩) hid

theorem row_save (ht : t0.ChargedAs t) :
    ∀ r, ({ w with tasks := w.tasks.save t } : TaskStore).row t0.id = some r → t0.ChargedAs r := by
  intro r hr
  by_cases hid : t.id = t0.id
  · rw [TaskStore.row_save t hid] at hr
    obtain ⟨_, _, rfl⟩ := map_eq_some_iff.1 hr
    exact ht
  · rw [TaskStore.row_save_of_ne hid] at hr
    exact h.row r hr

theorem row_bulk {ids : List Nat} {reason : Option String} {fails : Bool} :
    ∀ r, ({ w with tasks := taskBulkUpdateByID ids reason fails w.tasks } : TaskStore).row t0.id =
      some r → t0.ChargedAs r := by
  intro r hr
  change (taskBulkUpdateByID ids reason fails w.tasks).find? t0.id = some r at hr
  rcases taskBulkUpdateByID_cases ids reason fails w.tasks t0.id with hf | ⟨_, hf⟩
  · exact h.row r (hf.symm.trans hr)
  · rw [hf] at hr
    obtain ⟨r', hr', rfl⟩ := map_eq_some_iff.1 hr
    exact (h.row r' hr').of_same ⟨rfl, rfl, rfl, rfl, rfl, rfl⟩

theorem memory_set {k : String} (ht : t.unfinished = true → t0.ChargedAs t) :
    ∀ e ∈ m.set k t, e.2.unfinished = true → t0.ChargedAs e.2 := by
  intro e he hu
  rcases mem_cons.1 he with rfl | he
  · exact ht hu
  · exact h.memory e (mem_filter.1 he).1 hu

end

theorem memory_ofTasks {tasks : List Task} (h : ∀ t ∈ tasks, t0.ChargedAs t) :
    ∀ e ∈ TaskMap.ofTasks tasks, e.2.unfinished = true → t0.ChargedAs e.2 := by
  have hfold : ∀ (l : List Task) (m0 : TaskMap), (∀ t ∈ l, t0.ChargedAs t) →
      (∀ e ∈ m0, t0.ChargedAs e.2) →
      ∀ e ∈ l.foldl (fun m t => .set m t.getUpstreamTaskID t) m0, t0.ChargedAs e.2 := by
    intro l
    induction l with
    | nil => exact fun m0 _ hm => hm
    | cons t l ih =>
      intro m0 hl hm
      refine ih _ (fun x hx => hl x (mem_cons_of_mem _ hx)) fun e he => ?_
      rcases mem_cons.1 he with rfl | he
      · exact hl t mem_cons_self
      · exact hm e (mem_filter.1 he).1
  intro e he _
  exact hfold _ [] (fun t ht => h t (mem_filter.1 ht).1) (fun _ he => nomatch he) e he

theorem copy (h : ChargeKept t0 agenda m w) {k : String} (hm : m.task? k = some t)
    (hon : t.id ≠ t0.id ∨ t.unfinished = true) : t0.ChargedAs t := by
  rcases hon with hne | hu
  · exact fun hid => absurd hid hne
  · exact h.memory _ (TaskMap.mem_of_task? hm) hu

/-- The charge is kept by an item with this effect. -/
def Next (t0 : Task) (rest : List PollWork) (e : PollEffect) : Prop :=
  ChargeKept t0 (e.next rest).agenda (e.next rest).taskM e.store

theorem after (h : ChargeKept t0 (work :: rest) m w)
    (hpush : ∀ x ∈ e.push.getD [], ∀ t ∈ x.holds, t0.ChargedAs t)
    (hmem : ∀ y ∈ e.taskM, y.2.unfinished = true → t0.ChargedAs y.2)
    (hrow : ∀ r, e.store.row t0.id = some r → t0.ChargedAs r) :
    Next t0 rest e := by
  refine ⟨hrow, fun x hx => ?_, hmem⟩
  rcases mem_append.1 hx with hx | hx
  · exact hpush x hx
  · exact h.agenda x (mem_cons_of_mem _ hx)

theorem sweepTask (h : ChargeKept t0 (.sweepTask t :: rest) m w) :
    Next t0 rest (sweepTimedOutTask set i m w t) := by
  have ht : t0.ChargedAs (timedOut set i t) :=
    (h.agenda _ mem_cons_self t mem_cons_self).of_same ⟨rfl, rfl, rfl, rfl, rfl, rfl⟩
  rcases sweepTimedOutTask_cases set i m w t with he | ⟨row, hrow, h1, he⟩
  · rw [he]
    exact h.after (forall_mem_nil _) h.memory h.row
  · rw [he]
    refine h.after (fun x hx => ?_) h.memory (h.row_save ht)
    dsimp only [getD_some] at hx
    split at hx
    · rw [mem_singleton.1 hx]
      exact fun y hy => mem_singleton.1 hy ▸ ht
    · cases hx

theorem videoTask {taskId : String} (h : ChargeKept t0 (.videoTask taskId :: rest) m w)
    (hon : (PollWork.videoTask taskId).onUnfinished t0.id m = true) :
    Next t0 rest (updateVideoSingleTask set i m w taskId) := by
  unfold updateVideoSingleTask
  cases hm : m.task? taskId with
  | none => exact h.after (forall_mem_nil _) h.memory h.row
  | some old =>
    have hold : t0.ChargedAs old := h.copy hm (by simpa [PollWork.onUnfinished, hm] using hon)
    dsimp only
    cases hr : old.withReply set i.env.now i.videoReply with
    | leaves t =>
      exact h.after (forall_mem_nil _)
        (h.memory_set fun _ => hold.of_same (Task.withReply_same (.inr hr))) h.row
    | writes t =>
      have ht := hold.of_same (Task.withReply_same (.inl hr))
      have h1 : ∀ x ∈ videoBilling taskId t, ∀ y ∈ x.holds, t0.ChargedAs y := fun x hx => by
        rcases mem_videoBilling hx with ⟨_, rfl⟩ | ⟨_, _, rfl⟩
        · exact forall_mem_nil _
        · exact fun y hy => mem_singleton.1 hy ▸ ht
      have hpush : ∀ billed : Bool, ∀ x ∈ (if billed then videoBilling taskId t else []),
          ∀ y ∈ x.holds, t0.ChargedAs y := fun billed x hx => by
        split at hx
        · exact h1 x hx
        · cases hx
      dsimp only
      rcases old.writeVideo_cases t i.fails w.tasks with ⟨billed, _, he⟩ | ⟨_, _, _, he⟩
      · rw [he]
        exact h.after (hpush billed) (h.memory_set fun _ => ht) h.row
      · rw [he]
        exact h.after (hpush true) (h.memory_set fun _ => ht) (h.row_save ht)

theorem sunoItem {item : SunoDataResponse} (h : ChargeKept t0 (.sunoItem item :: rest) m w)
    (hon : (PollWork.sunoItem item).onUnfinished t0.id m = true) :
    Next t0 rest (updateSunoTask m w item) := by
  unfold updateSunoTask
  cases hm : m.task? item.taskID with
  | none => exact h.after (forall_mem_nil _) h.memory h.row
  | some t =>
    dsimp only
    split
    next hn =>
      have ht : t0.ChargedAs (t.answered item) :=
        (h.copy hm (by simpa [PollWork.onUnfinished, hm, hn] using hon)).of_same
          ⟨rfl, rfl, rfl, rfl, rfl, rfl⟩
      refine h.after (fun x hx => ?_) (h.memory_set fun _ => ht) h.row
      rcases mem_append.1 hx with hx | hx
      · split at hx
        · rw [mem_singleton.1 hx]
          exact fun y hy => mem_singleton.1 hy ▸ ht
        · cases hx
      · rw [mem_singleton.1 hx]
        exact fun y hy => mem_singleton.1 hy ▸ ht
    · exact h.after (forall_mem_nil _) h.memory h.row

theorem exec (h : ChargeKept t0 (work :: rest) m w)
    (hsettle : ∀ k t, work = .settle k t → t.status.done = true)
    (hon : work.onUnfinished t0.id m = true) :
    Next t0 rest (work.exec set i m w) := by
  cases work with
  | sweep =>
    refine h.after (fun x hx => ?_) h.memory h.row
    dsimp only [PollWork.exec, getD_some, sweepTimedOutTasks] at hx
    split at hx
    · cases hx
    · obtain ⟨t, ht, rfl⟩ := mem_map.1 hx
      have hmem := (mem_getTimedOutUnfinishedTasks ht).1
      exact fun y hy => mem_singleton.1 hy ▸ h.of_mem hmem
  | sweepTask t => exact h.sweepTask
  | refund t =>
    obtain ⟨db, ⟨_, he⟩ | ⟨_, accepted, he⟩⟩ := w.refund_cases set.cfg i.env t
    all_goals
      refine h.after (forall_mem_nil _) h.memory ?_
      dsimp only [PollWork.exec]
      rw [he]
      exact h.row
  | settle upstreamID t =>
    refine h.after (forall_mem_nil _)
      (h.memory_set (t := (w.settle set.cfg i.env i.pricing t).1) fun hu => ?_) h.row
    rw [TaskStore.settle_unfinished i.pricing (hsettle _ _ rfl)] at hu
    cases hu
  | list =>
    refine h.after (fun x hx => ?_) h.memory h.row
    obtain ⟨p, _, rfl⟩ := mem_map.1 hx
    intro t ht
    have hopen := (getAllUnFinishSyncTasks_sublist _ _ _).subset (mem_filter.1 ht).1
    exact h.of_mem (mem_filter.1 hopen).1
  | platform p tasks =>
    refine h.after (fun x hx => ?_) (memory_ofTasks (h.agenda _ mem_cons_self)) h.row_bulk
    cases exec_pushes (m := m) hx with
    | platform _ _ _ _ _ => exact forall_mem_nil _
  | channel p channelId taskIds =>
    refine h.after (fun x hx => ?_) ?_ ?_
    · cases exec_pushes hx with
      | suno _ _ _ _ | video _ _ _ _ => exact forall_mem_nil _
    · dsimp only [PollWork.exec, pollChannel]
      split <;> exact h.memory
    · dsimp only [PollWork.exec, pollChannel]
      split
      · exact h.row_bulk
      · exact h.row
  | videoTask taskId => exact h.videoTask hon
  | sunoItem item => exact h.sunoItem hon
  | sunoSave t =>
    refine h.after (forall_mem_nil _) h.memory ?_
    dsimp only [PollWork.exec, Task.update]
    split
    · exact h.row
    · exact h.row_save (h.agenda _ mem_cons_self t mem_cons_self)

end ChargeKept

/-! ## The credit of a refund -/

/-- `amount` was given back to the funding source; the balances of the other kind are untouched. A
subscription's counter stops at zero. -/
def TaskFunding.Credited (f : TaskFunding) (amount : Int) (a a' : Accounts) : Prop :=
  match f with
  | .wallet id => a'.wallet = (a.addWallet id amount).wallet ∧ a'.used = a.used
  | .subscription id => a'.used = (a.meter id (-amount)).used ∧ a'.wallet = a.wallet

def TaskFunding.found (db : Database) : TaskFunding → Bool
  | wallet id => db.accounts.live id
  | subscription id => (db.userSubscriptions.find? id).isSome

theorem taskAdjustTokenQuota_tokenOnly (cfg : Config) (env : TaskEnv) (t : Task) (delta : Int)
    (db : Database) : TokenOnly db (taskAdjustTokenQuota cfg env t delta db) := by
  unfold taskAdjustTokenQuota
  split
  · exact .refl db
  split
  · exact .refl db
  split <;> exact moveTokenQuota_tokenOnly ..

variable {cfg : Config} {env : TaskEnv} {db : Database}

theorem taskAdjustFunding_credited
    {u : Unit} (hq : 0 < t.quota) (hfound : t.funding.found db = true)
    (h : (taskAdjustFunding cfg env t (-t.quota) db).1 = .ok u) :
    t.funding.Credited t.quota db.accounts
    (taskAdjustFunding cfg env t (-t.quota) db).2.accounts := by
  have hneg : ¬ 0 < -t.quota := by omega
  unfold taskAdjustFunding at h ⊢
  cases hf : t.funding with
  | wallet id =>
    rw [hf] at h hfound
    dsimp only at h ⊢
    rw [if_neg hneg, neg_neg] at h ⊢
    rw [(increaseUserQuota_atomic hfound).of_ok h]
    exact ⟨rfl, rfl⟩
  | subscription id =>
    rw [hf] at h
    rw [(postConsumeUserSubscriptionDelta_atomic (by omega)).of_ok h]
    exact ⟨rfl, rfl⟩

theorem refundTaskQuota_credited
    (hq : 0 < t.quota) (h1 : t.funding.found db = true)
    (h : (refundTaskQuota cfg env t db).1 = some true) :
    t.funding.Credited t.quota db.accounts (refundTaskQuota cfg env t db).2.accounts := by
  have hcredit : (taskAdjustFunding cfg env t (-t.quota) db).1 = .ok () →
      t.funding.Credited t.quota db.accounts
        (taskAdjustFunding cfg env t (-t.quota) db).2.accounts := taskAdjustFunding_credited hq h1
  unfold refundTaskQuota at h ⊢
  rw [if_neg hq.ne'] at h ⊢
  generalize taskAdjustFunding cfg env t (-t.quota) db = r at h hcredit ⊢
  obtain ⟨_ | _, db'⟩ := r
  · cases h
  · obtain ⟨_, _, ht⟩ := taskAdjustTokenQuota_tokenOnly cfg env t (-t.quota) db'
    dsimp only
    rw [ht]
    exact hcredit rfl

/-! ## Refunds come first -/

theorem PollWork.Pushes.isRefund {x : PollWork} (h : work.Pushes x) (hx : x.isRefund = true) :
    (∃ t, work = .sweepTask t) ∨ (∃ id, work = .videoTask id) ∨ ∃ item, work = .sunoItem item := by
  cases h with
  | swept t t' => exact .inl ⟨t, rfl⟩
  | refunded id t => exact .inr (.inl ⟨id, rfl⟩)
  | answered item t => exact .inr (.inr ⟨item, rfl⟩)
  | _ => cases hx

theorem exec_refund_first (work : PollWork) :
    ∀ x ∈ ((work.exec set i m w).push.getD []).tail, x.isRefund = false := by
  have hone : ∀ l : List PollWork, l.length ≤ 1 → ∀ x ∈ l.tail, x.isRefund = false := by
    intro l hl x hx
    have hlen := length_pos_of_mem hx
    rw [length_tail] at hlen
    omega
  intro x hx
  cases hr : x.isRefund with
  | false => rfl
  | true =>
    rw [← hr]
    rcases (exec_pushes (mem_of_mem_tail hx)).isRefund hr with
      ⟨t, rfl⟩ | ⟨taskId, rfl⟩ | ⟨item, rfl⟩
    · refine hone _ ?_ x hx
      change ((sweepTimedOutTask set i m w t).push.getD []).length ≤ 1
      unfold sweepTimedOutTask
      split
      · dsimp only [getD_some]
        split <;> simp
      · exact Nat.zero_le _
    · refine hone _ ?_ x hx
      change ((updateVideoSingleTask set i m w taskId).push.getD []).length ≤ 1
      unfold updateVideoSingleTask
      split
      · exact Nat.zero_le _
      · split
        · exact Nat.zero_le _
        · dsimp only [getD_some]
          split
          · exact length_videoBilling_le
          · exact Nat.zero_le _
    · change x ∈ ((updateSunoTask m w item).push.getD []).tail at hx
      unfold updateSunoTask at hx
      split at hx
      · cases hx
      · split at hx
        · -- a refund is followed by the write it belongs to
          rename_i task _ _
          cases hf : task.failedBy item with
          | true =>
            rw [hf] at hx
            rw [mem_singleton.1 (show x ∈ [PollWork.sunoSave (task.answered item)] from hx)]
            rfl
          | false =>
            rw [hf] at hx
            cases hx
        · cases hx

/-! ## What an item adds to the refunds of a task -/

section Log

theorem PollWork.refunds_of_isRefund (h : work.isRefund = false) : work.refunds τ = false := by
  cases work with
  | refund t => cases h
  | _ => rfl

theorem TaskItem.refundTotal_le (h : TaskItem τ i work m w e) :
    refundTotal τ { agenda := work :: rest, taskM := m } w ≤ refundTotal τ
    (e.next rest) e.store := by
  rw [refundTotal_cons, refundTotal_next]
  have hsame : work.refunds τ = false → e.store.refundsOf τ = w.refundsOf τ →
      refundsIn τ rest + (if work.refunds τ then 1 else 0) + (w.refundsOf τ).length ≤
        refundsIn τ (e.push.getD []) + refundsIn τ rest + (e.store.refundsOf τ).length := by
    intro hw hlog
    rw [hw, hlog, if_neg Bool.false_ne_true]
    omega
  cases h with
  | quiet hwork _ _ hlog _ => exact hsame hwork.1 hlog
  | reads hwork _ _ _ _ hstore =>
    exact hsame (by rcases hwork with rfl | rfl <;> rfl) (hstore ▸ rfl)
  | refunds t accepted _ _ _ _ _ hlog _ =>
    rw [hlog, length_append, length_singleton]
    split <;> omega
  | writes t hwork _ _ _ _ _ hlog _ => exact hsame (PollWork.refunds_of_isRefund hwork.1) hlog
  | answers t failed _ _ _ hwork _ _ _ hstore =>
    exact hsame (PollWork.refunds_of_isRefund hwork.1) (hstore ▸ rfl)
  | saves t hwork _ _ _ hlog _ => exact hsame (hwork ▸ rfl) hlog

theorem TaskStore.refund_log {accepted : Bool}
    (h : (refundTaskQuota cfg env t w.db).1 = some accepted) (hid : t.id = τ) :
    (w.refund cfg env t).refundsOf τ = w.refundsOf τ ++ [(t.quota, t.funding, accepted)] ∧
      (w.refund cfg env t).db = (refundTaskQuota cfg env t w.db).2 := by
  unfold refund
  generalize refundTaskQuota cfg env t w.db = r at h ⊢
  obtain ⟨_, db⟩ := r
  subst h
  exact ⟨by simp [refundsOf, TaskCompletion.refundOf, hid], rfl⟩

theorem TaskItem.log (h : TaskItem τ i work m w e) :
    e.store.refundsOf τ = w.refundsOf τ ∨ ∃ t, work = .refund t ∧ t.id = τ := by
  cases h with
  | quiet _ _ _ hlog _ => exact .inl hlog
  | reads _ _ _ _ _ hstore => exact .inl (by rw [hstore])
  | refunds t _ hwork hid _ _ _ _ _ => exact .inr ⟨t, hwork, hid⟩
  | writes _ _ _ _ _ _ _ hlog _ => exact .inl hlog
  | answers _ _ _ _ _ _ _ _ _ hstore => exact .inl (by rw [hstore])
  | saves _ _ _ _ _ hlog _ => exact .inl hlog

end Log

/-! ## The condition -/

/-- A refund of the task finds its funding source, which accepts it. -/
def PollWork.refundAccepted (set : PollSettings) (τ : Nat) (i : PollInput) (w : TaskStore) :
    PollWork → Bool
  | refund t =>
    t.id ≠ τ || t.funding.found w.db && (refundTaskQuota set.cfg i.env t w.db).1 = some true
  | _ => true

/-- **What a failed task relies on**, at one step: the step is orderly for it, no bulk update
reaches it, and its refund is accepted. -/
def Poller.refundsReach (set : PollSettings) (τ : Nat) (t : Poller) (i : PollInput)
    (w : TaskStore) : Bool :=
  t.orderlyFor τ (.step i) &&
    t.agenda.head?.all fun work => !work.bulkFails τ i t.taskM && work.refundAccepted set τ i w

/-! ## The process -/

def pollerNext (set : PollSettings) (s : Poller × TaskStore) (i : PollInput) : Poller × TaskStore :=
  s.1.run set (.step i) s.2

def pollerStart (tasks : Table Task) (db : Database) : Poller × TaskStore :=
  (.resting, { tasks, db, completions := [] })

/-- **A failed task is paid back**: it was refunded as it was charged, or its refund is next. -/
structure Paid (t0 : Task) (t : Poller) (w : TaskStore) : Prop where
  pass : Pass t0.id t w
  charge : ChargeKept t0 t.agenda t.taskM w
  refundFirst : ∀ x ∈ t.agenda.tail, x.isRefund = false
  failed : ∀ r, w.row t0.id = some r → r.status = .failure → r.quota ≠ 0 → r.isLegacy = false →
    0 < refundTotal t0.id t w
  saves : ∀ x, .sunoSave x ∈ t.agenda → x.id = t0.id → x.status = .failure → x.quota ≠ 0 →
    0 < refundTotal t0.id t w
  log : ∀ r ∈ w.refundsOf t0.id, r = (t0.quota, t0.funding, true)

namespace Paid

variable {t : Poller}

theorem start {tasks : Table Task} (h : tasks.find? t0.id = some t0)
    (hopen : t0.status ≠ .failure) :
    Paid t0 (pollerStart tasks db).1 (pollerStart tasks db).2 := by
  have hrow : ∀ r, (pollerStart tasks db).2.row t0.id = some r → r = t0 := fun r hr =>
    Option.some.inj (hr.symm.trans h)
  refine ⟨Rest.resting ⟨Nat.zero_le _, fun h => absurd h (Nat.lt_irrefl 0)⟩,
    ⟨fun r hr => ?_, forall_mem_nil _, forall_mem_nil _⟩,
    forall_mem_nil _, fun r hr hs => ?_,
    fun x hx => absurd hx not_mem_nil, forall_mem_nil _⟩
  · rw [hrow r hr]
    exact fun _ => .refl t0
  · rw [hrow r hr] at hs
    exact absurd hs hopen

/-- A process with no refund ahead may drop what is left of its round, or start the next one. -/
theorem turn (h : Paid t0 t w) (h1 : ∀ x ∈ t.agenda, x.isRefund = false)
    (hagenda : agenda = [] ∨ agenda = [.sweep, .list])
    (h2 : Pass t0.id { agenda, taskM := [] } w) : Paid t0 { agenda, taskM := [] } w := by
  have h3 : refundsIn t0.id t.agenda = 0 := countP_eq_zero.2 fun x hx => by
    rw [PollWork.refunds_of_isRefund (h1 x hx)]
    nofun
  have h1 : refundsIn t0.id agenda = 0 := by rcases hagenda with rfl | rfl <;> rfl
  have h4 : refundTotal t0.id { agenda, taskM := [] } w = refundTotal t0.id t w := by
    rw [refundTotal, refundTotal, h3, h1]
  refine ⟨h2, ⟨h.charge.row, ?_, forall_mem_nil _⟩, ?_,
    fun r hr hs hq hl => h4 ▸ h.failed r hr hs hq hl, ?_, h.log⟩
  · rcases hagenda with rfl | rfl
    · exact forall_mem_nil _
    · intro x hx
      rcases mem_pair.1 hx with rfl | rfl <;> exact forall_mem_nil _
  · rcases hagenda with rfl | rfl
    · exact forall_mem_nil _
    · exact fun x hx => by rw [mem_singleton.1 hx]; rfl
  · rcases hagenda with rfl | rfl
    · exact fun x hx => absurd hx not_mem_nil
    · exact fun x hx => by simp at hx

theorem credits (h : Paid t0 { agenda := work :: rest, taskM := m } w)
    (hon : work.onUnfinished t0.id m = true) (hq : 0 < t0.quota)
    (hacc : work.refundAccepted set t0.id i w = true) :
    (work.exec set i m w).store.refundsOf t0.id = w.refundsOf t0.id ∨
      (work.exec set i m w).store.refundsOf t0.id =
          w.refundsOf t0.id ++ [(t0.quota, t0.funding, true)] ∧
        t0.funding.Credited t0.quota w.db.accounts (work.exec set i m w).store.db.accounts := by
  have hitem : TaskItem t0.id i work m w (work.exec set i m w) :=
    .exec (fun k t hw => h.pass.shape.settles k t (hw ▸ mem_cons_self)) hon
  rcases hitem.log with hlog | ⟨t, rfl, hid⟩
  · exact .inl hlog
  · right
    have hsame := h.charge.agenda _ mem_cons_self t mem_cons_self hid
    have hacc : t.funding.found w.db = true ∧
        (refundTaskQuota set.cfg i.env t w.db).1 = some true := by
      simpa [PollWork.refundAccepted, hid] using hacc
    obtain ⟨hlog, hdb⟩ := TaskStore.refund_log hacc.2 hid
    rw [← hsame.quota, ← hsame.funding]
    refine ⟨hlog, ?_⟩
    change t.funding.Credited t.quota _ (w.refund set.cfg i.env t).db.accounts
    rw [hdb]
    exact refundTaskQuota_credited (by rw [hsame.quota]; exact hq) hacc.1 hacc.2

section Next

variable (h : Paid t0 { agenda := work :: rest, taskM := m } w)
  (hitem : TaskItem t0.id i work m w e)

include h hitem

theorem failed_next {r : Task} (hbulk : work.bulkFails t0.id i m = false)
    (hr : e.store.row t0.id = some r) (hs : r.status = .failure) (hq : r.quota ≠ 0)
    (hl : r.isLegacy = false) : 0 < refundTotal t0.id (e.next rest) e.store := by
  have hle : refundTotal t0.id { agenda := work :: rest, taskM := m } w ≤
      refundTotal t0.id (e.next rest) e.store := hitem.refundTotal_le
  have hsame : w.row t0.id = some r → 0 < refundTotal t0.id (e.next rest) e.store :=
    fun hr => Nat.lt_of_lt_of_le (h.failed r hr hs hq hl) hle
  cases hitem with
  | quiet _ _ _ _ hrow =>
    rcases hrow with hrow | ⟨hb, _⟩
    · exact hsame (hrow ▸ hr)
    · rw [hbulk] at hb
      cases hb
  | reads _ _ _ _ _ hstore => exact hsame (hstore ▸ hr)
  | refunds _ _ _ _ _ _ _ _ hrow => exact hsame (hrow ▸ hr)
  | writes t _ _ _ _ _ hfailed _ hrow =>
    rw [hrow] at hr
    cases hr
    rw [refundTotal_next, hfailed hs hq hl]
    omega
  | answers _ _ _ _ _ _ _ _ _ hstore => exact hsame (hstore ▸ hr)
  | saves t hwork hid _ _ _ hrow =>
    rcases hrow with ⟨_, hrow⟩ | hrow
    · exact hsame (hrow ▸ hr)
    · rw [hrow] at hr
      obtain ⟨_, _, rfl⟩ := map_eq_some_iff.1 hr
      exact Nat.lt_of_lt_of_le (h.saves _ (hwork ▸ mem_cons_self) hid hs hq) hle

theorem saves_next {x : Task} (hx : .sunoSave x ∈ (e.next rest).agenda) (hid : x.id = t0.id)
    (hs : x.status = .failure) (hq : x.quota ≠ 0) :
    0 < refundTotal t0.id (e.next rest) e.store := by
  have hle : refundTotal t0.id { agenda := work :: rest, taskM := m } w ≤
      refundTotal t0.id (e.next rest) e.store := hitem.refundTotal_le
  have h1 : (PollWork.sunoSave x).saves t0.id ≠ false := by simp [PollWork.saves, hid]
  rcases mem_append.1 hx with hx | hx
  · cases hitem with
    | quiet _ hpush _ _ _ | reads _ hpush _ _ _ _ => exact absurd (hpush _ hx).2 h1
    | refunds _ _ _ _ _ hpush _ _ _ =>
      rw [hpush] at hx
      cases hx
    | writes _ _ _ _ hpush _ _ _ _ => exact absurd (hpush.2 _ hx) h1
    | answers t failed hid' _ _ _ hpush _ hfailed _ =>
      rw [hpush] at hx
      have hxt : x = t := by
        rcases mem_append.1 hx with hx | hx
        · split at hx
          · cases mem_singleton.1 hx
          · cases hx
        · exact PollWork.sunoSave.inj (mem_singleton.1 hx)
      subst hxt
      rw [refundTotal_next, hpush, hfailed hs]
      simp [refundsIn, PollWork.refunds, hid, hq]
    | saves _ _ _ hpush _ _ _ =>
      rw [hpush] at hx
      cases hx
  · exact Nat.lt_of_lt_of_le (h.saves x (mem_cons_of_mem _ hx) hid hs hq) hle

end Next

theorem exec (h : Paid t0 { agenda := work :: rest, taskM := m } w)
    (hon : work.onUnfinished t0.id m = true) (hsaved : work.unsaved t0.id = true → i.fails = false)
    (hq : 0 < t0.quota) (hbulk : work.bulkFails t0.id i m = false)
    (hacc : work.refundAccepted set t0.id i w = true) :
    Paid t0 ((work.exec set i m w).next rest) (work.exec set i m w).store := by
  have h1 : ∀ k t, work = .settle k t → t.status.done = true :=
    fun k t hw => h.pass.shape.settles k t (hw ▸ mem_cons_self)
  have hitem : TaskItem t0.id i work m w (work.exec set i m w) := .exec h1 hon
  have hcredits := h.credits hon hq hacc
  have h2 : Pass t0.id ((work.exec set i m w).next rest) (work.exec set i m w).store :=
    h.pass.exec hon hsaved
  have h3 : ChargeKept.Next t0 rest (work.exec set i m w) := h.charge.exec h1 hon
  have hfirst : ∀ x ∈ ((work.exec set i m w).push.getD []).tail, x.isRefund = false :=
    exec_refund_first work
  generalize work.exec set i m w = e at hitem hcredits h2 h3 hfirst ⊢
  refine ⟨h2, h3, ?_, ?_, ?_, ?_⟩
  · intro x hx
    have hrest : ∀ x ∈ rest, x.isRefund = false := h.refundFirst
    change x ∈ (e.push.getD [] ++ rest).tail at hx
    generalize e.push.getD [] = push at hfirst hx
    cases push with
    | nil => exact hrest x (mem_of_mem_tail hx)
    | cons a push =>
      rcases mem_append.1 hx with hx | hx
      · exact hfirst x hx
      · exact hrest x hx
  · exact fun r hr hs hq hl => h.failed_next hitem hbulk hr hs hq hl
  · exact fun x hx hid hs hq => h.saves_next hitem hx hid hs hq
  · rcases hcredits with hlog | ⟨hlog, _⟩
    · rw [hlog]
      exact h.log
    · intro r hr
      rw [hlog] at hr
      rcases mem_append.1 hr with hr | hr
      · exact h.log r hr
      · exact mem_singleton.1 hr

theorem run (h : Paid t0 t w) (hq : 0 < t0.quota) (h1 : t.refundsReach set t0.id i w = true) :
    Paid t0 (t.run set (.step i) w).1 (t.run set (.step i) w).2 ∧
      ((t.run set (.step i) w).2.refundsOf t0.id = w.refundsOf t0.id ∨
        (t.run set (.step i) w).2.refundsOf t0.id =
            w.refundsOf t0.id ++ [(t0.quota, t0.funding, true)] ∧
          t0.funding.Credited t0.quota w.db.accounts (t.run set (.step i) w).2.db.accounts) := by
  obtain ⟨agenda, m⟩ := t
  obtain ⟨hor, hhead⟩ := Bool.and_eq_true_iff.1 h1
  have hpass : Pass t0.id (Poller.run set { agenda, taskM := m } (.step i) w).1
      (Poller.run set { agenda, taskM := m } (.step i) w).2 := h.pass.run hor
  cases agenda with
  | nil => exact ⟨h.turn (forall_mem_nil _) (.inr rfl) hpass, .inl rfl⟩
  | cons work rest =>
    simp only [List.head?_cons, all_some, Bool.and_eq_true, Bool.not_eq_true'] at hhead
    simp only [Poller.orderlyFor, Bool.and_eq_true, Bool.or_eq_true, Bool.not_eq_true'] at hor
    have h1 : work.unsaved t0.id = true → i.fails = false := fun hu => by
      rcases hor.2 with hf | hf
      · rw [hu] at hf
        cases hf
      · exact hf
    have h2 := h.exec hor.1 h1 hq hhead.1 hhead.2
    have h1 := h.credits hor.1 hq hhead.2
    unfold Poller.run at hpass ⊢
    dsimp only at hpass ⊢
    generalize work.exec set i m w = e at h2 h1 hpass ⊢
    obtain ⟨_ | push, m', w'⟩ := e
    · exact ⟨h2.turn h.refundFirst (.inl rfl) hpass, h1⟩
    · exact ⟨h2, h1⟩

theorem refunded (h : Paid t0 t w) (hrest : t.agenda = []) {r : Task} (hr : w.row t0.id = some r)
    (hs : r.status = .failure) (hq : 0 < t0.quota) (hl : r.isLegacy = false) :
    w.refundsOf t0.id = [(t0.quota, t0.funding, true)] := by
  have h1 : refundTotal t0.id t w = (w.refundsOf t0.id).length := by
    rw [refundTotal, hrest, refundsIn_nil, Nat.zero_add]
  have hquota : r.quota = t0.quota :=
    (h.charge.row r hr (Table.find?_eq_some.1 hr).2).quota
  have hpos := h.failed r hr hs (by omega) hl
  have hone := h.pass.once
  rw [h1] at hpos hone
  obtain ⟨x, hx⟩ := length_eq_one_iff.1 (Nat.le_antisymm hone hpos)
  rw [hx, h.log x (hx ▸ mem_singleton_self x)]

end Paid

/-- **A failed task is refunded exactly once, to the source it was charged to**, in every run of
one process whose steps all let refunds reach the task: every refund credits that source with
what the task was charged, and between rounds a row stored as a failure has had one. -/
theorem failed_task_refunded (set : PollSettings) (t0 : Task) (tasks : Table Task) (db : Database)
    (inputs : List PollInput) (hstored : tasks.find? t0.id = some t0)
    (hopen : t0.status ≠ .failure) (hquota : 0 < t0.quota)
    (hreach : ∀ e ∈ Run.trace (pollerNext set) (pollerStart tasks db) inputs,
      e.before.1.refundsReach set t0.id e.act e.before.2 = true) :
    (∀ e ∈ Run.trace (pollerNext set) (pollerStart tasks db) inputs,
      e.after.2.refundsOf t0.id = e.before.2.refundsOf t0.id ∨
        e.after.2.refundsOf t0.id =
            e.before.2.refundsOf t0.id ++ [(t0.quota, t0.funding, true)] ∧
          t0.funding.Credited t0.quota e.before.2.db.accounts e.after.2.db.accounts) ∧
      ∀ r, (Run.final (pollerNext set) (pollerStart tasks db) inputs).1.agenda = [] →
        (Run.final (pollerNext set) (pollerStart tasks db) inputs).2.row t0.id = some r →
        r.status = .failure → r.isLegacy = false →
        (Run.final (pollerNext set) (pollerStart tasks db) inputs).2.refundsOf t0.id =
          [(t0.quota, t0.funding, true)] := by
  have hstart : Paid t0 (pollerStart tasks db).1 (pollerStart tasks db).2 := .start hstored hopen
  have hstep : ∀ (s : Poller × TaskStore) (i : PollInput),
      s.1.refundsReach set t0.id i s.2 = true → Paid t0 s.1 s.2 →
      Paid t0 (pollerNext set s i).1 (pollerNext set s i).2 :=
    fun s i hr h => (h.run hquota hr).1
  constructor
  · intro e he
    obtain ⟨h1, h2, _⟩ := Run.guarded_invariant (P := fun s => Paid t0 s.1 s.2) hstart hreach
      hstep he
    rw [h2]
    exact (h1.run hquota (hreach e he)).2
  · intro r hrest hr hs hl
    have h1 := Run.guarded_final (P := fun s : Poller × TaskStore => Paid t0 s.1 s.2) hstart
      hreach hstep
    exact h1.refunded hrest hr hs hquota hl

theorem failed_task_refunded_by_round :
    (Run.final (pollerNext pollSettings) (pollerStart (Table.empty.insert sunoTask) pollDb)
      (List.replicate 11 (sunoInput false))).2.refundsOf 1 = [(100, .wallet 1, true)] :=
  (failed_task_refunded pollSettings { sunoTask with id := 1 } (Table.empty.insert sunoTask) pollDb
    (List.replicate 11 (sunoInput false)) (by decide +kernel) (by decide) (by decide)
    (by decide +kernel)).2
    { (sunoTask.answered { taskID := "a", status := .failure, failReason := "", submitTime := 0
                           startTime := 0, finishTime := 0, data := "" }) with id := 1 }
    (by decide +kernel) (by decide +kernel) (by decide +kernel) (by decide +kernel)

/-- A task without an upstream id and a task whose channel is gone are stored as failures, and
nothing is given back. -/
theorem failed_task_not_refunded :
    (let s := Run.final (pollerNext pollSettings)
        (pollerStart (Table.empty.insert { pollTask "" with taskID := "" }) pollDb)
        (List.replicate 4 (pollInput .success))
     s.1.agenda = [] ∧ s.2.status? 1 = some .failure ∧ s.2.refundsOf 1 = [] ∧
       s.2.db.userQuota 1 = 0) ∧
    (let s := Run.final (pollerNext pollSettings)
        (pollerStart (Table.empty.insert (pollTask "a")) pollDb)
        (List.replicate 5 { pollInput .success with channelFound := false })
     s.1.agenda = [] ∧ s.2.status? 1 = some .failure ∧ s.2.refundsOf 1 = [] ∧
       s.2.db.userQuota 1 = 0) := by
  decide +kernel

end Xingkong
