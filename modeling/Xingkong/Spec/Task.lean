import Xingkong.Model.TaskPolling
import Xingkong.Spec.Accounts

/-!
# Tasks

What the statements of the polling loop do to the row of one task, and what an update in memory
keeps of it.
-/

namespace Xingkong

open Rdb List Option

variable {cfg : Config} {set : PollSettings} {env : TaskEnv} {tasks : Table Task} {t t' : Task}
  {w : TaskStore}

/-! ## Rows -/

theorem TaskStatus.done_iff {s : TaskStatus} : s.done = true ↔ s = .success ∨ s = .failure := by
  cases s <;> simp [done]

theorem Task.updateWithStatus_cases (t : Task) (s : TaskStatus) (fails : Bool)
    (tasks : Table Task) :
    (∃ r, r ≠ some true ∧ t.updateWithStatus s fails tasks = (r, tasks)) ∨
      (∃ old, tasks.find? t.id = some old ∧ old.status = s ∧
        t.updateWithStatus s fails tasks = (some true, tasks.save t)) := by
  unfold updateWithStatus
  split
  · exact .inl ⟨none, nofun, rfl⟩
  · split
    next h =>
      obtain ⟨old, hold, hs⟩ := map_eq_some_iff.1 h
      exact .inr ⟨old, hold, hs, rfl⟩
    · exact .inl ⟨some false, nofun, rfl⟩

theorem mem_getTimedOutUnfinishedTasks {cutoffUnix : Int} {limit : Nat} {fails : Bool}
    (h : t ∈ getTimedOutUnfinishedTasks cutoffUnix limit fails tasks) :
    t ∈ tasks.rows ∧ t.unfinished = true := by
  unfold getTimedOutUnfinishedTasks at h
  split at h
  · cases h
  · obtain ⟨hmem, hf⟩ := mem_filter.1 ((mem_insertionSort _).1 (mem_of_mem_take h))
    exact ⟨hmem, (Bool.and_eq_true_iff.1 hf).1⟩

theorem getAllUnFinishSyncTasks_sublist (limit : Nat) (fails : Bool) (tasks : Table Task) :
    (getAllUnFinishSyncTasks limit fails tasks).Sublist (tasks.filter Task.unfinished) := by
  unfold getAllUnFinishSyncTasks
  split
  · exact nil_sublist _
  · exact take_sublist _ _

theorem sweepTimedOutTask_cases (set : PollSettings) (i : PollInput) (m : TaskMap) (w : TaskStore)
    (t : Task) :
    sweepTimedOutTask set i m w t = ⟨some [], m, w⟩ ∨
      ∃ row, w.tasks.find? t.id = some row ∧ row.status = t.status ∧
        sweepTimedOutTask set i m w t =
          ⟨some (if !t.isLegacy && t.quota ≠ 0 then [.refund (timedOut set i t)] else []), m,
            { w with tasks := w.tasks.save (timedOut set i t) }⟩ := by
  unfold sweepTimedOutTask
  rcases (timedOut set i t).updateWithStatus_cases t.status i.fails w.tasks with
    ⟨_ | _ | _, hr, he⟩ | ⟨row, hrow, h, he⟩ <;> rw [he]
  · exact .inl rfl
  · exact .inl rfl
  · exact absurd rfl hr
  · exact .inr ⟨row, hrow, h, rfl⟩

/-- A row is written or left alone; a task that has just been finished is billed only if its row
was written. -/
theorem Task.writeVideo_cases (old t : Task) (fails : Bool) (tasks : Table Task) :
    (∃ billed, (billed = true → t.status.done = true → old.status = t.status) ∧
      old.writeVideo t fails tasks = (billed, tasks)) ∨
    (∃ row, tasks.find? t.id = some row ∧ row.status = old.status ∧
      old.writeVideo t fails tasks = (true, tasks.save t)) := by
  have hcases := t.updateWithStatus_cases old.status fails tasks
  unfold writeVideo
  split
  next hd =>
    rcases hcases with ⟨r, hr, h⟩ | ⟨row, hrow, h1, h⟩
    · refine .inl ⟨false, nofun, ?_⟩
      rw [h]
      rcases r with _ | _ | _
      · rfl
      · rfl
      · exact absurd rfl hr
    · exact .inr ⟨row, hrow, h1, by rw [h]⟩
  next hd =>
    have h2 : t.status.done = true → old.status = t.status := not_and_not_right.1 hd
    split
    · rcases hcases with ⟨r, hr, h⟩ | ⟨row, hrow, h1, h⟩
      · exact .inl ⟨true, fun _ => h2, by rw [h]⟩
      · exact .inr ⟨row, hrow, h1, by rw [h]⟩
    · exact .inl ⟨true, fun _ => h2, rfl⟩

theorem taskBulkUpdateByID_cases (ids : List Nat) (reason : Option String) (fails : Bool)
    (tasks : Table Task) (n : Nat) :
    (taskBulkUpdateByID ids reason fails tasks).find? n = tasks.find? n ∨
      (n ∈ ids ∧ (taskBulkUpdateByID ids reason fails tasks).find? n =
        (tasks.find? n).map (Task.fail reason)) := by
  unfold taskBulkUpdateByID
  split
  · exact .inl rfl
  · rw [Table.find?_update]
    cases hf : tasks.find? n with
    | none => exact .inl rfl
    | some r =>
      have hid : r.id = n := (Table.find?_eq_some.1 hf).2
      by_cases hn : n ∈ ids
      · exact .inr ⟨hn, by simp [hid, hn]⟩
      · exact .inl (by simp [hid, hn])

/-! ## Updates in memory -/

/-- What decides whom a task is charged to, and how much. -/
structure Task.SameCharge (t t' : Task) : Prop where
  id : t'.id = t.id
  platform : t'.platform = t.platform
  quota : t'.quota = t.quota
  userId : t'.userId = t.userId
  billingSource : t'.billingSource = t.billingSource
  subscriptionId : t'.subscriptionId = t.subscriptionId

namespace Task.SameCharge

theorem refl (t : Task) : t.SameCharge t := ⟨rfl, rfl, rfl, rfl, rfl, rfl⟩

theorem trans {t'' : Task} (h : t.SameCharge t') (h' : t'.SameCharge t'') : t.SameCharge t'' :=
  ⟨h'.id.trans h.id, h'.platform.trans h.platform, h'.quota.trans h.quota,
    h'.userId.trans h.userId, h'.billingSource.trans h.billingSource,
    h'.subscriptionId.trans h.subscriptionId⟩

theorem data (body : String) : t.SameCharge { t with data := body } :=
  ⟨rfl, rfl, rfl, rfl, rfl, rfl⟩

theorem funding (h : t.SameCharge t') : t'.funding = t.funding := by
  unfold Task.funding taskIsSubscription
  rw [h.billingSource, h.subscriptionId, h.userId]

end Task.SameCharge

variable {now : Int} {reply : VideoReply} {m : TaskMap} {taskId : String} {x work : PollWork}
  {i : PollInput}

theorem Task.withStatus_same {info : TaskInfo} (h : t.withStatus set now info = some t') :
    t.SameCharge t' := by
  unfold withStatus at h
  split at h <;> cases h <;> exact ⟨rfl, rfl, rfl, rfl, rfl, rfl⟩

theorem Task.withProgress_same (progress : String) (t : Task) :
    t.SameCharge (t.withProgress progress) := by
  unfold withProgress
  split
  · exact .refl t
  · exact ⟨rfl, rfl, rfl, rfl, rfl, rfl⟩

theorem Task.withReply_same
    (h : t.withReply set now reply = .writes t' ∨ t.withReply set now reply = .leaves t') :
    t.SameCharge t' := by
  unfold withReply at h
  split at h
  · rcases h with h | h <;> cases h
    exact .refl t
  · split at h
    · rcases h with h | h <;> cases h
      exact .data _
    · split at h
      · rcases h with h | h <;> cases h
        exact ⟨rfl, rfl, rfl, rfl, rfl, rfl⟩
      next t1 h1 =>
        rcases h with h | h <;> cases h
        exact (SameCharge.data _).trans ((withStatus_same h1).trans (withProgress_same _ t1))

/-! ## Memory -/

theorem TaskMap.mem_of_task? {id : String} (h : m.task? id = some t) : (id, t) ∈ m := by
  unfold task? at h
  induction m with
  | nil => cases h
  | cons e m ih =>
    rw [lookup_cons] at h
    split at h
    next he =>
      cases h
      rw [eq_of_beq he]
      exact mem_cons_self
    · exact mem_cons_of_mem _ (ih h)

/-! ## Billing -/

theorem TaskStore.refund_cases (cfg : Config) (env : TaskEnv) (t : Task) (w : TaskStore) :
    ∃ db, (t.quota = 0 ∧ w.refund cfg env t = { w with db }) ∨
      (t.quota ≠ 0 ∧ ∃ accepted, w.refund cfg env t =
        { w with
          db, completions := w.completions ++ [⟨t.id, .refund t.quota t.funding accepted⟩] }) := by
  unfold refund refundTaskQuota
  by_cases hq : t.quota = 0
  · rw [if_pos hq]
    exact ⟨w.db, .inl ⟨hq, rfl⟩⟩
  · rw [if_neg hq]
    rcases taskAdjustFunding cfg env t (-t.quota) w.db with ⟨_ | _, db⟩
    · exact ⟨db, .inr ⟨hq, false, rfl⟩⟩
    · exact ⟨_, .inr ⟨hq, true, rfl⟩⟩

theorem recalculateTaskQuota_task (actualQuota : Int) (db : Database) :
    ∃ quota, (recalculateTaskQuota cfg env t actualQuota db).1 = { t with quota } := by
  unfold recalculateTaskQuota
  split
  · exact ⟨t.quota, rfl⟩
  · rcases taskAdjustFunding cfg env t (actualQuota - t.quota) db with ⟨_ | _, db'⟩
    · exact ⟨t.quota, rfl⟩
    · exact ⟨actualQuota, rfl⟩

theorem TaskStore.settle_task (pricing : TaskPricing) :
    ∃ quota, (w.settle cfg env pricing t).1 = { t with quota } := by
  have hkeep : ∃ quota, t = { t with quota } := ⟨t.quota, rfl⟩
  change ∃ quota, (settleTaskBillingOnComplete cfg env t pricing w.db).1 = { t with quota }
  unfold settleTaskBillingOnComplete
  split
  · exact hkeep
  · split
    · exact recalculateTaskQuota_task _ _
    · split
      · split
        · exact recalculateTaskQuota_task _ _
        · exact hkeep
      · exact hkeep

theorem TaskStore.settle_unfinished (pricing : TaskPricing) (h : t.status.done = true) :
    (w.settle cfg env pricing t).1.unfinished = false := by
  obtain ⟨quota, hq⟩ := TaskStore.settle_task pricing
  rw [hq]
  simp [Task.unfinished, h]

/-! ## Rounds -/

inductive PollWork.Pushes : PollWork → PollWork → Prop
  | sweep (t : Task) (h : t.status.done = false) : Pushes .sweep (.sweepTask t)
  | swept (t t' : Task) : Pushes (.sweepTask t) (.refund t')
  | list (p : TaskPlatform) (tasks : List Task) : Pushes .list (.platform p tasks)
  | platform (p q : TaskPlatform) (tasks : List Task) (c : Nat) (ids : List String) :
      Pushes (.platform p tasks) (.channel q c ids)
  | suno (p : TaskPlatform) (c : Nat) (ids : List String) (item : SunoDataResponse) :
      Pushes (.channel p c ids) (.sunoItem item)
  | video (p : TaskPlatform) (c : Nat) (ids : List String) (id : String) :
      Pushes (.channel p c ids) (.videoTask id)
  | settled (id k : String) (t : Task) (h : t.status.done = true) :
      Pushes (.videoTask id) (.settle k t)
  | refunded (id : String) (t : Task) : Pushes (.videoTask id) (.refund t)
  | answered (item : SunoDataResponse) (t : Task) : Pushes (.sunoItem item) (.refund t)
  | saved (item : SunoDataResponse) (t : Task) : Pushes (.sunoItem item) (.sunoSave t)

open PollWork (exec)

theorem length_videoBilling_le : (videoBilling taskId t).length ≤ 1 := by
  unfold videoBilling
  split
  · exact Nat.le_refl _
  · split <;> simp
  · exact Nat.zero_le _

theorem mem_videoBilling (hx : x ∈ videoBilling taskId t) :
    (t.status.done = true ∧ x = .settle taskId t) ∨
      (t.status = .failure ∧ t.quota ≠ 0 ∧ x = .refund t) := by
  unfold videoBilling at hx
  split at hx
  next hs =>
    exact .inl ⟨by rw [hs]; rfl, mem_singleton.1 hx⟩
  next hs =>
    split at hx
    next hq =>
      exact .inr ⟨hs, hq, mem_singleton.1 hx⟩
    · cases hx
  · cases hx

theorem exec_pushes (hx : x ∈ (work.exec set i m w).push.getD []) : work.Pushes x := by
  cases work with
  | sweep =>
    dsimp only [exec, getD_some, sweepTimedOutTasks] at hx
    split at hx
    · cases hx
    · obtain ⟨t, ht, rfl⟩ := mem_map.1 hx
      have hf := (mem_getTimedOutUnfinishedTasks ht).2
      simp only [Bool.and_eq_true, Task.unfinished, Bool.not_eq_true'] at hf
      exact .sweep t hf.2
  | sweepTask t =>
    dsimp only [exec, sweepTimedOutTask] at hx
    split at hx
    · dsimp only [getD_some] at hx
      split at hx
      · rw [mem_singleton.1 hx]
        exact .swept _ _
      · cases hx
    · cases hx
  | refund t | settle upstreamID t => cases hx
  | list =>
    obtain ⟨p, _, rfl⟩ := mem_map.1 hx
    exact .list _ _
  | platform p tasks =>
    dsimp only [exec, pollPlatform, getD_some] at hx
    split at hx
    · cases hx
    · obtain ⟨c, _, rfl⟩ := mem_map.1 hx
      exact .platform ..
  | channel p channelId taskIds =>
    dsimp only [exec, pollChannel] at hx
    split at hx
    · cases hx
    · dsimp only [getD_some] at hx
      split at hx
      · cases hx
      · split at hx
        · obtain ⟨item, _, rfl⟩ := mem_map.1 hx
          exact .suno ..
        · obtain ⟨id, _, rfl⟩ := mem_map.1 hx
          exact .video ..
  | videoTask taskId =>
    dsimp only [exec, updateVideoSingleTask] at hx
    split at hx
    · cases hx
    · split at hx
      · cases hx
      · dsimp only [getD_some] at hx
        split at hx
        · rcases mem_videoBilling hx with ⟨hd, rfl⟩ | ⟨_, _, rfl⟩
          · exact .settled _ _ _ hd
          · exact .refunded _ _
        · cases hx
  | sunoItem item =>
    dsimp only [exec, updateSunoTask] at hx
    split at hx
    · cases hx
    · split at hx
      · rcases mem_append.1 hx with hx | hx
        · split at hx
          · rw [mem_singleton.1 hx]
            exact .answered _ _
          · cases hx
        · rw [mem_singleton.1 hx]
          exact .saved _ _
      · cases hx
  | sunoSave t => cases hx

theorem exec_panics (h : (work.exec set i m w).push = none) : ∃ item, work = .sunoItem item := by
  cases work with
  | sunoItem item => exact ⟨item, rfl⟩
  | sweepTask t =>
    dsimp only [exec, sweepTimedOutTask] at h
    split at h <;> cases h
  | channel p channelId taskIds =>
    dsimp only [exec, pollChannel] at h
    split at h <;> cases h
  | videoTask taskId =>
    dsimp only [exec, updateVideoSingleTask] at h
    split at h
    · cases h
    · split at h <;> cases h
  | _ => cases h

theorem Poller.run_cases (set : PollSettings) (t : Poller) (a : PollAct) (w : TaskStore) :
    (∃ agenda, (agenda = [] ∨ a ≠ .crash ∧ t.agenda = [] ∧ agenda = [.sweep, .list]) ∧
      t.run set a w = ({ agenda, taskM := [] }, w)) ∨
    ∃ i work rest agenda taskM, a = .step i ∧ t.agenda = work :: rest ∧
      t.run set a w = ({ agenda, taskM }, (work.exec set i t.taskM w).store) ∧
      ((agenda = [] ∧ taskM = [] ∧ (work.exec set i t.taskM w).push = none) ∨
        (agenda = (work.exec set i t.taskM w).push.getD [] ++ rest ∧
          taskM = (work.exec set i t.taskM w).taskM)) := by
  obtain ⟨agenda, m⟩ := t
  unfold run
  cases a with
  | crash => exact .inl ⟨[], .inl rfl, rfl⟩
  | step i =>
    cases agenda with
    | nil => exact .inl ⟨_, .inr ⟨by simp, rfl, rfl⟩, rfl⟩
    | cons work rest =>
      refine .inr ⟨i, work, rest, ?_⟩
      dsimp only
      rcases work.exec set i m w with ⟨_ | push, m', w'⟩
      · exact ⟨[], [], rfl, rfl, rfl, .inl ⟨rfl, rfl, rfl⟩⟩
      · exact ⟨push ++ rest, m', rfl, rfl, rfl, .inr ⟨rfl, rfl⟩⟩

end Xingkong
