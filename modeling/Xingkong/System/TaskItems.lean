import Xingkong.Spec.Task

/-!
# Items of a polling round, seen from one task

A process acts on copies of a task: those it has read and not yet dealt with, and the one in its
memory. `TaskItem` lists everything an item of a round can do with the copies of one task, with
its row and with its refunds, as long as only unfinished copies are acted on. A copy is used up when
it is swept or finished, so a task with one copy is refunded once.
-/

namespace Xingkong

open Rdb List

variable {set : PollSettings} {i : PollInput} {m : TaskMap} {w : TaskStore} {τ : Nat} {t : Task}
  {l : List Task}

/-! ## Copies, refunds, rows -/

def TaskStore.row (w : TaskStore) (τ : Nat) : Option Task := w.tasks.find? τ

/-- The refund of task `τ` an entry of the history stands for. -/
def TaskCompletion.refundOf (τ : Nat) (c : TaskCompletion) : Option (Int × TaskFunding × Bool) :=
  match c.kind with
  | .refund amount funding accepted =>
    if c.taskId = τ then some (amount, funding, accepted) else none
  | .settle => none

def TaskStore.refundsOf (w : TaskStore) (τ : Nat) : List (Int × TaskFunding × Bool) :=
  w.completions.filterMap (·.refundOf τ)

namespace PollWork

def refunds (τ : Nat) : PollWork → Bool
  | refund t => t.id = τ && t.quota ≠ 0
  | _ => false

def copies (τ : Nat) : PollWork → Nat
  | sweepTask t => if t.id = τ then 1 else 0
  | platform _ tasks => tasks.countP (·.id = τ)
  | _ => 0

def isRefund : PollWork → Bool
  | refund _ => true
  | _ => false

def isSave : PollWork → Bool
  | sunoSave _ => true
  | _ => false

def saves (τ : Nat) : PollWork → Bool
  | sunoSave t => t.id = τ
  | _ => false

end PollWork

def refundsIn (τ : Nat) (agenda : List PollWork) : Nat := agenda.countP (·.refunds τ)

def copiesIn (τ : Nat) (agenda : List PollWork) : Nat := (agenda.map (·.copies τ)).sum

def TaskMap.copies (τ : Nat) (m : TaskMap) : Nat :=
  m.countP fun e => e.2.id = τ && e.2.unfinished

@[simp] theorem refundsIn_nil : refundsIn τ [] = 0 := rfl

@[simp] theorem refundsIn_append (a b : List PollWork) :
    refundsIn τ (a ++ b) = refundsIn τ a + refundsIn τ b :=
  countP_append

@[simp] theorem copiesIn_nil : copiesIn τ [] = 0 := rfl

@[simp] theorem copiesIn_append (a b : List PollWork) :
    copiesIn τ (a ++ b) = copiesIn τ a + copiesIn τ b := by
  simp [copiesIn]

@[simp] theorem copiesIn_cons (a : PollWork) (b : List PollWork) :
    copiesIn τ (a :: b) = a.copies τ + copiesIn τ b := by
  simp [copiesIn]

/-- Items that neither carry a copy of the task nor refund or write it. -/
def PollWork.Foreign (τ : Nat) (x : PollWork) : Prop :=
  x.refunds τ = false ∧ x.copies τ = 0 ∧ x.saves τ = false

theorem copiesIn_foreign {a : List PollWork} (h : ∀ x ∈ a, x.Foreign τ) : copiesIn τ a = 0 := by
  induction a with
  | nil => rfl
  | cons x a ih =>
    rw [copiesIn_cons, (h x mem_cons_self).2.1, ih fun y hy => h y (mem_cons_of_mem _ hy)]

namespace TaskMap

variable {k : String} {t' : Task}

theorem copies_filter_add (h : m.task? k = some t) :
    TaskMap.copies τ (m.filter (·.1 ≠ k)) + (if t.id = τ ∧ t.unfinished then 1 else 0) ≤
      m.copies τ := by
  have hm := mem_of_task? h
  induction m with
  | nil => cases hm
  | cons e m ih =>
    unfold copies at ih ⊢
    by_cases he : e.1 = k
    · rw [filter_cons_of_neg (by simpa using he), countP_cons]
      have hle : List.countP (fun e => decide (e.2.id = τ) && e.2.unfinished)
          (m.filter fun e => decide (e.1 ≠ k)) ≤
          List.countP (fun e => decide (e.2.id = τ) && e.2.unfinished) m :=
        filter_sublist.countP_le
      have het : e.2 = t := by
        unfold task? at h
        obtain ⟨k', t'⟩ := e
        subst he
        simpa [lookup_cons] using h
      rw [het]
      simp only [Bool.and_eq_true, decide_eq_true_eq]
      omega
    · rw [filter_cons_of_pos (by simpa using he), countP_cons, countP_cons]
      have h1 : TaskMap.task? m k = some t := by
        unfold task? at h ⊢
        obtain ⟨k', t'⟩ := e
        simpa [lookup_cons, beq_eq_false_iff_ne.2 (Ne.symm he)] using h
      have := ih h1 (mem_of_task? h1)
      omega

theorem copies_set_eq :
    (m.set k t').copies τ = TaskMap.copies τ (m.filter (·.1 ≠ k)) +
      if t'.id = τ ∧ t'.unfinished then 1 else 0 := by
  unfold copies set
  rw [countP_cons]
  simp

theorem copies_set_le (k : String) (t' : Task) :
    (m.set k t').copies τ ≤ m.copies τ + if t'.id = τ ∧ t'.unfinished then 1 else 0 := by
  rw [copies_set_eq]
  have : TaskMap.copies τ (m.filter (·.1 ≠ k)) ≤ m.copies τ := filter_sublist.countP_le
  omega

theorem copies_set_of_ne (h : t'.id ≠ τ) :
    (m.set k t').copies τ ≤ m.copies τ := by
  refine (copies_set_le k t').trans ?_
  simp [h]

theorem copies_set_of_unfinished (ht : m.task? k = some t)
    (hid : t.id = τ) (hu : t.unfinished = true) (hid' : t'.id = τ) :
    (m.set k t').copies τ + (if t'.unfinished then 0 else 1) ≤ m.copies τ ∧ 0 < m.copies τ := by
  have h : TaskMap.copies τ (m.filter (·.1 ≠ k)) +
      (if t.id = τ ∧ t.unfinished then 1 else 0) ≤ m.copies τ := copies_filter_add ht
  rw [if_pos ⟨hid, hu⟩] at h
  rw [copies_set_eq]
  simp only [hid', true_and]
  split <;> omega

theorem copies_ofTasks (tasks : List Task) :
    (TaskMap.ofTasks tasks).copies τ ≤ tasks.countP (·.id = τ) := by
  have hfold : ∀ (l : List Task) (m0 : TaskMap),
      TaskMap.copies τ (l.foldl (fun m t => m.set t.getUpstreamTaskID t) m0) ≤
        m0.copies τ + l.countP (·.id = τ) := by
    intro l
    induction l with
    | nil => intro m0; exact Nat.le_refl _
    | cons t l ih =>
      intro m0
      rw [foldl_cons, countP_cons]
      have h1 := ih (m0.set t.getUpstreamTaskID t)
      have h2 : TaskMap.copies τ (m0.set t.getUpstreamTaskID t) ≤ _ := copies_set_le _ _
      have h3 : (if t.id = τ ∧ t.unfinished = true then 1 else 0) ≤
          if decide (t.id = τ) = true then 1 else 0 := by
        by_cases hid : t.id = τ
        · simp only [hid, true_and, decide_true, if_true]
          split <;> omega
        · simp [hid]
      omega
  have h := hfold (tasks.filter (·.getUpstreamTaskID ≠ "")) []
  have hle : (tasks.filter (·.getUpstreamTaskID ≠ "")).countP (·.id = τ) ≤
      tasks.countP (·.id = τ) := filter_sublist.countP_le
  have h0 : TaskMap.copies τ [] = 0 := rfl
  unfold ofTasks
  omega

end TaskMap

/-! ## One item -/

/-- A bulk update for this item writes the task's row. -/
def PollWork.bulkFails (τ : Nat) (i : PollInput) (m : TaskMap) : PollWork → Bool
  | platform _ tasks => tasks.any fun t => t.id = τ && t.getUpstreamTaskID = ""
  | channel _ _ taskIds => !i.channelFound && (taskIds.filterMap m.task?).any (·.id = τ)
  | _ => false

/-- An answer is taken in only for a copy of the task that is unfinished in memory. -/
def PollWork.onUnfinished (τ : Nat) (m : TaskMap) : PollWork → Bool
  | videoTask taskId => (m.task? taskId).all fun t => t.id ≠ τ || t.unfinished
  | sunoItem item =>
    (m.task? item.taskID).all fun t => t.id ≠ τ || !taskNeedsUpdate t item || t.unfinished
  | _ => true

open PollWork (sweep copies exec sunoItem videoTask onUnfinished)

/-- What an item of a round does with one task. -/
inductive TaskItem (τ : Nat) (i : PollInput) (work : PollWork) (m : TaskMap) (w : TaskStore)
    (e : PollEffect) : Prop
  /-- It may drop or hand on copies, and that is all. -/
  | quiet (hwork : work.refunds τ = false ∧ work.saves τ = false)
      (hpush : ∀ x ∈ e.push.getD [], x.refunds τ = false ∧ x.saves τ = false)
      (hcopies : copiesIn τ (e.push.getD []) + e.taskM.copies τ ≤ work.copies τ + m.copies τ)
      (hlog : e.store.refundsOf τ = w.refundsOf τ)
      (hrow : e.store.row τ = w.row τ ∨
        work.bulkFails τ i m = true ∧ ∃ reason, e.store.row τ = (w.row τ).map (Task.fail reason))
  /-- It reads the row of an unfinished task. -/
  | reads (hwork : work = .sweep ∨ work = .list)
      (hpush : ∀ x ∈ e.push.getD [], x.refunds τ = false ∧ x.saves τ = false)
      (hcopies : copiesIn τ (e.push.getD []) ≤ 1)
      (hopen : 0 < copiesIn τ (e.push.getD []) → ∃ r, w.row τ = some r ∧ r.unfinished = true)
      (hm : e.taskM = m) (hstore : e.store = w)
  | refunds (t : Task) (accepted : Bool) (hwork : work = .refund t) (hid : t.id = τ)
      (hq : t.quota ≠ 0) (hpush : e.push = some []) (hm : e.taskM = m)
      (hlog : e.store.refundsOf τ = w.refundsOf τ ++ [(t.quota, t.funding, accepted)])
      (hrow : e.store.row τ = w.row τ)
  /-- It writes a copy back and may have the task refunded. -/
  | writes (t : Task) (hwork : work.isRefund = false ∧ work.isSave = false)
      (hcopy : 0 < work.copies τ + m.copies τ)
      (hcopies : copiesIn τ (e.push.getD []) + e.taskM.copies τ +
        (if t.unfinished then 0 else 1) ≤ work.copies τ + m.copies τ)
      (hpush : refundsIn τ (e.push.getD []) ≤ 1 ∧ ∀ x ∈ e.push.getD [], x.saves τ = false)
      (hclosed : 0 < refundsIn τ (e.push.getD []) → t.unfinished = false)
      (hfailed : t.status = .failure → t.quota ≠ 0 → t.isLegacy = false →
        refundsIn τ (e.push.getD []) = 1)
      (hlog : e.store.refundsOf τ = w.refundsOf τ) (hrow : e.store.row τ = some t)
  /-- It takes in a Suno answer, which may have the task refunded and will be written. -/
  | answers (t : Task) (failed : Bool) (hid : t.id = τ) (hcopy : 0 < m.copies τ)
      (hcopies : e.taskM.copies τ + (if t.unfinished then 0 else 1) ≤ m.copies τ)
      (hwork : work.isRefund = false ∧ work.isSave = false ∧ work.copies τ = 0)
      (hpush : e.push = some ((if failed then [.refund t] else []) ++ [.sunoSave t]))
      (hclosed : failed = true → t.unfinished = false)
      (hfailed : t.status = .failure → failed = true) (hstore : e.store = w)
  | saves (t : Task) (hwork : work = .sunoSave t) (hid : t.id = τ) (hpush : e.push = some [])
      (hm : e.taskM = m) (hlog : e.store.refundsOf τ = w.refundsOf τ)
      (hrow : (i.fails = true ∧ e.store.row τ = w.row τ) ∨
        e.store.row τ = (w.row τ).map fun _ => t)

namespace TaskStore

theorem row_save (t : Task) (h : t.id = τ) :
    ({ w with tasks := w.tasks.save t } : TaskStore).row τ = (w.row τ).map fun _ => t := by
  unfold row
  cases hf : w.tasks.find? τ with
  | none =>
    rw [Table.save, Table.find?_mapRows, hf]
    rfl
  | some r => exact Table.find?_save_self hf h

theorem row_save_of_ne (h : t.id ≠ τ) :
    ({ w with tasks := w.tasks.save t } : TaskStore).row τ = w.row τ :=
  Table.find?_save_of_ne fun he => h he.symm

end TaskStore

/-! ## Reading -/

theorem countP_of_sublist (hl : l.Sublist w.tasks.rows) :
    l.countP (·.id = τ) ≤ 1 := by
  refine hl.countP_le.trans ?_
  have hnd := w.tasks.nodup
  have h : w.tasks.rows.countP (·.id = τ) = (w.tasks.rows.map Row.key).count τ := by
    rw [List.count, countP_map]
    rfl
  rw [h]
  exact nodup_iff_count_le_one.1 hnd τ

theorem row_of_countP (hl : ∀ t ∈ l, t ∈ w.tasks.rows ∧ t.unfinished = true)
    (h : 0 < l.countP (·.id = τ)) : ∃ r, w.row τ = some r ∧ r.unfinished = true := by
  obtain ⟨t, ht, hid⟩ := countP_pos_iff.1 h
  exact ⟨t, Table.find?_eq_some.2 ⟨(hl t ht).1, of_decide_eq_true hid⟩, (hl t ht).2⟩

theorem visit_nodup {κ : Type} [DecidableEq κ] (order keys : List κ) :
    (visit order keys).Nodup := by
  refine nodup_append.2 ⟨nodup_dedup _, nodup_dedup _, ?_⟩
  intro a ha b hb hab
  subst hab
  have h1 := (mem_filter.1 (mem_dedup.1 ha)).1
  have h2 := (mem_filter.1 (mem_dedup.1 hb)).2
  simp [h1] at h2

theorem copiesIn_platforms {ps : List TaskPlatform} (hps : ps.Nodup) (l : List Task) :
    copiesIn τ (ps.map fun p => .platform p (l.filter (·.platform = p))) ≤
      l.countP (·.id = τ) := by
  induction ps generalizing l with
  | nil => exact Nat.zero_le _
  | cons p ps ih =>
    obtain ⟨hp, hps⟩ := nodup_cons.1 hps
    rw [map_cons, copiesIn_cons]
    have hrest : copiesIn τ (ps.map fun q => .platform q (l.filter (·.platform = q))) ≤
        (l.filter fun t => !decide (t.platform = p)).countP (·.id = τ) := by
      have hsame : (ps.map fun q => PollWork.platform q (l.filter (·.platform = q))) =
          ps.map fun q => .platform q ((l.filter fun t => !decide (t.platform = p)).filter
            (·.platform = q)) := by
        refine map_congr_left fun q hq => ?_
        rw [filter_filter]
        congr 1
        refine filter_congr fun t _ => ?_
        by_cases hq' : t.platform = q
        · have hne : ¬ q = p := fun he => hp (he ▸ hq)
          simp [hq', hne]
        · simp [hq']
      rw [hsame]
      exact ih hps _
    have h := countP_eq_countP_filter_add l (·.id = τ) (fun t => decide (t.platform = p))
    change (l.filter (·.platform = p)).countP (·.id = τ) + _ ≤ _
    omega

namespace TaskItem

variable {work : PollWork} {taskId : String}

variable {e : PollEffect} {p : TaskPlatform} {item : SunoDataResponse}

theorem idle (hpush : e.push.getD [] = []) (hwork : work.refunds τ = false ∧ work.saves τ = false)
    (hcopies : e.taskM.copies τ ≤ work.copies τ + m.copies τ)
    (hlog : e.store.refundsOf τ = w.refundsOf τ) (hrow : e.store.row τ = w.row τ) :
    TaskItem τ i work m w e := by
  refine .quiet hwork (fun x hx => ?_) ?_ hlog (.inl hrow)
  · rw [hpush] at hx
    cases hx
  · rw [hpush, copiesIn_nil, Nat.zero_add]
    exact hcopies

theorem sweep : TaskItem τ i .sweep m w (sweep.exec set i m w) := by
  have hone : ∀ c : Int,
      (getTimedOutUnfinishedTasks c 100 i.fails w.tasks).countP (·.id = τ) ≤ 1 := fun c => by
    unfold getTimedOutUnfinishedTasks
    split
    · exact Nat.zero_le 1
    · refine (take_sublist _ _).countP_le.trans ?_
      rw [(perm_insertionSort _ _).countP_eq]
      exact countP_of_sublist filter_sublist
  have hcopies : ∀ l : List Task, copiesIn τ (l.map .sweepTask) = l.countP (·.id = τ) := by
    intro l
    induction l with
    | nil => rfl
    | cons t l ih =>
      rw [map_cons, copiesIn_cons, ih, countP_cons, Nat.add_comm]
      simp [copies]
  refine .reads (.inl rfl) ?_ ?_ ?_ rfl rfl
  · intro x hx
    dsimp only [exec, Option.getD_some, sweepTimedOutTasks] at hx
    split at hx
    · cases hx
    · obtain ⟨t, _, rfl⟩ := mem_map.1 hx
      exact ⟨rfl, rfl⟩
  · dsimp only [exec, Option.getD_some, sweepTimedOutTasks]
    split
    · exact Nat.zero_le _
    · rw [hcopies]
      exact hone _
  · dsimp only [exec, Option.getD_some, sweepTimedOutTasks]
    split
    · intro h
      cases h
    · rw [hcopies]
      exact row_of_countP fun _ => mem_getTimedOutUnfinishedTasks

theorem list : TaskItem τ i .list m w (PollWork.list.exec set i m w) := by
  have hle : copiesIn τ (listUnfinished set i w) ≤
      (getAllUnFinishSyncTasks set.taskQueryLimit i.fails w.tasks).countP (·.id = τ) :=
    copiesIn_platforms (visit_nodup _ _) _
  have hopen := getAllUnFinishSyncTasks_sublist set.taskQueryLimit i.fails w.tasks
  have hsub := hopen.trans filter_sublist
  refine .reads (.inr rfl) ?_ (hle.trans (countP_of_sublist hsub)) (fun h => ?_) rfl rfl
  · intro x hx
    obtain ⟨p, _, rfl⟩ := mem_map.1 hx
    exact ⟨rfl, rfl⟩
  · refine row_of_countP (fun t ht => ⟨hsub.subset ht, ?_⟩) (Nat.lt_of_lt_of_le h hle)
    exact (mem_filter.1 (hopen.subset ht)).2

theorem sweepTask : TaskItem τ i (.sweepTask t) m w (sweepTimedOutTask set i m w t) := by
  rcases sweepTimedOutTask_cases set i m w t with he | ⟨row, hrow, h, he⟩
  · rw [he]
    exact idle rfl ⟨rfl, rfl⟩ (Nat.le_add_left _ _) rfl rfl
  · rw [he]
    have hnone : ∀ x ∈ (if !t.isLegacy && t.quota ≠ 0 then [PollWork.refund (timedOut set i t)]
        else []), x.copies τ = 0 ∧ x.saves τ = false := fun x hx => by
      split at hx
      · rw [mem_singleton.1 hx]
        exact ⟨rfl, rfl⟩
      · cases hx
    by_cases hid : t.id = τ
    · refine .writes (timedOut set i t) ⟨rfl, rfl⟩ ?_ ?_ ⟨?_, fun x hx => (hnone x hx).2⟩
        (fun _ => rfl) ?_ rfl ?_
      · simp [copies, hid]
      · dsimp only [Option.getD_some]
        have h : copiesIn τ (if !t.isLegacy && t.quota ≠ 0 then
            [PollWork.refund (timedOut set i t)] else []) = 0 := by
          split <;> rfl
        rw [h]
        simp [PollWork.copies, hid, timedOut, Task.unfinished, Nat.add_comm]
      · dsimp only [Option.getD_some]
        split
        · exact countP_le_length
        · exact Nat.zero_le _
      · intro _ hq hl
        have hq' : t.quota ≠ 0 := hq
        have hl' : t.isLegacy = false := hl
        simp [hq', hl', refundsIn, PollWork.refunds, timedOut, hid]
      · change (w.tasks.save (timedOut set i t)).find? τ = _
        exact Table.find?_save_self (hid ▸ hrow) hid
    · refine .quiet ⟨rfl, rfl⟩ ?_ ?_ rfl (.inl (TaskStore.row_save_of_ne hid))
      · intro x hx
        refine ⟨?_, (hnone x hx).2⟩
        dsimp only [Option.getD_some] at hx
        split at hx
        · rw [mem_singleton.1 hx]
          simp [PollWork.refunds, timedOut, hid]
        · cases hx
      · dsimp only [Option.getD_some]
        split <;> simp [copies]

theorem refund (env : TaskEnv) :
    TaskItem τ i (.refund t) m w
      { push := some [], taskM := m, store := w.refund set.cfg env t } := by
  have hquiet : (PollWork.refund t).refunds τ = false →
      (w.refund set.cfg env t).refundsOf τ = w.refundsOf τ →
      (w.refund set.cfg env t).row τ = w.row τ →
      TaskItem τ i (.refund t) m w
        { push := some [], taskM := m, store := w.refund set.cfg env t } :=
    fun hr hl hrow => idle rfl ⟨hr, rfl⟩ (Nat.le_add_left _ _) hl hrow
  obtain ⟨db, ⟨hq, he⟩ | ⟨hq, accepted, he⟩⟩ := w.refund_cases set.cfg env t
  · exact hquiet (by simp [PollWork.refunds, hq]) (by rw [he]; rfl) (by rw [he]; rfl)
  · by_cases hid : t.id = τ
    · refine .refunds t accepted rfl hid hq rfl rfl ?_ (by rw [he]; rfl)
      rw [he]
      simp [TaskStore.refundsOf, TaskCompletion.refundOf, hid]
    · refine hquiet (by simp [PollWork.refunds, hid]) ?_ (by rw [he]; rfl)
      rw [he]
      simp [TaskStore.refundsOf, TaskCompletion.refundOf, hid]

theorem settle {upstreamID : String} (ht : t.status.done = true) :
    TaskItem τ i (.settle upstreamID t) m w ((PollWork.settle upstreamID t).exec set i m w) := by
  refine idle rfl ⟨rfl, rfl⟩ ?_ ?_ rfl
  · change (m.set upstreamID (w.settle set.cfg i.env i.pricing t).1).copies τ ≤ _
    refine (TaskMap.copies_set_le _ _).trans ?_
    simp [TaskStore.settle_unfinished i.pricing ht]
  · simp [exec, TaskStore.settle, TaskStore.refundsOf, TaskCompletion.refundOf]

theorem bulk {ids : List Nat} {reason : Option String}
    (hwork : work.refunds τ = false ∧ work.saves τ = false)
    (hpush : ∀ x ∈ e.push.getD [], x.Foreign τ)
    (hcopies : e.taskM.copies τ ≤ work.copies τ + m.copies τ)
    (hstore : e.store = { w with tasks := taskBulkUpdateByID ids reason i.fails w.tasks })
    (hids : τ ∈ ids → work.bulkFails τ i m = true) : TaskItem τ i work m w e := by
  refine .quiet hwork (fun x hx => ⟨(hpush x hx).1, (hpush x hx).2.2⟩) ?_ (by rw [hstore]; rfl) ?_
  · rw [copiesIn_foreign hpush, Nat.zero_add]
    exact hcopies
  · rw [hstore]
    rcases taskBulkUpdateByID_cases ids reason i.fails w.tasks τ with hf | ⟨hin, hf⟩
    · exact .inl hf
    · exact .inr ⟨hids hin, reason, hf⟩

theorem platform {tasks : List Task} :
    TaskItem τ i (.platform p tasks) m w (pollPlatform i w p tasks) := by
  refine bulk ⟨rfl, rfl⟩ ?_ ?_ rfl fun hin => ?_
  · intro x hx
    dsimp only [pollPlatform, Option.getD_some] at hx
    split at hx
    · cases hx
    · obtain ⟨c, _, rfl⟩ := mem_map.1 hx
      exact ⟨rfl, rfl, rfl⟩
  · exact (TaskMap.copies_ofTasks tasks).trans (Nat.le_add_right _ _)
  · obtain ⟨t, ht, hid⟩ := mem_map.1 hin
    obtain ⟨ht, h⟩ := mem_filter.1 ht
    refine any_eq_true.2 ⟨t, ht, ?_⟩
    simpa [hid] using h

theorem channel {channelId : Nat} {taskIds : List String} :
    TaskItem τ i (.channel p channelId taskIds) m w (pollChannel i m w p channelId taskIds) := by
  unfold pollChannel
  split
  next h =>
    refine bulk ⟨rfl, rfl⟩ (forall_mem_nil _) (Nat.le_add_left _ _) rfl
      fun hin => ?_
    obtain ⟨t, ht, hid⟩ := mem_map.1 hin
    simp only [PollWork.bulkFails, h, Bool.true_and]
    exact any_eq_true.2 ⟨t, ht, decide_eq_true hid⟩
  · have hforeign : ∀ x ∈ (if !i.adaptorFound then []
        else if p = .suno then (i.sunoReply.getD []).map sunoItem
        else taskIds.map videoTask), x.Foreign τ := fun x hx => by
      split at hx
      · cases hx
      · split at hx
        · obtain ⟨item, _, rfl⟩ := mem_map.1 hx
          exact ⟨rfl, rfl, rfl⟩
        · obtain ⟨taskId, _, rfl⟩ := mem_map.1 hx
          exact ⟨rfl, rfl, rfl⟩
    refine .quiet ⟨rfl, rfl⟩ (fun x hx => ⟨(hforeign x hx).1, (hforeign x hx).2.2⟩) ?_ rfl
      (.inl rfl)
    dsimp only [Option.getD_some]
    rw [copiesIn_foreign hforeign, Nat.zero_add]
    exact Nat.le_add_left _ _

theorem videoBilling_saves {x : PollWork} (hx : x ∈ videoBilling taskId t) :
    x.copies τ = 0 ∧ x.saves τ = false := by
  rcases mem_videoBilling hx with ⟨_, rfl⟩ | ⟨_, _, rfl⟩ <;> exact ⟨rfl, rfl⟩

theorem copiesIn_videoBilling : copiesIn τ (videoBilling taskId t) = 0 := by
  unfold videoBilling
  split
  · rfl
  · split <;> rfl
  · rfl

theorem videoTask (h : (videoTask taskId).onUnfinished τ m = true) :
    TaskItem τ i (.videoTask taskId) m w (updateVideoSingleTask set i m w taskId) := by
  unfold updateVideoSingleTask
  cases hm : m.task? taskId with
  | none => exact idle rfl ⟨rfl, rfl⟩ (Nat.le_add_left _ _) rfl rfl
  | some old =>
    have hold : old.id ≠ τ ∨ old.unfinished = true := by
      simpa [onUnfinished, hm] using h
    have hmem : ∀ t : Task, t.id = old.id → (m.set taskId t).copies τ ≤ m.copies τ := by
      intro t hid
      by_cases hτ : old.id = τ
      · have hu := hold.resolve_left (fun hne => hne hτ)
        exact Nat.le_of_add_right_le (TaskMap.copies_set_of_unfinished hm hτ hu (hid.trans hτ)).1
      · exact TaskMap.copies_set_of_ne (hid ▸ hτ)
    dsimp only
    cases hr : old.withReply set i.env.now i.videoReply with
    | leaves t =>
      refine idle rfl ⟨rfl, rfl⟩ ?_ rfl rfl
      exact (hmem t (Task.withReply_same (.inr hr)).id).trans (Nat.le_add_left _ _)
    | writes t =>
      have hid := (Task.withReply_same (.inl hr)).id
      dsimp only
      rcases old.writeVideo_cases t i.fails w.tasks with ⟨billed, hb, he⟩ | ⟨row, hrow, h1, he⟩
      · rw [he]
        -- nothing was written, so a task that may be billed was not finished by this answer
        have hnone : ∀ x ∈ (if billed then videoBilling taskId t else []), x.refunds τ = false ∧
            x.saves τ = false := fun x hx => by
          split at hx
          next hbilled =>
            refine ⟨?_, (videoBilling_saves hx).2⟩
            rcases mem_videoBilling hx with ⟨_, rfl⟩ | ⟨hs, _, rfl⟩
            · rfl
            · by_contra hrefunds
              have hτ : t.id = τ := by
                simp only [PollWork.refunds, Bool.and_eq_true, decide_eq_true_eq,
                  Bool.not_eq_false] at hrefunds
                exact hrefunds.1
              have hu := hold.resolve_left (fun hne => hne (hid.symm.trans hτ))
              have h1 := hb hbilled (by rw [hs]; rfl)
              simp [Task.unfinished, h1, hs, TaskStatus.done] at hu
          · cases hx
        refine .quiet ⟨rfl, rfl⟩ hnone ?_ rfl (.inl rfl)
        dsimp only [Option.getD_some]
        have hcopies : copiesIn τ (if billed then videoBilling taskId t else []) = 0 := by
          split
          · exact copiesIn_videoBilling
          · rfl
        rw [hcopies, Nat.zero_add]
        exact (hmem t hid).trans (Nat.le_add_left _ _)
      · rw [he]
        rw [if_pos rfl]
        by_cases hτ : t.id = τ
        · have hu := hold.resolve_left (fun hne => hne (hid.symm.trans hτ))
          obtain ⟨hcopies, hpos⟩ :=
            TaskMap.copies_set_of_unfinished hm (hid.symm.trans hτ) hu hτ
          refine .writes t ⟨rfl, rfl⟩ (Nat.lt_of_lt_of_le hpos (Nat.le_add_left _ _)) ?_
            ⟨?_, fun x hx => (videoBilling_saves hx).2⟩ (fun hpos => ?_) (fun hs hq _ => ?_) rfl ?_
          · dsimp only [Option.getD_some]
            rw [copiesIn_videoBilling, Nat.zero_add]
            exact hcopies.trans (Nat.le_add_left _ _)
          · exact countP_le_length.trans length_videoBilling_le
          · obtain ⟨x, hx, hrefunds⟩ := countP_pos_iff.1 hpos
            rcases mem_videoBilling hx with ⟨_, rfl⟩ | ⟨hs, _, rfl⟩
            · cases hrefunds
            · simp [Task.unfinished, hs, TaskStatus.done]
          · simp [videoBilling, hs, hq, refundsIn, PollWork.refunds, hτ]
          · exact Table.find?_save_self (hτ ▸ hrow) hτ
        · refine .quiet ⟨rfl, rfl⟩ (fun x hx => ⟨?_, (videoBilling_saves hx).2⟩) ?_ rfl
            (.inl (TaskStore.row_save_of_ne hτ))
          · rcases mem_videoBilling hx with ⟨_, rfl⟩ | ⟨_, _, rfl⟩
            · rfl
            · simp [PollWork.refunds, hτ]
          · dsimp only [Option.getD_some]
            rw [copiesIn_videoBilling, Nat.zero_add]
            exact (hmem t hid).trans (Nat.le_add_left _ _)

theorem sunoItem (h : (sunoItem item).onUnfinished τ m = true) :
    TaskItem τ i (.sunoItem item) m w (updateSunoTask m w item) := by
  unfold updateSunoTask
  cases hm : m.task? item.taskID with
  | none => exact idle rfl ⟨rfl, rfl⟩ (Nat.le_add_left _ _) rfl rfl
  | some t =>
    dsimp only
    by_cases hn : taskNeedsUpdate t item = true
    · rw [if_pos hn]
      by_cases hτ : t.id = τ
      · have hu : t.unfinished = true := by
          simpa [onUnfinished, hm, hn, hτ] using h
        obtain ⟨hcopies, hpos⟩ := TaskMap.copies_set_of_unfinished hm hτ hu
          (show (t.answered item).id = τ from hτ)
        refine .answers (t.answered item) (t.failedBy item) hτ hpos hcopies ⟨rfl, rfl, rfl⟩ rfl
          (fun hf => ?_) (fun hf => ?_) rfl
        · simp [Task.unfinished, Task.answered, hf]
        · simp [Task.failedBy, show (t.withItem item).status = .failure from hf]
      · refine .quiet ⟨rfl, rfl⟩ (fun x hx => ?_) ?_ rfl (.inl rfl)
        · rcases mem_append.1 hx with hx | hx
          · split at hx
            · rw [mem_singleton.1 hx]
              exact ⟨by simp [PollWork.refunds, Task.answered, Task.withItem, hτ], rfl⟩
            · cases hx
          · rw [mem_singleton.1 hx]
            exact ⟨rfl, by simp [PollWork.saves, Task.answered, Task.withItem, hτ]⟩
        · have hcopies : copiesIn τ ((if t.failedBy item then [PollWork.refund (t.answered item)]
              else []) ++ [PollWork.sunoSave (t.answered item)]) = 0 := by
            split <;> rfl
          dsimp only [Option.getD_some]
          rw [hcopies, Nat.zero_add]
          have hid : (t.answered item).id ≠ τ := hτ
          exact (TaskMap.copies_set_of_ne hid).trans (Nat.le_add_left _ _)
    · rw [if_neg hn]
      exact idle rfl ⟨rfl, rfl⟩ (Nat.le_add_left _ _) rfl rfl

theorem sunoSave :
    TaskItem τ i (.sunoSave t) m w
      { push := some [], taskM := m, store := { w with tasks := t.update i.fails w.tasks } } := by
  by_cases hid : t.id = τ
  · refine .saves t rfl hid rfl rfl rfl ?_
    unfold Task.update
    split
    · exact .inl ⟨‹_›, rfl⟩
    · exact .inr (TaskStore.row_save t hid)
  · refine idle rfl ⟨rfl, by simp [PollWork.saves, hid]⟩ (Nat.le_add_left _ _) rfl ?_
    unfold Task.update
    split
    · rfl
    · exact TaskStore.row_save_of_ne hid

/-- **Every item of a round**, as long as it acts on unfinished copies only. -/
theorem exec (h1 : ∀ k t, work = .settle k t → t.status.done = true)
    (h : work.onUnfinished τ m = true) : TaskItem τ i work m w (work.exec set i m w) := by
  cases work with
  | sweep => exact sweep
  | sweepTask t => exact sweepTask
  | refund t => exact refund i.env
  | settle upstreamID t => exact settle (h1 _ _ rfl)
  | list => exact list
  | platform p tasks => exact platform
  | channel p channelId taskIds => exact channel
  | videoTask taskId => exact videoTask h
  | sunoItem item => exact sunoItem h
  | sunoSave t => exact sunoSave

end TaskItem

end Xingkong
