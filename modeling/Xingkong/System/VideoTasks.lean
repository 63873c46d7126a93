import Xingkong.Lib.Pool
import Xingkong.Spec.Task

/-!
# Sweeper and video poller

Any number of processes run the polling loop over one task table. A task is billed once at most,
and its last status stays, as long as no task in memory is polled again after it was finished and
no bulk update reaches a task stored as a success.

The argument is one of tickets: a conditional write that finishes an unfinished row gives its
process the one right to bill the task, and nothing else does.
-/

namespace Xingkong

open Rdb List

variable {set : PollSettings} {i : PollInput} {m : TaskMap} {w w' : TaskStore} {τ : Nat}
  {reason : Option String} {t : Poller} {ids : List Nat} {fails : Bool}

/-! ## Tickets -/

namespace TaskStore

def status? (w : TaskStore) (τ : Nat) : Option TaskStatus := (w.tasks.find? τ).map (·.status)

def IsOpen (w : TaskStore) (τ : Nat) : Prop := ∃ s, w.status? τ = some s ∧ s.done = false

def completed (w : TaskStore) (τ : Nat) : Nat := w.completions.countP (·.taskId = τ)

end TaskStore

def PollWork.bills (τ : Nat) : PollWork → Bool
  | refund t => t.id = τ
  | settle _ t => t.id = τ
  | _ => false

def owed (τ : Nat) (agenda : List PollWork) : Nat := agenda.countP (·.bills τ)

@[simp] theorem owed_append (a b : List PollWork) : owed τ (a ++ b) = owed τ a + owed τ b :=
  countP_append

theorem owed_cons (a : PollWork) (b : List PollWork) :
    owed τ (a :: b) = owed τ b + if a.bills τ then 1 else 0 :=
  countP_cons

theorem owed_eq_zero {a : List PollWork} (h : ∀ x ∈ a, x.bills τ = false) : owed τ a = 0 := by
  refine countP_eq_zero.2 fun x hx => ?_
  rw [h x hx]
  nofun

theorem owed_map {α : Type} {f : α → PollWork} (h : ∀ x, (f x).bills τ = false) (l : List α) :
    owed τ (l.map f) = 0 := by
  refine owed_eq_zero fun x hx => ?_
  obtain ⟨a, _, rfl⟩ := mem_map.1 hx
  exact h a

/-! ## The condition -/

/-- **What polling relies on**, at one item and for one task. A video answer is taken in for a
task that is unfinished in memory; a bulk update does not reach a task stored as a success; the
task is not one of the Suno poller's. -/
def PollWork.safeFor (τ : Nat) (i : PollInput) (m : TaskMap) (w : TaskStore) : PollWork → Bool
  | platform _ tasks =>
    w.status? τ ≠ some .success || !tasks.any fun t => t.id = τ && t.getUpstreamTaskID = ""
  | channel _ _ taskIds =>
    w.status? τ ≠ some .success || i.channelFound || !(taskIds.filterMap m.task?).any (·.id = τ)
  | videoTask taskId => (m.task? taskId).all fun t => t.id ≠ τ || !t.status.done
  | sunoItem item => (m.task? item.taskID).all (·.id ≠ τ)
  | sunoSave t => t.id ≠ τ
  | _ => true

open PollWork (bills safeFor channel exec)

/-- … and at the next step of a process. -/
def Poller.safeFor (τ : Nat) (t : Poller) (a : PollAct) (w : TaskStore) : Bool :=
  match a, t.agenda with
  | .step i, work :: _ => work.safeFor τ i t.taskM w
  | _, _ => true

/-! ## One item -/

/-- What an item does to the task: its status stays or was open, and the right to bill it is kept,
used or won. -/
inductive ItemStep (τ : Nat) (work : PollWork) (w : TaskStore) (e : PollEffect) : Prop
  | keep (howed : owed τ (e.push.getD []) = 0) (hc : e.store.completed τ = w.completed τ)
      (hs : e.store.status? τ = w.status? τ ∨ w.IsOpen τ)
  | pay (hbills : work.bills τ = true) (howed : owed τ (e.push.getD []) = 0)
      (hc : e.store.completed τ = w.completed τ + 1) (hs : e.store.status? τ = w.status? τ)
  | win (hopen : w.IsOpen τ) (howed : owed τ (e.push.getD []) ≤ 1)
      (hc : e.store.completed τ = w.completed τ) (hclosed : ¬ e.store.IsOpen τ)

namespace TaskStore

theorem status?_save {t : Task} (h : t.id ≠ τ) :
    ({ w with tasks := w.tasks.save t } : TaskStore).status? τ = w.status? τ := by
  unfold status?
  rw [Table.find?_save_of_ne (fun he => h he.symm)]

theorem status?_save_self {t row : Task} (h : w.tasks.find? t.id = some row) :
    ({ w with tasks := w.tasks.save t } : TaskStore).status? t.id = some t.status := by
  unfold status?
  rw [Table.find?_save_self h rfl]
  rfl

theorem isOpen_of_row {row : Task} (h : w.tasks.find? τ = some row)
    (hd : row.status.done = false) : w.IsOpen τ :=
  ⟨row.status, by simp [status?, h], hd⟩

theorem not_isOpen {s : TaskStatus} (h : w.status? τ = some s) (hd : s.done = true) :
    ¬ w.IsOpen τ := by
  rintro ⟨s', hs', hd'⟩
  rw [h] at hs'
  cases hs'
  rw [hd] at hd'
  cases hd'

theorem status?_bulk (h : w.status? τ ≠ some .success ∨ τ ∉ ids) :
    ({ w with tasks := taskBulkUpdateByID ids reason fails w.tasks } : TaskStore).status? τ =
      w.status? τ ∨ w.IsOpen τ := by
  rcases taskBulkUpdateByID_cases ids reason fails w.tasks τ with hf | ⟨hin, hf⟩
  · exact .inl (by simp only [status?, hf])
  · have hne := h.resolve_right (not_not_intro hin)
    cases hrow : w.tasks.find? τ with
    | none => exact .inl (by simp [status?, hf, hrow])
    | some row =>
      cases hd : row.status.done with
      | false => exact .inr (isOpen_of_row hrow hd)
      | true =>
        left
        have h : row.status = .failure :=
          (TaskStatus.done_iff.1 hd).resolve_left fun hs => hne (by simp [status?, hrow, hs])
        simp [status?, hf, hrow, h, Task.fail]

end TaskStore

namespace ItemStep

variable {t : Task}

theorem sweepTask (hd : t.status.done = false) :
    ItemStep τ (.sweepTask t) w (sweepTimedOutTask set i m w t) := by
  rcases sweepTimedOutTask_cases set i m w t with he | ⟨row, hrow, h, he⟩
  · rw [he]
    exact .keep rfl rfl (.inl rfl)
  · rw [he]
    by_cases hid : t.id = τ
    · subst hid
      refine .win (TaskStore.isOpen_of_row hrow (h ▸ hd)) ?_ rfl
        (TaskStore.not_isOpen (TaskStore.status?_save_self (t := timedOut set i t) hrow) rfl)
      dsimp only [Option.getD_some]
      split
      · exact countP_le_length
      · exact Nat.zero_le _
    · refine .keep ?_ rfl (.inl (TaskStore.status?_save (t := timedOut set i t) hid))
      dsimp only [Option.getD_some]
      split
      · exact owed_eq_zero (by simpa [bills, timedOut] using hid)
      · rfl

variable {work : PollWork} {taskId : String} {p : TaskPlatform} {e : PollEffect}

theorem completes {kind : CompletionKind} {db : Database}
    (hpush : e.push = some [])
    (hstore : e.store = { w with db, completions := w.completions ++ [⟨t.id, kind⟩] })
    (hbills : work.bills τ = decide (t.id = τ)) : ItemStep τ work w e := by
  have howed : owed τ (e.push.getD []) = 0 := by rw [hpush]; rfl
  have hs : e.store.status? τ = w.status? τ := by rw [hstore]; rfl
  by_cases hid : t.id = τ
  · refine .pay (by simp [hbills, hid]) howed ?_ hs
    simp [hstore, TaskStore.completed, hid]
  · refine .keep howed ?_ (.inl hs)
    simp [hstore, TaskStore.completed, hid]

theorem refund (env : TaskEnv) :
    ItemStep τ (.refund t) w { push := some [], taskM := m, store := w.refund set.cfg env t } := by
  obtain ⟨db, ⟨_, he⟩ | ⟨_, accepted, he⟩⟩ := w.refund_cases set.cfg env t
  · exact .keep rfl (by rw [he]; rfl) (.inl (by rw [he]; rfl))
  · exact completes rfl he rfl

theorem bulk (howed : owed τ (e.push.getD []) = 0)
    (hstore : e.store = { w with tasks := taskBulkUpdateByID ids reason fails w.tasks })
    (h : w.status? τ ≠ some .success ∨ τ ∉ ids) : ItemStep τ work w e :=
  .keep howed (by rw [hstore]; rfl) (by rw [hstore]; exact TaskStore.status?_bulk h)

theorem platform {tasks : List Task}
    (h : (PollWork.platform p tasks).safeFor τ i m w = true) :
    ItemStep τ (.platform p tasks) w (pollPlatform i w p tasks) := by
  refine bulk ?_ rfl ?_
  · dsimp only [pollPlatform, Option.getD_some]
    split
    · rfl
    · exact owed_map (fun _ => rfl) _
  · simp only [safeFor, Bool.or_eq_true, decide_eq_true_eq, Bool.not_eq_true',
      any_eq_false] at h
    refine h.imp_right fun h hin => ?_
    obtain ⟨x, hx, hid⟩ := mem_map.1 hin
    obtain ⟨hx, h1⟩ := mem_filter.1 hx
    refine h x hx ?_
    simpa [hid] using h1

theorem channel {channelId : Nat} {taskIds : List String}
    (h : (channel p channelId taskIds).safeFor τ i m w = true) :
    ItemStep τ (.channel p channelId taskIds) w (pollChannel i m w p channelId taskIds) := by
  unfold pollChannel
  split
  next h1 =>
    refine bulk rfl rfl ?_
    simp only [safeFor, Bool.or_eq_true, decide_eq_true_eq, Bool.not_eq_true',
      any_eq_false] at h h1
    rcases h with (h | h) | h
    · exact .inl h
    · rw [h1] at h
      cases h
    · refine .inr fun hin => ?_
      obtain ⟨x, hx, hid⟩ := mem_map.1 hin
      exact h x hx hid
  · refine .keep ?_ rfl (.inl rfl)
    split
    · rfl
    · split <;> exact owed_map (fun _ => rfl) _

theorem videoBilling_owed (h : t.id ≠ τ ∨ t.status.done = false) :
    owed τ (videoBilling taskId t) = 0 := by
  refine owed_eq_zero fun x hx => ?_
  rcases mem_videoBilling hx with ⟨hd, rfl⟩ | ⟨hs, _, rfl⟩
  · rw [hd] at h
    simpa [bills] using h
  · rw [hs] at h
    simpa [bills, TaskStatus.done] using h

theorem videoBilling_owed_le : owed τ (videoBilling taskId t) ≤ 1 :=
  countP_le_length.trans length_videoBilling_le

/-- A task that was unfinished in memory is billed only after a write that found its row
unfinished. -/
theorem videoTask (h : (PollWork.videoTask taskId).safeFor τ i m w = true) :
    ItemStep τ (.videoTask taskId) w (updateVideoSingleTask set i m w taskId) := by
  unfold updateVideoSingleTask
  cases hm : m.task? taskId with
  | none => exact .keep rfl rfl (.inl rfl)
  | some old =>
    have hold : old.id ≠ τ ∨ old.status.done = false := by
      simpa [safeFor, hm] using h
    dsimp only
    cases hr : old.withReply set i.env.now i.videoReply with
    | leaves t => exact .keep rfl rfl (.inl rfl)
    | writes t =>
      have hid := (Task.withReply_same (.inl hr)).id
      rcases old.writeVideo_cases t i.fails w.tasks with ⟨billed, hb, he⟩ | ⟨row, hrow, h1, he⟩
      · -- nothing was written: whoever may bill now did not finish the task just now
        dsimp only
        rw [he]
        refine .keep ?_ rfl (.inl rfl)
        cases billed with
        | false => rfl
        | true =>
          refine videoBilling_owed ?_
          rw [hid]
          refine hold.imp_right fun hopen => ?_
          cases hd : t.status.done with
          | false => rfl
          | true => rw [← hb rfl hd, hopen] at hd; cases hd
      · dsimp only
        rw [he]
        by_cases hτ : t.id = τ
        · subst hτ
          have hopen : w.IsOpen t.id :=
            TaskStore.isOpen_of_row hrow (h1 ▸ hold.resolve_left (fun hne => hne hid.symm))
          cases hd : t.status.done with
          | true =>
            exact .win hopen videoBilling_owed_le rfl
              (TaskStore.not_isOpen (TaskStore.status?_save_self hrow) hd)
          | false => exact .keep (videoBilling_owed (.inr hd)) rfl (.inr hopen)
        · exact .keep (videoBilling_owed (.inl hτ)) rfl (.inl (TaskStore.status?_save hτ))

theorem sunoItem {item : SunoDataResponse}
    (h : (PollWork.sunoItem item).safeFor τ i m w = true) :
    ItemStep τ (.sunoItem item) w (updateSunoTask m w item) := by
  unfold updateSunoTask
  cases hm : m.task? item.taskID with
  | none => exact .keep rfl rfl (.inl rfl)
  | some old =>
    have hid : old.id ≠ τ := by simpa [safeFor, hm] using h
    dsimp only
    split
    · refine .keep (owed_eq_zero fun x hx => ?_) rfl (.inl rfl)
      rcases mem_append.1 hx with hx | hx
      · split at hx
        · rw [mem_singleton.1 hx]
          simpa [bills, Task.answered, Task.withItem] using hid
        · cases hx
      · rw [mem_singleton.1 hx]
        rfl
    · exact .keep rfl rfl (.inl rfl)

theorem sunoSave (h : (PollWork.sunoSave t).safeFor τ i m w = true) :
    ItemStep τ (.sunoSave t) w
      { push := some [], taskM := m, store := { w with tasks := t.update i.fails w.tasks } } := by
  have hid : t.id ≠ τ := by simpa [safeFor] using h
  refine .keep rfl rfl (.inl ?_)
  unfold Task.update
  split
  · rfl
  · exact TaskStore.status?_save hid

theorem exec (hd : ∀ t, work = .sweepTask t → t.status.done = false)
    (h : work.safeFor τ i m w = true) : ItemStep τ work w (work.exec set i m w) := by
  cases work with
  | sweep =>
    refine .keep ?_ rfl (.inl rfl)
    dsimp only [exec, Option.getD_some, sweepTimedOutTasks]
    split
    · rfl
    · exact owed_map (fun _ => rfl) _
  | sweepTask t => exact sweepTask (hd t rfl)
  | refund t => exact refund i.env
  | settle upstreamID t => exact completes rfl rfl rfl
  | list => exact .keep (owed_map (fun _ => rfl) _) rfl (.inl rfl)
  | platform p tasks => exact platform h
  | channel p channelId taskIds => exact channel h
  | videoTask taskId => exact videoTask h
  | sunoItem item => exact sunoItem h
  | sunoSave t => exact sunoSave h

end ItemStep

/-! ## One step of a process -/

def Poller.Sound (t : Poller) : Prop :=
  ∀ task, .sweepTask task ∈ t.agenda → task.status.done = false

theorem Poller.Sound.run (h : t.Sound) (a : PollAct) : (t.run set a w).1.Sound := by
  intro task hmem
  rcases t.run_cases set a w with
    ⟨agenda, h1, he⟩ | ⟨i, work, rest, agenda, m', _, ht, he, h1⟩
  · rw [he] at hmem
    rcases h1 with rfl | ⟨_, _, rfl⟩
    · cases hmem
    · simp at hmem
  · rw [he] at hmem
    rcases h1 with ⟨rfl, _⟩ | ⟨rfl, _⟩
    · cases hmem
    · rcases mem_append.1 hmem with hmem | hmem
      · cases exec_pushes hmem with
        | sweep _ hd => exact hd
      · exact h task (ht ▸ mem_cons_of_mem _ hmem)

inductive TicketStep (τ : Nat) (t t' : Poller) (w w' : TaskStore) : Prop
  | keep (howed : owed τ t'.agenda ≤ owed τ t.agenda) (hc : w'.completed τ = w.completed τ)
      (hs : w'.status? τ = w.status? τ ∨ w.IsOpen τ)
  | pay (howed : owed τ t'.agenda + 1 ≤ owed τ t.agenda)
      (hc : w'.completed τ = w.completed τ + 1) (hs : w'.status? τ = w.status? τ)
  | win (hopen : w.IsOpen τ) (howed : owed τ t'.agenda ≤ owed τ t.agenda + 1)
      (hc : w'.completed τ = w.completed τ) (hclosed : ¬ w'.IsOpen τ)

theorem TicketStep.run {a : PollAct} (h : t.Sound)
    (hsafe : t.safeFor τ a w = true) : TicketStep τ t (t.run set a w).1 w (t.run set a w).2 := by
  rcases t.run_cases set a w with
    ⟨agenda, hagenda, he⟩ | ⟨i, work, rest, agenda, m', rfl, ht, he, hagenda⟩
  · rw [he]
    refine .keep ?_ rfl (.inl rfl)
    rcases hagenda with rfl | ⟨_, _, rfl⟩ <;> exact Nat.zero_le _
  · have hitem : ItemStep τ work w (work.exec set i t.taskM w) := by
      refine .exec (fun task hw => h task ?_) ?_
      · rw [ht, hw]
        exact mem_cons_self
      · simpa only [Poller.safeFor, ht] using hsafe
    have hle : owed τ agenda ≤ owed τ ((work.exec set i t.taskM w).push.getD []) + owed τ rest := by
      rcases hagenda with ⟨rfl, _⟩ | ⟨rfl, _⟩
      · exact Nat.zero_le _
      · rw [owed_append]
    rw [he]
    cases hitem with
    | keep howed hc hs =>
      refine .keep ?_ hc hs
      rw [ht, owed_cons]
      dsimp only
      omega
    | pay hbills howed hc hs =>
      refine .pay ?_ hc hs
      rw [ht, owed_cons, if_pos hbills]
      dsimp only
      omega
    | win hopen howed hc hclosed =>
      refine .win hopen ?_ hc hclosed
      rw [ht, owed_cons]
      dsimp only
      omega

/-! ## All processes -/

section System

variable {ι : Type} {p : Pool.State ι Poller TaskStore}

/-- The right to bill the task is unused, held by one process, or used up. -/
structure TicketInv (τ : Nat) (p : Pool.State ι Poller TaskStore) : Prop where
  sound : ∀ j, (p.threads j).Sound
  once : ∀ j, p.shared.completed τ + owed τ (p.threads j).agenda ≤ 1
  one : ∀ j k, 0 < owed τ (p.threads j).agenda → 0 < owed τ (p.threads k).agenda → j = k
  fresh : p.shared.IsOpen τ →
    p.shared.completed τ = 0 ∧ ∀ j, owed τ (p.threads j).agenda = 0
  completed_le : p.shared.completed τ ≤ 1

def pollStart (tasks : Table Task) (db : Database) : Pool.State ι Poller TaskStore where
  shared := { tasks, db, completions := [] }
  threads _ := .resting

theorem ticketInv_start (tasks : Table Task) (db : Database) :
    TicketInv τ (pollStart tasks db : Pool.State ι Poller TaskStore) where
  sound _ _ h := absurd h not_mem_nil
  once _ := Nat.zero_le _
  one _ _ h := absurd h (Nat.lt_irrefl 0)
  fresh _ := ⟨rfl, fun _ => rfl⟩
  completed_le := Nat.zero_le _

variable [DecidableEq ι]

def pollNext (set : PollSettings) :
    Pool.State ι Poller TaskStore → ι × PollAct → Pool.State ι Poller TaskStore :=
  Pool.next (Poller.run set)

theorem IsOpen.of_step {t' : Poller} (h : TicketStep τ t t' w w') (ho : w'.IsOpen τ) :
    w.IsOpen τ := by
  have h1 : w'.status? τ = w.status? τ → w.IsOpen τ := fun he => by
    unfold TaskStore.IsOpen at ho ⊢
    rwa [← he]
  cases h with
  | keep _ _ hs => exact hs.elim h1 id
  | pay _ _ hs => exact h1 hs
  | win hopen _ _ _ => exact hopen

theorem TicketInv.next {x : ι × PollAct} (h : TicketInv τ p)
    (h1 : (p.threads x.1).safeFor τ x.2 p.shared = true) :
    TicketInv τ (pollNext set p x) := by
  have hstep : TicketStep τ (p.threads x.1) ((p.threads x.1).run set x.2 p.shared).1 p.shared
      ((p.threads x.1).run set x.2 p.shared).2 := .run (h.sound x.1) h1
  have hx := h.once x.1
  constructor
  · exact Pool.forall_next (L := fun _ _ (t : Poller) => t.Sound) ((h.sound x.1).run x.2)
      fun j _ => h.sound j
  · refine Pool.forall_next
      (L := fun (w : TaskStore) _ (t : Poller) => w.completed τ + owed τ t.agenda ≤ 1)
      ?_ fun j hj => ?_
    · rw [Pool.next_shared]
      cases hstep with
      | keep howed hc _ | pay howed hc _ => omega
      | win hopen howed hc _ =>
        obtain ⟨h0, h1⟩ := h.fresh hopen
        have := h1 x.1
        omega
    · rw [Pool.next_shared]
      have hj' := h.once j
      cases hstep with
      | keep _ hc _ => omega
      | pay howed hc _ =>
        -- the payer held the right, so nobody else does
        have h2 : ¬ 0 < owed τ (p.threads j).agenda := fun hpos =>
          hj (h.one j x.1 hpos (by omega))
        omega
      | win _ _ hc _ => omega
  · refine Pool.one_next (K := fun t : Poller => 0 < owed τ t.agenda) h.one fun hnew => ?_
    cases hstep with
    | keep howed _ _ | pay howed _ _ => exact .inl (by omega)
    | win hopen _ _ _ =>
      refine .inr fun j _ => ?_
      have := (h.fresh hopen).2 j
      omega
  · intro hopen
    have hwas := IsOpen.of_step hstep hopen
    obtain ⟨h0, h1⟩ := h.fresh hwas
    have hx0 := h1 x.1
    cases hstep with
    | keep howed hc _ =>
      refine ⟨hc.trans h0, fun j => ?_⟩
      by_cases hj : j = x.1
      · subst hj
        rw [pollNext, Pool.next_own]
        omega
      · rw [pollNext, Pool.next_other hj]
        exact h1 j
    | pay howed _ _ => omega
    | win _ _ _ hclosed => exact absurd hopen hclosed
  · change ((p.threads x.1).run set x.2 p.shared).2.completed τ ≤ 1
    cases hstep with
    | keep _ hc _ | pay howed hc _ => omega
    | win _ _ hc _ => have := h.completed_le; omega

/-- **A task is refunded or settled once at most, and its last status stays**, in every run of the
sweeper and the poller in which no finished task is polled again from memory and no bulk update
reaches a success. -/
theorem video_task_completed_once (set : PollSettings) (τ : Nat) (tasks : Table Task)
    (db : Database) (acts : List (ι × PollAct))
    (hsafe : ∀ e ∈ Run.trace (pollNext set) (pollStart tasks db) acts,
      (e.before.threads e.act.1).safeFor τ e.act.2 e.before.shared = true) :
    (Run.final (pollNext set) (pollStart tasks db) acts).shared.completed τ ≤ 1 ∧
      ∀ e ∈ Run.trace (pollNext set) (pollStart tasks db) acts, ∀ s,
        e.before.shared.status? τ = some s → s.done = true →
          e.after.shared.status? τ = some s := by
  refine ⟨(Run.guarded_final (ticketInv_start tasks db) hsafe fun _ _ hs h =>
    h.next hs).completed_le,
    fun e he s hs hd => ?_⟩
  obtain ⟨hinv, h1, _⟩ := Run.guarded_invariant (ticketInv_start tasks db) hsafe
    (fun _ _ hs h => h.next hs) he
  have h : TicketStep τ (e.before.threads e.act.1)
      ((e.before.threads e.act.1).run set e.act.2 e.before.shared).1 e.before.shared
      ((e.before.threads e.act.1).run set e.act.2 e.before.shared).2 :=
    .run (hinv.sound e.act.1) (hsafe e he)
  have hnot := TaskStore.not_isOpen hs hd
  rw [h1, ← hs]
  cases h with
  | keep _ _ h => exact h.resolve_right hnot
  | pay _ _ h => exact h
  | win hopen _ _ _ => exact absurd hopen hnot

end System

/-! ## Two tasks under one upstream id -/

def pollTask (upstreamTaskID : String) : Task :=
  { id := 0, taskID := "task", platform := .other "sora", userId := 1, channelId := 7, quota := 100
    status := .inProgress, failReason := "", submitTime := 1760000000, startTime := 0
    finishTime := 0, progress := "30%", upstreamTaskID, resultURL := "", billingSource := .wallet
    subscriptionId := 0, tokenId := 0, perCallBilling := false, data := "" }

def pollSettings : PollSettings :=
  { cfg := .fresh, taskTimeoutMinutes := 1440, taskQueryLimit := 1000, serverAddress := "" }

def pollInput (status : TaskStatus) : PollInput where
  env := { now := 1760000060, faults := [], tokenFaults := [], tokenLookupFails := false }
  fails := false
  platformOrder := []
  channelOrder := []
  channelFound := true
  adaptorFound := true
  videoReply := .parsed { status, reason := "", url := "u", progress := "" } .notJson ""
  sunoReply := none
  pricing := { adjusted := 0, totalTokens := 0, tokenQuota := none }

def pollDb : Database :=
  { Database.empty with
    users := Table.empty.insert
      { id := 1, role := 1, quota := 0, group := "default", email := "", stripeCustomer := ""
        deleted := false } }

def pollSteps (b : Bool) (n : Nat) (status : TaskStatus) : List (Bool × PollAct) :=
  List.replicate n (b, .step (pollInput status))

def afterPolling (tasks : Table Task) (acts : List (Bool × PollAct)) :
    Pool.State Bool Poller TaskStore :=
  Run.final (pollNext pollSettings) (pollStart tasks pollDb) acts

/-- Two processes read the task; the provider tells one of a failure and the other of a success. -/
theorem video_task_completed_once_raced :
    (afterPolling (Table.empty.insert (pollTask "a"))
      (pollSteps false 3 .failure ++ pollSteps true 3 .success ++ pollSteps false 4 .failure ++
        pollSteps true 4 .success)).shared.completed 1 ≤ 1 :=
  (video_task_completed_once pollSettings 1 (Table.empty.insert (pollTask "a")) pollDb
    (pollSteps false 3 .failure ++ pollSteps true 3 .success ++ pollSteps false 4 .failure ++
      pollSteps true 4 .success) (by decide +kernel)).1

/-- Of two tasks under one upstream id the one in memory is polled twice: it is refunded twice, or
leaves its last status. And a process that does not find the channel overwrites a success that
another has settled meanwhile. -/
theorem video_task_completed_twice :
    (let w := (afterPolling ((Table.empty.insert (pollTask "a")).insert (pollTask "a"))
        (pollSteps false 9 .failure)).shared
     w.completed 2 = 2 ∧ w.db.userQuota 1 = 200) ∧
    (let tasks := (Table.empty.insert (pollTask "a")).insert (pollTask "a")
     (afterPolling tasks (pollSteps false 7 .success)).shared.status? 2 = some .success ∧
      (afterPolling tasks (pollSteps false 7 .success ++
        pollSteps false 1 .inProgress)).shared.status? 2 = some .inProgress) ∧
    (let tasks := Table.empty.insert (pollTask "a")
     let acts := pollSteps false 4 .success ++ pollSteps true 7 .success
     (afterPolling tasks acts).shared.status? 1 = some .success ∧
      (afterPolling tasks acts).shared.completed 1 = 1 ∧
      (afterPolling tasks (acts ++
        [(false, .step { pollInput .success with channelFound := false })])).shared.status? 1 =
          some .failure) := by
  decide +kernel

end Xingkong
