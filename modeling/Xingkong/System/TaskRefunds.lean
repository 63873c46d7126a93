import Xingkong.System.TaskItems
import Xingkong.System.VideoTasks

/-!
# Refunds of the polling loop

The Suno poller refunds a failed task first and writes its row afterwards, without a condition on
what the row has become. A task is refunded once at most if rounds do not overlap, a process acts
on unfinished copies only, and nothing goes wrong between a refund and the write that follows it.
-/

namespace Xingkong

open Rdb List

variable {set : PollSettings} {i : PollInput} {m : TaskMap} {w w' : TaskStore} {τ : Nat}
  {work x : PollWork} {e : PollEffect} {t : Poller} {a : PollAct}

/-! ## The shape of an agenda -/

/-- Items of the first part of a round, after its tasks were read. -/
def PollWork.sweeping : PollWork → Bool
  | sweepTask _ => true
  | refund _ => true
  | _ => false

def PollWork.polling : PollWork → Bool
  | sweep => false
  | sweepTask _ => false
  | list => false
  | _ => true

/-- Where a round is. Tasks are read when there is nothing else to do. -/
inductive Poller.Stage (t : Poller) : Prop
  | start (h : t.agenda = [.sweep, .list]) (hm : t.taskM = [])
  | sweeping (pre : List PollWork) (h : t.agenda = pre ++ [.list])
      (hpre : ∀ x ∈ pre, x.sweeping = true) (hm : t.taskM = [])
  | polling (h : ∀ x ∈ t.agenda, x.polling = true)

/-- A write that follows a Suno answer comes first, or right after the refund it belongs to. -/
inductive SaveFirst (agenda : List PollWork) : Prop
  | none (h : ∀ x ∈ agenda, x.isSave = false)
  | save (t : Task) (rest : List PollWork) (h : agenda = .sunoSave t :: rest)
      (hrest : ∀ x ∈ rest, x.isSave = false)
  | refund (t' t : Task) (rest : List PollWork) (h : agenda = .refund t' :: .sunoSave t :: rest)
      (hrest : ∀ x ∈ rest, x.isSave = false)

structure Poller.Shape (t : Poller) : Prop where
  stage : t.Stage
  saveFirst : SaveFirst t.agenda
  settles : ∀ k x, .settle k x ∈ t.agenda → x.status.done = true

theorem sweeping_taskM (h : work.sweeping = true) :
    (work.exec set i m w).taskM = m := by
  cases work with
  | sweepTask t =>
    change (sweepTimedOutTask set i m w t).taskM = m
    unfold sweepTimedOutTask
    split <;> rfl
  | refund t => rfl
  | _ => cases h

theorem PollWork.Pushes.sweeping (h : work.Pushes x)
    (hw : work.sweeping = true ∨ work = .sweep) : x.sweeping = true := by
  cases h with
  | sweep _ _ | swept _ _ => rfl
  | _ => rcases hw with hw | hw <;> cases hw

theorem PollWork.Pushes.polling (h : work.Pushes x)
    (hw : work.polling = true ∨ work = .list) : x.polling = true := by
  cases h with
  | sweep _ _ | swept _ _ => rcases hw with hw | hw <;> cases hw
  | _ => rfl

namespace Poller

theorem Stage.exec {rest : List PollWork}
    (h : Poller.Stage { agenda := work :: rest, taskM := m }) :
    Poller.Stage { agenda := (work.exec set i m w).push.getD [] ++ rest
                   taskM := (work.exec set i m w).taskM } := by
  cases h with
  | start h hm =>
    obtain ⟨rfl, rfl⟩ := List.cons.inj h
    exact .sweeping _ rfl (fun x hx => (exec_pushes hx).sweeping (.inr rfl)) hm
  | sweeping pre h hpre hm =>
    cases pre with
    | nil =>
      obtain ⟨rfl, rfl⟩ := List.cons.inj h
      refine .polling fun x hx => ?_
      rw [append_nil] at hx
      exact (exec_pushes (m := m) hx).polling (.inr rfl)
    | cons y pre =>
      obtain ⟨rfl, rfl⟩ := List.cons.inj h
      have hy := hpre _ mem_cons_self
      refine .sweeping _ (append_assoc _ _ _).symm (fun x hx => ?_)
        ((sweeping_taskM hy).trans hm)
      rcases mem_append.1 hx with hx | hx
      · exact (exec_pushes hx).sweeping (.inl hy)
      · exact hpre x (mem_cons_of_mem _ hx)
  | polling h =>
    refine .polling fun x hx => ?_
    rcases mem_append.1 hx with hx | hx
    · exact (exec_pushes hx).polling (.inl (h _ mem_cons_self))
    · exact h x (mem_cons_of_mem _ hx)

/-- Tasks are read into an empty memory, with nothing but the list to follow. -/
theorem Stage.reads {rest : List PollWork}
    (h : Poller.Stage { agenda := work :: rest, taskM := m })
    (hw : work = .sweep ∨ work = .list) : m = [] ∧ (rest = [] ∨ rest = [.list]) := by
  cases h with
  | start h hm =>
    obtain ⟨_, rfl⟩ := List.cons.inj h
    exact ⟨hm, .inr rfl⟩
  | sweeping pre h hpre hm =>
    refine ⟨hm, .inl ?_⟩
    cases pre with
    | nil =>
      obtain ⟨_, rfl⟩ := List.cons.inj h
      rfl
    | cons y pre =>
      obtain ⟨rfl, _⟩ := List.cons.inj h
      have hy := hpre _ mem_cons_self
      rcases hw with rfl | rfl <;> cases hy
  | polling h =>
    have hwork := h _ mem_cons_self
    rcases hw with rfl | rfl <;> cases hwork

end Poller

theorem PollWork.Pushes.isSave (h : work.Pushes x) (hx : x.isSave = true) :
    ∃ item, work = .sunoItem item := by
  cases h with
  | saved item t => exact ⟨item, rfl⟩
  | _ => cases hx

theorem SaveFirst.rest {rest : List PollWork} (h : SaveFirst (work :: rest))
    (hr : work.isRefund = false) (hs : work.isSave = false) : ∀ x ∈ rest, x.isSave = false := by
  cases h with
  | none h => exact fun x hx => h x (mem_cons_of_mem _ hx)
  | save t rest' h hrest =>
    obtain ⟨rfl, rfl⟩ := List.cons.inj h
    cases hs
  | refund t' t rest' h hrest =>
    obtain ⟨rfl, rfl⟩ := List.cons.inj h
    cases hr

theorem SaveFirst.exec {rest : List PollWork} (h : SaveFirst (work :: rest)) :
    SaveFirst ((work.exec set i m w).push.getD [] ++ rest) := by
  by_cases hsuno : ∃ item, work = .sunoItem item
  · obtain ⟨item, rfl⟩ := hsuno
    have hrest := h.rest rfl rfl
    change SaveFirst ((updateSunoTask m w item).push.getD [] ++ rest)
    unfold updateSunoTask
    split
    · exact .none hrest
    · split
      next t _ _ =>
        cases t.failedBy item with
        | true => exact .refund (t.answered item) (t.answered item) rest rfl hrest
        | false => exact .save (t.answered item) rest rfl hrest
      · exact .none hrest
  · have hpush : ∀ x ∈ (work.exec set i m w).push.getD [], x.isSave = false := fun x hx => by
      cases hx' : x.isSave with
      | false => rfl
      | true => exact absurd ((exec_pushes hx).isSave hx') hsuno
    cases h with
    | none h =>
      refine .none fun x hx => ?_
      rcases mem_append.1 hx with hx | hx
      · exact hpush x hx
      · exact h x (mem_cons_of_mem _ hx)
    | save t rest' h hrest =>
      obtain ⟨rfl, rfl⟩ := List.cons.inj h
      exact .none hrest
    | refund t' t rest' h hrest =>
      obtain ⟨rfl, rfl⟩ := List.cons.inj h
      exact .save t rest' rfl hrest

theorem Poller.Shape.exec {rest : List PollWork}
    (h : Poller.Shape { agenda := work :: rest, taskM := m }) :
    Poller.Shape { agenda := (work.exec set i m w).push.getD [] ++ rest
                   taskM := (work.exec set i m w).taskM } where
  stage := h.stage.exec
  saveFirst := h.saveFirst.exec
  settles k x hx := by
    rcases mem_append.1 hx with hx | hx
    · cases exec_pushes hx with
      | settled _ _ _ hd => exact hd
    · exact h.settles k x (mem_cons_of_mem _ hx)

theorem Poller.Shape.resting : Poller.resting.Shape where
  stage := .polling (forall_mem_nil _)
  saveFirst := .none (forall_mem_nil _)
  settles _ _ hx := absurd hx not_mem_nil

theorem Poller.Shape.start : Poller.Shape { agenda := [.sweep, .list], taskM := [] } where
  stage := .start rfl rfl
  saveFirst := .none (by simp [PollWork.isSave])
  settles := by simp

/-! ## The condition -/

def PollWork.unsaved (τ : Nat) : PollWork → Bool
  | sunoSave t => t.id = τ && !t.unfinished
  | _ => false

/-- **What refunds rely on**, at one step of a process and for one task: answers are taken in for
unfinished copies only, and the write that follows a refund neither fails nor is lost with its
process. -/
def Poller.orderlyFor (τ : Nat) (t : Poller) (a : PollAct) : Bool :=
  match a, t.agenda with
  | .crash, agenda => agenda.all (!·.unsaved τ)
  | .step _, [] => true
  | .step i, work :: _ => work.onUnfinished τ t.taskM && (!work.unsaved τ || !i.fails)

/-! ## One process -/

def TaskStore.Closed (w : TaskStore) (τ : Nat) : Prop :=
  ∀ r, w.row τ = some r → r.unfinished = false

def refundTotal (τ : Nat) (t : Poller) (w : TaskStore) : Nat :=
  refundsIn τ t.agenda + (w.refundsOf τ).length

def copyTotal (τ : Nat) (t : Poller) : Nat := copiesIn τ t.agenda + t.taskM.copies τ

/-- A process in its round: it has one copy of the task at most, and none once the task is
refunded; a refunded task is closed, or about to be written as such. -/
structure Pass (τ : Nat) (t : Poller) (w : TaskStore) : Prop where
  shape : t.Shape
  once : refundTotal τ t w ≤ 1
  copies : copyTotal τ t ≤ 1
  fresh : 0 < copyTotal τ t → refundTotal τ t w = 0
  closed : 0 < refundTotal τ t w → w.Closed τ ∨ ∃ x ∈ t.agenda, x.unsaved τ = true
  saves : 0 < refundTotal τ t w → ∀ x ∈ t.agenda, x.saves τ = true → x.unsaved τ = true

structure Rest (τ : Nat) (w : TaskStore) : Prop where
  once : (w.refundsOf τ).length ≤ 1
  closed : 0 < (w.refundsOf τ).length → w.Closed τ

theorem Pass.rest (h : Pass τ { agenda := [], taskM := m } w) : Rest τ w := by
  have h1 : refundTotal τ { agenda := [], taskM := m } w = (w.refundsOf τ).length :=
    Nat.zero_add _
  constructor
  · rw [← h1]
    exact h.once
  · intro hpos
    rw [← h1] at hpos
    rcases h.closed hpos with hc | ⟨x, hx, _⟩
    · exact hc
    · exact absurd hx not_mem_nil

theorem Rest.resting (h : Rest τ w) : Pass τ .resting w := by
  have h1 : refundTotal τ .resting w = (w.refundsOf τ).length := Nat.zero_add _
  refine ⟨.resting, h1 ▸ h.once, Nat.zero_le _, fun hpos => absurd hpos (Nat.lt_irrefl 0),
    fun hpos => .inl (h.closed (h1 ▸ hpos)), fun _ _ hx => absurd hx not_mem_nil⟩

theorem Rest.start (h : Rest τ w) : Pass τ { agenda := [.sweep, .list], taskM := [] } w := by
  have h1 : refundTotal τ { agenda := [.sweep, .list], taskM := [] } w =
      (w.refundsOf τ).length := Nat.zero_add _
  refine ⟨.start, h1 ▸ h.once, Nat.zero_le _, fun hpos => absurd hpos (Nat.lt_irrefl 0),
    fun hpos => .inl (h.closed (h1 ▸ hpos)), fun _ x hx hs => ?_⟩
  rcases mem_pair.1 hx with rfl | rfl <;> cases hs

theorem PollWork.saves_of_unsaved (h : x.unsaved τ = true) : x.saves τ = true := by
  cases x with
  | sunoSave t =>
    simp only [unsaved, Bool.and_eq_true] at h
    exact h.1
  | _ => cases h

theorem PollWork.isSave_of_saves (h : x.saves τ = true) : x.isSave = true := by
  cases x with
  | sunoSave t => rfl
  | _ => cases h

theorem TaskStore.Closed.fail {reason : Option String}
    (h : w'.row τ = (w.row τ).map (Task.fail reason)) : w'.Closed τ := by
  intro r hr
  rw [h] at hr
  obtain ⟨r', _, rfl⟩ := Option.map_eq_some_iff.1 hr
  rfl

section Exec

variable {rest : List PollWork}

def PollEffect.next (e : PollEffect) (rest : List PollWork) : Poller :=
  { agenda := e.push.getD [] ++ rest, taskM := e.taskM }

theorem refundTotal_next :
    refundTotal τ (e.next rest) e.store =
      refundsIn τ (e.push.getD []) + refundsIn τ rest + (e.store.refundsOf τ).length := by
  rw [refundTotal, PollEffect.next, refundsIn_append]

theorem copyTotal_next :
    copyTotal τ (e.next rest) =
      copiesIn τ (e.push.getD []) + copiesIn τ rest + e.taskM.copies τ := by
  rw [copyTotal, PollEffect.next, copiesIn_append]

theorem refundTotal_cons :
    refundTotal τ { agenda := work :: rest, taskM := m } w =
      refundsIn τ rest + (if work.refunds τ then 1 else 0) + (w.refundsOf τ).length := by
  rw [refundTotal, refundsIn, countP_cons]
  rfl

theorem copyTotal_cons :
    copyTotal τ { agenda := work :: rest, taskM := m } =
      work.copies τ + copiesIn τ rest + m.copies τ := by
  rw [copyTotal, copiesIn_cons]

namespace Pass

variable (h : Pass τ { agenda := work :: rest, taskM := m } w) (hshape : (e.next rest).Shape)
  {t : Task}

include h hshape

/-- Refunds and copies are as before, and a write that was first has been made. -/
theorem keep (htotal : refundTotal τ (e.next rest) e.store =
      refundTotal τ { agenda := work :: rest, taskM := m } w)
    (hcopy : copyTotal τ (e.next rest) ≤ copyTotal τ { agenda := work :: rest, taskM := m })
    (hpush : ∀ x ∈ e.push.getD [], x.saves τ = false)
    (h1 : 0 < refundTotal τ { agenda := work :: rest, taskM := m } w →
      w.Closed τ ∨ work.unsaved τ = true → e.store.Closed τ) : Pass τ (e.next rest) e.store := by
  refine ⟨hshape, htotal ▸ h.once, hcopy.trans h.copies,
    fun hpos => htotal ▸ h.fresh (Nat.lt_of_lt_of_le hpos hcopy), fun hpos => ?_,
    fun hpos x hx hs => ?_⟩
  · rcases h.closed (htotal ▸ hpos) with hc | ⟨x, hx, hu⟩
    · exact .inl (h1 (htotal ▸ hpos) (.inl hc))
    · rcases mem_cons.1 hx with rfl | hx
      · exact .inl (h1 (htotal ▸ hpos) (.inr hu))
      · exact .inr ⟨x, mem_append_right _ hx, hu⟩
  · rcases mem_append.1 hx with hx | hx
    · rw [hpush x hx] at hs
      cases hs
    · exact h.saves (htotal ▸ hpos) x (mem_cons_of_mem _ hx) hs

theorem reads (hwork : work = .sweep ∨ work = .list)
    (hpush : ∀ x ∈ e.push.getD [], x.refunds τ = false ∧ x.saves τ = false)
    (hcopies : copiesIn τ (e.push.getD []) ≤ 1)
    (hopen : 0 < copiesIn τ (e.push.getD []) → ∃ r, w.row τ = some r ∧ r.unfinished = true)
    (hm : e.taskM = m) (hstore : e.store = w) : Pass τ (e.next rest) e.store := by
  obtain ⟨hm0, hrest⟩ := h.shape.stage.reads hwork
  have hwork' : work.refunds τ = false ∧ work.saves τ = false := by
    rcases hwork with rfl | rfl <;> exact ⟨rfl, rfl⟩
  have hrest' : copiesIn τ rest = 0 ∧ ∀ x ∈ rest, x.saves τ = false := by
    rcases hrest with rfl | rfl
    · exact ⟨rfl, forall_mem_nil _⟩
    · exact ⟨rfl, fun x hx => by rw [mem_singleton.1 hx]; rfl⟩
  have hr : refundsIn τ (e.push.getD []) = 0 :=
    countP_eq_zero.2 fun x hx => by rw [(hpush x hx).1]; nofun
  have htotal : refundTotal τ (e.next rest) e.store =
      refundTotal τ { agenda := work :: rest, taskM := m } w := by
    rw [refundTotal_next, refundTotal_cons, hr, hstore, hwork'.1]
    simp
  have hcopy : copyTotal τ (e.next rest) = copiesIn τ (e.push.getD []) := by
    rw [copyTotal_next, hm, hrest'.1, hm0]
    rfl
  have h1 : ∀ x ∈ work :: rest, x.saves τ = false := fun x hx => by
    rcases mem_cons.1 hx with rfl | hx
    · exact hwork'.2
    · exact hrest'.2 x hx
  have hclosed : 0 < refundTotal τ (e.next rest) e.store → w.Closed τ := fun hpos => by
    rcases h.closed (htotal ▸ hpos) with hc | ⟨x, hx, hu⟩
    · exact hc
    · have hs := PollWork.saves_of_unsaved hu
      rw [h1 x hx] at hs
      cases hs
  refine ⟨hshape, htotal ▸ h.once, hcopy ▸ hcopies, fun hpos => ?_,
    fun hpos => .inl (hstore ▸ hclosed hpos), fun hpos x hx hs => ?_⟩
  · obtain ⟨r, hrow, hu⟩ := hopen (hcopy ▸ hpos)
    by_contra hne
    rw [hclosed (Nat.pos_of_ne_zero hne) r hrow] at hu
    cases hu
  · rcases mem_append.1 hx with hx | hx
    · rw [(hpush x hx).2] at hs
      cases hs
    · rw [hrest'.2 x hx] at hs
      cases hs

/-- The only copy is used; if the task is to be refunded, it is finished with it and written, or
about to be. -/
theorem spend (hwork : work.isRefund = false ∧ work.isSave = false)
    (hcopy : 0 < work.copies τ + m.copies τ)
    (hcopies : copiesIn τ (e.push.getD []) + e.taskM.copies τ +
      (if t.unfinished then 0 else 1) ≤ work.copies τ + m.copies τ)
    (hle : refundsIn τ (e.push.getD []) ≤ 1) (hlog : e.store.refundsOf τ = w.refundsOf τ)
    (hfin : 0 < refundsIn τ (e.push.getD []) → t.unfinished = false ∧
      (e.store.Closed τ ∨ ∃ x ∈ e.push.getD [], x.unsaved τ = true) ∧
      ∀ x ∈ e.push.getD [], x.saves τ = true → x.unsaved τ = true) :
    Pass τ (e.next rest) e.store := by
  have hone := h.copies
  have h1 := h.fresh (by rw [copyTotal_cons]; omega)
  rw [refundTotal_cons] at h1
  rw [copyTotal_cons] at hone
  have htotal : refundTotal τ (e.next rest) e.store = refundsIn τ (e.push.getD []) := by
    rw [refundTotal_next, hlog]
    omega
  refine ⟨hshape, htotal ▸ hle, ?_, fun hpos => ?_, fun hpos => ?_, fun hpos x hx hs => ?_⟩
  · rw [copyTotal_next]
    omega
  · rw [htotal]
    by_contra hne
    rw [copyTotal_next] at hpos
    rw [(hfin (Nat.pos_of_ne_zero hne)).1] at hcopies
    simp only [Bool.false_eq_true, if_false] at hcopies
    omega
  · exact (hfin (htotal ▸ hpos)).2.1.imp_right fun ⟨x, hx, hu⟩ => ⟨x, mem_append_left _ hx, hu⟩
  · rcases mem_append.1 hx with hx | hx
    · exact (hfin (htotal ▸ hpos)).2.2 x hx hs
    · have h1 := h.shape.saveFirst.rest hwork.1 hwork.2 x hx
      rw [PollWork.isSave_of_saves hs] at h1
      cases h1

theorem answers {failed : Bool} (hid : t.id = τ) (hcopy : 0 < m.copies τ)
    (hcopies : e.taskM.copies τ + (if t.unfinished then 0 else 1) ≤ m.copies τ)
    (hwork : work.isRefund = false ∧ work.isSave = false ∧ work.copies τ = 0)
    (hpush : e.push = some ((if failed then [.refund t] else []) ++ [.sunoSave t]))
    (hclosed : failed = true → t.unfinished = false) (hstore : e.store = w) :
    Pass τ (e.next rest) e.store := by
  have hcopied : copiesIn τ (e.push.getD []) = 0 := by
    rw [hpush]
    cases failed <;> rfl
  have hle : refundsIn τ (e.push.getD []) ≤ 1 := by
    have h1 : refundsIn τ [.sunoSave t] = 0 := rfl
    rw [hpush, Option.getD_some, refundsIn_append, h1]
    split
    · exact countP_le_length
    · exact Nat.zero_le _
  refine h.spend (t := t) hshape ⟨hwork.1, hwork.2.1⟩ (by omega) (by omega) hle (hstore ▸ rfl)
    fun hpos => ?_
  have hf : failed = true := by
    cases failed with
    | true => rfl
    | false => rw [hpush] at hpos; exact absurd hpos (Nat.lt_irrefl 0)
  have h1 : (PollWork.sunoSave t).unsaved τ = true := by
    simp [PollWork.unsaved, hid, hclosed hf]
  rw [hpush, if_pos hf]
  refine ⟨hclosed hf, .inr ⟨_, mem_cons_of_mem _ mem_cons_self, h1⟩, fun x hx hs => ?_⟩
  rcases mem_pair.1 hx with rfl | rfl
  · cases hs
  · exact h1

theorem saved (hwork : work = .sunoSave t) (hid : t.id = τ)
    (hpush : e.push = some []) (hm : e.taskM = m) (hlog : e.store.refundsOf τ = w.refundsOf τ)
    (hrow : t.unfinished = false → e.store.row τ = (w.row τ).map fun _ => t) :
    Pass τ (e.next rest) e.store := by
  subst hwork
  refine h.keep hshape ?_ ?_ (by rw [hpush]; exact forall_mem_nil _) fun hpos _ r hr => ?_
  · rw [refundTotal_next, refundTotal_cons, hpush, hlog]
    simp [PollWork.refunds]
  · rw [copyTotal_next, copyTotal_cons, hpush, hm]
    rfl
  · have hu := h.saves hpos _ mem_cons_self (decide_eq_true hid)
    simp only [PollWork.unsaved, Bool.and_eq_true, Bool.not_eq_true'] at hu
    rw [hrow hu.2] at hr
    obtain ⟨_, _, rfl⟩ := Option.map_eq_some_iff.1 hr
    exact hu.2

end Pass

/-- **An item keeps a round in order.** -/
theorem Pass.exec (h : Pass τ { agenda := work :: rest, taskM := m } w)
    (hon : work.onUnfinished τ m = true) (hsaved : work.unsaved τ = true → i.fails = false) :
    Pass τ ((work.exec set i m w).next rest) (work.exec set i m w).store := by
  have h1 : TaskItem τ i work m w (work.exec set i m w) :=
    .exec (fun k t hw => h.shape.settles k t (hw ▸ mem_cons_self)) hon
  have hshape : ((work.exec set i m w).next rest).Shape := h.shape.exec
  cases h1 with
  | quiet hwork hpush hcopies hlog hrow =>
    have hr : refundsIn τ ((work.exec set i m w).push.getD []) = 0 :=
      countP_eq_zero.2 fun x hx => by rw [(hpush x hx).1]; nofun
    refine h.keep hshape ?_ ?_ (fun x hx => (hpush x hx).2) fun _ hc => ?_
    · rw [refundTotal_next, refundTotal_cons, hr, hlog, hwork.1]
      simp
    · rw [copyTotal_next, copyTotal_cons]
      omega
    · have hc := hc.resolve_right fun hu => by
        rw [PollWork.saves_of_unsaved hu] at hwork
        cases hwork.2
      rcases hrow with hrow | ⟨_, reason, hrow⟩
      · exact fun r hr => hc r (hrow ▸ hr)
      · exact .fail hrow
  | reads hwork hpush hcopies hopen hm hstore =>
    exact h.reads hshape hwork hpush hcopies hopen hm hstore
  | refunds t accepted hwork hid hq hpush hm hlog hrow =>
    subst hwork
    refine h.keep hshape ?_ ?_ (by rw [hpush]; exact forall_mem_nil _)
      fun _ hc r hr => hc.resolve_right nofun r (hrow ▸ hr)
    · rw [refundTotal_next, refundTotal_cons, hpush, hlog, length_append]
      simp [PollWork.refunds, hid, hq]
      omega
    · rw [copyTotal_next, copyTotal_cons, hpush, hm]
      rfl
  | writes t hwork hcopy hcopies hpush hclosed _ hlog hrow =>
    refine h.spend hshape hwork hcopy hcopies hpush.1 hlog fun hpos =>
      ⟨hclosed hpos, .inl fun r hr => ?_, fun x hx hs => ?_⟩
    · rw [hrow] at hr
      cases hr
      exact hclosed hpos
    · rw [hpush.2 x hx] at hs
      cases hs
  | answers t failed hid hcopy hcopies hwork hpush hclosed _ hstore =>
    exact h.answers hshape hid hcopy hcopies hwork hpush hclosed hstore
  | saves t hwork hid hpush hm hlog hrow =>
    refine h.saved hshape hwork hid hpush hm hlog fun hu => hrow.resolve_left fun hf => ?_
    have h1 := hsaved (by rw [hwork]; simp [PollWork.unsaved, hid, hu])
    rw [h1] at hf
    cases hf.1

end Exec

theorem Pass.dropped (h : Pass τ t w) (h1 : ∀ x ∈ t.agenda, x.unsaved τ = false) :
    Rest τ w := by
  have hle : (w.refundsOf τ).length ≤ refundTotal τ t w := Nat.le_add_left _ _
  refine ⟨hle.trans h.once, fun hpos => ?_⟩
  rcases h.closed (Nat.lt_of_lt_of_le hpos hle) with hc | ⟨x, hx, hu⟩
  · exact hc
  · rw [h1 x hx] at hu
    cases hu

theorem Pass.run (h : Pass τ t w) (hor : t.orderlyFor τ a = true) :
    Pass τ (t.run set a w).1 (t.run set a w).2 := by
  obtain ⟨agenda, m⟩ := t
  cases a with
  | crash =>
    refine (h.dropped fun x hx => ?_).resting
    simpa using all_eq_true.1 hor x hx
  | step i =>
    cases agenda with
    | nil => exact h.rest.start
    | cons work rest =>
      simp only [Poller.orderlyFor, Bool.and_eq_true, Bool.or_eq_true, Bool.not_eq_true'] at hor
      have hnext : Pass τ ((work.exec set i m w).next rest) (work.exec set i m w).store := by
        refine h.exec hor.1 fun hu => ?_
        rcases hor.2 with hf | hf
        · rw [hu] at hf
          cases hf
        · exact hf
      have h1 : (work.exec set i m w).push = none → ∃ item, work = .sunoItem item := exec_panics
      unfold Poller.run
      dsimp only
      generalize work.exec set i m w = e at hnext h1 ⊢
      obtain ⟨_ | push, m', w'⟩ := e
      · -- a Suno answer for an unknown task: nothing waits to be written
        obtain ⟨item, rfl⟩ := h1 rfl
        refine (hnext.dropped fun x hx => ?_).resting
        have h1 := h.shape.saveFirst.rest rfl rfl x hx
        cases hu : x.unsaved τ with
        | false => rfl
        | true =>
          rw [PollWork.isSave_of_saves (PollWork.saves_of_unsaved hu)] at h1
          cases h1
      · exact hnext

/-! ## All processes -/

section System

variable {ι : Type} {p : Pool.State ι Poller TaskStore}

/-- A round starts when no other process is in one, and every step is orderly for the task. -/
structure RoundsInTurn (τ : Nat) (p : Pool.State ι Poller TaskStore) (x : ι × PollAct) : Prop where
  alone : (p.threads x.1).agenda = [] → ∀ j, (p.threads j).agenda = []
  orderly : (p.threads x.1).orderlyFor τ x.2 = true

instance [Fintype ι] (p : Pool.State ι Poller TaskStore) (x : ι × PollAct) :
    Decidable (RoundsInTurn τ p x) :=
  decidable_of_iff (_ ∧ _) ⟨fun h => ⟨h.1, h.2⟩, fun h => ⟨h.1, h.2⟩⟩

structure TurnInv (τ : Nat) (p : Pool.State ι Poller TaskStore) : Prop where
  one : ∀ j k, (p.threads j).agenda ≠ [] → (p.threads k).agenda ≠ [] → j = k
  pass : ∀ j, (p.threads j).agenda ≠ [] → Pass τ (p.threads j) p.shared
  rest : (∀ j, (p.threads j).agenda = []) → Rest τ p.shared

theorem TurnInv.once (h : TurnInv τ p) : (p.shared.refundsOf τ).length ≤ 1 := by
  by_cases hall : ∀ j, (p.threads j).agenda = []
  · exact (h.rest hall).once
  · obtain ⟨j, hj⟩ := not_forall.1 hall
    exact (Nat.le_add_left _ _).trans (h.pass j hj).once

theorem turnInv_start (tasks : Table Task) (db : Database) :
    TurnInv τ (pollStart tasks db : Pool.State ι Poller TaskStore) where
  one _ _ h := absurd rfl h
  pass _ h := absurd rfl h
  rest _ := ⟨Nat.zero_le _, fun h => absurd h (Nat.lt_irrefl 0)⟩

/-- The process that moves is in its round, or the table is at rest. -/
theorem Rest.run (h : Rest τ w) (ht : t.agenda = []) :
    Pass τ (t.run set a w).1 (t.run set a w).2 := by
  obtain ⟨agenda, m⟩ := t
  subst ht
  cases a with
  | crash => exact h.resting
  | step i => exact h.start

variable [DecidableEq ι]

theorem TurnInv.next {x : ι × PollAct} (h : TurnInv τ p) (hturn : RoundsInTurn τ p x) :
    TurnInv τ (pollNext set p x) := by
  have hpass : Pass τ ((p.threads x.1).run set x.2 p.shared).1
      ((p.threads x.1).run set x.2 p.shared).2 := by
    by_cases hx : (p.threads x.1).agenda = []
    · exact (h.rest (hturn.alone hx)).run hx
    · exact (h.pass x.1 hx).run hturn.orderly
  -- nobody else is in a round
  have h1 : ∀ j, j ≠ x.1 → (p.threads j).agenda = [] := fun j hj => by
    by_contra hne
    by_cases hx : (p.threads x.1).agenda = []
    · exact hne (hturn.alone hx j)
    · exact hj (h.one j x.1 hne hx)
  have hown : ∀ j, ((pollNext set p x).threads j).agenda ≠ [] → j = x.1 := fun j hne => by
    by_contra hj
    rw [pollNext, Pool.next_other hj] at hne
    exact hne (h1 j hj)
  refine ⟨fun j k hj hk => (hown j hj).trans (hown k hk).symm, fun j hj => ?_, fun hall => ?_⟩
  · rw [hown j hj, pollNext, Pool.next_own, Pool.next_shared]
    exact hpass
  · have h1 := hall x.1
    rw [pollNext, Pool.next_own] at h1
    rw [pollNext, Pool.next_shared]
    generalize (p.threads x.1).run set x.2 p.shared = r at hpass h1
    obtain ⟨⟨agenda, m⟩, w'⟩ := r
    subst h1
    exact hpass.rest

/-- **A task is refunded once at most**, in every run of polling processes whose rounds do not
overlap and whose steps are orderly for the task. -/
theorem task_refunded_once (set : PollSettings) (τ : Nat) (tasks : Table Task) (db : Database)
    (acts : List (ι × PollAct))
    (hturn : ∀ e ∈ Run.trace (pollNext set) (pollStart tasks db) acts,
      RoundsInTurn τ e.before e.act) :
    ((Run.final (pollNext set) (pollStart tasks db) acts).shared.refundsOf τ).length ≤ 1 :=
  (Run.guarded_final (turnInv_start tasks db) hturn fun _ _ ht h => h.next ht).once

end System

/-! ## A Suno task -/

def sunoTask : Task := { pollTask "a" with platform := .suno }

def sunoInput (fails : Bool) : PollInput :=
  { pollInput .failure with
    fails
    sunoReply := some [{ taskID := "a", status := .failure, failReason := "", submitTime := 0
                         startTime := 0, finishTime := 0, data := "" }] }

def sunoSteps (b : Bool) (n : Nat) : List (Bool × PollAct) :=
  List.replicate n (b, .step (sunoInput false))

/-- Two processes run a round each, one after the other. -/
theorem task_refunded_once_in_turn :
    ((afterPolling (Table.empty.insert sunoTask)
      (sunoSteps false 8 ++ sunoSteps true 4)).shared.refundsOf
      1).length ≤ 1 :=
  task_refunded_once pollSettings 1 (Table.empty.insert sunoTask) pollDb
    (sunoSteps false 8 ++ sunoSteps true 4) (by decide +kernel)

/-- Two processes read a task before either has written it; a process fails to write a task it has
refunded. Both times the task is refunded again. -/
theorem task_refunded_twice :
    (let w := (afterPolling (Table.empty.insert sunoTask)
        (sunoSteps false 3 ++ sunoSteps true 3 ++ sunoSteps false 5 ++ sunoSteps true 5)).shared
     (w.refundsOf 1).length = 2 ∧ w.db.userQuota 1 = 200) ∧
    (let w := (afterPolling (Table.empty.insert sunoTask)
        (sunoSteps false 7 ++ [(false, .step (sunoInput true))] ++ sunoSteps false 8)).shared
     (w.refundsOf 1).length = 2 ∧ w.db.userQuota 1 = 200) := by
  decide +kernel

end Xingkong
