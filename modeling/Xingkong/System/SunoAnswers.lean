import Xingkong.System.TaskRefunds

/-!
# Answers of a Suno channel

`updateSunoTasks` looks up every answered id in the tasks it asked for and reads the task it got
without a check: an answer that holds an id nobody asked for ends the process.
-/

namespace Xingkong

theorem TaskMap.task?_isSome {m : TaskMap} {id : String} :
    (m.task? id).isSome ↔ ∃ e ∈ m, e.1 = id := by
  rw [task?]
  simp

theorem TaskMap.task?_set_isSome (m : TaskMap) (key id : String) (task : Task) :
    ((m.set key task).task? id).isSome ↔ id = key ∨ (m.task? id).isSome := by
  simp only [task?_isSome, set, List.mem_cons, exists_eq_or_imp, eq_comm (a := key)]
  by_cases h : id = key
  · simp [h]
  · simp only [h, false_or]
    refine exists_congr fun e => and_congr_left ?_
    rintro rfl
    simp [h]

theorem TaskMap.task?_ofTasks_isSome (tasks : List Task) (id : String) :
    ((TaskMap.ofTasks tasks).task? id).isSome ↔
      ∃ task ∈ tasks, task.getUpstreamTaskID = id ∧ id ≠ "" := by
  have hfold : ∀ (tasks : List Task) (m : TaskMap),
      ((tasks.foldl (fun m t => m.set t.getUpstreamTaskID t) m).task? id).isSome ↔
        (m.task? id).isSome ∨ ∃ task ∈ tasks, task.getUpstreamTaskID = id := by
    intro tasks
    induction tasks with
    | nil => simp
    | cons t tasks ih =>
      intro m
      simp [ih, task?_set_isSome, eq_comm (a := id), or_assoc, or_left_comm]
  unfold ofTasks
  rw [hfold]
  simp only [task?, List.lookup_nil, Option.isSome_none, Bool.false_eq_true, false_or,
    List.mem_filter, and_assoc]
  refine exists_congr fun task => and_congr_right fun _ => ?_
  constructor <;> rintro ⟨h1, h2⟩ <;> simp_all

theorem updateSunoTask_known (m : TaskMap) (w : TaskStore) (item : SunoDataResponse) :
    (updateSunoTask m w item).push.isSome = (m.task? item.taskID).isSome ∧
      ((m.task? item.taskID).isSome → ∀ id,
        ((updateSunoTask m w item).taskM.task? id).isSome = (m.task? id).isSome) := by
  unfold updateSunoTask
  cases h1 : m.task? item.taskID with
  | none => exact ⟨rfl, fun h => by cases h⟩
  | some task =>
    dsimp only
    split
    · refine ⟨rfl, fun _ id => Bool.eq_iff_iff.2 ?_⟩
      rw [TaskMap.task?_set_isSome, or_iff_right_of_imp]
      rintro rfl
      rw [h1]
      rfl
    · exact ⟨rfl, fun _ _ => rfl⟩

theorem updateSunoTasks_isSome (set : PollSettings) (inputs : Nat → PollInput)
    (answer : List SunoDataResponse) (m : TaskMap) (w : TaskStore) :
    (updateSunoTasks set inputs answer m w).isSome ↔
      ∀ item ∈ answer, (m.task? item.taskID).isSome := by
  induction answer generalizing m w with
  | nil => simp [updateSunoTasks]
  | cons item answer ih =>
    obtain ⟨hpush, h⟩ := updateSunoTask_known m w item
    rw [List.forall_mem_cons, ← hpush]
    unfold updateSunoTasks
    generalize updateSunoTask m w item = e at hpush h
    obtain ⟨push, m', w'⟩ := e
    cases push with
    | none => simp
    | some push => simp [ih, h hpush.symm]

/-- **An answer does not end the process** if every id it holds was asked for, and only then. -/
theorem updateSunoTasks_safe_iff (set : PollSettings) (inputs : Nat → PollInput) (w : TaskStore)
    (tasks : List Task) (answer : List SunoDataResponse) :
    (updateSunoTasks set inputs answer (.ofTasks tasks) w).isSome ↔
      ∀ item ∈ answer, ∃ task ∈ tasks,
        task.getUpstreamTaskID = item.taskID ∧ item.taskID ≠ "" := by
  rw [updateSunoTasks_isSome]
  simp only [TaskMap.task?_ofTasks_isSome]

theorem updateSunoTasks_unknown_id :
    (updateSunoTasks pollSettings (fun _ => sunoInput false)
      ((sunoInput false).sunoReply.getD [] ++
        [{ taskID := "b", status := .success, failReason := "", submitTime := 0, startTime := 0
           finishTime := 0, data := "" }]) (.ofTasks [sunoTask])
      { tasks := Rdb.Table.empty, db := pollDb, completions := [] }).isNone := by
  decide +kernel

end Xingkong
