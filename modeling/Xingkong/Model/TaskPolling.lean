import Xingkong.Model.Task

/-!
# The task polling loop

A round of the loop first sweeps tasks that took too long, then lists the unfinished ones and
asks the providers about them, platform by platform and channel by channel. A process is kept as
the agenda of what is left of its round: each item is one step on the database, with what is
computed in memory between two such steps. The tasks of a platform are kept in memory under
their upstream id while their channels are asked, so two tasks under one id are one task there.

Follows `service/task_polling.go`.
-/

namespace Xingkong

open Rdb

/-- `constant.TaskTimeoutMinutes`, `constant.TaskQueryLimit` and the server's own address. -/
structure PollSettings where
  cfg : Config
  taskTimeoutMinutes : Int
  taskQueryLimit : Nat
  serverAddress : String

/-! ## What a provider answers -/

/-- `relaycommon.TaskInfo`. -/
structure TaskInfo where
  status : TaskStatus
  reason : String
  url : String
  progress : String

def failTaskInfo (reason : String) : TaskInfo :=
  { status := .failure, reason, url := "", progress := "" }

/-- How a body without a status reads as an error. -/
inductive ErrorFormat
  | notJson
  | tooManyRequests
  | openAI
  | unrecognized

inductive VideoReply
  /-- No response, or one whose body cannot be read or parsed. -/
  | failed
  | parsed (info : TaskInfo) (format : ErrorFormat) (body : String)

structure SunoDataResponse where
  taskID : String
  status : TaskStatus
  failReason : String
  submitTime : Int
  startTime : Int
  finishTime : Int
  data : String

/-! ## Video tasks -/

def buildProxyURL (set : PollSettings) (taskID : String) : String :=
  set.serverAddress ++ "/v1/videos/" ++ taskID ++ "/content"

/-- Where the result of a finished task is found. Inline data stays out of the column. -/
def resultURLOf (set : PollSettings) (info : TaskInfo) (task : Task) : String :=
  if "data:".isPrefixOf info.url ∨ info.url = "" then buildProxyURL set task.taskID else info.url

/-- What is left of a reply without a status; nothing for a rate limit, which is not a failure. -/
def TaskInfo.orError (info : TaskInfo) (format : ErrorFormat) : Option TaskInfo :=
  if info.status ≠ .empty then some info
  else
    match format with
    | .notJson => some info
    | .tooManyRequests => none
    | .openAI => some (failTaskInfo "upstream returned error")
    | .unrecognized => some (failTaskInfo "upstream returned unrecognized message")

/-- The switch over the new status; nothing for a status that is not known. -/
def Task.withStatus (set : PollSettings) (now : Int) (info : TaskInfo) (task : Task) :
    Option Task :=
  match info.status with
  | .submitted => some { task with status := .submitted, progress := "10%" }
  | .queued => some { task with status := .queued, progress := "20%" }
  | .inProgress =>
    some { task with
      status := .inProgress, progress := "30%"
      startTime := if task.startTime = 0 then now else task.startTime }
  | .success =>
    some { task with
      status := .success, progress := "100%"
      finishTime := if task.finishTime = 0 then now else task.finishTime
      resultURL := resultURLOf set info task }
  | .failure =>
    some { task with
      status := .failure, progress := "100%"
      finishTime := if task.finishTime = 0 then now else task.finishTime
      failReason := info.reason }
  | _ => none

/-- A failed task is complete whatever progress was reported. -/
def TaskInfo.finalProgress (info : TaskInfo) : String :=
  if info.status = .failure then "100%" else info.progress

def Task.withProgress (progress : String) (task : Task) : Task :=
  if progress = "" then task else { task with progress }

/-- What `updateVideoSingleTask` makes of the task in memory before it writes. -/
inductive VideoUpdate
  /-- It returns early and leaves the task like this. -/
  | leaves (task : Task)
  | writes (task : Task)

def Task.withReply (set : PollSettings) (now : Int) (reply : VideoReply) (task : Task) :
    VideoUpdate :=
  match reply with
  | .failed => .leaves task
  | .parsed info format body =>
    match info.orError format with
    | none => .leaves { task with data := body }
    | some info =>
      match { task with data := body }.withStatus set now info with
      | none => .leaves { task with data := body, status := info.status }
      | some task => .writes (task.withProgress info.finalProgress)

/-- The write of `updateVideoSingleTask` and whether billing may follow. Only a task that has just
been finished has to win its row. -/
def Task.writeVideo (old task : Task) (fails : Bool) (tasks : Table Task) : Bool × Table Task :=
  if task.status.done ∧ old.status ≠ task.status then
    match task.updateWithStatus old.status fails tasks with
    | (some won, tasks) => (won, tasks)
    | (none, tasks) => (false, tasks)
  else if old.snapshot ≠ task.snapshot then
    (true, (task.updateWithStatus old.status fails tasks).2)
  else (true, tasks)

/-! ## Suno tasks -/

/-- The data is raw JSON, kept as it is marshalled; its bytes are sorted before they are compared,
so it is equal if it has the same bytes in any order. -/
def taskNeedsUpdate (oldTask : Task) (newTask : SunoDataResponse) : Bool :=
  oldTask.submitTime ≠ newTask.submitTime || oldTask.startTime ≠ newTask.startTime ||
  oldTask.finishTime ≠ newTask.finishTime || oldTask.status ≠ newTask.status ||
  oldTask.failReason ≠ newTask.failReason ||
  (oldTask.status.done && oldTask.progress ≠ "100%") ||
  !decide (oldTask.data.toUTF8.data.toList.Perm newTask.data.toUTF8.data.toList)

/-- Fields the answer leaves empty keep their value. -/
def Task.withItem (item : SunoDataResponse) (task : Task) : Task :=
  { task with
    status := if item.status ≠ .empty then item.status else task.status
    failReason := if item.failReason ≠ "" then item.failReason else task.failReason
    submitTime := if item.submitTime ≠ 0 then item.submitTime else task.submitTime
    startTime := if item.startTime ≠ 0 then item.startTime else task.startTime
    finishTime := if item.finishTime ≠ 0 then item.finishTime else task.finishTime }

/-- The answer is taken for a failure: the task is refunded. -/
def Task.failedBy (item : SunoDataResponse) (task : Task) : Bool :=
  item.failReason ≠ "" || (task.withItem item).status = .failure

def Task.answered (item : SunoDataResponse) (task : Task) : Task :=
  { task.withItem item with
    progress :=
      if task.failedBy item ∨ item.status = .success then "100%" else (task.withItem item).progress
    data := item.data }

/-! ## The store -/

inductive CompletionKind
  /-- `RefundTaskQuota` was called for so much, and whether the funding source took it. -/
  | refund (amount : Int) (funding : TaskFunding) (accepted : Bool)
  /-- `settleTaskBillingOnComplete` was called. -/
  | settle
  deriving DecidableEq

structure TaskCompletion where
  taskId : Nat
  kind : CompletionKind
  deriving DecidableEq

structure TaskStore where
  tasks : Table Task
  db : Database
  /-- Every refund and every settlement so far, in order. -/
  completions : List TaskCompletion

namespace TaskStore

def refund (cfg : Config) (env : TaskEnv) (task : Task) (w : TaskStore) : TaskStore :=
  match refundTaskQuota cfg env task w.db with
  | (some accepted, db) =>
    { w with
      db, completions := w.completions ++ [⟨task.id, .refund task.quota task.funding accepted⟩] }
  | (none, db) => { w with db }

def settle (cfg : Config) (env : TaskEnv) (pricing : TaskPricing) (task : Task) (w : TaskStore) :
    Task × TaskStore :=
  match settleTaskBillingOnComplete cfg env task pricing w.db with
  | (task', db) => (task', { w with db, completions := w.completions ++ [⟨task.id, .settle⟩] })

end TaskStore

/-! ## Memory -/

/-- `taskM`: the tasks of a platform under their upstream ids. -/
abbrev TaskMap := List (String × Task)

def TaskMap.task? (m : TaskMap) (upstreamID : String) : Option Task := List.lookup upstreamID m

def TaskMap.set (m : TaskMap) (upstreamID : String) (task : Task) : TaskMap :=
  (upstreamID, task) :: m.filter (·.1 ≠ upstreamID)

/-- A later task replaces an earlier one under the same id. -/
def TaskMap.ofTasks (tasks : List Task) : TaskMap :=
  (tasks.filter (·.getUpstreamTaskID ≠ "")).foldl (fun m t => m.set t.getUpstreamTaskID t) []

/-- Go's maps are visited in any order: first the keys of `order`, then the others. -/
def visit {κ : Type} [DecidableEq κ] (order keys : List κ) : List κ :=
  (order.filter (· ∈ keys)).dedup ++ (keys.filter (· ∉ order)).dedup

/-- `taskChannelM`: the upstream ids of each channel, repeated ones too. -/
def channelTaskIds (tasks : List Task) (channelId : Nat) : List String :=
  (tasks.filter fun t => t.channelId = channelId && t.getUpstreamTaskID ≠ "").map
    (·.getUpstreamTaskID)

/-! ## Rounds -/

inductive PollWork
  /-- Read the tasks that took too long. -/
  | sweep
  | sweepTask (task : Task)
  /-- `RefundTaskQuota`. -/
  | refund (task : Task)
  /-- `settleTaskBillingOnComplete` for the task in memory under this id. -/
  | settle (upstreamID : String) (task : Task)
  | list
  | platform (platform : TaskPlatform) (tasks : List Task)
  | channel (platform : TaskPlatform) (channelId : Nat) (taskIds : List String)
  | videoTask (taskId : String)
  | sunoItem (item : SunoDataResponse)
  /-- `task.Update()` at the end of a Suno answer. -/
  | sunoSave (task : Task)

/-- What the surroundings decide at one step. -/
structure PollInput where
  env : TaskEnv
  fails : Bool
  platformOrder : List TaskPlatform
  channelOrder : List Nat
  channelFound : Bool
  adaptorFound : Bool
  videoReply : VideoReply
  /-- The list a Suno channel answers, if it answers one. -/
  sunoReply : Option (List SunoDataResponse)
  pricing : TaskPricing

/-- A process: what is left of its round, and the tasks in its memory. -/
structure Poller where
  agenda : List PollWork
  taskM : TaskMap

def Poller.resting : Poller := { agenda := [], taskM := [] }

/-- What follows an item: items that come before the rest of the agenda, or the end of the process
by a nil dereference. -/
structure PollEffect where
  push : Option (List PollWork)
  taskM : TaskMap
  store : TaskStore

section Work

variable (set : PollSettings) (i : PollInput) (m : TaskMap) (w : TaskStore)

/-- One turn of the sweeper's loop. -/
def timedOut (task : Task) : Task :=
  { task with
    status := .failure, progress := "100%", finishTime := i.env.now
    failReason :=
      if task.isLegacy then "任务超时（旧系统遗留任务，不进行退款，请联系管理员）"
      else "任务超时（" ++ toString set.taskTimeoutMinutes ++ "分钟）" }

def sweepTimedOutTask (task : Task) : PollEffect :=
  match (timedOut set i task).updateWithStatus task.status i.fails w.tasks with
  | (some true, tasks) =>
    { push := some (if !task.isLegacy && task.quota ≠ 0 then [.refund (timedOut set i task)]
        else [])
      taskM := m, store := { w with tasks } }
  | (_, tasks) => { push := some [], taskM := m, store := { w with tasks } }

def sweepTimedOutTasks : List PollWork :=
  if set.taskTimeoutMinutes ≤ 0 then []
  else (getTimedOutUnfinishedTasks (i.env.now - set.taskTimeoutMinutes * 60) 100 i.fails
    w.tasks).map .sweepTask

/-- The tasks grouped by platform. -/
def listUnfinished : List PollWork :=
  let allTasks := getAllUnFinishSyncTasks set.taskQueryLimit i.fails w.tasks
  (visit i.platformOrder (allTasks.map (·.platform))).map fun p =>
    .platform p (allTasks.filter (·.platform = p))

/-- A platform: tasks without an upstream id are failed at once, the others are kept in memory. -/
def pollPlatform (platform : TaskPlatform) (tasks : List Task) : PollEffect where
  push := some <|
    if platform = .midjourney then []
    else (visit i.channelOrder ((tasks.filter (·.getUpstreamTaskID ≠ "")).map (·.channelId))).map
      fun c => .channel platform c (channelTaskIds tasks c)
  taskM := .ofTasks tasks
  store := { w with
    tasks := taskBulkUpdateByID ((tasks.filter (·.getUpstreamTaskID = "")).map (·.id)) none i.fails
      w.tasks }

def channelMissingReason (platform : TaskPlatform) (channelId : Nat) : String :=
  if platform = .suno then "获取渠道信息失败，请联系管理员，渠道ID：" ++ toString channelId
  else "Failed to get channel info, channel ID: " ++ toString channelId

/-- `updateSunoTasks` and `updateVideoTasks` up to their loops. -/
def pollChannel (platform : TaskPlatform) (channelId : Nat) (taskIds : List String) : PollEffect :=
  if !i.channelFound then
    { push := some [], taskM := m
      store := { w with
        tasks := taskBulkUpdateByID ((taskIds.filterMap m.task?).map (·.id))
          (some (channelMissingReason platform channelId)) i.fails w.tasks } }
  else
    { push := some <|
        if !i.adaptorFound then []
        else if platform = .suno then (i.sunoReply.getD []).map .sunoItem
        else taskIds.map .videoTask
      taskM := m, store := w }

/-- The billing that follows a won or unchecked write. -/
def videoBilling (taskId : String) (task : Task) : List PollWork :=
  match task.status with
  | .success => [.settle taskId task]
  | .failure => if task.quota ≠ 0 then [.refund task] else []
  | _ => []

def updateVideoSingleTask (taskId : String) : PollEffect :=
  match m.task? taskId with
  | none => { push := some [], taskM := m, store := w }
  | some old =>
    match old.withReply set i.env.now i.videoReply with
    | .leaves task => { push := some [], taskM := m.set taskId task, store := w }
    | .writes task =>
      match old.writeVideo task i.fails w.tasks with
      | (billed, tasks) =>
        { push := some (if billed then videoBilling taskId task else [])
          taskM := m.set taskId task, store := { w with tasks } }

/-- One turn of the loop of `updateSunoTasks`, up to the refund. -/
def updateSunoTask (item : SunoDataResponse) : PollEffect :=
  match m.task? item.taskID with
  | none => { push := none, taskM := m, store := w }
  | some task =>
    if taskNeedsUpdate task item then
      { push := some ((if task.failedBy item then [.refund (task.answered item)] else []) ++
          [.sunoSave (task.answered item)])
        taskM := m.set item.taskID (task.answered item), store := w }
    else { push := some [], taskM := m, store := w }

def PollWork.exec : PollWork → PollEffect
  | sweep => { push := some (sweepTimedOutTasks set i w), taskM := m, store := w }
  | sweepTask task => sweepTimedOutTask set i m w task
  | refund task => { push := some [], taskM := m, store := w.refund set.cfg i.env task }
  | settle upstreamID task =>
    match w.settle set.cfg i.env i.pricing task with
    | (task, store) => { push := some [], taskM := m.set upstreamID task, store }
  | list => { push := some (listUnfinished set i w), taskM := m, store := w }
  | platform p tasks => pollPlatform i w p tasks
  | channel p channelId taskIds => pollChannel i m w p channelId taskIds
  | videoTask taskId => updateVideoSingleTask set i m w taskId
  | sunoItem item => updateSunoTask m w item
  | sunoSave task =>
    { push := some [], taskM := m, store := { w with tasks := task.update i.fails w.tasks } }

end Work

/-- The loop of `updateSunoTasks` in one piece: the tasks in memory and the store at its end, unless
it dereferences a task that is missing. A turn's refund and write come before the next turn;
`inputs n` is what the surroundings decide when `n` items are left. -/
def updateSunoTasks (set : PollSettings) (inputs : Nat → PollInput) :
    List SunoDataResponse → TaskMap → TaskStore → Option (TaskMap × TaskStore)
  | [], m, w => some (m, w)
  | item :: answer, m, w =>
    match updateSunoTask m w item with
    | ⟨some push, m, w⟩ =>
      updateSunoTasks set inputs answer m
        (push.foldl (fun w work => (work.exec set (inputs answer.length) m w).store) w)
    | ⟨none, _, _⟩ => none

inductive PollAct
  | step (input : PollInput)
  | crash

/-- One step of a process. A process between two rounds starts the next one. -/
def Poller.run (set : PollSettings) (t : Poller) (a : PollAct) (w : TaskStore) :
    Poller × TaskStore :=
  match a, t.agenda with
  | .crash, _ => (.resting, w)
  | .step _, [] => ({ agenda := [.sweep, .list], taskM := [] }, w)
  | .step i, work :: rest =>
    match work.exec set i t.taskM w with
    | ⟨some push, taskM, store⟩ => ({ agenda := push ++ rest, taskM }, store)
    | ⟨none, _, store⟩ => (.resting, store)

end Xingkong
