import AutoRuntime.Machine
import AutoRuntime.Status
import AutoRuntime.Table

/-! The executor: tasks, callback groups with their bounded priority queues, and every thread
that works on them. Each section under a mutex is one action. Where a section of `Enqueue`
takes the task lock inside the group lock, the group cannot change in between, so the pair
is one action as well. Clock readings come with the action. -/
namespace AutoRuntime.Executor

open Chrono

abbrev TaskId := Nat

abbrev CallbackGroupId := Nat

inductive TaskKind where
  | periodic | event | async
  deriving DecidableEq, Repr

inductive DeadlinePolicy where
  | warn | degrade | drop
  deriving DecidableEq, Repr

inductive DeadlineAction where
  | none | warned | degraded | dropped
  deriving DecidableEq, Repr

structure CallbackGroupConfig where
  name : Bytes
  workerCount : Nat := 1
  queueCapacity : Nat := 256
  deriving DecidableEq, Repr

/-- Period and deadline are nanosecond counts. -/
structure TaskConfig where
  name : Bytes
  kind : TaskKind := .async
  priority : Int := 0
  period : Int := 0
  deadline : Int := 0
  queueCapacity : Nat := 1
  callbackGroup : CallbackGroupId := 0
  deadlinePolicy : DeadlinePolicy := .warn
  deriving DecidableEq, Repr

structure TaskSample where
  taskId : TaskId
  releaseSequence : Nat
  scheduledReleaseTime : Int
  actualStartTime : Int
  finishTime : Int
  executionTime : Int := 0
  releaseJitter : Int
  responseTime : Int
  queueDelay : Int
  deadlineMiss : Bool
  dropped : Bool := false
  deadlineAction : DeadlineAction := .none
  deriving DecidableEq, Repr

structure DeadlineEvent where
  taskId : TaskId
  taskName : Bytes
  policy : DeadlinePolicy
  action : DeadlineAction
  totalDeadlineMisses : Nat
  sample : TaskSample
  deriving DecidableEq, Repr

structure TaskStats where
  releases : Nat := 0
  started : Nat := 0
  finished : Nat := 0
  queueOverflows : Nat := 0
  periodicReleasesSkipped : Nat := 0
  deadlineMisses : Nat := 0
  deadlineWarnings : Nat := 0
  deadlineDegrades : Nat := 0
  deadlineDrops : Nat := 0
  deadlineHandlerFailures : Nat := 0
  callbackFailures : Nat := 0
  samples : List TaskSample := []
  deriving DecidableEq, Repr

def nonNegativeDuration (finish begin : Int) : Int :=
  if finish ≤ begin then 0 else elapsed finish begin

/-- Only the latest samples are kept. -/
def appendSample (stats : TaskStats) (sample : TaskSample) : TaskStats :=
  let kept := if stats.samples.length = 4096 then stats.samples.drop 1 else stats.samples
  { stats with samples := kept ++ [sample] }

structure TaskState where
  id : TaskId
  config : TaskConfig
  cancelled : Bool := false
  queued : Nat := 0
  nextRelease : Int := 0
  stats : TaskStats := {}
  deriving DecidableEq, Repr

structure Job where
  task : TaskId
  releaseTime : Int
  enqueuedAt : Int
  sequence : Nat
  deriving DecidableEq, Repr

structure CallbackGroup where
  config : CallbackGroupConfig
  queue : List Job := []
  stopping : Bool := false
  deriving DecidableEq, Repr

/-- The right job comes before the left one. -/
def higherPriorityFirst (priority : TaskId → Int) (left right : Job) : Bool :=
  if priority left.task ≠ priority right.task then priority left.task < priority right.task
  else if left.releaseTime ≠ right.releaseTime then left.releaseTime > right.releaseTime
  else left.sequence > right.sequence

/-- The greatest job of a priority queue, whatever the order of its heap. -/
def top (priority : TaskId → Int) : List Job → Option Job
  | [] => none
  | job :: rest => some (rest.foldl
      (fun best other => if higherPriorityFirst priority best other then other else best) job)

/-- The task section of `Enqueue`. -/
def TaskState.reserve (task : TaskState) : TaskState × Option Status :=
  if task.cancelled then (task,some ⟨.cancelled,"task is cancelled"⟩)
  else
    let stats := { task.stats with releases := task.stats.releases + 1 }
    if task.queued ≥ task.config.queueCapacity then
      ({ task with stats := { stats with queueOverflows := stats.queueOverflows + 1 } },
        some ⟨.queueFull,"task queue is full"⟩)
    else ({ task with queued := task.queued + 1, stats := stats },none)

/-- The reservation is given back because the group is stopping. -/
def TaskState.withdraw (task : TaskState) : TaskState := { task with queued := task.queued - 1 }

/-- The reservation is given back because the group has no room. -/
def TaskState.overflow (task : TaskState) : TaskState :=
  { task with
    queued := task.queued - 1
    stats := { task.stats with queueOverflows := task.stats.queueOverflows + 1 } }

inductive Dispatch where
  | discarded
  | dropped (event : DeadlineEvent)
  | execute
  deriving DecidableEq, Repr

def TaskState.missed (task : TaskState) (releaseTime now : Int) : Bool :=
  task.config.deadline > 0 && now > after releaseTime task.config.deadline

/-- The guarded decrement of `WorkerLoop`. -/
def TaskState.taken (task : TaskState) : TaskState :=
  if task.queued > 0 then { task with queued := task.queued - 1 } else task

/-- The dispatch section of `WorkerLoop`. -/
def TaskState.dispatch (task : TaskState) (job : Job) (groupStopping : Bool) (dispatchTime : Int) :
    TaskState × Dispatch :=
  let taken := task.taken
  if taken.cancelled || groupStopping then (taken,.discarded)
  else if taken.missed job.releaseTime dispatchTime && taken.config.deadlinePolicy == .drop then
    let jitter := nonNegativeDuration dispatchTime job.releaseTime
    let sample : TaskSample :=
      { taskId := taken.id, releaseSequence := job.sequence, scheduledReleaseTime := job.releaseTime,
        actualStartTime := dispatchTime, finishTime := dispatchTime, releaseJitter := jitter,
        responseTime := jitter, queueDelay := nonNegativeDuration dispatchTime job.enqueuedAt,
        deadlineMiss := true, dropped := true, deadlineAction := .dropped }
    let stats := { taken.stats with
      deadlineMisses := taken.stats.deadlineMisses + 1
      deadlineDrops := taken.stats.deadlineDrops + 1 }
    ({ taken with stats := appendSample stats sample },
      .dropped ⟨taken.id,taken.config.name,taken.config.deadlinePolicy,.dropped,stats.deadlineMisses,sample⟩)
  else
    ({ taken with stats := { taken.stats with started := taken.stats.started + 1 } },.execute)

/-- The accounting section of `WorkerLoop` after the callback, with the event for the
deadline handler and whether the executor is degraded. -/
def TaskState.finish (task : TaskState) (job : Job) (start finish : Int) (callbackFailed : Bool) :
    TaskState × Option DeadlineEvent × Bool :=
  let miss := task.missed job.releaseTime finish
  let sample : TaskSample :=
    { taskId := task.id, releaseSequence := job.sequence, scheduledReleaseTime := job.releaseTime,
      actualStartTime := start, finishTime := finish,
      executionTime := nonNegativeDuration finish start,
      releaseJitter := nonNegativeDuration start job.releaseTime,
      responseTime := nonNegativeDuration finish job.releaseTime,
      queueDelay := nonNegativeDuration start job.enqueuedAt, deadlineMiss := miss }
  let stats := { task.stats with
    finished := task.stats.finished + 1
    callbackFailures := task.stats.callbackFailures + if callbackFailed then 1 else 0 }
  if miss then
    let stats := { stats with deadlineMisses := stats.deadlineMisses + 1 }
    let (stats,action,degraded) : TaskStats × DeadlineAction × Bool :=
      match task.config.deadlinePolicy with
      | .warn => ({ stats with deadlineWarnings := stats.deadlineWarnings + 1 },.warned,false)
      | .degrade => ({ stats with deadlineDegrades := stats.deadlineDegrades + 1 },.degraded,true)
      | .drop => ({ stats with deadlineWarnings := stats.deadlineWarnings + 1 },.warned,false)
    let sample := { sample with deadlineAction := action }
    ({ task with stats := appendSample stats sample },
      some ⟨task.id,task.config.name,task.config.deadlinePolicy,action,stats.deadlineMisses,sample⟩,
      degraded)
  else ({ task with stats := appendSample stats sample },none,false)

/-- The deadline handler has run; only a throw is recorded. -/
def TaskState.report (task : TaskState) (threw : Bool) : TaskState :=
  let failures := task.stats.deadlineHandlerFailures + if threw then 1 else 0
  { task with stats := { task.stats with deadlineHandlerFailures := failures } }

/-- Releases of one periodic task that are due, oldest first, and the next one. -/
def catchUp (now period : Int) : Nat → Int → List Int × Int
  | 0, nextRelease => ([],nextRelease)
  | budget + 1, nextRelease =>
    if nextRelease ≤ now then
      let (later,last) := catchUp now period budget (after nextRelease period)
      (nextRelease :: later,last)
    else ([],nextRelease)

/-- The release step of `SchedulerLoop` for one task. -/
def TaskState.release (task : TaskState) (now : Int) : TaskState × List Int :=
  if task.cancelled || task.config.kind != .periodic then (task,[])
  else
    let (due,nextRelease) := catchUp now task.config.period 1024 task.nextRelease
    if due.length = 1024 ∧ nextRelease ≤ now then
      let skipped := UInt64.ofInt ((elapsed now nextRelease).tdiv task.config.period) + 1
      ({ task with
        nextRelease := after nextRelease (wrap (task.config.period * wrap skipped.toNat))
        stats := { task.stats with
          periodicReleasesSkipped := task.stats.periodicReleasesSkipped + skipped.toNat } },due)
    else ({ task with nextRelease := nextRelease },due)

/-- What `Start` does to one task. -/
def TaskState.arm (task : TaskState) (now : Int) : TaskState :=
  if task.config.kind = .periodic then { task with nextRelease := after now task.config.period } else task

/-- Where one `Enqueue` call stands. -/
inductive EnqueuePhase where
  | requested
  | sequenced (group : CallbackGroupId) (sequence : Nat)
  | reserved (group : CallbackGroupId) (sequence : Nat) (enqueuedAt : Int)
  | returned (status : Status)
  deriving DecidableEq, Repr

structure EnqueueCall where
  task : TaskId
  releaseTime : Int
  phase : EnqueuePhase := .requested
  deriving DecidableEq, Repr

inductive WorkerPhase where
  | idle
  | popped (job : Job) (groupStopping : Bool)
  | executing (job : Job)
  | reporting (event : DeadlineEvent)
  | exited
  deriving DecidableEq, Repr

structure Worker where
  group : CallbackGroupId
  phase : WorkerPhase := .idle
  deriving DecidableEq, Repr

/-- The scheduler thread hands its due releases to `Enqueue` one after the other; `pending`
is the call it is in. -/
inductive SchedulerPhase where
  | absent
  | waiting
  | releasing (due : List (TaskId × Int)) (pending : Option Nat)
  | exited
  deriving DecidableEq, Repr

inductive AddPhase where
  | checking
  | enqueuing (call : Nat)
  | returned (answer : Result TaskId)

/-- An `AddTask` call of an async task, after the task is in the table. -/
structure AddCall where
  task : TaskId
  phase : AddPhase

inductive StopPhase where
  | marking (groups : List CallbackGroupId)
  | joining
  | returned
  deriving DecidableEq, Repr

structure System where
  groups : Table CallbackGroupId CallbackGroup
  tasks : Table TaskId TaskState
  nextGroupId : CallbackGroupId
  nextTaskId : TaskId
  nextJobSequence : Nat
  running : Bool
  stopping : Bool
  degraded : Bool
  enqueues : List EnqueueCall
  workers : List Worker
  scheduler : SchedulerPhase
  adds : List AddCall
  stops : List StopPhase

def initial : System := ⟨∅,∅,1,1,1,false,false,false,[],[],.absent,[],[]⟩

inductive Event where
  | refused (status : Status)
  | created (group : CallbackGroupId)
  | added (task : TaskId)
  | started
  | enqueued (call : Nat) (status : Status)
  | pushed (group : CallbackGroupId) (job : Job)
  | popped (group : CallbackGroupId) (job : Job)
  | executed (job : Job)
  | missed (event : DeadlineEvent)
  | cancelled (task : TaskId)
  | stopped (call : Nat)

inductive Action where
  | createCallbackGroup (config : CallbackGroupConfig) (scheduling : Status)
  | addTask (config : TaskConfig) (callback : Bool) (now : Int)
  | addCheck (call : Nat) (now : Int)
  | addReturn (call : Nat)
  | start (scheduling : Status) (now : Int)
  | notify (task : TaskId) (now : Int)
  | enqueueSequence (call : Nat)
  | enqueueReserve (call : Nat) (enqueuedAt : Int)
  | enqueuePush (call : Nat)
  | cancel (task : TaskId)
  | workerPop (worker : Nat)
  | workerDispatch (worker : Nat) (dispatchTime : Int)
  | workerFinish (worker : Nat) (start finish : Int) (callbackFailed : Bool)
  | workerReport (worker : Nat) (threw : Bool)
  | workerExit (worker : Nat)
  | schedulerPass (order : Table.Order TaskId TaskState) (checked now : Int)
  | schedulerRelease
  | schedulerExit
  | acknowledgeDegraded
  | stop (order : Table.Order CallbackGroupId CallbackGroup)
  | stopMark (call : Nat)
  | stopJoin (call : Nat)

def System.setTask (s : System) (id : TaskId) (task : TaskState) : System :=
  { s with tasks := s.tasks.modify id fun _ => task }

def System.setGroup (s : System) (id : CallbackGroupId) (group : CallbackGroup) : System :=
  { s with groups := s.groups.modify id fun _ => group }

def System.setEnqueue (s : System) (index : Nat) (call : EnqueueCall) (phase : EnqueuePhase) : System :=
  { s with enqueues := s.enqueues.set index { call with phase := phase } }

def System.setWorker (s : System) (index : Nat) (worker : Worker) (phase : WorkerPhase) : System :=
  { s with workers := s.workers.set index { worker with phase := phase } }

def System.priority (s : System) (id : TaskId) : Int :=
  match s.tasks.lookup id with
  | some task => task.config.priority
  | none => 0

def System.createCallbackGroup (s : System) (config : CallbackGroupConfig) (scheduling : Status) :
    System × List Event :=
  if config.name.isEmpty || config.workerCount = 0 || config.queueCapacity = 0 then
    (s,[.refused ⟨.invalidArgument,"callback group requires a name, workers, and capacity"⟩])
  else if !scheduling.ok then (s,[.refused scheduling])
  else if s.running || s.stopping then
    (s,[.refused ⟨.alreadyExists,"callback groups must be created before Start"⟩])
  else
    ({ s with
      groups := s.groups.insert s.nextGroupId { config := config }
      nextGroupId := s.nextGroupId + 1 },[.created s.nextGroupId])

def validTask (config : TaskConfig) (callback : Bool) : Bool :=
  !(config.name.isEmpty || !callback || config.queueCapacity = 0 || config.deadline < 0 ||
    (config.kind == .periodic && config.period ≤ 0))

def System.addTask (s : System) (config : TaskConfig) (callback : Bool) (now : Int) :
    System × List Event :=
  if !validTask config callback then (s,[.refused ⟨.invalidArgument,"invalid task configuration"⟩])
  else if s.stopping then (s,[.refused ⟨.closed,"executor is stopping"⟩])
  else if (s.groups.lookup config.callbackGroup).isNone then
    (s,[.refused ⟨.notFound,"callback group does not exist"⟩])
  else
    let nextRelease := if s.running && config.kind == .periodic then after now config.period else 0
    let added := { s with
      tasks := s.tasks.insert s.nextTaskId
        { id := s.nextTaskId, config := config, nextRelease := nextRelease }
      nextTaskId := s.nextTaskId + 1 }
    if config.kind = .async then ({ added with adds := s.adds ++ [⟨s.nextTaskId,.checking⟩] },[])
    else (added,[.added s.nextTaskId])

/-- Begin an `Enqueue` call. -/
def System.request (s : System) (task : TaskId) (releaseTime : Int) : System :=
  { s with enqueues := s.enqueues ++ [{ task := task, releaseTime := releaseTime }] }

def System.addCheck (s : System) (index : Nat) (now : Int) : Option (System × List Event) :=
  match s.adds[index]? with
  | some ⟨task,.checking⟩ =>
    if s.running then
      some ({ s.request task now with
        adds := s.adds.set index ⟨task,.enqueuing s.enqueues.length⟩ },[])
    else some ({ s with adds := s.adds.set index ⟨task,.returned (.ok task)⟩ },[.added task])
  | _ => none

def System.addReturn (s : System) (index : Nat) : Option (System × List Event) :=
  match s.adds[index]? with
  | some ⟨task,.enqueuing call⟩ =>
    match s.enqueues[call]? with
    | some ⟨_,_,.returned status⟩ =>
      if status.ok then
        some ({ s with adds := s.adds.set index ⟨task,.returned (.ok task)⟩ },[.added task])
      else
        some ({ s with adds := s.adds.set index ⟨task,.returned (.error status)⟩ },[.refused status])
    | _ => none
  | _ => none

/-- Threads are spawned with the flag; a thread that has not run yet is one that takes no step. -/
def System.start (s : System) (scheduling : Status) (now : Int) : System × List Event :=
  if !scheduling.ok then (s,[.refused scheduling])
  else if s.running then (s,[.refused ⟨.alreadyExists,"executor is already running"⟩])
  else if s.stopping then (s,[.refused ⟨.closed,"executor cannot be restarted"⟩])
  else if s.groups.entries.isEmpty then
    (s,[.refused ⟨.invalidArgument,"executor requires at least one callback group"⟩])
  else
    ({ s with
      running := true
      tasks := s.tasks.mapValues fun _ task => task.arm now
      workers := s.workers ++ s.groups.entries.flatMap fun entry =>
        List.replicate entry.2.config.workerCount { group := entry.1 }
      scheduler := .waiting },[.started])

def System.notify (s : System) (id : TaskId) (now : Int) : System × List Event :=
  match s.tasks.lookup id with
  | none => (s,[.refused ⟨.notFound,"task does not exist"⟩])
  | some task =>
    if task.config.kind = .periodic then
      (s,[.refused ⟨.invalidArgument,"periodic tasks cannot be manually notified"⟩])
    else (s.request id now,[])

/-- An `Enqueue` call comes back with this status. -/
def System.answer (s : System) (index : Nat) (call : EnqueueCall) (status : Status) :
    System × List Event :=
  (s.setEnqueue index call (.returned status),[.enqueued index status])

def System.enqueueSequence (s : System) (index : Nat) : Option (System × List Event) :=
  match s.enqueues[index]? with
  | none => none
  | some call =>
    match call.phase, s.tasks.lookup call.task with
    | .requested, some task =>
      if !s.running || s.stopping then
        some (s.answer index call ⟨.closed,"executor is not accepting work"⟩)
      else if (s.groups.lookup task.config.callbackGroup).isNone then
        some (s.answer index call ⟨.notFound,"callback group no longer exists"⟩)
      else
        some ({ s.setEnqueue index call (.sequenced task.config.callbackGroup s.nextJobSequence) with
          nextJobSequence := s.nextJobSequence + 1 },[])
    | _, _ => none

def System.enqueueReserve (s : System) (index : Nat) (enqueuedAt : Int) : Option (System × List Event) :=
  match s.enqueues[index]? with
  | none => none
  | some call =>
    match call.phase, s.tasks.lookup call.task with
    | .sequenced group sequence, some task =>
      match task.reserve with
      | (counted,some status) => some ((s.setTask call.task counted).answer index call status)
      | (counted,none) =>
        some ((s.setTask call.task counted).setEnqueue index call (.reserved group sequence enqueuedAt),[])
    | _, _ => none

def System.enqueuePush (s : System) (index : Nat) : Option (System × List Event) :=
  match s.enqueues[index]? with
  | none => none
  | some call =>
    match call.phase, s.tasks.lookup call.task with
    | .reserved groupId sequence enqueuedAt, some task =>
      match s.groups.lookup groupId with
      | none => none
      | some group =>
        if group.stopping then
          some ((s.setTask call.task task.withdraw).answer index call
            ⟨.closed,"callback group is stopping"⟩)
        else if group.queue.length ≥ group.config.queueCapacity then
          some ((s.setTask call.task task.overflow).answer index call
            ⟨.queueFull,"callback group queue is full"⟩)
        else
          let job : Job := ⟨call.task,call.releaseTime,enqueuedAt,sequence⟩
          let (pushed,seen) := (s.setGroup groupId { group with queue := group.queue ++ [job] }).answer
            index call .success
          some (pushed,.pushed groupId job :: seen)
    | _, _ => none

def System.cancel (s : System) (id : TaskId) : System × List Event :=
  match s.tasks.lookup id with
  | none => (s,[.refused ⟨.notFound,"task does not exist"⟩])
  | some task => (s.setTask id { task with cancelled := true },[.cancelled id])

def System.workerPop (s : System) (index : Nat) : Option (System × List Event) :=
  match s.workers[index]? with
  | none => none
  | some worker =>
    match worker.phase, s.groups.lookup worker.group with
    | .idle, some group =>
      match top s.priority group.queue with
      | none => none
      | some job =>
        some ((s.setGroup worker.group { group with queue := group.queue.erase job }).setWorker index
          worker (.popped job group.stopping),[.popped worker.group job])
    | _, _ => none

def System.workerDispatch (s : System) (index : Nat) (dispatchTime : Int) :
    Option (System × List Event) :=
  match s.workers[index]? with
  | none => none
  | some worker =>
    match worker.phase with
    | .popped job groupStopping =>
      match s.tasks.lookup job.task with
      | none => none
      | some task =>
        match task.dispatch job groupStopping dispatchTime with
        | (taken,.discarded) => some ((s.setTask job.task taken).setWorker index worker .idle,[])
        | (taken,.dropped event) =>
          some ((s.setTask job.task taken).setWorker index worker (.reporting event),[.missed event])
        | (taken,.execute) =>
          some ((s.setTask job.task taken).setWorker index worker (.executing job),[.executed job])
    | _ => none

def System.workerFinish (s : System) (index : Nat) (start finish : Int) (callbackFailed : Bool) :
    Option (System × List Event) :=
  match s.workers[index]? with
  | none => none
  | some worker =>
    match worker.phase with
    | .executing job =>
      match s.tasks.lookup job.task with
      | none => none
      | some task =>
        match task.finish job start finish callbackFailed with
        | (accounted,some event,degraded) =>
          some ({ (s.setTask job.task accounted).setWorker index worker (.reporting event) with
            degraded := s.degraded || degraded },[.missed event])
        | (accounted,none,_) =>
          some ((s.setTask job.task accounted).setWorker index worker .idle,[])
    | _ => none

def System.workerReport (s : System) (index : Nat) (threw : Bool) : Option (System × List Event) :=
  match s.workers[index]? with
  | none => none
  | some worker =>
    match worker.phase with
    | .reporting event =>
      match s.tasks.lookup event.taskId with
      | none => none
      | some task =>
        some ((s.setTask event.taskId (task.report threw)).setWorker index worker .idle,[])
    | _ => none

def System.workerExit (s : System) (index : Nat) : Option (System × List Event) :=
  match s.workers[index]? with
  | none => none
  | some worker =>
    match worker.phase, s.groups.lookup worker.group with
    | .idle, some group =>
      if group.stopping && group.queue.isEmpty then some (s.setWorker index worker .exited,[]) else none
    | _, _ => none

/-- A task the scheduler would release at this time. -/
def TaskState.due (task : TaskState) (now : Int) : Bool :=
  !task.cancelled && task.config.kind == .periodic && task.nextRelease ≤ now &&
    task.nextRelease != 2^63 - 1

/-- One pass of `SchedulerLoop`. Before the earliest release it only waits. -/
def System.schedulerPass (s : System) (order : Table.Order TaskId TaskState) (checked now : Int) :
    Option (System × List Event) :=
  match s.scheduler with
  | .waiting =>
    if s.stopping then none
    else if s.tasks.entries.any fun entry => entry.2.due checked then
      let due := (order.arrange s.tasks.entries).flatMap fun entry =>
        (entry.2.release now).2.map fun releaseTime => (entry.1,releaseTime)
      some ({ s with
        tasks := s.tasks.mapValues fun _ task => (task.release now).1
        scheduler := .releasing due none },[])
    else some (s,[])
  | _ => none

/-- The `Enqueue` call the scheduler is in, if any, has come back. -/
def System.settled (s : System) : Option Nat → Bool
  | none => true
  | some call =>
    match s.enqueues[call]? with
    | some ⟨_,_,.returned _⟩ => true
    | _ => false

/-- The scheduler waits for its `Enqueue` call and takes the next release. -/
def System.schedulerRelease (s : System) : Option (System × List Event) :=
  match s.scheduler with
  | .releasing due pending =>
    if s.settled pending then
      match due with
      | [] => some ({ s with scheduler := .waiting },[])
      | (task,releaseTime) :: rest =>
        some ({ s.request task releaseTime with
          scheduler := .releasing rest (some s.enqueues.length) },[])
    else none
  | _ => none

def System.stop (s : System) (order : Table.Order CallbackGroupId CallbackGroup) : System × List Event :=
  if !s.running && !s.stopping then (s,[])
  else
    ({ s with
      running := false
      stopping := true
      stops := s.stops ++ [.marking ((order.arrange s.groups.entries).map Sigma.fst)] },[])

def System.stopMark (s : System) (index : Nat) : Option (System × List Event) :=
  match s.stops[index]? with
  | some (.marking (id :: rest)) =>
    match s.groups.lookup id with
    | none => none
    | some group =>
      some ({ s.setGroup id { group with stopping := true } with
        stops := s.stops.set index (.marking rest) },[])
  | some (.marking []) => some ({ s with stops := s.stops.set index .joining },[])
  | _ => none

/-- Every thread has left its loop. -/
def System.joinable (s : System) : Bool :=
  (s.scheduler == .exited || s.scheduler == .absent) && s.workers.all (·.phase == .exited)

def System.stopJoin (s : System) (index : Nat) : Option (System × List Event) :=
  match s.stops[index]? with
  | some .joining =>
    if s.joinable then some ({ s with stops := s.stops.set index .returned },[.stopped index]) else none
  | _ => none

def step (s : System) : Action → Option (System × List Event)
  | .createCallbackGroup config scheduling => some (s.createCallbackGroup config scheduling)
  | .addTask config callback now => some (s.addTask config callback now)
  | .addCheck index now => s.addCheck index now
  | .addReturn index => s.addReturn index
  | .start scheduling now => some (s.start scheduling now)
  | .notify id now => some (s.notify id now)
  | .enqueueSequence index => s.enqueueSequence index
  | .enqueueReserve index enqueuedAt => s.enqueueReserve index enqueuedAt
  | .enqueuePush index => s.enqueuePush index
  | .cancel id => some (s.cancel id)
  | .workerPop index => s.workerPop index
  | .workerDispatch index dispatchTime => s.workerDispatch index dispatchTime
  | .workerFinish index start finish callbackFailed => s.workerFinish index start finish callbackFailed
  | .workerReport index threw => s.workerReport index threw
  | .workerExit index => s.workerExit index
  | .schedulerPass order checked now => s.schedulerPass order checked now
  | .schedulerRelease => s.schedulerRelease
  | .schedulerExit =>
    if s.scheduler = .waiting ∧ s.stopping then some ({ s with scheduler := .exited },[]) else none
  | .acknowledgeDegraded => some ({ s with degraded := false },[])
  | .stop order => some (s.stop order)
  | .stopMark index => s.stopMark index
  | .stopJoin index => s.stopJoin index

def system : Machine System Action Event := ⟨step⟩

end AutoRuntime.Executor
