import AutoRuntime.ExecutorConservation

/-! What the workers account for. Every job that is dropped and every job that has run leaves one
sample, and the deadline counters of a task are the sums of what its samples say. -/
namespace AutoRuntime.Executor

open List Pool Table
open Chrono

/-- The part of the statistics that the workers keep. -/
def TaskStats.books (stats : TaskStats) : TaskStats :=
  { stats with releases := 0, queueOverflows := 0, periodicReleasesSkipped := 0, deadlineHandlerFailures := 0 }

/-- What `WorkerLoop` notes about a job that it drops. -/
def TaskState.droppedSample (task : TaskState) (job : Job) (dispatchTime : Int) : TaskSample :=
  { taskId := task.id, releaseSequence := job.sequence, scheduledReleaseTime := job.releaseTime,
    actualStartTime := dispatchTime, finishTime := dispatchTime,
    releaseJitter := nonNegativeDuration dispatchTime job.releaseTime,
    responseTime := nonNegativeDuration dispatchTime job.releaseTime,
    queueDelay := nonNegativeDuration dispatchTime job.enqueuedAt,
    deadlineMiss := true, dropped := true, deadlineAction := .dropped }

/-- What is done about a job that ran beyond its deadline. -/
def DeadlinePolicy.lateAction : DeadlinePolicy → DeadlineAction
  | .warn | .drop => .warned
  | .degrade => .degraded

/-- What `WorkerLoop` notes about a job that has run. -/
def TaskState.finishedSample (task : TaskState) (job : Job) (start finish : Int) : TaskSample :=
  { taskId := task.id, releaseSequence := job.sequence, scheduledReleaseTime := job.releaseTime,
    actualStartTime := start, finishTime := finish,
    executionTime := nonNegativeDuration finish start,
    releaseJitter := nonNegativeDuration start job.releaseTime,
    responseTime := nonNegativeDuration finish job.releaseTime,
    queueDelay := nonNegativeDuration start job.enqueuedAt,
    deadlineMiss := task.missed job.releaseTime finish
    deadlineAction := if task.missed job.releaseTime finish then task.config.deadlinePolicy.lateAction else .none }

@[simp] theorem taken_stats (task : TaskState) : task.taken.stats = task.stats := by
  simp only [TaskState.taken]
  split <;> rfl

@[simp] theorem taken_config (task : TaskState) : task.taken.config = task.config := by
  simp only [TaskState.taken]
  split <;> rfl

@[simp] theorem taken_id (task : TaskState) : task.taken.id = task.id := by
  simp only [TaskState.taken]
  split <;> rfl

theorem dispatch_config (decided : TaskState.dispatch task job groupStopping dispatchTime = (changed,verdict)) :
    changed.config = task.config := by
  obtain rfl : (task.dispatch job groupStopping dispatchTime).1 = changed := congrArg Prod.fst decided
  simp only [TaskState.dispatch]
  split
  · exact taken_config task
  · split <;> exact taken_config task

theorem dispatch_discarded (decided : TaskState.dispatch task job groupStopping dispatchTime = (changed,.discarded)) :
    changed.stats = task.stats := by
  simp only [TaskState.dispatch] at decided
  split at decided
  · cases decided
    exact taken_stats task
  · split at decided <;> simp at decided

theorem dispatch_dropped (decided : TaskState.dispatch task job groupStopping dispatchTime = (changed,.dropped event)) :
    task.config.deadlinePolicy = .drop ∧ event.sample = task.droppedSample job dispatchTime ∧
      changed.stats = appendSample { task.stats with
        deadlineMisses := task.stats.deadlineMisses + 1
        deadlineDrops := task.stats.deadlineDrops + 1 } (task.droppedSample job dispatchTime) := by
  simp only [TaskState.dispatch] at decided
  split at decided
  · simp at decided
  · split at decided
    next late =>
      simp only [taken_config,Bool.and_eq_true,beq_iff_eq] at late
      cases decided
      exact ⟨late.2,by simp [TaskState.droppedSample],by simp [TaskState.droppedSample]⟩
    · simp at decided

theorem dispatch_executed (decided : TaskState.dispatch task job groupStopping dispatchTime = (changed,.execute)) :
    changed.stats = { task.stats with started := task.stats.started + 1 } := by
  simp only [TaskState.dispatch] at decided
  split at decided
  · simp at decided
  · split at decided
    · simp at decided
    · cases decided
      simp

theorem finish_config (task : TaskState) (job : Job) (start finish : Int) (callbackFailed : Bool) :
    (task.finish job start finish callbackFailed).1.config = task.config := by
  simp only [TaskState.finish]
  split
  · cases task.config.deadlinePolicy <;> rfl
  · rfl

/-- What the accounting section does to the counters. -/
structure Settles (task : TaskState) (late failed : Bool) (sample : TaskSample) (changed : TaskStats) : Prop where
  started : changed.started = task.stats.started
  finished : changed.finished = task.stats.finished + 1
  failures : changed.callbackFailures = task.stats.callbackFailures + failed.toNat
  drops : changed.deadlineDrops = task.stats.deadlineDrops
  misses : changed.deadlineMisses = task.stats.deadlineMisses + late.toNat
  answered : changed.deadlineWarnings + changed.deadlineDegrades =
    task.stats.deadlineWarnings + task.stats.deadlineDegrades + late.toNat
  samples : changed.samples = (appendSample task.stats sample).samples

theorem finish_settles (task : TaskState) (job : Job) (start finish : Int) (callbackFailed : Bool) :
    Settles task (task.missed job.releaseTime finish) callbackFailed (task.finishedSample job start finish)
      (task.finish job start finish callbackFailed).1.stats := by
  have failures : (if callbackFailed = true then 1 else 0) = callbackFailed.toNat := by cases callbackFailed <;> rfl
  simp only [TaskState.finish,TaskState.finishedSample,failures]
  split
  next late =>
    cases task.config.deadlinePolicy <;> constructor
    all_goals simp [appendSample,late,DeadlinePolicy.lateAction]
    all_goals omega
  next timely =>
    constructor <;> simp [appendSample,timely]

def Worker.running (worker : Worker) : Option Job :=
  match worker.phase with
  | .executing job => some job
  | .idle | .popped _ _ | .reporting _ | .exited => none

/-- The jobs whose callbacks are running. -/
def System.executing (s : System) : List Job := s.workers.filterMap Worker.running

/-- The numbers of the jobs that workers hold and have not decided about. -/
def System.undecided (s : System) : List Nat := s.holdings.map (·.1.sequence)

/-- The jobs whose callbacks were called. -/
def executions (history : List Event) : List Job :=
  history.filterMap fun
    | .executed job => some job
    | _ => none

@[simp] theorem executions_append (history seen : List Event) :
    executions (history ++ seen) = executions history ++ executions seen :=
  filterMap_append

theorem mem_executions : job ∈ executions history ↔ Event.executed job ∈ history := by
  rw [executions,mem_filterMap]
  constructor
  · rintro ⟨event,member,same⟩
    cases event <;> simp at same
    rwa [same] at member
  · intro member
    exact ⟨_,member,rfl⟩

/-- The sample that an action adds to the statistics of a task. -/
def System.observation (s : System) : Action → Option (TaskId × TaskSample)
  | .workerDispatch index dispatchTime =>
    match s.workers[index]? with
    | some ⟨_,.popped job groupStopping⟩ =>
      match s.tasks.lookup job.task with
      | some task =>
        match (task.dispatch job groupStopping dispatchTime).2 with
        | .dropped _ => some (job.task,task.droppedSample job dispatchTime)
        | .discarded | .execute => none
      | none => none
    | _ => none
  | .workerFinish index start finish _ =>
    match s.workers[index]? with
    | some ⟨_,.executing job⟩ =>
      (s.tasks.lookup job.task).map fun task => (job.task,task.finishedSample job start finish)
    | _ => none
  | _ => none

structure BooksKept (before after : Table TaskId TaskState) : Prop where
  kept : before.lookup key = some task → ∃ changed, after.lookup key = some changed ∧
    changed.config = task.config ∧ changed.stats.books = task.stats.books
  fresh : before.lookup key = none → after.lookup key = some added → added.stats = {}

theorem BooksKept.refl (tasks : Table TaskId TaskState) : BooksKept tasks tasks :=
  ⟨fun found => ⟨_,found,rfl,rfl⟩,fun absent found => by simp [absent] at found⟩

theorem BooksKept.modify {tasks : Table TaskId TaskState} (found : tasks.lookup key = some task)
    (config : changed.config = task.config) (books : changed.stats.books = task.stats.books) :
    BooksKept tasks (tasks.modify key fun _ => changed) := by
  refine ⟨modify_related found (r := fun old new : TaskState =>
    new.config = old.config ∧ new.stats.books = old.stats.books) ⟨config,books⟩ fun _ => ⟨rfl,rfl⟩,
    fun absent present => ?_⟩
  rw [lookup_modify_eq_none.mpr absent] at present
  contradiction

theorem BooksKept.mapValues (tasks : Table TaskId TaskState) (change : TaskState → TaskState)
    (same : ∀ task, (change task).config = task.config ∧ (change task).stats.books = task.stats.books) :
    BooksKept tasks (tasks.mapValues fun _ task => change task) := by
  constructor
  · intro key task found
    exact ⟨change task,by simp [found],same task⟩
  · intro key added absent present
    simp [absent] at present

theorem BooksKept.insert {tasks : Table TaskId TaskState} (absent : tasks.lookup key = none) (blank : task.stats = {}) :
    BooksKept tasks (tasks.insert key task) := by
  constructor
  · intro other old present
    exact ⟨old,lookup_insert_old absent present,rfl,rfl⟩
  · intro other new unknown present
    rcases insert_cases present with ⟨-,rfl⟩ | ⟨-,old⟩
    · exact blank
    · rw [unknown] at old
      contradiction

theorem reserve_books (task : TaskState) :
    task.reserve.1.config = task.config ∧ task.reserve.1.stats.books = task.stats.books := by
  simp only [TaskState.reserve]
  split
  · exact ⟨rfl,rfl⟩
  · split <;> exact ⟨rfl,rfl⟩

theorem release_books (task : TaskState) (now : Int) :
    (task.release now).1.config = task.config ∧ (task.release now).1.stats.books = task.stats.books := by
  simp only [TaskState.release]
  split
  · exact ⟨rfl,rfl⟩
  · split <;> exact ⟨rfl,rfl⟩

theorem arm_books (task : TaskState) (now : Int) :
    (task.arm now).config = task.config ∧ (task.arm now).stats.books = task.stats.books := by
  simp only [TaskState.arm]
  split <;> exact ⟨rfl,rfl⟩

/-- What a step does to the books and to the jobs that the workers are at. -/
inductive Accounting (s t : System) (seen : List Event) : Option (TaskId × TaskSample) → Prop where
  | still (tasks : BooksKept s.tasks t.tasks) (executing : t.executing = s.executing)
      (undecided : t.undecided = s.undecided) (idle : executions seen = []) (unpopped : removed seen = []) :
    Accounting s t seen none
  | popped {group : CallbackGroupId} {job : Job} (tasks : t.tasks = s.tasks) (executing : t.executing = s.executing)
      (undecided : t.undecided.Perm (job.sequence :: s.undecided)) (idle : executions seen = [])
      (one : removed seen = [(group,job)]) : Accounting s t seen none
  | discarded {job : Job} (tasks : BooksKept s.tasks t.tasks) (executing : t.executing = s.executing)
      (undecided : s.undecided.Perm (job.sequence :: t.undecided)) (idle : executions seen = [])
      (unpopped : removed seen = []) : Accounting s t seen none
  | dropped {job : Job} {task changed : TaskState} {dispatchTime : Int}
      (found : s.tasks.lookup job.task = some task)
      (tasks : ∀ key, t.tasks.lookup key = if key = job.task then some changed else s.tasks.lookup key)
      (config : changed.config = task.config) (policy : task.config.deadlinePolicy = .drop)
      (stats : changed.stats = appendSample { task.stats with
        deadlineMisses := task.stats.deadlineMisses + 1
        deadlineDrops := task.stats.deadlineDrops + 1 } (task.droppedSample job dispatchTime))
      (executing : t.executing = s.executing) (undecided : s.undecided.Perm (job.sequence :: t.undecided))
      (idle : executions seen = []) (unpopped : removed seen = []) :
    Accounting s t seen (some (job.task,task.droppedSample job dispatchTime))
  | executed {job : Job} {task changed : TaskState} (found : s.tasks.lookup job.task = some task)
      (tasks : ∀ key, t.tasks.lookup key = if key = job.task then some changed else s.tasks.lookup key)
      (config : changed.config = task.config)
      (stats : changed.stats = { task.stats with started := task.stats.started + 1 })
      (executing : t.executing.Perm (job :: s.executing))
      (undecided : s.undecided.Perm (job.sequence :: t.undecided)) (called : executions seen = [job])
      (unpopped : removed seen = []) : Accounting s t seen none
  | finished {job : Job} {task changed : TaskState} {start finish : Int} {callbackFailed : Bool}
      (found : s.tasks.lookup job.task = some task)
      (tasks : ∀ key, t.tasks.lookup key = if key = job.task then some changed else s.tasks.lookup key)
      (config : changed.config = task.config)
      (settles : Settles task (task.missed job.releaseTime finish) callbackFailed
        (task.finishedSample job start finish) changed.stats)
      (executing : s.executing.Perm (job :: t.executing)) (undecided : t.undecided = s.undecided)
      (idle : executions seen = []) (unpopped : removed seen = []) :
    Accounting s t seen (some (job.task,task.finishedSample job start finish))

theorem setWorker_executing (active : s.workers[index]? = some worker) (phase : WorkerPhase) :
    (worker.running.toList ++ (System.setWorker s index worker phase).executing).Perm
      ({ worker with phase := phase : Worker }.running.toList ++ s.executing) :=
  filterMap_set_perm Worker.running s.workers active _

theorem Accounting.aside {s t : System} (tasks : BooksKept s.tasks t.tasks) (workers : t.workers = s.workers)
    (idle : executions seen = []) (unpopped : removed seen = []) : Accounting s t seen none :=
  .still tasks (by simp only [System.executing,workers]) (by simp only [System.undecided,System.holdings,workers])
    idle unpopped

theorem Accounting.passes {s t : System} {worker : Worker} {phase : WorkerPhase} {index : Nat}
    (tasks : BooksKept s.tasks t.tasks) (active : s.workers[index]? = some worker)
    (workers : t.workers = s.workers.set index { worker with phase := phase })
    (free : worker.running = none ∧ worker.holding = none)
    (still : { worker with phase := phase : Worker }.running = none ∧
      { worker with phase := phase : Worker }.holding = none)
    (idle : executions seen = []) (unpopped : removed seen = []) : Accounting s t seen none := by
  refine .still tasks ?_ ?_ idle unpopped
  · rw [System.executing,workers]
    exact filterMap_set_same Worker.running s.workers active (still.1.trans free.1.symm)
  · rw [System.undecided,System.holdings,workers,
      filterMap_set_same Worker.holding s.workers active (still.2.trans free.2.symm)]
    rfl

theorem Dispatching.accounting {s : System} (part : Dispatching s index dispatchTime t seen) :
    Accounting s t seen (s.observation (.workerDispatch index dispatchTime)) := by
  have frees {worker : Worker} {job : Job} {flag : Bool} {next : WorkerPhase} (active : s.workers[index]? = some worker)
      (popped : worker.phase = .popped job flag) (free : { worker with phase := next : Worker }.holding = none) :
      s.undecided.Perm (job.sequence :: (s.setWorker index worker next).undecided) := by
    have held := (setWorker_holdings active next).map (·.1.sequence)
    have holding : worker.holding = some (job,flag) := by simp [Worker.holding,popped]
    rw [holding,free] at held
    exact held.symm
  have observed {worker : Worker} {job : Job} {flag : Bool} {task : TaskState}
      (active : s.workers[index]? = some worker)
      (popped : worker.phase = .popped job flag) (found : s.tasks.lookup job.task = some task) :
      s.observation (.workerDispatch index dispatchTime) =
        match (task.dispatch job flag dispatchTime).2 with
        | .dropped _ => some (job.task,task.droppedSample job dispatchTime)
        | .discarded | .execute => none := by
    obtain ⟨group,phase⟩ := worker
    obtain rfl : phase = .popped job flag := popped
    simp only [System.observation,active,found]
  have quiet {worker : Worker} {job : Job} {flag : Bool} (popped : worker.phase = .popped job flag) :
      worker.running = none := by simp [Worker.running,popped]
  cases part with
  | discarded active popped found decided =>
    rw [observed active popped found,decided]
    refine .discarded (.modify found (dispatch_config decided) ?_) ?_ (frees active popped rfl) rfl rfl
    · rw [dispatch_discarded decided]
    · exact filterMap_set_same Worker.running s.workers active (quiet popped).symm
  | dropped active popped found decided =>
    obtain ⟨policy,-,stats⟩ := dispatch_dropped decided
    rw [observed active popped found,decided]
    refine .dropped found (lookup_setTask found _) (dispatch_config decided) policy stats ?_
      (frees active popped rfl) rfl rfl
    exact filterMap_set_same Worker.running s.workers active (quiet popped).symm
  | @executed flag worker task taken job active popped found decided =>
    have running := setWorker_executing active (.executing job)
    rw [quiet popped] at running
    rw [observed active popped found,decided]
    exact .executed found (lookup_setTask found _) (dispatch_config decided) (dispatch_executed decided) running
      (frees active popped rfl) rfl rfl

theorem Finishing.accounting {s : System} (part : Finishing s index start finish callbackFailed t seen) :
    Accounting s t seen (s.observation (.workerFinish index start finish callbackFailed)) := by
  have accounted {worker : Worker} {job : Job} {task changed : TaskState} {next : WorkerPhase} {degraded : Bool}
      (active : s.workers[index]? = some worker) (executing : worker.phase = .executing job)
      (found : s.tasks.lookup job.task = some task)
      (made : (task.finish job start finish callbackFailed).1 = changed)
      (free : { worker with phase := next : Worker }.running = none)
      (empty : { worker with phase := next : Worker }.holding = none)
      (idle : executions seen = []) (unpopped : removed seen = []) :
      Accounting s { (s.setTask job.task changed).setWorker index worker next with degraded := degraded } seen
        (s.observation (.workerFinish index start finish callbackFailed)) := by
    have observed : s.observation (.workerFinish index start finish callbackFailed) =
        some (job.task,task.finishedSample job start finish) := by
      obtain ⟨group,phase⟩ := worker
      obtain rfl : phase = .executing job := executing
      simp only [System.observation,active,found,Option.map_some]
    have running := setWorker_executing active next
    have held : worker.running = some job := by simp [Worker.running,executing]
    have holding : worker.holding = none := by simp [Worker.holding,executing]
    rw [held,free] at running
    rw [observed]
    have settles := finish_settles task job start finish callbackFailed
    rw [made] at settles
    refine .finished found (lookup_setTask found _) ?_ settles running.symm ?_ idle unpopped
    · rw [← made,finish_config]
    · exact congrArg (map _) (filterMap_set_same Worker.holding s.workers active (empty.trans holding.symm))
  cases part with
  | missed active executing found decided | met active executing found decided =>
    exact accounted active executing found (congrArg Prod.fst decided) rfl rfl rfl rfl

theorem Reserving.accounting (part : Reserving s index enqueuedAt t seen) : Accounting s t seen none := by
  have counts {task counted : TaskState} {answer : Option Status} (made : task.reserve = (counted,answer)) :
      counted.config = task.config ∧ counted.stats.books = task.stats.books := by
    have books := reserve_books task
    rwa [made] at books
  cases part with
  | refused active sequenced found refused =>
    exact .aside (.modify found (counts refused).1 (counts refused).2) rfl rfl rfl
  | granted active sequenced found granted =>
    exact .aside (.modify found (counts granted).1 (counts granted).2) rfl rfl rfl

theorem started_accounting (s : System) (now : Int) : Accounting s { s with
    running := true
    tasks := s.tasks.mapValues fun _ task => task.arm now
    workers := s.workers ++ s.groups.entries.flatMap fun entry =>
      List.replicate entry.2.config.workerCount { group := entry.1 }
    scheduler := .waiting } [.started] none := by
  have idle {β : Type} (contribution : Worker → Option β) (none : ∀ group, contribution { group := group } = .none) :
      (s.groups.entries.flatMap fun entry => replicate entry.2.config.workerCount
        ({ group := entry.1 } : Worker)).filterMap contribution = [] := by
    rw [filterMap_eq_nil_iff]
    intro worker member
    obtain ⟨entry,-,spawned⟩ := mem_flatMap.mp member
    rw [eq_of_mem_replicate spawned]
    exact none entry.1
  refine .still (.mapValues _ _ fun task => arm_books task now) ?_ ?_ rfl rfl
  · rw [System.executing,filterMap_append,idle _ fun _ => rfl,append_nil]
    rfl
  · rw [System.undecided,System.holdings,filterMap_append,idle _ fun _ => rfl,append_nil]
    rfl

theorem step_accounting (conserved : Conserved s history) (stepped : step s action = some (t,seen)) :
    Accounting s t seen (s.observation action) := by
  have unknown : s.tasks.lookup s.nextTaskId = none :=
    Option.eq_none_iff_forall_ne_some.mpr fun _ found => Nat.lt_irrefl _ (conserved.taskIds found)
  cases step_stepped stepped with
  | added valid unstopped housed told =>
    rcases told with ⟨-,-,rfl⟩ | ⟨-,-,rfl⟩ <;> exact .aside (.insert unknown rfl) rfl rfl rfl
  | started => exact started_accounting s _
  | sequences part => cases part <;> exact .aside (.refl _) rfl rfl rfl
  | reserves part | dispatches part | finishes part => exact part.accounting
  | pushes part =>
    cases part with
    | withdrawn active reserved found | overflowed active reserved found =>
      exact .aside (.modify found rfl rfl) rfl rfl rfl
    | pushed => exact .aside (.refl _) rfl rfl rfl
  | cancelled found => exact .aside (.modify found rfl rfl) rfl rfl rfl
  | pops part =>
    cases part with
    | @popped worker group job active idle present chosen =>
      have held := (setWorker_holdings active (.popped job group.stopping)).map (·.1.sequence)
      have running : worker.running = none := by simp [Worker.running,idle]
      have holding : worker.holding = none := by simp [Worker.holding,idle]
      rw [holding] at held
      refine .popped rfl ?_ held rfl rfl
      exact filterMap_set_same Worker.running s.workers active running.symm
  | reports part =>
    cases part with
    | reported active reporting found =>
      exact .passes (.modify found rfl rfl) active rfl
        ⟨by simp [Worker.running,reporting],by simp [Worker.holding,reporting]⟩ ⟨rfl,rfl⟩ rfl rfl
  | exits part =>
    cases part with
    | exited active idle =>
      exact .passes (.refl _) active rfl ⟨by simp [Worker.running,idle],by simp [Worker.holding,idle]⟩ ⟨rfl,rfl⟩
        rfl rfl
  | released => exact .aside (.mapValues _ _ fun task => release_books task _) rfl rfl rfl
  | refused =>
    have unobserved : s.observation action = none := by cases action <;> first | contradiction | rfl
    exact unobserved ▸ .aside (.refl _) rfl rfl rfl
  | _ => exact .aside (.refl _) rfl rfl rfl

end AutoRuntime.Executor
