import AutoRuntime.ExecutorSections

/-! What a step of the executor does to the release times of its tasks. Only a pass of the scheduler
moves the next release of a periodic task, and only the scheduler hands release times of such a task
to `Enqueue`. -/
namespace AutoRuntime.Executor

open Pool Table
open Chrono

def SchedulerPhase.due : SchedulerPhase → List (TaskId × Int)
  | .releasing due _ => due
  | .absent | .waiting | .exited => []

/-- Every `Enqueue` call that was made, with the release time it was given. -/
def System.requests (s : System) : List (TaskId × Int) :=
  s.enqueues.map fun call => (call.task,call.releaseTime)

/-- The release times of a task that passes have handed to `Enqueue`: the calls that were made and
those the scheduler is about to make. -/
def System.handed (s : System) (key : TaskId) : List Int := Pool.share key (s.requests ++ s.scheduler.due)

/-- Nothing that the release times depend on has changed. -/
structure SameSchedule (before after : TaskState) : Prop where
  config : after.config = before.config
  nextRelease : after.nextRelease = before.nextRelease
  skipped : after.stats.periodicReleasesSkipped = before.stats.periodicReleasesSkipped
  cancelled : after.cancelled = false → before.cancelled = false

theorem SameSchedule.refl (task : TaskState) : SameSchedule task task := ⟨rfl,rfl,rfl,id⟩

theorem reserve_schedule (task : TaskState) : SameSchedule task task.reserve.1 := by
  simp only [TaskState.reserve]
  split
  · exact .refl task
  · split <;> exact ⟨rfl,rfl,rfl,id⟩

theorem dispatch_schedule (task : TaskState) (job : Job) (groupStopping : Bool) (dispatchTime : Int) :
    SameSchedule task (task.dispatch job groupStopping dispatchTime).1 := by
  have taken : SameSchedule task task.taken := by
    simp only [TaskState.taken]
    split
    · exact ⟨rfl,rfl,rfl,id⟩
    · exact .refl task
  simp only [TaskState.dispatch]
  split
  · exact taken
  · split <;> exact ⟨taken.config,taken.nextRelease,taken.skipped,taken.cancelled⟩

theorem finish_schedule (task : TaskState) (job : Job) (start finish : Int) (callbackFailed : Bool) :
    SameSchedule task (task.finish job start finish callbackFailed).1 := by
  unfold TaskState.finish
  dsimp only
  split
  · cases task.config.deadlinePolicy <;> exact ⟨rfl,rfl,rfl,id⟩
  · exact ⟨rfl,rfl,rfl,id⟩

structure SchedulesKept (before after : Table TaskId TaskState) : Prop where
  kept : before.lookup key = some task → ∃ changed, after.lookup key = some changed ∧ SameSchedule task changed
  unknown : before.lookup key = none → after.lookup key = none

theorem SchedulesKept.refl (tasks : Table TaskId TaskState) : SchedulesKept tasks tasks :=
  ⟨fun found => ⟨_,found,.refl _⟩,id⟩

theorem SchedulesKept.modify {tasks : Table TaskId TaskState} (found : tasks.lookup key = some task)
    (same : SameSchedule task changed) : SchedulesKept tasks (tasks.modify key fun _ => changed) :=
  ⟨modify_related found same .refl,lookup_modify_eq_none.mpr⟩

/-- The step leaves every release time alone. -/
structure Undisturbed (s t : System) : Prop where
  tasks : SchedulesKept s.tasks t.tasks
  handed : (∀ task, s.tasks.lookup key = some task → task.config.kind = .periodic) →
    t.handed key = s.handed key
  adds : add ∈ t.adds → ∃ old ∈ s.adds, old.task = add.task
  number : t.nextTaskId = s.nextTaskId
  idle : t.running = false → t.stopping = false →
    s.running = false ∧ s.stopping = false ∧ t.scheduler = s.scheduler
  absent : t.scheduler = .absent → s.scheduler = .absent

variable {s : System}

theorem Undisturbed.of_tasks {t : System} (tasks : SchedulesKept s.tasks t.tasks) (requests : t.requests = s.requests)
    (scheduler : t.scheduler = s.scheduler) (running : t.running = s.running) (stopping : t.stopping = s.stopping)
    (adds : ∀ add ∈ t.adds, ∃ old ∈ s.adds, old.task = add.task) (number : t.nextTaskId = s.nextTaskId) :
    Undisturbed s t where
  tasks := tasks
  handed _ := by rw [System.handed,System.handed,requests,scheduler]
  adds := adds _
  number := number
  idle off open_ := ⟨running ▸ off,stopping ▸ open_,scheduler⟩
  absent none := scheduler ▸ none

theorem Undisturbed.refl (s : System) : Undisturbed s s :=
  .of_tasks (.refl _) rfl rfl rfl rfl (fun add listed => ⟨add,listed,rfl⟩) rfl

theorem setEnqueue_requests (active : s.enqueues[index]? = some call) (phase : EnqueuePhase) :
    (s.setEnqueue index call phase).requests = s.requests :=
  map_set_same _ _ active rfl

theorem Undisturbed.request {adds : List AddCall} (found : s.tasks.lookup target = some task)
    (other : task.config.kind ≠ .periodic) (known : ∀ add ∈ adds, ∃ old ∈ s.adds, old.task = add.task) :
    Undisturbed s { s.request target releaseTime with adds := adds } where
  tasks := .refl _
  handed {key} periodic := by
    have apart : target ≠ key := by
      rintro rfl
      exact other (periodic task found)
    have nothing : share key [(target,releaseTime)] = [] := share_other apart [releaseTime]
    simp only [System.handed,System.requests,System.request,List.map_append,List.map_cons,List.map_nil,
      share_append,nothing,List.append_nil]
  adds := known _
  number := rfl
  idle off open_ := ⟨off,open_,rfl⟩
  absent none := none

/-- What holds between the steps, for every task. -/
structure Scheduled (s : System) : Prop where
  adds : add ∈ s.adds → ∃ task, s.tasks.lookup add.task = some task ∧ task.config.kind = .async
  ids : s.tasks.lookup key = some task → key < s.nextTaskId
  positive : s.tasks.lookup key = some task → task.config.kind = .periodic → 0 < task.config.period
  unknown : s.tasks.lookup key = none → s.handed key = []
  quiet : s.scheduler = .absent → s.tasks.lookup key = some task → task.config.kind = .periodic →
    s.handed key = [] ∧ task.stats.periodicReleasesSkipped = 0
  absent : s.running = false → s.stopping = false → s.scheduler = .absent

theorem initial_scheduled : Scheduled initial := by
  constructor <;> simp [initial,System.handed,System.requests,SchedulerPhase.due,share]

/-- What a step does to the release times: nothing, or it adds a task, starts the clock of all
tasks, or is a pass that gets as far as its release step. -/
inductive Ticked (s : System) : System → Action → List Event → Prop where
  | still (undisturbed : Undisturbed s t) : Ticked s t action seen
  | added {adds : List AddCall} {nextRelease : Int} (valid : config.kind = .periodic → 0 < config.period)
      (armed : s.running = true → config.kind = .periodic → nextRelease = after now config.period)
      (calls : ∀ add ∈ adds, add ∈ s.adds ∨ add.task = s.nextTaskId ∧ config.kind = .async)
      (told : seen = [] ∨ seen = [.added s.nextTaskId]) :
      Ticked s { s with
        tasks := s.tasks.insert s.nextTaskId { id := s.nextTaskId, config := config, nextRelease := nextRelease }
        nextTaskId := s.nextTaskId + 1
        adds := adds } (.addTask config callback now) seen
  | armed {workers : List Worker} (idle : s.running = false) (open_ : s.stopping = false) :
      Ticked s { s with
        running := true
        tasks := s.tasks.mapValues fun _ task => task.arm now
        workers := workers
        scheduler := .waiting } (.start scheduling now) [.started]
  | released (waiting : s.scheduler = .waiting) :
      Ticked s { s with
        tasks := s.tasks.mapValues fun _ task => (task.release now).1
        scheduler := .releasing ((order.arrange s.tasks.entries).flatMap fun entry =>
          (entry.2.release now).2.map fun releaseTime => (entry.1,releaseTime)) none }
        (.schedulerPass order checked now) []

theorem set_adds_known {phase : AddPhase} (active : s.adds[index]? = some call) :
    ∀ add ∈ s.adds.set index ⟨call.task,phase⟩, ∃ old ∈ s.adds, old.task = add.task := by
  intro add listed
  rcases List.mem_or_eq_of_mem_set listed with old | rfl
  · exact ⟨add,old,rfl⟩
  · exact ⟨call,List.mem_of_getElem? active,rfl⟩

theorem enqueue_undisturbed {groups : Table CallbackGroupId CallbackGroup} {sequence : Nat}
    (active : s.enqueues[index]? = some call) (kept : SchedulesKept s.tasks tasks) (phase : EnqueuePhase) :
    Undisturbed s { s.setEnqueue index call phase with
      tasks := tasks, groups := groups, nextJobSequence := sequence } :=
  .of_tasks kept (setEnqueue_requests active phase) rfl rfl rfl (fun add listed => ⟨add,listed,rfl⟩) rfl

theorem Sequencing.undisturbed (part : Sequencing s index t seen) : Undisturbed s t := by
  cases part with
  | closed active | homeless active | sequenced active => exact enqueue_undisturbed active (.refl _) _

theorem Reserving.undisturbed (part : Reserving s index enqueuedAt t seen) : Undisturbed s t := by
  cases part with
  | @refused group sequence call task counted status active sequenced found refused =>
    have same := reserve_schedule task
    rw [refused] at same
    exact enqueue_undisturbed active (.modify found same) _
  | @granted group sequence call task counted active sequenced found granted =>
    have same := reserve_schedule task
    rw [granted] at same
    exact enqueue_undisturbed active (.modify found same) _

theorem Pushing.undisturbed (part : Pushing s index t seen) : Undisturbed s t := by
  cases part with
  | @withdrawn place sequence enqueuedAt call task group active reserved found present stopping =>
    have same : SameSchedule task task.withdraw := ⟨rfl,rfl,rfl,fun alive => alive⟩
    exact enqueue_undisturbed active (.modify found same) _
  | @overflowed place sequence enqueuedAt call task group active reserved found present going full =>
    have same : SameSchedule task task.overflow := ⟨rfl,rfl,rfl,fun alive => alive⟩
    exact enqueue_undisturbed active (.modify found same) _
  | pushed active => exact enqueue_undisturbed active (.refl _) _

theorem worker_undisturbed {groups : Table CallbackGroupId CallbackGroup} {workers : List Worker} {degraded : Bool}
    (kept : SchedulesKept s.tasks tasks) :
    Undisturbed s { s with tasks := tasks, groups := groups, workers := workers, degraded := degraded } :=
  .of_tasks kept rfl rfl rfl rfl (fun add listed => ⟨add,listed,rfl⟩) rfl

theorem Dispatching.undisturbed (part : Dispatching s index dispatchTime t seen) : Undisturbed s t := by
  have kept {task taken : TaskState} {job : Job} {groupStopping : Bool} {verdict : Dispatch}
      (found : s.tasks.lookup job.task = some task)
      (decided : task.dispatch job groupStopping dispatchTime = (taken,verdict)) :
      SchedulesKept s.tasks (s.setTask job.task taken).tasks := by
    have same := dispatch_schedule task job groupStopping dispatchTime
    rw [decided] at same
    exact .modify found same
  cases part with
  | discarded active popped found decided | dropped active popped found decided
  | executed active popped found decided => exact worker_undisturbed (kept found decided)

theorem Finishing.undisturbed (part : Finishing s index start finish callbackFailed t seen) : Undisturbed s t := by
  have kept {task accounted : TaskState} {job : Job} {event : Option DeadlineEvent} {degraded : Bool}
      (found : s.tasks.lookup job.task = some task)
      (decided : task.finish job start finish callbackFailed = (accounted,event,degraded)) :
      SchedulesKept s.tasks (s.setTask job.task accounted).tasks := by
    have same := finish_schedule task job start finish callbackFailed
    rw [decided] at same
    exact .modify found same
  cases part with
  | missed active executing found decided | met active executing found decided =>
    exact worker_undisturbed (kept found decided)

theorem scheduler_undisturbed {enqueues : List EnqueueCall} {scheduler : SchedulerPhase} (scheduled : Scheduled s)
    (present : s.scheduler ≠ .absent) (remains : scheduler ≠ .absent)
    (same : ({ s with enqueues := enqueues, scheduler := scheduler } : System).requests ++ scheduler.due =
      s.requests ++ s.scheduler.due) : Undisturbed s { s with enqueues := enqueues, scheduler := scheduler } where
  tasks := .refl _
  handed {key} _ := congrArg (share key) same
  adds listed := ⟨_,listed,rfl⟩
  number := rfl
  idle off open_ := absurd (scheduled.absent off open_) present
  absent none := absurd none remains

theorem step_ticked (scheduled : Scheduled s) (stepped : step s action = some (t,seen)) : Ticked s t action seen := by
  have same (add : AddCall) (listed : add ∈ s.adds) : ∃ old ∈ s.adds, old.task = add.task := ⟨add,listed,rfl⟩
  cases step_stepped stepped with
  | refused | rested | waited => exact .still (.refl _)
  | @added config callback now adds _ valid unstopped housed told =>
    refine .added (fun periodic => ?_) (fun on periodic => by simp [on,periodic]) (fun add listed => ?_) ?_
    · simp [validTask,periodic] at valid
      omega
    · rcases told with ⟨async,rfl,-⟩ | ⟨-,rfl,-⟩
      · exact (List.mem_append.mp listed).imp_right fun new => ⟨congrArg AddCall.task (List.mem_singleton.mp new),async⟩
      · exact .inl listed
    · exact told.imp (·.2.2) (·.2.2)
  | checked active =>
    obtain ⟨found,present,async⟩ := scheduled.adds (List.mem_of_getElem? active)
    exact .still (.request present (by simp [async]) (set_adds_known active))
  | passed active | returned active | failed active =>
    exact .still (.of_tasks (.refl _) rfl rfl rfl rfl (set_adds_known active) rfl)
  | started idle unstopped => exact .armed idle unstopped
  | notified found other => exact .still (.request found other same)
  | sequences part | reserves part | pushes part | dispatches part | finishes part => exact .still part.undisturbed
  | cancelled found => exact .still (.of_tasks (.modify found ⟨rfl,rfl,rfl,nofun⟩) rfl rfl rfl rfl same rfl)
  | reports part =>
    cases part with
    | reported active reporting found => exact .still (worker_undisturbed (.modify found ⟨rfl,rfl,rfl,id⟩))
  | pops part | exits part => cases part; exact .still (worker_undisturbed (.refl _))
  | released waiting => exact .released waiting
  | drained releasing =>
    exact .still (scheduler_undisturbed scheduled (by simp [releasing]) (by simp)
      (by simp [releasing,SchedulerPhase.due,System.requests]))
  | issued releasing =>
    exact .still (scheduler_undisturbed scheduled (by simp [releasing]) (by simp)
      (by simp [releasing,SchedulerPhase.due,System.requests,System.request]))
  | left waiting =>
    exact .still (scheduler_undisturbed scheduled (by simp [waiting]) (by simp)
      (by simp [waiting,SchedulerPhase.due,System.requests]))
  | stopped => exact .still ⟨.refl _,fun _ => rfl,same _,rfl,nofun,fun none => none⟩
  | _ => exact .still (.of_tasks (.refl _) rfl rfl rfl rfl same rfl)

theorem added_checked (stepped : step s (.addTask config callback now) = some (t,seen))
    (grown : t.nextTaskId ≠ s.nextTaskId) :
    validTask config callback = true ∧ (s.groups.lookup config.callbackGroup).isSome = true ∧
    t.tasks = s.tasks.insert s.nextTaskId { id := s.nextTaskId, config := config, nextRelease :=
      if s.running && config.kind == .periodic then Chrono.after now config.period else 0 } := by
  cases step_stepped stepped with
  | refused => contradiction
  | added valid unstopped housed => exact ⟨valid,housed,rfl⟩

theorem SchedulesKept.origin (tasks : SchedulesKept before after_) (present : after_.lookup key = some changed) :
    ∃ task, before.lookup key = some task ∧ SameSchedule task changed := by
  cases found : before.lookup key with
  | none =>
    rw [tasks.unknown found] at present
    contradiction
  | some task =>
    obtain ⟨other,there,same⟩ := tasks.kept found
    cases there.symm.trans present
    exact ⟨task,rfl,same⟩

theorem Undisturbed.scheduled (undisturbed : Undisturbed s t) (scheduled : Scheduled s) : Scheduled t where
  adds listed := by
    obtain ⟨old,before,same⟩ := undisturbed.adds listed
    obtain ⟨task,found,async⟩ := scheduled.adds before
    obtain ⟨changed,present,kept⟩ := undisturbed.tasks.kept found
    exact ⟨changed,same ▸ present,kept.config ▸ async⟩
  ids present := by
    obtain ⟨task,found,-⟩ := undisturbed.tasks.origin present
    rw [undisturbed.number]
    exact scheduled.ids found
  positive present periodic := by
    obtain ⟨task,found,same⟩ := undisturbed.tasks.origin present
    rw [same.config] at periodic ⊢
    exact scheduled.positive found periodic
  unknown {key} absent := by
    have before : s.tasks.lookup key = none := by
      cases found : s.tasks.lookup key with
      | none => rfl
      | some =>
        obtain ⟨changed,present,-⟩ := undisturbed.tasks.kept found
        exact absurd (absent.symm.trans present) (by simp)
    rw [undisturbed.handed (by simp [before])]
    exact scheduled.unknown before
  quiet none present periodic := by
    obtain ⟨task,found,same⟩ := undisturbed.tasks.origin present
    rw [same.config] at periodic
    obtain ⟨empty,zero⟩ := scheduled.quiet (undisturbed.absent none) found periodic
    rw [same.skipped,undisturbed.handed (fun other there => Option.some.inj (found.symm.trans there) ▸ periodic)]
    exact ⟨empty,zero⟩
  absent off open_ := by
    obtain ⟨wasOff,wasOpen,same⟩ := undisturbed.idle off open_
    rw [same]
    exact scheduled.absent wasOff wasOpen

theorem released_handed (order : Table.Order TaskId TaskState) (now : Int) (tasks : Table TaskId TaskState)
    (waiting : s.scheduler = .waiting) (key : TaskId) :
    ({ s with
      tasks := tasks
      scheduler := .releasing ((order.arrange s.tasks.entries).flatMap fun entry =>
        (entry.2.release now).2.map fun releaseTime => (entry.1,releaseTime)) none } : System).handed key =
      s.handed key ++ ((s.tasks.lookup key).map fun task => (task.release now).2).getD [] := by
  simp only [System.handed,waiting,SchedulerPhase.due,List.append_nil,share_append]
  rw [share_arranged order s.tasks (fun task => (task.release now).2) key]
  rfl

theorem added_scheduled {adds : List AddCall} {task : TaskState} (scheduled : Scheduled s) (blank : task.stats = {})
    (valid : task.config.kind = .periodic → 0 < task.config.period)
    (calls : ∀ add ∈ adds, add ∈ s.adds ∨ add.task = s.nextTaskId ∧ task.config.kind = .async) :
    Scheduled { s with
      tasks := s.tasks.insert s.nextTaskId task, nextTaskId := s.nextTaskId + 1, adds := adds } := by
  have fresh : s.tasks.lookup s.nextTaskId = none := by
    cases found : s.tasks.lookup s.nextTaskId with
    | none => rfl
    | some => exact absurd (scheduled.ids found) (Nat.lt_irrefl _)
  refine ⟨fun {add} listed => ?_,fun present => ?_,fun present periodic => ?_,fun {key} absent => ?_,
    fun none present periodic => ?_,scheduled.absent⟩
  · rcases calls add listed with old | ⟨same,async⟩
    · obtain ⟨found,present,async⟩ := scheduled.adds old
      have apart : add.task ≠ s.nextTaskId := Nat.ne_of_lt (scheduled.ids present)
      exact ⟨found,by rw [AList.lookup_insert_ne apart]; exact present,async⟩
    · exact ⟨task,by rw [same,AList.lookup_insert],async⟩
  · rcases insert_cases present with ⟨rfl,-⟩ | ⟨-,old⟩
    · exact Nat.lt_succ_self _
    · exact Nat.lt_succ_of_lt (scheduled.ids old)
  · rcases insert_cases present with ⟨-,rfl⟩ | ⟨-,old⟩
    · exact valid periodic
    · exact scheduled.positive old periodic
  · have apart : key ≠ s.nextTaskId := by
      rintro rfl
      simp at absent
    rw [AList.lookup_insert_ne apart] at absent
    exact scheduled.unknown absent
  · rcases insert_cases present with ⟨rfl,rfl⟩ | ⟨-,old⟩
    · exact ⟨scheduled.unknown fresh,by rw [blank]⟩
    · exact scheduled.quiet none old periodic

theorem mapped_origin {tasks : Table TaskId TaskState} {change : TaskState → TaskState}
    (present : (tasks.mapValues fun _ task => change task).lookup key = some changed) :
    ∃ task, tasks.lookup key = some task ∧ changed = change task := by
  rw [lookup_mapValues] at present
  obtain ⟨task,found,same⟩ := Option.map_eq_some_iff.mp present
  exact ⟨task,found,same.symm⟩

@[simp] theorem arm_config (task : TaskState) (now : Int) : (task.arm now).config = task.config := by
  simp only [TaskState.arm]
  split <;> rfl

@[simp] theorem release_config (task : TaskState) (now : Int) : (task.release now).1.config = task.config := by
  simp only [TaskState.release]
  split
  · rfl
  · split <;> rfl

theorem Ticked.scheduled (ticked : Ticked s t action seen) (scheduled : Scheduled s) : Scheduled t := by
  cases ticked with
  | still undisturbed => exact undisturbed.scheduled scheduled
  | added valid armed calls => exact added_scheduled scheduled rfl valid calls
  | armed idle open_ =>
    have none := scheduled.absent idle open_
    refine ⟨fun listed => ?_,fun present => ?_,fun present periodic => ?_,fun {key} absent => ?_,nofun,nofun⟩
    · obtain ⟨task,found,async⟩ := scheduled.adds listed
      exact ⟨_,by rw [lookup_mapValues,found]; rfl,by simpa using async⟩
    · obtain ⟨task,found,-⟩ := mapped_origin present
      exact scheduled.ids found
    · obtain ⟨task,found,rfl⟩ := mapped_origin present
      rw [arm_config] at periodic ⊢
      exact scheduled.positive found periodic
    · have before : s.tasks.lookup key = .none := by simpa using absent
      have empty := scheduled.unknown before
      rw [System.handed,none] at empty
      exact empty
  | released waiting =>
    refine ⟨fun listed => ?_,fun present => ?_,fun present periodic => ?_,fun {key} absent => ?_,nofun,
      fun off open_ => ?_⟩
    · obtain ⟨task,found,async⟩ := scheduled.adds listed
      exact ⟨_,by rw [lookup_mapValues,found]; rfl,by simpa using async⟩
    · obtain ⟨task,found,-⟩ := mapped_origin present
      exact scheduled.ids found
    · obtain ⟨task,found,rfl⟩ := mapped_origin present
      rw [release_config] at periodic ⊢
      exact scheduled.positive found periodic
    · have before : s.tasks.lookup key = .none := by simpa using absent
      rw [released_handed _ _ _ waiting,before,scheduled.unknown before]
      rfl
    · exact absurd (waiting.symm.trans (scheduled.absent off open_)) (by simp)

theorem run_scheduled (ran : system.run initial actions = some (s,history)) : Scheduled s := by
  apply Machine.run_invariant (motive := fun s _ => Scheduled s) _ initial_scheduled ran
  intro s history action t emitted scheduled stepped
  exact (step_ticked scheduled stepped).scheduled scheduled

end AutoRuntime.Executor
