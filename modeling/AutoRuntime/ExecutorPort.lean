import AutoRuntime.ExecutorConservation
import AutoRuntime.Mailbox
import Mathlib.Logic.Relation

/-! The executor refines the port that one event task sees of it: every step of the executor is
a move of the port, or leaves it alone. -/
namespace AutoRuntime.Executor

open List

/-- The stop flags that the workers read with the jobs of one task. -/
def System.flags (s : System) (key : TaskId) : List Bool :=
  s.holdings.filterMap fun held => if held.1.task = key then some held.2 else none

/-- What the executor's state is for the task, with its popped jobs in some order. -/
def System.port (s : System) (key : TaskId) (task : TaskState) (group : CallbackGroup)
    (popped : List Bool) : Port where
  running := s.running
  stopping := s.stopping
  cancelled := task.cancelled
  queued := task.queued
  jobs := group.queue.countP (·.task == key)
  popped := popped
  others := group.queue.countP (·.task != key)
  groupCapacity := group.config.queueCapacity
  groupStopping := group.stopping

/-- The task is one that subscribers and services make, and these are its popped jobs. -/
structure Shows (s : System) (key : TaskId) (task : TaskState) (group : CallbackGroup) (popped : List Bool) :
    Prop where
  found : s.tasks.lookup key = some task
  present : s.groups.lookup task.config.callbackGroup = some group
  single : task.config.queueCapacity = Port.taskCapacity
  keeps : task.config.deadlinePolicy ≠ .drop
  flags : popped.Perm (s.flags key)

/-- Where an `Enqueue` call stands, as the port counts. -/
def EnqueuePhase.stand : EnqueuePhase → Progress ⊕ Status
  | .requested => .inl .requested
  | .sequenced _ _ => .inl .sequenced
  | .reserved _ _ _ => .inl .reserved
  | .returned status => .inr status

/-- The step moves no `Enqueue` call for the task and executes no job of it. -/
structure Aside (key : TaskId) (s t : System) (seen : List Event) : Prop where
  calls {index : Nat} {call : EnqueueCall} : s.enqueues[index]? = some call → call.task = key →
    t.enqueues[index]? = some call
  jobs {work : Job} : .executed work ∈ seen → work.task ≠ key

/-- What the task sees of one step. -/
inductive Seen (key : TaskId) (s t : System) (seen : List Event) (port : Port) : Port → Prop where
  | nothing (aside : Aside key s t seen) : Seen key s t seen port port
  | moves {next : Port} (action : Port.Action) (aside : Aside key s t seen) (stepped : port.step action = some next) :
      Seen key s t seen port next
  | enqueues {call : EnqueueCall} {index : Nat} (active : s.enqueues[index]? = some call)
      (own : call.task = key) (stood : call.phase.stand = .inl progress)
      (now : t.enqueues = s.enqueues.set index { call with phase := phase })
      (stands : phase.stand = (port.enqueue progress).2) (silent : ∀ work, .executed work ∉ seen) :
      Seen key s t seen port (port.enqueue progress).1
  | cancels (aside : Aside key s t seen) : Seen key s t seen port { port with cancelled := true }
  | dispatches {job : Nat} {flag : Bool} (calls : t.enqueues = s.enqueues) (popped : port.popped[job]? = some flag)
      (runs : (∃ work : Job, work.task = key ∧ .executed work ∈ seen) ↔ (port.cancelled || flag) = false) :
      Seen key s t seen port { port with queued := port.queued - 1, popped := port.popped.eraseIdx job }

/-- After the step the task still has a port, and this is how it came to it. -/
def Follows (key : TaskId) (s t : System) (seen : List Event) (port : Port) : Prop :=
  ∃ task group popped, Shows t key task group popped ∧ Seen key s t seen port (t.port key task group popped)

section

variable {s t : System} {seen : List Event} (silent : ∀ work, .executed work ∉ seen)

include silent

theorem Aside.grown (enqueues : t.enqueues = s.enqueues ++ more) : Aside key s t seen where
  calls active _ := by
    rw [enqueues,getElem?_append_left (Pool.inside active)]
    exact active
  jobs listed := absurd listed (silent _)

theorem Aside.same (enqueues : t.enqueues = s.enqueues) : Aside key s t seen :=
  .grown silent (enqueues.trans (append_nil _).symm)

theorem Aside.other {index : Nat} {call : EnqueueCall} (active : s.enqueues[index]? = some call)
    (apart : call.task ≠ key) (enqueues : t.enqueues = s.enqueues.set index changed) : Aside key s t seen where
  calls {focus _} found own := by
    have elsewhere : index ≠ focus := by
      rintro rfl
      cases active.symm.trans found
      exact apart own
    rw [enqueues,getElem?_set_ne elsewhere]
    exact found
  jobs listed := absurd listed (silent _)

end

section Frame

variable {s t : System} {key : TaskId} {task changed : TaskState} {group remade : CallbackGroup}
  {popped : List Bool}

section

variable (view : Shows s key task group popped)

include view

/-- A step that changes nothing of what the task sees. -/
theorem Shows.frame (aside : Aside key s t seen) (found : t.tasks.lookup key = some changed)
    (config : changed.config = task.config)
    (cancelled : changed.cancelled = task.cancelled) (queued : changed.queued = task.queued)
    (present : t.groups.lookup task.config.callbackGroup = some group) (flags : (t.flags key).Perm (s.flags key))
    (running : t.running = s.running) (stopping : t.stopping = s.stopping) :
    Follows key s t seen (s.port key task group popped) := by
  have same : t.port key changed group popped = s.port key task group popped := by
    simp only [System.port,cancelled,queued,running,stopping]
  refine ⟨changed,group,popped,⟨found,config ▸ present,config ▸ view.single,config ▸ view.keeps,
    view.flags.trans flags.symm⟩,?_⟩
  rw [same]
  exact .nothing aside

/-- The same for a step that leaves the tables alone. -/
theorem Shows.still (aside : Aside key s t seen) (tasks : t.tasks = s.tasks) (groups : t.groups = s.groups)
    (flags : (t.flags key).Perm (s.flags key)) (running : t.running = s.running) (stopping : t.stopping = s.stopping) :
    Follows key s t seen (s.port key task group popped) :=
  view.frame aside (tasks ▸ view.found) rfl rfl rfl (groups ▸ view.present) flags running stopping

theorem Shows.other {focus : TaskId} (aside : Aside key s t seen) (apart : focus ≠ key)
    (tasks : t.tasks = s.tasks.modify focus fun _ => changed) (groups : t.groups = s.groups)
    (flags : (t.flags key).Perm (s.flags key)) (running : t.running = s.running) (stopping : t.stopping = s.stopping) :
    Follows key s t seen (s.port key task group popped) := by
  have found : t.tasks.lookup key = some task := by
    rw [tasks]
    simpa [apart.symm] using view.found
  exact view.frame aside found rfl rfl rfl (groups ▸ view.present) flags running stopping

end

theorem Shows.enqueued {call : EnqueueCall} {index : Nat} {port : Port} (view : Shows t key changed remade popped)
    (silent : ∀ work, .executed work ∉ seen) (active : s.enqueues[index]? = some call) (own : call.task = key)
    (stood : call.phase.stand = .inl progress) (now : t.enqueues = s.enqueues.set index { call with phase := phase })
    (answer : port.enqueue progress = (t.port key changed remade popped,phase.stand)) :
    Follows key s t seen port := by
  have moved : Seen key s t seen port (port.enqueue progress).1 :=
    .enqueues active own stood now (congrArg Prod.snd answer).symm silent
  rw [answer] at moved
  exact ⟨changed,remade,popped,view,moved⟩

end Frame

section Steps

variable {s t : System} {key : TaskId} {task : TaskState} {group : CallbackGroup} {popped : List Bool}
  {seen : List Event} (view : Shows s key task group popped)

/-- The task section of `Enqueue` is the port's. -/
theorem reserve_port (s : System) (key : TaskId) (group : CallbackGroup) (popped : List Bool)
    (single : task.config.queueCapacity = Port.taskCapacity) :
    (s.port key task group popped).enqueue .sequenced = (s.port key task.reserve.1 group popped,
      match task.reserve.2 with | some status => .inr status | none => .inl .reserved) ∧
    task.reserve.1.config = task.config := by
  unfold TaskState.reserve
  split
  next cancelled => simp [Port.enqueue,System.port,cancelled]
  next live =>
    split
    next full => simp_all [Port.enqueue,System.port]
    next room => simp_all [Port.enqueue,System.port]

theorem queue_split (key : TaskId) (queue : List Job) :
    queue.countP (·.task != key) + queue.countP (·.task == key) = queue.length := by
  induction queue with
  | nil => rfl
  | cons head => by_cases own : head.task = key <;> simp [own] <;> omega

theorem setWorker_flags {worker : Worker} {index : Nat} (active : s.workers[index]? = some worker)
    (phase : WorkerPhase) (key : TaskId) :
    ((worker.holding.toList.filterMap fun held => if held.1.task = key then some held.2 else none) ++
      (s.setWorker index worker phase).flags key).Perm
    (({ worker with phase := phase : Worker }.holding.toList.filterMap fun held =>
      if held.1.task = key then some held.2 else none) ++ s.flags key) := by
  have exchanged := setWorker_holdings active phase
  simpa only [filterMap_append,System.flags] using
    exchanged.filterMap fun held => if held.1.task = key then some held.2 else none

theorem dispatch_port (keeps : task.config.deadlinePolicy ≠ .drop) (job : Job) (flag : Bool) (now : Int) :
    (task.dispatch job flag now).1.config = task.config ∧
    (task.dispatch job flag now).1.cancelled = task.cancelled ∧
    (task.dispatch job flag now).1.queued = task.queued - 1 ∧
    (task.dispatch job flag now).2 = if task.cancelled || flag then .discarded else .execute := by
  have taken : task.taken.config = task.config ∧ task.taken.cancelled = task.cancelled ∧
      task.taken.queued = task.queued - 1 := by
    simp only [TaskState.taken]
    split
    · exact ⟨rfl,rfl,rfl⟩
    · exact ⟨rfl,rfl,by omega⟩
  obtain ⟨config,cancelled,queued⟩ := taken
  unfold TaskState.dispatch
  dsimp only
  rw [cancelled]
  split
  · exact ⟨config,cancelled,queued,rfl⟩
  · have late : (task.taken.missed job.releaseTime now && task.taken.config.deadlinePolicy == .drop) = false := by
      rw [config]
      simp [keeps]
    rw [late]
    exact ⟨config,rfl,queued,rfl⟩

def Action.dispatches : Action → Bool
  | .workerDispatch _ _ => true
  | _ => false

theorem step_silent (stepped : system.step s action = some (t,seen)) (other : action.dispatches = false) (work : Job) :
    .executed work ∉ seen := by
  cases step_stepped stepped with
  | added _ _ _ told => rcases told with ⟨-,-,rfl⟩ | ⟨-,-,rfl⟩ <;> simp
  | dispatches => contradiction
  | sequences part | reserves part | pushes part | pops part | finishes part | reports part | exits part =>
    cases part <;> simp
  | _ => simp

include view

theorem Shows.counted (changed : TaskState) (config : changed.config = task.config) (index : Nat)
    (call : EnqueueCall) (phase : EnqueuePhase) :
    Shows ((s.setTask key changed).setEnqueue index call phase) key changed group popped := by
  refine ⟨?_,config ▸ view.present,config ▸ view.single,config ▸ view.keeps,view.flags⟩
  simp [System.setEnqueue,System.setTask,view.found]

theorem Shows.loaded {t : System} {queue : List Job} (aside : Aside key s t seen) (tasks : t.tasks = s.tasks)
    (groups : t.groups = s.groups.modify task.config.callbackGroup fun _ => { group with queue := queue })
    (own : queue.countP (·.task == key) = group.queue.countP (·.task == key))
    (room : queue.length ≤ group.config.queueCapacity) (flags : (t.flags key).Perm (s.flags key))
    (running : t.running = s.running) (stopping : t.stopping = s.stopping) :
    Follows key s t seen (s.port key task group popped) := by
  refine ⟨task,{ group with queue := queue },popped,⟨tasks ▸ view.found,?_,view.single,view.keeps,
    view.flags.trans flags.symm⟩,?_⟩
  · rw [groups]
    simp [view.present]
  · refine .moves (.load (queue.countP (·.task != key))) aside ?_
    have fits : queue.countP (·.task != key) + group.queue.countP (·.task == key) ≤
        group.config.queueCapacity := by
      rw [← own,queue_split]
      exact room
    simp [Port.step,System.port,fits,own,running,stopping]

theorem Shows.stacked (job : Job) (index : Nat) (call : EnqueueCall) (phase : EnqueuePhase) :
    Shows ((s.setGroup task.config.callbackGroup { group with queue := group.queue ++ [job] }).setEnqueue index call
      phase) key task { group with queue := group.queue ++ [job] } popped := by
  refine ⟨view.found,?_,view.single,view.keeps,view.flags⟩
  simp [System.setEnqueue,System.setGroup,view.present]

theorem Shows.dispatched {flag : Bool} (found : t.tasks.lookup key = some changed)
    (config : changed.config = task.config) (cancelled : changed.cancelled = task.cancelled)
    (queued : changed.queued = task.queued - 1) (groups : t.groups = s.groups)
    (calls : t.enqueues = s.enqueues) (flags : (flag :: t.flags key).Perm (s.flags key))
    (running : t.running = s.running) (stopping : t.stopping = s.stopping)
    (runs : (∃ work : Job, work.task = key ∧ .executed work ∈ seen) ↔ (task.cancelled || flag) = false) :
    Follows key s t seen (s.port key task group popped) := by
  obtain ⟨index,inside,at_⟩ := getElem_of_mem ((view.flags.trans flags.symm).mem_iff.mpr mem_cons_self)
  have erased : (flag :: popped.eraseIdx index).Perm popped := by
    rw [← at_]
    exact getElem_cons_eraseIdx_perm inside
  refine ⟨changed,group,popped.eraseIdx index,⟨found,?_,config ▸ view.single,config ▸ view.keeps,?_⟩,?_⟩
  · rw [config,groups]
    exact view.present
  · exact (erased.trans (view.flags.trans flags.symm)).cons_inv
  · have same : t.port key changed group (popped.eraseIdx index) = { s.port key task group popped with
        queued := (s.port key task group popped).queued - 1
        popped := (s.port key task group popped).popped.eraseIdx index } := by
      simp only [System.port,cancelled,queued,running,stopping]
    rw [same]
    exact .dispatches calls (List.getElem?_eq_some_iff.mpr ⟨inside,at_⟩) runs

theorem dispatching_follows (part : Dispatching s index dispatchTime t seen) :
    Follows key s t seen (s.port key task group popped) := by
  obtain ⟨worker,job,flag,other,next,active,held,found,idle,runs,rfl⟩ : ∃ (worker : Worker) (job : Job) (flag : Bool)
      (other : TaskState) (next : WorkerPhase), s.workers[index]? = some worker ∧ worker.phase = .popped job flag ∧
      s.tasks.lookup job.task = some other ∧ { worker with phase := next : Worker }.holding = none ∧
      (∀ work, .executed work ∈ seen ↔ work = job ∧ (other.dispatch job flag dispatchTime).2 = .execute) ∧
      t = (s.setTask job.task (other.dispatch job flag dispatchTime).1).setWorker index worker next := by
    cases part with
    | discarded active held found decided | dropped active held found decided | executed active held found decided =>
      exact ⟨_,_,_,_,_,active,held,found,rfl,by simp [decided],by rw [decided]⟩
  have flags := setWorker_flags active next key
  rw [idle] at flags
  simp only [Worker.holding,held] at flags
  by_cases own : job.task = key
  · subst own
    cases view.found.symm.trans found
    obtain ⟨config,cancelled,queued,fate⟩ := dispatch_port view.keeps job flag dispatchTime
    have fewer : (flag :: (s.setWorker index worker next).flags job.task).Perm (s.flags job.task) := by
      simpa using flags
    refine view.dispatched (by simp [System.setWorker,System.setTask,found]) config cancelled queued rfl rfl
      fewer rfl rfl ?_
    simp only [runs,fate]
    cases task.cancelled || flag <;> simp
  · have same : ((s.setWorker index worker next).flags key).Perm (s.flags key) := by simpa [own] using flags
    exact view.other ⟨fun active _ => active,fun listed => ((runs _).mp listed).1 ▸ own⟩ own rfl rfl same rfl rfl

theorem Shows.accounted {worker : Worker} {other : TaskState} {index : Nat} (active : s.workers[index]? = some worker)
    (before : worker.holding = none) (after : { worker with phase := phase : Worker }.holding = none)
    (found : s.tasks.lookup focus = some other) (config : changed.config = other.config)
    (cancelled : changed.cancelled = other.cancelled) (queued : changed.queued = other.queued)
    (degraded : Bool) (silent : ∀ work, .executed work ∉ seen) :
    Follows key s { (s.setTask focus changed).setWorker index worker phase with degraded := degraded } seen
      (s.port key task group popped) := by
  have flags : ({ (s.setTask focus changed).setWorker index worker phase with
      degraded := degraded : System }.flags key).Perm (s.flags key) := by
    have exchanged := setWorker_flags active phase key
    rw [before,after] at exchanged
    exact exchanged
  by_cases own : focus = key
  · subst own
    cases view.found.symm.trans found
    refine view.frame (.same silent rfl) ?_ config cancelled queued view.present flags rfl rfl
    simp [System.setWorker,System.setTask,found]
  · exact view.other (.same silent rfl) own rfl rfl flags rfl rfl

section

variable (silent : ∀ work, .executed work ∉ seen)

include silent

theorem started_follows (idle : s.running = false) (unstopped : s.stopping = false) (now : Int) :
    Follows key s { s with
      running := true
      tasks := s.tasks.mapValues fun _ task => task.arm now
      workers := s.workers ++ s.groups.entries.flatMap fun entry =>
        replicate entry.2.config.workerCount { group := entry.1 }
      scheduler := .waiting } seen (s.port key task group popped) := by
  have same := arm_same task now
  have cancelled : (task.arm now).cancelled = task.cancelled := by
    simp only [TaskState.arm]
    split <;> rfl
  refine ⟨task.arm now,group,popped,⟨?_,same.config ▸ view.present,same.config ▸ view.single,
    same.config ▸ view.keeps,?_⟩,?_⟩
  · simp [view.found]
  · simpa only [System.flags,(started_settled s now).holdings] using view.flags
  · refine .moves .start (.same silent rfl) ?_
    simp [Port.step,System.port,idle,unstopped,cancelled,same.queued]

theorem stopped_follows (busy : s.running = true ∨ s.stopping = true) (stops : List StopPhase) :
    Follows key s { s with running := false, stopping := true, stops := stops } seen
      (s.port key task group popped) := by
  refine ⟨task,group,popped,⟨view.found,view.present,view.single,view.keeps,view.flags⟩,?_⟩
  refine .moves .stop (.same silent rfl) ?_
  simp [Port.step,System.port,busy]

theorem cancelled_follows (found : s.tasks.lookup focus = some other) :
    Follows key s (s.setTask focus { other with cancelled := true }) seen (s.port key task group popped) := by
  by_cases own : focus = key
  · subst own
    cases view.found.symm.trans found
    refine ⟨{ task with cancelled := true },group,popped,⟨?_,view.present,view.single,view.keeps,
      view.flags⟩,.cancels (.same silent rfl)⟩
    simp [System.setTask,view.found]
  · exact view.other (.same silent rfl) own rfl rfl .rfl rfl rfl

theorem marked_follows (stopping : s.stopping = true) (present : s.groups.lookup focus = some other)
    (stops : List StopPhase) :
    Follows key s { s.setGroup focus { other with stopping := true } with stops := stops } seen
      (s.port key task group popped) := by
  by_cases own : focus = task.config.callbackGroup
  · subst own
    cases view.present.symm.trans present
    refine ⟨task,{ group with stopping := true },popped,⟨view.found,?_,view.single,view.keeps,view.flags⟩,?_⟩
    · simp [System.setGroup,view.present]
    · refine .moves .mark (.same silent rfl) ?_
      simp [Port.step,System.port,stopping,System.setGroup]
  · refine view.frame (.same silent rfl) view.found rfl rfl rfl ?_ .rfl rfl rfl
    simpa [System.setGroup,Ne.symm own] using view.present

theorem released_follows (now : Int) (scheduler : SchedulerPhase) :
    Follows key s { s with tasks := s.tasks.mapValues fun _ task => (task.release now).1, scheduler := scheduler } seen
      (s.port key task group popped) := by
  have same := release_same task now
  have cancelled : (task.release now).1.cancelled = task.cancelled := by
    simp only [TaskState.release]
    repeat' split
    all_goals rfl
  refine view.frame (.same silent rfl) ?_ same.config cancelled same.queued view.present .rfl rfl rfl
  simp [view.found]

theorem sequencing_follows (part : Sequencing s index t seen) :
    Follows key s t seen (s.port key task group popped) := by
  have kept (call : EnqueueCall) (phase : EnqueuePhase) (next : Nat) :
      Shows { s.setEnqueue index call phase with nextJobSequence := next } key task group popped :=
    ⟨view.found,view.present,view.single,view.keeps,view.flags⟩
  have stood {call : EnqueueCall} (requested : call.phase = .requested) : call.phase.stand = .inl .requested := by
    rw [requested]
    rfl
  cases part with
  | @closed call other active requested found shut =>
    by_cases own : call.task = key
    · have closed : (!s.running || s.stopping) = true := by
        cases running : s.running <;> cases stopping : s.stopping <;> simp [running,stopping] at shut ⊢
      exact (kept call _ s.nextJobSequence).enqueued silent active own (stood requested) rfl (if_pos closed)
    · exact view.still (.other silent active own rfl) rfl rfl .rfl rfl rfl
  | @homeless call other active requested found accepting absent =>
    by_cases own : call.task = key
    · subst own
      cases view.found.symm.trans found
      simp [view.present] at absent
    · exact view.still (.other silent active own rfl) rfl rfl .rfl rfl rfl
  | @sequenced call other active requested found accepting =>
    by_cases own : call.task = key
    · have open_ : ¬(!s.running || s.stopping) = true := by simp [accepting.1,accepting.2]
      exact (kept call _ _).enqueued silent active own (stood requested) rfl (if_neg open_)
    · exact view.still (.other silent active own rfl) rfl rfl .rfl rfl rfl

theorem reserving_follows (part : Reserving s index enqueuedAt t seen) :
    Follows key s t seen (s.port key task group popped) := by
  have answers {call : EnqueueCall} {place : CallbackGroupId} {sequence : Nat} {phase : EnqueuePhase}
      {other counted : TaskState} {answer : Option Status}
      (stands : phase.stand = match answer with | some status => .inr status | none => .inl .reserved)
      (active : s.enqueues[index]? = some call) (sequenced : call.phase = .sequenced place sequence)
      (found : s.tasks.lookup call.task = some other) (reserved : other.reserve = (counted,answer)) :
      Follows key s ((s.setTask call.task counted).setEnqueue index call phase) seen
        (s.port key task group popped) := by
    by_cases own : call.task = key
    · subst own
      cases view.found.symm.trans found
      obtain ⟨answered,config⟩ := reserve_port s call.task group popped view.single
      rw [reserved] at answered config
      refine (view.counted counted config index call phase).enqueued silent active rfl (by rw [sequenced]; rfl) rfl ?_
      rw [stands]
      exact answered
    · exact view.other (.other silent active own rfl) own rfl rfl .rfl rfl rfl
  cases part with
  | refused active sequenced found refused => exact answers rfl active sequenced found refused
  | granted active sequenced found granted => exact answers rfl active sequenced found granted

theorem pushing_follows (conserved : Conserved s history) (part : Pushing s index t seen) :
    Follows key s t seen (s.port key task group popped) := by
  -- a call for the task has its place in the task's own group
  have owns {place : CallbackGroupId} {sequence : Nat} {enqueuedAt : Int} {call : EnqueueCall} {other : TaskState}
      {target : CallbackGroup} (own : call.task = key) (active : s.enqueues[index]? = some call)
      (reserved : call.phase = .reserved place sequence enqueuedAt)
      (found : s.tasks.lookup call.task = some other) (present : s.groups.lookup place = some target) :
      other = task ∧ place = task.config.callbackGroup ∧ target = group ∧ call.phase.stand = .inl .reserved := by
    subst own
    cases view.found.symm.trans found
    obtain rfl := conserved.reserved_home active reserved view.found
    cases view.present.symm.trans present
    exact ⟨rfl,rfl,rfl,by rw [reserved]; rfl⟩
  have load : (s.port key task group popped).others + (s.port key task group popped).jobs = group.queue.length :=
    queue_split key group.queue
  cases part with
  | @withdrawn place sequence enqueuedAt call other target active reserved found present stopping =>
    by_cases own : call.task = key
    · obtain ⟨rfl,rfl,rfl,stood⟩ := owns own active reserved found present
      subst own
      exact (view.counted other.withdraw rfl index call _).enqueued silent active rfl stood rfl (if_pos stopping)
    · exact view.other (.other silent active own rfl) own rfl rfl .rfl rfl rfl
  | @overflowed place sequence enqueuedAt call other target active reserved found present going full =>
    by_cases own : call.task = key
    · obtain ⟨rfl,rfl,rfl,stood⟩ := owns own active reserved found present
      subst own
      exact (view.counted other.overflow rfl index call _).enqueued silent active rfl stood rfl
        ((if_neg (Bool.eq_false_iff.mp going)).trans (if_pos (Nat.le_trans full (Nat.le_of_eq load.symm))))
    · exact view.other (.other silent active own rfl) own rfl rfl .rfl rfl rfl
  | @pushed place sequence enqueuedAt call other target active reserved found present going room =>
    by_cases own : call.task = key
    · obtain ⟨rfl,rfl,rfl,stood⟩ := owns own active reserved found present
      subst own
      refine (view.stacked _ index call _).enqueued silent active rfl stood rfl
        (((if_neg (Bool.eq_false_iff.mp going)).trans
          (if_neg fun more => Nat.not_le.mpr room (Nat.le_trans more (Nat.le_of_eq load)))).trans ?_)
      simp [System.port,System.setEnqueue,System.setGroup,EnqueuePhase.stand]
    · by_cases home : place = task.config.callbackGroup
      · subst home
        cases view.present.symm.trans present
        refine view.loaded (.other silent active own rfl) rfl rfl ?_ ?_ .rfl rfl rfl
        · simp [own]
        · simp only [length_append,length_singleton]
          omega
      · refine view.frame (.other silent active own rfl) view.found rfl rfl rfl ?_ .rfl rfl rfl
        simpa [System.setEnqueue,System.setGroup,Ne.symm home] using view.present

theorem popping_follows (conserved : Conserved s history) (part : Popping s index t seen) :
    Follows key s t seen (s.port key task group popped) := by
  cases part with
  | @popped worker target job active idle present chosen =>
    have member := top_mem chosen
    have flags := setWorker_flags active (.popped job target.stopping) key
    simp only [Worker.holding,idle,Option.toList_none,filterMap_nil,nil_append] at flags
    have counts (counted : Job → Bool) := Pool.countP_erase counted member
    by_cases own : job.task = key
    · subst own
      obtain ⟨resident,known,home⟩ := conserved.queuedHome (by rw [queue_eq present]; exact member)
      cases view.found.symm.trans known
      cases view.present.symm.trans (home ▸ present)
      refine ⟨task,{ group with queue := group.queue.erase job },popped ++ [group.stopping],
        ⟨view.found,?_,view.single,view.keeps,?_⟩,?_⟩
      · change (s.setGroup worker.group _).groups.lookup _ = _
        rw [home,lookup_setGroup present,if_pos rfl]
      · simp only [Option.toList_some,filterMap_cons,if_true] at flags
        exact (perm_append_singleton _ _).trans ((view.flags.cons _).trans flags.symm)
      · refine .moves .pop (.same silent rfl) ?_
        have fewer := counts (·.task == job.task)
        have others := counts (·.task != job.task)
        simp only [beq_self_eq_true,Bool.toNat_true] at fewer
        simp only [bne_self_eq_false,Bool.toNat_false,Nat.add_zero] at others
        simp [Port.step,System.port,System.setWorker,System.setGroup,← fewer,others]
    · have same : ((s.setWorker index worker (.popped job target.stopping)).flags key).Perm (s.flags key) := by
        simpa [own] using flags
      have untouched := counts (·.task == key)
      simp only [beq_eq_false_iff_ne.mpr own,Bool.toNat_false,Nat.add_zero] at untouched
      by_cases home : worker.group = task.config.callbackGroup
      · cases view.present.symm.trans (home ▸ present)
        refine view.loaded (.same silent rfl) rfl (by rw [← home]; rfl) ?_ ?_ same rfl rfl
        · exact untouched
        · exact Nat.le_trans length_erase_le (conserved.room present)
      · refine view.frame (.same silent rfl) view.found rfl rfl rfl ?_ same rfl rfl
        simpa [System.setWorker,System.setGroup,Ne.symm home] using view.present

theorem finishing_follows (part : Finishing s index start finish callbackFailed t seen) :
    Follows key s t seen (s.port key task group popped) := by
  have kept {other accounted : TaskState} {job : Job} {verdict : Option DeadlineEvent × Bool}
      (decided : other.finish job start finish callbackFailed = (accounted,verdict)) :
      SameAccount other accounted ∧ accounted.cancelled = other.cancelled := by
    cases congrArg Prod.fst decided
    refine ⟨finish_same other job start finish callbackFailed,?_⟩
    unfold TaskState.finish
    dsimp only
    split
    · cases other.config.deadlinePolicy <;> rfl
    · rfl
  cases part with
  | missed active executing found decided =>
    obtain ⟨same,alive⟩ := kept decided
    exact view.accounted active (by simp [Worker.holding,executing]) rfl found same.config alive same.queued _ silent
  | met active executing found decided =>
    obtain ⟨same,alive⟩ := kept decided
    exact view.accounted active (by simp [Worker.holding,executing]) rfl found same.config alive same.queued s.degraded
      silent

end

/-- Every step of the executor is a move of the task's port, or nothing that the task can see. -/
theorem step_follows (conserved : Conserved s history) (stepped : system.step s action = some (t,seen)) :
    Follows key s t seen (s.port key task group popped) := by
  have silent := step_silent stepped
  cases step_stepped stepped with
  | created =>
    have old := conserved.groupIds view.present
    refine view.frame (.same (silent rfl) rfl) view.found rfl rfl rfl ?_ .rfl rfl rfl
    simpa [AList.lookup_insert_ne (Nat.ne_of_lt old)] using view.present
  | added =>
    have old := conserved.taskIds view.found
    refine view.frame (.same (silent rfl) rfl) ?_ rfl rfl rfl view.present .rfl rfl rfl
    simpa [AList.lookup_insert_ne (Nat.ne_of_lt old)] using view.found
  | started idle unstopped => exact started_follows view (silent rfl) idle unstopped _
  | sequences part => exact sequencing_follows view (silent rfl) part
  | reserves part => exact reserving_follows view (silent rfl) part
  | pushes part => exact pushing_follows view (silent rfl) conserved part
  | cancelled found => exact cancelled_follows view (silent rfl) found
  | pops part => exact popping_follows view (silent rfl) conserved part
  | dispatches part => exact dispatching_follows view part
  | finishes part => exact finishing_follows view (silent rfl) part
  | reports part =>
    cases part with
    | reported active reporting found =>
      refine view.accounted active ?_ ?_ found ?_ ?_ ?_ s.degraded (silent rfl)
      · simp [Worker.holding,reporting]
      all_goals rfl
  | exits part =>
    cases part with
    | @exited worker target active idle =>
      have exchanged := setWorker_flags active .exited key
      rw [show worker.holding = none by simp [Worker.holding,idle]] at exchanged
      exact view.still (.same (silent rfl) rfl) rfl rfl exchanged rfl rfl
  | released => exact released_follows view (silent rfl) _ _
  | stopped busy => exact stopped_follows view (silent rfl) busy _
  | marked active found =>
    exact marked_follows view (silent rfl) (conserved.stopped (by rintro none; simp [none] at active)) found _
  | refused asks => exact view.still (.same (silent (by cases action <;> first | rfl | contradiction)) rfl) rfl rfl .rfl rfl rfl
  | checked | notified | issued => exact view.still (.grown (silent rfl) rfl) rfl rfl .rfl rfl rfl
  | _ => exact view.still (.same (silent rfl) rfl) rfl rfl .rfl rfl rfl

end Steps

theorem addTask_shows {s t : System} {group : CallbackGroup} {config : TaskConfig} (conserved : Conserved s history)
    (present : s.groups.lookup config.callbackGroup = some group)
    (single : config.queueCapacity = Port.taskCapacity) (keeps : config.deadlinePolicy ≠ .drop)
    (stepped : s.addTask config callback now = (t,[.added key])) :
    ∃ task, Shows t key task group [] ∧
      t.port key task group [] = Port.added s.running group.queue.length group.config.queueCapacity := by
  have unknown : s.tasks.lookup s.nextTaskId = none := by
    cases found : s.tasks.lookup s.nextTaskId with
    | none => rfl
    | some => exact absurd (conserved.taskIds found) (Nat.lt_irrefl _)
  have taken : step s (.addTask config callback now) = some (t,[.added key]) := congrArg some stepped
  cases step_stepped taken with
  | added valid unstopped housed told =>
    obtain ⟨-,rfl,same⟩ := told.resolve_left (by simp)
    cases head_eq_of_cons_eq same
    have empty := conserved.unknown unknown config.callbackGroup
    simp only [System.inFlight,queue_eq present,Nat.add_eq_zero_iff] at empty
    have marked : group.stopping = false := by
      by_contra on
      simp [conserved.marked present (by simpa using on)] at unstopped
    refine ⟨_,⟨AList.lookup_insert _,present,single,keeps,?_⟩,?_⟩
    · have none_ : s.flags s.nextTaskId = [] := by
        apply filterMap_eq_nil_iff.mpr
        intro held member
        have apart := countP_eq_zero.mp empty.2 held member
        simpa using apart
      change List.Perm [] (s.flags s.nextTaskId)
      rw [none_]
    · have others := queue_split s.nextTaskId group.queue
      rw [empty.1.1,Nat.add_zero] at others
      simp [System.port,Port.added,marked,empty.1.1,unstopped,others]

/-- The moves of a port by themselves. -/
inductive PortMoves : Port → Port → Prop where
  | steps {next : Port} (stepped : port.step action = some next) : PortMoves port next
  | enqueues (port : Port) (progress : Progress) : PortMoves port (port.enqueue progress).1
  | cancels (port : Port) : PortMoves port { port with cancelled := true }
  | dispatches {port : Port} {job : Nat} (popped : port.popped[job]? = some flag) :
      PortMoves port { port with queued := port.queued - 1, popped := port.popped.eraseIdx job }

theorem Seen.moves_port (seen : Seen key s t events port post) : Relation.ReflTransGen PortMoves port post := by
  cases seen with
  | nothing => exact .refl
  | moves action _ stepped => exact .single (.steps stepped)
  | enqueues => exact .single (.enqueues port _)
  | cancels => exact .single (.cancels port)
  | dispatches _ popped => exact .single (.dispatches popped)

/-- Whatever the executor does, the task sees a run of its port. -/
theorem run_follows (conserved : Conserved s history) (view : Shows s key task group popped)
    (ran : system.run s actions = some (t,seen)) :
    Conserved t (history ++ seen) ∧ ∃ changed remade held, Shows t key changed remade held ∧
      Relation.ReflTransGen PortMoves (s.port key task group popped) (t.port key changed remade held) := by
  refine Machine.run_invariant (motive := fun t seen => Conserved t (history ++ seen) ∧
    ∃ changed remade held, Shows t key changed remade held ∧
      Relation.ReflTransGen PortMoves (s.port key task group popped) (t.port key changed remade held))
    ?_ ⟨by simpa using conserved,task,group,popped,view,.refl⟩ ran
  rintro u earlier action v emitted ⟨conserved,changed,remade,held,view,moved⟩ stepped
  obtain ⟨next,home,flags,shown,seen⟩ := step_follows view conserved stepped
  refine ⟨?_,next,home,flags,shown,moved.trans seen.moves_port⟩
  rw [← append_assoc]
  exact step_conserved conserved stepped

/-- From the step that adds an event task on, whatever the executor does is a run of the task's port, and so is
each step that may come next. -/
theorem added_task_refines (before : system.run initial actions = some (s,history))
    (present : s.groups.lookup config.callbackGroup = some group)
    (single : config.queueCapacity = Port.taskCapacity) (keeps : config.deadlinePolicy ≠ .drop)
    (stepped : s.addTask config callback now = (t,[.added key])) (ran : system.run t later = some (u,seen)) :
    ∃ task home popped, Shows u key task home popped ∧
      Relation.ReflTransGen PortMoves (Port.added s.running group.queue.length group.config.queueCapacity)
        (u.port key task home popped) ∧
      ∀ action v emitted, system.step u action = some (v,emitted) →
        Follows key u v emitted (u.port key task home popped) := by
  have conserved := run_conserved before
  obtain ⟨task,view,fresh⟩ := addTask_shows conserved present single keeps stepped
  have added : step s (.addTask config callback now) = some (t,[.added key]) := congrArg some stepped
  obtain ⟨still,changed,home,popped,shown,moved⟩ := run_follows (step_conserved conserved added) view ran
  rw [fresh] at moved
  exact ⟨changed,home,popped,shown,moved,fun _ _ _ => step_follows shown still⟩

def eventTask : TaskConfig := { name := [98], kind := .event, callbackGroup := 1 }

def notifiedRun : List Action :=
  [.start .success 0,.notify 1 5,.enqueueSequence 0,.enqueueReserve 0 6,.enqueuePush 0,.workerPop 0]

/-- The job of a notification is popped, and the worker saw no stop. -/
theorem added_task_refines_popped : ∃ s t u seen task home,
    system.run initial [.createCallbackGroup ⟨[97],1,4⟩ .success] = some (s,[.created 1]) ∧
    s.addTask eventTask true 0 = (t,[.added 1]) ∧ system.run t notifiedRun = some (u,seen) ∧
    Shows u 1 task home [false] ∧
    Relation.ReflTransGen PortMoves (Port.added false 0 4) (u.port 1 task home [false]) := by
  obtain ⟨s,before,t,added,u,seen,ran,flags,group,present,port⟩ : ∃ s,
      system.run initial [.createCallbackGroup ⟨[97],1,4⟩ .success] = some (s,[.created 1]) ∧
      ∃ t, s.addTask eventTask true 0 = (t,[.added 1]) ∧
      ∃ u seen, system.run t notifiedRun = some (u,seen) ∧ u.flags 1 = [false] ∧
      ∃ group, s.groups.lookup 1 = some group ∧
        Port.added s.running group.queue.length group.config.queueCapacity = Port.added false 0 4 :=
    ⟨_,rfl,_,rfl,_,_,rfl,rfl,_,rfl,rfl⟩
  obtain ⟨task,home,popped,shown,moved,-⟩ := added_task_refines before present rfl (by decide) added ran
  have only : popped = [false] := perm_singleton.mp (flags ▸ shown.flags)
  subst only
  exact ⟨s,t,u,seen,task,home,before,added,ran,shown,port ▸ moved⟩

end AutoRuntime.Executor
