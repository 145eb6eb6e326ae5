import AutoRuntime.Executor

/-! The critical sections of `Enqueue` and of the workers, each with the ways it can go and the
state that it leaves. -/
namespace AutoRuntime.Executor

/-- The first section of `Enqueue`. -/
inductive Sequencing (s : System) (index : Nat) : System → List Event → Prop where
  | closed {call : EnqueueCall} {task : TaskState} (active : s.enqueues[index]? = some call)
      (requested : call.phase = .requested) (found : s.tasks.lookup call.task = some task)
      (shut : ¬(s.running = true ∧ s.stopping = false)) :
    Sequencing s index (s.setEnqueue index call (.returned ⟨.closed,"executor is not accepting work"⟩))
      [.enqueued index ⟨.closed,"executor is not accepting work"⟩]
  | homeless {call : EnqueueCall} {task : TaskState} (active : s.enqueues[index]? = some call)
      (requested : call.phase = .requested) (found : s.tasks.lookup call.task = some task)
      (accepting : s.running = true ∧ s.stopping = false)
      (absent : s.groups.lookup task.config.callbackGroup = none) :
    Sequencing s index (s.setEnqueue index call (.returned ⟨.notFound,"callback group no longer exists"⟩))
      [.enqueued index ⟨.notFound,"callback group no longer exists"⟩]
  | sequenced {call : EnqueueCall} {task : TaskState} (active : s.enqueues[index]? = some call)
      (requested : call.phase = .requested) (found : s.tasks.lookup call.task = some task)
      (accepting : s.running = true ∧ s.stopping = false) :
    Sequencing s index { s.setEnqueue index call (.sequenced task.config.callbackGroup s.nextJobSequence) with
      nextJobSequence := s.nextJobSequence + 1 } []

/-- The second section, on the task. -/
inductive Reserving (s : System) (index : Nat) (enqueuedAt : Int) : System → List Event → Prop where
  | refused {group : CallbackGroupId} {sequence : Nat} {call : EnqueueCall} {task counted : TaskState} {status : Status}
      (active : s.enqueues[index]? = some call) (sequenced : call.phase = .sequenced group sequence)
      (found : s.tasks.lookup call.task = some task) (refused : task.reserve = (counted,some status)) :
    Reserving s index enqueuedAt ((s.setTask call.task counted).setEnqueue index call (.returned status))
      [.enqueued index status]
  | granted {group : CallbackGroupId} {sequence : Nat} {call : EnqueueCall} {task counted : TaskState}
      (active : s.enqueues[index]? = some call) (sequenced : call.phase = .sequenced group sequence)
      (found : s.tasks.lookup call.task = some task) (granted : task.reserve = (counted,none)) :
    Reserving s index enqueuedAt
      ((s.setTask call.task counted).setEnqueue index call (.reserved group sequence enqueuedAt)) []

/-- The third section, on the group. -/
inductive Pushing (s : System) (index : Nat) : System → List Event → Prop where
  | withdrawn {place : CallbackGroupId} {sequence : Nat} {enqueuedAt : Int} {call : EnqueueCall} {task : TaskState}
      {group : CallbackGroup} (active : s.enqueues[index]? = some call)
      (reserved : call.phase = .reserved place sequence enqueuedAt)
      (found : s.tasks.lookup call.task = some task) (present : s.groups.lookup place = some group)
      (stopping : group.stopping = true) :
    Pushing s index ((s.setTask call.task task.withdraw).setEnqueue index call
      (.returned ⟨.closed,"callback group is stopping"⟩))
      [.enqueued index ⟨.closed,"callback group is stopping"⟩]
  | overflowed {place : CallbackGroupId} {sequence : Nat} {enqueuedAt : Int} {call : EnqueueCall} {task : TaskState}
      {group : CallbackGroup} (active : s.enqueues[index]? = some call)
      (reserved : call.phase = .reserved place sequence enqueuedAt)
      (found : s.tasks.lookup call.task = some task) (present : s.groups.lookup place = some group)
      (going : group.stopping = false) (full : group.config.queueCapacity ≤ group.queue.length) :
    Pushing s index ((s.setTask call.task task.overflow).setEnqueue index call
      (.returned ⟨.queueFull,"callback group queue is full"⟩))
      [.enqueued index ⟨.queueFull,"callback group queue is full"⟩]
  | pushed {place : CallbackGroupId} {sequence : Nat} {enqueuedAt : Int} {call : EnqueueCall} {task : TaskState}
      {group : CallbackGroup} (active : s.enqueues[index]? = some call)
      (reserved : call.phase = .reserved place sequence enqueuedAt)
      (found : s.tasks.lookup call.task = some task) (present : s.groups.lookup place = some group)
      (going : group.stopping = false) (room : group.queue.length < group.config.queueCapacity) :
    Pushing s index ((s.setGroup place { group with
        queue := group.queue ++ [⟨call.task,call.releaseTime,enqueuedAt,sequence⟩] }).setEnqueue index call
      (.returned .success)) [.pushed place ⟨call.task,call.releaseTime,enqueuedAt,sequence⟩,.enqueued index .success]

/-- A worker takes the first job of its group. -/
inductive Popping (s : System) (index : Nat) : System → List Event → Prop where
  | popped {worker : Worker} {group : CallbackGroup} {job : Job} (active : s.workers[index]? = some worker)
      (idle : worker.phase = .idle) (present : s.groups.lookup worker.group = some group)
      (chosen : top s.priority group.queue = some job) :
    Popping s index ((s.setGroup worker.group { group with queue := group.queue.erase job }).setWorker index worker
      (.popped job group.stopping)) [.popped worker.group job]

/-- A worker decides what becomes of its job. -/
inductive Dispatching (s : System) (index : Nat) (dispatchTime : Int) : System → List Event → Prop where
  | discarded {groupStopping : Bool} {worker : Worker} {task taken : TaskState} {job : Job}
      (active : s.workers[index]? = some worker) (popped : worker.phase = .popped job groupStopping)
      (found : s.tasks.lookup job.task = some task)
      (decided : task.dispatch job groupStopping dispatchTime = (taken,.discarded)) :
    Dispatching s index dispatchTime ((s.setTask job.task taken).setWorker index worker .idle) []
  | dropped {groupStopping : Bool} {worker : Worker} {task taken : TaskState} {job : Job} {event : DeadlineEvent}
      (active : s.workers[index]? = some worker) (popped : worker.phase = .popped job groupStopping)
      (found : s.tasks.lookup job.task = some task)
      (decided : task.dispatch job groupStopping dispatchTime = (taken,.dropped event)) :
    Dispatching s index dispatchTime ((s.setTask job.task taken).setWorker index worker (.reporting event))
      [.missed event]
  | executed {groupStopping : Bool} {worker : Worker} {task taken : TaskState} {job : Job}
      (active : s.workers[index]? = some worker) (popped : worker.phase = .popped job groupStopping)
      (found : s.tasks.lookup job.task = some task)
      (decided : task.dispatch job groupStopping dispatchTime = (taken,.execute)) :
    Dispatching s index dispatchTime ((s.setTask job.task taken).setWorker index worker (.executing job))
      [.executed job]

/-- A worker has run its job. -/
inductive Finishing (s : System) (index : Nat) (start finish : Int) (callbackFailed : Bool) :
    System → List Event → Prop where
  | missed {worker : Worker} {task accounted : TaskState} {job : Job} {event : DeadlineEvent} {degraded : Bool}
      (active : s.workers[index]? = some worker) (executing : worker.phase = .executing job)
      (found : s.tasks.lookup job.task = some task)
      (decided : task.finish job start finish callbackFailed = (accounted,some event,degraded)) :
    Finishing s index start finish callbackFailed
      { (s.setTask job.task accounted).setWorker index worker (.reporting event) with
        degraded := s.degraded || degraded } [.missed event]
  | met {worker : Worker} {task accounted : TaskState} {job : Job} {degraded : Bool}
      (active : s.workers[index]? = some worker) (executing : worker.phase = .executing job)
      (found : s.tasks.lookup job.task = some task)
      (decided : task.finish job start finish callbackFailed = (accounted,none,degraded)) :
    Finishing s index start finish callbackFailed ((s.setTask job.task accounted).setWorker index worker .idle) []

/-- A worker has called the deadline handler. -/
inductive Reporting (s : System) (index : Nat) (threw : Bool) : System → List Event → Prop where
  | reported {worker : Worker} {task : TaskState} {event : DeadlineEvent} (active : s.workers[index]? = some worker)
      (reporting : worker.phase = .reporting event) (found : s.tasks.lookup event.taskId = some task) :
    Reporting s index threw ((s.setTask event.taskId (task.report threw)).setWorker index worker .idle) []

/-- A worker leaves its loop. -/
inductive Exiting (s : System) (index : Nat) : System → List Event → Prop where
  | exited {worker : Worker} {group : CallbackGroup} (active : s.workers[index]? = some worker)
      (idle : worker.phase = .idle) (present : s.groups.lookup worker.group = some group)
      (stopping : group.stopping = true) (drained : group.queue = []) :
    Exiting s index (s.setWorker index worker .exited) []

theorem enqueueSequence_sequencing {s t : System} (stepped : s.enqueueSequence index = some (t,seen)) :
    Sequencing s index t seen := by
  simp only [System.enqueueSequence] at stepped
  split at stepped
  · contradiction
  next call active =>
    split at stepped
    next task requested found =>
      split at stepped
      next shut =>
        cases stepped
        refine .closed active requested found fun accepting => ?_
        simp [accepting.1,accepting.2] at shut
      next accepting =>
        simp only [Bool.or_eq_true,Bool.not_eq_true',not_or,Bool.not_eq_false,Bool.not_eq_true] at accepting
        split at stepped <;> cases stepped
        next homeless => exact .homeless active requested found accepting (Option.isNone_iff_eq_none.mp homeless)
        · exact .sequenced active requested found accepting
    · contradiction

theorem enqueueReserve_reserving {s t : System} (stepped : s.enqueueReserve index enqueuedAt = some (t,seen)) :
    Reserving s index enqueuedAt t seen := by
  simp only [System.enqueueReserve] at stepped
  split at stepped
  · contradiction
  next call active =>
    split at stepped
    next group sequence task sequenced found =>
      split at stepped <;> cases stepped
      next counted status refused => exact .refused active sequenced found refused
      next counted granted => exact .granted active sequenced found granted
    · contradiction

theorem enqueuePush_pushing {s t : System} (stepped : s.enqueuePush index = some (t,seen)) :
    Pushing s index t seen := by
  simp only [System.enqueuePush] at stepped
  split at stepped
  · contradiction
  next call active =>
    split at stepped
    next place sequence enqueuedAt task reserved found =>
      split at stepped
      · contradiction
      next group present =>
        split at stepped
        next stopping =>
          cases stepped
          exact .withdrawn active reserved found present stopping
        next going =>
          have going : group.stopping = false := Bool.eq_false_iff.mpr going
          split at stepped <;> cases stepped
          next full => exact .overflowed active reserved found present going full
          next room => exact .pushed active reserved found present going (Nat.not_le.mp room)
    · contradiction

theorem workerPop_popping {s t : System} (stepped : s.workerPop index = some (t,seen)) :
    Popping s index t seen := by
  simp only [System.workerPop] at stepped
  split at stepped
  · contradiction
  next worker active =>
    split at stepped
    next group idle present =>
      split at stepped
      · contradiction
      next job chosen =>
        cases stepped
        exact .popped active idle present chosen
    · contradiction

theorem workerDispatch_dispatching {s t : System} (stepped : s.workerDispatch index dispatchTime = some (t,seen)) :
    Dispatching s index dispatchTime t seen := by
  simp only [System.workerDispatch] at stepped
  split at stepped
  · contradiction
  next worker active =>
    split at stepped
    next job groupStopping popped =>
      split at stepped
      · contradiction
      next task found =>
        split at stepped <;> cases stepped
        next taken decided => exact .discarded active popped found decided
        next taken event decided => exact .dropped active popped found decided
        next taken decided => exact .executed active popped found decided
    · contradiction

theorem workerFinish_finishing {s t : System}
    (stepped : s.workerFinish index start finish callbackFailed = some (t,seen)) :
    Finishing s index start finish callbackFailed t seen := by
  simp only [System.workerFinish] at stepped
  split at stepped
  · contradiction
  next worker active =>
    split at stepped
    next job executing =>
      split at stepped
      · contradiction
      next task found =>
        split at stepped <;> cases stepped
        next accounted event degraded decided => exact .missed active executing found decided
        next accounted degraded decided => exact .met active executing found decided
    · contradiction

theorem workerReport_reporting {s t : System} (stepped : s.workerReport index threw = some (t,seen)) :
    Reporting s index threw t seen := by
  simp only [System.workerReport] at stepped
  split at stepped
  · contradiction
  next worker active =>
    split at stepped
    next event reporting =>
      split at stepped
      · contradiction
      next task found =>
        cases stepped
        exact .reported active reporting found
    · contradiction

theorem workerExit_exiting {s t : System} (stepped : s.workerExit index = some (t,seen)) :
    Exiting s index t seen := by
  simp only [System.workerExit] at stepped
  split at stepped
  · contradiction
  next worker active =>
    split at stepped
    next group idle present =>
      split at stepped
      next finished =>
        simp only [Bool.and_eq_true,List.isEmpty_iff] at finished
        cases stepped
        exact .exited active idle present finished.1 finished.2
      · contradiction
    · contradiction

/-- The calls that one section can refuse. -/
def Action.asks : Action → Bool
  | .createCallbackGroup _ _ | .addTask _ _ _ | .start _ _ | .notify _ _ | .cancel _ => true
  | _ => false

/-- What a step can do. -/
inductive Stepped (s : System) : Action → System → List Event → Prop where
  | refused {action : Action} {status : Status} (asks : action.asks = true) : Stepped s action s [.refused status]
  | rested {order : Table.Order CallbackGroupId CallbackGroup} : Stepped s (.stop order) s []
  | waited {order : Table.Order TaskId TaskState} {checked now : Int} (waiting : s.scheduler = .waiting) :
    Stepped s (.schedulerPass order checked now) s []
  | created {config : CallbackGroupConfig} {scheduling : Status} (manned : 0 < config.workerCount)
      (idle : s.running = false) (unstopped : s.stopping = false) :
    Stepped s (.createCallbackGroup config scheduling) { s with
      groups := s.groups.insert s.nextGroupId { config := config }
      nextGroupId := s.nextGroupId + 1 } [.created s.nextGroupId]
  | added {config : TaskConfig} {callback : Bool} {now : Int} {adds : List AddCall} {seen : List Event}
      (valid : validTask config callback = true) (unstopped : s.stopping = false)
      (housed : (s.groups.lookup config.callbackGroup).isSome = true)
      (told : config.kind = .async ∧ adds = s.adds ++ [⟨s.nextTaskId,.checking⟩] ∧ seen = [] ∨
        config.kind ≠ .async ∧ adds = s.adds ∧ seen = [.added s.nextTaskId]) :
    Stepped s (.addTask config callback now) { s with
      tasks := s.tasks.insert s.nextTaskId { id := s.nextTaskId, config := config, nextRelease :=
        if s.running && config.kind == .periodic then Chrono.after now config.period else 0 }
      nextTaskId := s.nextTaskId + 1
      adds := adds } seen
  | checked {index : Nat} {now : Int} {task : TaskId} (active : s.adds[index]? = some ⟨task,.checking⟩)
      (running : s.running = true) :
    Stepped s (.addCheck index now) { s.request task now with
      adds := s.adds.set index ⟨task,.enqueuing s.enqueues.length⟩ } []
  | passed {index : Nat} {now : Int} {task : TaskId} (active : s.adds[index]? = some ⟨task,.checking⟩)
      (idle : s.running = false) :
    Stepped s (.addCheck index now) { s with adds := s.adds.set index ⟨task,.returned (.ok task)⟩ } [.added task]
  | returned {index call : Nat} {task : TaskId} {enqueue : EnqueueCall} {status : Status}
      (active : s.adds[index]? = some ⟨task,.enqueuing call⟩) (found : s.enqueues[call]? = some enqueue)
      (ended : enqueue.phase = .returned status) (good : status.ok = true) :
    Stepped s (.addReturn index) { s with adds := s.adds.set index ⟨task,.returned (.ok task)⟩ } [.added task]
  | failed {index call : Nat} {task : TaskId} {enqueue : EnqueueCall} {status : Status}
      (active : s.adds[index]? = some ⟨task,.enqueuing call⟩) (found : s.enqueues[call]? = some enqueue)
      (ended : enqueue.phase = .returned status) (bad : status.ok = false) :
    Stepped s (.addReturn index) { s with adds := s.adds.set index ⟨task,.returned (.error status)⟩ } [.refused status]
  | started {scheduling : Status} {now : Int} (idle : s.running = false) (unstopped : s.stopping = false) :
    Stepped s (.start scheduling now) { s with
      running := true
      tasks := s.tasks.mapValues fun _ task => task.arm now
      workers := s.workers ++ s.groups.entries.flatMap fun entry =>
        List.replicate entry.2.config.workerCount { group := entry.1 }
      scheduler := .waiting } [.started]
  | notified {key : TaskId} {now : Int} {task : TaskState} (found : s.tasks.lookup key = some task)
      (other : task.config.kind ≠ .periodic) : Stepped s (.notify key now) (s.request key now) []
  | sequences {index : Nat} (part : Sequencing s index t seen) : Stepped s (.enqueueSequence index) t seen
  | reserves {index : Nat} {enqueuedAt : Int} (part : Reserving s index enqueuedAt t seen) :
    Stepped s (.enqueueReserve index enqueuedAt) t seen
  | pushes {index : Nat} (part : Pushing s index t seen) : Stepped s (.enqueuePush index) t seen
  | cancelled {key : TaskId} {task : TaskState} (found : s.tasks.lookup key = some task) :
    Stepped s (.cancel key) (s.setTask key { task with cancelled := true }) [.cancelled key]
  | pops {index : Nat} (part : Popping s index t seen) : Stepped s (.workerPop index) t seen
  | dispatches {index : Nat} {dispatchTime : Int} (part : Dispatching s index dispatchTime t seen) :
    Stepped s (.workerDispatch index dispatchTime) t seen
  | finishes {index : Nat} {start finish : Int} {callbackFailed : Bool}
      (part : Finishing s index start finish callbackFailed t seen) :
    Stepped s (.workerFinish index start finish callbackFailed) t seen
  | reports {index : Nat} {threw : Bool} (part : Reporting s index threw t seen) :
    Stepped s (.workerReport index threw) t seen
  | exits {index : Nat} (part : Exiting s index t seen) : Stepped s (.workerExit index) t seen
  | released {order : Table.Order TaskId TaskState} {checked now : Int} (waiting : s.scheduler = .waiting)
      (unstopped : s.stopping = false) :
    Stepped s (.schedulerPass order checked now) { s with
      tasks := s.tasks.mapValues fun _ task => (task.release now).1
      scheduler := .releasing ((order.arrange s.tasks.entries).flatMap fun entry =>
        (entry.2.release now).2.map fun releaseTime => (entry.1,releaseTime)) none } []
  | drained {pending : Option Nat} (releasing : s.scheduler = .releasing [] pending)
      (settled : s.settled pending = true) : Stepped s .schedulerRelease { s with scheduler := .waiting } []
  | issued {key : TaskId} {releaseTime : Int} {rest : List (TaskId × Int)} {pending : Option Nat}
      (releasing : s.scheduler = .releasing ((key,releaseTime) :: rest) pending)
      (settled : s.settled pending = true) :
    Stepped s .schedulerRelease { s.request key releaseTime with
      scheduler := .releasing rest (some s.enqueues.length) } []
  | left (waiting : s.scheduler = .waiting) (stopping : s.stopping = true) :
    Stepped s .schedulerExit { s with scheduler := .exited } []
  | acknowledged : Stepped s .acknowledgeDegraded { s with degraded := false } []
  | stopped {order : Table.Order CallbackGroupId CallbackGroup} (busy : s.running = true ∨ s.stopping = true) :
    Stepped s (.stop order) { s with
      running := false
      stopping := true
      stops := s.stops ++ [.marking ((order.arrange s.groups.entries).map Sigma.fst)] } []
  | marked {index : Nat} {key : CallbackGroupId} {rest : List CallbackGroupId} {group : CallbackGroup}
      (active : s.stops[index]? = some (.marking (key :: rest))) (found : s.groups.lookup key = some group) :
    Stepped s (.stopMark index) { s.setGroup key { group with stopping := true } with
      stops := s.stops.set index (.marking rest) } []
  | marking {index : Nat} (active : s.stops[index]? = some (.marking [])) :
    Stepped s (.stopMark index) { s with stops := s.stops.set index .joining } []
  | joined {index : Nat} (active : s.stops[index]? = some .joining) (joinable : s.joinable = true) :
    Stepped s (.stopJoin index) { s with stops := s.stops.set index .returned } [.stopped index]

theorem addTask_stepped (s : System) (config : TaskConfig) (callback : Bool) (now : Int) :
    Stepped s (.addTask config callback now) (s.addTask config callback now).1 (s.addTask config callback now).2 := by
  simp only [System.addTask]
  split
  · exact .refused rfl
  next valid =>
    split
    · exact .refused rfl
    next unstopped =>
      split
      · exact .refused rfl
      next housed =>
        rw [← Option.not_isSome,Bool.not_eq_true',Bool.not_eq_false] at housed
        split
        next async =>
          exact .added (by simpa using valid) (Bool.eq_false_iff.mpr unstopped) housed (.inl ⟨async,rfl,rfl⟩)
        next sync =>
          exact .added (by simpa using valid) (Bool.eq_false_iff.mpr unstopped) housed (.inr ⟨sync,rfl,rfl⟩)

theorem start_stepped (s : System) (scheduling : Status) (now : Int) :
    Stepped s (.start scheduling now) (s.start scheduling now).1 (s.start scheduling now).2 := by
  simp only [System.start]
  split
  · exact .refused rfl
  split
  · exact .refused rfl
  next idle =>
    split
    · exact .refused rfl
    next unstopped =>
      split
      · exact .refused rfl
      · exact .started (Bool.eq_false_iff.mpr idle) (Bool.eq_false_iff.mpr unstopped)

theorem createCallbackGroup_stepped (s : System) (config : CallbackGroupConfig) (scheduling : Status) :
    Stepped s (.createCallbackGroup config scheduling) (s.createCallbackGroup config scheduling).1
      (s.createCallbackGroup config scheduling).2 := by
  simp only [System.createCallbackGroup]
  split
  · exact .refused rfl
  next valid =>
    split
    · exact .refused rfl
    split
    · exact .refused rfl
    next early =>
      simp only [Bool.or_eq_true,not_or,Bool.not_eq_true] at early
      simp only [Bool.or_eq_true,not_or,decide_eq_true_eq] at valid
      exact .created (Nat.pos_of_ne_zero valid.1.2) early.1 early.2

theorem notify_stepped (s : System) (key : TaskId) (now : Int) :
    Stepped s (.notify key now) (s.notify key now).1 (s.notify key now).2 := by
  simp only [System.notify]
  split
  · exact .refused rfl
  next task found =>
    split
    · exact .refused rfl
    next other => exact .notified found other

theorem cancel_stepped (s : System) (key : TaskId) :
    Stepped s (.cancel key) (s.cancel key).1 (s.cancel key).2 := by
  simp only [System.cancel]
  split
  · exact .refused rfl
  next task found => exact .cancelled found

theorem addCheck_stepped {s t : System} (stepped : s.addCheck index now = some (t,seen)) :
    Stepped s (.addCheck index now) t seen := by
  simp only [System.addCheck] at stepped
  split at stepped
  next task active =>
    split at stepped <;> cases stepped
    next running => exact .checked active running
    next idle => exact .passed active (Bool.eq_false_iff.mpr idle)
  · contradiction

theorem addReturn_stepped {s t : System} (stepped : s.addReturn index = some (t,seen)) :
    Stepped s (.addReturn index) t seen := by
  simp only [System.addReturn] at stepped
  split at stepped
  next task call active =>
    split at stepped
    next found =>
      split at stepped <;> cases stepped
      next good => exact .returned active found rfl good
      next bad => exact .failed active found rfl (Bool.eq_false_iff.mpr bad)
    · contradiction
  · contradiction

theorem schedulerPass_stepped {s t : System} (stepped : s.schedulerPass order checked now = some (t,seen)) :
    Stepped s (.schedulerPass order checked now) t seen := by
  simp only [System.schedulerPass] at stepped
  split at stepped
  next waiting =>
    split at stepped
    · contradiction
    next unstopped =>
      split at stepped <;> cases stepped
      · exact .released waiting (Bool.eq_false_iff.mpr unstopped)
      · exact .waited waiting
  · contradiction

theorem schedulerRelease_stepped {s t : System} (stepped : s.schedulerRelease = some (t,seen)) :
    Stepped s .schedulerRelease t seen := by
  simp only [System.schedulerRelease] at stepped
  split at stepped
  next due pending releasing =>
    split at stepped
    next settled =>
      split at stepped <;> cases stepped
      · exact .drained releasing settled
      · exact .issued releasing settled
    · contradiction
  · contradiction

theorem stop_stepped (s : System) (order : Table.Order CallbackGroupId CallbackGroup) :
    Stepped s (.stop order) (s.stop order).1 (s.stop order).2 := by
  simp only [System.stop]
  split
  · exact .rested
  next busy =>
    refine .stopped ?_
    cases running : s.running <;> cases stopping : s.stopping <;> simp [running,stopping] at busy ⊢

theorem stopMark_stepped {s t : System} (stepped : s.stopMark index = some (t,seen)) :
    Stepped s (.stopMark index) t seen := by
  simp only [System.stopMark] at stepped
  split at stepped
  next key rest active =>
    split at stepped
    · contradiction
    next group found =>
      cases stepped
      exact .marked active found
  next active =>
    cases stepped
    exact .marking active
  · contradiction

theorem step_stepped {s t : System} (stepped : step s action = some (t,seen)) : Stepped s action t seen := by
  have answered {next : System × List Event} (known : Stepped s action next.1 next.2)
      (same : some next = some (t,seen)) : Stepped s action t seen := by
    cases same
    exact known
  cases action with
  | createCallbackGroup config scheduling => exact answered (createCallbackGroup_stepped s config scheduling) stepped
  | addTask config callback now => exact answered (addTask_stepped s config callback now) stepped
  | addCheck => exact addCheck_stepped stepped
  | addReturn => exact addReturn_stepped stepped
  | start scheduling now => exact answered (start_stepped s scheduling now) stepped
  | notify key now => exact answered (notify_stepped s key now) stepped
  | enqueueSequence => exact .sequences (enqueueSequence_sequencing stepped)
  | enqueueReserve => exact .reserves (enqueueReserve_reserving stepped)
  | enqueuePush => exact .pushes (enqueuePush_pushing stepped)
  | cancel key => exact answered (cancel_stepped s key) stepped
  | workerPop => exact .pops (workerPop_popping stepped)
  | workerDispatch => exact .dispatches (workerDispatch_dispatching stepped)
  | workerFinish => exact .finishes (workerFinish_finishing stepped)
  | workerReport => exact .reports (workerReport_reporting stepped)
  | workerExit => exact .exits (workerExit_exiting stepped)
  | schedulerPass => exact schedulerPass_stepped stepped
  | schedulerRelease => exact schedulerRelease_stepped stepped
  | schedulerExit =>
    obtain ⟨leaving,stepped⟩ := Option.ite_none_right_eq_some.mp stepped
    cases stepped
    exact .left leaving.1 leaving.2
  | acknowledgeDegraded => exact answered .acknowledged stepped
  | stop order => exact answered (stop_stepped s order) stepped
  | stopMark => exact stopMark_stepped stepped
  | stopJoin =>
    simp only [step,System.stopJoin] at stepped
    split at stepped
    next active =>
      obtain ⟨joinable,stepped⟩ := Option.ite_none_right_eq_some.mp stepped
      cases stepped
      exact .joined active joinable
    · contradiction

end AutoRuntime.Executor
