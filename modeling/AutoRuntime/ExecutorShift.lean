import AutoRuntime.ExecutorConservation

/-! What a step of the executor does to its groups, its workers and its flags, and how far it
takes an `Enqueue` call. -/
namespace AutoRuntime.Executor

/-- Everything that starting and stopping work on. -/
structure House where
  groups : Table CallbackGroupId CallbackGroup
  workers : List Worker
  running : Bool
  stopping : Bool
  stops : List StopPhase

def System.house (s : System) : House := ⟨s.groups,s.workers,s.running,s.stopping,s.stops⟩

/-- The event tells of a job or of the end of a `Stop`. -/
def Event.weighty : Event → Bool
  | .popped _ _ | .executed _ | .stopped _ => true
  | _ => false

def Idle (seen : List Event) : Prop := ∀ event ∈ seen, event.weighty = false

inductive Shift (s : System) : House → List Event → Prop where
  | still (idle : Idle seen) : Shift s s.house seen
  | founded (config : CallbackGroupConfig) (waiting : s.running = false) (unstopped : s.stopping = false)
    (manned : 0 < config.workerCount) (idle : Idle seen) :
    Shift s { s.house with groups := s.groups.insert s.nextGroupId { config := config } } seen
  | started (waiting : s.running = false) (unstopped : s.stopping = false) (idle : Idle seen) :
    Shift s { s.house with
      running := true
      workers := s.workers ++ s.groups.entries.flatMap fun entry =>
        List.replicate entry.2.config.workerCount { group := entry.1 } } seen
  | closing (order : Table.Order CallbackGroupId CallbackGroup)
    (busy : s.running = true ∨ s.stopping = true) (idle : Idle seen) :
    Shift s { s.house with
      running := false
      stopping := true
      stops := s.stops ++ [.marking ((order.arrange s.groups.entries).map Sigma.fst)] } seen
  | marked (index : Nat) (key : CallbackGroupId) (rest : List CallbackGroupId) (group : CallbackGroup)
    (active : s.stops[index]? = some (.marking (key :: rest))) (found : s.groups.lookup key = some group)
    (idle : Idle seen) :
    Shift s { s.house with
      groups := s.groups.modify key fun _ => { group with stopping := true }
      stops := s.stops.set index (.marking rest) } seen
  | marking (index : Nat) (active : s.stops[index]? = some (.marking [])) (idle : Idle seen) :
    Shift s { s.house with stops := s.stops.set index .joining } seen
  | joined (index : Nat) (active : s.stops[index]? = some .joining)
    (gone : ∀ worker ∈ s.workers, worker.phase = .exited) :
    Shift s { s.house with stops := s.stops.set index .returned } [.stopped index]
  | pushed (key : CallbackGroupId) (group : CallbackGroup) (job : Job)
    (found : s.groups.lookup key = some group) (unmarked : group.stopping = false) (idle : Idle seen) :
    Shift s { s.house with
      groups := s.groups.modify key fun _ => { group with queue := group.queue ++ [job] } } seen
  | popped (index : Nat) (worker : Worker) (group : CallbackGroup) (job : Job)
    (active : s.workers[index]? = some worker) (idle : worker.phase = .idle)
    (found : s.groups.lookup worker.group = some group) (member : job ∈ group.queue) :
    Shift s { s.house with
      groups := s.groups.modify worker.group fun _ => { group with queue := group.queue.erase job }
      workers := s.workers.set index { worker with phase := .popped job group.stopping } }
      [.popped worker.group job]
  | executed (index : Nat) (worker : Worker) (job : Job) (task : TaskState)
    (active : s.workers[index]? = some worker) (held : worker.phase = .popped job false)
    (found : s.tasks.lookup job.task = some task) (live : task.cancelled = false) :
    Shift s { s.house with workers := s.workers.set index { worker with phase := .executing job } }
      [.executed job]
  | worked (index : Nat) (worker : Worker) (phase : WorkerPhase) (active : s.workers[index]? = some worker)
    (busy : worker.phase ≠ .exited) (next : phase = .idle ∨ ∃ event, phase = .reporting event)
    (idle : Idle seen) :
    Shift s { s.house with workers := s.workers.set index { worker with phase := phase } } seen
  | exited (index : Nat) (worker : Worker) (group : CallbackGroup)
    (active : s.workers[index]? = some worker) (found : s.groups.lookup worker.group = some group)
    (marked : group.stopping = true) (empty : group.queue = []) (idle : Idle seen) :
    Shift s { s.house with workers := s.workers.set index { worker with phase := .exited } } seen

theorem dispatch_execute (executes : (TaskState.dispatch task job flag now).2 = .execute) :
    flag = false ∧ task.cancelled = false := by
  have same : task.taken.cancelled = task.cancelled := by
    simp only [TaskState.taken]
    split <;> rfl
  simp only [TaskState.dispatch,same] at executes
  split at executes
  · contradiction
  next live =>
    simp only [Bool.or_eq_true,not_or,Bool.not_eq_true] at live
    exact ⟨live.2,live.1⟩

theorem Dispatching.shift (part : Dispatching s index now t seen) : Shift s t.house seen := by
  cases part with
  | discarded active popped => exact .worked index _ .idle active (by simp [popped]) (.inl rfl) (by simp [Idle])
  | dropped active popped =>
    exact .worked index _ (.reporting _) active (by simp [popped]) (.inr ⟨_,rfl⟩) (by simp [Idle,Event.weighty])
  | executed active popped found decided =>
    obtain ⟨rfl,live⟩ := dispatch_execute (congrArg Prod.snd decided)
    exact .executed index _ _ _ active popped found live

theorem Finishing.shift (part : Finishing s index start finish failed t seen) : Shift s t.house seen := by
  cases part with
  | missed active executing =>
    exact .worked index _ (.reporting _) active (by simp [executing]) (.inr ⟨_,rfl⟩) (by simp [Idle,Event.weighty])
  | met active executing => exact .worked index _ .idle active (by simp [executing]) (.inl rfl) (by simp [Idle])

/-- Sections that only touch tasks, calls and the scheduler. -/
def Action.aside : Action → Bool
  | .addTask _ _ _ | .addCheck _ _ | .addReturn _ | .notify _ _ | .enqueueSequence _ | .enqueueReserve _ _
  | .cancel _ | .schedulerPass _ _ _ | .schedulerRelease | .schedulerExit | .acknowledgeDegraded => true
  | _ => false

theorem aside_house (aside : action.aside = true) (stepped : step s action = some (t,seen)) :
    t.house = s.house ∧ Idle seen := by
  cases step_stepped stepped with
  | added valid unstopped housed told =>
    rcases told with ⟨-,-,rfl⟩ | ⟨-,-,rfl⟩ <;> exact ⟨rfl,by simp [Idle,Event.weighty]⟩
  | sequences part | reserves part => cases part <;> exact ⟨rfl,by simp [Idle,Event.weighty]⟩
  | created | started | pushes | pops | dispatches | finishes | reports | exits | stopped | marked | marking
  | joined => contradiction
  | _ => exact ⟨rfl,by simp [Idle,Event.weighty]⟩

theorem step_shift (stepped : step s action = some (t,seen)) : Shift s t.house seen := by
  cases aside : action.aside with
  | true =>
    obtain ⟨same,idle⟩ := aside_house aside stepped
    exact same ▸ .still idle
  | false =>
    cases step_stepped stepped with
    | refused | rested => exact .still (by simp [Idle,Event.weighty])
    | created manned idle unstopped => exact .founded _ idle unstopped manned (by simp [Idle,Event.weighty])
    | started idle unstopped => exact .started idle unstopped (by simp [Idle,Event.weighty])
    | pushes part =>
      cases part with
      | withdrawn | overflowed => exact .still (by simp [Idle,Event.weighty])
      | pushed active reserved found present going => exact .pushed _ _ _ present going (by simp [Idle,Event.weighty])
    | pops part =>
      cases part with
      | popped active idle present chosen => exact .popped _ _ _ _ active idle present (top_mem chosen)
    | dispatches part | finishes part => exact part.shift
    | reports part =>
      cases part with
      | reported active reporting => exact .worked _ _ .idle active (by simp [reporting]) (.inl rfl) (by simp [Idle])
    | exits part =>
      cases part with
      | exited active idle present stopping drained =>
        exact .exited _ _ _ active present stopping drained (by simp [Idle])
    | stopped busy => exact .closing _ busy (by simp [Idle])
    | marked active found => exact .marked _ _ _ _ active found (by simp [Idle])
    | marking active => exact .marking _ active (by simp [Idle])
    | joined active joinable =>
      simp only [System.joinable,Bool.and_eq_true,List.all_eq_true,beq_iff_eq] at joinable
      exact .joined _ active joinable.2
    | _ => contradiction

def notAccepting : Status := ⟨.closed,"executor is not accepting work"⟩

/-- The sections of `Enqueue`. -/
inductive Passes (s : System) (call : EnqueueCall) : EnqueuePhase → Prop where
  | closed (requested : call.phase = .requested) : Passes s call (.returned notAccepting)
  | homeless (requested : call.phase = .requested) (running : s.running = true) (unstopped : s.stopping = false) :
    Passes s call (.returned ⟨.notFound,"callback group no longer exists"⟩)
  | sequenced (group : CallbackGroupId) (sequence : Nat) (requested : call.phase = .requested)
    (running : s.running = true) (unstopped : s.stopping = false) : Passes s call (.sequenced group sequence)
  | refused (group : CallbackGroupId) (sequence : Nat) (status : Status)
    (sequenced : call.phase = .sequenced group sequence) (failed : status.ok = false) :
    Passes s call (.returned status)
  | reserved (group : CallbackGroupId) (sequence : Nat) (enqueuedAt : Int) (task : TaskState)
    (sequenced : call.phase = .sequenced group sequence) (found : s.tasks.lookup call.task = some task)
    (live : task.cancelled = false) : Passes s call (.reserved group sequence enqueuedAt)
  | finished (group : CallbackGroupId) (sequence : Nat) (enqueuedAt : Int) (status : Status)
    (reserved : call.phase = .reserved group sequence enqueuedAt) : Passes s call (.returned status)

inductive Lined (s : System) : List EnqueueCall → Prop where
  | same : Lined s s.enqueues
  | requested (task : TaskId) (releaseTime : Int) :
    Lined s (s.enqueues ++ [{ task := task, releaseTime := releaseTime }])
  | passed (index : Nat) (call : EnqueueCall) (phase : EnqueuePhase) (active : s.enqueues[index]? = some call)
    (passes : Passes s call phase) : Lined s (s.enqueues.set index { call with phase := phase })

theorem reserve_failed (refused : TaskState.reserve task = (counted,some status)) : status.ok = false := by
  simp only [TaskState.reserve] at refused
  split at refused
  · rw [← Option.some.inj (Prod.mk.inj refused).2]
    rfl
  split at refused
  · rw [← Option.some.inj (Prod.mk.inj refused).2]
    rfl
  · simp at refused

theorem reserve_live (granted : TaskState.reserve task = (counted,none)) : task.cancelled = false := by
  simp only [TaskState.reserve] at granted
  split at granted
  · simp at granted
  next live => simpa using live

theorem step_lined (stepped : step s action = some (t,seen)) : Lined s t.enqueues := by
  cases step_stepped stepped with
  | checked | notified | issued => exact .requested _ _
  | sequences part =>
    cases part with
    | closed active requested => exact .passed _ _ _ active (.closed requested)
    | homeless active requested found accepting =>
      exact .passed _ _ _ active (.homeless requested accepting.1 accepting.2)
    | sequenced active requested found accepting =>
      exact .passed _ _ _ active (.sequenced _ _ requested accepting.1 accepting.2)
  | reserves part =>
    cases part with
    | refused active sequenced found refused =>
      exact .passed _ _ _ active (.refused _ _ _ sequenced (reserve_failed refused))
    | granted active sequenced found granted =>
      exact .passed _ _ _ active (.reserved _ _ _ _ sequenced found (reserve_live granted))
  | pushes part =>
    cases part with
    | withdrawn active reserved | overflowed active reserved | pushed active reserved =>
      exact .passed _ _ _ active (.finished _ _ _ _ reserved)
  | pops part | dispatches part | finishes part | reports part | exits part => cases part <;> exact .same
  | _ => exact .same

/-- A task keeps its configuration, stays cancelled, and starts nothing once it is cancelled. -/
structure Advances (before after : TaskState) : Prop where
  config : after.config = before.config
  cancelled : before.cancelled = true → after.cancelled = true
  started : before.cancelled = true → after.stats.started = before.stats.started

theorem Advances.refl (task : TaskState) : Advances task task := ⟨rfl,id,fun _ => rfl⟩

theorem SameAccount.advances (same : SameAccount before after) : Advances before after := by
  refine ⟨same.config,fun was => ?_,fun _ => same.started⟩
  rw [← Bool.not_eq_false]
  intro live
  simp [same.cancelled live] at was

theorem reserve_advances (task : TaskState) : Advances task task.reserve.1 := by
  simp only [TaskState.reserve]
  split
  · exact .refl task
  · split <;> exact ⟨rfl,id,fun _ => rfl⟩

theorem dispatch_advances (task : TaskState) (job : Job) (flag : Bool) (now : Int) :
    Advances task (task.dispatch job flag now).1 := by
  have taken : Advances task task.taken := by
    simp only [TaskState.taken]
    split <;> exact ⟨rfl,id,fun _ => rfl⟩
  simp only [TaskState.dispatch]
  split
  · exact taken
  next live =>
    have idle : task.cancelled ≠ true := by
      intro was
      simp [taken.cancelled was] at live
    split <;> exact ⟨taken.config,fun was => absurd was idle,fun was => absurd was idle⟩

theorem setTask_advances (found : s.tasks.lookup focus = some task) (advances : Advances task changed)
    (present : s.tasks.lookup key = some before) :
    ∃ after, (System.setTask s focus changed).tasks.lookup key = some after ∧ Advances before after := by
  rw [lookup_setTask found]
  split
  next same =>
    subst same
    cases found.symm.trans present
    exact ⟨changed,rfl,advances⟩
  · exact ⟨before,present,.refl before⟩

theorem carried_task (carries : action.carries = true) (stepped : step s action = some (t,seen)) :
    t.tasks = s.tasks ∨ ∃ focus task changed, s.tasks.lookup focus = some task ∧ Advances task changed ∧
      t.tasks = (System.setTask s focus changed).tasks := by
  cases action with
  | enqueueReserve =>
    cases enqueueReserve_reserving stepped with
    | @refused group sequence call task counted status active sequenced found refused =>
      have advances := reserve_advances task
      rw [refused] at advances
      exact .inr ⟨call.task,task,counted,found,advances,rfl⟩
    | @granted group sequence call task counted active sequenced found granted =>
      have advances := reserve_advances task
      rw [granted] at advances
      exact .inr ⟨call.task,task,counted,found,advances,rfl⟩
  | enqueuePush =>
    cases enqueuePush_pushing stepped with
    | @withdrawn place sequence enqueuedAt call task group active reserved found present stopping =>
      exact .inr ⟨call.task,task,task.withdraw,found,⟨rfl,id,fun _ => rfl⟩,rfl⟩
    | @overflowed place sequence enqueuedAt call task group active reserved found present going full =>
      exact .inr ⟨call.task,task,task.overflow,found,⟨rfl,id,fun _ => rfl⟩,rfl⟩
    | pushed => exact .inl rfl
  | workerPop =>
    cases workerPop_popping stepped with
    | popped => exact .inl rfl
  | workerDispatch index now =>
    have advanced {task taken : TaskState} {job : Job} {flag : Bool} {verdict : Dispatch}
        (decided : task.dispatch job flag now = (taken,verdict)) : Advances task taken := by
      have advances := dispatch_advances task job flag now
      rwa [decided] at advances
    cases workerDispatch_dispatching stepped with
    | discarded active popped found decided | dropped active popped found decided
    | executed active popped found decided => exact .inr ⟨_,_,_,found,advanced decided,rfl⟩
  | _ => contradiction

theorem step_advances (conserved : Conserved s history) (stepped : step s action = some (t,seen))
    (present : s.tasks.lookup key = some before) :
    ∃ after, t.tasks.lookup key = some after ∧ Advances before after := by
  cases carries : action.carries with
  | false =>
    obtain ⟨changed,found,same⟩ := (step_settled conserved carries stepped).tasks.kept present
    exact ⟨changed,found,same.advances⟩
  | true =>
    rcases carried_task carries stepped with same | ⟨focus,task,changed,found,advances,same⟩
    · exact ⟨before,same ▸ present,.refl before⟩
    · rw [same]
      exact setTask_advances found advances present

end AutoRuntime.Executor
