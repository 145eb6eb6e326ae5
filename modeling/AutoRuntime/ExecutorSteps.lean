import AutoRuntime.ExecutorSections

/-! Where the jobs of the executor are. A job is reserved by an `Enqueue` call, lies in a
group's queue, or is held by a worker that has not told its task yet; the actions that move
none of them are settled here once and for all. -/
namespace AutoRuntime.Executor

open List Pool Nat Table

def EnqueueCall.reservation (call : EnqueueCall) : Option (CallbackGroupId × TaskId) :=
  match call.phase with
  | .reserved group _ _ => some (group,call.task)
  | .requested | .sequenced _ _ | .returned _ => none

def EnqueueCall.destination (call : EnqueueCall) : Option (CallbackGroupId × TaskId) :=
  match call.phase with
  | .sequenced group _ | .reserved group _ _ => some (group,call.task)
  | .requested | .returned _ => none

def EnqueueCall.ticket (call : EnqueueCall) : Option Nat :=
  match call.phase with
  | .sequenced _ sequence | .reserved _ sequence _ => some sequence
  | .requested | .returned _ => none

def Worker.holding (worker : Worker) : Option (Job × Bool) :=
  match worker.phase with
  | .popped job groupStopping => some (job,groupStopping)
  | .idle | .executing _ | .reporting _ | .exited => none

/-- Jobs between the task section and the group section of `Enqueue`. -/
def System.reservations (s : System) : List (CallbackGroupId × TaskId) :=
  s.enqueues.filterMap EnqueueCall.reservation

def System.destinations (s : System) : List (CallbackGroupId × TaskId) :=
  s.enqueues.filterMap EnqueueCall.destination

/-- Sequence numbers of the calls that have not pushed yet. -/
def System.tickets (s : System) : List Nat := s.enqueues.filterMap EnqueueCall.ticket

/-- Jobs popped but not yet taken off their task, with the flag read at the pop. -/
def System.holdings (s : System) : List (Job × Bool) := s.workers.filterMap Worker.holding

def System.queue (s : System) (group : CallbackGroupId) : List Job :=
  match s.groups.lookup group with
  | some found => found.queue
  | none => []

def placed (history : List Event) : List (CallbackGroupId × Job) :=
  history.filterMap fun
    | .pushed group job => some (group,job)
    | _ => none

def removed (history : List Event) : List (CallbackGroupId × Job) :=
  history.filterMap fun
    | .popped group job => some (group,job)
    | _ => none

def pushedTo (group : CallbackGroupId) (history : List Event) : List Job := Pool.share group (placed history)

def poppedFrom (group : CallbackGroupId) (history : List Event) : List Job :=
  Pool.share group (removed history)

/-- The numbers of the jobs pushed so far. -/
def numbers (history : List Event) : List Nat := (placed history).map (·.2.sequence)

theorem setEnqueue_reservations (active : s.enqueues[index]? = some call) (phase : EnqueuePhase) :
    (call.reservation.toList ++ (System.setEnqueue s index call phase).reservations).Perm
      ({ call with phase := phase : EnqueueCall }.reservation.toList ++ s.reservations) :=
  filterMap_set_perm EnqueueCall.reservation s.enqueues active _

theorem setEnqueue_destinations (active : s.enqueues[index]? = some call) (phase : EnqueuePhase) :
    (call.destination.toList ++ (System.setEnqueue s index call phase).destinations).Perm
      ({ call with phase := phase : EnqueueCall }.destination.toList ++ s.destinations) :=
  filterMap_set_perm EnqueueCall.destination s.enqueues active _

theorem setEnqueue_tickets (active : s.enqueues[index]? = some call) (phase : EnqueuePhase) :
    (call.ticket.toList ++ (System.setEnqueue s index call phase).tickets).Perm
      ({ call with phase := phase : EnqueueCall }.ticket.toList ++ s.tickets) :=
  filterMap_set_perm EnqueueCall.ticket s.enqueues active _

theorem setWorker_holdings (active : s.workers[index]? = some worker) (phase : WorkerPhase) :
    (worker.holding.toList ++ (System.setWorker s index worker phase).holdings).Perm
      ({ worker with phase := phase : Worker }.holding.toList ++ s.holdings) :=
  filterMap_set_perm Worker.holding s.workers active _

theorem queue_eq (found : s.groups.lookup group = some value) : System.queue s group = value.queue := by
  simp [System.queue,found]

theorem reservation_destination : EnqueueCall.reservation call = some place →
    call.destination = some place := by
  simp only [EnqueueCall.reservation,EnqueueCall.destination]
  cases call.phase <;> simp

/-- Nothing that the conservation of jobs speaks of has changed. -/
structure SameAccount (before after : TaskState) : Prop where
  config : after.config = before.config
  queued : after.queued = before.queued
  releases : after.stats.releases = before.stats.releases
  queueOverflows : after.stats.queueOverflows = before.stats.queueOverflows
  started : after.stats.started = before.stats.started
  deadlineDrops : after.stats.deadlineDrops = before.stats.deadlineDrops
  cancelled : after.cancelled = false → before.cancelled = false

theorem SameAccount.refl (task : TaskState) : SameAccount task task := ⟨rfl,rfl,rfl,rfl,rfl,rfl,id⟩

/-- A task as `AddTask` creates it. -/
structure Blank (task : TaskState) : Prop where
  queued : task.queued = 0
  stats : task.stats = {}

structure TasksKept (next : TaskId) (before after : Table TaskId TaskState) : Prop where
  kept : before.lookup key = some task → ∃ changed, after.lookup key = some changed ∧ SameAccount task changed
  fresh : before.lookup key = none → after.lookup key = some added → Blank added ∧ key < next

structure SameQueue (stopping : Bool) (before after : CallbackGroup) : Prop where
  queue : after.queue = before.queue
  config : after.config = before.config
  marked : after.stopping = true → before.stopping = true ∨ stopping = true

structure GroupsKept (next : CallbackGroupId) (stopping : Bool)
    (before after : Table CallbackGroupId CallbackGroup) : Prop where
  kept : before.lookup key = some group →
    ∃ changed, after.lookup key = some changed ∧ SameQueue stopping group changed
  fresh : before.lookup key = none → after.lookup key = some added →
    added.queue = [] ∧ added.stopping = false ∧ key < next

theorem TasksKept.refl (next : TaskId) (tasks : Table TaskId TaskState) : TasksKept next tasks tasks :=
  ⟨fun found => ⟨_,found,.refl _⟩,fun absent found => by simp [absent] at found⟩

theorem GroupsKept.refl (next : CallbackGroupId) (stopping : Bool)
    (groups : Table CallbackGroupId CallbackGroup) : GroupsKept next stopping groups groups :=
  ⟨fun found => ⟨_,found,rfl,rfl,.inl⟩,fun absent found => by simp [absent] at found⟩

theorem TasksKept.modify (next : TaskId) {tasks : Table TaskId TaskState}
    (found : tasks.lookup key = some task) (same : SameAccount task changed) :
    TasksKept next tasks (tasks.modify key fun _ => changed) := by
  refine ⟨modify_related found same .refl,fun absent present => ?_⟩
  rw [lookup_modify_eq_none.mpr absent] at present
  contradiction

theorem TasksKept.mapValues (next : TaskId) (tasks : Table TaskId TaskState)
    (change : TaskId → TaskState → TaskState) (same : ∀ key task, SameAccount task (change key task)) :
    TasksKept next tasks (tasks.mapValues change) := by
  constructor
  · intro key task found
    exact ⟨change key task,by simp [found],same key task⟩
  · intro key added absent present
    simp [absent] at present

theorem GroupsKept.modify (next : CallbackGroupId) {groups : Table CallbackGroupId CallbackGroup}
    (found : groups.lookup key = some group) (same : SameQueue stopping group changed) :
    GroupsKept next stopping groups (groups.modify key fun _ => changed) := by
  refine ⟨modify_related found same fun _ => ⟨rfl,rfl,.inl⟩,fun absent present => ?_⟩
  rw [lookup_modify_eq_none.mpr absent] at present
  contradiction

def Silent (seen : List Event) : Prop :=
  ∀ event ∈ seen, ∀ group job, event ≠ .pushed group job ∧ event ≠ .popped group job

theorem Silent.placed (silent : Silent seen) : placed seen = [] := by
  rw [Executor.placed,filterMap_eq_nil_iff]
  intro event member
  cases event <;> simp
  exact absurd rfl (silent _ member _ _).1

theorem Silent.removed (silent : Silent seen) : removed seen = [] := by
  rw [Executor.removed,filterMap_eq_nil_iff]
  intro event member
  cases event <;> simp
  exact absurd rfl (silent _ member _ _).2

@[simp] theorem placed_append (history seen : List Event) :
    placed (history ++ seen) = placed history ++ placed seen :=
  filterMap_append

@[simp] theorem removed_append (history seen : List Event) :
    removed (history ++ seen) = removed history ++ removed seen :=
  filterMap_append

theorem pushedTo_append (group : CallbackGroupId) (history seen : List Event) :
    pushedTo group (history ++ seen) = pushedTo group history ++ pushedTo group seen := by
  simp [pushedTo,share]

theorem poppedFrom_append (group : CallbackGroupId) (history seen : List Event) :
    poppedFrom group (history ++ seen) = poppedFrom group history ++ poppedFrom group seen := by
  simp [poppedFrom,share]

@[simp] theorem numbers_append (history seen : List Event) :
    numbers (history ++ seen) = numbers history ++ numbers seen := by
  simp [numbers]

theorem Silent.pushedTo (silent : Silent seen) (group : CallbackGroupId) : pushedTo group seen = [] := by
  simp [Executor.pushedTo,silent.placed,share]

theorem Silent.poppedFrom (silent : Silent seen) (group : CallbackGroupId) : poppedFrom group seen = [] := by
  simp [Executor.poppedFrom,silent.removed,share]

theorem Silent.numbers (silent : Silent seen) : numbers seen = [] := by
  simp [Executor.numbers,silent.placed]

/-- No job has moved. At most a call has drawn the next sequence number. -/
structure Settled (s t : System) (seen : List Event) : Prop where
  tasks : TasksKept t.nextTaskId s.tasks t.tasks
  groups : GroupsKept t.nextGroupId t.stopping s.groups t.groups
  stopping : s.stopping = true → t.stopping = true
  stops : t.stops ≠ [] → s.stops ≠ [] ∨ t.stopping = true
  reservations : t.reservations = s.reservations
  holdings : t.holdings = s.holdings
  tickets : t.tickets = s.tickets ∧ t.nextJobSequence = s.nextJobSequence ∨
    t.tickets.Perm (s.nextJobSequence :: s.tickets) ∧ t.nextJobSequence = s.nextJobSequence + 1
  destinations : place ∈ t.destinations → place ∈ s.destinations ∨
    ∃ task, s.tasks.lookup place.2 = some task ∧ task.config.callbackGroup = place.1
  nextTaskId : s.nextTaskId ≤ t.nextTaskId
  nextGroupId : s.nextGroupId ≤ t.nextGroupId
  silent : Silent seen

theorem Settled.queue (settled : Settled s t seen) (group : CallbackGroupId) :
    t.queue group = s.queue group := by
  cases found : s.groups.lookup group with
  | some =>
    obtain ⟨new,present,same⟩ := settled.groups.kept found
    rw [queue_eq found,queue_eq present,same.queue]
  | none =>
    cases present : t.groups.lookup group with
    | none => simp [System.queue,found,present]
    | some => simp [System.queue,found,present,(settled.groups.fresh found present).1]

theorem Settled.of_tables (tasks : TasksKept t.nextTaskId s.tasks t.tasks)
    (groups : GroupsKept t.nextGroupId t.stopping s.groups t.groups)
    (stopping : s.stopping = true → t.stopping = true)
    (stops : t.stops ≠ [] → s.stops ≠ [] ∨ t.stopping = true) (enqueues : t.enqueues = s.enqueues)
    (holdings : t.holdings = s.holdings) (sequence : t.nextJobSequence = s.nextJobSequence)
    (taskIds : s.nextTaskId ≤ t.nextTaskId) (groupIds : s.nextGroupId ≤ t.nextGroupId)
    (silent : Silent seen) : Settled s t seen where
  tasks := tasks
  groups := groups
  stopping := stopping
  stops := stops
  reservations := by simp [System.reservations,enqueues]
  holdings := holdings
  tickets := .inl ⟨by simp [System.tickets,enqueues],sequence⟩
  destinations := fun member => .inl (by simpa [System.destinations,enqueues] using member)
  nextTaskId := taskIds
  nextGroupId := groupIds
  silent := silent

theorem Settled.of_frame (tasks : t.tasks = s.tasks) (groups : t.groups = s.groups)
    (stopping : s.stopping = true → t.stopping = true)
    (stops : t.stops ≠ [] → s.stops ≠ [] ∨ t.stopping = true) (enqueues : t.enqueues = s.enqueues)
    (workers : t.workers = s.workers) (sequence : t.nextJobSequence = s.nextJobSequence)
    (taskIds : t.nextTaskId = s.nextTaskId) (groupIds : t.nextGroupId = s.nextGroupId)
    (silent : Silent seen) : Settled s t seen :=
  .of_tables (by rw [tasks]; exact .refl _ _) (by rw [groups]; exact .refl _ _ _) stopping stops enqueues
    (by simp [System.holdings,workers]) sequence (le_of_eq taskIds.symm) (le_of_eq groupIds.symm) silent

theorem Settled.refl (s : System) (silent : Silent seen) : Settled s s seen :=
  .of_frame rfl rfl id .inl rfl rfl rfl rfl rfl silent

theorem created_settled (config : CallbackGroupConfig) (unknown : s.groups.lookup s.nextGroupId = none) :
    Settled s { s with
      groups := s.groups.insert s.nextGroupId { config := config }
      nextGroupId := s.nextGroupId + 1 } [.created s.nextGroupId] := by
  refine .of_tables (.refl _ s.tasks) ⟨?_,?_⟩ id .inl rfl rfl rfl (le_refl _) (le_succ _) (by simp [Silent])
  · intro key group found
    exact ⟨group,lookup_insert_old unknown found,rfl,rfl,.inl⟩
  · intro key added absent present
    rcases insert_cases present with ⟨rfl,rfl⟩ | ⟨-,old⟩
    · exact ⟨rfl,rfl,lt_succ_self _⟩
    · simp [absent] at old

theorem added_settled (unknown : s.tasks.lookup s.nextTaskId = none) (blank : Blank task) (adds : List AddCall)
    (silent : Silent seen) :
    Settled s { s with
      tasks := s.tasks.insert s.nextTaskId task, nextTaskId := s.nextTaskId + 1, adds := adds } seen := by
  refine .of_tables ⟨?_,?_⟩ (.refl _ _ s.groups) id .inl rfl rfl rfl (le_succ _) (le_refl _) silent
  · intro key old found
    exact ⟨old,lookup_insert_old unknown found,.refl old⟩
  · intro key added absent present
    rcases insert_cases present with ⟨rfl,rfl⟩ | ⟨-,old⟩
    · exact ⟨blank,lt_succ_self _⟩
    · simp [absent] at old

theorem request_settled (s : System) (task : TaskId) (releaseTime : Int) (adds : List AddCall)
    (scheduler : SchedulerPhase) :
    Settled s { s.request task releaseTime with adds := adds, scheduler := scheduler } [] where
  tasks := .refl _ s.tasks
  groups := .refl _ s.stopping s.groups
  stopping := id
  stops := .inl
  reservations := by simp [System.reservations,System.request,EnqueueCall.reservation]
  holdings := rfl
  tickets := .inl ⟨by simp [System.tickets,System.request,EnqueueCall.ticket],rfl⟩
  destinations := fun member => .inl (by
    simpa [System.destinations,System.request,EnqueueCall.destination] using member)
  nextTaskId := le_refl _
  nextGroupId := le_refl _
  silent := by simp [Silent]

theorem arm_same (task : TaskState) (now : Int) : SameAccount task (task.arm now) := by
  simp only [TaskState.arm]
  split
  · exact ⟨rfl,rfl,rfl,rfl,rfl,rfl,id⟩
  · exact .refl task

theorem started_settled (s : System) (now : Int) :
    Settled s { s with
      running := true
      tasks := s.tasks.mapValues fun _ task => task.arm now
      workers := s.workers ++ s.groups.entries.flatMap fun entry =>
        List.replicate entry.2.config.workerCount { group := entry.1 }
      scheduler := .waiting } [.started] := by
  refine .of_tables (.mapValues _ s.tasks _ fun _ task => arm_same task now) (.refl _ _ s.groups) id
    .inl rfl ?_ rfl (le_refl _) (le_refl _) (by simp [Silent])
  simp [System.holdings,Worker.holding,filterMap_flatMap]

theorem Sequencing.settled (part : Sequencing s index t seen) : Settled s t seen := by
  have refused {call : EnqueueCall} (active : s.enqueues[index]? = some call) (requested : call.phase = .requested)
      (status : Status) : Settled s (s.setEnqueue index call (.returned status)) [.enqueued index status] := by
    refine ⟨.refl _ _,.refl _ _ _,id,.inl,?_,rfl,.inl ⟨?_,rfl⟩,fun {place} member => .inl ?_,
      le_refl _,le_refl _,by simp [Silent]⟩
    · exact filterMap_set_same _ _ active (by simp [EnqueueCall.reservation,requested])
    · exact filterMap_set_same _ _ active (by simp [EnqueueCall.ticket,requested])
    · have same : (s.setEnqueue index call (.returned status)).destinations = s.destinations :=
        filterMap_set_same _ _ active (by simp [EnqueueCall.destination,requested])
      exact same ▸ member
  cases part with
  | closed active requested | homeless active requested => exact refused active requested _
  | @sequenced call task active requested found accepting =>
    refine ⟨.refl _ _,.refl _ _ _,id,.inl,?_,rfl,.inr ⟨?_,rfl⟩,fun {place} member => ?_,
      le_refl _,le_refl _,by simp [Silent]⟩
    · exact filterMap_set_same _ _ active (by simp [EnqueueCall.reservation,requested])
    · have drawn := setEnqueue_tickets active (.sequenced task.config.callbackGroup s.nextJobSequence)
      rw [show call.ticket = none by simp [EnqueueCall.ticket,requested]] at drawn
      exact drawn
    · have drawn := setEnqueue_destinations active (.sequenced task.config.callbackGroup s.nextJobSequence)
      rw [show call.destination = none by simp [EnqueueCall.destination,requested]] at drawn
      rcases mem_cons.mp (drawn.subset member) with rfl | old
      · exact .inr ⟨task,found,rfl⟩
      · exact .inl old

theorem worker_settled (active : s.workers[index]? = some worker) (idle : worker.holding = none)
    (next : { worker with phase := phase : Worker }.holding = none)
    (found : s.tasks.lookup key = some task) (same : SameAccount task changed) (degraded : Bool)
    (silent : Silent seen) :
    Settled s { (s.setTask key changed).setWorker index worker phase with degraded := degraded } seen :=
  .of_tables (.modify _ found same) (.refl _ _ s.groups) id .inl rfl
    (filterMap_set_same _ _ active (next.trans idle.symm)) rfl (le_refl _) (le_refl _) silent

theorem finish_same (task : TaskState) (job : Job) (start finish : Int) (callbackFailed : Bool) :
    SameAccount task (task.finish job start finish callbackFailed).1 := by
  unfold TaskState.finish
  dsimp only
  split
  · cases task.config.deadlinePolicy <;> exact ⟨rfl,rfl,rfl,rfl,rfl,rfl,id⟩
  · exact ⟨rfl,rfl,rfl,rfl,rfl,rfl,id⟩

theorem Finishing.settled (part : Finishing s index start finish callbackFailed t seen) : Settled s t seen := by
  cases part with
  | @missed worker task accounted job event degraded active executing found decided =>
    have same := finish_same task job start finish callbackFailed
    rw [decided] at same
    exact worker_settled active (by simp [Worker.holding,executing]) rfl found same _ (by simp [Silent])
  | @met worker task accounted job degraded active executing found decided =>
    have same := finish_same task job start finish callbackFailed
    rw [decided] at same
    exact worker_settled active (by simp [Worker.holding,executing]) rfl found same s.degraded (by simp [Silent])

theorem Reporting.settled (part : Reporting s index threw t seen) : Settled s t seen := by
  cases part with
  | @reported worker task event active reporting found =>
    have idle : worker.holding = none := by simp [Worker.holding,reporting]
    have next : { worker with phase := .idle : Worker }.holding = none := rfl
    have same : SameAccount task (task.report threw) := ⟨rfl,rfl,rfl,rfl,rfl,rfl,id⟩
    exact worker_settled active idle next found same s.degraded (by simp [Silent])

theorem Exiting.settled (part : Exiting s index t seen) : Settled s t seen := by
  cases part with
  | exited active idle =>
    refine .of_tables (.refl _ _) (.refl _ _ _) id .inl rfl ?_ rfl (le_refl _) (le_refl _)
      (by simp [Silent])
    exact filterMap_set_same _ _ active (by simp [Worker.holding,idle])

theorem release_same (task : TaskState) (now : Int) : SameAccount task (task.release now).1 := by
  unfold TaskState.release
  split
  · exact .refl task
  · dsimp only
    split <;> exact ⟨rfl,rfl,rfl,rfl,rfl,rfl,id⟩

end AutoRuntime.Executor
