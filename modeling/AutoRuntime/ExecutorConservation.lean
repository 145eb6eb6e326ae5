import AutoRuntime.ExecutorSteps

/-! Conservation of jobs. Every unit of a task's `queued` counter is a job in flight, and as
long as nothing is cancelled or stopped every release is accounted for. -/
namespace AutoRuntime.Executor

open Option Pool Nat

/-- Jobs of one task in its group's queue, reserved, or popped but not yet taken off the task. -/
def System.inFlight (s : System) (group : CallbackGroupId) (key : TaskId) : Nat :=
  (s.queue group).countP (·.task == key) + s.reservations.countP (·.2 == key) +
    s.holdings.countP (·.1.task == key)

def TaskState.balanced (task : TaskState) : Prop :=
  task.stats.releases =
    task.stats.queueOverflows + task.stats.started + task.stats.deadlineDrops + task.queued

structure Conserved (s : System) (history : List Event) : Prop where
  account : s.tasks.lookup key = some task → task.queued = s.inFlight task.config.callbackGroup key
  capacity : s.tasks.lookup key = some task → task.queued ≤ task.config.queueCapacity
  balance : s.tasks.lookup key = some task → task.cancelled = false → s.stopping = false → task.balanced
  room : s.groups.lookup group = some found → found.queue.length ≤ found.config.queueCapacity
  marked : s.groups.lookup group = some found → found.stopping = true → s.stopping = true
  flagged : (job,true) ∈ s.holdings → s.stopping = true
  queuedHome : job ∈ s.queue group →
    ∃ task, s.tasks.lookup job.task = some task ∧ task.config.callbackGroup = group
  destinedHome : place ∈ s.destinations →
    ∃ task, s.tasks.lookup place.2 = some task ∧ task.config.callbackGroup = place.1
  heldKnown : held ∈ s.holdings → ∃ task, s.tasks.lookup held.1.task = some task
  taskIds : s.tasks.lookup key = some task → key < s.nextTaskId
  groupIds : s.groups.lookup group = some found → group < s.nextGroupId
  stopped : s.stops ≠ [] → s.stopping = true
  traffic : (pushedTo group history).Perm (poppedFrom group history ++ s.queue group)
  sequences : (numbers history ++ s.tickets).Nodup
  issued : number ∈ numbers history ++ s.tickets → number < s.nextJobSequence

theorem initial_conserved : Conserved initial [] := by
  constructor <;> simp [initial,System.queue,System.holdings,System.destinations,System.tickets,
    numbers,placed,removed,pushedTo,poppedFrom]

theorem Conserved.unknown (conserved : Conserved s history) (absent : s.tasks.lookup key = none)
    (group : CallbackGroupId) : s.inFlight group key = 0 := by
  have queued : (s.queue group).countP (·.task == key) = 0 := by
    rw [List.countP_eq_zero]
    intro job member same
    obtain ⟨task,found,_⟩ := conserved.queuedHome member
    obtain rfl : job.task = key := by simpa using same
    simp [absent] at found
  have reserved : s.reservations.countP (·.2 == key) = 0 := by
    rw [List.countP_eq_zero]
    intro place member same
    obtain ⟨call,present,reservation⟩ := List.mem_filterMap.mp member
    have destined : place ∈ s.destinations :=
      List.mem_filterMap.mpr ⟨call,present,reservation_destination reservation⟩
    obtain ⟨task,found,_⟩ := conserved.destinedHome destined
    obtain rfl : place.2 = key := by simpa using same
    simp [absent] at found
  have held : s.holdings.countP (·.1.task == key) = 0 := by
    rw [List.countP_eq_zero]
    intro held member same
    obtain ⟨task,found⟩ := conserved.heldKnown member
    obtain rfl : held.1.task = key := by simpa using same
    simp [absent] at found
  simp [System.inFlight,queued,reserved,held]

section

variable (settled : Settled s t seen)

include settled

theorem Settled.flights (group : CallbackGroupId) (key : TaskId) : t.inFlight group key = s.inFlight group key := by
  simp [System.inFlight,settled.queue,settled.reservations,settled.holdings]

theorem Settled.home (resident : ∃ task, s.tasks.lookup key = some task ∧ task.config.callbackGroup = group) :
    ∃ task, t.tasks.lookup key = some task ∧ task.config.callbackGroup = group := by
  obtain ⟨task,found,same⟩ := resident
  obtain ⟨after,present,kept⟩ := settled.tasks.kept found
  exact ⟨after,present,kept.config ▸ same⟩

theorem Settled.task_origin (present : t.tasks.lookup key = some after) :
    (∃ before, s.tasks.lookup key = some before ∧ SameAccount before after) ∨
      s.tasks.lookup key = none ∧ Blank after := by
  cases found : s.tasks.lookup key with
  | none => exact .inr ⟨rfl,(settled.tasks.fresh found present).1⟩
  | some before =>
    obtain ⟨other,same,kept⟩ := settled.tasks.kept found
    exact .inl ⟨before,rfl,some.inj (same.symm.trans present) ▸ kept⟩

theorem Settled.group_origin (present : t.groups.lookup key = some after) :
    (∃ before, s.groups.lookup key = some before ∧ SameQueue t.stopping before after) ∨
      after.queue = [] ∧ after.stopping = false := by
  cases found : s.groups.lookup key with
  | none => exact .inr ⟨(settled.groups.fresh found present).1,(settled.groups.fresh found present).2.1⟩
  | some before =>
    obtain ⟨other,same,kept⟩ := settled.groups.kept found
    exact .inl ⟨before,rfl,some.inj (same.symm.trans present) ▸ kept⟩

theorem Settled.drawn (history : List Event) : numbers (history ++ seen) ++ t.tickets = numbers history ++ s.tickets ∧
        t.nextJobSequence = s.nextJobSequence ∨
      (numbers (history ++ seen) ++ t.tickets).Perm (s.nextJobSequence :: (numbers history ++ s.tickets)) ∧
        t.nextJobSequence = s.nextJobSequence + 1 := by
  rw [numbers_append,settled.silent.numbers,List.append_nil]
  rcases settled.tickets with ⟨same,next⟩ | ⟨drawn,next⟩
  · exact .inl ⟨by rw [same],next⟩
  · exact .inr ⟨(drawn.append_left _).trans List.perm_middle,next⟩

theorem Settled.conserved (conserved : Conserved s history) : Conserved t (history ++ seen) := by
  constructor
  case account =>
    intro key after present
    rw [settled.flights]
    rcases settled.task_origin present with ⟨before,found,same⟩ | ⟨absent,blank⟩
    · rw [same.queued,same.config]
      exact conserved.account found
    · rw [blank.queued,conserved.unknown absent]
  case capacity =>
    intro key after present
    rcases settled.task_origin present with ⟨before,found,same⟩ | ⟨_,blank⟩
    · rw [same.queued,same.config]
      exact conserved.capacity found
    · simp [blank.queued]
  case balance =>
    intro key after present alive open_
    have before : s.stopping = false := by
      rw [← Bool.not_eq_true]
      exact fun on => by simp [settled.stopping on] at open_
    rcases settled.task_origin present with ⟨task,found,same⟩ | ⟨_,blank⟩
    · have held := conserved.balance found (same.cancelled alive) before
      simpa [TaskState.balanced,same.releases,same.queueOverflows,same.started,same.deadlineDrops,
        same.queued] using held
    · simp [TaskState.balanced,blank.queued,blank.stats]
  case room =>
    intro key after present
    rcases settled.group_origin present with ⟨before,found,same⟩ | ⟨empty,_⟩
    · rw [same.queue,same.config]
      exact conserved.room found
    · simp [empty]
  case marked =>
    intro key after present on
    rcases settled.group_origin present with ⟨before,found,same⟩ | ⟨_,off⟩
    · rcases same.marked on with old | new
      · exact settled.stopping (conserved.marked found old)
      · exact new
    · simp [off] at on
  case flagged =>
    intro job member
    rw [settled.holdings] at member
    exact settled.stopping (conserved.flagged member)
  case queuedHome =>
    intro group job member
    rw [settled.queue] at member
    exact settled.home (conserved.queuedHome member)
  case destinedHome =>
    intro place member
    rcases settled.destinations member with old | new
    · exact settled.home (conserved.destinedHome old)
    · exact settled.home new
  case heldKnown =>
    intro held member
    rw [settled.holdings] at member
    obtain ⟨task,found⟩ := conserved.heldKnown member
    exact (settled.tasks.kept found).imp fun _ kept => kept.1
  case taskIds =>
    intro key after present
    cases found : s.tasks.lookup key with
    | none => exact (settled.tasks.fresh found present).2
    | some => exact lt_of_lt_of_le (conserved.taskIds found) settled.nextTaskId
  case groupIds =>
    intro key after present
    cases found : s.groups.lookup key with
    | none => exact (settled.groups.fresh found present).2.2
    | some => exact lt_of_lt_of_le (conserved.groupIds found) settled.nextGroupId
  case stopped => exact fun some => (settled.stops some).elim (settled.stopping ∘ conserved.stopped) id
  case traffic =>
    simp only [pushedTo_append,poppedFrom_append,settled.silent.pushedTo,settled.silent.poppedFrom,
      List.append_nil,settled.queue]
    exact conserved.traffic
  case sequences =>
    rcases settled.drawn history with ⟨same,_⟩ | ⟨drawn,_⟩
    · rw [same]
      exact conserved.sequences
    · rw [drawn.nodup_iff,List.nodup_cons]
      exact ⟨fun member => lt_irrefl _ (conserved.issued member),conserved.sequences⟩
  case issued =>
    intro number member
    rcases settled.drawn history with ⟨same,next⟩ | ⟨drawn,next⟩
    · rw [next]
      exact conserved.issued (same ▸ member)
    · rw [next]
      rcases List.mem_cons.mp (drawn.subset member) with rfl | earlier
      · exact lt_succ_self _
      · exact lt_succ_of_lt (conserved.issued earlier)

end

/-- One job of one task has moved, and the task was updated with it. -/
structure Moved (s t : System) (history seen : List Event) (focus : TaskId) (task changed : TaskState) :
    Prop where
  found : s.tasks.lookup focus = some task
  tasks : t.tasks.lookup key = if key = focus then some changed else s.tasks.lookup key
  config : changed.config = task.config
  groups : t.groups.lookup group = some after → after.queue.length ≤ after.config.queueCapacity ∧
    ∃ before, s.groups.lookup group = some before ∧ after.stopping = before.stopping
  stopping : t.stopping = s.stopping
  stops : t.stops = s.stops
  nextTaskId : t.nextTaskId = s.nextTaskId
  nextGroupId : t.nextGroupId = s.nextGroupId
  nextJobSequence : t.nextJobSequence = s.nextJobSequence
  others : key ≠ focus → t.inFlight group key = s.inFlight group key
  own : changed.queued = t.inFlight task.config.callbackGroup focus
  capacity : changed.queued ≤ task.config.queueCapacity
  balance : changed.cancelled = false → s.stopping = false → changed.balanced
  queued : job ∈ t.queue group → job ∈ s.queue group ∨ job.task = focus ∧ task.config.callbackGroup = group
  destined : place ∈ t.destinations → place ∈ s.destinations
  held : job ∈ t.holdings → job ∈ s.holdings ∨ job.1.task = focus ∧ (job.2 = true → s.stopping = true)
  traffic : (pushedTo group (history ++ seen)).Perm (poppedFrom group (history ++ seen) ++ t.queue group)
  sequences : (numbers (history ++ seen) ++ t.tickets).Subperm
    (numbers history ++ s.tickets)

theorem Moved.home (moved : Moved s t history seen focus task changed)
    (resident : ∃ task, s.tasks.lookup key = some task ∧ task.config.callbackGroup = group) :
    ∃ task, t.tasks.lookup key = some task ∧ task.config.callbackGroup = group := by
  obtain ⟨other,present,same⟩ := resident
  rw [moved.tasks]
  by_cases equal : key = focus
  · subst key
    cases moved.found.symm.trans present
    exact ⟨changed,if_pos rfl,moved.config ▸ same⟩
  · exact ⟨other,by simpa [equal] using present,same⟩

theorem Moved.task_origin (moved : Moved s t history seen focus task changed)
    (present : t.tasks.lookup key = some after) :
    key = focus ∧ after = changed ∨ key ≠ focus ∧ s.tasks.lookup key = some after := by
  rw [moved.tasks] at present
  split at present
  next same => exact .inl ⟨same,(some.inj present).symm⟩
  next apart => exact .inr ⟨apart,present⟩

theorem Moved.conserved (moved : Moved s t history seen focus task changed)
    (conserved : Conserved s history) : Conserved t (history ++ seen) := by
  constructor
  case account =>
    intro key after present
    rcases moved.task_origin present with ⟨rfl,rfl⟩ | ⟨apart,present⟩
    · rw [moved.config]
      exact moved.own
    · rw [moved.others apart]
      exact conserved.account present
  case capacity =>
    intro key after present
    rcases moved.task_origin present with ⟨rfl,rfl⟩ | ⟨apart,present⟩
    · rw [moved.config]
      exact moved.capacity
    · exact conserved.capacity present
  case balance =>
    intro key after present alive running
    rw [moved.stopping] at running
    rcases moved.task_origin present with ⟨rfl,rfl⟩ | ⟨apart,present⟩
    · exact moved.balance alive running
    · exact conserved.balance present alive running
  case room => exact fun present => (moved.groups present).1
  case marked =>
    intro group after present on
    obtain ⟨_,before,found,same⟩ := moved.groups present
    rw [moved.stopping]
    exact conserved.marked found (same ▸ on)
  case flagged =>
    intro job member
    rw [moved.stopping]
    rcases moved.held member with old | ⟨_,flag⟩
    · exact conserved.flagged old
    · exact flag rfl
  case queuedHome =>
    intro group job member
    rcases moved.queued member with old | ⟨same,resident⟩
    · exact moved.home (conserved.queuedHome old)
    · rw [same]
      exact moved.home ⟨task,moved.found,resident⟩
  case destinedHome => exact fun member => moved.home (conserved.destinedHome (moved.destined member))
  case heldKnown =>
    intro held member
    have known : ∃ task, s.tasks.lookup held.1.task = some task := by
      rcases moved.held member with old | ⟨same,_⟩
      · exact conserved.heldKnown old
      · exact ⟨task,same ▸ moved.found⟩
    obtain ⟨other,present⟩ := known
    exact (moved.home ⟨other,present,rfl⟩).imp fun _ kept => kept.1
  case taskIds =>
    intro key after present
    rw [moved.nextTaskId]
    rcases moved.task_origin present with ⟨rfl,rfl⟩ | ⟨apart,present⟩
    · exact conserved.taskIds moved.found
    · exact conserved.taskIds present
  case groupIds =>
    intro group after present
    obtain ⟨_,before,found,_⟩ := moved.groups present
    rw [moved.nextGroupId]
    exact conserved.groupIds found
  case stopped =>
    rw [moved.stops,moved.stopping]
    exact conserved.stopped
  case traffic => exact moved.traffic
  case sequences =>
    obtain ⟨list,perm,sub⟩ := moved.sequences
    exact perm.nodup_iff.mp (sub.nodup conserved.sequences)
  case issued =>
    intro number member
    rw [moved.nextJobSequence]
    exact conserved.issued (moved.sequences.subset member)

def EnqueueCall.weight (call : EnqueueCall) : Nat := call.reservation.toList.length

theorem EnqueueCall.reservation_count (call : EnqueueCall) (key : TaskId) :
    call.reservation.toList.countP (·.2 == key) = if call.task = key then call.weight else 0 := by
  simp only [EnqueueCall.weight,EnqueueCall.reservation]
  cases call.phase <;> simp

theorem lookup_setTask (found : s.tasks.lookup focus = some task) (changed : TaskState) (key : TaskId) :
    (System.setTask s focus changed).tasks.lookup key =
      if key = focus then some changed else s.tasks.lookup key := by
  by_cases same : key = focus
  · subst key
    simp [System.setTask,found]
  · simp [System.setTask,same]

theorem lookup_same {tasks : Table TaskId TaskState} (found : tasks.lookup focus = some task)
    (key : TaskId) : tasks.lookup key = if key = focus then some task else tasks.lookup key := by
  by_cases same : key = focus
  · subst key
    simp [found]
  · simp [same]

/-- A call moves on and its task is updated with it; queues and workers stay as they are. -/
theorem exchange_moved (conserved : Conserved s history) (active : s.enqueues[index]? = some call)
    (found : s.tasks.lookup call.task = some task) (config : changed.config = task.config)
    (weights : changed.queued + call.weight =
      task.queued + { call with phase := phase : EnqueueCall }.weight)
    (capacity : changed.queued ≤ task.config.queueCapacity)
    (balance : changed.cancelled = false → s.stopping = false → changed.balanced)
    (ticket : { call with phase := phase : EnqueueCall }.ticket = none ∨
      { call with phase := phase : EnqueueCall }.ticket = call.ticket)
    (destination : { call with phase := phase : EnqueueCall }.destination = none ∨
      { call with phase := phase : EnqueueCall }.destination = call.destination)
    (silent : Silent seen) :
    Moved s ((s.setTask call.task changed).setEnqueue index call phase) history seen call.task task
      changed := by
  have reserved (key : TaskId) := (setEnqueue_reservations active phase).countP_eq (·.2 == key)
  simp only [List.countP_append,EnqueueCall.reservation_count] at reserved
  refine ⟨found,lookup_setTask found changed _,config,?_,rfl,rfl,rfl,rfl,rfl,?_,?_,capacity,balance,
    .inl,?_,.inl,?_,?_⟩
  · exact fun present => ⟨conserved.room present,_,present,rfl⟩
  · intro key group apart
    have same := reserved key
    simp only [Ne.symm apart,if_false,zero_add] at same
    exact congrArg (fun count => _ + count + _) same
  · have same := reserved call.task
    have before := conserved.account found
    simp only [if_true] at same
    simp only [System.inFlight] at before
    change _ = (s.queue _).countP _ + (s.setEnqueue index call phase).reservations.countP _ +
      s.holdings.countP _
    omega
  · exact fun member =>
      (filterMap_set_subperm EnqueueCall.destination s.enqueues active destination).subset member
  · intro group
    simp only [pushedTo_append,poppedFrom_append,silent.pushedTo,silent.poppedFrom,List.append_nil]
    exact conserved.traffic
  · simp only [numbers_append,silent.numbers,List.append_nil]
    exact (List.subperm_append_left _).mpr
      (filterMap_set_subperm EnqueueCall.ticket s.enqueues active ticket)

theorem reserve_refused (refused : TaskState.reserve task = (counted,some status)) :
    counted.config = task.config ∧ counted.queued = task.queued ∧
      (counted.cancelled = false → task.cancelled = false) ∧ (task.balanced → counted.balanced) := by
  unfold TaskState.reserve at refused
  split at refused
  · cases refused
    exact ⟨rfl,rfl,id,id⟩
  split at refused
  · cases refused
    refine ⟨rfl,rfl,id,fun balanced => ?_⟩
    simp only [TaskState.balanced] at balanced ⊢
    omega
  · simp at refused

theorem reserve_granted (granted : TaskState.reserve task = (counted,none)) :
    counted.config = task.config ∧ counted.queued = task.queued + 1 ∧
      task.queued < task.config.queueCapacity ∧ (counted.cancelled = false → task.cancelled = false) ∧
      (task.balanced → counted.balanced) := by
  unfold TaskState.reserve at granted
  split at granted
  · simp at granted
  split at granted
  · simp at granted
  next room =>
    cases granted
    refine ⟨rfl,rfl,by omega,id,fun balanced => ?_⟩
    simp only [TaskState.balanced] at balanced ⊢
    omega

theorem answer_conserved {call : EnqueueCall} (conserved : Conserved s history)
    (active : s.enqueues[index]? = some call) (found : s.tasks.lookup call.task = some task)
    (config : changed.config = task.config)
    (weights : changed.queued + call.weight = task.queued)
    (balance : changed.cancelled = false → s.stopping = false → changed.balanced) (status : Status) :
    Conserved ((s.setTask call.task changed).answer index call status).1
      (history ++ ((s.setTask call.task changed).answer index call status).2) := by
  have bound := conserved.capacity found
  have silent : Silent [.enqueued index status] := by simp [Silent]
  have moved : Moved s ((s.setTask call.task changed).setEnqueue index call (.returned status)) history
      [.enqueued index status] call.task task changed :=
    exchange_moved conserved active found config weights (by omega) balance (.inl rfl) (.inl rfl) silent
  exact moved.conserved conserved

theorem reserve_conserved (conserved : Conserved s history)
    (stepped : s.enqueueReserve index enqueuedAt = some (t,seen)) : Conserved t (history ++ seen) := by
  cases enqueueReserve_reserving stepped with
  | refused active sequenced found refused =>
    obtain ⟨config,queued,alive,balanced⟩ := reserve_refused refused
    refine answer_conserved conserved active found config ?_ ?_ _
    · rw [queued]
      simp [EnqueueCall.weight,EnqueueCall.reservation,sequenced]
    · exact fun live running => balanced (conserved.balance found (alive live) running)
  | granted active sequenced found granted =>
    obtain ⟨config,queued,room,alive,balanced⟩ := reserve_granted granted
    have silent : Silent [] := by simp [Silent]
    refine (exchange_moved conserved active found config ?_ ?_ ?_ (.inr ?_) (.inr ?_)
      silent).conserved conserved
    · rw [queued]
      simp [EnqueueCall.weight,EnqueueCall.reservation,sequenced]
    · omega
    · exact fun live running => balanced (conserved.balance found (alive live) running)
    · simp [EnqueueCall.ticket,sequenced]
    · simp [EnqueueCall.destination,sequenced]

theorem Conserved.reserved_positive {call : EnqueueCall} {index : Nat} (conserved : Conserved s history)
    (active : s.enqueues[index]? = some call) (found : s.tasks.lookup call.task = some task)
    (reservation : call.reservation = some place) : 0 < task.queued := by
  have member : place ∈ s.reservations :=
    List.mem_filterMap.mpr ⟨call,List.mem_of_getElem? active,reservation⟩
  have own : place.2 = call.task := by
    simp only [EnqueueCall.reservation] at reservation
    cases phase : call.phase <;> simp [phase] at reservation
    simp [← reservation]
  have counted : 0 < s.reservations.countP (·.2 == call.task) :=
    List.countP_pos_iff.mpr ⟨place,member,by simp [own]⟩
  have account := conserved.account found
  simp only [System.inFlight] at account
  omega

theorem lookup_setGroup (found : s.groups.lookup focus = some group) (changed : CallbackGroup)
    (key : CallbackGroupId) : (System.setGroup s focus changed).groups.lookup key =
      if key = focus then some changed else s.groups.lookup key := by
  by_cases same : key = focus
  · subst key
    simp [System.setGroup,found]
  · simp [System.setGroup,same]

theorem queue_setGroup (found : s.groups.lookup focus = some group) (changed : CallbackGroup)
    (key : CallbackGroupId) : (System.setGroup s focus changed).queue key =
      if key = focus then changed.queue else s.queue key := by
  simp only [System.queue]
  rw [lookup_setGroup found]
  by_cases same : key = focus <;> simp [same]

section

variable (conserved : Conserved s history)

include conserved

theorem Conserved.requeued {queue : List Job} (present : s.groups.lookup focus = some group)
    (room : queue.length ≤ group.config.queueCapacity)
    (same : (s.setGroup focus { group with queue := queue }).groups.lookup key = some after) :
    after.queue.length ≤ after.config.queueCapacity ∧
      ∃ before, s.groups.lookup key = some before ∧ after.stopping = before.stopping := by
  rw [lookup_setGroup present] at same
  split at same
  next equal =>
    cases same
    exact ⟨room,group,equal ▸ present,rfl⟩
  · exact ⟨conserved.room same,after,same,rfl⟩

theorem Conserved.reserved_home {call : EnqueueCall} {index : Nat} (active : s.enqueues[index]? = some call)
    (phase : call.phase = .reserved groupId number enqueuedAt) (found : s.tasks.lookup call.task = some task) :
    task.config.callbackGroup = groupId := by
  have destination : (groupId,call.task) ∈ s.destinations :=
    List.mem_filterMap.mpr ⟨call,List.mem_of_getElem? active,by simp [EnqueueCall.destination,phase]⟩
  obtain ⟨other,same,home⟩ := conserved.destinedHome destination
  cases found.symm.trans same
  exact home

theorem Conserved.push_traffic (focus key : CallbackGroupId) (job : Job) (call : Nat) (status : Status) :
    (pushedTo key (history ++ [.pushed focus job,.enqueued call status])).Perm
      (poppedFrom key (history ++ [.pushed focus job,.enqueued call status]) ++
        if key = focus then s.queue focus ++ [job] else s.queue key) := by
  have before : (pushedTo key history).Perm (poppedFrom key history ++ s.queue key) := conserved.traffic
  by_cases equal : key = focus
  · subst key
    simpa [pushedTo,poppedFrom,placed,removed,share] using before.append_right [job]
  · simpa [pushedTo,poppedFrom,placed,removed,share,equal,Ne.symm equal] using before

theorem Conserved.pop_traffic (key : CallbackGroupId) (taken : (s.queue focus).Perm (job :: rest)) :
    (pushedTo key (history ++ [.popped focus job])).Perm
      (poppedFrom key (history ++ [.popped focus job]) ++ if key = focus then rest else s.queue key) := by
  have before : (pushedTo key history).Perm (poppedFrom key history ++ s.queue key) := conserved.traffic
  by_cases equal : key = focus
  · subst key
    simpa [pushedTo,poppedFrom,placed,removed,share] using before.trans (taken.append_left _)
  · simpa [pushedTo,poppedFrom,placed,removed,share,equal,Ne.symm equal] using before

theorem pushed_moved (active : s.enqueues[index]? = some call)
    (phase : call.phase = .reserved groupId number enqueuedAt) (found : s.tasks.lookup call.task = some task)
    (present : s.groups.lookup groupId = some group) (room : group.queue.length < group.config.queueCapacity) :
    Moved s ((s.setGroup groupId { group with
        queue := group.queue ++ [⟨call.task,call.releaseTime,enqueuedAt,number⟩] }).setEnqueue
      index call (.returned .success)) history
      [.pushed groupId ⟨call.task,call.releaseTime,enqueuedAt,number⟩,.enqueued index .success]
      call.task task task := by
  generalize made : (⟨call.task,call.releaseTime,enqueuedAt,number⟩ : Job) = job
  have named : job.task = call.task ∧ job.sequence = number := by simp [← made]
  have reserved (key : TaskId) := (setEnqueue_reservations active (.returned .success)).countP_eq (·.2 == key)
  simp only [List.countP_append,EnqueueCall.reservation_count] at reserved
  have weight : call.weight = 1 := by simp [EnqueueCall.weight,EnqueueCall.reservation,phase]
  have weightless : { call with phase := .returned .success : EnqueueCall }.weight = 0 := rfl
  have resident := conserved.reserved_home active phase found
  have queue (key : CallbackGroupId) : ((s.setGroup groupId { group with
      queue := group.queue ++ [job] }).setEnqueue index call (.returned .success)).queue key =
      if key = groupId then s.queue groupId ++ [job] else s.queue key := by
    rw [queue_eq present]
    exact queue_setGroup present _ key
  have flight (other : CallbackGroupId) (key : TaskId) : ((s.setGroup groupId { group with
      queue := group.queue ++ [job] }).setEnqueue index call (.returned .success)).inFlight other key =
      (if other = groupId then s.queue groupId ++ [job] else s.queue other).countP (·.task == key) +
        (s.setEnqueue index call (.returned .success)).reservations.countP (·.2 == key) +
        s.holdings.countP (·.1.task == key) :=
    congrArg (fun jobs => List.countP _ jobs + _ + _) (queue other)
  refine ⟨found,lookup_same found _,rfl,?_,rfl,rfl,rfl,rfl,rfl,?_,?_,conserved.capacity found,
    conserved.balance found,?_,?_,.inl,?_,?_⟩
  · exact conserved.requeued present (by simpa using succ_le_of_lt room)
  · intro key other apart
    have same := reserved key
    have distinct : (job.task == key) = false := by simp [named.1,Ne.symm apart]
    simp only [Ne.symm apart,if_false,zero_add] at same
    rw [flight,same,System.inFlight]
    split
    next equal => simp [equal,distinct]
    · rfl
  · have same := reserved call.task
    have before := conserved.account found
    simp only [if_true] at same
    rw [resident,System.inFlight] at before
    rw [flight,resident,if_pos rfl,List.countP_append,List.countP_singleton]
    simp only [named.1,BEq.rfl,if_true]
    omega
  · intro key other member
    rw [queue] at member
    split at member
    next equal =>
      rcases mem_concat member with old | rfl
      · exact .inl (equal ▸ old)
      · exact .inr ⟨named.1,resident.trans equal.symm⟩
    · exact .inl member
  · exact fun member => (filterMap_set_subperm EnqueueCall.destination s.enqueues active
      (.inl rfl)).subset member
  · intro key
    rw [queue]
    exact conserved.push_traffic groupId key job index .success
  · have drawn := setEnqueue_tickets active (.returned .success)
    simp only [EnqueueCall.ticket,phase] at drawn
    have recorded : numbers [.pushed groupId job,.enqueued index .success] = [job.sequence] := rfl
    rw [numbers_append,recorded,named.2,List.append_assoc]
    exact (drawn.append_left _).subperm

theorem push_conserved (stepped : s.enqueuePush index = some (t,seen)) : Conserved t (history ++ seen) := by
  have reserves {place : CallbackGroupId} {sequence : Nat} {enqueuedAt : Int} {call : EnqueueCall} {task : TaskState}
      (active : s.enqueues[index]? = some call) (reserved : call.phase = .reserved place sequence enqueuedAt)
      (found : s.tasks.lookup call.task = some task) : call.weight = 1 ∧ 0 < task.queued := by
    have place : call.reservation = some (place,call.task) := by simp [EnqueueCall.reservation,reserved]
    exact ⟨by simp [EnqueueCall.weight,place],conserved.reserved_positive active found place⟩
  cases enqueuePush_pushing stepped with
  | @withdrawn place sequence enqueuedAt call task group active reserved found present stopping =>
    obtain ⟨weight,positive⟩ := reserves active reserved found
    have config : task.withdraw.config = task.config := rfl
    have weights : task.withdraw.queued + call.weight = task.queued := by
      simp only [TaskState.withdraw]
      omega
    exact answer_conserved conserved active found config weights
      (fun _ running => by simp [conserved.marked present stopping] at running) _
  | @overflowed place sequence enqueuedAt call task group active reserved found present going full =>
    obtain ⟨weight,positive⟩ := reserves active reserved found
    have config : task.overflow.config = task.config := rfl
    have weights : task.overflow.queued + call.weight = task.queued := by
      simp only [TaskState.overflow]
      omega
    have balance (alive : task.overflow.cancelled = false) (running : s.stopping = false) :
        task.overflow.balanced := by
      have before := conserved.balance found alive running
      simp only [TaskState.balanced,TaskState.overflow] at before ⊢
      omega
    exact answer_conserved conserved active found config weights balance _
  | pushed active reserved found present =>
    exact (pushed_moved conserved active reserved found present (by omega)).conserved conserved

end

theorem foldl_choice (choose : Job → Job → Job)
    (either : ∀ left right, choose left right = left ∨ choose left right = right)
    (jobs : List Job) (job : Job) : jobs.foldl choose job = job ∨ jobs.foldl choose job ∈ jobs := by
  induction jobs generalizing job with
  | nil => exact .inl rfl
  | cons head tail ih =>
    rw [List.foldl_cons]
    rcases ih (choose job head) with same | later
    · rw [same]
      refine (either job head).imp_right fun right => ?_
      rw [right]
      exact List.mem_cons_self
    · exact .inr (List.mem_cons_of_mem head later)

theorem top_mem (chosen : top priority queue = some job) : job ∈ queue := by
  cases queue with
  | nil => simp [top] at chosen
  | cons head tail =>
    cases chosen
    refine List.mem_cons.mpr (foldl_choice _ (fun left right => ?_) tail head)
    split
    · exact .inr rfl
    · exact .inl rfl

theorem popped_moved {index : Nat} {worker : Worker} (conserved : Conserved s history)
    (active : s.workers[index]? = some worker) (idle : worker.phase = .idle)
    (present : s.groups.lookup worker.group = some group) (member : job ∈ group.queue)
    (found : s.tasks.lookup job.task = some task) (resident : task.config.callbackGroup = worker.group) :
    Moved s ((s.setGroup worker.group { group with queue := group.queue.erase job }).setWorker index worker
      (.popped job group.stopping)) history [.popped worker.group job] job.task task task := by
  have taken : (s.queue worker.group).Perm (job :: group.queue.erase job) := by
    rw [queue_eq present]
    exact List.perm_cons_erase member
  have held (key : TaskId) := (setWorker_holdings active (.popped job group.stopping)).countP_eq
    (·.1.task == key)
  simp only [List.countP_append,Worker.holding,idle,toList,List.countP_nil,List.countP_singleton] at held
  have queue (key : CallbackGroupId) : ((s.setGroup worker.group { group with
      queue := group.queue.erase job }).setWorker index worker (.popped job group.stopping)).queue key =
      if key = worker.group then group.queue.erase job else s.queue key :=
    queue_setGroup present _ key
  have flight (other : CallbackGroupId) (key : TaskId) : ((s.setGroup worker.group { group with
      queue := group.queue.erase job }).setWorker index worker (.popped job group.stopping)).inFlight
        other key =
      (if other = worker.group then group.queue.erase job else s.queue other).countP (·.task == key) +
        s.reservations.countP (·.2 == key) +
        (s.setWorker index worker (.popped job group.stopping)).holdings.countP (·.1.task == key) :=
    congrArg (fun jobs => List.countP _ jobs + _ + _) (queue other)
  refine ⟨found,lookup_same found _,rfl,?_,rfl,rfl,rfl,rfl,rfl,?_,?_,conserved.capacity found,
    conserved.balance found,?_,id,?_,?_,?_⟩
  · exact conserved.requeued present (le_trans List.length_erase_le (conserved.room present))
  · intro key other apart
    have counted := taken.countP_eq (·.task == key)
    have same := held key
    have distinct : (job.task == key) = false := by simp [Ne.symm apart]
    simp only [List.countP_cons,distinct] at counted same
    rw [flight,System.inFlight]
    split
    next equal =>
      rw [equal]
      omega
    · simp at same
      omega
  · have counted := taken.countP_eq (·.task == job.task)
    have same := held job.task
    have before := conserved.account found
    rw [resident,System.inFlight] at before
    rw [flight,resident,if_pos rfl]
    simp only [List.countP_cons] at counted same
    omega
  · intro key other inside
    rw [queue] at inside
    split at inside
    next equal =>
      refine .inl ?_
      rw [equal,queue_eq present]
      exact List.mem_of_mem_erase inside
    · exact .inl inside
  · intro held inside
    have exchanged := (setWorker_holdings active (.popped job group.stopping)).subset
    simp only [Worker.holding,idle] at exchanged
    rcases List.mem_cons.mp (exchanged inside) with rfl | old
    · exact .inr ⟨rfl,conserved.marked present⟩
    · exact .inl old
  · intro key
    rw [queue]
    exact conserved.pop_traffic key taken
  · have recorded : numbers [.popped worker.group job] = [] := rfl
    rw [numbers_append,recorded,List.append_nil]
    exact .refl _

theorem pop_conserved (conserved : Conserved s history)
    (stepped : s.workerPop index = some (t,seen)) : Conserved t (history ++ seen) := by
  cases workerPop_popping stepped with
  | popped active idle present chosen =>
    have member := top_mem chosen
    obtain ⟨task,found,resident⟩ := conserved.queuedHome (queue_eq present ▸ member)
    exact (popped_moved conserved active idle present member found resident).conserved conserved

/-- The dispatch section takes one job off the task. Unless it discards the job it counts it. -/
theorem dispatch_spec (job : Job) (flag : Bool) (now : Int) (positive : 0 < TaskState.queued task) :
    (task.dispatch job flag now).1.config = task.config ∧
      (task.dispatch job flag now).1.queued + 1 = task.queued ∧
      ((task.dispatch job flag now).1.cancelled = false → task.cancelled = false) ∧
      (task.cancelled = false → flag = false → task.balanced →
        (task.dispatch job flag now).1.balanced) := by
  have taken : task.taken = { task with queued := task.queued - 1 } := if_pos positive
  simp only [TaskState.dispatch]
  rw [taken]
  split
  next discarded =>
    refine ⟨rfl,by simp only; omega,id,fun alive open_ => ?_⟩
    simp [alive,open_] at discarded
  split
  · refine ⟨rfl,by simp only; omega,id,fun _ _ balanced => ?_⟩
    simp only [TaskState.balanced,appendSample] at balanced ⊢
    omega
  · refine ⟨rfl,by simp only; omega,id,fun _ _ balanced => ?_⟩
    simp only [TaskState.balanced] at balanced ⊢
    omega

theorem dispatched_moved {index : Nat} {worker : Worker} (conserved : Conserved s history)
    (active : s.workers[index]? = some worker) (phase : worker.phase = .popped job flag)
    (found : s.tasks.lookup job.task = some task) (config : changed.config = task.config)
    (taken : changed.queued + 1 = task.queued)
    (balance : changed.cancelled = false → s.stopping = false → changed.balanced)
    (free : { worker with phase := next : Worker }.holding = none) (silent : Silent seen) :
    Moved s ((s.setTask job.task changed).setWorker index worker next) history seen job.task task
      changed := by
  have held (key : TaskId) := (setWorker_holdings active next).countP_eq (·.1.task == key)
  have holding : worker.holding = some (job,flag) := by simp [Worker.holding,phase]
  simp only [List.countP_append,holding,free,toList,List.countP_nil,List.countP_singleton] at held
  have bound := conserved.capacity found
  refine ⟨found,lookup_setTask found changed _,config,?_,rfl,rfl,rfl,rfl,rfl,?_,?_,by omega,balance,
    .inl,id,?_,?_,?_⟩
  · exact fun present => ⟨conserved.room present,_,present,rfl⟩
  · intro key group apart
    have same := held key
    simp only [beq_iff_eq,Ne.symm apart,if_false,zero_add] at same
    exact congrArg (fun count => _ + _ + count) same
  · have same := held job.task
    have before := conserved.account found
    simp only [BEq.rfl,if_true] at same
    simp only [System.inFlight] at before
    change _ = (s.queue _).countP _ + s.reservations.countP _ +
      (s.setWorker index worker next).holdings.countP _
    omega
  · intro held inside
    exact .inl ((filterMap_set_subperm Worker.holding s.workers active (.inl free)).subset inside)
  · intro group
    simp only [pushedTo_append,poppedFrom_append,silent.pushedTo,silent.poppedFrom,List.append_nil]
    exact conserved.traffic
  · simp only [numbers_append,silent.numbers,List.append_nil]
    exact .refl _

theorem mem_holdings {index : Nat} {worker : Worker} (active : s.workers[index]? = some worker)
    (phase : worker.phase = .popped job flag) : (job,flag) ∈ System.holdings s :=
  List.mem_filterMap.mpr ⟨worker,List.mem_of_getElem? active,by simp [Worker.holding,phase]⟩

theorem Conserved.held_positive {index : Nat} {worker : Worker} (conserved : Conserved s history)
    (active : s.workers[index]? = some worker) (phase : worker.phase = .popped job flag)
    (found : s.tasks.lookup job.task = some task) : 0 < task.queued := by
  have counted : 0 < s.holdings.countP (·.1.task == job.task) :=
    List.countP_pos_iff.mpr ⟨_,mem_holdings active phase,by simp⟩
  have account := conserved.account found
  simp only [System.inFlight] at account
  omega

theorem dispatch_conserved (conserved : Conserved s history)
    (stepped : s.workerDispatch index now = some (t,seen)) : Conserved t (history ++ seen) := by
  have moved {worker : Worker} {task taken : TaskState} {job : Job} {flag : Bool} {verdict : Dispatch}
      (active : s.workers[index]? = some worker) (popped : worker.phase = .popped job flag)
      (found : s.tasks.lookup job.task = some task) (decided : task.dispatch job flag now = (taken,verdict))
      (next : WorkerPhase) (free : { worker with phase := next : Worker }.holding = none) (quiet : List Event)
      (silent : Silent quiet) :
      Conserved ((s.setTask job.task taken).setWorker index worker next) (history ++ quiet) := by
    have positive := conserved.held_positive active popped found
    obtain ⟨config,queued,alive,counted⟩ := dispatch_spec job flag now positive
    have open_ (running : s.stopping = false) : flag = false := by
      rw [← Bool.not_eq_true]
      rintro rfl
      simp [conserved.flagged (mem_holdings active popped)] at running
    rw [decided] at config queued alive counted
    exact (dispatched_moved conserved active popped found config queued (fun live running =>
      counted (alive live) (open_ running) (conserved.balance found (alive live) running)) free
      silent).conserved conserved
  cases workerDispatch_dispatching stepped with
  | discarded active popped found decided | dropped active popped found decided
  | executed active popped found decided => exact moved active popped found decided _ rfl _ (by simp [Silent])

/-- The sections that move a job. -/
def Action.carries : Action → Bool
  | .enqueueReserve _ _ | .enqueuePush _ | .workerPop _ | .workerDispatch _ _ => true
  | _ => false

theorem step_settled (conserved : Conserved s history) (idle : action.carries = false)
    (stepped : step s action = some (t,seen)) : Settled s t seen := by
  have freshTask : s.tasks.lookup s.nextTaskId = none :=
    eq_none_iff_forall_ne_some.mpr fun _ found => lt_irrefl _ (conserved.taskIds found)
  have freshGroup : s.groups.lookup s.nextGroupId = none :=
    eq_none_iff_forall_ne_some.mpr fun _ found => lt_irrefl _ (conserved.groupIds found)
  cases step_stepped stepped with
  | refused | rested | waited => exact .refl s (by simp [Silent])
  | created => exact created_settled _ freshGroup
  | added valid unstopped housed told =>
    have silent : Silent seen := by rcases told with ⟨-,-,rfl⟩ | ⟨-,-,rfl⟩ <;> simp [Silent]
    exact added_settled freshTask ⟨rfl,rfl⟩ _ silent
  | checked => exact request_settled s _ _ _ s.scheduler
  | started => exact started_settled s _
  | notified => exact request_settled s _ _ s.adds s.scheduler
  | sequences part | finishes part | reports part | exits part => exact part.settled
  | cancelled found =>
    exact .of_tables (.modify _ found ⟨rfl,rfl,rfl,rfl,rfl,rfl,by simp⟩) (.refl _ _ s.groups) id .inl rfl rfl rfl
      (le_refl _) (le_refl _) (by simp [Silent])
  | released =>
    exact .of_tables (.mapValues _ s.tasks _ fun _ task => release_same task _) (.refl _ _ s.groups) id .inl rfl rfl
      rfl (le_refl _) (le_refl _) (by simp [Silent])
  | issued => exact request_settled s _ _ s.adds _
  | stopped => exact .of_frame rfl rfl (fun _ => rfl) (fun _ => .inr rfl) rfl rfl rfl rfl rfl (by simp [Silent])
  | marked active found =>
    have stopping : s.stopping = true := conserved.stopped (by rintro none; simp [none] at active)
    exact .of_tables (.refl _ s.tasks) (.modify _ found ⟨rfl,rfl,fun _ => .inr stopping⟩) id
      (fun _ => .inr stopping) rfl rfl rfl (le_refl _) (le_refl _) (by simp [Silent])
  | marking | joined =>
    exact .of_frame rfl rfl id (fun some => .inl (by simpa using some)) rfl rfl rfl rfl rfl (by simp [Silent])
  | reserves | pushes | pops | dispatches => contradiction
  | _ => exact .of_frame rfl rfl id .inl rfl rfl rfl rfl rfl (by simp [Silent])

theorem step_conserved (conserved : Conserved s history) (stepped : step s action = some (t,seen)) :
    Conserved t (history ++ seen) := by
  cases carries : action.carries with
  | false => exact (step_settled conserved carries stepped).conserved conserved
  | true =>
    cases action with
    | enqueueReserve => exact reserve_conserved conserved stepped
    | enqueuePush => exact push_conserved conserved stepped
    | workerPop => exact pop_conserved conserved stepped
    | workerDispatch => exact dispatch_conserved conserved stepped
    | _ => contradiction

theorem run_conserved (ran : system.run initial actions = some (s,history)) : Conserved s history :=
  Machine.run_invariant (motive := Conserved) (fun _ _ _ _ _ conserved stepped =>
    step_conserved conserved stepped) initial_conserved ran

theorem Conserved.removed_subperm (conserved : Conserved s history) :
    (removed history).Subperm (placed history) :=
  subperm_of_shares fun _ =>
    (List.sublist_append_left _ _).subperm.trans conserved.traffic.symm.subperm

theorem Conserved.numbers_nodup (conserved : Conserved s history) : (numbers history).Nodup :=
  (List.nodup_append.mp conserved.sequences).1

theorem Conserved.removed_nodup (conserved : Conserved s history) :
    ((removed history).map (·.2.sequence)).Nodup := by
  obtain ⟨list,perm,sub⟩ := conserved.removed_subperm
  exact (perm.map _).nodup_iff.mp ((sub.map _).nodup conserved.numbers_nodup)

/-- In every reachable state the counter of a task is exactly its jobs in flight, no bound is
exceeded, a popped job is still counted, no job is popped twice, and the books of a live
task balance. -/
theorem jobs_conserved (ran : system.run initial actions = some (s,history)) :
    (∀ key task, s.tasks.lookup key = some task →
      task.queued = s.inFlight task.config.callbackGroup key ∧
      task.queued ≤ task.config.queueCapacity ∧
      (task.cancelled = false → s.stopping = false → task.stats.releases =
        task.stats.queueOverflows + task.stats.started + task.stats.deadlineDrops + task.queued)) ∧
    (∀ (index : Nat) worker job flag, s.workers[index]? = some worker → worker.phase = .popped job flag →
      ∃ task, s.tasks.lookup job.task = some task ∧ 0 < task.queued) ∧
    (∀ key group, s.groups.lookup key = some group →
      group.queue.length ≤ group.config.queueCapacity) ∧
    (∀ entry ∈ removed history, entry ∈ placed history) ∧
    ((removed history).map (·.2.sequence)).Nodup ∧ ((placed history).map (·.2.sequence)).Nodup := by
  have conserved := run_conserved ran
  refine ⟨fun key task found => ⟨conserved.account found,conserved.capacity found,conserved.balance found⟩,
    fun index worker job flag active phase => ?_,fun key group found => conserved.room found,
    fun entry member => conserved.removed_subperm.subset member,conserved.removed_nodup,
    conserved.numbers_nodup⟩
  obtain ⟨task,found⟩ := conserved.heldKnown (mem_holdings active phase)
  exact ⟨task,found,conserved.held_positive active phase found⟩

/-- Two notifications of a task with room for one job; the job is popped and runs. -/
def overflowRun : List Action :=
  [.createCallbackGroup ⟨[97],1,4⟩ .success,
   .addTask { name := [98], kind := .event, callbackGroup := 1 } true 0,
   .start .success 0,.notify 1 5,.enqueueSequence 0,.enqueueReserve 0 6,.enqueuePush 0,
   .notify 1 7,.enqueueSequence 1,.enqueueReserve 1 8,.workerPop 0,.workerDispatch 0 9]

theorem jobs_conserved_sample : ∃ s history task, system.run initial overflowRun = some (s,history) ∧
    s.tasks.lookup 1 = some task ∧ task.stats.releases = 2 ∧ task.stats.queueOverflows = 1 ∧
    task.stats.started = 1 ∧ task.queued = 0 ∧ task.queued = s.inFlight task.config.callbackGroup 1 := by
  have ran : system.run initial overflowRun = some _ := rfl
  exact ⟨_,_,_,ran,rfl,rfl,rfl,rfl,rfl,((jobs_conserved ran).1 1 _ rfl).1⟩

end AutoRuntime.Executor
