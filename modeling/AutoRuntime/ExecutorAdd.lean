import AutoRuntime.ExecutorShift
import AutoRuntime.ExecutorTicks

/-! What a failed `AddTask` leaves behind. A call that its checks refuse leaves nothing. A call for an
async task on a running executor enqueues the task after it has put it into the table, and where
`Enqueue` fails then, the error is returned and the task stays. -/
namespace AutoRuntime.Executor

open List AList

/-- What `Snapshot` reports. -/
def System.snapshot (s : System) : List (TaskId × TaskStats) :=
  s.tasks.entries.map fun entry => (entry.1,entry.2.stats)

/-- `Stats` of one task. -/
def System.statsOf (s : System) (key : TaskId) : Result TaskStats :=
  match s.tasks.lookup key with
  | none => .error ⟨.notFound,"task does not exist"⟩
  | some task => .ok task.stats

/-- Nobody finds the task: not `Snapshot`, not `Stats` and not `Notify`. The scheduler goes through the
tasks that `Snapshot` reports. -/
structure Unregistered (s : System) (key : TaskId) : Prop where
  snapshot : key ∉ s.snapshot.map Prod.fst
  stats : s.statsOf key = .error ⟨.notFound,"task does not exist"⟩
  notify : ∀ now, s.notify key now = (s,[.refused ⟨.notFound,"task does not exist"⟩])

theorem unregistered_iff : Unregistered s key ↔ s.tasks.lookup key = none := by
  constructor
  · intro unregistered
    have absent := unregistered.snapshot
    rw [System.snapshot,map_map] at absent
    exact lookup_eq_none.mpr absent
  · intro absent
    refine ⟨?_,by simp only [System.statsOf,absent],fun now => by simp only [System.notify,absent]⟩
    rw [System.snapshot,map_map]
    exact lookup_eq_none.mp absent

/-- The call of `AddTask` has failed. Once its `Enqueue` call has, the error is all it can return. -/
def System.AddFailed (s : System) (add : AddCall) : Prop :=
  match add.phase with
  | .checking => False
  | .enqueuing index =>
    ∃ call status, s.enqueues[index]? = some call ∧ call.phase = .returned status ∧ status.ok = false
  | .returned answer => ∃ status, answer = .error status

/-- No call of `AddTask` that has failed has left its task behind. -/
def System.NothingLeft (s : System) : Prop := ∀ add ∈ s.adds, s.AddFailed add → Unregistered s add.task

/-- This `Enqueue` call is the one that `AddTask` makes. -/
def System.Introduces (s : System) (index : Nat) : Prop := ∃ add ∈ s.adds, add.phase = .enqueuing index

/-- The section of `Enqueue` that a call stands before lets it through. -/
def System.Accepts (s : System) (call : EnqueueCall) : Prop :=
  match call.phase with
  | .requested => s.running = true ∧ s.stopping = false
  | .sequenced _ _ => ∀ task, s.tasks.lookup call.task = some task →
      task.cancelled = false ∧ task.queued < task.config.queueCapacity
  | .reserved place _ _ => ∀ group, s.groups.lookup place = some group →
      group.stopping = false ∧ group.queue.length < group.config.queueCapacity
  | .returned _ => True

/-- The `Enqueue` call that a step takes on. -/
def Action.enqueues : Action → Option Nat
  | .enqueueSequence index | .enqueueReserve index _ | .enqueuePush index => some index
  | _ => none

/-- If the step takes on the call that an `AddTask` has made, the call gets through. -/
def Welcomes (s : System) (action : Action) : Prop :=
  ∀ index call, action.enqueues = some index → s.Introduces index → s.enqueues[index]? = some call → s.Accepts call

/-- A section of `Enqueue`, and whether it let the call through. -/
inductive Sectioned (s t : System) (index : Nat) : Prop where
  | taken {call : EnqueueCall} {phase : EnqueuePhase} (active : s.enqueues[index]? = some call)
      (accepts : s.Accepts call) (enqueues : t.enqueues = s.enqueues.set index { call with phase := phase })
      (adds : t.adds = s.adds) (good : ∀ status, phase = .returned status → status.ok = true)
  | refused {call : EnqueueCall} {status : Status} (active : s.enqueues[index]? = some call) (rejects : ¬s.Accepts call)
      (enqueues : t.enqueues = s.enqueues.set index { call with phase := .returned status }) (adds : t.adds = s.adds)
      (bad : status.ok = false)

/-- Every task has its group. -/
def System.Housed (s : System) : Prop :=
  ∀ key task, s.tasks.lookup key = some task → (s.groups.lookup task.config.callbackGroup).isSome = true

theorem Sequencing.sectioned (housed : s.Housed) (part : Sequencing s index t seen) : Sectioned s t index := by
  have accepts {call : EnqueueCall} (requested : call.phase = .requested) :
      s.Accepts call ↔ s.running = true ∧ s.stopping = false := by simp only [System.Accepts,requested]
  cases part with
  | closed active requested found shut =>
    exact .refused active (fun open_ => shut ((accepts requested).mp open_)) rfl rfl rfl
  | @homeless call task active requested found accepting absent =>
    have home := housed call.task task found
    rw [absent] at home
    contradiction
  | sequenced active requested found accepting =>
    exact .taken active ((accepts requested).mpr accepting) rfl rfl (by simp)

theorem reserve_accepts (task : TaskState) :
    task.reserve.2 = none ↔ task.cancelled = false ∧ task.queued < task.config.queueCapacity := by
  simp only [TaskState.reserve]
  cases task.cancelled with
  | true => simp
  | false =>
    by_cases full : task.queued ≥ task.config.queueCapacity
    · simp [full]
    · simp [full,Nat.not_le.mp full]

theorem Reserving.sectioned (part : Reserving s index enqueuedAt t seen) : Sectioned s t index := by
  have accepts {group : CallbackGroupId} {sequence : Nat} {call : EnqueueCall} {task : TaskState}
      (sequenced : call.phase = .sequenced group sequence)
      (found : s.tasks.lookup call.task = some task) : s.Accepts call ↔ task.reserve.2 = none := by
    rw [reserve_accepts]
    simp [System.Accepts,sequenced,found]
  cases part with
  | refused active sequenced found refused =>
    refine .refused active (fun taken => ?_) rfl rfl (reserve_failed refused)
    rw [accepts sequenced found,refused] at taken
    contradiction
  | granted active sequenced found granted =>
    refine .taken active ((accepts sequenced found).mpr ?_) rfl rfl (by simp)
    rw [granted]

theorem Pushing.sectioned (part : Pushing s index t seen) : Sectioned s t index := by
  have accepts {place : CallbackGroupId} {sequence : Nat} {enqueuedAt : Int} {call : EnqueueCall}
      {group : CallbackGroup} (reserved : call.phase = .reserved place sequence enqueuedAt)
      (present : s.groups.lookup place = some group) :
      s.Accepts call ↔ group.stopping = false ∧ group.queue.length < group.config.queueCapacity := by
    simp [System.Accepts,reserved,present]
  cases part with
  | withdrawn active reserved found present stopping =>
    refine .refused active (fun taken => ?_) rfl rfl rfl
    simp [((accepts reserved present).mp taken).1] at stopping
  | overflowed active reserved found present going full =>
    refine .refused active (fun taken => ?_) rfl rfl rfl
    exact absurd ((accepts reserved present).mp taken).2 (Nat.not_lt.mpr full)
  | pushed active reserved found present going room =>
    refine .taken active ((accepts reserved present).mpr ⟨going,room⟩) rfl rfl fun status same => ?_
    rw [← EnqueuePhase.returned.inj same]
    rfl

/-- What the other steps do to the calls of `AddTask`. -/
inductive Added (s t : System) : Prop where
  | same (adds : t.adds = s.adds) (enqueues : s.enqueues <+: t.enqueues)
  | begun {task : TaskId} (adds : t.adds = s.adds ++ [⟨task,.checking⟩]) (enqueues : s.enqueues <+: t.enqueues)
  | asked {index : Nat} {task : TaskId} {releaseTime : Int}
      (adds : t.adds = s.adds.set index ⟨task,.enqueuing s.enqueues.length⟩)
      (enqueues : t.enqueues = s.enqueues ++ [{ task := task, releaseTime := releaseTime }])
  | passed {index : Nat} {task : TaskId} (adds : t.adds = s.adds.set index ⟨task,.returned (.ok task)⟩)
      (enqueues : s.enqueues <+: t.enqueues)
  | failed {index : Nat} {add : AddCall} (active : s.adds[index]? = some add) (failed : s.AddFailed add)

theorem step_added (other : action.enqueues = none) (stepped : step s action = some (t,seen)) : Added s t := by
  cases step_stepped stepped with
  | added valid unstopped housed told =>
    rcases told with ⟨-,rfl,-⟩ | ⟨-,rfl,-⟩
    · exact .begun rfl prefix_rfl
    · exact .same rfl prefix_rfl
  | checked => exact .asked rfl rfl
  | passed | returned => exact .passed rfl prefix_rfl
  | failed active found ended bad => exact .failed active ⟨_,_,found,ended,bad⟩
  | notified | issued => exact .same rfl (prefix_append _ _)
  | sequences | reserves | pushes => contradiction
  | pops part | dispatches part | finishes part | reports part | exits part =>
    cases part <;> exact .same rfl prefix_rfl
  | _ => exact .same rfl prefix_rfl

theorem enqueues_sectioned {index : Nat} (housed : s.Housed) (section_ : action.enqueues = some index)
    (stepped : step s action = some (t,seen)) : Sectioned s t index := by
  cases action with
  | enqueueSequence =>
    cases section_
    exact (enqueueSequence_sequencing stepped).sectioned housed
  | enqueueReserve =>
    cases section_
    exact (enqueueReserve_reserving stepped).sectioned
  | enqueuePush =>
    cases section_
    exact (enqueuePush_pushing stepped).sectioned
  | _ => contradiction

theorem Shift.groups (shift : Shift s house seen) (there : (s.groups.lookup key).isSome = true) :
    (house.groups.lookup key).isSome = true := by
  have modified (place : CallbackGroupId) (group : CallbackGroup) :
      ((s.groups.modify place fun _ => group).lookup key).isSome = true := by
    by_cases same : key = place
    · subst same
      simpa using there
    · simpa [same] using there
  cases shift with
  | founded =>
    by_cases new : key = s.nextGroupId
    · rw [new,lookup_insert]
      rfl
    · rw [lookup_insert_ne new]
      exact there
  | marked index place | pushed place => exact modified place _
  | popped index worker => exact modified worker.group _
  | _ => exact there

theorem step_housed (scheduled : Scheduled s) (housed : s.Housed) (stepped : step s action = some (t,seen)) :
    t.Housed := by
  -- whoever was there has kept its configuration
  have kept (key : TaskId) (task before : TaskState) (found : s.tasks.lookup key = some before)
      (same : task.config = before.config) : (t.groups.lookup task.config.callbackGroup).isSome = true := by
    rw [same]
    exact (step_shift stepped).groups (housed key before found)
  intro key task present
  cases step_ticked scheduled stepped with
  | still undisturbed =>
    obtain ⟨before,found,same⟩ := undisturbed.tasks.origin present
    exact kept key task before found same.config
  | added =>
    obtain ⟨-,home,-⟩ := added_checked stepped (Nat.succ_ne_self _)
    rcases Table.insert_cases present with ⟨-,rfl⟩ | ⟨-,old⟩
    · exact home
    · exact housed key task old
  | armed =>
    obtain ⟨before,found,rfl⟩ := mapped_origin present
    exact kept key _ before found (arm_config before _)
  | released =>
    obtain ⟨before,found,rfl⟩ := mapped_origin present
    exact kept key _ before found (release_config before _)

/-- What holds between the steps as long as no call of `AddTask` fails past its checks. -/
structure Welcoming (s : System) : Prop where
  scheduled : Scheduled s
  housed : s.Housed
  made : ∀ add ∈ s.adds, ∀ index, add.phase = .enqueuing index → index < s.enqueues.length
  unfailed : ∀ add ∈ s.adds, ¬s.AddFailed add

theorem failed_before {s t : System} {add : AddCall} (failed : t.AddFailed add)
    (unmoved : ∀ index, add.phase = .enqueuing index → t.enqueues[index]? = s.enqueues[index]?) :
    s.AddFailed add := by
  revert failed unmoved
  simp only [System.AddFailed]
  cases add.phase with
  | checking | returned => exact fun failed _ => failed
  | enqueuing index =>
    rintro ⟨call,status,active,returned,bad⟩ unmoved
    exact ⟨call,status,unmoved index rfl ▸ active,returned,bad⟩

theorem Sectioned.welcoming {index : Nat} (sectioned : Sectioned s t index) (welcoming : Welcoming s)
    (accepts : s.Introduces index → ∀ call, s.enqueues[index]? = some call → s.Accepts call) :
    t.adds = s.adds ∧ t.enqueues.length = s.enqueues.length ∧ ∀ add ∈ s.adds, ¬t.AddFailed add := by
  cases sectioned with
  | taken active accepted enqueues adds good =>
    refine ⟨adds,by simp [enqueues],fun add member failed => ?_⟩
    by_cases own : add.phase = .enqueuing index
    · simp only [System.AddFailed,own] at failed
      obtain ⟨call,status,present,returned,bad⟩ := failed
      rw [enqueues,getElem?_set_self (Pool.inside active)] at present
      cases present
      rw [good status returned] at bad
      contradiction
    · refine welcoming.unfailed add member (failed_before failed fun place at_ => ?_)
      have apart : index ≠ place := by
        rintro rfl
        exact own at_
      rw [enqueues,getElem?_set_ne apart]
  | refused active rejects enqueues adds =>
    refine ⟨adds,by simp [enqueues],fun add member failed => ?_⟩
    refine welcoming.unfailed add member (failed_before failed fun place at_ => ?_)
    have apart : index ≠ place := by
      rintro rfl
      exact rejects (accepts ⟨add,member,at_⟩ _ active)
    rw [enqueues,getElem?_set_ne apart]

theorem Added.welcoming (added : Added s t) (welcoming : Welcoming s) :
    (∀ add ∈ t.adds, ∀ index, add.phase = .enqueuing index → index < t.enqueues.length) ∧
      ∀ add ∈ t.adds, ¬t.AddFailed add := by
  -- a call that was there before
  have old (grown : s.enqueues <+: t.enqueues) (add : AddCall) (member : add ∈ s.adds) :
      (∀ index, add.phase = .enqueuing index → index < t.enqueues.length) ∧ ¬t.AddFailed add := by
    obtain ⟨rest,whole⟩ := grown
    refine ⟨fun index at_ => ?_,fun failed => ?_⟩
    · have inside := welcoming.made add member index at_
      rw [← whole,length_append]
      omega
    · refine welcoming.unfailed add member (failed_before failed fun index at_ => ?_)
      rw [← whole,getElem?_append_left (welcoming.made add member index at_)]
  -- a call that has come or has moved on
  have both (grown : s.enqueues <+: t.enqueues) (new : AddCall)
      (made : ∀ index, new.phase = .enqueuing index → index < t.enqueues.length) (unfailed : ¬t.AddFailed new)
      (listed : ∀ add ∈ t.adds, add ∈ s.adds ∨ add = new) :
      (∀ add ∈ t.adds, ∀ index, add.phase = .enqueuing index → index < t.enqueues.length) ∧
        ∀ add ∈ t.adds, ¬t.AddFailed add := by
    refine ⟨fun add member => ?_,fun add member => ?_⟩
    · rcases listed add member with there | rfl
      · exact (old grown add there).1
      · exact made
    · rcases listed add member with there | rfl
      · exact (old grown add there).2
      · exact unfailed
  cases added with
  | same adds enqueues =>
    rw [adds]
    exact ⟨fun add member => (old enqueues add member).1,fun add member => (old enqueues add member).2⟩
  | @begun task adds enqueues =>
    refine both enqueues ⟨task,.checking⟩ (by simp) id fun add member => ?_
    rw [adds,mem_append,mem_singleton] at member
    exact member
  | asked adds enqueues =>
    refine both (by rw [enqueues]; exact prefix_append _ _) _ (fun index at_ => ?_) (fun failed => ?_)
      (fun add member => mem_or_eq_of_mem_set (adds ▸ member))
    · cases at_
      simp [enqueues]
    · obtain ⟨call,status,active,returned,-⟩ := failed
      rw [enqueues,getElem?_concat_length] at active
      cases active
      contradiction
  | @passed index task adds enqueues =>
    refine both enqueues ⟨task,.returned (.ok task)⟩ (by simp) (fun failed => ?_)
      (fun add member => mem_or_eq_of_mem_set (adds ▸ member))
    obtain ⟨status,same⟩ := failed
    contradiction
  | failed active failed => exact absurd failed (welcoming.unfailed _ (mem_of_getElem? active))

theorem welcoming_step (welcoming : Welcoming s) (welcomes : Welcomes s action)
    (stepped : step s action = some (t,seen)) : Welcoming t := by
  have scheduled := (step_ticked welcoming.scheduled stepped).scheduled welcoming.scheduled
  have housed := step_housed welcoming.scheduled welcoming.housed stepped
  cases section_ : action.enqueues with
  | none =>
    obtain ⟨made,unfailed⟩ := (step_added section_ stepped).welcoming welcoming
    exact ⟨scheduled,housed,made,unfailed⟩
  | some index =>
    obtain ⟨adds,length,unfailed⟩ := (enqueues_sectioned welcoming.housed section_ stepped).welcoming welcoming
      fun introduces call active => welcomes index call section_ introduces active
    refine ⟨scheduled,housed,?_,by rw [adds]; exact unfailed⟩
    rw [adds,length]
    exact welcoming.made

theorem welcoming_lost (welcoming : Welcoming s) (stepped : step s action = some (t,seen))
    (nothing : t.NothingLeft) : Welcomes s action := by
  intro index call section_ introduces active
  have scheduled := (step_ticked welcoming.scheduled stepped).scheduled welcoming.scheduled
  cases enqueues_sectioned welcoming.housed section_ stepped with
  | taken present accepts =>
    cases active.symm.trans present
    exact accepts
  | @refused old status present rejects enqueues adds bad =>
    -- the call of `AddTask` has failed, and its task is in the table
    obtain ⟨add,member,at_⟩ := introduces
    have failed : t.AddFailed add := by
      simp only [System.AddFailed,at_]
      refine ⟨{ old with phase := .returned status },status,?_,rfl,bad⟩
      rw [enqueues,getElem?_set_self (Pool.inside present)]
    rw [← adds] at member
    obtain ⟨task,found,-⟩ := scheduled.adds member
    rw [unregistered_iff.mp (nothing add member failed)] at found
    contradiction

/-- A call of `AddTask` that its checks refuse leaves the table as it was. The others that fail have
left their task behind: in any interleaving of the executor's threads nothing is ever left behind
exactly if each `Enqueue` call that `AddTask` makes gets through all of its sections. -/
theorem failed_add_leaves_nothing_iff (ran : system.run initial actions = some (s,history)) :
    (∀ (u : System) config callback now status, (u.addTask config callback now).2 = [.refused status] →
      (u.addTask config callback now).1 = u) ∧
    (system.Throughout System.NothingLeft initial actions ↔ system.Along Welcomes initial actions) := by
  constructor
  · intro u config callback now status refused
    revert refused
    simp only [System.addTask]
    repeat' split
    all_goals simp
  · refine Machine.throughout_iff_along
      (fun u (welcoming : Welcoming u) add member failed => absurd failed (welcoming.unfailed add member))
      (fun _ _ _ _ welcoming welcomes stepped => welcoming_step welcoming welcomes stepped)
      (fun _ _ _ _ welcoming stepped nothing => welcoming_lost welcoming stepped nothing) ?_ ran
    exact ⟨initial_scheduled,by simp [initial,System.Housed],by simp [initial],by simp [initial]⟩

/-- A group for one job, which a notification of the first task has filled. -/
def fullGroup : List Action :=
  [.createCallbackGroup ⟨[103],1,1⟩ .success,.addTask { name := [101], kind := .event, callbackGroup := 1 } true 0,
   .start .success 0,.notify 1 1,.enqueueSequence 0,.enqueueReserve 0 2,.enqueuePush 0,
   .addTask { name := [97], callbackGroup := 1 } true 3,.addCheck 0 4,.enqueueSequence 1,.enqueueReserve 1 5,
   .enqueuePush 1,.addReturn 0]

/-- The task of the second call is registered although the call has returned an error. -/
theorem added_left_behind : ∃ s history add, system.run initial fullGroup = some (s,history) ∧ s.adds = [add] ∧
    add.phase = .returned (.error ⟨.queueFull,"callback group queue is full"⟩) ∧
    add.task ∈ s.snapshot.map Prod.fst ∧ s.statsOf add.task = .ok { releases := 1, queueOverflows := 1 } :=
  ⟨_,_,_,rfl,rfl,rfl,by decide,rfl⟩

theorem failed_add_leaves_nothing_iff_sample : ¬system.Along Welcomes initial fullGroup := by
  obtain ⟨s,history,add,ran,adds,failed,left⟩ : ∃ s history add,
      system.run initial fullGroup = some (s,history) ∧ s.adds = [add] ∧
        add.phase = .returned (.error ⟨.queueFull,"callback group queue is full"⟩) ∧
        add.task ∈ s.snapshot.map Prod.fst := ⟨_,_,_,rfl,rfl,rfl,by decide⟩
  intro along
  have throughout := (failed_add_leaves_nothing_iff ran).2.mpr along
  have nothing := throughout.reached ran add (by simp [adds])
  simp only [System.AddFailed,failed] at nothing
  exact (nothing ⟨_,rfl⟩).snapshot left

end AutoRuntime.Executor
