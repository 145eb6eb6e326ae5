import AutoRuntime.ExecutorCalls
import AutoRuntime.ExecutorConservation
import AutoRuntime.ExecutorGrid

/-! The jobs of a periodic task are popped in the order of their releases. The scheduler is in one
`Enqueue` call at a time, so the jobs of such a task line up in its queue by release time, and among
jobs of one task the queue pops the earliest one. -/
namespace AutoRuntime.Executor

open List Pool
open Chrono

theorem higherPriorityFirst_asymmetric (priority : TaskId → Int) (left right : Job)
    (below : higherPriorityFirst priority left right = true) : higherPriorityFirst priority right left = false := by
  simp only [higherPriorityFirst] at below ⊢
  grind

theorem higherPriorityFirst_transitive (priority : TaskId → Int) (left middle right : Job)
    (first : higherPriorityFirst priority left middle = false)
    (second : higherPriorityFirst priority middle right = false) :
    higherPriorityFirst priority left right = false := by
  simp only [higherPriorityFirst] at first second ⊢
  grind

theorem top_earliest (chosen : top priority queue = some job) (member : other ∈ queue) (same : other.task = job.task) :
    job.releaseTime ≤ other.releaseTime := by
  cases queue with
  | nil => contradiction
  | cons head tail =>
    cases chosen
    have above := foldl_best (higherPriorityFirst priority) (higherPriorityFirst_asymmetric priority)
      (higherPriorityFirst_transitive priority) tail head other member
    generalize tail.foldl _ head = job at above same ⊢
    simp only [higherPriorityFirst] at above
    grind

/-- The release times of the jobs of one task. -/
def timesOf (key : TaskId) (jobs : List Job) : List Int :=
  Pool.share key (jobs.map fun job => (job.task,job.releaseTime))

theorem timesOf_append (key : TaskId) (first second : List Job) :
    timesOf key (first ++ second) = timesOf key first ++ timesOf key second := by
  rw [timesOf,map_append,share_append]
  rfl

theorem timesOf_cons (key : TaskId) (job : Job) (jobs : List Job) :
    timesOf key (job :: jobs) = if job.task = key then job.releaseTime :: timesOf key jobs else timesOf key jobs := by
  simp only [timesOf,share]
  split <;> simp_all

theorem mem_timesOf : time ∈ timesOf key jobs ↔ ∃ job ∈ jobs, job.task = key ∧ job.releaseTime = time := by
  simp [timesOf,share]

theorem timesOf_pop (chosen : top priority queue = some job) (own : job.task = key)
    (increasing : (timesOf key queue).Pairwise (· < ·)) :
    timesOf key queue = job.releaseTime :: timesOf key (queue.erase job) := by
  obtain ⟨before,after,-,rfl,erased⟩ := exists_erase_eq (top_mem chosen)
  rw [erased]
  rw [timesOf_append,timesOf_cons,if_pos own] at increasing ⊢
  have none : timesOf key before = [] := by
    by_contra some
    obtain ⟨time,member⟩ := exists_mem_of_ne_nil _ some
    obtain ⟨other,there,same,rfl⟩ := mem_timesOf.mp member
    have less : other.releaseTime < job.releaseTime :=
      (pairwise_append.mp increasing).2.2 _ member _ mem_cons_self
    have least := top_earliest chosen (mem_append_left _ there) (same.trans own.symm)
    omega
  rw [timesOf_append,none]
  rfl

theorem timesOf_erase_other (other : job.task ≠ key) : timesOf key (queue.erase job) = timesOf key queue := by
  by_cases member : job ∈ queue
  · obtain ⟨before,after,-,rfl,erased⟩ := exists_erase_eq member
    rw [erased,timesOf_append,timesOf_append,timesOf_cons,if_neg other]
  · rw [erase_of_not_mem member]

/-- The release times of the jobs of one task that were popped, from any group. -/
def poppedTimes (key : TaskId) (history : List Event) : List Int := timesOf key ((removed history).map (·.2))

/-- What a step does to the queues. -/
inductive Queued (s t : System) (seen : List Event) : Prop where
  | still (queue : ∀ group, t.queue group = s.queue group) (none : removed seen = [])
  | pushed {index : Nat} {call : EnqueueCall} {group : CallbackGroupId} {job : Job}
      (active : s.enqueues[index]? = some call) (unreturned : call.phase.isOpen = true)
      (task : job.task = call.task) (time : job.releaseTime = call.releaseTime)
      (enqueues : t.enqueues = s.enqueues.set index { call with phase := .returned .success })
      (queue : ∀ place, t.queue place = if place = group then s.queue place ++ [job] else s.queue place)
      (none : removed seen = [])
  | popped {group : CallbackGroupId} {job : Job} (chosen : top s.priority (s.queue group) = some job)
      (enqueues : t.enqueues = s.enqueues)
      (queue : ∀ place, t.queue place = if place = group then (s.queue place).erase job else s.queue place)
      (one : removed seen = [(group,job)])

theorem enqueuePush_queued (stepped : s.enqueuePush index = some (t,seen)) : Queued s t seen := by
  cases enqueuePush_pushing stepped with
  | withdrawn | overflowed => exact .still (fun _ => rfl) rfl
  | @pushed place sequence enqueuedAt call task group active reserved found present going room =>
    refine @Queued.pushed _ _ _ index call place ⟨call.task,call.releaseTime,enqueuedAt,sequence⟩ active
      (by rw [reserved]; rfl) rfl rfl rfl (fun other => ?_) rfl
    refine (queue_setGroup present _ other).trans ?_
    split
    next same => rw [same,queue_eq present]
    · rfl

theorem workerPop_queued (stepped : s.workerPop index = some (t,seen)) : Queued s t seen := by
  cases workerPop_popping stepped with
  | popped active idle present chosen =>
    refine .popped (by rw [queue_eq present]; exact chosen) rfl (fun other => ?_) rfl
    refine (queue_setGroup present _ other).trans ?_
    split
    next same => rw [same,queue_eq present]
    · rfl

theorem step_queued (conserved : Conserved s history) (stepped : step s action = some (t,seen)) :
    Queued s t seen := by
  cases carries : action.carries with
  | false =>
    have settled := step_settled conserved carries stepped
    exact .still settled.queue settled.silent.removed
  | true =>
    cases action with
    | enqueuePush => exact enqueuePush_queued stepped
    | workerPop => exact workerPop_queued stepped
    | enqueueReserve =>
      cases enqueueReserve_reserving stepped with
      | refused | granted => exact .still (fun _ => rfl) rfl
    | workerDispatch =>
      cases workerDispatch_dispatching stepped with
      | discarded | dropped | executed => exact .still (fun _ => rfl) rfl
    | _ => contradiction

/-- The jobs of a task that were popped and those that are queued, in this order, are in the order of
their release times, and the calls that brought them have returned. -/
structure InLine (key : TaskId) (s : System) (history : List Event) : Prop where
  increasing : ∀ group, (poppedTimes key history ++ timesOf key (s.queue group)).Pairwise (· < ·)
  called : ∀ group, ∀ time ∈ poppedTimes key history ++ timesOf key (s.queue group),
    ∃ (index : Nat) (call : EnqueueCall), s.enqueues[index]? = some call ∧ call.task = key ∧
      call.releaseTime = time ∧ call.phase.isOpen = false

/-- The call that a push ends is later than those that brought the other jobs. -/
theorem InLine.behind {index : Nat} {call : EnqueueCall} (inLine : InLine key s history) (lone : Lone key s)
    (ordered : (Pool.share key s.requests).Pairwise (· < ·)) (active : s.enqueues[index]? = some call)
    (own : call.task = key) (unreturned : call.phase.isOpen = true) (group : CallbackGroupId) :
    ∀ time ∈ poppedTimes key history ++ timesOf key (s.queue group), time < call.releaseTime := by
  intro time member
  obtain ⟨earlier,brought,there,same,rfl,closed⟩ := inLine.called group time member
  have pending := lone.unreturned index call active own unreturned
  have less : earlier < index := by
    rcases Nat.lt_trichotomy earlier index with less | rfl | more
    · exact less
    · cases active.symm.trans there
      rw [closed] at unreturned
      contradiction
    · exact absurd same (lone.last index earlier brought pending there more)
  have request (place : Nat) (call : EnqueueCall) (active : s.enqueues[place]? = some call) (own : call.task = key) :
      s.requests[place]? = some (key,call.releaseTime) := by
    rw [System.requests,getElem?_map,active,← own]
    rfl
  exact share_pairwise ordered (request earlier brought there same) (request index call active own) less

theorem poppedTimes_append (key : TaskId) (history seen : List Event) :
    poppedTimes key (history ++ seen) = poppedTimes key history ++ timesOf key ((removed seen).map (·.2)) := by
  rw [poppedTimes,removed_append,map_append,timesOf_append]
  rfl

theorem InLine.keep (inLine : InLine key s history) (called : Called s t)
    (kept : ∀ group, ∃ place, (poppedTimes key later ++ timesOf key (t.queue group)).Sublist
      (poppedTimes key history ++ timesOf key (s.queue place))) : InLine key t later := by
  constructor
  · intro group
    obtain ⟨place,sublist⟩ := kept group
    exact (inLine.increasing place).sublist sublist
  · intro group time member
    obtain ⟨place,sublist⟩ := kept group
    obtain ⟨index,call,active,own,same,closed⟩ := inLine.called place time (sublist.subset member)
    exact ⟨index,call,called.returned active closed,own,same,closed⟩

theorem timesOf_elsewhere (conserved : Conserved s history) (queued : job ∈ s.queue place) (own : job.task = key)
    (apart : group ≠ place) : timesOf key (s.queue group) = [] := by
  by_contra some
  obtain ⟨time,member⟩ := exists_mem_of_ne_nil _ some
  obtain ⟨other,there,same,-⟩ := mem_timesOf.mp member
  obtain ⟨task,found,home⟩ := conserved.queuedHome queued
  obtain ⟨known,present,resident⟩ := conserved.queuedHome there
  rw [own] at found
  rw [same,found] at present
  cases present
  exact apart (resident.symm.trans home)

theorem InLine.pushed {index : Nat} {call : EnqueueCall} {job : Job} (inLine : InLine key s history)
    (lone : Lone key s) (called : Called s t) (ordered : (Pool.share key s.requests).Pairwise (· < ·))
    (active : s.enqueues[index]? = some call) (unreturned : call.phase.isOpen = true) (task : job.task = call.task)
    (time : job.releaseTime = call.releaseTime)
    (enqueues : t.enqueues = s.enqueues.set index { call with phase := .returned .success })
    (queue : ∀ group, t.queue group = if group = place then s.queue group ++ [job] else s.queue group) :
    InLine key t history := by
  by_cases own : call.task = key
  · have longer (group : CallbackGroupId) : timesOf key (t.queue group) =
        if group = place then timesOf key (s.queue group) ++ [call.releaseTime] else timesOf key (s.queue group) := by
      rw [queue]
      split
      · rw [timesOf_append,timesOf_cons,if_pos (task.trans own),time]
        rfl
      · rfl
    constructor
    · intro group
      rw [longer]
      split
      · rw [← append_assoc,pairwise_append]
        refine ⟨inLine.increasing group,pairwise_singleton _ _,fun old member new last => ?_⟩
        rw [mem_singleton.mp last]
        exact inLine.behind lone ordered active own unreturned group old member
      · exact inLine.increasing group
    · intro group moment member
      have cases_ : moment ∈ poppedTimes key history ++ timesOf key (s.queue group) ∨ moment = call.releaseTime := by
        rw [longer] at member
        split at member
        · rw [← append_assoc,mem_append,mem_singleton] at member
          exact member
        · exact .inl member
      rcases cases_ with old | rfl
      · obtain ⟨place,brought,there,same,when_,closed⟩ := inLine.called group moment old
        exact ⟨place,brought,called.returned there closed,same,when_,closed⟩
      · refine ⟨index,{ call with phase := .returned .success },?_,own,rfl,rfl⟩
        rw [enqueues,getElem?_set_self (inside active)]
  · refine inLine.keep called fun group => ⟨group,?_⟩
    have same : timesOf key (t.queue group) = timesOf key (s.queue group) := by
      rw [queue]
      split
      · rw [timesOf_append,timesOf_cons,if_neg (task ▸ own)]
        exact append_nil _
      · rfl
    rw [same]

theorem InLine.popped {job : Job} (inLine : InLine key s history) (conserved : Conserved s history)
    (called : Called s t) (chosen : top s.priority (s.queue place) = some job)
    (queue : ∀ group, t.queue group = if group = place then (s.queue group).erase job else s.queue group)
    (one : removed seen = [(place,job)]) : InLine key t (history ++ seen) := by
  have added : poppedTimes key (history ++ seen) = poppedTimes key history ++ timesOf key [job] := by
    rw [poppedTimes_append,one]
    rfl
  by_cases own : job.task = key
  · have first := timesOf_pop chosen own (pairwise_append.mp (inLine.increasing place)).2.1
    refine inLine.keep called fun group => ⟨place,?_⟩
    rw [added,timesOf_cons,if_pos own,first,queue,append_assoc]
    split
    next same => rw [same]; rfl
    next apart =>
      rw [timesOf_elsewhere conserved (top_mem chosen) own apart]
      exact List.Sublist.append_left (List.Sublist.cons_cons _ (nil_sublist _)) _
  · refine inLine.keep called fun group => ⟨group,?_⟩
    have same : timesOf key (t.queue group) = timesOf key (s.queue group) := by
      rw [queue]
      split
      · exact timesOf_erase_other own
      · rfl
    have none : timesOf key [] = [] := rfl
    rw [added,timesOf_cons,if_neg own,none,append_nil,same]

theorem InLine.step (inLine : InLine key s history) (lone : Lone key s) (conserved : Conserved s history)
    (called : Called s t) (queued : Queued s t seen) (ordered : (Pool.share key s.requests).Pairwise (· < ·)) :
    InLine key t (history ++ seen) := by
  have quiet (none : removed seen = []) : poppedTimes key (history ++ seen) = poppedTimes key history := by
    rw [poppedTimes_append,none]
    exact append_nil _
  cases queued with
  | still queue none =>
    refine inLine.keep called fun group => ⟨group,?_⟩
    rw [quiet none,queue]
  | pushed active unreturned task time enqueues queue none =>
    have line := inLine.pushed lone called ordered active unreturned task time enqueues queue
    exact ⟨fun group => by rw [quiet none]; exact line.increasing group,by rw [quiet none]; exact line.called⟩
  | popped chosen enqueues queue one => exact inLine.popped conserved called chosen queue one

/-- What holds for a task between the steps. Its release times are in order once it is known that
those of its calls are, whatever became of the calls. -/
structure Lines (key : TaskId) (s : System) (history : List Event) : Prop where
  scheduled : Scheduled s
  conserved : Conserved s history
  lone : (∀ task, s.tasks.lookup key = some task → task.config.kind = .periodic) → Lone key s
  inLine : (∀ task, s.tasks.lookup key = some task → task.config.kind = .periodic) →
    (Pool.share key s.requests).Pairwise (· < ·) → InLine key s history

theorem initial_lines (key : TaskId) : Lines key initial [] where
  scheduled := initial_scheduled
  conserved := initial_conserved
  lone _ := ⟨by simp [initial],by simp [initial]⟩
  inLine _ _ := ⟨by simp [initial,System.queue,poppedTimes,removed,timesOf,share],
    by simp [initial,System.queue,poppedTimes,removed,timesOf,share]⟩

theorem Lines.step (lines : Lines key s history) (stepped : step s action = some (t,seen)) :
    Lines key t (history ++ seen) := by
  have ticked := step_ticked lines.scheduled stepped
  have called := step_called lines.scheduled stepped
  have queued := step_queued lines.conserved stepped
  -- a task that is periodic afterwards was periodic or unknown before
  have before (periodic : ∀ task, t.tasks.lookup key = some task → task.config.kind = .periodic) :
      ∀ task, s.tasks.lookup key = some task → task.config.kind = .periodic := by
    intro task found
    obtain ⟨changed,present,same⟩ := ticked.config lines.scheduled found
    rw [← same]
    exact periodic changed present
  refine ⟨ticked.scheduled lines.scheduled,step_conserved lines.conserved stepped,fun periodic => ?_,
    fun periodic ordered => ?_⟩
  · exact called.lone (lines.lone (before periodic)) (before periodic)
  · obtain ⟨rest,whole⟩ := called.requests
    rw [← whole,share_append] at ordered
    have earlier := (pairwise_append.mp ordered).1
    exact (lines.inLine (before periodic) earlier).step (lines.lone (before periodic)) lines.conserved called queued
      earlier

theorem run_lines (lines : Lines key s past) (ran : system.run s actions = some (t,history)) :
    Lines key t (past ++ history) :=
  Machine.run_rule_from (motive := fun s history _ => Lines key s history)
    (fun _ _ _ _ _ _ lines stepped => lines.step stepped) lines ran

/-- The release times that were popped were handed on, and they were popped in order if they were
handed on in order. -/
theorem Lines.popped (lines : Lines key s history) (found : s.tasks.lookup key = some task)
    (periodic : task.config.kind = .periodic) (increasing : (s.handed key).Pairwise (· < ·)) :
    (poppedTimes key history).Pairwise (· < ·) ∧ ∀ time ∈ poppedTimes key history, time ∈ s.handed key := by
  have own (other : TaskState) (present : s.tasks.lookup key = some other) : other.config.kind = .periodic := by
    cases found.symm.trans present
    exact periodic
  rw [System.handed,share_append] at increasing ⊢
  have inLine := lines.inLine own (pairwise_append.mp increasing).1
  refine ⟨(pairwise_append.mp (inLine.increasing task.config.callbackGroup)).1,fun time member => ?_⟩
  obtain ⟨index,call,active,same,rfl,-⟩ :=
    inLine.called task.config.callbackGroup time (mem_append_left _ member)
  refine mem_append_left _ (mem_filterMap.mpr ⟨(call.task,call.releaseTime),?_,if_pos same⟩)
  exact mem_map.mpr ⟨call,mem_of_getElem? active,rfl⟩

/-- The task is on its grid, and the releases that were handed on are points of the grid in order,
also if the task was cancelled later. -/
structure Tracked (start period last : Int) (key : TaskId) (s : System) : Prop where
  grid : OnGrid start period last key s
  increasing : (s.handed key).Pairwise (· < ·)
  points : ∀ time ∈ s.handed key, ∃ j, 1 ≤ j ∧ time = gridPoint start period j

theorem Ticked.tracked {s : System} (ticked : Ticked s t action seen) (scheduled : Scheduled s)
    (tracked : Tracked start period last key s)
    (timely : ∀ now, action.passTime = some now → last ≤ now ∧ Representable start period now) :
    Tracked start period (action.passTime.getD last) key t := by
  have grid := ticked.onGrid scheduled tracked.grid timely
  have kept (same : t.handed key = s.handed key) : Tracked start period (action.passTime.getD last) key t :=
    ⟨grid,by rw [same]; exact tracked.increasing,by rw [same]; exact tracked.points⟩
  obtain ⟨live,task,found,periodic,rfl,placed⟩ := tracked.grid
  cases ticked with
  | still undisturbed =>
    refine kept (undisturbed.handed fun other there => ?_)
    cases found.symm.trans there
    exact periodic
  | added => exact kept rfl
  | armed idle open_ => simp [idle,open_] at live
  | @released now order checked waiting =>
    have handed := released_handed order now (s.tasks.mapValues fun _ task => (task.release now).1) waiting key
    rw [found,Option.map_some,Option.getD_some] at handed
    cases alive : task.cancelled with
    | true =>
      -- a cancelled task releases nothing
      have none : (task.release now).2 = [] := by simp [TaskState.release,alive]
      refine kept (handed.trans ?_)
      rw [none,append_nil]
    | false =>
      obtain ⟨index,position⟩ := placed alive
      obtain ⟨ordered,exact_⟩ := timely now rfl
      obtain ⟨reached,position,-⟩ := position.release (scheduled.positive found periodic) periodic alive ordered exact_
      have points := @position.points
      rw [release_config] at points
      refine ⟨grid,by rw [handed]; exact position.increasing,fun time member => ?_⟩
      rw [handed] at member
      obtain ⟨j,lower,-,same⟩ := points member
      exact ⟨j,lower,same⟩

/-- Every periodic task whose times stay in range, from the step that starts its clock and through
every interleaving of the executor's threads: the release times of its jobs are popped in strictly
increasing order, and each of them is a point of its grid. -/
theorem popped_in_order (ran : system.run initial earlier = some (s₀,past))
    (armed : system.step s₀ arming = some (s₁,seen)) (arms : Arms s₀ arming seen key start)
    (continued : system.run s₁ actions = some (s,history))
    (present : s.tasks.lookup key = some task) (periodic : task.config.kind = .periodic)
    (ordered : (start :: passTimes actions).Pairwise (· ≤ ·)) (first : Fits (start + task.config.period))
    (exact_ : ∀ time ∈ passTimes actions, Fits (time + task.config.period) ∧ Fits (time - start)) :
    (poppedTimes key (past ++ seen ++ history)).Pairwise (· < ·) ∧
      ∀ time ∈ poppedTimes key (past ++ seen ++ history),
        ∃ j : Nat, 1 ≤ j ∧ time = start + j * task.config.period := by
  have known := run_scheduled ran
  have scheduled := (step_ticked known armed).scheduled known
  obtain ⟨begun,found⟩ := arms.present armed
  obtain ⟨changed,there,config⟩ := run_config scheduled found continued
  cases there.symm.trans present
  rw [config] at first exact_
  have kind : begun.config.kind = .periodic := config ▸ periodic
  have unhanded := (arms.begun known armed found kind).2.1
  have tracked : Tracked start begun.config.period start key s₁ :=
    ⟨arms.onGrid known armed found kind first,by simp [unhanded],by simp [unhanded]⟩
  rw [← append_nil (passTimes actions)] at ordered
  obtain ⟨-,last,-,-,increasing,points⟩ := run_passes
    (fun _ _ _ _ _ scheduled tracked ticked timely => ticked.tracked scheduled tracked timely) scheduled tracked
    continued ordered (fun time listed => ⟨first,(exact_ time listed).1,(exact_ time listed).2⟩)
  have lines := run_lines ((run_lines (initial_lines key) ran).step armed) continued
  obtain ⟨strict,handed⟩ := lines.popped present periodic increasing
  refine ⟨strict,fun time member => ?_⟩
  obtain ⟨j,lower,rfl⟩ := points time (handed time member)
  rw [config]
  exact ⟨j,lower,rfl⟩

/-- Room for two jobs, and two workers. -/
def pairedTask : TaskConfig := { sampleTask with queueCapacity := 2 }

def pairedSetup : List Action :=
  [.createCallbackGroup { name := [103], workerCount := 2 } .success,.addTask pairedTask true 0]

/-- A pass that is three points late. The task takes two of them, and two workers pop them. -/
def latePass : List Action :=
  [.schedulerPass .stored 135 135,.schedulerRelease,.enqueueSequence 0,.enqueueReserve 0 136,.enqueuePush 0,
   .schedulerRelease,.enqueueSequence 1,.enqueueReserve 1 137,.enqueuePush 1,.workerPop 1,
   .schedulerRelease,.enqueueSequence 2,.enqueueReserve 2 138,.workerPop 0]

theorem popped_in_order_sample : ∃ s₀ past s₁ s history,
    system.run initial pairedSetup = some (s₀,past) ∧ system.step s₀ (.start .success 100) = some (s₁,[.started]) ∧
      system.run s₁ latePass = some (s,history) ∧
      (∀ time ∈ passTimes latePass, Fits (time + pairedTask.period) ∧ Fits (time - 100)) ∧
      poppedTimes 1 (past ++ [.started] ++ history) = [110,120] ∧
      ∀ time ∈ poppedTimes 1 (past ++ [.started] ++ history), ∃ j : Nat, 1 ≤ j ∧ time = 100 + (j : Int) * 10 := by
  obtain ⟨s₀,past,s₁,s,history,task,ran,armed,there,continued,present,config,popped⟩ : ∃ s₀ past s₁ s history task,
      system.run initial pairedSetup = some (s₀,past) ∧
      system.step s₀ (.start .success 100) = some (s₁,[.started]) ∧ (s₀.tasks.lookup 1).isSome = true ∧
      system.run s₁ latePass = some (s,history) ∧ s.tasks.lookup 1 = some task ∧ task.config = pairedTask ∧
      poppedTimes 1 (past ++ [.started] ++ history) = [110,120] :=
    ⟨_,_,_,_,_,_,rfl,rfl,rfl,rfl,rfl,rfl,rfl⟩
  have arms : Arms s₀ (.start .success 100) [.started] 1 100 := .inl ⟨.success,rfl,rfl,there⟩
  have exact_ : ∀ time ∈ passTimes latePass, Fits (time + pairedTask.period) ∧ Fits (time - 100) := by decide
  obtain ⟨-,points⟩ := popped_in_order ran armed arms continued present (by rw [config]; rfl) (by decide)
    (by rw [config]; decide) (by rw [config]; exact exact_)
  rw [config] at points
  exact ⟨s₀,past,s₁,s,history,ran,armed,continued,exact_,popped,points⟩

/-- A period that leaves the range with the first release already. -/
def rareTask : TaskConfig := { sampleTask with period := 2^63 - 30, queueCapacity := 3 }

/-- One pass in the nanosecond in which the task starts, and three workers for what it releases. -/
def wrappedRun : List Action :=
  [.createCallbackGroup { name := [103], workerCount := 3 } .success,.addTask rareTask true 0,.start .success 100,
   .schedulerPass .stored 100 100,.schedulerRelease,.enqueueSequence 0,.enqueueReserve 0 101,.enqueuePush 0,
   .workerPop 0,.schedulerRelease,.enqueueSequence 1,.enqueueReserve 1 101,.enqueuePush 1,.workerPop 1,
   .schedulerRelease,.enqueueSequence 2,.enqueueReserve 2 101,.enqueuePush 2,.workerPop 2]

theorem popped_out_of_order : validTask rareTask true = true ∧ ∃ s history,
    system.run initial wrappedRun = some (s,history) ∧
    poppedTimes 1 history = [-2^63 + 70,40,-2^63 + 10] ∧ ¬(poppedTimes 1 history).Pairwise (· < ·) := by
  refine ⟨by decide,_,_,rfl,?_,?_⟩
  · decide
  · decide

end AutoRuntime.Executor
