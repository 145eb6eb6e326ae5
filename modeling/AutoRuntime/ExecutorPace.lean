import AutoRuntime.ExecutorClock
import AutoRuntime.ExecutorOrder
import AutoRuntime.ExecutorShift

/-! Runs of moderate tasks. As long as the clock has not been running for too long, every release
time of such a task is a reading or lies before one, and the releases of a task are a period apart. -/
namespace AutoRuntime.Executor

open List Pool
open Chrono

/-- The clock readings of an action. -/
def Action.readings : Action → List Int
  | .addTask _ _ now | .addCheck _ now | .start _ now | .notify _ now | .enqueueReserve _ now
  | .workerDispatch _ now => [now]
  | .workerFinish _ first last _ => [first,last]
  | .schedulerPass _ checked now => [checked,now]
  | _ => []

/-- Every reading is in range, and every task that is handed to `AddTask` is moderate. -/
def Sober (action : Action) : Prop :=
  (∀ time ∈ action.readings, Reading time) ∧
    ∀ config callback now, action = .addTask config callback now → Moderate config

/-- The releases of one pass are a period apart, none is before the one that was next, and all of
them are before the one that is next then. -/
theorem release_paced {task : TaskState} (positive : 0 < task.config.period) (frequent : task.config.period ≤ 2^62)
    (nonnegative : 0 ≤ task.nextRelease) (reading : Reading now) :
    (∀ time ∈ (task.release now).2, task.nextRelease ≤ time ∧ time ≤ now ∧
      time + task.config.period ≤ (task.release now).1.nextRelease) ∧
    (task.release now).2.Pairwise (fun one two => one + task.config.period ≤ two) ∧
    task.nextRelease ≤ (task.release now).1.nextRelease := by
  obtain ⟨lower,upper⟩ := reading
  by_cases active : task.cancelled = false ∧ task.config.kind = .periodic ∧ task.nextRelease ≤ now
  · obtain ⟨alive,periodic,due⟩ := active
    generalize origin : task.nextRelease - task.config.period = start
    have next : task.nextRelease = gridPoint start task.config.period (0 + 1) := by
      simp only [gridPoint]
      omega
    have representable : Representable start task.config.period now :=
      ⟨⟨by omega,by omega⟩,⟨by omega,by omega⟩,⟨by omega,by omega⟩⟩
    have past : gridPoint start task.config.period 0 ≤ now := by
      simp only [gridPoint]
      omega
    obtain ⟨count,skipped,small,released,changed,behind,ahead⟩ :=
      release_grid positive representable alive periodic rfl next past
    rw [released,changed]
    have spaced {i j : Nat} (less : i < j) : gridPoint start task.config.period i + task.config.period ≤
        gridPoint start task.config.period j := by
      rw [← gridPoint_succ]
      exact gridPoint_le positive less
    refine ⟨fun time listed => ?_,?_,?_⟩
    · obtain ⟨j,inside,rfl⟩ := mem_map.mp listed
      obtain ⟨first,last⟩ := mem_range'_1.mp inside
      refine ⟨?_,?_,spaced (by omega)⟩
      · rw [next]
        exact gridPoint_le positive (by omega)
      · exact Int.le_trans (gridPoint_le positive (by omega)) behind
    · exact pairwise_map.mpr (List.Pairwise.imp spaced pairwise_lt_range')
    · rw [next]
      exact gridPoint_le positive (by omega)
  · have none : task.release now = (task,[]) := by
      by_cases due : task.nextRelease ≤ now
      · have idle : (task.cancelled || task.config.kind != .periodic) = true := by
          by_contra running
          simp at running
          exact active ⟨running.1,running.2,due⟩
        rw [TaskState.release,if_pos idle]
      · exact release_ahead (Int.not_le.mp due)
    rw [none]
    exact ⟨by simp,.nil,Int.le_refl _⟩

/-- What holds between sober steps. -/
structure Clocked (s : System) : Prop where
  scheduled : Scheduled s
  moderate : s.tasks.lookup key = some task → Moderate task.config ∧ 0 ≤ task.config.deadline
  ahead : s.tasks.lookup key = some task → 0 ≤ task.nextRelease
  handed : time ∈ s.handed key → Reading time
  queued : job ∈ s.queue group → Reading job.releaseTime
  held : worker ∈ s.workers → worker.phase = .popped job flag → Reading job.releaseTime
  running : worker ∈ s.workers → worker.phase = .executing job → Reading job.releaseTime

theorem initial_clocked : Clocked initial := by
  refine ⟨initial_scheduled,?_,?_,?_,?_,?_,?_⟩ <;>
    simp [initial,System.handed,System.requests,SchedulerPhase.due,share,System.queue]

variable {s : System}

theorem handed_request {adds : List AddCall} (member : time ∈ { s.request target now with adds := adds }.handed key) :
    time ∈ s.handed key ∨ time = now := by
  simp only [System.handed,System.requests,System.request,map_append,share_append,mem_append] at member ⊢
  rcases member with (old | new) | later
  · exact .inl (.inl old)
  · obtain ⟨entry,listed,own⟩ := mem_filterMap.mp new
    obtain rfl := mem_singleton.mp listed
    split at own
    · exact .inr (Option.some.inj own).symm
    · contradiction
  · exact .inl (.inr later)

theorem handed_same {t : System} (requests : t.requests = s.requests) (due : t.scheduler.due = s.scheduler.due)
    (key : TaskId) : t.handed key = s.handed key := by
  rw [System.handed,requests,due,System.handed]

theorem step_handed (scheduled : Scheduled s) (stepped : step s action = some (t,seen)) (member : time ∈ t.handed key) :
    time ∈ s.handed key ∨ time ∈ action.readings ∨
      ∃ task now, now ∈ action.readings ∧ s.tasks.lookup key = some task ∧ time ∈ (task.release now).2 := by
  have same (requests : t.requests = s.requests) (due : t.scheduler.due = s.scheduler.due) :
      time ∈ s.handed key := handed_same requests due key ▸ member
  cases step_stepped stepped with
  | notified | checked =>
    rcases handed_request member with old | rfl
    · exact .inl old
    · exact .inr (.inl mem_cons_self)
  | sequences part =>
    cases part with
    | closed active | homeless active | sequenced active => exact .inl (same (setEnqueue_requests active _) rfl)
  | reserves part =>
    cases part with
    | refused active | granted active => exact .inl (same (map_set_same _ _ active rfl) rfl)
  | pushes part =>
    cases part with
    | withdrawn active | overflowed active | pushed active =>
      exact .inl (same (map_set_same _ _ active rfl) rfl)
  | started idle unstopped => exact .inl (same rfl (by rw [scheduled.absent idle unstopped]; rfl))
  | @released order checked now waiting unstopped =>
    rw [released_handed order now _ waiting,mem_append] at member
    refine member.imp_right fun due => .inr ?_
    cases found : s.tasks.lookup key with
    | none => simp [found] at due
    | some task => exact ⟨task,now,by simp [Action.readings],rfl,by simpa [found] using due⟩
  | drained releasing => exact .inl (same rfl (by rw [releasing]; rfl))
  | issued releasing =>
    refine .inl ?_
    simpa [System.handed,System.requests,System.request,releasing,SchedulerPhase.due] using member
  | left waiting => exact .inl (same rfl (by rw [waiting]; rfl))
  | pops part | dispatches part | finishes part | reports part | exits part =>
    cases part <;> exact .inl (same rfl rfl)
  | _ => exact .inl (same rfl rfl)

/-- The configuration and the next release of a task, after a step, come from the task as it was or
from the readings of the step. -/
inductive Origin (s : System) (action : Action) (key : TaskId) (changed : TaskState) : Prop where
  | kept (found : s.tasks.lookup key = some task) (config : changed.config = task.config)
      (next : changed.nextRelease = task.nextRelease)
  | added (config : TaskConfig) (callback : Bool) (now : Int) (called : action = .addTask config callback now)
      (valid : validTask config callback = true) (same : changed.config = config)
      (next : changed.nextRelease = 0 ∨ config.kind = .periodic ∧ changed.nextRelease = after now config.period)
  | armed (found : s.tasks.lookup key = some task) (now : Int) (read : now ∈ action.readings)
      (same : changed = task.arm now)
  | released (found : s.tasks.lookup key = some task) (now : Int) (read : now ∈ action.readings)
      (same : changed = (task.release now).1)

theorem step_origin (scheduled : Scheduled s) (stepped : step s action = some (t,seen))
    (present : t.tasks.lookup key = some changed) : Origin s action key changed := by
  cases step_ticked scheduled stepped with
  | still undisturbed =>
    obtain ⟨task,found,same⟩ := undisturbed.tasks.origin present
    exact .kept found same.config same.nextRelease
  | added valid armed =>
    obtain ⟨valid,-,tasks⟩ := added_checked stepped (Nat.succ_ne_self _)
    rw [show AList.insert _ _ _ = _ from tasks] at present
    rcases Table.insert_cases present with ⟨-,same⟩ | ⟨-,old⟩
    · rw [same]
      refine .added _ _ _ rfl valid rfl ?_
      split
      next armed => exact .inr ⟨by simpa using (Bool.and_eq_true_iff.mp armed).2,rfl⟩
      · exact .inl rfl
    · exact .kept old rfl rfl
  | armed =>
    obtain ⟨task,found,same⟩ := mapped_origin present
    exact .armed found _ mem_cons_self same
  | released =>
    obtain ⟨task,found,same⟩ := mapped_origin present
    exact .released found _ (by simp [Action.readings]) same

section Step

variable {s t : System} {action : Action} {seen history : List Event}

theorem Clocked.paced {task : TaskState} (clocked : Clocked s) (found : s.tasks.lookup key = some task)
    (periodic : task.config.kind = .periodic) (reading : Reading now) :
    (∀ time ∈ (task.release now).2, task.nextRelease ≤ time ∧ time ≤ now ∧
      time + task.config.period ≤ (task.release now).1.nextRelease) ∧
    (task.release now).2.Pairwise (fun one two => one + task.config.period ≤ two) ∧
    task.nextRelease ≤ (task.release now).1.nextRelease :=
  release_paced (clocked.scheduled.positive found periodic) ((clocked.moderate found).1.2 periodic)
    (clocked.ahead found) reading

theorem release_other {task : TaskState} (other : task.config.kind ≠ .periodic) (now : Int) :
    task.release now = (task,[]) := by
  rw [TaskState.release,if_pos (by simp [other])]

theorem Clocked.tasks (clocked : Clocked s) (sober : Sober action) (stepped : step s action = some (t,seen))
    (present : t.tasks.lookup key = some changed) :
    (Moderate changed.config ∧ 0 ≤ changed.config.deadline) ∧ 0 ≤ changed.nextRelease := by
  cases step_origin clocked.scheduled stepped present with
  | kept found config next =>
    rw [config,next]
    exact ⟨clocked.moderate found,clocked.ahead found⟩
  | added config callback now called valid same next =>
    have moderate := sober.2 config callback now called
    obtain ⟨signed,positive⟩ := validTask_signs valid
    rw [same]
    refine ⟨⟨moderate,signed⟩,?_⟩
    rcases next with zero | ⟨periodic,next⟩
    · exact Int.le_of_eq zero.symm
    · obtain ⟨lower,upper⟩ := sober.1 now (by simp [called,Action.readings])
      have frequent := moderate.2 periodic
      have signed := positive periodic
      rw [next,after_exact ⟨by omega,by omega⟩]
      omega
  | @armed task found now read same =>
    rw [same,arm_config]
    refine ⟨clocked.moderate found,?_⟩
    by_cases periodic : task.config.kind = .periodic
    · obtain ⟨lower,upper⟩ := sober.1 now read
      have frequent := (clocked.moderate found).1.2 periodic
      have signed := clocked.scheduled.positive found periodic
      rw [arm_periodic periodic,after_exact ⟨by omega,by omega⟩]
      simp only
      omega
    · rw [TaskState.arm,if_neg periodic]
      exact clocked.ahead found
  | @released task found now read same =>
    rw [same,release_config]
    refine ⟨clocked.moderate found,?_⟩
    have ahead := clocked.ahead found
    by_cases periodic : task.config.kind = .periodic
    · have later := (clocked.paced found periodic (sober.1 now read)).2.2
      omega
    · rw [release_other periodic]
      exact ahead

theorem Clocked.times (clocked : Clocked s) (sober : Sober action) (stepped : step s action = some (t,seen))
    (member : time ∈ t.handed key) : Reading time := by
  rcases step_handed clocked.scheduled stepped member with old | read | ⟨task,now,read,found,due⟩
  · exact clocked.handed old
  · exact sober.1 time read
  · have ahead := clocked.ahead found
    have reading := sober.1 now read
    by_cases periodic : task.config.kind = .periodic
    · obtain ⟨first,last,-⟩ := (clocked.paced found periodic reading).1 time due
      obtain ⟨lower,upper⟩ := reading
      exact ⟨by omega,by omega⟩
    · rw [release_other periodic] at due
      contradiction

theorem mem_handed_of_call {call : EnqueueCall} {index : Nat} (active : s.enqueues[index]? = some call) :
    call.releaseTime ∈ s.handed call.task := by
  rw [System.handed,share_append]
  refine mem_append_left _ (mem_filterMap.mpr ⟨(call.task,call.releaseTime),?_,if_pos rfl⟩)
  exact mem_map.mpr ⟨call,mem_of_getElem? active,rfl⟩

theorem Clocked.queues (clocked : Clocked s) (conserved : Conserved s history)
    (stepped : step s action = some (t,seen)) (member : job ∈ t.queue group) : Reading job.releaseTime := by
  cases step_queued conserved stepped with
  | still queue => exact clocked.queued (queue group ▸ member)
  | pushed active unreturned task time enqueues queue =>
    rw [queue] at member
    split at member
    · rcases mem_append.mp member with old | new
      · exact clocked.queued old
      · rw [mem_singleton.mp new,time]
        exact clocked.handed (mem_handed_of_call active)
    · exact clocked.queued member
  | popped chosen enqueues queue =>
    rw [queue] at member
    split at member
    · exact clocked.queued (mem_of_mem_erase member)
    · exact clocked.queued member

theorem shift_jobs {house : House} (shift : Shift s house seen) (member : worker ∈ house.workers) :
    worker ∈ s.workers ∨ (∀ job flag, worker.phase = .popped job flag → ∃ group, job ∈ s.queue group) ∧
      ∀ job, worker.phase = .executing job → ∃ old ∈ s.workers, ∃ flag, old.phase = .popped job flag := by
  have replaced {index : Nat} {new : Worker} (inside : worker ∈ s.workers.set index new) :
      worker ∈ s.workers ∨ worker = new := mem_or_eq_of_mem_set inside
  cases shift with
  | still | founded | closing | marked | marking | joined | pushed => exact .inl member
  | started =>
    rcases mem_append.mp member with old | new
    · exact .inl old
    · obtain ⟨entry,-,spawned⟩ := mem_flatMap.mp new
      rw [eq_of_mem_replicate spawned]
      exact .inr ⟨by simp,by simp⟩
  | popped index old group job active idle found queued =>
    refine (replaced member).imp_right ?_
    rintro rfl
    refine ⟨fun other flag same => ⟨old.group,?_⟩,by simp⟩
    cases same
    rw [queue_eq found]
    exact queued
  | executed index old job task active held =>
    refine (replaced member).imp_right ?_
    rintro rfl
    refine ⟨by simp,fun other same => ⟨old,mem_of_getElem? active,false,?_⟩⟩
    rw [← WorkerPhase.executing.inj same]
    exact held
  | worked index old phase active busy next =>
    refine (replaced member).imp_right ?_
    rintro rfl
    rcases next with rfl | ⟨event,rfl⟩ <;> exact ⟨by simp,by simp⟩
  | exited =>
    refine (replaced member).imp_right ?_
    rintro rfl
    exact ⟨by simp,by simp⟩

theorem Clocked.step (clocked : Clocked s) (conserved : Conserved s history) (sober : Sober action)
    (stepped : step s action = some (t,seen)) : Clocked t where
  scheduled := (step_ticked clocked.scheduled stepped).scheduled clocked.scheduled
  moderate present := (clocked.tasks sober stepped present).1
  ahead present := (clocked.tasks sober stepped present).2
  handed member := clocked.times sober stepped member
  queued member := clocked.queues conserved stepped member
  held member phase := by
    rcases shift_jobs (step_shift stepped) member with old | ⟨popped,-⟩
    · exact clocked.held old phase
    · obtain ⟨group,queued⟩ := popped _ _ phase
      exact clocked.queued queued
  running member phase := by
    rcases shift_jobs (step_shift stepped) member with old | ⟨-,executing⟩
    · exact clocked.running old phase
    · obtain ⟨before,there,flag,held⟩ := executing _ phase
      exact clocked.held there held

end Step

/-- Since its clock was started, a task has been released at times that are a period apart, the first
of them a period after the start, and it will be so with the next one. -/
structure Spaced (start period : Int) (handed : List Int) (next : Int) : Prop where
  first : start + period ≤ next
  after_ : ∀ time ∈ handed, start + period ≤ time
  before : ∀ time ∈ handed, time + period ≤ next
  apart : handed.Pairwise fun one two => one + period ≤ two

structure Paced (start period : Int) (key : TaskId) (s : System) : Prop where
  live : s.running = true ∨ s.stopping = true
  placed : ∃ task, s.tasks.lookup key = some task ∧ task.config.kind = .periodic ∧ task.config.period = period ∧
    Spaced start period (s.handed key) task.nextRelease

theorem Spaced.release {task : TaskState} (spaced : Spaced start task.config.period handed task.nextRelease)
    (clocked : Clocked s) (found : s.tasks.lookup key = some task) (periodic : task.config.kind = .periodic)
    (reading : Reading now) :
    Spaced start task.config.period (handed ++ (task.release now).2) (task.release now).1.nextRelease := by
  obtain ⟨due,apart,later⟩ := clocked.paced found periodic reading
  have first := spaced.first
  refine ⟨by omega,fun time listed => ?_,fun time listed => ?_,pairwise_append.mpr
    ⟨spaced.apart,apart,fun old earlier new listed => ?_⟩⟩
  · rcases mem_append.mp listed with old | new
    · exact spaced.after_ time old
    · have next := (due time new).1
      omega
  · rcases mem_append.mp listed with old | new
    · have next := spaced.before time old
      omega
    · exact (due time new).2.2
  · have next := spaced.before old earlier
    have behind := (due new listed).1
    omega

theorem Paced.step (paced : Paced start period key s) (clocked : Clocked s) (sober : Sober action)
    (ticked : Ticked s t action seen) : Paced start period key t := by
  obtain ⟨live,task,found,periodic,rfl,spaced⟩ := paced
  obtain ⟨live,changed,present,⟨same,handed⟩ | ⟨order,checked,now,rfl,rfl,handed⟩⟩ :=
    ticked.clock clocked.scheduled live found periodic
  · refine ⟨live,changed,present,same.config ▸ periodic,by rw [same.config],?_⟩
    rw [handed,same.nextRelease]
    exact spaced
  · refine ⟨live,(task.release now).1,present,?_,by rw [release_config],?_⟩
    · rw [release_config]
      exact periodic
    · rw [handed]
      exact spaced.release clocked found periodic (sober.1 now (by simp [Action.readings]))

theorem Arms.reading (arms : Arms s action seen key start) : start ∈ action.readings := by
  rcases arms with ⟨scheduling,rfl,-⟩ | ⟨config,callback,rfl,-⟩ <;> exact mem_cons_self

theorem Arms.paced (arms : Arms s action seen key start) (clocked : Clocked s) (sober : Sober action)
    (stepped : step s action = some (t,seen)) (after_ : Clocked t) (present : t.tasks.lookup key = some task)
    (periodic : task.config.kind = .periodic) : Paced start task.config.period key t := by
  obtain ⟨lower,upper⟩ := sober.1 start arms.reading
  have frequent := (after_.moderate present).1.2 periodic
  have positive := after_.scheduled.positive present periodic
  have fits : Fits (start + task.config.period) := ⟨by omega,by omega⟩
  have grid := arms.onGrid clocked.scheduled stepped present periodic fits
  refine ⟨grid.live,task,present,periodic,rfl,?_⟩
  obtain ⟨-,handed,next,-⟩ := arms.begun clocked.scheduled stepped present periodic
  rw [handed,next,after_exact fits]
  exact ⟨Int.le_refl _,by simp,by simp,.nil⟩

theorem run_sober {motive : System → Prop}
    (preserved : ∀ s action t seen, Clocked s → motive s → Sober action → Ticked s t action seen → motive t)
    (clocked : Clocked s) (conserved : Conserved s past) (begun : motive s)
    (sober : ∀ action ∈ actions, Sober action) (ran : system.run s actions = some (t,history)) :
    Clocked t ∧ Conserved t (past ++ history) ∧ motive t := by
  have reached := Machine.run_rule_from (motive := fun s history rest => (Clocked s ∧ Conserved s history ∧ motive s) ∧
    ∀ action ∈ rest, Sober action) ?_ ⟨⟨clocked,conserved,begun⟩,sober⟩ ran
  · exact reached.1
  · rintro s history action rest t seen ⟨⟨clocked,conserved,held⟩,sober⟩ stepped
    have now := sober action mem_cons_self
    have ticked := step_ticked clocked.scheduled stepped
    exact ⟨⟨clocked.step conserved now stepped,step_conserved conserved stepped,
      preserved s action t seen clocked held now ticked⟩,
      fun other listed => sober other (mem_cons_of_mem _ listed)⟩

theorem run_clocked (sober : ∀ action ∈ actions, Sober action) (ran : system.run initial actions = some (s,history)) :
    Clocked s ∧ Conserved s history := by
  have reached := run_sober (motive := fun _ => True) (fun _ _ _ _ _ _ _ _ => trivial) initial_clocked
    initial_conserved trivial sober ran
  exact ⟨reached.1,reached.2.1⟩

theorem run_paced (clocked : Clocked s) (conserved : Conserved s past) (paced : Paced start period key s)
    (sober : ∀ action ∈ actions, Sober action) (ran : system.run s actions = some (t,history)) :
    Paced start period key t :=
  (run_sober (fun _ _ _ _ clocked paced sober ticked => paced.step clocked sober ticked) clocked conserved paced
    sober ran).2.2

theorem paced_pass (paced : Paced start period key s) (clocked : Clocked s)
    (sober : Sober (.schedulerPass order checked now))
    (passed : step s (.schedulerPass order checked now) = some (t,seen)) :
    ∃ released, t.handed key = s.handed key ++ released ∧ ∀ time ∈ released, start + period ≤ time ∧ time ≤ now := by
  obtain ⟨live,task,found,periodic,rfl,spaced⟩ := paced
  obtain ⟨-,changed,-,⟨-,handed⟩ | ⟨_,_,_,same,-,handed⟩⟩ :=
    (step_ticked clocked.scheduled passed).clock clocked.scheduled live found periodic
  · exact ⟨[],by rw [handed,append_nil],by simp⟩
  · cases same
    refine ⟨(task.release now).2,handed,fun time listed => ?_⟩
    have reading := sober.1 now (by simp [Action.readings])
    obtain ⟨first,last,-⟩ := (clocked.paced found periodic reading).1 time listed
    have begun := spaced.first
    exact ⟨by omega,last⟩

/-- Among the configurations that are accepted, exactly the moderate ones have exact times. In every
run with moderate tasks a job misses its deadline, when it is dispatched and when it has finished, if
the time since its release is longer, and a periodic task is not released before a period is over. -/
theorem time_arithmetic_iff (config : TaskConfig) (callback : Bool) :
    (validTask config callback = true → config.period < 2^63 → config.deadline < 2^63 →
      (ExactTimes config ↔ Moderate config)) ∧
    (∀ actions s history, system.run initial actions = some (s,history) → (∀ action ∈ actions, Sober action) →
      ∀ worker ∈ s.workers, ∀ job task now,
        worker.phase = .executing job ∨ (∃ flag, worker.phase = .popped job flag) →
        s.tasks.lookup job.task = some task → Reading now →
        after job.releaseTime task.config.deadline = job.releaseTime + task.config.deadline ∧
        (task.missed job.releaseTime now = true ↔
          0 < task.config.deadline ∧ task.config.deadline < now - job.releaseTime)) ∧
    (∀ earlier s₀ past arming s₁ seen key start later s history task,
      system.run initial earlier = some (s₀,past) → system.step s₀ arming = some (s₁,seen) →
      Arms s₀ arming seen key start → system.run s₁ later = some (s,history) →
      (∀ action ∈ earlier ++ arming :: later, Sober action) →
      s.tasks.lookup key = some task → task.config.kind = .periodic →
      (∀ time ∈ s.handed key, start + task.config.period ≤ time) ∧
      (s.handed key).Pairwise (fun one two => one + task.config.period ≤ two) ∧
      ∀ order checked now t emitted, Sober (.schedulerPass order checked now) →
        system.step s (.schedulerPass order checked now) = some (t,emitted) →
        ∃ released, t.handed key = s.handed key ++ released ∧
          ∀ time ∈ released, start + task.config.period ≤ time ∧ time ≤ now) := by
  refine ⟨fun valid period deadline => exactTimes_iff valid period deadline,?_,?_⟩
  · intro actions s history ran sober worker member job task now phase found reading
    obtain ⟨clocked,-⟩ := run_clocked sober ran
    obtain ⟨moderate,signed⟩ := clocked.moderate found
    have released : Reading job.releaseTime := by
      rcases phase with executing | ⟨flag,popped⟩
      · exact clocked.running member executing
      · exact clocked.held member popped
    have short := moderate.1
    have fits : Fits (job.releaseTime + task.config.deadline) := by
      obtain ⟨lower,upper⟩ := released
      exact ⟨by omega,by omega⟩
    exact ⟨after_exact fits,missed_exact fits now⟩
  · intro earlier s₀ past arming s₁ seen key start later s history task ran armed arms continued sober present periodic
    have before (action : Action) (listed : action ∈ earlier) := sober action (mem_append_left _ listed)
    have arming_ := sober arming (by simp)
    have behind (action : Action) (listed : action ∈ later) := sober action (by simp [listed])
    obtain ⟨clocked,conserved⟩ := run_clocked before ran
    have next := clocked.step conserved arming_ armed
    have kept := step_conserved conserved armed
    obtain ⟨begun,found⟩ := arms.present armed
    obtain ⟨changed,there,config⟩ := run_config next.scheduled found continued
    cases there.symm.trans present
    rw [config] at periodic ⊢
    have paced := arms.paced clocked arming_ armed next found periodic
    have reached := run_paced next kept paced behind continued
    have final := (run_sober (motive := fun _ => True) (fun _ _ _ _ _ _ _ _ => trivial) next kept trivial behind
      continued).1
    obtain ⟨last,here,-,-,spaced⟩ := reached.placed
    exact ⟨spaced.after_,spaced.apart,fun order checked now t emitted allowed passed =>
      paced_pass reached final allowed passed⟩

/-- A task that drops late jobs and has the longest deadline there is. -/
def patientTask : TaskConfig :=
  { name := [112], kind := .event, deadline := 2^63 - 1, callbackGroup := 1, deadlinePolicy := .drop }

/-- A job of it, dispatched one nanosecond after its release. -/
def patientRun : List Action :=
  [.createCallbackGroup ⟨[97],1,4⟩ .success,.addTask patientTask true 0,.start .success 0,.notify 1 5,
   .enqueueSequence 0,.enqueueReserve 0 5,.enqueuePush 0,.workerPop 0,.workerDispatch 0 6]

/-- A timer with the longest period there is, and a pass in the nanosecond in which it starts. -/
def rareRun : List Action :=
  [.createCallbackGroup ⟨[97],1,4⟩ .success,.addTask (timerConfig [110] [116] 1 (2^63 - 1) 1 0) true 0,
   .start .success 1,.schedulerPass .stored 1 1]

/-- The job is dropped for missing a deadline that is 292 years away, and the timer is released
without any time having passed. -/
theorem longest_deadline_missed : validTask patientTask true = true ∧
    (∀ action ∈ patientRun ++ rareRun, ∀ time ∈ action.readings, Reading time) ∧
    (∃ s history event, system.run initial patientRun = some (s,history) ∧ Event.missed event ∈ history ∧
      event.action = .dropped ∧ event.sample.responseTime = 1) ∧
    ∃ s history, system.run initial rareRun = some (s,history) ∧ s.handed 1 ≠ [] ∧ ∀ time ∈ s.handed 1, time < 0 := by
  refine ⟨by decide,by decide,⟨_,_,_,rfl,mem_of_getElem? (i := 6) rfl,rfl,rfl⟩,_,_,rfl,?_,?_⟩
  · decide
  · decide

theorem time_arithmetic_iff_sample : Moderate sampleTask ∧ ExactTimes sampleTask ∧ ¬ExactTimes patientTask := by
  have moderate : Moderate sampleTask := by simp [Moderate,sampleTask]
  refine ⟨moderate,?_,?_⟩
  · exact ((time_arithmetic_iff sampleTask true).1 (by decide) (by decide) (by decide)).mpr moderate
  · rw [(time_arithmetic_iff patientTask true).1 (by decide) (by decide) (by decide)]
    simp [Moderate,patientTask]

end AutoRuntime.Executor
