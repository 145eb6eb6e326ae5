import AutoRuntime.ExecutorRelease
import AutoRuntime.ExecutorTicks

/-! Periodic releases of the running executor stay on the grid of their task, whatever the lateness
of the passes and whatever else happens in between. -/
namespace AutoRuntime.Executor

open List Option Table AList
open Chrono

/-- Where a task stands on its grid after its first `index` points, the last of them not after now:
each of the points was handed on once or counted as skipped once. -/
structure Position (start now : Int) (task : TaskState) (handed : List Int) (index : Nat) : Prop where
  next : task.nextRelease = gridPoint start task.config.period (index + 1)
  past : gridPoint start task.config.period index ≤ now
  increasing : handed.Pairwise (· < ·)
  points : time ∈ handed → ∃ j, 1 ≤ j ∧ j ≤ index ∧ time = gridPoint start task.config.period j
  count : handed.length + task.stats.periodicReleasesSkipped = index

theorem Position.first {task : TaskState} (next : task.nextRelease = start + task.config.period)
    (skipped : task.stats.periodicReleasesSkipped = 0) :
    Position start start task [] 0 where
  next := by simpa [gridPoint] using next
  past := by simp [gridPoint]
  increasing := .nil
  points := nofun
  count := by simpa using skipped

theorem Position.still (position : Position start now task handed index) (same : SameSchedule task changed) :
    Position start now changed handed index where
  next := by rw [same.nextRelease,same.config]; exact position.next
  past := by rw [same.config]; exact position.past
  increasing := position.increasing
  points listed := by rw [same.config]; exact position.points listed
  count := by rw [same.skipped]; exact position.count

theorem Position.later (position : Position start last task handed index) (later : last ≤ now) :
    Position start now task handed index :=
  { position with past := Int.le_trans position.past later }

theorem Position.release {task : TaskState} (position : Position start last task handed index)
    (positive : 0 < task.config.period) (periodic : task.config.kind = .periodic)
    (alive : task.cancelled = false) (later : last ≤ now)
    (exact_ : Representable start task.config.period now) :
    ∃ reached, Position start now (task.release now).1 (handed ++ (task.release now).2) reached ∧
      now < (task.release now).1.nextRelease ∧ (task.release now).2.length ≤ 1024 := by
  obtain ⟨count,skipped,small,due,changed,past,ahead⟩ := release_grid positive exact_ alive periodic rfl
    position.next (Int.le_trans position.past later)
  rw [changed,due]
  refine ⟨index + count + skipped,⟨rfl,past,?_,?_,?_⟩,ahead,by simpa using small⟩
  · rw [pairwise_append]
    refine ⟨position.increasing,?_,?_⟩
    · exact pairwise_map.mpr
        (List.Pairwise.imp (fun less => gridPoint_lt positive less) pairwise_lt_range')
    · intro old earlier new listed
      obtain ⟨i,-,upper,rfl⟩ := position.points earlier
      obtain ⟨j,inside,rfl⟩ := mem_map.mp listed
      obtain ⟨lower,-⟩ := mem_range'_1.mp inside
      exact gridPoint_lt positive (by omega)
  · intro time listed
    rcases mem_append.mp listed with old | new
    · obtain ⟨j,lower,upper,rfl⟩ := position.points old
      exact ⟨j,lower,by omega,rfl⟩
    · obtain ⟨j,inside,rfl⟩ := mem_map.mp new
      obtain ⟨lower,upper⟩ := mem_range'_1.mp inside
      exact ⟨j,by omega,by omega,rfl⟩
  · have before := position.count
    simp only [length_append,length_map,length_range']
    omega

/-- The task is on its grid in this state, unless it was cancelled. -/
structure OnGrid (start period last : Int) (key : TaskId) (s : System) : Prop where
  live : s.running = true ∨ s.stopping = true
  placed : ∃ task, s.tasks.lookup key = some task ∧ task.config.kind = .periodic ∧ task.config.period = period ∧
    (task.cancelled = false → ∃ index, Position start last task (s.handed key) index)

theorem release_cancelled (task : TaskState) (now : Int) : (task.release now).1.cancelled = task.cancelled := by
  simp only [TaskState.release]
  split
  · rfl
  · split <;> rfl

def Action.passTime : Action → Option Int
  | .schedulerPass _ _ now => some now
  | _ => none

/-- The clock readings of the passes. -/
def passTimes (actions : List Action) : List Int := actions.filterMap Action.passTime

section

variable {s : System}

/-- What a step does to a periodic task whose clock is running. -/
theorem Ticked.clock (ticked : Ticked s t action seen) (scheduled : Scheduled s)
    (live : s.running = true ∨ s.stopping = true) (found : s.tasks.lookup key = some task)
    (periodic : task.config.kind = .periodic) : (t.running = true ∨ t.stopping = true) ∧
    ∃ changed, t.tasks.lookup key = some changed ∧ (SameSchedule task changed ∧ t.handed key = s.handed key ∨
      ∃ order checked now, action = .schedulerPass order checked now ∧ changed = (task.release now).1 ∧
        t.handed key = s.handed key ++ (task.release now).2) := by
  cases ticked with
  | still undisturbed =>
    obtain ⟨changed,present,same⟩ := undisturbed.tasks.kept found
    refine ⟨?_,changed,present,.inl ⟨same,?_⟩⟩
    · by_contra neither
      rw [not_or,Bool.not_eq_true,Bool.not_eq_true] at neither
      obtain ⟨off,open_,-⟩ := undisturbed.idle neither.1 neither.2
      simp [off,open_] at live
    · exact undisturbed.handed fun other there => some.inj (found.symm.trans there) ▸ periodic
  | added =>
    have apart : key ≠ s.nextTaskId := Nat.ne_of_lt (scheduled.ids found)
    exact ⟨live,task,by rw [lookup_insert_ne apart]; exact found,.inl ⟨.refl task,rfl⟩⟩
  | armed idle open_ => simp [idle,open_] at live
  | @released now order checked waiting =>
    refine ⟨live,(task.release now).1,by rw [lookup_mapValues,found]; rfl,
      .inr ⟨order,checked,now,rfl,rfl,?_⟩⟩
    rw [released_handed order now _ waiting,found]
    rfl

theorem Ticked.onGrid (ticked : Ticked s t action seen) (scheduled : Scheduled s)
    (grid : OnGrid start period last key s)
    (timely : ∀ now, action.passTime = some now → last ≤ now ∧ Representable start period now) :
    OnGrid start period (action.passTime.getD last) key t := by
  obtain ⟨live,task,found,periodic,rfl,placed⟩ := grid
  have later : last ≤ action.passTime.getD last := by
    cases pass : action.passTime with
    | none => exact Int.le_refl last
    | some now => exact (timely now pass).1
  obtain ⟨live,changed,present,⟨same,handed⟩ | ⟨order,checked,now,rfl,rfl,handed⟩⟩ :=
    ticked.clock scheduled live found periodic
  · refine ⟨live,changed,present,same.config ▸ periodic,by rw [same.config],fun alive => ?_⟩
    obtain ⟨index,position⟩ := placed (same.cancelled alive)
    rw [handed]
    exact ⟨index,(position.still same).later later⟩
  · obtain ⟨ordered,exact_⟩ := timely now rfl
    refine ⟨live,(task.release now).1,present,?_,?_,fun alive => ?_⟩
    · rw [release_config]
      exact periodic
    · rw [release_config]
    · rw [release_cancelled] at alive
      obtain ⟨index,position⟩ := placed alive
      obtain ⟨reached,released,-⟩ := position.release (scheduled.positive found periodic) periodic alive
        ordered exact_
      rw [handed]
      exact ⟨reached,released⟩

/-- The step starts the clock of a task: `Start` finds it in the table, or `AddTask` puts it there
while the executor is running. -/
def Arms (s : System) (action : Action) (seen : List Event) (key : TaskId) (start : Int) : Prop :=
  (∃ scheduling, action = .start scheduling start ∧ seen = [.started] ∧ (s.tasks.lookup key).isSome) ∨
  ∃ config callback, action = .addTask config callback start ∧ seen = [.added key] ∧ s.running = true

theorem Arms.begun (arms : Arms s action seen key start) (scheduled : Scheduled s)
    (stepped : step s action = some (t,seen)) (present : t.tasks.lookup key = some task)
    (periodic : task.config.kind = .periodic) :
    t.running = true ∧ t.handed key = [] ∧ task.nextRelease = after start task.config.period ∧
      task.stats.periodicReleasesSkipped = 0 := by
  rcases arms with ⟨scheduling,rfl,rfl,-⟩ | ⟨config,callback,rfl,rfl,on⟩
  · cases step_stepped stepped with
    | started idle unstopped =>
      have none := scheduled.absent idle unstopped
      obtain ⟨before,found,rfl⟩ := mapped_origin present
      rw [arm_config] at periodic
      obtain ⟨empty,skipped⟩ := scheduled.quiet none found periodic
      rw [System.handed,none] at empty
      rw [TaskState.arm,if_pos periodic]
      exact ⟨rfl,empty,rfl,skipped⟩
  · cases step_stepped stepped with
    | added valid unstopped housed told =>
      obtain ⟨-,rfl,same⟩ := told.resolve_left (by simp)
      cases head_eq_of_cons_eq same
      have fresh : s.tasks.lookup s.nextTaskId = none := by
        cases found : s.tasks.lookup s.nextTaskId with
        | none => rfl
        | some => exact absurd (scheduled.ids found) (Nat.lt_irrefl _)
      rw [lookup_insert] at present
      cases present
      have armed : (s.running && config.kind == .periodic) = true := by simpa [on] using periodic
      exact ⟨on,scheduled.unknown fresh,if_pos armed,rfl⟩

theorem Arms.onGrid (arms : Arms s action seen key start) (scheduled : Scheduled s)
    (stepped : step s action = some (t,seen)) (present : t.tasks.lookup key = some task)
    (periodic : task.config.kind = .periodic) (fits : Fits (start + task.config.period)) :
    OnGrid start task.config.period start key t := by
  obtain ⟨running,handed,next,skipped⟩ := arms.begun scheduled stepped present periodic
  refine ⟨.inl running,task,present,periodic,rfl,fun _ => ⟨0,?_⟩⟩
  rw [handed]
  exact .first (next.trans (after_exact fits)) skipped

/-- The rule for runs whose passes read times that never go back and that can be represented. -/
theorem run_passes {motive : Int → System → Prop}
    (preserved : ∀ s last action t seen, Scheduled s → motive last s → Ticked s t action seen →
      (∀ now, action.passTime = some now → last ≤ now ∧ Representable start period now) →
      motive (action.passTime.getD last) t)
    (scheduled : Scheduled s) (begun : motive first s) (ran : system.run s actions = some (t,history))
    (ordered : (first :: (passTimes actions ++ later)).Pairwise (· ≤ ·))
    (exact_ : ∀ now ∈ passTimes actions, Representable start period now) :
    Scheduled t ∧ ∃ last, (last :: later).Pairwise (· ≤ ·) ∧ motive last t := by
  have reached := Machine.run_rule (motive := fun s _ rest => Scheduled s ∧
    (∀ now ∈ passTimes rest, Representable start period now) ∧
    ∃ last, (last :: (passTimes rest ++ later)).Pairwise (· ≤ ·) ∧ motive last s) ?_
    ⟨scheduled,exact_,first,ordered,begun⟩ ran
  · exact ⟨reached.1,reached.2.2⟩
  · rintro s history action rest t emitted ⟨scheduled,exact_,last,ordered,held⟩ stepped
    have ticked := step_ticked scheduled stepped
    have times : passTimes (action :: rest) = action.passTime.toList ++ passTimes rest := by
      rw [passTimes,filterMap_cons]
      cases action.passTime <;> rfl
    rw [times] at exact_ ordered
    refine ⟨ticked.scheduled scheduled,fun now listed => exact_ now (mem_append_right _ listed),
      action.passTime.getD last,?_,preserved s last action t emitted scheduled held ticked ?_⟩
    · cases pass : action.passTime with
      | none => simpa [pass] using ordered
      | some =>
        rw [pass] at ordered
        exact ordered.tail
    · intro now pass
      rw [pass] at ordered exact_
      exact ⟨rel_of_pairwise_cons ordered (by simp),exact_ now (by simp)⟩

theorem run_onGrid (scheduled : Scheduled s) (grid : OnGrid start period first key s)
    (ran : system.run s actions = some (t,history))
    (ordered : (first :: (passTimes actions ++ later)).Pairwise (· ≤ ·))
    (exact_ : ∀ now ∈ passTimes actions, Representable start period now) :
    Scheduled t ∧ ∃ last, (last :: later).Pairwise (· ≤ ·) ∧ OnGrid start period last key t :=
  run_passes (motive := fun last s => OnGrid start period last key s)
    (fun _ _ _ _ _ scheduled grid ticked timely => ticked.onGrid scheduled grid timely)
    scheduled grid ran ordered exact_

theorem Ticked.config (ticked : Ticked s t action seen) (scheduled : Scheduled s)
    (found : s.tasks.lookup key = some task) :
    ∃ changed, t.tasks.lookup key = some changed ∧ changed.config = task.config := by
  cases ticked with
  | still undisturbed =>
    obtain ⟨changed,present,same⟩ := undisturbed.tasks.kept found
    exact ⟨changed,present,same.config⟩
  | added =>
    have apart : key ≠ s.nextTaskId := Nat.ne_of_lt (scheduled.ids found)
    exact ⟨task,by rw [lookup_insert_ne apart]; exact found,rfl⟩
  | armed => exact ⟨_,by rw [lookup_mapValues,found]; rfl,arm_config task _⟩
  | released => exact ⟨_,by rw [lookup_mapValues,found]; rfl,release_config task _⟩

theorem run_config (scheduled : Scheduled s) (found : s.tasks.lookup key = some task)
    (ran : system.run s actions = some (t,history)) :
    ∃ changed, t.tasks.lookup key = some changed ∧ changed.config = task.config := by
  have kept := Machine.run_invariant (motive := fun s _ => Scheduled s ∧
    ∃ changed, s.tasks.lookup key = some changed ∧ changed.config = task.config) ?_
    ⟨scheduled,task,found,rfl⟩ ran
  · exact kept.2
  · rintro s history action t emitted ⟨scheduled,before,found,same⟩ stepped
    have ticked := step_ticked scheduled stepped
    obtain ⟨changed,present,kept⟩ := ticked.config scheduled found
    exact ⟨ticked.scheduled scheduled,changed,present,kept.trans same⟩

theorem Arms.present (arms : Arms s action seen key start) (stepped : step s action = some (t,seen)) :
    ∃ task, t.tasks.lookup key = some task := by
  rcases arms with ⟨scheduling,rfl,rfl,there⟩ | ⟨config,callback,rfl,rfl,on⟩
  · cases step_stepped stepped with
    | started =>
      obtain ⟨task,found⟩ := isSome_iff_exists.mp there
      exact ⟨task.arm start,by rw [lookup_mapValues,found]; rfl⟩
  · cases step_stepped stepped with
    | added valid unstopped housed told =>
      obtain ⟨-,rfl,same⟩ := told.resolve_left (by simp)
      cases head_eq_of_cons_eq same
      exact ⟨_,lookup_insert _⟩

theorem pass_released (stepped : step s (.schedulerPass order checked now) = some (t,seen))
    (reached : t.scheduler ≠ .waiting) : s.scheduler = .waiting ∧
      t = { s with
        tasks := s.tasks.mapValues fun _ task => (task.release now).1
        scheduler := .releasing ((order.arrange s.tasks.entries).flatMap fun entry =>
          (entry.2.release now).2.map fun releaseTime => (entry.1,releaseTime)) none } := by
  cases step_stepped stepped with
  | released waiting => exact ⟨waiting,rfl⟩
  | waited waiting => exact absurd waiting reached
  | refused => contradiction

end

/-- Every periodic task, from the step that starts its clock and through every interleaving of the
executor's threads: a pass that gets as far as the release step leaves the next release at the first
grid point after now, the release times handed on are grid points in increasing order, at most 1024
of them from one pass, and every grid point up to now was handed on or counted as skipped. -/
theorem releases_on_grid (ran : system.run initial earlier = some (s₀,past))
    (armed : system.step s₀ arming = some (s₁,seen)) (arms : Arms s₀ arming seen key start)
    (continued : system.run s₁ actions = some (s,history))
    (passed : system.step s (.schedulerPass order checked now) = some (t,emitted))
    (reached : t.scheduler ≠ .waiting)
    (present : s.tasks.lookup key = some task) (periodic : task.config.kind = .periodic)
    (alive : task.cancelled = false)
    (ordered : (start :: (passTimes actions ++ [now])).Pairwise (· ≤ ·))
    (first : Fits (start + task.config.period))
    (exact_ : ∀ time ∈ passTimes actions ++ [now], Fits (time + task.config.period) ∧ Fits (time - start)) :
    ∃ (after : TaskState) (released : List Int) (k : Nat), t.tasks.lookup key = some after ∧
      after.nextRelease = start + (k + 1 : Nat) * task.config.period ∧
      start + k * task.config.period ≤ now ∧ now < after.nextRelease ∧
      t.handed key = s.handed key ++ released ∧ released.length ≤ 1024 ∧
      (t.handed key).Pairwise (· < ·) ∧
      (∀ time ∈ t.handed key, ∃ j : Nat, 1 ≤ j ∧ j ≤ k ∧ time = start + j * task.config.period) ∧
      (t.handed key).length + after.stats.periodicReleasesSkipped = k := by
  have known := run_scheduled ran
  have scheduled := (step_ticked known armed).scheduled known
  obtain ⟨begun,found⟩ := arms.present armed
  obtain ⟨changed,there,config⟩ := run_config scheduled found continued
  obtain rfl := some.inj (there.symm.trans present)
  rw [config] at periodic first exact_
  have representable (time : Int) (listed : time ∈ passTimes actions ++ [now]) :
      Representable start begun.config.period time := ⟨first,(exact_ time listed).1,(exact_ time listed).2⟩
  obtain ⟨scheduled,last,timely,grid⟩ := run_onGrid scheduled (arms.onGrid known armed found periodic first)
    continued ordered (fun time listed => representable time (mem_append_left _ listed))
  obtain ⟨waiting,rfl⟩ := pass_released passed reached
  obtain ⟨task,there,kind,period,placed⟩ := grid.placed
  cases present.symm.trans there
  obtain ⟨index,position⟩ := placed alive
  rw [← period] at representable
  obtain ⟨k,position,ahead,small⟩ := position.release (scheduled.positive present kind) kind alive
    (rel_of_pairwise_cons timely mem_cons_self) (representable now (by simp))
  have handed := released_handed order now (s.tasks.mapValues fun _ task => (task.release now).1) waiting key
  rw [present] at handed
  have next := position.next
  have behind := position.past
  have points := @position.points
  rw [release_config] at next behind points
  refine ⟨(changed.release now).1,(changed.release now).2,k,by rw [lookup_mapValues,present]; rfl,next,
    behind,ahead,handed,small,?_,?_,?_⟩
  · rw [handed]
    exact position.increasing
  · rw [handed]
    exact fun time listed => points listed
  · rw [handed]
    exact position.count

/-- A task with a period of 10 ns, started at 100 ns. -/
def sampleTask : TaskConfig := { name := [112], kind := .periodic, period := 10, callbackGroup := 1 }

def sampleSetup : List Action := [.createCallbackGroup { name := [103] } .success,.addTask sampleTask true 0]

theorem releases_on_grid_sample : ∃ (s₀ s₁ t : System) (past : List Event) (after : TaskState) (k : Nat),
    system.run initial sampleSetup = some (s₀,past) ∧ system.step s₀ (.start .success 100) = some (s₁,[.started]) ∧
      system.step s₁ (.schedulerPass .stored 125 125) = some (t,[]) ∧ t.tasks.lookup 1 = some after ∧
      after.nextRelease = 100 + (k + 1 : Nat) * 10 ∧ 100 + (k : Int) * 10 ≤ 125 ∧ 125 < after.nextRelease ∧
      (t.handed 1).length + after.stats.periodicReleasesSkipped = k := by
  obtain ⟨s₀,past,s₁,t,task,ran,armed,there,passed,reached,present,config,alive⟩ : ∃ s₀ past s₁ t task,
      system.run initial sampleSetup = some (s₀,past) ∧
      system.step s₀ (.start .success 100) = some (s₁,[.started]) ∧ (s₀.tasks.lookup 1).isSome = true ∧
      system.step s₁ (.schedulerPass .stored 125 125) = some (t,[]) ∧ t.scheduler ≠ .waiting ∧
      s₁.tasks.lookup 1 = some task ∧ task.config = sampleTask ∧ task.cancelled = false :=
    ⟨_,_,_,_,_,rfl,rfl,rfl,rfl,by decide,rfl,rfl,rfl⟩
  have arms : Arms s₀ (.start .success 100) [.started] 1 100 := .inl ⟨.success,rfl,rfl,there⟩
  have continued : system.run s₁ [] = some (s₁,[]) := rfl
  obtain ⟨after,released,k,found,next,behind,ahead,-,-,-,-,count⟩ := releases_on_grid ran armed arms continued passed
    reached present (by rw [config]; rfl) alive (by decide) (by rw [config]; decide) (by rw [config]; decide)
  rw [config] at next behind
  exact ⟨s₀,s₁,t,past,after,k,ran,armed,passed,found,next,behind,ahead,count⟩

end AutoRuntime.Executor
