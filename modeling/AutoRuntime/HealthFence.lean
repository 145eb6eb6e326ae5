import AutoRuntime.HealthOrphan
import AutoRuntime.HealthChange

/-! Generation fencing. Updates of another generation and probe results about another process
might as well never have arrived: the run without them ends in the same state. -/
namespace AutoRuntime.Health

open List Option Machine

/-- The update carries another generation than the component has. -/
def Monitor.outdated (monitor : Monitor) (update : Update) : Bool :=
  match monitor.components.lookup update.name with
  | some component => update.generation != component.generation
  | none => false

def System.outdated (s : System) : Action → Bool
  | .update update => s.monitor.outdated update
  | _ => false

/-- The schedule without the updates that come with another generation. -/
def upToDate : System → List Action → List Action
  | _, [] => []
  | s, action :: rest =>
    match step s action with
    | none => action :: rest
    | some (t,_) => if s.outdated action then upToDate t rest else action :: upToDate t rest

/-- The answer to an update that came with another generation. -/
def Event.outdated : Event → Bool
  | .updated _ (.error status) => status.code == .staleGeneration
  | _ => false

/-- The probe results that are about the process and generation recorded now. -/
def Monitor.matching (monitor : Monitor) (probes : Name → Option ProbeResult) (name : Name) :
    Option ProbeResult :=
  (probes name).filter fun probe =>
    match monitor.components.lookup name with
    | some component =>
      probe.processId == component.processId && probe.generation == component.generation
    | none => false

/-- The health system with an `Evaluate` that ignores every other probe result. -/
def matchingStep (s : System) : Action → Option (System × List Event)
  | .evaluate index answer order observedAt =>
    match s.evaluations[index]? with
    | none => none
    | some requests =>
      let probes := s.monitor.matching (probeResults requests answer)
      let (monitor,emitted) := s.monitor.evaluate order probes observedAt
      some ({ s with monitor := monitor, evaluations := s.evaluations.eraseIdx index },
        [.evaluated observedAt emitted])
  | action => step s action

def matchingSystem : Machine System Action Event := ⟨matchingStep⟩

theorem evaluateComponent_matching {monitor : Monitor}
    (found : monitor.components.lookup name = some component)
    (probes : Name → Option ProbeResult) (observedAt : Int) :
    evaluateComponent (monitor.matching probes name) observedAt component =
      evaluateComponent (probes name) observedAt component := by
  have same : exited component (monitor.matching probes name) = exited component (probes name) := by
    simp only [Monitor.matching,found]
    cases probes name with
    | none => rfl
    | some probe =>
      by_cases matches_ : (probe.processId == component.processId &&
          probe.generation == component.generation) = true
      · simp [Option.filter,matches_]
      · simp [Option.filter,matches_,exited]
  simp only [evaluateComponent,same]

theorem evaluate_matching (monitor : Monitor) (order : Table.Order Name ComponentHealth)
    (probes : Name → Option ProbeResult) (observedAt : Int) :
    monitor.evaluate order (monitor.matching probes) observedAt =
      monitor.evaluate order probes observedAt := by
  have stored (entry) (member : entry ∈ monitor.components.entries) :
      evaluateComponent (monitor.matching probes entry.1) observedAt entry.2 =
        evaluateComponent (probes entry.1) observedAt entry.2 :=
    evaluateComponent_matching (Table.lookup_eq_some_iff.mpr member) probes observedAt
  have emitted := filterMap_congr (l := order.arrange monitor.components.entries)
    fun entry member => congrArg Prod.snd
      (stored entry ((order.perm monitor.components.entries).mem_iff.mp member))
  have changed : (monitor.components.mapValues fun name component =>
      (evaluateComponent (monitor.matching probes name) observedAt component).1) =
      monitor.components.mapValues fun name component =>
        (evaluateComponent (probes name) observedAt component).1 :=
    AList.ext (map_congr_left fun entry member => by simp only [stored entry member])
  simp only [Monitor.evaluate,changed]
  rw [emitted]

theorem matchingStep_eq (s : System) (action : Action) : matchingStep s action = step s action := by
  cases action with
  | evaluate index =>
    cases found : s.evaluations[index]? with
    | none => simp only [matchingStep,step,found]
    | some => simp only [matchingStep,step,found,evaluate_matching]
  | _ => rfl

theorem matching_run (s : System) (actions : List Action) :
    matchingSystem.run s actions = system.run s actions := by
  have same : matchingSystem = system := congrArg mk (funext₂ matchingStep_eq)
  rw [same]

theorem outdated_step (outdated : s.outdated action = true) (stepped : step s action = some (t,seen)) :
    t = s ∧ seen.filter (fun event => !event.outdated) = [] := by
  cases action <;> simp only [System.outdated,Bool.false_eq_true] at outdated
  case update update =>
    simp only [Monitor.outdated] at outdated
    split at outdated
    next component found =>
      have stale : update.generation ≠ component.generation := by simpa using outdated
      simp only [step,Monitor.update,Monitor.find,found,checkGeneration,if_pos stale] at stepped
      obtain ⟨rfl,rfl⟩ := stepped
      exact ⟨rfl,rfl⟩
    · contradiction

theorem update_answer {monitor : Monitor} (fresh : monitor.outdated update = false)
    (refused : monitor.update update = .error status) : status.code ≠ .staleGeneration := by
  simp only [Monitor.update,Monitor.find] at refused
  cases found : monitor.components.lookup update.name with
  | none =>
    simp only [found,Except.error.injEq] at refused
    subst status
    simp
  | some component =>
    have current : update.generation = component.generation := by
      simpa [Monitor.outdated,found] using fresh
    simp only [found,checkGeneration,current,ne_eq] at refused
    cases update <;> simp only [Update.apply] at refused
    case heartbeat | progress =>
      repeat' split at refused
      all_goals first
        | contradiction
        | (simp only [Except.map,Except.error.injEq] at refused
           subst status
           simp)
    all_goals contradiction

theorem step_answers (fresh : s.outdated action = false) (stepped : step s action = some (t,seen)) :
    ∀ event ∈ seen, event.outdated = false := by
  cases action
  case update update =>
    simp only [step] at stepped
    split at stepped <;> cases stepped
    · simp [Event.outdated]
    next status refused => simpa [Event.outdated] using update_answer fresh refused
  case register | recover =>
    simp only [step] at stepped
    split at stepped <;> cases stepped <;> simp [Event.outdated]
  case probe =>
    simp only [step,some.injEq,Prod.mk.injEq] at stepped
    simp [← stepped.2]
  case evaluate index answer order observedAt =>
    simp only [step] at stepped
    split at stepped
    · contradiction
    · simp only [some.injEq,Prod.mk.injEq] at stepped
      simp [← stepped.2,Event.outdated]
  all_goals
    cases caller_took rfl stepped with
    | observed outside => cases outside
    | proceeded _ _ proceeds =>
      intro event member
      have own := (proceed_caller proceeds event member).1
      cases event <;> first | rfl | contradiction
    | _ => simp [Event.outdated]

theorem upToDate_run (ran : system.run s actions = some (t,history)) :
    system.run s (upToDate s actions) = some (t,history.filter fun event => !event.outdated) := by
  induction actions generalizing s history with
  | nil =>
    obtain ⟨rfl,rfl⟩ := run_nil_iff.mp ran
    rfl
  | cons action rest ih =>
    obtain ⟨u,seen,later,stepped,continued,rfl⟩ := run_cons_iff.mp ran
    have tail := ih continued
    have stepped : step s action = some (u,seen) := stepped
    simp only [upToDate,stepped,filter_append]
    split
    next outdated =>
      obtain ⟨rfl,silent⟩ := outdated_step outdated stepped
      rwa [silent,nil_append]
    next fresh =>
      have answers := step_answers (by simpa using fresh) stepped
      have kept : seen.filter (fun event => !event.outdated) = seen :=
        filter_eq_self.mpr fun event member => by simp [answers event member]
      rw [kept]
      exact run_cons_iff.mpr ⟨u,seen,_,stepped,tail,rfl⟩

theorem Took.generation_le (took : Took s action t seen)
    (found : s.monitor.components.lookup name = some before) :
    ∃ after, t.monitor.components.lookup name = some after ∧ before.generation ≤ after.generation := by
  have kept {monitor : Monitor} (keeps : Keeps s.monitor monitor) :
      ∃ after, monitor.components.lookup name = some after ∧ before.generation ≤ after.generation := by
    obtain ⟨after,present,kept⟩ := keeps.kept found
    exact ⟨after,present,UInt64.le_of_eq kept.generation.symm⟩
  cases took with
  | observed _ keeps => exact kept keeps
  | @entered entering _ _ _ _ changed _ _ _ enters =>
    by_cases same : name = entering
    · subst name
      cases found.symm.trans enters.found
      exact ⟨changed,enters.stored,UInt64.le_of_eq enters.generation.symm⟩
    · exact ⟨before,(enters.others name same).trans found,UInt64.le_refl _⟩
  | proceeded | stale => exact ⟨before,found,UInt64.le_refl _⟩
  | failed => exact kept (fail_keeps s.monitor _ _ _)
  | @committed _ call _ old changed _ _ _ _ commits =>
    by_cases same : name = call.name
    · subst name
      cases found.symm.trans commits.found
      refine ⟨changed,commits.stored,UInt64.le_iff_toNat_le.mpr ?_⟩
      rw [commits.generation,call.newGeneration_toNat,commits.current]
      exact Nat.le_succ _
    · exact ⟨before,(commits.others name same).trans found,UInt64.le_refl _⟩

theorem run_generation_le (ran : system.run s actions = some (t,history))
    (found : s.monitor.components.lookup name = some before) :
    ∃ after, t.monitor.components.lookup name = some after ∧ before.generation ≤ after.generation := by
  refine run_invariant (m := system) (motive := fun u _ => ∃ after,
    u.monitor.components.lookup name = some after ∧ before.generation ≤ after.generation)
    (fun u _ action v seen held stepped => ?_) ⟨before,found,UInt64.le_refl _⟩ ran
  obtain ⟨between,present,lower⟩ := held
  obtain ⟨after,stored,upper⟩ := (step_took stepped).generation_le present
  exact ⟨after,stored,UInt64.le_trans lower upper⟩

/-- From any state, the run without the updates of other generations, with probe results about
other processes ignored, ends with the same monitor and gives every remaining caller the same
answer; and no run lowers a generation. -/
theorem generation_fences (ran : system.run s actions = some (t,history)) :
    matchingSystem.run s (upToDate s actions) =
      some (t,history.filter fun event => !event.outdated) ∧
    ∀ name before, s.monitor.components.lookup name = some before →
      ∃ after, t.monitor.components.lookup name = some after ∧ before.generation ≤ after.generation := by
  refine ⟨?_,fun name before found => run_generation_le ran found⟩
  rw [matching_run]
  exact upToDate_run ran

/-- Two evaluations ask about process 11; the first one's answer starts a recovery. After the
commit a heartbeat of generation 1 arrives, and then the second answer about process 11. -/
def sampleLate : List Action :=
  [.register ⟨[1],11,1,{}⟩ 0,.probe,.probe,.evaluate 0 (fun _ => .dead) .stored 1,sampleRecover 2] ++
    sampleStages ++ [.reconnect 0 (.returned .success),.commit 0 12,.update (.heartbeat [1] 1 7 13),
      .evaluate 0 (fun _ => .dead) .stored 14]

theorem generation_fences_sample : ∃ t history component,
    system.run initial sampleLate = some (t,history) ∧
    t.monitor.components.lookup [1] = some component ∧
    component.state = .starting ∧ component.generation = 2 ∧
    (upToDate initial sampleLate).length + 1 = sampleLate.length ∧
    matchingSystem.run initial (upToDate initial sampleLate) =
      some (t,history.filter fun event => !event.outdated) := by
  have ran : system.run initial sampleLate = some _ := rfl
  exact ⟨_,_,_,ran,rfl,rfl,rfl,rfl,(generation_fences ran).1⟩

end AutoRuntime.Health
