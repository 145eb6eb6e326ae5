import AutoRuntime.Health

/-! What one action of the health system can do. A component leaves `Recovering` in many
ways but enters it in one, and its generation moves at a commit only; the later modules
argue from these facts and never open a transition function again. -/
namespace AutoRuntime.Health

@[simp] theorem lookup_store_same (monitor : Monitor) (name : Name)
    (changed : ComponentHealth × Option HealthTransition) :
    (monitor.store name changed).components.lookup name =
      (monitor.components.lookup name).map fun _ => changed.1 := by
  simp [Monitor.store]

@[simp] theorem lookup_store_other (monitor : Monitor)
    (changed : ComponentHealth × Option HealthTransition) (apart : other ≠ name) :
    (monitor.store name changed).components.lookup other = monitor.components.lookup other := by
  simp [Monitor.store,apart]

theorem find_ok_iff : Monitor.find monitor name = .ok component ↔
    monitor.components.lookup name = some component := by
  simp only [Monitor.find]
  split <;> simp_all

section

variable (component : ComponentHealth) (state : HealthState) (reason : HealthReason) (observedAt : Int)
  (detail : String)

include component state reason observedAt detail

@[simp] theorem transition_generation :
    (component.transition state reason observedAt detail).1.generation = component.generation := by
  simp only [ComponentHealth.transition]
  split <;> rfl

@[simp] theorem transition_state : (component.transition state reason observedAt detail).1.state = state := by
  simp only [ComponentHealth.transition]
  split
  next same => simpa using (by simpa using same : (component.state = state ∧ _) ∧ _).1.1
  · rfl

@[simp] theorem transition_restartAttempts :
    (component.transition state reason observedAt detail).1.restartAttempts = component.restartAttempts := by
  simp only [ComponentHealth.transition]
  split <;> rfl

end

@[simp] theorem transition_policy (component : ComponentHealth) (state : HealthState)
    (reason : HealthReason) (observedAt : Int) (detail : String) :
    (component.transition state reason observedAt detail).1.policy = component.policy := by
  simp only [ComponentHealth.transition]
  split <;> rfl

@[simp] theorem transition_heartbeatSequence (component : ComponentHealth) (state : HealthState)
    (reason : HealthReason) (observedAt : Int) (detail : String) :
    (component.transition state reason observedAt detail).1.heartbeatSequence = component.heartbeatSequence := by
  simp only [ComponentHealth.transition]
  split <;> rfl

theorem transition_time (component : ComponentHealth) (reason : HealthReason) (observedAt : Int)
    (detail : String) (elsewhere : component.state ≠ state) :
    (component.transition state reason observedAt detail).1.lastTransition = observedAt := by
  simp [ComponentHealth.transition,elsewhere]

/-- The generation stays, and recovery does not begin. -/
structure Kept (before after : ComponentHealth) : Prop where
  generation : after.generation = before.generation
  recovering : after.state = .recovering →
    before.state = .recovering ∧ after.lastTransition = before.lastTransition

theorem Kept.refl (component : ComponentHealth) : Kept component component :=
  ⟨rfl,fun recovering => ⟨recovering,rfl⟩⟩

theorem transition_kept (component : ComponentHealth) (reason : HealthReason) (observedAt : Int)
    (detail : String) (elsewhere : state ≠ .recovering) :
    Kept component (component.transition state reason observedAt detail).1 :=
  ⟨by simp,fun entered => absurd (by simpa using entered) elsewhere⟩

theorem evaluateComponent_kept (probe : Option ProbeResult) (observedAt : Int)
    (component : ComponentHealth) :
    Kept component (evaluateComponent probe observedAt component).1 := by
  simp only [evaluateComponent]
  repeat' split
  all_goals first
    | exact Kept.refl component
    | exact transition_kept component _ _ _ (by decide)

/-- What an accepted update does: the first heartbeat lets the component run, and whatever else
comes is noted. -/
inductive Applied (component : ComponentHealth) : Update → ComponentHealth × Option HealthTransition → Prop where
  | first (starting : component.state = .starting) (newest : component.heartbeatSequence ≤ number) :
      Applied component (.heartbeat name generation number observedAt)
        ({ component with heartbeatSequence := number, lastSeen := observedAt }.transition .running .none observedAt
          "first heartbeat observed")
  | beat (begun : component.state ≠ .starting) (newest : component.heartbeatSequence ≤ number) :
      Applied component (.heartbeat name generation number observedAt)
        ({ component with heartbeatSequence := number, lastSeen := observedAt },none)
  | noted (other : ∀ name generation sequence observedAt, update ≠ .heartbeat name generation sequence observedAt)
      (sequence : UInt64) (time : Int) (depth misses : Nat) :
      Applied component update ({ component with
        progressSequence := sequence, lastProgress := time, backlog := depth, deadlineMisses := misses },none)

theorem Update.applied (applied : Update.apply component update = .ok changed) : Applied component update changed := by
  cases update with
  | heartbeat =>
    simp only [Update.apply] at applied
    split at applied
    · contradiction
    next newest =>
      cases applied
      split
      next starting => exact .first starting (UInt64.not_lt.mp newest)
      next begun => exact .beat begun (UInt64.not_lt.mp newest)
  | progress =>
    simp only [Update.apply] at applied
    split at applied
    · contradiction
    · split at applied <;> cases applied <;> exact .noted (by simp) _ _ _ _
  | reportBacklog | reportDeadlineMisses =>
    cases applied
    exact .noted (by simp) _ _ _ _

theorem Update.apply_kept (applied : Update.apply component update = .ok changed) :
    Kept component changed.1 := by
  cases Update.applied applied with
  | first => exact ⟨by simp,by simp⟩
  | beat | noted => exact ⟨rfl,fun recovering => ⟨recovering,rfl⟩⟩

/-- Every registered component is still there and was merely kept; a new one is starting. -/
structure Keeps (before after : Monitor) : Prop where
  kept : before.components.lookup name = some component →
    ∃ changed, after.components.lookup name = some changed ∧ Kept component changed
  fresh : before.components.lookup name = none → after.components.lookup name = some changed →
    changed.state = .starting

theorem Keeps.refl (monitor : Monitor) : Keeps monitor monitor :=
  ⟨fun found => ⟨_,found,.refl _⟩,fun absent found => by simp [absent] at found⟩

theorem store_keeps (found : monitor.components.lookup name = some component)
    (kept : Kept component changed.1) : Keeps monitor (monitor.store name changed) := by
  refine ⟨Table.modify_related found kept .refl,fun absent present => ?_⟩
  rw [Monitor.store,Table.lookup_modify_eq_none.mpr absent] at present
  contradiction

theorem register_keeps (registered : Monitor.register monitor registration observedAt = .ok after) :
    Keeps monitor after := by
  simp only [Monitor.register] at registered
  split at registered
  · contradiction
  split at registered
  · contradiction
  next unknown =>
    cases registered
    constructor
    · intro name component found
      exact ⟨component,Table.lookup_insert_old (by simpa using unknown) found,.refl component⟩
    · intro name new absent present
      rcases Table.insert_cases present with ⟨-,rfl⟩ | ⟨-,old⟩
      · rfl
      · simp [absent] at old

theorem update_keeps (updated : Monitor.update monitor update = .ok after) : Keeps monitor after := by
  simp only [Monitor.update] at updated
  split at updated
  · contradiction
  next component found =>
    split at updated
    · contradiction
    · cases applied : update.apply component with
      | error => simp [applied,Except.map] at updated
      | ok =>
        simp only [applied,Except.map,Except.ok.injEq] at updated
        subst after
        exact store_keeps (find_ok_iff.mp found) (Update.apply_kept applied)

theorem lookup_evaluate (monitor : Monitor) (order : Table.Order Name ComponentHealth)
    (probes : Name → Option ProbeResult) (observedAt : Int) (name : Name) :
    (monitor.evaluate order probes observedAt).1.components.lookup name =
      (monitor.components.lookup name).map
        fun component => (evaluateComponent (probes name) observedAt component).1 := by
  simp [Monitor.evaluate]

theorem evaluate_keeps (monitor : Monitor) (order : Table.Order Name ComponentHealth)
    (probes : Name → Option ProbeResult) (observedAt : Int) :
    Keeps monitor (monitor.evaluate order probes observedAt).1 := by
  constructor
  · intro name component found
    exact ⟨_,by simp [lookup_evaluate,found],evaluateComponent_kept (probes name) observedAt component⟩
  · intro name new absent present
    simp [lookup_evaluate,absent] at present

/-- What a successful entry found and did. -/
structure Enters (monitor : Monitor) (name : Name) (enteredAt : Int) (after : Monitor)
    (call : RecoverCall) (before changed : ComponentHealth) : Prop where
  found : monitor.components.lookup name = some before
  failed : before.state = .failed
  budget : before.restartAttempts < before.policy.maxRestartAttempts
  stored : after.components.lookup name = some changed
  others : ∀ other, other ≠ name → after.components.lookup other = monitor.components.lookup other
  recovering : changed.state = .recovering
  time : changed.lastTransition = enteredAt
  generation : changed.generation = before.generation
  callName : call.name = name
  callGeneration : call.oldGeneration = before.generation
  callPhase : call.phase = .cleaning

theorem enter_enters
    (entered : Monitor.enter monitor hooks name deadline enteredAt startedAt = .ok (after,call)) :
    ∃ before changed, Enters monitor name enteredAt after call before changed := by
  simp only [Monitor.enter] at entered
  split at entered
  · contradiction
  split at entered
  · contradiction
  next component found =>
    have present := find_ok_iff.mp found
    split at entered
    · contradiction
    next state =>
      split at entered
      · contradiction
      next budget =>
        split at entered
        · contradiction
        · cases entered
          have failed : component.state = .failed := by simpa using state
          refine ⟨component,_,present,failed,by omega,by simp [present]; rfl,?_,?_,?_,?_,rfl,rfl,rfl⟩
          · exact fun other apart => lookup_store_other monitor _ apart
          · simp
          · exact transition_time _ _ _ _ (by simp [failed])
          · simp

/-- What a successful commit found and did. -/
structure Commits (monitor : Monitor) (call : RecoverCall) (after : Monitor)
    (before changed : ComponentHealth) : Prop where
  found : monitor.components.lookup call.name = some before
  recovering : before.state = .recovering
  current : before.generation = call.oldGeneration
  stored : after.components.lookup call.name = some changed
  others : ∀ other, other ≠ call.name →
    after.components.lookup other = monitor.components.lookup other
  starting : changed.state = .starting
  generation : changed.generation = call.newGeneration

theorem commit_commits (committed : Monitor.commit monitor call processId now = .ok (after,changed)) :
    ∃ before, Commits monitor call after before changed := by
  simp only [Monitor.commit] at committed
  split at committed
  · contradiction
  next component found =>
    have present := find_ok_iff.mp found
    split at committed
    · contradiction
    next live =>
      simp only [not_or,not_not] at live
      cases committed
      refine ⟨component,present,live.2,live.1,by simp [present],?_,by simp,by simp⟩
      exact fun other apart => lookup_store_other monitor _ apart

theorem commit_error_iff : (∃ status, Monitor.commit monitor call processId now = .error status) ↔
    ¬ ∃ component, monitor.components.lookup call.name = some component ∧
      component.generation = call.oldGeneration ∧ component.state = .recovering := by
  simp only [Monitor.commit,Monitor.find]
  cases found : monitor.components.lookup call.name with
  | none => simp
  | some component =>
    by_cases live : component.generation = call.oldGeneration ∧ component.state = .recovering
    · simp [live]
    · simp only [Option.some.injEq,exists_eq_left',live,not_false_eq_true,iff_true]
      rw [if_pos (by tauto)]
      exact ⟨_,rfl⟩

theorem fail_keeps (monitor : Monitor) (call : RecoverCall) (failure : Status) (now : Int) :
    Keeps monitor (monitor.fail call failure now) := by
  simp only [Monitor.fail]
  split
  next component found =>
    split
    · exact store_keeps found (transition_kept component _ _ _ (by decide))
    · exact .refl monitor
  · exact .refl monitor

theorem fail_changes (monitor : Monitor) (call : RecoverCall) (failure : Status) (now : Int)
    (changed : (monitor.fail call failure now).components.lookup name ≠ monitor.components.lookup name) :
    call.name = name ∧ ∃ component, monitor.components.lookup name = some component ∧
      component.generation = call.oldGeneration := by
  simp only [Monitor.fail] at changed
  split at changed
  next component found =>
    split at changed
    next current =>
      by_cases same : name = call.name
      · subst name
        exact ⟨rfl,component,found,current⟩
      · simp [same] at changed
    · contradiction
  · contradiction

theorem fail_ends (monitor : Monitor) (call : RecoverCall) (failure : Status) (now : Int)
    (found : (monitor.fail call failure now).components.lookup call.name = some component)
    (current : component.generation = call.oldGeneration) : component.state = .failed := by
  simp only [Monitor.fail] at found
  split at found
  next old present =>
    split at found
    · simp only [lookup_store_same,present,Option.map_some,Option.some.injEq] at found
      subst component
      simp
    next stale =>
      cases present.symm.trans found
      exact absurd current stale
  next absent => simp [absent] at found

/-- The `Recover` call that an event belongs to. -/
def Event.caller : Event → Option Nat
  | .entered call _ _ _ | .cleanupCalled call _ _ | .startReturned call _ _ _ |
    .reconnectCalled call _ _ | .returned call _ => some call
  | .registered _ _ | .updated _ _ | .evaluated _ _ | .rejected _ _ => none

/-- Everything an action can do. -/
inductive Took (s : System) : Action → System → List Event → Prop where
  | observed (outside : action.caller = none) (keeps : Keeps s.monitor monitor)
      (silent : ∀ event ∈ seen, event.caller = none) :
      Took s action ⟨monitor,s.recovers,evaluations⟩ seen
  | entered (enters : Enters s.monitor name enteredAt monitor call before changed) :
      Took s (.recover hooks name deadline enteredAt startedAt)
        ⟨monitor,s.recovers ++ [call],s.evaluations⟩
        [.entered s.recovers.length name call.oldGeneration enteredAt]
  | proceeded (caller : action.caller = some index) (active : s.recovers[index]? = some call)
      (proceeds : call.proceed index action = some (phase,seen)) :
      Took s action (s.setPhase index call phase) seen
  | failed (active : s.recovers[index]? = some call) (phase : call.phase = .failing status) :
      Took s (.fail index now)
        { s.setPhase index call .returned with monitor := s.monitor.fail call status now }
        [.returned index (.error status)]
  | committed (active : s.recovers[index]? = some call) (phase : call.phase = .committing processId)
      (commits : Commits s.monitor call monitor before changed) :
      Took s (.commit index now) { s.setPhase index call .returned with monitor := monitor }
        [.returned index (.ok changed)]
  | stale (active : s.recovers[index]? = some call) (phase : call.phase = .committing processId)
      (gone : ¬ ∃ component, s.monitor.components.lookup call.name = some component ∧
        component.generation = call.oldGeneration ∧ component.state = .recovering) :
      Took s (.commit index now) (s.setPhase index call .returned) [.returned index (.error status)]

theorem finish_took (active : s.recovers[index]? = some call) (caller : action.caller = some index)
    (finished : call.finish index s action = some (t,seen)) : Took s action t seen := by
  cases action <;> simp only [RecoverCall.finish,reduceCtorEq] at finished
  case fail other now =>
    obtain rfl : other = index := by simpa [Action.caller] using caller
    split at finished
    next failure phase =>
      cases finished
      exact .failed active phase
    · contradiction
  case commit other now =>
    obtain rfl : other = index := by simpa [Action.caller] using caller
    split at finished
    next processId phase =>
      split at finished
      next monitor component committed =>
        cases finished
        obtain ⟨before,commits⟩ := commit_commits committed
        exact .committed active phase commits
      next status refused =>
        cases finished
        exact .stale active phase (commit_error_iff.mp ⟨status,refused⟩)
    · contradiction

theorem caller_took (caller : action.caller = some index)
    (stepped : step s action = some (t,seen)) : Took s action t seen := by
  have advanced : s.advance action = some (t,seen) := by
    cases action <;> first | exact stepped | cases caller
  simp only [System.advance,caller] at advanced
  split at advanced
  · contradiction
  next call active =>
    split at advanced
    next phase emitted proceeds =>
      cases advanced
      exact .proceeded caller active proceeds
    · exact finish_took active caller advanced

theorem step_took (stepped : step s action = some (t,seen)) : Took s action t seen := by
  cases action
  case register registration observedAt =>
    simp only [step] at stepped
    split at stepped <;> cases stepped
    next monitor registered => exact .observed rfl (register_keeps registered) (by simp [Event.caller])
    · exact .observed rfl (.refl s.monitor) (by simp [Event.caller])
  case update update =>
    simp only [step] at stepped
    split at stepped <;> cases stepped
    next monitor updated => exact .observed rfl (update_keeps updated) (by simp [Event.caller])
    · exact .observed rfl (.refl s.monitor) (by simp [Event.caller])
  case probe =>
    cases stepped
    exact .observed rfl (.refl s.monitor) (by simp)
  case evaluate index answer order observedAt =>
    simp only [step] at stepped
    split at stepped
    · contradiction
    next requests pending =>
      cases stepped
      exact .observed rfl (evaluate_keeps s.monitor order _ observedAt) (by simp [Event.caller])
  case recover hooks name deadline enteredAt startedAt =>
    simp only [step] at stepped
    split at stepped <;> cases stepped
    next monitor call entered =>
      obtain ⟨before,changed,enters⟩ := enter_enters entered
      exact .entered enters
    · exact .observed rfl (.refl s.monitor) (by simp [Event.caller])
  all_goals exact caller_took rfl stepped

end AutoRuntime.Health
