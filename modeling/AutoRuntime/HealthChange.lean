import AutoRuntime.HealthSteps

/-! One action, one component: what becomes of it and what is written to its part of the
log. Every change of a component is one of five, whatever the other components do. -/
namespace AutoRuntime.Health

/-- The entries of the transition log that are about this component. -/
def Monitor.log (monitor : Monitor) (name : Name) : List HealthTransition :=
  monitor.transitions.filter fun entry => entry.component = name

/-- The component that an event tells a success about. -/
def Event.concerns : Event → Option Name
  | .registered name (.ok _) | .entered _ name _ _ => some name
  | .updated update (.ok _) => some update.name
  | .returned _ (.ok component) => some component.name
  | .registered _ (.error _) | .updated _ (.error _) | .evaluated _ _ | .rejected _ _ |
    .cleanupCalled _ _ _ | .startReturned _ _ _ _ | .reconnectCalled _ _ _ | .returned _ (.error _) => none

/-- What a commit makes of the component. -/
def ComponentHealth.restarted (component : ComponentHealth) (call : RecoverCall) (processId now : Int) :
    ComponentHealth × Option HealthTransition :=
  { component with
    processId := processId, generation := call.newGeneration, lastSeen := now, lastProgress := now,
    heartbeatSequence := 0, progressSequence := 0, backlog := 0, deadlineMisses := 0 }.transition
      .starting .none now "restart complete; awaiting heartbeat"

/-- Everything an action can do to a registered component, with the entry it logs. -/
inductive Changed (s : System) (name : Name) (before : ComponentHealth) :
    Action → List Event → ComponentHealth × Option HealthTransition → Prop where
  | untouched (quiet : ∀ event ∈ seen, event.concerns ≠ some name) :
      Changed s name before action seen (before,none)
  | updated (named : update.name = name) (current : update.generation = before.generation)
      (applied : update.apply before = .ok changed) :
      Changed s name before (.update update) [.updated update (.ok ())] changed
  | evaluated (pending : s.evaluations[index]? = some requests) :
      Changed s name before (.evaluate index answer order observedAt) [.evaluated observedAt emitted]
        (evaluateComponent (probeResults requests answer name) observedAt before)
  | entered (failed : before.state = .failed) :
      Changed s name before (.recover hooks name deadline enteredAt startedAt)
        [.entered s.recovers.length name before.generation enteredAt]
        ({ before with restartAttempts := before.restartAttempts + 1 }.transition .recovering
          before.reason enteredAt "recovery hooks are running")
  | failed (active : s.recovers[index]? = some call) (named : call.name = name)
      (current : before.generation = call.oldGeneration) :
      Changed s name before (.fail index now) [.returned index (.error status)]
        (before.transition .failed .recoveryFailed now status.detail)
  | committed (active : s.recovers[index]? = some call) (named : call.name = name)
      (current : before.generation = call.oldGeneration) (recovering : before.state = .recovering)
      (restarted : changed = before.restarted call processId now) :
      Changed s name before (.commit index now) [.returned index (.ok changed.1)] changed

/-- The log entry that shows a component in its new state. -/
def ComponentHealth.entry (component : ComponentHealth) (previous : HealthState) : HealthTransition :=
  ⟨component.name,component.generation,previous,component.state,component.reason,
    component.lastTransition,component.detail⟩

/-- What the log says about a change, and what a change without an entry leaves alone. -/
structure Logged (before : ComponentHealth) (changed : ComponentHealth × Option HealthTransition) :
    Prop where
  name : changed.1.name = before.name
  silent : changed.2 = none →
    changed.1.state = before.state ∧ changed.1.generation = before.generation
  written : changed.2 = some entry → entry = changed.1.entry before.state

theorem logged_silent (name : changed.name = before.name) (state : changed.state = before.state)
    (generation : changed.generation = before.generation) : Logged before (changed,none) :=
  ⟨name,fun _ => ⟨state,generation⟩,by simp⟩

/-- `TransitionLocked` on a component that the caller has already written to. -/
theorem transition_logged (component : ComponentHealth) (reason : HealthReason) (observedAt : Int)
    (detail : String) (name : component.name = before.name)
    (previous : component.state = before.state)
    (generation : component.state = state → component.generation = before.generation) :
    Logged before (component.transition state reason observedAt detail) := by
  simp only [ComponentHealth.transition]
  split
  next same =>
    have stays : component.state = state := (by simpa using same : (_ ∧ _) ∧ _).1.1
    exact logged_silent name previous (generation stays)
  · refine ⟨name,by simp,fun logged => ?_⟩
    cases logged
    simp only [ComponentHealth.entry,previous]

theorem transition_same_logged (component : ComponentHealth) (state : HealthState)
    (reason : HealthReason) (observedAt : Int) (detail : String) :
    Logged component (component.transition state reason observedAt detail) :=
  transition_logged component reason observedAt detail rfl rfl fun _ => rfl

theorem evaluateComponent_logged (probe : Option ProbeResult) (observedAt : Int)
    (component : ComponentHealth) : Logged component (evaluateComponent probe observedAt component) := by
  simp only [evaluateComponent]
  repeat' split
  all_goals first
    | exact logged_silent rfl rfl rfl
    | exact transition_same_logged component _ _ _ _

theorem Update.apply_logged (applied : Update.apply component update = .ok changed) :
    Logged component changed := by
  cases Update.applied applied with
  | first => exact transition_logged _ _ _ _ rfl rfl fun _ => rfl
  | beat | noted => exact logged_silent rfl rfl rfl

theorem Changed.logged (change : Changed s name before action seen changed) :
    Logged before changed := by
  cases change with
  | untouched => exact logged_silent rfl rfl rfl
  | updated named current applied => exact Update.apply_logged applied
  | evaluated => exact evaluateComponent_logged _ _ before
  | entered => exact transition_logged _ _ _ _ rfl rfl fun _ => rfl
  | failed => exact transition_same_logged before _ _ _ _
  | committed active named current recovering =>
    subst changed
    exact transition_logged _ _ _ _ rfl rfl fun starting => by simp [recovering] at starting

/-- The state diagram: the ways a component can move. -/
inductive Edge (before : ComponentHealth) (changed : ComponentHealth × Option HealthTransition) :
    Prop where
  | quiet (silent : changed.2 = none) (state : changed.1.state = before.state)
      (generation : changed.1.generation = before.generation)
  | heard (starting : before.state = .starting) (state : changed.1.state = .running)
      (generation : changed.1.generation = before.generation)
  | degraded (alive : before.state ≠ .failed ∧ before.state ≠ .recovering)
      (state : changed.1.state = .degraded) (generation : changed.1.generation = before.generation)
  | cleared (degraded : before.state = .degraded) (state : changed.1.state = .running)
      (generation : changed.1.generation = before.generation)
  | failed (state : changed.1.state = .failed) (generation : changed.1.generation = before.generation)
  | entered (failed : before.state = .failed) (state : changed.1.state = .recovering)
      (generation : changed.1.generation = before.generation)
  | restarted (recovering : before.state = .recovering) (state : changed.1.state = .starting)
      (generation : changed.1.generation.toNat = before.generation.toNat + 1)

theorem Update.apply_edge (applied : Update.apply component update = .ok changed) :
    Edge component changed := by
  cases Update.applied applied with
  | first starting => exact .heard starting (by simp) (by simp)
  | beat | noted => exact .quiet rfl rfl rfl

theorem evaluateComponent_edge (probe : Option ProbeResult) (observedAt : Int)
    (component : ComponentHealth) : Edge component (evaluateComponent probe observedAt component) := by
  simp only [evaluateComponent]
  split
  · exact .quiet rfl rfl rfl
  next unfailed =>
    split
    · exact .failed (by simp) (by simp)
    split
    · split
      · exact .failed (by simp) (by simp)
      · exact .quiet rfl rfl rfl
    next unrecovering =>
      split
      · exact .failed (by simp) (by simp)
      split
      · exact .failed (by simp) (by simp)
      split
      · exact .degraded ⟨unfailed,unrecovering⟩ (by simp) (by simp)
      split
      · exact .degraded ⟨unfailed,unrecovering⟩ (by simp) (by simp)
      split
      next degraded => exact .cleared degraded (by simp) (by simp)
      · exact .quiet rfl rfl rfl

theorem RecoverCall.newGeneration_toNat (call : RecoverCall) :
    call.newGeneration.toNat = call.oldGeneration.toNat + 1 := by
  have nonzero : call.newGeneration.toNat ≠ 0 := fun zero =>
    call.reserved.2 (UInt64.toNat_inj.mp zero)
  rw [call.reserved.1,UInt64.toNat_add,UInt64.toNat_one] at nonzero ⊢
  have bound := call.oldGeneration.toNat_lt
  omega

theorem Changed.edge (change : Changed s name before action seen changed) : Edge before changed := by
  cases change with
  | untouched => exact .quiet rfl rfl rfl
  | updated named current applied => exact Update.apply_edge applied
  | evaluated => exact evaluateComponent_edge _ _ before
  | entered failed => exact .entered failed (by simp) (by simp)
  | failed => exact .failed (by simp) (by simp)
  | committed active named current recovering =>
    subst changed
    refine .restarted recovering (by simp [ComponentHealth.restarted]) ?_
    simp [ComponentHealth.restarted,current,RecoverCall.newGeneration_toNat]

/-- Every component is stored under its own name. -/
def Monitor.Named (monitor : Monitor) : Prop :=
  ∀ name component, monitor.components.lookup name = some component → component.name = name

/-- A component that was not there before has just been registered. -/
inductive Born (name : Name) (component : ComponentHealth) : List Event → Prop where
  | registered (named : component.name = name) (starting : component.state = .starting) :
      Born name component [.registered name (.ok ())]

/-- One action, seen from each component. -/
structure Changes (s : System) (action : Action) (t : System) (seen : List Event) : Prop where
  known : s.monitor.components.lookup name = some before →
    ∃ changed, Changed s name before action seen changed ∧
      t.monitor.components.lookup name = some changed.1 ∧
      t.monitor.log name = s.monitor.log name ++ changed.2.toList
  absent : s.monitor.components.lookup name = none → t.monitor.log name = s.monitor.log name ∧
    ∀ call generation enteredAt, .entered call name generation enteredAt ∉ seen
  fresh : s.monitor.components.lookup name = none → t.monitor.components.lookup name = some after →
    Born name after seen

theorem changes_same (quiet : ∀ event ∈ seen, event.concerns = none) (same : t.monitor = s.monitor) :
    Changes s action t seen := by
  refine ⟨fun found => ⟨_,.untouched fun event member => ?_,by simpa [same] using found,by simp [same]⟩,
    fun _ => ⟨by rw [same],fun call generation enteredAt member => ?_⟩,?_⟩
  · simp [quiet event member]
  · simpa [Event.concerns] using quiet _ member
  · intro name after missing present
    rw [same,missing] at present
    contradiction

theorem log_store (own : ∀ entry, changed.2 = some entry → entry.component = name) :
    (Monitor.store monitor name changed).log name = monitor.log name ++ changed.2.toList := by
  have kept : changed.2.toList.filter (fun entry => entry.component = name) = changed.2.toList := by
    refine List.filter_eq_self.mpr fun entry member => ?_
    simpa using own entry (by simpa using member)
  simp only [Monitor.log,Monitor.store,List.filter_append,kept]

theorem log_store_other (own : ∀ entry, changed.2 = some entry → entry.component = name)
    (apart : other ≠ name) : (Monitor.store monitor name changed).log other = monitor.log other := by
  have dropped : changed.2.toList.filter (fun entry => entry.component = other) = [] := by
    refine List.filter_eq_nil_iff.mpr fun entry member => ?_
    have named := own entry (by simpa using member)
    simpa [named] using Ne.symm apart
  simp only [Monitor.log,Monitor.store,List.filter_append,dropped,List.append_nil]

theorem changes_store (named : s.monitor.Named) (found : s.monitor.components.lookup name = some before)
    (change : Changed s name before action seen changed)
    (about : ∀ event ∈ seen, ∀ other, event.concerns = some other → other = name)
    (stored : t.monitor = s.monitor.store name changed) : Changes s action t seen := by
  have own (entry) (logged : changed.2 = some entry) : entry.component = name := by
    rw [change.logged.written logged]
    exact change.logged.name.trans (named name before found)
  constructor
  · intro other old present
    by_cases same : other = name
    · subst other
      cases found.symm.trans present
      exact ⟨changed,change,by simp [stored,found],by rw [stored,log_store own]⟩
    · refine ⟨(old,none),.untouched fun event member concerns => same (about event member other concerns),?_,?_⟩
      · simpa [stored,same] using present
      · simp [stored,log_store_other own same]
  · intro other missing
    have apart : other ≠ name := by
      rintro rfl
      simp [missing] at found
    refine ⟨by rw [stored,log_store_other own apart],fun call generation enteredAt member => ?_⟩
    exact apart (about _ member other rfl)
  · intro other after missing present
    have apart : other ≠ name := by
      rintro rfl
      simp [missing] at found
    simp [stored,apart,missing] at present

theorem register_changes (registered : s.monitor.register registration observedAt = .ok monitor) :
    Changes s (.register registration observedAt) { s with monitor := monitor }
      [.registered registration.name (.ok ())] := by
  simp only [Monitor.register] at registered
  split at registered
  · contradiction
  split at registered
  · contradiction
  next unknown =>
    cases registered
    refine ⟨fun {name before} found => ?_,fun _ => ⟨rfl,by simp⟩,fun {name after} missing present => ?_⟩
    · have apart : name ≠ registration.name := by
        rintro rfl
        simp [found] at unknown
      refine ⟨(before,none),.untouched ?_,?_,by simp [Monitor.log]⟩
      · simpa [Event.concerns] using Ne.symm apart
      · simpa [AList.lookup_insert_ne apart] using found
    · rcases Table.insert_cases present with ⟨rfl,rfl⟩ | ⟨-,old⟩
      · exact .registered rfl rfl
      · simp [missing] at old

section

variable {s : System} (named : s.monitor.Named)

include named

theorem update_changes (updated : s.monitor.update update = .ok monitor) :
    Changes s (.update update) { s with monitor := monitor } [.updated update (.ok ())] := by
  simp only [Monitor.update] at updated
  split at updated
  · contradiction
  next component found =>
    split at updated
    · contradiction
    next checked =>
      have current : update.generation = component.generation := by
        by_contra stale
        simp [checkGeneration,stale] at checked
      cases applied : update.apply component with
      | error => simp [applied,Except.map] at updated
      | ok =>
        simp only [applied,Except.map,Except.ok.injEq] at updated
        refine changes_store named (find_ok_iff.mp found) (.updated rfl current applied) ?_ updated.symm
        simp [Event.concerns]

theorem evaluate_changes (pending : s.evaluations[index]? = some requests) (evaluated : t.monitor =
      (s.monitor.evaluate order (probeResults requests answer) observedAt).1) :
    Changes s (.evaluate index answer order observedAt) t [.evaluated observedAt emitted] := by
  have share (name) : t.monitor.log name = s.monitor.log name ++
      ((s.monitor.components.lookup name).bind fun component =>
        (evaluateComponent (probeResults requests answer name) observedAt component).2).toList := by
    rw [evaluated]
    simp only [Monitor.log,Monitor.evaluate,List.filter_append]
    rw [Table.filter_arranged order s.monitor.components
      fun name component =>
        (evaluateComponent (probeResults requests answer name) observedAt component).2]
    intro key component entry found logged
    have shown := evaluateComponent_logged (probeResults requests answer key) observedAt component
    rw [shown.written logged]
    exact shown.name.trans (named key component found)
  refine ⟨fun {name before} found => ⟨_,.evaluated pending,?_,?_⟩,fun {name} missing => ?_,?_⟩
  · simp [evaluated,lookup_evaluate,found]
  · simp [share,found]
  · exact ⟨by simp [share,missing],by simp⟩
  · intro name after missing present
    simp [evaluated,lookup_evaluate,missing] at present

theorem enter_changes (entered : s.monitor.enter hooks name deadline enteredAt startedAt = .ok (monitor,call)) :
    Changes s (.recover hooks name deadline enteredAt startedAt)
      { s with monitor := monitor, recovers := s.recovers ++ [call] }
      [.entered s.recovers.length name call.oldGeneration enteredAt] := by
  simp only [Monitor.enter] at entered
  split at entered
  · contradiction
  split at entered
  · contradiction
  next component found =>
    split at entered
    · contradiction
    next state =>
      split at entered
      · contradiction
      split at entered
      · contradiction
      · cases entered
        refine changes_store named (find_ok_iff.mp found) (.entered (by simpa using state)) ?_ rfl
        simp [Event.concerns]

theorem failing_changes (active : s.recovers[index]? = some call)
    (failed : t.monitor = s.monitor.fail call status now) :
    Changes s (.fail index now) t [.returned index (.error status)] := by
  simp only [Monitor.fail] at failed
  split at failed
  next component found =>
    split at failed
    next current =>
      exact changes_store named found (.failed active rfl current) (by simp [Event.concerns]) failed
    · exact changes_same (by simp [Event.concerns]) failed
  · exact changes_same (by simp [Event.concerns]) failed

theorem commit_changes (active : s.recovers[index]? = some call)
    (committed : s.monitor.commit call processId now = .ok (monitor,component)) :
    Changes s (.commit index now) { s.setPhase index call .returned with monitor := monitor }
      [.returned index (.ok component)] := by
  simp only [Monitor.commit] at committed
  split at committed
  · contradiction
  next before found =>
    split at committed
    · contradiction
    next live =>
      simp only [not_or,not_not] at live
      cases committed
      have present := find_ok_iff.mp found
      have change : Changed s call.name before (.commit index now) _ (before.restarted call processId now) :=
        .committed active rfl live.1 live.2 rfl
      have owner : (before.restarted call processId now).1.name = call.name :=
        change.logged.name.trans (named call.name before present)
      refine changes_store named present change (fun event member other concerns => ?_) rfl
      obtain rfl := List.mem_singleton.mp member
      exact (Option.some.inj concerns).symm.trans owner

theorem finish_changes (active : s.recovers[index]? = some call) (caller : action.caller = some index)
    (finished : call.finish index s action = some (t,seen)) : Changes s action t seen := by
  cases action <;> simp only [RecoverCall.finish,reduceCtorEq] at finished
  case fail other now =>
    obtain rfl : other = index := by simpa [Action.caller] using caller
    split at finished
    · cases finished
      exact failing_changes named active rfl
    · contradiction
  case commit other now =>
    obtain rfl : other = index := by simpa [Action.caller] using caller
    split at finished
    · split at finished <;> cases finished
      next monitor component committed => exact commit_changes named active committed
      · exact changes_same (by simp [Event.concerns]) rfl
    · contradiction

end

theorem proceed_quiet (proceeds : RecoverCall.proceed call index action = some (phase,seen)) :
    ∀ event ∈ seen, event.concerns = none := by
  unfold RecoverCall.proceed at proceeds
  repeat' split at proceeds
  all_goals first
    | contradiction
    | (cases proceeds
       simp [Event.concerns])

theorem advance_changes (named : s.monitor.Named) (advanced : s.advance action = some (t,seen)) :
    Changes s action t seen := by
  simp only [System.advance] at advanced
  split at advanced
  · contradiction
  next index caller =>
    split at advanced
    · contradiction
    next call active =>
      split at advanced
      next proceeds =>
        cases advanced
        exact changes_same (proceed_quiet proceeds) rfl
      · exact finish_changes named active caller advanced

theorem step_changes (named : s.monitor.Named) (stepped : step s action = some (t,seen)) :
    Changes s action t seen := by
  cases action
  case register registration observedAt =>
    simp only [step] at stepped
    split at stepped <;> cases stepped
    next monitor registered => exact register_changes registered
    · exact changes_same (by simp [Event.concerns]) rfl
  case update update =>
    simp only [step] at stepped
    split at stepped <;> cases stepped
    next monitor updated => exact update_changes named updated
    · exact changes_same (by simp [Event.concerns]) rfl
  case probe =>
    cases stepped
    exact changes_same (by simp) rfl
  case evaluate index answer order observedAt =>
    simp only [step] at stepped
    split at stepped
    · contradiction
    next requests pending =>
      cases stepped
      exact evaluate_changes named pending rfl
  case recover hooks name deadline enteredAt startedAt =>
    simp only [step] at stepped
    split at stepped <;> cases stepped
    next monitor call entered => exact enter_changes named entered
    · exact changes_same (by simp [Event.concerns]) rfl
  all_goals exact advance_changes named stepped

theorem Changes.named (changes : Changes s action t seen) (named : s.monitor.Named) :
    t.monitor.Named := by
  intro name component present
  cases found : s.monitor.components.lookup name with
  | none =>
    obtain ⟨named,-⟩ := changes.fresh found present
    exact named
  | some before =>
    obtain ⟨changed,change,stored,-⟩ := changes.known found
    cases stored.symm.trans present
    exact change.logged.name.trans (named name before found)

end AutoRuntime.Health
