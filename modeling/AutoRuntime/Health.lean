import AutoRuntime.Machine
import AutoRuntime.Status
import AutoRuntime.Table

/-! The health monitor and its callers. Each section under the monitor mutex is one action,
and so is each return of a hook or probe that runs outside it. The answers of hooks, probes
and clocks come with the action. -/
namespace AutoRuntime.Health

open Chrono

abbrev Name := Bytes

inductive HealthState where
  | starting | running | degraded | failed | recovering
  deriving DecidableEq, Repr

inductive HealthReason where
  | none | heartbeatLost | processExited | noProgress | backlogExceeded
  | deadlineMissesExceeded | recoveryFailed
  deriving DecidableEq, Repr

/-- Timeouts are millisecond counts, as configured. -/
structure HealthPolicy where
  heartbeatTimeout : Int := 500
  noProgressTimeout : Int := 2000
  maxBacklog : Nat := 1024
  maxDeadlineMisses : Nat := 0
  restartBackoff : Int := 100
  recoveryTimeout : Int := 5000
  maxRestartAttempts : Nat := 3
  deriving DecidableEq, Repr

def validPolicy (policy : HealthPolicy) : Bool :=
  policy.heartbeatTimeout > 0 && policy.noProgressTimeout > 0 && policy.restartBackoff ≥ 0 &&
    policy.recoveryTimeout > 0 && policy.maxRestartAttempts != 0

structure ComponentRegistration where
  name : Name
  processId : Int
  generation : UInt64
  policy : HealthPolicy
  deriving DecidableEq, Repr

structure ComponentHealth where
  name : Name
  processId : Int
  generation : UInt64
  state : HealthState
  reason : HealthReason
  lastSeen : Int
  lastProgress : Int
  lastTransition : Int
  heartbeatSequence : UInt64 := 0
  progressSequence : UInt64 := 0
  backlog : Nat := 0
  deadlineMisses : Nat := 0
  restartAttempts : Nat := 0
  policy : HealthPolicy
  detail : String
  deriving DecidableEq, Repr

structure HealthTransition where
  component : Name
  generation : UInt64
  previous : HealthState
  current : HealthState
  reason : HealthReason
  observedAt : Int
  detail : String
  deriving DecidableEq, Repr

def timedOut (now last timeout : Int) : Bool := now > last && elapsed now last > milliseconds timeout

/-- `TransitionLocked`: the component afterwards and the log entry, if one is written. -/
def ComponentHealth.transition (component : ComponentHealth) (state : HealthState)
    (reason : HealthReason) (observedAt : Int) (detail : String) :
    ComponentHealth × Option HealthTransition :=
  if component.state == state && component.reason == reason && component.detail == detail then
    (component,none)
  else
    ({ component with state := state, reason := reason, lastTransition := observedAt, detail := detail },
      some ⟨component.name,component.generation,component.state,state,reason,observedAt,detail⟩)

structure Monitor where
  components : Table Name ComponentHealth
  transitions : List HealthTransition

/-- Write a component back together with its log entry. -/
def Monitor.store (monitor : Monitor) (name : Name)
    (changed : ComponentHealth × Option HealthTransition) : Monitor :=
  ⟨monitor.components.modify name fun _ => changed.1,monitor.transitions ++ changed.2.toList⟩

def Monitor.find (monitor : Monitor) (name : Name) : Result ComponentHealth :=
  match monitor.components.lookup name with
  | none => .error ⟨.notFound,"health component is not registered"⟩
  | some component => .ok component

def checkGeneration (component : ComponentHealth) (generation : UInt64) : Result Unit :=
  if generation ≠ component.generation then
    .error ⟨.staleGeneration,
      if generation < component.generation then "component update belongs to a stale generation"
      else "component update belongs to an unregistered generation"⟩
  else .ok ()

def Monitor.register (monitor : Monitor) (registration : ComponentRegistration) (observedAt : Int) :
    Result Monitor :=
  if registration.name.isEmpty || registration.processId < 0 || registration.generation == 0 ||
      !validPolicy registration.policy then
    .error ⟨.invalidArgument,"invalid health component registration"⟩
  else if (monitor.components.lookup registration.name).isSome then
    .error ⟨.alreadyExists,"health component is already registered"⟩
  else
    .ok { monitor with
      components := monitor.components.insert registration.name
        { name := registration.name, processId := registration.processId,
          generation := registration.generation, state := .starting, reason := .none,
          lastSeen := observedAt, lastProgress := observedAt, lastTransition := observedAt,
          policy := registration.policy, detail := "awaiting first heartbeat" } }

/-- The four calls by which a component reports about itself. -/
inductive Update where
  | heartbeat (name : Name) (generation sequence : UInt64) (observedAt : Int)
  | progress (name : Name) (generation sequence : UInt64) (observedAt : Int)
  | reportBacklog (name : Name) (generation : UInt64) (depth : Nat)
  | reportDeadlineMisses (name : Name) (generation : UInt64) (misses : Nat)
  deriving DecidableEq, Repr

def Update.name : Update → Name
  | .heartbeat name .. | .progress name .. | .reportBacklog name .. |
    .reportDeadlineMisses name .. => name

def Update.generation : Update → UInt64
  | .heartbeat _ generation .. | .progress _ generation .. | .reportBacklog _ generation _ |
    .reportDeadlineMisses _ generation _ => generation

/-- What an update does to a component whose generation it carries. -/
def Update.apply (component : ComponentHealth) :
    Update → Result (ComponentHealth × Option HealthTransition)
  | .heartbeat _ _ sequence observedAt =>
    if sequence < component.heartbeatSequence then
      .error ⟨.invalidArgument,"heartbeat sequence regressed"⟩
    else
      let seen := { component with heartbeatSequence := sequence, lastSeen := observedAt }
      .ok (if component.state = .starting then
        seen.transition .running .none observedAt "first heartbeat observed" else (seen,none))
  | .progress _ _ sequence observedAt =>
    if sequence < component.progressSequence then
      .error ⟨.invalidArgument,"progress sequence regressed"⟩
    else if component.progressSequence < sequence then
      .ok ({ component with progressSequence := sequence, lastProgress := observedAt },none)
    else .ok (component,none)
  | .reportBacklog _ _ depth => .ok ({ component with backlog := depth },none)
  | .reportDeadlineMisses _ _ misses => .ok ({ component with deadlineMisses := misses },none)

def Monitor.update (monitor : Monitor) (update : Update) : Result Monitor :=
  match monitor.find update.name with
  | .error status => .error status
  | .ok component =>
    match checkGeneration component update.generation with
    | .error status => .error status
    | .ok () => (update.apply component).map (monitor.store update.name)

structure ProbeRequest where
  name : Name
  processId : Int
  generation : UInt64
  deriving DecidableEq, Repr

structure ProbeResult where
  processId : Int
  generation : UInt64
  alive : Bool
  deriving DecidableEq, Repr

/-- First half of `Evaluate`: what to ask the process probe. -/
def Monitor.probeRequests (monitor : Monitor) : List ProbeRequest :=
  monitor.components.entries.filterMap fun entry =>
    if entry.2.processId > 0 && entry.2.state != .failed then
      some ⟨entry.1,entry.2.processId,entry.2.generation⟩
    else none

/-- What a probe call yields; a probe that throws counts as dead. -/
inductive ProbeAnswer where
  | alive | dead | threw
  deriving DecidableEq, Repr

def probeResults (requests : List ProbeRequest) (answer : Name → ProbeAnswer) (name : Name) :
    Option ProbeResult :=
  (requests.find? (·.name == name)).map fun request =>
    ⟨request.processId,request.generation,answer request.name == .alive⟩

/-- The probe found the very process dead that the component still records. -/
def exited (component : ComponentHealth) : Option ProbeResult → Bool
  | some probe => probe.processId == component.processId &&
      probe.generation == component.generation && !probe.alive
  | none => false

/-- One round of the loop in the second half of `Evaluate`. -/
def evaluateComponent (probe : Option ProbeResult) (observedAt : Int) (component : ComponentHealth) :
    ComponentHealth × Option HealthTransition :=
  if component.state = .failed then (component,none)
  else if exited component probe then
    component.transition .failed .processExited observedAt
      "process probe reports that the component exited"
  else if component.state = .recovering then
    if timedOut observedAt component.lastTransition component.policy.recoveryTimeout then
      component.transition .failed .recoveryFailed observedAt
        "recovery did not complete before its timeout"
    else (component,none)
  else if timedOut observedAt component.lastSeen component.policy.heartbeatTimeout then
    component.transition .failed .heartbeatLost observedAt "heartbeat timeout expired"
  else if timedOut observedAt component.lastProgress component.policy.noProgressTimeout then
    component.transition .failed .noProgress observedAt "progress sequence did not advance"
  else if component.backlog > component.policy.maxBacklog then
    component.transition .degraded .backlogExceeded observedAt "reported backlog exceeds policy"
  else if component.deadlineMisses > component.policy.maxDeadlineMisses then
    component.transition .degraded .deadlineMissesExceeded observedAt
      "reported deadline misses exceed policy"
  else if component.state = .degraded then
    component.transition .running .none observedAt "degradation signals cleared"
  else (component,none)

/-- Second half of `Evaluate`. No round looks at another component, so only the order of
the emitted transitions depends on the order of the table. -/
def Monitor.evaluate (monitor : Monitor) (order : Table.Order Name ComponentHealth)
    (probes : Name → Option ProbeResult) (observedAt : Int) : Monitor × List HealthTransition :=
  let emitted := (order.arrange monitor.components.entries).filterMap fun entry =>
    (evaluateComponent (probes entry.1) observedAt entry.2).2
  (⟨monitor.components.mapValues fun name component =>
      (evaluateComponent (probes name) observedAt component).1,
    monitor.transitions ++ emitted⟩,emitted)

/-- How a hook comes back. -/
inductive Caught (α : Type) where
  | returned (value : α) | exception (what : String) | unknown
  deriving DecidableEq, Repr

def Caught.settle (hook : String) (failure : Status → α) : Caught α → α
  | .returned value => value
  | .exception what => failure ⟨.internal,hook ++ " hook threw: " ++ what⟩
  | .unknown => failure ⟨.internal,hook ++ " hook threw"⟩

/-- Which of the three recovery hooks are set. -/
structure RecoveryHooks where
  cleanup : Bool
  start : Bool
  reconnect : Bool
  deriving DecidableEq, Repr

/-- Where a `Recover` call stands. A phase names what the call does next. -/
inductive RecoverPhase where
  | cleaning
  | backingOff
  | sleeping
  | starting
  | started (processId : Int)
  | reconnecting (processId : Int)
  | releasing (failure : Status)
  | failing (failure : Status)
  | committing (processId : Int)
  | returned
  deriving DecidableEq, Repr

/-- The locals of one `Recover` call. The reserved generation never wraps to zero. -/
structure RecoverCall where
  name : Name
  deadline : Deadline
  oldGeneration : UInt64
  newGeneration : UInt64
  reserved : newGeneration = oldGeneration + 1 ∧ newGeneration ≠ 0
  backoff : Int
  recoveryTimeout : Int
  recoveryStarted : Int
  phase : RecoverPhase
  deriving DecidableEq, Repr

/-- The locked entry of `Recover`. -/
def Monitor.enter (monitor : Monitor) (hooks : RecoveryHooks) (name : Name) (deadline : Deadline)
    (enteredAt startedAt : Int) : Result (Monitor × RecoverCall) :=
  if !hooks.cleanup || !hooks.start || !hooks.reconnect then
    .error ⟨.invalidArgument,"recovery requires cleanup, start, and reconnect hooks"⟩
  else match monitor.find name with
  | .error status => .error status
  | .ok component =>
    if component.state ≠ .failed then
      .error ⟨.invalidArgument,"only a failed component can be recovered"⟩
    else if component.restartAttempts ≥ component.policy.maxRestartAttempts then
      .error ⟨.closed,"component exhausted its restart budget"⟩
    else if wrapped : component.generation + 1 = 0 then
      .error ⟨.internal,"component generation overflowed"⟩
    else
      let counted := { component with restartAttempts := component.restartAttempts + 1 }
      .ok (monitor.store name (counted.transition .recovering component.reason enteredAt
          "recovery hooks are running"),
        { name := name, deadline := deadline, oldGeneration := component.generation,
          newGeneration := component.generation + 1, reserved := ⟨rfl,wrapped⟩,
          backoff := component.policy.restartBackoff,
          recoveryTimeout := component.policy.recoveryTimeout,
          recoveryStarted := startedAt, phase := .cleaning })

/-- The locked section of the `fail` lambda. -/
def Monitor.fail (monitor : Monitor) (call : RecoverCall) (failure : Status) (now : Int) : Monitor :=
  match monitor.components.lookup call.name with
  | some component =>
    if component.generation = call.oldGeneration then
      monitor.store call.name (component.transition .failed .recoveryFailed now failure.detail)
    else monitor
  | none => monitor

/-- The locked commit at the end of `Recover`. -/
def Monitor.commit (monitor : Monitor) (call : RecoverCall) (processId now : Int) :
    Result (Monitor × ComponentHealth) :=
  match monitor.find call.name with
  | .error status => .error status
  | .ok component =>
    if component.generation ≠ call.oldGeneration ∨ component.state ≠ .recovering then
      .error ⟨.staleGeneration,"component changed during recovery"⟩
    else
      let replaced := { component with
        processId := processId, generation := call.newGeneration, lastSeen := now,
        lastProgress := now, heartbeatSequence := 0, progressSequence := 0, backlog := 0,
        deadlineMisses := 0 }
      let changed := replaced.transition .starting .none now "restart complete; awaiting heartbeat"
      .ok (monitor.store call.name changed,changed.1)

/-- The deadline test and the timeout test between two stages, each with its own clock reading. -/
def RecoverCall.late (call : RecoverCall) (tested measured : Int) : Bool :=
  call.deadline.expired tested ||
    elapsed measured call.recoveryStarted > milliseconds call.recoveryTimeout

/-- A deadline that leaves no room for the backoff. -/
def RecoverCall.cramped (call : RecoverCall) (tested measured : Int) : Bool :=
  call.deadline.expired tested || (!call.deadline.isInfinite &&
    elapsed call.deadline.timePoint measured < milliseconds call.backoff)

structure System where
  monitor : Monitor
  recovers : List RecoverCall
  evaluations : List (List ProbeRequest)

def initial : System := ⟨⟨∅,[]⟩,[],[]⟩

/-- What an observer of the hooks and of the callers sees. -/
inductive Event where
  | registered (name : Name) (answer : Result Unit)
  | updated (update : Update) (answer : Result Unit)
  | evaluated (observedAt : Int) (emitted : List HealthTransition)
  | rejected (name : Name) (status : Status)
  | entered (call : Nat) (name : Name) (generation : UInt64) (enteredAt : Int)
  | cleanupCalled (call : Nat) (name : Name) (generation : UInt64)
  | startReturned (call : Nat) (name : Name) (generation : UInt64) (started : Result Int)
  | reconnectCalled (call : Nat) (name : Name) (generation : UInt64)
  | returned (call : Nat) (answer : Result ComponentHealth)

inductive Action where
  | register (registration : ComponentRegistration) (observedAt : Int)
  | update (update : Update)
  | probe
  | evaluate (index : Nat) (answer : Name → ProbeAnswer) (order : Table.Order Name ComponentHealth)
    (observedAt : Int)
  | recover (hooks : RecoveryHooks) (name : Name) (deadline : Deadline) (enteredAt startedAt : Int)
  | cleanup (call : Nat) (outcome : Caught Status)
  | backOff (call : Nat) (tested measured : Int)
  | wake (call : Nat) (tested measured : Int)
  | start (call : Nat) (outcome : Caught (Result Int))
  | check (call : Nat) (tested measured : Int)
  | reconnect (call : Nat) (outcome : Caught Status)
  | release (call : Nat)
  | fail (call : Nat) (now : Int)
  | commit (call : Nat) (now : Int)

/-- The `Recover` call an action belongs to, once the call has entered. -/
def Action.caller : Action → Option Nat
  | .cleanup call _ | .backOff call _ _ | .wake call _ _ | .start call _ | .check call _ _ |
    .reconnect call _ | .release call | .fail call _ | .commit call _ => some call
  | .register .. | .update _ | .probe | .evaluate .. | .recover .. => none

/-- What the stages of `Recover` outside the lock do: the next phase and what is seen. -/
def RecoverCall.proceed (call : RecoverCall) (index : Nat) : Action → Option (RecoverPhase × List Event)
  | .cleanup _ outcome =>
    match call.phase with
    | .cleaning =>
      let status := outcome.settle "cleanup" id
      some (if status.ok then .backingOff else .failing status,
        [.cleanupCalled index call.name call.oldGeneration])
    | _ => none
  | .backOff _ tested measured =>
    match call.phase with
    | .backingOff => some (if call.cramped tested measured then
        .failing ⟨.timeout,"recovery deadline expires during backoff"⟩ else .sleeping,[])
    | _ => none
  | .wake _ tested measured =>
    match call.phase with
    | .sleeping => some (if call.late tested measured then
        .failing ⟨.timeout,"recovery timed out before restart"⟩ else .starting,[])
    | _ => none
  | .start _ outcome =>
    match call.phase with
    | .starting =>
      let started := outcome.settle "start" .error
      some (match started with
        | .error status => .failing status
        | .ok processId => if processId ≤ 0 then
            .failing ⟨.invalidArgument,"start hook returned an invalid process id"⟩
          else .started processId,
        [.startReturned index call.name call.newGeneration started])
    | _ => none
  | .check _ tested measured =>
    match call.phase with
    | .started processId => some (if call.late tested measured then
        .releasing ⟨.timeout,"recovery timed out after restart"⟩ else .reconnecting processId,[])
    | _ => none
  | .reconnect _ outcome =>
    match call.phase with
    | .reconnecting processId =>
      let status := outcome.settle "reconnect" id
      some (if status.ok then .committing processId else .releasing status,
        [.reconnectCalled index call.name call.newGeneration])
    | _ => none
  | .release _ =>
    match call.phase with
    | .releasing failure => some (.failing failure,[.cleanupCalled index call.name call.newGeneration])
    | _ => none
  | _ => none

def System.setPhase (s : System) (index : Nat) (call : RecoverCall) (phase : RecoverPhase) : System :=
  { s with recovers := s.recovers.set index { call with phase := phase } }

/-- The two stages of `Recover` that take the lock again. -/
def RecoverCall.finish (call : RecoverCall) (index : Nat) (s : System) :
    Action → Option (System × List Event)
  | .fail _ now =>
    match call.phase with
    | .failing failure =>
      some ({ s.setPhase index call .returned with monitor := s.monitor.fail call failure now },
        [.returned index (.error failure)])
    | _ => none
  | .commit _ now =>
    match call.phase with
    | .committing processId =>
      match s.monitor.commit call processId now with
      | .ok (monitor,component) =>
        some ({ s.setPhase index call .returned with monitor := monitor },
          [.returned index (.ok component)])
      | .error status => some (s.setPhase index call .returned,[.returned index (.error status)])
    | _ => none
  | _ => none

/-- The next stage of the `Recover` call that the action names. -/
def System.advance (s : System) (action : Action) : Option (System × List Event) :=
  match action.caller with
  | none => none
  | some index =>
    match s.recovers[index]? with
    | none => none
    | some call =>
      match call.proceed index action with
      | some (phase,seen) => some (s.setPhase index call phase,seen)
      | none => call.finish index s action

def step (s : System) : Action → Option (System × List Event)
  | .register registration observedAt =>
    match s.monitor.register registration observedAt with
    | .ok monitor => some ({ s with monitor := monitor },[.registered registration.name (.ok ())])
    | .error status => some (s,[.registered registration.name (.error status)])
  | .update update =>
    match s.monitor.update update with
    | .ok monitor => some ({ s with monitor := monitor },[.updated update (.ok ())])
    | .error status => some (s,[.updated update (.error status)])
  | .probe => some ({ s with evaluations := s.evaluations ++ [s.monitor.probeRequests] },[])
  | .evaluate index answer order observedAt =>
    match s.evaluations[index]? with
    | none => none
    | some requests =>
      let (monitor,emitted) := s.monitor.evaluate order (probeResults requests answer) observedAt
      some ({ s with monitor := monitor, evaluations := s.evaluations.eraseIdx index },
        [.evaluated observedAt emitted])
  | .recover hooks name deadline enteredAt startedAt =>
    match s.monitor.enter hooks name deadline enteredAt startedAt with
    | .ok (monitor,call) =>
      some ({ s with monitor := monitor, recovers := s.recovers ++ [call] },
        [.entered s.recovers.length name call.oldGeneration enteredAt])
    | .error status => some (s,[.rejected name status])
  | action => s.advance action

def system : Machine System Action Event := ⟨step⟩

end AutoRuntime.Health
