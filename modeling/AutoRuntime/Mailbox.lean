import AutoRuntime.Machine
import AutoRuntime.Status

/-! A component with one event task. Callers put work in under the component's lock and notify
the task when the `scheduled` flag was down; every job of the task runs `ProcessOne`, which
takes one piece of work and notifies again while there is more. Subscribers and services
differ in their sections only, so the threads around the sections are modelled here once.
The executor appears as the task sees it. -/
namespace AutoRuntime

/-- How far a `Notify` call is in the sections of `Enqueue`. -/
inductive Progress where
  | requested | sequenced | reserved
  deriving DecidableEq, Repr

/-- The executor as seen by one event task: its flags, the task's counter, the task's own jobs
in the group's queue, those a worker has popped with the stop flag it read, and the number
of other jobs in the queue. -/
structure Port where
  running : Bool
  stopping : Bool
  cancelled : Bool
  queued : Nat
  jobs : Nat
  popped : List Bool
  others : Nat
  groupCapacity : Nat
  groupStopping : Bool
  deriving DecidableEq, Repr

namespace Port

/-- Tasks of subscribers and services have room for one job. -/
def taskCapacity : Nat := 1

/-- The port of a task that `AddTask` has just made. -/
def added (running : Bool) (others groupCapacity : Nat) : Port :=
  ⟨running,false,false,0,0,[],others,groupCapacity,false⟩

/-- One section of `Enqueue`: the call goes on, or comes back with a status. -/
def enqueue (port : Port) : Progress → Port × (Progress ⊕ Status)
  | .requested =>
    if !port.running || port.stopping then (port,.inr ⟨.closed,"executor is not accepting work"⟩)
    else (port,.inl .sequenced)
  | .sequenced =>
    if port.cancelled then (port,.inr ⟨.cancelled,"task is cancelled"⟩)
    else if port.queued ≥ taskCapacity then (port,.inr ⟨.queueFull,"task queue is full"⟩)
    else ({ port with queued := port.queued + 1 },.inl .reserved)
  | .reserved =>
    if port.groupStopping then
      ({ port with queued := port.queued - 1 },.inr ⟨.closed,"callback group is stopping"⟩)
    else if port.others + port.jobs ≥ port.groupCapacity then
      ({ port with queued := port.queued - 1 },.inr ⟨.queueFull,"callback group queue is full"⟩)
    else ({ port with jobs := port.jobs + 1 },.inr .success)

/-- What the rest of the executor does. -/
inductive Action where
  | start
  | stop
  | mark
  | load (others : Nat)
  | pop
  deriving DecidableEq, Repr

def step (port : Port) : Action → Option Port
  | .start => if port.running || port.stopping then none else some { port with running := true }
  | .stop =>
    if port.running || port.stopping then some { port with running := false, stopping := true } else none
  | .mark => if port.stopping then some { port with groupStopping := true } else none
  | .load others =>
    if others + port.jobs ≤ port.groupCapacity then some { port with others := others } else none
  | .pop =>
    if port.jobs > 0 then
      some { port with jobs := port.jobs - 1, popped := port.popped ++ [port.groupStopping] }
    else none

/-- The callback group can take one more job. -/
def room (port : Port) : Bool := port.others + port.jobs < port.groupCapacity

/-- The section does not refuse for a reason outside the task. -/
def accepts (port : Port) : Progress → Bool
  | .requested => port.running && !port.stopping
  | .sequenced => true
  | .reserved => !port.groupStopping && port.room

end Port

/-- The sections of a component, and what they do to the flags. Its other steps, which touch
neither flag nor task, know which callers are through with the task. -/
structure Component where
  State : Type
  Input : Type
  Work : Type
  Outcome : Type
  Reaction : Type
  Event : Type
  scheduled : State → Bool
  closed : State → Bool
  arrive : State → Nat → Input → State × Bool × List Event
  refused : State → Nat → Status → State × List Event
  take : State → State × Option Work × List Event
  proceed : State → Work → Outcome → Option (State × Option Work × List Event)
  check : State → State × Bool
  close : State → State × List Event
  react : State → (Nat → Bool) → Reaction → Option (State × List Event)
  arrive_closed : closed (arrive s call input).1 = closed s
  arrive_notifies : (arrive s call input).2.1 = true →
    closed s = false ∧ scheduled s = false ∧ scheduled (arrive s call input).1 = true
  arrive_quiet : (arrive s call input).2.1 = false → scheduled (arrive s call input).1 = scheduled s
  refused_closed : closed (refused s call status).1 = closed s
  take_closed : closed (take s).1 = closed s
  take_nothing : (take s).2.1 = none → scheduled (take s).1 = false
  take_work : (take s).2.1 = some work → scheduled (take s).1 = scheduled s
  proceed_flags : proceed s work outcome = some (t,next,seen) →
    scheduled t = scheduled s ∧ closed t = closed s
  check_closed : closed (check s).1 = closed s
  check_notifies : (check s).2 = true → scheduled (check s).1 = scheduled s
  check_quiet : (check s).2 = false → scheduled (check s).1 = false
  close_closed : closed (close s).1 = true
  react_flags : react s returned reaction = some (t,seen) → scheduled t = scheduled s ∧ closed t = closed s

namespace Mailbox

/-- Where a caller stands; one that has not to notify is through with the task at once. -/
inductive CallPhase where
  | notifying (progress : Progress)
  | refused (status : Status)
  | returned
  deriving DecidableEq, Repr

/-- Where an execution of `ProcessOne` stands. -/
inductive RunPhase (ω : Type) where
  | taking
  | working (work : ω)
  | checking
  | notifying (progress : Progress)
  | returned
  deriving DecidableEq, Repr

structure System (c : Component) where
  state : c.State
  port : Port
  calls : List CallPhase
  runs : List (RunPhase c.Work)

inductive Action (c : Component) where
  | arrive (input : c.Input)
  | notify (call : Nat)
  | refuse (call : Nat)
  | dispatch (job : Nat)
  | take (run : Nat)
  | proceed (run : Nat) (outcome : c.Outcome)
  | check (run : Nat)
  | renotify (run : Nat)
  | close
  | cancel
  | react (reaction : c.Reaction)
  | executor (action : Port.Action)

def CallPhase.notified : Progress ⊕ Status → CallPhase
  | .inl progress => .notifying progress
  | .inr status => if status.ok then .returned else .refused status

/-- `ProcessOne` does not look at the status. -/
def RunPhase.notified : Progress ⊕ Status → RunPhase ω
  | .inl progress => .notifying progress
  | .inr _ => .returned

/-- The first section found work, or nothing to do. -/
def RunPhase.taken : Option ω → RunPhase ω
  | some work => .working work
  | none => .returned

/-- There is more to do with this piece of work, or it is finished. -/
def RunPhase.proceeded : Option ω → RunPhase ω
  | some work => .working work
  | none => .checking

variable {c : Component}

def System.arrive (s : System c) (input : c.Input) : System c × List c.Event :=
  let (state,notify,seen) := c.arrive s.state s.calls.length input
  ({ s with
    state := state
    calls := s.calls ++ [if notify then .notifying .requested else .returned] },seen)

def System.notify (s : System c) (call : Nat) : Option (System c) :=
  match s.calls[call]? with
  | some (.notifying progress) =>
    let (port,next) := s.port.enqueue progress
    some { s with port := port, calls := s.calls.set call (.notified next) }
  | _ => none

def System.refuse (s : System c) (call : Nat) : Option (System c × List c.Event) :=
  match s.calls[call]? with
  | some (.refused status) =>
    let (state,seen) := c.refused s.state call status
    some ({ s with state := state, calls := s.calls.set call .returned },seen)
  | _ => none

/-- The dispatch section of `WorkerLoop`; these tasks never drop a late job. -/
def System.dispatch (s : System c) (job : Nat) : Option (System c) :=
  match s.port.popped[job]? with
  | none => none
  | some groupStopping =>
    let port := { s.port with queued := s.port.queued - 1, popped := s.port.popped.eraseIdx job }
    if port.cancelled || groupStopping then some { s with port := port }
    else some { s with port := port, runs := s.runs ++ [.taking] }

def System.take (s : System c) (run : Nat) : Option (System c × List c.Event) :=
  match s.runs[run]? with
  | some .taking =>
    let (state,work,seen) := c.take s.state
    some ({ s with state := state, runs := s.runs.set run (.taken work) },seen)
  | _ => none

def System.proceed (s : System c) (run : Nat) (outcome : c.Outcome) : Option (System c × List c.Event) :=
  match s.runs[run]? with
  | some (.working work) =>
    match c.proceed s.state work outcome with
    | none => none
    | some (state,next,seen) =>
      some ({ s with state := state, runs := s.runs.set run (.proceeded next) },seen)
  | _ => none

def System.check (s : System c) (run : Nat) : Option (System c) :=
  match s.runs[run]? with
  | some .checking =>
    let (state,notify) := c.check s.state
    some { s with
      state := state
      runs := s.runs.set run (if notify then .notifying .requested else .returned) }
  | _ => none

def System.renotify (s : System c) (run : Nat) : Option (System c) :=
  match s.runs[run]? with
  | some (.notifying progress) =>
    let (port,next) := s.port.enqueue progress
    some { s with port := port, runs := s.runs.set run (.notified next) }
  | _ => none

/-- The caller has come back from `Notify`, or had no need of it. -/
def System.through (s : System c) (call : Nat) : Bool := s.calls[call]? = some .returned

/-- A step without events. -/
def quiet (next : Option (System c)) : Option (System c × List c.Event) := next.map (·,[])

def step (s : System c) : Action c → Option (System c × List c.Event)
  | .arrive input => some (s.arrive input)
  | .notify call => quiet (s.notify call)
  | .refuse call => s.refuse call
  | .dispatch job => quiet (s.dispatch job)
  | .take run => s.take run
  | .proceed run outcome => s.proceed run outcome
  | .check run => quiet (s.check run)
  | .renotify run => quiet (s.renotify run)
  | .close => let (state,seen) := c.close s.state; some ({ s with state := state },seen)
  | .cancel =>
    if c.closed s.state then some ({ s with port := { s.port with cancelled := true } },[]) else none
  | .react reaction =>
    (c.react s.state s.through reaction).map fun next => ({ s with state := next.1 },next.2)
  | .executor action => quiet ((s.port.step action).map fun port => { s with port := port })

def system (c : Component) : Machine (System c) (Action c) c.Event := ⟨step⟩

end Mailbox

end AutoRuntime
