import AutoRuntime.Mailbox
import AutoRuntime.Message

/-! A service: calls wait in a bounded queue for a handler that runs on the executor, and every
caller waits for the promise of its own call. -/
namespace AutoRuntime.Service

/-- A call is known by the index of its `Invoke`. -/
structure PendingCall where
  id : Nat
  request : Message
  deadline : Deadline
  deriving DecidableEq, Repr

/-- `waiting` are the callers that have queued their call and not returned; `completions` are
the promises that are set; `taken` are the calls that `Close` has taken and not answered yet. -/
structure Impl where
  closed : Bool
  scheduled : Bool
  queue : List PendingCall
  generation : UInt64
  responseSequence : UInt64
  waiting : List PendingCall
  completions : List (Nat × Result Message)
  taken : List PendingCall

def queueCapacity : Nat := 64

inductive Event where
  | queued (call : PendingCall)
  | returned (id : Nat) (answer : Result Message)
  | dequeued (call : PendingCall)
  | handled (call : PendingCall)
  | completed (id : Nat) (answer : Result Message)

structure Invocation where
  request : Message
  deadline : Deadline
  now : Int

/-- The handler returns or throws. -/
inductive HandlerOutcome where
  | returned (answer : Result Bytes)
  | threw

/-- `ProcessOne` between its first section and its last. -/
inductive Work where
  | serving (call : PendingCall)
  | answering (call : PendingCall) (answer : Result Bytes)

/-- What `ProcessOne` meets outside the lock: the clock, the handler, and the stamps for an
answer. -/
structure Outcome where
  now : Int
  handler : HandlerOutcome
  stamp : Stamp

inductive Reaction where
  | complete (id : Nat)
  | expire (id : Nat) (now : Int)
  | answerTaken

def Impl.new (generation : UInt64) : Impl := ⟨false,false,[],generation,0,[],[],[]⟩

/-- `Invoke` up to the end of its section. -/
def Impl.invoke (s : Impl) (id : Nat) (invocation : Invocation) : Impl × Bool × List Event :=
  if invocation.deadline.expired invocation.now then
    (s,false,[.returned id (.error ⟨.timeout,"service deadline expired"⟩)])
  else if s.closed then (s,false,[.returned id (.error ⟨.closed,"service is closed"⟩)])
  else if s.queue.length ≥ queueCapacity then
    (s,false,[.returned id (.error ⟨.queueFull,"service queue is full"⟩)])
  else
    let call : PendingCall := ⟨id,invocation.request,invocation.deadline⟩
    ({ s with scheduled := true, queue := s.queue ++ [call], waiting := s.waiting ++ [call] },
      !s.scheduled,[.queued call])

/-- The executor has refused the notification of this call. -/
def Impl.refused (s : Impl) (id : Nat) (status : Status) : Impl × List Event :=
  let queue := s.queue.eraseP (·.id = id)
  ({ s with
    scheduled := if queue.isEmpty then false else s.scheduled
    queue := queue
    waiting := s.waiting.eraseP (·.id = id) },[.returned id (.error status)])

def Impl.take (s : Impl) : Impl × Option Work × List Event :=
  match s.closed, s.queue with
  | false, call :: rest => ({ s with queue := rest },some (.serving call),[.dequeued call])
  | _, _ => ({ s with scheduled := false },none,[])

/-- The promise of a call is set. -/
def Impl.complete (s : Impl) (id : Nat) (answer : Result Message) : Impl :=
  { s with completions := s.completions ++ [(id,answer)] }

def Impl.proceed (s : Impl) : Work → Outcome → Impl × Option Work × List Event
  | .serving call, outcome =>
    if call.deadline.expired outcome.now then
      (s,some (.answering call (.error ⟨.timeout,"service request expired in queue"⟩)),[])
    else
      match outcome.handler with
      | .returned answer => (s,some (.answering call answer),[.handled call])
      | .threw =>
        (s,some (.answering call (.error ⟨.internal,"service handler threw"⟩)),[.handled call])
  | .answering call answer, outcome =>
    match answer with
    | .ok payload =>
      let response := buildMessage s.generation s.responseSequence payload call.request.continueTrace
        outcome.stamp
      ({ s with responseSequence := s.responseSequence + 1 }.complete call.id (.ok response),none,
        [.completed call.id (.ok response)])
    | .error status => (s.complete call.id (.error status),none,[.completed call.id (.error status)])

def Impl.check (s : Impl) : Impl × Bool :=
  if s.closed || s.queue.isEmpty then ({ s with scheduled := false },false) else (s,true)

def Impl.close (s : Impl) : Impl × List Event :=
  if s.closed then (s,[])
  else ({ s with closed := true, scheduled := false, queue := [], taken := s.queue },[])

/-- A caller returns with its answer or gives up, or `Close` answers the next call it has taken. -/
def Impl.react (s : Impl) (through : Nat → Bool) : Reaction → Option (Impl × List Event)
  | .complete id =>
    match s.waiting.find? (·.id = id), s.completions.lookup id with
    | some _, some answer =>
      if through id then
        some ({ s with waiting := s.waiting.eraseP (·.id = id) },[.returned id answer])
      else none
    | _, _ => none
  | .expire id now =>
    match s.waiting.find? (·.id = id), s.completions.lookup id with
    | some call, none =>
      if through id && call.deadline.expired now then
        some ({ s with waiting := s.waiting.eraseP (·.id = id) },
          [.returned id (.error ⟨.timeout,"service call timed out"⟩)])
      else none
    | _, _ => none
  | .answerTaken =>
    match s.taken with
    | [] => none
    | call :: rest =>
      let answer : Result Message := .error ⟨.closed,"service closed"⟩
      some ({ s with taken := rest }.complete call.id answer,[.completed call.id answer])

theorem invoke_flags (s : Impl) (id : Nat) (invocation : Invocation) :
    (s.invoke id invocation).1.closed = s.closed ∧
    ((s.invoke id invocation).2.1 = true →
      s.closed = false ∧ s.scheduled = false ∧ (s.invoke id invocation).1.scheduled = true) ∧
    ((s.invoke id invocation).2.1 = false → (s.invoke id invocation).1.scheduled = s.scheduled) := by
  simp only [Impl.invoke]
  split
  · simp
  split
  · simp
  next open_ =>
    split
    · simp
    · cases s.scheduled <;> simp [open_]

theorem take_flags (s : Impl) : s.take.1.closed = s.closed ∧
    (s.take.2.1 = none → s.take.1.scheduled = false) ∧
    (∀ work, s.take.2.1 = some work → s.take.1.scheduled = s.scheduled) := by
  simp only [Impl.take]
  split <;> simp

theorem proceed_flags (s : Impl) (work : Work) (outcome : Outcome) :
    (s.proceed work outcome).1.scheduled = s.scheduled ∧
      (s.proceed work outcome).1.closed = s.closed := by
  simp only [Impl.proceed]
  cases work with
  | serving =>
    dsimp only
    split
    · exact ⟨rfl,rfl⟩
    · split <;> exact ⟨rfl,rfl⟩
  | answering call answer => cases answer <;> exact ⟨rfl,rfl⟩

theorem check_flags (s : Impl) : s.check.1.closed = s.closed ∧
    (s.check.2 = true → s.check.1.scheduled = s.scheduled) ∧
    (s.check.2 = false → s.check.1.scheduled = false) := by
  simp only [Impl.check]
  split <;> simp

theorem close_closed (s : Impl) : s.close.1.closed = true := by
  simp only [Impl.close]
  split
  next closed => exact closed
  · rfl

theorem react_flags {s : Impl} (reacted : s.react through reaction = some (t,seen)) :
    t.scheduled = s.scheduled ∧ t.closed = s.closed := by
  simp only [Impl.react] at reacted
  split at reacted <;> split at reacted <;> try split at reacted
  all_goals
    first
    | contradiction
    | cases reacted
      exact ⟨rfl,rfl⟩

abbrev component : Component where
  State := Impl
  Input := Invocation
  Work := Work
  Outcome := Outcome
  Reaction := Reaction
  Event := Event
  scheduled := Impl.scheduled
  closed := Impl.closed
  arrive := Impl.invoke
  refused := Impl.refused
  take := Impl.take
  proceed := fun s work outcome => some (s.proceed work outcome)
  check := Impl.check
  close := Impl.close
  react := Impl.react
  arrive_closed := (invoke_flags _ _ _).1
  arrive_notifies := (invoke_flags _ _ _).2.1
  arrive_quiet := (invoke_flags _ _ _).2.2
  refused_closed := rfl
  take_closed := (take_flags _).1
  take_nothing := (take_flags _).2.1
  take_work := (take_flags _).2.2 _
  proceed_flags := fun {s work outcome t next seen} proceeded => by
    obtain rfl : (s.proceed work outcome).1 = t := congrArg Prod.fst (Option.some.inj proceeded)
    exact proceed_flags s work outcome
  check_closed := (check_flags _).1
  check_notifies := (check_flags _).2.1
  check_quiet := (check_flags _).2.2
  close_closed := close_closed _
  react_flags := react_flags

/-- A service as `CreateService` leaves it. -/
def created (generation : UInt64) (running : Bool) (others groupCapacity : Nat) :
    Mailbox.System component :=
  ⟨Impl.new generation,.added running others groupCapacity,[],[]⟩

end AutoRuntime.Service
