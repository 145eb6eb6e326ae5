import AutoRuntime.MailboxTokens
import AutoRuntime.Service

/-! The calls of a service, followed through it. An observer keeps a ledger of what the
service itself forgets; with it every step moves one call from one place to the next, and
`Move` lists the moves. -/
namespace AutoRuntime.Service

open Mailbox

/-- Every `Invoke` with its arguments, the calls that an `Invoke` took back after its `Notify`
had failed, the status of that `Notify`, and what the handler did on which call. -/
structure Ledger where
  invocations : List Invocation := []
  withdrawn : List PendingCall := []
  refusals : List (Nat × Status) := []
  outcomes : List (PendingCall × HandlerOutcome) := []

def Ledger.record (s : System component) (action : Action component) (ledger : Ledger) : Ledger :=
  match action with
  | .arrive invocation => { ledger with invocations := ledger.invocations ++ [invocation] }
  | .refuse call =>
    match s.calls[call]? with
    | some (.refused status) =>
      { ledger with
        withdrawn := ledger.withdrawn ++ (s.state.queue.find? (·.id = call)).toList
        refusals := ledger.refusals ++ [(call,status)] }
    | _ => ledger
  | .proceed run outcome =>
    match s.runs[run]? with
    | some (.working (.serving call)) =>
      if call.deadline.expired outcome.now then ledger
      else { ledger with outcomes := ledger.outcomes ++ [(call,outcome.handler)] }
    | _ => ledger
  | _ => ledger

/-- What a `ProcessOne` is working on. -/
def RunPhase.work : RunPhase Work → Option Work
  | .working work => some work
  | .taking | .checking | .notifying _ | .returned => none

/-- The places a call can be in. -/
structure View where
  generation : UInt64
  closed : Bool
  queue : List PendingCall
  works : List Work
  taken : List PendingCall
  completions : List (Nat × Result Message)
  ledger : Ledger

def view (s : System component) (ledger : Ledger) : View :=
  ⟨s.state.generation,s.state.closed,s.state.queue,s.runs.filterMap RunPhase.work,s.state.taken,
    s.state.completions,ledger⟩

/-- What `ProcessOne` makes of the handler's outcome. -/
def HandlerOutcome.settle : HandlerOutcome → Result Bytes
  | .returned answer => answer
  | .threw => .error ⟨.internal,"service handler threw"⟩

/-- The statuses by which `Invoke` itself turns a caller away or gives up. -/
def declined : List Status :=
  [⟨.timeout,"service deadline expired"⟩,⟨.closed,"service is closed"⟩,
    ⟨.queueFull,"service queue is full"⟩,⟨.timeout,"service call timed out"⟩]

/-- The answer is the promise of the caller's own call, or comes from its `Invoke` or `Notify`. -/
def View.answers (v : View) (id : Nat) (answer : Result Message) : Prop :=
  (id,answer) ∈ v.completions ∨
    ∃ status, answer = .error status ∧ (status ∈ declined ∨ (id,status) ∈ v.ledger.refusals)

/-- The response that carries this payload. -/
inductive Delivers (generation : UInt64) (call : PendingCall) : Result Bytes → Result Message → Prop where
  | response {sequence : UInt64} : Delivers generation call (.ok payload)
      (.ok (buildMessage generation sequence payload call.request.continueTrace stamp))
  | failure : Delivers generation call (.error status) (.error status)

def serviceClosed : Result Message := .error ⟨.closed,"service closed"⟩

def requestExpired : Result Bytes := .error ⟨.timeout,"service request expired in queue"⟩

/-- One call moves, or none. -/
inductive Move (v : View) : View → List Event → Prop where
  | idle (returned : ∀ event ∈ seen, ∃ id answer, event = .returned id answer ∧ v.answers id answer) :
      Move v v seen
  | declined (known : status ∈ declined) : Move v
      { v with ledger := { v.ledger with invocations := v.ledger.invocations ++ [invocation] } }
      [.returned v.ledger.invocations.length (.error status)]
  | queued (open_ : v.closed = false) (room : v.queue.length < queueCapacity)
      (own : call = ⟨v.ledger.invocations.length,invocation.request,invocation.deadline⟩) :
      Move v
        { v with
          queue := v.queue ++ [call]
          ledger := { v.ledger with invocations := v.ledger.invocations ++ [invocation] } }
        [.queued call]
  | withdrawn (id : Nat) : Move v
      { v with
        queue := v.queue.eraseP (·.id = id)
        ledger := { v.ledger with
          withdrawn := v.ledger.withdrawn ++ (v.queue.find? (·.id = id)).toList
          refusals := v.ledger.refusals ++ [(id,status)] } }
      [.returned id (.error status)]
  | dequeued (front : v.queue = call :: rest) (works : later.Perm (.serving call :: v.works)) :
      Move v { v with queue := rest, works := later } [.dequeued call]
  | expired (works : (.serving call :: later).Perm (.answering call requestExpired :: v.works)) :
      Move v { v with works := later } []
  | handled (works : (.serving call :: later).Perm (.answering call outcome.settle :: v.works)) :
      Move v
        { v with
          works := later
          ledger := { v.ledger with outcomes := v.ledger.outcomes ++ [(call,outcome)] } }
        [.handled call]
  | completed (works : (.answering call answer :: later).Perm v.works)
      (delivers : Delivers v.generation call answer message) :
      Move v { v with works := later, completions := v.completions ++ [(call.id,message)] }
        [.completed call.id message]
  | closing (open_ : v.closed = false) :
      Move v { v with closed := true, queue := [], taken := v.queue } []
  | closed (front : v.taken = call :: rest) :
      Move v
        { v with taken := rest, completions := v.completions ++ [(call.id,serviceClosed)] }
        [.completed call.id serviceClosed]

/-- The observer has seen every `Invoke`. -/
def Aligned (s : System component) (ledger : Ledger) : Prop :=
  ledger.invocations.length = s.calls.length

theorem invoke_move (aligned : Aligned s ledger) (invocation : Invocation) (calls : List CallPhase) :
    Move (view s ledger)
      (view { s with state := (s.state.invoke s.calls.length invocation).1, calls := calls }
        { ledger with invocations := ledger.invocations ++ [invocation] })
      (s.state.invoke s.calls.length invocation).2.2 := by
  rw [← show ledger.invocations.length = s.calls.length from aligned]
  simp only [Impl.invoke]
  split
  · exact .declined (by simp [declined])
  split
  · exact .declined (by simp [declined])
  next open_ =>
    split
    · exact .declined (by simp [declined])
    next room => exact .queued (by simpa [view] using open_) (by simpa [view] using room) rfl

theorem take_move (s : System component) (ledger : Ledger) (active : s.runs[run]? = some .taking) :
    Move (view s ledger)
      (view { s with state := s.state.take.1, runs := s.runs.set run (.taken s.state.take.2.1) } ledger)
      s.state.take.2.2 := by
  simp only [Impl.take]
  split
  next call rest open_ front =>
    have works := Pool.filterMap_set_perm RunPhase.work s.runs active (.working (.serving call))
    exact .dequeued front works
  · have works := Pool.filterMap_set_same RunPhase.work s.runs active
      (rfl : RunPhase.work .returned = RunPhase.work .taking)
    simp only [view,RunPhase.taken,works]
    exact .idle (by simp)

theorem proceed_move (ledger : Ledger) (active : s.runs[run]? = some (.working work)) (outcome : Outcome) :
    Move (view s ledger)
      (view { s with
          state := (s.state.proceed work outcome).1
          runs := s.runs.set run (.proceeded (s.state.proceed work outcome).2.1) }
        (ledger.record s (.proceed run outcome)))
      (s.state.proceed work outcome).2.2 := by
  have works := Pool.filterMap_set_perm RunPhase.work s.runs active
  cases work with
  | serving call =>
    simp only [Ledger.record,active,Impl.proceed]
    split
    · exact .expired (works (.working (.answering call requestExpired)))
    · split
      next answer handler =>
        rw [handler]
        exact .handled (works (.working (.answering call answer)))
      next handler =>
        rw [handler]
        exact .handled (works (.working (.answering call (HandlerOutcome.settle .threw))))
  | answering =>
    simp only [Ledger.record,active,Impl.proceed]
    split
    · exact .completed (works .checking) .response
    · exact .completed (works .checking) .failure

theorem close_move (s : System component) (ledger : Ledger) :
    Move (view s ledger) (view { s with state := s.state.close.1 } ledger) s.state.close.2 := by
  simp only [Impl.close]
  split
  · exact .idle (by simp)
  next open_ => exact .closing (by simpa [view] using open_)

theorem react_move {s : System component} (reacted : s.state.react through reaction = some (state,seen)) :
    Move (view s ledger) (view { s with state := state } ledger) seen := by
  cases reaction <;> simp only [Impl.react] at reacted
  case complete id =>
    split at reacted
    next caller answer waiting promised =>
      split at reacted
      · cases reacted
        refine .idle fun event member => ⟨id,answer,List.mem_singleton.mp member,.inl ?_⟩
        obtain ⟨before,later,split,-⟩ := List.lookup_eq_some_iff.mp promised
        simp [view,split]
      · contradiction
    · contradiction
  case expire id now =>
    split at reacted
    · split at reacted
      · cases reacted
        refine .idle fun event member => ⟨id,_,List.mem_singleton.mp member,.inr ⟨_,rfl,.inl ?_⟩⟩
        simp [declined]
      · contradiction
    · contradiction
  case answerTaken =>
    split at reacted
    · contradiction
    next call rest front =>
      cases reacted
      exact .closed front

theorem runner_move {s : System component} {run : Nat} {new old : RunPhase Work}
    (active : s.runs[run]? = some old) (same : RunPhase.work new = RunPhase.work old) (port : Port)
    (scheduled : Bool) :
    Move (view s ledger)
      (view { s with
        state := { s.state with scheduled := scheduled }, port := port, runs := s.runs.set run new } ledger)
      [] := by
  have works := Pool.filterMap_set_same RunPhase.work s.runs active same
  simp only [view,works]
  exact .idle (by simp)

theorem check_scheduled (s : Impl) : s.check.1 = { s with scheduled := s.check.1.scheduled } := by
  simp only [Impl.check]
  split <;> rfl

/-- Every step of a service is one move of one call, or none. -/
theorem step_move (aligned : Aligned s ledger)
    (stepped : Mailbox.step s action = some (t,seen)) :
    Move (view s ledger) (view t (ledger.record s action)) seen := by
  cases step_took stepped with
  | arrived invocation => exact invoke_move aligned invocation _
  | @refused call status active =>
    simp only [Ledger.record,active]
    exact .withdrawn call
  | took active => exact take_move s ledger active
  | @proceeded run work outcome state next seen active proceeded =>
    have moved := proceed_move ledger active outcome
    rw [Option.some.inj proceeded] at moved
    exact moved
  | closed => exact close_move s ledger
  | reacted reacted => exact react_move reacted
  | dispatched =>
    have works : (s.runs ++ [RunPhase.taking]).filterMap RunPhase.work = s.runs.filterMap RunPhase.work := by
      simp [RunPhase.work]
    simp only [view,works]
    exact .idle (by simp)
  | checked active =>
    rw [check_scheduled]
    refine runner_move active ?_ s.port _
    split <;> rfl
  | @renotified run progress port next active _ =>
    refine runner_move active ?_ port s.state.scheduled
    cases next <;> rfl
  | notified | discarded | cancelled | executor => exact .idle (by simp)

theorem step_aligned (aligned : Aligned s ledger) (stepped : Mailbox.step s action = some (t,seen)) :
    Aligned t (ledger.record s action) := by
  cases step_took stepped with
  | arrived | notified => simpa [Aligned,Ledger.record] using aligned
  | refused active => simpa [Aligned,Ledger.record,active] using aligned
  | @proceeded _ work _ _ _ _ active =>
    cases work with
    | serving => 
      simp only [Ledger.record,active]
      split <;> exact aligned
    | answering => simpa [Aligned,Ledger.record,active] using aligned
  | _ => exact aligned

end AutoRuntime.Service
