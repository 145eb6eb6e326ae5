import AutoRuntime.Loan
import AutoRuntime.SubscriptionCalls

/-! `LoanedSubscriber`: the subscription at its other element type. Its messages are handles, and
a backend is released by whichever destructor or assignment the handle ends in: the parameter of
`Accept`, an element of the queue, or the local of `ProcessOne`. -/
namespace AutoRuntime.LoanedSubscriber

open Loan Subscription

structure LoanedMessage (γ : Type) where
  sample : TransportSubscriberSample γ := {}
  deriving DecidableEq, Repr

/-- What the subscription does, and what its handles do to the backends. -/
inductive Event (γ : Type) where
  | noted (event : Subscription.Event (LoanedMessage γ))
  | backend (event : Loan.Event Empty γ)
  deriving DecidableEq, Repr

namespace LoanedMessage

/-- The parameter is moved into the member and dies empty. -/
def construct (parameter : TransportSubscriberSample γ) (answer : Status) : LoanedMessage γ × List (Event γ) :=
  let (sample,left) := parameter.moveConstruct
  (⟨sample⟩,(left.destroy answer).map .backend)

def moveAssign (target source : LoanedMessage γ) (answer : Status) :
    LoanedMessage γ × LoanedMessage γ × List (Event γ) :=
  let (new,left,calls) := target.sample.moveAssign source.sample answer
  (⟨new⟩,⟨left⟩,calls.map .backend)

def destroy (message : LoanedMessage γ) (answer : Status) : List (Event γ) :=
  (message.sample.destroy answer).map .backend

end LoanedMessage

def popFront (queue : List (LoanedMessage γ)) (answer : Status) : List (LoanedMessage γ) × List (Event γ) :=
  match queue with
  | [] => ([],[])
  | front :: rest => (rest,front.destroy answer)

/-- `queue.emplace_back(std::move(sample))`: the queue, what is left of the sample, and the calls. -/
def emplaceBack (queue : List (LoanedMessage γ)) (sample : TransportSubscriberSample γ) (answer : Status) :
    List (LoanedMessage γ) × TransportSubscriberSample γ × List (Event γ) :=
  let (parameter,left) := sample.moveConstruct
  let (message,calls) := LoanedMessage.construct parameter answer
  (queue ++ [message],left,calls)

def clear (queue : List (LoanedMessage γ)) (answer : Status) : List (Event γ) :=
  queue.flatMap fun message => message.destroy answer

/-- The end of `Accept`'s section. -/
def enqueue (s : Impl (LoanedMessage γ)) (sample : TransportSubscriberSample γ) (answer : Status) :
    Impl (LoanedMessage γ) × Bool × TransportSubscriberSample γ × List (Event γ) :=
  let (queue,left,calls) := emplaceBack s.queue sample answer
  ({ s with
    scheduled := true
    queue := queue
    stats := { s.stats with
      queueDepth := queue.length
      queueHighWatermark := max s.stats.queueHighWatermark queue.length } },!s.scheduled,left,calls)

/-- The section of `Accept`, with what it leaves in its parameter. -/
def accept (s : Impl (LoanedMessage γ)) (sample : TransportSubscriberSample γ) (answer : Status) :
    Impl (LoanedMessage γ) × Bool × TransportSubscriberSample γ × List (Event γ) :=
  if s.closed then (s,false,sample,[.noted (.arrived ⟨sample⟩ .ignored)])
  else
    let received := { s.stats with receivedMessages := s.stats.receivedMessages + 1 }
    if s.full then
      let dropped := { received with droppedMessages := received.droppedMessages + 1 }
      match s.options.overflowPolicy, s.queue with
      | .dropOldest, oldest :: _ =>
        let (queue,popped) := popFront s.queue answer
        let (t,notify,left,calls) := enqueue { s with queue := queue, stats := dropped } sample answer
        (t,notify,left,.noted (.arrived ⟨sample⟩ (.evicting oldest)) :: (popped ++ calls))
      | _, _ => ({ s with stats := dropped },false,sample,[.noted (.arrived ⟨sample⟩ .dropped)])
    else
      let (t,notify,left,calls) := enqueue { s with stats := received } sample answer
      (t,notify,left,.noted (.arrived ⟨sample⟩ .queued) :: calls)

/-- The first section of `ProcessOne`: its local takes the front over, which is popped empty. -/
def take (s : Impl (LoanedMessage γ)) (message : LoanedMessage γ) (answer : Status) :
    Impl (LoanedMessage γ) × Bool × LoanedMessage γ × List (Event γ) :=
  match s.closed, s.queue with
  | false, front :: rest =>
    let (taken,left,calls) := message.moveAssign front answer
    let (queue,popped) := popFront (left :: rest) answer
    ({ s with queue := queue, stats := { s.stats with queueDepth := queue.length } },true,taken,
      .noted (.delivered taken) :: (calls ++ popped))
  | _, _ => ({ s with scheduled := false },false,message,[])

def close (s : Impl (LoanedMessage γ)) (answer : Status) : Impl (LoanedMessage γ) × List (Event γ) :=
  if s.closed then (s,[])
  else
    ({ s with closed := true, scheduled := false, queue := [], stats := { s.stats with queueDepth := 0 } },
      .noted (.closed s.queue) :: clear s.queue answer)

inductive AcceptPhase where
  | entering | notifying | resetting | leaving
  deriving DecidableEq, Repr

inductive ProcessPhase where
  | taking | calling | caught | counting | checking | renotifying | leaving
  deriving DecidableEq, Repr

/-- A call in progress, with the handle that lives in its frame. -/
inductive Frame (γ : Type) where
  | accept (phase : AcceptPhase) (sample : TransportSubscriberSample γ)
  | processOne (phase : ProcessPhase) (message : LoanedMessage γ)
  | returned
  deriving DecidableEq, Repr

/-- The rest of a call up to the end of its next section; the last stretch destroys its handle. -/
def advance (s : Impl (LoanedMessage γ)) (choice : Bool) (answer : Status) :
    Frame γ → Option (Impl (LoanedMessage γ) × Frame γ × List (Event γ))
  | .accept .entering sample =>
    let (t,notify,left,seen) := accept s sample answer
    some (t,.accept (if notify then .notifying else .leaving) left,seen)
  | .accept .notifying sample => some (s,.accept (if choice then .resetting else .leaving) sample,[])
  | .accept .resetting sample => some (s.refused,.accept .leaving sample,[])
  | .accept .leaving sample => some (s,.returned,(sample.destroy answer).map .backend)
  | .processOne .taking message =>
    let (t,found,taken,seen) := take s message answer
    some (t,.processOne (if found then .calling else .leaving) taken,seen)
  | .processOne .calling message =>
    some (s,.processOne (if choice then .caught else .counting) message,[.noted (.finished message choice)])
  | .processOne .caught message => some ((s.proceed .failed choice).1,.processOne .counting message,[])
  | .processOne .counting message => some ((s.proceed .counting choice).1,.processOne .checking message,[])
  | .processOne .checking message =>
    let (t,notify) := s.check
    some (t,.processOne (if notify then .renotifying else .leaving) message,[])
  | .processOne .renotifying message => some (s,.processOne .leaving message,[])
  | .processOne .leaving message => some (s,.returned,message.destroy answer)
  | .returned => none

/-- The backends are those that a sample has brought. -/
structure System (γ : Type) where
  state : Impl (LoanedMessage γ)
  frames : List (Frame γ)
  backends : List γ

def created (options : SubscriptionOptions) : System γ := ⟨Impl.new options,[],[]⟩

inductive Action (γ : Type) where
  | accept (sample : TransportSubscriberSample γ)
  | processOne
  | advance (call : Nat) (choice : Bool) (answer : Status)
  | close (answer : Status)
  deriving DecidableEq, Repr

section Step

variable [DecidableEq γ]

def step (s : System γ) : Action γ → Option (System γ × List (Event γ))
  | .accept sample =>
    if sample.backend.all fun backend => decide (backend ∉ s.backends) then
      some ({ s with
        frames := s.frames ++ [.accept .entering sample]
        backends := s.backends ++ sample.backend.toList },[])
    else none
  | .processOne => some ({ s with frames := s.frames ++ [.processOne .taking {}] },[])
  | .advance call choice answer =>
    match s.frames[call]? with
    | none => none
    | some frame =>
      match advance s.state choice answer frame with
      | none => none
      | some (t,next,seen) => some ({ s with state := t, frames := s.frames.set call next },seen)
  | .close answer =>
    let (t,seen) := close s.state answer
    some ({ s with state := t },seen)

def system (γ : Type) [DecidableEq γ] : Machine (System γ) (Action γ) (Event γ) := ⟨step⟩

end Step

section Refinement

theorem enqueue_push (s : Impl (LoanedMessage γ)) (sample : TransportSubscriberSample γ) (answer : Status) :
    enqueue s sample answer = ((s.push ⟨sample⟩).1,(s.push ⟨sample⟩).2,⟨sample.envelope,none⟩,[]) := rfl

/-- What the subscription does, without the handles. -/
def noted (history : List (Event γ)) : List (Subscription.Event (LoanedMessage γ)) := history.filterMap fun
  | .noted event => some event
  | .backend _ => none

theorem noted_backend (calls : List (Loan.Event Empty γ)) : noted (calls.map Event.backend) = [] := by
  simp [noted]

theorem noted_append (first second : List (Event γ)) : noted (first ++ second) = noted first ++ noted second :=
  List.filterMap_append

@[simp] theorem noted_cons (event : Subscription.Event (LoanedMessage γ)) (rest : List (Event γ)) :
    noted (.noted event :: rest) = event :: noted rest := rfl

theorem accept_refines (s : Impl (LoanedMessage γ)) (sample : TransportSubscriberSample γ) (answer : Status) :
    (accept s sample answer).1 = (s.accept ⟨sample⟩).1 ∧ (accept s sample answer).2.1 = (s.accept ⟨sample⟩).2.1 ∧
      noted (accept s sample answer).2.2.2 = (s.accept ⟨sample⟩).2.2 := by
  cases closed : s.closed with
  | true => simp [accept,Impl.accept,closed,noted]
  | false =>
    cases full : s.full with
    | false => simp [accept,Impl.accept,closed,full,enqueue_push,noted]
    | true =>
      cases policy : s.options.overflowPolicy with
      | dropNewest => simp [accept,Impl.accept,closed,full,policy,noted]
      | dropOldest =>
        cases queue : s.queue with
        | nil => simp [accept,Impl.accept,closed,full,queue,noted]
        | cons =>
          simp [accept,Impl.accept,closed,full,policy,queue,popFront,enqueue_push,LoanedMessage.destroy,noted_backend]

theorem take_refines (s : Impl (LoanedMessage γ)) (message : LoanedMessage γ) (answer : Status) :
    (take s message answer).1 = s.take.1 ∧ noted (take s message answer).2.2.2 = s.take.2.2 ∧
      s.take.2.1 = if (take s message answer).2.1 then some (.callback (take s message answer).2.2.1) else none := by
  cases closed : s.closed with
  | true => simp [take,Impl.take,closed,noted]
  | false =>
    cases queue : s.queue with
    | nil => simp [take,Impl.take,queue,noted]
    | cons =>
      simp [take,Impl.take,closed,queue,popFront,noted_append,noted_backend,LoanedMessage.moveAssign,
        LoanedMessage.destroy,TransportSubscriberSample.moveAssign]

theorem close_refines (s : Impl (LoanedMessage γ)) (answer : Status) :
    (close s answer).1 = s.close.1 ∧ noted (close s answer).2 = s.close.2 := by
  have silent (queue : List (LoanedMessage γ)) : noted (clear queue answer) = [] := by
    induction queue with
    | nil => rfl
    | cons message rest ih =>
      simp only [clear,List.flatMap_cons,noted_append] at ih ⊢
      rw [ih,List.append_nil]
      exact noted_backend _
  simp only [close,Impl.close]
  split
  · exact ⟨rfl,rfl⟩
  · exact ⟨rfl,congrArg (List.cons _) (silent s.queue)⟩

/-- The call as `Subscriber` would see it. A call that has only its handle left to destroy is over. -/
def Frame.call : Frame γ → Subscription.Frame (LoanedMessage γ)
  | .accept .entering sample => .accepting ⟨sample⟩
  | .accept .notifying _ => .notifying
  | .accept .resetting _ => .resetting
  | .processOne .taking _ => .taking
  | .processOne .calling message => .working (.callback message)
  | .processOne .caught _ => .working .failed
  | .processOne .counting _ => .working .counting
  | .processOne .checking _ => .checking
  | .processOne .renotifying _ => .renotifying
  | .accept .leaving _ | .processOne .leaving _ | .returned => .returned

theorem advance_refines {s t : Impl (LoanedMessage γ)} {frame next : Frame γ}
    (advanced : advance s choice answer frame = some (t,next,seen)) :
    Calls.advance s choice frame.call = some (t,next.call,noted seen) ∨
      t = s ∧ next.call = frame.call ∧ noted seen = [] := by
  cases frame with
  | accept phase sample =>
    cases phase with
    | entering =>
      simp only [advance] at advanced
      obtain ⟨rfl,rfl,rfl⟩ := advanced
      obtain ⟨state,notify,events⟩ := accept_refines s sample answer
      refine .inl ?_
      simp only [Frame.call,Calls.advance,state,notify,events]
      cases (s.accept ⟨sample⟩).2.1 <;> rfl
    | notifying =>
      cases advanced
      cases choice <;> exact .inl rfl
    | resetting =>
      cases advanced
      exact .inl rfl
    | leaving =>
      cases advanced
      exact .inr ⟨rfl,rfl,noted_backend _⟩
  | processOne phase message =>
    cases phase with
    | taking =>
      simp only [advance] at advanced
      obtain ⟨rfl,rfl,rfl⟩ := advanced
      obtain ⟨state,events,work⟩ := take_refines s message answer
      refine .inl ?_
      simp only [Calls.advance,state,events,work]
      cases (take s message answer).2.1 <;> rfl
    | calling =>
      cases advanced
      cases choice <;> exact .inl rfl
    | caught | counting | renotifying =>
      cases advanced
      exact .inl rfl
    | checking =>
      simp only [advance] at advanced
      obtain ⟨rfl,rfl,rfl⟩ := advanced
      refine .inl ?_
      simp only [Calls.advance]
      cases s.check.2 <;> rfl
    | leaving =>
      cases advanced
      exact .inr ⟨rfl,rfl,noted_backend _⟩
  | returned => contradiction

def System.calls (s : System γ) : Calls (LoanedMessage γ) := ⟨s.state,s.frames.map Frame.call⟩

variable [DecidableEq γ]

theorem step_refines {s t : System γ} (stepped : step s action = some (t,seen)) :
    (∃ called, Calls.step s.calls called = some (t.calls,noted seen)) ∨ t.calls = s.calls ∧ noted seen = [] := by
  cases action with
  | accept sample =>
    simp only [step] at stepped
    split at stepped
    next fresh =>
      cases stepped
      exact .inl ⟨.accept ⟨sample⟩,by simp [Calls.step,System.calls,Frame.call,noted]⟩
    next => contradiction
  | processOne =>
    cases stepped
    exact .inl ⟨.processOne,by simp [Calls.step,System.calls,Frame.call,noted]⟩
  | advance call choice =>
    simp only [step] at stepped
    split at stepped
    · contradiction
    next frame active =>
      split at stepped
      · contradiction
      next u next emitted advanced =>
        cases stepped
        rcases advance_refines advanced with taken | ⟨rfl,same,silent⟩
        · refine .inl ⟨.advance call choice,?_⟩
          simp [Calls.step,System.calls,active,taken]
        · refine .inr ⟨?_,silent⟩
          simp only [System.calls]
          rw [Pool.map_set_same Frame.call s.frames active same]
  | close answer =>
    simp only [step] at stepped
    obtain ⟨rfl,rfl⟩ := stepped
    obtain ⟨state,events⟩ := close_refines s.state answer
    exact .inl ⟨.close,by simp [Calls.step,System.calls,state,events]⟩

/-- Whatever happens to a `LoanedSubscriber` could happen to a `Subscriber` of the same messages. -/
theorem run_refines {s : System γ} (ran : (system γ).run (created options) actions = some (s,history)) :
    ∃ called, (calls (LoanedMessage γ)).run (idle options) called = some (s.calls,noted history) := by
  refine Machine.run_invariant (motive := fun (s : System γ) history =>
    ∃ called, (calls (LoanedMessage γ)).run (idle options) called = some (s.calls,noted history)) ?_ ⟨[],rfl⟩ ran
  rintro s history action t seen ⟨called,reached⟩ stepped
  rw [noted_append]
  rcases step_refines stepped with ⟨next,taken⟩ | ⟨same,silent⟩
  · exact ⟨called ++ [next],Machine.run_concat reached taken⟩
  · exact ⟨called,by rw [same,silent,List.append_nil]; exact reached⟩

/-- A sample waits for its callback when the subscription closes, and the next one is refused. -/
def closingRun : List (Action Nat) :=
  [.accept ⟨{},some 1⟩,.advance 0 false .success,.processOne,.close .success,.advance 1 false .success,
    .accept ⟨{},some 2⟩,.advance 2 false .success,.advance 2 false .success]

theorem run_refines_closing : ∃ s history called, (system Nat).run (created ⟨1,.dropOldest,Nat.one_pos⟩) closingRun =
      some (s,history) ∧ s.calls.frames = [.notifying,.returned,.returned] ∧
    (calls (LoanedMessage Nat)).run (idle ⟨1,.dropOldest,Nat.one_pos⟩) called = some (s.calls,noted history) := by
  have ran : (system Nat).run (created ⟨1,.dropOldest,Nat.one_pos⟩) closingRun = some _ := rfl
  obtain ⟨called,matched⟩ := run_refines ran
  exact ⟨_,_,called,ran,rfl,matched⟩

end Refinement

end AutoRuntime.LoanedSubscriber
