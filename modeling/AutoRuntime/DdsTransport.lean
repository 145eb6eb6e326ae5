import AutoRuntime.Machine
import AutoRuntime.Status
import AutoRuntime.Table

/-! The lock of the DDS transport. Every operation is a section under the transport mutex;
receiver threads run subscription callbacks, and a callback may publish on the same
transport. What DDS itself answers comes with the action. -/
namespace AutoRuntime.DdsTransport

inductive Thread where
  | caller (index : Nat)
  | receiver (index : Nat)
  deriving DecidableEq, Repr

inductive Operation where
  | publish
  | subscribe
  | unsubscribe (subscriptionId : Nat)
  | close
  deriving DecidableEq, Repr

/-- Where a call stands: at the mutex, in its section, in the join of `Unsubscribe`, which is
part of the section, or in the two loops of `Close` after it. -/
inductive Phase where
  | waiting
  | holding
  | joining (receiver : Nat)
  | stopping (receivers : List Nat)
  | draining (receivers : List Nat)
  | returned
  deriving DecidableEq, Repr

structure Call where
  operation : Operation
  phase : Phase
  deriving DecidableEq, Repr

/-- Where a receive loop stands: before its sample buffer, at the stop flag, in `dds_take`, in
the callback, in a `Publish` of the callback at the mutex or in its section, or past its end. -/
inductive ReceiverPhase where
  | starting | checking | taking | callback | waiting | holding | exited
  deriving DecidableEq, Repr

structure Receiver where
  phase : ReceiverPhase
  stopRequested : Bool
  deriving DecidableEq, Repr

structure System where
  mutex : Option Thread
  closed : Bool
  nextSubscriptionId : Nat
  subscriptions : Table Nat Nat
  receivers : List Receiver
  calls : List Call

def initial : System := ⟨none,false,1,∅,[],[]⟩

inductive Event where
  | returned (call : Nat) (status : Status)
  | subscribed (call : Nat) (subscriptionId : Nat)
  | published (receiver : Nat) (status : Status)
  deriving DecidableEq, Repr

/-- How far `Subscribe` comes: the entities cannot be made, the thread cannot, or all is well. -/
inductive Creation where
  | failed (status : Status)
  | unstarted
  | started
  deriving DecidableEq, Repr

/-- What `dds_take` finds: no sample or an error, a sample that fails the checks, one for the
callback, or a deleted reader. -/
inductive Taken where
  | nothing | rejected | accepted | deleted
  deriving DecidableEq, Repr

def Taken.next : Taken → ReceiverPhase
  | .nothing | .rejected => .checking
  | .accepted => .callback
  | .deleted => .exited

/-- What DDS answers to a section, and the order in which `Close` finds the subscriptions. -/
structure Outcome where
  status : Status
  creation : Creation
  order : Table.Order Nat Nat

inductive Action where
  | call (operation : Operation)
  | acquire (thread : Thread)
  | finish (thread : Thread) (outcome : Outcome)
  | stop (call : Nat)
  | join (call : Nat) (status : Status)
  | start (receiver : Nat) (allocated : Bool)
  | look (receiver : Nat)
  | take (receiver : Nat) (taken : Taken)
  | publish (receiver : Nat)
  | resume (receiver : Nat)

def transportClosed : Status := ⟨.closed,"DDS transport is closed"⟩

def System.setCall (s : System) (index : Nat) (call : Call) (phase : Phase) : System :=
  { s with calls := s.calls.set index { call with phase := phase } }

def System.setReceiver (s : System) (index : Nat) (receiver : Receiver) (phase : ReceiverPhase) : System :=
  { s with receivers := s.receivers.set index { receiver with phase := phase } }

def Receiver.requestStop (receiver : Receiver) : Receiver := { receiver with stopRequested := true }

/-- The mutex goes free and the call returns. -/
def System.leave (s : System) (index : Nat) (call : Call) (status : Status) : System × List Event :=
  ({ s.setCall index call .returned with mutex := none },[.returned index status])

def System.publish (s : System) (outcome : Outcome) : Status :=
  if s.closed then transportClosed else outcome.status

def System.subscribe (s : System) (index : Nat) (call : Call) (outcome : Outcome) : System × List Event :=
  if s.closed then s.leave index call transportClosed
  else
    match outcome.creation with
    | .failed status => s.leave index call status
    | .unstarted => { s with nextSubscriptionId := s.nextSubscriptionId + 1 }.leave index call
        ⟨.internal,"failed to start DDS receive thread"⟩
    | .started =>
      ({ s.setCall index call .returned with
        mutex := none
        nextSubscriptionId := s.nextSubscriptionId + 1
        subscriptions := s.subscriptions.insert s.nextSubscriptionId s.receivers.length
        receivers := s.receivers ++ [⟨.starting,false⟩] },[.subscribed index s.nextSubscriptionId])

/-- `Unsubscribe` requests the stop and goes on to join with the mutex in its hands. -/
def System.unsubscribe (s : System) (index : Nat) (call : Call) (subscriptionId : Nat) :
    System × List Event :=
  if s.closed then s.leave index call transportClosed
  else
    match s.subscriptions.lookup subscriptionId with
    | none => s.leave index call ⟨.notFound,"DDS subscription was not found"⟩
    | some receiver =>
      ({ s.setCall index call (.joining receiver) with
        subscriptions := s.subscriptions.erase subscriptionId
        receivers := s.receivers.modify receiver Receiver.requestStop },[])

/-- `Close` takes the subscriptions and lets the mutex go. -/
def System.close (s : System) (index : Nat) (call : Call) (outcome : Outcome) : System × List Event :=
  if s.closed then s.leave index call .success
  else
    let receivers := (outcome.order.arrange s.subscriptions.entries).map (·.2)
    ({ s.setCall index call (.stopping receivers) with
      mutex := none, closed := true, subscriptions := ∅ },[])

def System.finish (s : System) (index : Nat) (call : Call) (outcome : Outcome) : System × List Event :=
  match call.operation with
  | .publish => s.leave index call (s.publish outcome)
  | .subscribe => s.subscribe index call outcome
  | .unsubscribe subscriptionId => s.unsubscribe index call subscriptionId
  | .close => s.close index call outcome

def System.exited (s : System) (receiver : Nat) : Bool :=
  s.receivers[receiver]?.any (·.phase = .exited)

def System.join (s : System) (index : Nat) (call : Call) (status : Status) : Option (System × List Event) :=
  match call.phase with
  | .joining receiver => if s.exited receiver then some (s.leave index call status) else none
  | .draining [] => some (s.setCall index call .returned,[.returned index status])
  | .draining (receiver :: rest) =>
    if s.exited receiver then some (s.setCall index call (.draining rest),[]) else none
  | _ => none

/-- A step of a receive loop from one place to the next. -/
def System.proceed (s : System) (index : Nat) (place : ReceiverPhase) (next : Receiver → ReceiverPhase) :
    Option (System × List Event) :=
  match s.receivers[index]? with
  | some receiver =>
    if receiver.phase = place then some (s.setReceiver index receiver (next receiver),[]) else none
  | none => none

def step (s : System) : Action → Option (System × List Event)
  | .call operation => some ({ s with calls := s.calls ++ [⟨operation,.waiting⟩] },[])
  | .acquire (.caller index) =>
    match s.mutex, s.calls[index]? with
    | none, some call =>
      if call.phase = .waiting then
        some ({ s.setCall index call .holding with mutex := some (.caller index) },[])
      else none
    | _, _ => none
  | .acquire (.receiver index) =>
    match s.mutex, s.receivers[index]? with
    | none, some receiver =>
      if receiver.phase = .waiting then
        some ({ s.setReceiver index receiver .holding with mutex := some (.receiver index) },[])
      else none
    | _, _ => none
  | .finish (.caller index) outcome =>
    match s.calls[index]? with
    | some call => if call.phase = .holding then some (s.finish index call outcome) else none
    | none => none
  | .finish (.receiver index) outcome =>
    match s.receivers[index]? with
    | some receiver =>
      if receiver.phase = .holding then
        some ({ s.setReceiver index receiver .callback with mutex := none },
          [.published index (s.publish outcome)])
      else none
    | none => none
  | .stop index =>
    match s.calls[index]? with
    | some call =>
      match call.phase with
      | .stopping receivers =>
        some ({ s.setCall index call (.draining receivers) with
          receivers := receivers.foldl (fun all receiver => all.modify receiver Receiver.requestStop)
            s.receivers },[])
      | _ => none
    | none => none
  | .join index status =>
    match s.calls[index]? with
    | some call => s.join index call status
    | none => none
  | .start index allocated => s.proceed index .starting fun _ => if allocated then .checking else .exited
  | .look index => s.proceed index .checking fun receiver =>
      if receiver.stopRequested then .exited else .taking
  | .take index taken => s.proceed index .taking fun _ => taken.next
  | .publish index => s.proceed index .callback fun _ => .waiting
  | .resume index => s.proceed index .callback fun _ => .checking

def system : Machine System Action Event := ⟨step⟩

end AutoRuntime.DdsTransport
