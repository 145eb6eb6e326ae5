import AutoRuntime.Recorder
import AutoRuntime.Transport

/-! The recording transport: `Publish` asks for the message type, records the message, and hands
it to the inner transport. Any number of threads publish; a thread may publish again from inside
the type resolver or from inside the inner transport's `Publish`, and then comes back to the call
it was in. What the resolver and the inner transport answer comes with the action. -/
namespace AutoRuntime.RecordingTransport

open Trace

inductive RecordingFailurePolicy where
  | requireRecord | continueWithoutRecord
  deriving DecidableEq, Repr

structure RecordingTransportConfig where
  defaultMessageType : Bytes
  messageTypeResolver : Bool := false
  failurePolicy : RecordingFailurePolicy := .requireRecord
  deriving DecidableEq, Repr

abbrev ThreadId := Nat

inductive CallPhase where
  | resolving
  | typed (messageType : Bytes)
  | recording (record : Nat)
  | failed (status : Status)
  | forwarding
  | publishing
  | returned
  deriving DecidableEq, Repr

/-- The thread is in code that is not the transport's, or out of the call. -/
def CallPhase.yields : CallPhase → Bool
  | .resolving | .publishing | .returned => true
  | .typed _ | .recording _ | .failed _ | .forwarding => false

structure PublishCall where
  thread : ThreadId
  topic : Bytes
  message : Message
  qos : QosProfile
  phase : CallPhase
  deriving DecidableEq, Repr

structure System where
  config : RecordingTransportConfig
  recording : Recording.System
  calls : List PublishCall := []
  recordFailures : Nat := 0
  lastRecordStatus : Status := .success
  deriving DecidableEq, Repr

inductive Resolution where
  | typed (messageType : Bytes)
  | threw (what : Option String)
  deriving DecidableEq, Repr

/-- The sections of `Record` after the copy. -/
inductive Section where
  | enter | wake | expire
  deriving DecidableEq, Repr

def Section.action (record : Nat) : Section → Recording.Action
  | .enter => .enter record
  | .wake => .wake record
  | .expire => .expire record

/-- What the recorder does apart from `Record`. -/
def foreign : Recording.Action → Bool
  | .record _ _ _ | .enter _ | .wake _ | .expire _ => false
  | _ => true

/-- The other operations of a transport. -/
inductive Operation where
  | subscribe (topic : Bytes) (qos : QosProfile)
  | unsubscribe (subscriptionId : Nat)
  | loan (topic : Bytes) (payloadSize : Nat) (qos : QosProfile)
  | subscribeLoaned (topic : Bytes) (qos : QosProfile)
  | advertiseService (serviceName : Bytes)
  | removeService (serviceId : Nat)
  | request (serviceName : Bytes) (request : Message)
  | stats
  deriving DecidableEq, Repr

/-- The operations of zero-copy messages. -/
def Operation.loaned : Operation → Bool
  | .loan _ _ _ | .subscribeLoaned _ _ => true
  | _ => false

inductive Event where
  | recorded (thread : ThreadId) (call : Nat) (input : RecordInput) (status : Status)
  | refused (call : Nat) (status : Status)
  | handed (thread : ThreadId) (call : Nat) (topic : Bytes) (message : Message) (qos : QosProfile)
  | returned (call : Nat) (status : Status)
  | inner (operation : Operation)
  | answered (operation : Operation) (status : Status)
  deriving DecidableEq, Repr

inductive Action where
  | publish (thread : ThreadId) (topic : Bytes) (message : Message) (qos : QosProfile)
  | resolve (call : Nat) (resolution : Resolution)
  | record (call : Nat) (copyError : Option String) (captureNow : UInt64)
  | proceed (call : Nat) (next : Section)
  | recordFailure (call : Nat)
  | forward (call : Nat)
  | finish (call : Nat) (status : Status)
  | recorder (action : Recording.Action)
  | operate (operation : Operation)
  deriving DecidableEq, Repr

/-- The thread may begin a call: it is in no other one, or in foreign code. -/
def System.free (s : System) (thread : ThreadId) : Bool :=
  s.calls.all fun call => call.thread != thread || call.phase.yields

/-- The innermost call that its thread has not come back from. -/
def System.current (s : System) (index : Nat) : Option PublishCall :=
  match s.calls[index]? with
  | none => none
  | some call =>
    if (s.calls.drop (index + 1)).all fun later => later.thread != call.thread || later.phase == .returned
    then some call else none

def System.setPhase (s : System) (index : Nat) (call : PublishCall) (phase : CallPhase) : System :=
  { s with calls := s.calls.set index { call with phase := phase } }

def System.publish (s : System) (thread : ThreadId) (topic : Bytes) (message : Message) (qos : QosProfile) :
    System :=
  let phase := if s.config.messageTypeResolver then .resolving else .typed s.config.defaultMessageType
  { s with calls := s.calls ++ [⟨thread,topic,message,qos,phase⟩] }

def Resolution.next : Resolution → CallPhase
  | .typed messageType => .typed messageType
  | .threw (some what) => .failed ⟨.internal,"message type resolver threw: " ++ what⟩
  | .threw none => .failed ⟨.internal,"message type resolver threw"⟩

/-- A section of `Record` has come back, and with it the call or not. -/
def System.judge (s : System) (index : Nat) (call : PublishCall) (record : Nat) :
    Option (Recording.System × List Recording.Event) → Option (System × List Event)
  | some (recording,[]) => some ({ s.setPhase index call (.recording record) with recording := recording },[])
  | some (recording,[.recorded input status]) =>
    some ({ s.setPhase index call (if status.ok then .forwarding else .failed status) with
      recording := recording },[.recorded call.thread index input status])
  | _ => none

/-- `RecordFailure`, and what the policy makes of it. -/
def System.recordFailure (s : System) (index : Nat) (call : PublishCall) (status : Status) :
    System × List Event :=
  let counted := { s with recordFailures := s.recordFailures + 1, lastRecordStatus := status }
  match s.config.failurePolicy with
  | .requireRecord => (counted.setPhase index call .returned,[.refused index status])
  | .continueWithoutRecord => (counted.setPhase index call .forwarding,[])

def System.operate (operation : Operation) : Event :=
  if operation.loaned then
    .answered operation ⟨.unsupported,"transport does not support loaned messages"⟩
  else .inner operation

/-- A step of a call that is its thread's current one. -/
def System.advance (s : System) (index : Nat) (call : PublishCall) : Action → Option (System × List Event)
  | .resolve _ resolution =>
    if call.phase = .resolving then some (s.setPhase index call resolution.next,[]) else none
  | .record _ copyError captureNow =>
    match call.phase with
    | .typed messageType => s.judge index call s.recording.calls.length
        (Recording.step s.recording (.record ⟨call.topic,messageType,call.message⟩ copyError captureNow))
    | _ => none
  | .proceed _ next =>
    match call.phase with
    | .recording record => s.judge index call record (Recording.step s.recording (next.action record))
    | _ => none
  | .recordFailure _ =>
    match call.phase with
    | .failed status => some (s.recordFailure index call status)
    | _ => none
  | .forward _ =>
    if call.phase = .forwarding then
      some (s.setPhase index call .publishing,[.handed call.thread index call.topic call.message call.qos])
    else none
  | .finish _ status =>
    if call.phase = .publishing then some (s.setPhase index call .returned,[.returned index status]) else none
  | _ => none

/-- The call that an action is a step of. -/
def Action.call : Action → Option Nat
  | .resolve call _ | .record call _ _ | .proceed call _ | .recordFailure call | .forward call
  | .finish call _ => some call
  | .publish _ _ _ _ | .recorder _ | .operate _ => none

def step (s : System) (action : Action) : Option (System × List Event) :=
  match action.call with
  | some index =>
    match s.current index with
    | some call => s.advance index call action
    | none => none
  | none =>
    match action with
    | .publish thread topic message qos =>
      if s.free thread then some (s.publish thread topic message qos,[]) else none
    | .recorder action =>
      if foreign action then
        (Recording.step s.recording action).map fun (recording,_) => ({ s with recording := recording },[])
      else none
    | .operate operation => some (s,[System.operate operation])
    | _ => none

def system : Machine System Action Event := ⟨step⟩

end AutoRuntime.RecordingTransport
