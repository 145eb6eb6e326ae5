import AutoRuntime.DdsRpcWire
import AutoRuntime.Machine
import AutoRuntime.Table

/-! One client channel: the calls of `Request` that reached it, its pending map, the thread that
receives responses and the calls of `CloseClient`. A step is one section under `state_mutex`, the
exchange or a load of `closed`, or the write of a sample. -/
namespace AutoRuntime.DdsRpc

open Option

inductive CallPhase where
  | inserting
  | budgeting
  | checking (budget : UInt64)
  | writing (budget : UInt64)
  | withdrawing (failure : Failure)
  | waiting
  | returned (outcome : Outcome Message)

/-- A call of `Request` that has its channel and its number, with its `PendingRequest`. -/
structure Call where
  requestId : UInt64
  request : Message
  deadline : Deadline
  result : Option (Outcome Message) := none
  phase : CallPhase := .inserting

inductive ReceiverPhase where
  | receiving
  | completing (sample : RpcResponse) (completion : Outcome Message)
  | ended

inductive ClosePhase where
  | exchanging | clearing | passing | joining | returned
  deriving DecidableEq, Repr

/-- The writer is the call that holds `write_mutex`. -/
structure Channel where
  calls : List Call := []
  closed : Bool := false
  writer : Option Nat := none
  pending : Table UInt64 Nat := ∅
  receiver : ReceiverPhase := .receiving
  closers : List ClosePhase := []

inductive ChannelAction where
  | enter (requestId : UInt64) (request : Message) (deadline : Deadline)
  | insert (index : Nat)
  | budget (index : Nat) (now : Int)
  | check (index : Nat)
  | write (index : Nat) (failure : Option Failure)
  | withdraw (index : Nat)
  | wake (index : Nat)
  | expire (index : Nat) (now : Int)
  | receive (sample : RpcResponse) (completion : Outcome Message)
  | complete
  | endReceiver
  | closeClient
  | proceed (closer : Nat)

/-- A call fails with a status of its own and is answered with the result of its `PendingRequest`. -/
inductive ChannelEvent where
  | inserted (index : Nat)
  | wrote (index : Nat) (budget : UInt64)
  | failed (index : Nat) (failure : Failure)
  | answered (index : Nat) (outcome : Outcome Message)
  | completed (index : Nat) (sample : RpcResponse) (completion : Outcome Message)
  | aborted (index : Nat)
  | cleared

def channelIsClosed : Failure := .closed "DDS RPC client channel is closed"

def requestIdCollided : Failure := .internal "DDS RPC request id collided"

def expiredBeforeWrite : Failure := .timeout "DDS RPC deadline expired before write"

def responseDeadlineExpired : Failure := .timeout "DDS RPC response deadline expired"

def clientChannelClosed : Failure := .closed "DDS RPC client channel closed"

def Channel.setCall (channel : Channel) (index : Nat) (call : Call) : Channel :=
  { channel with calls := channel.calls.set index call }

/-- `remove_pending`: the entry goes only if it is the caller's own. -/
def Channel.removePending (channel : Channel) (requestId : UInt64) (index : Nat) : Channel :=
  if channel.pending.lookup requestId = some index then
    { channel with pending := channel.pending.erase requestId }
  else channel

def Channel.insert (channel : Channel) (index : Nat) : Option (Channel × List ChannelEvent) := do
  let call ← channel.calls[index]?
  let .inserting := call.phase | none
  if channel.closed then
    some (channel.setCall index { call with phase := .returned (.error channelIsClosed) },
      [.failed index channelIsClosed])
  else if (channel.pending.lookup call.requestId).isSome then
    some (channel.setCall index { call with phase := .returned (.error requestIdCollided) },
      [.failed index requestIdCollided])
  else
    some ({ channel.setCall index { call with phase := .budgeting } with
      pending := channel.pending.insert call.requestId index },[.inserted index])

def Channel.budget (channel : Channel) (index : Nat) (now : Int) : Option (Channel × List ChannelEvent) := do
  let call ← channel.calls[index]?
  let .budgeting := call.phase | none
  let budget := remainingBudget call.deadline now
  if budget = 0 then some (channel.setCall index { call with phase := .withdrawing expiredBeforeWrite },[])
  else some (channel.setCall index { call with phase := .checking budget },[])

/-- `write_mutex` is taken and `closed` loaded. -/
def Channel.check (channel : Channel) (index : Nat) : Option (Channel × List ChannelEvent) := do
  let call ← channel.calls[index]?
  let .checking budget := call.phase | none
  if channel.writer.isSome then none
  else
    let phase := if channel.closed then .withdrawing channelIsClosed else .writing budget
    some ({ channel.setCall index { call with phase := phase } with writer := some index },[])

def Channel.write (channel : Channel) (index : Nat) (failure : Option Failure) :
    Option (Channel × List ChannelEvent) := do
  let call ← channel.calls[index]?
  let .writing budget := call.phase | none
  let phase := match failure with
    | none => .waiting
    | some failure => .withdrawing failure
  some ({ channel.setCall index { call with phase := phase } with writer := none },[.wrote index budget])

/-- A call that found the channel closed still holds `write_mutex` here. -/
def Channel.withdraw (channel : Channel) (index : Nat) : Option (Channel × List ChannelEvent) := do
  let call ← channel.calls[index]?
  let .withdrawing failure := call.phase | none
  let next := (channel.setCall index { call with phase := .returned (.error failure) }).removePending
    call.requestId index
  some ({ next with writer := if channel.writer = some index then none else channel.writer },
    [.failed index failure])

def Channel.wake (channel : Channel) (index : Nat) : Option (Channel × List ChannelEvent) := do
  let call ← channel.calls[index]?
  let .waiting := call.phase | none
  let outcome ← call.result
  some (channel.setCall index { call with phase := .returned outcome },[.answered index outcome])

/-- `wait_until` gives up only where the predicate still fails. -/
def Channel.expire (channel : Channel) (index : Nat) (now : Int) : Option (Channel × List ChannelEvent) := do
  let call ← channel.calls[index]?
  let .waiting := call.phase | none
  if call.result.isNone && call.deadline.expired now then
    some ((channel.setCall index { call with phase := .returned (.error responseDeadlineExpired) }).removePending
      call.requestId index,[.failed index responseDeadlineExpired])
  else none

def Channel.receive (channel : Channel) (sample : RpcResponse) (completion : Outcome Message) :
    Option (Channel × List ChannelEvent) := do
  let .receiving := channel.receiver | none
  some ({ channel with receiver := .completing sample completion },[])

def Channel.complete (channel : Channel) : Option (Channel × List ChannelEvent) := do
  let .completing sample completion := channel.receiver | none
  match channel.pending.lookup sample.requestId with
  | none => some ({ channel with receiver := .receiving },[])
  | some index =>
    let call ← channel.calls[index]?
    some ({ channel.setCall index { call with result := some completion } with
      pending := channel.pending.erase sample.requestId
      receiver := .receiving },[.completed index sample completion])

/-- The thread ends between two samples, for a request to stop or for an error. -/
def Channel.endReceiver (channel : Channel) : Option (Channel × List ChannelEvent) := do
  let .receiving := channel.receiver | none
  some ({ channel with receiver := .ended },[])

/-- The calls that `CloseClient` completes: those in the pending map, unless they are. -/
def Channel.abandoned (channel : Channel) (index : Nat) (call : Call) : Bool :=
  channel.pending.entries.any (fun entry => entry.2 == index) && call.result.isNone

/-- The section of `CloseClient` under `state_mutex`. -/
def Channel.clear (channel : Channel) : Channel × List ChannelEvent :=
  ({ channel with
      calls := channel.calls.mapIdx fun index call =>
        if channel.abandoned index call then { call with result := some (.error clientChannelClosed) } else call
      pending := ∅ },
    ((List.range channel.calls.length).filter fun index => channel.calls[index]?.any (channel.abandoned index)).map
      .aborted ++ [.cleared])

def Channel.proceed (channel : Channel) (closer : Nat) : Option (Channel × List ChannelEvent) := do
  let setCloser (channel : Channel) (phase : ClosePhase) : Channel :=
    { channel with closers := channel.closers.set closer phase }
  match ← channel.closers[closer]? with
  | .exchanging =>
    if channel.closed then some (setCloser channel .returned,[])
    else some (setCloser { channel with closed := true } .clearing,[])
  | .clearing => some (setCloser channel.clear.1 .passing,channel.clear.2)
  | .passing => if channel.writer.isNone then some (setCloser channel .joining,[]) else none
  | .joining =>
    match channel.receiver with
    | .ended => some (setCloser channel .returned,[])
    | _ => none
  | .returned => none

def Channel.step (channel : Channel) : ChannelAction → Option (Channel × List ChannelEvent)
  | .enter requestId request deadline =>
    some ({ channel with calls := channel.calls ++
      [{ requestId := requestId, request := request, deadline := deadline }] },[])
  | .insert index => channel.insert index
  | .budget index now => channel.budget index now
  | .check index => channel.check index
  | .write index failure => channel.write index failure
  | .withdraw index => channel.withdraw index
  | .wake index => channel.wake index
  | .expire index now => channel.expire index now
  | .receive sample completion => channel.receive sample completion
  | .complete => channel.complete
  | .endReceiver => channel.endReceiver
  | .closeClient => some ({ channel with closers := channel.closers ++ [.exchanging] },[])
  | .proceed closer => channel.proceed closer

def clientChannel : Machine Channel ChannelAction ChannelEvent := ⟨Channel.step⟩

/-- The call is past its insertion and has not returned. -/
def CallPhase.Busy : CallPhase → Prop
  | .inserting | .returned _ => False
  | _ => True

/-- What a step can do. -/
inductive Moved (channel : Channel) : ChannelAction → Channel → List ChannelEvent → Prop where
  | entered : Moved channel (.enter requestId request deadline) { channel with calls := channel.calls ++
      [{ requestId := requestId, request := request, deadline := deadline }] } []
  | refused {call : Call} {failure : Failure} (active : channel.calls[index]? = some call)
      (before : call.phase = .inserting) (reason : failure = channelIsClosed ∨ channel.closed = false) :
      Moved channel action (channel.setCall index { call with phase := .returned (.error failure) })
        [.failed index failure]
  | inserted {call : Call} (active : channel.calls[index]? = some call) (before : call.phase = .inserting)
      (opened : channel.closed = false) (free : channel.pending.lookup call.requestId = none) :
      Moved channel action { channel.setCall index { call with phase := .budgeting } with
        pending := channel.pending.insert call.requestId index } [.inserted index]
  | advanced {call : Call} {phase : CallPhase} (active : channel.calls[index]? = some call)
      (busy : call.phase.Busy) (still : phase.Busy) :
      Moved channel action { channel.setCall index { call with phase := phase } with writer := writer } []
  | wrote {call : Call} {phase : CallPhase} (active : channel.calls[index]? = some call)
      (before : call.phase = .writing budget) (still : phase.Busy) :
      Moved channel (.write index status)
        { channel.setCall index { call with phase := phase } with writer := none } [.wrote index budget]
  | gaveUp {call : Call} {failure : Failure} (active : channel.calls[index]? = some call)
      (busy : call.phase.Busy) :
      Moved channel action
        { (channel.setCall index { call with phase := .returned (.error failure) }).removePending
            call.requestId index with writer := writer } [.failed index failure]
  | answered {call : Call} {outcome : Outcome Message} (active : channel.calls[index]? = some call)
      (before : call.phase = .waiting) (result : call.result = some outcome) :
      Moved channel action (channel.setCall index { call with phase := .returned outcome })
        [.answered index outcome]
  | received (before : channel.receiver = .receiving) :
      Moved channel (.receive sample completion) { channel with receiver := .completing sample completion } []
  | dropped (before : channel.receiver = .completing sample completion)
      (unknown : channel.pending.lookup sample.requestId = none) :
      Moved channel action { channel with receiver := .receiving } []
  | completed {call : Call} (before : channel.receiver = .completing sample completion)
      (known : channel.pending.lookup sample.requestId = some index)
      (active : channel.calls[index]? = some call) :
      Moved channel action { channel.setCall index { call with result := some completion } with
        pending := channel.pending.erase sample.requestId
        receiver := .receiving } [.completed index sample completion]
  | ended (before : channel.receiver = .receiving) : Moved channel action { channel with receiver := .ended } []
  | closing (old : .clearing ∈ closers → .clearing ∈ channel.closers) :
      Moved channel action { channel with closers := closers } []
  | exchanged : Moved channel action { channel with closed := true, closers := closers } []
  | cleared (clearing : .clearing ∈ channel.closers) :
      Moved channel action { channel.clear.1 with closers := closers } channel.clear.2

variable {channel : Channel}

theorem proceed_moved (stepped : channel.proceed closer = some (next,emitted)) :
    Moved channel action next emitted := by
  simp only [Channel.proceed,bind_eq_bind,bind_eq_some_iff] at stepped
  obtain ⟨phase,active,stepped⟩ := stepped
  have old (after : ClosePhase) (apart : after ≠ .clearing) :
      .clearing ∈ channel.closers.set closer after → .clearing ∈ channel.closers := fun member =>
    (List.mem_or_eq_of_mem_set member).resolve_right (Ne.symm apart)
  cases phase with
  | exchanging =>
    simp only at stepped
    split at stepped
    · cases stepped
      exact .closing (old _ nofun)
    · cases stepped
      exact .exchanged
  | clearing =>
    cases stepped
    exact .cleared (List.mem_of_getElem? active)
  | passing | joining =>
    simp only at stepped
    split at stepped
    · cases stepped
      exact .closing (old _ nofun)
    · contradiction
  | returned => contradiction

theorem insert_moved (stepped : channel.insert index = some (next,emitted)) : Moved channel action next emitted := by
  simp only [Channel.insert,bind_eq_bind,bind_eq_some_iff] at stepped
  obtain ⟨call,active,stepped⟩ := stepped
  split at stepped
  next before =>
    split at stepped
    · cases stepped
      exact .refused active before (.inl rfl)
    next opened =>
      split at stepped
      · cases stepped
        exact .refused active before (.inr (by simpa using opened))
      next free =>
        cases stepped
        exact .inserted active before (by simpa using opened) (by simpa using free)
  · contradiction

theorem budget_moved (stepped : channel.budget index now = some (next,emitted)) :
    Moved channel (.budget index now) next emitted := by
  simp only [Channel.budget,bind_eq_bind,bind_eq_some_iff] at stepped
  obtain ⟨call,active,stepped⟩ := stepped
  split at stepped
  next before =>
    have busy : call.phase.Busy := by rw [before]; trivial
    split at stepped
    · cases stepped
      exact .advanced active busy trivial
    · cases stepped
      exact .advanced active busy trivial
  · contradiction

theorem check_moved (stepped : channel.check index = some (next,emitted)) :
    Moved channel (.check index) next emitted := by
  simp only [Channel.check,bind_eq_bind,bind_eq_some_iff] at stepped
  obtain ⟨call,active,stepped⟩ := stepped
  split at stepped
  next before =>
    have busy : call.phase.Busy := by rw [before]; trivial
    split at stepped
    · contradiction
    · cases stepped
      refine .advanced active busy ?_
      split <;> trivial
  · contradiction

theorem write_moved (stepped : channel.write index refused = some (next,emitted)) :
    Moved channel (.write index refused) next emitted := by
  simp only [Channel.write,bind_eq_bind,bind_eq_some_iff] at stepped
  obtain ⟨call,active,stepped⟩ := stepped
  split at stepped
  next before =>
    cases stepped
    refine .wrote active before ?_
    cases refused <;> trivial
  · contradiction

theorem withdraw_moved (stepped : channel.withdraw index = some (next,emitted)) :
    Moved channel (.withdraw index) next emitted := by
  simp only [Channel.withdraw,bind_eq_bind,bind_eq_some_iff] at stepped
  obtain ⟨call,active,stepped⟩ := stepped
  split at stepped
  next before =>
    cases stepped
    exact .gaveUp active (by rw [before]; trivial)
  · contradiction

theorem wake_moved (stepped : channel.wake index = some (next,emitted)) :
    Moved channel (.wake index) next emitted := by
  simp only [Channel.wake,bind_eq_bind,bind_eq_some_iff] at stepped
  obtain ⟨call,active,stepped⟩ := stepped
  split at stepped
  next before =>
    simp only [bind_eq_some_iff] at stepped
    obtain ⟨outcome,result,rfl,rfl⟩ := stepped
    exact .answered active before result
  · contradiction

theorem expire_moved (stepped : channel.expire index now = some (next,emitted)) :
    Moved channel (.expire index now) next emitted := by
  simp only [Channel.expire,bind_eq_bind,bind_eq_some_iff] at stepped
  obtain ⟨call,active,stepped⟩ := stepped
  split at stepped
  next before =>
    split at stepped
    · cases stepped
      exact .gaveUp active (by rw [before]; trivial)
    · contradiction
  · contradiction

theorem receive_moved (stepped : channel.receive sample completion = some (next,emitted)) :
    Moved channel (.receive sample completion) next emitted := by
  simp only [Channel.receive] at stepped
  split at stepped
  next before =>
    cases stepped
    exact .received before
  · contradiction

theorem complete_moved (stepped : channel.complete = some (next,emitted)) : Moved channel .complete next emitted := by
  simp only [Channel.complete] at stepped
  split at stepped
  next sample completion before =>
    split at stepped
    next unknown =>
      cases stepped
      exact .dropped before unknown
    next index known =>
      simp only [bind_eq_bind,bind_eq_some_iff] at stepped
      obtain ⟨call,active,rfl,rfl⟩ := stepped
      exact .completed before known active
  · contradiction

theorem endReceiver_moved (stepped : channel.endReceiver = some (next,emitted)) :
    Moved channel .endReceiver next emitted := by
  simp only [Channel.endReceiver] at stepped
  split at stepped
  next before =>
    cases stepped
    exact .ended before
  · contradiction

theorem step_moved (stepped : channel.step action = some (next,emitted)) : Moved channel action next emitted := by
  cases action with
  | enter =>
    cases stepped
    exact .entered
  | insert => exact insert_moved stepped
  | budget => exact budget_moved stepped
  | check => exact check_moved stepped
  | write => exact write_moved stepped
  | withdraw => exact withdraw_moved stepped
  | wake => exact wake_moved stepped
  | expire => exact expire_moved stepped
  | receive => exact receive_moved stepped
  | complete => exact complete_moved stepped
  | endReceiver => exact endReceiver_moved stepped
  | closeClient =>
    cases stepped
    exact .closing fun member => by simpa using member
  | proceed => exact proceed_moved stepped

end AutoRuntime.DdsRpc
