import AutoRuntime.Conversation
import AutoRuntime.Failure
import AutoRuntime.Machine

/-! The socket calls of a TCP connection. `WriteExact` and `ReadExact` go round a loop of a wait
and a transfer, and the system may answer each of them in any way. A step is one answer to one
of the two ends. -/
namespace AutoRuntime.TcpRpc

abbrev Thread (α : Type) := Process UInt8 Failure α

def networkError (operation reason : String) : Failure := .transportError (operation ++ ": " ++ reason)

inductive Direction where
  | writing | reading
  deriving DecidableEq, Repr

/-- What `poll` left in `revents`; what was asked for is `POLLOUT` or `POLLIN`. -/
structure Events where
  asked : Bool := false
  error : Bool := false
  hangup : Bool := false
  invalid : Bool := false

inductive Round where
  | stopRequested
  | expired
  | interrupted
  | failed (reason : String)
  | timedOut
  | polled (events : Events)

/-- One round of `WaitFor`: there is another one, or the wait is over. -/
def waitFor (direction : Direction) : Round → Option (Except Failure Unit)
  | .stopRequested => some (.error (.cancelled "RPC operation cancelled"))
  | .expired => some (.error (.timeout "RPC deadline expired"))
  | .interrupted => none
  | .failed reason => some (.error (networkError "poll(RPC)" reason))
  | .timedOut => none
  | .polled events =>
    if events.invalid || (events.error && !events.asked) then
      some (.error (.transportError "RPC socket reported an error"))
    else if events.asked || (direction = .reading && events.hangup) then some (.ok ())
    else if events.hangup then some (.error (.transportError "RPC peer closed the connection"))
    else none

/-- `again` is `EAGAIN`, `EWOULDBLOCK` or `EINTR`, and `nothing` is zero. -/
inductive Transfer where
  | moved (count : Nat)
  | again
  | nothing
  | failed (reason : String)

inductive Answer where
  | waited (round : Round)
  | transferred (transfer : Transfer)

/-- One end, inside a call of `WriteExact` or `ReadExact` unless its thread is done. It is ready
between the wait and the transfer. -/
structure Endpoint (α : Type) where
  thread : Thread α
  ready : Bool := false

/-- What the thread waits for, and where a failed wait leads. -/
def waiting : Thread α → Option (Direction × (Failure → Thread α))
  | .done _ => none
  | .write _ _ next => some (.writing,fun failure => next (.error failure))
  | .read _ _ next => some (.reading,fun failure => next (.error failure))

def Endpoint.wait (own : Endpoint α) (round : Round) : Option (Endpoint α) := do
  let (direction,failing) ← waiting own.thread
  if own.ready then none
  else
    match waitFor direction round with
    | none => some own
    | some (.ok ()) => some { own with ready := true }
    | some (.error failure) => some ⟨failing failure,false⟩

/-- The end after `send` or `recv`, what is left of the stream towards it, and what it sent. -/
def Endpoint.transfer (own : Endpoint α) (inbound : Bytes) (transfer : Transfer) :
    Option (Endpoint α × Bytes × Bytes) :=
  if own.ready then
    match own.thread,transfer with
    | .done _,_ => none
    | .write first rest next,.moved count =>
      if 0 < count ∧ count ≤ rest.length + 1 then
        some (⟨.writing ((first :: rest).drop count) next,false⟩,inbound,(first :: rest).take count)
      else none
    | .write _ _ next,.nothing =>
      some (⟨next (.error (.transportError "RPC socket wrote zero bytes")),false⟩,inbound,[])
    | .write _ _ next,.failed reason => some (⟨next (.error (networkError "send(RPC)" reason)),false⟩,inbound,[])
    | .read more buffer next,.moved count =>
      if 0 < count ∧ count ≤ more + 1 ∧ count ≤ inbound.length then
        some (⟨.reading (more + 1 - count) (buffer ++ inbound.take count) next,false⟩,inbound.drop count,[])
      else none
    | .read _ _ next,.nothing =>
      some (⟨next (.error (.transportError "RPC peer closed before frame completed")),false⟩,inbound,[])
    | .read _ _ next,.failed reason => some (⟨next (.error (networkError "recv(RPC)" reason)),false⟩,inbound,[])
    | thread,.again => some (⟨thread,false⟩,inbound,[])
  else none

def Endpoint.take (own : Endpoint α) (inbound : Bytes) : Answer → Option (Endpoint α × Bytes × Bytes)
  | .waited round => (own.wait round).map fun next => (next,inbound,[])
  | .transferred transfer => own.transfer inbound transfer

/-- The sizes of what moved. -/
def Answer.moves : Answer → List Nat
  | .transferred (.moved count) => [count]
  | _ => []

/-- A connection with its two streams. An end that is done has closed it. -/
structure Connection (α γ : Type) where
  client : Endpoint α
  server : Endpoint γ
  toServer : Bytes := []
  toClient : Bytes := []

inductive Action where
  | client (answer : Answer)
  | server (answer : Answer)

def Connection.step (s : Connection α γ) : Action → Option (Connection α γ × List Nat)
  | .client answer => do
    let (client,inbound,sent) ← s.client.take s.toClient answer
    some ({ s with client := client, toClient := inbound, toServer := s.toServer ++ sent },answer.moves)
  | .server answer => do
    let (server,inbound,sent) ← s.server.take s.toServer answer
    some ({ s with server := server, toServer := inbound, toClient := s.toClient ++ sent },answer.moves)

def connection (α γ : Type) : Machine (Connection α γ) Action Nat := ⟨Connection.step⟩

/-- No stop, no deadline and no error: the wait may go round, be spurious or find the peer gone. -/
def Round.Calm (peerDone : Bool) : Round → Prop
  | .interrupted => True
  | .timedOut => True
  | .polled events => events.invalid = false ∧ events.error = false ∧ (events.hangup = true → peerDone = true)
  | _ => False

/-- A read finds the end of the stream only after the peer has closed it and all of it was read. -/
def Transfer.Calm (thread : Thread α) (inbound : Bytes) (peerDone : Bool) : Transfer → Prop
  | .moved _ => True
  | .again => True
  | .nothing => (waiting thread).map Prod.fst = some .reading ∧ inbound = [] ∧ peerDone = true
  | .failed _ => False

def Answer.Calm (thread : Thread α) (inbound : Bytes) (peerDone : Bool) : Answer → Prop
  | .waited round => round.Calm peerDone
  | .transferred transfer => transfer.Calm thread inbound peerDone

def Connection.Calm (s : Connection α γ) : Action → Prop
  | .client answer => answer.Calm s.client.thread s.toClient s.server.thread.isDone
  | .server answer => answer.Calm s.server.thread s.toServer s.client.thread.isDone

theorem waitFor_calm {round : Round} (calm : round.Calm peerDone)
    (waited : waitFor direction round = some (.error failed)) :
    direction = .writing ∧ peerDone = true := by
  cases round with
  | stopRequested | expired | failed => exact calm.elim
  | interrupted | timedOut => simp [waitFor] at waited
  | polled events =>
    obtain ⟨invalid,error,gone⟩ := calm
    simp only [waitFor] at waited
    cases direction <;> cases events.asked <;> cases hangup : events.hangup <;> simp_all

theorem wait_calm {round : Round} (talk : Converses own.thread right toRight toLeft a b n)
    (calm : round.Calm right.isDone) (waited : Endpoint.wait own round = some next) : next.thread = own.thread := by
  simp only [Endpoint.wait,bind,Option.bind_eq_some_iff] at waited
  obtain ⟨⟨direction,failing⟩,waits,waited⟩ := waited
  split at waited
  · contradiction
  split at waited
  · rw [Option.some.inj waited]
  · rw [← Option.some.inj waited]
  next failed ends =>
    obtain ⟨rfl,gone⟩ := waitFor_calm calm ends
    obtain ⟨value,ended⟩ := Process.eq_done gone
    cases thread : own.thread with
    | done | read => simp [thread,waiting] at waits
    | write => exact (talk.not_write_done thread ended).elim

theorem transfer_calm (talk : Converses own.thread right toRight toLeft a b n)
    (calm : transfer.Calm own.thread toLeft right.isDone)
    (transferred : Endpoint.transfer own toLeft transfer = some (next,inbound,sent)) :
    ∃ m, Converses next.thread right (toRight ++ sent) inbound a b m ∧
      m + (Answer.transferred transfer).moves.length ≤ n := by
  simp only [Endpoint.transfer] at transferred
  split at transferred
  rotate_left
  · contradiction
  split at transferred
  · contradiction
  next first rest following count thread =>
    split at transferred
    next bounds =>
      cases transferred
      have writes : own.thread = .writing ((first :: rest).take count ++ (first :: rest).drop count) following := by
        rw [thread,List.take_append_drop]
        rfl
      have size : ((first :: rest).take count).length = count := List.length_take_of_le bounds.2
      obtain ⟨m,rfl,onward⟩ := talk.sends_left writes (List.ne_nil_of_length_pos (by omega))
      exact ⟨m,onward,by simp only [Answer.moves,List.length_singleton]; omega⟩
    · contradiction
  next thread =>
    simp [Transfer.Calm,thread,waiting] at calm
  next => exact calm.elim
  next more buffer following count thread =>
    split at transferred
    next bounds =>
      cases transferred
      have reads : own.thread = .reading (more + 1) buffer following := thread
      have size : (toLeft.take count).length = count := List.length_take_of_le bounds.2.2
      obtain ⟨m,rfl,onward⟩ := talk.receives_left reads (List.take_append_drop count toLeft).symm
        (List.ne_nil_of_length_pos (by omega)) (by omega)
      rw [size] at onward
      exact ⟨m,by simpa using onward,by simp only [Answer.moves,List.length_singleton]; omega⟩
    · contradiction
  next more buffer following thread =>
    obtain ⟨-,drained,gone⟩ := calm
    obtain ⟨value,ended⟩ := Process.eq_done gone
    exact (talk.not_read_done thread ended drained).elim
  next => exact calm.elim
  next =>
    cases transferred
    exact ⟨n,by simpa using talk,by simp [Answer.moves]⟩

theorem take_calm (talk : Converses own.thread right toRight toLeft a b n)
    (calm : answer.Calm own.thread toLeft right.isDone)
    (took : Endpoint.take own toLeft answer = some (next,inbound,sent)) :
    ∃ m, Converses next.thread right (toRight ++ sent) inbound a b m ∧ m + answer.moves.length ≤ n := by
  cases answer with
  | transferred => exact transfer_calm talk calm took
  | waited =>
    obtain ⟨after,waited,same⟩ := Option.map_eq_some_iff.mp took
    cases same
    rw [wait_calm talk calm waited]
    exact ⟨n,by simpa using talk,by simp [Answer.moves]⟩

/-- The two ends still converse to these values, and the work left and the transfers made are
bounded by all the work there was. -/
def Conversing (a : α) (b : γ) (total : Nat) (s : Connection α γ) (history : List Nat) : Prop :=
  ∃ n, Converses s.client.thread s.server.thread s.toServer s.toClient a b n ∧ n + history.length ≤ total

variable {s t : Connection α γ}

theorem step_conversing (talking : Conversing a b total s history) (calm : s.Calm action)
    (stepped : (connection α γ).step s action = some (t,emitted)) :
    Conversing a b total t (history ++ emitted) := by
  obtain ⟨n,talk,bound⟩ := talking
  cases action with
  | client =>
    simp only [connection,Connection.step,bind,Option.bind_eq_some_iff] at stepped
    obtain ⟨⟨client,inbound,sent⟩,took,rfl,rfl⟩ := stepped
    obtain ⟨m,onward,less⟩ := take_calm talk calm took
    exact ⟨m,onward,by simp only [List.length_append]; omega⟩
  | server =>
    simp only [connection,Connection.step,bind,Option.bind_eq_some_iff] at stepped
    obtain ⟨⟨server,inbound,sent⟩,took,rfl,rfl⟩ := stepped
    obtain ⟨m,onward,less⟩ := take_calm talk.swap calm took
    exact ⟨m,onward.swap,by simp only [List.length_append]; omega⟩

/-- One state comes of another calmly, by transfers of these sizes. -/
def Connection.Reaches (s t : Connection α γ) (history : List Nat) : Prop :=
  (connection α γ).Reaches Connection.Calm s t history

theorem Conversing.reached (talking : Conversing a b total s []) (reached : s.Reaches t history) :
    Conversing a b total t history := by
  obtain ⟨actions,calm,ran⟩ := reached
  exact Machine.run_along (fun _ _ _ _ _ held calm stepped => step_conversing held calm stepped) talking calm ran

theorem Conversing.returned (talking : Conversing a b total s history) (ended : s.client.thread = .done value) :
    value = a := by
  obtain ⟨n,talk,-⟩ := talking
  exact (talk.ended_left ended).1

/-- When all the work is done there is nothing left but to return. -/
theorem Conversing.returns (talking : Conversing a b total s history) (worked : total ≤ history.length) :
    s.client.thread = .done a := by
  obtain ⟨n,talk,bound⟩ := talking
  obtain rfl : n = 0 := by omega
  exact talk.ended.1

theorem send_some {next : Except Failure Unit → Thread α} (bounds : 0 < count ∧ count ≤ rest.length + 1) :
    Endpoint.take ⟨.write first rest next,true⟩ inbound (.transferred (.moved count)) =
      some (⟨.writing ((first :: rest).drop count) next,false⟩,inbound,(first :: rest).take count) :=
  if_pos bounds

theorem recv_some {next : Except Failure Bytes → Thread α}
    (bounds : 0 < count ∧ count ≤ more + 1 ∧ count ≤ inbound.length) :
    Endpoint.take ⟨.read more buffer next,true⟩ inbound (.transferred (.moved count)) =
      some (⟨.reading (more + 1 - count) (buffer ++ inbound.take count) next,false⟩,inbound.drop count,[]) :=
  if_pos bounds

def Endpoint.unready (own : Endpoint α) : Nat := if own.ready then 0 else 1

/-- An end that can move on gets ready for it, or moves. -/
theorem moves_on {own : Endpoint α} (movable : Process.Movable own.thread inbound) :
    ∃ answer next left sent, answer.Calm own.thread inbound peerDone ∧
      own.take inbound answer = some (next,left,sent) ∧
      next.unready < own.unready + 2 * answer.moves.length := by
  obtain ⟨thread,ready⟩ := own
  cases ready with
  | false =>
    refine ⟨.waited (.polled { asked := true }),⟨thread,true⟩,inbound,[],by simp [Answer.Calm,Round.Calm],?_,
      Nat.one_pos⟩
    cases movable <;> rfl
  | true =>
    refine ⟨.transferred (.moved 1),?_⟩
    cases movable with
    | write => exact ⟨_,_,_,trivial,send_some (by simp),Nat.one_lt_two⟩
    | read => exact ⟨_,_,_,trivial,recv_some (by simp),Nat.one_lt_two⟩

/-- One calm step towards the end. -/
theorem Conversing.progress
    (talk : Converses s.client.thread s.server.thread s.toServer s.toClient a b n) (unfinished : n ≠ 0) :
    ∃ action t emitted m, s.Calm action ∧ (connection α γ).step s action = some (t,emitted) ∧
      Converses t.client.thread t.server.thread t.toServer t.toClient a b m ∧
      2 * m + t.client.unready + t.server.unready < 2 * n + s.client.unready + s.server.unready := by
  rcases talk.movable unfinished with movable | movable
  · obtain ⟨answer,next,left,sent,calm,took,less⟩ := moves_on movable
    obtain ⟨m,onward,worked⟩ := take_calm talk calm took
    exact ⟨.client answer,{ s with client := next, toClient := left, toServer := s.toServer ++ sent },_,m,calm,
      by simp only [connection,Connection.step,took]; rfl,onward,by simp only; omega⟩
  · obtain ⟨answer,next,left,sent,calm,took,less⟩ := moves_on movable
    obtain ⟨m,onward,worked⟩ := take_calm talk.swap calm took
    exact ⟨.server answer,{ s with server := next, toServer := left, toClient := s.toClient ++ sent },_,m,calm,
      by simp only [connection,Connection.step,took]; rfl,onward.swap,by simp only; omega⟩

/-- Some calm way from here has the client return this. -/
def Connection.MayReturn (s : Connection α γ) (value : α) : Prop :=
  ∃ t history, s.Reaches t history ∧ t.client.thread = .done value

theorem Connection.MayReturn.head (action : Action) (rest : t.MayReturn value) (calm : s.Calm action)
    (stepped : (connection α γ).step s action = some (t,emitted)) : s.MayReturn value := by
  obtain ⟨u,later,reached,returned⟩ := rest
  exact ⟨u,emitted ++ later,Machine.Reaches.head reached calm stepped,returned⟩

/-- From any of its states a connection can come to its end. -/
theorem Conversing.completes
    (talk : Converses s.client.thread s.server.thread s.toServer s.toClient a b n) : s.MayReturn a := by
  -- on the transfers left and the waits they may need
  induction toDo : 2 * n + s.client.unready + s.server.unready using Nat.strong_induction_on generalizing s n with
  | _ toDo ih =>
    by_cases finished : n = 0
    · subst finished
      exact ⟨s,[],.refl,talk.ended.1⟩
    · obtain ⟨action,t,emitted,m,calm,stepped,onward,less⟩ := progress talk finished
      exact (ih _ (by omega) onward rfl).head action calm stepped

theorem Connection.MayReturn.byClient (answer : Answer)
    (rest : MayReturn { s with client := next, toClient := inbound, toServer := s.toServer ++ sent } value)
    (calm : answer.Calm s.client.thread s.toClient s.server.thread.isDone)
    (took : s.client.take s.toClient answer = some (next,inbound,sent)) : s.MayReturn value :=
  rest.head (s := s) (.client answer) calm (by simp only [connection,Connection.step,took]; rfl)

theorem Connection.MayReturn.byServer (answer : Answer)
    (rest : MayReturn { s with server := next, toServer := inbound, toClient := s.toClient ++ sent } value)
    (calm : answer.Calm s.server.thread s.toServer s.client.thread.isDone)
    (took : s.server.take s.toServer answer = some (next,inbound,sent)) : s.MayReturn value :=
  rest.head (s := s) (.server answer) calm (by simp only [connection,Connection.step,took]; rfl)

/-- The wait for something that is asked for and there. -/
def found : Answer := .waited (.polled { asked := true })

theorem found_calm (thread : Thread α) : found.Calm thread inbound peerDone := by
  simp [found,Answer.Calm,Round.Calm]

theorem send_all (first : UInt8) (rest : Bytes) (next : Except Failure Unit → Thread α) (inbound : Bytes) :
    Endpoint.take ⟨.write first rest next,true⟩ inbound (.transferred (.moved (rest.length + 1))) =
      some (⟨next (.ok ()),false⟩,inbound,first :: rest) := by
  rw [send_some (by omega),← List.length_cons,List.drop_length,List.take_length]
  rfl

theorem recv_all (next : Except Failure Bytes → Thread α) (left : Bytes) (size : chunk.length = more + 1) :
    Endpoint.take ⟨.read more [] next,true⟩ (chunk ++ left) (.transferred (.moved (more + 1))) =
      some (⟨next (.ok chunk),false⟩,left,[]) := by
  rw [recv_some (by rw [List.length_append]; omega),← size,List.drop_left,List.take_left,Nat.sub_self]
  rfl

variable {server : Endpoint γ} {toServer toClient : Bytes}

theorem may_send {symbols : Bytes} {next : Except Failure Unit → Thread α}
    (rest : Connection.MayReturn ⟨⟨next (.ok ()),false⟩,server,toServer ++ symbols,toClient⟩ value) :
    Connection.MayReturn ⟨⟨.writing symbols next,false⟩,server,toServer,toClient⟩ value := by
  cases symbols with
  | nil => rwa [List.append_nil] at rest
  | cons first more =>
    refine .byClient found ?_ (found_calm _) rfl
    refine .byClient (.transferred (.moved (more.length + 1))) ?_ trivial (send_all first more next toClient)
    simpa using rest

theorem may_recv {chunk : Bytes} {client : Endpoint α} {next : Except Failure Bytes → Thread γ}
    (rest : Connection.MayReturn ⟨client,⟨next (.ok chunk),false⟩,toServer,toClient⟩ value)
    (size : chunk.length = more + 1) :
    Connection.MayReturn ⟨client,⟨.read more [] next,false⟩,chunk ++ toServer,toClient⟩ value := by
  refine .byServer found ?_ (found_calm _) rfl
  refine .byServer (.transferred (.moved (more + 1))) ?_ trivial (recv_all next toServer size)
  simpa using rest

theorem may_find_gone {next : Except Failure Unit → Thread α} (gone : server.thread.isDone = true)
    (fails : next (.error (.transportError "RPC peer closed the connection")) = .done value) :
    Connection.MayReturn ⟨⟨.write first more next,false⟩,server,toServer,toClient⟩ value :=
  .byClient (.waited (.polled { hangup := true })) ⟨_,_,.refl,fails⟩ ⟨rfl,rfl,fun _ => gone⟩ rfl

theorem may_find_end {next : Except Failure Bytes → Thread α} (gone : server.thread.isDone = true)
    (fails : next (.error (.transportError "RPC peer closed before frame completed")) = .done value) :
    Connection.MayReturn ⟨⟨.read more buffer next,false⟩,server,toServer,[]⟩ value := by
  refine .byClient found ?_ (found_calm _) rfl
  exact .byClient (.transferred .nothing) ⟨_,_,.refl,fails⟩ ⟨rfl,rfl,gone⟩ rfl

end AutoRuntime.TcpRpc
