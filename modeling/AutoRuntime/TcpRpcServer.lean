import AutoRuntime.TcpRpcTransparent
import AutoRuntime.TcpRpcVisit

/-! The server's loop of `Run` with peers that send anything in any pieces, close or fall silent.
One connection is handled after the other. -/
namespace AutoRuntime.TcpRpc

open Chrono Process List Option

/-- Why a read failed: the peer has closed, or a wait or `recv` did not go through. -/
inductive Loss where
  | closed | stopped | expired | failed
  deriving DecidableEq

def Round.loss : Round → Loss
  | .stopRequested => .stopped
  | .expired => .expired
  | _ => .failed

/-- The reads that fail by an answer. -/
def losing : Thread α → Answer → List Loss
  | .read _ _ _,.waited round =>
    match waitFor .reading round with
    | some (.error _) => [round.loss]
    | _ => []
  | .read _ _ _,.transferred .nothing => [.closed]
  | .read _ _ _,.transferred (.failed _) => [.failed]
  | _,_ => []

/-- A stop, the deadline or an error of the system ended a read. -/
def interrupted (losses : List Loss) : Bool := losses.any (· ≠ .closed)

/-- A connection that is handled: the server as its dispatch finds it, the deadline of its reads and
the clock, all that has arrived, what of it is still unread, and what was sent. It polls between
the tests at the head of a round of `WaitFor` and what the round comes to. -/
structure Accepted where
  server : RpcServer
  made : Int
  checked : Int
  ioDeadline : Deadline
  now : Int
  own : Endpoint Visit
  polling : Bool := false
  arrived : Bytes := []
  inbound : Bytes := []
  sent : Bytes := []
  closed : Bool := false
  losses : List Loss := []

inductive Happening where
  | passes (now : Int)
  | arrives (chunk : Bytes)
  | closes
  | polls
  | answers (answer : Answer)

/-- What a test of the deadline can find. The response has a deadline of its own, which is left
open. -/
def Accepted.mayExpire (s : Accepted) (found : Bool) : Bool :=
  match s.own.thread with
  | .done _ => false
  | .read _ _ _ => s.ioDeadline.expired s.now = found
  | .write _ _ _ => true

/-- A round of `WaitFor` finds a stop or the deadline, or it polls; `recv` finds the end of the
stream only when the peer has closed and all was read. -/
def Accepted.admits (s : Accepted) : Answer → Bool
  | .waited .stopRequested => !s.polling
  | .waited .expired => !s.polling && s.mayExpire true
  | .waited _ => s.polling
  | answer => .closed ∉ losing s.own.thread answer || s.inbound = [] && s.closed

/-- The clock does not go back, and nothing comes from a peer that has closed. -/
def Accepted.step (s : Accepted) : Happening → Option Accepted
  | .passes now => if now < s.now then none else some { s with now := now }
  | .arrives chunk =>
    if s.closed then none else some { s with arrived := s.arrived ++ chunk, inbound := s.inbound ++ chunk }
  | .closes => some { s with closed := true }
  | .polls => if s.own.ready || s.polling || !s.mayExpire false then none else some { s with polling := true }
  | .answers answer =>
    if !s.admits answer then none
    else do
      let (own,inbound,sent) ← s.own.take s.inbound answer
      some { s with
        own := own
        polling := false
        inbound := inbound
        sent := s.sent ++ sent
        losses := s.losses ++ losing s.own.thread answer }

/-- What is known of a connection that was handled. -/
structure Visited where
  connection : Accepted
  visit : Visit

structure Listener where
  stats : RpcServerStats := {}
  connection : Option Accepted := none

inductive ListenerAction where
  | pollFails (interrupted : Bool)
  | pollFindsNothing
  | acceptFails (again : Bool)
  | setNonBlockingFails
  | accepts (handlers : Table Bytes RpcHandler) (now made checked : Int)
  | happens (happening : Happening)
  | returns

/-- A connection as it is accepted, with the handlers and the times that its dispatch will find. -/
def accept (server : RpcServer) (handlers : Table Bytes RpcHandler) (now made checked : Int) : Accepted :=
  { server := { server with handlers := handlers }
    made := made
    checked := checked
    ioDeadline := DdsRpc.deadlineAfter (milliseconds server.config.ioTimeout) now
    now := now
    own := ⟨attend { server with handlers := handlers } made checked,false⟩ }

/-- A round of `Run`, or something that happens while a connection is handled. -/
def Listener.step (server : RpcServer) (s : Listener) (action : ListenerAction) :
    Option (Listener × List Visited) :=
  match s.connection,action with
  | none,.pollFails interrupted =>
    some ({ s with stats := if interrupted then s.stats else s.stats.countIoFailure },[])
  | none,.pollFindsNothing => some (s,[])
  | none,.acceptFails again => some ({ s with stats := if again then s.stats else s.stats.countIoFailure },[])
  | none,.setNonBlockingFails => some ({ s with stats := s.stats.countIoFailure },[])
  | none,.accepts handlers now made checked =>
    some (⟨{ s.stats with acceptedConnections := s.stats.acceptedConnections + 1 },
      some (accept server handlers now made checked)⟩,[])
  | some connection,.happens happening =>
    (connection.step happening).map fun next => ({ s with connection := some next },[])
  | some connection,.returns =>
    match connection.own.thread with
    | .done visit => some (⟨visit.count s.stats,none⟩,[⟨connection,visit⟩])
    | _ => none
  | _,_ => none

def listening (server : RpcServer) : Machine Listener ListenerAction Visited := ⟨Listener.step server⟩

/-- What an answer does to a thread: nothing, a piece moves on, or a transfer fails. -/
inductive Taken : Thread α → Bytes → List Loss → Thread α → Bytes → Bytes → Prop
  | same : Taken thread inbound [] thread inbound []
  | sends : Taken (.writing (piece ++ later) cont) inbound [] (.writing later cont) inbound piece
  | receives (fits : piece.length ≤ size) :
    Taken (.reading size buffer cont) (piece ++ left) [] (.reading (size - piece.length) (buffer ++ piece) cont) left []
  | writeFails : Taken (.write first rest cont) inbound [] (cont (.error failed)) inbound []
  | readFails (loss : Loss) : Taken (.read more buffer cont) inbound [loss] (cont (.error failed)) inbound []

theorem wait_taken {own next : Endpoint α} {round : Round} (waited : own.wait round = some next) :
    Taken own.thread inbound (losing own.thread (.waited round)) next.thread inbound [] := by
  simp only [Endpoint.wait,bind_eq_bind,bind_eq_some_iff] at waited
  obtain ⟨⟨direction,failing⟩,waits,waited⟩ := waited
  split at waited
  · contradiction
  cases thread : own.thread with
  | done => simp [thread,waiting] at waits
  | write =>
    simp only [thread] at waits
    obtain ⟨rfl,rfl⟩ := waits
    split at waited <;> cases waited
    · rw [thread]
      exact .same
    · simp only [thread]
      exact .same
    · exact .writeFails
  | read =>
    simp only [thread] at waits
    obtain ⟨rfl,rfl⟩ := waits
    simp only [losing]
    split at waited <;> cases waited
    next goes =>
      rw [goes,thread]
      exact .same
    next goes =>
      simp only [goes,thread]
      exact .same
    next failed goes =>
      simp only [goes]
      exact .readFails _

theorem transfer_taken {own next : Endpoint α} (transferred : own.transfer inbound transfer = some (next,left,sent)) :
    Taken own.thread inbound (losing own.thread (.transferred transfer)) next.thread left sent := by
  simp only [Endpoint.transfer] at transferred
  split at transferred
  rotate_left
  · contradiction
  split at transferred
  · contradiction
  next first rest following count thread =>
    split at transferred
    rotate_left
    · contradiction
    cases transferred
    have writes : own.thread = .writing ((first :: rest).take count ++ (first :: rest).drop count) following := by
      rw [thread,take_append_drop]
      rfl
    simp only [thread,losing]
    rw [← thread,writes]
    exact .sends
  next thread =>
    cases transferred
    rw [thread]
    exact .writeFails
  next thread =>
    cases transferred
    rw [thread]
    exact .writeFails
  next more buffer following count thread =>
    split at transferred
    rotate_left
    · contradiction
    next bounds =>
    cases transferred
    have size : (inbound.take count).length = count := length_take_of_le bounds.2.2
    have received : Taken (.reading (more + 1) buffer following) (inbound.take count ++ inbound.drop count) []
        (.reading (more + 1 - (inbound.take count).length) (buffer ++ inbound.take count) following)
        (inbound.drop count) [] := .receives (size.trans_le bounds.2.1)
    rw [take_append_drop,size] at received
    rw [thread]
    exact received
  next thread =>
    cases transferred
    rw [thread]
    exact .readFails _
  next thread =>
    cases transferred
    rw [thread]
    exact .readFails _
  next =>
    cases transferred
    cases own.thread <;> exact .same

theorem take_taken {own next : Endpoint α} (took : own.take inbound answer = some (next,left,sent)) :
    Taken own.thread inbound (losing own.thread answer) next.thread left sent := by
  cases answer with
  | transferred => exact transfer_taken took
  | waited =>
    obtain ⟨ready,waited,same⟩ := map_eq_some_iff.mp took
    cases same
    exact wait_taken waited

/-- What the thread yields later it yields with what was moved now. -/
theorem Taken.yields (taken : Taken thread inbound losses cont left sent) :
    ∃ piece, inbound = piece ++ left ∧ ∀ {consumed later lost value}, Yields cont consumed later lost value →
      Yields thread (piece ++ consumed) (sent ++ later) (losses.length + lost) value := by
  cases taken with
  | same => exact ⟨[],rfl,fun yields => by simpa using yields⟩
  | sends => exact ⟨[],rfl,fun yields => by simpa using yields.after_send _⟩
  | receives fits => exact ⟨_,rfl,fun yields => by simpa using yields.after_receive fits⟩
  | writeFails =>
    refine ⟨[],rfl,fun yields => ?_⟩
    rw [length_nil,Nat.zero_add]
    exact .writeFails (Nat.zero_le _) nil_prefix yields
  | readFails =>
    refine ⟨[],rfl,fun yields => ?_⟩
    rw [Nat.add_comm]
    exact .readFails (Nat.zero_le _) yields

/-- What the connection yields from here it yields as a whole with what was read and sent, and
after the end of the stream there is nothing left of it. -/
structure Accepted.Sound (s : Accepted) : Prop where
  yields : ∃ consumed, s.arrived = consumed ++ s.inbound ∧ ∀ {more later lost visit},
    Yields s.own.thread more later lost visit →
    Yields (attend s.server s.made s.checked) (consumed ++ more) (s.sent ++ later) (s.losses.length + lost) visit
  drained : .closed ∈ s.losses → s.inbound = [] ∧ s.closed = true
  overdue : .expired ∈ s.losses → s.ioDeadline.expired s.now = true

theorem accept_sound (server : RpcServer) (handlers : Table Bytes RpcHandler) (now made checked : Int) :
    (accept server handlers now made checked).Sound where
  yields := ⟨[],rfl,fun yields => by simpa [accept] using yields⟩
  drained := by simp [accept]
  overdue := by simp [accept]

theorem expired_later {deadline : Deadline} (expired : deadline.expired now = true) (later : now ≤ post) :
    deadline.expired post = true := by
  simp only [Deadline.expired,Bool.and_eq_true,decide_eq_true_eq] at expired ⊢
  exact ⟨expired.1,Int.le_trans expired.2 later⟩

/-- A loss has its cause. -/
theorem admits_cause {s : Accepted} {answer : Answer} (admitted : s.admits answer = true) :
    (.closed ∈ losing s.own.thread answer → s.inbound = [] ∧ s.closed = true) ∧
      (.expired ∈ losing s.own.thread answer → s.ioDeadline.expired s.now = true) := by
  cases answer with
  | transferred transfer =>
    refine ⟨fun closing => by simpa [Accepted.admits,closing] using admitted,fun late => ?_⟩
    cases thread : s.own.thread <;> cases transfer <;> simp [losing,thread] at late
  | waited round =>
    cases thread : s.own.thread with
    | done | write => simp [losing]
    | read =>
      cases round with
      | expired =>
        simp only [Accepted.admits,Accepted.mayExpire,thread,Bool.and_eq_true,decide_eq_true_eq] at admitted
        simp [losing,waitFor,Round.loss,admitted.2]
      | stopRequested => simp [losing,waitFor,Round.loss]
      | interrupted | failed | timedOut | polled =>
        simp only [losing]
        split <;> simp [Round.loss]

theorem step_sound {s t : Accepted} (sound : s.Sound) (stepped : s.step happening = some t) :
    t.Sound ∧ t.server = s.server := by
  obtain ⟨⟨consumed,split,yields⟩,drained,overdue⟩ := sound
  cases happening with
  | passes =>
    simp only [Accepted.step,ite_none_left_eq_some] at stepped
    obtain ⟨forward,stepped⟩ := stepped
    cases stepped
    exact ⟨⟨⟨consumed,split,yields⟩,drained,fun lost => expired_later (overdue lost) (Int.not_lt.mp forward)⟩,rfl⟩
  | arrives =>
    simp only [Accepted.step,ite_none_left_eq_some] at stepped
    obtain ⟨isOpen,stepped⟩ := stepped
    cases stepped
    refine ⟨⟨⟨consumed,?_,yields⟩,fun lost => absurd (drained lost).2 isOpen,overdue⟩,rfl⟩
    simp only [split,append_assoc]
  | closes =>
    cases stepped
    exact ⟨⟨⟨consumed,split,yields⟩,fun lost => ⟨(drained lost).1,rfl⟩,overdue⟩,rfl⟩
  | polls =>
    simp only [Accepted.step,ite_none_left_eq_some] at stepped
    cases stepped.2
    exact ⟨⟨⟨consumed,split,yields⟩,drained,overdue⟩,rfl⟩
  | answers =>
    simp only [Accepted.step,ite_none_left_eq_some,bind_eq_bind,bind_eq_some_iff] at stepped
    obtain ⟨possible,⟨own,inbound,sent⟩,took,stepped⟩ := stepped
    cases stepped
    have cause := admits_cause (by simpa using possible)
    obtain ⟨piece,isSplit,onward⟩ := (take_taken took).yields
    refine ⟨⟨⟨consumed ++ piece,?_,fun later => ?_⟩,fun lost => ?_,fun lost => ?_⟩,rfl⟩
    · rw [split,isSplit,append_assoc]
    · simpa only [append_assoc,length_append,Nat.add_assoc] using yields (onward later)
    · have ended := (mem_append.mp lost).elim drained cause.1
      rw [ended.1] at isSplit
      exact ⟨(append_eq_nil_iff.mp isSplit.symm).2,ended.2⟩
    · exact (mem_append.mp lost).elim overdue cause.2

/-- A connection that has come to its end has come to one of the ends there are. -/
theorem Accepted.Sound.attended {s : Accepted} (sound : s.Sound) (ended : s.own.thread = .done visit) :
    ∃ consumed, s.arrived = consumed ++ s.inbound ∧
      Attended s.server s.made s.checked consumed s.sent s.losses.length visit := by
  obtain ⟨consumed,split,yields⟩ := sound.yields
  rw [ended] at yields
  have whole := attend_yields (yields .done)
  simp only [append_nil] at whole
  exact ⟨consumed,split,whole⟩

/-- What a connection that was handled came to. A frame at the beginning of what arrived is
answered under its number, and no byte after it was read, unless the reading was interrupted; the
handler has run for a frame that is due and only then. A read runs into the deadline only when that
has passed, and the counters are those of `handleConnection`. -/
structure Served (s : Accepted) (visit : Visit) : Prop where
  unread_iff : visit = .unread ↔ s.losses ≠ []
  unread_short : visit = .unread → s.inbound = [] →
    ∀ frame : RequestFrame s.server.config.maxRequestBytes, ¬frame.bytes <+: s.arrived
  invoked_iff : visit.invocations ≠ [] ↔ interrupted s.losses = false ∧
    ∃ frame : RequestFrame s.server.config.maxRequestBytes,
      frame.bytes <+: s.arrived ∧ frame.Due s.server s.made s.checked
  answered : ∀ frame : RequestFrame s.server.config.maxRequestBytes,
    frame.bytes <+: s.arrived → interrupted s.losses = false →
    let response := dispatch s.server frame.timeoutMilliseconds s.made s.checked frame.method frame.payload
    let bytes := responseFrame frame.requestId (reply s.server response)
    s.arrived = frame.bytes ++ s.inbound ∧ s.sent <+: bytes ∧ ∃ invocations written,
      visit = .answered frame.requestId response invocations written ∧ (written = true ↔ s.sent = bytes) ∧
        (frame.Due s.server s.made s.checked → invocations = [(frame.method,frame.payload)])
  overdue : .expired ∈ s.losses → s.ioDeadline.expired s.now = true
  counted : ∀ stats, ∃ consumed, s.arrived = consumed ++ s.inbound ∧
    Yields (handleConnection s.server s.made s.checked stats) consumed s.sent s.losses.length (visit.count stats)

theorem Attended.frame_eq {s : Accepted}
    (attended : Attended s.server s.made s.checked consumed s.sent s.losses.length visit)
    (sound : s.Sound) (split : s.arrived = consumed ++ s.inbound)
    (frame : RequestFrame s.server.config.maxRequestBytes) (begins : frame.bytes <+: s.arrived)
    (smooth : interrupted s.losses = false) :
    consumed = frame.bytes ∧ ∃ response invocations written,
      visit = .answered frame.requestId response invocations written ∧
      dispatchNoted s.server frame.timeoutMilliseconds s.made s.checked frame.method frame.payload =
        (response,invocations) ∧
      s.sent <+: responseFrame frame.requestId (reply s.server response) ∧
      (written = true ↔ s.sent = responseFrame frame.requestId (reply s.server response)) := by
  generalize size : s.losses.length = lost at attended
  generalize s.sent = sent at attended
  cases attended with
  | unread short =>
    -- the one loss is the end of the stream, so nothing of it is left
    obtain ⟨loss,only⟩ := length_eq_one_iff.mp size
    cases loss with
    | stopped | expired | failed => simp [only,interrupted] at smooth
    | closed =>
      have drained := (sound.drained (only ▸ mem_singleton_self _)).1
      rw [split,drained,append_nil] at begins
      exact absurd begins (short frame)
  | malformed bad =>
    rw [split] at begins
    exact absurd begins (bad frame _)
  | answered other noted part whole =>
    obtain rfl : frame = other := frame.unique other begins ⟨s.inbound,split.symm⟩
    exact ⟨rfl,_,_,_,rfl,noted,part,whole⟩

theorem Accepted.Sound.served {s : Accepted} (sound : s.Sound) (ended : s.own.thread = .done visit) :
    Served s visit := by
  obtain ⟨consumed,split,attended⟩ := sound.attended ended
  have answers := attended.frame_eq sound split
  refine ⟨?_,fun unread drained => ?_,⟨fun invoked => ?_,?_⟩,fun frame begins smooth => ?_,sound.overdue,
    fun stats => ?_⟩
  · rw [← length_pos_iff]
    generalize s.losses.length = lost at attended
    generalize s.sent = sent at attended
    cases attended <;> simp
  · subst unread
    rw [split,drained,append_nil]
    generalize s.losses.length = lost at attended
    generalize s.sent = sent at attended
    cases attended with
    | unread short => exact short
  · generalize size : s.losses.length = lost at attended
    generalize s.sent = sent at attended
    cases attended with
    | unread | malformed => exact absurd rfl invoked
    | answered frame noted =>
      refine ⟨by simp [eq_nil_of_length_eq_zero size,interrupted],frame,⟨s.inbound,split.symm⟩,?_⟩
      refine not_not.mp fun notDue => invoked ?_
      have none := (dispatchNoted_invocations frame s.server s.made s.checked).2 notDue
      rwa [noted] at none
  · rintro ⟨smooth,frame,begins,due⟩
    obtain ⟨-,response,invocations,written,rfl,noted,-,-⟩ := answers frame begins smooth
    have one := (dispatchNoted_invocations frame s.server s.made s.checked).1 due
    rw [noted] at one
    simp only at one
    simp [Visit.invocations,one]
  · obtain ⟨rfl,response,invocations,written,rfl,noted,part,whole⟩ := answers frame begins smooth
    have same := dispatchNoted_response s.server frame.timeoutMilliseconds s.made s.checked frame.method frame.payload
    have one := (dispatchNoted_invocations frame s.server s.made s.checked).1
    rw [noted] at same one
    obtain rfl := same
    exact ⟨split,part,invocations,written,rfl,whole,one⟩
  · obtain ⟨consumed,split,yields⟩ := sound.yields
    rw [ended] at yields
    refine ⟨consumed,split,?_⟩
    rw [handleConnection_eq_attend]
    simpa using (yields .done).map (Visit.count stats)

/-- The server failed while it read the request. -/
def Visited.failedReading (visited : Visited) : Bool :=
  match visited.visit with
  | .unread => true
  | _ => false

/-- The server failed while it wrote the response. -/
def Visited.failedWriting (visited : Visited) : Bool :=
  match visited.visit with
  | .answered _ _ _ written => !written
  | _ => false

/-- Every connection that was handled was served, and is in one of the counters. -/
structure Kept (server : RpcServer) (s : Listener) (history : List Visited) : Prop where
  current : ∀ connection, s.connection = some connection →
    connection.Sound ∧ connection.server.config = server.config
  served : ∀ visited ∈ history,
    Served visited.connection visited.visit ∧ visited.connection.server.config = server.config
  accepted : s.stats.acceptedConnections = s.stats.malformedRequests + s.stats.requests +
    history.countP Visited.failedReading + s.connection.toList.length
  requests : s.stats.requests = s.stats.responses + history.countP Visited.failedWriting

theorem Kept.fails {s : Listener} (kept : Kept server s history) (failing : Bool) :
    Kept server { s with stats := if failing then s.stats else s.stats.countIoFailure } history := by
  cases failing with
  | true => exact kept
  | false => exact ⟨kept.current,kept.served,kept.accepted,kept.requests⟩

theorem Kept.returns {s : Listener} {last : Accepted} (kept : Kept server s history)
    (handled : s.connection = some last) (ended : last.own.thread = .done visit) :
    Kept server ⟨visit.count s.stats,none⟩ (history ++ [⟨last,visit⟩]) := by
  obtain ⟨sound,configured⟩ := kept.current last handled
  have accepted := kept.accepted
  have requests := kept.requests
  rw [handled] at accepted
  refine ⟨by simp,fun visited member => ?_,?_,?_⟩
  · rcases mem_append.mp member with before | now
    · exact kept.served visited before
    · rw [mem_singleton.mp now]
      exact ⟨sound.served ended,configured⟩
  all_goals
    simp only [countP_append,countP_singleton,Visited.failedReading,Visited.failedWriting]
    simp only [toList,length_singleton] at accepted ⊢
    rcases visit with _ | _ | ⟨requestId,response,invocations,_ | _⟩ <;>
      simp [Visit.count,RpcServerStats.countIoFailure,RpcServerStats.countMalformed,RpcServerStats.countRequest,
        RpcServerStats.countResponse] <;> omega

theorem step_kept {s t : Listener} (kept : Kept server s history)
    (stepped : (listening server).step s action = some (t,emitted)) : Kept server t (history ++ emitted) := by
  simp only [listening,Listener.step] at stepped
  split at stepped
  all_goals try contradiction
  case h_6 connection happening handled =>
    obtain ⟨next,goes,same⟩ := map_eq_some_iff.mp stepped
    cases same
    obtain ⟨sound,configured⟩ := kept.current connection handled
    have accepted := kept.accepted
    rw [handled] at accepted
    rw [append_nil]
    refine ⟨fun other same => ?_,kept.served,accepted,kept.requests⟩
    cases same
    obtain ⟨still,same⟩ := step_sound sound goes
    exact ⟨still,by rw [same,configured]⟩
  case h_7 connection handled =>
    split at stepped
    rotate_left
    · contradiction
    next visit ended =>
      cases stepped
      exact kept.returns handled ended
  all_goals
    cases stepped
    rw [append_nil]
  · exact kept.fails _
  · exact kept
  · exact kept.fails _
  · exact kept.fails false
  · next idle =>
    have accepted := kept.accepted
    rw [idle] at accepted
    refine ⟨fun connection same => ?_,kept.served,?_,kept.requests⟩
    · cases same
      exact ⟨accept_sound ..,rfl⟩
    · simp only [toList,length_singleton,length_nil] at accepted ⊢
      omega

theorem Kept.run (kept : Kept server s history) (ran : (listening server).run s actions = some (t,later)) :
    Kept server t (history ++ later) :=
  Machine.run_rule_from (motive := fun s history _ => Kept server s history)
    (fun _ _ _ _ _ _ kept stepped => step_kept kept stepped) kept ran

theorem initial_kept (server : RpcServer) : Kept server {} [] := ⟨by simp,by simp,rfl,rfl⟩

/-- The system can bring the connection to its end without its peer, and interrupts the reading
only when nothing is left to be read or the deadline has passed. -/
def Finishes (server : RpcServer) (stats : RpcServerStats) (s : Accepted) : Prop :=
  ∃ actions final own polling inbound sent losses visit, (listening server).run ⟨stats,some s⟩ actions =
      some (⟨final,none⟩,
        [⟨{ s with own := own, polling := polling, inbound := inbound, sent := sent, losses := losses },visit⟩]) ∧
    inbound <:+ s.inbound ∧
    (interrupted losses = true → interrupted s.losses = true ∨ inbound = [] ∨ s.ioDeadline.expired s.now = true)

theorem Finishes.head {s : Accepted} {next : Endpoint Visit} (answer : Answer) (admitted : s.admits answer = true)
    (rest : Finishes server stats { s with
      own := next, polling := false, inbound := left, sent := s.sent ++ sent
      losses := s.losses ++ losing s.own.thread answer })
    (took : s.own.take s.inbound answer = some (next,left,sent))
    (lost : losing s.own.thread answer = [] ∨ s.inbound = [] ∨ s.ioDeadline.expired s.now = true) :
    Finishes server stats s := by
  obtain ⟨actions,final,own,polling,inbound,sent,losses,visit,ran,suffix,loses⟩ := rest
  obtain ⟨piece,split,-⟩ := (take_taken took).yields
  refine ⟨.happens (.answers answer) :: actions,final,own,polling,inbound,sent,losses,visit,?_,
    suffix.trans ⟨piece,split.symm⟩,fun cut => ?_⟩
  · refine Machine.run_cons_iff.mpr ⟨_,[],_,?_,ran,rfl⟩
    simp only [listening,Listener.step,Accepted.step,admitted,took]
    rfl
  · rcases lost with none | empty | late
    · simpa [none] using loses cut
    · rw [empty] at split
      obtain ⟨-,rfl⟩ := append_eq_nil_iff.mp split.symm
      exact .inr (.inl (suffix_nil.mp suffix))
    · exact .inr (.inr late)

theorem Finishes.polls {s : Accepted} (rest : Finishes server stats { s with polling := true })
    (possible : (s.own.ready || s.polling || !s.mayExpire false) = false) : Finishes server stats s := by
  obtain ⟨actions,final,own,polling,inbound,sent,losses,visit,ran,rest⟩ := rest
  refine ⟨.happens .polls :: actions,final,own,polling,inbound,sent,losses,visit,?_,rest⟩
  refine Machine.run_cons_iff.mpr ⟨_,[],_,?_,ran,rfl⟩
  simp only [listening,Listener.step,Accepted.step,possible]
  rfl

theorem Finishes.ready {s : Accepted} (timely : s.mayExpire false = true)
    (rest : ∀ polling, Finishes server stats { s with own := ⟨s.own.thread,true⟩, polling := polling }) :
    Finishes server stats s := by
  obtain ⟨owner,made,checked,ioDeadline,now,⟨thread,ready⟩,polling,arrived,inbound,sent,closed,losses⟩ := s
  cases ready with
  | true => exact rest polling
  | false =>
    have polled : Finishes server stats
        ⟨owner,made,checked,ioDeadline,now,⟨thread,false⟩,true,arrived,inbound,sent,closed,losses⟩ := by
      cases thread with
      | done => simp [Accepted.mayExpire] at timely
      | write => exact .head found rfl (by simpa [losing] using rest false) rfl (.inl rfl)
      | read => exact .head found rfl (by simpa [found,losing,waitFor] using rest false) rfl (.inl rfl)
    cases polling with
    | true => exact polled
    | false => exact polled.polls (by simpa using timely)

/-- A read is stopped. -/
theorem Finishes.stop {s : Accepted} (reads : s.own.thread = .read more buffer cont)
    (vain : s.inbound = [] ∨ s.ioDeadline.expired s.now = true)
    (rest : ∀ failed (t : Accepted), t.own.thread = cont (.error failed) → Finishes server stats t) :
    Finishes server stats s := by
  obtain ⟨owner,made,checked,ioDeadline,now,⟨thread,ready⟩,polling,arrived,inbound,sent,closed,losses⟩ := s
  subst reads
  have idle : ∀ t : Accepted, t.own = ⟨.read more buffer cont,false⟩ → t.polling = false →
      t.inbound = [] ∨ t.ioDeadline.expired t.now = true → Finishes server stats t := by
    intro t waits still vain
    have took : t.own.take t.inbound (.waited .stopRequested) =
        some (⟨cont (.error (.cancelled "RPC operation cancelled")),false⟩,t.inbound,[]) := by
      rw [waits]
      rfl
    exact .head (.waited .stopRequested) (by simp [Accepted.admits,still]) (rest _ _ rfl) took (.inr vain)
  cases ready with
  | true => exact .head (.transferred .again) rfl (idle _ rfl rfl vain) rfl (.inl rfl)
  | false =>
    cases polling with
    | true => exact .head (.waited .timedOut) rfl (idle _ rfl rfl vain) rfl (.inl rfl)
    | false => exact idle _ rfl rfl vain

/-- Every connection can come to its end. -/
theorem finishes (s : Accepted) : Finishes server stats s := by
  generalize isThread : s.own.thread = thread
  induction thread generalizing s with
  | done visit =>
    refine ⟨[.returns],visit.count stats,s.own,s.polling,s.inbound,s.sent,s.losses,visit,?_,suffix_refl _,.inl⟩
    simp [Machine.run,listening,Listener.step,isThread]
  | write first more next ih =>
    refine .ready (by simp [Accepted.mayExpire,isThread]) fun polling => ?_
    rw [isThread]
    exact .head _ rfl (ih _ _ rfl) (send_all first more next _) (.inl rfl)
  | read more buffer next ih =>
    by_cases late : s.ioDeadline.expired s.now = true
    · exact .stop isThread (.inr late) fun failed t fails => ih _ t fails
    have timely : s.mayExpire false = true := by simpa [Accepted.mayExpire,isThread] using late
    by_cases enough : more + 1 ≤ s.inbound.length
    · refine .ready timely fun polling => ?_
      rw [isThread]
      refine .head _ rfl (ih (.ok (buffer ++ s.inbound.take (more + 1))) _ ?_)
        (recv_some ⟨Nat.succ_pos _,Nat.le_refl _,enough⟩) (.inl rfl)
      simp [reading]
    · by_cases empty : s.inbound = []
      · exact .stop isThread (.inl empty) fun failed t fails => ih _ t fails
      · -- what there is of it is read before the deadline
        refine .ready timely fun polling => ?_
        rw [isThread]
        refine .head _ rfl ?_ (recv_some ⟨length_pos_of_ne_nil empty,by omega,Nat.le_refl _⟩) (.inl rfl)
        obtain ⟨fewer,left⟩ : ∃ fewer, more + 1 - s.inbound.length = fewer + 1 := ⟨more - s.inbound.length,by omega⟩
        exact .stop (by rw [left]; rfl) (.inl drop_length) fun failed t fails => ih _ t fails

/-- A frame that has arrived in time and is due gets its handler, however far its reading is. -/
theorem Kept.finishes {current : Accepted} (kept : Kept server ⟨stats,some current⟩ history) :
    ∃ actions final last, (listening server).run ⟨stats,some current⟩ actions = some (⟨final,none⟩,[last]) ∧
      ∀ frame : RequestFrame current.server.config.maxRequestBytes, frame.bytes <+: current.arrived →
        interrupted current.losses = false → current.ioDeadline.expired current.now = false →
        frame.Due current.server current.made current.checked →
        last.visit.invocations = [(frame.method,frame.payload)] := by
  obtain ⟨actions,final,own,polling,inbound,sent,losses,visit,ran,-,loses⟩ := TcpRpc.finishes current
  refine ⟨actions,final,_,ran,fun frame begins smooth timely due => ?_⟩
  have served := ((kept.run ran).served _ (mem_append_right _ (mem_singleton_self _))).1
  have uninterrupted : interrupted losses = false := by
    refine Bool.eq_false_iff.mpr fun lost => ?_
    obtain ⟨loss,member,-⟩ := any_eq_true.mp lost
    have drained : inbound = [] := by simpa [smooth,timely] using loses lost
    exact served.unread_short (served.unread_iff.mpr (ne_nil_of_mem member)) drained frame begins
  obtain ⟨-,-,invocations,written,answered,-,one⟩ := served.answered frame begins uninterrupted
  rw [answered]
  exact one due

/-- Whatever comes over any number of connections, each that was handled was served, the counters
account for all of them, and the one that is being handled can come to its end. -/
theorem arbitrary_input_served (ran : (listening server).run {} actions = some (s,history)) :
    (∀ visited ∈ history,
      Served visited.connection visited.visit ∧ visited.connection.server.config = server.config) ∧
    (s.connection = none →
      s.stats.acceptedConnections =
        s.stats.malformedRequests + s.stats.requests + history.countP Visited.failedReading ∧
      s.stats.requests = s.stats.responses + history.countP Visited.failedWriting) ∧
    ∀ current, s.connection = some current →
      ∃ more final last, (listening server).run s more = some (⟨final,none⟩,[last]) ∧
        ∀ frame : RequestFrame current.server.config.maxRequestBytes, frame.bytes <+: current.arrived →
          interrupted current.losses = false → current.ioDeadline.expired current.now = false →
        frame.Due current.server current.made current.checked →
          last.visit.invocations = [(frame.method,frame.payload)] := by
  have kept : Kept server s history := (initial_kept server).run ran
  refine ⟨kept.served,fun idle => ?_,fun current handled => ?_⟩
  · have accepted := kept.accepted
    rw [idle] at accepted
    exact ⟨accepted,kept.requests⟩
  · obtain ⟨stats,connection⟩ := s
    obtain rfl : connection = some current := handled
    exact kept.finishes

/-- Request 7 with two bytes for the sample's method. -/
def sampleFrame : RequestFrame sampleServer.config.maxRequestBytes where
  header := requestHeader 7 250 1 2
  method := [101]
  payload := [1,2]
  headed := requestHeader_length ..
  magic := (requestHeader_loads 7 250 1 2).1
  version := (requestHeader_loads 7 250 1 2).2.1
  numbered := by simp only [requestHeader_loads 7 250 1 2]; decide
  timed := by simp only [requestHeader_loads 7 250 1 2]; decide
  methodAnnounced := by simp only [requestHeader_loads 7 250 1 2]; rfl
  payloadAnnounced := by simp only [requestHeader_loads 7 250 1 2]; rfl
  named := by decide
  short := by decide
  bounded := by decide

theorem sampleFrame_due : sampleFrame.Due sampleServer 2 3 := by
  have timeout : sampleFrame.timeoutMilliseconds = 250 := (requestHeader_loads 7 250 1 2).2.2.2.1
  simp only [RequestFrame.Due]
  decide

/-- The frame comes with a byte more, and its handler is called with its payload. -/
theorem arbitrary_input_served_sample :
    ∃ s, (listening sampleServer).run {} [.accepts sampleServer.handlers 1 2 3,
        .happens (.arrives (sampleFrame.bytes ++ [9]))] = some (s,[]) ∧
      ∃ more final last, (listening sampleServer).run s more = some (⟨final,none⟩,[last]) ∧
        last.visit.invocations = [([101],[1,2])] := by
  let current : Accepted := { accept sampleServer sampleServer.handlers 1 2 3 with
    arrived := sampleFrame.bytes ++ [9], inbound := sampleFrame.bytes ++ [9] }
  have ran : (listening sampleServer).run {} [.accepts sampleServer.handlers 1 2 3,
      .happens (.arrives (sampleFrame.bytes ++ [9]))] = some (⟨{ acceptedConnections := 1 },some current⟩,[]) := rfl
  obtain ⟨more,final,last,finishes,invoked⟩ := (arbitrary_input_served ran).2.2 current rfl
  exact ⟨_,ran,more,final,last,finishes,invoked sampleFrame (prefix_append _ _) rfl (by decide) sampleFrame_due⟩

/-- The whole frame is there in time, but a wait finds the deadline passed, a stop or an error before
it is read. -/
theorem timely_frame_unread : ∃ stats current,
    (listening sampleServer).run {} [.accepts sampleServer.handlers 1 2 3,.happens (.arrives sampleFrame.bytes)] =
      some (⟨stats,some current⟩,[]) ∧
    current.arrived = sampleFrame.bytes ∧ current.ioDeadline.expired current.now = false ∧
    sampleFrame.Due current.server current.made current.checked ∧
    ∀ round ∈ [[.passes 1000000001,.answers (.waited .expired)],[.answers (.waited .stopRequested)],
        [.polls,.answers (.waited (.failed "Bad address"))]], ∃ final last, (listening sampleServer).run ⟨stats,some current⟩
      (round.map .happens ++ [.returns]) = some (⟨final,none⟩,[last]) ∧ last.visit.invocations = [] := by
  refine ⟨_,_,rfl,rfl,by decide,sampleFrame_due,?_⟩
  simp only [forall_mem_cons]
  exact ⟨⟨_,_,rfl,rfl⟩,⟨_,_,rfl,rfl⟩,⟨_,_,rfl,rfl⟩,nofun⟩

end AutoRuntime.TcpRpc
