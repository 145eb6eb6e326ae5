import AutoRuntime.TcpRpc

/-! Calls over TCP are transparent: whatever the system makes of the transfers, a call comes to
what the handler of its method makes of its payload. -/
namespace AutoRuntime.TcpRpc

open Process List
open Discovery (NetworkEndpoint)

/-- What a call comes to by its purpose. -/
def remoteOutcome (server : RpcServer) (method payload : Bytes) : Outcome Bytes :=
  match server.handlers.lookup method with
  | none => .error methodNotRegistered
  | some handler =>
    match handler payload with
    | .returned (.ok response) =>
      if response.length ≤ server.config.maxRequestBytes then .ok response else .error responseTooLarge
    | .returned (.error failed) => .error (failed.cut maximumDetailBytes)
    | .threw what => .error ((handlerThrew what).cut maximumDetailBytes)
    | .threwUnknown => .error (.internal "RPC handler threw")

/-- What a reply says to the caller. -/
def Reply.outcome (reply : Reply) : Outcome Bytes :=
  if failed : reply.code ≠ .ok then .error ⟨reply.code,reply.detail,failed⟩ else .ok reply.payload

theorem reply_error (server : RpcServer) (failed : Failure) :
    (reply server (.error failed)).outcome = .error (failed.cut maximumDetailBytes) :=
  dif_pos failed.failed

theorem reply_outcome (server : RpcServer) (method payload : Bytes)
    (timely : (DdsRpc.deadlineAfter (Chrono.milliseconds timeoutMilliseconds.toNat) made).expired checked = false) :
    (reply server (dispatch server timeoutMilliseconds made checked method payload)).outcome =
      remoteOutcome server method payload := by
  cases registered : server.handlers.lookup method with
  | none =>
    simp only [dispatch,remoteOutcome,registered]
    exact reply_error server methodNotRegistered
  | some handler =>
    simp only [dispatch,remoteOutcome,registered,timely,Bool.false_eq_true,if_false]
    cases handler payload with
    | threw what => exact reply_error server (handlerThrew what)
    | threwUnknown => exact reply_error server (.internal "RPC handler threw")
    | returned response =>
      cases response with
      | error failed => exact reply_error server failed
      | ok =>
        simp only [reply]
        split
        next large =>
          rw [if_neg (by omega)]
          rfl
        next small =>
          rw [if_pos (by omega)]
          rfl

theorem reply_sized (server : RpcServer) (response : Outcome Bytes) :
    (reply server response).detail.length ≤ maximumDetailBytes ∧
      (reply server response).payload.length ≤ absolutePayloadLimit := by
  have limit := server.valid.2.1
  cases response with
  | error => exact ⟨length_take_le _ _,Nat.zero_le _⟩
  | ok =>
    simp only [reply]
    split
    · exact ⟨by decide,Nat.zero_le _⟩
    · exact ⟨Nat.zero_le _,by simp only; omega⟩

theorem size_toNat (small : size ≤ absolutePayloadLimit) : (UInt32.ofNat size).toNat = size := by
  simp only [absolutePayloadLimit] at small
  rw [UInt32.toNat_ofNat',Nat.mod_eq_of_lt (by omega)]

theorem readReply_writeReply {answer : Reply} (detailed : answer.detail.length ≤ maximumDetailBytes)
    (sized : answer.payload.length ≤ absolutePayloadLimit) (ended : cont (.ok ()) = done b) :
    Concludes (readReply requestId).run ((writeReply requestId answer).run >>= cont) [] [] answer.outcome b := by
  have detailSize := size_toNat (Nat.le_trans detailed (by decide))
  have payloadSize := size_toNat sized
  obtain ⟨magic,version,code,number,detailField,payloadField⟩ := responseHeader_loads answer.code requestId
    (.ofNat answer.detail.length) (.ofNat answer.payload.length)
  have headed := responseHeader_length answer.code requestId
    (.ofNat answer.detail.length) (.ofNat answer.payload.length)
  simp only [writeReply,ExceptT.run_bind,bind_assoc]
  refine .write_right ?_
  simp only [bind_assoc]
  refine .write_right ?_
  refine .write_right ?_
  simp only [ended,nil_append,append_assoc,readReply,ExceptT.run_bind]
  refine .read_left ?_ headed
  simp only [magic,version,code,number,detailField,payloadField,StatusCode.ofRaw_raw,detailSize,payloadSize,
    Nat.not_lt.mpr detailed,Nat.not_lt.mpr sized]
  simp only [ne_eq,not_true,decide_false,Bool.or_false,Bool.false_eq_true,if_false,ExceptT.run_bind]
  refine .read_left ?_ rfl
  refine .drain_left ?_ rfl
  simp only [Reply.outcome]
  split <;> exact .finished

theorem exchange_handleConnection (made checked : Int) (stats : RpcServerStats) (numbered : requestId ≠ 0)
    (timed : timeoutMilliseconds ≠ 0) (named : method ≠ []) (short : method.length ≤ maximumMethodBytes)
    (sized : payload.length ≤ server.config.maxRequestBytes) :
    let response := dispatch server timeoutMilliseconds made checked method payload
    Concludes (exchange requestId timeoutMilliseconds method payload).run
      (handleConnection server made checked stats) [] []
      (reply server response).outcome (stats.countRequest response).countResponse := by
  intro response
  have methodSize := size_toNat (Nat.le_trans short (by decide))
  have payloadSize := size_toNat (Nat.le_trans sized server.valid.2.1)
  obtain ⟨magic,version,number,timeoutField,methodField,payloadField⟩ := requestHeader_loads requestId
    timeoutMilliseconds (.ofNat method.length) (.ofNat payload.length)
  have headed := requestHeader_length requestId timeoutMilliseconds (.ofNat method.length) (.ofNat payload.length)
  have accepted : (decide (requestId = 0) || decide (timeoutMilliseconds = 0) || decide (method.length = 0) ||
      decide (method.length > maximumMethodBytes) ||
      decide (payload.length > server.config.maxRequestBytes)) = false := by
    simp [numbered,timed,named,short,sized]
  obtain ⟨detailed,replySized⟩ := reply_sized server response
  simp only [exchange,writeRequest,ExceptT.run_bind,bind_assoc]
  refine .write_left ?_
  simp only
  refine .write_left ?_
  simp only
  refine .write_left ?_
  simp only [nil_append,append_assoc]
  refine .read_right ?_ headed
  simp only [number,timeoutField,methodField,payloadField,methodSize,payloadSize,accepted,readRequest,
    ExceptT.run_bind,bind_assoc]
  refine .read_right ?_ rfl
  simp only [bind_assoc]
  refine .drain_right ?_ rfl
  simp only
  exact readReply_writeReply detailed replySized rfl

/-- Whatever way a connection goes calmly, its client returns this: nothing else is ever returned,
this is once enough has been transferred, and there is always a way on to it. -/
structure Transparent (start : Connection α γ) (expected : α) : Prop where
  only : ∀ value, start.MayReturn value → value = expected
  returns : ∃ work, ∀ s history, start.Reaches s history → work ≤ history.length → s.client.thread = .done expected
  completes : ∀ s history, start.Reaches s history → s.MayReturn expected

theorem transparent_of_concludes {start : Connection α γ}
    (talk : Concludes start.client.thread start.server.thread start.toServer start.toClient a b) :
    Transparent start a := by
  obtain ⟨total,talk⟩ := talk
  have begun : Conversing a b total start [] := ⟨total,talk,by simp⟩
  refine ⟨?_,⟨total,fun s history reached worked => (begun.reached reached).returns worked⟩,?_⟩
  · rintro value ⟨s,history,reached,ended⟩
    exact (begun.reached reached).returned ended
  · intro s history reached
    obtain ⟨n,onward,-⟩ := begun.reached reached
    exact Conversing.completes onward

/-- Nothing stops a call, it is connected, and no deadline has passed when it is looked at. -/
structure Undisturbed (endpoint : NetworkEndpoint) (deadline : Deadline) (entry : Entry) (made checked : Int) :
    Prop where
  going : entry.stopped = false
  early : deadline.expired entry.checkedAt = false
  addressed : socketAddress endpoint false = none
  connected : entry.refused = none
  remaining : remainingMilliseconds deadline entry.sentAt ≠ 0
  timely : (DdsRpc.deadlineAfter (Chrono.milliseconds (remainingMilliseconds deadline entry.sentAt).toNat)
    made).expired checked = false

theorem call_eq (undisturbed : Undisturbed endpoint deadline entry made checked) (named : method ≠ [])
    (short : method.length ≤ maximumMethodBytes) (small : payload.length ≤ absolutePayloadLimit) :
    call endpoint method payload deadline entry =
      (exchange (requestIdAfter entry.earlier) (remainingMilliseconds deadline entry.sentAt) method payload).run := by
  simp [call,undisturbed.going,undisturbed.early,undisturbed.addressed,undisturbed.connected,
    undisturbed.remaining,named,Nat.not_lt.mpr short,Nat.not_lt.mpr small]

theorem requestIdAfter_eq_zero_iff : requestIdAfter earlier = 0 ↔ 2^64 ∣ earlier + 1 := by
  rw [requestIdAfter,← UInt64.toNat_inj]
  simp
  omega

/-- A call and the server's side of its connection, before the first byte. -/
def connected (server : RpcServer) (made checked : Int) (stats : RpcServerStats) (endpoint : NetworkEndpoint)
    (method payload : Bytes) (deadline : Deadline) (entry : Entry) : Connection (Outcome Bytes) RpcServerStats :=
  { client := ⟨call endpoint method payload deadline entry,false⟩
    server := ⟨serve server made checked stats,false⟩ }

theorem handleConnection_zero (server : RpcServer) (made checked : Int) (stats : RpcServerStats) :
    ∃ next, handleConnection server made checked stats = .read 27 [] next ∧
      ∀ timeoutMilliseconds methodSize payloadSize,
        next (.ok (requestHeader 0 timeoutMilliseconds methodSize payloadSize)) = .done stats.countMalformed := by
  refine ⟨_,readExact_bind requestHeaderBytes _,fun timeoutMilliseconds methodSize payloadSize => ?_⟩
  obtain ⟨magic,version,number,-⟩ := requestHeader_loads 0 timeoutMilliseconds methodSize payloadSize
  rfl

theorem zero_may_find_gone (named : method ≠ []) :
    Connection.MayReturn ⟨⟨(exchange 0 timeoutMilliseconds method payload).run,false⟩,
      ⟨handleConnection server made checked stats,false⟩,[],[]⟩
      (.error (.transportError "RPC peer closed the connection")) := by
  obtain ⟨next,reads,drops⟩ := handleConnection_zero server made checked stats
  obtain ⟨first,more,rfl⟩ := exists_cons_of_ne_nil named
  simp only [exchange,writeRequest,ExceptT.run_bind,bind_assoc,reads,writeExact_bind]
  refine may_send ?_
  simp only [nil_append]
  rw [← append_nil (requestHeader ..)]
  refine may_recv ?_ (requestHeader_length ..)
  rw [drops]
  exact may_find_gone rfl rfl

theorem zero_may_find_end :
    Connection.MayReturn ⟨⟨(exchange 0 timeoutMilliseconds method payload).run,false⟩,
      ⟨handleConnection server made checked stats,false⟩,[],[]⟩
      (.error (.transportError "RPC peer closed before frame completed")) := by
  obtain ⟨next,reads,drops⟩ := handleConnection_zero server made checked stats
  simp only [exchange,writeRequest,ExceptT.run_bind,bind_assoc,reads,writeExact_bind]
  refine may_send ?_
  refine may_send ?_
  refine may_send ?_
  simp only [nil_append,append_assoc]
  refine may_recv ?_ (requestHeader_length ..)
  rw [drops]
  exact may_find_end rfl rfl

/-- A call is transparent unless the counter of its process has come round to zero, which the
server takes for a malformed request. -/
theorem call_transparent_iff {server : RpcServer} (named : method ≠ [])
    (short : method.length ≤ maximumMethodBytes) (sized : payload.length ≤ server.config.maxRequestBytes)
    (undisturbed : Undisturbed endpoint deadline entry made checked) :
    Transparent (connected server made checked stats endpoint method payload deadline entry)
      (remoteOutcome server method payload) ↔ ¬2^64 ∣ entry.earlier + 1 := by
  have calls := call_eq undisturbed named short (Nat.le_trans sized server.valid.2.1)
  rw [← requestIdAfter_eq_zero_iff]
  simp only [connected,calls]
  constructor
  · intro transparent zero
    rw [zero] at transparent
    have gone := transparent.only _ (zero_may_find_gone named)
    have ended := transparent.only _ zero_may_find_end
    exact absurd (Except.error.inj (gone.trans ended.symm)) (by decide)
  · intro numbered
    rw [← reply_outcome server method payload undisturbed.timely]
    exact transparent_of_concludes
      (exchange_handleConnection made checked _ numbered undisturbed.remaining named short sized)

def echo : RpcHandler := fun payload => .returned (.ok payload)

theorem sampleConfig_valid : RpcServerConfig.Valid { bindEndpoint := ⟨[48,46,48,46,48,46,48],0⟩ } := by decide

/-- A server with the default configuration and one method. -/
def sampleServer : RpcServer :=
  ⟨{ bindEndpoint := ⟨[48,46,48,46,48,46,48],0⟩ },sampleConfig_valid,AList.singleton [101] echo⟩

/-- The server at 127.0.0.1, port 7000. -/
def sampleEndpoint : NetworkEndpoint := ⟨[49,50,55,46,48,46,48,46,49],7000⟩

theorem sample_undisturbed (earlier : Nat) :
    Undisturbed sampleEndpoint .infinite { checkedAt := 0, earlier := earlier, sentAt := 1 } 2 3 :=
  ⟨rfl,rfl,by decide,rfl,show remainingMilliseconds .infinite 1 ≠ 0 by decide,
    show (DdsRpc.deadlineAfter (Chrono.milliseconds (remainingMilliseconds .infinite 1).toNat) 2).expired 3 = false by
      decide⟩

theorem call_transparent_sample :
    Transparent (connected sampleServer 2 3 {} sampleEndpoint [101] [1,2] .infinite
      { checkedAt := 0, earlier := 0, sentAt := 1 }) (.ok [1,2]) :=
  (call_transparent_iff (by decide) (by decide) (by decide) (sample_undisturbed 0)).mpr (by decide)

/-- After all the other numbers the call draws zero, and comes to a failure of the transport where
the handler gives back the payload. -/
theorem call_dropped :
    remoteOutcome sampleServer [101] [1,2] = .ok [1,2] ∧
      (connected sampleServer 2 3 {} sampleEndpoint [101] [1,2] .infinite
        { checkedAt := 0, earlier := 2^64 - 1, sentAt := 1 }).MayReturn
        (.error (.transportError "RPC peer closed before frame completed")) := by
  refine ⟨rfl,?_⟩
  have zero : requestIdAfter (2^64 - 1) = 0 := requestIdAfter_eq_zero_iff.mpr (by decide)
  rw [connected,call_eq (sample_undisturbed (2^64 - 1)) (by decide) (by decide) (by decide)]
  exact zero_may_find_end

end AutoRuntime.TcpRpc
