import AutoRuntime.TcpRpc
import AutoRuntime.Yield

/-! What `HandleConnection` makes of one connection, whatever comes over it: the ways it can end,
with the bytes that it has read and written by then. -/
namespace AutoRuntime.TcpRpc

open Chrono Process List

/-- A request with all that it announces, for a server that takes payloads up to a limit. The two
bytes after the version are not looked at. -/
structure RequestFrame (limit : Nat) where
  header : Bytes
  method : Bytes
  payload : Bytes
  headed : header.length = requestHeaderBytes
  magic : header.take 4 = requestMagic
  version : loadU16 (header.drop 4) = rpcVersion
  numbered : loadU64 (header.drop 8) ≠ 0
  timed : loadU32 (header.drop 16) ≠ 0
  methodAnnounced : (loadU32 (header.drop 20)).toNat = method.length
  payloadAnnounced : (loadU32 (header.drop 24)).toNat = payload.length
  named : method.length ≠ 0
  short : method.length ≤ maximumMethodBytes
  bounded : payload.length ≤ limit

namespace RequestFrame

def bytes (frame : RequestFrame limit) : Bytes := frame.header ++ (frame.method ++ frame.payload)

def requestId (frame : RequestFrame limit) : UInt64 := loadU64 (frame.header.drop 8)

def timeoutMilliseconds (frame : RequestFrame limit) : UInt32 := loadU32 (frame.header.drop 16)

theorem header_le_bytes (frame : RequestFrame limit) : requestHeaderBytes ≤ frame.bytes.length := by
  rw [bytes,length_append,frame.headed]
  exact Nat.le_add_right _ _

theorem header_eq {header rest : Bytes} (frame : RequestFrame limit) (begins : frame.bytes <+: header ++ rest)
    (headed : header.length = requestHeaderBytes) : frame.header = header := by
  have front : frame.header <+: header ++ rest := (prefix_append _ _).trans begins
  refine (prefix_of_prefix_length_le front (prefix_append _ _) ?_).eq_of_length ?_
  all_goals simp only [frame.headed,headed,Nat.le_refl]

/-- A stream begins with one frame at most. -/
theorem unique {stream : Bytes} (one other : RequestFrame limit) (begins : one.bytes <+: stream)
    (also : other.bytes <+: stream) : one = other := by
  obtain ⟨rest,rfl⟩ := also
  rw [show other.bytes ++ rest = other.header ++ (other.method ++ other.payload ++ rest) from
    append_assoc ..] at begins
  have same : one.header = other.header := one.header_eq begins other.headed
  have methodSize : one.method.length = other.method.length := by
    rw [← one.methodAnnounced,same,other.methodAnnounced]
  have payloadSize : one.payload.length = other.payload.length := by
    rw [← one.payloadAnnounced,same,other.payloadAnnounced]
  rw [bytes,same,prefix_append_right_inj] at begins
  have bodies : one.method ++ one.payload = other.method ++ other.payload := by
    refine (prefix_of_prefix_length_le begins (prefix_append _ _) ?_).eq_of_length ?_
    all_goals simp only [length_append,methodSize,payloadSize,Nat.le_refl]
  obtain ⟨method,payload⟩ := append_inj bodies methodSize
  cases one
  cases other
  simp only at same method payload
  subst same method payload
  rfl

/-- Its method has a handler, and its own timeout has not passed when that is looked at. -/
def Due (frame : RequestFrame limit) (server : RpcServer) (made checked : Int) : Prop :=
  (server.handlers.lookup frame.method).isSome = true ∧
    (DdsRpc.deadlineAfter (milliseconds frame.timeoutMilliseconds.toNat) made).expired checked = false

end RequestFrame

/-- How a connection ended, with the method and the request of every call of a handler. -/
inductive Visit where
  | unread
  | malformed
  | answered (requestId : UInt64) (response : Outcome Bytes) (invocations : List (Bytes × Bytes)) (written : Bool)

def Visit.invocations : Visit → List (Bytes × Bytes)
  | .answered _ _ invocations _ => invocations
  | _ => []

def Visit.count (stats : RpcServerStats) : Visit → RpcServerStats
  | .unread => stats.countIoFailure
  | .malformed => stats.countMalformed
  | .answered _ response _ true => (stats.countRequest response).countResponse
  | .answered _ response _ false => (stats.countRequest response).countIoFailure

/-- `dispatch` with the calls of handlers that it makes. -/
def dispatchNoted (server : RpcServer) (timeoutMilliseconds : UInt32) (made checked : Int)
    (method request : Bytes) : Outcome Bytes × List (Bytes × Bytes) :=
  match server.handlers.lookup method with
  | none => (.error methodNotRegistered,[])
  | some handler =>
    if (DdsRpc.deadlineAfter (milliseconds timeoutMilliseconds.toNat) made).expired checked then
      (.error (.timeout "RPC request expired before dispatch"),[])
    else
      match handler request with
      | .returned response => (response,[(method,request)])
      | .threw what => (.error (handlerThrew what),[(method,request)])
      | .threwUnknown => (.error (.internal "RPC handler threw"),[(method,request)])

/-- `handleConnection` with a note of what it did in place of the counters. -/
def attend (server : RpcServer) (made checked : Int) : Thread Visit := do
  match ← (readExact requestHeaderBytes).run with
  | .error _ => return .unread
  | .ok header =>
    if header.take 4 ≠ requestMagic || loadU16 (header.drop 4) ≠ rpcVersion then return .malformed
    else
      let requestId := loadU64 (header.drop 8)
      let timeoutMilliseconds := loadU32 (header.drop 16)
      let methodSize := (loadU32 (header.drop 20)).toNat
      let payloadSize := (loadU32 (header.drop 24)).toNat
      if requestId = 0 || timeoutMilliseconds = 0 || methodSize = 0 || methodSize > maximumMethodBytes ||
          payloadSize > server.config.maxRequestBytes then return .malformed
      else
        match ← (readRequest methodSize payloadSize).run with
        | .error _ => return .unread
        | .ok (method,request) =>
          let (response,invocations) := dispatchNoted server timeoutMilliseconds made checked method request
          match ← (writeReply requestId (reply server response)).run with
          | .ok () => return .answered requestId response invocations true
          | .error _ => return .answered requestId response invocations false

theorem dispatchNoted_response (server : RpcServer) (timeoutMilliseconds : UInt32) (made checked : Int)
    (method request : Bytes) :
    (dispatchNoted server timeoutMilliseconds made checked method request).1 =
      dispatch server timeoutMilliseconds made checked method request := by
  simp only [dispatchNoted,dispatch]
  cases server.handlers.lookup method with
  | none => rfl
  | some handler =>
    simp only
    split
    · rfl
    · cases handler request <;> rfl

/-- A handler is called for a request that is due, once and with its payload, and for no other. -/
theorem dispatchNoted_invocations (frame : RequestFrame limit) (server : RpcServer) (made checked : Int) :
    (frame.Due server made checked →
      (dispatchNoted server frame.timeoutMilliseconds made checked frame.method frame.payload).2 =
        [(frame.method,frame.payload)]) ∧
    (¬frame.Due server made checked →
      (dispatchNoted server frame.timeoutMilliseconds made checked frame.method frame.payload).2 = []) := by
  simp only [RequestFrame.Due,dispatchNoted]
  cases server.handlers.lookup frame.method with
  | none => simp
  | some handler =>
    cases (DdsRpc.deadlineAfter (milliseconds frame.timeoutMilliseconds.toNat) made).expired checked with
    | true => simp
    | false => cases ended : handler frame.payload <;> simp [ended]

/-- A note is all that is added. -/
theorem handleConnection_eq_attend (server : RpcServer) (made checked : Int) (stats : RpcServerStats) :
    handleConnection server made checked stats = Visit.count stats <$> attend server made checked := by
  simp only [handleConnection,attend,map_bind]
  congr 1
  funext read
  cases read with
  | error => rfl
  | ok =>
    simp only
    split
    · rfl
    split
    · rfl
    simp only [map_bind]
    congr 1
    funext body
    cases body with
    | error => rfl
    | ok =>
      simp only [map_bind,dispatchNoted_response]
      congr 1
      funext status
      cases status <;> rfl

theorem of_readRequest
    (yields : Yields ((readRequest methodSize payloadSize).run >>= cont) consumed sent lost value) :
    (∃ method request later, consumed = method ++ request ++ later ∧ method.length = methodSize ∧
        request.length = payloadSize ∧ Yields (cont (.ok (method,request))) later sent lost value) ∨
      ∃ piece later failed fewer, consumed = piece ++ later ∧ piece.length < methodSize + payloadSize ∧
        lost = fewer + 1 ∧ Yields (cont (.error failed)) later sent fewer value := by
  simp only [readRequest,ExceptT.run_bind,bind_assoc] at yields
  rcases yields.of_readExact with ⟨method,later,rfl,sized,rest⟩ | ⟨piece,later,failed,fewer,rfl,short,rfl,rest⟩
  · simp only [bind_assoc] at rest
    rcases rest.of_readExact with ⟨request,later,rfl,sizedToo,goes⟩ | ⟨piece,later,failed,fewer,rfl,short,rfl,goes⟩
    · exact .inl ⟨method,request,later,(append_assoc ..).symm,sized,sizedToo,goes⟩
    · refine .inr ⟨method ++ piece,later,failed,fewer,(append_assoc ..).symm,?_,rfl,goes⟩
      rw [length_append]
      omega
  · exact .inr ⟨piece,later,failed,fewer,rfl,by omega,rfl,rest⟩

/-- A response as it goes out. -/
def responseFrame (requestId : UInt64) (reply : Reply) : Bytes :=
  responseHeader reply.code requestId (.ofNat reply.detail.length) (.ofNat reply.payload.length) ++
    (reply.detail ++ reply.payload)

theorem writeReply_writes (requestId : UInt64) (answer : Reply) :
    Writes (writeReply requestId answer) (responseFrame requestId answer) :=
  Writes.seq (writes_writeExact _) (Writes.seq (writes_writeExact _) (writes_writeExact _))

/-- The ways in which a connection can end, with what was read and written and the number of
failed reads. -/
inductive Attended (server : RpcServer) (made checked : Int) : Bytes → Bytes → Nat → Visit → Prop
  | unread (short : ∀ frame : RequestFrame server.config.maxRequestBytes, ¬frame.bytes <+: consumed) :
    Attended server made checked consumed [] 1 .unread
  | malformed (bad : ∀ (frame : RequestFrame server.config.maxRequestBytes) rest, ¬frame.bytes <+: consumed ++ rest) :
    Attended server made checked consumed [] 0 .malformed
  | answered (frame : RequestFrame server.config.maxRequestBytes)
      (noted : dispatchNoted server frame.timeoutMilliseconds made checked frame.method frame.payload =
        (response,invocations))
      (part : sent <+: responseFrame frame.requestId (reply server response))
      (whole : written = true ↔ sent = responseFrame frame.requestId (reply server response)) :
    Attended server made checked frame.bytes sent 0 (.answered frame.requestId response invocations written)

theorem RequestFrame.bytes_length {header rest : Bytes} (frame : RequestFrame limit)
    (begins : frame.bytes <+: header ++ rest) (headed : header.length = requestHeaderBytes) :
    frame.bytes.length =
      header.length + ((loadU32 (header.drop 20)).toNat + (loadU32 (header.drop 24)).toNat) := by
  rw [← frame.header_eq begins headed,frame.methodAnnounced,frame.payloadAnnounced,bytes]
  simp only [length_append]

/-- The server's checks let the header of a frame pass. -/
theorem RequestFrame.passes (frame : RequestFrame limit) :
    (decide (frame.header.take 4 ≠ requestMagic) || decide (loadU16 (frame.header.drop 4) ≠ rpcVersion)) = false ∧
      (decide (loadU64 (frame.header.drop 8) = 0) || decide (loadU32 (frame.header.drop 16) = 0) ||
        decide ((loadU32 (frame.header.drop 20)).toNat = 0) ||
        decide ((loadU32 (frame.header.drop 20)).toNat > maximumMethodBytes) ||
        decide ((loadU32 (frame.header.drop 24)).toNat > limit)) = false := by
  simp only [frame.magic,frame.version,frame.methodAnnounced,frame.payloadAnnounced,Bool.or_eq_false_iff,
    decide_eq_false_iff_not,ne_eq,not_true,not_false_iff,Nat.not_lt,gt_iff_lt]
  exact ⟨⟨trivial,trivial⟩,⟨⟨⟨frame.numbered,frame.timed⟩,frame.named⟩,frame.short⟩,frame.bounded⟩

theorem attend_yields (yields : Yields (attend server made checked) consumed sent lost visit) :
    Attended server made checked consumed sent lost visit := by
  simp only [attend] at yields
  rcases yields.of_readExact with ⟨header,body,rfl,headed,checks⟩ | ⟨piece,later,failed,fewer,rfl,short,rfl,ends⟩
  rotate_left
  · obtain ⟨rfl,rfl,rfl,rfl⟩ := ends.of_done
    refine .unread fun frame begins => ?_
    have fits := begins.length_le
    have size := frame.header_le_bytes
    rw [append_nil] at fits
    omega
  simp only at checks
  split at checks
  next bad =>
    obtain ⟨rfl,rfl,rfl,rfl⟩ := checks.of_done
    refine .malformed fun frame rest begins => ?_
    rw [append_nil] at begins
    obtain rfl := frame.header_eq begins headed
    exact Bool.false_ne_true (frame.passes.1.symm.trans bad)
  next known =>
  split at checks
  next bad =>
    obtain ⟨rfl,rfl,rfl,rfl⟩ := checks.of_done
    refine .malformed fun frame rest begins => ?_
    rw [append_nil] at begins
    obtain rfl := frame.header_eq begins headed
    exact Bool.false_ne_true (frame.passes.2.symm.trans bad)
  next bounded =>
  rcases of_readRequest checks with
    ⟨method,request,later,rfl,sized,sizedToo,replies⟩ | ⟨piece,later,failed,fewer,rfl,short,rfl,ends⟩
  rotate_left
  · obtain ⟨rfl,rfl,rfl,rfl⟩ := ends.of_done
    refine .unread fun frame begins => ?_
    have size := frame.bytes_length begins headed
    have fits := begins.length_le
    simp only [length_append,length_nil] at fits
    omega
  simp only [Bool.or_eq_true,decide_eq_true_eq,not_or,ne_eq,not_not,Nat.not_lt,gt_iff_lt] at known bounded
  let frame : RequestFrame server.config.maxRequestBytes :=
    ⟨header,method,request,headed,known.1,known.2,bounded.1.1.1.1,bounded.1.1.1.2,sized.symm,sizedToo.symm,
      sized ▸ bounded.1.1.2,sized ▸ bounded.1.2,sizedToo ▸ bounded.2⟩
  simp only at replies
  rcases writeReply_writes _ _ replies with ⟨later,rfl,ends⟩ | ⟨piece,later,failed,rfl,part,short,ends⟩
  · obtain ⟨rfl,rfl,rfl,rfl⟩ := ends.of_done
    simp only [append_nil]
    exact .answered frame rfl (prefix_refl _) (iff_of_true rfl rfl)
  · obtain ⟨rfl,rfl,rfl,rfl⟩ := ends.of_done
    simp only [append_nil]
    refine .answered frame rfl part ?_
    simp only [Bool.false_eq_true,false_iff]
    rintro rfl
    exact Nat.lt_irrefl _ short

end AutoRuntime.TcpRpc
