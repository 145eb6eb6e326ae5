import AutoRuntime.FastIpcTransport

/-! The two ways to publish and the two ways to receive over FastIPC. One receive loop copies a frame
into its buffer and decodes it there, the other takes the frame's memory and decodes it in place. -/
namespace AutoRuntime.FastIpc

open List

/-- What the channel has for a receiver: a failure, or a frame. -/
inductive Arrival where
  | failed (code : FastCode)
  | frame (wire : Bytes)
  deriving DecidableEq, Repr

/-- One turn of a receive loop: what arrives, whether the callback is set when it is looked up, and
whether it throws. -/
structure Turn where
  arrival : Arrival
  registered : Bool
  threw : Bool
  deriving DecidableEq, Repr

/-- What a turn comes to. The payload is what the callback reads. -/
inductive Verdict where
  | polled
  | stopped
  | dropped
  | called (envelope : MessageEnvelope) (payload : Bytes) (threw : Bool)
  deriving DecidableEq, Repr

/-- A turn without a frame. -/
def failureVerdict : FastCode → Verdict
  | .timeout | .peerUnavailable | .peerDead => .polled
  | .closed => .stopped
  | _ => .dropped

def Verdict.count (stats : TransportStats) : Verdict → TransportStats
  | .polled | .stopped => stats
  | .dropped | .called _ _ true => stats.countDropped
  | .called _ _ false => stats.countDelivered

/-- The counters after some turns. -/
def received (stats : TransportStats) (verdicts : List Verdict) : TransportStats := verdicts.foldl Verdict.count stats

/-- What `ReceiveCopyLoop` relies on in FastIPC's `Receive`, which gives back the buffer and the size
of the frame that is in it. A frame for which the buffer is too small is an error, and not one of
those that stand for silence or for the end of the channel. -/
structure Receives (receive : Bytes → Arrival → Bytes × Except FastCode Nat) : Prop where
  sized : (receive buffer arrival).1.length = buffer.length
  failed : (receive buffer (.failed code)).2 = .error code
  copied : wire.length ≤ buffer.length →
    (receive buffer (.frame wire)).2 = .ok wire.length ∧ (receive buffer (.frame wire)).1.take wire.length = wire
  oversized : buffer.length < wire.length → ∃ code, (receive buffer (.frame wire)).2 = .error code ∧
    code ∉ [.timeout,.peerUnavailable,.peerDead,.closed]

section

variable (receive : Bytes → Arrival → Bytes × Except FastCode Nat)

/-- A turn of `ReceiveCopyLoop`. -/
def receiveCopy (maxPayloadSize : UInt32) (buffer : Bytes) (turn : Turn) : Bytes × Verdict :=
  let (buffer,result) := receive buffer turn.arrival
  match result with
  | .error code => (buffer,failureVerdict code)
  | .ok size =>
    match decode (buffer.take size) maxPayloadSize with
    | .error _ => (buffer,.dropped)
    | .ok message =>
      if turn.registered then (buffer,.called message.envelope message.payload turn.threw) else (buffer,.dropped)

def copyLoop (maxPayloadSize : UInt32) : Bytes → List Turn → List Verdict
  | _, [] => []
  | buffer, turn :: rest =>
    let (buffer,verdict) := receiveCopy receive maxPayloadSize buffer turn
    verdict :: if verdict = .stopped then [] else copyLoop maxPayloadSize buffer rest

def receiveCopyLoop (maxPayloadSize : UInt32) (turns : List Turn) : List Verdict :=
  copyLoop receive maxPayloadSize (List.replicate (headerBytes + maxPayloadSize.toNat) 0) turns

end

/-- `FastIpcSubscriberSampleBackend::Data`. -/
def sampleData (wire : Bytes) : Bytes := if wire.length < headerBytes then [] else wire.drop headerBytes

/-- A turn of `ReceiveLoanedLoop`. -/
def receiveLoaned (maxPayloadSize : UInt32) (turn : Turn) : Verdict :=
  match turn.arrival with
  | .failed code => failureVerdict code
  | .frame wire =>
    match decodeView wire maxPayloadSize with
    | .error _ => .dropped
    | .ok decoded =>
      if turn.registered then .called decoded.envelope (sampleData wire) turn.threw else .dropped

def receiveLoanedLoop (maxPayloadSize : UInt32) : List Turn → List Verdict
  | [] => []
  | turn :: rest =>
    let verdict := receiveLoaned maxPayloadSize turn
    verdict :: if verdict = .stopped then [] else receiveLoanedLoop maxPayloadSize rest

theorem overwrite_length {wire source : Bytes} (fits : offset + source.length ≤ wire.length) :
    (overwrite wire offset source).length = wire.length := by
  simp only [overwrite,length_append,length_take,length_drop]
  omega

theorem decodeView_ok (decoded : decodeView wire maximumPayload = .ok view) :
    wire.length ≤ headerBytes + maximumPayload.toNat ∧ view.payload = sampleData wire := by
  simp only [decodeView] at decoded
  split at decoded
  · contradiction
  next large =>
    split at decoded
    · contradiction
    · split at decoded
      · contradiction
      next exact_ =>
        cases decoded
        obtain ⟨small,whole⟩ := not_or.mp exact_
        refine ⟨by omega,?_⟩
        rw [sampleData,if_neg large,take_of_length_le]
        rw [length_drop]
        omega

section

variable {receive : Bytes → Arrival → Bytes × Except FastCode Nat} (contract : Receives receive)

include contract

theorem receiveCopy_length (maxPayloadSize : UInt32) (buffer : Bytes) (turn : Turn) :
    (receiveCopy receive maxPayloadSize buffer turn).1.length = buffer.length := by
  have sized : (receive buffer turn.arrival).1.length = buffer.length := contract.sized
  simp only [receiveCopy]
  split
  · exact sized
  · split
    · exact sized
    · split <;> exact sized

theorem receiveCopy_eq {maxPayloadSize : UInt32} {buffer : Bytes}
    (room : buffer.length = headerBytes + maxPayloadSize.toNat) (turn : Turn) :
    (receiveCopy receive maxPayloadSize buffer turn).2 = receiveLoaned maxPayloadSize turn := by
  obtain ⟨arrival,registered,threw⟩ := turn
  cases arrival with
  | failed code => simp only [receiveCopy,contract.failed,receiveLoaned]
  | frame wire =>
    by_cases fits : wire.length ≤ buffer.length
    · obtain ⟨size,front⟩ := contract.copied fits
      simp only [receiveCopy,size,front,receiveLoaned,decode]
      cases view : decodeView wire maxPayloadSize with
      | error => rfl
      | ok =>
        have payload := (decodeView_ok view).2
        cases registered with
        | true => simp [payload]
        | false => rfl
    · obtain ⟨code,refused,apart⟩ := contract.oversized (Nat.lt_of_not_le fits)
      have dropped : failureVerdict code = .dropped := by cases code <;> simp [failureVerdict] at apart ⊢
      simp only [receiveCopy,refused,dropped,receiveLoaned]
      cases view : decodeView wire maxPayloadSize with
      | error => rfl
      | ok decoded =>
        have small := (decodeView_ok view).1
        omega

theorem copyLoop_eq {maxPayloadSize : UInt32} (turns : List Turn) {buffer : Bytes}
    (room : buffer.length = headerBytes + maxPayloadSize.toNat) :
    copyLoop receive maxPayloadSize buffer turns = receiveLoanedLoop maxPayloadSize turns := by
  induction turns generalizing buffer with
  | nil => rfl
  | cons turn rest ih =>
    have kept := receiveCopy_length contract maxPayloadSize buffer turn
    simp only [copyLoop,receiveLoanedLoop,receiveCopy_eq contract room turn]
    rw [ih (kept.trans room)]

theorem receiveCopyLoop_eq (maxPayloadSize : UInt32) (turns : List Turn) :
    receiveCopyLoop receive maxPayloadSize turns = receiveLoanedLoop maxPayloadSize turns :=
  copyLoop_eq contract turns (length_replicate ..)

end

theorem mapStatus_ok (status : FastStatus) : (mapStatus status).ok = (status.code == .ok) := by
  obtain ⟨code,detail⟩ := status
  cases code <;> rfl

theorem publish_filled {span payload : Bytes} (size : span.length = headerBytes + payload.length)
    (small : payload.length ≤ 2^32 - 1) (stats : TransportStats) (envelope : MessageEnvelope) (answer : FastStatus) :
    ((⟨span⟩ : LoanBackend).fill payload).publish stats envelope answer =
      if answer.code = .ok then (stats.countPublished,.success,some (frame ⟨envelope,payload⟩))
      else (countRefused stats (mapStatus answer),mapStatus answer,some (frame ⟨envelope,payload⟩)) := by
  have large : ¬span.length < headerBytes := by omega
  have filled : (⟨span⟩ : LoanBackend).fill payload = ⟨span.take headerBytes ++ payload⟩ := by
    rw [LoanBackend.fill,LoanBackend.data,if_neg large,overwrite_back size]
  have header : (span.take headerBytes).length = headerBytes := by
    rw [length_take]
    omega
  have length : (span.take headerBytes ++ payload).length = headerBytes + payload.length := by
    rw [length_append,header]
  have data : (⟨span.take headerBytes ++ payload⟩ : LoanBackend).data = ⟨headerBytes,payload.length⟩ := by
    rw [LoanBackend.data,length,if_neg (by omega),Nat.add_sub_cancel_left]
  have wire : writeHeader (span.take headerBytes ++ payload) envelope (UInt32.ofNat payload.length) =
      frame ⟨envelope,payload⟩ := by
    rw [writeHeader_eq,drop_left' header,frame]
  rw [filled,LoanBackend.publish,data]
  dsimp only
  rw [if_neg (by omega)]
  rw [wire,mapStatus_ok]
  by_cases sent : answer.code = .ok
  · simp [sent,mapStatus]
  · simp [sent]

/-- Whichever way a message is published, the frame, the counters and the status are the same, and
whichever way a frame is received, it is dropped alike or handed to the callback alike. The span
that an application writes to has nothing of the header. -/
theorem paths_agree (contract : Receives receive) {t : Transport} {endpoint : Endpoint}
    (found : t.publishEndpoint topic = .ok endpoint)
    {envelope : MessageEnvelope} {payload : Bytes} (current : envelope.version = messageEnvelopeVersion)
    (fits : payload.length ≤ endpoint.config.maxPayloadSize.toNat) (qos : QosProfile) (answer : FastStatus) :
    encode ⟨envelope,payload⟩ endpoint.config.maxPayloadSize = .ok (frame ⟨envelope,payload⟩) ∧
    (∃ stats status, publish t topic ⟨envelope,payload⟩ qos answer =
        (stats,status,some (frame ⟨envelope,payload⟩,sendOptionsFor qos)) ∧
      ∀ span, span.length = headerBytes + payload.length →
        loan t topic payload.length qos (.ok span) =
          (t.stats,.ok ⟨span⟩,some (headerBytes + payload.length,sendOptionsFor qos)) ∧
        (⟨span⟩ : LoanBackend).data.size = payload.length ∧
        ((⟨span⟩ : LoanBackend).fill payload).publish t.stats envelope answer =
          (stats,status,some (frame ⟨envelope,payload⟩))) ∧
    (∀ turns stats, receiveCopyLoop receive endpoint.config.maxPayloadSize turns =
        receiveLoanedLoop endpoint.config.maxPayloadSize turns ∧
      received stats (receiveCopyLoop receive endpoint.config.maxPayloadSize turns) =
        received stats (receiveLoanedLoop endpoint.config.maxPayloadSize turns)) ∧
    (∀ threw, receiveCopyLoop receive endpoint.config.maxPayloadSize
          [⟨.frame (frame ⟨envelope,payload⟩),true,threw⟩] = [.called envelope payload threw] ∧
      receiveLoanedLoop endpoint.config.maxPayloadSize [⟨.frame (frame ⟨envelope,payload⟩),true,threw⟩] =
        [.called envelope payload threw]) ∧
    ∀ (backend : LoanBackend) index, index < backend.data.size →
      headerBytes ≤ backend.data.start + index ∧ backend.data.start + index < backend.wire.length := by
  have bound := endpoint.config.maxPayloadSize.toNat_lt
  have taken (threw : Bool) : receiveLoanedLoop endpoint.config.maxPayloadSize
      [⟨.frame (frame ⟨envelope,payload⟩),true,threw⟩] = [.called envelope payload threw] := by
    have view : decodeView (frame ⟨envelope,payload⟩) endpoint.config.maxPayloadSize = .ok ⟨envelope,payload⟩ := by
      rw [decodeView_frame fits,if_pos current]
    have data : sampleData (frame ⟨envelope,payload⟩) = payload := (decodeView_ok view).2.symm
    simp [receiveLoanedLoop,receiveLoaned,view,data]
  have loops := receiveCopyLoop_eq contract endpoint.config.maxPayloadSize
  refine ⟨encode_ok fits,?_,fun turns stats => ⟨loops turns,by rw [loops turns]⟩,?_,?_⟩
  · have published : publish t topic ⟨envelope,payload⟩ qos answer = _ := publish_fitting found fits qos answer
    have same (span : Bytes) (size : span.length = headerBytes + payload.length) :
        loan t topic payload.length qos (.ok span) =
          (t.stats,.ok ⟨span⟩,some (headerBytes + payload.length,sendOptionsFor qos)) ∧
        (⟨span⟩ : LoanBackend).data.size = payload.length := by
      refine ⟨?_,?_⟩
      · simp only [loan,found]
        rw [if_neg (by omega)]
      · rw [LoanBackend.data,if_neg (by simp only; omega)]
        simp only
        omega
    by_cases sent : answer.code = .ok
    · rw [if_pos sent] at published
      refine ⟨_,_,published,fun span size => ⟨(same span size).1,(same span size).2,?_⟩⟩
      rw [publish_filled size (by omega),if_pos sent]
    · rw [if_neg sent] at published
      refine ⟨_,_,published,fun span size => ⟨(same span size).1,(same span size).2,?_⟩⟩
      rw [publish_filled size (by omega),if_neg sent]
  · intro threw
    refine ⟨?_,taken threw⟩
    rw [loops]
    exact taken threw
  · intro backend index
    rw [LoanBackend.data]
    split
    · simp
    · intro inside
      simp only at inside ⊢
      omega

/-- A `Receive` that copies a frame to the front of the buffer, and takes none that is too long. -/
def copyIn (buffer : Bytes) : Arrival → Bytes × Except FastCode Nat
  | .failed code => (buffer,.error code)
  | .frame wire =>
    if wire.length ≤ buffer.length then (overwrite buffer 0 wire,.ok wire.length)
    else (buffer,.error .bufferTooSmall)

theorem copyIn_receives : Receives copyIn where
  sized {buffer arrival} := by
    cases arrival with
    | failed => rfl
    | frame wire =>
      simp only [copyIn]
      split
      next fits => exact overwrite_length (by omega)
      · rfl
  failed := rfl
  copied fits := by
    simp only [copyIn,if_pos fits]
    exact ⟨trivial,by rw [overwrite_front,take_left]⟩
  oversized large := ⟨.bufferTooSmall,by simp only [copyIn,if_neg (Nat.not_le_of_lt large)],by decide⟩

theorem paths_agree_sample : ∃ stats status,
    publish camera [99] (picture 1) {} ⟨.ok,""⟩ = (stats,status,some (frame (picture 1),sendOptionsFor {})) ∧
    ((⟨replicate 83 0⟩ : LoanBackend).fill [1,2,3]).publish camera.stats (picture 1).envelope ⟨.ok,""⟩ =
      (stats,status,some (frame (picture 1))) ∧
    receiveCopyLoop copyIn 4096 [⟨.frame (frame (picture 1)),true,false⟩] =
      [.called (picture 1).envelope [1,2,3] false] := by
  have found : camera.publishEndpoint [99] = .ok { config := cameraConfig } := rfl
  have version : (picture 1).envelope.version = messageEnvelopeVersion := rfl
  have fits : ([1,2,3] : Bytes).length ≤ cameraConfig.maxPayloadSize.toNat := by decide
  obtain ⟨-,⟨stats,status,published,loaned⟩,-,received,-⟩ :=
    paths_agree copyIn_receives found version fits {} ⟨.ok,""⟩
  exact ⟨stats,status,published,(loaned (replicate 83 0) (by decide)).2.2,(received false).1⟩

end AutoRuntime.FastIpc
