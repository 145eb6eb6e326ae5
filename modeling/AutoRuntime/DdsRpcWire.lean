import AutoRuntime.Failure
import AutoRuntime.Message
import Mathlib.Data.List.TakeWhile

/-! RPC over DDS on the wire: what a client writes, what a service makes of it and writes back,
and what the client reads from that. Clock readings are inputs. -/
namespace AutoRuntime.DdsRpc

open Chrono Option

def rpcProtocolVersion : UInt16 := 1
def maximumServiceNameBytes : Nat := 128
def maximumErrorDetailBytes : Nat := 1024
def idlMaximumPayload : Nat := 4 * 1024 * 1024
def infiniteBudget : UInt64 := 18446744073709551615

theorem idlMaximumPayload_pos : 0 < idlMaximumPayload := by decide

/-- `DdsTransport::Create` lets no other configuration through. -/
structure Config where
  maxPayloadSize : Nat
  positive : 0 < maxPayloadSize
  bounded : maxPayloadSize ≤ idlMaximumPayload

structure Guid where
  high : UInt64
  low : UInt64
  deriving DecidableEq, Repr

structure WireMessage where
  envelopeVersion : UInt16 := 0
  traceId : UInt64 := 0
  spanId : UInt64 := 0
  parentSpanId : UInt64 := 0
  messageSequence : UInt64 := 0
  sourceTimestampNs : UInt64 := 0
  publishTimestampNs : UInt64 := 0
  sourceGeneration : UInt64 := 0
  priority : Int32 := 0
  payload : Bytes := []
  deriving DecidableEq, Repr

structure RpcRequest where
  protocolVersion : UInt16
  serviceName : Bytes
  clientGuid : Guid
  requestId : UInt64
  timeoutBudgetNs : UInt64
  message : WireMessage
  deriving DecidableEq, Repr

structure RpcResponse where
  protocolVersion : UInt16
  serviceName : Bytes
  clientGuid : Guid
  requestId : UInt64
  statusCode : UInt16
  errorDetail : Bytes
  message : WireMessage
  deriving DecidableEq, Repr

def ValidServiceName (serviceName : Bytes) : Prop :=
  serviceName ≠ [] ∧ serviceName.length ≤ maximumServiceNameBytes ∧ 0 ∉ serviceName

instance : DecidablePred ValidServiceName := fun serviceName =>
  inferInstanceAs (Decidable (serviceName ≠ [] ∧ serviceName.length ≤ maximumServiceNameBytes ∧ 0 ∉ serviceName))

/-- An array of this size; a string that does not fit leaves it as it was, full of zeros. -/
def copyBoundedString (size : Nat) (source : Bytes) : Bytes :=
  if source.length ≥ size then List.replicate size 0
  else source ++ List.replicate (size - source.length) 0

def readBoundedString (source : Bytes) : Option Bytes :=
  if 0 ∈ source then some (source.takeWhile (· ≠ 0)) else none

def hashServiceName (serviceName : Bytes) : UInt64 :=
  serviceName.foldl (fun hash character => (hash ^^^ character.toUInt64) * 1099511628211) 14695981039346656037

def hexDigits : List Char := ['0','1','2','3','4','5','6','7','8','9','a','b','c','d','e','f']

def hex (value : UInt64) : String :=
  String.ofList ((List.range 16).map fun index =>
    hexDigits.getD ((value >>> UInt64.ofNat ((16 - index - 1) * 4)) &&& 15).toNat '0')

def requestTopicName (serviceName : Bytes) : String :=
  "autoruntime_rpc_request_v1_" ++ hex (hashServiceName serviceName)

def responseTopicName (serviceName : Bytes) : String :=
  "autoruntime_rpc_response_v1_" ++ hex (hashServiceName serviceName)

/-- The length travels in 32 bits. -/
def encodeMessage (message : Message) : WireMessage :=
  { envelopeVersion := message.envelope.version
    traceId := message.envelope.traceId
    spanId := message.envelope.spanId
    parentSpanId := message.envelope.parentSpanId
    messageSequence := message.envelope.sequence
    sourceTimestampNs := message.envelope.sourceTimestampNs
    publishTimestampNs := message.envelope.publishTimestampNs
    sourceGeneration := message.envelope.sourceGeneration
    priority := message.envelope.priority
    payload := message.payload.take (UInt32.ofNat message.payload.length).toNat }

/-- A sequence that is not empty has a buffer. -/
def validWireMessage (sample : WireMessage) (maxPayloadSize : Nat) : Bool :=
  sample.envelopeVersion == messageEnvelopeVersion && sample.payload.length ≤ maxPayloadSize

def decodeMessage (sample : WireMessage) : Message :=
  { envelope :=
      { version := sample.envelopeVersion
        traceId := sample.traceId
        spanId := sample.spanId
        parentSpanId := sample.parentSpanId
        sequence := sample.messageSequence
        sourceTimestampNs := sample.sourceTimestampNs
        publishTimestampNs := sample.publishTimestampNs
        sourceGeneration := sample.sourceGeneration
        priority := sample.priority }
    payload := sample.payload }

/-- The clock counts nanoseconds, so nothing is rounded. -/
def remainingBudget (deadline : Deadline) (now : Int) : UInt64 :=
  if deadline.isInfinite then infiniteBudget
  else
    let remaining := elapsed deadline.timePoint now
    if remaining ≤ 0 then 0 else UInt64.ofNat remaining.toNat

/-- `Deadline::After` on nanoseconds. -/
def deadlineAfter (duration now : Int) : Deadline :=
  if duration ≤ 0 then ⟨false,now⟩
  else if elapsed (2^63 - 1) now < duration then .infinite
  else ⟨false,now + duration⟩

def deadlineFromBudget (budget : UInt64) (now : Int) : Deadline :=
  if budget = infiniteBudget then .infinite else deadlineAfter (min budget.toNat (2^63 - 1)) now

def buildRequest (guid : Guid) (serviceName : Bytes) (requestId budget : UInt64) (request : Message) :
    RpcRequest :=
  { protocolVersion := rpcProtocolVersion
    serviceName := copyBoundedString (maximumServiceNameBytes + 1) serviceName
    clientGuid := guid
    requestId := requestId
    timeoutBudgetNs := budget
    message := encodeMessage request }

/-- The samples that `ReceiveRequests` dispatches. -/
def Dispatchable (config : Config) (serviceName : Bytes) (sample : RpcRequest) : Prop :=
  readBoundedString sample.serviceName = some serviceName ∧
    sample.protocolVersion = rpcProtocolVersion ∧ sample.clientGuid ≠ ⟨0,0⟩ ∧ sample.requestId ≠ 0 ∧
    sample.timeoutBudgetNs ≠ 0 ∧ validWireMessage sample.message config.maxPayloadSize = true

instance : Decidable (Dispatchable config serviceName sample) :=
  inferInstanceAs (Decidable (_ ∧ _ ∧ _ ∧ _ ∧ _ ∧ _))

/-- How the callback of a service ends. -/
inductive CallbackEnd where
  | returned (response : Outcome Message)
  | threw

def expiredBeforeDispatch : Failure := .timeout "DDS RPC request expired before dispatch"

def callbackThrew : Failure := .internal "DDS RPC service callback threw"

def invalidResponse : Failure := .internal "DDS RPC service returned an invalid response"

/-- The response to a sample. The clock is read when the deadline is made and when it is checked. -/
def dispatch (sample : RpcRequest) (made checked : Int) (ended : CallbackEnd) : Outcome Message :=
  if (deadlineFromBudget sample.timeoutBudgetNs made).expired checked then .error expiredBeforeDispatch
  else
    match ended with
    | .returned response => response
    | .threw => .error callbackThrew

def checkResponse (config : Config) : Outcome Message → Outcome Message
  | .ok decoded =>
    if decoded.envelope.version ≠ messageEnvelopeVersion ∨ decoded.payload.length > config.maxPayloadSize then
      .error invalidResponse
    else .ok decoded
  | .error failure => .error failure

def buildResponse (config : Config) (serviceName : Bytes) (sample : RpcRequest) (response : Outcome Message) :
    RpcResponse :=
  let head : RpcResponse :=
    { protocolVersion := rpcProtocolVersion
      serviceName := copyBoundedString (maximumServiceNameBytes + 1) serviceName
      clientGuid := sample.clientGuid
      requestId := sample.requestId
      statusCode := StatusCode.ok.raw
      errorDetail := copyBoundedString (maximumErrorDetailBytes + 1) []
      message := {} }
  match checkResponse config response with
  | .ok decoded => { head with message := encodeMessage decoded }
  | .error failure =>
    { head with
      statusCode := failure.code.raw
      errorDetail := copyBoundedString (maximumErrorDetailBytes + 1) (failure.detail.take maximumErrorDetailBytes) }

/-- What `ReceiveResponses` makes of a sample, if it does not drop it. -/
def readCompletion (config : Config) (guid : Guid) (serviceName : Bytes) (sample : RpcResponse) :
    Option (Outcome Message) := do
  let name ← readBoundedString sample.serviceName
  let detail ← readBoundedString sample.errorDetail
  if name ≠ serviceName then none
  else if sample.protocolVersion ≠ rpcProtocolVersion ∨ sample.clientGuid ≠ guid ∨ sample.requestId = 0 then none
  else
    let code ← StatusCode.ofRaw sample.statusCode
    if failed : code ≠ .ok then some (.error ⟨code,detail,failed⟩)
    else if validWireMessage sample.message config.maxPayloadSize then some (.ok (decodeMessage sample.message))
    else none

/-- The response as it reaches a client: of a detail, what a bounded string can carry. -/
def conveyed (config : Config) (response : Outcome Message) : Outcome Message :=
  (checkResponse config response).mapError fun failure =>
    { failure with detail := (failure.detail.take maximumErrorDetailBytes).takeWhile (· ≠ 0) }

theorem readBoundedString_copy (fits : source.length < size) :
    readBoundedString (copyBoundedString size source) = some (source.takeWhile (· ≠ 0)) := by
  have padded : 0 < size - source.length := Nat.sub_pos_of_lt fits
  rw [readBoundedString,copyBoundedString,if_neg (Nat.not_le.mpr fits),if_pos (by simp; omega),
    List.takeWhile_append]
  split
  next whole =>
    rw [List.takeWhile_replicate]
    simpa using (List.takeWhile_sublist _).eq_of_length whole |>.symm
  · rfl

theorem readBoundedString_name (valid : ValidServiceName serviceName) :
    readBoundedString (copyBoundedString (maximumServiceNameBytes + 1) serviceName) = some serviceName := by
  obtain ⟨-,short,clean⟩ := valid
  rw [readBoundedString_copy (Nat.lt_succ_of_le short)]
  congr 1
  refine List.takeWhile_eq_self_iff.mpr fun character member => ?_
  simpa using ne_of_mem_of_not_mem member clean

theorem decodeMessage_encode (short : message.payload.length < 2^32) :
    decodeMessage (encodeMessage message) = message := by
  have whole : (UInt32.ofNat message.payload.length).toNat = message.payload.length := by
    simpa using Nat.mod_eq_of_lt short
  simp [decodeMessage,encodeMessage,whole]

theorem checkResponse_ok (checked : checkResponse config response = .ok decoded) :
    decoded.payload.length ≤ config.maxPayloadSize := by
  cases response with
  | error => simp [checkResponse] at checked
  | ok =>
    simp only [checkResponse] at checked
    split at checked
    · contradiction
    next sound =>
      cases checked
      omega

@[simp] theorem buildResponse_clientGuid :
    (buildResponse config serviceName sample response).clientGuid = sample.clientGuid := by
  simp only [buildResponse]
  split <;> rfl

@[simp] theorem buildResponse_requestId :
    (buildResponse config serviceName sample response).requestId = sample.requestId := by
  simp only [buildResponse]
  split <;> rfl

theorem readCompletion_addressed (read : readCompletion config guid serviceName sample = some completion) :
    readBoundedString sample.serviceName = some serviceName ∧ sample.clientGuid = guid := by
  simp only [readCompletion,bind_eq_bind,bind_eq_some_iff] at read
  obtain ⟨name,named,detail,-,read⟩ := read
  split at read
  · contradiction
  next same =>
    split at read
    · contradiction
    next sound =>
      simp only [not_or,not_not] at sound same
      exact ⟨same ▸ named,sound.2.1⟩

theorem readCompletion_build
    (read : readCompletion config guid name (buildResponse responder serviceName sample response) = some completion) :
    completion = conveyed responder response := by
  have detailed (text : Bytes) (short : text.length ≤ maximumErrorDetailBytes) :=
    readBoundedString_copy (Nat.lt_succ_of_le short)
  simp only [readCompletion,bind_eq_bind,bind_eq_some_iff] at read
  obtain ⟨_,-,detail,present,read⟩ := read
  split at read
  · contradiction
  split at read
  · contradiction
  simp only [bind_eq_some_iff] at read
  obtain ⟨code,coded,read⟩ := read
  simp only [conveyed]
  cases checked : checkResponse responder response with
  | ok decoded =>
    simp only [buildResponse,checked,StatusCode.ofRaw_raw,some.injEq] at coded read
    subst coded
    have short : decoded.payload.length < 2^32 :=
      Nat.lt_of_le_of_lt ((checkResponse_ok checked).trans responder.bounded) (by decide)
    simp only [ne_eq,not_true_eq_false,↓reduceDIte,decodeMessage_encode short] at read
    split at read
    · exact (some.inj read).symm
    · contradiction
  | error failure =>
    simp only [buildResponse,checked,StatusCode.ofRaw_raw,some.injEq] at coded read present
    subst coded
    rw [detailed _ (List.length_take_le _ _)] at present
    simp only [ne_eq,failure.failed,not_false_eq_true,↓reduceDIte,some.injEq] at read
    rw [← read,← some.inj present]
    rfl

end AutoRuntime.DdsRpc
