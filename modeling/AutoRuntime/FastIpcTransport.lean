import AutoRuntime.FastIpcFrame
import AutoRuntime.Table
import AutoRuntime.Transport

/-! The FastIPC adapter: `Publish` copies a message into a frame and sends it, `Loan` lends the
frame's memory and fills in the header at the end. What FastIPC answers is an input. -/
namespace AutoRuntime.FastIpc

inductive FastCode where
  | ok | invalidArgument | messageTooLarge | bufferTooSmall | alreadyExists | roleConflict | notFound
  | peerUnavailable | wouldBlock | timeout | dropped | closed | layoutMismatch | peerDead | staleGeneration
  | corruptData | permissionDenied | ioError | unsupported
  deriving DecidableEq, Repr

/-- `fastipc::Status`. -/
structure FastStatus where
  code : FastCode
  detail : String
  deriving DecidableEq, Repr

def mapStatus (status : FastStatus) : Status :=
  match status.code with
  | .ok => .success
  | .invalidArgument | .messageTooLarge | .bufferTooSmall => ⟨.invalidArgument,status.detail⟩
  | .alreadyExists | .roleConflict => ⟨.alreadyExists,status.detail⟩
  | .notFound | .peerUnavailable => ⟨.notFound,status.detail⟩
  | .wouldBlock => ⟨.queueFull,status.detail⟩
  | .timeout => ⟨.timeout,status.detail⟩
  | .dropped => ⟨.dropped,status.detail⟩
  | .closed => ⟨.closed,status.detail⟩
  | .layoutMismatch | .peerDead | .staleGeneration | .corruptData | .permissionDenied | .ioError =>
    ⟨.transportError,status.detail⟩
  | .unsupported => ⟨.unsupported,status.detail⟩

inductive BackpressurePolicy where
  | drop | timeout
  deriving DecidableEq, Repr

/-- Without a time the deadline is immediate. -/
structure SendOptions where
  policy : BackpressurePolicy
  wait : Option Int
  deriving DecidableEq, Repr

def defaultSendDeadline : Int := 100 * 10^6

def sendOptionsFor (qos : QosProfile) : SendOptions :=
  if qos.reliability = .bestEffort then ⟨.drop,none⟩
  else ⟨.timeout,some (if qos.deadline > 0 then qos.deadline else defaultSendDeadline)⟩

inductive FastIpcDirection where
  | publish | subscribe
  deriving DecidableEq, Repr

/-- `Create` lets no other limit through. -/
structure FastIpcEndpointConfig where
  direction : FastIpcDirection
  maxPayloadSize : UInt32
  positive : maxPayloadSize ≠ 0
  bounded : maxPayloadSize.toNat ≤ 2^32 - 1 - headerBytes
  deriving DecidableEq

inductive LoopKind where
  | copy | loaned
  deriving DecidableEq, Repr

/-- A receiver thread that has not been joined. -/
structure Receiver where
  loop : LoopKind
  exited : Bool := false
  deriving DecidableEq, Repr

/-- Of the two callbacks it matters whether they are set. -/
structure Endpoint where
  config : FastIpcEndpointConfig
  channelOpen : Bool := true
  callback : Bool := false
  loanedCallback : Bool := false
  qos : QosProfile := {}
  subscriptionId : Nat := 0
  receiver : Option Receiver := none
  deriving DecidableEq

/-- The subscriptions point to endpoints by their topics, which are distinct. -/
structure Transport where
  closed : Bool := false
  nextSubscriptionId : Nat := 1
  endpoints : Table Bytes Endpoint
  subscriptions : Table Nat Bytes := ∅
  stats : TransportStats := {}

/-- The counters after FastIPC has refused to send. -/
def countRefused (stats : TransportStats) (mapped : Status) : TransportStats :=
  let stats := stats.countPublishFailure
  if mapped.code = .dropped then stats.countDropped else stats

/-- The first section of `Publish` and of `Loan`. -/
def Transport.publishEndpoint (t : Transport) (topic : Bytes) : Result Endpoint :=
  if t.closed then .error ⟨.closed,"FastIPC transport is closed"⟩
  else
    match t.endpoints.lookup topic with
    | some endpoint =>
      if endpoint.config.direction = .publish then .ok endpoint
      else .error ⟨.notFound,"FastIPC publish endpoint is not configured"⟩
    | none => .error ⟨.notFound,"FastIPC publish endpoint is not configured"⟩

/-- The counters, the status, and what is handed to the channel, which answers. -/
def publish (t : Transport) (topic : Bytes) (message : Message) (qos : QosProfile) (answer : FastStatus) :
    TransportStats × Status × Option (Bytes × SendOptions) :=
  match t.publishEndpoint topic with
  | .error status => (t.stats.countPublishFailure,status,none)
  | .ok endpoint =>
    match encode message endpoint.config.maxPayloadSize with
    | .error status => (t.stats.countPublishFailure,status,none)
    | .ok wire =>
      if answer.code = .ok then (t.stats.countPublished,.success,some (wire,sendOptionsFor qos))
      else
        let mapped := mapStatus answer
        (countRefused t.stats mapped,mapped,some (wire,sendOptionsFor qos))

/-- A part of a frame's memory. -/
structure Span where
  start : Nat
  size : Nat
  deriving DecidableEq, Repr

/-- `FastIpcPublisherLoanBackend`, by the memory that it has on loan. -/
structure LoanBackend where
  wire : Bytes
  deriving DecidableEq, Repr

/-- The counters, the loan, and the size that the channel is asked for; the span it gives is an input. -/
def loan (t : Transport) (topic : Bytes) (payloadSize : Nat) (qos : QosProfile) (answer : Except FastStatus Bytes) :
    TransportStats × Result LoanBackend × Option (Nat × SendOptions) :=
  match t.publishEndpoint topic with
  | .error status => (t.stats.countPublishFailure,.error status,none)
  | .ok endpoint =>
    if payloadSize > endpoint.config.maxPayloadSize.toNat then
      (t.stats.countPublishFailure,.error ⟨.invalidArgument,"loan exceeds configured FastIPC payload limit"⟩,none)
    else
      let asked := (headerBytes + payloadSize,sendOptionsFor qos)
      match answer with
      | .error refusal =>
        let mapped := mapStatus refusal
        (countRefused t.stats mapped,.error mapped,some asked)
      | .ok wire => (t.stats,.ok ⟨wire⟩,some asked)

namespace LoanBackend

def data (backend : LoanBackend) : Span :=
  if backend.wire.length < headerBytes then ⟨0,0⟩ else ⟨headerBytes,backend.wire.length - headerBytes⟩

/-- The application writes a payload into the span that it was given. -/
def fill (backend : LoanBackend) (payload : Bytes) : LoanBackend := ⟨overwrite backend.wire backend.data.start payload⟩

/-- The counters, the status, and the frame that goes to the consumer; a loan without room for the
header is abandoned. -/
def publish (backend : LoanBackend) (stats : TransportStats) (envelope : MessageEnvelope) (answer : FastStatus) :
    TransportStats × Status × Option Bytes :=
  if backend.wire.length < headerBytes ∨ backend.data.size > 2^32 - 1 then
    (stats.countPublishFailure,⟨.internal,"FastIPC publisher loan has an invalid wire span"⟩,none)
  else
    let wire := writeHeader backend.wire envelope (UInt32.ofNat backend.data.size)
    let status := mapStatus answer
    if status.ok then (stats.countPublished,status,some wire)
    else (countRefused stats status,status,some wire)

end LoanBackend

theorem decode_frame {message : Message} {maximumPayload : UInt32}
    (fits : message.payload.length ≤ maximumPayload.toNat) : decode (frame message) maximumPayload =
      if message.envelope.version = messageEnvelopeVersion then .ok message
      else .error ⟨.transportError,"FastIPC frame header is incompatible"⟩ := by
  rw [decode,decodeView_frame fits]
  by_cases current : message.envelope.version = messageEnvelopeVersion
  · simp only [if_pos current]
  · simp only [if_neg current]

theorem publish_frame {t : Transport} {endpoint : Endpoint} (found : t.publishEndpoint topic = .ok endpoint)
    (published : publish t topic message qos answer = (stats,status,some (wire,options))) :
    message.payload.length ≤ endpoint.config.maxPayloadSize.toNat ∧ wire = frame message := by
  simp only [publish,found] at published
  split at published
  · simp at published
  next encoded =>
    have whole := encode_some encoded
    split at published
    all_goals
      simp only [Prod.mk.injEq,Option.some.injEq] at published
      exact ⟨whole.1,published.2.2.1.symm.trans whole.2⟩

theorem publish_fitting {t : Transport} {endpoint : Endpoint} (found : t.publishEndpoint topic = .ok endpoint)
    (fits : message.payload.length ≤ endpoint.config.maxPayloadSize.toNat) (qos : QosProfile) (answer : FastStatus) :
    publish t topic message qos answer =
      if answer.code = .ok then (t.stats.countPublished,.success,some (frame message,sendOptionsFor qos))
      else (countRefused t.stats (mapStatus answer),mapStatus answer,some (frame message,sendOptionsFor qos)) := by
  simp only [publish,found,encode_ok fits]

/-- The frame that `Encode` makes of a message is read back as that message exactly when the envelope
has the current version; `Publish` succeeds on the others too, and their frames are dropped as
incompatible. -/
theorem published_readable_iff (message : Message) :
    (∀ maximumPayload wire, encode message maximumPayload = .ok wire →
      (decode wire maximumPayload = .ok message ↔ message.envelope.version = messageEnvelopeVersion)) ∧
    ∀ (t : Transport) topic endpoint qos answer stats wire options, t.publishEndpoint topic = .ok endpoint →
      publish t topic message qos answer = (stats,.success,some (wire,options)) →
      (decode wire endpoint.config.maxPayloadSize = .ok message ↔
        message.envelope.version = messageEnvelopeVersion) ∧
      (decode wire endpoint.config.maxPayloadSize = .error ⟨.transportError,"FastIPC frame header is incompatible"⟩ ↔
        message.envelope.version ≠ messageEnvelopeVersion) := by
  have read {maximumPayload : UInt32} (fits : message.payload.length ≤ maximumPayload.toNat) :
      decode (frame message) maximumPayload = .ok message ↔ message.envelope.version = messageEnvelopeVersion := by
    rw [decode_frame fits]
    by_cases current : message.envelope.version = messageEnvelopeVersion <;> simp
  refine ⟨?_,?_⟩
  · intro maximumPayload wire encoded
    have whole := encode_some encoded
    rw [whole.2]
    exact read whole.1
  · intro t topic endpoint qos answer stats wire options found published
    have whole := publish_frame found published
    rw [whole.2]
    rw [decode_frame whole.1]
    by_cases current : message.envelope.version = messageEnvelopeVersion <;> simp

def cameraConfig : FastIpcEndpointConfig := ⟨.publish,4096,by decide,by decide⟩

def camera : Transport := { endpoints := AList.singleton [99] { config := cameraConfig } }

def picture (version : UInt16) : Message := ⟨{ version := version, sequence := 7, priority := -1 },[1,2,3]⟩

theorem published_readable_iff_sample :
    publish camera [99] (picture 1) {} ⟨.ok,""⟩ = (⟨1,0,0,0⟩,.success,some (frame (picture 1),sendOptionsFor {})) ∧
    decode (frame (picture 1)) 4096 = .ok (picture 1) := by
  have found : camera.publishEndpoint [99] = .ok { config := cameraConfig } := rfl
  have published : publish camera [99] (picture 1) {} ⟨.ok,""⟩ =
      (⟨1,0,0,0⟩,.success,some (frame (picture 1),sendOptionsFor {})) :=
    publish_fitting found (by decide) {} ⟨.ok,""⟩
  have readable := (published_readable_iff (picture 1)).2 camera [99] _ {} ⟨.ok,""⟩ _ _ _ found published
  exact ⟨published,readable.1.mpr rfl⟩

/-- A message of another version is published and cannot be read. -/
theorem published_unreadable :
    publish camera [99] (picture 2) {} ⟨.ok,""⟩ = (⟨1,0,0,0⟩,.success,some (frame (picture 2),sendOptionsFor {})) ∧
    encode (picture 2) 4096 = .ok (frame (picture 2)) ∧
    decode (frame (picture 2)) 4096 = .error ⟨.transportError,"FastIPC frame header is incompatible"⟩ := by
  have found : camera.publishEndpoint [99] = .ok { config := cameraConfig } := rfl
  refine ⟨publish_fitting found (by decide) {} ⟨.ok,""⟩,encode_ok (by decide),?_⟩
  rw [decode_frame (by decide),if_neg (by decide)]

end AutoRuntime.FastIpc
