import AutoRuntime.LittleEndian
import AutoRuntime.Message

/-! Frames of the FastIPC adapter: a header of eighty bytes, copied as the struct lies in the memory
of a little-endian host, and the payload behind it. -/
namespace AutoRuntime.FastIpc

open List Nat

def wireMagic : UInt32 := 0x49524641

def wireVersion : UInt16 := 1

/-- `sizeof(WireHeader)`, which the source asserts. -/
def headerBytes : Nat := 80

structure WireHeader where
  magic : UInt32 := wireMagic
  wireVersion : UInt16 := FastIpc.wireVersion
  headerBytes : UInt16 := UInt16.ofNat FastIpc.headerBytes
  envelopeVersion : UInt16 := messageEnvelopeVersion
  reserved16 : UInt16 := 0
  reserved32 : UInt32 := 0
  traceId : UInt64 := 0
  spanId : UInt64 := 0
  parentSpanId : UInt64 := 0
  sequence : UInt64 := 0
  sourceTimestampNs : UInt64 := 0
  publishTimestampNs : UInt64 := 0
  sourceGeneration : UInt64 := 0
  priority : Int32 := 0
  payloadBytes : UInt32 := 0
  deriving DecidableEq, Repr

namespace WireHeader

/-- The fields lie at their natural offsets and leave no gap. -/
def bytes (header : WireHeader) : Bytes :=
  LittleEndian.encode 4 header.magic.toNat ++ LittleEndian.encode 2 header.wireVersion.toNat ++
    LittleEndian.encode 2 header.headerBytes.toNat ++ LittleEndian.encode 2 header.envelopeVersion.toNat ++
    LittleEndian.encode 2 header.reserved16.toNat ++ LittleEndian.encode 4 header.reserved32.toNat ++
    LittleEndian.encode 8 header.traceId.toNat ++ LittleEndian.encode 8 header.spanId.toNat ++
    LittleEndian.encode 8 header.parentSpanId.toNat ++ LittleEndian.encode 8 header.sequence.toNat ++
    LittleEndian.encode 8 header.sourceTimestampNs.toNat ++ LittleEndian.encode 8 header.publishTimestampNs.toNat ++
    LittleEndian.encode 8 header.sourceGeneration.toNat ++ LittleEndian.encode 4 header.priority.toUInt32.toNat ++
    LittleEndian.encode 4 header.payloadBytes.toNat

/-- The integer of some bytes of a frame. -/
def field (wire : Bytes) (offset width : Nat) : Nat := LittleEndian.decode ((wire.drop offset).take width)

/-- The copy of a frame's first bytes into a header. -/
def load (wire : Bytes) : WireHeader where
  magic := UInt32.ofNat (field wire 0 4)
  wireVersion := UInt16.ofNat (field wire 4 2)
  headerBytes := UInt16.ofNat (field wire 6 2)
  envelopeVersion := UInt16.ofNat (field wire 8 2)
  reserved16 := UInt16.ofNat (field wire 10 2)
  reserved32 := UInt32.ofNat (field wire 12 4)
  traceId := UInt64.ofNat (field wire 16 8)
  spanId := UInt64.ofNat (field wire 24 8)
  parentSpanId := UInt64.ofNat (field wire 32 8)
  sequence := UInt64.ofNat (field wire 40 8)
  sourceTimestampNs := UInt64.ofNat (field wire 48 8)
  publishTimestampNs := UInt64.ofNat (field wire 56 8)
  sourceGeneration := UInt64.ofNat (field wire 64 8)
  priority := (UInt32.ofNat (field wire 72 4)).toInt32
  payloadBytes := UInt32.ofNat (field wire 76 4)

end WireHeader

/-- `memcpy` into a span. -/
def overwrite (wire : Bytes) (offset : Nat) (source : Bytes) : Bytes :=
  wire.take offset ++ source ++ wire.drop (offset + source.length)

def headerFor (envelope : MessageEnvelope) (payloadBytes : UInt32) : WireHeader :=
  { envelopeVersion := envelope.version
    traceId := envelope.traceId
    spanId := envelope.spanId
    parentSpanId := envelope.parentSpanId
    sequence := envelope.sequence
    sourceTimestampNs := envelope.sourceTimestampNs
    publishTimestampNs := envelope.publishTimestampNs
    sourceGeneration := envelope.sourceGeneration
    priority := envelope.priority
    payloadBytes := payloadBytes }

def writeHeader (wire : Bytes) (envelope : MessageEnvelope) (payloadBytes : UInt32) : Bytes :=
  overwrite wire 0 (headerFor envelope payloadBytes).bytes

def encode (message : Message) (maximumPayload : UInt32) : Result Bytes :=
  if message.payload.length > maximumPayload.toNat ∨ message.payload.length > 2^32 - 1 then
    .error ⟨.invalidArgument,"message exceeds configured FastIPC payload limit"⟩
  else
    let wire := List.replicate (headerBytes + message.payload.length) 0
    let wire := writeHeader wire message.envelope (UInt32.ofNat message.payload.length)
    .ok (if message.payload = [] then wire else overwrite wire headerBytes message.payload)

structure DecodedView where
  envelope : MessageEnvelope
  payload : Bytes
  deriving DecidableEq, Repr

/-- The header is one that this version writes. -/
def WireHeader.compatible (header : WireHeader) : Bool :=
  header.magic == wireMagic && header.wireVersion == FastIpc.wireVersion &&
    header.headerBytes.toNat == FastIpc.headerBytes &&
    header.envelopeVersion == messageEnvelopeVersion && header.reserved16 == 0 && header.reserved32 == 0

def WireHeader.envelope (header : WireHeader) : MessageEnvelope :=
  { version := header.envelopeVersion
    traceId := header.traceId
    spanId := header.spanId
    parentSpanId := header.parentSpanId
    sequence := header.sequence
    sourceTimestampNs := header.sourceTimestampNs
    publishTimestampNs := header.publishTimestampNs
    sourceGeneration := header.sourceGeneration
    priority := header.priority }

def decodeView (wire : Bytes) (maximumPayload : UInt32) : Result DecodedView :=
  if wire.length < headerBytes then .error ⟨.transportError,"FastIPC frame is smaller than its header"⟩
  else
    let header := WireHeader.load wire
    if header.compatible = false then .error ⟨.transportError,"FastIPC frame header is incompatible"⟩
    else
      let payloadBytes := header.payloadBytes.toNat
      if payloadBytes > maximumPayload.toNat ∨ headerBytes + payloadBytes ≠ wire.length then
        .error ⟨.transportError,"FastIPC frame payload length is invalid"⟩
      else .ok ⟨header.envelope,(wire.drop headerBytes).take payloadBytes⟩

def decode (wire : Bytes) (maximumPayload : UInt32) : Result Message :=
  match decodeView wire maximumPayload with
  | .error status => .error status
  | .ok decoded => .ok ⟨decoded.envelope,decoded.payload⟩

namespace WireHeader

theorem bytes_length (header : WireHeader) : header.bytes.length = FastIpc.headerBytes := by
  simp only [bytes,length_append]
  rfl

theorem field_here (width value : Nat) (rest : Bytes) :
    field (LittleEndian.encode width value ++ rest) 0 width = value % 256 ^ width := by
  rw [field,drop_zero,take_left' (LittleEndian.encode_length width value),LittleEndian.decode_encode]

theorem field_beyond {size offset : Nat} (beyond : size ≤ offset) (value width : Nat) (rest : Bytes) :
    field (LittleEndian.encode size value ++ rest) offset width = field rest (offset - size) width := by
  have skipped : (LittleEndian.encode size value ++ rest).drop offset = rest.drop (offset - size) := by
    rw [drop_append,LittleEndian.encode_length,drop_of_length_le (by simpa using beyond),nil_append]
  rw [field,skipped,field]

theorem ofNat_field16 (value : UInt16) : UInt16.ofNat (value.toNat % 256 ^ 2) = value := by
  have small : value.toNat < 256 ^ 2 := value.toNat_lt
  rw [mod_eq_of_lt small,UInt16.ofNat_toNat]

theorem ofNat_field32 (value : UInt32) : UInt32.ofNat (value.toNat % 256 ^ 4) = value := by
  have small : value.toNat < 256 ^ 4 := value.toNat_lt
  rw [mod_eq_of_lt small,UInt32.ofNat_toNat]

theorem ofNat_field64 (value : UInt64) : UInt64.ofNat (value.toNat % 256 ^ 8) = value := by
  have small : value.toNat < 256 ^ 8 := value.toNat_lt
  rw [mod_eq_of_lt small,UInt64.ofNat_toNat]

theorem load_bytes (header : WireHeader) (rest : Bytes) : load (header.bytes ++ rest) = header := by
  simp only [load,bytes,append_assoc,field_here,field_beyond,reduceLeDiff,reduceSub,
    ofNat_field16,ofNat_field32,ofNat_field64,Int32.toInt32_toUInt32]

end WireHeader

theorem headerFor_envelope (envelope : MessageEnvelope) (size : UInt32) :
    (headerFor envelope size).envelope = envelope := rfl

theorem headerFor_compatible (envelope : MessageEnvelope) (size : UInt32) :
    (headerFor envelope size).compatible = (envelope.version == messageEnvelopeVersion) := by
  simp [WireHeader.compatible,headerFor,headerBytes]

theorem overwrite_front (wire source : Bytes) : overwrite wire 0 source = source ++ wire.drop source.length := by
  simp [overwrite]

theorem overwrite_back {wire source : Bytes} (fits : wire.length = offset + source.length) :
    overwrite wire offset source = wire.take offset ++ source := by
  rw [overwrite,← fits,drop_length,append_nil]

theorem writeHeader_eq (wire : Bytes) (envelope : MessageEnvelope) (size : UInt32) :
    writeHeader wire envelope size = (headerFor envelope size).bytes ++ wire.drop headerBytes := by
  rw [writeHeader,overwrite_front,WireHeader.bytes_length]

/-- The frame of a message: the header and the payload. -/
def frame (message : Message) : Bytes :=
  (headerFor message.envelope (UInt32.ofNat message.payload.length)).bytes ++ message.payload

theorem frame_length (message : Message) : (frame message).length = headerBytes + message.payload.length := by
  rw [frame,length_append,WireHeader.bytes_length]

theorem encode_ok {message : Message} {maximumPayload : UInt32} (fits : message.payload.length ≤ maximumPayload.toNat) :
    encode message maximumPayload = .ok (frame message) := by
  have bound := maximumPayload.toNat_lt
  have admitted : ¬(message.payload.length > maximumPayload.toNat ∨ message.payload.length > 2^32 - 1) := by omega
  rw [encode,if_neg admitted]
  by_cases empty : message.payload = []
  · simp [empty,writeHeader_eq,frame]
  · have written : (writeHeader (replicate (headerBytes + message.payload.length) 0) message.envelope
        (UInt32.ofNat message.payload.length)).length = headerBytes + message.payload.length := by
      simp [writeHeader_eq,WireHeader.bytes_length]
    simp only [if_neg empty,overwrite_back written]
    rw [writeHeader_eq,take_left' (WireHeader.bytes_length _),frame]

theorem encode_some (encoded : encode message maximumPayload = .ok wire) :
    message.payload.length ≤ maximumPayload.toNat ∧ wire = frame message := by
  by_cases fits : message.payload.length ≤ maximumPayload.toNat
  · rw [encode_ok fits] at encoded
    exact ⟨fits,(Except.ok.inj encoded).symm⟩
  · rw [encode,if_pos (by omega)] at encoded
    contradiction

theorem decodeView_frame {message : Message} {maximumPayload : UInt32}
    (fits : message.payload.length ≤ maximumPayload.toNat) :
    decodeView (frame message) maximumPayload =
      if message.envelope.version = messageEnvelopeVersion then .ok ⟨message.envelope,message.payload⟩
      else .error ⟨.transportError,"FastIPC frame header is incompatible"⟩ := by
  have bound := maximumPayload.toNat_lt
  have length := frame_length message
  have size : (UInt32.ofNat message.payload.length).toNat = message.payload.length :=
    UInt32.toNat_ofNat_of_lt' (lt_of_le_of_lt fits bound)
  have loaded : WireHeader.load (frame message) =
      headerFor message.envelope (UInt32.ofNat message.payload.length) := WireHeader.load_bytes _ _
  have payload : (frame message).drop headerBytes = message.payload := drop_left' (WireHeader.bytes_length _)
  rw [decodeView,if_neg (by omega),loaded]
  dsimp only
  rw [headerFor_compatible]
  by_cases current : message.envelope.version = messageEnvelopeVersion
  · have announced : (headerFor message.envelope (UInt32.ofNat message.payload.length)).payloadBytes.toNat =
        message.payload.length := size
    simp only [current,beq_self_eq_true,Bool.true_eq_false,if_false,if_true,announced,headerFor_envelope,payload]
    rw [if_neg (by omega),take_length]
  · simp [current]

end AutoRuntime.FastIpc
