import AutoRuntime.LittleEndian
import AutoRuntime.Message

/-! The trace file format: a header of forty bytes, then records, each with its length fields
in front and a checksum behind. Sizes are 64-bit. -/
namespace AutoRuntime.Trace

structure TraceLimits where
  maxChannelBytes : Nat := 1024
  maxMessageTypeBytes : Nat := 1024
  maxPayloadBytes : Nat := 64 * 1024 * 1024
  deriving DecidableEq, Repr

structure PendingRecord where
  recordSequence : UInt64
  monotonicOffsetNs : UInt64
  channel : Bytes
  messageType : Bytes
  message : Message
  deriving DecidableEq, Repr

/-- The letters `ARTRACE1`. -/
def fileMagic : Bytes := [65,82,84,82,65,67,69,49]

def traceFormatVersion : UInt16 := 1

def recordMagic : UInt32 := 0x31524341

def recordVersion : UInt16 := 1

def fileHeaderBytes : Nat := 40

def recordFixedBytes : Nat := 112

def checksumBytes : Nat := 4

def minimumRecordBytes : Nat := recordFixedBytes + checksumBytes

def appendU16 (value : UInt16) : Bytes := LittleEndian.encode 2 value.toNat

def appendU32 (value : UInt32) : Bytes := LittleEndian.encode 4 value.toNat

def appendU64 (value : UInt64) : Bytes := LittleEndian.encode 8 value.toNat

/-- The readers take the unread rest of the span where the source takes an offset. -/
def readU16 (input : Bytes) : Option (UInt16 × Bytes) :=
  (LittleEndian.read 2 input).map fun (value,rest) => (UInt16.ofNat value,rest)

def readU32 (input : Bytes) : Option (UInt32 × Bytes) :=
  (LittleEndian.read 4 input).map fun (value,rest) => (UInt32.ofNat value,rest)

def readU64 (input : Bytes) : Option (UInt64 × Bytes) :=
  (LittleEndian.read 8 input).map fun (value,rest) => (UInt64.ofNat value,rest)

/-- One bit of the reflected polynomial division. -/
def crcBit (crc : UInt32) : UInt32 :=
  let mask := 0 - (crc &&& 1)
  (crc >>> 1) ^^^ (0xedb88320 &&& mask)

def crcByte (crc : UInt32) (value : UInt8) : UInt32 := crcBit^[8] (crc ^^^ value.toUInt32)

def crc32 (input : Bytes) : UInt32 := ~~~ input.foldl crcByte 0xffffffff

def sizeMax : Nat := 2^64 - 1

def checkedAdd (left right : Nat) : Option Nat := if right > sizeMax - left then none else some (left + right)

def headerBody (wallClockStartNs monotonicStartNs : UInt64) : Bytes :=
  fileMagic ++ appendU16 traceFormatVersion ++ appendU16 (UInt16.ofNat fileHeaderBytes) ++
    appendU64 wallClockStartNs ++ appendU64 monotonicStartNs ++ appendU64 0

def buildFileHeader (wallClockStartNs monotonicStartNs : UInt64) : Bytes :=
  let header := headerBody wallClockStartNs monotonicStartNs
  header ++ appendU32 (crc32 header)

/-- The size of a record in the file, if it can be written at all. -/
def recordTotal (channelSize typeSize payloadSize : Nat) : Option Nat := do
  let total ← checkedAdd minimumRecordBytes channelSize
  let total ← checkedAdd total typeSize
  checkedAdd total payloadSize

def framingPart (record : PendingRecord) (total : Nat) : Bytes :=
  appendU32 recordMagic ++ appendU16 recordVersion ++ appendU16 0 ++ appendU64 (UInt64.ofNat total) ++
    appendU64 record.recordSequence ++ appendU64 record.monotonicOffsetNs

def envelopePart (envelope : MessageEnvelope) : Bytes :=
  appendU16 envelope.version ++ appendU16 0 ++ appendU32 envelope.priority.toUInt32 ++
    appendU64 envelope.traceId ++ appendU64 envelope.spanId ++ appendU64 envelope.parentSpanId ++
    appendU64 envelope.sequence ++ appendU64 envelope.sourceTimestampNs ++
    appendU64 envelope.publishTimestampNs ++ appendU64 envelope.sourceGeneration

def sizesPart (record : PendingRecord) : Bytes :=
  appendU32 (UInt32.ofNat record.channel.length) ++
    appendU32 (UInt32.ofNat record.messageType.length) ++
    appendU64 (UInt64.ofNat record.message.payload.length)

/-- The part of fixed size. -/
def fixedPart (record : PendingRecord) (total : Nat) : Bytes :=
  framingPart record total ++ envelopePart record.message.envelope ++ sizesPart record

def recordBody (record : PendingRecord) (total : Nat) : Bytes :=
  fixedPart record total ++ record.channel ++ record.messageType ++ record.message.payload

/-- The error is the text of the exception. -/
def serializeRecord (record : PendingRecord) : Except String Bytes :=
  match recordTotal record.channel.length record.messageType.length record.message.payload.length with
  | none => .error "trace record size overflow"
  | some total =>
    let body := recordBody record total
    let output := body ++ appendU32 (crc32 body)
    if output.length ≠ total then .error "serialized trace record size mismatch" else .ok output

def validateLimits (limits : TraceLimits) : Status :=
  if limits.maxChannelBytes = 0 || limits.maxMessageTypeBytes = 0 || limits.maxPayloadBytes = 0 ||
      limits.maxChannelBytes > 2^32 - 1 || limits.maxMessageTypeBytes > 2^32 - 1 then
    ⟨.invalidArgument,"trace limits must be positive and encodable"⟩
  else
    match recordTotal limits.maxChannelBytes limits.maxMessageTypeBytes limits.maxPayloadBytes with
    | none => ⟨.invalidArgument,"trace limits exceed stream or size_t bounds"⟩
    | some maximum =>
      if maximum > 2^63 - 1 then ⟨.invalidArgument,"trace limits exceed stream or size_t bounds"⟩
      else .success

@[simp] theorem appendU16_length (value : UInt16) : (appendU16 value).length = 2 :=
  LittleEndian.encode_length 2 _

@[simp] theorem appendU32_length (value : UInt32) : (appendU32 value).length = 4 :=
  LittleEndian.encode_length 4 _

@[simp] theorem appendU64_length (value : UInt64) : (appendU64 value).length = 8 :=
  LittleEndian.encode_length 8 _

@[simp] theorem readU16_append (value : UInt16) (rest : Bytes) :
    readU16 (appendU16 value ++ rest) = some (value,rest) := by
  have bound : value.toNat % 256 ^ 2 = value.toNat := Nat.mod_eq_of_lt value.toNat_lt
  rw [readU16,appendU16,LittleEndian.read_encode,bound]
  exact congrArg (fun read => some (read,rest)) (UInt16.ofNat_toNat)

@[simp] theorem readU32_append (value : UInt32) (rest : Bytes) :
    readU32 (appendU32 value ++ rest) = some (value,rest) := by
  have bound : value.toNat % 256 ^ 4 = value.toNat := Nat.mod_eq_of_lt value.toNat_lt
  rw [readU32,appendU32,LittleEndian.read_encode,bound]
  exact congrArg (fun read => some (read,rest)) (UInt32.ofNat_toNat)

@[simp] theorem readU64_append (value : UInt64) (rest : Bytes) :
    readU64 (appendU64 value ++ rest) = some (value,rest) := by
  have bound : value.toNat % 256 ^ 8 = value.toNat := Nat.mod_eq_of_lt value.toNat_lt
  rw [readU64,appendU64,LittleEndian.read_encode,bound]
  exact congrArg (fun read => some (read,rest)) (UInt64.ofNat_toNat)

theorem readU16_some (found : readU16 input = some (value,rest)) : input = appendU16 value ++ rest := by
  obtain ⟨⟨number,tail⟩,read,same⟩ := Option.map_eq_some_iff.mp found
  obtain ⟨whole,bound⟩ := LittleEndian.read_some read
  cases same
  rw [appendU16,UInt16.toNat_ofNat_of_lt' bound]
  exact whole

theorem readU32_some (found : readU32 input = some (value,rest)) : input = appendU32 value ++ rest := by
  obtain ⟨⟨number,tail⟩,read,same⟩ := Option.map_eq_some_iff.mp found
  obtain ⟨whole,bound⟩ := LittleEndian.read_some read
  cases same
  rw [appendU32,UInt32.toNat_ofNat_of_lt' bound]
  exact whole

theorem readU64_some (found : readU64 input = some (value,rest)) : input = appendU64 value ++ rest := by
  obtain ⟨⟨number,tail⟩,read,same⟩ := Option.map_eq_some_iff.mp found
  obtain ⟨whole,bound⟩ := LittleEndian.read_some read
  cases same
  rw [appendU64,UInt64.toNat_ofNat_of_lt' bound]
  exact whole

@[simp] theorem headerBody_length (wall monotonic : UInt64) : (headerBody wall monotonic).length = 36 := by
  rfl

@[simp] theorem fixedPart_length (record : PendingRecord) (total : Nat) :
    (fixedPart record total).length = recordFixedBytes := by
  rfl

theorem recordTotal_eq (small : minimumRecordBytes + channel + type + payload ≤ sizeMax) :
    recordTotal channel type payload = some (minimumRecordBytes + channel + type + payload) := by
  have first : checkedAdd minimumRecordBytes channel = some (minimumRecordBytes + channel) :=
    if_neg (by omega)
  have second : checkedAdd (minimumRecordBytes + channel) type =
      some (minimumRecordBytes + channel + type) := if_neg (by omega)
  have third : checkedAdd (minimumRecordBytes + channel + type) payload =
      some (minimumRecordBytes + channel + type + payload) := if_neg (by omega)
  rw [recordTotal,first,Option.bind_eq_bind,Option.bind_some,second,Option.bind_some,third]

end AutoRuntime.Trace
