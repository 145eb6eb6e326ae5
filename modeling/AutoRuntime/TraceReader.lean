import AutoRuntime.TraceFormat

/-! The replayer. It reads one record after the other and stops for good at the first one that
is cut off, malformed, damaged or out of order. -/
namespace AutoRuntime.Trace

structure TraceFileInfo where
  formatVersion : UInt16
  wallClockStartNs : UInt64
  monotonicStartNs : UInt64
  deriving DecidableEq, Repr

structure TraceRecord where
  recordSequence : UInt64
  monotonicOffsetNs : UInt64
  channel : Bytes
  messageType : Bytes
  message : Message
  checksum : UInt32
  deriving DecidableEq, Repr

structure ReplayStats where
  recordsRead : Nat := 0
  payloadBytes : Nat := 0
  checksumMismatches : Nat := 0
  sequenceMismatches : Nat := 0
  truncatedRecords : Nat := 0
  formatErrors : Nat := 0
  deriving DecidableEq, Repr

inductive StreamRead where
  | ok (bytes rest : Bytes)
  | eof
  | truncated
  deriving DecidableEq, Repr

def readExact (input : Bytes) (count : Nat) (allowCleanEof : Bool) : StreamRead :=
  if count = 0 then .ok [] input
  else if input.length ≥ count then .ok (input.take count) (input.drop count)
  else if allowCleanEof && input.isEmpty then .eof
  else .truncated

def traceError (detail : String) : Status := ⟨.transportError,detail⟩

structure FileHeader where
  formatVersion : UInt16
  headerSize : UInt16
  wallClockStartNs : UInt64
  monotonicStartNs : UInt64
  reserved : UInt64
  storedChecksum : UInt32

def readFileHeader (input : Bytes) : Option FileHeader := do
  let (formatVersion,input) ← readU16 input
  let (headerSize,input) ← readU16 input
  let (wallClockStartNs,input) ← readU64 input
  let (monotonicStartNs,input) ← readU64 input
  let (reserved,input) ← readU64 input
  let (storedChecksum,_) ← readU32 input
  return ⟨formatVersion,headerSize,wallClockStartNs,monotonicStartNs,reserved,storedChecksum⟩

/-- The header of the file, and what comes after it. -/
def openAndReadHeader (file : Bytes) : Result (TraceFileInfo × Bytes) :=
  match readExact file fileHeaderBytes false with
  | .ok header rest =>
    if header.take fileMagic.length ≠ fileMagic then .error (traceError "trace file magic mismatch")
    else
      match readFileHeader (header.drop fileMagic.length) with
      | none => .error (traceError "trace header decode failed")
      | some fields =>
        if fields.formatVersion ≠ traceFormatVersion || fields.headerSize.toNat ≠ fileHeaderBytes ||
            fields.reserved ≠ 0 then
          .error (traceError "trace header version or size is unsupported")
        else if crc32 (header.take (header.length - checksumBytes)) ≠ fields.storedChecksum then
          .error (traceError "trace header checksum mismatch")
        else .ok (⟨fields.formatVersion,fields.wallClockStartNs,fields.monotonicStartNs⟩,rest)
  | _ => .error (traceError "trace header is truncated")

structure Framing where
  magic : UInt32
  version : UInt16
  flags : UInt16
  total : UInt64
  recordSequence : UInt64
  monotonicOffsetNs : UInt64

def readFraming (input : Bytes) : Option (Framing × Bytes) := do
  let (magic,input) ← readU32 input
  let (version,input) ← readU16 input
  let (flags,input) ← readU16 input
  let (total,input) ← readU64 input
  let (recordSequence,input) ← readU64 input
  let (monotonicOffsetNs,input) ← readU64 input
  return (⟨magic,version,flags,total,recordSequence,monotonicOffsetNs⟩,input)

/-- The envelope with the reserved field in it. -/
def readEnvelope (input : Bytes) : Option ((UInt16 × MessageEnvelope) × Bytes) := do
  let (version,input) ← readU16 input
  let (reserved,input) ← readU16 input
  let (priorityBits,input) ← readU32 input
  let (traceId,input) ← readU64 input
  let (spanId,input) ← readU64 input
  let (parentSpanId,input) ← readU64 input
  let (sequence,input) ← readU64 input
  let (sourceTimestampNs,input) ← readU64 input
  let (publishTimestampNs,input) ← readU64 input
  let (sourceGeneration,input) ← readU64 input
  return ((reserved,⟨version,traceId,spanId,parentSpanId,sequence,sourceTimestampNs,publishTimestampNs,
    sourceGeneration,priorityBits.toInt32⟩),input)

structure Sizes where
  channel : UInt32
  messageType : UInt32
  payload : UInt64

def readSizes (input : Bytes) : Option (Sizes × Bytes) := do
  let (channel,input) ← readU32 input
  let (messageType,input) ← readU32 input
  let (payload,input) ← readU64 input
  return (⟨channel,messageType,payload⟩,input)

structure RecordHead where
  framing : Framing
  envelopeReserved : UInt16
  envelope : MessageEnvelope
  sizes : Sizes

/-- The fixed part has to be used up. -/
def readHead (fixed : Bytes) : Option RecordHead := do
  let (framing,input) ← readFraming fixed
  let ((reserved,envelope),input) ← readEnvelope input
  let (sizes,input) ← readSizes input
  if input.isEmpty then return ⟨framing,reserved,envelope,sizes⟩ else none

inductive FaultKind where
  | truncated | format | checksum | sequence
  deriving DecidableEq, Repr

structure ReadFault where
  kind : FaultKind
  detail : String
  deriving DecidableEq, Repr

/-- The checks on the fixed part, before anything else is read. -/
def checkHead (limits : TraceLimits) (head : RecordHead) : Option ReadFault :=
  if head.framing.magic ≠ recordMagic || head.framing.version ≠ recordVersion || head.framing.flags ≠ 0 ||
      head.envelopeReserved ≠ 0 || head.framing.total.toNat < minimumRecordBytes ||
      head.framing.total.toNat > sizeMax then
    some ⟨.format,"trace record framing is invalid"⟩
  else if head.sizes.payload.toNat > sizeMax then
    some ⟨.format,"trace payload size exceeds size_t"⟩
  else if head.sizes.channel = 0 || head.sizes.messageType = 0 ||
      head.sizes.channel.toNat > limits.maxChannelBytes ||
      head.sizes.messageType.toNat > limits.maxMessageTypeBytes ||
      head.sizes.payload.toNat > limits.maxPayloadBytes then
    some ⟨.format,"trace record exceeds configured limits"⟩
  else if recordTotal head.sizes.channel.toNat head.sizes.messageType.toNat head.sizes.payload.toNat ≠
      some head.framing.total.toNat then
    some ⟨.format,"trace record length fields disagree"⟩
  else none

/-- The record in the variable part. -/
def materialize (head : RecordHead) (variablePart : Bytes) (checksum : UInt32) : TraceRecord :=
  let channel := variablePart.take head.sizes.channel.toNat
  let variablePart := variablePart.drop head.sizes.channel.toNat
  let messageType := variablePart.take head.sizes.messageType.toNat
  let variablePart := variablePart.drop head.sizes.messageType.toNat
  let payload := variablePart.take head.sizes.payload.toNat
  ⟨head.framing.recordSequence,head.framing.monotonicOffsetNs,channel,messageType,
    ⟨head.envelope,payload⟩,checksum⟩

/-- `NextLocked` once the fixed part is there: the record, and what comes after it. Memory is
taken to suffice. -/
def readRecord (limits : TraceLimits) (expectedSequence lastOffsetNs : UInt64) (fixed input : Bytes) :
    Except ReadFault (TraceRecord × Bytes) :=
  match readHead fixed with
  | none => .error ⟨.format,"trace record decode failed"⟩
  | some head =>
    match checkHead limits head with
    | some fault => .error fault
    | none =>
      let total := head.framing.total.toNat
      match readExact input (total - recordFixedBytes) false with
      | .ok remainder rest =>
        let bytes := fixed ++ remainder
        match readU32 (bytes.drop (total - checksumBytes)) with
        | some (storedChecksum,[]) =>
          if crc32 (bytes.take (total - checksumBytes)) ≠ storedChecksum then
            .error ⟨.checksum,"trace record checksum mismatch"⟩
          else if head.framing.recordSequence ≠ expectedSequence ||
              (head.framing.recordSequence > 1 && head.framing.monotonicOffsetNs < lastOffsetNs) then
            .error ⟨.sequence,"trace record sequence or timestamp regressed"⟩
          else .ok (materialize head (bytes.drop recordFixedBytes) storedChecksum,rest)
        | _ => .error ⟨.format,"trace checksum field is invalid"⟩
      | _ => .error ⟨.truncated,"trace record body is truncated"⟩

structure Replayer where
  limits : TraceLimits
  file : Bytes
  input : Bytes
  info : TraceFileInfo
  expectedSequence : UInt64 := 1
  lastOffsetNs : UInt64 := 0
  eof : Bool := false
  terminalError : Option Status := none
  stats : ReplayStats := {}

def ReplayStats.count (stats : ReplayStats) : FaultKind → ReplayStats
  | .truncated => { stats with truncatedRecords := stats.truncatedRecords + 1 }
  | .format => { stats with formatErrors := stats.formatErrors + 1 }
  | .checksum => { stats with checksumMismatches := stats.checksumMismatches + 1 }
  | .sequence => { stats with sequenceMismatches := stats.sequenceMismatches + 1 }

def Replayer.fail (r : Replayer) (fault : ReadFault) : Result (Option TraceRecord) × Replayer :=
  let status := traceError fault.detail
  (.error status,{ r with stats := r.stats.count fault.kind, terminalError := some status })

def Replayer.advance (r : Replayer) (record : TraceRecord) (rest : Bytes) : Replayer :=
  { r with
    input := rest
    expectedSequence := r.expectedSequence + 1
    lastOffsetNs := record.monotonicOffsetNs
    stats := { r.stats with
      recordsRead := r.stats.recordsRead + 1
      payloadBytes := r.stats.payloadBytes + record.message.payload.length } }

/-- `Open` on the content of a file, if there is one at the path. -/
def Replayer.open (path : Bytes) (content : Option Bytes) (limits : TraceLimits) : Result Replayer :=
  if path.isEmpty then .error ⟨.invalidArgument,"replayer requires a trace path"⟩
  else
    let limitsStatus := validateLimits limits
    if !limitsStatus.ok then .error limitsStatus
    else
      match content with
      | none => .error ⟨.notFound,"open trace input failed"⟩
      | some file =>
        match openAndReadHeader file with
        | .error status => .error status
        | .ok (info,input) => .ok { limits := limits, file := file, input := input, info := info }

def Replayer.next (r : Replayer) : Result (Option TraceRecord) × Replayer :=
  match r.terminalError with
  | some status => (.error status,r)
  | none =>
    if r.eof then (.ok none,r)
    else
      match readExact r.input recordFixedBytes true with
      | .eof => (.ok none,{ r with eof := true })
      | .truncated => r.fail ⟨.truncated,"trace record header is truncated"⟩
      | .ok fixed input =>
        match readRecord r.limits r.expectedSequence r.lastOffsetNs fixed input with
        | .error fault => r.fail fault
        | .ok (record,rest) => (.ok (some record),r.advance record rest)

/-- `Reset`. The seek is taken to succeed. -/
def Replayer.reset (r : Replayer) : Status × Replayer :=
  (.success,{ r with
    input := r.file.drop fileHeaderBytes
    expectedSequence := 1
    lastOffsetNs := 0
    eof := false
    terminalError := none
    stats := {} })

/-- The answers of this many calls of `Next`. -/
def Replayer.nexts (r : Replayer) : Nat → List (Result (Option TraceRecord))
  | 0 => []
  | count + 1 => r.next.1 :: r.next.2.nexts count

end AutoRuntime.Trace
