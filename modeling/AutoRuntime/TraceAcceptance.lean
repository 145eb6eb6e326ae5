import AutoRuntime.TraceRoundTrip

/-! The replayer accepts nothing but what the recorder writes. Each reader is inverted: what it
reads off the front of a stream is there, byte for byte. -/
namespace AutoRuntime.Trace

open Option

def Framing.bytes (framing : Framing) : Bytes :=
  appendU32 framing.magic ++ appendU16 framing.version ++ appendU16 framing.flags ++
    appendU64 framing.total ++ appendU64 framing.recordSequence ++ appendU64 framing.monotonicOffsetNs

def envelopeBytes (reserved : UInt16) (envelope : MessageEnvelope) : Bytes :=
  appendU16 envelope.version ++ appendU16 reserved ++ appendU32 envelope.priority.toUInt32 ++
    appendU64 envelope.traceId ++ appendU64 envelope.spanId ++ appendU64 envelope.parentSpanId ++
    appendU64 envelope.sequence ++ appendU64 envelope.sourceTimestampNs ++
    appendU64 envelope.publishTimestampNs ++ appendU64 envelope.sourceGeneration

def Sizes.bytes (sizes : Sizes) : Bytes :=
  appendU32 sizes.channel ++ appendU32 sizes.messageType ++ appendU64 sizes.payload

theorem readFraming_some (read : readFraming input = some (framing,rest)) : input = framing.bytes ++ rest := by
  simp only [readFraming,bind_eq_bind,bind_eq_some_iff,Prod.exists] at read
  obtain ⟨magic,_,first,version,_,second,flags,_,third,total,_,fourth,number,_,fifth,offset,_,sixth,rfl,rfl⟩ := read
  rw [readU32_some first,readU16_some second,readU16_some third,readU64_some fourth,readU64_some fifth,
    readU64_some sixth]
  simp only [Framing.bytes,List.append_assoc]

theorem readEnvelope_some (read : readEnvelope input = some ((reserved,envelope),rest)) :
    input = envelopeBytes reserved envelope ++ rest := by
  simp only [readEnvelope,bind_eq_bind,bind_eq_some_iff,Prod.exists] at read
  obtain ⟨version,_,first,reserved,_,second,priority,_,third,trace,_,fourth,span,_,fifth,parent,_,sixth,
    number,_,seventh,source,_,eighth,publish,_,ninth,generation,_,tenth,⟨rfl,rfl⟩,rfl⟩ := read
  rw [readU16_some first,readU16_some second,readU32_some third,readU64_some fourth,readU64_some fifth,
    readU64_some sixth,readU64_some seventh,readU64_some eighth,readU64_some ninth,readU64_some tenth]
  simp only [envelopeBytes,List.append_assoc,UInt32.toUInt32_toInt32]

theorem readSizes_some (read : readSizes input = some (sizes,rest)) : input = sizes.bytes ++ rest := by
  simp only [readSizes,bind_eq_bind,bind_eq_some_iff,Prod.exists] at read
  obtain ⟨channel,_,first,type,_,second,payload,_,third,rfl,rfl⟩ := read
  rw [readU32_some first,readU32_some second,readU64_some third]
  simp only [Sizes.bytes,List.append_assoc]

def RecordHead.bytes (head : RecordHead) : Bytes :=
  head.framing.bytes ++ envelopeBytes head.envelopeReserved head.envelope ++ head.sizes.bytes

theorem readHead_some (read : readHead fixed = some head) : fixed = head.bytes := by
  simp only [readHead,bind_eq_bind,bind_eq_some_iff,Prod.exists] at read
  obtain ⟨framing,_,first,reserved,envelope,_,second,sizes,rest,third,read⟩ := read
  split at read
  next used =>
    cases read
    rw [readFraming_some first,readEnvelope_some second,readSizes_some third,List.isEmpty_iff.mp used]
    simp only [RecordHead.bytes,List.append_assoc,List.append_nil]
  · contradiction

/-- What the checks on the fixed part establish. -/
structure RecordHead.Checked (limits : TraceLimits) (head : RecordHead) : Prop where
  magic : head.framing.magic = recordMagic
  version : head.framing.version = recordVersion
  flags : head.framing.flags = 0
  reserved : head.envelopeReserved = 0
  channelNamed : 0 < head.sizes.channel.toNat
  typeNamed : 0 < head.sizes.messageType.toNat
  channelSmall : head.sizes.channel.toNat ≤ limits.maxChannelBytes
  typeSmall : head.sizes.messageType.toNat ≤ limits.maxMessageTypeBytes
  payloadSmall : head.sizes.payload.toNat ≤ limits.maxPayloadBytes
  total : head.framing.total.toNat = minimumRecordBytes + head.sizes.channel.toNat +
    head.sizes.messageType.toNat + head.sizes.payload.toNat

theorem checkHead_none (passed : checkHead limits head = none) : head.Checked limits := by
  simp only [checkHead] at passed
  split at passed
  · contradiction
  next framed =>
    split at passed
    · contradiction
    · split at passed
      · contradiction
      next limited =>
        split at passed
        · contradiction
        next agreed =>
          simp only [Bool.or_eq_true,decide_eq_true_eq,not_or,not_not,Nat.not_lt] at framed limited agreed
          obtain ⟨⟨⟨⟨⟨magic,version⟩,flags⟩,reserved⟩,-⟩,-⟩ := framed
          obtain ⟨⟨⟨⟨channelNamed,typeNamed⟩,channelSmall⟩,typeSmall⟩,payloadSmall⟩ := limited
          exact ⟨magic,version,flags,reserved,
            Nat.pos_of_ne_zero fun zero => channelNamed (UInt32.toNat_inj.mp zero),
            Nat.pos_of_ne_zero fun zero => typeNamed (UInt32.toNat_inj.mp zero),
            channelSmall,typeSmall,payloadSmall,recordTotal_some agreed⟩

/-- The record without the checksum that was stored with it. -/
def TraceRecord.pending (record : TraceRecord) : PendingRecord :=
  ⟨record.recordSequence,record.monotonicOffsetNs,record.channel,record.messageType,record.message⟩

section

variable {head : RecordHead} {limits : TraceLimits} {variablePart : Bytes} (checksum : UInt32)
  (long : head.sizes.channel.toNat + head.sizes.messageType.toNat + head.sizes.payload.toNat ≤
    variablePart.length)

include long

theorem materialize_channel_length :
    (materialize head variablePart checksum).channel.length = head.sizes.channel.toNat := by
  simp only [materialize,List.length_take]
  omega

theorem materialize_type_length :
    (materialize head variablePart checksum).messageType.length = head.sizes.messageType.toNat := by
  simp only [materialize,List.length_take,List.length_drop]
  omega

theorem materialize_payload_length :
    (materialize head variablePart checksum).message.payload.length = head.sizes.payload.toNat := by
  simp only [materialize,List.length_take,List.length_drop]
  omega

theorem materialize_size (checked : head.Checked limits) :
    (materialize head variablePart checksum).pending.size = head.framing.total.toNat := by
  simp only [PendingRecord.size,TraceRecord.pending,materialize_channel_length checksum long,
    materialize_type_length checksum long,materialize_payload_length checksum long,checked.total]

theorem materialize_fits (checked : head.Checked limits) :
    (materialize head variablePart checksum).pending.Fits limits := by
  have channel := materialize_channel_length checksum long
  have type := materialize_type_length checksum long
  have payload := materialize_payload_length checksum long
  exact ⟨List.ne_nil_of_length_pos (channel ▸ checked.channelNamed),
    List.ne_nil_of_length_pos (type ▸ checked.typeNamed),channel.le.trans checked.channelSmall,
    type.le.trans checked.typeSmall,payload.le.trans checked.payloadSmall⟩

theorem materialize_fixedPart (checked : head.Checked limits) :
    fixedPart (materialize head variablePart checksum).pending
      (materialize head variablePart checksum).pending.size = head.bytes := by
  rw [materialize_size checksum long checked]
  simp only [fixedPart,framingPart,sizesPart,TraceRecord.pending,
    materialize_channel_length checksum long,materialize_type_length checksum long,
    materialize_payload_length checksum long,UInt64.ofNat_toNat,UInt32.ofNat_toNat]
  simp only [RecordHead.bytes,Framing.bytes,checked.magic,checked.version,
    checked.flags,checked.reserved]
  rfl

end

theorem materialize_variablePart (head : RecordHead) (variablePart : Bytes) (checksum : UInt32) :
    variablePart = (materialize head variablePart checksum).channel ++
      (materialize head variablePart checksum).messageType ++
      (materialize head variablePart checksum).message.payload ++
      variablePart.drop (head.sizes.channel.toNat + head.sizes.messageType.toNat + head.sizes.payload.toNat) := by
  simp only [materialize,List.append_assoc,← List.drop_drop,List.take_append_drop]

theorem readExact_ok (read : readExact input count clean = .ok bytes rest) :
    input = bytes ++ rest ∧ bytes.length = count := by
  simp only [readExact] at read
  split at read
  next zero =>
    cases read
    exact ⟨rfl,zero.symm⟩
  · split at read
    next long =>
      cases read
      exact ⟨(List.take_append_drop _ _).symm,by rw [List.length_take]; omega⟩
    · split at read <;> contradiction

theorem RecordHead.Checked.variable_long {head : RecordHead} (checked : head.Checked limits)
    (length : List.length variablePart = head.framing.total.toNat - recordFixedBytes) :
    head.sizes.channel.toNat + head.sizes.messageType.toNat + head.sizes.payload.toNat ≤
      variablePart.length := by
  rw [length,checked.total]
  simp only [minimumRecordBytes]
  omega

theorem materialize_image {variablePart : Bytes} {head : RecordHead} (checked : head.Checked limits)
    (length : variablePart.length = head.framing.total.toNat - recordFixedBytes)
    (field : readU32 ((head.bytes ++ variablePart).drop (head.framing.total.toNat - checksumBytes)) =
      some (stored,[]))
    (valid : crc32 ((head.bytes ++ variablePart).take (head.framing.total.toNat - checksumBytes)) = stored) :
    materialize head variablePart stored = (materialize head variablePart stored).pending.replayed ∧
      head.bytes ++ variablePart = (materialize head variablePart stored).pending.image := by
  have long := checked.variable_long length
  have size := materialize_size stored long checked
  have fixed := materialize_fixedPart stored long checked
  have content := materialize_variablePart head variablePart stored
  generalize produced : materialize head variablePart stored = record at size fixed content ⊢
  have split : head.bytes ++ variablePart = record.pending.body ++ variablePart.drop
      (head.sizes.channel.toNat + head.sizes.messageType.toNat + head.sizes.payload.toNat) := by
    conv_lhs => rw [content,← fixed]
    simp only [PendingRecord.body,recordBody,List.append_assoc]
    rfl
  have covered := record.pending.body_length
  rw [size] at covered
  rw [split,List.drop_left' covered] at field
  rw [split,List.take_left' covered] at valid
  have trailer := readU32_some field
  refine ⟨?_,by rw [split,trailer,← valid]; rfl⟩
  subst produced
  simp only [PendingRecord.replayed,valid]
  rfl

theorem readRecord_ok (read : readRecord limits expected last fixed input = .ok (record,rest)) :
    record.pending.Fits limits ∧ record = record.pending.replayed ∧
      fixed ++ input = record.pending.image ++ rest ∧ record.recordSequence = expected ∧
      (1 < record.recordSequence → last ≤ record.monotonicOffsetNs) := by
  simp only [readRecord] at read
  split at read
  · contradiction
  next head found =>
    have checkedBytes := readHead_some found
    split at read
    · contradiction
    next passed =>
      have checked := checkHead_none passed
      split at read
      next remainder tail body =>
        obtain ⟨rfl,length⟩ := readExact_ok body
        split at read
        next stored field =>
          split at read
          · contradiction
          next valid =>
            split at read
            · contradiction
            next ordered =>
              cases read
              subst checkedBytes
              have long := checked.variable_long length
              have fixedLength : head.bytes.length = recordFixedBytes := by
                rw [← materialize_fixedPart stored long checked,fixedPart_length]
              obtain ⟨replayed,image⟩ := materialize_image checked length field (not_not.mp valid)
              rw [List.drop_left' fixedLength,← List.append_assoc]
              refine ⟨materialize_fits stored long checked,replayed,by rw [image],?_⟩
              simpa [materialize] using ordered
        · contradiction
      · contradiction

theorem next_some {r : Replayer} (answered : r.next = (.ok (some record),after)) :
    ∃ rest, after = r.advance record rest ∧ r.input = record.pending.image ++ rest ∧
      record.pending.Fits r.limits ∧ record = record.pending.replayed ∧
      record.recordSequence = r.expectedSequence ∧
      (1 < record.recordSequence → r.lastOffsetNs ≤ record.monotonicOffsetNs) := by
  simp only [Replayer.next] at answered
  split at answered
  · cases answered
  · split at answered
    · cases answered
    · split at answered
      · cases answered
      · cases answered
      next fixed input start =>
        split at answered
        · cases answered
        next found rest read =>
          cases answered
          obtain ⟨fits,replayed,image,sequence,later⟩ := readRecord_ok read
          exact ⟨rest,rfl,(readExact_ok start).1.trans image,fits,replayed,sequence,later⟩

def FileHeader.bytes (fields : FileHeader) : Bytes :=
  appendU16 fields.formatVersion ++ appendU16 fields.headerSize ++ appendU64 fields.wallClockStartNs ++
    appendU64 fields.monotonicStartNs ++ appendU64 fields.reserved ++ appendU32 fields.storedChecksum

theorem readFileHeader_some (read : readFileHeader input = some fields) : ∃ rest, input = fields.bytes ++ rest := by
  simp only [readFileHeader,bind_eq_bind,bind_eq_some_iff,Prod.exists,pure_def,
    some.injEq] at read
  obtain ⟨version,_,first,size,_,second,wall,_,third,monotonic,_,fourth,reserved,_,fifth,stored,rest,sixth,rfl⟩ := read
  refine ⟨rest,?_⟩
  rw [readU16_some first,readU16_some second,readU64_some third,readU64_some fourth,readU64_some fifth,
    readU32_some sixth]
  simp only [FileHeader.bytes,List.append_assoc]

theorem header_fields {header : Bytes} (length : header.length = fileHeaderBytes)
    (magic : header.take fileMagic.length = fileMagic)
    (read : readFileHeader (header.drop fileMagic.length) = some fields) :
    header = fileMagic ++ fields.bytes := by
  obtain ⟨unread,parts⟩ := readFileHeader_some read
  have whole := List.take_append_drop fileMagic.length header
  rw [magic,parts] at whole
  have none : unread = [] := by
    have lengths := congrArg List.length whole
    rw [length] at lengths
    simp only [FileHeader.bytes,List.length_append,appendU16_length,appendU32_length,appendU64_length,
      fileMagic,fileHeaderBytes,List.length_cons] at lengths
    exact List.length_eq_zero_iff.mp (by omega)
  rw [← whole,none,List.append_nil]

theorem openAndReadHeader_ok (opened : openAndReadHeader file = .ok (info,rest)) :
    info.formatVersion = traceFormatVersion ∧
      file = buildFileHeader info.wallClockStartNs info.monotonicStartNs ++ rest := by
  simp only [openAndReadHeader] at opened
  split at opened
  next header tail start =>
    obtain ⟨rfl,length⟩ := readExact_ok start
    split at opened
    · contradiction
    next magic =>
      split at opened
      · contradiction
      next fields read =>
        split at opened
        · contradiction
        next supported =>
          split at opened
          · contradiction
          next valid =>
            cases opened
            simp only [Bool.or_eq_true,decide_eq_true_eq,not_or,not_not] at magic supported valid
            obtain ⟨⟨version,size⟩,reserved⟩ := supported
            have body : header = headerBody fields.wallClockStartNs fields.monotonicStartNs ++
                appendU32 fields.storedChecksum := by
              rw [header_fields length magic read,FileHeader.bytes,version,reserved,
                show fields.headerSize = UInt16.ofNat fileHeaderBytes from UInt16.toNat_inj.mp size]
              simp only [headerBody,List.append_assoc]
            have covered : header.take (header.length - checksumBytes) =
                headerBody fields.wallClockStartNs fields.monotonicStartNs := by
              rw [body]
              exact List.take_left' (headerBody_length _ _)
            rw [covered] at valid
            refine ⟨version,?_⟩
            rw [body,← valid]
            rfl
  · contradiction

/-- A replayer that has met no end and no error returns a record and consumes these bytes if and
only if they are what the recorder writes for some record it may accept here, and then for the
one returned; and it opens exactly the headers the recorder writes. -/
theorem reader_accepts_exactly {r : Replayer} (valid : (validateLimits r.limits).ok = true)
    (live : r.terminalError = none) (more : r.eof = false) :
    (∀ bytes, (∃ record, r.next.1 = .ok (some record) ∧ r.input = bytes ++ r.next.2.input) ↔
      bytes <+: r.input ∧ ∃ pending : PendingRecord, serializeRecord pending = .ok bytes ∧
        pending.Fits r.limits ∧ pending.recordSequence = r.expectedSequence ∧
        (1 < pending.recordSequence → r.lastOffsetNs ≤ pending.monotonicOffsetNs)) ∧
    (∀ record, r.next.1 = .ok (some record) →
      ∃ bytes, serializeRecord record.pending = .ok bytes ∧ r.input = bytes ++ r.next.2.input) ∧
    ∀ (header stream rest : Bytes) (info : TraceFileInfo), header.length = fileHeaderBytes →
      (openAndReadHeader (header ++ stream) = .ok (info,rest) ↔
        rest = stream ∧ info.formatVersion = traceFormatVersion ∧
          header = buildFileHeader info.wallClockStartNs info.monotonicStartNs) := by
  have encodable := valid_encodable valid
  have returned {record : TraceRecord} (answered : r.next.1 = .ok (some record)) :
      serializeRecord record.pending = .ok record.pending.image ∧
        r.input = record.pending.image ++ r.next.2.input ∧ record.pending.Fits r.limits ∧
        record.recordSequence = r.expectedSequence ∧
        (1 < record.recordSequence → r.lastOffsetNs ≤ record.monotonicOffsetNs) := by
    obtain ⟨rest,after,input,fits,-,order⟩ := next_some (Prod.ext answered rfl)
    refine ⟨serializeRecord_image fits encodable,?_,fits,order⟩
    rw [input,show r.next.2 = r.advance record rest from after]
    rfl
  refine ⟨fun bytes => ⟨?_,?_⟩,?_,?_⟩
  · rintro ⟨record,answered,consumed⟩
    obtain ⟨serialized,input,accepted⟩ := returned answered
    obtain rfl := List.append_cancel_right (consumed.symm.trans input)
    exact ⟨⟨_,input.symm⟩,record.pending,serialized,accepted⟩
  · rintro ⟨⟨rest,front⟩,pending,serialized,fits,sequence,later⟩
    cases (serializeRecord_image fits encodable).symm.trans serialized
    rw [next_image fits encodable rfl live more front.symm sequence later]
    exact ⟨pending.replayed,rfl,front.symm⟩
  · intro record answered
    obtain ⟨serialized,input,-⟩ := returned answered
    exact ⟨_,serialized,input⟩
  · intro header stream rest info length
    constructor
    · intro opened
      obtain ⟨version,whole⟩ := openAndReadHeader_ok opened
      obtain ⟨same,rfl⟩ := List.append_inj whole (by simp [length,buildFileHeader,fileHeaderBytes])
      exact ⟨rfl,version,same⟩
    · rintro ⟨rfl,version,rfl⟩
      rw [openAndReadHeader_append,← version]

def sampleRecord : PendingRecord := ⟨1,5,[99],[120],⟨{},[7,0]⟩⟩

def sampleReplayer : Replayer where
  limits := {}
  file := []
  input := sampleRecord.image ++ [1,2,3]
  info := ⟨1,0,0⟩

theorem reader_accepts_exactly_sample : (validateLimits sampleReplayer.limits).ok = true ∧
    ∃ record, sampleReplayer.next.1 = .ok (some record) ∧
      sampleReplayer.input = sampleRecord.image ++ sampleReplayer.next.2.input := by
  have valid : (validateLimits sampleReplayer.limits).ok = true := rfl
  have fits : sampleRecord.Fits sampleReplayer.limits := ⟨nofun,nofun,by decide,by decide,by decide⟩
  refine ⟨valid,((reader_accepts_exactly valid rfl rfl).1 _).mpr ⟨⟨[1,2,3],rfl⟩,sampleRecord,?_,fits,rfl,nofun⟩⟩
  exact serializeRecord_image fits (valid_encodable valid)

end AutoRuntime.Trace
