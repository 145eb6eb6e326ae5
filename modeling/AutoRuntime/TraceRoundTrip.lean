import AutoRuntime.TraceReader

/-! The replayer reads back what the recorder wrote. -/
namespace AutoRuntime.Trace

open Option

/-- What a recorder with these limits accepts. -/
structure PendingRecord.Fits (limits : TraceLimits) (record : PendingRecord) : Prop where
  channelNamed : record.channel ≠ []
  typeNamed : record.messageType ≠ []
  channelSmall : record.channel.length ≤ limits.maxChannelBytes
  typeSmall : record.messageType.length ≤ limits.maxMessageTypeBytes
  payloadSmall : record.message.payload.length ≤ limits.maxPayloadBytes

structure TraceLimits.Within (limits wider : TraceLimits) : Prop where
  channel : limits.maxChannelBytes ≤ wider.maxChannelBytes
  messageType : limits.maxMessageTypeBytes ≤ wider.maxMessageTypeBytes
  payload : limits.maxPayloadBytes ≤ wider.maxPayloadBytes

structure TraceLimits.Encodable (limits : TraceLimits) : Prop where
  channel : limits.maxChannelBytes < 2^32
  messageType : limits.maxMessageTypeBytes < 2^32
  total : minimumRecordBytes + limits.maxChannelBytes + limits.maxMessageTypeBytes + limits.maxPayloadBytes < 2^63

variable {record : PendingRecord}

theorem PendingRecord.Fits.widen {limits : TraceLimits} (fits : record.Fits limits) (within : limits.Within wider) :
    record.Fits wider :=
  ⟨fits.channelNamed,fits.typeNamed,fits.channelSmall.trans within.channel,
    fits.typeSmall.trans within.messageType,fits.payloadSmall.trans within.payload⟩

theorem checkedAdd_some (added : checkedAdd left right = some total) : total = left + right := by
  simp only [checkedAdd] at added
  split at added
  · contradiction
  · exact (some.inj added).symm

theorem recordTotal_some (total : recordTotal channel type payload = some size) :
    size = minimumRecordBytes + channel + type + payload := by
  obtain ⟨first,firstSum,total⟩ := bind_eq_some_iff.mp total
  obtain ⟨second,secondSum,total⟩ := bind_eq_some_iff.mp total
  rw [checkedAdd_some total,checkedAdd_some secondSum,checkedAdd_some firstSum]

theorem checkedAdd_le (bounded : left ≤ sizeMax) (added : checkedAdd left right = some total) :
    total ≤ sizeMax := by
  simp only [checkedAdd] at added
  split at added
  · contradiction
  · cases added
    omega

theorem recordTotal_le (total : recordTotal channel type payload = some size) : size ≤ sizeMax := by
  obtain ⟨first,firstSum,total⟩ := bind_eq_some_iff.mp total
  obtain ⟨second,secondSum,total⟩ := bind_eq_some_iff.mp total
  exact checkedAdd_le (checkedAdd_le (checkedAdd_le (by decide) firstSum) secondSum) total

theorem valid_encodable {limits : TraceLimits} (valid : (validateLimits limits).ok) : limits.Encodable := by
  simp only [validateLimits] at valid
  split at valid
  · contradiction
  next encodable =>
    simp only [Bool.or_eq_true,decide_eq_true_eq] at encodable
    split at valid
    · contradiction
    next maximum total =>
      split at valid
      · contradiction
      next bounded =>
        rw [recordTotal_some total] at bounded
        exact ⟨by omega,by omega,by omega⟩

/-- The number of bytes of the record in the file. -/
def PendingRecord.size (record : PendingRecord) : Nat :=
  minimumRecordBytes + record.channel.length + record.messageType.length + record.message.payload.length

def PendingRecord.body (record : PendingRecord) : Bytes := recordBody record record.size

def PendingRecord.image (record : PendingRecord) : Bytes := record.body ++ appendU32 (crc32 record.body)

theorem PendingRecord.size_bound (fits : record.Fits limits) (encodable : limits.Encodable) : record.size < 2^63 := by
  have channel := fits.channelSmall
  have type := fits.typeSmall
  have payload := fits.payloadSmall
  have total := encodable.total
  simp only [size]
  omega

theorem PendingRecord.body_length (record : PendingRecord) :
    record.body.length = record.size - checksumBytes := by
  simp only [body,recordBody,List.length_append,fixedPart_length,size,minimumRecordBytes]
  omega

theorem PendingRecord.image_length (record : PendingRecord) : record.image.length = record.size := by
  simp only [image,List.length_append,body_length,appendU32_length,checksumBytes,size,minimumRecordBytes]
  omega

theorem serializeRecord_image (fits : record.Fits limits) (encodable : limits.Encodable) :
    serializeRecord record = .ok record.image := by
  have bound := PendingRecord.size_bound fits encodable
  have total : recordTotal record.channel.length record.messageType.length record.message.payload.length =
      some record.size := recordTotal_eq (Nat.le_of_lt (bound.trans (by decide)))
  simp only [serializeRecord,total]
  exact if_neg (not_not.mpr record.image_length)

theorem readExact_append {bytes : Bytes} (length : bytes.length = count) (positive : 0 < count) :
    readExact (bytes ++ rest) count clean = .ok bytes rest := by
  have long : (bytes ++ rest).length ≥ count := by simp [length]
  rw [readExact,if_neg (by omega),if_pos long,List.take_left' length,List.drop_left' length]

theorem openAndReadHeader_append (wall monotonic : UInt64) (rest : Bytes) :
    openAndReadHeader (buildFileHeader wall monotonic ++ rest) =
      .ok (⟨traceFormatVersion,wall,monotonic⟩,rest) := by
  have length : (buildFileHeader wall monotonic).length = fileHeaderBytes := by
    rfl
  have magic : (buildFileHeader wall monotonic).take fileMagic.length = fileMagic := by
    exact List.take_left
  have fields : readFileHeader ((buildFileHeader wall monotonic).drop fileMagic.length) =
      some ⟨traceFormatVersion,UInt16.ofNat fileHeaderBytes,wall,monotonic,0,
        crc32 (headerBody wall monotonic)⟩ := by
    have stored := readU32_append (crc32 (headerBody wall monotonic)) []
    rw [List.append_nil] at stored
    have tail : (buildFileHeader wall monotonic).drop fileMagic.length =
        appendU16 traceFormatVersion ++ (appendU16 (UInt16.ofNat fileHeaderBytes) ++
          (appendU64 wall ++ (appendU64 monotonic ++ (appendU64 0 ++
            appendU32 (crc32 (headerBody wall monotonic)))))) := by
      rw [buildFileHeader]
      exact List.drop_left
    rw [tail]
    simp [readFileHeader,stored]
  have covered : (buildFileHeader wall monotonic).take ((buildFileHeader wall monotonic).length - checksumBytes) =
      headerBody wall monotonic := by
    exact List.take_left' (headerBody_length wall monotonic)
  rw [openAndReadHeader,readExact_append length (by decide)]
  simp only [fields,covered,ne_eq]
  rfl

theorem readFraming_part (record : PendingRecord) (total : Nat) (rest : Bytes) :
    readFraming (framingPart record total ++ rest) =
      some (⟨recordMagic,recordVersion,0,UInt64.ofNat total,record.recordSequence,
        record.monotonicOffsetNs⟩,rest) := by
  simp [readFraming,framingPart]

theorem readEnvelope_part (envelope : MessageEnvelope) (rest : Bytes) :
    readEnvelope (envelopePart envelope ++ rest) = some ((0,envelope),rest) := by
  simp only [readEnvelope,envelopePart,List.append_assoc,readU16_append,readU32_append,readU64_append,
    bind_eq_bind,bind_some,pure_def,Int32.toInt32_toUInt32]

theorem readSizes_part (record : PendingRecord) (rest : Bytes) :
    readSizes (sizesPart record ++ rest) =
      some (⟨UInt32.ofNat record.channel.length,UInt32.ofNat record.messageType.length,
        UInt64.ofNat record.message.payload.length⟩,rest) := by
  simp [readSizes,sizesPart]

def PendingRecord.head (record : PendingRecord) : RecordHead where
  framing := ⟨recordMagic,recordVersion,0,UInt64.ofNat record.size,record.recordSequence,
    record.monotonicOffsetNs⟩
  envelopeReserved := 0
  envelope := record.message.envelope
  sizes := ⟨UInt32.ofNat record.channel.length,UInt32.ofNat record.messageType.length,
    UInt64.ofNat record.message.payload.length⟩

theorem readHead_fixedPart (record : PendingRecord) :
    readHead (fixedPart record record.size) = some record.head := by
  have sizes := readSizes_part record []
  rw [List.append_nil] at sizes
  simp [readHead,fixedPart,readFraming_part,readEnvelope_part,sizes,PendingRecord.head]

/-- What follows the fixed part in the file. -/
def PendingRecord.variablePart (record : PendingRecord) : Bytes :=
  record.channel ++ record.messageType ++ record.message.payload ++ appendU32 (crc32 record.body)

theorem PendingRecord.fixedPart_variablePart (record : PendingRecord) :
    fixedPart record record.size ++ record.variablePart = record.image := by
  simp only [variablePart,image,body,recordBody,List.append_assoc]

theorem PendingRecord.variablePart_length (record : PendingRecord) :
    record.variablePart.length = record.size - recordFixedBytes := by
  have whole := congrArg List.length record.fixedPart_variablePart
  rw [List.length_append,fixedPart_length,image_length] at whole
  omega

theorem PendingRecord.variablePart_pos (record : PendingRecord) : 0 < record.size - recordFixedBytes := by
  simp only [size,minimumRecordBytes,checksumBytes]
  omega

/-- The record as the replayer hands it out. -/
def PendingRecord.replayed (record : PendingRecord) : TraceRecord :=
  ⟨record.recordSequence,record.monotonicOffsetNs,record.channel,record.messageType,record.message,
    crc32 record.body⟩

section

variable {record : PendingRecord} {limits : TraceLimits} (fits : record.Fits limits)
  (encodable : limits.Encodable)

include fits encodable

theorem PendingRecord.head_total : record.head.framing.total.toNat = record.size := by
  have bound := size_bound fits encodable
  exact (UInt64.toNat_ofNat').trans (Nat.mod_eq_of_lt (bound.trans (by decide)))

theorem PendingRecord.head_channel : record.head.sizes.channel.toNat = record.channel.length := by
  have bound := fits.channelSmall.trans_lt encodable.channel
  exact (UInt32.toNat_ofNat').trans (Nat.mod_eq_of_lt bound)

theorem PendingRecord.head_type : record.head.sizes.messageType.toNat = record.messageType.length := by
  have bound := fits.typeSmall.trans_lt encodable.messageType
  exact (UInt32.toNat_ofNat').trans (Nat.mod_eq_of_lt bound)

theorem PendingRecord.head_payload : record.head.sizes.payload.toNat = record.message.payload.length := by
  have bound := size_bound fits encodable
  have small : record.message.payload.length ≤ record.size := Nat.le_add_left _ _
  exact (UInt64.toNat_ofNat').trans (Nat.mod_eq_of_lt (small.trans_lt (bound.trans (by decide))))

theorem checkHead_head : checkHead limits record.head = none := by
  have total := PendingRecord.head_total fits encodable
  have channel := PendingRecord.head_channel fits encodable
  have type := PendingRecord.head_type fits encodable
  have payload := PendingRecord.head_payload fits encodable
  have bound := PendingRecord.size_bound fits encodable
  have channelNamed := List.length_pos_iff.mpr fits.channelNamed
  have typeNamed := List.length_pos_iff.mpr fits.typeNamed
  have least : minimumRecordBytes ≤ record.size := by simp only [PendingRecord.size]; omega
  have exact_ : recordTotal record.channel.length record.messageType.length record.message.payload.length =
      some record.size := recordTotal_eq (Nat.le_of_lt (bound.trans (by decide)))
  have channelZero : ¬record.head.sizes.channel = 0 := by
    intro zero
    rw [zero] at channel
    exact channelNamed.ne channel
  have typeZero : ¬record.head.sizes.messageType = 0 := by
    intro zero
    rw [zero] at type
    exact typeNamed.ne type
  have frame : ¬record.size > sizeMax := by simp only [sizeMax]; omega
  have content : ¬record.message.payload.length > sizeMax := by
    simp only [PendingRecord.size] at bound
    simp only [sizeMax]
    omega
  have magic : record.head.framing.magic = recordMagic := rfl
  have version : record.head.framing.version = recordVersion := rfl
  have flags : record.head.framing.flags = 0 := rfl
  have reserved : record.head.envelopeReserved = 0 := rfl
  simp [checkHead,total,channel,type,payload,exact_,channelZero,typeZero,frame,content,magic,version,flags,
    reserved,fits.channelSmall.not_gt,fits.typeSmall.not_gt,fits.payloadSmall.not_gt,least.not_gt]

theorem materialize_head : materialize record.head
    (record.channel ++ record.messageType ++ record.message.payload ++ rest) checksum =
      ⟨record.recordSequence,record.monotonicOffsetNs,record.channel,record.messageType,record.message,
        checksum⟩ := by
  simp only [materialize,PendingRecord.head_channel fits encodable,PendingRecord.head_type fits encodable,
    PendingRecord.head_payload fits encodable,List.append_assoc,List.take_left,List.drop_left]
  rfl

theorem readRecord_variablePart (sequence : record.recordSequence = expected)
    (later : 1 < record.recordSequence → last ≤ record.monotonicOffsetNs) :
    readRecord limits expected last (fixedPart record record.size) (record.variablePart ++ rest) =
      .ok (record.replayed,rest) := by
  have total := PendingRecord.head_total fits encodable
  have order : (record.head.framing.recordSequence ≠ expected ||
      (record.head.framing.recordSequence > 1 && record.head.framing.monotonicOffsetNs < last)) = false := by
    simpa [PendingRecord.head,sequence] using fun large => later (sequence ▸ large)
  have checksum : readU32 ((fixedPart record record.size ++ record.variablePart).drop
      (record.size - checksumBytes)) = some (crc32 record.body,[]) := by
    rw [record.fixedPart_variablePart,PendingRecord.image,List.drop_left' record.body_length]
    simpa using readU32_append (crc32 record.body) []
  have covered : (fixedPart record record.size ++ record.variablePart).take (record.size - checksumBytes) =
      record.body := by
    rw [record.fixedPart_variablePart]
    exact List.take_left' record.body_length
  have content : materialize record.head ((fixedPart record record.size ++ record.variablePart).drop
      recordFixedBytes) (crc32 record.body) = record.replayed := by
    exact materialize_head fits encodable
  simp only [readRecord,readHead_fixedPart,checkHead_head fits encodable,total]
  rw [readExact_append record.variablePart_length record.variablePart_pos]
  simp only [checksum,covered,content,order,ne_eq,not_true_eq_false,if_false,Bool.false_eq_true]

theorem next_image {r : Replayer} (limited : r.limits = limits) (live : r.terminalError = none)
    (more : r.eof = false) (input : r.input = record.image ++ rest)
    (sequence : record.recordSequence = r.expectedSequence)
    (later : 1 < record.recordSequence → r.lastOffsetNs ≤ record.monotonicOffsetNs) :
    r.next = (.ok (some record.replayed),r.advance record.replayed rest) := by
  have fixed : readExact r.input recordFixedBytes true =
      .ok (fixedPart record record.size) (record.variablePart ++ rest) := by
    rw [input,← record.fixedPart_variablePart,List.append_assoc]
    exact readExact_append (fixedPart_length record record.size) (by decide)
  have read : readRecord r.limits r.expectedSequence r.lastOffsetNs (fixedPart record record.size)
      (record.variablePart ++ rest) = .ok (record.replayed,rest) := by
    rw [limited]
    exact readRecord_variablePart fits encodable sequence later
  simp only [Replayer.next,live,more,fixed,read]
  rfl

end

theorem nexts_end {r : Replayer} (live : r.terminalError = none) (ended : r.eof = true ∨ r.input = []) :
    r.nexts extra = List.replicate extra (.ok none) := by
  induction extra generalizing r with
  | zero => rfl
  | succ extra ih =>
    have answer : r.next = (.ok none,{ r with eof := true }) := by
      cases closed : r.eof with
      | true =>
        have same : { r with eof := true } = r := by rw [← closed]
        rw [same]
        simp [Replayer.next,live,closed]
      | false =>
        have empty : r.input = [] := ended.resolve_left (by simp [closed])
        have read : readExact [] recordFixedBytes true = .eof := rfl
        simp [Replayer.next,live,closed,empty,read]
    have later := ih (r := { r with eof := true }) live (.inl rfl)
    simp only [Replayer.nexts,answer,later,List.replicate_succ]

/-- Records numbered without a gap, with offsets that never go down: from this sequence number
and offset to those. -/
inductive Consecutive : UInt64 → UInt64 → List PendingRecord → UInt64 → UInt64 → Prop where
  | nil : Consecutive number offset [] number offset
  | cons {record : PendingRecord} (later : offset ≤ record.monotonicOffsetNs)
      (rest : Consecutive (record.recordSequence + 1) record.monotonicOffsetNs records following last) :
      Consecutive record.recordSequence offset (record :: records) following last

theorem Consecutive.snoc (consecutive : Consecutive first offset records record.recordSequence last)
    (later : last ≤ record.monotonicOffsetNs) :
    Consecutive first offset (records ++ [record]) (record.recordSequence + 1) record.monotonicOffsetNs := by
  generalize reached : record.recordSequence = following at consecutive
  induction consecutive with
  | nil =>
    subst reached
    exact .cons later .nil
  | cons earlier _ ih => exact .cons earlier (ih later reached)

theorem nexts_images_append {r : Replayer} (encodable : r.limits.Encodable) (live : r.terminalError = none)
    (more : r.eof = false) (input : r.input = records.flatMap PendingRecord.image ++ rest)
    (fits : ∀ record ∈ records, record.Fits r.limits)
    (consecutive : Consecutive r.expectedSequence r.lastOffsetNs records following last) :
    ∃ t : Replayer, t.limits = r.limits ∧ t.terminalError = none ∧ t.eof = false ∧ t.input = rest ∧
      ∀ extra, r.nexts (records.length + extra) =
        records.map (fun record => .ok (some record.replayed)) ++ t.nexts extra := by
  induction records generalizing r with
  | nil => exact ⟨r,rfl,live,more,input,fun extra => by rw [List.length_nil,Nat.zero_add]; rfl⟩
  | cons record records ih =>
    generalize expected : r.expectedSequence = first at consecutive
    cases consecutive with
    | cons later following =>
      have front : r.input = record.image ++ (records.flatMap PendingRecord.image ++ rest) := by
        rw [input,List.flatMap_cons,List.append_assoc]
      have answer := next_image (fits record List.mem_cons_self) encodable rfl live more front
        expected.symm (fun _ => later)
      rw [← expected] at following
      obtain ⟨t,limits,quiet,open_,behind,read⟩ :=
        ih (r := r.advance record.replayed (records.flatMap PendingRecord.image ++ rest)) encodable live
          more rfl (fun record listed => fits record (List.mem_cons_of_mem _ listed)) following
      refine ⟨t,limits,quiet,open_,behind,fun extra => ?_⟩
      rw [List.length_cons,Nat.add_right_comm,Replayer.nexts,answer,read]
      rfl

theorem nexts_images {r : Replayer} (encodable : r.limits.Encodable) (live : r.terminalError = none)
    (more : r.eof = false) (input : r.input = records.flatMap PendingRecord.image)
    (fits : ∀ record ∈ records, record.Fits r.limits)
    (consecutive : Consecutive r.expectedSequence r.lastOffsetNs records following last) :
    r.nexts (records.length + extra) =
      records.map (fun record => .ok (some record.replayed)) ++ List.replicate extra (.ok none) := by
  obtain ⟨t,-,quiet,-,behind,read⟩ := nexts_images_append encodable live more
    (input.trans (List.append_nil _).symm) fits consecutive
  rw [read,nexts_end quiet (.inr behind)]

end AutoRuntime.Trace
