import AutoRuntime.Crc
import AutoRuntime.TraceAcceptance

/-! Damage inside 32 consecutive bits of a record is always found. The checksum is the register of
the reflected polynomial, and a record with its checksum behind it always leaves the same
register. -/
namespace AutoRuntime.Trace

def crcPolynomial : BitVec 32 := 0xedb88320

/-- The bits of a sequence of bytes, byte by byte and the lowest bit of each first. -/
def bitAt (bytes : Bytes) (i : Nat) : Bool := (bytes.getD (i / 8) 0).toBitVec.getLsbD (i % 8)

def byteBits (byte : UInt8) : List Bool := (List.range 8).map byte.toBitVec.getLsbD

def bits (bytes : Bytes) : List Bool := bytes.flatMap byteBits

@[simp] theorem byteBits_length (byte : UInt8) : (byteBits byte).length = 8 := by simp [byteBits]

theorem bits_cons (byte : UInt8) (rest : Bytes) : bits (byte :: rest) = byteBits byte ++ bits rest := rfl

@[simp] theorem bits_length (bytes : Bytes) : (bits bytes).length = 8 * bytes.length := by
  induction bytes with
  | nil => rfl
  | cons byte rest ih =>
    rw [bits_cons,List.length_append,byteBits_length,List.length_cons]
    omega

theorem bits_getElem? (bytes : Bytes) (i : Nat) :
    (bits bytes)[i]? = if i < 8 * bytes.length then some (bitAt bytes i) else none := by
  induction bytes generalizing i with
  | nil => rfl
  | cons byte rest ih =>
    rw [bits_cons,List.length_cons]
    rcases Nat.lt_or_ge i 8 with first | later
    · have here : i / 8 = 0 := by omega
      rw [List.getElem?_append_left (by simpa using first),if_pos (by omega)]
      simp [byteBits,bitAt,here,first,Nat.mod_eq_of_lt first]
    · have there : i / 8 = (i - 8) / 8 + 1 := by omega
      have same : i % 8 = (i - 8) % 8 := by omega
      rw [List.getElem?_append_right (by simpa using later),byteBits_length,ih]
      simp only [bitAt,there,same]
      split <;> split <;> first | rfl | omega

theorem bits_getD (bytes : Bytes) (i : Nat) : (bits bytes).getD i false = bitAt bytes i := by
  rw [List.getD_eq_getElem?_getD,bits_getElem?]
  split
  · rfl
  next outside =>
    have beyond : bytes.length ≤ i / 8 := by omega
    simp [bitAt,beyond]

theorem byte_ext {left right : UInt8}
    (same : ∀ i < 8, left.toBitVec.getLsbD i = right.toBitVec.getLsbD i) : left = right :=
  UInt8.toBitVec_inj.mp (BitVec.eq_of_getLsbD_eq same)

theorem getD_eq_of_bitAt {left right : Bytes}
    (same : ∀ i, 8 * k ≤ i → i < 8 * (k + 1) → bitAt left i = bitAt right i) :
    left.getD k 0 = right.getD k 0 := by
  apply byte_ext
  intro i inside
  have bit := same (8 * k + i) (by omega) (by omega)
  have place : (8 * k + i) / 8 = k := by omega
  have within : (8 * k + i) % 8 = i := by omega
  rw [bitAt,bitAt,place,within] at bit
  exact bit

theorem stretch_eq_of_bitAt {left right : Bytes} (lengths : left.length = right.length)
    (same : ∀ i, 8 * first ≤ i → i < 8 * (first + count) → bitAt left i = bitAt right i) :
    (left.drop first).take count = (right.drop first).take count := by
  apply List.ext_getElem (by simp [lengths])
  intro k one two
  simp only [List.length_take,List.length_drop] at one
  have byte : left.getD (first + k) 0 = right.getD (first + k) 0 :=
    getD_eq_of_bitAt fun i lower upper => same i (by omega) (by omega)
  rw [List.getD_eq_getElem _ _ (by omega),List.getD_eq_getElem _ _ (by omega)] at byte
  simpa using byte

theorem bits_injective {left right : Bytes} (lengths : left.length = right.length)
    (same : bits left = bits right) : left = right := by
  have stretch : (left.drop 0).take left.length = (right.drop 0).take left.length := by
    apply stretch_eq_of_bitAt lengths
    intro i _ _
    rw [← bits_getD,← bits_getD,same]
  rw [List.drop_zero,List.drop_zero,List.take_length,lengths,List.take_length] at stretch
  exact stretch

theorem crcBit_toBitVec (crc : UInt32) : (crcBit crc).toBitVec = Crc.shift crcPolynomial crc.toBitVec := by
  have lowest : (crc &&& 1).toBitVec = BitVec.setWidth 32 (BitVec.ofBool (crc.toBitVec.getLsbD 0)) := by
    exact BitVec.and_one_eq_setWidth_ofBool_getLsbD
  simp only [crcBit,Crc.shift,UInt32.toBitVec_xor,UInt32.toBitVec_and,UInt32.toBitVec_sub] at lowest ⊢
  rw [lowest]
  cases crc.toBitVec.getLsbD 0
  · simp
  · simp [crcPolynomial]

theorem crcBit_iterate_toBitVec (count : Nat) (crc : UInt32) :
    (crcBit^[count] crc).toBitVec = (Crc.shift crcPolynomial)^[count] crc.toBitVec := by
  induction count generalizing crc with
  | zero => rfl
  | succ count ih => rw [Function.iterate_succ_apply,ih,crcBit_toBitVec,Function.iterate_succ_apply]

theorem value_byteBits (byte : UInt8) : Crc.value 32 (byteBits byte) = byte.toUInt32.toBitVec := by
  apply BitVec.eq_of_getLsbD_eq
  intro i inside
  rw [Crc.value_getLsbD inside]
  rcases Nat.lt_or_ge i 8 with low | high
  · simp [byteBits,low,inside]
  · simp [high]

theorem crcByte_toBitVec (crc : UInt32) (byte : UInt8) :
    (crcByte crc byte).toBitVec = Crc.absorb crcPolynomial crc.toBitVec (byteBits byte) := by
  rw [crcByte,crcBit_iterate_toBitVec,Crc.absorb_eq _ _ (by simp),value_byteBits,byteBits_length,
    UInt32.toBitVec_xor]

theorem crcBytes_toBitVec (bytes : Bytes) (crc : UInt32) :
    (bytes.foldl crcByte crc).toBitVec = Crc.absorb crcPolynomial crc.toBitVec (bits bytes) := by
  induction bytes generalizing crc with
  | nil => rfl
  | cons byte rest ih => rw [List.foldl_cons,ih,crcByte_toBitVec,bits_cons,Crc.absorb_append]

/-- The register behind these bytes. -/
def crcRegister (bytes : Bytes) : BitVec 32 := Crc.absorb crcPolynomial (BitVec.allOnes 32) (bits bytes)

theorem crc32_toBitVec (bytes : Bytes) : (crc32 bytes).toBitVec = ~~~crcRegister bytes := by
  rw [crc32,UInt32.toBitVec_not,crcBytes_toBitVec]
  rfl

theorem value_bits_append (number : UInt32) : Crc.value 32 (bits (appendU32 number)) = number.toBitVec := by
  apply BitVec.eq_of_getLsbD_eq
  intro i inside
  have place : i / 8 < (LittleEndian.encode 4 number.toNat).length := by
    rw [LittleEndian.encode_length]
    omega
  rw [Crc.value_getLsbD inside,bits_getD,bitAt,appendU32,List.getD_eq_getElem _ _ place,
    LittleEndian.encode_getElem place]
  have within : i % 8 < 8 := Nat.mod_lt _ (by decide)
  simp only [UInt8.toBitVec_ofNat',BitVec.getLsbD_ofNat,within,
    Nat.testBit_shiftRight,Nat.div_add_mod]
  rfl

theorem crcRegister_checksum (body : Bytes) :
    crcRegister (body ++ appendU32 (crc32 body)) = (Crc.shift crcPolynomial)^[32] (BitVec.allOnes 32) := by
  have joined : bits (body ++ appendU32 (crc32 body)) = bits body ++ bits (appendU32 (crc32 body)) :=
    List.flatMap_append
  have check := (value_bits_append (crc32 body)).trans (crc32_toBitVec body)
  have residue := Crc.absorb_complement crcPolynomial (crcRegister body) (by simp) check
  rw [crcRegister,joined,Crc.absorb_append]
  exact residue

/-- Records of one length that differ inside a window of 32 bits are not both intact. -/
theorem image_burst {left right : PendingRecord} (lengths : left.image.length = right.image.length)
    (window : ∀ i, bitAt left.image i ≠ bitAt right.image i → start ≤ i ∧ i < start + 32) :
    left.image = right.image := by
  apply bits_injective lengths
  have top : crcPolynomial.msb = true := by decide
  have inside (i : Nat) (differs : (bits left.image)[i]? ≠ (bits right.image)[i]?) :
      start ≤ i ∧ i < start + 32 := by
    apply window i
    intro same
    rw [bits_getElem?,bits_getElem?,lengths,same] at differs
    exact differs rfl
  apply Crc.burst top (BitVec.allOnes 32) (by simp [lengths]) inside
  exact (crcRegister_checksum left.body).trans (crcRegister_checksum right.body).symm

theorem serializeRecord_ok (serialized : serializeRecord record = .ok bytes) :
    bytes = record.image ∧ record.size ≤ sizeMax := by
  simp only [serializeRecord] at serialized
  split at serialized
  · cases serialized
  next total sum =>
    obtain rfl : total = record.size := recordTotal_some sum
    split at serialized
    · cases serialized
    · exact ⟨(Except.ok.inj serialized).symm,recordTotal_le sum⟩

theorem image_total (record : PendingRecord) :
    (record.image.drop 8).take 8 = appendU64 (UInt64.ofNat record.size) := by
  have front : record.image = (appendU32 recordMagic ++ appendU16 recordVersion ++ appendU16 0) ++
      (appendU64 (UInt64.ofNat record.size) ++ record.image.drop 16) := by
    conv_lhs => rw [← List.take_append_drop 16 record.image]
    rw [← List.append_assoc]
    congr 1
  rw [front,List.drop_left' (by simp),List.take_left' (by simp)]

theorem image_sizes (record : PendingRecord) : (record.image.drop 96).take 16 = sizesPart record := by
  have front : record.image = (framingPart record record.size ++ envelopePart record.message.envelope) ++
      (sizesPart record ++ record.variablePart) := by
    rw [← record.fixedPart_variablePart]
    simp only [fixedPart,List.append_assoc]
  rw [front,List.drop_left' (by simp [framingPart,envelopePart]),List.take_left' (by simp [sizesPart])]

theorem size_of_total {left right : PendingRecord} (leftSmall : left.size ≤ sizeMax)
    (rightSmall : right.size ≤ sizeMax)
    (same : (left.image.drop 8).take 8 = (right.image.drop 8).take 8) : left.size = right.size := by
  rw [image_total,image_total] at same
  have first := readU64_append (UInt64.ofNat left.size) []
  rw [same,readU64_append] at first
  have equal := congrArg UInt64.toNat (Prod.mk.inj (Option.some.inj first)).1
  rw [UInt64.toNat_ofNat_of_lt' (Nat.lt_of_le_of_lt leftSmall (by decide)),
    UInt64.toNat_ofNat_of_lt' (Nat.lt_of_le_of_lt rightSmall (by decide))] at equal
  exact equal.symm

/-- The names can be encoded, as every recorder and every replayer makes sure. -/
structure PendingRecord.Encodable (record : PendingRecord) : Prop where
  channel : record.channel.length < 2^32
  messageType : record.messageType.length < 2^32
  size : record.size ≤ sizeMax

theorem size_of_sizes {left right : PendingRecord} (leftSmall : left.Encodable) (rightSmall : right.Encodable)
    (same : (left.image.drop 96).take 16 = (right.image.drop 96).take 16) : left.size = right.size := by
  rw [image_sizes,image_sizes] at same
  have first := readSizes_part left []
  rw [same,readSizes_part] at first
  simp only [Option.some.injEq,Prod.mk.injEq,Sizes.mk.injEq,and_true] at first
  obtain ⟨channel,type,payload⟩ := first
  have payloadBound {record : PendingRecord} (small : record.Encodable) : record.message.payload.length < 2^64 := by
    have total := small.size
    simp only [PendingRecord.size,sizeMax] at total
    omega
  have channels := congrArg UInt32.toNat channel
  have types := congrArg UInt32.toNat type
  have payloads := congrArg UInt64.toNat payload
  rw [UInt32.toNat_ofNat_of_lt' leftSmall.channel,UInt32.toNat_ofNat_of_lt' rightSmall.channel] at channels
  rw [UInt32.toNat_ofNat_of_lt' leftSmall.messageType,UInt32.toNat_ofNat_of_lt' rightSmall.messageType] at types
  rw [UInt64.toNat_ofNat_of_lt' (payloadBound leftSmall),UInt64.toNat_ofNat_of_lt' (payloadBound rightSmall)]
    at payloads
  simp only [PendingRecord.size,channels,types,payloads]

theorem stretch_append {front : Bytes} (inside : first + count ≤ front.length) (rest : Bytes) :
    ((front ++ rest).drop first).take count = (front.drop first).take count := by
  rw [List.drop_append_of_le_length (by omega),List.take_append_of_le_length (by rw [List.length_drop]; omega)]

/-- Damage inside one window cannot reach both the length field and the size fields, so a record
read off the damaged bytes has the length of the one that was written. -/
theorem size_of_window {written read : PendingRecord} {damaged : Bytes} (writtenSmall : written.Encodable)
    (readSmall : read.Encodable) (length : damaged.length = written.image.length)
    (window : ∀ i, bitAt damaged i ≠ bitAt written.image i → start ≤ i ∧ i < start + 32)
    (front : damaged ++ following = read.image ++ rest) : read.size = written.size := by
  have untouched {first count : Nat} (inside : first + count ≤ minimumRecordBytes)
      (apart : ∀ i, 8 * first ≤ i → i < 8 * (first + count) → ¬(start ≤ i ∧ i < start + 32)) :
      (read.image.drop first).take count = (written.image.drop first).take count := by
    have writtenLong : minimumRecordBytes ≤ written.image.length := by
      rw [written.image_length,PendingRecord.size]
      omega
    have readLong : minimumRecordBytes ≤ read.image.length := by
      rw [read.image_length,PendingRecord.size]
      omega
    calc (read.image.drop first).take count
        = ((read.image ++ rest).drop first).take count := (stretch_append (inside.trans readLong) rest).symm
      _ = (damaged.drop first).take count := by
          rw [← front,stretch_append (by omega)]
      _ = (written.image.drop first).take count :=
          stretch_eq_of_bitAt length fun i lower upper =>
            by_contra fun differs => apart i lower upper (window i differs)
  rcases Nat.lt_or_ge (start + 31) 768 with early | late
  · exact size_of_sizes readSmall writtenSmall (untouched (by decide) (fun i lower upper => by omega))
  · exact size_of_total readSmall.size writtenSmall.size (untouched (by decide) (fun i lower upper => by omega))

theorem next_none {r : Replayer} (answered : r.next.1 = .ok none) : r.eof = true ∨ r.input = [] := by
  simp only [Replayer.next] at answered
  split at answered
  · cases answered
  · split at answered
    next ended => exact .inl ended
    · split at answered
      next read =>
        simp only [readExact] at read
        split at read
        · cases read
        · split at read
          · cases read
          · split at read
            next empty => exact .inr (by simpa using empty)
            · cases read
      · cases answered
      · split at answered <;> cases answered

/-- What a recorder with validated limits admits. -/
theorem PendingRecord.Fits.encodable {record : PendingRecord} (fits : record.Fits limits)
    (valid : (validateLimits limits).ok = true) : record.Encodable := by
  have bounds := valid_encodable valid
  exact ⟨fits.channelSmall.trans_lt bounds.channel,fits.typeSmall.trans_lt bounds.messageType,
    ((size_bound fits bounds).trans (by decide)).le⟩

/-- A record that was damaged inside 32 consecutive bits, its checksum included, is refused,
whatever follows it and wherever the replayer stands. The names are as short as `Fits.encodable`
makes those of every record that a recorder writes. -/
theorem burst_detected {record : PendingRecord} {damaged : Bytes} (serialized : serializeRecord record = .ok bytes)
    (channel : record.channel.length < 2^32) (messageType : record.messageType.length < 2^32)
    (length : damaged.length = bytes.length) (differs : damaged ≠ bytes)
    (window : ∀ i, bitAt damaged i ≠ bitAt bytes i → start ≤ i ∧ i < start + 32)
    {r : Replayer} (valid : (validateLimits r.limits).ok = true) (more : r.eof = false)
    (input : r.input = damaged ++ following) : ∃ status, r.next.1 = .error status := by
  obtain ⟨rfl,bound⟩ := serializeRecord_ok serialized
  cases answered : r.next.1 with
  | error status => exact ⟨status,rfl⟩
  | ok found =>
    exfalso
    cases found with
    | none =>
      have empty : damaged = [] := by
        have nothing := (next_none answered).resolve_left (by simp [more])
        rw [input] at nothing
        exact (List.append_eq_nil_iff.mp nothing).1
      rw [empty,record.image_length,PendingRecord.size] at length
      simp [minimumRecordBytes,recordFixedBytes] at length
      omega
    | some read =>
      obtain ⟨rest,-,image,fits,-⟩ := next_some (Prod.ext answered rfl)
      have front := input.symm.trans image
      have size := size_of_window ⟨channel,messageType,bound⟩ (fits.encodable valid) length window front
      have lengths : read.pending.image.length = record.image.length := by
        rw [PendingRecord.image_length,PendingRecord.image_length,size]
      obtain ⟨rfl,-⟩ := List.append_inj front (length.trans lengths.symm)
      exact differs (image_burst lengths window)

theorem bitAt_set (bytes : Bytes) (byte : UInt8) (apart : i / 8 ≠ k) :
    bitAt (bytes.set k byte) i = bitAt bytes i := by
  rw [bitAt,bitAt,List.getD_eq_getElem?_getD,List.getElem?_set_ne (Ne.symm apart),← List.getD_eq_getElem?_getD]

/-- The third bit of the payload is flipped. -/
theorem burst_detected_sample : ∃ status, ({
    limits := {}
    file := []
    input := sampleRecord.image.set 114 3 ++ [9]
    info := ⟨1,0,0⟩ } : Replayer).next.1 = .error status := by
  have fits : sampleRecord.Fits {} := ⟨nofun,nofun,by decide,by decide,by decide⟩
  have valid : (validateLimits {}).ok = true := rfl
  have byte : sampleRecord.image[114]? = some 7 := rfl
  have window (i : Nat) (differs : bitAt (sampleRecord.image.set 114 3) i ≠ bitAt sampleRecord.image i) :
      912 ≤ i ∧ i < 912 + 32 := by
    have place : i / 8 = 114 := by_contra fun apart => differs (bitAt_set _ _ apart)
    omega
  have small := fits.encodable valid
  refine burst_detected (serializeRecord_image fits (valid_encodable valid)) small.channel small.messageType
    List.length_set ?_ window valid rfl rfl
  intro same
  have changed := congrArg (fun bytes : Bytes => bytes[114]?) same
  simp [byte,List.getElem?_set] at changed

end AutoRuntime.Trace
