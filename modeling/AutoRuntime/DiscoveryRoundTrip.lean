import AutoRuntime.DiscoveryNetwork

/-! Announcements there and back. What is built is read back as it was, what is read can be built
again, and the receive buffer never makes an announcement out of a longer datagram. -/
namespace AutoRuntime.Discovery

open List

/-- What a datagram has to be to be read, and as what it is read. -/
structure Parsed (data : Bytes) (announcement : Announcement) : Prop where
  size : data.length = fixedAnnouncementBytes + announcement.nodeId.length +
    announcement.rpcEndpoint.address.length
  magic : data.take discoveryMagic.length = discoveryMagic
  version : data.getD 4 0 = discoveryVersion
  nodeLength : data.getD 5 0 = UInt8.ofNat announcement.nodeId.length
  addressLength : data.getD 6 0 = UInt8.ofNat announcement.rpcEndpoint.address.length
  generation : announcement.generation = loadU64 (data.drop 8)
  sequence : announcement.sequence = loadU64 (data.drop 16)
  port : announcement.rpcEndpoint.port = loadU16 (data.drop 24)
  body : data.drop fixedAnnouncementBytes = announcement.nodeId ++ announcement.rpcEndpoint.address
  nameShort : announcement.nodeId.length ≤ maximumIdentityBytes
  addressShort : announcement.rpcEndpoint.address.length ≤ maximumIdentityBytes
  numeric : parseIpv4 announcement.rpcEndpoint.address = true

theorem parseAnnouncement_parsed (parsed : parseAnnouncement data = some announcement) :
    Parsed data announcement := by
  simp only [parseAnnouncement] at parsed
  split at parsed
  · contradiction
  next marked =>
    split at parsed
    · contradiction
    next sized =>
      split at parsed
      · contradiction
      next numeric =>
        simp only [Bool.or_eq_true,decide_eq_true_eq,not_or,not_not,not_lt] at marked sized
        obtain ⟨⟨-,magic⟩,version⟩ := marked
        obtain ⟨⟨⟨⟨-,nameShort⟩,-⟩,addressShort⟩,size⟩ := sized
        simp only [Bool.or_eq_true,not_or,Bool.not_eq_true,Bool.not_eq_false'] at numeric
        have body : data.length - fixedAnnouncementBytes = (data.getD 5 0).toNat + (data.getD 6 0).toNat := by
          omega
        have node : ((data.drop fixedAnnouncementBytes).take (data.getD 5 0).toNat).length =
            (data.getD 5 0).toNat := by
          rw [length_take,length_drop]
          omega
        have address : ((data.drop (fixedAnnouncementBytes + (data.getD 5 0).toNat)).take
            (data.getD 6 0).toNat).length = (data.getD 6 0).toNat := by
          rw [length_take,length_drop]
          omega
        have rest : (data.drop (fixedAnnouncementBytes + (data.getD 5 0).toNat)).take (data.getD 6 0).toNat =
            (data.drop fixedAnnouncementBytes).drop (data.getD 5 0).toNat := by
          rw [drop_drop,take_of_length_le]
          rw [length_drop]
          omega
        cases parsed
        refine ⟨by rw [node,address,size],magic,version,by rw [node,UInt8.ofNat_toNat],
          by rw [address,UInt8.ofNat_toNat],rfl,rfl,rfl,?_,by rw [node]; exact nameShort,
          by rw [address]; exact addressShort,numeric.2⟩
        rw [rest,take_append_drop]

theorem Parsed.short (parsed : Parsed data announcement) :
    data.length ≤ fixedAnnouncementBytes + maximumIdentityBytes + maximumIdentityBytes := by
  have nameShort := parsed.nameShort
  have addressShort := parsed.addressShort
  rw [parsed.size]
  omega

theorem take_succ_getD {data : Bytes} (inside : index < data.length) :
    data.take (index + 1) = data.take index ++ [data.getD index 0] := by
  rw [take_add_one,getD_eq_getElem?_getD,getElem?_eq_getElem inside]
  rfl

/-- The fixed part of a datagram that is read, with the reserved byte cleared. -/
theorem Parsed.header (parsed : Parsed data announcement) :
    data.set 7 0 = announcementHeader (data.getD 5 0) (data.getD 6 0) announcement.generation
      announcement.sequence announcement.rpcEndpoint.port ++ data.drop fixedAnnouncementBytes := by
  have long : fixedAnnouncementBytes ≤ data.length := by
    rw [parsed.size]
    omega
  simp only [fixedAnnouncementBytes] at long ⊢
  have front : data.take 7 = discoveryMagic ++ [discoveryVersion,data.getD 5 0,data.getD 6 0] := by
    have magic : data.take 4 = discoveryMagic := parsed.magic
    rw [take_succ_getD (by omega),take_succ_getD (by omega),take_succ_getD (by omega),magic,parsed.version]
    simp
  have generation : data.drop 8 = storeU64 announcement.generation ++ data.drop 16 := by
    rw [parsed.generation,storeU64_load _ (by rw [length_drop]; omega),← drop_drop (i := 8) (j := 8),
      take_append_drop]
  have number : data.drop 16 = storeU64 announcement.sequence ++ data.drop 24 := by
    rw [parsed.sequence,storeU64_load _ (by rw [length_drop]; omega),← drop_drop (i := 8) (j := 16),
      take_append_drop]
  have port : data.drop 24 = storeU16 announcement.rpcEndpoint.port ++ data.drop 26 := by
    rw [parsed.port,storeU16_load _ (by rw [length_drop]; omega),← drop_drop (i := 2) (j := 24),
      take_append_drop]
  rw [set_eq_take_append_cons_drop,if_pos (by omega),front,generation,number,port]
  simp [announcementHeader]

theorem buildAnnouncement_parsed (parsed : Parsed data announcement) {config : DiscoveryConfig}
    (fields : config.announcement announcement.sequence = announcement) :
    buildAnnouncement config announcement.sequence = data.set 7 0 := by
  have header := parsed.header
  rw [parsed.nodeLength,parsed.addressLength,parsed.body] at header
  rw [header,buildAnnouncement]
  rw [← fields]
  rfl

/-- A longer datagram fills the receive buffer, and no announcement is that long. -/
theorem parseAnnouncement_truncated {packet : Bytes} (long : maximumDatagramBytes < packet.length) :
    parseAnnouncement (packet.take maximumDatagramBytes) = none := by
  have full : (packet.take maximumDatagramBytes).length = maximumDatagramBytes := length_take_of_le long.le
  cases parsed : parseAnnouncement (packet.take maximumDatagramBytes) with
  | none => rfl
  | some =>
    have short := (parseAnnouncement_parsed parsed).short
    rw [full] at short
    simp [fixedAnnouncementBytes,maximumIdentityBytes,maximumDatagramBytes] at short

theorem announcement_round_trip :
    (∀ config network s sequence, create config network = .ok s → sequence ≠ 0 →
      parseAnnouncement (buildAnnouncement config sequence) =
        some ⟨config.nodeId,config.generation,sequence,config.advertisedRpcEndpoint⟩) ∧
    (∀ data announcement, parseAnnouncement data = some announcement → ∀ config : DiscoveryConfig,
      config.nodeId = announcement.nodeId → config.generation = announcement.generation →
      config.advertisedRpcEndpoint = announcement.rpcEndpoint →
      buildAnnouncement config announcement.sequence = data.set 7 0) ∧
    ∀ (service : Service) packet observedAt, maximumDatagramBytes < packet.length →
      parseAnnouncement (packet.take maximumDatagramBytes) = none ∧
      service.receive packet observedAt = ({ service with parseErrors := service.parseErrors + 1 },[]) := by
  refine ⟨fun config network s sequence created numbered => ?_,
    fun data announcement parsed config name generation endpoint => ?_,
    fun service packet observedAt long => ?_⟩
  · rw [parseAnnouncement_build (create_valid created).1,if_neg numbered]
    rfl
  · apply buildAnnouncement_parsed (parseAnnouncement_parsed parsed)
    rw [DiscoveryConfig.announcement,name,generation,endpoint]
  · have unread := parseAnnouncement_truncated long
    exact ⟨unread,by simp only [Service.receive,unread]⟩

/-- An announcement of node 2 with something in the reserved byte. -/
def reservedByteUsed : Bytes := (buildAnnouncement (sampleService [2] 5) 1).set 7 9

theorem announcement_round_trip_sample :
    parseAnnouncement (buildAnnouncement (sampleService [2] 5) 1) =
      some ⟨[2],5,1,(sampleService [2] 5).advertisedRpcEndpoint⟩ ∧
    buildAnnouncement (sampleService [2] 5) 1 = reservedByteUsed.set 7 0 ∧
    parseAnnouncement ((List.replicate 513 65).take maximumDatagramBytes) = none := by
  obtain ⟨forth,back,truncated⟩ := announcement_round_trip
  have read : parseAnnouncement reservedByteUsed = some ((sampleService [2] 5).announcement 1) := by decide
  refine ⟨forth (sampleService [2] 5) none initial 1 rfl (by decide),?_,?_⟩
  · exact back reservedByteUsed ((sampleService [2] 5).announcement 1) read (sampleService [2] 5) rfl rfl rfl
  · have long : maximumDatagramBytes < (replicate 513 (65 : UInt8)).length := by
      rw [length_replicate]
      decide
    exact (truncated ⟨sampleService [1] 1,[],1,initial,none,0,0,0⟩ _ 0 long).1

end AutoRuntime.Discovery
