import AutoRuntime.Discovery
import AutoRuntime.NetworkOrder

/-! Announcements on the wire, and the configurations that `Create` lets through. -/
namespace AutoRuntime.Discovery

open List

/-- The letters `ARD1`. -/
def discoveryMagic : Bytes := [65,82,68,49]

def discoveryVersion : UInt8 := 1

def fixedAnnouncementBytes : Nat := 26

def maximumIdentityBytes : Nat := 63

def maximumDatagramBytes : Nat := 512

/-- The part of fixed size; the eighth byte stays zero. -/
def announcementHeader (nodeLength addressLength : UInt8) (generation sequence : UInt64) (port : UInt16) :
    Bytes :=
  discoveryMagic ++ [discoveryVersion,nodeLength,addressLength,0] ++ storeU64 generation ++
    storeU64 sequence ++ storeU16 port

def buildAnnouncement (config : DiscoveryConfig) (sequence : UInt64) : Bytes :=
  announcementHeader (UInt8.ofNat config.nodeId.length)
      (UInt8.ofNat config.advertisedRpcEndpoint.address.length) config.generation sequence
      config.advertisedRpcEndpoint.port ++
    config.nodeId ++ config.advertisedRpcEndpoint.address

def parseAnnouncement (data : Bytes) : Option Announcement :=
  if data.length < fixedAnnouncementBytes || data.take discoveryMagic.length ≠ discoveryMagic ||
      data.getD 4 0 ≠ discoveryVersion then none
  else
    let nodeLength := (data.getD 5 0).toNat
    let addressLength := (data.getD 6 0).toNat
    if nodeLength = 0 || nodeLength > maximumIdentityBytes || addressLength = 0 ||
        addressLength > maximumIdentityBytes ||
        data.length ≠ fixedAnnouncementBytes + nodeLength + addressLength then none
    else
      let announcement : Announcement :=
        { generation := loadU64 (data.drop 8)
          sequence := loadU64 (data.drop 16)
          nodeId := (data.drop fixedAnnouncementBytes).take nodeLength
          rpcEndpoint :=
            { port := loadU16 (data.drop 24)
              address := (data.drop (fixedAnnouncementBytes + nodeLength)).take addressLength } }
      if announcement.generation = 0 || announcement.sequence = 0 ||
          !parseIpv4 announcement.rpcEndpoint.address then none
      else some announcement

/-- What is wrong with an endpoint, if anything. -/
def socketAddress (endpoint : NetworkEndpoint) (allowZeroPort : Bool) : Option Status :=
  if endpoint.address.isEmpty || (!allowZeroPort && endpoint.port = 0) then
    some ⟨.invalidArgument,"IPv4 endpoint requires address and port"⟩
  else if !parseIpv4 endpoint.address then
    some ⟨.invalidArgument,"only numeric IPv4 endpoints are supported"⟩
  else none

/-- The checks of `Create`, up to the first system call. -/
def validateConfig (config : DiscoveryConfig) : Option Status :=
  if config.nodeId = [] ∨ config.nodeId.length > maximumIdentityBytes ∨ config.generation = 0 ∨
      config.advertisedRpcEndpoint.address = [] ∨
      config.advertisedRpcEndpoint.address.length > maximumIdentityBytes ∨
      config.heartbeatPeriod ≤ 0 ∨ config.leaseTimeout ≤ config.heartbeatPeriod ∨
      config.generationFenceTimeout < config.leaseTimeout ∨ config.maxMembers = 0 ∨
      config.maxPeers = 0 ∨ config.maxGenerationFences = 0 ∨ config.peers.length > config.maxPeers then
    some ⟨.invalidArgument,"invalid discovery configuration"⟩
  else if !parseIpv4 config.advertisedRpcEndpoint.address then
    some ⟨.invalidArgument,"advertised RPC endpoint must be numeric IPv4"⟩
  else
    match socketAddress config.bindEndpoint true with
    | some status => some status
    | none => config.peers.findSome? (socketAddress · false)

/-- `Create`; the socket calls fail with a status of the system's, or succeed. -/
def create (config : DiscoveryConfig) (network : Option Status) : Result State :=
  ((validateConfig config).or network).elim (.ok initial) .error

/-- What the later results use of an accepted configuration. -/
structure DiscoveryConfig.Valid (config : DiscoveryConfig) : Prop where
  named : config.nodeId ≠ []
  nameShort : config.nodeId.length ≤ maximumIdentityBytes
  generation : config.generation ≠ 0
  addressed : config.advertisedRpcEndpoint.address ≠ []
  addressShort : config.advertisedRpcEndpoint.address.length ≤ maximumIdentityBytes
  numeric : parseIpv4 config.advertisedRpcEndpoint.address = true
  fences : 0 < config.maxGenerationFences

theorem create_validated (created : create config network = .ok s) : validateConfig config = none := by
  cases refused : validateConfig config with
  | none => rfl
  | some => simp [create,refused] at created

theorem create_valid (created : create config network = .ok s) : config.Valid ∧ s = initial := by
  have accepted := create_validated created
  have fresh : s = initial := by
    cases network <;> simp_all [create]
  simp only [validateConfig] at accepted
  split at accepted
  · contradiction
  next bounded =>
    split at accepted
    · contradiction
    next numeric =>
      simp only [not_or,not_lt] at bounded
      obtain ⟨named,nameShort,generation,addressed,addressShort,-,-,-,-,-,fences,-⟩ := bounded
      exact ⟨⟨named,nameShort,generation,addressed,addressShort,by simpa using numeric,
        Nat.pos_of_ne_zero fences⟩,fresh⟩

def DiscoveryConfig.announcement (config : DiscoveryConfig) (sequence : UInt64) : Announcement :=
  ⟨config.nodeId,config.generation,sequence,config.advertisedRpcEndpoint⟩

theorem announcementHeader_length (nodeLength addressLength generation sequence port) :
    (announcementHeader nodeLength addressLength generation sequence port).length =
      fixedAnnouncementBytes := by
  rfl

theorem buildAnnouncement_length (config : DiscoveryConfig) (sequence : UInt64) :
    (buildAnnouncement config sequence).length =
      fixedAnnouncementBytes + config.nodeId.length + config.advertisedRpcEndpoint.address.length := by
  rw [buildAnnouncement,length_append,length_append,announcementHeader_length]

theorem buildAnnouncement_drop (config : DiscoveryConfig) (sequence : UInt64) :
    (∃ rest, (buildAnnouncement config sequence).drop 8 = storeU64 config.generation ++ rest) ∧
    (∃ rest, (buildAnnouncement config sequence).drop 16 = storeU64 sequence ++ rest) ∧
    (∃ rest, (buildAnnouncement config sequence).drop 24 =
      storeU16 config.advertisedRpcEndpoint.port ++ rest) := by
  have first : (buildAnnouncement config sequence).drop 8 = storeU64 config.generation ++
      (storeU64 sequence ++ (storeU16 config.advertisedRpcEndpoint.port ++
        (config.nodeId ++ config.advertisedRpcEndpoint.address))) := by
    simp [buildAnnouncement,announcementHeader,discoveryMagic]
  have second : (buildAnnouncement config sequence).drop 16 = storeU64 sequence ++
      (storeU16 config.advertisedRpcEndpoint.port ++
        (config.nodeId ++ config.advertisedRpcEndpoint.address)) := by
    rw [show 16 = 8 + 8 from rfl,← drop_drop,first,drop_left' (storeU64_length _)]
  have third : (buildAnnouncement config sequence).drop 24 =
      storeU16 config.advertisedRpcEndpoint.port ++
        (config.nodeId ++ config.advertisedRpcEndpoint.address) := by
    rw [show 24 = 16 + 8 from rfl,← drop_drop,second,drop_left' (storeU64_length _)]
  exact ⟨⟨_,first⟩,⟨_,second⟩,⟨_,third⟩⟩

theorem parseAnnouncement_build {config : DiscoveryConfig} (valid : config.Valid) (sequence : UInt64) :
    parseAnnouncement (buildAnnouncement config sequence) =
      if sequence = 0 then none else some (config.announcement sequence) := by
  have nameShort := valid.nameShort
  have addressShort := valid.addressShort
  have named := length_pos_iff.mpr valid.named
  have addressed := length_pos_iff.mpr valid.addressed
  have nodeLength : (UInt8.ofNat config.nodeId.length).toNat = config.nodeId.length := by
    rw [UInt8.toNat_ofNat',Nat.mod_eq_of_lt (by simp only [maximumIdentityBytes] at nameShort; omega)]
  have addressLength : (UInt8.ofNat config.advertisedRpcEndpoint.address.length).toNat =
      config.advertisedRpcEndpoint.address.length := by
    rw [UInt8.toNat_ofNat',Nat.mod_eq_of_lt (by simp only [maximumIdentityBytes] at addressShort; omega)]
  have size := buildAnnouncement_length config sequence
  have long : ¬fixedAnnouncementBytes + config.nodeId.length + config.advertisedRpcEndpoint.address.length <
      fixedAnnouncementBytes := by omega
  obtain ⟨⟨_,generation⟩,⟨_,number⟩,⟨_,port⟩⟩ := buildAnnouncement_drop config sequence
  have node : (buildAnnouncement config sequence).drop fixedAnnouncementBytes =
      config.nodeId ++ config.advertisedRpcEndpoint.address := by
    exact drop_left' (announcementHeader_length ..)
  have address : (buildAnnouncement config sequence).drop (fixedAnnouncementBytes + config.nodeId.length) =
      config.advertisedRpcEndpoint.address := by
    rw [← drop_drop,node,drop_left]
  have magic : (buildAnnouncement config sequence).take discoveryMagic.length = discoveryMagic := by
    exact take_left
  have version : (buildAnnouncement config sequence).getD 4 0 = discoveryVersion := rfl
  have nodeByte : (buildAnnouncement config sequence).getD 5 0 = UInt8.ofNat config.nodeId.length := rfl
  have addressByte : (buildAnnouncement config sequence).getD 6 0 =
      UInt8.ofNat config.advertisedRpcEndpoint.address.length := rfl
  simp only [parseAnnouncement,magic,version,nodeByte,addressByte,nodeLength,addressLength,size,generation,
    number,port,node,address,take_length,valid.numeric]
  have bounds : ¬(config.nodeId.length > maximumIdentityBytes) ∧
      ¬(config.advertisedRpcEndpoint.address.length > maximumIdentityBytes) := ⟨by omega,by omega⟩
  simp [bounds,valid.generation,long,named.ne',addressed.ne',DiscoveryConfig.announcement]

/-- A service at 10.0.0.1, port 7000, with room for one member and one fence. -/
def sampleService (nodeId : NodeId) (generation : UInt64) : DiscoveryConfig :=
  ⟨nodeId,generation,⟨[48,46,48,46,48,46,48],0⟩,⟨[49,48,46,48,46,48,46,49],7000⟩,[],1,2,3,1,1,1⟩

end AutoRuntime.Discovery
