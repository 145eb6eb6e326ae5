import AutoRuntime.DiscoveryLease
import AutoRuntime.DiscoveryNetwork

/-! Every record a service holds is the announcement of some other service, as it was sent, and
it only moves forward. -/
namespace AutoRuntime.Discovery

open List Pool

/-- The packet was sent, and it is the announcement of the service that sent it. -/
def Announced (net : Network) (history : List NetworkEvent) (packet : Bytes) : Prop :=
  ∃ sender source sequence peer, net.services[sender]? = some source ∧
    packet = buildAnnouncement source.config sequence ∧ .sent sender packet peer ∈ history

/-- The record of a node carries what one announcement of a service of that name carried. -/
def Described (net : Network) (history : List NetworkEvent) (record : MemberRecord) : Prop :=
  ∃ sender source peer, net.services[sender]? = some source ∧ source.config.nodeId = record.nodeId ∧
    source.config.generation = record.generation ∧
    source.config.advertisedRpcEndpoint = record.rpcEndpoint ∧
    .sent sender (buildAnnouncement source.config record.heartbeatSequence) peer ∈ history

/-- Services come and stay, each with the configuration it came with. -/
def Extends (net next : Network) : Prop :=
  ∀ (index : Nat) (holder : Service), net.services[index]? = some holder →
    ∃ later : Service, next.services[index]? = some later ∧ later.config = holder.config

theorem Extends.setService {net : Network} {before after : Service}
    (active : net.services[index]? = some before) (config : after.config = before.config) :
    Extends net (net.setService index after) := by
  intro other service found
  by_cases same : other = index
  · subst same
    cases active.symm.trans found
    exact ⟨after,getElem?_set_self (inside active),config⟩
  · refine ⟨service,?_,rfl⟩
    rw [Network.setService,getElem?_set_ne (Ne.symm same)]
    exact found

theorem Extends.append (net : Network) (service : Service) :
    Extends net { net with services := net.services ++ [service] } := by
  intro index found active
  have inside := inside active
  exact ⟨found,by rw [getElem?_append_left inside]; exact active,rfl⟩

theorem Announced.extend {next : Network} (announced : Announced net history packet) (extends_ : Extends net next) :
    Announced next (history ++ emitted) packet := by
  obtain ⟨sender,source,sequence,peer,active,rfl,sent⟩ := announced
  obtain ⟨later,active,config⟩ := extends_ sender source active
  exact ⟨sender,later,sequence,peer,active,by rw [config],mem_append_left _ sent⟩

theorem Described.extend {next : Network} (described : Described net history record) (extends_ : Extends net next) :
    Described next (history ++ emitted) record := by
  obtain ⟨sender,source,peer,active,name,generation,endpoint,sent⟩ := described
  obtain ⟨later,active,config⟩ := extends_ sender source active
  refine ⟨sender,later,peer,active,?_⟩
  rw [config]
  exact ⟨name,generation,endpoint,mem_append_left _ sent⟩

/-- What holds of each service. -/
structure Holds (net : Network) (history : List NetworkEvent) (holder : Service) : Prop where
  valid : holder.config.Valid
  packed : holder.Packed
  keyed : Keyed holder.state
  foreign : holder.state.members.lookup nodeId = some record → nodeId ≠ holder.config.nodeId
  described : holder.state.members.lookup nodeId = some record → Described net history record

structure Sound (net : Network) (history : List NetworkEvent) : Prop where
  holds {index : Nat} : net.services[index]? = some holder → Holds net history holder
  announced : packet ∈ net.datagrams → Announced net history packet

theorem Announced.parsed (announced : Announced net history packet)
    (valid : ∀ (index : Nat) (holder : Service), net.services[index]? = some holder → holder.config.Valid)
    (parsed : parseAnnouncement (packet.take maximumDatagramBytes) = some announcement) :
    ∃ sender source peer, net.services[sender]? = some source ∧
      announcement = source.config.announcement announcement.sequence ∧
      .sent sender (buildAnnouncement source.config announcement.sequence) peer ∈ history := by
  obtain ⟨sender,source,sequence,peer,active,rfl,sent⟩ := announced
  have own := valid sender source active
  have short : (buildAnnouncement source.config sequence).length ≤ maximumDatagramBytes := by
    have name := own.nameShort
    have address := own.addressShort
    rw [buildAnnouncement_length]
    simp only [fixedAnnouncementBytes,maximumIdentityBytes,maximumDatagramBytes] at name address ⊢
    omega
  rw [take_of_length_le short,parseAnnouncement_build own] at parsed
  split at parsed
  · contradiction
  · cases parsed
    exact ⟨sender,source,peer,active,rfl,sent⟩

/-- The record carries the announcement and the time it came. -/
structure Carries (record : MemberRecord) (announcement : Announcement) (observedAt : Int) : Prop where
  generation : record.generation = announcement.generation
  sequence : record.heartbeatSequence = announcement.sequence
  endpoint : record.rpcEndpoint = announcement.rpcEndpoint
  lastSeen : record.lastSeen = observedAt

/-- The pair of generation and heartbeat sequence grew. -/
def Advances (old record : MemberRecord) : Prop :=
  old.generation < record.generation ∨
    old.generation = record.generation ∧ old.heartbeatSequence < record.heartbeatSequence

instance : Decidable (Advances old record) := inferInstanceAs (Decidable (_ ∨ _))

theorem accept_lookup (config : DiscoveryConfig) (announcement : Announcement) (observedAt : Int) (s : State)
    (nodeId : NodeId) :
    (accept config announcement observedAt s).1.members.lookup nodeId = s.members.lookup nodeId ∨
    ∃ record, (accept config announcement observedAt s).1.members.lookup nodeId = some record ∧
      nodeId = announcement.nodeId ∧ nodeId ≠ config.nodeId ∧ Carries record announcement observedAt ∧
      ∀ old, s.members.lookup nodeId = some old → Advances old record := by
  simp only [accept]
  split
  · exact .inl rfl
  next foreign =>
    simp only [enlist]
    split
    next absent =>
      split
      · exact .inl rfl
      · split
        · exact .inl rfl
        · by_cases same : nodeId = announcement.nodeId
          · subst same
            refine .inr ⟨_,AList.lookup_insert _,rfl,foreign,⟨rfl,rfl,rfl,rfl⟩,fun old present => ?_⟩
            exact absurd (present.symm.trans absent) (by simp)
          · rw [AList.lookup_insert_ne same]
            exact .inl rfl
    next member present =>
      split
      · exact .inl rfl
      next newer =>
        split
        · exact .inl rfl
        next fresh =>
          by_cases same : nodeId = announcement.nodeId
          · subst same
            have here : s.members.lookup announcement.nodeId = some member := present
            rw [Table.lookup_modify_same,present]
            refine .inr ⟨_,rfl,rfl,foreign,⟨rfl,rfl,rfl,rfl⟩,fun old present => ?_⟩
            cases present.symm.trans here
            simp only [Advances]
            grind
          · rw [Table.lookup_modify_other _ _ same]
            exact .inl rfl

theorem expireMembers_kept (config : DiscoveryConfig) (order visit observedAt s) (nodeId : NodeId) :
    (expireMembers config order visit observedAt s).1.members.lookup nodeId = s.members.lookup nodeId ∨
    (expireMembers config order visit observedAt s).1.members.lookup nodeId = none := by
  rw [expireMembers_lookup]
  cases s.members.lookup nodeId with
  | none => exact .inl rfl
  | some =>
    rw [Option.filter_some]
    split
    · exact .inl rfl
    · exact .inr rfl

theorem Holds.extend {next : Network} (holds : Holds net history holder) (extends_ : Extends net next) :
    Holds next (history ++ emitted) holder :=
  { holds with described := fun found => (holds.described found).extend extends_ }

theorem Sound.setService {net : Network} {before after : Service} {datagrams : List Bytes}
    (sound : Sound net history) (active : net.services[index]? = some before)
    (config : after.config = before.config)
    (holds : Holds { net.setService index after with datagrams := datagrams } (history ++ emitted) after)
    (announced : ∀ packet ∈ datagrams, packet ∈ net.datagrams ∨
      Announced { net.setService index after with datagrams := datagrams } (history ++ emitted) packet) :
    Sound { net.setService index after with datagrams := datagrams } (history ++ emitted) := by
  have extends_ : Extends net { net.setService index after with datagrams := datagrams } :=
    Extends.setService active config
  constructor
  · intro holder other found
    rcases set_cases found with ⟨-,rfl⟩ | ⟨-,found⟩
    · exact holds
    · exact (sound.holds found).extend extends_
  · intro packet listed
    rcases announced packet listed with old | fresh
    · exact (sound.announced old).extend extends_
    · exact fresh

theorem Took.extends {net next : Network} (took : Took net action next emitted) : Extends net next := by
  cases took with
  | refused => exact fun index holder found => ⟨holder,found,rfl⟩
  | created => exact Extends.append net _
  | worked active config | transmitted active now config => exact Extends.setService active config
  | received active | expired active => exact Extends.setService active rfl

theorem Holds.created (valid : config.Valid) :
    Holds net history { config := config, peers := config.peers, state := initial } where
  valid := valid
  packed := nofun
  keyed := nofun
  foreign := nofun
  described := nofun

theorem Holds.worked {before after : Service} (holds : Holds net history before)
    (config : after.config = before.config) (state : after.state = before.state)
    (packed : before.Packed → after.Packed) : Holds net history after where
  valid := config ▸ holds.valid
  packed := packed holds.packed
  keyed := state ▸ holds.keyed
  foreign found := by
    rw [config]
    rw [state] at found
    exact holds.foreign found
  described found := by
    rw [state] at found
    exact holds.described found

theorem Holds.received {before : Service} (holds : Holds net history before)
    (described : ∀ record, record.nodeId = announcement.nodeId → Carries record announcement observedAt →
      Described net history record) :
    Holds net history
      { before with state := (accept before.config announcement observedAt before.state).1 } := by
  have keyed := perform_keyed before.config (.accept announcement observedAt) holds.keyed
  refine { valid := holds.valid, packed := holds.packed, keyed := keyed, foreign := ?_, described := ?_ }
  · intro nodeId record found
    rcases accept_lookup before.config announcement observedAt before.state nodeId with same | brought
    · exact holds.foreign (same.symm.trans found)
    · obtain ⟨_,_,_,foreign,_⟩ := brought
      exact foreign
  · intro nodeId record found
    rcases accept_lookup before.config announcement observedAt before.state nodeId with same | brought
    · exact holds.described (same.symm.trans found)
    · obtain ⟨fresh,stored,rfl,-,carries,-⟩ := brought
      obtain rfl := Option.some.inj (stored.symm.trans found)
      exact described fresh (keyed _ _ found) carries

theorem Holds.expired {before : Service} (holds : Holds net history before) (order visit observedAt) :
    Holds net history
      { before with state := (expireMembers before.config order visit observedAt before.state).1 } := by
  have kept {nodeId : NodeId} {record : MemberRecord}
      (found : (expireMembers before.config order visit observedAt before.state).1.members.lookup nodeId =
        some record) : before.state.members.lookup nodeId = some record := by
    rcases expireMembers_kept before.config order visit observedAt before.state nodeId with same | gone
    · exact same.symm.trans found
    · exact absurd (gone.symm.trans found) (by simp)
  exact { valid := holds.valid
          packed := holds.packed
          keyed := perform_keyed before.config (.expireMembers order visit observedAt) holds.keyed
          foreign := fun found => holds.foreign (kept found)
          described := fun found => holds.described (kept found) }

theorem Took.sound {net next : Network} (took : Took net action next emitted) (sound : Sound net history) :
    Sound next (history ++ emitted) := by
  have extends_ := took.extends
  cases took with
  | refused =>
    exact ⟨fun found => (sound.holds found).extend extends_,
      fun listed => (sound.announced listed).extend extends_⟩
  | created valid =>
    refine ⟨fun {holder index} found => ?_,fun listed => (sound.announced listed).extend extends_⟩
    rcases concat_cases found with old | ⟨-,rfl⟩
    · exact (sound.holds old).extend extends_
    · exact Holds.created valid
  | worked active config state packed =>
    refine sound.setService active config ?_ fun _ listed => .inl listed
    exact ((sound.holds active).worked config state packed).extend extends_
  | @transmitted _ _ _ _ sending peer active now config state packed =>
    refine sound.setService active config (((sound.holds active).worked config state packed).extend extends_) ?_
    intro packet listed
    rcases mem_concat listed with old | rfl
    · exact .inl old
    · obtain ⟨later,found,config⟩ := extends_ _ _ active
      refine .inr ⟨_,later,sending.sequence,peer,found,?_,mem_append_right _ mem_cons_self⟩
      rw [config]
      exact (sound.holds active).packed _ now
  | received active listed parsed =>
    refine sound.setService active rfl (((sound.holds active).received ?_).extend extends_)
      fun _ listed => .inl listed
    intro record name carries
    obtain ⟨sender,source,peer,found,same,sent⟩ :=
      (sound.announced (mem_of_getElem? listed)).parsed (fun _ _ found => (sound.holds found).valid) parsed
    rw [← carries.sequence] at sent
    refine ⟨sender,source,peer,found,?_,?_,?_,sent⟩
    · rw [name,same]; rfl
    · rw [carries.generation,same]; rfl
    · rw [carries.endpoint,same]; rfl
  | expired active =>
    refine sound.setService active rfl (((sound.holds active).expired _ _ _).extend extends_)
      fun _ listed => .inl listed

theorem run_sound (ran : network.run {} actions = some (net,history)) : Sound net history := by
  apply Machine.run_invariant (motive := Sound) _ _ ran
  · intro net history action next emitted sound stepped
    exact (step_took stepped).sound sound
  · exact ⟨nofun,nofun⟩

/-- A record of one service in a step: it stays, an expiry takes it, or a datagram brings a newer
one and dates it. -/
theorem Took.record {net next : Network} {holder later : Service} (took : Took net action next emitted)
    (before : net.services[index]? = some holder) (after : next.services[index]? = some later)
    (nodeId : NodeId) :
    later.state.members.lookup nodeId = holder.state.members.lookup nodeId ∨
    (∃ order visit observedAt, action = .expire index order visit observedAt ∧
      later.state.members.lookup nodeId = none) ∨
    ∃ datagram record, action = .receive index datagram record.lastSeen ∧
      later.state.members.lookup nodeId = some record ∧
      ∀ old, holder.state.members.lookup nodeId = some old → Advances old record := by
  have unchanged {other : Nat} {changed : Service} (different : index ≠ other)
      (after : (net.services.set other changed)[index]? = some later) : later = holder := by
    rw [getElem?_set_ne (Ne.symm different)] at after
    exact Option.some.inj (after.symm.trans before)
  cases took with
  | refused =>
    cases after.symm.trans before
    exact .inl rfl
  | created =>
    have inside := inside before
    rw [getElem?_append_left inside] at after
    cases after.symm.trans before
    exact .inl rfl
  | worked active config state packed | transmitted active now config state packed =>
    rcases set_cases after with ⟨rfl,rfl⟩ | ⟨different,-⟩
    · cases active.symm.trans before
      exact .inl (by rw [state])
    · exact .inl (by rw [unchanged different after])
  | @received observedAt _ _ datagram old packet announcement active listed parsed =>
    rcases set_cases after with ⟨rfl,rfl⟩ | ⟨different,-⟩
    · obtain rfl := Option.some.inj (active.symm.trans before)
      rcases accept_lookup old.config announcement observedAt old.state nodeId with same | brought
      · exact .inl same
      · obtain ⟨record,stored,-,-,carries,advances⟩ := brought
        exact .inr (.inr ⟨datagram,record,by rw [carries.lastSeen],stored,advances⟩)
    · exact .inl (by rw [unchanged different after])
  | @expired order visit observedAt _ _ old active =>
    rcases set_cases after with ⟨rfl,rfl⟩ | ⟨different,-⟩
    · obtain rfl := Option.some.inj (active.symm.trans before)
      rcases expireMembers_kept old.config order visit observedAt old.state nodeId with same | gone
      · exact .inl same
      · exact .inr (.inl ⟨order,visit,observedAt,rfl,gone⟩)
    · exact .inl (by rw [unchanged different after])

/-- In every reachable state each record is an announcement of another service as it was sent, and
in every step from there a record stays, is newer and dated now, or is expired. -/
theorem membership_sound (ran : network.run {} actions = some (net,history)) :
    (∀ (index : Nat) (holder : Service) nodeId record, net.services[index]? = some holder →
      holder.state.members.lookup nodeId = some record →
      record.nodeId = nodeId ∧ nodeId ≠ holder.config.nodeId ∧
      ∃ (sender : Nat) (source : Service) (peer : NetworkEndpoint),
        net.services[sender]? = some source ∧ source.config.nodeId = record.nodeId ∧
        source.config.generation = record.generation ∧
        source.config.advertisedRpcEndpoint = record.rpcEndpoint ∧
        .sent sender (buildAnnouncement source.config record.heartbeatSequence) peer ∈ history) ∧
    ∀ action next emitted (index : Nat) (holder later : Service) nodeId,
      net.step action = some (next,emitted) →
      net.services[index]? = some holder → next.services[index]? = some later →
      later.state.members.lookup nodeId ≠ holder.state.members.lookup nodeId →
      (∃ order visit observedAt, action = .expire index order visit observedAt ∧
        later.state.members.lookup nodeId = none) ∨
      ∃ datagram record, action = .receive index datagram record.lastSeen ∧
        later.state.members.lookup nodeId = some record ∧
        ∀ old, holder.state.members.lookup nodeId = some old →
          old.generation < record.generation ∨
          old.generation = record.generation ∧ old.heartbeatSequence < record.heartbeatSequence := by
  have sound := run_sound ran
  constructor
  · intro index holder nodeId record active found
    have holds := sound.holds active
    exact ⟨holds.keyed nodeId record found,holds.foreign found,holds.described found⟩
  · intro action next emitted index holder later nodeId stepped before after changed
    exact ((step_took stepped).record before after nodeId).resolve_left changed

def sampleMeeting : List NetworkAction :=
  [.create (sampleService [1] 1) none,.create (sampleService [2] 5) none,
    .addPeer 1 (sampleService [1] 1).advertisedRpcEndpoint,.announce 1,.transmit 1 true,.account 1,.receive 0 0 9]

theorem membership_sound_sample : ∃ net history, network.run {} sampleMeeting = some (net,history) ∧
    (∃ holder : Service, net.services[0]? = some holder ∧
      (holder.state.members.lookup [2]).map (·.lastSeen) = some 9) ∧
    ∃ (sender : Nat) (source : Service) (peer : NetworkEndpoint), net.services[sender]? = some source ∧
      source.config.nodeId = [2] ∧ .sent sender (buildAnnouncement source.config 1) peer ∈ history := by
  obtain ⟨net,history,holder,record,ran,active,found,seen,sequence⟩ :
      ∃ net history holder record, network.run {} sampleMeeting = some (net,history) ∧
        net.services[0]? = some holder ∧ holder.state.members.lookup [2] = some record ∧
        record.lastSeen = 9 ∧ record.heartbeatSequence = 1 := ⟨_,_,_,_,rfl,rfl,rfl,rfl,rfl⟩
  obtain ⟨name,-,sender,source,peer,sending,own,-,-,sent⟩ := (membership_sound ran).1 0 holder [2] record active found
  rw [sequence] at sent
  exact ⟨net,history,ran,⟨holder,active,by rw [found,Option.map_some,seen]⟩,sender,source,peer,sending,
    own.trans name,sent⟩

end AutoRuntime.Discovery
