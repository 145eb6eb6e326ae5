import AutoRuntime.DiscoveryFence
import AutoRuntime.DiscoveryWire

/-! Any number of discovery services and the datagrams between them. The network keeps whatever
was sent and delivers any of it to anyone, any number of times and in any order, but nothing
else. The worker of a service sends, receives and expires in turn; while it is sending it does
nothing else. -/
namespace AutoRuntime.Discovery

open Option

/-- The worker inside `SendAnnouncement`, between its two sections. -/
structure Sending where
  sequence : UInt64
  packet : Bytes
  peers : List NetworkEndpoint
  sent : Nat := 0
  failed : Nat := 0

structure Service where
  config : DiscoveryConfig
  peers : List NetworkEndpoint
  nextSequence : UInt64 := 1
  state : State
  sending : Option Sending := none
  announcementsSent : Nat := 0
  sendFailures : Nat := 0
  parseErrors : Nat := 0

structure Network where
  services : List Service := []
  datagrams : List Bytes := []

inductive NetworkEvent where
  | refused (status : Status)
  | sent (service : Nat) (packet : Bytes) (peer : NetworkEndpoint)
  | observed (service : Nat) (event : Event)

inductive NetworkAction where
  | create (config : DiscoveryConfig) (network : Option Status)
  | addPeer (service : Nat) (peer : NetworkEndpoint)
  | announce (service : Nat)
  | transmit (service : Nat) (accepted : Bool)
  | account (service : Nat)
  | receive (service datagram : Nat) (observedAt : Int)
  | receiveFails (service : Nat)
  | expire (service : Nat) (order : Table.Order NodeId GenerationFence)
      (visit : Table.Order NodeId MemberRecord) (observedAt : Int)

def Service.addPeer (service : Service) (peer : NetworkEndpoint) : Except Status Service :=
  match socketAddress peer false with
  | some status => .error status
  | none =>
    if peer ∈ service.peers then .error ⟨.alreadyExists,"discovery peer already exists"⟩
    else if service.peers.length ≥ service.config.maxPeers then
      .error ⟨.queueFull,"discovery peer capacity reached"⟩
    else .ok { service with peers := service.peers ++ [peer] }

/-- The first section of `SendAnnouncement`. -/
def Service.announce (service : Service) : Service :=
  { service with
    nextSequence := service.nextSequence + 1
    sending := some
      { sequence := service.nextSequence
        packet := buildAnnouncement service.config service.nextSequence
        peers := service.peers } }

/-- The second section of `SendAnnouncement`. -/
def Service.account (service : Service) (sending : Sending) : Service :=
  { service with
    sending := none
    announcementsSent := service.announcementsSent + sending.sent
    sendFailures := service.sendFailures + sending.failed }

/-- One datagram in `ReceiveAnnouncements`. -/
def Service.receive (service : Service) (packet : Bytes) (observedAt : Int) : Service × List Event :=
  match parseAnnouncement (packet.take maximumDatagramBytes) with
  | none => ({ service with parseErrors := service.parseErrors + 1 },[])
  | some announcement =>
    let (state,events) := perform service.config service.state (.accept announcement observedAt)
    ({ service with state := state },events)

def Service.expire (service : Service) (order : Table.Order NodeId GenerationFence)
    (visit : Table.Order NodeId MemberRecord) (observedAt : Int) : Service × List Event :=
  let (state,events) := perform service.config service.state (.expireMembers order visit observedAt)
  ({ service with state := state },events)

def Network.setService (net : Network) (index : Nat) (service : Service) : Network :=
  { net with services := net.services.set index service }

/-- The worker of a service that is not sending. -/
def Network.idle (net : Network) (index : Nat) : Option Service :=
  net.services[index]?.filter (·.sending.isNone)

def Network.transmit (net : Network) (index : Nat) (accepted : Bool) : Option (Network × List NetworkEvent) := do
  let service ← net.services[index]?
  let sending ← service.sending
  let peer :: rest := sending.peers | none
  if (socketAddress peer false).isNone && accepted then
    let service := { service with sending := some { sending with peers := rest, sent := sending.sent + 1 } }
    some ({ net.setService index service with datagrams := net.datagrams ++ [sending.packet] },
      [.sent index sending.packet peer])
  else
    let service := { service with sending := some { sending with peers := rest, failed := sending.failed + 1 } }
    some (net.setService index service,[])

def Network.account (net : Network) (index : Nat) : Option (Network × List NetworkEvent) := do
  let service ← net.services[index]?
  let sending ← service.sending
  if sending.peers.isEmpty then some (net.setService index (service.account sending),[]) else none

def Network.step (net : Network) : NetworkAction → Option (Network × List NetworkEvent)
  | .create config network =>
    match create config network with
    | .error status => some (net,[.refused status])
    | .ok state =>
      some ({ net with services := net.services ++ [{ config := config, peers := config.peers, state := state }] },[])
  | .addPeer index peer => do
    let service ← net.services[index]?
    match service.addPeer peer with
    | .error status => some (net,[.refused status])
    | .ok service => some (net.setService index service,[])
  | .announce index => do
    let service ← net.idle index
    some (net.setService index service.announce,[])
  | .transmit index accepted => net.transmit index accepted
  | .account index => net.account index
  | .receive index datagram observedAt => do
    let service ← net.idle index
    let packet ← net.datagrams[datagram]?
    let (service,events) := service.receive packet observedAt
    some (net.setService index service,events.map (.observed index))
  | .receiveFails index => do
    let service ← net.idle index
    some (net.setService index { service with parseErrors := service.parseErrors + 1 },[])
  | .expire index order visit observedAt => do
    let service ← net.idle index
    let (service,events) := service.expire order visit observedAt
    some (net.setService index service,events.map (.observed index))

def network : Machine Network NetworkAction NetworkEvent := ⟨Network.step⟩

/-- What is being sent is this service's own announcement. -/
def Service.Packed (service : Service) : Prop :=
  ∀ sending, service.sending = some sending → sending.packet = buildAnnouncement service.config sending.sequence

/-- What a step can do. Only a datagram or an expiry touches the records of a service. -/
inductive Took (net : Network) : NetworkAction → Network → List NetworkEvent → Prop where
  | refused : Took net action net [.refused status]
  | created {config : DiscoveryConfig} (valid : config.Valid) :
      Took net action { net with
        services := net.services ++ [{ config := config, peers := config.peers, state := initial }] } []
  | worked {index : Nat} {before after : Service} (active : net.services[index]? = some before)
      (config : after.config = before.config) (state : after.state = before.state)
      (packed : before.Packed → after.Packed) : Took net action (net.setService index after) []
  | transmitted {index : Nat} {before after : Service} {sending : Sending} {peer : NetworkEndpoint}
      (active : net.services[index]? = some before) (now : before.sending = some sending)
      (config : after.config = before.config) (state : after.state = before.state)
      (packed : before.Packed → after.Packed) :
      Took net action { net.setService index after with datagrams := net.datagrams ++ [sending.packet] }
        [.sent index sending.packet peer]
  | received {index datagram : Nat} {before : Service} {packet : Bytes} {announcement : Announcement}
      (active : net.services[index]? = some before) (listed : net.datagrams[datagram]? = some packet)
      (parsed : parseAnnouncement (packet.take maximumDatagramBytes) = some announcement) :
      Took net (.receive index datagram observedAt)
        (net.setService index
          { before with state := (accept before.config announcement observedAt before.state).1 }) emitted
  | expired {index : Nat} {before : Service} (active : net.services[index]? = some before) :
      Took net (.expire index order visit observedAt)
        (net.setService index
          { before with state := (expireMembers before.config order visit observedAt before.state).1 }) emitted

theorem idle_some {net : Network} {service : Service} (idle : net.idle index = some service) :
    net.services[index]? = some service ∧ service.sending = none := by
  obtain ⟨active,free⟩ := filter_eq_some_iff.mp idle
  exact ⟨active,isNone_iff_eq_none.mp free⟩

theorem transmit_took {net : Network} (stepped : net.transmit index accepted = some (next,emitted)) :
    Took net action next emitted := by
  simp only [Network.transmit,bind_eq_bind,bind_eq_some_iff] at stepped
  obtain ⟨service,active,sending,now,stepped⟩ := stepped
  have packed : service.Packed → ∀ after : Service, after.config = service.config →
      (∀ later, after.sending = some later → later.packet = sending.packet ∧ later.sequence = sending.sequence) →
      after.Packed := by
    intro built after config same later busy
    obtain ⟨packet,sequence⟩ := same later busy
    rw [packet,sequence,config]
    exact built sending now
  cases targets : sending.peers with
  | nil => simp [targets] at stepped
  | cons =>
    simp only [targets] at stepped
    split at stepped
    · cases stepped
      refine .transmitted active now rfl rfl fun built => packed built _ rfl ?_
      rintro later ⟨⟩
      exact ⟨rfl,rfl⟩
    · cases stepped
      refine .worked active rfl rfl fun built => packed built _ rfl ?_
      rintro later ⟨⟩
      exact ⟨rfl,rfl⟩

theorem addPeer_took {net : Network} (stepped : net.step (.addPeer index peer) = some (next,emitted)) :
    Took net action next emitted := by
  simp only [Network.step,bind_eq_bind,bind_eq_some_iff] at stepped
  obtain ⟨service,active,stepped⟩ := stepped
  cases answered : service.addPeer peer with
  | error =>
    simp only [answered] at stepped
    obtain ⟨rfl,rfl⟩ := stepped
    exact .refused
  | ok =>
    simp only [answered] at stepped
    obtain ⟨rfl,rfl⟩ := stepped
    simp only [Service.addPeer] at answered
    split at answered
    · contradiction
    · split at answered
      · contradiction
      · split at answered
        · contradiction
        · cases answered
          exact .worked active rfl rfl id

theorem step_took {net : Network} (stepped : net.step action = some (next,emitted)) :
    Took net action next emitted := by
  cases action with
  | create =>
    simp only [Network.step] at stepped
    split at stepped
    · cases stepped
      exact .refused
    next created =>
      cases stepped
      obtain ⟨valid,rfl⟩ := create_valid created
      exact .created valid
  | addPeer => exact addPeer_took stepped
  | announce =>
    simp only [Network.step,bind_eq_bind,bind_eq_some_iff] at stepped
    obtain ⟨service,idle,rfl,rfl⟩ := stepped
    refine .worked (idle_some idle).1 rfl rfl fun _ => ?_
    rintro sending ⟨⟩
    rfl
  | transmit => exact transmit_took stepped
  | account =>
    simp only [Network.step,Network.account,bind_eq_bind,bind_eq_some_iff] at stepped
    obtain ⟨service,active,sending,now,stepped⟩ := stepped
    split at stepped
    · cases stepped
      refine .worked active rfl rfl fun _ => ?_
      rintro later ⟨⟩
    · contradiction
  | receive =>
    simp only [Network.step,bind_eq_bind,bind_eq_some_iff] at stepped
    obtain ⟨service,idle,packet,listed,rfl,rfl⟩ := stepped
    cases parsed : parseAnnouncement (packet.take maximumDatagramBytes) with
    | none =>
      simp only [Service.receive,parsed]
      exact .worked (idle_some idle).1 rfl rfl id
    | some =>
      simp only [Service.receive,parsed]
      exact .received (idle_some idle).1 listed parsed
  | receiveFails =>
    simp only [Network.step,bind_eq_bind,bind_eq_some_iff] at stepped
    obtain ⟨service,idle,rfl,rfl⟩ := stepped
    exact .worked (idle_some idle).1 rfl rfl id
  | expire =>
    simp only [Network.step,bind_eq_bind,bind_eq_some_iff] at stepped
    obtain ⟨service,idle,rfl,rfl⟩ := stepped
    exact .expired (idle_some idle).1

end AutoRuntime.Discovery
