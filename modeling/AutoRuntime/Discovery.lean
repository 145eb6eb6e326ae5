import AutoRuntime.Machine
import AutoRuntime.Status
import AutoRuntime.Table

/-! The membership state of `DiscoveryService`: active members under a lease and the
bounded generation fences that outlive them. Announcements arrive already parsed. Time
points are whatever the receiver's clock showed, so no clock is part of the state. -/
namespace AutoRuntime.Discovery

open Chrono

abbrev NodeId := Bytes

structure NetworkEndpoint where
  address : Bytes
  port : UInt16
  deriving DecidableEq, Repr

structure MemberRecord where
  nodeId : NodeId
  generation : UInt64
  heartbeatSequence : UInt64
  rpcEndpoint : NetworkEndpoint
  lastSeen : Int
  deriving DecidableEq, Repr

structure GenerationFence where
  generation : UInt64
  expiresAt : Int
  deriving DecidableEq, Repr

structure Announcement where
  nodeId : NodeId
  generation : UInt64
  sequence : UInt64
  rpcEndpoint : NetworkEndpoint
  deriving DecidableEq, Repr

/-- Timeouts are millisecond counts, as configured. -/
structure DiscoveryConfig where
  nodeId : NodeId
  generation : UInt64
  bindEndpoint : NetworkEndpoint
  advertisedRpcEndpoint : NetworkEndpoint
  peers : List NetworkEndpoint
  heartbeatPeriod : Int
  leaseTimeout : Int
  generationFenceTimeout : Int
  maxMembers : Nat
  maxPeers : Nat
  maxGenerationFences : Nat
  deriving DecidableEq, Repr

structure DiscoveryStats where
  announcementsReceived : Nat := 0
  staleAnnouncements : Nat := 0
  duplicateAnnouncements : Nat := 0
  generationFenceRejections : Nat := 0
  expiredMembers : Nat := 0
  generationFencesCreated : Nat := 0
  generationFencesExpired : Nat := 0
  generationFenceEvictions : Nat := 0
  capacityDrops : Nat := 0
  deriving DecidableEq, Repr

structure State where
  members : Table NodeId MemberRecord
  generationFences : Table NodeId GenerationFence
  stats : DiscoveryStats

def initial : State := ⟨∅,∅,{}⟩

/-- Which exit of `Accept` an announcement takes. -/
inductive Outcome where
  | ownNode | created | updated | fenced | stale | duplicate | capacity
  deriving DecidableEq, Repr

def Outcome.accepted : Outcome → Bool
  | .created | .updated => true
  | _ => false

inductive Event where
  | announced (announcement : Announcement) (observedAt : Int) (outcome : Outcome)
  | expired (nodeId : NodeId) (observedAt : Int)
  | evicted (nodeId : NodeId) (observedAt : Int)
  deriving DecidableEq, Repr

def State.tally (s : State) (count : DiscoveryStats → DiscoveryStats) : State :=
  { s with stats := count s.stats }

@[simp] theorem State.tally_members (s : State) (count) : (s.tally count).members = s.members := rfl
@[simp] theorem State.tally_generationFences (s : State) (count) :
    (s.tally count).generationFences = s.generationFences := rfl

def expireGenerationFences (observedAt : Int) (s : State) : State :=
  let overdue (entry : Σ _ : NodeId, GenerationFence) : Bool := entry.2.expiresAt ≤ observedAt
  { s with generationFences := s.generationFences.filter fun _ fence => observedAt < fence.expiresAt }
    |>.tally fun stats => { stats with
      generationFencesExpired :=
        stats.generationFencesExpired + s.generationFences.entries.countP overdue }

/-- The fence a member leaves behind when its lease ends. -/
def fenceFor (config : DiscoveryConfig) (generation : UInt64) (observedAt : Int) :
    GenerationFence :=
  ⟨generation,after observedAt (milliseconds config.generationFenceTimeout)⟩

/-- `min_element`: the first of the least. -/
def minElement (less : α → α → Bool) : List α → Option α
  | [] => none
  | head :: rest => some (rest.foldl (fun smallest other => if less other smallest then other else smallest) head)

def evictOldestFence (config : DiscoveryConfig) (order : Table.Order NodeId GenerationFence)
    (observedAt : Int) (s : State) : State × List Event :=
  if config.maxGenerationFences ≤ s.generationFences.size then
    match minElement (fun left right => left.2.expiresAt < right.2.expiresAt)
        (order.arrange s.generationFences.entries) with
    | some oldest =>
      ({ s with generationFences := s.generationFences.erase oldest.1 }
        |>.tally fun stats => { stats with
          generationFenceEvictions := stats.generationFenceEvictions + 1 },
        [.evicted oldest.1 observedAt])
    | none => (s,[])
  else (s,[])

def rememberGenerationFence (config : DiscoveryConfig) (order : Table.Order NodeId GenerationFence)
    (member : MemberRecord) (observedAt : Int) (s : State) : State × List Event :=
  match s.generationFences.lookup member.nodeId with
  | some existing =>
    ({ s with
        generationFences := s.generationFences.modify member.nodeId
          fun _ => fenceFor config (if existing.generation < member.generation then
            member.generation else existing.generation) observedAt },[])
  | none =>
    let (s,events) := evictOldestFence config order observedAt s
    ({ s with
        generationFences := s.generationFences.insert member.nodeId
          (fenceFor config member.generation observedAt) }
      |>.tally fun stats => { stats with
        generationFencesCreated := stats.generationFencesCreated + 1 },events)

/-- The part of `Accept` that decides, after the overdue fences are gone. -/
def enlist (config : DiscoveryConfig) (announcement : Announcement) (observedAt : Int)
    (s : State) : State × Outcome :=
  match s.members.lookup announcement.nodeId with
  | none =>
    if (s.generationFences.lookup announcement.nodeId).any
        (fun fence => announcement.generation ≤ fence.generation) then
      (s.tally fun stats => { stats with
        staleAnnouncements := stats.staleAnnouncements + 1
        generationFenceRejections := stats.generationFenceRejections + 1 },.fenced)
    else if config.maxMembers ≤ s.members.size then
      (s.tally fun stats => { stats with capacityDrops := stats.capacityDrops + 1 },.capacity)
    else
      ({ s with
          members := s.members.insert announcement.nodeId
            ⟨announcement.nodeId,announcement.generation,announcement.sequence,
              announcement.rpcEndpoint,observedAt⟩
          generationFences := s.generationFences.erase announcement.nodeId },.created)
  | some member =>
    if announcement.generation < member.generation then
      (s.tally fun stats => { stats with
        staleAnnouncements := stats.staleAnnouncements + 1 },.stale)
    else if announcement.generation = member.generation ∧
        announcement.sequence ≤ member.heartbeatSequence then
      (s.tally fun stats => { stats with
        duplicateAnnouncements := stats.duplicateAnnouncements + 1 },.duplicate)
    else
      ({ s with
          members := s.members.modify announcement.nodeId fun member =>
            { member with
              generation := announcement.generation
              heartbeatSequence := announcement.sequence
              rpcEndpoint := announcement.rpcEndpoint
              lastSeen := observedAt } },.updated)

def accept (config : DiscoveryConfig) (announcement : Announcement) (observedAt : Int)
    (s : State) : State × Outcome :=
  if announcement.nodeId = config.nodeId then (s,.ownNode)
  else enlist config announcement observedAt (expireGenerationFences observedAt
    (s.tally fun stats => { stats with
      announcementsReceived := stats.announcementsReceived + 1 }))

/-- One turn of the loop in `ExpireMembers`; the fence is written before the record goes. -/
def expireMember (config : DiscoveryConfig) (order : Table.Order NodeId GenerationFence)
    (observedAt : Int) (progress : State × List Event) (entry : Σ _ : NodeId, MemberRecord) :
    State × List Event :=
  if milliseconds config.leaseTimeout < elapsed observedAt entry.2.lastSeen then
    let (s,events) := rememberGenerationFence config order entry.2 observedAt progress.1
    ({ s with members := s.members.erase entry.1 }
      |>.tally fun stats => { stats with expiredMembers := stats.expiredMembers + 1 },
      progress.2 ++ (events ++ [.expired entry.1 observedAt]))
  else progress

def expireMembers (config : DiscoveryConfig) (order : Table.Order NodeId GenerationFence)
    (visit : Table.Order NodeId MemberRecord) (observedAt : Int) (s : State) :
    State × List Event :=
  let s := expireGenerationFences observedAt s
  (visit.arrange s.members.entries).foldl (expireMember config order observedAt) (s,[])

/-- The two entry points that touch membership, each under the service mutex. -/
inductive Op where
  | accept (announcement : Announcement) (observedAt : Int)
  | expireMembers (order : Table.Order NodeId GenerationFence)
      (visit : Table.Order NodeId MemberRecord) (observedAt : Int)

def Op.observedAt : Op → Int
  | .accept _ observedAt => observedAt
  | .expireMembers _ _ observedAt => observedAt

def perform (config : DiscoveryConfig) (s : State) : Op → State × List Event
  | .accept announcement observedAt =>
    let (next,outcome) := accept config announcement observedAt s
    (next,[.announced announcement observedAt outcome])
  | .expireMembers order visit observedAt => expireMembers config order visit observedAt s

def service (config : DiscoveryConfig) : Machine State Op Event :=
  ⟨fun s op => some (perform config s op)⟩

end AutoRuntime.Discovery
