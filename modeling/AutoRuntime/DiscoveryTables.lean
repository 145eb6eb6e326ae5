import AutoRuntime.DiscoveryFence
import AutoRuntime.DiscoveryWire

/-! The two tables of the membership state and their counters. A node is in one table at most,
so an expiry finds no fence to refresh and leaves exactly one new fence behind. -/
namespace AutoRuntime.Discovery

open List Nat Table AList
open Chrono

/-- The announcement came out of a datagram. -/
def Op.Parsed : Op → Prop
  | .accept announcement _ => ∃ data, parseAnnouncement data = some announcement
  | .expireMembers .. => True

def Event.accepted : Event → Bool
  | .announced _ _ outcome => outcome.accepted
  | _ => false

structure Tables (config : DiscoveryConfig) (s : State) : Prop where
  keyed : Keyed s
  apart : s.members.lookup nodeId = some member → s.generationFences.lookup nodeId = none
  membersRoom : s.members.size ≤ config.maxMembers
  fencesRoom : s.generationFences.size ≤ config.maxGenerationFences
  memberGeneration : s.members.lookup nodeId = some member → member.generation ≠ 0
  fenceGeneration : s.generationFences.lookup nodeId = some fence → fence.generation ≠ 0

section

variable {history : List Event}

theorem Tables.of_eq (tables : Tables config s) (members : t.members = s.members)
    (fences : t.generationFences = s.generationFences) : Tables config t := by
  obtain ⟨_,_,_⟩ := s
  subst members fences
  exact ⟨tables.keyed,tables.apart,tables.membersRoom,tables.fencesRoom,tables.memberGeneration,
    tables.fenceGeneration⟩

end

end AutoRuntime.Discovery
