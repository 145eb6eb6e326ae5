import AutoRuntime.DiscoveryFence
import AutoRuntime.DiscoveryWire

/-! Leases. A node is a member after an expiry pass exactly when its last accepted announcement is
not older than the lease. -/
namespace AutoRuntime.Discovery

open List Option Table AList
open Chrono

/-- The configured lease in clock ticks, as a mathematical number. -/
def leaseWindow (config : DiscoveryConfig) : Int := config.leaseTimeout * 1000000

/-- The times at which announcements of a node were accepted, in order. -/
def acceptances (nodeId : NodeId) (history : List Event) : List Int :=
  history.filterMap fun
    | .announced announcement observedAt outcome =>
      if announcement.nodeId = nodeId ∧ outcome.accepted = true then some observedAt else none
    | _ => none

@[simp] theorem acceptances_append (nodeId : NodeId) (history seen : List Event) :
    acceptances nodeId (history ++ seen) = acceptances nodeId history ++ acceptances nodeId seen :=
  filterMap_append

theorem acceptances_announced (nodeId : NodeId) (announcement : Announcement) (observedAt : Int) (outcome : Outcome) :
    acceptances nodeId [.announced announcement observedAt outcome] =
      if announcement.nodeId = nodeId ∧ outcome.accepted = true then [observedAt] else [] := by
  simp only [acceptances]
  split <;> simp_all

theorem acceptances_unannounced (unannounced : ∀ announcement time outcome, .announced announcement time outcome ∉ seen)
    (nodeId : NodeId) : acceptances nodeId seen = [] := by
  rw [acceptances,filterMap_eq_nil_iff]
  intro event member
  cases event with
  | announced announcement time outcome => exact absurd member (unannounced announcement time outcome)
  | expired | evicted => rfl

/-- The lease of the record is over. -/
def overdue (config : DiscoveryConfig) (observedAt : Int) (member : MemberRecord) : Bool :=
  milliseconds config.leaseTimeout < elapsed observedAt member.lastSeen

theorem expireMember_lookup (config order observedAt progress) (entry : Σ _ : NodeId, MemberRecord) (nodeId : NodeId) :
    (expireMember config order observedAt progress entry).1.members.lookup nodeId =
      if entry.1 = nodeId ∧ overdue config observedAt entry.2 = true then none
      else progress.1.members.lookup nodeId := by
  by_cases ended : milliseconds config.leaseTimeout < elapsed observedAt entry.2.lastSeen
  · rw [(expireMember_ended config order observedAt progress entry ended).1]
    by_cases same : entry.1 = nodeId
    · rw [if_pos ⟨same,by simpa [overdue] using ended⟩,← same,lookup_erase]
    · rw [if_neg fun both => same both.1,lookup_erase_ne (Ne.symm same)]
  · rw [if_neg fun both => ended (by simpa [overdue] using both.2)]
    simp [expireMember,ended]

theorem foldl_expireMember (config order observedAt) (entries : List (Σ _ : NodeId, MemberRecord))
    (progress : State × List Event) (nodeId : NodeId) :
    (entries.foldl (expireMember config order observedAt) progress).1.members.lookup nodeId =
      if ∃ entry ∈ entries, entry.1 = nodeId ∧ overdue config observedAt entry.2 = true then none
      else progress.1.members.lookup nodeId := by
  induction entries generalizing progress with
  | nil => simp
  | cons entry rest ih =>
    rw [foldl_cons,ih,expireMember_lookup]
    by_cases later : ∃ entry ∈ rest, entry.1 = nodeId ∧ overdue config observedAt entry.2 = true
    · rw [if_pos later,if_pos (later.imp fun _ found => ⟨mem_cons_of_mem _ found.1,found.2⟩)]
    · rw [if_neg later]
      simp only [mem_cons,exists_eq_or_imp,or_iff_left later]

theorem expireMembers_lookup (config order visit observedAt) (s : State) (nodeId : NodeId) :
    (expireMembers config order visit observedAt s).1.members.lookup nodeId =
      (s.members.lookup nodeId).filter fun member => !overdue config observedAt member := by
  rw [expireMembers,foldl_expireMember]
  have visited : (∃ entry ∈ visit.arrange s.members.entries, entry.1 = nodeId ∧
      overdue config observedAt entry.2 = true) ↔
      ∃ member, s.members.lookup nodeId = some member ∧ overdue config observedAt member = true := by
    constructor
    · rintro ⟨⟨key,member⟩,listed,rfl,late⟩
      exact ⟨member,lookup_eq_some_iff.mpr ((visit.perm _).mem_iff.mp listed),late⟩
    · rintro ⟨member,found,late⟩
      exact ⟨⟨nodeId,member⟩,(visit.perm _).mem_iff.mpr (lookup_eq_some_iff.mp found),rfl,late⟩
  simp only [expireGenerationFences_members,visited]
  cases found : s.members.lookup nodeId with
  | none => simp
  | some member => cases late : overdue config observedAt member <;> simp [Option.filter,late]

theorem overdue_exact (lease : Fits (leaseWindow config)) (fits : Fits (observedAt - member.lastSeen)) :
    overdue config observedAt member = true ↔ leaseWindow config < observedAt - member.lastSeen := by
  simp only [overdue,milliseconds_exact lease,elapsed,wrap_exact fits,decide_eq_true_eq]
  rfl

/-- A member was last accepted when it was last seen. Whoever was accepted and is no member was last
accepted too long ago for every time still to come. -/
structure Leased (config : DiscoveryConfig) (s : State) (history : List Event) (upcoming : List Int) : Prop where
  keyed : Keyed s
  present : s.members.lookup nodeId = some member → (acceptances nodeId history).getLast? = some member.lastSeen
  absent : s.members.lookup nodeId = none → (acceptances nodeId history).getLast? = some last →
    ∀ time ∈ upcoming, leaseWindow config < time - last
  fits : last ∈ acceptances nodeId history → ∀ time ∈ upcoming, Fits (time - last)

theorem initial_leased (config : DiscoveryConfig) (upcoming : List Int) : Leased config initial [] upcoming := by
  constructor <;> simp [Keyed,initial,acceptances]

section Step

variable {config : DiscoveryConfig} {s t : State} {history : List Event} {upcoming : List Int}

theorem Leased.unaccepted (leased : Leased config s history (observedAt :: upcoming)) (members : t.members = s.members)
    (refused : ∀ nodeId, acceptances nodeId seen = []) : Leased config t (history ++ seen) upcoming := by
  have same (nodeId : NodeId) : acceptances nodeId (history ++ seen) = acceptances nodeId history := by
    rw [acceptances_append,refused,append_nil]
  refine ⟨fun nodeId member found => leased.keyed nodeId member (members ▸ found),fun {nodeId member} found => ?_,
    fun {nodeId last} none latest time listed => ?_,fun {last nodeId} accepted time listed => ?_⟩
  · rw [same]
    exact leased.present (members ▸ found)
  · rw [same] at latest
    exact leased.absent (members ▸ none) latest time (mem_cons_of_mem _ listed)
  · rw [same] at accepted
    exact leased.fits accepted time (mem_cons_of_mem _ listed)

theorem Leased.renewed {record : MemberRecord} (leased : Leased config s history (observedAt :: upcoming))
    (fits : ∀ time ∈ upcoming, Fits (time - observedAt)) (keyed : Keyed t)
    (own : t.members.lookup announcement.nodeId = some record) (seen : record.lastSeen = observedAt)
    (others : ∀ nodeId, nodeId ≠ announcement.nodeId → t.members.lookup nodeId = s.members.lookup nodeId)
    (accepted : outcome.accepted = true) :
    Leased config t (history ++ [.announced announcement observedAt outcome]) upcoming := by
  have more (nodeId : NodeId) : acceptances nodeId (history ++ [.announced announcement observedAt outcome]) =
      if announcement.nodeId = nodeId then acceptances nodeId history ++ [observedAt]
      else acceptances nodeId history := by
    rw [acceptances_append,acceptances_announced]
    by_cases same : announcement.nodeId = nodeId <;> simp [same,accepted]
  refine ⟨keyed,fun {nodeId member} found => ?_,fun {nodeId last} none latest time listed => ?_,
    fun {last nodeId} listed time later => ?_⟩
  · rw [more]
    split
    next same =>
      subst same
      cases own.symm.trans found
      rw [getLast?_concat,seen]
    next apart =>
      rw [others nodeId (Ne.symm apart)] at found
      exact leased.present found
  · rw [more] at latest
    split at latest
    next same =>
      rw [← same,own] at none
      contradiction
    next apart =>
      rw [others nodeId (Ne.symm apart)] at none
      exact leased.absent none latest time (mem_cons_of_mem _ listed)
  · rw [more] at listed
    split at listed
    · rcases mem_append.mp listed with old | new
      · exact leased.fits old time (mem_cons_of_mem _ later)
      · rw [mem_singleton.mp new]
        exact fits time later
    · exact leased.fits listed time (mem_cons_of_mem _ later)

theorem accept_members (keyed : Keyed s) (accepted : (accept config announcement observedAt s).2.accepted = true) :
    (accept config announcement observedAt s).1.members.lookup announcement.nodeId =
      some ⟨announcement.nodeId,announcement.generation,announcement.sequence,announcement.rpcEndpoint,observedAt⟩ ∧
    ∀ nodeId, nodeId ≠ announcement.nodeId →
      (accept config announcement observedAt s).1.members.lookup nodeId = s.members.lookup nodeId := by
  have spec := accept_spec config announcement observedAt s
  generalize accept config announcement observedAt s = result at spec accepted
  cases spec with
  | own => contradiction
  | rejected refused =>
    rw [refused] at accepted
    contradiction
  | created absent above members =>
    rw [members]
    exact ⟨lookup_insert _,fun nodeId apart => lookup_insert_ne apart⟩
  | updated member present newer members =>
    have named := keyed _ _ present
    rw [members,lookup_modify_same,present]
    exact ⟨by simp [named],fun nodeId apart => lookup_modify_other _ _ apart⟩

theorem accept_unaccepted (refused : (accept config announcement observedAt s).2.accepted = false) :
    (accept config announcement observedAt s).1.members = s.members := by
  have spec := accept_spec config announcement observedAt s
  generalize accept config announcement observedAt s = result at spec refused
  cases spec with
  | own => rfl
  | rejected refused members => exact members
  | created | updated => contradiction

theorem Leased.accept (leased : Leased config s history (observedAt :: upcoming))
    (fits : ∀ time ∈ upcoming, Fits (time - observedAt)) (announcement : Announcement) :
    Leased config (accept config announcement observedAt s).1
      (history ++ [.announced announcement observedAt (Discovery.accept config announcement observedAt s).2])
      upcoming := by
  cases accepted : (Discovery.accept config announcement observedAt s).2.accepted with
  | true =>
    obtain ⟨own,others⟩ := accept_members leased.keyed accepted
    exact leased.renewed fits (accept_keyed config announcement observedAt leased.keyed) own rfl others accepted
  | false =>
    refine leased.unaccepted (accept_unaccepted accepted) fun nodeId => ?_
    rw [acceptances_announced,accepted]
    simp

/-- An expiry pass takes away the members whose lease is over, and it stays over. -/
theorem Leased.expire (leased : Leased config s history (observedAt :: upcoming)) (lease : Fits (leaseWindow config))
    (ordered : ∀ time ∈ upcoming, observedAt ≤ time) (order : Table.Order NodeId GenerationFence)
    (visit : Table.Order NodeId MemberRecord) :
    Leased config (expireMembers config order visit observedAt s).1
      (history ++ (expireMembers config order visit observedAt s).2) upcoming := by
  have same (nodeId : NodeId) : acceptances nodeId (history ++ (expireMembers config order visit observedAt s).2) =
      acceptances nodeId history := by
    rw [acceptances_append,acceptances_unannounced (expireMembers_unannounced config order visit observedAt s),
      append_nil]
  have kept {nodeId : NodeId} {member : MemberRecord}
      (found : (expireMembers config order visit observedAt s).1.members.lookup nodeId = some member) :
      s.members.lookup nodeId = some member := by
    rw [expireMembers_lookup,filter_eq_some_iff] at found
    exact found.1
  refine ⟨fun nodeId member found => leased.keyed nodeId member (kept found),fun {nodeId member} found => ?_,
    fun {nodeId last} none latest time listed => ?_,fun {last nodeId} accepted time listed => ?_⟩
  · rw [same]
    exact leased.present (kept found)
  · rw [same] at latest
    have later := ordered time listed
    cases found : s.members.lookup nodeId with
    | none =>
      have over_ := leased.absent found latest observedAt mem_cons_self
      omega
    | some member =>
      -- the record was there, so it is this pass that took it away
      rw [expireMembers_lookup,found] at none
      cases (leased.present found).symm.trans latest
      have fits := leased.fits (mem_of_getLast? latest) observedAt mem_cons_self
      have late : overdue config observedAt member = true := by
        by_contra early
        simp [early] at none
      rw [overdue_exact lease fits] at late
      omega
  · rw [same] at accepted
    exact leased.fits accepted time (mem_cons_of_mem _ listed)

end Step

/-- Times that never go back and whose differences stay in 64 bits. -/
def Timely (times : List Int) : Prop := times.Pairwise fun one two => one ≤ two ∧ Fits (two - one)

theorem run_leased (lease : Fits (leaseWindow config)) (timely : Timely (ops.map Op.observedAt ++ upcoming))
    (ran : (service config).run initial ops = some (s,history)) : Leased config s history upcoming := by
  have rule := Machine.run_rule (m := service config) (s := initial)
    (motive := fun s history rest => Leased config s history (rest.map Op.observedAt ++ upcoming) ∧
      Timely (rest.map Op.observedAt ++ upcoming)) ?_ ⟨initial_leased config _,timely⟩ ran
  · exact rule.1
  · rintro s history op rest t emitted ⟨leased,timely⟩ stepped
    obtain ⟨rfl,rfl⟩ : (perform config s op).1 = t ∧ (perform config s op).2 = emitted := by
      simpa [service,Prod.ext_iff] using stepped
    obtain ⟨first,later⟩ := pairwise_cons.mp timely
    refine ⟨?_,later⟩
    cases op with
    | accept announcement => exact leased.accept (fun time listed => (first time listed).2) announcement
    | expireMembers order visit => exact leased.expire lease (fun time listed => (first time listed).1) order visit

/-- After an expiry pass a node is a member exactly when its last accepted announcement is within the
lease. An announcement that is accepted writes the record of its node and nothing else; one that is
not accepted leaves the members as they are. -/
theorem lease_exact (lease : Fits (leaseWindow config)) (timely : Timely (ops.map Op.observedAt ++ [now]))
    (ran : (service config).run initial ops = some (s,history)) (order : Table.Order NodeId GenerationFence)
    (visit : Table.Order NodeId MemberRecord) :
    (∀ nodeId, ((perform config s (.expireMembers order visit now)).1.members.lookup nodeId).isSome = true ↔
      ∃ last, (acceptances nodeId history).getLast? = some last ∧ now - last ≤ leaseWindow config) ∧
    ∀ announcement observedAt t outcome,
      perform config s (.accept announcement observedAt) = (t,[.announced announcement observedAt outcome]) →
      (outcome.accepted = false → t.members = s.members) ∧
      (outcome.accepted = true → t.members.lookup announcement.nodeId = some ⟨announcement.nodeId,
          announcement.generation,announcement.sequence,announcement.rpcEndpoint,observedAt⟩ ∧
        ∀ nodeId, nodeId ≠ announcement.nodeId → t.members.lookup nodeId = s.members.lookup nodeId) := by
  have leased := run_leased lease timely ran
  refine ⟨fun nodeId => ?_,fun announcement observedAt t outcome performed => ?_⟩
  · change ((expireMembers config order visit now s).1.members.lookup nodeId).isSome = true ↔ _
    rw [expireMembers_lookup]
    cases found : s.members.lookup nodeId with
    | none =>
      refine iff_of_false (by simp) ?_
      rintro ⟨last,latest,within⟩
      have over_ := leased.absent found latest now mem_cons_self
      omega
    | some member =>
      have latest := leased.present found
      have exact_ := overdue_exact lease (leased.fits (mem_of_getLast? latest) now mem_cons_self)
      simp only [filter_some,latest,some.injEq,exists_eq_left']
      cases late : overdue config now member with
      | true =>
        have over_ := exact_.mp late
        refine iff_of_false (by simp) (by omega)
      | false =>
        refine iff_of_true (by simp) ?_
        by_contra over_
        rw [exact_.mpr (by omega)] at late
        contradiction
  · cases performed
    exact ⟨accept_unaccepted,fun accepted => accept_members leased.keyed accepted⟩

def pairService : DiscoveryConfig := { sampleService [1] 1 with maxMembers := 2 }

/-- One node is heard twice and another once; the pass at 3000000 finds the second one too old. -/
def twoNodes : List Op :=
  [.accept ((sampleService [2] 5).announcement 1) 0,.accept ((sampleService [3] 1).announcement 1) 500000,
    .accept ((sampleService [2] 5).announcement 2) 1000000]

theorem lease_exact_sample : ∃ s history, (service pairService).run initial twoNodes = some (s,history) ∧
    let expired := (perform pairService s (.expireMembers .stored .stored 3000000)).1
    (expired.members.lookup [2]).isSome = true ∧ (expired.members.lookup [3]).isSome = false := by
  obtain ⟨s,history,ran,second,third⟩ : ∃ s history,
      (service pairService).run initial twoNodes = some (s,history) ∧
      acceptances [2] history = [0,1000000] ∧ acceptances [3] history = [500000] := ⟨_,_,rfl,rfl,rfl⟩
  have lease : Fits (leaseWindow pairService) := by decide
  have timely : Timely (twoNodes.map Op.observedAt ++ [3000000]) := by
    simp only [Timely]
    decide
  have exact_ := (lease_exact lease timely ran .stored .stored).1
  refine ⟨s,history,ran,(exact_ [2]).mpr ⟨1000000,by rw [second]; rfl,by decide⟩,?_⟩
  rw [← Bool.not_eq_true,exact_ [3],third]
  rintro ⟨last,latest,within⟩
  cases latest
  exact absurd within (by decide)

end AutoRuntime.Discovery
