import AutoRuntime.DiscoveryMembership
import AutoRuntime.DiscoveryRoundTrip
import AutoRuntime.DiscoveryTables
import AutoRuntime.NumericAddress

/-! The addresses that discovery lets in. The check reads up to the first zero byte, so an address
is numeric as a whole exactly when it has no zero byte. -/
namespace AutoRuntime.Discovery

/-- The endpoint that comes with an operation. -/
def Op.endpoint : Op → Option NetworkEndpoint
  | .accept announcement _ => some announcement.rpcEndpoint
  | .expireMembers .. => none

theorem perform_endpoints {holds : NetworkEndpoint → Prop}
    (brought : ∀ endpoint, op.endpoint = some endpoint → holds endpoint)
    (known : ∀ nodeId record, s.members.lookup nodeId = some record → holds record.rpcEndpoint)
    (found : (perform config s op).1.members.lookup nodeId = some record) : holds record.rpcEndpoint := by
  cases op with
  | accept announcement observedAt =>
    rcases accept_lookup config announcement observedAt s nodeId with same | ⟨written,now,-,-,carries,-⟩
    · exact known nodeId record (same.symm.trans found)
    · cases now.symm.trans found
      rw [carries.endpoint]
      exact brought _ rfl
  | expireMembers order visit observedAt =>
    rcases expireMembers_kept config order visit observedAt s nodeId with same | gone
    · exact known nodeId record (same.symm.trans found)
    · exact absurd (gone.symm.trans found) (by simp)

theorem run_endpoints (holds : NetworkEndpoint → Prop)
    (brought : ∀ op ∈ ops, ∀ endpoint, op.endpoint = some endpoint → holds endpoint)
    (ran : (service config).run initial ops = some (s,history)) (found : s.members.lookup nodeId = some record) :
    holds record.rpcEndpoint := by
  have rule := Machine.run_rule (m := service config) (s := initial)
    (motive := fun s _ rest =>
      (∀ nodeId record, s.members.lookup nodeId = some record → holds record.rpcEndpoint) ∧
      ∀ op ∈ rest, ∀ endpoint, op.endpoint = some endpoint → holds endpoint) ?_ ⟨?_,brought⟩ ran
  · exact rule.1 nodeId record found
  · rintro s history op rest t emitted ⟨known,brought⟩ stepped
    obtain ⟨rfl,rfl⟩ : (perform config s op).1 = t ∧ (perform config s op).2 = emitted := by
      simpa [service,Prod.ext_iff] using stepped
    obtain ⟨first,later⟩ := List.forall_mem_cons.mp brought
    exact ⟨fun nodeId record found => perform_endpoints first known found,later⟩
  · intro nodeId record found
    simp [initial] at found

theorem Op.Parsed.numeric {op : Op} (parsed : op.Parsed) (endpoint : NetworkEndpoint)
    (brings : op.endpoint = some endpoint) : parseIpv4 endpoint.address = true := by
  cases op with
  | accept =>
    obtain ⟨data,read⟩ := parsed
    cases brings
    exact (parseAnnouncement_parsed read).numeric
  | expireMembers => contradiction

/-- An announced, an advertised and a recorded address are each a dotted quad exactly when they have
no zero byte. A service that hears no zero byte holds dotted quads only. -/
theorem numeric_endpoint_iff (config : DiscoveryConfig) :
    (∀ data announcement, parseAnnouncement data = some announcement →
      (DottedQuad announcement.rpcEndpoint.address ↔ 0 ∉ announcement.rpcEndpoint.address)) ∧
    (∀ network s, create config network = .ok s →
      (DottedQuad config.advertisedRpcEndpoint.address ↔ 0 ∉ config.advertisedRpcEndpoint.address)) ∧
    ∀ ops s history, (∀ op ∈ ops, op.Parsed) → (service config).run initial ops = some (s,history) →
      (∀ nodeId record, s.members.lookup nodeId = some record →
        (DottedQuad record.rpcEndpoint.address ↔ 0 ∉ record.rpcEndpoint.address)) ∧
      ((∀ op ∈ ops, ∀ endpoint, op.endpoint = some endpoint → 0 ∉ endpoint.address) →
        ∀ nodeId record, s.members.lookup nodeId = some record → DottedQuad record.rpcEndpoint.address) := by
  have whole {address : Bytes} (numeric : parseIpv4 address = true) : DottedQuad address ↔ 0 ∉ address := by
    rw [dottedQuad_iff]
    exact and_iff_right numeric
  refine ⟨fun data announcement parsed => whole (parseAnnouncement_parsed parsed).numeric,
    fun network s created => whole (create_valid created).1.numeric,fun ops s history parsed ran => ?_⟩
  have recorded (nodeId : NodeId) (record : MemberRecord) (found : s.members.lookup nodeId = some record) :
      DottedQuad record.rpcEndpoint.address ↔ 0 ∉ record.rpcEndpoint.address :=
    whole (run_endpoints (fun endpoint => parseIpv4 endpoint.address = true)
      (fun op listed => Op.Parsed.numeric (parsed op listed)) ran found)
  refine ⟨recorded,fun clean nodeId record found => ?_⟩
  rw [recorded nodeId record found]
  exact run_endpoints (fun endpoint => 0 ∉ endpoint.address) clean ran found

/-- A service that advertises the address `1.2.3.4` with a zero byte and a letter after it. -/
def brokenService : DiscoveryConfig :=
  { sampleService [2] 5 with advertisedRpcEndpoint := ⟨[49,46,50,46,51,46,52,0,120],7000⟩ }

/-- It is created, its announcement is read, and another service records the address. -/
theorem zero_byte_recorded : create brokenService none = .ok initial ∧
    parseAnnouncement (buildAnnouncement brokenService 1) = some (brokenService.announcement 1) ∧
    (∃ s history record, (service (sampleService [1] 1)).run initial [.accept (brokenService.announcement 1) 0] =
        some (s,history) ∧ s.members.lookup [2] = some record ∧
      record.rpcEndpoint.address = brokenService.advertisedRpcEndpoint.address) ∧
    ¬DottedQuad brokenService.advertisedRpcEndpoint.address := by
  refine ⟨rfl,by decide,⟨_,_,_,rfl,rfl,rfl⟩,?_⟩
  rw [dottedQuad_iff]
  exact fun both => both.2 (by decide)

theorem numeric_endpoint_iff_sample : ∃ s history record,
    (service (sampleService [1] 1)).run initial [.accept ((sampleService [2] 5).announcement 1) 0] =
      some (s,history) ∧ s.members.lookup [2] = some record ∧ DottedQuad record.rpcEndpoint.address := by
  have ran : (service (sampleService [1] 1)).run initial [.accept ((sampleService [2] 5).announcement 1) 0] =
      some _ := rfl
  have parsed : ∀ op ∈ [Op.accept ((sampleService [2] 5).announcement 1) 0], op.Parsed := by
    simp only [List.mem_singleton,forall_eq]
    exact ⟨buildAnnouncement (sampleService [2] 5) 1,by decide⟩
  have clean : ∀ op ∈ [Op.accept ((sampleService [2] 5).announcement 1) 0], ∀ endpoint,
      op.endpoint = some endpoint → 0 ∉ endpoint.address := by
    decide
  exact ⟨_,_,_,ran,rfl,((numeric_endpoint_iff _).2.2 _ _ _ parsed ran).2 clean [2] _ rfl⟩

end AutoRuntime.Discovery
