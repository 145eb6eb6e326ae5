import AutoRuntime.DiscoveryLease

/-! The arithmetic of leases and fences. `Create` compares the configured timeouts with each other;
the service converts them to ticks of the clock and adds one of them to its readings. -/
namespace AutoRuntime.Discovery

open Chrono

theorem create_windows (created : create config sockets = .ok s) :
    0 < leaseWindow config ∧ leaseWindow config ≤ fenceWindow config := by
  have accepted := create_validated created
  simp only [validateConfig] at accepted
  split at accepted
  · contradiction
  next bounded =>
    simp only [not_or] at bounded
    simp only [leaseWindow,fenceWindow]
    omega

/-- For every reading of the clock, leases and fences last as long as they are configured to. -/
structure ExactTimes (config : DiscoveryConfig) : Prop where
  lease : ∀ member : MemberRecord, 0 ≤ member.lastSeen → member.lastSeen < 2^62 → 0 ≤ observedAt → observedAt < 2^62 →
    (overdue config observedAt member = true ↔ leaseWindow config < observedAt - member.lastSeen)
  fence : 0 ≤ observedAt → observedAt < 2^62 → ∀ generation,
    (fenceFor config generation observedAt).expiresAt = observedAt + fenceWindow config

/-- Whatever lasts with the second configuration lasts as long with the first: an expiry pass over the
same members keeps them too, and the fence of a member that goes expires no earlier. -/
structure Outlasts (config shorter : DiscoveryConfig) : Prop where
  members : ∀ order visit other others observedAt s,
    (expireMembers shorter order visit observedAt s).1.members.lookup nodeId = some member →
      (expireMembers config other others observedAt s).1.members.lookup nodeId = some member
  fences : 0 ≤ observedAt → observedAt < 2^62 → ∀ generation,
    (fenceFor shorter generation observedAt).expiresAt ≤ (fenceFor config generation observedAt).expiresAt

theorem milliseconds_lease (positive : 0 < leaseWindow config) (short : leaseWindow config ≤ 2^62) :
    milliseconds config.leaseTimeout = leaseWindow config := by
  simp only [leaseWindow] at *
  exact milliseconds_exact ⟨by omega,by omega⟩

theorem fenceFor_exact (positive : 0 < fenceWindow config) (short : fenceWindow config ≤ 2^62)
    (started : 0 ≤ observedAt) (reading : observedAt < 2^62) (generation : UInt64) :
    (fenceFor config generation observedAt).expiresAt = observedAt + fenceWindow config := by
  have window : milliseconds config.generationFenceTimeout = fenceWindow config := by
    simp only [fenceWindow] at *
    exact milliseconds_exact ⟨by omega,by omega⟩
  rw [fenceFor,window]
  exact after_exact ⟨by omega,by omega⟩

theorem ExactTimes.of_short (created : create config sockets = .ok s) (short : fenceWindow config ≤ 2^62) :
    ExactTimes config := by
  obtain ⟨positive,ordered⟩ := create_windows created
  refine ⟨fun member born seen started reading => ?_,fenceFor_exact (by omega) short⟩
  exact overdue_exact ⟨by omega,by omega⟩ ⟨by omega,by omega⟩

theorem ExactTimes.short (exact_ : ExactTimes config) : fenceWindow config ≤ 2^62 := by
  have last := exact_.fence (show 0 ≤ 2^62 - 1 by decide) (by decide) 0
  have fits := wrap_fits (2^62 - 1 + milliseconds config.generationFenceTimeout)
  simp only [fenceFor,after] at last
  have upper := fits.2
  omega

theorem Outlasts.of_short (created : create config sockets = .ok s) (other : create shorter others = .ok t)
    (short : fenceWindow config ≤ 2^62) (lease : shorter.leaseTimeout ≤ config.leaseTimeout)
    (fence : shorter.generationFenceTimeout ≤ config.generationFenceTimeout) : Outlasts config shorter := by
  obtain ⟨positive,ordered⟩ := create_windows created
  obtain ⟨less,sorted⟩ := create_windows other
  have leases : leaseWindow shorter ≤ leaseWindow config := by
    simp only [leaseWindow]
    omega
  have windows : fenceWindow shorter ≤ fenceWindow config := by
    simp only [fenceWindow]
    omega
  refine ⟨fun order visit others more observedAt s kept => ?_,fun started reading generation => ?_⟩
  · rw [expireMembers_lookup] at kept ⊢
    obtain ⟨found,timely⟩ := Option.filter_eq_some_iff.mp kept
    refine Option.filter_eq_some_iff.mpr ⟨found,?_⟩
    simp only [overdue,Bool.not_eq_true',decide_eq_false_iff_not,milliseconds_lease less (by omega),
      milliseconds_lease positive (by omega)] at timely ⊢
    omega
  · rw [fenceFor_exact (by omega) (by omega) started reading,fenceFor_exact (by omega) short started reading]
    omega

/-- The times of a configuration that `Create` takes are exact, and longer ones than those of any
shorter configuration, exactly when its fence is no longer than 2^62 nanoseconds. -/
theorem lease_and_fence_exact_iff (created : create config sockets = .ok s) :
    (ExactTimes config ∧ ∀ shorter others t, create shorter others = .ok t →
      shorter.leaseTimeout ≤ config.leaseTimeout →
      shorter.generationFenceTimeout ≤ config.generationFenceTimeout → Outlasts config shorter) ↔
      fenceWindow config ≤ 2^62 := by
  constructor
  · exact fun holds => holds.1.short
  · intro short
    exact ⟨.of_short created short,fun shorter others t other lease fence =>
      .of_short created other short lease fence⟩

theorem lease_and_fence_exact_sample : create (sampleService [1] 1) none = .ok initial ∧
    (fenceFor (sampleService [1] 1) 1 7).expiresAt = 7 + fenceWindow (sampleService [1] 1) :=
  ⟨rfl,((lease_and_fence_exact_iff (s := initial) (show create (sampleService [1] 1) none = .ok initial from rfl)).mpr
    (by decide)).1.fence (by decide) (by decide) 1⟩

/-- A service that is never to forget a generation. -/
def unforgetting : DiscoveryConfig := { sampleService [1] 1 with generationFenceTimeout := 2^63 - 1 }

/-- It forgets a generation before it has remembered it, and a service with an ordinary fence does not. -/
theorem longest_fence_over : create unforgetting none = .ok initial ∧
    (fenceFor unforgetting 1 2000000).expiresAt < 2000000 ∧
      2000000 < (fenceFor (sampleService [1] 1) 1 2000000).expiresAt ∧
      (sampleService [1] 1).generationFenceTimeout ≤ unforgetting.generationFenceTimeout :=
  ⟨rfl,by decide,by decide,by decide⟩

end AutoRuntime.Discovery
