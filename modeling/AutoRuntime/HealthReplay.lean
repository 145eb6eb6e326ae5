import AutoRuntime.HealthBudget

/-! Heartbeats that come twice. A heartbeat is turned away when a newer one has been accepted in its
generation. One that repeats the newest sequence is accepted again and renews the lease. -/
namespace AutoRuntime.Health

/-- What the accepted heartbeats of the history leave in the component. -/
structure Beaten (history : List Event) (name : Name) (component : ComponentHealth) : Prop where
  past {generation sequence : UInt64} :
    .updated (.heartbeat name generation sequence observedAt) (.ok ()) ∈ history →
      generation.toNat ≤ component.generation.toNat
  below {sequence : UInt64} :
    .updated (.heartbeat name component.generation sequence observedAt) (.ok ()) ∈ history →
      sequence ≤ component.heartbeatSequence ∧ component.state ≠ .starting

theorem Beaten.extend (beaten : Beaten history name before)
    (silent : ∀ generation sequence observedAt,
      .updated (.heartbeat name generation sequence observedAt) (.ok ()) ∉ seen)
    (generation : changed.generation = before.generation)
    (same : changed.heartbeatSequence = before.heartbeatSequence)
    (starting : changed.state = .starting → before.state = .starting) : Beaten (history ++ seen) name changed := by
  constructor
  · intro observedAt number sequence member
    rw [generation]
    exact beaten.past ((List.mem_append.mp member).resolve_right (silent number sequence observedAt))
  · intro observedAt sequence member
    rw [generation] at member
    have old := (List.mem_append.mp member).resolve_right (silent before.generation sequence observedAt)
    obtain ⟨bound,begun⟩ := beaten.below old
    rw [same]
    exact ⟨bound,fun state => begun (starting state)⟩

theorem Beaten.beat {sequence : UInt64} (beaten : Beaten history name before)
    (newest : before.heartbeatSequence ≤ sequence) (generation : changed.generation = before.generation)
    (now : changed.heartbeatSequence = sequence) (state : changed.state ≠ .starting) :
    Beaten (history ++ [.updated (.heartbeat name before.generation sequence observedAt) (.ok ())]) name changed := by
  constructor
  · intro time number other member
    rw [generation]
    rcases List.mem_append.mp member with old | new
    · exact beaten.past old
    · obtain ⟨rfl,-⟩ : number = before.generation ∧ _ := by simpa using new
      exact Nat.le_refl _
  · intro time other member
    rw [generation] at member
    rw [now]
    refine ⟨?_,state⟩
    rcases List.mem_append.mp member with old | new
    · exact UInt64.le_trans (beaten.below old).1 newest
    · obtain ⟨rfl,-⟩ : other = sequence ∧ _ := by simpa using new
      exact UInt64.le_refl _

theorem Beaten.renew (beaten : Beaten history name before)
    (silent : ∀ generation sequence observedAt,
      .updated (.heartbeat name generation sequence observedAt) (.ok ()) ∉ seen)
    (generation : changed.generation.toNat = before.generation.toNat + 1) : Beaten (history ++ seen) name changed := by
  have past {number sequence : UInt64} {observedAt : Int}
      (member : .updated (.heartbeat name number sequence observedAt) (.ok ()) ∈ history ++ seen) :
      number.toNat ≤ before.generation.toNat :=
    beaten.past ((List.mem_append.mp member).resolve_right (silent number sequence observedAt))
  constructor
  · intro observedAt number sequence member
    have bound := past member
    omega
  · intro observedAt sequence member
    have bound := past member
    omega

theorem evaluateComponent_beat (probe : Option ProbeResult) (observedAt : Int) (component : ComponentHealth) :
    (evaluateComponent probe observedAt component).1.heartbeatSequence = component.heartbeatSequence ∧
      ((evaluateComponent probe observedAt component).1.state = .starting → component.state = .starting) := by
  simp only [evaluateComponent]
  repeat' split
  all_goals simp

theorem Update.apply_beat (applied : Update.apply component update = .ok changed) :
    (∃ sequence observedAt, update = .heartbeat update.name update.generation sequence observedAt ∧
      component.heartbeatSequence ≤ sequence ∧ changed.1.heartbeatSequence = sequence ∧
      changed.1.state ≠ .starting) ∨
    (∀ name generation sequence observedAt, update ≠ .heartbeat name generation sequence observedAt) ∧
      changed.1.heartbeatSequence = component.heartbeatSequence ∧ changed.1.state = component.state := by
  cases Update.applied applied with
  | first _ newest => exact .inl ⟨_,_,rfl,newest,by simp⟩
  | beat begun newest => exact .inl ⟨_,_,rfl,newest,rfl,begun⟩
  | noted other => exact .inr ⟨other,rfl,rfl⟩

theorem Beaten.follow (beaten : Beaten history name before) (change : Changed s name before action seen changed) :
    Beaten (history ++ seen) name changed.1 := by
  cases change with
  | untouched quiet =>
    refine beaten.extend (fun generation sequence observedAt member => ?_) rfl rfl id
    exact quiet _ member rfl
  | updated named current applied =>
    subst named
    have generation := (Update.apply_kept applied).generation
    rcases Update.apply_beat applied with ⟨sequence,observedAt,heartbeat,newest,now,state⟩ | ⟨other,same,state⟩
    · rw [heartbeat,current]
      exact beaten.beat newest generation now state
    · refine beaten.extend (fun number sequence observedAt member => ?_) generation same (state ▸ id)
      simp only [List.mem_singleton,Event.updated.injEq,and_true] at member
      exact other _ _ _ _ member.symm
  | evaluated =>
    obtain ⟨same,state⟩ := evaluateComponent_beat _ _ before
    exact beaten.extend (by simp) (evaluateComponent_kept _ _ before).generation same state
  | entered | failed => exact beaten.extend (by simp) (by simp) (by simp) (by simp)
  | committed active called current recovering restarted =>
    refine beaten.renew (by simp) ?_
    rw [restarted,ComponentHealth.restarted,transition_generation,current]
    exact RecoverCall.newGeneration_toNat _

theorem step_updated (stepped : step s action = some (t,seen)) (accepted : .updated update (.ok ()) ∈ seen) :
    ∃ component, s.monitor.components.lookup update.name = some component := by
  cases action
  case update other =>
    simp only [step] at stepped
    split at stepped
    next monitor updated =>
      cases stepped
      obtain rfl : update = other := by simpa using accepted
      simp only [Monitor.update] at updated
      split at updated
      · contradiction
      next component found => exact ⟨component,find_ok_iff.mp found⟩
    · cases stepped
      simp at accepted
  case register | evaluate | recover =>
    simp only [step] at stepped
    split at stepped
    all_goals first
      | contradiction
      | (cases stepped
         simp at accepted)
  case probe =>
    cases stepped
    simp at accepted
  all_goals exact absurd rfl (caller_events rfl stepped accepted)

/-- Every component is beaten by what was accepted for it, and nothing was accepted for others. -/
structure Beats (s : System) (history : List Event) : Prop where
  named : s.monitor.Named
  beaten : s.monitor.components.lookup name = some component → Beaten history name component
  absent : s.monitor.components.lookup name = none → .updated update (.ok ()) ∈ history → update.name ≠ name

theorem Beats.step (beats : Beats s history) (stepped : Health.step s action = some (t,seen)) :
    Beats t (history ++ seen) := by
  have changes := step_changes beats.named stepped
  have unheard {name : Name} (missing : s.monitor.components.lookup name = none) {update : Update}
      (member : .updated update (.ok ()) ∈ history ++ seen) : update.name ≠ name := by
    rcases List.mem_append.mp member with old | new
    · exact beats.absent missing old
    · rintro rfl
      obtain ⟨component,found⟩ := step_updated stepped new
      exact absurd (found.symm.trans missing) (by simp)
  refine ⟨changes.named beats.named,fun {name component} present => ?_,fun {name update} missing => ?_⟩
  · cases found : s.monitor.components.lookup name with
    | none => exact ⟨fun member => absurd rfl (unheard found member),fun member => absurd rfl (unheard found member)⟩
    | some =>
      obtain ⟨changed,change,stored,-⟩ := changes.known found
      cases stored.symm.trans present
      exact (beats.beaten found).follow change
  · cases found : s.monitor.components.lookup name with
    | none => exact unheard found
    | some =>
      obtain ⟨changed,-,stored,-⟩ := changes.known found
      exact absurd (stored.symm.trans missing) (by simp)

theorem run_beats (ran : system.run initial actions = some (s,history)) : Beats s history := by
  refine Machine.run_invariant (m := system) (fun _ _ _ _ _ beats stepped => beats.step stepped) ?_ ran
  exact ⟨initial_named,by simp [initial],by simp⟩

theorem update_heartbeat {monitor : Monitor} {sequence : UInt64}
    (found : monitor.components.lookup name = some component) (begun : component.state ≠ .starting) :
    monitor.update (.heartbeat name component.generation sequence observedAt) =
      if sequence < component.heartbeatSequence then .error ⟨.invalidArgument,"heartbeat sequence regressed"⟩
      else .ok (monitor.store name
        ({ component with heartbeatSequence := sequence, lastSeen := observedAt },none)) := by
  have present : monitor.find name = .ok component := find_ok_iff.mpr found
  simp only [Monitor.update,Update.name,Update.generation,present,checkGeneration,ne_eq,not_true_eq_false,if_false,
    Update.apply]
  split <;> rfl

theorem store_self {monitor : Monitor} (found : monitor.components.lookup name = some component) :
    monitor.store name (component,none) = monitor := by
  simp only [Monitor.store,Table.modify_self found,Option.toList_none,List.append_nil]

/-- A heartbeat that was accepted in the current generation comes once more. It leaves the lease
alone exactly when a newer one has been accepted or the clock shows the same time, and then it
leaves everything alone. Whatever heartbeat moves the lease is at least as new. -/
theorem replay_ignored_iff {sequence : UInt64} (ran : system.run initial actions = some (s,history))
    (found : s.monitor.components.lookup name = some component)
    (accepted : .updated (.heartbeat name component.generation sequence earlier) (.ok ()) ∈ history)
    (observedAt : Int) :
    (∃ t seen, system.step s (.update (.heartbeat name component.generation sequence observedAt)) = some (t,seen) ∧
      ((t.monitor.components.lookup name).map (·.lastSeen) = some component.lastSeen ↔
        sequence < component.heartbeatSequence ∨ observedAt = component.lastSeen) ∧
      (sequence < component.heartbeatSequence ∨ observedAt = component.lastSeen → t = s)) ∧
    ∀ newer time t seen,
      system.step s (.update (.heartbeat name component.generation newer time)) = some (t,seen) →
      (t.monitor.components.lookup name).map (·.lastSeen) ≠ some component.lastSeen → sequence ≤ newer := by
  obtain ⟨bound,begun⟩ := ((run_beats ran).beaten found).below accepted
  constructor
  · simp only [system,step,update_heartbeat found begun]
    by_cases older : sequence < component.heartbeatSequence
    · rw [if_pos older]
      exact ⟨s,_,rfl,by simp [found,older],fun _ => rfl⟩
    · rw [if_neg older]
      obtain rfl : sequence = component.heartbeatSequence := UInt64.le_antisymm bound (UInt64.not_lt.mp older)
      refine ⟨_,_,rfl,by simp [found],?_⟩
      rintro (older | rfl)
      · exact absurd older (by simp)
      · rw [store_self found]
  · intro newer time t seen stepped moved
    by_contra smaller
    have older : newer < component.heartbeatSequence := UInt64.lt_of_lt_of_le (UInt64.not_le.mp smaller) bound
    simp only [system,step,update_heartbeat found begun,if_pos older] at stepped
    cases stepped
    exact moved (by rw [found,Option.map_some])

/-- A component with a lease of 500 ms is heard after 1 ms and evaluated after 600 ms. -/
def heardOnce (between : List Action) : List Action :=
  [.register ⟨[1],0,1,{}⟩ 0,.update (.heartbeat [1] 1 1 1000000)] ++ between ++
    [.probe,.evaluate 0 (fun _ => .alive) .stored 600000000]

/-- The copy of its only heartbeat after 400 ms keeps it running. -/
theorem replay_keeps_alive : ∃ s history t later,
    system.run initial (heardOnce []) = some (s,history) ∧
    (s.monitor.components.lookup [1]).map (·.reason) = some .heartbeatLost ∧
    system.run initial (heardOnce [.update (.heartbeat [1] 1 1 400000000)]) = some (t,later) ∧
    (t.monitor.components.lookup [1]).map (·.state) = some .running ∧
    (t.monitor.components.lookup [1]).map (·.lastSeen) = some 400000000 :=
  ⟨_,_,_,_,rfl,rfl,rfl,rfl,rfl⟩

theorem replay_ignored_sample : ∃ s history seen,
    system.run initial [.register ⟨[1],0,1,{}⟩ 0,.update (.heartbeat [1] 1 7 1000000),
      .update (.heartbeat [1] 1 8 2000000)] = some (s,history) ∧
    system.step s (.update (.heartbeat [1] 1 7 400000000)) = some (s,seen) := by
  obtain ⟨s,history,component,ran,found,accepted,generation,newer⟩ : ∃ s history component,
      system.run initial [.register ⟨[1],0,1,{}⟩ 0,.update (.heartbeat [1] 1 7 1000000),
        .update (.heartbeat [1] 1 8 2000000)] = some (s,history) ∧
      s.monitor.components.lookup [1] = some component ∧
      .updated (.heartbeat [1] 1 7 1000000) (.ok ()) ∈ history ∧ component.generation = 1 ∧
      7 < component.heartbeatSequence :=
    ⟨_,_,_,rfl,rfl,List.mem_of_getElem? (i := 1) rfl,rfl,by decide⟩
  rw [← generation] at accepted
  obtain ⟨⟨t,seen,stepped,-,same⟩,-⟩ := replay_ignored_iff ran found accepted 400000000
  rw [generation,same (.inl newer)] at stepped
  exact ⟨s,history,seen,ran,stepped⟩

end AutoRuntime.Health
