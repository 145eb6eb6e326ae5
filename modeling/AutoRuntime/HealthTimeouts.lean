import AutoRuntime.HealthBudget

/-! The timeouts of a health policy. `Register` checks their signs, and every comparison with a time
on the clock converts them to its ticks first. -/
namespace AutoRuntime.Health

/-- What an evaluation measures before it fails a component for this reason: since when, and how
many milliseconds it may last. -/
def ComponentHealth.measured (component : ComponentHealth) : HealthReason → Option (Int × Int)
  | .heartbeatLost => some (component.lastSeen,component.policy.heartbeatTimeout)
  | .noProgress => some (component.lastProgress,component.policy.noProgressTimeout)
  | .recoveryFailed => some (component.lastTransition,component.policy.recoveryTimeout)
  | .none | .processExited | .backlogExceeded | .deadlineMissesExceeded => none

theorem validPolicy_measured {component : ComponentHealth} (valid : validPolicy component.policy = true)
    (measured : component.measured reason = some (last,timeout)) : 0 < timeout := by
  simp only [validPolicy,Bool.and_eq_true,decide_eq_true_eq] at valid
  cases reason <;> simp only [ComponentHealth.measured,reduceCtorEq,Option.some.injEq,Prod.mk.injEq] at measured
  all_goals
    omega

theorem run_policed (ran : system.run initial actions = some (s,history)) : s.monitor.Named ∧
    ∀ name component, s.monitor.components.lookup name = some component → validPolicy component.policy = true := by
  refine Machine.run_invariant (m := system) (motive := fun s _ => s.monitor.Named ∧
    ∀ name component, s.monitor.components.lookup name = some component → validPolicy component.policy = true) ?_
    ⟨initial_named,by simp [initial]⟩ ran
  rintro s _ action t seen ⟨named,policed⟩ stepped
  have changes := step_changes named stepped
  refine ⟨changes.named named,fun name component present => ?_⟩
  cases found : s.monitor.components.lookup name with
  | none =>
    obtain ⟨_,_,-,-,-,-,valid,standing⟩ := step_registers named stepped found present
    exact standing.policy ▸ valid
  | some before =>
    obtain ⟨changed,change,stored,-⟩ := changes.known found
    cases stored.symm.trans present
    exact change.attempts.2 ▸ policed name before found

theorem logged_reason {component : ComponentHealth} {entry : HealthTransition}
    (written : (component.transition state reason observedAt detail).2 = some entry) :
    entry.reason = reason := by
  simp only [ComponentHealth.transition] at written
  split at written
  · contradiction
  · cases written
    rfl

theorem evaluateComponent_timedOut (written : (evaluateComponent probe observedAt component).2 = some entry)
    (measured : component.measured entry.reason = some (last,timeout)) :
    timedOut observedAt last timeout = true ∧ (entry.reason = .recoveryFailed → component.state = .recovering) := by
  simp only [evaluateComponent] at written
  repeat' split at written
  all_goals first | contradiction | rw [logged_reason written] at measured ⊢
  all_goals first | contradiction | cases measured
  next recovering late => exact ⟨late,fun _ => recovering⟩
  next late => exact ⟨late,by simp⟩
  next late => exact ⟨late,by simp⟩

theorem evaluate_found (named : monitor.Named)
    (member : entry ∈ (Monitor.evaluate monitor order probes observedAt).2) :
    ∃ component, monitor.components.lookup entry.component = some component ∧
      (evaluateComponent (probes entry.component) observedAt component).2 = some entry := by
  obtain ⟨⟨name,component⟩,listed,written⟩ := List.mem_filterMap.mp member
  have found : monitor.components.lookup name = some component :=
    AList.mem_lookup_iff.mpr ((order.perm _).mem_iff.mp listed)
  have logged := evaluateComponent_logged (probes name) observedAt component
  obtain rfl : entry.component = name := by
    rw [logged.written written]
    exact logged.name.trans (named name component found)
  exact ⟨component,found,written⟩

/-- When an evaluation fails a component for a timeout, the time is up exactly when the timeout has a
count of ticks; on a clock that may read less than zero a timeout with such a count is still up. -/
theorem health_timeouts_iff (ran : system.run initial actions = some (s,history))
    (stepped : step s (.evaluate index answer order observedAt) = some (t,[.evaluated observedAt emitted]))
    (member : entry ∈ emitted) :
    ∃ component, s.monitor.components.lookup entry.component = some component ∧
      ∀ last timeout, component.measured entry.reason = some (last,timeout) →
        (entry.reason = .recoveryFailed → component.state = .recovering) ∧
        (timeout * 1000000 < 2^63 → last + timeout * 1000000 < observedAt) ∧
        (0 ≤ last → observedAt < 2^63 →
          (last + timeout * 1000000 < observedAt ↔ timeout * 1000000 < 2^63)) := by
  obtain ⟨named,policed⟩ := run_policed ran
  simp only [step] at stepped
  split at stepped
  · contradiction
  next requests pending =>
    cases stepped
    obtain ⟨component,found,written⟩ := evaluate_found named member
    refine ⟨component,found,fun last timeout measured => ?_⟩
    obtain ⟨late,recovering⟩ := evaluateComponent_timedOut written measured
    have positive := validPolicy_measured (policed _ component found) measured
    have up (short : timeout * 1000000 < 2^63) : last + timeout * 1000000 < observedAt :=
      timedOut_sound ⟨by omega,short⟩ late
    exact ⟨recovering,up,fun started reading => ⟨fun _ => by omega,up⟩⟩

/-- A component is registered at time 0 and about to be evaluated. -/
def registered (heartbeatTimeout : Int) : List Action :=
  [.register ⟨[1],11,1,{ heartbeatTimeout := heartbeatTimeout }⟩ 0,.probe]

theorem health_timeouts_sample : ∃ s t history emitted entry,
    system.run initial (registered 500) = some (s,history) ∧
      step s (.evaluate 0 (fun _ => .alive) .stored 500000001) = some (t,[.evaluated 500000001 emitted]) ∧
      entry ∈ emitted ∧ entry.reason = .heartbeatLost ∧ ∃ component,
        s.monitor.components.lookup entry.component = some component ∧
          component.lastSeen + component.policy.heartbeatTimeout * 1000000 < 500000001 := by
  obtain ⟨s,t,history,emitted,entry,ran,stepped,member,reason,short⟩ : ∃ s t history emitted entry,
      system.run initial (registered 500) = some (s,history) ∧
        step s (.evaluate 0 (fun _ => .alive) .stored 500000001) = some (t,[.evaluated 500000001 emitted]) ∧
        entry ∈ emitted ∧ entry.reason = .heartbeatLost ∧
        (s.monitor.components.lookup entry.component).map (·.policy.heartbeatTimeout) = some 500 :=
    ⟨_,_,_,_,_,rfl,rfl,.head _,rfl,rfl⟩
  obtain ⟨component,found,timely⟩ := health_timeouts_iff ran stepped member
  obtain ⟨-,up,-⟩ := timely _ _ (by rw [reason]; rfl)
  exact ⟨s,t,history,emitted,entry,ran,stepped,member,reason,component,found,up (by simp_all)⟩

/-- The longest timeout that `Register` takes is over one nanosecond after the registration. -/
theorem longest_timeout_over : ∃ s t history entry,
    system.run initial (registered (2^63 - 1)) = some (s,history) ∧
      step s (.evaluate 0 (fun _ => .alive) .stored 1) = some (t,[.evaluated 1 [entry]]) ∧
      entry.current = .failed ∧ entry.reason = .heartbeatLost ∧ ∃ component,
        s.monitor.components.lookup entry.component = some component ∧
          1 < component.lastSeen + component.policy.heartbeatTimeout * 1000000 :=
  ⟨_,_,_,_,rfl,rfl,rfl,rfl,_,rfl,by decide⟩

end AutoRuntime.Health
