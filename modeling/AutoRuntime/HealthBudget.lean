import AutoRuntime.HealthChange
import AutoRuntime.HealthOrphan

/-! The restart budget of a component. Every attempt is the entry of one `Recover` call, a call calls
the start hook once at most, and every commit moves the generation by one. -/
namespace AutoRuntime.Health

open List Option Nat Machine

def Event.enters (name : Name) : Event → Bool
  | .entered _ other _ _ => other = name
  | _ => false

def Event.starts (name : Name) : Event → Bool
  | .startReturned _ other _ _ => other = name
  | _ => false

def Event.restarts (name : Name) : Event → Bool
  | .returned _ (.ok component) => component.name = name
  | _ => false

/-- A call for this component that has the start hook before it, or is in it. -/
def RecoverCall.awaits (name : Name) (call : RecoverCall) : Bool :=
  call.name = name && call.phase.unstarted

theorem evaluateComponent_attempts (probe : Option ProbeResult) (observedAt : Int) (component : ComponentHealth) :
    (evaluateComponent probe observedAt component).1.restartAttempts = component.restartAttempts ∧
      (evaluateComponent probe observedAt component).1.policy = component.policy := by
  simp only [evaluateComponent]
  repeat' split
  all_goals simp

theorem Update.apply_attempts (applied : Update.apply component update = .ok changed) :
    changed.1.restartAttempts = component.restartAttempts ∧ changed.1.policy = component.policy := by
  cases Update.applied applied with
  | first => simp
  | beat | noted => exact ⟨rfl,rfl⟩

section Attempts

variable {s t : System} {action : Action} {seen : List Event} {name : Name}

theorem countP_outside {counted : Event → Bool} (inside : ∀ event, counted event = true → event.caller ≠ none)
    (silent : ∀ event ∈ seen, event.caller = none) : seen.countP counted = 0 := by
  rw [countP_eq_zero]
  intro event member counts
  exact inside event counts (silent event member)

theorem countP_quiet {counted : Event → Bool} (about : ∀ event, counted event = true → event.concerns = some name)
    (quiet : ∀ event ∈ seen, event.concerns ≠ some name) : seen.countP counted = 0 := by
  rw [countP_eq_zero]
  intro event member counts
  exact quiet event member (about event counts)

theorem enters_inside (event : Event) (enters : event.enters name = true) : event.caller ≠ none := by
  cases event <;> simp_all [Event.enters,Event.caller]

theorem starts_inside (event : Event) (starts : event.starts name = true) : event.caller ≠ none := by
  cases event <;> simp_all [Event.starts,Event.caller]

theorem enters_concerns (event : Event) (enters : event.enters name = true) : event.concerns = some name := by
  cases event <;> simp_all [Event.enters,Event.concerns]

theorem restarts_concerns (event : Event) (restarts : event.restarts name = true) : event.concerns = some name := by
  simp only [Event.restarts] at restarts
  split at restarts
  · simpa [Event.concerns] using restarts
  · contradiction

theorem awaits_le {call : RecoverCall} (waiting : call.phase.unstarted = true) (phase : RecoverPhase) :
    (RecoverCall.awaits name { call with phase := phase }).toNat ≤ (call.awaits name).toNat := by
  by_cases own : call.name = name <;> simp [RecoverCall.awaits,own,waiting,Bool.toNat_le]

@[simp] theorem awaits_done (call : RecoverCall) (started : phase.unstarted = false) :
    RecoverCall.awaits name { call with phase := phase } = false := by
  simp [RecoverCall.awaits,started]

theorem proceed_starts {call : RecoverCall} (proceeds : call.proceed index action = some (phase,seen)) (name : Name) :
    seen.countP (Event.starts name) + (RecoverCall.awaits name { call with phase := phase }).toNat ≤
      (call.awaits name).toNat := by
  have waits (silent : seen.countP (Event.starts name) = 0) (waiting : call.phase.unstarted = true) :
      seen.countP (Event.starts name) + (RecoverCall.awaits name { call with phase := phase }).toNat ≤
        (call.awaits name).toNat := by
    rw [silent,zero_add]
    exact awaits_le waiting phase
  have done (silent : seen.countP (Event.starts name) = 0) (started : phase.unstarted = false) :
      seen.countP (Event.starts name) + (RecoverCall.awaits name { call with phase := phase }).toNat ≤
        (call.awaits name).toNat := by
    simp [silent,started]
  cases action <;> simp only [RecoverCall.proceed,reduceCtorEq] at proceeds
  case cleanup other outcome | backOff other tested measured | wake other tested measured =>
    split at proceeds
    next waiting =>
      cases proceeds
      exact waits (by simp [Event.starts]) (by simp [waiting,RecoverPhase.unstarted])
    · contradiction
  case start other outcome =>
    split at proceeds
    next waiting =>
      cases proceeds
      rw [awaits_done]
      · by_cases own : call.name = name <;> simp [RecoverCall.awaits,Event.starts,own,waiting,RecoverPhase.unstarted]
      · split
        · rfl
        · split <;> rfl
    · contradiction
  case check other tested measured | reconnect other outcome | release other =>
    split at proceeds
    · cases proceeds
      exact done (by simp [Event.starts]) (by first | rfl | (split <;> rfl))
    · contradiction

theorem Took.starts (took : Took s action t seen) (name : Name) :
    seen.countP (Event.starts name) + t.recovers.countP (RecoverCall.awaits name) ≤
      s.recovers.countP (RecoverCall.awaits name) + seen.countP (Event.enters name) := by
  have settled {index : Nat} {call : RecoverCall} (active : s.recovers[index]? = some call) :
      (s.setPhase index call .returned).recovers.countP (RecoverCall.awaits name) ≤
        s.recovers.countP (RecoverCall.awaits name) := by
    have counted := Pool.countP_set (RecoverCall.awaits name) s.recovers active { call with phase := .returned }
    have done : RecoverCall.awaits name { call with phase := .returned } = false := awaits_done call rfl
    rw [done,Bool.toNat_false] at counted
    simp only [System.setPhase]
    omega
  cases took with
  | observed outside keeps silent =>
    rw [countP_outside starts_inside silent,zero_add]
    exact le_add_right _ _
  | entered enters =>
    obtain rfl := enters.callName
    simp [Event.starts,Event.enters,RecoverCall.awaits,enters.callPhase,RecoverPhase.unstarted]
  | @proceeded index call phase seen _ caller active proceeds =>
    have counted := Pool.countP_set (RecoverCall.awaits name) s.recovers active { call with phase := phase }
    have started := proceed_starts proceeds name
    simp only [System.setPhase]
    omega
  | failed active | committed active | stale active =>
    have fewer := settled active
    simpa [Event.starts,Event.enters] using fewer

theorem Changed.attempts (change : Changed s name before action seen changed) :
    changed.1.restartAttempts = before.restartAttempts + seen.countP (Event.enters name) ∧
      changed.1.policy = before.policy := by
  cases change with
  | untouched quiet =>
    rw [countP_quiet enters_concerns quiet]
    exact ⟨rfl,rfl⟩
  | updated named current applied => exact Update.apply_attempts applied
  | evaluated => exact evaluateComponent_attempts _ _ before
  | entered | failed => simp [Event.enters]
  | committed =>
    subst changed
    simp [ComponentHealth.restarted,Event.enters]

theorem Took.budget (took : Took s action t seen) (found : s.monitor.components.lookup name = some before)
    (within : before.restartAttempts ≤ before.policy.maxRestartAttempts) :
    before.restartAttempts + seen.countP (Event.enters name) ≤ before.policy.maxRestartAttempts := by
  cases took with
  | observed outside keeps silent =>
    rw [countP_outside enters_inside silent]
    exact within
  | @entered other enteredAt monitor call old changed hooks deadline startedAt enters =>
    by_cases same : other = name
    · subst same
      cases found.symm.trans enters.found
      have room := enters.budget
      simp only [Event.enters,countP_singleton,decide_true,if_true]
      omega
    · simpa [Event.enters,same] using within
  | proceeded caller active proceeds =>
    rw [countP_quiet enters_concerns fun event member => by simp [proceed_quiet proceeds event member]]
    exact within
  | failed | committed | stale => simpa [Event.enters] using within

/-- A commit moves the generation by one, and nothing else moves it. -/
theorem Changed.restarts (change : Changed s name before action seen changed) (named : before.name = name) :
    changed.1.generation.toNat = before.generation.toNat + seen.countP (Event.restarts name) := by
  have own := change.logged.name.trans named
  cases change with
  | untouched quiet =>
    rw [countP_quiet restarts_concerns quiet]
    rfl
  | updated _ _ applied => simp [(Update.apply_kept applied).generation,Event.restarts]
  | evaluated => simp [(evaluateComponent_kept _ _ before).generation,Event.restarts]
  | entered | failed => simp [Event.restarts]
  | committed active called current recovering restarted =>
    simp only [Event.restarts,own,countP_singleton]
    rw [restarted,ComponentHealth.restarted,transition_generation,current]
    exact RecoverCall.newGeneration_toNat _

end Attempts

/-- What a registered component shows of the events since. -/
structure Standing (registration : ComponentRegistration) (since : List Event)
    (component : ComponentHealth) : Prop where
  policy : component.policy = registration.policy
  attempts : component.restartAttempts = since.countP (Event.enters registration.name)
  within : component.restartAttempts ≤ component.policy.maxRestartAttempts
  generation : component.generation.toNat =
    registration.generation.toNat + since.countP (Event.restarts registration.name)

theorem Standing.step (standing : Standing registration since before) (named : before.name = registration.name)
    (found : s.monitor.components.lookup registration.name = some before) (took : Took s action t seen)
    (change : Changed s registration.name before action seen changed) :
    Standing registration (since ++ seen) changed.1 := by
  obtain ⟨attempts,policy⟩ := change.attempts
  refine ⟨policy.trans standing.policy,?_,?_,?_⟩
  · rw [attempts,standing.attempts,countP_append]
  · rw [attempts,policy]
    exact took.budget found standing.within
  · rw [change.restarts named,standing.generation,countP_append,add_assoc]

theorem initial_named : initial.monitor.Named := by
  intro name component found
  simp [initial] at found

theorem step_registers (named : s.monitor.Named) (stepped : step s action = some (t,seen))
    (absent : s.monitor.components.lookup name = none) (present : t.monitor.components.lookup name = some component) :
    ∃ registration observedAt, action = .register registration observedAt ∧ registration.name = name ∧
      seen = [.registered name (.ok ())] ∧ registration.generation ≠ 0 ∧ validPolicy registration.policy = true ∧
      Standing registration [] component := by
  obtain ⟨-,-⟩ := (step_changes named stepped).fresh absent present
  cases action
  case register registration observedAt =>
    simp only [step] at stepped
    split at stepped
    next monitor registered =>
      cases stepped
      simp only [Monitor.register] at registered
      split at registered
      · contradiction
      next checked =>
        split at registered
        · contradiction
        · cases registered
          simp only [AList.lookup_insert,some.injEq] at present
          subst present
          simp only [Bool.or_eq_true,not_or,beq_iff_eq,Bool.not_eq_true',Bool.not_eq_false] at checked
          exact ⟨registration,observedAt,rfl,rfl,rfl,checked.1.2,checked.2,⟨rfl,rfl,zero_le _,rfl⟩⟩
    · simp at stepped
  case update | evaluate | recover =>
    simp only [step] at stepped
    split at stepped <;> simp at stepped
  case probe => simp [step] at stepped
  all_goals exact absurd rfl (caller_events rfl stepped mem_cons_self)

theorem run_named (named : s.monitor.Named) (ran : system.run s actions = some (t,history)) : t.monitor.Named :=
  run_invariant (m := system) (motive := fun s _ => s.monitor.Named)
    (fun _ _ _ _ _ named stepped => (step_changes named stepped).named named) named ran

theorem run_standing (named : s.monitor.Named) (found : s.monitor.components.lookup registration.name = some before)
    (standing : Standing registration [] before) (ran : system.run s actions = some (t,since)) :
    ∃ component, t.monitor.components.lookup registration.name = some component ∧
      Standing registration since component := by
  have rule := run_invariant (m := system) (motive := fun s since => s.monitor.Named ∧
    ∃ component, s.monitor.components.lookup registration.name = some component ∧
      Standing registration since component) ?_ ⟨named,before,found,standing⟩ ran
  · exact rule.2
  · rintro s since action t seen ⟨named,before,found,standing⟩ stepped
    have changes := step_changes named stepped
    obtain ⟨changed,change,stored,-⟩ := changes.known found
    exact ⟨changes.named named,changed.1,stored,
      standing.step (named _ _ found) found (step_took stepped) change⟩

theorem run_unentered (ran : system.run initial actions = some (s,history))
    (absent : s.monitor.components.lookup name = none) : history.countP (Event.enters name) = 0 := by
  have rule := run_invariant (m := system) (motive := fun s history => s.monitor.Named ∧
    (s.monitor.components.lookup name = none → history.countP (Event.enters name) = 0)) ?_
    ⟨initial_named,fun _ => rfl⟩ ran
  · exact rule.2 absent
  · rintro s history action t seen ⟨named,none⟩ stepped
    have changes := step_changes named stepped
    refine ⟨changes.named named,fun absent => ?_⟩
    have before : s.monitor.components.lookup name = Option.none := by
      by_contra present
      obtain ⟨component,found⟩ := ne_none_iff_exists'.mp present
      obtain ⟨changed,-,stored,-⟩ := changes.known found
      exact absurd (stored.symm.trans absent) (by simp)
    rw [countP_append,none before,zero_add,countP_eq_zero]
    intro event member enters
    cases event <;> simp only [Event.enters,decide_eq_true_eq,Bool.false_eq_true] at enters
    subst enters
    exact (changes.absent before).2 _ _ _ member

theorem run_starts (name : Name) (ran : system.run initial actions = some (s,history)) :
    history.countP (Event.starts name) + s.recovers.countP (RecoverCall.awaits name) ≤
      history.countP (Event.enters name) := by
  refine run_invariant (m := system) (motive := fun s history =>
    history.countP (Event.starts name) + s.recovers.countP (RecoverCall.awaits name) ≤
      history.countP (Event.enters name)) ?_ (by simp [initial]) ran
  intro s history action t seen balance stepped
  have moved := (step_took stepped).starts name
  rw [countP_append,countP_append]
  omega

/-- What `Recover` turns away at its entry. -/
def Monitor.Rejects (monitor : Monitor) (hooks : RecoveryHooks) (name : Name) : Prop :=
  hooks.cleanup = false ∨ hooks.start = false ∨ hooks.reconnect = false ∨ monitor.components.lookup name = none ∨
    ∃ component, monitor.components.lookup name = some component ∧
      (component.state ≠ .failed ∨ component.policy.maxRestartAttempts ≤ component.restartAttempts ∨
        component.generation + 1 = 0)

theorem enter_error (monitor : Monitor) (name : Name) (deadline : Deadline) (enteredAt startedAt : Int)
    (rejects : monitor.Rejects hooks name) :
    ∃ status, monitor.enter hooks name deadline enteredAt startedAt = .error status := by
  simp only [Monitor.enter]
  split
  · exact ⟨_,rfl⟩
  next set =>
    simp only [Bool.or_eq_true,Bool.not_eq_eq_eq_not,Bool.not_true,not_or] at set
    split
    · exact ⟨_,rfl⟩
    next component found =>
      have present := find_ok_iff.mp found
      have refused : component.state ≠ .failed ∨ component.policy.maxRestartAttempts ≤ component.restartAttempts ∨
          component.generation + 1 = 0 := by
        simpa [Monitor.Rejects,set,present] using rejects
      split
      · exact ⟨_,rfl⟩
      next failed =>
        split
        · exact ⟨_,rfl⟩
        next open_ =>
          split
          · exact ⟨_,rfl⟩
          next fits => exact absurd refused (by tauto)

/-- The attempts of a component stay within its budget and bound the start hooks called for it, those
that are still to be called included. Its generation is the registered one and one more for every
`Recover` that returned the component. A `Recover` that is turned away changes nothing. -/
theorem restart_budget (ran : system.run initial actions = some (s,history)) :
    (∀ name component, s.monitor.components.lookup name = some component →
      component.restartAttempts ≤ component.policy.maxRestartAttempts ∧
      history.countP (Event.starts name) + s.recovers.countP (RecoverCall.awaits name) ≤
        component.restartAttempts ∧ component.generation ≠ 0 ∧
      ∃ earlier registration observedAt later s₀ past s₁ since,
        actions = earlier ++ .register registration observedAt :: later ∧ registration.name = name ∧
        system.run initial earlier = some (s₀,past) ∧
        system.step s₀ (.register registration observedAt) = some (s₁,[.registered name (.ok ())]) ∧
        system.run s₁ later = some (s,since) ∧ component.policy = registration.policy ∧
        component.generation.toNat = registration.generation.toNat + since.countP (Event.restarts name)) ∧
    ∀ hooks name deadline enteredAt startedAt, s.monitor.Rejects hooks name → ∃ status,
      system.step s (.recover hooks name deadline enteredAt startedAt) = some (s,[.rejected name status]) := by
  refine ⟨fun name component found => ?_,fun hooks name deadline enteredAt startedAt rejects => ?_⟩
  · obtain ⟨earlier,action,later,s₀,past,s₁,seen,since,rfl,before,absent,stepped,present,continued,rfl⟩ :=
      run_gains (fun s => (s.monitor.components.lookup name).isSome = true)
        (by simp [initial]) ran (by simp [found])
    have missing : s₀.monitor.components.lookup name = none := by simpa using absent
    have named := run_named initial_named before
    have renamed := (step_changes named (show step s₀ action = some (s₁,seen) from stepped)).named named
    obtain ⟨fresh,born⟩ := isSome_iff_exists.mp present
    obtain ⟨registration,observedAt,rfl,rfl,rfl,positive,-,standing⟩ := step_registers named stepped missing born
    obtain ⟨last,here,stands⟩ := run_standing renamed born standing continued
    cases here.symm.trans found
    have starts := run_starts registration.name ran
    have unentered := run_unentered before missing
    refine ⟨stands.within,?_,?_,earlier,registration,observedAt,later,s₀,past,s₁,since,rfl,rfl,before,stepped,
      continued,stands.policy,stands.generation⟩
    · rw [stands.attempts]
      simpa [unentered,Event.enters] using starts
    · intro zero
      have generation := stands.generation
      rw [zero] at generation
      exact positive (UInt64.toNat_inj.mp (by simp at generation ⊢; omega))
  · obtain ⟨status,refused⟩ := enter_error s.monitor name deadline enteredAt startedAt rejects
    exact ⟨status,by simp only [system,step,refused]⟩

/-- A component fails and is restarted once; afterwards there is nothing to recover. -/
def sampleRestart : List Action :=
  sampleFailure ++ sampleRecover 2 :: (sampleStages ++ [.reconnect 0 (.returned .success),.commit 0 12])

theorem restart_budget_sample : ∃ s history component, system.run initial sampleRestart = some (s,history) ∧
    s.monitor.components.lookup [1] = some component ∧ component.generation = 2 ∧
    history.countP (Event.starts [1]) ≤ component.restartAttempts ∧ component.restartAttempts ≤ 3 ∧
    ∃ status, system.step s (sampleRecover 13) = some (s,[.rejected [1] status]) := by
  obtain ⟨s,history,component,ran,found,generation,state,policy⟩ : ∃ s history component,
      system.run initial sampleRestart = some (s,history) ∧ s.monitor.components.lookup [1] = some component ∧
      component.generation = 2 ∧ component.state = .starting ∧ component.policy.maxRestartAttempts = 3 :=
    ⟨_,_,_,rfl,rfl,rfl,rfl,rfl⟩
  obtain ⟨budget,rejected⟩ := restart_budget ran
  obtain ⟨within,starts,-⟩ := budget [1] component found
  have rejects : s.monitor.Rejects ⟨true,true,true⟩ [1] := by simp [Monitor.Rejects,found,state]
  exact ⟨s,history,component,ran,found,generation,by omega,by omega,rejected _ [1] .infinite 13 13 rejects⟩

end AutoRuntime.Health
