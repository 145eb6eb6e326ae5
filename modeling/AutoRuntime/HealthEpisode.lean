import AutoRuntime.HealthSteps

/-! Recovery episodes. A call starts an episode when it moves a failed component to
`Recovering`, and the episode is over once the component is in any other state. Nothing
but generation and state tells a call whether the episode it finds is its own. -/
namespace AutoRuntime.Health

/-- The component is in recovery. -/
def InRecovery (name : Name) (s : System) : Prop :=
  ∃ component, s.monitor.components.lookup name = some component ∧ component.state = .recovering

/-- A call that entered at this generation has not returned. -/
def Attends (s : System) (index : Nat) (name : Name) (generation : UInt64) : Prop :=
  ∃ call, s.recovers[index]? = some call ∧ call.name = name ∧ call.oldGeneration = generation ∧
    call.phase ≠ .returned

theorem proceed_unreturned
    (proceeds : RecoverCall.proceed call index action = some (phase,seen)) : phase ≠ .returned := by
  unfold RecoverCall.proceed at proceeds
  repeat' split at proceeds
  all_goals first
    | contradiction
    | (cases proceeds
       repeat' split
       all_goals simp)

theorem setPhase_recovers (active : s.recovers[index]? = some call) (other : Nat) :
    (System.setPhase s index call phase).recovers[other]? =
      if other = index then some { call with phase := phase } else s.recovers[other]? := by
  have inside : index < s.recovers.length := Pool.inside active
  by_cases same : other = index
  · subst other
    simp [System.setPhase,inside]
  · simp [System.setPhase,same,List.getElem?_set_ne (Ne.symm same)]

theorem Attends.setPhase (attends : Attends s other name generation)
    (active : s.recovers[index]? = some call)
    (distinct : call.name = name → call.oldGeneration = generation → phase ≠ .returned) :
    Attends (System.setPhase s index call phase) other name generation := by
  obtain ⟨found,present,same,current,running⟩ := attends
  by_cases equal : other = index
  · subst other
    cases active.symm.trans present
    exact ⟨{ call with phase := phase },by simp [setPhase_recovers active],same,current,
      distinct same current⟩
  · exact ⟨found,by simpa [setPhase_recovers active,equal] using present,same,current,running⟩

/-- A component found in recovery after a step was in recovery before, and whoever attended
to it still does, or the step is the entry of a new call. -/
theorem Took.recovering (took : Took s action t seen)
    (found : s.monitor.components.lookup name = some before)
    (present : t.monitor.components.lookup name = some after) (state : after.state = .recovering) :
    after.generation = before.generation ∧
    ((before.state = .recovering ∧ after.lastTransition = before.lastTransition ∧
        ∀ index, Attends s index name before.generation → Attends t index name before.generation) ∨
      (before.state = .failed ∧ Attends t s.recovers.length name after.generation ∧
        seen = [.entered s.recovers.length name after.generation after.lastTransition])) := by
  cases took with
  | observed _ keeps =>
    obtain ⟨_,same,kept⟩ := keeps.kept found
    cases present.symm.trans same
    exact ⟨kept.generation,.inl ⟨(kept.recovering state).1,(kept.recovering state).2,fun _ => id⟩⟩
  | @entered entering _ _ call _ _ _ _ _ enters =>
    by_cases same : name = entering
    · subst name
      cases present.symm.trans enters.stored
      cases found.symm.trans enters.found
      refine ⟨enters.generation,.inr ⟨enters.failed,?_,?_⟩⟩
      · exact ⟨call,by simp,enters.callName,enters.callGeneration.trans enters.generation.symm,
          by simp [enters.callPhase]⟩
      · rw [enters.callGeneration,enters.generation,enters.time]
    · cases present.symm.trans ((enters.others name same).trans found)
      refine ⟨rfl,.inl ⟨state,rfl,fun index attends => ?_⟩⟩
      obtain ⟨other,waiting,rest⟩ := attends
      have inside := Pool.inside waiting
      exact ⟨other,(List.getElem?_append_left inside).trans waiting,rest⟩
  | proceeded _ active proceeds =>
    cases present.symm.trans found
    exact ⟨rfl,.inl ⟨state,rfl,fun _ attends =>
      attends.setPhase active fun _ _ => proceed_unreturned proceeds⟩⟩
  | @failed index call now status active phase =>
    obtain ⟨_,same,kept⟩ := (fail_keeps s.monitor call status now).kept found
    cases present.symm.trans same
    refine ⟨kept.generation,.inl ⟨(kept.recovering state).1,(kept.recovering state).2,?_⟩⟩
    refine fun _ attends => Attends.setPhase attends active fun named current => ?_
    subst name
    have past := fail_ends s.monitor call status now present (kept.generation.trans current.symm)
    simp [past] at state
  | @committed index call monitor old changed now processId active phase commits =>
    by_cases same : name = call.name
    · subst name
      cases present.symm.trans commits.stored
      simp [commits.starting] at state
    · cases present.symm.trans ((commits.others name same).trans found)
      exact ⟨rfl,.inl ⟨state,rfl,fun _ attends =>
        attends.setPhase active fun equal => absurd equal.symm same⟩⟩
  | stale active phase gone =>
    obtain rfl := Option.some.inj (present.symm.trans found)
    refine ⟨rfl,.inl ⟨state,rfl,fun _ attends => attends.setPhase active fun same current => ?_⟩⟩
    exact absurd ⟨after,by rw [same]; exact found,current.symm,state⟩ gone

theorem Took.persists (took : Took s action t seen)
    (found : s.monitor.components.lookup name = some before) :
    ∃ after, t.monitor.components.lookup name = some after := by
  cases took with
  | observed _ keeps => exact (keeps.kept found).imp fun _ kept => kept.1
  | @entered entering _ _ _ _ changed _ _ _ enters =>
    by_cases same : name = entering
    · exact ⟨changed,same ▸ enters.stored⟩
    · exact ⟨before,(enters.others name same).trans found⟩
  | proceeded | stale => exact ⟨before,found⟩
  | failed => exact ((fail_keeps s.monitor _ _ _).kept found).imp fun _ kept => kept.1
  | @committed _ call _ _ changed _ _ _ _ commits =>
    by_cases same : name = call.name
    · exact ⟨changed,same ▸ commits.stored⟩
    · exact ⟨before,(commits.others name same).trans found⟩

theorem Took.recovers_length (took : Took s action t seen) :
    s.recovers.length ≤ t.recovers.length := by
  cases took <;> simp [System.setPhase]

/-- The component is in recovery and no call has entered for it after this one. -/
structure Current (s : System) (index : Nat) (name : Name) : Prop where
  recovering : InRecovery name s
  latest : ∀ later call, index < later → s.recovers[later]? = some call → call.name ≠ name

theorem Took.current (took : Took s action t seen) (current : Current s index name)
    (recovering : InRecovery name t) : Current t index name := by
  refine ⟨recovering,fun later call younger present => ?_⟩
  obtain ⟨component,found,state⟩ := current.recovering
  have kept {active : Nat} {old : RecoverCall} {phase : RecoverPhase}
      (at_ : s.recovers[active]? = some old)
      (moved : (s.setPhase active old phase).recovers[later]? = some call) : call.name ≠ name := by
    rw [setPhase_recovers at_] at moved
    split at moved
    next same =>
      cases moved
      exact current.latest later old younger (same ▸ at_)
    · exact current.latest later call younger moved
  cases took with
  | observed => exact current.latest later call younger present
  | @entered entering _ _ entrant old _ _ _ _ enters =>
    rcases Nat.lt_or_ge later s.recovers.length with inside | outside
    · exact current.latest later call younger (by rwa [List.getElem?_append_left inside] at present)
    · have fresh : entrant = call := by
        rw [List.getElem?_append_right outside] at present
        have := List.getElem?_eq_some_iff.mp present
        simpa using this.2
      subst fresh
      rintro rfl
      have same : component = old := Option.some.inj (found.symm.trans (enters.callName ▸ enters.found))
      subst same
      simp [enters.failed] at state
  | proceeded _ active | failed active | committed active | stale active => exact kept active present

/-- Whoever finds the component in recovery again shares it with a younger call. -/
def Superseded (s : System) (index : Nat) (name : Name) : Prop :=
  ∃ component, s.monitor.components.lookup name = some component ∧
    (component.state = .recovering → ∃ later, index < later ∧ Attends s later name component.generation)

theorem run_superseded (superseded : Superseded s index name) (bounded : index < s.recovers.length)
    (ran : system.run s actions = some (t,history)) : Superseded t index name := by
  have rule := Machine.run_invariant (m := system)
    (motive := fun s _ => index < s.recovers.length ∧ Superseded s index name) ?_
    ⟨bounded,superseded⟩ ran
  · exact rule.2
  · rintro s _ action t seen ⟨bounded,component,found,attended⟩ stepped
    have took := step_took stepped
    obtain ⟨after,present⟩ := took.persists found
    refine ⟨Nat.lt_of_lt_of_le bounded took.recovers_length,after,present,fun state => ?_⟩
    obtain ⟨generation,⟨earlier,_,attending⟩ | ⟨_,attends,_⟩⟩ := took.recovering found present state
    · obtain ⟨later,younger,attends⟩ := attended earlier
      exact ⟨later,younger,generation ▸ attending later attends⟩
    · exact ⟨s.recovers.length,bounded,attends⟩

/-- Along any run an episode lasts, with its call the latest, or is over for good. -/
theorem run_episode (current : Current s index name) (bounded : index < s.recovers.length)
    (ran : system.run s actions = some (t,history)) :
    system.Throughout (InRecovery name) s actions ∧ Current t index name ∨
      ¬ system.Throughout (InRecovery name) s actions ∧ Superseded t index name := by
  induction actions generalizing s history with
  | nil =>
    obtain ⟨rfl,rfl⟩ := Machine.run_nil_iff.mp ran
    exact .inl ⟨current.recovering,current⟩
  | cons action rest ih =>
    obtain ⟨u,seen,later,stepped,continued,rfl⟩ := Machine.run_cons_iff.mp ran
    have took := step_took stepped
    have longer := Nat.lt_of_lt_of_le bounded took.recovers_length
    rw [Machine.throughout_cons stepped]
    by_cases recovering : InRecovery name u
    · rcases ih (took.current current recovering) longer continued with lasting | past
      · exact .inl ⟨⟨current.recovering,lasting.1⟩,lasting.2⟩
      · exact .inr ⟨fun throughout => past.1 throughout.2,past.2⟩
    · refine .inr ⟨fun throughout => recovering throughout.2.start,?_⟩
      obtain ⟨component,found,_⟩ := current.recovering
      obtain ⟨after,present⟩ := took.persists found
      have past : Superseded u index name :=
        ⟨after,present,fun state => absurd ⟨after,present,state⟩ recovering⟩
      exact run_superseded past longer continued

theorem Took.call_persists {index : Nat} {call : RecoverCall} (took : Took s action t seen)
    (active : s.recovers[index]? = some call) :
    ∃ phase, t.recovers[index]? = some { call with phase := phase } := by
  have kept {other : Nat} {old : RecoverCall} {next : RecoverPhase}
      (present : s.recovers[other]? = some old) :
      ∃ phase, (s.setPhase other old next).recovers[index]? = some { call with phase := phase } := by
    rw [setPhase_recovers present]
    by_cases same : index = other
    · subst other
      cases active.symm.trans present
      exact ⟨next,if_pos rfl⟩
    · exact ⟨call.phase,by simpa [same] using active⟩
  cases took with
  | observed => exact ⟨call.phase,active⟩
  | entered =>
    have inside := Pool.inside active
    exact ⟨call.phase,(List.getElem?_append_left inside).trans active⟩
  | proceeded _ present | failed present | committed present | stale present => exact kept present

theorem run_call_persists {index : Nat} {call : RecoverCall} (active : s.recovers[index]? = some call)
    (ran : system.run s actions = some (t,history)) :
    ∃ phase, t.recovers[index]? = some { call with phase := phase } := by
  refine Machine.run_invariant (m := system)
    (motive := fun s _ => ∃ phase, s.recovers[index]? = some { call with phase := phase }) ?_
    ⟨call.phase,active⟩ ran
  rintro s _ action t seen ⟨phase,present⟩ stepped
  have moved := (step_took stepped).call_persists present
  exact moved

/-- A call touches no component but its own, and that one only at the generation it entered at. -/
theorem Took.changes (took : Took s action t seen) (caller : action.caller = some index)
    (active : s.recovers[index]? = some call)
    (changed : t.monitor.components.lookup name ≠ s.monitor.components.lookup name) :
    call.name = name ∧ ∃ component, s.monitor.components.lookup name = some component ∧
      component.generation = call.oldGeneration := by
  cases took with
  | observed outside => simp [outside] at caller
  | entered => simp [Action.caller] at caller
  | proceeded | stale => contradiction
  | @failed other old now status present =>
    obtain rfl : other = index := by simpa [Action.caller] using caller
    cases active.symm.trans present
    exact fail_changes s.monitor call status now changed
  | @committed other old monitor before after _ _ present _ commits =>
    obtain rfl : other = index := by simpa [Action.caller] using caller
    cases active.symm.trans present
    by_cases same : name = call.name
    · subst name
      exact ⟨rfl,before,commits.found,commits.current⟩
    · exact absurd (commits.others name same) changed

/-- A call that changes its component does so in its own episode exactly when the component
is in recovery and no later call for it is still out. -/
theorem recovery_owns_episode_iff
    (entered : step s (.recover hooks name deadline enteredAt startedAt) =
      some (t,[.entered index name generation enteredAt]))
    (continued : system.run t between = some (u,history))
    (caller : action.caller = some index) (stepped : step u action = some (v,seen))
    (changed : v.monitor.components.lookup name ≠ u.monitor.components.lookup name) :
    (∃ component, u.monitor.components.lookup name = some component ∧
      component.generation = generation) ∧
    (system.Throughout (InRecovery name) t between ↔ InRecovery name u ∧
      ∀ later call, index < later → u.recovers[later]? = some call → call.name = name →
        call.phase = .returned) := by
  generalize event : [Event.entered index name generation enteredAt] = emitted at entered
  cases step_took entered with
  | observed _ _ silent =>
    subst emitted
    simp [Event.caller] at silent
  | proceeded outside => simp [Action.caller] at outside
  | @entered _ _ monitor call old component _ _ _ enters =>
    cases event
    have current : Current ⟨monitor,s.recovers ++ [call],s.evaluations⟩ s.recovers.length name := by
      refine ⟨⟨component,enters.stored,enters.recovering⟩,fun later other younger present => ?_⟩
      have bound := Pool.inside present
      simp only [List.length_append,List.length_cons,List.length_nil] at bound
      omega
    constructor
    · obtain ⟨phase,active⟩ := run_call_persists List.getElem?_concat_length continued
      exact ((step_took stepped).changes caller active changed).2
    · rcases run_episode current (by simp) continued with lasting | past
      · refine iff_of_true lasting.1 ⟨lasting.2.recovering,fun later other younger present same => ?_⟩
        exact absurd same (lasting.2.latest later other younger present)
      · refine iff_of_false past.1 ?_
        rintro ⟨⟨found,present,state⟩,finished⟩
        obtain ⟨_,same,attended⟩ := past.2
        cases present.symm.trans same
        obtain ⟨later,younger,other,waiting,named,_,running⟩ := attended state
        exact running (finished later other younger waiting named)

/-- Process 11 registers as generation 1 and is found dead. -/
def sampleFailure : List Action :=
  [.register ⟨[1],11,1,{}⟩ 0,.probe,.evaluate 0 (fun _ => .dead) .stored 1]

def sampleRecover (now : Int) : Action := .recover ⟨true,true,true⟩ [1] .infinite now now

/-- The stages of the first call up to its replacement process 21. -/
def sampleStages : List Action :=
  [.cleanup 0 (.returned .success),.backOff 0 3 3,.wake 0 4 4,.start 0 (.returned (.ok 21)),.check 0 5 5]

/-- A periodic evaluation asks about the old process again. -/
def sampleProbe : List Action := [.probe,.evaluate 0 (fun _ => .dead) .stored 10]

theorem recovery_owns_episode_sample : ∃ t u later,
    system.run t (sampleStages ++ [.reconnect 0 (.returned .success)]) = some (u,later) ∧
    system.Throughout (InRecovery [1]) t (sampleStages ++ [.reconnect 0 (.returned .success)]) := by
  obtain ⟨s,t,u,v,history,later,seen,_,entered,continued,committed,changed,recovering,sole⟩ :
      ∃ s t u v history later seen, system.run initial sampleFailure = some (s,history) ∧
        step s (sampleRecover 2) = some (t,[.entered 0 [1] 1 2]) ∧
        system.run t (sampleStages ++ [.reconnect 0 (.returned .success)]) = some (u,later) ∧
        step u (.commit 0 12) = some (v,seen) ∧
        v.monitor.components.lookup [1] ≠ u.monitor.components.lookup [1] ∧
        InRecovery [1] u ∧ u.recovers.length = 1 :=
    ⟨_,_,_,_,_,_,_,rfl,rfl,rfl,rfl,by decide,⟨_,rfl,rfl⟩,rfl⟩
  refine ⟨t,u,later,continued,?_⟩
  refine (recovery_owns_episode_iff entered continued rfl committed changed).2.mpr ⟨recovering,?_⟩
  intro other call younger present
  have bound := Pool.inside present
  omega

/-- The first call is aborted, a second one enters, and the first commits into its episode. -/
theorem recovery_commits_into_later_episode : ∃ s t u v history later seen,
    system.run initial sampleFailure = some (s,history) ∧
    step s (sampleRecover 2) = some (t,[.entered 0 [1] 1 2]) ∧
    system.run t ((sampleStages ++ sampleProbe) ++ [sampleRecover 11,.reconnect 0 (.returned .success)]) =
      some (u,later) ∧
    step u (.commit 0 12) = some (v,seen) ∧
    (u.monitor.components.lookup [1]).map (·.processId) = some 11 ∧
    (v.monitor.components.lookup [1]).map (·.processId) = some 21 ∧
    ¬ system.Throughout (InRecovery [1]) t
      ((sampleStages ++ sampleProbe) ++ [sampleRecover 11,.reconnect 0 (.returned .success)]) := by
  refine ⟨_,_,_,_,_,_,_,rfl,rfl,rfl,rfl,rfl,rfl,fun throughout => ?_⟩
  obtain ⟨component,found,state⟩ := throughout.reached (t := _) rfl
  cases found
  exact absurd state (by decide)

theorem Took.born (took : Took s action t seen) (absent : s.monitor.components.lookup name = none)
    (present : t.monitor.components.lookup name = some after) : after.state ≠ .recovering := by
  have unchanged (same : t.monitor.components.lookup name = s.monitor.components.lookup name) :
      after.state ≠ .recovering := by
    simp [same,absent] at present
  cases took with
  | observed _ keeps => simp [keeps.fresh absent present]
  | entered enters =>
    refine unchanged (enters.others name ?_)
    rintro rfl
    simp [enters.found] at absent
  | proceeded | stale => exact unchanged rfl
  | failed => simp [(fail_keeps s.monitor _ _ _).fresh absent present]
  | committed _ _ commits =>
    refine unchanged (commits.others name ?_)
    rintro rfl
    simp [commits.found] at absent

/-- Every recovery is the work of a call that entered it and has not returned. -/
def Underway (s : System) (history : List Event) : Prop :=
  ∀ name component, s.monitor.components.lookup name = some component →
    component.state = .recovering → ∃ index, Attends s index name component.generation ∧
      .entered index name component.generation component.lastTransition ∈ history

theorem run_underway (ran : system.run initial actions = some (s,history)) : Underway s history := by
  refine Machine.run_invariant (m := system) ?_ ?_ ran
  · intro s history action t seen underway stepped name after present state
    have took := step_took stepped
    cases found : s.monitor.components.lookup name with
    | none => exact absurd state (took.born found present)
    | some before =>
      obtain ⟨generation,⟨earlier,time,attending⟩ | ⟨_,attends,event⟩⟩ :=
        took.recovering found present state
      · obtain ⟨index,attends,entered⟩ := underway name before found earlier
        rw [generation,time]
        exact ⟨index,attending index attends,List.mem_append_left seen entered⟩
      · exact ⟨s.recovers.length,attends,by simp [event]⟩
  · intro name component found
    simp [initial] at found

theorem timedOut_sound (fits : Chrono.Fits (timeout * 1000000)) (fired : timedOut now last timeout = true) :
    last + timeout * 1000000 < now := by
  simp only [timedOut,Bool.and_eq_true,decide_eq_true_eq,Chrono.milliseconds_exact fits,
    Chrono.elapsed] at fired
  have bound := Chrono.wrap_le (x := now - last) (by omega)
  omega

theorem evaluateComponent_recovering_iff (probe : Option ProbeResult) (observedAt : Int)
    (recovering : component.state = .recovering) :
    (evaluateComponent probe observedAt component).1.state = .recovering ↔
      exited component probe = false ∧
        timedOut observedAt component.lastTransition component.policy.recoveryTimeout = false := by
  cases gone : exited component probe
  · cases late : timedOut observedAt component.lastTransition component.policy.recoveryTimeout
    · simp [evaluateComponent,recovering,gone,late]
    · simp [evaluateComponent,recovering,gone,late]
  · simp [evaluateComponent,recovering,gone]

/-- Before its timeout a recovery outlives an evaluation exactly when no probe finds the
recorded process dead and the configured timeout is not lost in the conversion to ticks. -/
theorem evaluate_keeps_recovery_iff (ran : system.run initial actions = some (s,history))
    (found : s.monitor.components.lookup name = some component)
    (recovering : component.state = .recovering) (pending : s.evaluations[index]? = some requests)
    (stepped : step s (.evaluate index answer order observedAt) = some (t,seen))
    (early : observedAt ≤ component.lastTransition + component.policy.recoveryTimeout * 1000000) :
    (∃ call, Attends s call name component.generation ∧
      .entered call name component.generation component.lastTransition ∈ history) ∧
    (InRecovery name t ↔ exited component (probeResults requests answer name) = false ∧
      (Chrono.Fits (component.policy.recoveryTimeout * 1000000) ∨
        timedOut observedAt component.lastTransition component.policy.recoveryTimeout = false)) := by
  refine ⟨run_underway ran name component found recovering,?_⟩
  simp only [step,pending] at stepped
  obtain ⟨rfl,-⟩ := stepped
  have kept := evaluateComponent_recovering_iff (probeResults requests answer name) observedAt
    recovering
  have stays : InRecovery name { s with
      monitor := (s.monitor.evaluate order (probeResults requests answer) observedAt).1,
      evaluations := s.evaluations.eraseIdx index } ↔
      (evaluateComponent (probeResults requests answer name) observedAt component).1.state =
        .recovering := by
    simp [InRecovery,lookup_evaluate,found]
  refine stays.trans (kept.trans (and_congr_right fun _ => ?_))
  constructor
  · exact .inr
  · rintro (fits | quiet)
    · rw [← Bool.not_eq_true]
      intro fired
      have late := timedOut_sound fits fired
      omega
    · exact quiet

theorem evaluate_keeps_recovery_sample : ∃ s t history seen,
    system.run initial (sampleFailure ++ [sampleRecover 2,.probe]) = some (s,history) ∧
    step s (.evaluate 0 (fun _ => .alive) .stored 10) = some (t,seen) ∧ InRecovery [1] t := by
  obtain ⟨s,t,history,seen,component,requests,ran,stepped,found,recovering,pending,early,alive,quiet⟩ :
      ∃ s t history seen component requests,
        system.run initial (sampleFailure ++ [sampleRecover 2,.probe]) = some (s,history) ∧
        step s (.evaluate 0 (fun _ => .alive) .stored 10) = some (t,seen) ∧
        s.monitor.components.lookup [1] = some component ∧ component.state = .recovering ∧
        s.evaluations[0]? = some requests ∧
        10 ≤ component.lastTransition + component.policy.recoveryTimeout * 1000000 ∧
        exited component (probeResults requests (fun _ => .alive) [1]) = false ∧
        Chrono.Fits (component.policy.recoveryTimeout * 1000000) :=
    ⟨_,_,_,_,_,_,rfl,rfl,rfl,rfl,rfl,by decide,by decide,by decide⟩
  exact ⟨s,t,history,seen,ran,stepped,
    (evaluate_keeps_recovery_iff ran found recovering pending stepped early).2.mpr ⟨alive,.inl quiet⟩⟩

/-- Eight nanoseconds into a recovery with five seconds to go, an evaluation that asks
about the dead predecessor ends it. -/
theorem evaluate_aborts_recovery : ∃ s t history seen before after,
    system.run initial (sampleFailure ++ [sampleRecover 2,.probe]) = some (s,history) ∧
    s.monitor.components.lookup [1] = some before ∧ before.state = .recovering ∧
    step s (.evaluate 0 (fun _ => .dead) .stored 10) = some (t,seen) ∧
    10 ≤ before.lastTransition + before.policy.recoveryTimeout * 1000000 ∧
    t.monitor.components.lookup [1] = some after ∧ after.state = .failed :=
  ⟨_,_,_,_,_,_,rfl,rfl,rfl,rfl,by decide,rfl,rfl⟩

end AutoRuntime.Health
