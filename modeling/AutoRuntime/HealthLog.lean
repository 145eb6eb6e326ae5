import AutoRuntime.HealthEpisode
import AutoRuntime.HealthChange
import Mathlib.Data.List.Chain

/-! The transition log. The entries about one component form a chain through the state
diagram, from `Starting` to the present state, and the generation moves with the restarts. -/
namespace AutoRuntime.Health

open List Option

/-- The entry completes a recovery. -/
def HealthTransition.restarts (entry : HealthTransition) : Bool :=
  entry.previous = .recovering && entry.current = .starting

/-- When the entry begins a recovery: the generation it is for and the time. -/
def HealthTransition.recovery (entry : HealthTransition) : Option (UInt64 × Int) :=
  if entry.previous = .failed ∧ entry.current = .recovering then
    some (entry.generation,entry.observedAt)
  else none

/-- When the event is the entry of a `Recover` call for this component. -/
def Event.recovery (name : Name) : Event → Option (UInt64 × Int)
  | .entered _ other generation enteredAt => if other = name then some (generation,enteredAt) else none
  | _ => none

/-- The state diagram. A failure of the hooks is logged only while the recovery it belongs
to, or the failure that ended it, is still in force. -/
structure Legal (entry : HealthTransition) : Prop where
  failed : entry.previous = .failed → entry.current = .recovering ∨ entry.current = .failed
  recovering : entry.previous = .recovering → entry.current = .starting ∨ entry.current = .failed
  starting : entry.current = .starting → entry.previous = .recovering
  recoveryFailed : entry.reason = .recoveryFailed →
    entry.previous = .failed ∨ entry.previous = .recovering

/-- Two consecutive entries about one component. -/
structure Linked (first next : HealthTransition) : Prop where
  state : next.previous = first.current
  generation : next.generation.toNat = first.generation.toNat + if next.restarts then 1 else 0

/-- The log of a component, from its registration to its present state. -/
structure Chained (log : List HealthTransition) (component : ComponentHealth) : Prop where
  start : log.head? = some entry → entry.previous = .starting
  links : log.IsChain Linked
  state : component.state = (log.getLast?.map (·.current)).getD .starting
  generation : log.getLast? = some entry → entry.generation = component.generation
  legal : ∀ entry ∈ log, Legal entry

/-- A call that was let in finds its component at the generation it was let in for, failed
or in recovery, or at a later one. -/
def Overtaken (component : ComponentHealth) (generation : UInt64) : Prop :=
  generation < component.generation ∨
    (component.generation = generation ∧ (component.state = .failed ∨ component.state = .recovering))

def Attended (s : System) : Prop :=
  ∀ call ∈ s.recovers, ∃ component,
    s.monitor.components.lookup call.name = some component ∧ Overtaken component call.oldGeneration

theorem Edge.generation (edge : Edge before changed) :
    changed.1.generation.toNat = before.generation.toNat +
      if (changed.1.entry before.state).restarts then 1 else 0 := by
  cases edge with
  | quiet silent state same =>
    cases held : before.state <;>
      simp [HealthTransition.restarts,ComponentHealth.entry,state,held,same]
  | heard _ state same | degraded _ state same | cleared _ state same | entered _ state same
  | failed state same =>
    simp [HealthTransition.restarts,ComponentHealth.entry,state,same]
  | restarted recovering state advanced =>
    simp [HealthTransition.restarts,ComponentHealth.entry,recovering,state,advanced]

theorem Edge.generation_le (edge : Edge before changed) :
    before.generation ≤ changed.1.generation := by
  rw [UInt64.le_iff_toNat_le,edge.generation]
  exact Nat.le_add_right _ _

theorem Edge.legal (edge : Edge before changed) (logged : changed.2 = some entry)
    (blamed : changed.1.reason = .recoveryFailed → before.state = .failed ∨ before.state = .recovering) :
    Legal (changed.1.entry before.state) := by
  refine ⟨?_,?_,?_,blamed⟩ <;> simp only [ComponentHealth.entry]
  all_goals
    cases edge with
    | quiet silent => simp [silent] at logged
    | heard previous state | cleared previous state | entered previous state
    | restarted previous state => simp [previous,state]
    | degraded alive state => simp [alive,state]
    | failed state => simp [state]

theorem transition_reason (component : ComponentHealth) (state : HealthState) (reason : HealthReason)
    (observedAt : Int) (detail : String) :
    (component.transition state reason observedAt detail).1.reason = reason := by
  simp only [ComponentHealth.transition]
  split
  next same => exact (by simpa using same : (_ ∧ component.reason = reason) ∧ _).1.2
  · rfl

theorem evaluateComponent_blames (probe : Option ProbeResult) (observedAt : Int)
    (component : ComponentHealth) (logged : (evaluateComponent probe observedAt component).2 = some entry)
    (reason : (evaluateComponent probe observedAt component).1.reason = .recoveryFailed) :
    component.state = .recovering := by
  simp only [evaluateComponent] at logged reason
  repeat' split at logged
  all_goals simp_all [transition_reason]

theorem Update.apply_blames (applied : Update.apply component update = .ok changed)
    (logged : changed.2 = some entry) : changed.1.reason = .none := by
  cases Update.applied applied with
  | first => exact transition_reason _ _ _ _ _
  | beat | noted => simp at logged

/-- Whoever logs a failed recovery logs it in the recovery or after the failure that ended it. -/
theorem Changed.blames (change : Changed s name before action seen changed)
    (attended : ∀ call ∈ s.recovers, call.name = name → Overtaken before call.oldGeneration)
    (logged : changed.2 = some entry) (reason : changed.1.reason = .recoveryFailed) :
    before.state = .failed ∨ before.state = .recovering := by
  cases change with
  | untouched => simp at logged
  | updated named current applied =>
    rw [Update.apply_blames applied logged] at reason
    contradiction
  | evaluated => exact .inr (evaluateComponent_blames _ _ before logged reason)
  | entered failed => exact .inl failed
  | @failed index call now status active named current =>
    rcases attended call (mem_of_getElem? active) named with later | ⟨-,state⟩
    · exact absurd current (UInt64.ne_of_lt later).symm
    · exact state
  | committed active named current recovering => exact .inr recovering

theorem Overtaken.edge (overtaken : Overtaken before generation) (edge : Edge before changed) :
    Overtaken changed.1 generation := by
  rcases overtaken with later | ⟨rfl,state⟩
  · exact .inl (UInt64.lt_of_lt_of_le later edge.generation_le)
  · cases edge with
    | quiet silent same kept => exact .inr ⟨kept,by simpa [same] using state⟩
    | heard starting => simp [starting] at state
    | degraded alive => simp [alive] at state
    | cleared degraded => simp [degraded] at state
    | failed failed kept => exact .inr ⟨kept,.inl failed⟩
    | entered _ recovering kept => exact .inr ⟨kept,.inr recovering⟩
    | restarted => exact .inl (UInt64.lt_iff_toNat_lt.mpr (by omega))

/-- Each call was there before the action, or has just moved its component to recovery. -/
theorem Took.calls (took : Took s action t seen) (present : call ∈ t.recovers) :
    (∃ old ∈ s.recovers, old.name = call.name ∧ old.oldGeneration = call.oldGeneration) ∨
    (∃ component, t.monitor.components.lookup call.name = some component ∧
      Overtaken component call.oldGeneration) := by
  have moved {index : Nat} {old : RecoverCall} {phase : RecoverPhase}
      (active : s.recovers[index]? = some old)
      (member : call ∈ s.recovers.set index { old with phase := phase }) :
      ∃ old ∈ s.recovers, old.name = call.name ∧ old.oldGeneration = call.oldGeneration := by
    rcases mem_or_eq_of_mem_set member with kept | rfl
    · exact ⟨call,kept,rfl,rfl⟩
    · exact ⟨old,mem_of_getElem? active,rfl,rfl⟩
  cases took with
  | observed => exact .inl ⟨call,present,rfl,rfl⟩
  | @entered name _ _ _ _ changed _ _ _ enters =>
    rcases Pool.mem_concat present with kept | rfl
    · exact .inl ⟨call,kept,rfl,rfl⟩
    · refine .inr ⟨changed,by rw [enters.callName]; exact enters.stored,.inr ⟨?_,.inr enters.recovering⟩⟩
      exact enters.generation.trans enters.callGeneration.symm
  | proceeded _ active | failed active | committed active | stale active => exact .inl (moved active present)

theorem Attended.step (attended : Attended s) (took : Took s action t seen)
    (changes : Changes s action t seen) : Attended t := by
  intro call present
  rcases took.calls present with ⟨old,member,name,generation⟩ | entered
  · obtain ⟨before,found,overtaken⟩ := attended old member
    obtain ⟨changed,change,stored,-⟩ := changes.known found
    exact ⟨changed.1,name ▸ stored,generation ▸ overtaken.edge change.edge⟩
  · exact entered

theorem Attended.of_active (attended : Attended s)
    (found : s.monitor.components.lookup name = some component) :
    ∀ call ∈ s.recovers, call.name = name → Overtaken component call.oldGeneration := by
  rintro call member rfl
  obtain ⟨other,present,overtaken⟩ := attended call member
  cases found.symm.trans present
  exact overtaken

theorem Chained.extend (chained : Chained log before) (edge : Edge before changed)
    (logged : Logged before changed)
    (blamed : ∀ entry, changed.2 = some entry → changed.1.reason = .recoveryFailed →
      before.state = .failed ∨ before.state = .recovering) :
    Chained (log ++ changed.2.toList) changed.1 := by
  cases entry : changed.2 with
  | none =>
    obtain ⟨state,generation⟩ := logged.silent entry
    simp only [toList_none,append_nil]
    exact ⟨chained.start,chained.links,state.trans chained.state,
      fun last => (chained.generation last).trans generation.symm,chained.legal⟩
  | some =>
    obtain rfl := logged.written entry
    refine ⟨?_,?_,?_,?_,?_⟩
    · intro first head
      cases log with
      | nil =>
        cases head
        exact chained.state
      | cons => exact chained.start head
    · refine isChain_append.mpr ⟨chained.links,isChain_singleton _,?_⟩
      intro last lastOf next nextOf
      obtain rfl : _ = next := by simpa using nextOf
      have generation := chained.generation lastOf
      have state := chained.state
      rw [mem_def.mp lastOf] at state
      exact ⟨state,by rw [generation]; exact edge.generation⟩
    · simp [ComponentHealth.entry]
    · simp [ComponentHealth.entry]
    · intro other member
      rcases Pool.mem_concat member with old | rfl
      · exact chained.legal other old
      · exact edge.legal entry (blamed _ entry)

theorem recovery_concerns {event : Event} (began : event.recovery name = some start) :
    event.concerns = some name := by
  cases event <;> simp only [Event.recovery,reduceCtorEq] at began
  case entered call other generation enteredAt =>
    split at began
    next same => rw [same]; rfl
    · contradiction

theorem Logged.unbegun (logged : Logged before changed)
    (recovering : changed.1.state = .recovering → before.state = .recovering) :
    changed.2.toList.filterMap HealthTransition.recovery = [] := by
  refine filterMap_eq_nil_iff.mpr fun entry member => ?_
  obtain rfl := logged.written (by simpa using member)
  refine if_neg fun began => ?_
  have failed : before.state = .failed := began.1
  have already := recovering began.2
  simp [failed] at already

/-- A recovery begins in the log exactly when a `Recover` call is let in. -/
theorem Changed.recoveries (change : Changed s name before action seen changed) :
    changed.2.toList.filterMap HealthTransition.recovery = seen.filterMap (Event.recovery name) := by
  have logged := change.logged
  cases change with
  | untouched quiet =>
    refine (filterMap_eq_nil_iff.mpr fun event member => ?_).symm
    by_contra began
    obtain ⟨start,began⟩ := ne_none_iff_exists'.mp began
    exact quiet event member (recovery_concerns began)
  | updated named current applied =>
    exact logged.unbegun fun recovering => ((Update.apply_kept applied).recovering recovering).1
  | evaluated =>
    exact logged.unbegun fun recovering => ((evaluateComponent_kept _ _ before).recovering recovering).1
  | entered failed =>
    simp [ComponentHealth.transition,failed,HealthTransition.recovery,Event.recovery]
  | failed => exact logged.unbegun (by simp)
  | committed active named current recovering restarted =>
    exact logged.unbegun (by simp [restarted,ComponentHealth.restarted])

/-- What the log says in every state that a run reaches. -/
structure Documented (s : System) (history : List Event) : Prop where
  named : s.monitor.Named
  attended : Attended s
  chained : s.monitor.components.lookup name = some component → Chained (s.monitor.log name) component
  unknown : s.monitor.components.lookup name = none → s.monitor.log name = []
  recoveries : (s.monitor.log name).filterMap HealthTransition.recovery =
    history.filterMap (Event.recovery name)

theorem initial_documented : Documented initial [] :=
  ⟨fun name component found => by simp [initial] at found,by simp [Attended,initial],
    fun found => by simp [initial] at found,fun _ => rfl,rfl⟩

theorem Documented.step (documented : Documented s history)
    (stepped : Health.step s action = some (t,seen)) : Documented t (history ++ seen) := by
  have changes := step_changes documented.named stepped
  refine ⟨changes.named documented.named,documented.attended.step (step_took stepped) changes,?_,?_,?_⟩
  · intro name component present
    cases found : s.monitor.components.lookup name with
    | none =>
      obtain ⟨-,starting⟩ := changes.fresh found present
      rw [(changes.absent found).1,documented.unknown found]
      exact ⟨by simp,.nil,starting,by simp,by simp⟩
    | some =>
      obtain ⟨changed,change,stored,log⟩ := changes.known found
      cases stored.symm.trans present
      rw [log]
      exact (documented.chained found).extend change.edge change.logged fun entry logged =>
        change.blames (documented.attended.of_active found) logged
  · intro name missing
    cases found : s.monitor.components.lookup name with
    | none => rw [(changes.absent found).1,documented.unknown found]
    | some =>
      obtain ⟨changed,-,stored,-⟩ := changes.known found
      simp [missing] at stored
  · intro name
    rw [filterMap_append,← documented.recoveries]
    cases found : s.monitor.components.lookup name with
    | none =>
      have quiet : seen.filterMap (Event.recovery name) = [] := by
        refine filterMap_eq_nil_iff.mpr fun event member => ?_
        cases event with
        | entered call other generation enteredAt =>
          refine if_neg fun same => ?_
          subst other
          exact (changes.absent found).2 call generation enteredAt member
        | _ => rfl
      rw [quiet,(changes.absent found).1,append_nil]
    | some =>
      obtain ⟨changed,change,-,log⟩ := changes.known found
      rw [log,filterMap_append,change.recoveries]

/-- In every run the entries about a component lead from `Starting` along the state diagram
to the state it is in, the generation counts the restarts, and a recovery is begun by
`Recover` alone. -/
theorem transition_log_sound (ran : system.run initial actions = some (t,history)) (name : Name) :
    (∀ component, t.monitor.components.lookup name = some component →
      Chained (t.monitor.log name) component) ∧
    (t.monitor.components.lookup name = none → t.monitor.log name = []) ∧
    (t.monitor.log name).filterMap HealthTransition.recovery =
      history.filterMap (Event.recovery name) := by
  have documented := Machine.run_invariant (motive := Documented)
    (fun _ _ _ _ _ held stepped => held.step stepped) initial_documented ran
  exact ⟨fun component found => documented.chained found,documented.unknown,documented.recoveries⟩

/-- Failure, recovery and restart of one component: three entries. -/
theorem transition_log_sample : ∃ t history component,
    system.run initial (sampleFailure ++ sampleRecover 2 :: sampleStages ++
      [.reconnect 0 (.returned .success),.commit 0 12]) = some (t,history) ∧
    t.monitor.components.lookup [1] = some component ∧
    (t.monitor.log [1]).map (·.current) = [.failed,.recovering,.starting] ∧
    Chained (t.monitor.log [1]) component ∧
    (t.monitor.log [1]).filterMap HealthTransition.recovery = [(1,2)] := by
  have ran : system.run initial (sampleFailure ++ sampleRecover 2 :: sampleStages ++
      [.reconnect 0 (.returned .success),.commit 0 12]) = some _ := rfl
  have sound := transition_log_sound ran [1]
  exact ⟨_,_,_,ran,rfl,rfl,sound.1 _ rfl,sound.2.2.trans rfl⟩

end AutoRuntime.Health
