import AutoRuntime.HealthChange

/-! Running means alive. A component is told to be running after a heartbeat of its own
generation, unless an evaluation degrades it while it is still starting: the way back from
`Degraded` leads to `Running` and asks for no heartbeat. -/
namespace AutoRuntime.Health

open List Machine

/-- The event registers the component or commits a generation of it. -/
def Event.establishes (name : Name) : Event → Bool
  | .registered other (.ok _) => other = name
  | .returned _ (.ok component) => component.name = name
  | _ => false

/-- What was seen since the component's generation was registered or committed. -/
def Established (history : List Event) (name : Name) (since : List Event) : Prop :=
  ∃ before event, history = before ++ event :: since ∧ event.establishes name = true ∧
    ∀ later ∈ since, later.establishes name = false

/-- A heartbeat that carries the generation has been accepted since the generation began. -/
def Heard (history : List Event) (name : Name) (generation : UInt64) : Prop :=
  ∃ since sequence observedAt, Established history name since ∧
    .updated (.heartbeat name generation sequence observedAt) (.ok ()) ∈ since

/-- Every running component has been heard. -/
def RunningAlive (s : System) (history : List Event) : Prop :=
  ∀ name component, s.monitor.components.lookup name = some component →
    component.state = .running → Heard history name component.generation

/-- The reported signals are within the policy. -/
def ComponentHealth.relaxed (component : ComponentHealth) : Bool :=
  component.backlog ≤ component.policy.maxBacklog &&
    component.deadlineMisses ≤ component.policy.maxDeadlineMisses

/-- A check that comes before the signals fails the component. -/
def lapsed (probe : Option ProbeResult) (observedAt : Int) (component : ComponentHealth) : Bool :=
  exited component probe ||
    timedOut observedAt component.lastSeen component.policy.heartbeatTimeout ||
    timedOut observedAt component.lastProgress component.policy.noProgressTimeout

/-- Whatever component an evaluation finds starting is within its policy or fails. -/
def Patient (s : System) : Action → Prop
  | .evaluate index answer _ observedAt => ∀ requests name component,
      s.evaluations[index]? = some requests →
      s.monitor.components.lookup name = some component → component.state = .starting →
      component.relaxed = true ∨ lapsed (probeResults requests answer name) observedAt component = true
  | _ => True

theorem Established.extend (established : Established history name since)
    (quiet : ∀ event ∈ seen, event.establishes name = false) :
    Established (history ++ seen) name (since ++ seen) := by
  obtain ⟨before,event,rfl,establishes,last⟩ := established
  refine ⟨before,event,by simp,establishes,fun later member => ?_⟩
  rcases mem_append.mp member with old | new
  · exact last later old
  · exact quiet later new

theorem established_now (establishes : event.establishes name = true) :
    Established (history ++ [event]) name [] :=
  ⟨history,event,rfl,establishes,by simp⟩

theorem Heard.extend (heard : Heard history name generation)
    (quiet : ∀ event ∈ seen, event.establishes name = false) : Heard (history ++ seen) name generation := by
  obtain ⟨since,sequence,observedAt,established,member⟩ := heard
  exact ⟨since ++ seen,sequence,observedAt,established.extend quiet,mem_append_left seen member⟩

theorem establishes_concerns {event : Event} (establishes : event.establishes name = true) :
    event.concerns = some name := by
  unfold Event.establishes at establishes
  split at establishes
  · simpa [Event.concerns] using establishes
  · simpa [Event.concerns] using establishes
  · contradiction

theorem evaluateComponent_alive
    (patient : component.state = .starting →
      component.relaxed = true ∨ lapsed probe observedAt component = true)
    (alive : (evaluateComponent probe observedAt component).1.state = .running ∨
      (evaluateComponent probe observedAt component).1.state = .degraded) :
    component.state = .running ∨ component.state = .degraded := by
  cases state : component.state with
  | running => exact .inl rfl
  | degraded => exact .inr rfl
  | failed => simp [evaluateComponent,state] at alive
  | recovering =>
    simp only [evaluateComponent] at alive
    repeat' split at alive
    all_goals simp [state] at alive
  | starting =>
    have patient := patient state
    simp only [ComponentHealth.relaxed,lapsed,Bool.and_eq_true,Bool.or_eq_true,decide_eq_true_eq] at patient
    simp only [evaluateComponent,state] at alive
    repeat' split at alive
    all_goals first
      | simp [state] at alive; done
      | (rcases patient with relaxed | (dead | silent) | stuck <;> first | omega | contradiction)

/-- What the history holds of one component. -/
structure Vouched (history : List Event) (name : Name) (component : ComponentHealth) : Prop where
  established : ∃ since, Established history name since
  heard : component.state = .running ∨ component.state = .degraded →
    Heard history name component.generation

theorem Vouched.extend (vouched : Vouched history name before)
    (quiet : ∀ event ∈ seen, event.establishes name = false)
    (heard : changed.state = .running ∨ changed.state = .degraded →
      (before.state = .running ∨ before.state = .degraded) ∧ changed.generation = before.generation) :
    Vouched (history ++ seen) name changed := by
  obtain ⟨since,established⟩ := vouched.established
  refine ⟨⟨since ++ seen,established.extend quiet⟩,fun state => ?_⟩
  obtain ⟨earlier,same⟩ := heard state
  rw [same]
  exact (vouched.heard earlier).extend quiet

theorem Vouched.beat {sequence : UInt64} (vouched : Vouched history name component) :
    Heard (history ++ [.updated (.heartbeat name generation sequence observedAt) (.ok ())])
      name generation := by
  obtain ⟨since,established⟩ := vouched.established
  exact ⟨_,sequence,observedAt,established.extend (by simp [Event.establishes]),by simp⟩

theorem Update.apply_state (applied : Update.apply component update = .ok changed) :
    (∃ sequence observedAt, update = .heartbeat update.name update.generation sequence observedAt) ∨
      changed.1.state = component.state := by
  cases Update.applied applied with
  | first | beat => exact .inl ⟨_,_,rfl⟩
  | noted => exact .inr rfl

theorem Vouched.updated (vouched : Vouched history update.name before)
    (current : update.generation = before.generation) (applied : update.apply before = .ok changed) :
    Vouched (history ++ [.updated update (.ok ())]) update.name changed.1 := by
  have same := (Update.apply_kept applied).generation
  rcases Update.apply_state applied with ⟨sequence,observedAt,heartbeat⟩ | state
  · obtain ⟨since,established⟩ := vouched.established
    refine ⟨⟨_,established.extend (by simp [Event.establishes])⟩,fun _ => ?_⟩
    rw [same,← current,heartbeat]
    exact vouched.beat
  · refine vouched.extend (by simp [Event.establishes]) fun moved => ⟨?_,same⟩
    rwa [state] at moved

theorem Vouched.evaluated (vouched : Vouched history name before)
    (patient : before.state = .starting → before.relaxed = true ∨ lapsed probe observedAt before = true) :
    Vouched (history ++ [.evaluated observedAt emitted]) name
      (evaluateComponent probe observedAt before).1 := by
  refine vouched.extend (by simp [Event.establishes]) fun moved => ?_
  have same := (evaluateComponent_kept probe observedAt before).generation
  exact ⟨evaluateComponent_alive patient moved,same⟩

/-- Every component is vouched for. -/
structure Vouches (s : System) (history : List Event) : Prop where
  named : s.monitor.Named
  vouched : s.monitor.components.lookup name = some component → Vouched history name component

theorem Vouched.follow (vouched : Vouched history name before) (named : before.name = name)
    (found : s.monitor.components.lookup name = some before)
    (change : Changed s name before action seen changed) (patient : Patient s action) :
    Vouched (history ++ seen) name changed.1 := by
  have owner := change.logged.name.trans named
  cases change with
  | untouched quiet =>
    refine vouched.extend (fun event member => ?_) fun state => ⟨state,rfl⟩
    exact Bool.eq_false_iff.mpr fun establishes => quiet event member (establishes_concerns establishes)
  | updated same current applied =>
    subst same
    exact vouched.updated current applied
  | evaluated pending => exact vouched.evaluated (patient _ name before pending found)
  | entered | failed => exact vouched.extend (by simp [Event.establishes]) (by simp)
  | committed active same current recovering restarted =>
    exact ⟨⟨[],established_now (by simpa [Event.establishes] using owner)⟩,
      by simp [restarted,ComponentHealth.restarted]⟩

theorem Vouches.step (vouches : Vouches s history) (patient : Patient s action)
    (stepped : Health.step s action = some (t,seen)) : Vouches t (history ++ seen) := by
  have changes := step_changes vouches.named stepped
  refine ⟨changes.named vouches.named,fun {name component} present => ?_⟩
  cases found : s.monitor.components.lookup name with
  | none =>
    obtain ⟨-,starting⟩ := changes.fresh found present
    exact ⟨⟨[],established_now (by simp [Event.establishes])⟩,by simp [starting]⟩
  | some before =>
    obtain ⟨changed,change,stored,-⟩ := changes.known found
    cases stored.symm.trans present
    exact (vouches.vouched found).follow (vouches.named name before found) found change patient

/-- In a run whose evaluations never degrade a starting component, whatever is running has
been heard in its generation. -/
theorem running_alive (along : system.Along Patient initial actions)
    (ran : system.run initial actions = some (t,history)) : RunningAlive t history := by
  have vouches := run_along (motive := Vouches)
    (fun _ _ _ _ _ held patient stepped => held.step patient stepped)
    ⟨fun name component found => by simp [initial] at found,fun found => by simp [initial] at found⟩
    along ran
  exact fun name component found running => (vouches.vouched found).heard (.inl running)

/-- A backlog beyond the policy and its end. -/
def sampleOverload : List Action :=
  [.update (.reportBacklog [1] 1 2000),.probe,.evaluate 0 (fun _ => .alive) .stored 1,
    .update (.reportBacklog [1] 1 0),.probe,.evaluate 0 (fun _ => .alive) .stored 2]

theorem running_alive_sample : ∃ t history component,
    system.run initial (.register ⟨[1],11,1,{}⟩ 0 :: .update (.heartbeat [1] 1 1 1) :: sampleOverload) =
      some (t,history) ∧
    t.monitor.components.lookup [1] = some component ∧ component.state = .running ∧
    Heard history [1] component.generation := by
  have ran : system.run initial (.register ⟨[1],11,1,{}⟩ 0 :: .update (.heartbeat [1] 1 1 1) :: sampleOverload) =
      some _ := rfl
  refine ⟨_,_,_,ran,rfl,rfl,running_alive ?_ ran [1] _ rfl rfl⟩
  refine (along_cons rfl).mpr ⟨trivial,(along_cons rfl).mpr ⟨trivial,
    (along_cons rfl).mpr ⟨trivial,(along_cons rfl).mpr ⟨trivial,
    (along_cons rfl).mpr ⟨?_,(along_cons rfl).mpr ⟨trivial,
    (along_cons rfl).mpr ⟨trivial,(along_cons rfl).mpr ⟨?_,trivial⟩⟩⟩⟩⟩⟩⟩⟩
  all_goals
    intro requests name component pending found starting
    cases mem_singleton.mp (Table.lookup_eq_some_iff.mp found)
    cases starting

/-- Without the heartbeat the component is told to be running all the same. -/
theorem running_unheard : ∃ t history component,
    system.run initial (.register ⟨[1],11,1,{}⟩ 0 :: sampleOverload) = some (t,history) ∧
    t.monitor.components.lookup [1] = some component ∧ component.state = .running ∧
    ¬ Heard history [1] component.generation := by
  obtain ⟨t,history,component,ran,found,running,silent⟩ : ∃ t history component,
      system.run initial (.register ⟨[1],11,1,{}⟩ 0 :: sampleOverload) = some (t,history) ∧
      t.monitor.components.lookup [1] = some component ∧ component.state = .running ∧
      (history.all fun | .updated (.heartbeat ..) _ => false | _ => true) = true :=
    ⟨_,_,_,rfl,rfl,rfl,rfl⟩
  refine ⟨t,history,component,ran,found,running,?_⟩
  rintro ⟨since,sequence,observedAt,⟨before,event,split,-⟩,member⟩
  have beat := all_eq_true.mp silent (.updated (.heartbeat [1] component.generation sequence observedAt) (.ok ()))
    (by rw [split]; simp [member])
  simp at beat

end AutoRuntime.Health
