import AutoRuntime.DdsTransport

/-! Waiting in the DDS transport. `Unsubscribe` joins a receiver inside its section, and the
receiver's callback may be at the same mutex. -/
namespace AutoRuntime.DdsTransport

open Option Pool Machine

def Phase.holds : Phase → Bool
  | .holding | .joining _ => true
  | _ => false

/-- The call is in a join of the receiver. -/
def Call.waitsFor (call : Call) (receiver : Nat) : Prop :=
  call.phase = .joining receiver ∨ ∃ rest, call.phase = .draining (receiver :: rest)

/-- The thread is inside a section under the mutex. -/
def System.inside (s : System) : Thread → Bool
  | .caller index => s.calls[index]?.any (·.phase.holds)
  | .receiver index => s.receivers[index]?.any (·.phase = .holding)

def System.joins (s : System) (index receiver : Nat) : Bool :=
  s.calls[index]?.any (·.phase = .joining receiver)

/-- The receiver's callback is at the mutex. -/
def System.blocked (s : System) (receiver : Nat) : Bool :=
  s.receivers[receiver]?.any (·.phase = .waiting)

/-- A call has the mutex and waits for a receiver to exit, which waits for the mutex. -/
structure Stuck (s : System) (index receiver : Nat) : Prop where
  holds : s.mutex = some (.caller index)
  waits : ∃ call, s.calls[index]? = some call ∧ call.waitsFor receiver
  blocked : s.blocked receiver = true

def DeadlockFree (s : System) : Prop := ∀ index receiver, ¬Stuck s index receiver

/-- The receiver that the section of the call is about to join. -/
def System.target (s : System) (index : Nat) : Option Nat :=
  match s.calls[index]? with
  | some ⟨.unsubscribe subscriptionId,.holding⟩ =>
    if s.closed then none else s.subscriptions.lookup subscriptionId
  | _ => none

/-- No section goes on to join a receiver whose callback is at the mutex, and no callback goes
to the mutex while its receiver is being joined by `Unsubscribe`. -/
def Staggered (s : System) : Action → Prop
  | .finish (.caller index) _ => ∀ receiver, s.target index = some receiver → s.blocked receiver = false
  | .publish receiver => ∀ index, s.joins index receiver = false
  | _ => True

variable {s t : System}

/-- The mutex has an owner exactly while the owner is inside a section. -/
def Held (s : System) : Prop := ∀ thread, s.mutex = some thread ↔ s.inside thread = true

theorem joins_inside (joins : s.joins index receiver = true) : s.inside (.caller index) = true := by
  obtain ⟨call,active,phase⟩ := any_eq_true _ _ |>.mp joins
  exact (any_eq_true _ _).mpr ⟨call,active,by simp [of_decide_eq_true phase,Phase.holds]⟩

/-- Only `Unsubscribe` joins with the mutex. -/
theorem stuck_iff (held : Held s) :
    Stuck s index receiver ↔ s.joins index receiver = true ∧ s.blocked receiver = true := by
  constructor
  · rintro ⟨holds,⟨call,active,waits⟩,blocked⟩
    refine ⟨(any_eq_true _ _).mpr ⟨call,active,?_⟩,blocked⟩
    have inside := (held _).mp holds
    simp only [System.inside,active] at inside
    rcases waits with joining | ⟨rest,draining⟩
    · simpa using joining
    · simp [draining,Phase.holds] at inside
  · rintro ⟨joins,blocked⟩
    refine ⟨(held _).mpr (joins_inside joins),?_,blocked⟩
    obtain ⟨call,active,phase⟩ := any_eq_true _ _ |>.mp joins
    exact ⟨call,active,Or.inl (of_decide_eq_true phase)⟩

/-- What a step does to the mutex and to the waiting for it. -/
inductive Moved (s t : System) : Action → Prop where
  | quiet {action : Action} (mutex : t.mutex = s.mutex) (inside : ∀ thread, t.inside thread = s.inside thread)
    (joins : ∀ index receiver, t.joins index receiver = s.joins index receiver)
    (blocked : ∀ receiver, t.blocked receiver = s.blocked receiver) : Moved s t action
  | taken {action : Action} (thread : Thread) (free : s.mutex = none) (mutex : t.mutex = some thread)
    (inside : ∀ other, t.inside other = (other = thread || s.inside other))
    (joins : ∀ index receiver, t.joins index receiver = s.joins index receiver)
    (blocked : ∀ receiver, t.blocked receiver = true → s.blocked receiver = true) : Moved s t action
  | left {action : Action} (thread : Thread) (was : s.inside thread = true)
    (free : ∀ index receiver, thread = .caller index → s.joins index receiver = true →
      s.blocked receiver = false) (mutex : t.mutex = none)
    (inside : ∀ other, t.inside other = (other ≠ thread && s.inside other))
    (joins : ∀ index receiver, t.joins index receiver = true → s.joins index receiver = true)
    (blocked : ∀ receiver, t.blocked receiver = true → s.blocked receiver = true) : Moved s t action
  | joined (index receiver : Nat) (outcome : Outcome) (target : s.target index = some receiver)
    (mutex : t.mutex = s.mutex) (inside : ∀ thread, t.inside thread = s.inside thread)
    (joins : ∀ other another, t.joins other another =
      (s.joins other another || (other = index ∧ another = receiver)))
    (blocked : ∀ other, t.blocked other = s.blocked other) : Moved s t (.finish (.caller index) outcome)
  | published (receiver : Nat) (mutex : t.mutex = s.mutex)
    (inside : ∀ thread, t.inside thread = s.inside thread)
    (joins : ∀ index other, t.joins index other = s.joins index other)
    (blocked : ∀ other, t.blocked other = (s.blocked other || other = receiver)) :
    Moved s t (.publish receiver)

/-- The receivers are where they were, as far as the mutex is concerned. -/
structure Alike (s t : System) : Prop where
  inside : ∀ receiver, t.inside (.receiver receiver) = s.inside (.receiver receiver)
  blocked : ∀ receiver, t.blocked receiver = s.blocked receiver

theorem Alike.of_eq (receivers : t.receivers = s.receivers) : Alike s t :=
  ⟨fun _ => by simp [System.inside,receivers],fun _ => by simp [System.blocked,receivers]⟩

theorem Alike.concat (receivers : t.receivers = s.receivers ++ [⟨.starting,false⟩]) : Alike s t :=
  ⟨fun _ => by simpa [System.inside,receivers] using any_concat _ _ rfl _,
    fun _ => by simpa [System.blocked,receivers] using any_concat _ _ rfl _⟩

theorem Alike.requestStop (index : Nat) (receivers : t.receivers = s.receivers.modify index Receiver.requestStop) :
    Alike s t :=
  ⟨fun _ => by simp only [System.inside,receivers]; exact any_modify _ _ (by intro _; rfl) _ _,
    fun _ => by simp only [System.blocked,receivers]; exact any_modify _ _ (by intro _; rfl) _ _⟩

theorem Alike.trans (first : Alike s t) (second : Alike t u) : Alike s u :=
  ⟨fun receiver => (second.inside receiver).trans (first.inside receiver),
    fun receiver => (second.blocked receiver).trans (first.blocked receiver)⟩

theorem Alike.requestStops (stopped : List Nat)
    (receivers : t.receivers =
      stopped.foldl (fun all receiver => all.modify receiver Receiver.requestStop) s.receivers) : Alike s t := by
  induction stopped generalizing s with
  | nil => exact .of_eq receivers
  | cons head rest ih =>
    have first : Alike s { s with receivers := s.receivers.modify head Receiver.requestStop } :=
      .requestStop head rfl
    exact first.trans (ih receivers)

/-- One call changes its phase, and the receivers are where they were. -/
structure Advanced (s t : System) (index : Nat) (call : Call) (phase : Phase) : Prop where
  active : s.calls[index]? = some call
  calls : t.calls = s.calls.set index { call with phase := phase }
  alike : Alike s t

theorem Advanced.inside (advanced : Advanced s t index call phase) (thread : Thread) :
    t.inside thread = if thread = .caller index then phase.holds else s.inside thread := by
  cases thread with
  | caller => simp [System.inside,advanced.calls,any_set _ advanced.active]
  | receiver other => simpa using advanced.alike.inside other

theorem Advanced.joins (advanced : Advanced s t index call phase) (other receiver : Nat) :
    t.joins other receiver =
      if other = index then decide (phase = .joining receiver) else s.joins other receiver := by
  simp [System.joins,advanced.calls,any_set _ advanced.active]

theorem Advanced.inside_before (advanced : Advanced s t index call phase) :
    s.inside (.caller index) = call.phase.holds := by
  simp [System.inside,advanced.active]

theorem Advanced.joins_before (advanced : Advanced s t index call phase) (receiver : Nat) :
    s.joins index receiver = decide (call.phase = .joining receiver) := by
  simp [System.joins,advanced.active]

theorem Advanced.leave (advanced : Advanced s t index call phase) (was : call.phase.holds = true)
    (free : ∀ receiver, call.phase = .joining receiver → s.blocked receiver = false)
    (out : phase.holds = false) (mutex : t.mutex = none) : Moved s t action := by
  refine .left (.caller index) (advanced.inside_before.trans was) (fun other receiver here joining => ?_) mutex
    (fun other => ?_) (fun other receiver => ?_) (fun receiver => by rw [advanced.alike.blocked]; exact id)
  · cases here
    rw [advanced.joins_before] at joining
    exact free receiver (of_decide_eq_true joining)
  · rw [advanced.inside]
    simp [out]
  · rw [advanced.joins]
    split
    · intro joining
      simp [of_decide_eq_true joining,Phase.holds] at out
    · exact id

theorem Advanced.outside (advanced : Advanced s t index call phase) (was : call.phase.holds = false)
    (out : phase.holds = false) (mutex : t.mutex = s.mutex) : Moved s t action := by
  have apart {phase : Phase} (out : phase.holds = false) (receiver : Nat) : phase ≠ .joining receiver := by
    rintro rfl
    contradiction
  refine .quiet mutex (fun thread => ?_) (fun other receiver => ?_) advanced.alike.blocked
  · rw [advanced.inside]
    split
    next here => rw [here,advanced.inside_before,was,out]
    · rfl
  · rw [advanced.joins]
    split
    next here => rw [here,advanced.joins_before,decide_eq_false (apart out _),decide_eq_false (apart was _)]
    · rfl

/-- One receiver moves on, and the calls are where they were. -/
structure Walked (s t : System) (index : Nat) (receiver : Receiver) (phase : ReceiverPhase) : Prop where
  active : s.receivers[index]? = some receiver
  receivers : t.receivers = s.receivers.set index { receiver with phase := phase }
  calls : t.calls = s.calls

section

variable (walked : Walked s t index receiver phase)

include walked

theorem Walked.inside (thread : Thread) :
    t.inside thread = if thread = .receiver index then decide (phase = .holding) else s.inside thread := by
  cases thread with
  | caller => simp [System.inside,walked.calls]
  | receiver => simp [System.inside,walked.receivers,any_set _ walked.active]

theorem Walked.joins (other another : Nat) : t.joins other another = s.joins other another := by
  simp [System.joins,walked.calls]

theorem Walked.blocked (other : Nat) :
    t.blocked other = if other = index then decide (phase = .waiting) else s.blocked other := by
  simp [System.blocked,walked.receivers,any_set _ walked.active]

theorem Walked.inside_before : s.inside (.receiver index) = decide (receiver.phase = .holding) := by
  simp [System.inside,walked.active]

theorem Walked.blocked_before : s.blocked index = decide (receiver.phase = .waiting) := by
  simp [System.blocked,walked.active]

theorem Walked.inside_same (was : receiver.phase ≠ .holding) (out : phase ≠ .holding) (thread : Thread) :
    t.inside thread = s.inside thread := by
  rw [walked.inside]
  split
  next here => rw [here,walked.inside_before,decide_eq_false out,decide_eq_false was]
  · rfl

theorem Walked.blocked_less (out : phase ≠ .waiting) (other : Nat) :
    t.blocked other = true → s.blocked other = true := by
  rw [walked.blocked]
  split
  · simp [out]
  · exact id

end

theorem proceed_walked (proceeded : s.proceed index place next = some (t,seen)) :
    ∃ receiver, receiver.phase = place ∧ t.mutex = s.mutex ∧ Walked s t index receiver (next receiver) := by
  simp only [System.proceed] at proceeded
  split at proceeded
  next receiver active =>
    obtain ⟨here,taken⟩ := ite_none_right_eq_some.mp proceeded
    cases taken
    exact ⟨receiver,here,rfl,active,rfl,rfl⟩
  · contradiction

theorem proceed_moved (proceeded : s.proceed index place next = some (t,seen))
    (was : place ≠ .holding ∧ place ≠ .waiting)
    (out : ∀ receiver, next receiver ≠ .holding ∧ next receiver ≠ .waiting) : Moved s t action := by
  obtain ⟨receiver,here,mutex,walked⟩ := proceed_walked proceeded
  refine .quiet mutex (walked.inside_same (here ▸ was.1) (out receiver).1) walked.joins (fun other => ?_)
  rw [walked.blocked]
  split
  next same => rw [same,walked.blocked_before,here,decide_eq_false (out receiver).2,decide_eq_false was.2]
  · rfl

theorem published_moved (proceeded : s.proceed index .callback (fun _ => .waiting) = some (t,seen)) :
    Moved s t (.publish index) := by
  obtain ⟨receiver,here,mutex,walked⟩ := proceed_walked proceeded
  refine .published index mutex (walked.inside_same (by simp [here]) (by decide)) walked.joins (fun other => ?_)
  rw [walked.blocked]
  by_cases same : other = index <;> simp [same]

theorem unsubscribe_advanced (active : s.calls[index]? = some call) (receiver subscriptionId : Nat) :
    Advanced s { s.setCall index call (.joining receiver) with
      subscriptions := s.subscriptions.erase subscriptionId
      receivers := s.receivers.modify receiver Receiver.requestStop } index call (.joining receiver) :=
  ⟨active,rfl,.requestStop receiver rfl⟩

theorem finish_moved (active : s.calls[index]? = some call) (holding : call.phase = .holding)
    (finished : s.finish index call outcome = (t,seen)) : Moved s t (.finish (.caller index) outcome) := by
  have was : call.phase.holds = true := by rw [holding]; rfl
  have free (receiver : Nat) (joining : call.phase = .joining receiver) : s.blocked receiver = false := by
    simp [holding] at joining
  have leave : Moved s { s.setCall index call .returned with mutex := none } (.finish (.caller index) outcome) :=
    Advanced.leave ⟨active,rfl,.of_eq rfl⟩ was free rfl rfl
  cases operation : call.operation <;> simp only [System.finish,operation] at finished
  case publish =>
    rw [← (Prod.mk.inj finished).1]
    exact leave
  case subscribe =>
    simp only [System.subscribe] at finished
    split at finished
    · rw [← (Prod.mk.inj finished).1]
      exact leave
    split at finished <;> rw [← (Prod.mk.inj finished).1]
    · exact leave
    · exact Advanced.leave ⟨active,rfl,.of_eq rfl⟩ was free rfl rfl
    · exact Advanced.leave ⟨active,rfl,.concat rfl⟩ was free rfl rfl
  case unsubscribe subscriptionId =>
    simp only [System.unsubscribe] at finished
    split at finished
    · rw [← (Prod.mk.inj finished).1]
      exact leave
    next opened =>
      split at finished <;> rw [← (Prod.mk.inj finished).1]
      · exact leave
      next receiver found =>
        have advanced := unsubscribe_advanced active receiver subscriptionId
        have target : s.target index = some receiver := by
          obtain ⟨_,_⟩ := call
          subst operation holding
          simp [System.target,active,opened,found]
        refine .joined index receiver outcome target rfl (fun thread => ?_) (fun other another => ?_)
          advanced.alike.blocked
        · rw [advanced.inside]
          split
          next here => rw [here,advanced.inside_before,was,Phase.holds]
          · rfl
        · rw [advanced.joins]
          split
          next here =>
            subst here
            simp [advanced.joins_before,holding,eq_comm]
          next apart => simp [apart]
  case close =>
    simp only [System.close] at finished
    split at finished <;> rw [← (Prod.mk.inj finished).1]
    · exact leave
    · exact Advanced.leave ⟨active,rfl,.of_eq rfl⟩ was free rfl rfl

theorem exited_unblocked (exited : s.exited receiver = true) : s.blocked receiver = false := by
  obtain ⟨entry,active,phase⟩ := any_eq_true _ _ |>.mp exited
  simp [System.blocked,active,of_decide_eq_true phase]

theorem join_moved (active : s.calls[index]? = some call) (joined : s.join index call status = some (t,seen)) :
    Moved s t action := by
  cases phase : call.phase <;> simp only [System.join,phase] at joined
  case joining receiver =>
    obtain ⟨exited,left⟩ := ite_none_right_eq_some.mp joined
    cases left
    refine Advanced.leave ⟨active,rfl,.of_eq rfl⟩ (by rw [phase]; rfl) (fun other joining => ?_) rfl rfl
    cases phase.symm.trans joining
    exact exited_unblocked exited
  case draining receivers =>
    have was : call.phase.holds = false := by rw [phase]; rfl
    cases receivers with
    | nil =>
      cases joined
      exact Advanced.outside ⟨active,rfl,.of_eq rfl⟩ was rfl rfl
    | cons =>
      obtain ⟨-,left⟩ := ite_none_right_eq_some.mp joined
      cases left
      exact Advanced.outside ⟨active,rfl,.of_eq rfl⟩ was rfl rfl
  all_goals contradiction

theorem acquire_moved (acquired : step s (.acquire thread) = some (t,seen)) : Moved s t action := by
  cases thread with
  | caller index =>
    simp only [step] at acquired
    split at acquired
    next call free active =>
      obtain ⟨waiting,taken⟩ := ite_none_right_eq_some.mp acquired
      cases taken
      have advanced : Advanced s { s.setCall index call .holding with mutex := some (.caller index) } index call
          .holding := ⟨active,rfl,.of_eq rfl⟩
      refine .taken (.caller index) free rfl (fun other => ?_) (fun other receiver => ?_) (fun _ => id)
      · rw [advanced.inside]
        simp [Phase.holds]
      · rw [advanced.joins]
        split
        next here => simp [here,advanced.joins_before,waiting]
        · rfl
    · contradiction
  | receiver index =>
    simp only [step] at acquired
    split at acquired
    next receiver free active =>
      obtain ⟨waiting,taken⟩ := ite_none_right_eq_some.mp acquired
      cases taken
      have walked : Walked s { s.setReceiver index receiver .holding with mutex := some (.receiver index) } index
          receiver .holding := ⟨active,rfl,rfl⟩
      refine .taken (.receiver index) free rfl (fun other => ?_) walked.joins (walked.blocked_less (by decide))
      rw [walked.inside]
      simp
    · contradiction

theorem step_moved (stepped : step s action = some (t,seen)) : Moved s t action := by
  cases action <;> simp only [step] at stepped
  case call operation =>
    cases stepped
    refine .quiet rfl (fun thread => ?_) (fun index receiver => ?_) (fun _ => rfl)
    · cases thread with
      | caller => exact any_concat _ _ rfl _
      | receiver => rfl
    · exact any_concat _ _ rfl _
  case acquire thread => exact acquire_moved stepped
  case finish thread outcome =>
    cases thread with
    | caller =>
      dsimp only at stepped
      split at stepped
      next call active =>
        obtain ⟨holding,finished⟩ := ite_none_right_eq_some.mp stepped
        exact finish_moved active holding (some.inj finished)
      · contradiction
    | receiver index =>
      dsimp only at stepped
      split at stepped
      next receiver active =>
        obtain ⟨holding,finished⟩ := ite_none_right_eq_some.mp stepped
        cases finished
        have walked : Walked s { s.setReceiver index receiver .callback with mutex := none } index receiver
            .callback := ⟨active,rfl,rfl⟩
        refine .left (.receiver index) (by simp [walked.inside_before,holding]) (by simp) rfl (fun other => ?_)
          (fun other another => ?_) (walked.blocked_less (by decide))
        · rw [walked.inside]
          simp
        · exact id
      · contradiction
  case stop index =>
    split at stepped
    next call active =>
      split at stepped
      next receivers stopping =>
        cases stepped
        exact Advanced.outside ⟨active,rfl,.requestStops receivers rfl⟩ (by rw [stopping]; rfl) rfl rfl
      · contradiction
    · contradiction
  case join index status =>
    split at stepped
    next call active => exact join_moved active stepped
    · contradiction
  case start receiver allocated => exact proceed_moved stepped (by decide) (fun _ => by cases allocated <;> decide)
  case look receiver =>
    exact proceed_moved stepped (by decide) (fun receiver => by cases receiver.stopRequested <;> decide)
  case take receiver taken => exact proceed_moved stepped (by decide) (fun _ => by cases taken <;> decide)
  case publish receiver => exact published_moved stepped
  case resume receiver => exact proceed_moved stepped (by decide) (fun _ => by decide)

theorem Held.moved (held : Held s) (moved : Moved s t action) : Held t := by
  cases moved with
  | quiet mutex inside _ _ | joined _ _ _ _ mutex inside _ _ | published _ mutex inside _ _ =>
    intro thread
    rw [mutex,inside]
    exact held thread
  | taken thread free mutex inside =>
    intro other
    have nobody : s.inside other = false := by
      simpa [free] using (held other).symm
    simp [mutex,inside,nobody,eq_comm]
  | left thread was _ mutex inside =>
    intro other
    have owner := (held thread).mpr was
    by_cases same : other = thread
    · simp [mutex,inside,same]
    · have nobody : s.inside other = false := by
        simpa [owner,Ne.symm same] using (held other).symm
      simp [mutex,inside,nobody]

theorem initial_held : Held initial := by
  intro thread
  cases thread <;> simp [initial,System.inside]

theorem held_reached (ran : system.run initial actions = some (t,history)) : Held t :=
  run_invariant (motive := fun s _ => Held s)
    (fun _ _ _ _ _ held stepped => held.moved (step_moved stepped)) initial_held ran

/-- Nobody waits for a receiver that waits for the mutex. -/
structure Flowing (s : System) : Prop where
  held : Held s
  apart : ∀ index receiver, s.joins index receiver = true → s.blocked receiver = false

theorem Flowing.deadlockFree (flowing : Flowing s) : DeadlockFree s := by
  intro index receiver stuck
  obtain ⟨joins,blocked⟩ := (stuck_iff flowing.held).mp stuck
  simp [flowing.apart index receiver joins] at blocked

theorem Flowing.moved (flowing : Flowing s) (staggered : Staggered s action) (moved : Moved s t action) :
    Flowing t := by
  refine ⟨flowing.held.moved moved,fun index receiver joining => ?_⟩
  have less (was : s.joins index receiver = true) (blocked : t.blocked receiver = true → s.blocked receiver = true) :
      t.blocked receiver = false := by
    by_contra now
    have before := blocked (Bool.not_eq_false _ ▸ now)
    simp [flowing.apart index receiver was] at before
  cases moved with
  | quiet _ _ joins blocked => exact less (joins index receiver ▸ joining) (blocked receiver ▸ id)
  | taken _ _ _ _ joins blocked => exact less (joins index receiver ▸ joining) (blocked receiver)
  | left _ _ _ _ _ joins blocked => exact less (joins index receiver joining) (blocked receiver)
  | joined caller target outcome targeted _ _ joins blocked =>
    rw [joins,Bool.or_eq_true,decide_eq_true_eq] at joining
    rw [blocked]
    rcases joining with old | ⟨rfl,rfl⟩
    · exact flowing.apart index receiver old
    · exact staggered receiver targeted
  | published publisher _ _ joins blocked =>
    rw [joins] at joining
    have apart : receiver ≠ publisher := by
      rintro rfl
      simp [staggered index] at joining
    simp [blocked,apart,flowing.apart index receiver joining]

theorem Stuck.moved (held : Held s) (stuck : Stuck s index receiver) (moved : Moved s t action) :
    Stuck t index receiver := by
  obtain ⟨joining,waiting⟩ := (stuck_iff held).mp stuck
  refine (stuck_iff (held.moved moved)).mpr ?_
  cases moved with
  | quiet _ _ joins blocked => exact ⟨(joins index receiver).trans joining,(blocked receiver).trans waiting⟩
  | taken _ free => simp [stuck.holds] at free
  | left thread was free =>
    have owner := (held thread).mpr was
    rw [stuck.holds] at owner
    simp [free index receiver (some.inj owner).symm joining] at waiting
  | joined _ _ _ _ _ _ joins blocked | published _ _ _ joins blocked => simp [joins,joining,blocked,waiting]

theorem stuck_forever (held : Held s) (stuck : Stuck s index receiver)
    (ran : system.run s actions = some (t,history)) : Stuck t index receiver := by
  refine (run_invariant (motive := fun s _ => Held s ∧ Stuck s index receiver) ?_ ⟨held,stuck⟩ ran).2
  intro s _ action t seen before stepped
  have moved := step_moved stepped
  exact ⟨before.1.moved moved,before.2.moved before.1 moved⟩

theorem target_joined (targeted : s.target index = some receiver)
    (stepped : step s (.finish (.caller index) outcome) = some (t,seen)) :
    t.joins index receiver = true ∧ t.blocked receiver = s.blocked receiver := by
  simp only [System.target] at targeted
  split at targeted
  next subscriptionId active =>
    split at targeted
    · contradiction
    next opened =>
      simp only [step,active,System.finish,System.unsubscribe,opened,targeted] at stepped
      cases stepped
      have advanced := unsubscribe_advanced active receiver subscriptionId
      exact ⟨by simp [advanced.joins],advanced.alike.blocked receiver⟩
  · contradiction

theorem staggered_of_deadlockFree (held : Held s) (stepped : step s action = some (t,seen))
    (free : DeadlockFree t) : Staggered s action := by
  have later : Held t := held.moved (step_moved stepped)
  cases action <;> try trivial
  case finish thread outcome =>
    cases thread with
    | caller index =>
      intro receiver targeted
      obtain ⟨joins,blocked⟩ := target_joined targeted stepped
      rw [← blocked,← Bool.not_eq_true]
      exact fun waiting => free index receiver ((stuck_iff later).mpr ⟨joins,waiting⟩)
    | receiver => trivial
  case publish receiver =>
    intro index
    rw [← Bool.not_eq_true]
    intro joining
    obtain ⟨_,-,-,walked⟩ := proceed_walked stepped
    exact free index receiver ((stuck_iff later).mpr ⟨walked.joins index receiver ▸ joining,by simp [walked.blocked]⟩)

/-- The operations and the callbacks never wait for each other exactly when no `Unsubscribe`
overlaps a callback's `Publish`. -/
theorem deadlock_free_iff_staggered (ran : system.run initial actions = some (t,history)) :
    system.Throughout DeadlockFree initial actions ↔ system.Along Staggered initial actions := by
  have start : Flowing initial := ⟨initial_held,fun index receiver joins => by simp [initial,System.joins] at joins⟩
  refine throughout_iff_along (fun s flowing => flowing.deadlockFree) ?_ ?_ start ran
  · intro s action t seen flowing staggered stepped
    exact flowing.moved staggered (step_moved stepped)
  · intro s action t seen flowing stepped free
    exact staggered_of_deadlockFree flowing.held stepped free

def accepted : Outcome := ⟨.success,.started,.stored⟩

/-- A subscription whose callback runs. -/
def calledBack : List Action :=
  [.call .subscribe,.acquire (.caller 0),.finish (.caller 0) accepted,.start 0 true,.look 0,.take 0 .accepted]

/-- The callback publishes and returns, and then the subscription goes. -/
def oneAfterTheOther : List Action :=
  calledBack ++ [.publish 0,.acquire (.receiver 0),.finish (.receiver 0) accepted,.resume 0,
    .call (.unsubscribe 1),.acquire (.caller 1),.finish (.caller 1) accepted,.look 0,.join 1 .success]

theorem deadlock_free_sample : ∃ t,
    system.run initial oneAfterTheOther =
      some (t,[.subscribed 0 1,.published 0 .success,.returned 1 .success]) ∧
    system.Throughout DeadlockFree initial oneAfterTheOther := by
  obtain ⟨t,ran⟩ : ∃ t, system.run initial oneAfterTheOther =
      some (t,[.subscribed 0 1,.published 0 .success,.returned 1 .success]) := ⟨_,rfl⟩
  refine ⟨t,ran,(deadlock_free_iff_staggered ran).mpr ?_⟩
  have go {s t : System} {action : Action} {seen : List Event} {rest : List Action}
      (stepped : system.step s action = some (t,seen)) (guarded : Staggered s action)
      (along : system.Along Staggered t rest) : system.Along Staggered s (action :: rest) :=
    (along_cons stepped).mpr ⟨guarded,along⟩
  refine go rfl trivial (go rfl trivial (go rfl (fun _ targeted => nomatch targeted) ?_))
  refine go rfl trivial (go rfl trivial (go rfl trivial (go rfl (fun index => by cases index <;> rfl) ?_)))
  refine go rfl trivial (go rfl trivial (go rfl trivial (go rfl trivial (go rfl trivial ?_))))
  refine go rfl (fun receiver targeted => ?_) (go rfl trivial (go rfl trivial trivial))
  obtain rfl : 0 = receiver := some.inj targeted
  rfl

/-- The callback comes to the mutex while `Unsubscribe` joins its thread: both wait for ever. -/
theorem unsubscribe_deadlocks : ∃ s history,
    system.run initial (calledBack ++ [.call (.unsubscribe 1),.acquire (.caller 1),
      .finish (.caller 1) accepted,.publish 0]) = some (s,history) ∧ Stuck s 1 0 ∧
    ∀ actions t later, system.run s actions = some (t,later) → Stuck t 1 0 := by
  obtain ⟨s,history,ran,joins,blocked⟩ : ∃ s history,
      system.run initial (calledBack ++ [.call (.unsubscribe 1),.acquire (.caller 1),
        .finish (.caller 1) accepted,.publish 0]) = some (s,history) ∧
      s.joins 1 0 = true ∧ s.blocked 0 = true := ⟨_,_,rfl,rfl,rfl⟩
  have held := held_reached ran
  have stuck : Stuck s 1 0 := (stuck_iff held).mpr ⟨joins,blocked⟩
  exact ⟨s,history,ran,stuck,fun _ _ _ continued => stuck_forever held stuck continued⟩

end AutoRuntime.DdsTransport
