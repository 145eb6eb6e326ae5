import AutoRuntime.Machine
import AutoRuntime.Pool

/-! Who destroys a subscription. The application's handles own its state; the receiver thread
of the transport and the workers of the executor hold weak references and lock them for the
length of one call. Whoever lets go last runs the destructor, whose `Close` unsubscribes and
joins the receiver. -/
namespace AutoRuntime.Ownership

/-- The transports whose `Unsubscribe` joins the receiver. Only FastIPC takes the callback
away first. -/
inductive TransportKind where
  | fastIpc | dds
  deriving DecidableEq, Repr

inductive Thread where
  | application | worker | receiver
  deriving DecidableEq, Repr

/-- Where the receive loop stands: at the stop flag, in the channel, with a message and the
callback, in `Accept` with a locked reference, in the destructor, or past its end. -/
inductive ReceiverPhase where
  | checking | receiving | calling | accepting | destroying | exited
  deriving DecidableEq, Repr

/-- The task of the subscription on an executor worker: before `weak.lock()`, in `ProcessOne`
with a locked reference, or over. -/
inductive WorkerPhase where
  | started | processing | returned
  deriving DecidableEq, Repr

/-- The stages of `Close`; those from `unsubscribing` to `joining` are in the transport. -/
inductive Stage where
  | closing | unsubscribing | clearing | stopping | joining | cancelling | done
  deriving DecidableEq, Repr

/-- A `Close` in progress; an explicit one is called through a handle. -/
structure Closer where
  thread : Thread
  explicit : Bool
  stage : Stage
  deriving DecidableEq, Repr

structure System where
  kind : TransportKind
  handles : Nat
  receiver : ReceiverPhase
  workers : List WorkerPhase
  closers : List Closer
  closed : Bool
  subscribed : Bool
  callback : Bool
  stopRequested : Bool
  deriving DecidableEq, Repr

/-- As `CreateSubscriber` or `CreateLoanedSubscriber` leaves it: one handle, and a receiver. -/
def created (kind : TransportKind) : System := ⟨kind,1,.checking,[],[],false,true,true,false⟩

def WorkerPhase.holds (phase : WorkerPhase) : Bool := phase = .processing

/-- The references that are not the receiver's. -/
def System.others (s : System) : Nat := s.handles + s.workers.countP WorkerPhase.holds

def System.references (s : System) : Nat := s.others + (decide (s.receiver = .accepting)).toNat

/-- The handles that an explicit `Close` is being called through. -/
def System.pinned (s : System) : Nat :=
  s.closers.countP fun closer => closer.explicit && closer.stage != .done

inductive Event where
  | destroyed (thread : Thread)
  | unsubscribed (thread : Thread)
  deriving DecidableEq, Repr

/-- What a look into the channel brings. -/
inductive Arrival where
  | nothing | message | closed
  deriving DecidableEq, Repr

inductive Action where
  | copy
  | drop
  | close
  | look
  | receive (arrival : Arrival)
  | lock
  | release
  | dispatch
  | workerLock (worker : Nat)
  | workerRelease (worker : Nat)
  | advance (closer : Nat)
  | shutdown
  deriving DecidableEq, Repr

/-- A thread has let go of its reference; the last one runs the destructor. -/
def System.letGo (s : System) (thread : Thread) : System × List Event :=
  if s.references = 0 then
    ({ s with
      receiver := if thread = .receiver then .destroying else s.receiver
      closers := s.closers ++ [⟨thread,false,.closing⟩] },[.destroyed thread])
  else (s,[])

def System.setStage (s : System) (index : Nat) (closer : Closer) (stage : Stage) : System :=
  { s with closers := s.closers.set index { closer with stage := stage } }

/-- The next stage of a `Close`. A join waits for the end of the receive loop. -/
def System.advance (s : System) (index : Nat) (closer : Closer) : Option (System × List Event) :=
  match closer.stage with
  | .closing =>
    if s.closed then some (s.setStage index closer .done,[])
    else some ({ s.setStage index closer .unsubscribing with closed := true },[])
  | .unsubscribing =>
    if s.subscribed then
      let next : Stage := if s.kind = .fastIpc then .clearing else .stopping
      some ({ s.setStage index closer next with subscribed := false },[.unsubscribed closer.thread])
    else some (s.setStage index closer .cancelling,[.unsubscribed closer.thread])
  | .clearing => some ({ s.setStage index closer .stopping with callback := false },[])
  | .stopping => some ({ s.setStage index closer .joining with stopRequested := true },[])
  | .joining => if s.receiver = .exited then some (s.setStage index closer .cancelling,[]) else none
  | .cancelling =>
    some ({ s.setStage index closer .done with
      receiver := if closer.thread = .receiver then .checking else s.receiver },[])
  | .done => none

def step (s : System) : Action → Option (System × List Event)
  | .copy => if s.handles > 0 then some ({ s with handles := s.handles + 1 },[]) else none
  | .drop =>
    if s.handles > s.pinned then some ({ s with handles := s.handles - 1 }.letGo .application) else none
  | .close =>
    if s.handles > s.pinned then
      some ({ s with closers := s.closers ++ [⟨.application,true,.closing⟩] },[])
    else none
  | .look =>
    if s.receiver = .checking then
      some ({ s with receiver := if s.stopRequested then .exited else .receiving },[])
    else none
  | .receive arrival =>
    if s.receiver = .receiving then
      match arrival with
      | .nothing => some ({ s with receiver := .checking },[])
      | .message =>
        let found := s.kind = .dds ∨ s.callback = true
        some ({ s with receiver := if found then .calling else .checking },[])
      | .closed =>
        if s.kind = .fastIpc ∧ s.stopRequested = true then some ({ s with receiver := .exited },[]) else none
    else none
  | .lock =>
    if s.receiver = .calling then
      some ({ s with receiver := if s.references > 0 then .accepting else .checking },[])
    else none
  | .release =>
    if s.receiver = .accepting then some ({ s with receiver := .checking }.letGo .receiver) else none
  | .dispatch => some ({ s with workers := s.workers ++ [.started] },[])
  | .workerLock worker =>
    if s.workers[worker]? = some .started then
      let next : WorkerPhase := if s.references > 0 then .processing else .returned
      some ({ s with workers := s.workers.set worker next },[])
    else none
  | .workerRelease worker =>
    if s.workers[worker]? = some .processing then
      some ({ s with workers := s.workers.set worker .returned }.letGo .worker)
    else none
  | .advance index =>
    match s.closers[index]? with
    | none => none
    | some closer => s.advance index closer
  | .shutdown => some ({ s with subscribed := false, stopRequested := true },[])

def system : Machine System Action Event := ⟨step⟩

/-- The receiver neither destroys the subscription nor calls `Unsubscribe` for it. -/
def ReceiverSpared (history : List Event) : Prop :=
  .destroyed .receiver ∉ history ∧ .unsubscribed .receiver ∉ history

/-- Nobody else lets go of the last other reference while the receiver is in `Accept`. -/
def Apart (s : System) : Action → Prop
  | .drop | .workerRelease _ => s.others = 1 → s.receiver ≠ .accepting
  | _ => True

/-- In `Accept` the receiver is not alone, and no `Close` is the receiver's. -/
structure Covered (s : System) (history : List Event) : Prop where
  accepting : s.receiver = .accepting → 0 < s.others
  closers : ∀ closer ∈ s.closers, closer.thread ≠ .receiver
  spared : ReceiverSpared history

theorem ReceiverSpared.extend (spared : ReceiverSpared history)
    (foreign : ReceiverSpared seen) : ReceiverSpared (history ++ seen) := by
  simpa [ReceiverSpared,spared.1,spared.2] using foreign

theorem spared_nil : ReceiverSpared [] := by simp [ReceiverSpared]

theorem Covered.letGo (covered : Covered s history) (thread : Thread) (foreign : thread ≠ .receiver) :
    Covered (s.letGo thread).1 (history ++ (s.letGo thread).2) := by
  simp only [System.letGo]
  split
  · refine ⟨fun accepting => covered.accepting (by simpa using accepting),
      fun closer member => ?_,covered.spared.extend ?_⟩
    · rcases List.mem_append.mp member with old | new
      · exact covered.closers closer old
      · rw [List.mem_singleton.mp new]
        exact foreign
    · simpa [ReceiverSpared] using Ne.symm foreign
  · simpa using covered

theorem Covered.setStage (covered : Covered s history) (active : s.closers[index]? = some closer)
    (stage : Stage) : ∀ other ∈ (s.setStage index closer stage).closers, other.thread ≠ .receiver := by
  intro other member
  rcases List.mem_or_eq_of_mem_set member with old | rfl
  · exact covered.closers other old
  · exact covered.closers closer (List.mem_of_getElem? active)

theorem Covered.advance (covered : Covered s history) (active : s.closers[index]? = some closer)
    (advanced : s.advance index closer = some (t,seen)) : Covered t (history ++ seen) := by
  have foreign := covered.closers closer (List.mem_of_getElem? active)
  have closers := covered.setStage active
  have unsubscribed : ReceiverSpared [.unsubscribed closer.thread] := by
    simpa [ReceiverSpared] using Ne.symm foreign
  cases stage : closer.stage <;> simp only [System.advance,stage] at advanced
  case closing =>
    split at advanced <;> cases advanced <;>
      exact ⟨covered.accepting,closers _,covered.spared.extend spared_nil⟩
  case unsubscribing =>
    split at advanced <;> cases advanced <;>
      exact ⟨covered.accepting,closers _,covered.spared.extend unsubscribed⟩
  case joining =>
    split at advanced
    · cases advanced
      exact ⟨covered.accepting,closers _,covered.spared.extend spared_nil⟩
    · contradiction
  case cancelling =>
    cases advanced
    exact ⟨fun accepting => covered.accepting (by simpa [foreign] using accepting),closers _,
      covered.spared.extend spared_nil⟩
  case done => contradiction
  all_goals
    cases advanced
    exact ⟨covered.accepting,closers _,covered.spared.extend spared_nil⟩

theorem others_set {s : System} {old : WorkerPhase} (active : s.workers[worker]? = some old)
    (new : WorkerPhase) :
    ({ s with workers := s.workers.set worker new } : System).others + old.holds.toNat =
      s.others + new.holds.toNat := by
  have counted := Pool.countP_set WorkerPhase.holds s.workers active new
  simp only [System.others]
  omega

section

variable (covered : Covered s history)

include covered

theorem Covered.move (closers : t.closers = s.closers) (accepting : t.receiver = .accepting → 0 < t.others) :
    Covered t (history ++ []) :=
  ⟨accepting,by simpa [closers] using covered.closers,covered.spared.extend spared_nil⟩

theorem Covered.fewer (apart : s.others = 1 → s.receiver ≠ .accepting) (receiver : t.receiver = s.receiver)
    (closers : t.closers = s.closers) (fewer : s.others ≤ t.others + 1) : Covered t history := by
  refine ⟨fun accepting => ?_,closers ▸ covered.closers,covered.spared⟩
  rw [receiver] at accepting
  have several : s.others ≠ 1 := fun last => apart last accepting
  have present := covered.accepting accepting
  omega

theorem Covered.receive (calling : phase ≠ .accepting) : Covered { s with receiver := phase } (history ++ []) :=
  covered.move rfl fun accepting => absurd accepting calling

/-- The receiver comes out of `Accept`, and somebody else still holds a reference. -/
theorem Covered.release (accepting : s.receiver = .accepting)
    (gone : { s with receiver := .checking }.letGo .receiver = (t,seen)) : Covered t (history ++ seen) := by
  have present := covered.accepting accepting
  have alive : ({ s with receiver := .checking } : System).references ≠ 0 := Nat.ne_of_gt present
  simp only [System.letGo,if_neg alive] at gone
  obtain ⟨rfl,rfl⟩ := gone
  exact covered.receive (by simp)

theorem Covered.step (apart : Apart s action) (stepped : Ownership.step s action = some (t,seen)) :
    Covered t (history ++ seen) := by
  cases action <;> simp only [Ownership.step,Option.ite_none_right_eq_some,Option.some.injEq] at stepped
  case copy =>
    obtain ⟨present,rfl,rfl⟩ := stepped
    exact covered.move rfl fun accepting => Nat.lt_of_lt_of_le present (by simp [System.others]; omega)
  case drop =>
    obtain ⟨owned,gone⟩ := stepped
    have left : Covered { s with handles := s.handles - 1 } history :=
      covered.fewer apart rfl rfl (by simp only [System.others]; omega)
    have after := left.letGo .application (by decide)
    rwa [gone] at after
  case close =>
    obtain ⟨-,rfl,rfl⟩ := stepped
    refine ⟨covered.accepting,fun closer member => ?_,covered.spared.extend spared_nil⟩
    rcases List.mem_append.mp member with old | new
    · exact covered.closers closer old
    · rw [List.mem_singleton.mp new]
      decide
  case look =>
    obtain ⟨-,rfl,rfl⟩ := stepped
    exact covered.receive (by split <;> simp)
  case receive arrival =>
    obtain ⟨-,received⟩ := stepped
    cases arrival <;> simp only [Option.ite_none_right_eq_some] at received
    case nothing =>
      obtain ⟨rfl,rfl⟩ := received
      exact covered.receive (by simp)
    case message =>
      obtain ⟨rfl,rfl⟩ := received
      exact covered.receive (by split <;> simp)
    case closed =>
      obtain ⟨-,rfl,rfl⟩ := received
      exact covered.receive (by simp)
  case lock =>
    obtain ⟨calling,rfl,rfl⟩ := stepped
    refine covered.move rfl fun accepting => ?_
    split at accepting
    next alive => simpa [System.references,System.others,calling] using alive
    · contradiction
  case release =>
    obtain ⟨accepting,gone⟩ := stepped
    exact covered.release accepting gone
  case dispatch =>
    obtain ⟨rfl,rfl⟩ := stepped
    refine covered.move rfl fun accepting => ?_
    simpa [System.others,WorkerPhase.holds] using covered.accepting accepting
  case workerLock worker =>
    obtain ⟨started,rfl,rfl⟩ := stepped
    refine covered.move rfl fun accepting => ?_
    have present := covered.accepting accepting
    have more := others_set started (if s.references > 0 then .processing else .returned)
    have idle : WorkerPhase.started.holds.toNat = 0 := rfl
    omega
  case workerRelease worker =>
    obtain ⟨processing,gone⟩ := stepped
    have fewer : ({ s with workers := s.workers.set worker .returned } : System).others + 1 = s.others :=
      others_set processing .returned
    have left : Covered { s with workers := s.workers.set worker .returned } history :=
      covered.fewer apart rfl rfl (Nat.le_of_eq fewer.symm)
    have after := left.letGo .worker (by decide)
    rwa [gone] at after
  case advance index =>
    split at stepped
    · contradiction
    next closer active => exact covered.advance active stepped
  case shutdown =>
    obtain ⟨rfl,rfl⟩ := stepped
    exact covered.move rfl covered.accepting

end

/-- In a run where nobody else lets go of the last other reference during an `Accept`, the
receiver thread never runs the destructor and never unsubscribes itself. -/
theorem receiver_spared (along : system.Along Apart (created kind) actions)
    (ran : system.run (created kind) actions = some (t,history)) : ReceiverSpared history := by
  have covered := Machine.run_along (motive := Covered)
    (fun _ _ _ _ _ held apart stepped => held.step apart stepped)
    ⟨by simp [created],by simp [created],spared_nil⟩ along ran
  exact covered.spared

/-- A message is accepted, and the handle is dropped afterwards. -/
def sampleQuiet : List Action := [.look,.receive .message,.lock,.release,.drop,.advance 0,.advance 0]

theorem receiver_spared_sample : ∃ t history,
    system.run (created .fastIpc) sampleQuiet = some (t,history) ∧
    history = [.destroyed .application,.unsubscribed .application] ∧ ReceiverSpared history := by
  have ran : system.run (created .fastIpc) sampleQuiet = some _ := rfl
  refine ⟨_,_,ran,rfl,receiver_spared ?_ ran⟩
  iterate 4
    refine ⟨trivial,fun t seen stepped => ?_⟩
    cases stepped
  refine ⟨fun _ => by decide,fun t seen stepped => ?_⟩
  cases stepped
  iterate 2
    refine ⟨trivial,fun t seen stepped => ?_⟩
  trivial

/-- The handle is dropped while the receiver is in `Accept`. -/
def sampleOverlap : List Action := [.look,.receive .message,.lock,.drop,.release]

/-- The receiver then destroys the subscription, unsubscribes itself and waits for its own end. -/
theorem receiver_joins_itself :
    (∃ t history, system.run (created .fastIpc) (sampleOverlap ++ List.replicate 4 (.advance 0)) =
        some (t,history) ∧ history = [.destroyed .receiver,.unsubscribed .receiver] ∧
      t.receiver = .destroying ∧ t.closers = [⟨.receiver,false,.joining⟩] ∧ step t (.advance 0) = none) ∧
    (∃ t history, system.run (created .dds) (sampleOverlap ++ List.replicate 3 (.advance 0)) =
        some (t,history) ∧ history = [.destroyed .receiver,.unsubscribed .receiver] ∧
      t.receiver = .destroying ∧ t.closers = [⟨.receiver,false,.joining⟩] ∧ step t (.advance 0) = none) :=
  ⟨⟨_,_,rfl,rfl,rfl,rfl,rfl⟩,⟨_,_,rfl,rfl,rfl,rfl,rfl⟩⟩

end AutoRuntime.Ownership
