import AutoRuntime.Custody
import AutoRuntime.Machine
import AutoRuntime.Message

/-! Loans and samples. `TransportPublisherLoan` and `TransportSubscriberSample` own a backend
through a `unique_ptr` and can be moved but not copied; `PublisherLoan` wraps the first. A
backend is spoken to for the last time by `Publish`, `Abandon` or `Release`. -/
namespace AutoRuntime.Loan

open List Option Pool

inductive Event (β γ : Type) where
  | published (backend : β) (envelope : MessageEnvelope)
  | abandoned (backend : β)
  | released (backend : γ)
  deriving DecidableEq, Repr

inductive Backend (β γ : Type) where
  | publisher (backend : β)
  | subscriber (backend : γ)
  deriving DecidableEq, Repr

/-- The backend that an event reaches. -/
def Event.backend : Event β γ → Backend β γ
  | .published backend _ | .abandoned backend => .publisher backend
  | .released backend => .subscriber backend

/-- A call that uses the handle up. Without a backend it is answered at once; otherwise the
backend is moved into a local, receives the call and dies with it. -/
def consume (backend : Option α) (empty answer : Status) (call : α → ε) : Option α × Status × List ε :=
  match backend with
  | none => (none,empty,[])
  | some owned => (none,answer,[call owned])

structure TransportPublisherLoan (β : Type) where
  backend : Option β := none
  deriving DecidableEq, Repr

namespace TransportPublisherLoan

def publish (loan : TransportPublisherLoan β) (envelope : MessageEnvelope) (answer : Status) :
    TransportPublisherLoan β × Status × List (Event β γ) :=
  let (backend,status,calls) :=
    consume loan.backend ⟨.closed,"publisher loan is empty"⟩ answer fun owned => .published owned envelope
  (⟨backend⟩,status,calls)

def abandon (loan : TransportPublisherLoan β) (answer : Status) :
    TransportPublisherLoan β × Status × List (Event β γ) :=
  let (backend,status,calls) := consume loan.backend .success answer .abandoned
  (⟨backend⟩,status,calls)

/-- The new handle and what is left of the source. -/
def moveConstruct (source : TransportPublisherLoan β) : TransportPublisherLoan β × TransportPublisherLoan β :=
  (⟨source.backend⟩,⟨none⟩)

/-- The assignment of another handle. -/
def moveAssign (target source : TransportPublisherLoan β) (answer : Status) :
    TransportPublisherLoan β × TransportPublisherLoan β × List (Event β γ) :=
  let (_,_,calls) := target.abandon answer
  (⟨source.backend⟩,⟨none⟩,calls)

/-- The destructor. -/
def destroy (loan : TransportPublisherLoan β) (answer : Status) : List (Event β γ) := (loan.abandon answer).2.2

end TransportPublisherLoan

structure PublisherLoan (β : Type) where
  loan : TransportPublisherLoan β := {}
  envelope : MessageEnvelope := {}
  deriving DecidableEq, Repr

namespace PublisherLoan

/-- The constructor takes the loan by value and moves it on; its parameter dies empty. -/
def construct (parameter : TransportPublisherLoan β) (envelope : MessageEnvelope) (answer : Status) :
    PublisherLoan β × List (Event β γ) :=
  let (loan,left) := parameter.moveConstruct
  (⟨loan,envelope⟩,left.destroy answer)

def publish (loan : PublisherLoan β) (now : UInt64) (answer : Status) :
    PublisherLoan β × Status × List (Event β γ) :=
  if loan.loan.backend.isNone then (loan,⟨.closed,"publisher loan is empty"⟩,[])
  else
    let envelope := { loan.envelope with publishTimestampNs := now }
    let (inner,status,calls) := loan.loan.publish envelope answer
    (⟨inner,envelope⟩,status,calls)

def abandon (loan : PublisherLoan β) (answer : Status) : PublisherLoan β × Status × List (Event β γ) :=
  let (inner,status,calls) := loan.loan.abandon answer
  ({ loan with loan := inner },status,calls)

def moveConstruct (source : PublisherLoan β) : PublisherLoan β × PublisherLoan β :=
  let (loan,left) := source.loan.moveConstruct
  (⟨loan,source.envelope⟩,⟨left,source.envelope⟩)

def moveAssign (target source : PublisherLoan β) (answer : Status) :
    PublisherLoan β × PublisherLoan β × List (Event β γ) :=
  let (loan,left,calls) := target.loan.moveAssign source.loan answer
  (⟨loan,source.envelope⟩,⟨left,source.envelope⟩,calls)

def destroy (loan : PublisherLoan β) (answer : Status) : List (Event β γ) := loan.loan.destroy answer

end PublisherLoan

structure TransportSubscriberSample (γ : Type) where
  envelope : MessageEnvelope := {}
  backend : Option γ := none
  deriving DecidableEq, Repr

namespace TransportSubscriberSample

def release (sample : TransportSubscriberSample γ) (answer : Status) :
    TransportSubscriberSample γ × Status × List (Event β γ) :=
  let (backend,status,calls) := consume sample.backend .success answer .released
  ({ sample with backend := backend },status,calls)

def moveConstruct (source : TransportSubscriberSample γ) :
    TransportSubscriberSample γ × TransportSubscriberSample γ :=
  (⟨source.envelope,source.backend⟩,⟨source.envelope,none⟩)

def moveAssign (target source : TransportSubscriberSample γ) (answer : Status) :
    TransportSubscriberSample γ × TransportSubscriberSample γ × List (Event β γ) :=
  let (_,_,calls) := target.release answer
  (⟨source.envelope,source.backend⟩,⟨source.envelope,none⟩,calls)

def destroy (sample : TransportSubscriberSample γ) (answer : Status) : List (Event β γ) :=
  (sample.release answer).2.2

end TransportSubscriberSample

/-- A handle of one of the three classes. -/
inductive Handle (β γ : Type) where
  | transportLoan (loan : TransportPublisherLoan β)
  | publisherLoan (loan : PublisherLoan β)
  | subscriberSample (sample : TransportSubscriberSample γ)
  deriving DecidableEq, Repr

namespace Handle

def backend : Handle β γ → Option (Backend β γ)
  | .transportLoan loan => loan.backend.map .publisher
  | .publisherLoan loan => loan.loan.backend.map .publisher
  | .subscriberSample sample => sample.backend.map .subscriber

/-- The member functions that use a handle up. -/
inductive Call where
  | publish (envelope : MessageEnvelope)
  | publishNow (now : UInt64)
  | abandon
  | release
  deriving DecidableEq, Repr

def call (answer : Status) : Handle β γ → Call → Option (Handle β γ × Status × List (Event β γ))
  | .transportLoan loan, .publish envelope =>
    let (left,status,calls) := loan.publish envelope answer
    some (.transportLoan left,status,calls)
  | .transportLoan loan, .abandon =>
    let (left,status,calls) := loan.abandon answer
    some (.transportLoan left,status,calls)
  | .publisherLoan loan, .publishNow now =>
    let (left,status,calls) := loan.publish now answer
    some (.publisherLoan left,status,calls)
  | .publisherLoan loan, .abandon =>
    let (left,status,calls) := loan.abandon answer
    some (.publisherLoan left,status,calls)
  | .subscriberSample sample, .release =>
    let (left,status,calls) := sample.release answer
    some (.subscriberSample left,status,calls)
  | _, _ => none

def moveConstruct : Handle β γ → Handle β γ × Handle β γ
  | .transportLoan source =>
    let (new,left) := source.moveConstruct
    (.transportLoan new,.transportLoan left)
  | .publisherLoan source =>
    let (new,left) := source.moveConstruct
    (.publisherLoan new,.publisherLoan left)
  | .subscriberSample source =>
    let (new,left) := source.moveConstruct
    (.subscriberSample new,.subscriberSample left)

/-- Only handles of one class can be assigned to each other. -/
def moveAssign (answer : Status) : Handle β γ → Handle β γ → Option (Handle β γ × Handle β γ × List (Event β γ))
  | .transportLoan target, .transportLoan source =>
    let (new,left,calls) := target.moveAssign source answer
    some (.transportLoan new,.transportLoan left,calls)
  | .publisherLoan target, .publisherLoan source =>
    let (new,left,calls) := target.moveAssign source answer
    some (.publisherLoan new,.publisherLoan left,calls)
  | .subscriberSample target, .subscriberSample source =>
    let (new,left,calls) := target.moveAssign source answer
    some (.subscriberSample new,.subscriberSample left,calls)
  | _, _ => none

def destroy (answer : Status) : Handle β γ → List (Event β γ)
  | .transportLoan loan => loan.destroy answer
  | .publisherLoan loan => loan.destroy answer
  | .subscriberSample sample => sample.destroy answer

end Handle

/-- The program's handles, by number; a destroyed one leaves an empty place. A `unique_ptr`
brings a backend that has never been in another, so the backends are kept that have been. -/
structure System (β γ : Type) where
  handles : List (Option (Handle β γ)) := []
  backends : List (Backend β γ) := []
  deriving DecidableEq, Repr

/-- The numbers are those of the handles involved; `answer` is the status that a backend gives
if the operation reaches one. -/
inductive Action (β γ : Type) where
  | construct (handle : Handle β γ)
  | wrap (source : Nat) (envelope : MessageEnvelope) (answer : Status)
  | moveConstruct (source : Nat)
  | moveAssign (target source : Nat) (answer : Status)
  | call (handle : Nat) (call : Handle.Call) (answer : Status)
  | destroy (handle : Nat) (answer : Status)
  deriving DecidableEq, Repr

/-- The handle that an operation is called on. -/
def Action.subject : Action β γ → Option Nat
  | .construct _ | .wrap _ _ _ | .moveConstruct _ => none
  | .moveAssign target _ _ => some target
  | .call handle _ _ | .destroy handle _ => some handle

def System.owned (s : System β γ) : List (Backend β γ) := s.handles.filterMap (·.bind Handle.backend)

/-- A live handle. -/
def System.handle (s : System β γ) (index : Nat) : Option (Handle β γ) := s.handles[index]?.join

section Step

variable [DecidableEq β] [DecidableEq γ]

/-- An operation on a handle that does not exist, or on the wrong class, is no operation. -/
def step (s : System β γ) : Action β γ → Option (System β γ × List (Event β γ))
  | .construct handle =>
    if handle.backend.all fun backend => decide (backend ∉ s.backends) then
      some (⟨s.handles ++ [some handle],s.backends ++ handle.backend.toList⟩,[])
    else none
  | .wrap source envelope answer =>
    match s.handle source with
    | some (.transportLoan loan) =>
      let (parameter,left) := loan.moveConstruct
      let (new,calls) := PublisherLoan.construct parameter envelope answer
      some ({ s with
        handles := s.handles.set source (some (.transportLoan left)) ++ [some (.publisherLoan new)] },calls)
    | _ => none
  | .moveConstruct source =>
    match s.handle source with
    | some handle =>
      let (new,left) := handle.moveConstruct
      some ({ s with handles := s.handles.set source (some left) ++ [some new] },[])
    | none => none
  | .moveAssign target source answer =>
    match s.handle target, s.handle source with
    | some first, some second =>
      if target = source then some (s,[])
      else match first.moveAssign answer second with
        | some (new,left,calls) =>
          some ({ s with handles := (s.handles.set target (some new)).set source (some left) },calls)
        | none => none
    | _, _ => none
  | .call index call answer =>
    match s.handle index with
    | some handle =>
      match handle.call answer call with
      | some (left,_,calls) => some ({ s with handles := s.handles.set index (some left) },calls)
      | none => none
    | none => none
  | .destroy index answer =>
    match s.handle index with
    | some handle => some ({ s with handles := s.handles.set index none },handle.destroy answer)
    | none => none

def system (β γ : Type) [DecidableEq β] [DecidableEq γ] : Machine (System β γ) (Action β γ) (Event β γ) := ⟨step⟩

end Step

namespace Handle

theorem moveConstruct_backend (handle : Handle β γ) :
    handle.moveConstruct.1.backend = handle.backend ∧ handle.moveConstruct.2.backend = none := by
  cases handle <;> exact ⟨rfl,rfl⟩

theorem call_backend {handle left : Handle β γ} {operation : Call}
    (called : handle.call answer operation = some (left,status,calls)) :
    left.backend = none ∧ calls.map Event.backend = handle.backend.toList := by
  cases handle with
  | transportLoan loan =>
    obtain ⟨_ | owned⟩ := loan <;> cases operation <;> cases called <;> exact ⟨rfl,rfl⟩
  | publisherLoan loan =>
    obtain ⟨⟨_ | owned⟩,envelope⟩ := loan <;> cases operation <;> cases called <;> exact ⟨rfl,rfl⟩
  | subscriberSample sample =>
    obtain ⟨envelope,_ | owned⟩ := sample <;> cases operation <;> cases called <;> exact ⟨rfl,rfl⟩

theorem destroy_backend (handle : Handle β γ) (answer : Status) :
    (handle.destroy answer).map Event.backend = handle.backend.toList := by
  cases handle with
  | transportLoan loan => obtain ⟨_ | owned⟩ := loan <;> rfl
  | publisherLoan loan => obtain ⟨⟨_ | owned⟩,envelope⟩ := loan <;> rfl
  | subscriberSample sample => obtain ⟨envelope,_ | owned⟩ := sample <;> rfl

theorem moveAssign_backend {target source new left : Handle β γ}
    (assigned : target.moveAssign answer source = some (new,left,calls)) :
    new.backend = source.backend ∧ left.backend = none ∧ calls = target.destroy answer := by
  cases target with
  | transportLoan | publisherLoan | subscriberSample =>
    cases source <;> cases assigned
    exact ⟨rfl,rfl,rfl⟩

end Handle

theorem handle_place {s : System β γ} (live : s.handle index = some handle) :
    s.handles[index]? = some (some handle) := by
  simpa [System.handle,join_eq_some_iff] using live

section Runs

variable [DecidableEq β] [DecidableEq γ]

/-- What an operation can do to the handles: a new one comes with a backend of its own, a new one
takes a backend over from another, one takes over after its own backend has had its last call,
or one is left empty by the call. -/
inductive Took (s : System β γ) : System β γ → List (Event β γ) → Prop
  | constructed : (∀ backend ∈ handle.backend, backend ∉ s.backends) →
      Took s ⟨s.handles ++ [some handle],s.backends ++ handle.backend.toList⟩ []
  | moved {source : Nat} : s.handles[source]? = some (some old) → left.backend = none → new.backend = old.backend →
      Took s { s with handles := s.handles.set source (some left) ++ [some new] } []
  | itself : Took s s []
  | assigned {target source : Nat} : target ≠ source → s.handles[target]? = some (some first) →
      s.handles[source]? = some (some second) → new.backend = second.backend → left.backend = none →
      calls.map Event.backend = first.backend.toList →
      Took s { s with handles := (s.handles.set target (some new)).set source (some left) } calls
  | used {index : Nat} : s.handles[index]? = some (some old) → place.bind Handle.backend = none →
      calls.map Event.backend = old.backend.toList →
      Took s { s with handles := s.handles.set index place } calls

theorem step_took {s t : System β γ} (stepped : step s action = some (t,seen)) : Took s t seen := by
  cases action with
  | construct =>
    simp only [step] at stepped
    split at stepped
    next fresh =>
      cases stepped
      refine .constructed fun backend owned known => ?_
      simp [mem_def.mp owned,known] at fresh
    next => contradiction
  | wrap =>
    simp only [step] at stepped
    split at stepped
    next loan live =>
      cases stepped
      exact .moved (handle_place live) rfl rfl
    next => contradiction
  | moveConstruct =>
    simp only [step] at stepped
    split at stepped
    next handle live =>
      cases stepped
      have emptied := handle.moveConstruct_backend
      exact .moved (handle_place live) emptied.2 emptied.1
    next => contradiction
  | moveAssign target source answer =>
    simp only [step] at stepped
    split at stepped
    next first second here there =>
      by_cases same : target = source
      · rw [if_pos same] at stepped
        cases stepped
        exact .itself
      · rw [if_neg same] at stepped
        split at stepped
        next new left calls assigned =>
          cases stepped
          obtain ⟨taken,emptied,rfl⟩ := Handle.moveAssign_backend assigned
          exact .assigned same (handle_place here) (handle_place there) taken emptied (first.destroy_backend answer)
        next => contradiction
    next => contradiction
  | call =>
    simp only [step] at stepped
    split at stepped
    next handle live =>
      split at stepped
      next left status calls called =>
        cases stepped
        obtain ⟨emptied,reached⟩ := Handle.call_backend called
        exact .used (handle_place live) emptied reached
      next => contradiction
    next => contradiction
  | destroy index answer =>
    simp only [step] at stepped
    split at stepped
    next handle live =>
      cases stepped
      exact .used (handle_place live) rfl (handle.destroy_backend answer)
    next => contradiction

/-- Whatever is held or newly constructed before an operation is held after it, or reached by it. -/
theorem step_balanced {s t : System β γ} (stepped : step s action = some (t,seen)) :
    ∃ new : List (Backend β γ), new.Nodup ∧ (∀ backend ∈ new, backend ∉ s.backends) ∧
      t.backends = s.backends ++ new ∧ (s.owned ++ new).Perm (t.owned ++ seen.map Event.backend) := by
  cases step_took stepped with
  | @constructed handle fresh =>
    refine ⟨handle.backend.toList,?_,?_,rfl,?_⟩
    · cases handle.backend <;> simp
    · exact fun backend owned => fresh backend (by simpa using owned)
    · cases owned : handle.backend <;> simp [System.owned,owned]
  | @moved old left new source live emptied taken =>
    have exchanged := filterMap_set_perm (·.bind Handle.backend) s.handles live (some left)
    refine ⟨[],nodup_nil,by simp,(append_nil _).symm,?_⟩
    simp only [bind_some,emptied] at exchanged
    have gained : [some new].filterMap (·.bind Handle.backend) = old.backend.toList := by
      cases owned : old.backend <;> simp [taken,owned]
    simp only [System.owned,filterMap_append,gained,append_nil,map_nil]
    exact exchanged.symm.trans perm_append_comm
  | itself => exact ⟨[],nodup_nil,by simp,(append_nil _).symm,by simp⟩
  | @assigned first second new left calls target source apart here there taken emptied reached =>
    have exchanged := filterMap_set_perm (·.bind Handle.backend) s.handles here (some new)
    have again := filterMap_set_perm (·.bind Handle.backend) (s.handles.set target (some new))
      ((getElem?_set_ne apart).trans there) (some left)
    simp only [bind_some,taken,emptied] at exchanged again
    refine ⟨[],nodup_nil,by simp,(append_nil _).symm,?_⟩
    simp only [append_nil,reached]
    have passed : (second.backend.toList ++ (first.backend.toList ++ ((s.handles.set target (some new)).set source
        (some left)).filterMap (·.bind Handle.backend))).Perm
        (second.backend.toList ++ s.handles.filterMap (·.bind Handle.backend)) :=
      (perm_append_comm_assoc _ _ _).trans ((again.append_left _).trans exchanged)
    exact ((perm_append_left_iff _).mp passed).symm.trans perm_append_comm
  | @used old place calls index live emptied reached =>
    have exchanged := filterMap_set_perm (·.bind Handle.backend) s.handles live place
    simp only [emptied] at exchanged
    refine ⟨[],nodup_nil,by simp,(append_nil _).symm,?_⟩
    simp only [append_nil,reached]
    exact exchanged.symm.trans perm_append_comm

theorem run_ledger {s : System β γ} (ran : (system β γ).run {} actions = some (s,history)) :
    Custody.Ledger s.backends s.owned (history.map Event.backend) := by
  refine Machine.run_invariant
    (motive := fun s history => Custody.Ledger s.backends s.owned (history.map Event.backend)) ?_ .empty ran
  intro s history action t seen ledger stepped
  obtain ⟨new,distinct,fresh,backends,balanced⟩ := step_balanced stepped
  rw [backends,map_append]
  exact ledger.exchange distinct fresh balanced

theorem empty_silent {s t : System β γ} (stepped : step s action = some (t,seen))
    (subject : action.subject = some index) (live : s.handle index = some handle) (empty : handle.backend = none) :
    seen = [] := by
  have silent {calls : List (Event β γ)} (reached : calls.map Event.backend = handle.backend.toList) : calls = [] := by
    simpa [empty] using reached
  cases action with
  | construct | wrap | moveConstruct => contradiction
  | moveAssign target source answer =>
    obtain rfl := some.inj subject
    simp only [step,live] at stepped
    split at stepped
    next first second here there =>
      cases here
      by_cases same : target = source
      · rw [if_pos same] at stepped
        cases stepped
        rfl
      · rw [if_neg same] at stepped
        split at stepped
        next new left calls assigned =>
          cases stepped
          obtain ⟨-,-,rfl⟩ := Handle.moveAssign_backend assigned
          exact silent (handle.destroy_backend answer)
        next => contradiction
    next => contradiction
  | call =>
    cases subject
    simp only [step,live] at stepped
    split at stepped
    next left status calls called =>
      cases stepped
      exact silent (Handle.call_backend called).2
    next => contradiction
  | destroy target answer =>
    cases subject
    simp only [step,live] at stepped
    cases stepped
    exact silent (handle.destroy_backend answer)

/-- A backend has one owner until it has had its one last call, and none afterwards; once the
handles are gone every backend has had it. Calls on an empty handle reach no backend. -/
theorem loans_linear {s : System β γ} (ran : (system β γ).run {} actions = some (s,history)) :
    (∀ backend ∈ s.backends, s.owned.count backend + (history.map Event.backend).count backend = 1) ∧
    (∀ event ∈ history, event.backend ∈ s.backends) ∧
    (∀ (first second : Nat) holder another backend, s.handle first = some holder → s.handle second = some another →
      holder.backend = some backend → another.backend = some backend → first = second) ∧
    ((∀ index, s.handle index = none) → ∀ backend ∈ s.backends, (history.map Event.backend).count backend = 1) ∧
    ∀ action t seen index handle, step s action = some (t,seen) → action.subject = some index →
      s.handle index = some handle → handle.backend = none → seen = [] := by
  have ledger := run_ledger ran
  refine ⟨fun backend => ledger.count_once,?_,?_,?_,?_⟩
  · intro event member
    exact ledger.gone_entered (mem_map_of_mem member)
  · intro first second holder another backend here there held again
    exact Custody.holder_unique ledger.held_distinct (handle_place here) (handle_place there) held again
  · intro destroyed backend member
    have nothing : s.owned = [] := by
      refine filterMap_eq_nil_iff.mpr fun place listed => ?_
      obtain ⟨index,found⟩ := mem_iff_getElem?.mp listed
      have gone := destroyed index
      simp only [System.handle,found] at gone
      cases place with
      | none => rfl
      | some => contradiction
    have once := ledger.count_once member
    rwa [nothing,count_nil,Nat.zero_add] at once
  · intro action t seen index handle stepped subject live empty
    exact empty_silent stepped subject live empty

end Runs

/-- A loan is wrapped, assigned to itself and published, another is abandoned by an assignment,
and a sample is moved, released and destroyed. -/
def lifetimes : List (Action Nat Nat) :=
  [.construct (.transportLoan ⟨some 4⟩),.wrap 0 {} .success,.moveAssign 1 1 .success,.call 1 (.publishNow 9) .success,
    .construct (.transportLoan ⟨some 5⟩),.moveAssign 2 0 .success,.construct (.subscriberSample ⟨{},some 4⟩),
    .moveConstruct 3,.call 4 .release .success,.destroy 0 .success,.destroy 1 .success,.destroy 2 .success,
    .destroy 3 .success,.destroy 4 .success]

theorem loans_linear_sample : ∃ s history, (system Nat Nat).run {} lifetimes = some (s,history) ∧
    history = [.published 4 { publishTimestampNs := 9 },.abandoned 5,.released 4] ∧
    ∀ backend ∈ s.backends, (history.map Event.backend).count backend = 1 := by
  have ran : (system Nat Nat).run {} lifetimes = some
      (⟨[none,none,none,none,none],[.publisher 4,.publisher 5,.subscriber 4]⟩,
        [.published 4 { publishTimestampNs := 9 },.abandoned 5,.released 4]) := by decide +kernel
  refine ⟨_,_,ran,rfl,?_⟩
  refine (loans_linear ran).2.2.2.1 fun index => ?_
  rcases index with _ | _ | _ | _ | _ | index <;> rfl

end AutoRuntime.Loan
