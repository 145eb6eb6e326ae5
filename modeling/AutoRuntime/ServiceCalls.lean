import AutoRuntime.ServiceLedger

/-! Calls complete as their own. Every queued call is in one place, its promise is set once at
most, and whoever returns with an outcome of the handler returns with the outcome of the
handler on its own request. -/
namespace AutoRuntime.Service

open List Option Pool Nat
open Mailbox

def Event.queuedCall : Event → Option PendingCall
  | .queued call => some call
  | .returned _ _ | .dequeued _ | .handled _ | .completed _ _ => none

def Event.dequeuedCall : Event → Option PendingCall
  | .dequeued call => some call
  | .returned _ _ | .queued _ | .handled _ | .completed _ _ => none

def Event.handledCall : Event → Option PendingCall
  | .handled call => some call
  | .returned _ _ | .queued _ | .dequeued _ | .completed _ _ => none

def Event.completion : Event → Option (Nat × Result Message)
  | .completed id answer => some (id,answer)
  | .returned _ _ | .queued _ | .dequeued _ | .handled _ => none

/-- The calls in the order in which they came into the queue. -/
def arrivals (history : List Event) : List PendingCall := history.filterMap Event.queuedCall

def Work.call : Work → PendingCall
  | .serving call | .answering call _ => call

def Work.concerns (id : Nat) (work : Work) : Bool := work.call.id = id

@[simp] theorem Work.concerns_serving (id : Nat) (call : PendingCall) :
    (Work.serving call).concerns id = (call.id = id : Bool) := rfl

@[simp] theorem Work.concerns_answering (id : Nat) (call : PendingCall) (answer : Result Bytes) :
    (Work.answering call answer).concerns id = (call.id = id : Bool) := rfl

def Work.answers (id : Nat) : Work → Bool
  | .serving _ => false
  | .answering call _ => call.id = id

@[simp] theorem Work.answers_serving (id : Nat) (call : PendingCall) :
    (Work.serving call).answers id = false := rfl

@[simp] theorem Work.answers_answering (id : Nat) (call : PendingCall) (answer : Result Bytes) :
    (Work.answering call answer).answers id = (call.id = id : Bool) := rfl

/-- In how many places a call is: in the queue, held by a `ProcessOne`, taken by `Close`,
withdrawn by its `Invoke`, or done with. -/
def View.places (v : View) (id : Nat) : Nat :=
  v.queue.countP (·.id = id) + v.works.countP (·.concerns id) + v.taken.countP (·.id = id) +
    v.ledger.withdrawn.countP (·.id = id) + v.completions.countP (·.1 = id)

@[simp] theorem arrivals_append (history seen : List Event) :
    arrivals (history ++ seen) = arrivals history ++ arrivals seen := filterMap_append

theorem arrivals_single (event : Event) : arrivals [event] = event.queuedCall.toList := by
  simp only [arrivals,filterMap_cons,filterMap_nil]
  cases event.queuedCall <;> rfl

theorem returned_quiet {v : View} {seen : List Event} (shown : Event → Option β)
    (quiet : ∀ id answer, shown (.returned id answer) = none)
    (returned : ∀ event ∈ seen, ∃ id answer, event = .returned id answer ∧ v.answers id answer) :
    seen.filterMap shown = [] := by
  refine filterMap_eq_nil_iff.mpr fun event member => ?_
  obtain ⟨id,answer,rfl,-⟩ := returned event member
  exact quiet id answer

theorem returned_arrivals {v : View}
    (returned : ∀ event ∈ seen, ∃ id answer, event = .returned id answer ∧ v.answers id answer) :
    arrivals seen = [] :=
  returned_quiet Event.queuedCall (fun _ _ => rfl) returned

theorem Move.places (move : Move v w seen) (idle : v.closed = false → v.taken = []) (id : Nat) :
    w.places id = v.places id + (arrivals seen).countP (·.id = id) := by
  cases move with
  | idle returned => rw [returned_arrivals returned,countP_nil,add_zero]
  | declined => rfl
  | queued =>
    simp only [View.places,arrivals_single,Event.queuedCall,toList_some,countP_append]
    omega
  | withdrawn other =>
    have split := countP_eraseP (fun call : PendingCall => call.id = other) (·.id = id) v.queue
    simp only [View.places,countP_append,countP_nil,arrivals_single,Event.queuedCall,toList_none]
    omega
  | @dequeued call rest later front works =>
    have counted : later.countP (·.concerns id) = v.works.countP (·.concerns id) + if call.id = id then 1 else 0 := by
      rw [works.countP_eq,countP_cons]
      simp
    simp only [View.places,front,counted,countP_cons,countP_nil,arrivals_single,Event.queuedCall,
      toList_none,decide_eq_true_eq]
    omega
  | expired works | handled works =>
    have counted := works.countP_eq (·.concerns id)
    simp only [countP_cons,Work.concerns_serving,Work.concerns_answering] at counted
    have same := add_right_cancel counted
    simp only [View.places,same]
    rfl
  | @completed later call answer message works =>
    have counted : v.works.countP (·.concerns id) = later.countP (·.concerns id) + if call.id = id then 1 else 0 := by
      rw [← works.countP_eq,countP_cons]
      simp
    simp only [View.places,counted,countP_append,countP_cons,countP_nil,arrivals_single,
      Event.queuedCall,toList_none,decide_eq_true_eq]
    omega
  | closing open_ =>
    simp only [View.places,idle open_,countP_nil,zero_add,add_zero]
    exact congrArg (· + _ + _) (add_comm _ _)
  | closed front =>
    simp only [View.places,front,countP_append,countP_cons,countP_nil,arrivals_single,
      Event.queuedCall,toList_none]
    omega

/-- The ledger and the promises only grow. -/
structure Grown (v w : View) : Prop where
  generation : w.generation = v.generation
  invocations : v.ledger.invocations <+: w.ledger.invocations
  refusals : v.ledger.refusals <+: w.ledger.refusals
  outcomes : v.ledger.outcomes <+: w.ledger.outcomes
  completions : v.completions <+: w.completions

theorem Move.grown (move : Move v w seen) : Grown v w := by
  cases move <;> constructor <;> first | rfl | exact prefix_refl _ | exact prefix_append _ _

/-- Every queued call is in one place, and is the call of the `Invoke` with its index. -/
structure Accounted (v : View) (history : List Event) : Prop where
  idle : v.closed = false → v.taken = []
  own : call ∈ arrivals history → ∃ invocation, v.ledger.invocations[call.id]? = some invocation ∧
    call.request = invocation.request ∧ call.deadline = invocation.deadline
  single : ∀ id : Nat, (arrivals history).countP (·.id = id) ≤ 1
  places : ∀ id : Nat, v.places id = (arrivals history).countP (·.id = id)

theorem Accounted.move (accounted : Accounted v history) (move : Move v w seen) :
    Accounted w (history ++ seen) := by
  have kept {call : PendingCall} (member : call ∈ arrivals history) :
      ∃ invocation, w.ledger.invocations[call.id]? = some invocation ∧
        call.request = invocation.request ∧ call.deadline = invocation.deadline := by
    obtain ⟨invocation,found,own⟩ := accounted.own member
    obtain ⟨more,grown⟩ := move.grown.invocations
    have inside := inside found
    exact ⟨invocation,by rw [← grown,getElem?_append_left inside,found],own⟩
  have fresh : arrivals seen = [] ∨ ∃ call invocation, arrivals seen = [call] ∧
      call = ⟨v.ledger.invocations.length,invocation.request,invocation.deadline⟩ ∧
      w.ledger.invocations = v.ledger.invocations ++ [invocation] := by
    cases move with
    | idle returned => exact .inl (returned_arrivals returned)
    | queued _ _ own => exact .inr ⟨_,_,rfl,own,rfl⟩
    | _ => exact .inl rfl
  refine ⟨?_,?_,?_,?_⟩
  · intro open_
    cases move with
    | closing => contradiction
    | closed front =>
      have none := accounted.idle open_
      simp [none] at front
    | _ => exact accounted.idle open_
  · intro call member
    rw [arrivals_append,mem_append] at member
    rcases member with old | new
    · exact kept old
    · rcases fresh with none | ⟨_,invocation,only,rfl,invocations⟩
      · simp [none] at new
      · obtain rfl := mem_singleton.mp (only ▸ new)
        exact ⟨invocation,by simp [invocations],rfl,rfl⟩
  · intro id
    rw [arrivals_append,countP_append]
    rcases fresh with none | ⟨call,invocation,only,rfl,-⟩
    · simpa [none] using accounted.single id
    · rw [only]
      by_cases mine : v.ledger.invocations.length = id
      · have absent : (arrivals history).countP (·.id = id) = 0 := by
          refine countP_eq_zero.mpr fun other member same => ?_
          obtain ⟨_,found,-⟩ := accounted.own member
          have inside := inside found
          simp only [decide_eq_true_eq] at same
          omega
        simp [absent,mine]
      · simpa [mine] using accounted.single id
  · intro id
    rw [arrivals_append,countP_append,move.places accounted.idle,accounted.places]

/-- `ProcessOne` answers with what the handler did on this very call, or found it expired. -/
def Settled (ledger : Ledger) (call : PendingCall) (answer : Result Bytes) : Prop :=
  answer = requestExpired ∨ ∃ outcome, (call,outcome) ∈ ledger.outcomes ∧ answer = outcome.settle

/-- The promise of the call is what `ProcessOne` settled for it, or the service was closed. -/
def Explains (generation : UInt64) (ledger : Ledger) (call : PendingCall) (answer : Result Message) : Prop :=
  answer = serviceClosed ∨ ∃ settled, Settled ledger call settled ∧ Delivers generation call settled answer

/-- Nothing comes from nowhere: calls, outcomes and answers. -/
structure Sourced (v : View) (history : List Event) : Prop where
  queue : ∀ call ∈ v.queue, call ∈ arrivals history
  works : ∀ work ∈ v.works, work.call ∈ arrivals history
  taken : ∀ call ∈ v.taken, call ∈ arrivals history
  outcomes : ∀ entry ∈ v.ledger.outcomes, entry.1 ∈ arrivals history
  answering : .answering call answer ∈ v.works → Settled v.ledger call answer
  completions : ∀ entry ∈ v.completions, ∃ call ∈ arrivals history, call.id = entry.1 ∧
    Explains v.generation v.ledger call entry.2

theorem Settled.grow (settled : Settled ledger call answer) (grown : ledger.outcomes <+: later.outcomes) :
    Settled later call answer := by
  rcases settled with expired | ⟨outcome,member,same⟩
  · exact .inl expired
  · exact .inr ⟨outcome,grown.subset member,same⟩

theorem Explains.grow (explains : Explains v.generation v.ledger call answer) (grown : Grown v w) :
    Explains w.generation w.ledger call answer := by
  rcases explains with closed | ⟨settled,known,delivers⟩
  · exact .inl closed
  · exact .inr ⟨settled,known.grow grown.outcomes,grown.generation ▸ delivers⟩

theorem exchanged_mem {works : List Work}
    (exchanged : (Work.serving call :: later).Perm (.answering call answer :: works)) :
    .serving call ∈ works ∧ ∀ work ∈ later, work = .answering call answer ∨ work ∈ works := by
  refine ⟨?_,fun work member => mem_cons.mp (exchanged.mem_iff.mp (mem_cons_of_mem _ member))⟩
  simpa using exchanged.mem_iff.mp mem_cons_self

theorem Sourced.extend (sourced : Sourced v history) (seen : List Event) : Sourced v (history ++ seen) := by
  have arrived {call : PendingCall} (member : call ∈ arrivals history) : call ∈ arrivals (history ++ seen) := by
    rw [arrivals_append]
    exact mem_append_left _ member
  exact {
    queue := fun call member => arrived (sourced.queue call member)
    works := fun work member => arrived (sourced.works work member)
    taken := fun call member => arrived (sourced.taken call member)
    outcomes := fun entry member => arrived (sourced.outcomes entry member)
    answering := sourced.answering
    completions := fun entry member => by
      obtain ⟨call,known,same,explains⟩ := sourced.completions entry member
      exact ⟨call,arrived known,same,explains⟩ }

theorem Sourced.exchanged (sourced : Sourced v history)
    (exchanged : (Work.serving call :: later).Perm (.answering call answer :: v.works)) :
    call ∈ arrivals history ∧ ∀ work ∈ later, work.call ∈ arrivals history := by
  obtain ⟨serving,others⟩ := exchanged_mem exchanged
  have known := sourced.works _ serving
  refine ⟨known,fun work member => ?_⟩
  rcases others work member with rfl | old
  · exact known
  · exact sourced.works work old

theorem Sourced.promised (sourced : Sourced v history) (call : PendingCall) (known : call ∈ arrivals history)
    (explains : Explains v.generation v.ledger call message) :
    ∀ entry ∈ v.completions ++ [(call.id,message)], ∃ call ∈ arrivals history, call.id = entry.1 ∧
      Explains v.generation v.ledger call entry.2 := by
  intro entry member
  rcases mem_concat member with old | rfl
  · exact sourced.completions entry old
  · exact ⟨call,known,rfl,explains⟩

theorem Sourced.move (sourced : Sourced v history) (move : Move v w seen) : Sourced w (history ++ seen) := by
  have kept := sourced.extend seen
  have grown := move.grown
  cases move with
  | idle | declined => exact { kept with }
  | queued =>
    refine { kept with queue := fun call member => ?_ }
    rcases mem_append.mp member with old | new
    · exact kept.queue call old
    · rw [arrivals_append]
      exact mem_append_right _ new
  | withdrawn => exact { kept with queue := fun call member => kept.queue call (mem_of_mem_eraseP member) }
  | @dequeued call rest later front exchanged =>
    refine { kept with
      queue := fun other member => kept.queue other (by simp [front,member])
      works := ?_
      answering := ?_ }
    · intro work member
      rcases mem_cons.mp (exchanged.mem_iff.mp member) with rfl | old
      · exact kept.queue call (by simp [front])
      · exact kept.works work old
    · intro other answer member
      exact kept.answering (by simpa using exchanged.mem_iff.mp member)
  | expired exchanged =>
    refine { kept with works := (kept.exchanged exchanged).2, answering := fun {other answer} member => ?_ }
    rcases (exchanged_mem exchanged).2 _ member with same | old
    · exact .inl (Work.answering.inj same).2
    · exact kept.answering old
  | handled exchanged =>
    obtain ⟨known,works⟩ := kept.exchanged exchanged
    refine { kept with works := works, outcomes := ?_, answering := ?_, completions := ?_ }
    · intro entry member
      rcases mem_concat member with old | rfl
      · exact kept.outcomes entry old
      · exact known
    · intro other answer member
      rcases (exchanged_mem exchanged).2 _ member with same | old
      · cases same
        exact .inr ⟨_,mem_append_right _ mem_cons_self,rfl⟩
      · exact (kept.answering old).grow grown.outcomes
    · intro entry member
      obtain ⟨call,arrived,same,explains⟩ := kept.completions entry member
      exact ⟨call,arrived,same,explains.grow grown⟩
  | @completed later call answer message exchanged delivers =>
    have inside (work) (member : work ∈ later) : work ∈ v.works :=
      exchanged.mem_iff.mp (mem_cons_of_mem _ member)
    have answered : .answering call answer ∈ v.works := exchanged.mem_iff.mp mem_cons_self
    exact { kept with
      works := fun work member => kept.works work (inside work member)
      answering := fun member => kept.answering (inside _ member)
      completions := kept.promised call (kept.works _ answered) (.inr ⟨answer,kept.answering answered,delivers⟩) }
  | closing => exact { kept with queue := by simp, taken := kept.queue }
  | @closed call rest front =>
    exact { kept with
      taken := fun other member => kept.taken other (by simp [front,member])
      completions := kept.promised call (kept.taken call (by simp [front])) (.inl rfl) }

/-- Each outcome of the handler is still to be answered or has its promise. -/
def Served (v : View) : Prop :=
  ∀ id : Nat, v.ledger.outcomes.countP (·.1.id = id) ≤
    v.works.countP (·.answers id) + v.completions.countP (·.1 = id)

theorem exchanged_answers {works : List Work} (id : Nat)
    (exchanged : (Work.serving call :: later).Perm (.answering call answer :: works)) :
    later.countP (·.answers id) = works.countP (·.answers id) + if call.id = id then 1 else 0 := by
  have counted := exchanged.countP_eq (·.answers id)
  simpa [countP_cons] using counted

theorem Served.move (served : Served v) (move : Move v w seen) : Served w := by
  intro id
  have before := served id
  cases move with
  | idle | declined | queued | withdrawn | closing => exact before
  | @dequeued call rest later front exchanged =>
    have counted : later.countP (·.answers id) = v.works.countP (·.answers id) := by
      rw [exchanged.countP_eq]
      simp
    simpa only [counted] using before
  | expired exchanged =>
    simp only [exchanged_answers id exchanged]
    omega
  | handled exchanged =>
    simp only [exchanged_answers id exchanged,countP_append,countP_cons,countP_nil,
      decide_eq_true_eq]
    omega
  | @completed later call answer message exchanged =>
    have counted : v.works.countP (·.answers id) =
        later.countP (·.answers id) + if call.id = id then 1 else 0 := by
      rw [← exchanged.countP_eq,countP_cons]
      simp
    simp only [countP_append,countP_cons,countP_nil,decide_eq_true_eq]
    omega
  | closed =>
    simp only [countP_append]
    omega

/-- What the history shows of the places. -/
structure Ordered (v : View) (history : List Event) : Prop where
  bounded : v.queue.length ≤ queueCapacity
  fifo : (history.filterMap Event.dequeuedCall ++ v.queue).Sublist (arrivals history)
  handled : history.filterMap Event.handledCall = v.ledger.outcomes.map Prod.fst
  completed : history.filterMap Event.completion = v.completions
  returned : ∀ id answer, .returned id answer ∈ history → v.answers id answer

theorem answers_grow {id : Nat} (answered : View.answers v id answer) (grown : Grown v w) : w.answers id answer := by
  rcases answered with own | ⟨status,same,listed | refused⟩
  · exact .inl (grown.completions.subset own)
  · exact .inr ⟨status,same,.inl listed⟩
  · exact .inr ⟨status,same,.inr (grown.refusals.subset refused)⟩

theorem Move.bounded (move : Move v w seen) (bounded : v.queue.length ≤ queueCapacity) :
    w.queue.length ≤ queueCapacity := by
  cases move with
  | queued =>
    simp only [length_append,length_singleton]
    omega
  | withdrawn => exact le_trans length_eraseP_le bounded
  | dequeued front =>
    rw [front] at bounded
    exact le_of_succ_le bounded
  | closing => exact zero_le _
  | _ => exact bounded

theorem Move.fifo (move : Move v w seen) (fifo : (gone ++ v.queue).Sublist arrived) :
    (gone ++ seen.filterMap Event.dequeuedCall ++ w.queue).Sublist (arrived ++ arrivals seen) := by
  cases move with
  | idle returned =>
    rw [returned_quiet Event.dequeuedCall (fun _ _ => rfl) returned,append_nil]
    exact fifo.trans (sublist_append_left _ _)
  | @queued call =>
    have longer := fifo.append (List.Sublist.refl [call])
    simpa [arrivals_single,Event.queuedCall,Event.dequeuedCall,filterMap_cons] using longer
  | withdrawn other =>
    have shorter := (List.Sublist.refl gone).append
      (eraseP_sublist (p := fun call => call.id = other) (l := v.queue))
    simpa [arrivals_single,Event.queuedCall,Event.dequeuedCall,filterMap_cons] using shorter.trans fifo
  | dequeued front =>
    rw [front] at fifo
    simpa [arrivals_single,Event.queuedCall,Event.dequeuedCall,filterMap_cons] using fifo
  | closing =>
    have shorter := (sublist_append_left gone v.queue).trans fifo
    simpa [arrivals] using shorter
  | expired => simpa [arrivals] using fifo
  | _ => simpa [arrivals_single,Event.queuedCall,Event.dequeuedCall,filterMap_cons] using fifo

theorem Move.handles (move : Move v w seen) :
    w.ledger.outcomes.map Prod.fst =
      v.ledger.outcomes.map Prod.fst ++ seen.filterMap Event.handledCall := by
  cases move with
  | idle returned => rw [returned_quiet Event.handledCall (fun _ _ => rfl) returned,append_nil]
  | handled => simp [Event.handledCall]
  | _ => exact (append_nil _).symm

theorem Move.completes (move : Move v w seen) :
    w.completions = v.completions ++ seen.filterMap Event.completion := by
  cases move with
  | idle returned => rw [returned_quiet Event.completion (fun _ _ => rfl) returned,append_nil]
  | completed | closed => rfl
  | _ => exact (append_nil _).symm

theorem Move.returns (move : Move v w seen) {id : Nat} (member : .returned id answer ∈ seen) :
    w.answers id answer := by
  cases move with
  | idle returned =>
    obtain ⟨_,_,same,answers⟩ := returned _ member
    cases same
    exact answers
  | declined known =>
    cases mem_singleton.mp member
    exact .inr ⟨_,rfl,.inl known⟩
  | withdrawn =>
    cases mem_singleton.mp member
    exact .inr ⟨_,rfl,.inr (mem_append_right _ mem_cons_self)⟩
  | _ => simp at member

theorem Ordered.move (ordered : Ordered v history) (move : Move v w seen) : Ordered w (history ++ seen) := by
  refine ⟨move.bounded ordered.bounded,?_,?_,?_,?_⟩
  · rw [filterMap_append,arrivals_append]
    exact move.fifo ordered.fifo
  · rw [filterMap_append,ordered.handled,move.handles]
  · rw [filterMap_append,ordered.completed,move.completes]
  · intro id answer member
    rcases mem_append.mp member with old | new
    · exact answers_grow (ordered.returned id answer old) move.grown
    · exact move.returns new

/-- What holds of the calls of a service in every state of every run. -/
structure Orderly (s : System component) (history : List Event) (ledger : Ledger) : Prop where
  bounded : s.state.queue.length ≤ queueCapacity
  placed : .queued call ∈ history → (view s ledger).places call.id = 1
  own : .queued call ∈ history → ∃ invocation, ledger.invocations[call.id]? = some invocation ∧
    call.request = invocation.request ∧ call.deadline = invocation.deadline
  promised : ∀ id : Nat, (history.filterMap Event.completion).countP (·.1 = id) ≤ 1
  handled : ∀ id : Nat, (history.filterMap Event.handledCall).countP (·.id = id) ≤ 1
  outcomes : ledger.outcomes.map Prod.fst = history.filterMap Event.handledCall
  known : .handled call ∈ history → .queued call ∈ history
  returned : ∀ id answer, .returned id answer ∈ history →
    (∃ call, .queued call ∈ history ∧ call.id = id ∧ Explains s.state.generation ledger call answer) ∨
    ∃ status, answer = .error status ∧ (status ∈ declined ∨ (id,status) ∈ ledger.refusals)
  fifo : (history.filterMap Event.dequeuedCall ++ s.state.queue).Sublist
    (history.filterMap Event.queuedCall)

theorem mem_arrivals : call ∈ arrivals history ↔ .queued call ∈ history := by
  constructor
  · intro member
    obtain ⟨event,present,shown⟩ := mem_filterMap.mp member
    cases event <;> simp only [Event.queuedCall,reduceCtorEq,some.injEq] at shown
    subst shown
    exact present
  · exact fun member => mem_filterMap.mpr ⟨_,member,rfl⟩

theorem Work.answers_concerns (id : Nat) (works : List Work) :
    works.countP (·.answers id) ≤ works.countP (·.concerns id) :=
  countP_mono_left fun work _ => by cases work <;> simp

/-- What carries the run. -/
structure Tracked (s : System component) (history : List Event) (ledger : Ledger) : Prop where
  aligned : Aligned s ledger
  accounted : Accounted (view s ledger) history
  sourced : Sourced (view s ledger) history
  served : Served (view s ledger)
  ordered : Ordered (view s ledger) history

theorem created_tracked : Tracked (created generation running others groupCapacity) [] {} where
  aligned := rfl
  accounted := ⟨fun _ => rfl,by simp [arrivals],by simp [arrivals],fun _ => rfl⟩
  sourced := by constructor <;> simp [view,created,Impl.new]
  served := fun _ => zero_le _
  ordered := ⟨zero_le _,List.Sublist.refl _,rfl,rfl,by simp⟩

theorem Tracked.step (tracked : Tracked s history ledger)
    (stepped : Mailbox.step s action = some (t,seen)) :
    Tracked t (history ++ seen) (ledger.record s action) := by
  have move := step_move tracked.aligned stepped
  exact ⟨step_aligned tracked.aligned stepped,tracked.accounted.move move,tracked.sourced.move move,
    tracked.served.move move,tracked.ordered.move move⟩

theorem Tracked.orderly (tracked : Tracked s history ledger) : Orderly s history ledger := by
  obtain ⟨-,accounted,sourced,served,ordered⟩ := tracked
  have single (id : Nat) : (view s ledger).places id ≤ 1 := accounted.places id ▸ accounted.single id
  have once (id : Nat) : ledger.outcomes.countP (·.1.id = id) ≤ 1 := by
    have answered := served id
    have held := Work.answers_concerns id (view s ledger).works
    have places := single id
    simp only [View.places] at places
    exact le_trans answered (by omega)
  refine ⟨ordered.bounded,fun {call} queued => ?_,fun queued => accounted.own (mem_arrivals.mpr queued),
    fun id => ?_,fun id => ?_,ordered.handled.symm,fun {call} handled => ?_,fun id answer member => ?_,
    ordered.fifo⟩
  · have present : 0 < (arrivals history).countP (·.id = call.id) :=
      countP_pos_iff.mpr ⟨call,mem_arrivals.mpr queued,by simp⟩
    have places := single call.id
    rw [accounted.places] at places ⊢
    omega
  · rw [ordered.completed]
    have places := single id
    simp only [View.places] at places
    omega
  · rw [ordered.handled,countP_map]
    exact once id
  · have listed : call ∈ history.filterMap Event.handledCall := mem_filterMap.mpr ⟨_,handled,rfl⟩
    rw [ordered.handled] at listed
    obtain ⟨entry,member,rfl⟩ := mem_map.mp listed
    exact mem_arrivals.mp (sourced.outcomes entry member)
  · rcases ordered.returned id answer member with promised | own
    · obtain ⟨call,queued,same,explains⟩ := sourced.completions _ promised
      exact .inl ⟨call,mem_arrivals.mp queued,same,explains⟩
    · exact .inr own

/-- In every run of a service each queued call is in one place, its promise and the handler are
used once at most, and a caller that is answered from its promise is answered for its own
request; calls leave the queue in the order of their arrival, and the queue stays within
its capacity. -/
theorem calls_orderly (ran : (system component).run
      (created generation running others groupCapacity) actions = some (s,history)) :
    Orderly s history ((system component).notes Ledger.record
      (created generation running others groupCapacity) actions {}) := by
  have tracked : Tracked s history ((system component).notes Ledger.record
      (created generation running others groupCapacity) actions {}) :=
    Machine.run_notes (motive := Tracked) (fun _ _ _ _ _ _ held stepped => held.step stepped)
      created_tracked ran
  exact tracked.orderly

/-- One call is handled and answered while the next one waits. -/
def sampleService : List (Action component) :=
  let invocation : Invocation := ⟨⟨{},[5]⟩,.infinite,0⟩
  let outcome : Outcome := ⟨1,.returned (.ok [7]),⟨1,1,1⟩⟩
  [.arrive invocation,.arrive invocation,.notify 0,.notify 0,.notify 0,.executor .pop,.dispatch 0,.take 0,
    .proceed 0 outcome,.proceed 0 outcome,.react (.complete 0)]

theorem calls_orderly_sample : ∃ s history, (system component).run (created 1 true 0 1) sampleService =
      some (s,history) ∧ s.state.queue.map PendingCall.id = [1] ∧
    (∃ message, history.getLast? = some (.returned 0 (.ok message)) ∧ message.payload = [7]) ∧
    Orderly s history ((system component).notes Ledger.record (created 1 true 0 1) sampleService {}) := by
  have ran : (system component).run (created 1 true 0 1) sampleService = some _ := rfl
  exact ⟨_,_,ran,rfl,⟨_,rfl,rfl⟩,calls_orderly ran⟩

end AutoRuntime.Service
