import AutoRuntime.MailboxTokens
import AutoRuntime.Subscription

/-! What a subscription does with its messages. The queue is first in, first out, it is never
longer than its capacity, and a message is lost only by the overflow policy or by `Close`. -/
namespace AutoRuntime.Subscription

open Mailbox

variable {μ : Type}

def arrivals (history : List (Event μ)) : List μ :=
  history.filterMap fun
    | .arrived message _ => some message
    | _ => none

/-- Messages that went into the queue. -/
def entered (history : List (Event μ)) : List μ :=
  history.filterMap fun
    | .arrived message .queued | .arrived message (.evicting _) => some message
    | _ => none

/-- Messages that left the queue, by delivery, by eviction or at `Close`. -/
def departures (history : List (Event μ)) : List μ :=
  history.flatMap fun
    | .arrived _ (.evicting oldest) => [oldest]
    | .delivered message => [message]
    | .closed discarded => discarded
    | _ => []

def deliveries (history : List (Event μ)) : List μ :=
  history.filterMap fun
    | .delivered message => some message
    | _ => none

def shut (history : List (Event μ)) : Bool :=
  history.any fun
    | .closed _ => true
    | _ => false

/-- The messages that have come in and not gone out. -/
def waiting (history : List (Event μ)) : List μ := (entered history).drop (departures history).length

/-- What has to become of a message that meets this queue. -/
def judge (options : SubscriptionOptions) (closed : Bool) (queue : List μ) : Fate μ :=
  if closed then .ignored
  else if queue.length < options.queueCapacity then .queued
  else match options.overflowPolicy, queue with
    | .dropOldest, oldest :: _ => .evicting oldest
    | _, _ => .dropped

structure Fifo (options : SubscriptionOptions) (s : Impl μ) (history : List (Event μ)) : Prop where
  configured : s.options = options
  order : departures history ++ s.queue = entered history
  bounded : s.queue.length ≤ options.queueCapacity
  shut : s.closed = Subscription.shut history
  judged : ∀ before message fate after,
    history = before ++ .arrived message fate :: after →
      fate = judge options (Subscription.shut before) (waiting before)

variable {options : SubscriptionOptions}

theorem Fifo.waiting {s : Impl μ} (fifo : Fifo options s history) : waiting history = s.queue := by
  simp [Subscription.waiting,← fifo.order]

theorem new_fifo (options : SubscriptionOptions) : Fifo options (Impl.new (μ := μ) options) [] :=
  ⟨rfl,rfl,Nat.zero_le _,rfl,by simp⟩

theorem Fifo.extend {s t : Impl μ} (fifo : Fifo options s history) (event : Event μ) (same : t.options = s.options)
    (order : departures [event] ++ t.queue = s.queue ++ entered [event])
    (bounded : t.queue.length ≤ options.queueCapacity) (closed : t.closed = (s.closed || Subscription.shut [event]))
    (judged : ∀ message fate, event = .arrived message fate → fate = judge options s.closed s.queue) :
    Fifo options t (history ++ [event]) where
  configured := same.trans fifo.configured
  order := by
    have before := fifo.order
    simp only [departures,entered,List.flatMap_append,List.filterMap_append] at order before ⊢
    rw [List.append_assoc,order,← List.append_assoc,before]
  bounded := bounded
  shut := by
    rw [closed,fifo.shut]
    simp [Subscription.shut]
  judged := by
    intro before message fate after split
    rcases Machine.history_split split with ⟨between,earlier,-⟩ | ⟨between,now,same⟩
    · exact fifo.judged _ _ _ _ earlier
    · cases between with
      | nil =>
        cases now
        simpa [same,fifo.waiting,← fifo.shut] using judged message fate rfl
      | cons => simp at now

theorem Fifo.silent {s t : Impl μ} (fifo : Fifo options s history) (same : t.options = s.options)
    (queue : t.queue = s.queue) (closed : t.closed = s.closed) : Fifo options t (history ++ []) := by
  rw [List.append_nil]
  exact ⟨same.trans fifo.configured,queue ▸ fifo.order,queue ▸ fifo.bounded,closed.trans fifo.shut,fifo.judged⟩

theorem push_queue (s : Impl μ) (message : μ) : (s.push message).1.queue = s.queue ++ [message] ∧
    (s.push message).1.options = s.options := ⟨rfl,rfl⟩

section

variable {s : Impl μ} {history : List (Event μ)} (fifo : Fifo options s history)

include fifo

theorem accept_fifo (message : μ) : Fifo options (s.accept message).1 (history ++ (s.accept message).2.2) := by
  obtain rfl := fifo.configured
  have bounded := fifo.bounded
  have accepted := accept_accepted s message
  generalize s.accept message = result at accepted ⊢
  cases accepted with
  | ignored closed =>
    refine fifo.extend _ rfl (by simp [departures,entered]) bounded (by simp [Subscription.shut]) ?_
    simp [judge,closed]
  | dropped open_ full policy =>
    have crowded : s.options.queueCapacity ≤ s.queue.length := by simpa [Impl.full] using full
    refine fifo.extend _ rfl (by simp [departures,entered]) bounded (by simp [Subscription.shut]) ?_
    simp [judge,open_,crowded,policy]
  | evicted open_ full policy queue =>
    have crowded : s.options.queueCapacity ≤ s.queue.length := by simpa [Impl.full] using full
    rw [queue] at crowded bounded
    refine fifo.extend _ rfl ?_ ?_ ?_ ?_
    · simp [departures,entered,push_queue,queue]
    · simpa [push_queue] using bounded
    · simp [push_flags,Subscription.shut]
    · rintro _ _ ⟨⟩
      simp [judge,open_,queue,policy] at crowded ⊢
      omega
  | queued open_ free =>
    have vacant : s.queue.length < s.options.queueCapacity := by simpa [Impl.full] using free
    refine fifo.extend _ rfl ?_ ?_ ?_ ?_
    · simp [departures,entered,push_queue]
    · simpa [push_queue] using Nat.succ_le_of_lt vacant
    · simp [push_flags,Subscription.shut]
    · rintro _ _ ⟨⟩
      simp [judge,open_,vacant]

theorem take_fifo : Fifo options s.take.1 (history ++ s.take.2.2) := by
  have bounded := fifo.bounded
  simp only [Impl.take]
  split
  next message rest closed queue =>
    rw [queue] at bounded
    refine fifo.extend _ rfl ?_ ?_ ?_ ?_
    · simp [departures,entered,queue]
    · exact Nat.le_of_succ_le bounded
    · simp [Subscription.shut]
    · rintro _ _ ⟨⟩
  · exact fifo.silent rfl rfl rfl

theorem proceed_fifo (work : Work μ) (threw : Bool) :
    Fifo options (s.proceed work threw).1 (history ++ (s.proceed work threw).2.2) := by
  cases work with
  | callback =>
    refine fifo.extend _ rfl ?_ fifo.bounded ?_ ?_
    · simp [Impl.proceed,departures,entered]
    · simp [Impl.proceed,Subscription.shut]
    · rintro _ _ ⟨⟩
  | failed | counting => exact fifo.silent rfl rfl rfl

theorem check_fifo : Fifo options s.check.1 (history ++ []) := by
  simp only [Impl.check]
  split <;> exact fifo.silent rfl rfl rfl

theorem close_fifo : Fifo options s.close.1 (history ++ s.close.2) := by
  simp only [Impl.close]
  split
  · exact fifo.silent rfl rfl rfl
  · refine fifo.extend _ rfl ?_ (Nat.zero_le _) ?_ ?_
    · simp [departures,entered]
    · simp [Subscription.shut]
    · rintro _ _ ⟨⟩

end

theorem step_fifo {s : System (component μ)} (fifo : Fifo options s.state history)
    (stepped : step s action = some (t,seen)) : Fifo options t.state (history ++ seen) := by
  cases step_took stepped with
  | arrived message => exact accept_fifo fifo message
  | refused | notified | renotified | discarded | dispatched | cancelled | executor => exact fifo.silent rfl rfl rfl
  | took => exact take_fifo fifo
  | @proceeded _ work threw _ _ _ _ proceeded =>
    have next := proceed_fifo fifo work threw
    rwa [Option.some.inj proceeded] at next
  | checked => exact check_fifo fifo
  | closed => exact close_fifo fifo
  | @reacted reaction => exact reaction.elim

/-- The subscription together with the workers. `ProcessOne` is over for `WorkerLoop` only when it
has come back from the task's callback, and `finished` lists the executions it has booked. -/
structure Staffed (μ : Type) where
  system : System (component μ)
  finished : List Nat := []

def Staffed.step (s : Staffed μ) : Action (component μ) ⊕ Nat → Option (Staffed μ × List (Event μ))
  | .inl action => (Mailbox.step s.system action).map fun (next,seen) => ({ s with system := next },seen)
  | .inr run =>
    match s.system.runs[run]? with
    | some .returned => if run ∈ s.finished then none else some ({ s with finished := run :: s.finished },[])
    | _ => none

def staffed (μ : Type) : Machine (Staffed μ) (Action (component μ) ⊕ Nat) (Event μ) := ⟨Staffed.step⟩

/-- The task's jobs in the queue, those that were popped, and those a worker is executing. -/
def Staffed.outstanding (s : Staffed μ) : Nat :=
  s.system.port.jobs + s.system.port.popped.length + (s.system.runs.length - s.finished.length)

/-- The workers' bookkeeping does not reach the subscription. -/
theorem staffed_step {s : Staffed μ} (stepped : s.step action = some (t,seen)) :
    (∃ moved, step s.system moved = some (t.system,seen)) ∨ t.system = s.system ∧ seen = [] := by
  simp only [Staffed.step] at stepped
  split at stepped
  next moved =>
    obtain ⟨⟨next,events⟩,taken,same⟩ := Option.map_eq_some_iff.mp stepped
    cases same
    exact .inl ⟨moved,taken⟩
  · split at stepped
    · split at stepped
      · contradiction
      · cases stepped
        exact .inr ⟨rfl,rfl⟩
    · contradiction

theorem staffed_run {s : Staffed μ} (sound : Sound s.system) (fifo : Fifo options s.system.state [])
    (ran : (staffed μ).run s actions = some (t,history)) :
    Sound t.system ∧ Fifo options t.system.state history := by
  refine Machine.run_invariant (motive := fun s history => Sound s.system ∧ Fifo options s.system.state history)
    (fun s history action t seen held stepped => ?_) ⟨sound,fifo⟩ ran
  rcases staffed_step stepped with ⟨moved,taken⟩ | ⟨same,rfl⟩
  · exact ⟨step_sound held.1 taken,step_fifo held.2 taken⟩
  · rw [same,List.append_nil]
    exact held

theorem deliveries_sublist (history : List (Event μ)) : (deliveries history).Sublist (departures history) := by
  induction history with
  | nil => exact .slnil
  | cons event rest ih =>
    cases event with
    | delivered message => exact ih.cons_cons message
    | closed => exact ih.trans (List.sublist_append_right _ _)
    | finished => exact ih
    | arrived message fate =>
      cases fate with
      | evicting oldest => exact ih.cons oldest
      | ignored | dropped | queued => exact ih

theorem entered_sublist (history : List (Event μ)) : (entered history).Sublist (arrivals history) := by
  induction history with
  | nil => exact .slnil
  | cons event rest ih =>
    cases event with
    | delivered | closed | finished => exact ih
    | arrived message fate =>
      cases fate with
      | evicting | queued => exact ih.cons_cons message
      | ignored | dropped => exact ih.cons message

/-- `ProcessOne` has a section, the callback or a part of its `Notify` before it. -/
def unfinished : RunPhase (Work μ) → Bool
  | .returned => false
  | _ => true

def inCallback : RunPhase (Work μ) → Bool
  | .working (.callback _) => true
  | _ => false

/-- At most one job of the task waits, or runs and is not through with its `Notify`, at most one
callback is executing, messages are delivered in the order of arrival and at most once, the queue
is bounded, and the fate of every arrival is what the policy says about the queue it met. -/
theorem delivery_serial_fifo (ran : (staffed μ).run
      { system := created μ options running others groupCapacity } actions = some (s,history)) :
    s.system.port.jobs + s.system.port.popped.length + s.system.runs.countP unfinished ≤ 1 ∧
    s.system.runs.countP inCallback ≤ 1 ∧
    (deliveries history).Sublist (arrivals history) ∧
    s.system.state.queue.length ≤ options.queueCapacity ∧
    departures history ++ s.system.state.queue = entered history ∧
    ∀ before message fate after, history = before ++ .arrived message fate :: after →
      fate = judge options (shut before) (waiting before) := by
  obtain ⟨sound,fifo⟩ := staffed_run (added_sound _ running others groupCapacity) (new_fifo options) ran
  have single := sound.single
  have account := sound.account
  -- an execution that goes on has the task's token in hand or in a reserved place
  have held : s.system.runs.countP RunPhase.token + s.system.runs.countP RunPhase.reserving =
      s.system.runs.countP unfinished + s.system.runs.countP (fun _ => false) :=
    Pool.countP_split _ fun run => by rcases run with _ | _ | _ | ⟨_ | _ | _⟩ | _ <;> rfl
  have called : s.system.runs.countP inCallback ≤ s.system.runs.countP RunPhase.token :=
    List.countP_mono_left fun run _ => by cases run <;> simp [inCallback,RunPhase.token]
  simp only [System.tokens] at single
  refine ⟨by omega,by omega,?_,fifo.bounded,fifo.order,fifo.judged⟩
  calc deliveries history
    _ |>.Sublist (departures history) := deliveries_sublist history
    _ |>.Sublist (entered history) := fifo.order ▸ List.sublist_append_left _ _
    _ |>.Sublist (arrivals history) := entered_sublist history

/-- Three messages for one place; the first is delivered, the second evicted. -/
def evictingRun : List (Action (component Nat)) :=
  [.arrive 1,.notify 0,.notify 0,.notify 0,.executor .pop,.dispatch 0,.take 0,.arrive 2,.arrive 3]

def newestOnly : SubscriptionOptions := ⟨1,.dropOldest,Nat.one_pos⟩

theorem delivery_serial_fifo_sample : ∃ s history,
    (staffed Nat).run { system := created Nat newestOnly true 0 1 } (evictingRun.map .inl) = some (s,history) ∧
    deliveries history = [1] ∧ s.system.state.queue = [3] ∧ s.system.runs = [.working (.callback 1)] ∧
    departures history ++ s.system.state.queue = entered history ∧
    s.system.port.jobs + s.system.port.popped.length + s.system.runs.countP unfinished ≤ 1 := by
  have ran : (staffed Nat).run { system := created Nat newestOnly true 0 1 } (evictingRun.map .inl) = some _ := rfl
  have facts := delivery_serial_fifo ran
  exact ⟨_,_,ran,rfl,rfl,rfl,facts.2.2.2.2.1,facts.1⟩

/-- The `Notify` at the end of the first job puts the second one in the queue, and another worker
takes it up before the first has come back. -/
def overlappingRun : List (Action (component Nat)) :=
  [.arrive 1,.notify 0,.notify 0,.notify 0,.executor .pop,.dispatch 0,.take 0,.arrive 2,.proceed 0 false,
    .proceed 0 false,.check 0,.renotify 0,.renotify 0,.renotify 0,.executor .pop,.dispatch 0,.take 1]

/-- Two jobs are outstanding, and only one of them is in the callback. -/
theorem jobs_overlap : ∃ s history,
    (staffed Nat).run { system := created Nat newestOnly true 0 1 } (overlappingRun.map .inl) = some (s,history) ∧
    s.system.runs = [.returned,.working (.callback 2)] ∧ s.outstanding = 2 :=
  ⟨_,_,rfl,rfl,rfl⟩

end AutoRuntime.Subscription
