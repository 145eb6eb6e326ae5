import AutoRuntime.Mailbox

/-! A subscription: messages wait in a bounded queue for a callback that runs on the executor.
`Subscriber` and `LoanedSubscriber` are this code at two element types. -/
namespace AutoRuntime.Subscription

inductive OverflowPolicy where
  | dropNewest | dropOldest
  deriving DecidableEq, Repr

/-- `CreateSubscriber` refuses a capacity of zero. -/
structure SubscriptionOptions where
  queueCapacity : Nat
  overflowPolicy : OverflowPolicy
  capacity_pos : 0 < queueCapacity

structure SubscriptionStats where
  receivedMessages : Nat := 0
  deliveredMessages : Nat := 0
  droppedMessages : Nat := 0
  queueDepth : Nat := 0
  queueHighWatermark : Nat := 0
  deriving DecidableEq, Repr

/-- What becomes of a message that arrives. -/
inductive Fate (μ : Type) where
  | ignored
  | dropped
  | queued
  | evicting (oldest : μ)
  deriving DecidableEq, Repr

inductive Event (μ : Type) where
  | arrived (message : μ) (fate : Fate μ)
  | delivered (message : μ)
  | finished (message : μ) (threw : Bool)
  | closed (discarded : List μ)
  deriving DecidableEq, Repr

/-- `ProcessOne` between its first section and its last: the callback runs, its throw is still
to be counted, or the delivery is. -/
inductive Work (μ : Type) where
  | callback (message : μ)
  | failed
  | counting
  deriving DecidableEq, Repr

structure Impl (μ : Type) where
  closed : Bool
  scheduled : Bool
  queue : List μ
  options : SubscriptionOptions
  stats : SubscriptionStats

variable {μ : Type}

def Impl.new (options : SubscriptionOptions) : Impl μ := ⟨false,false,[],options,{}⟩

/-- The end of `Accept`'s section: the message is queued, and the caller notifies if the flag
was down. -/
def Impl.push (s : Impl μ) (message : μ) : Impl μ × Bool :=
  let queue := s.queue ++ [message]
  ({ s with
    scheduled := true
    queue := queue
    stats := { s.stats with
      queueDepth := queue.length
      queueHighWatermark := max s.stats.queueHighWatermark queue.length } },!s.scheduled)

def Impl.full (s : Impl μ) : Bool := s.queue.length ≥ s.options.queueCapacity

/-- The section of `Accept`. -/
def Impl.accept (s : Impl μ) (message : μ) : Impl μ × Bool × List (Event μ) :=
  if s.closed then (s,false,[.arrived message .ignored])
  else
    let received := { s.stats with receivedMessages := s.stats.receivedMessages + 1 }
    if s.full then
      let dropped := { received with droppedMessages := received.droppedMessages + 1 }
      match s.options.overflowPolicy, s.queue with
      | .dropOldest, oldest :: rest =>
        let (pushed,notify) := { s with queue := rest, stats := dropped : Impl μ }.push message
        (pushed,notify,[.arrived message (.evicting oldest)])
      | _, _ => ({ s with stats := dropped },false,[.arrived message .dropped])
    else
      let (pushed,notify) := { s with stats := received : Impl μ }.push message
      (pushed,notify,[.arrived message .queued])

/-- `Accept` was refused by the executor. -/
def Impl.refused (s : Impl μ) : Impl μ := { s with scheduled := false }

/-- The first section of `ProcessOne`. -/
def Impl.take (s : Impl μ) : Impl μ × Option (Work μ) × List (Event μ) :=
  match s.closed, s.queue with
  | false, message :: rest =>
    ({ s with queue := rest, stats := { s.stats with queueDepth := rest.length } },
      some (.callback message),[.delivered message])
  | _, _ => ({ s with scheduled := false },none,[])

/-- `ProcessOne` in the middle. -/
def Impl.proceed (s : Impl μ) : Work μ → Bool → Impl μ × Option (Work μ) × List (Event μ)
  | .callback message, threw =>
    (s,some (if threw then .failed else .counting),[.finished message threw])
  | .failed, _ =>
    ({ s with stats := { s.stats with droppedMessages := s.stats.droppedMessages + 1 } },some .counting,[])
  | .counting, _ =>
    ({ s with stats := { s.stats with deliveredMessages := s.stats.deliveredMessages + 1 } },none,[])

/-- The last section of `ProcessOne`. -/
def Impl.check (s : Impl μ) : Impl μ × Bool :=
  if s.closed || s.queue.isEmpty then ({ s with scheduled := false },false) else (s,true)

def Impl.close (s : Impl μ) : Impl μ × List (Event μ) :=
  if s.closed then (s,[])
  else
    ({ s with closed := true, scheduled := false, queue := [], stats := { s.stats with queueDepth := 0 } },
      [.closed s.queue])

theorem push_flags (s : Impl μ) (message : μ) : (s.push message).1.closed = s.closed ∧
    (s.push message).1.scheduled = true ∧ (s.push message).2 = !s.scheduled := ⟨rfl,rfl,rfl⟩

def Impl.received (s : Impl μ) : SubscriptionStats :=
  { s.stats with receivedMessages := s.stats.receivedMessages + 1 }

def Impl.dropping (s : Impl μ) : SubscriptionStats :=
  { s.received with droppedMessages := s.received.droppedMessages + 1 }

/-- What the section of `Accept` can come to. The capacity is positive, so a full queue has an
oldest message. -/
inductive Accepted (s : Impl μ) (message : μ) : Impl μ × Bool × List (Event μ) → Prop
  | ignored : s.closed = true → Accepted s message (s,false,[.arrived message .ignored])
  | dropped : s.closed = false → s.full = true → s.options.overflowPolicy = .dropNewest →
      Accepted s message ({ s with stats := s.dropping },false,[.arrived message .dropped])
  | evicted : s.closed = false → s.full = true → s.options.overflowPolicy = .dropOldest →
      s.queue = oldest :: rest → Accepted s message
        (({ s with queue := rest, stats := s.dropping : Impl μ }.push message).1,!s.scheduled,
          [.arrived message (.evicting oldest)])
  | queued : s.closed = false → s.full = false → Accepted s message
      (({ s with stats := s.received : Impl μ }.push message).1,!s.scheduled,[.arrived message .queued])

theorem accept_accepted (s : Impl μ) (message : μ) : Accepted s message (s.accept message) := by
  have positive := s.options.capacity_pos
  unfold Impl.accept
  split
  next closed => exact .ignored closed
  next open_ =>
    simp only [Bool.not_eq_true] at open_
    split
    next full =>
      have crowded : s.options.queueCapacity ≤ s.queue.length := by simpa [Impl.full] using full
      split
      next oldest rest policy queue => exact .evicted open_ full policy queue
      next other =>
        refine .dropped open_ full ?_
        cases policy : s.options.overflowPolicy with
        | dropNewest => rfl
        | dropOldest =>
          obtain ⟨oldest,rest,queue⟩ :=
            List.exists_cons_of_length_pos (Nat.lt_of_lt_of_le positive crowded)
          exact absurd queue (other oldest rest policy)
    next free => exact .queued open_ (by simpa using free)

theorem accept_flags (s : Impl μ) (message : μ) : (s.accept message).1.closed = s.closed ∧
    ((s.accept message).2.1 = true →
      s.closed = false ∧ s.scheduled = false ∧ (s.accept message).1.scheduled = true) ∧
    ((s.accept message).2.1 = false → (s.accept message).1.scheduled = s.scheduled) := by
  have accepted := accept_accepted s message
  generalize s.accept message = result at accepted ⊢
  cases accepted with
  | ignored | dropped => simp
  | evicted open_ | queued open_ => cases s.scheduled <;> simp [push_flags,open_]

theorem take_flags (s : Impl μ) : s.take.1.closed = s.closed ∧
    (s.take.2.1 = none → s.take.1.scheduled = false) ∧
    (∀ work, s.take.2.1 = some work → s.take.1.scheduled = s.scheduled) := by
  simp only [Impl.take]
  split <;> simp

theorem proceed_flags (s : Impl μ) (work : Work μ) (threw : Bool) :
    (s.proceed work threw).1.scheduled = s.scheduled ∧ (s.proceed work threw).1.closed = s.closed := by
  cases work <;> exact ⟨rfl,rfl⟩

theorem check_flags (s : Impl μ) : s.check.1.closed = s.closed ∧
    (s.check.2 = true → s.check.1.scheduled = s.scheduled) ∧
    (s.check.2 = false → s.check.1.scheduled = false) := by
  simp only [Impl.check]
  split <;> simp

theorem close_closed (s : Impl μ) : s.close.1.closed = true := by
  simp only [Impl.close]
  split
  next closed => exact closed
  · rfl

abbrev component (μ : Type) : Component where
  State := Impl μ
  Input := μ
  Work := Work μ
  Outcome := Bool
  Reaction := Empty
  Event := Event μ
  scheduled := Impl.scheduled
  closed := Impl.closed
  arrive := fun s _ message => s.accept message
  refused := fun s _ _ => (s.refused,[])
  take := Impl.take
  proceed := fun s work threw => some (s.proceed work threw)
  check := Impl.check
  close := Impl.close
  react := fun _ _ reaction => reaction.elim
  arrive_closed := (accept_flags _ _).1
  arrive_notifies := (accept_flags _ _).2.1
  arrive_quiet := (accept_flags _ _).2.2
  refused_closed := rfl
  take_closed := (take_flags _).1
  take_nothing := (take_flags _).2.1
  take_work := (take_flags _).2.2 _
  proceed_flags := fun {s work threw t next seen} proceeded => by
    obtain rfl : (s.proceed work threw).1 = t := congrArg Prod.fst (Option.some.inj proceeded)
    exact proceed_flags s work threw
  check_closed := (check_flags _).1
  check_notifies := (check_flags _).2.1
  check_quiet := (check_flags _).2.2
  close_closed := close_closed _
  react_flags := fun {_ _ reaction} => reaction.elim

/-- A subscription as `CreateSubscriber` leaves it. -/
def created (μ : Type) (options : SubscriptionOptions) (running : Bool) (others groupCapacity : Nat) :
    Mailbox.System (component μ) :=
  ⟨Impl.new options,.added running others groupCapacity,[],[]⟩

end AutoRuntime.Subscription
