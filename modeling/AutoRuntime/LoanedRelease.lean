import AutoRuntime.LoanedSubscriber

/-! Every sample that a loaned subscription accepts is released once, and a delivered one not
before its callback is over. -/
namespace AutoRuntime.LoanedSubscriber

open Loan Subscription List

variable {γ : Type}

def releases (backends : List γ) : List (Event γ) := backends.map fun backend => .backend (.released backend)

/-- The backends that have been released. -/
def released (history : List (Event γ)) : List γ := history.flatMap fun
  | .backend (.released backend) => [backend]
  | _ => []

/-- The samples whose callback has been called. -/
def delivered (history : List (Event γ)) : List γ := history.flatMap fun
  | .noted (.delivered message) => message.sample.backend.toList
  | _ => []

/-- The samples whose callback has returned or thrown. -/
def finished (history : List (Event γ)) : List γ := history.flatMap fun
  | .noted (.finished message _) => message.sample.backend.toList
  | _ => []

def waiting (queue : List (LoanedMessage γ)) : List γ := queue.filterMap fun message => message.sample.backend

/-- The samples that came too late or too soon, that had to make room, or that were in the queue
when it was closed. -/
def discarded (history : List (Event γ)) : List γ := history.flatMap fun
  | .noted (.arrived message .ignored) | .noted (.arrived message .dropped) => message.sample.backend.toList
  | .noted (.arrived _ (.evicting oldest)) => oldest.sample.backend.toList
  | .noted (.closed queue) => waiting queue
  | _ => []

section Views

@[simp] theorem released_append (first second : List (Event γ)) :
    released (first ++ second) = released first ++ released second := flatMap_append
@[simp] theorem delivered_append (first second : List (Event γ)) :
    delivered (first ++ second) = delivered first ++ delivered second := flatMap_append
@[simp] theorem finished_append (first second : List (Event γ)) :
    finished (first ++ second) = finished first ++ finished second := flatMap_append
@[simp] theorem discarded_append (first second : List (Event γ)) :
    discarded (first ++ second) = discarded first ++ discarded second := flatMap_append

@[simp] theorem released_noted (event : Subscription.Event (LoanedMessage γ)) (rest : List (Event γ)) :
    released (.noted event :: rest) = released rest := rfl
@[simp] theorem delivered_cons (message : LoanedMessage γ) (rest : List (Event γ)) :
    delivered (.noted (.delivered message) :: rest) = message.sample.backend.toList ++ delivered rest := rfl

@[simp] theorem released_releases (backends : List γ) : released (releases backends) = backends := by
  simp [released,releases,flatMap_map]
@[simp] theorem delivered_releases (backends : List γ) : delivered (releases backends) = [] := by
  simp [delivered,releases]
@[simp] theorem finished_releases (backends : List γ) : finished (releases backends) = [] := by
  simp [finished,releases]
@[simp] theorem discarded_releases (backends : List γ) : discarded (releases backends) = [] := by
  simp [discarded,releases]

end Views

theorem destroy_sample (sample : TransportSubscriberSample γ) (answer : Status) :
    (sample.destroy answer).map Event.backend = releases sample.backend.toList := by
  obtain ⟨envelope,_ | backend⟩ := sample <;> rfl

theorem destroy_message (message : LoanedMessage γ) (answer : Status) :
    message.destroy answer = releases message.sample.backend.toList := destroy_sample message.sample answer

theorem clear_queue (queue : List (LoanedMessage γ)) (answer : Status) :
    clear queue answer = releases (waiting queue) := by
  induction queue with
  | nil => rfl
  | cons message rest ih =>
    have split : waiting (message :: rest) = message.sample.backend.toList ++ waiting rest := by
      cases owned : message.sample.backend <;> simp [waiting,owned]
    simp only [clear,flatMap_cons] at ih ⊢
    rw [ih,destroy_message,split,releases,releases,releases,map_append]

namespace Frame

/-- The backend of the handle in the frame. -/
def held : Frame γ → Option γ
  | .accept _ sample => sample.backend
  | .processOne _ message => message.sample.backend
  | .returned => none

/-- A sample that `Accept` has not judged yet. -/
def arriving : Frame γ → Option γ
  | .accept .entering sample => sample.backend
  | _ => none

/-- A sample that `Accept` still has in its parameter. -/
def parameter : Frame γ → Option γ
  | .accept _ sample => sample.backend
  | _ => none

def taken : Frame γ → Option γ
  | .processOne _ message => message.sample.backend
  | _ => none

/-- A sample whose callback is executing. -/
def calling : Frame γ → Option γ
  | .processOne .calling message => message.sample.backend
  | _ => none

@[simp] theorem accept_held (phase : AcceptPhase) (sample : TransportSubscriberSample γ) :
    (Frame.accept phase sample).held = sample.backend := rfl
@[simp] theorem accept_calling (phase : AcceptPhase) (sample : TransportSubscriberSample γ) :
    (Frame.accept phase sample).calling = none := rfl
@[simp] theorem entering_arriving (sample : TransportSubscriberSample γ) :
    (Frame.accept .entering sample).arriving = sample.backend := rfl
@[simp] theorem process_held (phase : ProcessPhase) (message : LoanedMessage γ) :
    (Frame.processOne phase message).held = message.sample.backend := rfl
@[simp] theorem process_arriving (phase : ProcessPhase) (message : LoanedMessage γ) :
    (Frame.processOne phase message).arriving = none := rfl
@[simp] theorem process_taken (phase : ProcessPhase) (message : LoanedMessage γ) :
    (Frame.processOne phase message).taken = message.sample.backend := rfl
@[simp] theorem calling_calling (message : LoanedMessage γ) :
    (Frame.processOne .calling message).calling = message.sample.backend := rfl
@[simp] theorem returned_held : (Frame.returned : Frame γ).held = none := rfl
@[simp] theorem returned_arriving : (Frame.returned : Frame γ).arriving = none := rfl
@[simp] theorem returned_calling : (Frame.returned : Frame γ).calling = none := rfl
@[simp] theorem returned_taken : (Frame.returned : Frame γ).taken = none := rfl

end Frame

/-- What happens to the samples between the queue of one state and that of the next, where a call
goes on from one frame to another. -/
structure Moved (s : Impl (LoanedMessage γ)) (frame : Frame γ) (t : Impl (LoanedMessage γ)) (next : Frame γ)
    (seen : List (Event γ)) : Prop where
  custody : (waiting s.queue ++ frame.held.toList).Perm (waiting t.queue ++ next.held.toList ++ released seen)
  judged : (waiting s.queue ++ frame.arriving.toList).Perm
    (waiting t.queue ++ next.arriving.toList ++ (delivered seen ++ discarded seen))
  called : (delivered seen ++ frame.calling.toList).Perm ([] ++ next.calling.toList ++ finished seen)
  taken : ∀ backend ∈ next.taken, backend ∈ frame.taken ∨ backend ∈ delivered seen
  apart : finished seen = [] ∨ released seen = []
  source : ∀ backend ∈ delivered seen, backend ∈ waiting s.queue
  emptied : (s.closed = true → s.queue = []) → t.closed = true → t.queue = []

variable {s t : Impl (LoanedMessage γ)}

theorem Moved.carried {frame next : Frame γ} (queue : t.queue = s.queue) (closed : t.closed = s.closed)
    (held : next.held = frame.held) (arriving : next.arriving = frame.arriving)
    (calling : next.calling = frame.calling) (taken : next.taken = frame.taken) : Moved s frame t next [] where
  custody := by simp [queue,held,released]
  judged := by simp [queue,arriving,delivered,discarded]
  called := by simp [calling,delivered,finished]
  taken := by
    intro backend here
    rw [taken] at here
    exact .inl here
  apart := .inl rfl
  source := by simp [delivered]
  emptied := by
    intro earlier shut
    rw [queue]
    exact earlier (closed ▸ shut)

theorem Moved.destroyed {frame : Frame γ} (arriving : frame.arriving = none) (calling : frame.calling = none) :
    Moved s frame s .returned (releases frame.held.toList) where
  custody := by simp
  judged := by simp [arriving]
  called := by simp [calling]
  taken := by simp
  apart := .inl (finished_releases _)
  source := by simp
  emptied := id

theorem waiting_cons (message : LoanedMessage γ) (queue : List (LoanedMessage γ)) :
    waiting (message :: queue) = message.sample.backend.toList ++ waiting queue := by
  cases owned : message.sample.backend <;> simp [waiting,owned]

theorem waiting_concat (queue : List (LoanedMessage γ)) (message : LoanedMessage γ) :
    waiting (queue ++ [message]) = waiting queue ++ message.sample.backend.toList := by
  cases owned : message.sample.backend <;> simp [waiting,owned]

/-- `Accept` after its section, with what is left of its parameter. -/
def accepted (notify : Bool) (left : TransportSubscriberSample γ) : Frame γ :=
  .accept (if notify then .notifying else .leaving) left

@[simp] theorem accepted_held (notify : Bool) (left : TransportSubscriberSample γ) :
    (accepted notify left).held = left.backend := rfl
@[simp] theorem accepted_arriving (notify : Bool) (left : TransportSubscriberSample γ) :
    (accepted notify left).arriving = none := by cases notify <;> rfl
@[simp] theorem accepted_calling (notify : Bool) (left : TransportSubscriberSample γ) :
    (accepted notify left).calling = none := rfl
@[simp] theorem accepted_taken (notify : Bool) (left : TransportSubscriberSample γ) :
    (accepted notify left).taken = none := rfl

theorem Moved.kept {sample : TransportSubscriberSample γ} {fate : Fate (LoanedMessage γ)} (queue : t.queue = s.queue)
    (closed : t.closed = s.closed) (refused : fate = .ignored ∨ fate = .dropped) :
    Moved s (.accept .entering sample) t (accepted false sample) [.noted (.arrived ⟨sample⟩ fate)] where
  custody := by simp [queue,released]
  judged := by rcases refused with rfl | rfl <;> simp [queue,delivered,discarded]
  called := by simp [delivered,finished]
  taken := by simp
  apart := .inl rfl
  source := by simp [delivered]
  emptied := by
    intro earlier shut
    rw [queue]
    exact earlier (closed ▸ shut)

theorem Moved.queued {sample left : TransportSubscriberSample γ} {fate : Fate (LoanedMessage γ)} {out : List γ}
    {rest : List (LoanedMessage γ)} (open_ : t.closed = false) (empty : left.backend = none)
    (before : waiting s.queue = out ++ waiting rest) (queue : t.queue = rest ++ [⟨sample⟩])
    (leaves : discarded [.noted (.arrived ⟨sample⟩ fate)] = out) :
    Moved s (.accept .entering sample) t (accepted notify left) (.noted (.arrived ⟨sample⟩ fate) :: releases out) := by
  have undelivered : delivered (.noted (.arrived ⟨sample⟩ fate) :: releases out) = [] := delivered_releases out
  have unfinished : finished (.noted (.arrived ⟨sample⟩ fate) :: releases out) = [] := finished_releases out
  have dismissed : discarded (.noted (.arrived ⟨sample⟩ fate) :: releases out) = out := by
    rw [← singleton_append,discarded_append,discarded_releases,leaves,append_nil]
  have rotated : (out ++ (waiting rest ++ sample.backend.toList)).Perm
      (waiting rest ++ (sample.backend.toList ++ out)) :=
    perm_append_comm.trans (List.Perm.of_eq (append_assoc _ _ _))
  refine ⟨?_,?_,?_,by simp,.inl unfinished,by simp [undelivered],by simp [open_]⟩
  · simpa [before,queue,waiting_concat,empty] using rotated
  · simpa [before,queue,waiting_concat,undelivered,dismissed] using rotated
  · simp [undelivered,unfinished]

theorem accept_moved (s : Impl (LoanedMessage γ)) (sample : TransportSubscriberSample γ) (answer : Status) :
    Moved s (.accept .entering sample) (accept s sample answer).1
      (accepted (accept s sample answer).2.1 (accept s sample answer).2.2.1) (accept s sample answer).2.2.2 := by
  cases closed : s.closed with
  | true =>
    simp only [accept,closed]
    exact .kept rfl rfl (.inl rfl)
  | false =>
    cases full : s.full with
    | false =>
      simp only [accept,closed,full]
      exact .queued rfl rfl (nil_append _).symm rfl rfl
    | true =>
      cases policy : s.options.overflowPolicy with
      | dropNewest =>
        simp only [accept,closed,full,policy]
        exact .kept rfl closed.symm (.inr rfl)
      | dropOldest =>
        cases queue : s.queue with
        | nil =>
          simp only [accept,closed,full,policy,queue]
          exact .kept queue.symm closed.symm (.inr rfl)
        | cons =>
          simp only [accept,closed,full,policy,queue,popFront,enqueue_push,
            append_nil,destroy_message]
          exact .queued rfl rfl (by rw [queue,waiting_cons]) rfl (by simp [discarded])

/-- The local of `ProcessOne` takes the front of the queue over; whatever it had is released. -/
theorem Moved.delivered {message front : LoanedMessage γ} {rest : List (LoanedMessage γ)} (open_ : t.closed = false)
    (queue : s.queue = front :: rest) (left : t.queue = rest) :
    Moved s (.processOne .taking message) t (.processOne .calling front)
      (.noted (.delivered front) :: releases message.sample.backend.toList) := by
  have unfinished : finished (.noted (.delivered front) :: releases message.sample.backend.toList) = [] :=
    finished_releases _
  have kept : discarded (.noted (.delivered front) :: releases message.sample.backend.toList) = [] :=
    discarded_releases _
  have idle : (Frame.processOne .taking message).calling = none := rfl
  have source : waiting s.queue = front.sample.backend.toList ++ waiting rest := by rw [queue,waiting_cons]
  refine ⟨?_,?_,?_,?_,.inl unfinished,?_,by simp [open_]⟩
  · simp only [source,left,released_noted,released_releases]
    exact perm_append_comm.append_right _
  · simpa [source,left,kept] using perm_append_comm
  · simp [idle,unfinished]
  · intro backend here
    exact .inr (by simpa using here)
  · intro backend here
    rw [source]
    exact mem_append_left _ (by simpa using here)

theorem take_moved (s : Impl (LoanedMessage γ)) (message : LoanedMessage γ) (answer : Status) :
    Moved s (.processOne .taking message) (take s message answer).1
      (.processOne (if (take s message answer).2.1 then .calling else .leaving) (take s message answer).2.2.1)
      (take s message answer).2.2.2 := by
  cases closed : s.closed with
  | true =>
    simp only [take,closed]
    exact .carried rfl closed.symm rfl rfl rfl rfl
  | false =>
    cases queue : s.queue with
    | nil =>
      simp only [take,closed,queue]
      exact .carried queue.symm closed.symm rfl rfl rfl rfl
    | cons front rest =>
      have calls : (message.moveAssign front answer).2.2 = releases message.sample.backend.toList :=
        destroy_sample message.sample answer
      have popped : popFront ((message.moveAssign front answer).2.1 :: rest) answer = (rest,[]) := rfl
      simp only [take,closed,queue,calls,popped,append_nil]
      exact .delivered rfl queue rfl

theorem Moved.finished {message : LoanedMessage γ} {phase : ProcessPhase} {threw : Bool}
    (ended : (Frame.processOne phase message).calling = none) :
    Moved s (.processOne .calling message) s (.processOne phase message) [.noted (.finished message threw)] where
  custody := by simp [released]
  judged := by simp [LoanedSubscriber.delivered,discarded]
  called := by simp [LoanedSubscriber.delivered,LoanedSubscriber.finished,ended]
  taken := fun _ here => .inl here
  apart := .inr rfl
  source := by simp [LoanedSubscriber.delivered]
  emptied := id

theorem close_moved (s : Impl (LoanedMessage γ)) (answer : Status) :
    Moved s .returned (close s answer).1 .returned (close s answer).2 := by
  simp only [close]
  split
  · exact .carried rfl rfl rfl rfl rfl rfl
  · have undelivered : delivered (.noted (.closed s.queue) :: releases (waiting s.queue)) = [] := delivered_releases _
    have unfinished : finished (.noted (.closed s.queue) :: releases (waiting s.queue)) = [] := finished_releases _
    have dismissed : discarded (.noted (.closed s.queue) :: releases (waiting s.queue)) = waiting s.queue := by
      rw [← singleton_append,discarded_append,discarded_releases]
      simp [discarded]
    have nothing : waiting ([] : List (LoanedMessage γ)) = [] := rfl
    rw [clear_queue]
    refine ⟨?_,?_,?_,by simp,.inl unfinished,by simp [undelivered],by simp⟩
    · simp [nothing]
    · simp [nothing,undelivered,dismissed]
    · simp [undelivered,unfinished]

theorem advance_moved {frame next : Frame γ} (advanced : advance s choice answer frame = some (t,next,seen)) :
    Moved s frame t next seen := by
  cases frame with
  | accept phase sample =>
    cases phase with
    | entering =>
      cases advanced
      exact accept_moved s sample answer
    | notifying =>
      cases advanced
      exact .carried rfl rfl rfl (by cases choice <;> rfl) rfl rfl
    | resetting =>
      cases advanced
      exact .carried rfl rfl rfl rfl rfl rfl
    | leaving =>
      cases advanced
      rw [destroy_sample]
      exact .destroyed rfl rfl
  | processOne phase message =>
    cases phase with
    | taking =>
      cases advanced
      exact take_moved s message answer
    | calling =>
      cases advanced
      exact .finished (by cases choice <;> rfl)
    | caught | counting | renotifying =>
      cases advanced
      exact .carried rfl rfl rfl rfl rfl rfl
    | checking =>
      simp only [advance] at advanced
      obtain ⟨rfl,rfl,rfl⟩ := advanced
      refine .carried ?_ (check_flags s).1 rfl rfl (by cases s.check.2 <;> rfl) rfl
      simp only [Impl.check]
      split <;> rfl
    | leaving =>
      cases advanced
      rw [destroy_message]
      exact .destroyed rfl rfl
  | returned => contradiction

def System.held (s : System γ) : List γ := waiting s.state.queue ++ s.frames.filterMap Frame.held

/-- The samples by who has them, and by what has become of them. -/
structure Books (s : System γ) (history : List (Event γ)) : Prop where
  custody : Custody.Ledger s.backends s.held (released history)
  judged : s.backends.Perm (waiting s.state.queue ++ s.frames.filterMap Frame.arriving ++
    (delivered history ++ discarded history))
  called : (delivered history).Perm (s.frames.filterMap Frame.calling ++ finished history)
  taken : ∀ backend ∈ s.frames.filterMap Frame.taken, backend ∈ delivered history
  ordered : ∀ before backend later, history = before ++ .backend (.released backend) :: later →
    backend ∈ delivered history → backend ∈ finished before
  emptied : s.state.closed = true → s.state.queue = []

theorem created_books (options : SubscriptionOptions) : Books (created options : System γ) [] :=
  ⟨.empty,.nil,.nil,by simp [created],by simp,fun _ => rfl⟩

theorem held_split (frames : List (Frame γ)) (member : backend ∈ frames.filterMap Frame.held) :
    backend ∈ frames.filterMap Frame.parameter ∨ backend ∈ frames.filterMap Frame.taken := by
  obtain ⟨frame,listed,held⟩ := mem_filterMap.mp member
  cases frame with
  | accept => exact .inl (mem_filterMap.mpr ⟨_,listed,held⟩)
  | processOne => exact .inr (mem_filterMap.mpr ⟨_,listed,held⟩)
  | returned => contradiction

theorem calling_held (frames : List (Frame γ)) (member : backend ∈ frames.filterMap Frame.calling) :
    backend ∈ frames.filterMap Frame.held := by
  obtain ⟨frame,listed,called⟩ := mem_filterMap.mp member
  cases frame with
  | accept | returned => contradiction
  | processOne phase =>
    cases phase with
    | calling => exact mem_filterMap.mpr ⟨_,listed,called⟩
    | taking | caught | counting | checking | renotifying | leaving => contradiction

/-- What the frames contribute when a call goes on. -/
def Exchanged (frames later : List (Frame γ)) (frame next : Frame γ) : Prop :=
  ∀ view : Frame γ → Option γ,
    ((view frame).toList ++ later.filterMap view).Perm ((view next).toList ++ frames.filterMap view)

theorem Books.move {s : System γ} (books : Books s history)
    (moved : Moved s.state frame t post seen) (exchanged : Exchanged s.frames later frame post)
    (present : ∀ backend ∈ frame.taken, backend ∈ s.frames.filterMap Frame.taken) :
    Books { s with state := t, frames := later } (history ++ seen) := by
  have custody : Custody.Ledger s.backends (waiting t.queue ++ later.filterMap Frame.held)
      (released (history ++ seen)) := by
    rw [released_append]
    exact books.custody.dispose (Custody.exchange_places (exchanged Frame.held) moved.custody)
  have called : (delivered (history ++ seen)).Perm (later.filterMap Frame.calling ++ finished (history ++ seen)) := by
    have places := Custody.exchange_places (exchanged Frame.calling) moved.called
    rw [delivered_append,finished_append]
    calc delivered history ++ delivered seen
      _ |>.Perm (s.frames.filterMap Frame.calling ++ finished history ++ delivered seen) := books.called.append_right _
      _ |>.Perm (delivered seen ++ s.frames.filterMap Frame.calling ++ finished history) := by
        rw [append_assoc (delivered seen)]
        exact perm_append_comm
      _ |>.Perm (later.filterMap Frame.calling ++ finished seen ++ finished history) := places.append_right _
      _ |>.Perm (later.filterMap Frame.calling ++ (finished history ++ finished seen)) := by
        rw [append_assoc]
        exact perm_append_comm.append_left _
  refine ⟨custody,?_,called,?_,?_,moved.emptied books.emptied⟩
  · have places := Custody.exchange_places (exchanged Frame.arriving) moved.judged
    rw [delivered_append,discarded_append]
    refine books.judged.trans ((places.append_right _).trans ?_)
    rw [append_assoc]
    refine List.Perm.append_left _ ?_
    calc delivered seen ++ discarded seen ++ (delivered history ++ discarded history)
      _ |>.Perm (delivered history ++ discarded history ++ (delivered seen ++ discarded seen)) := perm_append_comm
      _ |>.Perm (delivered history ++ delivered seen ++ (discarded history ++ discarded seen)) := by
        rw [append_assoc,append_assoc]
        exact (perm_append_comm_assoc _ _ _).append_left _
  · intro backend member
    have origin := (exchanged Frame.taken).subset (mem_append_right _ member)
    rw [delivered_append]
    rcases mem_append.mp origin with here | there
    · rcases moved.taken backend (by simpa using here) with old | new
      · exact mem_append_left _ (books.taken backend (present backend old))
      · exact mem_append_right _ new
    · exact mem_append_left _ (books.taken backend there)
  · intro before backend after split was
    rcases Machine.history_split split with ⟨between,earlier,-⟩ | ⟨between,now,rfl⟩
    · rw [delivered_append] at was
      rcases mem_append.mp was with old | new
      · exact books.ordered before backend between earlier old
      · -- a sample that has been released is in no queue, so it is not delivered now
        have gone : backend ∈ released history := by
          rw [earlier]
          simp [released]
        exact absurd (mem_append_left _ (moved.source backend new)) (books.custody.not_held gone)
    · -- a sample that is released now is in no callback, so its callback is over, and not just now
      have gone : backend ∈ released seen := by
        rw [now]
        simp [released]
      have absent := custody.not_held (by rw [released_append]; exact mem_append_right _ gone)
      rw [finished_append]
      rcases mem_append.mp (called.subset was) with executing | ended
      · exact absurd (mem_append_right _ (calling_held later executing)) absent
      · rw [finished_append] at ended
        rcases mem_append.mp ended with old | new
        · exact mem_append_left _ old
        · rcases moved.apart with nothing | nothing
          · simp [nothing] at new
          · simp [nothing] at gone

theorem Books.enter {s : System γ} (books : Books s history) (frame : Frame γ)
    (fresh : ∀ backend ∈ frame.held, backend ∉ s.backends) (arriving : frame.arriving = frame.held)
    (calling : frame.calling = none) (taken : frame.taken = none) :
    Books { s with frames := s.frames ++ [frame], backends := s.backends ++ frame.held.toList } (history ++ []) := by
  have joined {view : Frame γ → Option γ} :
      (s.frames ++ [frame]).filterMap view = s.frames.filterMap view ++ (view frame).toList := by
    cases seen : view frame <;> simp [seen]
  rw [append_nil]
  refine ⟨?_,?_,?_,?_,books.ordered,books.emptied⟩
  · have ledger := books.custody.receive frame.held fresh
    simpa [System.held,joined] using ledger
  · rw [joined,arriving]
    refine (books.judged.append_right _).trans ?_
    rw [append_assoc,← append_assoc (waiting _),append_assoc (waiting _ ++ _)]
    exact perm_append_comm.append_left _
  · rw [joined,calling,Option.toList_none,append_nil]
    exact books.called
  · rw [joined,taken,Option.toList_none,append_nil]
    exact books.taken

/-- No call is ever stuck. -/
theorem advance_enabled (s : Impl (LoanedMessage γ)) (choice : Bool) (answer : Status) {frame : Frame γ}
    (unfinished : frame ≠ .returned) : (advance s choice answer frame).isSome := by
  cases frame with
  | accept phase | processOne phase => cases phase <;> rfl
  | returned => contradiction

variable [DecidableEq γ]

theorem step_books {s t : System γ} (books : Books s history) (stepped : step s action = some (t,seen)) :
    Books t (history ++ seen) := by
  cases action with
  | accept sample =>
    simp only [step] at stepped
    split at stepped
    next fresh =>
      cases stepped
      refine books.enter (.accept .entering sample) ?_ rfl rfl rfl
      intro backend owned known
      have owned : sample.backend = some backend := owned
      simp [owned,known] at fresh
    next => contradiction
  | processOne =>
    cases stepped
    have entered := books.enter (.processOne .taking {}) (by simp) rfl rfl rfl
    simpa using entered
  | advance =>
    simp only [step] at stepped
    split at stepped
    · contradiction
    next frame active =>
      split at stepped
      · contradiction
      next u next emitted advanced =>
        cases stepped
        refine books.move (advance_moved advanced) ?_ ?_
        · exact fun view => Pool.filterMap_set_perm view s.frames active next
        · exact fun backend held => mem_filterMap.mpr ⟨frame,mem_of_getElem? active,held⟩
  | close answer =>
    cases stepped
    exact books.move (close_moved s.state answer) (fun view => .refl _) (by simp)

/-- A sample that `Accept` has been given is in one place until it is released once; when the
subscriber is closed and its calls have returned, all of them are. A delivered one is released after
its callback, and one that was refused, dropped, evicted or cleared is not delivered and is
released, at the latest when its `Accept` returns. Calls do return: each of them can go on. -/
theorem samples_released_once {s : System γ} (ran : (system γ).run (created options) actions = some (s,history)) :
    (∀ backend ∈ s.backends, s.held.count backend + (released history).count backend = 1) ∧
    (s.state.closed = true → (∀ frame ∈ s.frames, frame = .returned) →
      ∀ backend ∈ s.backends, (released history).count backend = 1) ∧
    (∀ before backend later, history = before ++ .backend (.released backend) :: later →
      backend ∈ delivered history → backend ∈ finished before) ∧
    (∀ backend ∈ discarded history, backend ∉ delivered history ∧
      (backend ∈ released history ∨ backend ∈ s.frames.filterMap Frame.parameter)) ∧
    ∀ (call : Nat) frame choice answer, s.frames[call]? = some frame → frame ≠ .returned →
      (step s (.advance call choice answer)).isSome := by
  have books : Books s history :=
    Machine.run_invariant (motive := Books) (fun _ _ _ _ _ => step_books) (created_books options) ran
  have once := fun backend (member : backend ∈ s.backends) => books.custody.count_once member
  refine ⟨once,?_,books.ordered,?_,?_⟩
  · intro closed returned backend member
    have nothing : s.held = [] := by
      have idle : s.frames.filterMap Frame.held = [] :=
        filterMap_eq_nil_iff.mpr fun frame listed => by rw [returned frame listed]; rfl
      rw [System.held,books.emptied closed,idle]
      rfl
    have settled := once backend member
    rwa [nothing,count_nil,Nat.zero_add] at settled
  · intro backend dismissed
    have distinct := books.judged.nodup_iff.mp books.custody.distinct
    have apart := disjoint_of_nodup_append (List.Nodup.of_append_right distinct)
    have undelivered : backend ∉ delivered history := fun was => apart was dismissed
    have dequeued : backend ∉ waiting s.state.queue := fun queued =>
      disjoint_of_nodup_append distinct (mem_append_left _ queued) (mem_append_right _ dismissed)
    have known : backend ∈ s.backends :=
      books.judged.mem_iff.mpr (mem_append_right _ (mem_append_right _ dismissed))
    refine ⟨undelivered,?_⟩
    rcases mem_append.mp (books.custody.balanced.subset known) with holding | gone
    · rcases mem_append.mp holding with queued | framed
      · exact absurd queued dequeued
      · rcases held_split s.frames framed with parameter | taken
        · exact .inr parameter
        · exact absurd (books.taken backend taken) undelivered
    · exact .inl gone
  · intro call frame choice answer active unfinished
    obtain ⟨⟨t,next,seen⟩,advanced⟩ := Option.isSome_iff_exists.mp (advance_enabled s.state choice answer unfinished)
    simp [step,active,advanced]

def onePlace : SubscriptionOptions := ⟨1,.dropOldest,Nat.one_pos⟩

/-- The first sample is delivered to a callback that throws, the second is evicted, the third cleared
and the fourth refused. -/
def everyWay : List (Action Nat) :=
  [.accept ⟨{},some 1⟩,.advance 0 false .success,.advance 0 false .success,.advance 0 false .success,
    .processOne,.advance 1 false .success,.accept ⟨{},some 2⟩,.advance 2 false .success,.advance 2 false .success,
    .accept ⟨{},some 3⟩,.advance 3 false .success,.advance 3 false .success,.close .success,
    .accept ⟨{},some 4⟩,.advance 4 false .success,.advance 4 false .success,
    .advance 1 true .success,.advance 1 false .success,.advance 1 false .success,.advance 1 false .success,
    .advance 1 false .success]

theorem samples_released_once_sample : ∃ s history,
    (system Nat).run (created onePlace) everyWay = some (s,history) ∧ released history = [2,3,4,1] ∧
    delivered history = [1] ∧ discarded history = [2,3,4] ∧
    ∀ backend ∈ s.backends, (released history).count backend = 1 := by
  have ran : (system Nat).run (created onePlace) everyWay = some _ := rfl
  exact ⟨_,_,ran,rfl,rfl,rfl,(samples_released_once ran).2.1 rfl (by decide)⟩

end AutoRuntime.LoanedSubscriber
