import AutoRuntime.Mailbox
import AutoRuntime.Pool

/-! At most one thread or job of a mailbox is on its way to the next `ProcessOne`. Such a token
is a caller that has raised the flag and not yet seen its `Notify` through, a job counted by
the task, or an execution of `ProcessOne` before its last section is over. -/
namespace AutoRuntime

open List Pool

/-- What one section of `Enqueue` can do. -/
inductive Port.Enqueued (port : Port) : Progress → Port → Progress ⊕ Status → Prop
  | sequenced : port.running = true → port.stopping = false →
      Enqueued port .requested port (.inl .sequenced)
  | reserved : port.cancelled = false → port.queued < taskCapacity →
      Enqueued port .sequenced { port with queued := port.queued + 1 } (.inl .reserved)
  | pushed : port.groupStopping = false → port.room = true →
      Enqueued port .reserved { port with jobs := port.jobs + 1 } (.inr .success)
  | closed : (port.running = false ∨ port.stopping = true) → status.ok = false →
      Enqueued port .requested port (.inr status)
  | denied : (port.cancelled = true ∨ taskCapacity ≤ port.queued) → status.ok = false →
      Enqueued port .sequenced port (.inr status)
  | withdrawn : (port.groupStopping = true ∨ port.room = false) → status.ok = false →
      Enqueued port .reserved { port with queued := port.queued - 1 } (.inr status)

theorem Port.enqueue_enqueued (port : Port) (progress : Progress) :
    port.Enqueued progress (port.enqueue progress).1 (port.enqueue progress).2 := by
  cases progress with
  | requested =>
    simp only [enqueue]
    split
    next refused => exact .closed (by simpa using refused) rfl
    next open_ =>
      simp only [Bool.or_eq_true,Bool.not_eq_eq_eq_not,Bool.not_true,not_or,Bool.not_eq_false,
        Bool.not_eq_true] at open_
      exact .sequenced open_.1 open_.2
  | sequenced =>
    simp only [enqueue]
    split
    next cancelled => exact .denied (.inl cancelled) rfl
    split
    next full => exact .denied (.inr full) rfl
    next alive free => exact .reserved (by simpa using alive) (by omega)
  | reserved =>
    simp only [enqueue]
    split
    next stopping => exact .withdrawn (.inl stopping) rfl
    split
    next full => exact .withdrawn (.inr (by simpa [room] using full)) rfl
    next open_ free => exact .pushed (by simpa using open_) (by simpa [room] using free)

namespace Mailbox

def CallPhase.token : CallPhase → Bool
  | .notifying .requested | .notifying .sequenced | .refused _ => true
  | .notifying .reserved | .returned => false

def CallPhase.reserving : CallPhase → Bool
  | .notifying .reserved => true
  | _ => false

def RunPhase.token : RunPhase ω → Bool
  | .taking | .working _ | .checking | .notifying .requested | .notifying .sequenced => true
  | .notifying .reserved | .returned => false

def RunPhase.reserving : RunPhase ω → Bool
  | .notifying .reserved => true
  | _ => false

variable {c : Component}

/-- What one step can be. -/
inductive Took (s : System c) : Action c → System c → List c.Event → Prop
  | arrived (input : c.Input) : Took s (.arrive input)
      { s with
        state := (c.arrive s.state s.calls.length input).1
        calls := s.calls ++ [if (c.arrive s.state s.calls.length input).2.1 then .notifying .requested
          else .returned] } (c.arrive s.state s.calls.length input).2.2
  | notified : s.calls[call]? = some (.notifying progress) → s.port.Enqueued progress port post →
      Took s (.notify call) { s with port := port, calls := s.calls.set call (.notified post) } []
  | refused : s.calls[call]? = some (.refused status) → Took s (.refuse call)
      { s with state := (c.refused s.state call status).1, calls := s.calls.set call .returned }
      (c.refused s.state call status).2
  | discarded : s.port.popped[job]? = some flag → (s.port.cancelled = true ∨ flag = true) →
      Took s (.dispatch job) { s with port := { s.port with
        queued := s.port.queued - 1, popped := s.port.popped.eraseIdx job } } []
  | dispatched : s.port.popped[job]? = some false → s.port.cancelled = false →
      Took s (.dispatch job) { s with
        port := { s.port with queued := s.port.queued - 1, popped := s.port.popped.eraseIdx job }
        runs := s.runs ++ [.taking] } []
  | took : s.runs[run]? = some .taking → Took s (.take run)
      { s with state := (c.take s.state).1, runs := s.runs.set run (.taken (c.take s.state).2.1) }
      (c.take s.state).2.2
  | proceeded : s.runs[run]? = some (.working work) → c.proceed s.state work outcome = some (state,post,seen) →
      Took s (.proceed run outcome) { s with state := state, runs := s.runs.set run (.proceeded post) } seen
  | checked : s.runs[run]? = some .checking → Took s (.check run)
      { s with
        state := (c.check s.state).1
        runs := s.runs.set run (if (c.check s.state).2 then .notifying .requested else .returned) } []
  | renotified : s.runs[run]? = some (.notifying progress) → s.port.Enqueued progress port post →
      Took s (.renotify run) { s with port := port, runs := s.runs.set run (.notified post) } []
  | closed : Took s .close { s with state := (c.close s.state).1 } (c.close s.state).2
  | cancelled : c.closed s.state = true → Took s .cancel { s with port := { s.port with cancelled := true } } []
  | reacted : c.react s.state s.through reaction = some (state,seen) →
      Took s (.react reaction) { s with state := state } seen
  | executor : s.port.step action = some port → Took s (.executor action) { s with port := port } []

theorem quiet_eq_some {next : Option (System c)} : quiet next = some (t,seen) ↔ next = some t ∧ seen = [] := by
  cases next <;> simp [quiet]

variable {s : System c}

theorem step_took (stepped : step s action = some (t,seen)) : Took s action t seen := by
  cases action with
  | arrive input =>
    cases stepped
    exact .arrived input
  | notify =>
    obtain ⟨notified,rfl⟩ := quiet_eq_some.mp stepped
    simp only [System.notify] at notified
    split at notified
    next progress active =>
      cases notified
      exact .notified active (s.port.enqueue_enqueued progress)
    · contradiction
  | refuse =>
    simp only [step,System.refuse] at stepped
    split at stepped
    next status active =>
      cases stepped
      exact .refused active
    · contradiction
  | dispatch =>
    obtain ⟨dispatched,rfl⟩ := quiet_eq_some.mp stepped
    unfold System.dispatch at dispatched
    split at dispatched
    · contradiction
    next flag active =>
      dsimp only at dispatched
      split at dispatched <;> cases dispatched
      next dropped => exact .discarded active (by simpa using dropped)
      next kept =>
        simp only [Bool.or_eq_true,not_or,Bool.not_eq_true] at kept
        exact .dispatched (kept.2 ▸ active) kept.1
  | take =>
    simp only [step,System.take] at stepped
    split at stepped
    next active =>
      cases stepped
      exact .took active
    · contradiction
  | proceed =>
    simp only [step,System.proceed] at stepped
    split at stepped
    next work active =>
      split at stepped
      · contradiction
      next state next events proceeded =>
        cases stepped
        exact .proceeded active proceeded
    · contradiction
  | check =>
    obtain ⟨checked,rfl⟩ := quiet_eq_some.mp stepped
    simp only [System.check] at checked
    split at checked
    next active =>
      cases checked
      exact .checked active
    · contradiction
  | renotify =>
    obtain ⟨notified,rfl⟩ := quiet_eq_some.mp stepped
    simp only [System.renotify] at notified
    split at notified
    next progress active =>
      cases notified
      exact .renotified active (s.port.enqueue_enqueued progress)
    · contradiction
  | close =>
    cases stepped
    exact .closed
  | cancel =>
    simp only [step] at stepped
    split at stepped
    next closed =>
      cases stepped
      exact .cancelled closed
    · contradiction
  | react =>
    obtain ⟨⟨state,events⟩,reacted,same⟩ := Option.map_eq_some_iff.mp stepped
    cases same
    exact .reacted reacted
  | executor =>
    obtain ⟨moved,rfl⟩ := quiet_eq_some.mp stepped
    obtain ⟨port,acted,rfl⟩ := Option.map_eq_some_iff.mp moved
    exact .executor acted

def System.tokens (s : System c) : Nat :=
  s.calls.countP CallPhase.token + s.runs.countP RunPhase.token + s.port.queued

structure Sound (s : System c) : Prop where
  account : s.port.queued = s.port.jobs + s.port.popped.length +
    s.calls.countP CallPhase.reserving + s.runs.countP RunPhase.reserving
  single : s.tokens ≤ 1
  idle : c.closed s.state = false → c.scheduled s.state = false → s.tokens = 0
  marked : s.port.groupStopping = true → s.port.stopping = true
  flagged : true ∈ s.port.popped → s.port.stopping = true
  cancelled : s.port.cancelled = true → c.closed s.state = true
  exclusive : s.port.running = true → s.port.stopping = false

theorem added_sound (state : c.State) (running : Bool) (others capacity : Nat) :
    Sound (c := c) ⟨state,.added running others capacity,[],[]⟩ :=
  ⟨rfl,Nat.zero_le 1,fun _ _ => rfl,by simp [Port.added],by simp [Port.added],by simp [Port.added],
    fun _ => rfl⟩

theorem notify_counts (sound : Sound s) (active : s.calls[call]? = some (.notifying progress))
    (took : s.port.Enqueued progress port post) :
    { s with port := port, calls := s.calls.set call (.notified post) : System c }.tokens = s.tokens ∧
      port.queued = port.jobs + port.popped.length +
        (s.calls.set call (.notified post)).countP CallPhase.reserving +
        s.runs.countP RunPhase.reserving := by
  have token := countP_set CallPhase.token s.calls active (.notified post)
  have reserving := countP_set CallPhase.reserving s.calls active (.notified post)
  have account := sound.account
  cases took with
  | sequenced | reserved | pushed =>
    simp [CallPhase.token,CallPhase.reserving,CallPhase.notified,System.tokens] at token reserving ⊢
    omega
  | closed _ bad | denied _ bad | withdrawn _ bad =>
    simp [CallPhase.token,CallPhase.reserving,CallPhase.notified,System.tokens,bad] at token reserving ⊢
    omega

theorem renotify_counts (sound : Sound s) (active : s.runs[run]? = some (.notifying progress))
    (took : s.port.Enqueued progress port post) :
    { s with port := port, runs := s.runs.set run (.notified post) : System c }.tokens ≤ s.tokens ∧
      port.queued = port.jobs + port.popped.length + s.calls.countP CallPhase.reserving +
        (s.runs.set run (.notified post)).countP RunPhase.reserving := by
  have token := countP_set RunPhase.token s.runs active (.notified post)
  have reserving := countP_set RunPhase.reserving s.runs active (.notified post)
  have account := sound.account
  cases took <;>
    simp [RunPhase.token,RunPhase.reserving,RunPhase.notified,System.tokens] at token reserving ⊢ <;>
    omega

theorem Enqueued.frame {port : Port} (took : port.Enqueued progress changed post) :
    changed.groupStopping = port.groupStopping ∧ changed.stopping = port.stopping ∧
      changed.popped = port.popped ∧ changed.cancelled = port.cancelled ∧
      changed.running = port.running := by
  cases took <;> exact ⟨rfl,rfl,rfl,rfl,rfl⟩

/-- The rest of the executor moves jobs from the queue to the workers and nothing else. -/
structure Drift (port changed : Port) : Prop where
  queued : changed.queued = port.queued
  cancelled : changed.cancelled = port.cancelled
  jobs : changed.jobs + changed.popped.length = port.jobs + port.popped.length
  stopping : port.stopping = true → changed.stopping = true
  started : port.running = true → changed.running = true ∨ changed.stopping = true
  marked : changed.groupStopping = true → port.groupStopping = true ∨ changed.stopping = true
  flagged : true ∈ changed.popped → true ∈ port.popped ∨ port.groupStopping = true
  exclusive : (port.running = true → port.stopping = false) → changed.running = true →
    changed.stopping = false

theorem port_drift {port : Port} (acted : port.step action = some changed) : Drift port changed := by
  cases action <;> simp only [Port.step] at acted <;> split at acted <;>
    first
    | contradiction
    | cases acted
  · exact ⟨rfl,rfl,rfl,id,fun _ => .inl rfl,.inl,.inl,fun _ _ => by simp_all⟩
  · exact ⟨rfl,rfl,rfl,fun _ => rfl,fun _ => .inr rfl,.inl,.inl,fun _ on => by simp at on⟩
  next stopping => exact ⟨rfl,rfl,rfl,id,.inl,fun _ => .inr stopping,.inl,id⟩
  · exact ⟨rfl,rfl,rfl,id,.inl,.inl,.inl,id⟩
  next waiting =>
    refine ⟨rfl,rfl,?_,id,.inl,.inl,fun member => ?_,id⟩
    · simp only [length_append,length_singleton]
      omega
    · exact (mem_append.mp member).imp_right fun last => (mem_singleton.mp last).symm

section

variable (sound : Sound s)

include sound

theorem Sound.within {t : System c} (port : t.port = s.port)
    (reserving : t.calls.countP CallPhase.reserving + t.runs.countP RunPhase.reserving =
      s.calls.countP CallPhase.reserving + s.runs.countP RunPhase.reserving) (single : t.tokens ≤ 1)
    (closed : c.closed s.state = true → c.closed t.state = true)
    (idle : c.closed t.state = false → c.scheduled t.state = false → t.tokens = 0) : Sound t where
  account := by
    have account := sound.account
    rw [port]
    omega
  single := single
  idle := idle
  marked := port ▸ sound.marked
  flagged := port ▸ sound.flagged
  cancelled := fun on => closed (sound.cancelled (port ▸ on))
  exclusive := port ▸ sound.exclusive

theorem runner_sound (active : s.runs[run]? = some old) (state : c.State) (next : RunPhase c.Work)
    (holds : old.token = true) (idle : old.reserving = next.reserving) (closed : c.closed state = c.closed s.state)
    (flag : next.token = true ∧ c.scheduled state = c.scheduled s.state ∨ next.token = false) :
    Sound { s with state := state, runs := s.runs.set run next } := by
  have token := countP_set RunPhase.token s.runs active next
  have reserving := countP_set RunPhase.reserving s.runs active next
  have single := sound.single
  rw [holds] at token
  rw [idle] at reserving
  simp only [System.tokens,Bool.toNat_true] at single token
  refine sound.within rfl ?_ ?_ (closed.trans · ) ?_
  · simp only
    omega
  · have bound := Bool.toNat_le next.token
    simp only [System.tokens]
    omega
  · intro open_ off
    rcases flag with ⟨kept,same⟩ | gone
    · have none := sound.idle (closed ▸ open_) (same ▸ off)
      rw [kept] at token
      simp only [System.tokens,Bool.toNat_true] at none token ⊢
      omega
    · rw [gone] at token
      simp only [System.tokens,Bool.toNat_false] at token ⊢
      omega

theorem dispatched_tokens (active : s.port.popped[job]? = some flag) :
    { s with
      port := { s.port with queued := s.port.queued - 1, popped := s.port.popped.eraseIdx job }
      runs := s.runs ++ [.taking] : System c }.tokens = s.tokens := by
  have inside := inside active
  have account := sound.account
  simp only [System.tokens,countP_append,countP_singleton,RunPhase.token,if_true]
  omega

theorem arrived_sound (input : c.Input) :
    Sound { s with
      state := (c.arrive s.state s.calls.length input).1
      calls := s.calls ++ [if (c.arrive s.state s.calls.length input).2.1 then .notifying .requested
        else .returned] } := by
  have closed : c.closed (c.arrive s.state s.calls.length input).1 = c.closed s.state := c.arrive_closed
  cases notify : (c.arrive s.state s.calls.length input).2.1 with
  | true =>
    obtain ⟨open_,down,up⟩ := c.arrive_notifies notify
    have none := sound.idle open_ down
    refine sound.within rfl (by simp [CallPhase.reserving]) ?_ closed.trans (fun _ off => ?_)
    · simp only [System.tokens,countP_append,countP_singleton,if_true,CallPhase.token] at none ⊢
      omega
    · simp [up] at off
  | false =>
    have same : { s with
        calls := s.calls ++ [.returned] : System c }.tokens = s.tokens := by
      simp [System.tokens,CallPhase.token]
    exact sound.within rfl (by simp [CallPhase.reserving]) (same ▸ sound.single) closed.trans
      (fun open_ off => same ▸ sound.idle (closed ▸ open_) (c.arrive_quiet notify ▸ off))

theorem enqueued_sound (took : s.port.Enqueued progress port post)
    (fewer : { s with port := port, calls := calls, runs := runs : System c }.tokens ≤ s.tokens)
    (account : port.queued = port.jobs + port.popped.length + calls.countP CallPhase.reserving +
      runs.countP RunPhase.reserving) : Sound { s with port := port, calls := calls, runs := runs } := by
  obtain ⟨group,stopping,popped,cancelled,running⟩ := Enqueued.frame took
  refine ⟨account,Nat.le_trans fewer sound.single,fun open_ off => ?_,?_,?_,?_,?_⟩
  · have none := sound.idle open_ off
    omega
  · simpa [group,stopping] using sound.marked
  · simpa [popped,stopping] using sound.flagged
  · simpa [cancelled] using sound.cancelled
  · simpa [running,stopping] using sound.exclusive

theorem refused_sound (active : s.calls[call]? = some (.refused status)) :
    Sound { s with state := (c.refused s.state call status).1, calls := s.calls.set call .returned } := by
  have single := sound.single
  have token := countP_set CallPhase.token s.calls active .returned
  have reserving := countP_set CallPhase.reserving s.calls active .returned
  have closed : c.closed (c.refused s.state call status).1 = c.closed s.state := c.refused_closed
  simp only [CallPhase.token,CallPhase.reserving,Bool.toNat_true,Bool.toNat_false] at token reserving
  have gone : { s with state := (c.refused s.state call status).1
                       calls := s.calls.set call .returned : System c }.tokens = 0 := by
    simp only [System.tokens] at single ⊢
    omega
  exact sound.within rfl (by simp only; omega) (by omega) closed.trans (fun _ _ => gone)

theorem dispatch_sound (active : s.port.popped[job]? = some flag)
    (same : runs.countP RunPhase.reserving = s.runs.countP RunPhase.reserving) (fewer : { s with
      port := { s.port with queued := s.port.queued - 1, popped := s.port.popped.eraseIdx job }
      runs := runs : System c }.tokens ≤ s.tokens) :
    Sound { s with
      port := { s.port with queued := s.port.queued - 1, popped := s.port.popped.eraseIdx job }
      runs := runs } := by
  have inside := inside active
  have shorter := length_eraseIdx_of_lt inside
  have account := sound.account
  refine ⟨?_,Nat.le_trans fewer sound.single,fun open_ off => ?_,sound.marked,
    fun member => sound.flagged (mem_of_mem_eraseIdx member),sound.cancelled,sound.exclusive⟩
  · simp only
    omega
  · have none := sound.idle open_ off
    omega

theorem executor_sound (acted : s.port.step action = some port) : Sound { s with port := port } := by
  have account := sound.account
  have drift := port_drift acted
  have same : { s with port := port : System c }.tokens = s.tokens := congrArg (_ + ·) drift.queued
  refine ⟨?_,same ▸ sound.single,fun open_ off => same ▸ sound.idle open_ off,fun on => ?_,fun member => ?_,?_,
    drift.exclusive sound.exclusive⟩
  · have moved := drift.jobs
    have kept := drift.queued
    simp only
    omega
  · exact (drift.marked on).elim (drift.stopping ∘ sound.marked) id
  · exact drift.stopping ((drift.flagged member).elim sound.flagged sound.marked)
  · exact drift.cancelled ▸ sound.cancelled

theorem step_sound (stepped : step s action = some (t,seen)) : Sound t := by
  cases step_took stepped with
  | arrived input => exact arrived_sound sound input
  | notified active took =>
    obtain ⟨tokens,account⟩ := notify_counts sound active took
    exact enqueued_sound sound took (Nat.le_of_eq tokens) account
  | renotified active took =>
    obtain ⟨tokens,account⟩ := renotify_counts sound active took
    exact enqueued_sound sound took tokens account
  | refused active => exact refused_sound sound active
  | discarded active =>
    refine dispatch_sound sound active rfl ?_
    simp only [System.tokens]
    omega
  | dispatched active =>
    refine dispatch_sound sound active ?_ (Nat.le_of_eq (dispatched_tokens sound active))
    simp [RunPhase.reserving]
  | took active =>
    refine runner_sound sound active _ _ rfl ?_ c.take_closed ?_
    · cases (c.take s.state).2.1 <;> rfl
    · cases work : (c.take s.state).2.1 with
      | none => exact .inr rfl
      | some => exact .inl ⟨rfl,c.take_work work⟩
  | @proceeded run work outcome state next seen active proceeded =>
    obtain ⟨flag,closed⟩ := c.proceed_flags proceeded
    refine runner_sound sound active _ _ rfl ?_ closed (.inl ⟨?_,flag⟩) <;> cases next <;> rfl
  | checked active =>
    refine runner_sound sound active _ _ rfl ?_ c.check_closed ?_
    · cases (c.check s.state).2 <;> rfl
    · cases notify : (c.check s.state).2 with
      | true => exact .inl ⟨rfl,c.check_notifies notify⟩
      | false => exact .inr rfl
  | closed =>
    exact sound.within rfl rfl sound.single (fun _ => c.close_closed)
      (fun open_ => by simp [c.close_closed] at open_)
  | cancelled closed => exact ⟨sound.account,sound.single,sound.idle,sound.marked,sound.flagged,fun _ => closed,
      sound.exclusive⟩
  | reacted reacted =>
    obtain ⟨flag,closed⟩ := c.react_flags reacted
    exact sound.within rfl rfl sound.single closed.trans
      (fun open_ off => sound.idle (closed ▸ open_) (flag ▸ off))
  | executor acted => exact executor_sound sound acted

theorem run_sound (ran : (system c).run s actions = some (t,history)) : Sound t :=
  Machine.run_invariant (motive := fun s _ => Sound s)
    (fun _ _ _ _ _ sound stepped => step_sound sound stepped) sound ran

end

end Mailbox

end AutoRuntime
