import AutoRuntime.MailboxArming
import AutoRuntime.Service

/-! When a service is stuck. A caller that the executor refuses takes its own call back and
lowers the flag only if no other call is left, and `ProcessOne` does not look at the status
of its own notification. -/
namespace AutoRuntime.Service

open Mailbox

/-- Calls in the queue of an open service keep the flag up. -/
def Impl.Raised (s : Impl) : Prop := s.closed = false → s.queue ≠ [] → s.scheduled = true

theorem invoke_raised {s : Impl} (raised : s.Raised) (id : Nat) (invocation : Invocation) :
    (s.invoke id invocation).1.Raised := by
  simp only [Impl.invoke]
  split
  · exact raised
  split
  · exact raised
  split
  · exact raised
  · exact fun _ _ => rfl

theorem refused_raised {s : Impl} (raised : s.Raised) (id : Nat) (status : Status) :
    (s.refused id status).1.Raised := by
  intro open_ nonempty
  have before : s.queue ≠ [] := by
    intro empty
    simp [Impl.refused,empty] at nonempty
  have kept : (s.queue.eraseP (·.id = id)).isEmpty = false := by
    simpa [Impl.refused] using nonempty
  simpa [Impl.refused,kept] using raised open_ before

theorem take_raised {s : Impl} (raised : s.Raised) : s.take.1.Raised := by
  simp only [Impl.take]
  split
  next call rest closed queue => exact fun open_ _ => raised open_ (by simp [queue])
  next other =>
    intro open_ nonempty
    obtain ⟨call,rest,queue⟩ := List.exists_cons_of_ne_nil nonempty
    exact absurd queue (other call rest open_)

theorem proceed_raised {s : Impl} (raised : s.Raised) (work : Work) (outcome : Outcome) :
    (s.proceed work outcome).1.Raised := by
  simp only [Impl.proceed]
  cases work with
  | serving =>
    dsimp only
    split
    · exact raised
    · split <;> exact raised
  | answering call answer => cases answer <;> exact raised

theorem check_raised {s : Impl} (raised : s.Raised) : s.check.1.Raised := by
  simp only [Impl.check]
  split
  next idle =>
    intro open_ nonempty
    simp at open_ nonempty
    simp [open_,nonempty] at idle
  · exact raised

theorem close_raised (s : Impl) : s.close.1.Raised := by
  intro open_
  simp [close_closed] at open_

theorem react_raised {s : Impl} (raised : s.Raised) (reacted : s.react through reaction = some (t,seen)) :
    t.Raised := by
  simp only [Impl.react] at reacted
  split at reacted <;> split at reacted <;> try split at reacted
  all_goals
    first
    | contradiction
    | cases reacted
      exact raised

section

variable {s : System component}

theorem step_raised (raised : s.state.Raised) (stepped : step s action = some (t,seen)) : t.state.Raised := by
  cases step_took stepped with
  | arrived invocation => exact invoke_raised raised _ invocation
  | @refused call status => exact refused_raised raised call status
  | took => exact take_raised raised
  | @proceeded _ work outcome _ _ _ _ proceeded =>
    have next := proceed_raised raised work outcome
    rwa [Option.some.inj proceeded] at next
  | checked => exact check_raised raised
  | closed => exact close_raised s.state
  | reacted reacted => exact react_raised raised reacted
  | notified | renotified | discarded | dispatched | cancelled | executor => exact raised

/-- When no `Invoke` and no `ProcessOne` is between its sections, a queued call or a raised flag
means that a job of the task is queued or running. -/
def Unwedged (s : System component) : Prop :=
  s.state.closed = false → (∀ call ∈ s.calls, call = .returned) →
    (∀ run ∈ s.runs, run = .returned ∨ run = .taking) →
    s.state.queue ≠ [] ∨ s.state.scheduled = true →
    0 < s.port.jobs + s.port.popped.length ∨ .taking ∈ s.runs

/-- A refused caller leaves no other call behind, a re-notification finds an executor that takes
it, and no job is discarded because its group was stopping when it was popped. -/
def Unhindered (s : System component) : Action component → Prop
  | .refuse call => s.state.closed = false → s.state.queue.eraseP (·.id = call) = []
  | .renotify run => ∀ progress, s.runs[run]? = some (.notifying progress) → s.state.closed = false →
    s.port.accepts progress = true
  | .dispatch job => s.state.closed = false → s.port.popped[job]? ≠ some true
  | _ => True

structure Wakeful (s : System component) : Prop where
  sound : Sound s
  armed : Armed s
  raised : s.state.Raised

theorem Wakeful.unwedged (wakeful : Wakeful s) : Unwedged s := by
  intro open_ calls runs pending
  have up : s.state.scheduled = true := pending.elim (wakeful.raised open_) id
  rcases wakeful.sound.tokens_pos.mp (wakeful.armed open_ up) with served | ⟨status,refusal⟩
  · rcases served with waiting | ⟨run,member,busy⟩ | ⟨call,member,progress,rfl⟩
    · exact .inl waiting
    · exact .inr (((runs run member).resolve_left busy) ▸ member)
    · simpa using calls _ member
  · simpa using calls _ refusal

theorem unwedged_armed (sound : Sound s) (unwedged : Unwedged s) : Armed s := by
  intro open_ up
  rw [Nat.pos_iff_ne_zero]
  intro none
  obtain ⟨jobs,runs,calls⟩ := sound.idle_calls none
  rcases unwedged open_ calls (fun run member => .inl (runs run member)) (.inr up) with waiting | member
  · omega
  · simpa using runs _ member

theorem unhindered_kept (unhindered : Unhindered s action) : Kept s action := by
  cases action with
  | refuse =>
    intro status _ open_
    simp [Impl.refused,unhindered open_]
  | renotify | dispatch => exact unhindered
  | _ => trivial

theorem step_unhindered (sound : Sound s) (stepped : step s action = some (t,seen)) (unwedged : Unwedged t) :
    Unhindered s action := by
  have kept := step_kept sound stepped (unwedged_armed (step_sound sound stepped) unwedged)
  cases step_took stepped with
  | @refused call status active =>
    intro open_
    have token := sound.tokens_pos.mpr (.inr ⟨status,List.mem_of_getElem? active⟩)
    have up : s.state.scheduled = true := sound.raised open_ token
    have lowered : (s.state.refused call status).1.scheduled = false := kept status active open_
    simpa [Impl.refused,up] using lowered
  | renotified | discarded | dispatched => exact kept
  | _ => trivial

end

/-- A service is never wedged in a run exactly when nothing in the run hindered it. -/
theorem service_unwedged_iff (ran : (system component).run
      (created generation running others groupCapacity) actions = some (s,history)) :
    (system component).Throughout Unwedged (created generation running others groupCapacity) actions ↔
      (system component).Along Unhindered (created generation running others groupCapacity) actions := by
  have start : Wakeful (created generation running others groupCapacity) :=
    ⟨added_sound _ _ _ _,fun _ up => by contradiction,fun _ nonempty => absurd rfl nonempty⟩
  refine Machine.throughout_iff_along (fun s wakeful => wakeful.unwedged) ?_ ?_ start ran
  · intro s action t seen wakeful unhindered stepped
    exact ⟨step_sound wakeful.sound stepped,
      step_armed wakeful.sound wakeful.armed (unhindered_kept unhindered) stepped,
      step_raised wakeful.raised stepped⟩
  · exact fun s action t seen wakeful stepped unwedged => step_unhindered wakeful.sound stepped unwedged

def ping : Invocation := ⟨⟨{},[]⟩,.infinite,0⟩

/-- Two calls; the second arrives before the notification of the first has come back. -/
def twoCalls : List (Action component) :=
  [.arrive ping,.arrive ping,.notify 0,.notify 0,.notify 0]

theorem service_unwedged_sample : ∃ s history,
    (system component).run (created 1 true 0 1) twoCalls = some (s,history) ∧
    s.state.queue.length = 2 ∧ s.port.jobs = 1 ∧
    (system component).Throughout Unwedged (created 1 true 0 1) twoCalls := by
  have ran : (system component).run (created 1 true 0 1) twoCalls = some _ := rfl
  refine ⟨_,_,ran,rfl,rfl,(service_unwedged_iff ran).mpr ?_⟩
  iterate 5
    refine ⟨trivial,fun t seen stepped => ?_⟩
  trivial

/-- The callback group is full, so the first caller takes its call back. The second call stays
behind under a raised flag, and nothing will ever run. -/
theorem service_wedged : ∃ s history, (system component).run (created 1 true 1 1)
      (twoCalls ++ [.refuse 0]) = some (s,history) ∧
    s.state.closed = false ∧ s.state.scheduled = true ∧ s.state.queue.map PendingCall.id = [1] ∧
    s.calls = [.returned,.returned] ∧ s.runs = [] ∧ s.port.jobs = 0 ∧ s.port.popped = [] ∧
    ¬ Unwedged s := by
  obtain ⟨s,history,ran,open_,up,queue,calls,runs,jobs,popped⟩ : ∃ s history,
      (system component).run (created 1 true 1 1) (twoCalls ++ [.refuse 0]) = some (s,history) ∧
      s.state.closed = false ∧ s.state.scheduled = true ∧ s.state.queue.map PendingCall.id = [1] ∧
      s.calls = [.returned,.returned] ∧ s.runs = [] ∧ s.port.jobs = 0 ∧ s.port.popped = [] :=
    ⟨_,_,rfl,rfl,rfl,rfl,rfl,rfl,rfl,rfl⟩
  refine ⟨s,history,ran,open_,up,queue,calls,runs,jobs,popped,fun unwedged => ?_⟩
  have job := unwedged open_ (by simp [calls]) (by simp [runs]) (.inr up)
  simp [jobs,popped,runs] at job

end AutoRuntime.Service
