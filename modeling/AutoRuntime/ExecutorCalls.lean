import AutoRuntime.ExecutorTicks

/-! What a step of the executor does to the `Enqueue` calls, and to the one the scheduler waits for. -/
namespace AutoRuntime.Executor

open Pool

/-- The `Enqueue` call that the scheduler is in. -/
def SchedulerPhase.pending : SchedulerPhase → Option Nat
  | .releasing _ pending => pending
  | .absent | .waiting | .exited => none

def EnqueuePhase.isOpen : EnqueuePhase → Bool
  | .returned _ => false
  | .requested | .sequenced _ _ | .reserved _ _ _ => true

inductive Called (s t : System) : Prop where
  | still (enqueues : t.enqueues = s.enqueues) (pending : t.scheduler.pending = s.scheduler.pending)
  | rested (enqueues : t.enqueues = s.enqueues) (settled : s.settled s.scheduler.pending = true)
      (pending : t.scheduler.pending = none)
  | asked {target : TaskId} {releaseTime : Int} {task : TaskState} (found : s.tasks.lookup target = some task)
      (other : task.config.kind ≠ .periodic)
      (enqueues : t.enqueues = s.enqueues ++ [{ task := target, releaseTime := releaseTime }])
      (pending : t.scheduler.pending = s.scheduler.pending)
  | issued {target : TaskId} {releaseTime : Int} (settled : s.settled s.scheduler.pending = true)
      (enqueues : t.enqueues = s.enqueues ++ [{ task := target, releaseTime := releaseTime }])
      (pending : t.scheduler.pending = some s.enqueues.length)
  | advanced {index : Nat} {call : EnqueueCall} {phase : EnqueuePhase} (active : s.enqueues[index]? = some call)
      (unreturned : call.phase.isOpen = true)
      (enqueues : t.enqueues = s.enqueues.set index { call with phase := phase })
      (pending : t.scheduler.pending = s.scheduler.pending)

theorem step_called (scheduled : Scheduled s) (stepped : step s action = some (t,seen)) : Called s t := by
  cases step_stepped stepped with
  | checked active =>
    obtain ⟨found,present,async⟩ := scheduled.adds (List.mem_of_getElem? active)
    exact .asked present (by simp [async]) rfl rfl
  | notified found other => exact .asked found other rfl rfl
  | started idle unstopped => exact .still rfl (by rw [scheduled.absent idle unstopped]; rfl)
  | sequences part =>
    cases part with
    | closed active phase | homeless active phase | sequenced active phase =>
      exact .advanced active (by rw [phase]; rfl) rfl rfl
  | reserves part =>
    cases part with
    | refused active phase | granted active phase => exact .advanced active (by rw [phase]; rfl) rfl rfl
  | pushes part =>
    cases part with
    | withdrawn active phase | overflowed active phase | pushed active phase =>
      exact .advanced active (by rw [phase]; rfl) rfl rfl
  | released waiting | left waiting => exact .still rfl (by rw [waiting]; rfl)
  | drained releasing settled => exact .rested rfl (by rw [releasing]; exact settled) rfl
  | issued releasing settled => exact .issued (by rw [releasing]; exact settled) rfl rfl
  | pops part | dispatches part | finishes part | reports part | exits part => cases part <;> exact .still rfl rfl
  | _ => exact .still rfl rfl

theorem Called.returned {index : Nat} {call : EnqueueCall} (called : Called s t)
    (active : s.enqueues[index]? = some call) (closed : call.phase.isOpen = false) :
    t.enqueues[index]? = some call := by
  have inside := inside active
  cases called with
  | still enqueues | rested enqueues => rw [enqueues,active]
  | asked found other enqueues | issued settled enqueues => rw [enqueues,List.getElem?_append_left inside,active]
  | @advanced place old phase there unreturned enqueues pending =>
    have apart : place ≠ index := by
      rintro rfl
      cases active.symm.trans there
      rw [closed] at unreturned
      contradiction
    rw [enqueues,List.getElem?_set_ne apart,active]

theorem Called.requests (called : Called s t) : s.requests <+: t.requests := by
  have kept (same : t.requests = s.requests) : s.requests <+: t.requests := same ▸ List.prefix_rfl
  cases called with
  | still enqueues | rested enqueues => exact kept (by rw [System.requests,enqueues]; rfl)
  | asked found other enqueues | issued settled enqueues =>
    rw [System.requests,System.requests,enqueues,List.map_append]
    exact List.prefix_append _ _
  | @advanced index call phase active unreturned enqueues pending =>
    refine kept ?_
    rw [System.requests,enqueues]
    exact setEnqueue_requests active phase

/-- Of the calls for a task only the one the scheduler is in can be open, and none came later. -/
structure Lone (key : TaskId) (s : System) : Prop where
  unreturned : ∀ (index : Nat) call, s.enqueues[index]? = some call → call.task = key → call.phase.isOpen = true →
    s.scheduler.pending = some index
  last : ∀ (index later : Nat) call, s.scheduler.pending = some index → s.enqueues[later]? = some call →
    index < later → call.task ≠ key

/-- Where the scheduler is in no open call, no call for the task is open. -/
theorem Lone.settled {index : Nat} {call : EnqueueCall} (lone : Lone key s)
    (settled : s.settled s.scheduler.pending = true) (active : s.enqueues[index]? = some call)
    (own : call.task = key) : call.phase.isOpen = false := by
  by_contra unreturned
  rw [lone.unreturned index call active own (by simpa using unreturned)] at settled
  simp only [System.settled,active] at settled
  split at settled
  next returned =>
    cases returned
    exact unreturned rfl
  · contradiction

theorem Called.lone (called : Called s t) (lone : Lone key s)
    (periodic : ∀ task, s.tasks.lookup key = some task → task.config.kind = .periodic) : Lone key t := by
  cases called with
  | still enqueues pending =>
    constructor
    · rw [enqueues,pending]
      exact lone.unreturned
    · rw [enqueues,pending]
      exact lone.last
  | rested enqueues settled pending =>
    constructor
    · intro index call active own unreturned
      rw [enqueues] at active
      rw [lone.settled settled active own] at unreturned
      contradiction
    · intro index later call waiting
      rw [pending] at waiting
      contradiction
  | @asked target releaseTime task found other enqueues pending =>
    have apart : target ≠ key := by
      rintro rfl
      exact other (periodic task found)
    constructor
    · intro index call active own unreturned
      rw [enqueues] at active
      rcases concat_cases active with old | ⟨-,rfl⟩
      · rw [pending]
        exact lone.unreturned index call old own unreturned
      · exact absurd own apart
    · intro index later call waiting active less
      rw [enqueues] at active
      rw [pending] at waiting
      rcases concat_cases active with old | ⟨-,rfl⟩
      · exact lone.last index later call waiting old less
      · exact apart
  | issued settled enqueues pending =>
    constructor
    · intro index call active own unreturned
      rw [enqueues] at active
      rcases concat_cases active with old | ⟨rfl,-⟩
      · rw [lone.settled settled old own] at unreturned
        contradiction
      · exact pending
    · intro index later call waiting active less
      cases pending.symm.trans waiting
      rw [enqueues] at active
      have inside := inside active
      rw [List.length_append,List.length_singleton] at inside
      omega
  | @advanced place old phase there unreturned enqueues pending =>
    constructor
    · intro index call active own still
      rw [enqueues] at active
      rw [pending]
      rcases set_cases active with ⟨rfl,rfl⟩ | ⟨-,unchanged⟩
      · exact lone.unreturned index old there own unreturned
      · exact lone.unreturned index call unchanged own still
    · intro index later call waiting active less
      rw [enqueues] at active
      rw [pending] at waiting
      rcases set_cases active with ⟨rfl,rfl⟩ | ⟨-,unchanged⟩
      · exact lone.last index later old waiting there less
      · exact lone.last index later call waiting unchanged less

end AutoRuntime.Executor
