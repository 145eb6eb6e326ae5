import AutoRuntime.ExecutorGrid

/-! The arithmetic on time points. `AddTask` and `CreateTimer` check the signs of a period and of a
deadline, not their size, and both are added to readings of the clock. -/
namespace AutoRuntime.Executor

open Chrono

/-- A reading of a clock that has been running for less than 146 years. -/
def Reading (time : Int) : Prop := 0 ≤ time ∧ time < 2^62

instance (time : Int) : Decidable (Reading time) := inferInstanceAs (Decidable (_ ∧ _))

/-- The configuration that `Node::CreateTimer` makes. -/
def timerConfig (node name : Bytes) (group : CallbackGroupId) (period deadline priority : Int) : TaskConfig :=
  { name := node ++ [58,116,105,109,101,114,58] ++ name, kind := .periodic, priority := priority, period := period,
    deadline := deadline, queueCapacity := 1, callbackGroup := group }

/-- Period and deadline leave room for every reading. -/
def Moderate (config : TaskConfig) : Prop :=
  config.deadline ≤ 2^62 ∧ (config.kind = .periodic → config.period ≤ 2^62)

/-- The sums are exact for every reading, a deadline is missed when the time since the release is
longer, and no release comes before the first period is over. -/
structure ExactTimes (config : TaskConfig) : Prop where
  deadline : Reading time → after time config.deadline = time + config.deadline
  period : config.kind = .periodic → Reading time → after time config.period = time + config.period
  missed : ∀ task : TaskState, task.config = config → Reading time → Reading now →
    (task.missed time now = true ↔ 0 < config.deadline ∧ config.deadline < now - time)
  early : ∀ task : TaskState, task.config = config → config.kind = .periodic → Reading time → Reading now →
    now < time + config.period → ((task.arm time).release now).2 = []

theorem missed_exact {task : TaskState} (fits : Fits (time + task.config.deadline)) (now : Int) :
    task.missed time now = true ↔ 0 < task.config.deadline ∧ task.config.deadline < now - time := by
  simp only [TaskState.missed,after_exact fits,Bool.and_eq_true,decide_eq_true_eq]
  omega

theorem catchUp_ahead (ahead : now < next) (period : Int) (budget : Nat) :
    catchUp now period budget next = ([],next) := by
  cases budget with
  | zero => rfl
  | succ => rw [catchUp,if_neg (Int.not_le.mpr ahead)]

theorem catchUp_due (due : next ≤ now) (period : Int) (positive : 0 < budget) :
    (catchUp now period budget next).1 ≠ [] := by
  cases budget with
  | zero => contradiction
  | succ =>
    rw [catchUp,if_pos due]
    exact List.cons_ne_nil _ _

theorem release_ahead {task : TaskState} (ahead : now < task.nextRelease) : task.release now = (task,[]) := by
  simp only [TaskState.release,catchUp_ahead ahead]
  split
  · rfl
  · simp

theorem release_due {task : TaskState} (alive : task.cancelled = false) (periodic : task.config.kind = .periodic)
    (due : task.nextRelease ≤ now) : (task.release now).2 ≠ [] := by
  have active : ¬(task.cancelled || task.config.kind != .periodic) = true := by simp [alive,periodic]
  have some := catchUp_due due task.config.period (Nat.succ_pos 1023)
  simp only [TaskState.release,if_neg active]
  split <;> exact some

theorem wrap_over (over_ : 2^63 ≤ x) (below : x < 2^64) : wrap x = x - 2^64 := by
  rw [wrap,Int.bmod_def]
  split <;> omega

theorem after_over (reading : Reading time) (over_ : 2^63 ≤ time + duration) (fits : duration < 2^63) :
    after time duration < 0 := by
  obtain ⟨lower,upper⟩ := reading
  rw [after,wrap_over over_ (by omega)]
  omega

theorem arm_periodic {task : TaskState} (periodic : task.config.kind = .periodic) (now : Int) :
    task.arm now = { task with nextRelease := after now task.config.period } := if_pos periodic

theorem validTask_signs (valid : validTask config callback = true) :
    0 ≤ config.deadline ∧ (config.kind = .periodic → 0 < config.period) := by
  simp only [validTask,Bool.not_eq_true',Bool.or_eq_false_iff,decide_eq_false_iff_not,Bool.and_eq_false_iff,
    beq_eq_false_iff_ne] at valid
  refine ⟨by omega,fun periodic => ?_⟩
  have positive := valid.2.resolve_left (· periodic)
  omega

theorem Moderate.exactTimes (moderate : Moderate config) (valid : validTask config callback = true) :
    ExactTimes config := by
  obtain ⟨short,frequent⟩ := moderate
  obtain ⟨signed,positive⟩ := validTask_signs valid
  have sums {time duration : Int} (reading : Reading time) (lower : 0 ≤ duration) (upper : duration ≤ 2^62) :
      Fits (time + duration) := by
    obtain ⟨first,second⟩ := reading
    exact ⟨by omega,by omega⟩
  refine ⟨fun reading => after_exact (sums reading signed short),fun periodic reading => ?_,?_,?_⟩
  · exact after_exact (sums reading (Int.le_of_lt (positive periodic)) (frequent periodic))
  · rintro time now task rfl reading -
    exact missed_exact (sums reading signed short) now
  · rintro time now task rfl periodic reading - before
    rw [arm_periodic periodic,release_ahead]
    rw [after_exact (sums reading (Int.le_of_lt (positive periodic)) (frequent periodic))]
    exact before

theorem ExactTimes.short (exact_ : ExactTimes config) (fits : config.deadline < 2^63) : config.deadline ≤ 2^62 := by
  by_contra long
  have reading : Reading (2^62 - 1) := by decide
  have wrapped := after_over reading (show 2^63 ≤ 2^62 - 1 + config.deadline by omega) fits
  have missed := (exact_.missed { id := 0, config := config } rfl reading reading).mp ?_
  · omega
  · simp only [TaskState.missed,Bool.and_eq_true,decide_eq_true_eq]
    omega

theorem ExactTimes.frequent (exact_ : ExactTimes config) (periodic : config.kind = .periodic)
    (fits : config.period < 2^63) : config.period ≤ 2^62 := by
  by_contra long
  have reading : Reading (2^62 - 1) := by decide
  have wrapped := after_over reading (show 2^63 ≤ 2^62 - 1 + config.period by omega) fits
  have quiet := exact_.early { id := 0, config := config } rfl periodic reading reading (by omega)
  rw [arm_periodic periodic] at quiet
  refine release_due rfl periodic ?_ quiet
  exact Int.le_of_lt (Int.lt_trans wrapped (by decide))

/-- Among the configurations that are accepted, the moderate ones are those whose times are exact. -/
theorem exactTimes_iff (valid : validTask config callback = true) (period : config.period < 2^63)
    (deadline : config.deadline < 2^63) : ExactTimes config ↔ Moderate config :=
  ⟨fun exact_ => ⟨exact_.short deadline,fun periodic => exact_.frequent periodic period⟩,
    fun moderate => moderate.exactTimes valid⟩

end AutoRuntime.Executor
