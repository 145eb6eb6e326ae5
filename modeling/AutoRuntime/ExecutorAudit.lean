import AutoRuntime.ExecutorAccounting
import Mathlib.Algebra.Order.Field.Basic
import Mathlib.Data.Rat.Cast.Order

/-! The books of a task. Whatever the workers do and however they are interleaved, the counters of a
task agree with what was observed of its jobs, and the samples that it keeps are the latest ones. -/
namespace AutoRuntime.Executor

open List Option Pool
open Chrono

/-- What is true of the statistics of a task, given what was observed of its jobs and how many of
them are running. -/
structure Audited (policy : DeadlinePolicy) (stats : TaskStats) (observed : List TaskSample) (busy : Nat) : Prop where
  misses : stats.deadlineMisses = stats.deadlineWarnings + stats.deadlineDegrades + stats.deadlineDrops
  started : stats.started = stats.finished + busy
  failures : stats.callbackFailures ≤ stats.finished
  late : stats.deadlineMisses ≤ stats.finished + stats.deadlineDrops
  count : observed.length = stats.finished + stats.deadlineDrops
  samples : stats.samples = observed.drop (observed.length - 4096)
  policy : ∀ sample ∈ observed, sample.dropped = true → policy = .drop
  spans : ∀ sample ∈ observed, sample.dropped = false →
    sample.scheduledReleaseTime ≤ sample.actualStartTime → sample.actualStartTime ≤ sample.finishTime →
    sample.responseTime = wrap (sample.releaseJitter + sample.executionTime) ∧
      (Fits (sample.finishTime - sample.scheduledReleaseTime) →
        sample.responseTime = sample.releaseJitter + sample.executionTime)

theorem audited_blank (policy : DeadlinePolicy) : Audited policy {} [] 0 := by
  constructor <;> simp

theorem window_append (limit : Nat) (positive : 0 < limit) (entries : List α) (entry : α) :
    (if (entries.drop (entries.length - limit)).length = limit then (entries.drop (entries.length - limit)).drop 1
      else entries.drop (entries.length - limit)) ++ [entry] =
      (entries ++ [entry]).drop ((entries ++ [entry]).length - limit) := by
  simp only [length_drop,length_append,length_singleton,drop_drop]
  split
  next full =>
    have next : entries.length + 1 - limit = entries.length - limit + 1 := by omega
    rw [next,drop_append_of_le_length (by omega)]
  next space =>
    have next : entries.length + 1 - limit = 0 := by omega
    have start : entries.length - limit = 0 := by omega
    rw [next,start,drop_zero,drop_zero]

theorem appendSample_window (stats : TaskStats) (sample : TaskSample) {observed : List TaskSample}
    (window : stats.samples = observed.drop (observed.length - 4096)) : (appendSample stats sample).samples =
      (observed ++ [sample]).drop ((observed ++ [sample]).length - 4096) := by
  simp only [appendSample,window]
  exact window_append 4096 (Nat.succ_pos _) observed sample

theorem wrap_elapsed (finish start release : Int) :
    wrap (finish - release) = wrap (wrap (start - release) + wrap (finish - start)) := by
  simp only [wrap]
  rw [Int.bmod_add_bmod,Int.add_bmod_bmod]
  congr 1
  omega

theorem nonNegativeDuration_wrap (ordered : begin_ ≤ finish) :
    nonNegativeDuration finish begin_ = wrap (finish - begin_) := by
  simp only [nonNegativeDuration]
  split
  next same =>
    obtain rfl := Int.le_antisymm same ordered
    simp [wrap]
  · rfl

/-- A job that was released before it started, and started before it finished, responds in the time
that it waited and ran, as the durations add up. -/
theorem finishedSample_span (job : Job) (released : job.releaseTime ≤ start) (ran : start ≤ finish) :
    nonNegativeDuration finish job.releaseTime =
        wrap (nonNegativeDuration start job.releaseTime + nonNegativeDuration finish start) ∧
      (Fits (finish - job.releaseTime) → nonNegativeDuration finish job.releaseTime =
        nonNegativeDuration start job.releaseTime + nonNegativeDuration finish start) := by
  rw [nonNegativeDuration_wrap (Int.le_trans released ran),nonNegativeDuration_wrap released,
    nonNegativeDuration_wrap ran]
  refine ⟨wrap_elapsed finish start job.releaseTime,fun fits => ?_⟩
  obtain ⟨lower,upper⟩ := fits
  rw [wrap_exact ⟨lower,upper⟩,wrap_exact ⟨by omega,by omega⟩,wrap_exact ⟨by omega,by omega⟩]
  omega

theorem audited_books : Audited policy stats.books observed busy ↔ Audited policy stats observed busy :=
  ⟨fun audited => ⟨audited.misses,audited.started,audited.failures,audited.late,audited.count,audited.samples,
      audited.policy,audited.spans⟩,
    fun audited => ⟨audited.misses,audited.started,audited.failures,audited.late,audited.count,audited.samples,
      audited.policy,audited.spans⟩⟩

theorem Audited.executed {way : DeadlinePolicy} (audited : Audited way stats observed busy) :
    Audited way { stats with started := stats.started + 1 } observed (busy + 1) where
  misses := audited.misses
  started := by
    have before := audited.started
    simp only
    omega
  failures := audited.failures
  late := audited.late
  count := audited.count
  samples := audited.samples
  policy := audited.policy
  spans := audited.spans

theorem Audited.dropped {task : TaskState} (audited : Audited task.config.deadlinePolicy task.stats observed busy)
    (policy : task.config.deadlinePolicy = .drop) (job : Job) (dispatchTime : Int)
    (stats : changed = appendSample { task.stats with
      deadlineMisses := task.stats.deadlineMisses + 1
      deadlineDrops := task.stats.deadlineDrops + 1 } (task.droppedSample job dispatchTime)) :
    Audited task.config.deadlinePolicy changed (observed ++ [task.droppedSample job dispatchTime]) busy := by
  have misses := audited.misses
  have late := audited.late
  have count := audited.count
  subst stats
  constructor
  case misses => simp only [appendSample]; omega
  case started => exact audited.started
  case failures => exact audited.failures
  case late => simp only [appendSample]; omega
  case count => simp only [appendSample,length_append,length_singleton]; omega
  case samples => exact appendSample_window _ _ audited.samples
  case policy => exact fun _ _ _ => policy
  case spans =>
    intro sample member kept
    rcases mem_append.mp member with old | new
    · exact audited.spans sample old kept
    · rw [mem_singleton.mp new] at kept
      contradiction

theorem Audited.finished {task : TaskState} {overdue failed : Bool}
    (audited : Audited task.config.deadlinePolicy task.stats observed (busy + 1))
    (settles : Settles task overdue failed (task.finishedSample job start finish) changed) :
    Audited task.config.deadlinePolicy changed (observed ++ [task.finishedSample job start finish]) busy := by
  have misses := audited.misses
  have started := audited.started
  have failures := audited.failures
  have limit := audited.late
  have count := audited.count
  have once : overdue.toNat ≤ 1 := Bool.toNat_le overdue
  have thrown : failed.toNat ≤ 1 := Bool.toNat_le failed
  have answered := settles.answered
  constructor
  case misses => rw [settles.misses,settles.drops]; omega
  case started => rw [settles.started,settles.finished]; omega
  case failures => rw [settles.failures,settles.finished]; omega
  case late => rw [settles.misses,settles.finished,settles.drops]; omega
  case count => rw [settles.finished,settles.drops,length_append,length_singleton]; omega
  case samples => rw [settles.samples]; exact appendSample_window _ _ audited.samples
  case policy =>
    intro sample member dropped
    rcases mem_append.mp member with old | new
    · exact audited.policy sample old dropped
    · rw [mem_singleton.mp new] at dropped
      contradiction
  case spans =>
    intro sample member kept released ran
    rcases mem_concat member with old | rfl
    · exact audited.spans sample old kept released ran
    · exact finishedSample_span job released ran

/-- An observer who notes every sample when it is accounted for. -/
def observe (s : System) (action : Action) (observed : List (TaskId × TaskSample)) : List (TaskId × TaskSample) :=
  observed ++ (s.observation action).toList

/-- All samples of a run, in the order in which they were accounted for. -/
def observations (actions : List Action) : List (TaskId × TaskSample) := system.notes observe initial actions []

/-- The numbers of the jobs that were dropped. -/
def forfeited (observed : List (TaskId × TaskSample)) : List Nat :=
  (observed.filter (·.2.dropped)).map (·.2.releaseSequence)

theorem forfeited_append (observed more : List (TaskId × TaskSample)) :
    forfeited (observed ++ more) = forfeited observed ++ forfeited more := by
  simp [forfeited]

def System.busy (s : System) (key : TaskId) : Nat := s.executing.countP (·.task == key)

structure Booked (s : System) (history : List Event) (observed : List (TaskId × TaskSample)) : Prop where
  audited : s.tasks.lookup key = some task →
    Audited task.config.deadlinePolicy task.stats (Pool.share key observed) (s.busy key)
  unknown : s.tasks.lookup key = none → Pool.share key observed = [] ∧ s.busy key = 0
  decided : ((executions history).map (·.sequence) ++ forfeited observed ++ s.undecided).Subperm
    ((removed history).map (·.2.sequence))

theorem initial_booked : Booked initial [] [] := by
  constructor <;> simp [initial,System.busy,System.executing,System.undecided,System.holdings,executions,forfeited,
    share]

theorem BooksKept.audited {old new : Table TaskId TaskState} (kept : BooksKept old new)
    (audited : ∀ task, old.lookup key = some task →
      Audited task.config.deadlinePolicy task.stats observed busy)
    (unknown : old.lookup key = none → observed = [] ∧ busy = 0) (present : new.lookup key = some changed) :
    Audited changed.config.deadlinePolicy changed.stats observed busy := by
  cases found : old.lookup key with
  | none =>
    obtain ⟨rfl,rfl⟩ := unknown found
    rw [kept.fresh found present]
    exact audited_blank _
  | some task =>
    obtain ⟨other,same,config,books⟩ := kept.kept found
    cases same.symm.trans present
    rw [config,← audited_books,books,audited_books]
    exact audited task found

theorem BooksKept.unknown {old new : Table TaskId TaskState} (kept : BooksKept old new)
    (absent : new.lookup key = none) : old.lookup key = none := by
  rw [eq_none_iff_forall_ne_some]
  intro task found
  obtain ⟨changed,present,-⟩ := kept.kept found
  rw [absent] at present
  contradiction

theorem share_observed (key focus : TaskId) (observed : List (TaskId × TaskSample)) (sample : TaskSample) :
    Pool.share key (observed ++ [(focus,sample)]) =
      if key = focus then Pool.share key observed ++ [sample] else Pool.share key observed := by
  split
  next same => simp [share,same]
  next apart => simp [share,Ne.symm apart]

theorem busy_cons {s t : System} (executing : t.executing.Perm (job :: s.executing)) (key : TaskId) :
    t.busy key = if key = job.task then s.busy key + 1 else s.busy key := by
  rw [System.busy,executing.countP_eq,System.busy]
  by_cases same : key = job.task
  · simp [same]
  · simp [same,Ne.symm same]

theorem busy_same {s t : System} (executing : t.executing = s.executing) (key : TaskId) : t.busy key = s.busy key := by
  rw [System.busy,executing,System.busy]

section Step

variable {s t : System} {history seen : List Event} {observed : List (TaskId × TaskSample)}

theorem Booked.focus {job : Job} {changed : TaskState} {more : List (TaskId × TaskSample)}
    (booked : Booked s history observed)
    (tasks : ∀ key, t.tasks.lookup key = if key = job.task then some changed else s.tasks.lookup key)
    (own : Audited changed.config.deadlinePolicy changed.stats (Pool.share job.task more) (t.busy job.task))
    (others : ∀ key, key ≠ job.task → Pool.share key more = Pool.share key observed ∧ t.busy key = s.busy key)
    (decided : ((executions (history ++ seen)).map (·.sequence) ++ forfeited more ++ t.undecided).Subperm
      ((removed (history ++ seen)).map (·.2.sequence))) : Booked t (history ++ seen) more := by
  refine ⟨fun {key after} present => ?_,fun {key} absent => ?_,decided⟩
  · rw [tasks] at present
    split at present
    next same =>
      subst same
      cases present
      exact own
    next apart =>
      rw [(others key apart).1,(others key apart).2]
      exact booked.audited present
  · rw [tasks] at absent
    split at absent
    · contradiction
    next apart =>
      rw [(others key apart).1,(others key apart).2]
      exact booked.unknown absent

theorem Booked.keep (booked : Booked s history observed) (tasks : BooksKept s.tasks t.tasks)
    (executing : t.executing = s.executing)
    (decided : ((executions (history ++ seen)).map (·.sequence) ++ forfeited observed ++ t.undecided).Subperm
      ((removed (history ++ seen)).map (·.2.sequence))) : Booked t (history ++ seen) observed := by
  have busy := busy_same executing
  refine ⟨fun {key changed} present => ?_,fun {key} absent => ?_,decided⟩
  · rw [busy]
    exact tasks.audited (fun _ found => booked.audited found) booked.unknown present
  · rw [busy]
    exact booked.unknown (tasks.unknown absent)

theorem Booked.step (booked : Booked s history observed) (accounting : Accounting s t seen observation) :
    Booked t (history ++ seen) (observed ++ observation.toList) := by
  have decided := booked.decided
  cases accounting with
  | still tasks executing undecided idle unpopped =>
    rw [toList_none,append_nil]
    refine booked.keep tasks executing ?_
    simpa [idle,unpopped,undecided] using decided
  | @popped group job tasks executing undecided idle one =>
    have moved := (undecided.append_left ((executions history).map (·.sequence) ++ forfeited observed)).trans
      perm_middle
    rw [toList_none,append_nil]
    refine booked.keep (tasks ▸ .refl _) executing ?_
    simp only [executions_append,removed_append,idle,one,append_nil,map_append]
    exact moved.subperm.trans (((subperm_cons _).mpr decided).trans (perm_append_singleton _ _).symm.subperm)
  | @discarded job tasks executing undecided idle unpopped =>
    have less : t.undecided.Subperm s.undecided :=
      (sublist_cons_self _ _).subperm.trans undecided.symm.subperm
    rw [toList_none,append_nil]
    refine booked.keep tasks executing ?_
    simp only [executions_append,removed_append,idle,unpopped,append_nil]
    exact ((subperm_append_left _).mpr less).trans decided
  | @dropped job task changed dispatchTime found tasks config policy stats executing undecided idle unpopped =>
    have own := (booked.audited found).dropped policy job dispatchTime stats
    rw [toList_some]
    refine booked.focus tasks ?_ (fun key apart => ?_) ?_
    · rw [config,share_observed,if_pos rfl,busy_same executing]
      exact own
    · exact ⟨(share_observed _ _ _ _).trans (if_neg apart),busy_same executing key⟩
    · have gone : forfeited [(job.task,task.droppedSample job dispatchTime)] = [job.sequence] := rfl
      simp only [executions_append,removed_append,idle,unpopped,append_nil,forfeited_append]
      have moved := (undecided.append_left ((executions history).map (·.sequence) ++ forfeited observed)).symm
      rw [append_assoc,append_assoc]
      rw [append_assoc,append_assoc] at moved
      exact moved.subperm.trans (by rw [← append_assoc]; exact decided)
  | @executed job task changed found tasks config stats executing undecided called unpopped =>
    have own := (booked.audited found).executed
    rw [toList_none,append_nil]
    refine booked.focus tasks ?_ (fun key apart => ⟨rfl,?_⟩) ?_
    · rw [config,stats,busy_cons executing,if_pos rfl]
      exact own
    · rw [busy_cons executing,if_neg apart]
    · simp only [executions_append,removed_append,called,unpopped,append_nil,map_append,map_cons,
        map_nil]
      refine List.Subperm.trans (List.Perm.subperm ?_) decided
      have moved := undecided.symm.append_left ((executions history).map (·.sequence) ++ forfeited observed)
      refine List.Perm.trans ?_ moved
      simp only [append_assoc,singleton_append]
      exact (perm_middle.symm).append_left _
  | @finished job task changed start finish failed found tasks config settles executing undecided idle unpopped =>
    have busy (key : TaskId) := busy_cons executing key
    have own := booked.audited found
    rw [busy,if_pos rfl] at own
    rw [toList_some]
    refine booked.focus tasks ?_ (fun key apart => ?_) ?_
    · rw [config,share_observed,if_pos rfl]
      exact own.finished settles
    · exact ⟨(share_observed _ _ _ _).trans (if_neg apart),((busy key).trans (if_neg apart)).symm⟩
    · have kept : forfeited [(job.task,task.finishedSample job start finish)] = [] := rfl
      simpa only [executions_append,removed_append,idle,unpopped,undecided,append_nil,forfeited_append,
        kept] using decided

end Step

theorem run_booked (ran : system.run initial actions = some (s,history)) :
    Conserved s history ∧ Booked s history (observations actions) := by
  refine Machine.run_notes (motive := fun s history observed => Conserved s history ∧ Booked s history observed) ?_
    ⟨initial_conserved,initial_booked⟩ ran
  rintro s history observed action t seen ⟨conserved,booked⟩ stepped
  exact ⟨step_conserved conserved stepped,booked.step (step_accounting conserved stepped)⟩

/-- The miss rate of `FinalizeTimingSummary`, before it is rounded. -/
def TaskStats.deadlineMissRate (stats : TaskStats) : ℚ :=
  if stats.finished + stats.deadlineDrops = 0 then 0
  else stats.deadlineMisses / (stats.finished + stats.deadlineDrops : Nat)

theorem deadlineMissRate_le_one (late : stats.deadlineMisses ≤ stats.finished + stats.deadlineDrops) :
    TaskStats.deadlineMissRate stats ≤ 1 := by
  simp only [TaskStats.deadlineMissRate]
  split
  · exact zero_le_one
  · exact div_le_one_of_le₀ (Nat.cast_le.mpr late) (Nat.cast_nonneg _)

theorem Audited.retained (audited : Audited way stats observed busy) : stats.samples.length =
    min 4096 (stats.finished + stats.deadlineDrops) := by
  have count := audited.count
  rw [audited.samples,length_drop]
  omega

theorem Booked.uncalled (booked : Booked s history observed) (conserved : Conserved s history)
    (member : sample ∈ Pool.share key observed) (dropped : sample.dropped = true)
    (called : Event.executed job ∈ history) :
    job.sequence ≠ sample.releaseSequence := by
  have distinct : ((executions history).map (·.sequence) ++ forfeited observed ++ s.undecided).Nodup := by
    obtain ⟨list,perm,sub⟩ := booked.decided
    exact perm.nodup_iff.mp (sub.nodup conserved.removed_nodup)
  have first : job.sequence ∈ (executions history).map (·.sequence) :=
    mem_map_of_mem (mem_executions.mpr called)
  have second : sample.releaseSequence ∈ forfeited observed := by
    obtain ⟨entry,listed,own⟩ := mem_filterMap.mp member
    split at own
    · cases own
      exact mem_map.mpr ⟨entry,mem_filter.mpr ⟨listed,dropped⟩,rfl⟩
    · contradiction
  exact (nodup_append.mp (nodup_append.mp distinct).1).2.2 _ first _ second

/-- The deadline books of every task, in every state that a run reaches. -/
theorem deadline_accounting (ran : system.run initial actions = some (s,history))
    (found : s.tasks.lookup key = some task) :
    task.stats.deadlineMisses =
      task.stats.deadlineWarnings + task.stats.deadlineDegrades + task.stats.deadlineDrops ∧
    task.stats.finished ≤ task.stats.started ∧ task.stats.callbackFailures ≤ task.stats.finished ∧
    task.stats.deadlineMisses ≤ task.stats.finished + task.stats.deadlineDrops ∧
    task.stats.deadlineMissRate ≤ 1 ∧
    ((Pool.share key (observations actions)).length = task.stats.finished + task.stats.deadlineDrops ∧
      task.stats.samples.length = min 4096 (task.stats.finished + task.stats.deadlineDrops) ∧
      task.stats.samples = (Pool.share key (observations actions)).drop
        ((Pool.share key (observations actions)).length - 4096)) ∧
    ∀ sample ∈ Pool.share key (observations actions),
      (sample.dropped = true → task.config.deadlinePolicy = .drop ∧
        ∀ job, Event.executed job ∈ history → job.sequence ≠ sample.releaseSequence) ∧
      (sample.dropped = false → sample.scheduledReleaseTime ≤ sample.actualStartTime →
        sample.actualStartTime ≤ sample.finishTime →
        sample.responseTime = wrap (sample.releaseJitter + sample.executionTime) ∧
        (Fits (sample.finishTime - sample.scheduledReleaseTime) →
          sample.responseTime = sample.releaseJitter + sample.executionTime)) := by
  obtain ⟨conserved,booked⟩ := run_booked ran
  have audited := booked.audited found
  refine ⟨audited.misses,?_,audited.failures,audited.late,deadlineMissRate_le_one audited.late,
    ⟨audited.count,audited.retained,audited.samples⟩,fun sample member => ⟨fun dropped => ?_,?_⟩⟩
  · rw [audited.started]
    exact Nat.le_add_right _ _
  · exact ⟨audited.policy sample member dropped,fun job called => booked.uncalled conserved member dropped called⟩
  · exact audited.spans sample member

/-- Three jobs of a task that drops late ones: one is dropped, one throws, one is still running. -/
def lateRun : List Action :=
  [.createCallbackGroup ⟨[97],1,4⟩ .success,
   .addTask { name := [98], kind := .event, deadline := 10, queueCapacity := 3, callbackGroup := 1
              deadlinePolicy := .drop } true 0,
   .start .success 0,.notify 1 5,.enqueueSequence 0,.enqueueReserve 0 6,.enqueuePush 0,
   .notify 1 30,.enqueueSequence 1,.enqueueReserve 1 31,.enqueuePush 1,
   .notify 1 32,.enqueueSequence 2,.enqueueReserve 2 33,.enqueuePush 2,
   .workerPop 0,.workerDispatch 0 34,.workerReport 0 false,
   .workerPop 0,.workerDispatch 0 35,.workerFinish 0 36 50 true,.workerReport 0 true,
   .workerPop 0,.workerDispatch 0 40]

theorem deadline_accounting_sample : ∃ s history task, system.run initial lateRun = some (s,history) ∧
    s.tasks.lookup 1 = some task ∧ task.stats.deadlineMisses = 2 ∧ task.stats.deadlineDrops = 1 ∧
    task.stats.started = 2 ∧ task.stats.finished = 1 ∧ task.stats.callbackFailures = 1 ∧
    task.stats.samples.length = 2 ∧ task.stats.samples = (Pool.share 1 (observations lateRun)).drop
      ((Pool.share 1 (observations lateRun)).length - 4096) := by
  have ran : system.run initial lateRun = some _ := rfl
  exact ⟨_,_,_,ran,rfl,rfl,rfl,rfl,rfl,rfl,rfl,(deadline_accounting ran rfl).2.2.2.2.2.1.2.2⟩

end AutoRuntime.Executor
