import AutoRuntime.ExecutorOrder
import AutoRuntime.PriorityQueue

/-! The order of dispatch. The jobs of a queue have different sequence numbers, so no two of them are
level, and the order in which they are popped depends on the jobs alone. -/
namespace AutoRuntime.Executor

open List Pool Machine
open PriorityQueue

theorem higherPriorityFirst_ranks (priority : TaskId → Int) : Ranks (higherPriorityFirst priority) :=
  ⟨higherPriorityFirst_asymmetric priority,higherPriorityFirst_transitive priority⟩

/-- Higher priority, then earlier release, then smaller sequence number. -/
def Precedes (priority : TaskId → Int) (job other : Job) : Prop :=
  priority other.task < priority job.task ∨
    priority other.task = priority job.task ∧ (job.releaseTime < other.releaseTime ∨
      job.releaseTime = other.releaseTime ∧ job.sequence < other.sequence)

theorem higherPriorityFirst_iff (priority : TaskId → Int) (left right : Job) :
    higherPriorityFirst priority left right = true ↔ Precedes priority right left := by
  simp only [higherPriorityFirst,Precedes]
  grind

theorem higherPriorityFirst_total (priority : TaskId → Int) {left right : Job}
    (apart : left.sequence ≠ right.sequence) (level : higherPriorityFirst priority left right = false) :
    higherPriorityFirst priority right left = true := by
  simp only [higherPriorityFirst] at level ⊢
  grind

theorem higherPriorityFirst_strict (priority : TaskId → Int) (jobs : Set Job)
    (distinct : ∀ one ∈ jobs, ∀ two ∈ jobs, one.sequence = two.sequence → one = two) :
    IsStrictTotalOrder jobs fun left right => higherPriorityFirst priority left right = true where
  irrefl job below := by
    have above := higherPriorityFirst_asymmetric priority _ _ below
    exact Bool.noConfusion (below.symm.trans above)
  trans one two three first second := by
    simp only [higherPriorityFirst_iff,Precedes] at first second ⊢
    omega
  trichotomous one two first second := by
    by_contra apart
    have numbers : one.1.sequence ≠ two.1.sequence := fun same =>
      apart (Subtype.ext (distinct one one.2 two two.2 same))
    exact second (higherPriorityFirst_total priority numbers (Bool.eq_false_iff.mpr first))

/-- The order in which these jobs are popped. -/
def dispatchOrder (priority : TaskId → Int) (jobs : List Job) : List Job :=
  ranking (higherPriorityFirst priority) jobs

theorem apart_of_sequences (priority : TaskId → Int) {jobs : List Job} (distinct : (jobs.map (·.sequence)).Nodup) :
    Apart (higherPriorityFirst priority) jobs := by
  intro one first two last level same
  by_contra apart
  have numbers : one.sequence ≠ two.sequence := fun equal =>
    apart (inj_on_of_nodup_map distinct first last equal)
  have above := higherPriorityFirst_total priority numbers level
  rw [same] at above
  contradiction

theorem top_greatest (chosen : top priority queue = some job) :
    Greatest (higherPriorityFirst priority) queue job := by
  refine ⟨top_mem chosen,?_⟩
  cases queue with
  | nil => contradiction
  | cons head tail =>
    cases chosen
    exact foldl_best (higherPriorityFirst priority) (higherPriorityFirst_asymmetric priority)
      (higherPriorityFirst_transitive priority) tail head

theorem greatest_precedes {queue : List Job} (apart : Apart (higherPriorityFirst priority) queue)
    (greatest : Greatest (higherPriorityFirst priority) queue job) (member : other ∈ queue) (different : other ≠ job) :
    Precedes priority job other := by
  rw [← higherPriorityFirst_iff]
  by_contra level
  exact different (apart other member job greatest.1 (Bool.eq_false_iff.mpr level) (greatest.2 other member))

theorem dispatchOrder_congr {jobs : List Job} (distinct : (jobs.map (·.sequence)).Nodup)
    (agree : ∀ job ∈ jobs, first job.task = second job.task) :
    dispatchOrder first jobs = dispatchOrder second jobs := by
  refine ranking_congr (higherPriorityFirst_ranks second) (higherPriorityFirst_ranks first)
    (apart_of_sequences second distinct) fun one former two latter => ?_
  simp only [higherPriorityFirst,agree one former,agree two latter]

theorem Conserved.queue_sequences (conserved : Conserved s history) (group : CallbackGroupId) :
    ((s.queue group).map (·.sequence)).Nodup := by
  have pushed : ((pushedTo group history).map (·.sequence)).Nodup := by
    have listed := conserved.numbers_nodup
    rw [numbers,List.Nodup,pairwise_map] at listed
    rw [pushedTo,share,List.Nodup,pairwise_map,pairwise_filterMap]
    refine listed.imp fun apart one first two second => ?_
    split at first
    · split at second
      · cases first
        cases second
        exact apart
      · contradiction
    · contradiction
  have traffic : (pushedTo group history).Perm (poppedFrom group history ++ s.queue group) := conserved.traffic
  rw [(traffic.map (·.sequence)).nodup_iff,map_append] at pushed
  exact (nodup_append.mp pushed).2.1

theorem Conserved.queue_apart (conserved : Conserved s history) (priority : TaskId → Int) (group : CallbackGroupId) :
    Apart (higherPriorityFirst priority) (s.queue group) :=
  apart_of_sequences priority (conserved.queue_sequences group)

theorem poppedFrom_none (none : removed seen = []) (group : CallbackGroupId) : poppedFrom group seen = [] := by
  rw [poppedFrom,none]
  rfl

/-- What a step that pushes nothing to a group does to its queue. -/
theorem step_dispatch (conserved : Conserved s history) (stepped : step s action = some (t,seen))
    (quiet : pushedTo group seen = []) :
    t.queue group = s.queue group ∧ poppedFrom group seen = [] ∨
      ∃ job, Greatest (higherPriorityFirst s.priority) (s.queue group) job ∧
        t.queue group = (s.queue group).erase job ∧ poppedFrom group seen = [job] := by
  cases step_queued conserved stepped with
  | still queue none => exact .inl ⟨queue group,poppedFrom_none none group⟩
  | @pushed index call place job active unreturned task time enqueues queue none =>
    -- the books of the group say that nothing came in
    have before : (pushedTo group history).length = (poppedFrom group history ++ s.queue group).length :=
      conserved.traffic.length_eq
    have later : (pushedTo group (history ++ seen)).length =
        (poppedFrom group (history ++ seen) ++ t.queue group).length :=
      (step_conserved conserved stepped).traffic.length_eq
    rw [pushedTo_append,quiet,poppedFrom_append,queue] at later
    split at later
    · simp at before later
      omega
    next apart => exact .inl ⟨(queue group).trans (if_neg apart),poppedFrom_none none group⟩
  | @popped place job chosen enqueues queue one =>
    by_cases same : group = place
    · subst same
      refine .inr ⟨job,top_greatest chosen,(queue group).trans (if_pos rfl),?_⟩
      simp [poppedFrom,one,share]
    · refine .inl ⟨(queue group).trans (if_neg same),?_⟩
      simp [poppedFrom,one,share,Ne.symm same]

theorem step_dispatchOrder (conserved : Conserved s history) (stepped : step s action = some (t,seen))
    (quiet : pushedTo group seen = []) : dispatchOrder s.priority (s.queue group) =
      poppedFrom group seen ++ dispatchOrder s.priority (t.queue group) := by
  rcases step_dispatch conserved stepped quiet with ⟨same,none⟩ | ⟨job,greatest,rest,one⟩
  · rw [same,none,nil_append]
  · rw [rest,one]
    exact ranking_pop (higherPriorityFirst_ranks s.priority) (conserved.queue_apart s.priority group) greatest

theorem step_priority (scheduled : Scheduled s) (stepped : step s action = some (t,seen))
    (found : s.tasks.lookup key = some task) : t.priority key = s.priority key := by
  obtain ⟨changed,present,same⟩ := (step_ticked scheduled stepped).config scheduled found
  simp only [System.priority,found,present,same]

/-- As long as nothing is pushed to a group, its jobs are popped in the order of dispatch. -/
theorem run_dispatchOrder (scheduled : Scheduled s) (conserved : Conserved s history)
    (ran : system.run s actions = some (t,seen)) (quiet : pushedTo group seen = []) :
    dispatchOrder s.priority (s.queue group) =
      poppedFrom group seen ++ dispatchOrder s.priority (t.queue group) := by
  induction actions generalizing s history seen with
  | nil =>
    obtain ⟨rfl,rfl⟩ := run_nil_iff.mp ran
    rfl
  | cons action rest ih =>
    obtain ⟨u,emitted,later,stepped,continued,rfl⟩ := run_cons_iff.mp ran
    rw [pushedTo_append,append_eq_nil_iff] at quiet
    have first := step_dispatchOrder conserved stepped quiet.1
    have kept := step_conserved conserved stepped
    have second := ih ((step_ticked scheduled stepped).scheduled scheduled) kept continued quiet.2
    have remaining (job : Job) (member : job ∈ dispatchOrder s.priority (u.queue group)) :
        u.priority job.task = s.priority job.task := by
      have queued : job ∈ dispatchOrder s.priority (s.queue group) := first ▸ mem_append_right _ member
      obtain ⟨task,found,-⟩ := conserved.queuedHome ((ranking_perm _ _).subset queued)
      exact step_priority scheduled stepped found
    have before : dispatchOrder u.priority (u.queue group) = dispatchOrder s.priority (u.queue group) :=
      dispatchOrder_congr (kept.queue_sequences group) fun job member =>
        remaining job ((ranking_perm _ _).mem_iff.mpr member)
    have after : dispatchOrder u.priority (t.queue group) = dispatchOrder s.priority (t.queue group) := by
      have inside (job : Job) (member : job ∈ t.queue group) : job ∈ dispatchOrder u.priority (u.queue group) :=
        second ▸ mem_append_right _ ((ranking_perm _ _).mem_iff.mpr member)
      refine dispatchOrder_congr ?_ fun job member => remaining job (before ▸ inside job member)
      have reached := run_rule_from (motive := fun s history _ => Conserved s history)
        (fun _ _ _ _ _ _ conserved stepped => step_conserved conserved stepped) kept continued
      exact reached.queue_sequences group
    rw [poppedFrom_append,first,← before,second,after,append_assoc]

theorem mem_removed : (group,job) ∈ removed seen ↔ Event.popped group job ∈ seen := by
  rw [removed,mem_filterMap]
  constructor
  · rintro ⟨event,member,same⟩
    cases event <;> simp at same
    rwa [same.1,same.2] at member
  · intro member
    exact ⟨_,member,rfl⟩

theorem popped_greatest (conserved : Conserved s history) (stepped : step s action = some (t,seen))
    (told : Event.popped group job ∈ seen) : Greatest (higherPriorityFirst s.priority) (s.queue group) job ∧
      t.queue group = (s.queue group).erase job := by
  rw [← mem_removed] at told
  cases step_queued conserved stepped with
  | still queue none | pushed active unreturned task time enqueues queue none =>
    rw [none] at told
    contradiction
  | popped chosen enqueues queue one =>
    rw [one,mem_singleton] at told
    cases told
    exact ⟨top_greatest chosen,(queue group).trans (if_pos rfl)⟩

/-- Jobs with different numbers are strictly ordered. What is popped comes before everything else that
is queued, so a heap that pops any greatest job pops this one. Two queues of the same jobs, pushed in
whatever order, are popped in the same order until something else is pushed. -/
theorem dispatch_order_by_jobs (ran : system.run initial actions = some (s,history)) (group : CallbackGroupId) :
    (∀ (priority : TaskId → Int) (jobs : Set Job),
      (∀ one ∈ jobs, ∀ two ∈ jobs, one.sequence = two.sequence → one = two) →
      IsStrictTotalOrder jobs fun left right => higherPriorityFirst priority left right = true) ∧
    ((pushedTo group history).Perm (poppedFrom group history ++ s.queue group) ∧
      ∀ action t seen job, step s action = some (t,seen) → Event.popped group job ∈ seen →
        job ∈ s.queue group ∧ (∀ other ∈ s.queue group, other ≠ job → Precedes s.priority job other) ∧
        (∀ chosen, Greatest (higherPriorityFirst s.priority) (s.queue group) chosen → chosen = job) ∧
        t.queue group = (s.queue group).erase job) ∧
    (∀ others u past, system.run initial others = some (u,past) → (u.queue group).Perm (s.queue group) →
      (∀ job ∈ s.queue group, u.priority job.task = s.priority job.task) →
      ∀ later t seen, system.run s later = some (t,seen) → pushedTo group seen = [] →
      ∀ next v told, system.run u next = some (v,told) → pushedTo group told = [] →
        poppedFrom group seen <+: dispatchOrder s.priority (s.queue group) ∧
        poppedFrom group told <+: dispatchOrder s.priority (s.queue group) ∧
        (t.queue group = [] → v.queue group = [] → poppedFrom group told = poppedFrom group seen)) := by
  have lines := run_lines (initial_lines 0) ran
  have conserved := lines.conserved
  refine ⟨higherPriorityFirst_strict,⟨conserved.traffic,?_⟩,?_⟩
  · intro action t seen job stepped told
    have apart := conserved.queue_apart s.priority group
    obtain ⟨greatest,left⟩ := popped_greatest conserved stepped told
    exact ⟨greatest.1,fun other member different => greatest_precedes apart greatest member different,
      fun chosen best => best.unique apart greatest,left⟩
  · intro others u past reached perm agree later t seen ranLater quiet next v told ranNext silent
    have second := run_lines (initial_lines 0) reached
    have same : dispatchOrder u.priority (u.queue group) = dispatchOrder s.priority (s.queue group) := by
      have reordered : dispatchOrder u.priority (u.queue group) = dispatchOrder u.priority (s.queue group) :=
        ranking_of_perm (higherPriorityFirst_ranks u.priority) (conserved.queue_apart u.priority group) perm
      exact reordered.trans (dispatchOrder_congr (conserved.queue_sequences group) agree)
    have one := run_dispatchOrder lines.scheduled conserved ranLater quiet
    have two := run_dispatchOrder second.scheduled second.conserved ranNext silent
    rw [same] at two
    refine ⟨⟨_,one.symm⟩,⟨_,two.symm⟩,fun drained empty => ?_⟩
    have rest (priority : TaskId → Int) : dispatchOrder priority [] = [] := mergeSort_nil
    rw [drained,rest,append_nil] at one
    rw [empty,rest,append_nil] at two
    exact two.symm.trans one

/-- Two calls draw their numbers; the order of their last sections is left open. -/
def twoJobs (pushes : List Action) : List Action :=
  [.createCallbackGroup ⟨[97],1,4⟩ .success,
   .addTask { name := [98], kind := .event, callbackGroup := 1 } true 0,
   .addTask { name := [99], kind := .event, priority := 5, callbackGroup := 1 } true 0,
   .start .success 0,.notify 1 5,.notify 2 6,.enqueueSequence 0,.enqueueSequence 1,
   .enqueueReserve 0 7,.enqueueReserve 1 7] ++ pushes

def popBoth : List Action := [.workerPop 0,.workerDispatch 0 9,.workerFinish 0 9 10 false,.workerPop 0]

theorem dispatch_order_by_jobs_sample : ∃ s history u past t seen v told,
    system.run initial (twoJobs [.enqueuePush 0,.enqueuePush 1]) = some (s,history) ∧
    system.run initial (twoJobs [.enqueuePush 1,.enqueuePush 0]) = some (u,past) ∧
    system.run s popBoth = some (t,seen) ∧ system.run u popBoth = some (v,told) ∧
    (poppedFrom 1 seen).length = 2 ∧ s.queue 1 ≠ u.queue 1 ∧ poppedFrom 1 told = poppedFrom 1 seen := by
  obtain ⟨s,history,u,past,t,seen,v,told,ran,reached,later,next,perm,agree,quiet,silent,two,differ,drained,empty⟩ :
      ∃ s history u past t seen v told,
        system.run initial (twoJobs [.enqueuePush 0,.enqueuePush 1]) = some (s,history) ∧
        system.run initial (twoJobs [.enqueuePush 1,.enqueuePush 0]) = some (u,past) ∧
        system.run s popBoth = some (t,seen) ∧ system.run u popBoth = some (v,told) ∧
        (u.queue 1).Perm (s.queue 1) ∧ (∀ job ∈ s.queue 1, u.priority job.task = s.priority job.task) ∧
        pushedTo 1 seen = [] ∧ pushedTo 1 told = [] ∧ (poppedFrom 1 seen).length = 2 ∧ s.queue 1 ≠ u.queue 1 ∧
        t.queue 1 = [] ∧ v.queue 1 = [] :=
    ⟨_,_,_,_,_,_,_,_,rfl,rfl,rfl,rfl,by decide,by decide,rfl,rfl,rfl,by decide,rfl,rfl⟩
  have determined := (dispatch_order_by_jobs ran 1).2.2 _ _ _ reached perm agree _ _ _ later quiet _ _ _ next silent
  exact ⟨s,history,u,past,t,seen,v,told,ran,reached,later,next,two,differ,determined.2.2 drained empty⟩

end AutoRuntime.Executor
