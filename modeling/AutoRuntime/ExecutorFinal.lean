import AutoRuntime.ExecutorShift

/-! `Cancel` and `Stop` are final. A stopped group drains before its workers leave, takes no new
job, and none of the jobs that it drains is run. -/
namespace AutoRuntime.Executor

open Pool Machine Table

/-- The groups that a `Stop` has still to mark. -/
def StopPhase.left : StopPhase → List CallbackGroupId
  | .marking groups => groups
  | .joining | .returned => []

/-- What holds of groups and workers from the first step to the last. -/
structure Winding (h : House) : Prop where
  exclusive : h.stopping = true → h.running = false
  stopped : h.stops ≠ [] → h.stopping = true
  unmanned : h.running = false → h.stopping = false → h.workers = []
  staffed : h.groups.lookup key = some group → 0 < group.config.workerCount
  manned : h.running = true ∨ h.stopping = true → h.groups.lookup key = some group →
    ∃ worker ∈ h.workers, worker.group = key
  gone : worker ∈ h.workers → worker.phase = .exited → h.groups.lookup worker.group = some group →
    group.stopping = true ∧ group.queue = []
  marks : phase ∈ h.stops → h.groups.lookup key = some group → group.stopping = true ∨ key ∈ phase.left

/-- Every thread has left and every group is marked. -/
structure Ended (h : House) : Prop where
  stopping : h.stopping = true
  exited : worker ∈ h.workers → worker.phase = .exited
  marked : h.groups.lookup key = some group → group.stopping = true

theorem initial_winding : Winding initial.house := by
  constructor <;> simp [initial,System.house]

theorem Ended.empty (ended : Ended h) (winding : Winding h) (found : h.groups.lookup key = some group) :
    group.queue = [] := by
  obtain ⟨worker,member,rfl⟩ := winding.manned (.inr ended.stopping) found
  exact (winding.gone member (ended.exited member) found).2

/-- One group changes, and stays as marked and as empty as it was. -/
structure Reshaped (groups : Table CallbackGroupId CallbackGroup) (key : CallbackGroupId)
    (group changed : CallbackGroup) : Prop where
  found : groups.lookup key = some group
  config : changed.config = group.config
  marked : group.stopping = true → changed.stopping = true
  empty : group.stopping = true → group.queue = [] → changed.queue = []

theorem Reshaped.origin {groups : Table CallbackGroupId CallbackGroup} (reshaped : Reshaped groups key group changed)
    (present : (groups.modify key fun _ => changed).lookup other = some after) :
    ∃ before, groups.lookup other = some before ∧ after.config = before.config ∧
      (before.stopping = true → after.stopping = true) ∧
      (before.stopping = true → before.queue = [] → after.queue = []) := by
  by_cases same : other = key
  · subst same
    rw [lookup_modify_same,reshaped.found] at present
    cases present
    exact ⟨group,reshaped.found,reshaped.config,reshaped.marked,reshaped.empty⟩
  · rw [lookup_modify_other _ _ same] at present
    exact ⟨after,present,rfl,id,fun _ => id⟩

section

variable {h : House} (winding : Winding h)

include winding

theorem Winding.reshape (reshaped : Reshaped h.groups key group changed) :
    Winding { h with groups := h.groups.modify key fun _ => changed } where
  exclusive := winding.exclusive
  stopped := winding.stopped
  unmanned := winding.unmanned
  staffed present := by
    obtain ⟨before,found,config,-,-⟩ := reshaped.origin present
    exact config ▸ winding.staffed found
  manned busy present := by
    obtain ⟨before,found,-,-,-⟩ := reshaped.origin present
    exact winding.manned busy found
  gone member exited present := by
    obtain ⟨before,found,-,marked,empty⟩ := reshaped.origin present
    obtain ⟨was,drained⟩ := winding.gone member exited found
    exact ⟨marked was,empty was drained⟩
  marks member present := by
    obtain ⟨before,found,-,marked,-⟩ := reshaped.origin present
    exact (winding.marks member found).imp_left marked

theorem Winding.rework (active : h.workers[index]? = some worker)
    (leaves : phase = .exited → ∀ group, h.groups.lookup worker.group = some group →
      group.stopping = true ∧ group.queue = []) :
    Winding { h with workers := h.workers.set index { worker with phase := phase } } where
  exclusive := winding.exclusive
  stopped := winding.stopped
  unmanned waiting unstopped := by
    rw [winding.unmanned waiting unstopped] at active
    simp at active
  staffed := winding.staffed
  manned busy found := by
    obtain ⟨other,member,same⟩ := winding.manned busy found
    by_cases equal : other = worker
    · refine ⟨{ worker with phase := phase },List.mem_set (inside active) _,?_⟩
      exact equal ▸ same
    · exact ⟨other,mem_set_of_ne active member equal,same⟩
  gone member exited found := by
    rcases List.mem_or_eq_of_mem_set member with old | rfl
    · exact winding.gone old exited found
    · exact leaves exited _ found
  marks := winding.marks

theorem Winding.remark (active : h.stops[index]? = some phase)
    (marked : ∀ key group, h.groups.lookup key = some group → key ∈ phase.left →
      group.stopping = true ∨ key ∈ next.left) : Winding { h with stops := h.stops.set index next } where
  exclusive := winding.exclusive
  stopped _ := winding.stopped (List.ne_nil_of_mem (List.mem_of_getElem? active))
  unmanned := winding.unmanned
  staffed := winding.staffed
  manned := winding.manned
  gone := winding.gone
  marks member found := by
    rcases List.mem_or_eq_of_mem_set member with old | rfl
    · exact winding.marks old found
    · rcases winding.marks (List.mem_of_getElem? active) found with was | waiting
      · exact .inl was
      · exact marked _ _ found waiting

theorem Winding.found (waiting : h.running = false) (unstopped : h.stopping = false) (manned : 0 < config.workerCount)
    (new : CallbackGroupId) : Winding { h with groups := h.groups.insert new { config := config } } where
  exclusive := winding.exclusive
  stopped := winding.stopped
  unmanned := winding.unmanned
  staffed {key group} present := by
    rcases insert_cases present with ⟨-,rfl⟩ | ⟨-,old⟩
    · exact manned
    · exact winding.staffed old
  manned busy := absurd busy (by simp [waiting,unstopped])
  gone member := by
    simp [winding.unmanned waiting unstopped] at member
  marks member := by
    simp [winding.stopped (List.ne_nil_of_mem member)] at unstopped

theorem Winding.start (waiting : h.running = false) (unstopped : h.stopping = false) :
    Winding { h with
      running := true
      workers := h.workers ++ h.groups.entries.flatMap fun entry =>
        List.replicate entry.2.config.workerCount { group := entry.1 } } where
  exclusive stopping := by
    simp [unstopped] at stopping
  stopped := winding.stopped
  unmanned idle := by
    simp at idle
  staffed := winding.staffed
  manned {key group} _ found := by
    refine ⟨{ group := key },List.mem_append_right _ (List.mem_flatMap.mpr ⟨⟨key,group⟩,?_,?_⟩),rfl⟩
    · exact lookup_eq_some_iff.mp found
    · exact List.mem_replicate.mpr ⟨Nat.ne_of_gt (winding.staffed found),rfl⟩
  gone member exited _ := by
    rw [winding.unmanned waiting unstopped,List.nil_append] at member
    obtain ⟨entry,-,copies⟩ := List.mem_flatMap.mp member
    rw [(List.mem_replicate.mp copies).2] at exited
    contradiction
  marks member := by
    simp [winding.stopped (List.ne_nil_of_mem member)] at unstopped

theorem Winding.close (order : Table.Order CallbackGroupId CallbackGroup)
    (busy : h.running = true ∨ h.stopping = true) :
    Winding { h with
      running := false
      stopping := true
      stops := h.stops ++ [.marking ((order.arrange h.groups.entries).map Sigma.fst)] } where
  exclusive _ := rfl
  stopped _ := rfl
  unmanned _ open_ := by
    simp at open_
  staffed := winding.staffed
  manned _ := winding.manned busy
  gone := winding.gone
  marks {phase key group} member found := by
    rcases List.mem_append.mp member with old | new
    · exact winding.marks old found
    · rw [List.mem_singleton.mp new]
      refine .inr (List.mem_map.mpr ⟨⟨key,group⟩,?_,rfl⟩)
      exact (order.perm _).mem_iff.mpr (lookup_eq_some_iff.mp found)

end

theorem Winding.shift (winding : Winding s.house) (shift : Shift s h seen) : Winding h := by
  cases shift with
  | still => exact winding
  | founded config waiting unstopped manned => exact winding.found waiting unstopped manned s.nextGroupId
  | started waiting unstopped => exact winding.start waiting unstopped
  | closing order busy => exact winding.close order busy
  | marked index key rest group active found =>
    have reshaped : Reshaped s.house.groups key group { group with stopping := true } :=
      ⟨found,rfl,fun _ => rfl,fun _ empty => empty⟩
    refine (winding.reshape reshaped).remark active (fun other after present waiting => ?_)
    rcases List.mem_cons.mp waiting with rfl | later
    · rw [lookup_modify_same,reshaped.found] at present
      exact .inl (by rw [← Option.some.inj present])
    · exact .inr later
  | marking index active | joined index active => exact winding.remark active (fun _ _ _ waiting => nomatch waiting)
  | pushed key group job found unmarked =>
    have reshaped : Reshaped s.house.groups key group { group with queue := group.queue ++ [job] } :=
      ⟨found,rfl,id,fun marked => by simp [unmarked] at marked⟩
    exact winding.reshape reshaped
  | popped index worker group job active idle found member =>
    have reshaped : Reshaped s.house.groups worker.group group { group with queue := group.queue.erase job } :=
      ⟨found,rfl,id,fun _ empty => by simp [empty] at member⟩
    exact (winding.reshape reshaped).rework active (fun leaves => nomatch leaves)
  | executed index worker job task active => exact winding.rework active (fun leaves => nomatch leaves)
  | worked index worker phase active busy next =>
    refine winding.rework active (fun leaves => ?_)
    rcases next with rfl | ⟨event,rfl⟩ <;> contradiction
  | exited index worker group active found marked empty =>
    refine winding.rework active (fun _ other present => ?_)
    cases found.symm.trans present
    exact ⟨marked,empty⟩

theorem Shift.marked_stays (shift : Shift s h seen) (conserved : Conserved s history)
    (found : s.groups.lookup key = some group) (marked : group.stopping = true) :
    ∃ after, h.groups.lookup key = some after ∧ after.stopping = true := by
  have reshaped {focus : CallbackGroupId} {old new : CallbackGroup} (present : s.groups.lookup focus = some old)
      (stays : old.stopping = true → new.stopping = true) :
      ∃ after, (s.groups.modify focus fun _ => new).lookup key = some after ∧ after.stopping = true := by
    by_cases same : key = focus
    · subst same
      cases found.symm.trans present
      exact ⟨new,by simp [found],stays marked⟩
    · exact ⟨group,by simpa [same] using found,marked⟩
  cases shift with
  | founded config waiting unstopped => simp [conserved.marked found marked] at unstopped
  | marked index focus rest old active present => exact reshaped present (fun _ => rfl)
  | pushed focus old job present | popped index worker old job active idle present => exact reshaped present id
  | _ => exact ⟨group,found,marked⟩

theorem Idle.removed (idle : Idle seen) : removed seen = [] := by
  rw [Executor.removed,List.filterMap_eq_nil_iff]
  intro event member
  cases event <;> simp
  simpa [Event.weighty] using idle _ member

theorem Idle.unexecuted (idle : Idle seen) (job : Job) : .executed job ∉ seen := fun member => by
  simpa [Event.weighty] using idle _ member

theorem Ended.shift (ended : Ended s.house) (shift : Shift s h seen) :
    Ended h ∧ ∀ job, .executed job ∉ seen := by
  cases shift with
  | still idle => exact ⟨ended,idle.unexecuted⟩
  | founded config waiting unstopped | started waiting unstopped =>
    exact absurd ended.stopping (by simp [System.house,unstopped])
  | closing order busy idle => exact ⟨⟨rfl,ended.exited,ended.marked⟩,idle.unexecuted⟩
  | marked index key rest group active found idle =>
    refine ⟨⟨ended.stopping,ended.exited,fun {other after} present => ?_⟩,idle.unexecuted⟩
    have reshaped : Reshaped s.house.groups key group { group with stopping := true } :=
      ⟨found,rfl,fun _ => rfl,fun _ empty => empty⟩
    obtain ⟨before,was,-,marked,-⟩ := reshaped.origin present
    exact marked (ended.marked was)
  | marking index active idle => exact ⟨⟨ended.stopping,ended.exited,ended.marked⟩,idle.unexecuted⟩
  | joined => exact ⟨⟨ended.stopping,ended.exited,ended.marked⟩,fun job member => by simp at member⟩
  | pushed key group job found unmarked => simp [ended.marked found] at unmarked
  | popped index worker group job active idle =>
    simp [ended.exited (List.mem_of_getElem? active)] at idle
  | executed index worker job task active held =>
    simp [ended.exited (List.mem_of_getElem? active)] at held
  | worked index worker phase active busy =>
    exact absurd (ended.exited (List.mem_of_getElem? active)) busy
  | exited index worker group active found marked empty idle =>
    refine ⟨⟨ended.stopping,fun {other} member => ?_,ended.marked⟩,idle.unexecuted⟩
    rcases List.mem_or_eq_of_mem_set member with old | rfl
    · exact ended.exited old
    · rfl

theorem Shift.stopped (shift : Shift s h seen) (winding : Winding s.house) (member : .stopped index ∈ seen) :
    Ended h := by
  have loud {seen : List Event} (idle : Idle seen) (member : .stopped index ∈ seen) : False := by
    simpa [Event.weighty] using idle _ member
  cases shift with
  | joined call active gone =>
    have listed := List.mem_of_getElem? active
    refine ⟨winding.stopped (List.ne_nil_of_mem listed),fun member => gone _ member,fun found => ?_⟩
    rcases winding.marks listed found with marked | unmarked
    · exact marked
    · contradiction
  | popped | executed => simp at member
  | still idle | founded _ _ _ _ idle | started _ _ idle | closing _ _ idle | marked _ _ _ _ _ _ idle
  | marking _ _ idle | pushed _ _ _ _ _ idle | worked _ _ _ _ _ _ idle | exited _ _ _ _ _ _ _ idle =>
    exact absurd member (loud idle)

def House.holdings (h : House) : List (Job × Bool) := h.workers.filterMap Worker.holding

/-- What a step does to the jobs in the hands of the workers. -/
inductive Handed (s : System) : List (Job × Bool) → List Event → Prop where
  | same (subset : holdings ⊆ s.holdings) (unpopped : removed seen = []) (unexecuted : ∀ job, .executed job ∉ seen) :
    Handed s holdings seen
  | popped (key : CallbackGroupId) (group : CallbackGroup) (job : Job)
    (found : s.groups.lookup key = some group)
    (subset : ∀ held ∈ holdings, held ∈ s.holdings ∨ held = (job,group.stopping)) :
    Handed s holdings [.popped key job]
  | executed (job : Job) (held : (job,false) ∈ s.holdings) (subset : holdings ⊆ s.holdings) :
    Handed s holdings [.executed job]

theorem holdings_set {workers : List Worker} (member : held ∈ (workers.set index new).filterMap Worker.holding) :
    held ∈ workers.filterMap Worker.holding ∨ new.holding = some held := by
  obtain ⟨worker,present,holding⟩ := List.mem_filterMap.mp member
  rcases List.mem_or_eq_of_mem_set present with old | rfl
  · exact .inl (List.mem_filterMap.mpr ⟨worker,old,holding⟩)
  · exact .inr holding

theorem Shift.handed (shift : Shift s h seen) : Handed s h.holdings seen := by
  cases shift with
  | still idle | founded _ _ _ _ idle | closing _ _ idle | marked _ _ _ _ _ _ idle | marking _ _ idle
  | pushed _ _ _ _ _ idle => exact .same (fun _ => id) idle.removed idle.unexecuted
  | joined => exact .same (fun _ => id) rfl (by simp)
  | started waiting unstopped idle =>
    refine .same (fun held member => ?_) idle.removed idle.unexecuted
    obtain ⟨worker,present,holding⟩ := List.mem_filterMap.mp member
    rcases List.mem_append.mp present with old | new
    · exact List.mem_filterMap.mpr ⟨worker,old,holding⟩
    · obtain ⟨entry,-,copies⟩ := List.mem_flatMap.mp new
      rw [(List.mem_replicate.mp copies).2] at holding
      contradiction
  | popped index worker group job active idle found =>
    refine .popped worker.group group job found (fun held member => ?_)
    exact (holdings_set member).imp_right fun new => (Option.some.inj new).symm
  | executed index worker job task active held =>
    refine .executed job (mem_holdings active held) (fun other member => ?_)
    exact (holdings_set member).resolve_right (fun new => nomatch new)
  | worked index worker phase active busy next idle =>
    refine .same (fun held member => (holdings_set member).resolve_right fun new => ?_) idle.removed idle.unexecuted
    rcases next with rfl | ⟨event,rfl⟩ <;> contradiction
  | exited index worker group active found marked empty idle =>
    exact .same (fun held member => (holdings_set member).resolve_right fun new => nomatch new) idle.removed
      idle.unexecuted

/-- Whatever was run or is about to be was popped. -/
structure Dispatched (s : System) (history : List Event) : Prop where
  executed : .executed job ∈ history → ∃ key, (key,job) ∈ removed history
  held : (job,flag) ∈ s.holdings → ∃ key, (key,job) ∈ removed history

theorem Dispatched.handed {t : System} (dispatched : Dispatched s history) (handed : Handed s t.holdings seen) :
    Dispatched t (history ++ seen) := by
  have earlier {job : Job} (popped : ∃ key, (key,job) ∈ removed history) :
      ∃ key, (key,job) ∈ removed (history ++ seen) := by
    obtain ⟨key,member⟩ := popped
    exact ⟨key,by simp [member]⟩
  generalize holdings_eq : t.holdings = holdings at handed
  constructor
  · intro job member
    rcases List.mem_append.mp member with old | new
    · exact earlier (dispatched.executed old)
    · cases handed with
      | same _ _ unexecuted => exact absurd new (unexecuted job)
      | popped => simp at new
      | executed other held =>
        obtain rfl : job = other := by simpa using new
        exact earlier (dispatched.held held)
  · intro job flag member
    rw [holdings_eq] at member
    cases handed with
    | same subset | executed other held subset => exact earlier (dispatched.held (subset member))
    | popped key group other found subset =>
      rcases subset _ member with old | new
      · exact earlier (dispatched.held old)
      · cases new
        exact ⟨key,by simp [removed]⟩

theorem Conserved.popped_once (conserved : Conserved s (history ++ [.popped key job])) (other : CallbackGroupId) :
    (other,job) ∉ removed history := by
  intro member
  have distinct := conserved.removed_nodup
  simp only [removed_append,List.map_append,List.nodup_append] at distinct
  exact distinct.2.2 _ (List.mem_map_of_mem member) job.sequence (by simp [removed]) rfl

/-- The jobs popped from the group are never run. -/
structure Late (key : CallbackGroupId) (history : List Event) (t : System) (seen : List Event) : Prop where
  conserved : Conserved t (history ++ seen)
  dispatched : Dispatched t (history ++ seen)
  marked : ∃ group, t.groups.lookup key = some group ∧ group.stopping = true
  unexecuted : (key,job) ∈ removed seen → .executed job ∉ history ++ seen
  flagged : (key,job) ∈ removed seen → (job,flag) ∈ t.holdings → flag = true

theorem Late.step (late : Late key history s past) (stepped : step s action = some (t,seen)) :
    Late key history t (past ++ seen) := by
  have shift := step_shift stepped
  have handed : Handed s t.holdings seen := shift.handed
  have conserved : Conserved t (history ++ (past ++ seen)) := by
    rw [← List.append_assoc]
    exact step_conserved late.conserved stepped
  have dispatched : Dispatched t (history ++ (past ++ seen)) := by
    rw [← List.append_assoc]
    exact late.dispatched.handed handed
  obtain ⟨group,found,marked⟩ := late.marked
  have stays := shift.marked_stays late.conserved found marked
  generalize now : t.holdings = holdings at handed
  cases handed with
  | same subset unpopped unexecuted =>
    refine ⟨conserved,dispatched,stays,fun {job} member => ?_,fun {job flag} member held => ?_⟩
    · rw [removed_append,unpopped,List.append_nil] at member
      simp [late.unexecuted member,unexecuted job,← List.append_assoc]
    · rw [removed_append,unpopped,List.append_nil] at member
      exact late.flagged member (subset (now ▸ held))
  | executed other taken subset =>
    refine ⟨conserved,dispatched,stays,fun {job} member => ?_,fun {job flag} member held => ?_⟩
    · have earlier : (key,job) ∈ removed past := by simpa [removed] using member
      have apart : job ≠ other := by
        rintro rfl
        exact absurd (late.flagged earlier taken) (by decide)
      simp [late.unexecuted earlier,apart,← List.append_assoc]
    · have earlier : (key,job) ∈ removed past := by simpa [removed] using member
      exact late.flagged earlier (subset (now ▸ held))
  | popped focus old other present subset =>
    have fresh (place : CallbackGroupId) : (place,other) ∉ removed (history ++ past) := by
      rw [← List.append_assoc] at conserved
      exact conserved.popped_once place
    have split {job : Job} (member : (key,job) ∈ removed (past ++ [.popped focus other])) :
        (key,job) ∈ removed past ∨ key = focus ∧ job = other := by
      simpa [removed] using member
    refine ⟨conserved,dispatched,stays,fun {job} member => ?_,fun {job flag} member held => ?_⟩
    · rcases split member with earlier | ⟨rfl,rfl⟩
      · simp [late.unexecuted earlier,← List.append_assoc]
      · intro executed
        rw [← List.append_assoc] at executed
        obtain ⟨place,popped⟩ := late.dispatched.executed (by simpa using executed)
        exact fresh place popped
    · rcases split member with earlier | ⟨rfl,rfl⟩
      · rcases subset _ (now ▸ held) with was | new
        · exact late.flagged earlier was
        · cases new
          exact absurd (by simp [earlier]) (fresh key)
      · rcases subset _ (now ▸ held) with was | new
        · obtain ⟨place,popped⟩ := late.dispatched.held was
          exact absurd popped (fresh place)
        · cases found.symm.trans present
          exact (Prod.mk.inj new).2.trans marked

/-- A property of the calls begun after a certain time that every section keeps. -/
theorem Lined.calls {motive : EnqueueCall → Prop} (lined : Lined s enqueues)
    (new : ∀ task releaseTime, motive { task := task, releaseTime := releaseTime })
    (passes : ∀ call phase, motive call → Passes s call phase → motive { call with phase := phase })
    (before : ∀ (index : Nat) call, s.enqueues[index]? = some call → count ≤ index → motive call) :
    ∀ (index : Nat) call, enqueues[index]? = some call → count ≤ index → motive call := by
  intro index call active later
  cases lined with
  | same => exact before index call active later
  | requested task releaseTime =>
    rcases concat_cases active with old | ⟨-,rfl⟩
    · exact before index call old later
    · exact new task releaseTime
  | passed focus old phase present passed =>
    rcases set_cases active with ⟨rfl,rfl⟩ | ⟨-,unchanged⟩
    · exact passes old phase (before index old present later) passed
    · exact before index call unchanged later

theorem cancelled_seen (stepped : step s action = some (t,seen)) (member : .cancelled key ∈ seen) :
    ∃ task, t.tasks.lookup key = some task ∧ task.cancelled = true := by
  cases step_stepped stepped with
  | added valid unstopped housed told => rcases told with ⟨-,-,rfl⟩ | ⟨-,-,rfl⟩ <;> simp at member
  | @cancelled target task found =>
    obtain rfl : key = target := by simpa using member
    exact ⟨{ task with cancelled := true },by simp [System.setTask,found],rfl⟩
  | sequences part | reserves part | pushes part | pops part | dispatches part | finishes part | reports part
  | exits part => cases part <;> simp at member
  | _ => simp at member

/-- The call has not been accepted and will not be. -/
def EnqueuePhase.unaccepted : EnqueuePhase → Bool
  | .requested | .sequenced _ _ => true
  | .reserved _ _ _ => false
  | .returned status => !status.ok

/-- The task is cancelled, with so many starts and with so many calls made before. -/
structure Withdrawn (key : TaskId) (started count : Nat) (t : System) : Prop where
  task : ∃ task, t.tasks.lookup key = some task ∧ task.cancelled = true ∧ task.stats.started = started
  calls : ∀ (index : Nat) call, t.enqueues[index]? = some call → count ≤ index → call.task = key →
    call.phase.unaccepted = true

theorem Withdrawn.step (withdrawn : Withdrawn key started count s) (conserved : Conserved s history)
    (stepped : step s action = some (t,seen)) : Withdrawn key started count t := by
  obtain ⟨task,found,cancelled,same⟩ := withdrawn.task
  obtain ⟨after,present,advances⟩ := step_advances conserved stepped found
  refine ⟨⟨after,present,advances.cancelled cancelled,(advances.started cancelled).trans same⟩,?_⟩
  refine (step_lined stepped).calls (motive := fun call => call.task = key → call.phase.unaccepted = true)
    (fun _ _ _ => rfl) (fun call phase good passes own => ?_) withdrawn.calls
  cases passes with
  | closed | homeless | sequenced => rfl
  | refused _ _ status _ failed => simp [EnqueuePhase.unaccepted,failed]
  | reserved _ _ _ other _ known live =>
    obtain rfl : call.task = key := own
    cases found.symm.trans known
    simp [cancelled] at live
  | finished _ _ _ _ reserved =>
    have unaccepted := good own
    simp [reserved,EnqueuePhase.unaccepted] at unaccepted

/-- The executor is over, with so many calls made before. -/
structure Closed (count : Nat) (t : System) : Prop where
  winding : Winding t.house
  ended : Ended t.house
  calls : ∀ (index : Nat) call, t.enqueues[index]? = some call → count ≤ index →
    call.phase = .requested ∨ call.phase = .returned notAccepting

theorem Closed.step (closed : Closed count s) (stepped : step s action = some (t,seen)) :
    Closed count t ∧ ∀ job, .executed job ∉ seen := by
  have shift := step_shift stepped
  obtain ⟨ended,unexecuted⟩ := closed.ended.shift shift
  refine ⟨⟨closed.winding.shift shift,ended,?_⟩,unexecuted⟩
  have shut : s.running = false := closed.winding.exclusive closed.ended.stopping
  refine (step_lined stepped).calls
    (motive := fun call => call.phase = .requested ∨ call.phase = .returned notAccepting)
    (fun _ _ => .inl rfl) (fun call phase good passes => ?_) closed.calls
  cases passes with
  | closed => exact .inr rfl
  | homeless _ running | sequenced _ _ _ running => simp [shut] at running
  | refused _ _ _ sequenced | reserved _ _ _ _ sequenced => simp [sequenced] at good
  | finished _ _ _ _ reserved => simp [reserved] at good

/-- What holds in every state that can be reached. -/
structure Reached (s : System) (history : List Event) : Prop where
  conserved : Conserved s history
  dispatched : Dispatched s history
  winding : Winding s.house
  ended : .stopped index ∈ history → Ended s.house
  cancelled : .cancelled key ∈ history → ∃ task, s.tasks.lookup key = some task ∧ task.cancelled = true

theorem Reached.step (reached : Reached s history) (stepped : step s action = some (t,seen)) :
    Reached t (history ++ seen) where
  conserved := step_conserved reached.conserved stepped
  dispatched := reached.dispatched.handed (step_shift stepped).handed
  winding := reached.winding.shift (step_shift stepped)
  ended member := by
    rcases List.mem_append.mp member with old | new
    · exact ((reached.ended old).shift (step_shift stepped)).1
    · exact (step_shift stepped).stopped reached.winding new
  cancelled member := by
    rcases List.mem_append.mp member with old | new
    · obtain ⟨task,found,was⟩ := reached.cancelled old
      obtain ⟨after,present,advances⟩ := step_advances reached.conserved stepped found
      exact ⟨after,present,advances.cancelled was⟩
    · exact cancelled_seen stepped new

theorem run_reached (ran : system.run initial actions = some (s,history)) : Reached s history := by
  have start : Reached initial [] :=
    ⟨initial_conserved,⟨nofun,nofun⟩,initial_winding,nofun,nofun⟩
  exact run_invariant (motive := Reached) (fun _ _ _ _ _ reached stepped => reached.step stepped) start ran

/-- The task is started no more, and no call for it that begins after the cancellation succeeds. -/
structure StaysCancelled (key : TaskId) (s t : System) : Prop where
  started : ∃ before after, s.tasks.lookup key = some before ∧ t.tasks.lookup key = some after ∧
    after.stats.started = before.stats.started
  refused : ∀ (index : Nat) call status, t.enqueues[index]? = some call → s.enqueues.length ≤ index →
    call.task = key → call.phase = .returned status → status.ok = false

/-- No job is left, nothing runs or will run, and every new call is refused. -/
structure StaysStopped (s t : System) (seen : List Event) : Prop where
  queues : t.groups.lookup key = some group → group.queue = []
  queued : (∀ (index : Nat) call, t.enqueues[index]? = some call → index < s.enqueues.length →
    ∃ status, call.phase = .returned status) → t.tasks.lookup key = some task → task.queued = 0
  exited : worker ∈ t.workers → worker.phase = .exited
  unexecuted : .executed job ∉ seen
  refused : ∀ (index : Nat) call, t.enqueues[index]? = some call → s.enqueues.length ≤ index →
    call.phase = .requested ∨ call.phase = .returned notAccepting
  answered : t.tasks.lookup key = some task → task.config.kind ≠ .periodic → ∀ now, ∃ asked answered,
    step t (.notify key now) = some (asked,[]) ∧
    step asked (.enqueueSequence t.enqueues.length) = some (answered,[.enqueued t.enqueues.length notAccepting])

theorem Reached.stays_cancelled (reached : Reached s history) (member : .cancelled key ∈ history)
    (continued : system.run s later = some (t,seen)) : StaysCancelled key s t := by
  obtain ⟨task,found,cancelled⟩ := reached.cancelled member
  have start : Withdrawn key task.stats.started s.enqueues.length s := by
    refine ⟨⟨task,found,cancelled,rfl⟩,fun index call active later => ?_⟩
    exact absurd (inside active) (Nat.not_lt.mpr later)
  obtain ⟨-,withdrawn⟩ := run_invariant
    (motive := fun t seen => Conserved t (history ++ seen) ∧ Withdrawn key task.stats.started s.enqueues.length t)
    (fun u past action v emitted before stepped => ⟨by
        rw [← List.append_assoc]
        exact step_conserved before.1 stepped,before.2.step before.1 stepped⟩)
    ⟨by simpa using reached.conserved,start⟩ continued
  obtain ⟨after,present,-,same⟩ := withdrawn.task
  refine ⟨⟨task,after,found,present,same⟩,fun index call status active begun own returned => ?_⟩
  simpa [returned,EnqueuePhase.unaccepted] using withdrawn.calls index call active begun own

theorem notified_closed (closed : Closed count t) (found : t.tasks.lookup key = some task)
    (notifiable : task.config.kind ≠ .periodic) (now : Int) : ∃ asked answered,
    step t (.notify key now) = some (asked,[]) ∧
    step asked (.enqueueSequence t.enqueues.length) = some (answered,[.enqueued t.enqueues.length notAccepting]) := by
  have stopping : t.stopping = true := closed.ended.stopping
  have asked : step t (.notify key now) = some (t.request key now,[]) := by
    simp [step,System.notify,found,notifiable]
  have answered : (t.request key now).enqueueSequence t.enqueues.length =
      some ((t.request key now).answer t.enqueues.length { task := key, releaseTime := now } notAccepting) := by
    simp [System.enqueueSequence,System.request,found,stopping,notAccepting]
  exact ⟨_,_,asked,answered⟩

theorem Closed.unqueued (closed : Closed count t) (conserved : Conserved t history)
    (returned : ∀ (index : Nat) call, t.enqueues[index]? = some call → index < count →
      ∃ status, call.phase = .returned status)
    (found : t.tasks.lookup key = some task) : task.queued = 0 := by
  have queue : t.queue task.config.callbackGroup = [] := by
    simp only [System.queue]
    split
    next group present => exact closed.ended.empty closed.winding present
    · rfl
  have reservations : t.reservations = [] := by
    refine List.filterMap_eq_nil_iff.mpr fun call member => ?_
    obtain ⟨index,active⟩ := List.mem_iff_getElem?.mp member
    rcases Nat.lt_or_ge index count with early | late
    · obtain ⟨status,phase⟩ := returned index call active early
      simp [EnqueueCall.reservation,phase]
    · rcases closed.calls index call active late with phase | phase <;> simp [EnqueueCall.reservation,phase]
  have holdings : t.holdings = [] := by
    refine List.filterMap_eq_nil_iff.mpr fun worker member => ?_
    simp [Worker.holding,closed.ended.exited member]
  rw [conserved.account found]
  simp [System.inFlight,queue,reservations,holdings]

theorem Reached.stays_stopped (reached : Reached s history) (member : .stopped index ∈ history)
    (continued : system.run s later = some (t,seen)) : StaysStopped s t seen := by
  have start : Closed s.enqueues.length s := by
    refine ⟨reached.winding,reached.ended member,fun index call active later => ?_⟩
    exact absurd (inside active) (Nat.not_lt.mpr later)
  obtain ⟨conserved,closed,unexecuted⟩ := run_invariant
    (motive := fun t seen => Conserved t (history ++ seen) ∧ Closed s.enqueues.length t ∧
      ∀ job, .executed job ∉ seen)
    (fun u past action v emitted before stepped => by
      obtain ⟨conserved,closed,unexecuted⟩ := before
      obtain ⟨closed,silent⟩ := closed.step stepped
      refine ⟨?_,closed,fun job => by simp [unexecuted job,silent job]⟩
      rw [← List.append_assoc]
      exact step_conserved conserved stepped)
    ⟨by simpa using reached.conserved,start,by simp⟩ continued
  exact {
    queues := fun found => closed.ended.empty closed.winding found
    queued := fun returned found => closed.unqueued conserved returned found
    exited := fun member => closed.ended.exited member
    unexecuted := unexecuted _
    refused := closed.calls
    answered := fun found notifiable now => notified_closed closed found notifiable now }

theorem Reached.never_executed (reached : Reached s history) (found : s.groups.lookup key = some group)
    (marked : group.stopping = true) (continued : system.run s later = some (t,seen))
    (popped : .popped key job ∈ seen) : .executed job ∉ history ++ seen := by
  have start : Late key history s [] :=
    ⟨by simpa using reached.conserved,by simpa using reached.dispatched,⟨group,found,marked⟩,nofun,nofun⟩
  have late : Late key history t seen := run_invariant (motive := Late key history)
    (fun _ _ _ _ _ before stepped => before.step stepped) start continued
  exact late.unexecuted (List.mem_filterMap.mpr ⟨_,popped,rfl⟩)

/-- From any state on: a task that was cancelled is started no more, an executor whose `Stop` has
come back is empty and refuses everything, and a group marked as stopping runs nothing it pops. -/
theorem cancel_and_stop_final (ran : system.run initial actions = some (s,history))
    (continued : system.run s later = some (t,seen)) :
    (∀ key, .cancelled key ∈ history → StaysCancelled key s t) ∧
    (∀ call, .stopped call ∈ history → StaysStopped s t seen) ∧
    ∀ key group job, s.groups.lookup key = some group → group.stopping = true → .popped key job ∈ seen →
      .executed job ∉ history ++ seen := by
  have reached := run_reached ran
  exact ⟨fun key member => reached.stays_cancelled member continued,
    fun call member => reached.stays_stopped member continued,
    fun key group job found marked popped => reached.never_executed found marked continued popped⟩

/-- Two jobs; the first one runs when the task is cancelled and the executor is told to stop. -/
def stoppingRun : List Action :=
  [.createCallbackGroup ⟨[97],1,4⟩ .success,
   .addTask { name := [98], kind := .event, queueCapacity := 2, callbackGroup := 1 } true 0,
   .start .success 0,.notify 1 5,.enqueueSequence 0,.enqueueReserve 0 6,.enqueuePush 0,
   .notify 1 7,.enqueueSequence 1,.enqueueReserve 1 8,.enqueuePush 1,.workerPop 0,.workerDispatch 0 9,
   .cancel 1,.stop .stored,.stopMark 0,.stopMark 0]

/-- The first job ends, the second one is popped, and the threads leave. -/
def drainingRun : List Action :=
  [.workerFinish 0 9 10 false,.workerPop 0,.workerDispatch 0 11,.workerExit 0,.schedulerExit,.stopJoin 0]

def stoppingEvents : List Event :=
  [.created 1,.added 1,.started,.pushed 1 ⟨1,5,6,1⟩,.enqueued 0 .success,.pushed 1 ⟨1,7,8,2⟩,.enqueued 1 .success,
   .popped 1 ⟨1,5,6,1⟩,.executed ⟨1,5,6,1⟩,.cancelled 1]

def drainingEvents : List Event := [.popped 1 ⟨1,7,8,2⟩,.stopped 0]

theorem cancel_and_stop_final_sample : ∃ s t u,
    system.run initial stoppingRun = some (s,stoppingEvents) ∧ system.run s drainingRun = some (t,drainingEvents) ∧
    system.run t [.notify 1 12,.enqueueSequence 2] = some (u,[.enqueued 2 notAccepting]) ∧
    StaysCancelled 1 s t ∧ .executed ⟨1,7,8,2⟩ ∉ stoppingEvents ++ drainingEvents ∧
    StaysStopped t u [.enqueued 2 notAccepting] := by
  obtain ⟨s,t,u,ran,drained,whole,notified,found⟩ : ∃ s t u,
      system.run initial stoppingRun = some (s,stoppingEvents) ∧ system.run s drainingRun = some (t,drainingEvents) ∧
      system.run initial (stoppingRun ++ drainingRun) = some (t,stoppingEvents ++ drainingEvents) ∧
      system.run t [.notify 1 12,.enqueueSequence 2] = some (u,[.enqueued 2 notAccepting]) ∧
      s.groups.lookup 1 = some ⟨⟨[97],1,4⟩,[⟨1,7,8,2⟩],true⟩ := ⟨_,_,_,rfl,rfl,rfl,rfl,rfl⟩
  have first := cancel_and_stop_final ran drained
  have second := cancel_and_stop_final whole notified
  exact ⟨s,t,u,ran,drained,notified,first.1 1 (by simp [stoppingEvents]),
    first.2.2 1 _ _ found rfl (by simp [drainingEvents]),second.2.1 0 (by simp [drainingEvents])⟩

end AutoRuntime.Executor
