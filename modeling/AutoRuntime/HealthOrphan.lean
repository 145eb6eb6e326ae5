import AutoRuntime.HealthEpisode

/-! Replacement processes. Once its start hook has returned a process, a call that comes
back with an error must have asked the cleanup hook to release that process. -/
namespace AutoRuntime.Health

open List Option Machine

/-- Every process this call started has been released since. -/
def Cleaned (history : List Event) (index : Nat) : Prop :=
  ∀ before since name generation processId,
    history = before ++ .startReturned index name generation (.ok processId) :: since →
    0 < processId → .cleanupCalled index name generation ∈ since

/-- No call returned an error and left a process it started behind. -/
def NoOrphan (history : List Event) : Prop :=
  ∀ before since rest index name generation processId status,
    history = before ++ .startReturned index name generation (.ok processId) ::
      (since ++ .returned index (.error status) :: rest) →
    0 < processId → .cleanupCalled index name generation ∈ since

theorem NoOrphan.shorten (extended : NoOrphan (history ++ seen)) : NoOrphan history := by
  intro before since rest index name generation processId status split
  exact extended before since (rest ++ seen) index name generation processId status (by simp [split])

theorem noOrphan_quiet (quiet : ∀ index status, .returned index (.error status) ∉ seen) :
    NoOrphan (history ++ seen) ↔ NoOrphan history := by
  refine ⟨.shorten,fun held => ?_⟩
  intro before since rest index name generation processId status split
  rw [← cons_append,← append_assoc] at split
  rcases history_split split with ⟨between,old,_⟩ | ⟨between,new,_⟩
  · exact held before since between index name generation processId status (by simp [old])
  · exact absurd (by simp [new]) (quiet index status)

theorem noOrphan_returned : NoOrphan (history ++ [.returned index (.error status)]) ↔
    NoOrphan history ∧ Cleaned history index := by
  constructor
  · intro held
    refine ⟨held.shorten,fun before since name generation processId split => ?_⟩
    exact held before since [] index name generation processId status (by simp [split])
  · rintro ⟨held,cleaned⟩ before since rest other name generation processId answer split
    rw [← cons_append,← append_assoc] at split
    rcases history_split split with ⟨between,old,_⟩ | ⟨between,new,front⟩
    · exact held before since between other name generation processId answer (by simp [old])
    · have last := append_eq_singleton_iff.mp new.symm
      simp only [cons_ne_nil,and_false,or_false,cons.injEq,Event.returned.injEq] at last
      obtain ⟨rfl,⟨rfl,-⟩,-⟩ := last
      exact cleaned before since name generation processId (by simpa using front.symm)

/-- Phases before the start hook has run. -/
def RecoverPhase.unstarted : RecoverPhase → Bool
  | .cleaning | .backingOff | .sleeping | .starting => true
  | .started _ | .reconnecting _ | .releasing _ | .failing _ | .committing _ | .returned => false

/-- The process that a phase still has to hand over or release. -/
def RecoverPhase.holding : RecoverPhase → Option Int
  | .started processId | .reconnecting processId | .committing processId => some processId
  | .cleaning | .backingOff | .sleeping | .starting | .releasing _ | .failing _ | .returned => none

/-- The process this call started has not been released. -/
def Loose (history : List Event) (index : Nat) (call : RecoverCall) (processId : Int) : Prop :=
  ∃ before since, history = before ++
      .startReturned index call.name call.newGeneration (.ok processId) :: since ∧
    .cleanupCalled index call.name call.newGeneration ∉ since

/-- What the history shows of a call, by the phase it is in. -/
structure Traced (history : List Event) (index : Nat) (call : RecoverCall) : Prop where
  own : .startReturned index name generation started ∈ history →
    name = call.name ∧ generation = call.newGeneration
  unstarted : call.phase.unstarted = true → .startReturned index name generation started ∉ history
  holding : call.phase.holding = some processId → 0 < processId ∧ Loose history index call processId
  cleaned : call.phase = .failing status → Cleaned history index

theorem Cleaned.extend (cleaned : Cleaned history index)
    (foreign : ∀ name generation started, .startReturned index name generation started ∉ seen) :
    Cleaned (history ++ seen) index := by
  intro before since name generation processId split positive
  rcases history_split split with ⟨between,old,rfl⟩ | ⟨between,new,_⟩
  · exact mem_append_left seen (cleaned before between name generation processId old positive)
  · exact absurd (by simp [new]) (foreign name generation (.ok processId))

theorem Loose.extend (loose : Loose history index call processId)
    (foreign : .cleanupCalled index call.name call.newGeneration ∉ seen) :
    Loose (history ++ seen) index call processId := by
  obtain ⟨before,since,rfl,kept⟩ := loose
  exact ⟨before,since ++ seen,by simp,by simp [kept,foreign]⟩

theorem Loose.uncleaned (loose : Loose history index call processId) (positive : 0 < processId) :
    ¬ Cleaned history index := by
  obtain ⟨before,since,split,kept⟩ := loose
  exact fun cleaned => kept (cleaned before since _ _ processId split positive)

theorem Traced.move (traced : Traced history index call)
    (quiet : ∀ name generation started, .startReturned index name generation started ∉ seen)
    (unstarted : phase.unstarted = true → call.phase.unstarted = true)
    (holding : ∀ processId, phase.holding = some processId → call.phase.holding = some processId ∧
      .cleanupCalled index call.name call.newGeneration ∉ seen)
    (cleaned : ∀ status, phase = .failing status → Cleaned (history ++ seen) index) :
    Traced (history ++ seen) index { call with phase := phase } := by
  have earlier {name generation started}
      (member : Event.startReturned index name generation started ∈ history ++ seen) :
      Event.startReturned index name generation started ∈ history :=
    (mem_append.mp member).resolve_right (quiet name generation started)
  refine ⟨fun member => traced.own (earlier member),?_,?_,cleaned _⟩
  · exact fun before member => traced.unstarted (unstarted before) (earlier member)
  · intro processId held
    obtain ⟨still,kept⟩ := holding processId held
    exact ⟨(traced.holding still).1,(traced.holding still).2.extend kept⟩

theorem Traced.extend (traced : Traced history index call)
    (foreign : ∀ event ∈ seen, event.caller ≠ some index) : Traced (history ++ seen) index call := by
  have quiet (name generation started) : Event.startReturned index name generation started ∉ seen :=
    fun member => foreign _ member rfl
  refine traced.move quiet id (fun processId held => ⟨held,fun member => foreign _ member rfl⟩) ?_
  exact fun status phase => (traced.cleaned phase).extend quiet

theorem cleaned_of_unstarted
    (unstarted : ∀ name generation started, .startReturned index name generation started ∉ history) :
    Cleaned history index := by
  intro before since name generation processId split
  exact absurd (by simp [split]) (unstarted name generation (.ok processId))

section

variable (traced : Traced history index call)

include traced

theorem cleanup_traced (proceeds : call.proceed index (.cleanup index outcome) = some (phase,seen)) :
    Traced (history ++ seen) index { call with phase := phase } := by
  simp only [RecoverCall.proceed] at proceeds
  split at proceeds
  next cleaning =>
    cases proceeds
    have unstarted : call.phase.unstarted = true := by simp [cleaning,RecoverPhase.unstarted]
    refine traced.move (by simp) (fun _ => unstarted) ?_ fun status failing => ?_
    · intro processId held
      split at held <;> simp [RecoverPhase.holding] at held
    · refine cleaned_of_unstarted fun name generation started member => ?_
      exact traced.unstarted unstarted (by simpa using member)
  · contradiction

/-- The two stages before the start hook only test the time. -/
theorem waiting_traced (unstarted : call.phase.unstarted = true) (idle : phase.holding = none) :
    Traced history index { call with phase := phase } := by
  have moved : Traced (history ++ []) index { call with phase := phase } := by
    refine traced.move (by simp) (fun _ => unstarted) (by simp [idle]) fun status failing => ?_
    refine cleaned_of_unstarted fun name generation started member => ?_
    exact traced.unstarted unstarted (by simpa using member)
  simpa using moved

theorem start_traced (proceeds : call.proceed index (.start index outcome) = some (phase,seen)) :
    Traced (history ++ seen) index { call with phase := phase } := by
  simp only [RecoverCall.proceed] at proceeds
  split at proceeds
  next starting =>
    cases proceeds
    generalize outcome.settle "start" .error = started
    have unstarted {name generation result} :
        Event.startReturned index name generation result ∉ history :=
      traced.unstarted (by simp [starting,RecoverPhase.unstarted])
    have only {before since name generation result}
        (split : history ++ [.startReturned index call.name call.newGeneration started] =
          before ++ .startReturned index name generation result :: since) : result = started := by
      rcases history_split split with ⟨between,old,_⟩ | ⟨between,new,_⟩
      · have member : Event.startReturned index name generation result ∈ history := by simp [old]
        exact absurd member unstarted
      · have last := append_eq_singleton_iff.mp new.symm
        simp at last
        exact last.2.1.2.2
    refine ⟨fun member => ?_,?_,?_,fun {status} => ?_⟩
    · have last := (mem_append.mp member).resolve_left unstarted
      simp only [mem_singleton,Event.startReturned.injEq] at last
      exact ⟨last.2.1,last.2.2.1⟩
    · cases started with
      | error => simp [RecoverPhase.unstarted]
      | ok processId => by_cases invalid : processId ≤ 0 <;> simp [invalid,RecoverPhase.unstarted]
    · cases started with
      | error => simp [RecoverPhase.holding]
      | ok processId =>
        by_cases invalid : processId ≤ 0
        · simp [invalid,RecoverPhase.holding]
        · intro held
          simp only [invalid,if_false,RecoverPhase.holding,some.injEq] at held
          subst held
          exact ⟨by omega,history,[],rfl,by simp⟩
    · intro failing before since name generation processId split positive
      obtain rfl := only split
      have valid : ¬ processId ≤ 0 := by omega
      simp [valid] at failing
  · contradiction

theorem release_traced (proceeds : call.proceed index (.release index) = some (phase,seen)) :
    Traced (history ++ seen) index { call with phase := phase } := by
  simp only [RecoverCall.proceed] at proceeds
  split at proceeds
  next releasing =>
    cases proceeds
    refine traced.move (by simp) (by simp [RecoverPhase.unstarted]) (by simp [RecoverPhase.holding]) ?_
    intro status failing before since name generation processId split positive
    rcases history_split split with ⟨between,old,rfl⟩ | ⟨between,new,_⟩
    · have member : Event.startReturned index name generation (.ok processId) ∈ history := by simp [old]
      obtain ⟨rfl,rfl⟩ := traced.own member
      simp
    · have last := append_eq_singleton_iff.mp new.symm
      simp at last
  · contradiction

theorem proceed_traced (caller : action.caller = some index)
    (proceeds : call.proceed index action = some (phase,seen)) :
    Traced (history ++ seen) index { call with phase := phase } := by
  cases action
  case cleanup other outcome =>
    obtain rfl : other = index := by simpa [Action.caller] using caller
    exact cleanup_traced traced proceeds
  case backOff | wake =>
    simp only [RecoverCall.proceed] at proceeds
    split at proceeds
    next waiting =>
      cases proceeds
      rw [append_nil]
      refine waiting_traced traced (by simp [waiting,RecoverPhase.unstarted]) ?_
      split <;> rfl
    · contradiction
  case start other outcome =>
    obtain rfl : other = index := by simpa [Action.caller] using caller
    exact start_traced traced proceeds
  case check | reconnect =>
    simp only [RecoverCall.proceed] at proceeds
    split at proceeds
    next processId started =>
      cases proceeds
      refine traced.move (by simp) ?_ ?_ ?_
      · split <;> simp [RecoverPhase.unstarted]
      · split <;> simp [RecoverPhase.holding,started]
      · split <;> simp
    · contradiction
  case release other =>
    obtain rfl : other = index := by simpa [Action.caller] using caller
    exact release_traced traced proceeds
  all_goals simp [RecoverCall.proceed] at proceeds

end

theorem proceed_caller (proceeds : RecoverCall.proceed call index action = some (phase,seen)) :
    ∀ event ∈ seen, event.caller = some index ∧ ∀ answer, event ≠ .returned index answer := by
  simp only [RecoverCall.proceed] at proceeds
  repeat' split at proceeds
  all_goals first
    | contradiction
    | (cases proceeds
       simp [Event.caller])

theorem caller_events (caller : action.caller = some index) (stepped : step s action = some (t,seen))
    (member : event ∈ seen) : event.caller ≠ none := by
  cases caller_took caller stepped with
  | observed outside => exact absurd (outside.symm.trans caller) (by simp)
  | entered => contradiction
  | proceeded _ _ proceeds => simp [(proceed_caller proceeds event member).1]
  | failed | committed | stale =>
    obtain rfl := mem_singleton.mp member
    simp [Event.caller]

/-- Every call is traced, and the history knows no call that has not entered. -/
structure Recorded (s : System) (history : List Event) : Prop where
  traced : s.recovers[index]? = some call → Traced history index call
  known : event ∈ history → event.caller = some index → index < s.recovers.length

theorem Recorded.setPhase (recorded : Recorded s history) (active : s.recovers[index]? = some call)
    (own : Traced (history ++ seen) index { call with phase := phase })
    (seenBy : ∀ event ∈ seen, event.caller = some index) :
    Recorded (System.setPhase s index call phase) (history ++ seen) := by
  constructor
  · intro other found present
    rw [setPhase_recovers active] at present
    split at present
    next same =>
      subst other
      exact some.inj present ▸ own
    next apart =>
      refine (recorded.traced present).extend fun event member caller => ?_
      exact apart (some.inj (caller.symm.trans (seenBy event member)))
  · intro event other member caller
    simp only [System.setPhase,length_set]
    rcases mem_append.mp member with old | new
    · exact recorded.known old caller
    · cases (seenBy event new).symm.trans caller
      exact (Pool.inside active)

theorem Recorded.returned (recorded : Recorded s history) (active : s.recovers[index]? = some call)
    (monitor : Monitor) (answer : Result ComponentHealth) :
    Recorded { System.setPhase s index call .returned with monitor := monitor }
      (history ++ [.returned index answer]) := by
  have own : Traced (history ++ [.returned index answer]) index { call with phase := .returned } :=
    (recorded.traced active).move (by simp) (by simp [RecoverPhase.unstarted])
      (by simp [RecoverPhase.holding]) (by simp)
  have moved := recorded.setPhase active own (by simp [Event.caller])
  exact ⟨moved.traced,moved.known⟩

theorem Took.recorded (took : Took s action t seen) (recorded : Recorded s history) :
    Recorded t (history ++ seen) := by
  cases took with
  | observed _ _ silent =>
    constructor
    · intro index call active
      exact (recorded.traced active).extend fun event member => by simp [silent event member]
    · intro event index member caller
      rcases mem_append.mp member with old | new
      · exact recorded.known old caller
      · simp [silent event new] at caller
  | @entered _ _ _ call _ _ _ _ _ enters =>
    have unknown {event : Event} (member : event ∈ history)
        (caller : event.caller = some s.recovers.length) : False :=
      Nat.lt_irrefl _ (recorded.known member caller)
    have fresh : Traced history s.recovers.length call :=
      ⟨fun member => (unknown member rfl).elim,fun _ member => unknown member rfl,
        by simp [enters.callPhase,RecoverPhase.holding],by simp [enters.callPhase]⟩
    constructor
    · intro index other present
      rcases Nat.lt_or_ge index s.recovers.length with inside | outside
      · rw [getElem?_append_left inside] at present
        refine (recorded.traced present).extend fun event member caller => ?_
        obtain rfl := mem_singleton.mp member
        simp only [Event.caller,some.injEq] at caller
        omega
      · have last := Pool.inside present
        simp only [length_append,length_cons,length_nil] at last
        obtain rfl : index = s.recovers.length := by omega
        obtain rfl : call = other := by simpa using present
        exact fresh.move (by simp) id (by simp [enters.callPhase,RecoverPhase.holding])
          (by simp [enters.callPhase])
    · intro event index member caller
      simp only [length_append,length_cons,length_nil]
      rcases Pool.mem_concat member with old | rfl
      · have bound := recorded.known old caller
        omega
      · simp only [Event.caller,some.injEq] at caller
        omega
  | proceeded caller active proceeds =>
    exact recorded.setPhase active (proceed_traced (recorded.traced active) caller proceeds)
      fun event member => (proceed_caller proceeds event member).1
  | failed active | committed active => exact recorded.returned active _ _
  | stale active => exact recorded.returned active s.monitor _

/-- A commit finds the component as its call left it. -/
def Live (s : System) : Action → Prop
  | .commit index _ => ∀ call, s.recovers[index]? = some call →
      ∃ component, s.monitor.components.lookup call.name = some component ∧
        component.generation = call.oldGeneration ∧ component.state = .recovering
  | _ => True

/-- Each step keeps every process accounted for, a commit exactly when it is live. -/
theorem Took.noOrphan_iff (took : Took s action t seen) (recorded : Recorded s history) :
    NoOrphan (history ++ seen) ↔ NoOrphan history ∧ Live s action := by
  cases took with
  | observed outside _ silent =>
    have live : Live s action := by
      cases action <;> trivial
    rw [noOrphan_quiet fun index status member => by simpa [Event.caller] using silent _ member]
    exact (and_iff_left live).symm
  | entered => rw [noOrphan_quiet (by simp)]; exact (and_iff_left trivial).symm
  | proceeded caller active proceeds =>
    have live : Live s action := by
      cases action <;> trivial
    rw [noOrphan_quiet ?_]
    · exact (and_iff_left live).symm
    · intro other status member
      obtain ⟨same,apart⟩ := proceed_caller proceeds _ member
      cases same
      exact apart _ rfl
  | failed active phase =>
    rw [noOrphan_returned]
    exact and_congr_right fun _ => iff_of_true ((recorded.traced active).cleaned phase) trivial
  | @committed _ call _ before _ _ _ active _ commits =>
    rw [noOrphan_quiet (by simp)]
    refine (and_iff_left fun other present => ?_).symm
    cases active.symm.trans present
    exact ⟨before,commits.found,commits.current,commits.recovering⟩
  | stale active phase gone =>
    rw [noOrphan_returned]
    obtain ⟨positive,loose⟩ := (recorded.traced active).holding (by rw [phase]; rfl)
    exact and_congr_right fun _ =>
      iff_of_false (loose.uncleaned positive) fun live => gone (live _ active)

/-- No replacement process is orphaned exactly in the runs whose commits are all live. -/
theorem no_orphan_iff (ran : system.run initial actions = some (s,history)) :
    NoOrphan history ↔ system.Along Live initial actions := by
  refine run_along_iff (m := system)
    (fun s history action t seen recorded stepped => (step_took stepped).recorded recorded)
    (fun s history action t seen recorded stepped => (step_took stepped).noOrphan_iff recorded)
    ⟨by simp [initial],by simp⟩ ?_ ran
  intro before since rest index name generation processId status split
  simp at split

/-- The reconnect hook throws. -/
def sampleRefusal : List Action :=
  sampleFailure ++ sampleRecover 2 :: sampleStages ++ [.reconnect 0 .unknown,.release 0,.fail 0 6]

theorem no_orphan_sample : ∃ s history,
    system.run initial sampleRefusal = some (s,history) ∧ NoOrphan history := by
  obtain ⟨s,history,ran⟩ : ∃ s history, system.run initial sampleRefusal = some (s,history) := ⟨_,_,rfl⟩
  refine ⟨s,history,ran,(no_orphan_iff ran).mpr ?_⟩
  simp [Machine.Along,Live,sampleRefusal,sampleFailure,sampleRecover,sampleStages]

/-- The evaluation fails the component while its replacement runs; the commit backs out and
nobody releases process 21. -/
theorem stale_commit_orphans : ∃ s history,
    system.run initial (sampleFailure ++ sampleRecover 2 :: sampleStages ++ sampleProbe ++
      [.reconnect 0 (.returned .success),.commit 0 12]) = some (s,history) ∧ ¬ NoOrphan history := by
  refine ⟨_,_,rfl,fun held => ?_⟩
  have released := held [_,_,_,_] [_,_] [] 0 [1] 2 21 _ rfl (by decide)
  simp at released

end AutoRuntime.Health
