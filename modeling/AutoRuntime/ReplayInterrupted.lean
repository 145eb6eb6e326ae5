import AutoRuntime.Replay
import AutoRuntime.TraceCrash

/-! Replays that are cancelled and taken up again. Every record that was read is passed to the
callback, still held by the call, or dropped when the call returns. -/
namespace AutoRuntime.Trace.Replaying

open Option Machine

variable {quotient : UInt64 → Rat → Rat} {s t : System}

/-- The replayer gives these records and then the end of the file. -/
def Reads : Replayer → List TraceRecord → Prop
  | r, [] => r.next.1 = .ok none
  | r, record :: rest => r.next.1 = .ok (some record) ∧ Reads r.next.2 rest

variable {r : Replayer}

theorem next_end (ended : r.next.1 = .ok none) : r.next.2.next.1 = .ok none := by
  simp only [Replayer.next] at ended
  split at ended
  · contradiction
  next live =>
    split at ended
    next eof => simp [Replayer.next,live,eof]
    next more =>
      split at ended
      next empty => simp [Replayer.next,live,more,empty]
      · contradiction
      · split at ended
        · contradiction
        · simp at ended

def System.held (s : System) : List TraceRecord :=
  match s.phase with
  | .waiting _ record _ => [record]
  | _ => []

def Event.record : Event → Option TraceRecord
  | .delivered record => some record
  | .returned _ dropped => dropped

def Event.deliveredRecord : Event → Option TraceRecord
  | .delivered record => some record
  | .returned _ _ => none

/-- The records that calls have passed to the callback or dropped. -/
def taken (history : List Event) : List TraceRecord := history.filterMap Event.record

/-- The records that were passed to the callbacks, of one call after the other. -/
def delivered (history : List Event) : List TraceRecord := history.filterMap Event.deliveredRecord

def Event.status : Event → Option Status
  | .delivered _ => none
  | .returned status _ => some status

/-- How the calls returned. -/
def returns (history : List Event) : List Status := history.filterMap Event.status

/-- What one step can be. -/
inductive Took (s : System) : Action → System → List Event → Prop where
  | rejected (idle : s.phase = .idle) (code : status.code = .invalidArgument) :
    Took s (.replay options callback now) { s with phase := .idle } [.returned status none]
  | began (idle : s.phase = .idle) :
    Took s (.replay options callback now) { s with phase := .reading call } []
  | stopped (reading : s.phase = .reading call) :
    Took s (.read true) { s with phase := .idle } [.returned cancelled none]
  | failed (reading : s.phase = .reading call) (error : s.replayer.next.1 = .error status) :
    Took s (.read false) { s with replayer := s.replayer.next.2, phase := .idle } [.returned status none]
  | ended (reading : s.phase = .reading call) (last : s.replayer.next.1 = .ok none) :
    Took s (.read false) { s with replayer := s.replayer.next.2, phase := .idle } [.returned .success none]
  | delivered (reading : s.phase = .reading call) (found : s.replayer.next.1 = .ok (some record)) :
    Took s (.read false) { s with replayer := s.replayer.next.2, phase := .inCallback call } [.delivered record]
  | unscheduled (reading : s.phase = .reading call) (found : s.replayer.next.1 = .ok (some record))
    (code : status.code = .transportError) :
    Took s (.read false) { s with replayer := s.replayer.next.2, phase := .idle } [.returned status (some record)]
  | scheduled (reading : s.phase = .reading call) (found : s.replayer.next.1 = .ok (some record)) :
    Took s (.read false) { s with replayer := s.replayer.next.2, phase := .waiting later record target } []
  | waits (waiting : s.phase = .waiting call record target) : Took s (.poll now false deliveredAt) s []
  | interrupted (waiting : s.phase = .waiting call record target) (early : now < target) :
    Took s (.poll now true deliveredAt) { s with phase := .idle } [.returned cancelled (some record)]
  | due (waiting : s.phase = .waiting call record target) (late : ¬now < target) :
    Took s (.poll now stopRequested deliveredAt) { s with phase := .inCallback call, delivery := delivery }
      [.delivered record]
  | refused (inside : s.phase = .inCallback call) (failed : status.ok = false) :
    Took s (.answer callback) { s with phase := .idle } [.returned status none]
  | answered (inside : s.phase = .inCallback call) :
    Took s (.answer callback) { s with phase := .reading call, delivery := delivery } []

theorem target_error {options : ReplayOptions}
    (failed : options.target quotient replayStart relativeNs = .error status) : status.code = .transportError := by
  simp only [ReplayOptions.target] at failed
  split at failed
  · cases failed
    rfl
  · split at failed
    · cases failed
      rfl
    · contradiction

theorem replay_took (idle : s.phase = .idle) (moved : s.replay options callback now = (t,seen)) :
    Took s (.replay options callback now) t seen := by
  simp only [System.replay,System.finish] at moved
  split at moved
  · cases moved
    exact .rejected idle rfl
  · split at moved
    · cases moved
      exact .rejected idle rfl
    · cases moved
      exact .began idle

theorem schedule_took (reading : s.phase = .reading call) (found : s.replayer.next.1 = .ok (some record))
    (moved : { s with replayer := s.replayer.next.2 }.schedule quotient call record = (t,seen)) :
    Took s (.read false) t seen := by
  simp only [System.schedule,System.finish,System.deliver] at moved
  split at moved
  · cases moved
    exact .delivered reading found
  · split at moved
    next status failed =>
      cases moved
      exact .unscheduled reading found (target_error failed)
    · cases moved
      exact .scheduled reading found

theorem read_took (reading : s.phase = .reading call) (moved : s.read quotient call stopRequested = (t,seen)) :
    Took s (.read stopRequested) t seen := by
  simp only [System.read] at moved
  split at moved
  next stopped =>
    cases moved
    rw [stopped]
    exact .stopped reading
  next going =>
    rw [Bool.not_eq_true] at going
    rw [going]
    split at moved
    next status error =>
      cases moved
      exact .failed reading error
    next last =>
      cases moved
      exact .ended reading last
    next record found => exact schedule_took reading found moved

theorem poll_took (waiting : s.phase = .waiting call record target)
    (moved : s.poll call record target now stopRequested deliveredAt = (t,seen)) :
    Took s (.poll now stopRequested deliveredAt) t seen := by
  simp only [System.poll,System.finish,System.deliver] at moved
  split at moved
  next early =>
    cases stopRequested with
    | true =>
      cases moved
      exact .interrupted waiting early
    | false =>
      cases moved
      exact .waits waiting
  next late =>
    cases moved
    exact .due waiting late

theorem answer_took (inside : s.phase = .inCallback call) (moved : s.answer call callback = (t,seen)) :
    Took s (.answer callback) t seen := by
  simp only [System.answer,System.finish] at moved
  split at moved
  next refused =>
    cases moved
    exact .refused inside (by simpa using refused)
  · cases moved
    exact .answered inside

theorem step_took (stepped : step quotient s action = some (t,seen)) : Took s action t seen := by
  simp only [step] at stepped
  split at stepped
  next idle => exact replay_took idle (some.inj stepped)
  next reading => exact read_took reading (some.inj stepped)
  next waiting => exact poll_took waiting (some.inj stepped)
  next inside => exact answer_took inside (some.inj stepped)
  · contradiction

/-- A step neither loses a record nor makes one up, and only the end of the file is a success. -/
inductive Passed (s t : System) (seen : List Event) : Prop where
  | still (replayer : t.replayer = s.replayer) (same : taken seen ++ t.held = s.held)
    (unfinished : .success ∉ returns seen)
  | read (record : TraceRecord) (found : s.replayer.next.1 = .ok (some record))
    (replayer : t.replayer = s.replayer.next.2) (empty : s.held = []) (same : taken seen ++ t.held = [record])
    (unfinished : .success ∉ returns seen)
  | ended (last : s.replayer.next.1 = .ok none) (replayer : t.replayer = s.replayer.next.2)
    (empty : s.held = []) (same : taken seen ++ t.held = [])
  | failed (status : Status) (error : s.replayer.next.1 = .error status)

theorem returned_failed (failed : status.ok = false) (dropped : Option TraceRecord) :
    .success ∉ returns [.returned status dropped] := by
  intro listed
  obtain rfl : .success = status := by simpa [returns,Event.status] using listed
  contradiction

theorem Took.passed (took : Took s action t seen) : Passed s t seen := by
  cases took with
  | rejected idle code =>
    exact .still rfl (by simp [System.held,idle,taken,Event.record]) (returned_failed (by simp [Status.ok,code]) _)
  | began idle => exact .still rfl (by simp [System.held,idle,taken]) List.not_mem_nil
  | stopped reading =>
    exact .still rfl (by simp [System.held,reading,taken,Event.record]) (returned_failed rfl _)
  | failed _ error => exact .failed _ error
  | ended reading last => exact .ended last rfl (by simp [System.held,reading]) rfl
  | delivered reading found | scheduled reading found =>
    exact .read _ found rfl (by simp [System.held,reading]) rfl List.not_mem_nil
  | unscheduled reading found code =>
    exact .read _ found rfl (by simp [System.held,reading]) rfl (returned_failed (by simp [Status.ok,code]) _)
  | waits => exact .still rfl rfl List.not_mem_nil
  | interrupted waiting =>
    exact .still rfl (by simp [System.held,waiting,taken,Event.record]) (returned_failed rfl _)
  | due waiting => exact .still rfl (by simp [System.held,waiting,taken,Event.record]) List.not_mem_nil
  | refused inside failed =>
    exact .still rfl (by simp [System.held,inside,taken,Event.record]) (returned_failed failed _)
  | answered inside => exact .still rfl (by simp [System.held,inside,taken]) List.not_mem_nil

theorem taken_append (history seen : List Event) : taken (history ++ seen) = taken history ++ taken seen :=
  List.filterMap_append

theorem returns_append (history seen : List Event) : returns (history ++ seen) = returns history ++ returns seen :=
  List.filterMap_append

/-- What has been taken, what the call holds and what is still to be read make up the trace. After a
success nothing is left. -/
structure Conserved (records rest : List TraceRecord) (s : System) (history : List Event) : Prop where
  reads : Reads s.replayer rest
  whole : taken history ++ (s.held ++ rest) = records
  finished : .success ∈ returns history → s.held ++ rest = []
  clean : .returned .success dropped ∈ history → dropped = none

theorem returned_status (listed : .returned status dropped ∈ history) : status ∈ returns history :=
  List.mem_filterMap.mpr ⟨_,listed,rfl⟩

theorem returned_taken (listed : .returned status dropped ∈ history) (silent : taken history = []) :
    dropped = none :=
  List.filterMap_eq_nil_iff.mp silent _ listed

/-- What the past says about successes holds after a step that is none. -/
theorem Conserved.earlier (conserved : Conserved records rest s history) (unfinished : .success ∉ returns seen) :
    (.success ∈ returns (history ++ seen) → s.held ++ rest = []) ∧
      ∀ dropped, .returned .success dropped ∈ history ++ seen → dropped = none := by
  constructor
  · intro listed
    rw [returns_append] at listed
    exact conserved.finished ((List.mem_append.mp listed).resolve_right unfinished)
  · intro dropped listed
    rcases List.mem_append.mp listed with listed | listed
    · exact conserved.clean listed
    · exact absurd (returned_status listed) unfinished

theorem Conserved.passed (conserved : Conserved records rest s history) (passed : Passed s t seen) :
    ∃ rest, Conserved records rest t (history ++ seen) := by
  have reads := conserved.reads
  have whole := conserved.whole
  cases passed with
  | still replayer same unfinished =>
    obtain ⟨finished,clean⟩ := conserved.earlier unfinished
    refine ⟨rest,replayer ▸ reads,?_,fun listed => ?_,clean _⟩
    · rw [taken_append,← whole,← same]
      simp only [List.append_assoc]
    · have none := finished listed
      rw [← same,List.append_assoc] at none
      exact (List.append_eq_nil_iff.mp none).2
  | read record found replayer empty same unfinished =>
    obtain ⟨finished,clean⟩ := conserved.earlier unfinished
    cases rest with
    | nil => simp [Reads,found] at reads
    | cons first rest =>
      obtain ⟨next,reads⟩ := reads
      obtain rfl : record = first := by simpa [found] using next
      refine ⟨rest,replayer ▸ reads,?_,fun listed => ?_,clean _⟩
      · rw [taken_append,← whole,empty]
        calc taken history ++ taken seen ++ (t.held ++ rest)
            = taken history ++ (taken seen ++ t.held ++ rest) := by simp only [List.append_assoc]
          _ = taken history ++ ([] ++ record :: rest) := by rw [same]; rfl
      · have none := finished listed
        simp at none
  | ended last replayer empty same =>
    obtain ⟨silent,released⟩ := List.append_eq_nil_iff.mp same
    cases rest with
    | nil =>
      refine ⟨[],?_,?_,fun _ => by rw [released]; rfl,fun listed => ?_⟩
      · rw [replayer]
        exact next_end last
      · rw [taken_append,silent,released,← whole,empty,List.append_nil]
      · rcases List.mem_append.mp listed with listed | listed
        · exact conserved.clean listed
        · exact returned_taken listed silent
    | cons => simp [Reads,last] at reads
  | failed status error => cases rest <;> simp [Reads,error] at reads

theorem run_conserved (reads : Reads r records)
    (ran : (system quotient).run { replayer := r } actions = some (s,history)) :
    ∃ rest, Conserved records rest s history := by
  refine run_invariant (motive := fun s history => ∃ rest, Conserved records rest s history) ?_ ?_ ran
  · rintro s history action t seen ⟨rest,conserved⟩ stepped
    exact conserved.passed (step_took stepped).passed
  · exact ⟨records,reads,rfl,by simp [returns],by simp⟩

/-- The call sees the stop request while it waits for the time of the record that it holds. -/
def System.interrupted (s : System) (action : Action) : Bool :=
  match s.phase, action with
  | .waiting _ _ target, .poll now stopRequested _ => now < target && stopRequested
  | _, _ => false

/-- A cancelled call has dropped a record. -/
def Event.cancels : Event → Bool
  | .delivered _ => false
  | .returned status dropped => status = cancelled && dropped.isSome

/-- Cancelling a wait is the one way in which a cancelled call drops a record. -/
theorem Took.cancels (took : Took s action t seen) :
    (∀ event ∈ seen, event.cancels = false) ↔ s.interrupted action = false := by
  cases took with
  | rejected idle | began idle => simp [System.interrupted,Event.cancels,idle]
  | stopped reading | failed reading | ended reading | delivered reading | scheduled reading =>
    simp [System.interrupted,Event.cancels,reading]
  | @unscheduled call record status reading _ code =>
    have other : status ≠ cancelled := by
      rintro rfl
      contradiction
    simp [System.interrupted,Event.cancels,reading,other]
  | waits waiting => simp [System.interrupted,waiting]
  | interrupted waiting early => simp [System.interrupted,Event.cancels,waiting,early]
  | due waiting late => simp [System.interrupted,Event.cancels,waiting,late]
  | refused inside | answered inside => simp [System.interrupted,Event.cancels,inside]

def Event.drops : Event → Bool
  | .delivered _ => false
  | .returned _ dropped => dropped.isSome

theorem taken_length (history : List Event) :
    (taken history).length = (delivered history).length + history.countP Event.drops := by
  induction history with
  | nil => rfl
  | cons event history ih =>
    simp only [taken,delivered] at ih ⊢
    cases event with
    | delivered =>
      simp only [List.filterMap_cons,List.countP_cons,Event.record,Event.deliveredRecord,Event.drops,
        List.length_cons,ih,Bool.false_eq_true,if_false]
      omega
    | returned status dropped =>
      cases dropped with
      | none => simpa [List.filterMap_cons,Event.record,Event.deliveredRecord,Event.drops] using ih
      | some =>
        simp [List.filterMap_cons,List.countP_cons,Event.record,Event.deliveredRecord,Event.drops,ih]
        omega

theorem delivered_eq_taken (history : List Event) :
    delivered history = taken history ↔ ∀ event ∈ history, event.drops = false := by
  constructor
  · intro same event listed
    have lengths := taken_length history
    rw [same] at lengths
    have none : history.countP Event.drops = 0 := by omega
    simpa using List.countP_eq_zero.mp none event listed
  · intro kept
    refine List.filterMap_congr fun event listed => ?_
    cases event with
    | delivered => rfl
    | returned status dropped =>
      have none : dropped = none := by simpa [Event.drops] using kept _ listed
      exact none.symm

/-- Calls that were cancelled, and one that ran to the end, drop records by cancelling a wait only. -/
theorem Conserved.drops_iff (conserved : Conserved records rest s history)
    (returned : returns history = List.replicate count cancelled ++ [.success]) :
    (∀ event ∈ history, event.drops = false) ↔ ∀ event ∈ history, event.cancels = false := by
  refine forall₂_congr fun event listed => ?_
  cases event with
  | delivered => rfl
  | returned =>
    have known := returned_status listed
    rw [returned,List.mem_append,List.mem_singleton] at known
    rcases known with stopped | rfl
    · simp [Event.drops,Event.cancels,List.eq_of_mem_replicate stopped]
    · rw [conserved.clean listed]
      rfl

theorem cancels_iff (ran : (system quotient).run s actions = some (t,history)) :
    (∀ event ∈ history, event.cancels = false) ↔
      (system quotient).Along (fun s action => s.interrupted action = false) s actions := by
  induction actions generalizing s history with
  | nil =>
    obtain ⟨-,rfl⟩ := run_nil_iff.mp ran
    simp [Machine.Along]
  | cons action rest ih =>
    obtain ⟨u,seen,later,stepped,continued,rfl⟩ := run_cons_iff.mp ran
    rw [along_cons stepped,← ih continued,← (step_took stepped).cancels]
    exact List.forall_mem_append

/-- Replay calls that were cancelled, and a last one that ran to the end, have passed on exactly
the trace if and only if none of them was cancelled while it waited for the time of a record. -/
theorem interrupted_replay_iff {r : Replayer} (reads : Reads r records)
    (ran : (system quotient).run { replayer := r } actions = some (s,history))
    (returned : returns history = List.replicate count cancelled ++ [.success]) :
    delivered history = records ↔
      (system quotient).Along (fun s action => s.interrupted action = false) { replayer := r } actions := by
  obtain ⟨rest,conserved⟩ := run_conserved reads ran
  have all : taken history = records := by
    have whole := conserved.whole
    rwa [conserved.finished (by simp [returned]),List.append_nil] at whole
  rw [← all,delivered_eq_taken,conserved.drops_iff returned]
  exact cancels_iff ran

theorem reads_of_nexts (answers : ∀ extra, r.nexts (records.length + extra) =
    records.map (fun record => .ok (some record)) ++ List.replicate extra (.ok none)) : Reads r records := by
  induction records generalizing r with
  | nil => simpa [Replayer.nexts,Reads] using answers 1
  | cons record rest ih =>
    have split (extra : Nat) : r.next.1 = .ok (some record) ∧ r.next.2.nexts (rest.length + extra) =
        rest.map (fun record => .ok (some record)) ++ List.replicate extra (.ok none) := by
      have answer := answers extra
      rw [List.length_cons,Nat.add_right_comm,Replayer.nexts] at answer
      exact List.cons.inj answer
    exact ⟨(split 0).1,ih fun extra => (split extra).2⟩

theorem opened_reads (wall monotonic : UInt64) (named : path ≠ []) (valid : (validateLimits limits).ok = true)
    (fits : ∀ record ∈ whole, record.Fits limits) (consecutive : Consecutive 1 0 whole following last) :
    ∃ r, Replayer.open path (some (buildFileHeader wall monotonic ++ whole.flatMap PendingRecord.image)) limits =
      .ok r ∧ Reads r (whole.map PendingRecord.replayed) := by
  have all : ∀ record ∈ whole ++ [], record.Fits limits := by simpa using fits
  have replays := opened_replays wall monotonic valid all consecutive (.inl rfl)
  simp only [List.append_nil] at replays
  obtain ⟨ending,clean,-,answers⟩ := replays.answers
  have opened : Replayer.open path (some (buildFileHeader wall monotonic ++ whole.flatMap PendingRecord.image))
      limits = .ok {
        limits := limits
        file := buildFileHeader wall monotonic ++ whole.flatMap PendingRecord.image
        input := whole.flatMap PendingRecord.image
        info := ⟨traceFormatVersion,wall,monotonic⟩ } := by
    simp [Replayer.open,named,valid,openAndReadHeader_append]
  refine ⟨_,opened,reads_of_nexts fun extra => ?_⟩
  rw [List.length_map,answers extra,clean rfl,List.map_map]
  rfl

def sampleRecord (sequence offset : UInt64) : PendingRecord :=
  ⟨sequence,offset,[99],[120],⟨{},[7,0]⟩⟩

/-- Two records ten milliseconds apart. -/
def sampleTrace : List PendingRecord := [sampleRecord 1 0,sampleRecord 2 10000000]

theorem sampleTrace_reads : ∃ r, Replayer.open [116] (some (buildFileHeader 7 100 ++
    sampleTrace.flatMap PendingRecord.image)) {} = .ok r ∧ Reads r (sampleTrace.map PendingRecord.replayed) := by
  have second : Consecutive 2 0 [sampleRecord 2 10000000] 3 10000000 :=
    Consecutive.cons (show 0 ≤ (sampleRecord 2 10000000).monotonicOffsetNs by decide) .nil
  have consecutive : Consecutive 1 0 sampleTrace 3 10000000 :=
    Consecutive.cons (show 0 ≤ (sampleRecord 1 0).monotonicOffsetNs by decide) second
  refine opened_reads 7 100 (by simp) rfl (fun record listed => ?_) consecutive
  rcases List.mem_pair.mp listed with rfl | rfl <;> constructor <;> decide

def exactQuotient (relativeNs : UInt64) (divisor : Rat) : Rat := relativeNs.toNat / divisor

/-- The second record is read, and the replay is cancelled before its time. -/
def sampleInterruption : List Action :=
  [.replay {} true 0,.read false,.poll 1 false 1,.answer (.returned .success),.read false,.poll 2000000 true 0,
    .replay {} true 3000000,.read false]

theorem read_waits (found : s.replayer.next.1 = .ok (some record)) (reading : s.phase = .reading call)
    (timed : call.options.timing = .original) (offset : call.firstOffset.getD record.monotonicOffsetNs = first)
    (relative : record.monotonicOffsetNs - first = relativeNs)
    (due : call.options.target quotient call.replayStart relativeNs = .ok target) :
    step quotient s (.read false) = some ({ s with
      replayer := s.replayer.next.2
      phase := .waiting { call with firstOffset := some first } record target },[]) := by
  simp [step,reading,System.read,found,System.schedule,timed,offset,relative,due]

theorem read_ends (ended : s.replayer.next.1 = .ok none) (reading : s.phase = .reading call) :
    step quotient s (.read false) =
      some ({ s with replayer := s.replayer.next.2, phase := .idle },[.returned .success none]) := by
  simp [step,reading,System.read,ended,System.finish]

theorem early_target : ReplayOptions.target exactQuotient {} 0 0 = .ok 0 := by decide +kernel

theorem sampleInterruption_ran (reads : Reads r (sampleTrace.map PendingRecord.replayed)) :
    (system exactQuotient).run { replayer := r } sampleInterruption =
      some (⟨r.next.2.next.2.next.2,.idle,⟨1,1,1,1⟩⟩,[.delivered (sampleRecord 1 0).replayed,
        .returned cancelled (some (sampleRecord 2 10000000).replayed),.returned .success none]) := by
  obtain ⟨one,two,ended⟩ := reads
  have late : ReplayOptions.target exactQuotient {} 0 10000000 = .ok 10000000 := by decide +kernel
  have first : step exactQuotient ⟨r,.reading ⟨{},0,none⟩,{}⟩ (.read false) =
      some (⟨r.next.2,.waiting ⟨{},0,some 0⟩ (sampleRecord 1 0).replayed 0,{}⟩,[]) :=
    read_waits (s := ⟨r,.reading ⟨{},0,none⟩,{}⟩) one rfl rfl rfl rfl early_target
  have second : step exactQuotient ⟨r.next.2,.reading ⟨{},0,some 0⟩,⟨1,1,1,1⟩⟩ (.read false) =
      some (⟨r.next.2.next.2,.waiting ⟨{},0,some 0⟩ (sampleRecord 2 10000000).replayed 10000000,⟨1,1,1,1⟩⟩,[]) :=
    read_waits (s := ⟨r.next.2,.reading ⟨{},0,some 0⟩,⟨1,1,1,1⟩⟩) two rfl rfl rfl rfl late
  have last : step exactQuotient ⟨r.next.2.next.2,.reading ⟨{},3000000,none⟩,⟨1,1,1,1⟩⟩ (.read false) =
      some (⟨r.next.2.next.2.next.2,.idle,⟨1,1,1,1⟩⟩,[.returned .success none]) := read_ends ended rfl
  refine run_cons_iff.mpr ⟨_,_,_,rfl,?_,rfl⟩
  refine run_cons_iff.mpr ⟨_,_,_,first,?_,rfl⟩
  refine run_cons_iff.mpr ⟨_,_,_,rfl,?_,rfl⟩
  refine run_cons_iff.mpr ⟨_,_,_,rfl,?_,rfl⟩
  refine run_cons_iff.mpr ⟨_,_,_,second,?_,rfl⟩
  refine run_cons_iff.mpr ⟨_,_,_,rfl,?_,rfl⟩
  refine run_cons_iff.mpr ⟨_,_,_,rfl,?_,rfl⟩
  exact run_cons_iff.mpr ⟨_,_,_,last,rfl,rfl⟩

theorem replay_loses_record : ∃ r s history,
    Replayer.open [116] (some (buildFileHeader 7 100 ++ sampleTrace.flatMap PendingRecord.image)) {} = .ok r ∧
    Reads r (sampleTrace.map PendingRecord.replayed) ∧
    (system exactQuotient).run { replayer := r } sampleInterruption = some (s,history) ∧
    returns history = [cancelled,.success] ∧
    delivered history = [(sampleRecord 1 0).replayed] ∧
    delivered history ≠ sampleTrace.map PendingRecord.replayed := by
  obtain ⟨r,opened,reads⟩ := sampleTrace_reads
  refine ⟨r,_,_,opened,reads,sampleInterruption_ran reads,rfl,rfl,fun same => ?_⟩
  exact absurd (congrArg List.length same) (by decide)

/-- The first replay is cancelled before it reads the second record, and a replay that does not
wait goes on from there. -/
def sampleResumption : List Action :=
  [.replay {} true 0,.read false,.poll 1 false 1,.answer (.returned .success),.read true,
    .replay { timing := .asFastAsPossible } true 5,.read false,.answer (.returned .success),.read false]

theorem read_delivers (found : s.replayer.next.1 = .ok (some record)) (reading : s.phase = .reading call)
    (untimed : call.options.timing = .asFastAsPossible) :
    step quotient s (.read false) =
      some ({ s with replayer := s.replayer.next.2, phase := .inCallback call },[.delivered record]) := by
  simp [step,reading,System.read,found,System.schedule,untimed,System.deliver]

theorem sampleResumption_ran (reads : Reads r (sampleTrace.map PendingRecord.replayed)) :
    (system exactQuotient).run { replayer := r } sampleResumption =
      some (⟨r.next.2.next.2.next.2,.idle,⟨2,1,1,1⟩⟩,[.delivered (sampleRecord 1 0).replayed,
        .returned cancelled none,.delivered (sampleRecord 2 10000000).replayed,.returned .success none]) := by
  obtain ⟨one,two,ended⟩ := reads
  have first : step exactQuotient ⟨r,.reading ⟨{},0,none⟩,{}⟩ (.read false) =
      some (⟨r.next.2,.waiting ⟨{},0,some 0⟩ (sampleRecord 1 0).replayed 0,{}⟩,[]) :=
    read_waits (s := ⟨r,.reading ⟨{},0,none⟩,{}⟩) one rfl rfl rfl rfl early_target
  have second : step exactQuotient ⟨r.next.2,.reading ⟨{ timing := .asFastAsPossible },5,none⟩,⟨1,1,1,1⟩⟩
      (.read false) = some (⟨r.next.2.next.2,.inCallback ⟨{ timing := .asFastAsPossible },5,none⟩,⟨1,1,1,1⟩⟩,
        [.delivered (sampleRecord 2 10000000).replayed]) := read_delivers two rfl rfl
  have last : step exactQuotient ⟨r.next.2.next.2,.reading ⟨{ timing := .asFastAsPossible },5,none⟩,⟨2,1,1,1⟩⟩
      (.read false) = some (⟨r.next.2.next.2.next.2,.idle,⟨2,1,1,1⟩⟩,[.returned .success none]) :=
    read_ends ended rfl
  refine run_cons_iff.mpr ⟨_,_,_,rfl,?_,rfl⟩
  refine run_cons_iff.mpr ⟨_,_,_,first,?_,rfl⟩
  refine run_cons_iff.mpr ⟨_,_,_,rfl,?_,rfl⟩
  refine run_cons_iff.mpr ⟨_,_,_,rfl,?_,rfl⟩
  refine run_cons_iff.mpr ⟨_,_,_,rfl,?_,rfl⟩
  refine run_cons_iff.mpr ⟨_,_,_,rfl,?_,rfl⟩
  refine run_cons_iff.mpr ⟨_,_,_,second,?_,rfl⟩
  refine run_cons_iff.mpr ⟨_,_,_,rfl,?_,rfl⟩
  exact run_cons_iff.mpr ⟨_,_,_,last,rfl,rfl⟩

theorem interrupted_replay_iff_sample : ∃ r s history,
    Replayer.open [116] (some (buildFileHeader 7 100 ++ sampleTrace.flatMap PendingRecord.image)) {} = .ok r ∧
    (system exactQuotient).run { replayer := r } sampleResumption = some (s,history) ∧
    returns history = [cancelled,.success] ∧ delivered history = sampleTrace.map PendingRecord.replayed := by
  obtain ⟨r,opened,reads⟩ := sampleTrace_reads
  have ran := sampleResumption_ran reads
  have uninterrupted := (cancels_iff ran).mp (by simp [Event.cancels])
  have returned : returns [.delivered (sampleRecord 1 0).replayed,.returned cancelled none,
      .delivered (sampleRecord 2 10000000).replayed,.returned .success none] =
      List.replicate 1 cancelled ++ [.success] := rfl
  exact ⟨r,_,_,opened,ran,returned,(interrupted_replay_iff reads ran returned).mpr uninterrupted⟩

end AutoRuntime.Trace.Replaying
