import AutoRuntime.RecordingTransport
import AutoRuntime.RecorderLedger
import AutoRuntime.Pool

/-! Strict recording. Under `RequireRecord` whatever reaches the inner transport was accepted by
the recorder before, once and in the order of each thread. -/
namespace AutoRuntime.RecordingTransport

open List Option Pool Nat Machine
open Trace

variable {s t : System}

theorem record_outcome {u v : Recording.System}
    (stepped : Recording.step u (.record input copyError captureNow) = some (v,seen)) :
    seen = [] ∧ v.calls = u.calls ++ [.captured ⟨input,captureNow⟩] ∨
      ∃ status, seen = [.recorded input status] ∧ v.calls = u.calls ∧ status.ok = false := by
  cases Recording.step_took stepped with
  | rejected failed => exact .inr ⟨_,rfl,rfl,failed⟩
  | arrived => exact .inl ⟨rfl,rfl⟩
  | answered _ _ _ enters => simp at enters
  | broke _ _ _ writes => simp at writes

theorem section_outcome {u v : Recording.System} {next : Section}
    (stepped : Recording.step u (next.action record) = some (v,seen)) :
    ∃ phase capture, u.calls[record]? = some phase ∧ phase.capture = some capture ∧
      (seen = [] ∧ v.calls = u.calls.set record (.waiting capture) ∨
        ∃ status, seen = [.recorded capture.input status] ∧ v.calls = u.calls.set record .returned) := by
  generalize same : next.action record = action at stepped
  cases Recording.step_took stepped with
  | waits phase =>
    cases next <;> cases same
    exact ⟨_,_,phase,rfl,.inl ⟨rfl,rfl⟩⟩
  | answered atCall pending _ enters =>
    rcases enters with rfl | rfl <;> cases next <;> cases same <;> exact ⟨_,_,atCall,pending,.inr ⟨_,rfl,rfl⟩⟩
  | expired phase =>
    cases next <;> cases same
    exact ⟨_,_,phase,rfl,.inr ⟨_,rfl,rfl⟩⟩
  | broke _ _ _ writes => rcases writes with ⟨_,rfl⟩ | ⟨_,rfl⟩ <;> cases next <;> cases same
  | _ => cases next <;> cases same

theorem foreign_outcome {u v : Recording.System} (other : foreign action = true)
    (stepped : Recording.step u action = some (v,seen)) :
    v.calls = u.calls ∧ Recording.accepted seen = [] := by
  cases Recording.step_took stepped with
  | rejected | arrived | waits | expired => contradiction
  | answered _ _ _ enters => rcases enters with rfl | rfl <;> contradiction
  | _ => exact ⟨rfl,rfl⟩

/-- The call is at the recorder's door, or inside. -/
inductive Submitting (s : System) (call : PublishCall) (input : RecordInput) : Recording.Action → Prop where
  | record (messageType : Bytes) (phase : call.phase = .typed messageType)
    (same : input = ⟨call.topic,messageType,call.message⟩) :
    Submitting s call input (.record input copyError captureNow)
  | proceed (record : Nat) (next : Section) (phase : call.phase = .recording record)
    (entry : Recording.CallPhase) (capture : Capture) (active : s.recording.calls[record]? = some entry)
    (held : entry.capture = some capture) (same : input = capture.input) :
    Submitting s call input (next.action record)

inductive Took (s : System) : System → List Event → Prop where
  | began (call : PublishCall) (free : s.free call.thread = true)
    (fresh : call.phase = .resolving ∨ ∃ messageType, call.phase = .typed messageType) :
    Took s { s with calls := s.calls ++ [call] } []
  | resolved (index : Nat) (call : PublishCall) (phase : CallPhase) (current : s.current index = some call)
    (resolving : call.phase = .resolving)
    (next : (∃ messageType, phase = .typed messageType) ∨ ∃ status, phase = .failed status) :
    Took s (s.setPhase index call phase) []
  | submitted (index : Nat) (call : PublishCall) (messageType : Bytes) (action : Recording.Action)
    (recording : Recording.System) (captureNow : UInt64) (current : s.current index = some call)
    (typed : call.phase = .typed messageType) (stepped : Recording.step s.recording action = some (recording,[]))
    (calls : recording.calls =
      s.recording.calls ++ [.captured ⟨⟨call.topic,messageType,call.message⟩,captureNow⟩]) :
    Took s { s.setPhase index call (.recording s.recording.calls.length) with recording := recording } []
  | waited (index : Nat) (call : PublishCall) (record : Nat) (action : Recording.Action)
    (recording : Recording.System) (entry : Recording.CallPhase) (capture : Capture)
    (current : s.current index = some call) (inside : call.phase = .recording record)
    (stepped : Recording.step s.recording action = some (recording,[]))
    (active : s.recording.calls[record]? = some entry) (held : entry.capture = some capture)
    (calls : recording.calls = s.recording.calls.set record (.waiting capture)) :
    Took s { s.setPhase index call (.recording record) with recording := recording } []
  | judged (index : Nat) (call : PublishCall) (action : Recording.Action) (recording : Recording.System)
    (input : RecordInput) (status : Status) (current : s.current index = some call)
    (submitting : Submitting s call input action)
    (stepped : Recording.step s.recording action = some (recording,[.recorded input status]))
    (calls : recording.calls = s.recording.calls ∨
      ∃ record, call.phase = .recording record ∧ recording.calls = s.recording.calls.set record .returned) :
    Took s { s.setPhase index call (if status.ok then .forwarding else .failed status) with
      recording := recording } [.recorded call.thread index input status]
  | refused (index : Nat) (call : PublishCall) (status : Status) (current : s.current index = some call)
    (failed : call.phase = .failed status) (strict : s.config.failurePolicy = .requireRecord) :
    Took s { s.setPhase index call .returned with
      recordFailures := s.recordFailures + 1, lastRecordStatus := status } [.refused index status]
  | continued (index : Nat) (call : PublishCall) (status : Status) (current : s.current index = some call)
    (failed : call.phase = .failed status) (lenient : s.config.failurePolicy = .continueWithoutRecord) :
    Took s { s.setPhase index call .forwarding with
      recordFailures := s.recordFailures + 1, lastRecordStatus := status } []
  | handed (index : Nat) (call : PublishCall) (current : s.current index = some call)
    (forwarding : call.phase = .forwarding) :
    Took s (s.setPhase index call .publishing) [.handed call.thread index call.topic call.message call.qos]
  | finished (index : Nat) (call : PublishCall) (status : Status) (current : s.current index = some call)
    (publishing : call.phase = .publishing) :
    Took s (s.setPhase index call .returned) [.returned index status]
  | recorder (action : Recording.Action) (recording : Recording.System) (seen : List Recording.Event)
    (stepped : Recording.step s.recording action = some (recording,seen))
    (calls : recording.calls = s.recording.calls) (silent : Recording.accepted seen = []) :
    Took s { s with recording := recording } []
  | operated (operation : Operation) : Took s s [System.operate operation]

theorem record_took (current : s.current index = some call) (typed : call.phase = .typed messageType)
    (judged : s.judge index call s.recording.calls.length (Recording.step s.recording
      (.record ⟨call.topic,messageType,call.message⟩ copyError captureNow)) = some (t,seen)) : Took s t seen := by
  simp only [System.judge] at judged
  split at judged
  next recording stepped =>
    rcases record_outcome stepped with ⟨-,calls⟩ | ⟨status,nothing,-⟩
    · cases judged
      exact .submitted index call messageType _ recording captureNow current typed stepped calls
    · contradiction
  next recording input status stepped =>
    rcases record_outcome stepped with ⟨nothing,-⟩ | ⟨other,same,calls,-⟩
    · contradiction
    · obtain ⟨rfl,rfl⟩ : input = ⟨call.topic,messageType,call.message⟩ ∧ status = other := by simpa using same
      cases judged
      exact .judged index call _ recording _ status current (.record messageType typed rfl) stepped (.inl calls)
  · contradiction

theorem proceed_took {next : Section} (current : s.current index = some call)
    (inside : call.phase = .recording record)
    (judged : s.judge index call record (Recording.step s.recording (next.action record)) = some (t,seen)) :
    Took s t seen := by
  simp only [System.judge] at judged
  split at judged
  next recording stepped =>
    obtain ⟨entry,capture,active,held,⟨-,calls⟩ | ⟨status,nothing,-⟩⟩ := section_outcome stepped
    · cases judged
      exact .waited index call record _ recording entry capture current inside stepped active held calls
    · contradiction
  next recording input status stepped =>
    obtain ⟨entry,capture,active,held,⟨nothing,-⟩ | ⟨other,same,calls⟩⟩ := section_outcome stepped
    · contradiction
    · obtain ⟨rfl,rfl⟩ : input = capture.input ∧ status = other := by simpa using same
      cases judged
      exact .judged index call _ recording _ status current
        (.proceed record next inside entry capture active held rfl) stepped (.inr ⟨record,inside,calls⟩)
  · contradiction

theorem advance_took (current : s.current index = some call)
    (advanced : s.advance index call action = some (t,seen)) : Took s t seen := by
  cases action with
  | resolve _ resolution =>
    obtain ⟨resolving,moved⟩ := ite_none_right_eq_some.mp advanced
    cases moved
    refine .resolved index call _ current resolving ?_
    cases resolution with
    | typed messageType => exact .inl ⟨messageType,rfl⟩
    | threw what => cases what <;> exact .inr ⟨_,rfl⟩
  | record =>
    simp only [System.advance] at advanced
    split at advanced
    next messageType typed => exact record_took current typed advanced
    · contradiction
  | proceed _ next =>
    simp only [System.advance] at advanced
    split at advanced
    next record inside => exact proceed_took current inside advanced
    · contradiction
  | recordFailure =>
    simp only [System.advance,System.recordFailure] at advanced
    split at advanced
    next status failed =>
      split at advanced
      next strict =>
        cases advanced
        exact .refused index call status current failed strict
      next lenient =>
        cases advanced
        exact .continued index call status current failed lenient
    · contradiction
  | forward =>
    obtain ⟨forwarding,moved⟩ := ite_none_right_eq_some.mp advanced
    cases moved
    exact .handed index call current forwarding
  | finish _ status =>
    obtain ⟨publishing,moved⟩ := ite_none_right_eq_some.mp advanced
    cases moved
    exact .finished index call status current publishing
  | publish | recorder | operate => contradiction

theorem step_took (stepped : step s action = some (t,seen)) : Took s t seen := by
  simp only [step] at stepped
  split at stepped
  · split at stepped
    next current => exact advance_took current stepped
    · contradiction
  · split at stepped
    next thread topic message qos _ =>
      obtain ⟨free,begun⟩ := ite_none_right_eq_some.mp stepped
      cases begun
      refine .began _ free ?_
      split
      · exact .inl rfl
      · exact .inr ⟨_,rfl⟩
    next action _ =>
      obtain ⟨other,moved⟩ := ite_none_right_eq_some.mp stepped
      obtain ⟨⟨recording,seen⟩,taken,same⟩ := map_eq_some_iff.mp moved
      cases same
      obtain ⟨calls,silent⟩ := foreign_outcome other taken
      exact .recorder action recording seen taken calls silent
    next operation _ =>
      cases stepped
      exact .operated operation
    · contradiction

theorem current_active (current : s.current index = some call) : s.calls[index]? = some call := by
  simp only [System.current] at current
  split at current
  · contradiction
  next other active =>
    rw [active,(ite_none_right_eq_some.mp current).2]

/-- No call of the thread that began later is unfinished. -/
theorem current_innermost (current : s.current index = some call) (later : index < other)
    (active : s.calls[other]? = some another) (same : another.thread = call.thread) : another.phase = .returned := by
  simp only [System.current] at current
  split at current
  · contradiction
  next found _ =>
    obtain ⟨innermost,chosen⟩ := ite_none_right_eq_some.mp current
    cases chosen
    have member : another ∈ s.calls.drop (index + 1) := by
      refine mem_iff_getElem?.mpr ⟨other - (index + 1),?_⟩
      rw [List.getElem?_drop,Nat.add_sub_cancel' later]
      exact active
    simpa [same] using all_eq_true.mp innermost another member

/-- While a call is not over, its thread is in foreign code in every call that it began before. -/
def Nested (s : System) : Prop :=
  ∀ (index other : Nat) call another, s.calls[index]? = some call → s.calls[other]? = some another →
    index < other → call.thread = another.thread → another.phase ≠ .returned → call.phase.yields = true

theorem yields_of_returned {phase : CallPhase} (busy : phase.yields = false) : phase ≠ .returned := by
  rintro rfl
  contradiction

theorem Nested.began (nested : Nested s) (call : PublishCall) (free : s.free call.thread = true) :
    Nested { s with calls := s.calls ++ [call] } := by
  intro index other first second atFirst atSecond before same unfinished
  rcases concat_cases atFirst with old | ⟨rfl,rfl⟩
  · rcases concat_cases atSecond with present | ⟨-,rfl⟩
    · exact nested index other first second old present before same unfinished
    · have idle := all_eq_true.mp free first (mem_of_getElem? old)
      simpa [same] using idle
  · have bound := inside atSecond
    simp at bound
    omega

theorem Nested.moved (nested : Nested s) (current : s.current index = some call)
    (unfinished : call.phase ≠ .returned) (calls : t.calls = s.calls.set index { call with phase := phase }) :
    Nested t := by
  have active := current_active current
  intro first second early late atFirst atSecond before same open_
  rw [calls] at atFirst atSecond
  rcases set_cases atFirst with ⟨rfl,rfl⟩ | ⟨-,wasFirst⟩
  · rcases set_cases atSecond with ⟨rfl,-⟩ | ⟨-,wasSecond⟩
    · exact absurd before (lt_irrefl _)
    · exact absurd (current_innermost current before wasSecond same.symm) open_
  · rcases set_cases atSecond with ⟨rfl,rfl⟩ | ⟨-,wasSecond⟩
    · exact nested first second early call wasFirst active before same unfinished
    · exact nested first second early late wasFirst wasSecond before same open_

/-- A thread is in the transport's own code in one call at most. -/
theorem Nested.only (nested : Nested s) (current : s.current index = some call)
    (busy : call.phase.yields = false) (active : s.calls[other]? = some another)
    (same : another.thread = call.thread) (alsoBusy : another.phase.yields = false) : other = index := by
  have here := current_active current
  rcases lt_trichotomy other index with before | rfl | later
  · have idle := nested other index another call active here before same (yields_of_returned busy)
    simp [idle] at alsoBusy
  · rfl
  · simp [current_innermost current later active same,CallPhase.yields] at alsoBusy

/-- A call inside `Record` has its own place among the recorder's calls, with its own message. -/
structure Slotted (s : System) : Prop where
  entry {index record : Nat} {call : PublishCall} : s.calls[index]? = some call → call.phase = .recording record →
    ∃ entry capture messageType, s.recording.calls[record]? = some entry ∧ entry.capture = some capture ∧
      capture.input = ⟨call.topic,messageType,call.message⟩
  distinct {index other record : Nat} {call another : PublishCall} : s.calls[index]? = some call →
    s.calls[other]? = some another → call.phase = .recording record → another.phase = .recording record →
    index = other

theorem Slotted.moved {call : PublishCall} (slotted : Slotted s)
    (calls : t.calls = s.calls.set index { call with phase := phase })
    (others : ∀ (other : Nat) another record, other ≠ index → s.calls[other]? = some another →
      another.phase = .recording record → t.recording.calls[record]? = s.recording.calls[record]?)
    (own : ∀ record, phase = .recording record → (∃ entry capture messageType,
        t.recording.calls[record]? = some entry ∧ entry.capture = some capture ∧
        capture.input = ⟨call.topic,messageType,call.message⟩) ∧
      ∀ (other : Nat) another, other ≠ index → s.calls[other]? = some another → another.phase ≠ .recording record) :
    Slotted t := by
  constructor
  · intro focus record other active inside
    rw [calls] at active
    rcases set_cases active with ⟨rfl,rfl⟩ | ⟨apart,was⟩
    · exact (own record inside).1
    · rw [others focus other record apart was inside]
      exact slotted.entry was inside
  · intro first second record one two atFirst atSecond inFirst inSecond
    rw [calls] at atFirst atSecond
    rcases set_cases atFirst with ⟨rfl,rfl⟩ | ⟨apart,wasFirst⟩
    · rcases set_cases atSecond with ⟨rfl,-⟩ | ⟨other,wasSecond⟩
      · rfl
      · exact absurd inSecond ((own record inFirst).2 second two other wasSecond)
    · rcases set_cases atSecond with ⟨rfl,rfl⟩ | ⟨-,wasSecond⟩
      · exact absurd inFirst ((own record inSecond).2 first one apart wasFirst)
      · exact slotted.distinct wasFirst wasSecond inFirst inSecond

theorem Submitting.busy (submitting : Submitting s call input action) : call.phase.yields = false := by
  cases submitting with
  | record _ phase | proceed _ _ phase => simp [phase,CallPhase.yields]

theorem Submitting.content {index : Nat} (submitting : Submitting s call input action) (slotted : Slotted s)
    (active : s.calls[index]? = some call) : ∃ messageType, input = ⟨call.topic,messageType,call.message⟩ := by
  cases submitting with
  | record messageType _ same => exact ⟨messageType,same⟩
  | proceed record _ phase entry capture inside held same =>
    obtain ⟨found,kept,messageType,there,holds,content⟩ := slotted.entry active phase
    cases inside.symm.trans there
    cases held.symm.trans holds
    exact ⟨messageType,same.trans content⟩

theorem Nested.took (nested : Nested s) (took : Took s t seen) : Nested t := by
  cases took with
  | began call free => exact nested.began call free
  | resolved index call phase current resolving => exact nested.moved current (by simp [resolving]) rfl
  | submitted index call _ _ _ _ current typed => exact nested.moved current (by simp [typed]) rfl
  | waited index call _ _ _ _ _ current inside => exact nested.moved current (by simp [inside]) rfl
  | judged index call _ _ _ _ current submitting =>
    exact nested.moved current (yields_of_returned submitting.busy) rfl
  | refused index call _ current failed | continued index call _ current failed =>
    exact nested.moved current (by simp [failed]) rfl
  | handed index call current forwarding => exact nested.moved current (by simp [forwarding]) rfl
  | finished index call _ current publishing => exact nested.moved current (by simp [publishing]) rfl
  | recorder | operated => exact nested

theorem Slotted.began (slotted : Slotted s) (outside : ∀ record, call.phase ≠ .recording record) :
    Slotted { s with calls := s.calls ++ [call] } := by
  constructor
  · intro index record other active inside
    rcases concat_cases active with was | ⟨-,rfl⟩
    · exact slotted.entry was inside
    · exact absurd inside (outside record)
  · intro index other record first second atFirst atSecond inFirst inSecond
    rcases concat_cases atFirst with wasFirst | ⟨-,rfl⟩
    · rcases concat_cases atSecond with wasSecond | ⟨-,rfl⟩
      · exact slotted.distinct wasFirst wasSecond inFirst inSecond
      · exact absurd inSecond (outside record)
    · exact absurd inFirst (outside record)

theorem Slotted.outside (slotted : Slotted s) (index : Nat) (call : PublishCall)
    (apart : ∀ record, phase ≠ .recording record) (recording : t.recording.calls = s.recording.calls)
    (calls : t.calls = s.calls.set index { call with phase := phase }) : Slotted t :=
  slotted.moved calls (fun _ _ record _ _ _ => congrArg (·[record]?) recording)
    (fun record inside => absurd inside (apart record))

/-- The recorder changes the place of one call, and the others keep theirs. -/
theorem Slotted.elsewhere {index : Nat} (slotted : Slotted s) (active : s.calls[index]? = some call)
    (inside : call.phase = .recording record) (phase : Recording.CallPhase) (other : Nat) (another : PublishCall)
    (slot : Nat) (apart : other ≠ index) (present : s.calls[other]? = some another)
    (within : another.phase = .recording slot) :
    (s.recording.calls.set record phase)[slot]? = s.recording.calls[slot]? := by
  refine getElem?_set_ne fun same => apart ?_
  exact slotted.distinct present active within (same ▸ inside)

theorem Slotted.took (slotted : Slotted s) (took : Took s t seen) : Slotted t := by
  cases took with
  | began call _ fresh =>
    refine slotted.began fun record inside => ?_
    rcases fresh with phase | ⟨_,phase⟩ <;> simp [phase] at inside
  | resolved index call phase _ _ next =>
    refine slotted.outside index call (fun record inside => ?_) rfl rfl
    rcases next with ⟨_,same⟩ | ⟨_,same⟩ <;> simp [same] at inside
  | submitted index call messageType _ _ captureNow current typed _ calls =>
    refine slotted.moved rfl ?_ ?_
    · intro other another record _ active inside
      obtain ⟨entry,-,-,there,-⟩ := slotted.entry active inside
      rw [calls,List.getElem?_append_left (Pool.inside there)]
    · rintro record ⟨⟩
      refine ⟨⟨_,_,messageType,by rw [calls,getElem?_concat_length],rfl,rfl⟩,?_⟩
      intro other another _ active inside
      obtain ⟨entry,-,-,there,-⟩ := slotted.entry active inside
      simp at there
  | waited index call record _ _ entry capture current inside _ active held calls =>
    have here := current_active current
    refine slotted.moved rfl ?_ ?_
    · intro other another slot apart present within
      rw [calls,slotted.elsewhere here inside _ other another slot apart present within]
    · rintro slot ⟨⟩
      obtain ⟨_,_,messageType,there,holds,content⟩ := slotted.entry here inside
      cases active.symm.trans there
      cases held.symm.trans holds
      refine ⟨⟨.waiting capture,capture,messageType,?_,rfl,content⟩,?_⟩
      · rw [calls,List.getElem?_set_self (Pool.inside active)]
      · intro other another apart present within
        exact apart (slotted.distinct present here within inside)
  | judged index call _ _ _ status current submitting _ calls =>
    have apart : ∀ record, (if status.ok then .forwarding else .failed status : CallPhase) ≠ .recording record := by
      split <;> simp
    rcases calls with same | ⟨record,inside,calls⟩
    · exact slotted.outside index call apart same rfl
    · refine slotted.moved rfl ?_ (fun slot within => absurd within (apart slot))
      intro other another slot distinct present within
      rw [calls,slotted.elsewhere (current_active current) inside _ other another slot distinct present within]
  | refused index call | continued index call | handed index call | finished index call =>
    exact slotted.outside index call (by simp) rfl rfl
  | recorder _ recording _ _ calls =>
    refine ⟨fun active inside => ?_,slotted.distinct⟩
    rw [calls]
    exact slotted.entry active inside
  | operated => exact slotted

/-- The thread and the input of a record that was accepted. -/
def Event.acceptance : Event → Option (ThreadId × RecordInput)
  | .recorded thread _ input status => if status.ok then some (thread,input) else none
  | _ => none

/-- The thread and the message of an inner `Publish`. -/
def Event.attempt : Event → Option (ThreadId × Bytes × Message)
  | .handed thread _ topic message _ => some (thread,topic,message)
  | _ => none

def acceptances (history : List Event) : List (ThreadId × RecordInput) := history.filterMap Event.acceptance

def attempts (history : List Event) : List (ThreadId × Bytes × Message) := history.filterMap Event.attempt

/-- The topic of a record, and its envelope and payload. -/
def content (input : RecordInput) : Bytes × Message := (input.channel,input.message)

def PublishCall.forwards (thread : ThreadId) (call : PublishCall) : Option (Bytes × Message) :=
  if call.thread = thread ∧ call.phase = .forwarding then some (call.topic,call.message) else none

/-- What the thread has recorded and is about to hand to the inner transport. -/
def System.pending (s : System) (thread : ThreadId) : List (Bytes × Message) :=
  s.calls.filterMap (PublishCall.forwards thread)

theorem acceptances_append (history seen : List Event) :
    acceptances (history ++ seen) = acceptances history ++ acceptances seen := filterMap_append

theorem attempts_append (history seen : List Event) :
    attempts (history ++ seen) = attempts history ++ attempts seen := filterMap_append

/-- In each thread the inner `Publish` calls follow the accepted records, and at most one is due. -/
def Ordered (s : System) (history : List Event) : Prop :=
  ∀ thread, (Pool.share thread (acceptances history)).map content =
    Pool.share thread (attempts history) ++ s.pending thread

theorem Ordered.quiet (ordered : Ordered s history) (unrecorded : acceptances seen = [])
    (unpublished : attempts seen = []) (same : ∀ thread, t.pending thread = s.pending thread) :
    Ordered t (history ++ seen) := by
  intro thread
  rw [acceptances_append,attempts_append,unrecorded,unpublished,append_nil,append_nil,same]
  exact ordered thread

theorem pending_same (active : s.calls[index]? = some call)
    (calls : t.calls = s.calls.set index { call with phase := phase })
    (same : PublishCall.forwards thread { call with phase := phase } = call.forwards thread) :
    t.pending thread = s.pending thread := by
  simp only [System.pending,calls]
  exact filterMap_set_same _ s.calls active same

theorem forwards_other (call : PublishCall) (apart : call.thread ≠ thread) : call.forwards thread = none := by
  simp [PublishCall.forwards,apart]

theorem forwards_idle {call : PublishCall} (idle : call.phase ≠ .forwarding) (thread : ThreadId) :
    call.forwards thread = none := by
  simp [PublishCall.forwards,idle]

theorem pending_idle (active : s.calls[index]? = some call)
    (calls : t.calls = s.calls.set index { call with phase := phase }) (idle : call.phase ≠ .forwarding)
    (still : phase ≠ .forwarding) (thread : ThreadId) : t.pending thread = s.pending thread :=
  pending_same active calls ((forwards_idle still thread).trans (forwards_idle idle thread).symm)

theorem pending_other (active : s.calls[index]? = some call)
    (calls : t.calls = s.calls.set index { call with phase := phase }) (apart : call.thread ≠ thread) :
    t.pending thread = s.pending thread :=
  pending_same active calls ((forwards_other { call with phase := phase } apart).trans (forwards_other call apart).symm)

theorem pending_alone {index : Nat} (active : s.calls[index]? = some call)
    (alone : ∀ (other : Nat) another, s.calls[other]? = some another → other ≠ index →
      another.thread = call.thread → another.phase ≠ .forwarding) :
    s.pending call.thread = (call.forwards call.thread).toList := by
  refine filterMap_only _ s.calls active fun other another found apart => ?_
  by_cases same : another.thread = call.thread
  · exact forwards_idle (alone other another found apart same) _
  · exact forwards_other another same

/-- What is due in the thread of the current call, before and after the call moves on. -/
theorem Nested.pending (nested : Nested s) (current : s.current index = some call)
    (busy : call.phase.yields = false) (calls : t.calls = s.calls.set index { call with phase := phase }) :
    s.pending call.thread = (call.forwards call.thread).toList ∧
      t.pending call.thread = (PublishCall.forwards call.thread { call with phase := phase }).toList := by
  have active := current_active current
  have alone (other : Nat) (another : PublishCall) (found : s.calls[other]? = some another)
      (apart : other ≠ index) (same : another.thread = call.thread) : another.phase ≠ .forwarding := by
    intro forwarding
    exact apart (nested.only current busy found same (by simp [forwarding,CallPhase.yields]))
  refine ⟨pending_alone active alone,?_⟩
  have moved : t.calls[index]? = some { call with phase := phase } := by
    rw [calls,getElem?_set_self (inside active)]
  refine pending_alone moved fun other another found apart => ?_
  rw [calls,getElem?_set_ne apart.symm] at found
  exact alone other another found apart

theorem Ordered.accepted (ordered : Ordered s history) (nested : Nested s)
    (current : s.current index = some call) (busy : call.phase.yields = false) (idle : call.phase ≠ .forwarding)
    (calls : t.calls = s.calls.set index { call with phase := .forwarding })
    (same : content input = (call.topic,call.message)) (ok : status.ok = true) :
    Ordered t (history ++ [.recorded call.thread index input status]) := by
  intro thread
  have recorded : acceptances [.recorded call.thread index input status] = [input].map fun x => (call.thread,x) := by
    simp [acceptances,Event.acceptance,ok]
  have unpublished : attempts [.recorded call.thread index input status] = [] := rfl
  rw [acceptances_append,attempts_append,recorded,unpublished,share_append,map_append,
    ordered thread]
  by_cases own : call.thread = thread
  · subst own
    obtain ⟨before,later⟩ := nested.pending current busy calls
    rw [before,later,forwards_idle idle,share_own]
    simp [PublishCall.forwards,same]
  · rw [share_other own,pending_other (current_active current) calls own]
    simp

theorem Ordered.handed (ordered : Ordered s history) (nested : Nested s)
    (current : s.current index = some call) (forwarding : call.phase = .forwarding)
    (calls : t.calls = s.calls.set index { call with phase := .publishing }) (qos : QosProfile) :
    Ordered t (history ++ [.handed call.thread index call.topic call.message qos]) := by
  intro thread
  have unrecorded : acceptances [.handed call.thread index call.topic call.message qos] = [] := rfl
  have published : attempts [.handed call.thread index call.topic call.message qos] =
      [(call.topic,call.message)].map fun x => (call.thread,x) := rfl
  rw [acceptances_append,attempts_append,unrecorded,published,append_nil,share_append,ordered thread]
  by_cases own : call.thread = thread
  · subst own
    obtain ⟨before,later⟩ := nested.pending current (by simp [forwarding,CallPhase.yields]) calls
    rw [before,later,share_own]
    simp [PublishCall.forwards,forwarding]
  · rw [share_other own,pending_other (current_active current) calls own,append_nil]

theorem Ordered.took (ordered : Ordered s history) (nested : Nested s) (slotted : Slotted s)
    (strict : s.config.failurePolicy = .requireRecord) (took : Took s t seen) : Ordered t (history ++ seen) := by
  cases took with
  | began call _ fresh =>
    refine ordered.quiet rfl rfl fun thread => ?_
    have idle : call.phase ≠ .forwarding := by
      rcases fresh with phase | ⟨_,phase⟩ <;> simp [phase]
    simp [System.pending,forwards_idle idle]
  | resolved index call phase current resolving next =>
    have still : phase ≠ .forwarding := by
      rcases next with ⟨_,same⟩ | ⟨_,same⟩ <;> simp [same]
    exact ordered.quiet rfl rfl (pending_idle (current_active current) rfl (by simp [resolving]) still)
  | submitted index call _ _ _ _ current typed =>
    exact ordered.quiet rfl rfl (pending_idle (current_active current) rfl (by simp [typed]) (by simp))
  | waited index call _ _ _ _ _ current inside =>
    exact ordered.quiet rfl rfl (pending_idle (current_active current) rfl (by simp [inside]) (by simp))
  | judged index call _ _ input status current submitting =>
    have active := current_active current
    have idle : call.phase ≠ .forwarding := by
      cases submitting with
      | record _ phase | proceed _ _ phase => simp [phase]
    obtain ⟨messageType,same⟩ := submitting.content slotted active
    cases ok : status.ok with
    | true => exact ordered.accepted nested current submitting.busy idle rfl (by rw [same]; rfl) ok
    | false =>
      refine ordered.quiet ?_ rfl (pending_idle active rfl idle (by simp))
      simp [acceptances,Event.acceptance,ok]
  | refused index call _ current failed =>
    exact ordered.quiet rfl rfl (pending_idle (current_active current) rfl (by simp [failed]) (by simp))
  | continued _ _ _ _ _ lenient => simp [strict] at lenient
  | handed index call current forwarding => exact ordered.handed nested current forwarding rfl call.qos
  | finished index call _ current publishing =>
    exact ordered.quiet rfl rfl (pending_idle (current_active current) rfl (by simp [publishing]) (by simp))
  | recorder => exact ordered.quiet rfl rfl fun _ => rfl
  | operated operation =>
    cases operation <;> exact ordered.quiet rfl rfl fun _ => rfl

def Event.acceptedFor (call : Nat) : Event → Bool
  | .recorded _ other _ status => other == call && status.ok
  | _ => false

def Event.handedFor (call : Nat) : Event → Bool
  | .handed _ other _ _ _ => other == call
  | _ => false

/-- How many records of a call have been accepted and how many inner `Publish` calls it has made. -/
def CallPhase.Balanced (accepted handed : Nat) : CallPhase → Prop
  | .forwarding => accepted = 1 ∧ handed = 0
  | .publishing => accepted = 1 ∧ handed = 1
  | .returned => accepted = handed ∧ handed ≤ 1
  | .resolving | .typed _ | .recording _ | .failed _ => accepted = 0 ∧ handed = 0

structure Balanced (s : System) (history : List Event) : Prop where
  active {index : Nat} {call : PublishCall} : s.calls[index]? = some call →
    call.phase.Balanced (history.countP (Event.acceptedFor index)) (history.countP (Event.handedFor index))
  fresh {index : Nat} : s.calls.length ≤ index →
    history.countP (Event.acceptedFor index) = 0 ∧ history.countP (Event.handedFor index) = 0

section

variable (balanced : Balanced s history)

include balanced

theorem Balanced.quiet (calls : t.calls = s.calls)
    (silent : ∀ index, seen.countP (Event.acceptedFor index) = 0 ∧ seen.countP (Event.handedFor index) = 0) :
    Balanced t (history ++ seen) := by
  constructor
  · intro index call active
    rw [countP_append,countP_append,(silent index).1,(silent index).2]
    exact balanced.active (calls ▸ active)
  · intro index beyond
    rw [countP_append,countP_append,(silent index).1,(silent index).2]
    exact balanced.fresh (calls ▸ beyond)

theorem Balanced.moved {call : PublishCall} (active : s.calls[index]? = some call)
    (calls : t.calls = s.calls.set index { call with phase := phase }) (elsewhere : ∀ other, other ≠ index →
      seen.countP (Event.acceptedFor other) = 0 ∧ seen.countP (Event.handedFor other) = 0)
    (next : ∀ accepted handed, call.phase.Balanced accepted handed →
      phase.Balanced (accepted + seen.countP (Event.acceptedFor index))
        (handed + seen.countP (Event.handedFor index))) : Balanced t (history ++ seen) := by
  constructor
  · intro other another found
    rw [countP_append,countP_append]
    rw [calls] at found
    rcases set_cases found with ⟨rfl,rfl⟩ | ⟨apart,was⟩
    · exact next _ _ (balanced.active active)
    · rw [(elsewhere other apart).1,(elsewhere other apart).2]
      exact balanced.active was
  · intro other beyond
    rw [calls,length_set] at beyond
    have bound := inside active
    have apart : other ≠ index := by omega
    rw [countP_append,countP_append,(elsewhere other apart).1,(elsewhere other apart).2]
    exact balanced.fresh beyond

theorem Balanced.silent {call : PublishCall} (active : s.calls[index]? = some call)
    (calls : t.calls = s.calls.set index { call with phase := phase })
    (silent : ∀ other, seen.countP (Event.acceptedFor other) = 0 ∧ seen.countP (Event.handedFor other) = 0)
    (next : ∀ accepted handed, call.phase.Balanced accepted handed → phase.Balanced accepted handed) :
    Balanced t (history ++ seen) := by
  refine balanced.moved active calls (fun other _ => silent other) fun accepted handed before => ?_
  rw [(silent index).1,(silent index).2]
  exact next accepted handed before

theorem Balanced.began (call : PublishCall) (fresh : call.phase.Balanced 0 0) :
    Balanced { s with calls := s.calls ++ [call] } history := by
  constructor
  · intro index other active
    rcases concat_cases active with was | ⟨rfl,rfl⟩
    · exact balanced.active was
    · rw [(balanced.fresh (le_refl _)).1,(balanced.fresh (le_refl _)).2]
      exact fresh
  · intro index beyond
    rw [length_append] at beyond
    exact balanced.fresh (by omega)

theorem Balanced.took (strict : s.config.failurePolicy = .requireRecord) (took : Took s t seen) :
    Balanced t (history ++ seen) := by
  cases took with
  | began call _ fresh =>
    rw [append_nil]
    refine balanced.began call ?_
    rcases fresh with phase | ⟨_,phase⟩ <;> simp [phase,CallPhase.Balanced]
  | resolved index call phase current resolving next =>
    refine balanced.silent (current_active current) rfl (fun _ => ⟨rfl,rfl⟩) fun accepted handed before => ?_
    rw [resolving] at before
    rcases next with ⟨_,rfl⟩ | ⟨_,rfl⟩ <;> exact before
  | submitted index call _ _ _ _ current typed =>
    refine balanced.silent (current_active current) rfl (fun _ => ⟨rfl,rfl⟩) fun accepted handed before => ?_
    rw [typed] at before
    exact before
  | waited index call _ _ _ _ _ current inside =>
    refine balanced.silent (current_active current) rfl (fun _ => ⟨rfl,rfl⟩) fun accepted handed before => ?_
    rw [inside] at before
    exact before
  | judged index call _ _ input status current submitting =>
    refine balanced.moved (current_active current) rfl ?_ fun accepted handed before => ?_
    · intro other apart
      simp [Event.acceptedFor,Event.handedFor,apart.symm]
    · have none : accepted = 0 ∧ handed = 0 := by
        cases submitting with
        | record _ phase | proceed _ _ phase => simpa only [phase,CallPhase.Balanced] using before
      cases ok : status.ok <;> simp [Event.acceptedFor,Event.handedFor,CallPhase.Balanced,ok,none]
  | refused index call _ current failed =>
    refine balanced.silent (current_active current) rfl (fun _ => ⟨rfl,rfl⟩) fun accepted handed before => ?_
    rw [failed] at before
    simp [CallPhase.Balanced,before.1,before.2]
  | continued _ _ _ _ _ lenient => simp [strict] at lenient
  | handed index call current forwarding =>
    refine balanced.moved (current_active current) rfl ?_ fun accepted handed before => ?_
    · intro other apart
      simp [Event.acceptedFor,Event.handedFor,apart.symm]
    · rw [forwarding] at before
      simp [Event.acceptedFor,Event.handedFor,CallPhase.Balanced,before.1,before.2]
  | finished index call _ current publishing =>
    refine balanced.silent (current_active current) rfl (fun _ => ⟨rfl,rfl⟩) fun accepted handed before => ?_
    rw [publishing] at before
    simp [CallPhase.Balanced,before.1,before.2]
  | recorder => exact balanced.quiet rfl fun _ => ⟨rfl,rfl⟩
  | operated operation => cases operation <;> exact balanced.quiet rfl fun _ => ⟨rfl,rfl⟩

end

/-- The recorder has accepted the message of this call. -/
def AcceptedIn (history : List Event) (thread : ThreadId) (call : Nat) (topic : Bytes) (message : Message) : Prop :=
  ∃ messageType status, .recorded thread call ⟨topic,messageType,message⟩ status ∈ history ∧ status.ok = true

theorem AcceptedIn.mono (accepted : AcceptedIn history thread call topic message) (seen : List Event) :
    AcceptedIn (history ++ seen) thread call topic message := by
  obtain ⟨messageType,status,listed,ok⟩ := accepted
  exact ⟨messageType,status,mem_append_left _ listed,ok⟩

/-- Whatever is handed to the inner transport, or about to be, the recorder has accepted. -/
structure Backed (s : System) (history : List Event) : Prop where
  due {index : Nat} {call : PublishCall} : s.calls[index]? = some call → call.phase = .forwarding →
    AcceptedIn history call.thread index call.topic call.message
  preceded {before later : List Event} {thread : ThreadId} {call : Nat} {topic : Bytes} {message : Message}
    {qos : QosProfile} : history = before ++ .handed thread call topic message qos :: later →
    AcceptedIn before thread call topic message

theorem attempts_middle (before later : List Event) (thread : ThreadId) (call : Nat) (topic : Bytes)
    (message : Message) (qos : QosProfile) :
    attempts (before ++ .handed thread call topic message qos :: later) ≠ [] := by
  simp [attempts,Event.attempt]

theorem Backed.quiet (backed : Backed s history) (unpublished : attempts seen = [])
    (due : ∀ (index : Nat) call, t.calls[index]? = some call → call.phase = .forwarding →
      AcceptedIn (history ++ seen) call.thread index call.topic call.message) : Backed t (history ++ seen) := by
  refine ⟨fun {index call} => due index call,fun split => ?_⟩
  rcases history_split split with ⟨between,old,-⟩ | ⟨between,new,-⟩
  · exact backed.preceded old
  · exact absurd unpublished (new ▸ attempts_middle _ _ _ _ _ _ _)

theorem Backed.same (backed : Backed s history) (unpublished : attempts seen = []) (calls : t.calls = s.calls) :
    Backed t (history ++ seen) := by
  refine backed.quiet unpublished fun index call active forwarding => ?_
  exact (backed.due (calls ▸ active) forwarding).mono seen

theorem Backed.idle {call : PublishCall} (backed : Backed s history) (unpublished : attempts seen = [])
    (calls : t.calls = s.calls.set index { call with phase := phase }) (still : phase ≠ .forwarding) :
    Backed t (history ++ seen) := by
  refine backed.quiet unpublished fun other another active forwarding => ?_
  rw [calls] at active
  rcases set_cases active with ⟨rfl,rfl⟩ | ⟨-,was⟩
  · exact absurd forwarding still
  · exact (backed.due was forwarding).mono seen

theorem Backed.took (backed : Backed s history) (slotted : Slotted s)
    (strict : s.config.failurePolicy = .requireRecord) (took : Took s t seen) : Backed t (history ++ seen) := by
  cases took with
  | began call _ fresh =>
    refine backed.quiet rfl fun index other active forwarding => ?_
    rcases concat_cases active with was | ⟨-,rfl⟩
    · exact (backed.due was forwarding).mono []
    · rcases fresh with phase | ⟨_,phase⟩ <;> simp [phase] at forwarding
  | resolved index call phase _ _ next =>
    have still : phase ≠ .forwarding := by
      rcases next with ⟨_,same⟩ | ⟨_,same⟩ <;> simp [same]
    exact backed.idle rfl rfl still
  | submitted | waited | refused | finished => exact backed.idle rfl rfl (by simp)
  | judged index call _ _ input status current submitting =>
    obtain ⟨messageType,rfl⟩ := submitting.content slotted (current_active current)
    cases ok : status.ok with
    | true =>
      refine backed.quiet rfl fun other another active forwarding => ?_
      rcases set_cases active with ⟨rfl,rfl⟩ | ⟨-,was⟩
      · exact ⟨messageType,status,mem_append_right _ (mem_singleton.mpr rfl),ok⟩
      · exact (backed.due was forwarding).mono _
    | false => exact backed.idle rfl rfl (by simp)
  | continued _ _ _ _ _ lenient => simp [strict] at lenient
  | handed index call current forwarding =>
    refine ⟨fun active still => ?_,fun split => ?_⟩
    · rcases set_cases active with ⟨-,rfl⟩ | ⟨-,was⟩
      · contradiction
      · exact (backed.due was still).mono _
    · rcases history_split split with ⟨between,old,-⟩ | ⟨between,new,earlier⟩
      · exact backed.preceded old
      · cases between with
        | nil =>
          cases new
          rw [earlier,append_nil]
          exact backed.due (current_active current) forwarding
        | cons => simp at new
  | recorder => exact backed.same rfl rfl
  | operated operation => cases operation <;> exact backed.same rfl rfl

def Event.refusal : Event → Bool
  | .refused _ _ => true
  | _ => false

/-- The recorder's own run, in which exactly the records of the history were accepted. -/
def Follows (r : Recorder) (s : System) (history : List Event) : Prop :=
  ∃ schedule past, Recording.system.run { recorder := r } schedule = some (s.recording,past) ∧
    Recording.accepted past = (acceptances history).map Prod.snd

theorem Follows.still (follows : Follows r s history) (recording : t.recording = s.recording)
    (unrecorded : acceptances seen = []) : Follows r t (history ++ seen) := by
  obtain ⟨schedule,past,ran,same⟩ := follows
  refine ⟨schedule,past,recording ▸ ran,?_⟩
  rw [acceptances_append,unrecorded,append_nil]
  exact same

theorem Follows.stepped (follows : Follows r s history)
    (stepped : Recording.step s.recording action = some (t.recording,emitted))
    (matched : Recording.accepted emitted = (acceptances seen).map Prod.snd) : Follows r t (history ++ seen) := by
  obtain ⟨schedule,past,ran,same⟩ := follows
  refine ⟨schedule ++ [action],past ++ emitted,run_concat ran stepped,?_⟩
  rw [acceptances_append,map_append,← same,← matched]
  exact filterMap_append

theorem Follows.took (follows : Follows r s history) (took : Took s t seen) : Follows r t (history ++ seen) := by
  cases took with
  | submitted _ _ _ _ _ _ _ _ stepped | waited _ _ _ _ _ _ _ _ _ stepped => exact follows.stepped stepped rfl
  | judged _ _ _ _ _ status _ _ stepped =>
    refine follows.stepped stepped ?_
    cases ok : status.ok <;> simp [Recording.accepted,Recording.Event.accepted,acceptances,Event.acceptance,ok]
  | recorder _ _ _ stepped _ silent => exact follows.stepped stepped silent
  | operated operation => cases operation <;> exact follows.still rfl rfl
  | _ => exact follows.still rfl rfl

structure Strict (r : Recorder) (s : System) (history : List Event) : Prop where
  policy : s.config.failurePolicy = .requireRecord
  nested : Nested s
  slotted : Slotted s
  ordered : Ordered s history
  balanced : Balanced s history
  backed : Backed s history
  failures : s.recordFailures = history.countP Event.refusal
  loans : ∀ operation, .inner operation ∈ history → operation.loaned = false
  follows : Follows r s history

theorem took_failures (strict : s.config.failurePolicy = .requireRecord) (took : Took s t seen) :
    t.recordFailures = s.recordFailures + seen.countP Event.refusal := by
  cases took with
  | continued _ _ _ _ _ lenient => simp [strict] at lenient
  | operated operation => cases operation <;> rfl
  | _ => rfl

theorem took_loans (took : Took s t seen) (reached : .inner operation ∈ seen) : operation.loaned = false := by
  cases took with
  | operated =>
    have same := mem_singleton.mp reached
    simp only [System.operate] at same
    split at same
    · contradiction
    next plain =>
      cases same
      simpa using plain
  | _ => simp at reached

theorem took_config (took : Took s t seen) : t.config = s.config := by
  cases took <;> rfl

theorem Strict.step (strict : Strict r s history) (stepped : system.step s action = some (t,seen)) :
    Strict r t (history ++ seen) := by
  have took := step_took stepped
  exact {
    policy := (took_config took).symm ▸ strict.policy
    nested := strict.nested.took took
    slotted := strict.slotted.took took
    ordered := strict.ordered.took strict.nested strict.slotted strict.policy took
    balanced := strict.balanced.took strict.policy took
    backed := strict.backed.took strict.slotted strict.policy took
    failures := by rw [took_failures strict.policy took,strict.failures,countP_append]
    loans := fun operation reached => (mem_append.mp reached).elim (strict.loans operation) (took_loans took)
    follows := strict.follows.took took }

theorem Strict.start (policy : config.failurePolicy = .requireRecord) (r : Recorder) :
    Strict r { config := config, recording := { recorder := r } } [] where
  policy := policy
  nested := by
    intro index other call another active
    simp at active
  slotted := ⟨fun active => by simp at active,fun active => by simp at active⟩
  ordered := fun _ => rfl
  balanced := ⟨fun active => by simp at active,fun _ => ⟨rfl,rfl⟩⟩
  backed := ⟨fun active => by simp at active,fun split => by simp at split⟩
  failures := rfl
  loans := by simp
  follows := ⟨[],[],rfl,rfl⟩

/-- A call inside the transport's own code is the current one of its thread. -/
theorem Nested.current (nested : Nested s) (active : s.calls[index]? = some call)
    (busy : call.phase.yields = false) : s.current index = some call := by
  simp only [System.current,active]
  refine if_pos (all_eq_true.mpr fun later listed => ?_)
  obtain ⟨offset,found⟩ := mem_iff_getElem?.mp listed
  rw [getElem?_drop] at found
  by_cases finished : later.phase = .returned
  · simp [finished]
  · have apart : later.thread ≠ call.thread := by
      intro same
      have idle := nested index (index + 1 + offset) call later active found (by omega) same.symm finished
      simp [idle] at busy
    simp [apart]

theorem Nested.due (nested : Nested s) (thread : ThreadId) : (s.pending thread).length ≤ 1 := by
  by_cases due : ∃ call ∈ s.calls, call.thread = thread ∧ call.phase = .forwarding
  · obtain ⟨call,listed,rfl,forwarding⟩ := due
    obtain ⟨index,active⟩ := mem_iff_getElem?.mp listed
    have busy : call.phase.yields = false := by simp [forwarding,CallPhase.yields]
    have here := nested.current active busy
    rw [pending_alone active fun other another found apart same ready =>
      apart (nested.only here busy found same (by simp [ready,CallPhase.yields]))]
    cases call.forwards call.thread <;> simp
  · have none : s.pending thread = [] := by
      refine filterMap_eq_nil_iff.mpr fun call listed => if_neg fun forwards => ?_
      exact due ⟨call,listed,forwards⟩
    simp [none]

/-- What strict recording promises. The records of the trace are the first of those that were
accepted, and the inner `Publish` calls of each thread are the records of that thread up to the one
that it is about to hand on. -/
structure Complete (wall monotonic : UInt64) (s : System) (history : List Event) : Prop where
  preceded : history = before ++ .handed thread call topic message qos :: later →
    AcceptedIn before thread call topic message
  single : ∀ call, history.countP (Event.acceptedFor call) ≤ 1 ∧
    history.countP (Event.acceptedFor call) = history.countP (Event.handedFor call) +
      if (s.calls[call]?.map PublishCall.phase) = some .forwarding then 1 else 0
  proceeds {call : Nat} {publish : PublishCall} : s.calls[call]? = some publish → publish.phase = .forwarding →
    step s (.forward call) = some (s.setPhase call publish .publishing,
      [.handed publish.thread call publish.topic publish.message publish.qos])
  order : ∀ thread, (Pool.share thread (acceptances history)).map content =
    Pool.share thread (attempts history) ++ s.pending thread
  due : ∀ thread, (s.pending thread).length ≤ 1
  written : ∃ written unwritten : List PendingRecord,
    (written ++ unwritten).map PendingRecord.input = (acceptances history).map Prod.snd ∧
    s.recording.recorder.stats.writtenRecords = written.length
  file : Recording.Intact s.recording → ∃ written : List PendingRecord,
    s.recording.recorder.file = buildFileHeader wall monotonic ++ written.flatMap PendingRecord.image ∧
    (written ++ s.recording.pending).map PendingRecord.input = (acceptances history).map Prod.snd
  failures : s.recordFailures = history.countP Event.refusal
  loans : .inner operation ∈ history → operation.loaned = false

theorem Balanced.single (balanced : Balanced s history) (call : Nat) :
    history.countP (Event.acceptedFor call) ≤ 1 ∧
    history.countP (Event.acceptedFor call) = history.countP (Event.handedFor call) +
      if (s.calls[call]?.map PublishCall.phase) = some .forwarding then 1 else 0 := by
  cases found : s.calls[call]? with
  | none =>
    obtain ⟨accepted,handed⟩ := balanced.fresh (getElem?_eq_none_iff.mp found)
    simp [accepted,handed]
  | some publish =>
    have counts := balanced.active found
    cases phase : publish.phase <;> simp only [phase,CallPhase.Balanced] at counts <;> simp [phase,counts]

/-- Whatever the threads, the resolver, the recorder and the inner transport do, strict recording
is complete. -/
theorem strict_recording_complete (created : Recorder.create recorderConfig wall monotonic creation = .ok r)
    (policy : config.failurePolicy = .requireRecord)
    (ran : system.run { config := config, recording := { recorder := r } } actions = some (s,history)) :
    Complete wall monotonic s history := by
  have strict : Strict r s history :=
    run_invariant (fun _ _ _ _ _ held stepped => held.step stepped) (.start policy r) ran
  obtain ⟨schedule,past,recorded,same⟩ := strict.follows
  obtain ⟨ledger,books⟩ : ∃ ledger, Recording.Books s.recording.tally past ledger :=
    ⟨_,(Recording.run_books created recorded).1⟩
  exact {
    preceded := strict.backed.preceded
    single := strict.balanced.single
    proceeds := fun active forwarding => by
      have here := strict.nested.current active (by simp [forwarding,CallPhase.yields])
      simp [step,Action.call,here,System.advance,forwarding]
    order := strict.ordered
    due := strict.nested.due
    written := by
      refine ⟨ledger.written,ledger.inHand.toList ++ (s.recording.tally.queue ++ ledger.lost),?_,
        books.writtenRecords⟩
      rw [← append_assoc,← append_assoc,← books.conserved,books.recorded,same]
    file := fun intact => by
      obtain ⟨-,rfl,rfl,written,traced⟩ := Recording.run_traced (Recording.create_created created) recorded intact
      exact ⟨written,traced.file,traced.contents.trans same⟩
    failures := strict.failures
    loans := strict.loans _ }

def sampleTransport : RecordingTransportConfig where
  defaultMessageType := []
  messageTypeResolver := true

def sampleMessage (priority : Int32) : Message := ⟨{ priority := priority },[7,0]⟩

/-- The first thread publishes again from inside the resolver, whose answer to the inner call is
empty; its outer call and a call of the second thread go on in turns. In a third call the resolver
throws, and a loan is asked for. -/
def sampleSchedule : List Action :=
  [.publish 1 [99] (sampleMessage 1) {},.publish 1 [98] (sampleMessage 2) {},.resolve 1 (.typed []),
    .publish 2 [97] (sampleMessage 3) {},.record 1 none 104,.resolve 2 (.typed [120]),.recordFailure 1,
    .resolve 0 (.typed [121]),.record 0 none 105,.record 2 none 106,.proceed 2 .enter,.proceed 0 .enter,
    .recorder .pop,.forward 2,.proceed 0 .wake,.forward 0,.finish 0 ⟨.queueFull,"full"⟩,.finish 2 .success,
    .publish 2 [96] (sampleMessage 4) {},.resolve 3 (.threw none),.recordFailure 3,.operate (.loan [99] 8 {}),
    .recorder (.write [.wrote 120]),.recorder .account]

set_option maxRecDepth 4000

theorem strict_recording_complete_sample : ∃ r s history,
    Recorder.create Recording.sampleConfig 7 100 .created = .ok r ∧
    system.run { config := sampleTransport, recording := { recorder := r } } sampleSchedule = some (s,history) ∧
    s.recordFailures = 2 ∧ attempts history = [(2,[97],sampleMessage 3),(1,[99],sampleMessage 1)] ∧
    s.recording.recorder.file.length = 160 ∧ Complete 7 100 s history := by
  obtain ⟨r,created⟩ : ∃ r, Recorder.create Recording.sampleConfig 7 100 .created = .ok r := ⟨_,rfl⟩
  obtain ⟨s,history,ran,failures,published,length⟩ : ∃ s history,
      system.run { config := sampleTransport, recording := { recorder := r } } sampleSchedule = some (s,history) ∧
      s.recordFailures = 2 ∧ attempts history = [(2,[97],sampleMessage 3),(1,[99],sampleMessage 1)] ∧
      s.recording.recorder.file.length = 160 := by
    cases created
    exact ⟨_,_,rfl,rfl,rfl,rfl⟩
  exact ⟨r,s,history,created,ran,failures,published,length,strict_recording_complete created rfl ran⟩

end AutoRuntime.RecordingTransport
