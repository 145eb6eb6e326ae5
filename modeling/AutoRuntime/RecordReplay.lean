import AutoRuntime.RecorderSteps

/-! Recording and replaying. Along every run the file holds the header and the records taken out
so far, and a `Stop` that succeeds finds nothing left to take out. -/
namespace AutoRuntime.Trace

def PendingRecord.input (record : PendingRecord) : RecordInput :=
  ⟨record.channel,record.messageType,record.message⟩

def TraceRecord.input (record : TraceRecord) : RecordInput :=
  ⟨record.channel,record.messageType,record.message⟩

theorem Consecutive.numbered (consecutive : Consecutive (UInt64.ofNat first) offset records following last) :
    records.map PendingRecord.recordSequence = (List.range' first records.length).map UInt64.ofNat := by
  induction records generalizing first offset with
  | nil => rfl
  | cons record records ih =>
    generalize start : UInt64.ofNat first = number at consecutive
    cases consecutive with
    | cons later rest =>
      have next : record.recordSequence + 1 = UInt64.ofNat (first + 1) := by
        rw [← start,UInt64.ofNat_add]
        rfl
      rw [next] at rest
      rw [List.map_cons,List.length_cons,List.range'_succ,List.map_cons,start,ih rest]

theorem Consecutive.from_offset {record : PendingRecord}
    (consecutive : Consecutive first offset records following last) (listed : record ∈ records) :
    offset ≤ record.monotonicOffsetNs := by
  induction consecutive with
  | nil => contradiction
  | cons later _ ih =>
    rcases List.mem_cons.mp listed with rfl | listed
    · exact later
    · exact UInt64.le_trans later (ih listed)

theorem Consecutive.sorted (consecutive : Consecutive first offset records following last) :
    records.Pairwise (fun earlier later => earlier.monotonicOffsetNs ≤ later.monotonicOffsetNs) := by
  induction consecutive with
  | nil => exact .nil
  | cons _ rest ih => exact .cons (fun _ listed => rest.from_offset listed) ih

namespace Recording

def Event.accepted : Event → Option RecordInput
  | .recorded input status => if status.ok then some input else none
  | .stopped _ => none

/-- What the calls that returned Ok recorded, in the order of the lock. -/
def accepted (history : List Event) : List RecordInput := history.filterMap Event.accepted

def WriterPhase.inHand : WriterPhase → List PendingRecord
  | .holding record => [record]
  | _ => []

/-- What was accepted and is not yet in the file. -/
def System.pending (s : System) : List PendingRecord := s.writer.inHand ++ s.recorder.queue

structure Intact (s : System) : Prop where
  status : s.recorder.writerStatus.ok = true
  writing : ∀ detail, s.writer ≠ .failing detail

structure Traced (s : System) (history : List Event) (written : List PendingRecord) : Prop where
  file : s.recorder.file = buildFileHeader s.recorder.wallClockStartNs s.recorder.monotonicStartNs ++
    written.flatMap PendingRecord.image
  contents : (written ++ s.pending).map PendingRecord.input = accepted history
  consecutive : Consecutive 1 0 (written ++ s.pending) s.recorder.nextRecordSequence
    s.recorder.lastRecordOffsetNs
  fits : ∀ record ∈ written ++ s.pending, record.Fits s.recorder.config.limits
  drained : s.writer = .closing ∨ s.writer = .finished → s.recorder.queue = [] ∧ s.recorder.stopping = true

structure Recorded (s : System) (history : List Event) : Prop where
  encodable : s.recorder.config.limits.Encodable
  calls : ∀ phase ∈ s.calls, ∀ capture, phase.capture = some capture →
    capture.input.Fits s.recorder.config.limits
  finished : s.recorder.writerFinished = true → s.writer = .finished
  stopped : ∀ status, .stopped status ∈ history → status.ok →
    s.recorder.writerFinished = true ∧ s.recorder.writerStatus.ok = true
  traced : Intact s → ∃ written, Traced s history written

theorem beginStop_eq (r : Recorder) : ∃ stopping stats,
    r.beginStop = { r with stopping := stopping, stats := stats } ∧ (r.stopping = true → stopping = true) := by
  simp only [Recorder.beginStop]
  split
  next running => exact ⟨true,r.stats,by rw [← running],fun _ => rfl⟩
  · exact ⟨true,_,rfl,fun _ => rfl⟩

theorem finish_eq (r : Recorder) (syncError closeError : Option String) : ∃ status stats,
    r.finish syncError closeError = { r with writerFinished := true, writerStatus := status, stats := stats } ∧
      (status.ok = true → r.writerStatus.ok = true) := by
  simp only [Recorder.finish]
  split
  · exact ⟨_,_,rfl,fun ok => nomatch ok⟩
  · exact ⟨r.writerStatus,_,rfl,id⟩

section

variable (took : Took s action t emitted)

include took

theorem took_config : t.recorder.config = s.recorder.config ∧
    t.recorder.wallClockStartNs = s.recorder.wallClockStartNs ∧
    t.recorder.monotonicStartNs = s.recorder.monotonicStartNs := by
  cases took with
  | answered atCall pending answered => cases answered <;> exact ⟨rfl,rfl,rfl⟩
  | @finished syncError closeError phase =>
    obtain ⟨status,stats,same,_⟩ := finish_eq s.recorder syncError closeError
    rw [same]
    exact ⟨rfl,rfl,rfl⟩
  | stopWaits | stoppedLate =>
    obtain ⟨stopping,stats,same,_⟩ := beginStop_eq s.recorder
    rw [same]
    exact ⟨rfl,rfl,rfl⟩
  | _ => exact ⟨rfl,rfl,rfl⟩

theorem took_calls (held : ∀ phase ∈ s.calls, ∀ capture, phase.capture = some capture →
      capture.input.Fits s.recorder.config.limits) : ∀ phase ∈ t.calls, ∀ capture, phase.capture = some capture →
      capture.input.Fits s.recorder.config.limits := by
  cases took with
  | arrived fits =>
    intro phase listed capture pending
    rcases List.mem_append.mp listed with listed | listed
    · exact held phase listed capture pending
    · obtain rfl := List.mem_singleton.mp listed
      cases pending
      exact fits
  | waits atCall =>
    intro phase listed capture pending
    rcases List.mem_or_eq_of_mem_set listed with listed | rfl
    · exact held phase listed capture pending
    · exact held _ (List.mem_of_getElem? atCall) capture pending
  | answered | expired =>
    intro phase listed capture pending
    rcases List.mem_or_eq_of_mem_set listed with listed | rfl
    · exact held phase listed capture pending
    · contradiction
  | _ => exact held

theorem took_finished (held : s.recorder.writerFinished = true → s.writer = .finished) :
    t.recorder.writerFinished = true → t.writer = .finished := by
  intro done
  cases took with
  | answered atCall pending answered => cases answered <;> exact held done
  | popped phase | wrote phase | broke phase | accounted phase | failed phase | left phase =>
    exact absurd (held done) (by simp [phase])
  | finished => rfl
  | stopWaits => exact held ((beginStop_writer s.recorder).1 ▸ done)
  | stoppedLate past => exact held past
  | _ => exact held done

theorem took_status (finished : s.writer = .finished) : t.recorder.writerFinished = s.recorder.writerFinished ∧
      t.recorder.writerStatus = s.recorder.writerStatus := by
  cases took with
  | answered atCall pending answered => cases answered <;> exact ⟨rfl,rfl⟩
  | failed phase | finished phase => exact absurd finished (by simp [phase])
  | stopWaits | stoppedLate => exact beginStop_writer s.recorder
  | _ => exact ⟨rfl,rfl⟩

theorem took_stopped (listed : .stopped status ∈ emitted) (ok : status.ok) :
    s.recorder.writerFinished = true ∧ s.recorder.writerStatus.ok = true := by
  cases took with
  | stopped done | stoppedLate done =>
    cases List.mem_singleton.mp listed
    exact ⟨done,ok⟩
  | stopExpired =>
    cases List.mem_singleton.mp listed
    contradiction
  | rejected | answered | expired => exact nomatch List.mem_singleton.mp listed
  | _ => contradiction

theorem took_intact (intact : Intact t) : Intact s := by
  cases took with
  | answered atCall pending answered => cases answered <;> exact ⟨intact.status,intact.writing⟩
  | popped phase | wrote phase | accounted phase | left phase => exact ⟨intact.status,by simp [phase]⟩
  | broke phase file detail => exact absurd rfl (intact.writing detail)
  | failed => exact nomatch intact.status
  | @finished syncError closeError phase =>
    obtain ⟨status,stats,same,kept⟩ := finish_eq s.recorder syncError closeError
    have ok := intact.status
    rw [same] at ok
    exact ⟨kept ok,by simp [phase]⟩
  | stopWaits | stoppedLate => exact ⟨(beginStop_writer s.recorder).2 ▸ intact.status,intact.writing⟩
  | _ => exact ⟨intact.status,intact.writing⟩

end

theorem accepted_failed (history : List Event) (input : RecordInput) (failed : status.ok = false) :
    accepted (history ++ [.recorded input status]) = accepted history := by
  simp [accepted,Event.accepted,failed]

theorem accepted_stopped (history : List Event) (status : Status) :
    accepted (history ++ [.stopped status]) = accepted history := by
  simp [accepted,Event.accepted]

theorem accepted_success (history : List Event) (input : RecordInput) :
    accepted (history ++ [.recorded input .success]) = accepted history ++ [input] := by
  simp [accepted,Event.accepted]

theorem le_max_offset (captured last : UInt64) : last ≤ max captured last := by
  change last ≤ if captured ≤ last then last else captured
  split
  · exact UInt64.le_refl last
  next later => exact UInt64.le_of_lt (UInt64.not_le.mp later)

theorem push_traced {s : System} {call : Nat} (traced : Traced s history written)
    (fits : capture.input.Fits s.recorder.config.limits) (live : s.recorder.stopping = false) :
    Traced (s.close call (s.recorder.push capture)) (history ++ [.recorded capture.input .success]) written := by
  obtain ⟨record,queue,sequence,offset,later,input,small⟩ : ∃ record : PendingRecord,
      (s.recorder.push capture).queue = s.recorder.queue ++ [record] ∧
      record.recordSequence = s.recorder.nextRecordSequence ∧
      (s.recorder.push capture).lastRecordOffsetNs = record.monotonicOffsetNs ∧
      s.recorder.lastRecordOffsetNs ≤ record.monotonicOffsetNs ∧ record.input = capture.input ∧
      record.Fits s.recorder.config.limits := by
    refine ⟨_,rfl,rfl,rfl,?_,rfl,fits _ _⟩
    exact le_max_offset _ _
  have grown : written ++ (s.close call (s.recorder.push capture)).pending =
      (written ++ s.pending) ++ [record] := by
    simp [System.pending,System.close,queue]
  refine ⟨traced.file,?_,?_,?_,?_⟩
  · rw [grown,List.map_append,traced.contents,accepted_success,List.map_singleton,input]
  · have consecutive := traced.consecutive
    rw [← sequence] at consecutive
    have snoc := consecutive.snoc later
    rw [grown]
    rw [sequence,← offset] at snoc
    exact snoc
  · rw [grown]
    intro other listed
    rcases List.mem_append.mp listed with listed | listed
    · exact traced.fits other listed
    · obtain rfl := List.mem_singleton.mp listed
      exact small
  · intro past
    exact absurd (traced.drained past).2 (by simp [live])

theorem Traced.transfer {s t : System} (traced : Traced s history written)
    (file : t.recorder.file = buildFileHeader t.recorder.wallClockStartNs t.recorder.monotonicStartNs ++
      after.flatMap PendingRecord.image)
    (same : after ++ t.pending = written ++ s.pending) (quiet : accepted later = accepted history)
    (sequence : t.recorder.nextRecordSequence = s.recorder.nextRecordSequence)
    (offset : t.recorder.lastRecordOffsetNs = s.recorder.lastRecordOffsetNs)
    (config : t.recorder.config = s.recorder.config)
    (drained : t.writer = .closing ∨ t.writer = .finished →
      t.recorder.queue = [] ∧ t.recorder.stopping = true) : Traced t later after := by
  refine ⟨file,?_,?_,?_,drained⟩
  · rw [same,quiet]
    exact traced.contents
  · rw [same,sequence,offset]
    exact traced.consecutive
  · rw [same,config]
    exact traced.fits

theorem Traced.keep {s : System} (traced : Traced s history written) (quiet : accepted later = accepted history)
    (stopping : s.recorder.stopping = true → stop = true) :
    Traced { s with
      recorder := { s.recorder with stopping := stop, stats := stats }
      calls := calls
      stops := stops } later written :=
  traced.transfer traced.file rfl quiet rfl rfl rfl
    (fun past => ⟨(traced.drained past).1,stopping (traced.drained past).2⟩)

theorem took_traced (took : Took s action t emitted) (recorded : Recorded s history) (intact : Intact t)
    (traced : Traced s history written) : ∃ written, Traced t (history ++ emitted) written := by
  have quiet : accepted (history ++ []) = accepted history := congrArg accepted (List.append_nil history)
  cases took with
  | rejected failed | expired _ _ failed => exact ⟨written,traced.keep (accepted_failed history _ failed) id⟩
  | arrived | waits | stopArrived => exact ⟨written,traced.keep quiet id⟩
  | answered atCall pending answered =>
    cases answered with
    | refused failed => exact ⟨written,traced.keep (accepted_failed history _ failed) id⟩
    | dropped code => exact ⟨written,traced.keep (accepted_failed history _ (by simp [Status.ok,code])) id⟩
    | accepted live =>
      have fits := recorded.calls _ (List.mem_of_getElem? atCall) _ pending
      exact ⟨written,push_traced traced fits live⟩
  | popped phase queued =>
    refine ⟨written,traced.transfer traced.file ?_ quiet rfl rfl rfl (fun past => by simp at past)⟩
    simp [System.pending,phase,queued,WriterPhase.inHand]
  | @wrote record bytes _ phase serialized =>
    have same : written ++ s.pending = (written ++ [record]) ++ s.recorder.queue := by
      simp [System.pending,phase,WriterPhase.inHand]
    have fits : record.Fits s.recorder.config.limits := traced.fits record (by simp [same])
    obtain rfl : record.image = bytes :=
      Except.ok.inj ((serializeRecord_image fits recorded.encodable).symm.trans serialized)
    refine ⟨written ++ [record],traced.transfer ?_ same.symm quiet rfl rfl rfl (fun past => by simp at past)⟩
    simp [traced.file]
  | broke phase file detail => exact absurd rfl (intact.writing detail)
  | accounted phase =>
    refine ⟨written,traced.transfer traced.file ?_ quiet rfl rfl rfl (fun past => by simp at past)⟩
    simp [System.pending,phase,WriterPhase.inHand]
  | failed => exact nomatch intact.status
  | left phase drained stopping =>
    refine ⟨written,traced.transfer traced.file ?_ quiet rfl rfl rfl (fun _ => ⟨drained,stopping⟩)⟩
    simp [System.pending,phase,WriterPhase.inHand]
  | @finished syncError closeError phase =>
    obtain ⟨status,stats,ended,_⟩ := finish_eq s.recorder syncError closeError
    rw [ended]
    refine ⟨written,traced.transfer traced.file ?_ quiet rfl rfl rfl (fun _ => traced.drained (.inl phase))⟩
    simp [System.pending,phase,WriterPhase.inHand]
  | stopWaits =>
    obtain ⟨stop,stats,began,kept⟩ := beginStop_eq s.recorder
    rw [began]
    exact ⟨written,traced.keep quiet kept⟩
  | stopped | stopExpired => exact ⟨written,traced.keep (accepted_stopped history _) id⟩
  | stoppedLate =>
    obtain ⟨stop,stats,began,kept⟩ := beginStop_eq s.recorder
    rw [began]
    exact ⟨written,traced.keep (accepted_stopped history _) kept⟩

theorem step_recorded (s : System) (history : List Event) (action : Action) (t : System)
    (emitted : List Event) (recorded : Recorded s history) (stepped : system.step s action = some (t,emitted)) :
    Recorded t (history ++ emitted) := by
  have took := step_took stepped
  obtain ⟨config,_,_⟩ := took_config took
  refine ⟨config ▸ recorded.encodable,config ▸ took_calls took recorded.calls,
    took_finished took recorded.finished,?_,?_⟩
  · intro status listed ok
    have past : s.recorder.writerFinished = true ∧ s.recorder.writerStatus.ok = true := by
      rcases List.mem_append.mp listed with listed | listed
      · exact recorded.stopped status listed ok
      · exact took_stopped took listed ok
    obtain ⟨finished,kept⟩ := took_status took (recorded.finished past.1)
    exact ⟨finished ▸ past.1,kept ▸ past.2⟩
  · intro intact
    obtain ⟨written,traced⟩ := recorded.traced (took_intact took intact)
    exact took_traced took recorded intact traced

structure Created (config : RecorderConfig) (wall monotonic : UInt64) (r : Recorder) : Prop where
  named : config.path ≠ []
  valid : (validateLimits config.limits).ok = true
  fresh : ∃ stats, r = {
    config := config
    wallClockStartNs := wall
    monotonicStartNs := monotonic
    file := buildFileHeader wall monotonic
    stats := stats }

theorem create_created (created : Recorder.create config wall monotonic creation = .ok r) :
    Created config wall monotonic r := by
  simp only [Recorder.create] at created
  split at created
  · contradiction
  next named =>
    split at created
    · contradiction
    next valid =>
      split at created
      · contradiction
      · split at created
        · contradiction
        · contradiction
        · contradiction
        · simp only [Bool.or_eq_true,List.isEmpty_iff,not_or] at named
          exact ⟨named.1,by simpa using valid,_,(Except.ok.inj created).symm⟩

theorem created_recorded (created : Created config wall monotonic r) : Recorded { recorder := r } [] := by
  obtain ⟨stats,rfl⟩ := created.fresh
  refine ⟨valid_encodable created.valid,by simp,by simp,by simp,fun _ => ⟨[],?_⟩⟩
  exact ⟨by simp,rfl,.nil,by simp [System.pending,WriterPhase.inHand],by simp⟩

/-- As long as no write has failed, the file holds the header and the records taken out so far. -/
theorem run_traced (created : Created config wall monotonic r)
    (ran : system.run { recorder := r } actions = some (s,history)) (intact : Intact s) :
    s.recorder.config = config ∧ s.recorder.wallClockStartNs = wall ∧ s.recorder.monotonicStartNs = monotonic ∧
      ∃ written, Traced s history written := by
  have recorded := Machine.run_invariant step_recorded (created_recorded created) ran
  obtain ⟨sameConfig,sameWall,sameMonotonic⟩ : s.recorder.config = config ∧
      s.recorder.wallClockStartNs = wall ∧ s.recorder.monotonicStartNs = monotonic := by
    refine Machine.run_invariant (motive := fun (s : System) _ => s.recorder.config = config ∧
      s.recorder.wallClockStartNs = wall ∧ s.recorder.monotonicStartNs = monotonic) ?_ ?_ ran
    · intro s history action t emitted held stepped
      obtain ⟨sameConfig,sameWall,sameMonotonic⟩ := took_config (step_took stepped)
      exact ⟨sameConfig.trans held.1,sameWall.trans held.2.1,sameMonotonic.trans held.2.2⟩
    · obtain ⟨stats,rfl⟩ := created.fresh
      exact ⟨rfl,rfl,rfl⟩
  exact ⟨sameConfig,sameWall,sameMonotonic,recorded.traced intact⟩

/-- After a successful `Stop` the file holds the header and exactly the accepted records. -/
theorem stopped_file (created : Created config wall monotonic r)
    (ran : system.run { recorder := r } actions = some (s,history))
    (stopped : .stopped status ∈ history) (ok : status.ok = true) :
    ∃ written following last,
      s.recorder.file = buildFileHeader wall monotonic ++ written.flatMap PendingRecord.image ∧
      written.map PendingRecord.input = accepted history ∧ Consecutive 1 0 written following last ∧
      ∀ record ∈ written, record.Fits config.limits := by
  have recorded := Machine.run_invariant step_recorded (created_recorded created) ran
  obtain ⟨done,intact⟩ := recorded.stopped status stopped ok
  have phase := recorded.finished done
  obtain ⟨rfl,rfl,rfl,written,traced⟩ := run_traced created ran ⟨intact,by simp [phase]⟩
  have empty : s.pending = [] := by
    simp [System.pending,phase,WriterPhase.inHand,(traced.drained (.inr phase)).1]
  have contents := traced.contents
  have consecutive := traced.consecutive
  have fits := traced.fits
  rw [empty,List.append_nil] at contents consecutive fits
  exact ⟨written,_,_,traced.file,contents,consecutive,fits⟩

/-- A recording that `Stop` ended well is replayed whole: every record whose call returned Ok, in
the order of acceptance and as it was handed in, and then the end of the file. -/
theorem recording_replayed (created : Recorder.create config wall monotonic creation = .ok r)
    (ran : system.run { recorder := r } actions = some (s,history))
    (stopped : .stopped status ∈ history) (ok : status.ok = true)
    (valid : (validateLimits limits).ok = true) (within : config.limits.Within limits) :
    ∃ (replayer : Replayer) (records : List TraceRecord),
      Replayer.open config.path (some s.recorder.file) limits = .ok replayer ∧
      (∀ extra, replayer.nexts (records.length + extra) =
        records.map (fun record => .ok (some record)) ++ List.replicate extra (.ok none)) ∧
      records.map TraceRecord.input = accepted history ∧
      records.map TraceRecord.recordSequence = (List.range' 1 records.length).map UInt64.ofNat ∧
      records.Pairwise (fun earlier later => earlier.monotonicOffsetNs ≤ later.monotonicOffsetNs) := by
  have made := create_created created
  obtain ⟨written,following,last,file,contents,consecutive,fits⟩ := stopped_file made ran stopped ok
  have opened : Replayer.open config.path (some s.recorder.file) limits = .ok {
      limits := limits
      file := s.recorder.file
      input := written.flatMap PendingRecord.image
      info := ⟨traceFormatVersion,wall,monotonic⟩ } := by
    have header := openAndReadHeader_append wall monotonic (written.flatMap PendingRecord.image)
    rw [← file] at header
    simp [Replayer.open,made.named,valid,header]
  refine ⟨_,written.map PendingRecord.replayed,opened,?_,?_,?_,?_⟩
  · intro extra
    rw [List.length_map,List.map_map]
    exact nexts_images (valid_encodable valid) rfl rfl rfl
      (fun record listed => (fits record listed).widen within) consecutive
  · rw [List.map_map]
    exact contents
  · rw [List.map_map,List.length_map]
    exact consecutive.numbered
  · exact List.pairwise_map.mpr consecutive.sorted

def sampleConfig : RecorderConfig where
  path := [116]
  queueCapacity := 1

def sampleInput (priority : Int32) : RecordInput := ⟨[99],[120],⟨{ priority := priority },[7,0]⟩⟩

/-- Two callers meet a queue of one place. The one that read the clock first comes second, has to
wait and is accepted with the other's offset; its write is interrupted and split; a third one finds
the recorder stopping. -/
def sampleSchedule : List Action :=
  [.record (sampleInput (-3)) none 105,.record (sampleInput 4) none 109,.enter 1,.enter 0,.pop,.wake 0,
    .write [.wrote 120],.account,.record (sampleInput 9) none 110,.stop .infinite,.join 0,.enter 2,.pop,
    .write [.wrote 50,.interrupted,.wrote 70],.account,.leave,.finish none none,.flushed 0]

set_option maxRecDepth 4000

theorem recording_replayed_sample : ∃ r s history replayer, ∃ records : List TraceRecord,
    Recorder.create sampleConfig 7 100 .created = .ok r ∧
      system.run { recorder := r } sampleSchedule = some (s,history) ∧ .stopped .success ∈ history ∧
      Replayer.open [116] (some s.recorder.file) {} = .ok replayer ∧
      (∀ extra, replayer.nexts (records.length + extra) =
        records.map (fun record => .ok (some record)) ++ List.replicate extra (.ok none)) ∧
      records.map TraceRecord.input = [sampleInput 4,sampleInput (-3)] := by
  obtain ⟨r,created⟩ : ∃ r, Recorder.create sampleConfig 7 100 .created = .ok r := ⟨_,rfl⟩
  obtain ⟨s,history,ran,stopped,contents⟩ : ∃ s history,
      system.run { recorder := r } sampleSchedule = some (s,history) ∧
      .stopped .success ∈ history ∧ accepted history = [sampleInput 4,sampleInput (-3)] := by
    cases created
    exact ⟨_,_,rfl,by decide,by decide⟩
  have valid : (validateLimits {}).ok = true := rfl
  obtain ⟨replayer,records,opened,read,inputs,_⟩ := recording_replayed created ran stopped rfl valid
    ⟨le_refl _,le_refl _,le_refl _⟩
  exact ⟨r,s,history,replayer,records,created,ran,stopped,opened,read,inputs.trans contents⟩

end Recording

end AutoRuntime.Trace
