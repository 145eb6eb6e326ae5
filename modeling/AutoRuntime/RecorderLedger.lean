import AutoRuntime.TraceCrash

/-! The books of a recording. A ledger beside the run holds the records that were accepted,
written and lost; the recorder's counters are measured against it. -/
namespace AutoRuntime.Trace.Recording

open List

structure Ledger where
  accepted : List PendingRecord := []
  written : List PendingRecord := []
  lost : List PendingRecord := []
  inHand : Option PendingRecord := none

/-- A `Record` call that puts a record in the queue has it accepted, the writer takes it in hand,
counts it as written, or loses it together with the queue. -/
def Ledger.record (s : System) (action : Action) (ledger : Ledger) : Ledger :=
  match action, step s action with
  | .enter _, some (t,_) | .wake _, some (t,_) =>
    { ledger with accepted := ledger.accepted ++ t.recorder.queue.drop s.recorder.queue.length }
  | .pop, some _ => { ledger with inHand := s.recorder.queue.head? }
  | .account, some _ =>
    { ledger with written := ledger.written ++ ledger.inHand.toList, inHand := none }
  | .fail, some _ =>
    { ledger with lost := ledger.lost ++ ledger.inHand.toList ++ s.recorder.queue, inHand := none }
  | _, _ => ledger

/-- The part of a recording that the books are about. -/
structure Tally where
  queue : List PendingRecord
  capacity : Nat
  writer : WriterPhase
  stopping : Bool
  writerFinished : Bool
  writerStatus : Status
  acceptedRecords : Nat
  writtenRecords : Nat
  droppedRecords : Nat
  queueDepth : Nat
  bytesWritten : Nat

def System.tally (s : System) : Tally where
  queue := s.recorder.queue
  capacity := s.recorder.config.queueCapacity
  writer := s.writer
  stopping := s.recorder.stopping
  writerFinished := s.recorder.writerFinished
  writerStatus := s.recorder.writerStatus
  acceptedRecords := s.recorder.stats.acceptedRecords
  writtenRecords := s.recorder.stats.writtenRecords
  droppedRecords := s.recorder.stats.droppedRecords
  queueDepth := s.recorder.stats.queueDepth
  bytesWritten := s.recorder.stats.bytesWritten

def Event.dropped : Event → Bool
  | .recorded _ status => status.code == .dropped
  | .stopped _ => false

/-- No record was accepted or dropped, and only a finished writer lets a `Stop` succeed. -/
structure Quiet (tally : Tally) (seen : List Event) : Prop where
  accepted : accepted seen = []
  dropped : seen.countP Event.dropped = 0
  stopped : .stopped status ∈ seen → status.ok = true →
    tally.writerFinished = true ∧ tally.writerStatus.ok = true

/-- What a step does to the books. -/
inductive Tallied (before : Tally) (ledger : Ledger) : Tally → List Event → Ledger → Prop where
  | still (stopping : Bool) (quiet : Quiet before seen) (stays : before.stopping = true → stopping = true) :
    Tallied before ledger { before with stopping := stopping } seen ledger
  | accepted (record : PendingRecord) (live : before.stopping = false) (sound : before.writerStatus.ok = true)
    (room : before.queue.length < before.capacity) :
    Tallied before ledger { before with
      queue := before.queue ++ [record]
      acceptedRecords := before.acceptedRecords + 1
      queueDepth := (before.queue ++ [record]).length } [.recorded record.input .success]
      { ledger with accepted := ledger.accepted ++ [record] }
  | dropped (input : RecordInput) (status : Status) (code : status.code = .dropped) :
    Tallied before ledger { before with droppedRecords := before.droppedRecords + 1 }
      [.recorded input status] ledger
  | popped (record : PendingRecord) (queue : List PendingRecord) (phase : before.writer = .looping)
    (queued : before.queue = record :: queue) :
    Tallied before ledger { before with queue := queue, writer := .holding record, queueDepth := queue.length }
      [] { ledger with inHand := some record }
  | wrote (record : PendingRecord) (bytes : Bytes) (phase : before.writer = .holding record)
    (serialized : serializeRecord record = .ok bytes) :
    Tallied before ledger { before with writer := .wrote bytes.length } [] ledger
  | broke (record : PendingRecord) (detail : String) (phase : before.writer = .holding record) :
    Tallied before ledger { before with writer := .failing detail } [] ledger
  | accounted (size : Nat) (phase : before.writer = .wrote size) :
    Tallied before ledger { before with
      writer := .looping
      writtenRecords := before.writtenRecords + 1
      bytesWritten := before.bytesWritten + size } []
      { ledger with written := ledger.written ++ ledger.inHand.toList, inHand := none }
  | failed (detail : String) (phase : before.writer = .failing detail) :
    Tallied before ledger { before with
      queue := []
      writer := .closing
      stopping := true
      writerStatus := ⟨.transportError,detail⟩
      droppedRecords := before.droppedRecords + before.queue.length + 1
      queueDepth := 0 } []
      { ledger with lost := ledger.lost ++ ledger.inHand.toList ++ before.queue, inHand := none }
  | left (phase : before.writer = .looping) (drained : before.queue = []) (stopping : before.stopping = true) :
    Tallied before ledger { before with writer := .closing } [] ledger
  | finished (status : Status) (phase : before.writer = .closing)
    (settled : status = before.writerStatus ∨ status.code = .transportError) :
    Tallied before ledger { before with writer := .finished, writerFinished := true, writerStatus := status }
      [] ledger

section

theorem quiet_refused {tally : Tally} (input : RecordInput) (failed : status.ok = false)
    (kept : status.code ≠ .dropped) : Quiet tally [.recorded input status] where
  accepted := by simp [accepted,Event.accepted,failed]
  dropped := by simpa [Event.dropped] using kept
  stopped member := by simp at member

theorem quiet_nil {tally : Tally} : Quiet tally [] := ⟨rfl,rfl,fun member => by simp at member⟩

variable {r : Recorder} {s : System}

theorem answered_tallied {call : Nat} (ledger : Ledger) (sound : s.recorder.writerStatus.code ≠ .dropped)
    (answered : Answered s.recorder capture status r) :
    Tallied s.tally ledger (s.close call r).tally [.recorded capture.input status]
      { ledger with accepted := ledger.accepted ++ r.queue.drop s.recorder.queue.length } := by
  cases answered with
  | refused failed told =>
    have kept : status.code ≠ .dropped := told.elim id (fun same => same ▸ sound)
    rw [drop_length,append_nil]
    exact .still s.recorder.stopping (quiet_refused _ failed kept) id
  | dropped code =>
    rw [drop_length,append_nil]
    exact .dropped _ _ code
  | accepted live sound room =>
    have free : s.tally.queue.length < s.tally.capacity := room
    simp only [Recorder.push,drop_left]
    exact .accepted _ live sound free

theorem finish_status (r : Recorder) (syncError closeError : Option String) :
    (r.finish syncError closeError).writerStatus = r.writerStatus ∨
      (r.finish syncError closeError).writerStatus.code = .transportError := by
  simp only [Recorder.finish]
  split
  · exact .inr rfl
  · exact .inl rfl

theorem finish_tally (s : System) (syncError closeError : Option String) :
    ({ s with recorder := s.recorder.finish syncError closeError, writer := .finished } : System).tally =
      { s.tally with
        writer := .finished
        writerFinished := true
        writerStatus := (s.recorder.finish syncError closeError).writerStatus } := by
  simp only [System.tally,Recorder.finish]
  split <;> rfl

theorem beginStop_tally (s : System) (stops : List StopPhase) :
    ({ s with recorder := s.recorder.beginStop, stops := stops } : System).tally =
      { s.tally with stopping := true } := by
  simp only [System.tally,Recorder.beginStop]
  split
  next stopping => simp [stopping]
  · rfl

theorem quiet_stopped {tally : Tally} (done : tally.writerFinished = true) :
    Quiet tally [.stopped tally.writerStatus] := by
  refine ⟨rfl,rfl,fun {status} member ok => ?_⟩
  obtain rfl : status = tally.writerStatus := by simpa using member
  exact ⟨done,ok⟩

theorem step_tallied (ledger : Ledger) (sound : s.recorder.writerStatus.code ≠ .dropped)
    (stepped : step s action = some (t,seen)) : Tallied s.tally ledger t.tally seen (ledger.record s action) := by
  cases step_took stepped with
  | rejected failed kept => exact .still _ (quiet_refused _ failed kept) id
  | arrived => exact .still _ quiet_nil id
  | waits =>
    simp only [Ledger.record,stepped,drop_length,append_nil]
    exact .still s.recorder.stopping quiet_nil id
  | answered _ _ answered enters =>
    rcases enters with rfl | rfl <;>
    · simp only [Ledger.record,stepped]
      exact answered_tallied ledger sound answered
  | expired _ _ failed kept => exact .still s.recorder.stopping (quiet_refused _ failed kept) id
  | popped phase queued =>
    simp only [Ledger.record,stepped,queued,head?_cons]
    exact .popped _ _ phase queued
  | wrote phase serialized => exact .wrote _ _ phase serialized
  | broke phase _ _ writes => rcases writes with ⟨_,rfl⟩ | ⟨_,rfl⟩ <;> exact .broke _ _ phase
  | accounted phase =>
    simp only [Ledger.record,stepped]
    exact .accounted _ phase
  | failed phase =>
    simp only [Ledger.record,stepped]
    exact .failed _ phase
  | left phase drained stopping => exact .left phase drained stopping
  | finished phase =>
    rw [finish_tally]
    exact .finished _ phase (finish_status s.recorder _ _)
  | stopArrived => exact .still _ quiet_nil id
  | stopWaits =>
    rw [beginStop_tally]
    exact .still true quiet_nil (fun _ => rfl)
  | stopped done => exact .still _ (quiet_stopped done) id
  | stoppedLate done =>
    rw [beginStop_tally]
    exact .still true (quiet_stopped done) (fun _ => rfl)
  | stopExpired =>
    refine .still _ ⟨rfl,rfl,fun {status} member ok => ?_⟩ id
    cases mem_singleton.mp member
    contradiction

/-- Which record is in the writer's hands. -/
def Carries (inHand : Option PendingRecord) : WriterPhase → Prop
  | .holding record => inHand = some record
  | .wrote size => ∃ record bytes, inHand = some record ∧ serializeRecord record = .ok bytes ∧ bytes.length = size
  | .failing _ => ∃ record, inHand = some record
  | .looping | .closing | .finished => inHand = none

/-- How many records the writer has taken out and neither counted nor given up. -/
def WriterPhase.hands : WriterPhase → Nat
  | .holding _ | .wrote _ | .failing _ => 1
  | .looping | .closing | .finished => 0

/-- How many bytes the record takes in the file. -/
def serializedSize (record : PendingRecord) : Nat :=
  match serializeRecord record with
  | .ok bytes => bytes.length
  | .error _ => 0

structure Books (tally : Tally) (history : List Event) (ledger : Ledger) : Prop where
  conserved : ledger.accepted = ledger.written ++ ledger.inHand.toList ++ tally.queue ++ ledger.lost
  carries : Carries ledger.inHand tally.writer
  recorded : ledger.accepted.map PendingRecord.input = accepted history
  acceptedRecords : tally.acceptedRecords = ledger.accepted.length
  writtenRecords : tally.writtenRecords = ledger.written.length
  droppedRecords : tally.droppedRecords = ledger.lost.length + history.countP Event.dropped
  queueDepth : tally.queueDepth = tally.queue.length
  room : tally.queue.length ≤ tally.capacity
  bytesWritten : tally.bytesWritten = 40 + (ledger.written.map serializedSize).sum
  writerStatus : tally.writerStatus.ok = true ∨ tally.writerStatus.code = .transportError
  broken : tally.writerStatus.ok = false → tally.stopping = true
  lost : ledger.lost ≠ [] → tally.writerStatus.ok = false ∧ (tally.writer = .closing ∨ tally.writer = .finished)
  drained : tally.writer = .closing ∨ tally.writer = .finished → tally.queue = [] ∧ tally.stopping = true
  finished : tally.writerFinished = true → tally.writer = .finished
  stopped : .stopped status ∈ history → status.ok = true →
    tally.writerFinished = true ∧ tally.writerStatus.ok = true

theorem accepted_append (history seen : List Event) :
    accepted (history ++ seen) = accepted history ++ accepted seen :=
  filterMap_append

theorem Books.unlost (books : Books tally history ledger) (sound : tally.writerStatus.ok = true) :
    ledger.lost = [] := by
  by_contra lost
  simp [(books.lost lost).1] at sound

theorem Books.working (books : Books tally history ledger)
    (working : tally.writer ≠ .closing ∧ tally.writer ≠ .finished) :
    ledger.lost = [] ∧ tally.writerFinished = false := by
  constructor
  · by_contra lost
    rcases (books.lost lost).2 with closing | finished
    · exact working.1 closing
    · exact working.2 finished
  · exact Bool.eq_false_iff.mpr fun done => working.2 (books.finished done)

section

variable (books : Books before history ledger)

include books

theorem Books.still (quiet : Quiet before seen) (stays : before.stopping = true → stopping = true) :
    Books { before with stopping := stopping } (history ++ seen) ledger :=
  { books with
    recorded := by rw [books.recorded,accepted_append,quiet.accepted,append_nil]
    droppedRecords := by rw [countP_append,quiet.dropped]; exact books.droppedRecords
    broken := fun broken => stays (books.broken broken)
    drained := fun ended => ⟨(books.drained ended).1,stays (books.drained ended).2⟩
    stopped := fun member ok => (mem_append.mp member).elim (fun old => books.stopped old ok)
      (fun new => quiet.stopped new ok) }

theorem Books.admits (record : PendingRecord) (live : before.stopping = false) (sound : before.writerStatus.ok = true)
    (room : before.queue.length < before.capacity) :
    Books { before with
      queue := before.queue ++ [record]
      acceptedRecords := before.acceptedRecords + 1
      queueDepth := (before.queue ++ [record]).length } (history ++ [.recorded record.input .success])
      { ledger with accepted := ledger.accepted ++ [record] } := by
  have unlost := books.unlost sound
  exact { books with
    conserved := by simp [books.conserved,unlost]
    recorded := by
      rw [accepted_success,← books.recorded]
      exact map_append
    acceptedRecords := by simp [books.acceptedRecords]
    droppedRecords := by simpa [Event.dropped,Status.success] using books.droppedRecords
    queueDepth := rfl
    room := by simpa using Nat.succ_le_of_lt room
    drained := fun ended => by simp [(books.drained ended).2] at live
    stopped := fun member ok => books.stopped (by simpa using member) ok }

theorem Books.drops (input : RecordInput) (code : status.code = .dropped) :
    Books { before with droppedRecords := before.droppedRecords + 1 } (history ++ [.recorded input status])
      ledger := by
  have failed : status.ok = false := by simp [Status.ok,code]
  exact { books with
    recorded := by rw [books.recorded,accepted_failed _ _ failed]
    droppedRecords := by
      simp [books.droppedRecords,Event.dropped,code]
      rfl
    stopped := fun member ok => books.stopped (by simpa using member) ok }

theorem Books.onward (working : before.writer ≠ .closing ∧ before.writer ≠ .finished)
    (still : phase ≠ .closing ∧ phase ≠ .finished) (carries : Carries ledger.inHand phase) :
    Books { before with writer := phase } history ledger := by
  obtain ⟨unlost,unfinished⟩ := books.working working
  exact { books with
    carries := carries
    lost := fun lost => absurd unlost lost
    drained := fun ended => absurd ended (not_or.mpr still)
    finished := fun done => by simp [unfinished] at done }

theorem Books.popped (phase : before.writer = .looping) (queued : before.queue = record :: queue) :
    Books { before with queue := queue, writer := .holding record, queueDepth := queue.length } history
      { ledger with inHand := some record } := by
  have idle : ledger.inHand = none := by simpa [Carries,phase] using books.carries
  obtain ⟨unlost,unfinished⟩ := books.working (by simp [phase])
  have room := books.room
  rw [queued] at room
  exact { books with
    conserved := by simp [books.conserved,idle,queued]
    carries := rfl
    queueDepth := rfl
    room := Nat.le_of_succ_le room
    lost := fun lost => absurd unlost lost
    drained := fun ended => by simp at ended
    finished := fun done => by simp [unfinished] at done }

theorem Books.accounted (phase : before.writer = .wrote size) :
    Books { before with
      writer := .looping
      writtenRecords := before.writtenRecords + 1
      bytesWritten := before.bytesWritten + size } history
      { ledger with written := ledger.written ++ ledger.inHand.toList, inHand := none } := by
  obtain ⟨record,bytes,held,serialized,rfl⟩ : ∃ record bytes, ledger.inHand = some record ∧
      serializeRecord record = .ok bytes ∧ bytes.length = size := by simpa [Carries,phase] using books.carries
  obtain ⟨unlost,unfinished⟩ := books.working (by simp [phase])
  exact { books with
    conserved := by simp [books.conserved,held]
    carries := rfl
    writtenRecords := by simp [books.writtenRecords,held]
    bytesWritten := by
      simp [books.bytesWritten,held,serializedSize,serialized]
      omega
    lost := fun lost => absurd unlost lost
    drained := fun ended => by simp at ended
    finished := fun done => by simp [unfinished] at done }

theorem Books.failed (phase : before.writer = .failing detail) :
    Books { before with
      queue := []
      writer := .closing
      stopping := true
      writerStatus := ⟨.transportError,detail⟩
      droppedRecords := before.droppedRecords + before.queue.length + 1
      queueDepth := 0 } history
      { ledger with lost := ledger.lost ++ ledger.inHand.toList ++ before.queue, inHand := none } := by
  obtain ⟨record,held⟩ : ∃ record, ledger.inHand = some record := by simpa [Carries,phase] using books.carries
  obtain ⟨unlost,unfinished⟩ := books.working (by simp [phase])
  exact { books with
    conserved := by simp [books.conserved,held,unlost]
    carries := rfl
    droppedRecords := by
      simp [books.droppedRecords,held,unlost]
      omega
    queueDepth := rfl
    room := Nat.zero_le _
    writerStatus := .inr rfl
    broken := fun _ => rfl
    lost := fun _ => ⟨rfl,.inl rfl⟩
    drained := fun _ => ⟨rfl,rfl⟩
    finished := fun done => by simp [unfinished] at done
    stopped := fun member ok => by simp [(books.stopped member ok).1] at unfinished }

theorem Books.left (phase : before.writer = .looping) (drained : before.queue = [])
    (stopping : before.stopping = true) : Books { before with writer := .closing } history ledger := by
  obtain ⟨unlost,unfinished⟩ := books.working (by simp [phase])
  exact { books with
    carries := by simpa [Carries,phase] using books.carries
    lost := fun lost => absurd unlost lost
    drained := fun _ => ⟨drained,stopping⟩
    finished := fun done => by simp [unfinished] at done }

theorem Books.ended (phase : before.writer = .closing)
    (settled : status = before.writerStatus ∨ status.code = .transportError) :
    Books { before with writer := .finished, writerFinished := true, writerStatus := status } history ledger := by
  obtain ⟨drained,stopping⟩ := books.drained (.inl phase)
  exact { books with
    carries := by simpa [Carries,phase] using books.carries
    writerStatus := settled.elim (fun same => same ▸ books.writerStatus) .inr
    broken := fun _ => stopping
    lost := fun lost => ⟨settled.elim (fun same => same ▸ (books.lost lost).1) (fun code => by
      simp [Status.ok,code]),.inr rfl⟩
    drained := fun _ => ⟨drained,stopping⟩
    finished := fun _ => rfl
    stopped := fun member ok => by simpa [phase] using books.finished (books.stopped member ok).1 }

theorem Books.tallied (tallied : Tallied before ledger tally seen post) : Books tally (history ++ seen) post := by
  have carries := books.carries
  cases tallied with
  | still _ quiet stays => exact books.still quiet stays
  | accepted record live sound room => exact books.admits record live sound room
  | dropped input _ code => exact books.drops input code
  | popped _ _ phase queued =>
    rw [append_nil]
    exact books.popped phase queued
  | wrote record bytes phase serialized =>
    have held : ledger.inHand = some record := by simpa [Carries,phase] using carries
    rw [append_nil]
    exact books.onward (by simp [phase]) (by simp) ⟨record,bytes,held,serialized,rfl⟩
  | broke record _ phase =>
    have held : ledger.inHand = some record := by simpa [Carries,phase] using carries
    rw [append_nil]
    exact books.onward (by simp [phase]) (by simp) ⟨record,held⟩
  | accounted _ phase =>
    rw [append_nil]
    exact books.accounted phase
  | failed _ phase =>
    rw [append_nil]
    exact books.failed phase
  | left phase drained stopping =>
    rw [append_nil]
    exact books.left phase drained stopping
  | finished _ phase settled =>
    rw [append_nil]
    exact books.ended phase settled

end

theorem broken_tallied (tallied : Tallied before ledger tally seen post)
    (broken : before.writerStatus.code = .transportError) :
    tally.writerStatus.code = .transportError ∧ accepted seen = [] := by
  cases tallied with
  | still _ quiet => exact ⟨broken,quiet.accepted⟩
  | accepted _ _ sound => simp [Status.ok,broken] at sound
  | dropped input status code => exact ⟨broken,by simp [accepted,Event.accepted,Status.ok,code]⟩
  | failed => exact ⟨rfl,rfl⟩
  | finished status _ settled => exact ⟨settled.elim (fun same => same ▸ broken) id,rfl⟩
  | _ => exact ⟨broken,rfl⟩

theorem Tallied.capacity (tallied : Tallied before ledger tally seen post) : tally.capacity = before.capacity := by
  cases tallied <;> rfl

theorem Books.calm (books : Books tally history ledger) : tally.writerStatus.code ≠ .dropped := by
  rcases books.writerStatus with ok | code
  · intro dropped
    simp [Status.ok,dropped] at ok
  · simp [code]

theorem create_books (created : Recorder.create config wall monotonic creation = .ok r) :
    Books ({ recorder := r } : System).tally [] {} ∧ r.config = config := by
  simp only [Recorder.create] at created
  split at created
  · contradiction
  · split at created
    · contradiction
    · split at created
      · contradiction
      · split at created
        · contradiction
        · contradiction
        · contradiction
        · cases created
          refine ⟨?_,rfl⟩
          constructor <;> simp [System.tally,Carries,accepted,buildFileHeader_length,fileHeaderBytes]

/-- What the recorder's counters say, measured against the calls that returned and the records
that the writer wrote and lost. -/
structure Accounts (config : RecorderConfig) (s : System) (history : List Event) (ledger : Ledger) : Prop where
  acceptedRecords : s.recorder.stats.acceptedRecords = (accepted history).length
  conserved : s.recorder.stats.acceptedRecords =
    s.recorder.stats.writtenRecords + s.recorder.queue.length + s.writer.hands + ledger.lost.length
  whereabouts : accepted history =
    (ledger.written ++ ledger.inHand.toList ++ s.recorder.queue ++ ledger.lost).map PendingRecord.input
  droppedRecords : s.recorder.stats.droppedRecords = ledger.lost.length + history.countP Event.dropped
  queueDepth : s.recorder.stats.queueDepth = s.recorder.queue.length
  bounded : s.recorder.stats.queueDepth ≤ config.queueCapacity
  writtenRecords : s.recorder.stats.writtenRecords = ledger.written.length
  bytesWritten : s.recorder.stats.bytesWritten = 40 + (ledger.written.map serializedSize).sum
  complete : .stopped status ∈ history → status.ok = true →
    s.recorder.stats.acceptedRecords = s.recorder.stats.writtenRecords

theorem Carries.hands (carries : Carries inHand phase) : inHand.toList.length = phase.hands := by
  cases phase <;> simp only [Carries] at carries
  case wrote size =>
    obtain ⟨record,bytes,rfl,-⟩ := carries
    rfl
  case failing detail =>
    obtain ⟨record,rfl⟩ := carries
    rfl
  all_goals
    subst carries
    rfl

theorem Books.accounts (books : Books s.tally history ledger) (capacity : s.tally.capacity = config.queueCapacity) :
    Accounts config s history ledger := by
  have accepted : s.recorder.stats.acceptedRecords = ledger.accepted.length := books.acceptedRecords
  have written : s.recorder.stats.writtenRecords = ledger.written.length := books.writtenRecords
  have total : ledger.accepted.length = ledger.written.length + s.writer.hands + s.recorder.queue.length +
      ledger.lost.length := by
    rw [books.conserved,length_append,length_append,length_append,books.carries.hands]
    rfl
  refine ⟨?_,by omega,?_,books.droppedRecords,books.queueDepth,?_,written,books.bytesWritten,
    fun {status} member ok => ?_⟩
  · rw [accepted,← books.recorded,length_map]
  · rw [← books.recorded,books.conserved]
    rfl
  · have depth : s.recorder.stats.queueDepth = s.recorder.queue.length := books.queueDepth
    have room : s.recorder.queue.length ≤ s.tally.capacity := books.room
    rw [depth,← capacity]
    exact room
  · obtain ⟨done,sound⟩ := books.stopped member ok
    have phase : s.writer = .finished := books.finished done
    have drained : s.recorder.queue = [] := (books.drained (.inr phase)).1
    rw [accepted,written,total,phase,drained,books.unlost sound]
    rfl

theorem run_books (created : Recorder.create config wall monotonic creation = .ok r)
    (ran : system.run { recorder := r } actions = some (s,history)) :
    Books s.tally history (system.notes Ledger.record { recorder := r } actions {}) ∧
      s.tally.capacity = config.queueCapacity := by
  obtain ⟨start,rfl⟩ := create_books created
  refine Machine.run_notes (motive := fun s history ledger => Books s.tally history ledger ∧
    s.tally.capacity = r.config.queueCapacity) ?_ ⟨start,rfl⟩ ran
  intro s history ledger action t seen before stepped
  have tallied := step_tallied ledger before.1.calm stepped
  exact ⟨before.1.tallied tallied,tallied.capacity.trans before.2⟩

end

/-- In every state of every recording the counters agree with what became of the records, and a
recorder whose writer has failed accepts nothing more. -/
theorem recorder_accounts (created : Recorder.create config wall monotonic creation = .ok r)
    (ran : system.run { recorder := r } actions = some (s,history)) :
    Accounts config s history (system.notes Ledger.record { recorder := r } actions {}) ∧
    ∀ later t seen, system.run s later = some (t,seen) → s.recorder.writerStatus.ok = false →
      accepted seen = [] := by
  have books := run_books created ran
  refine ⟨books.1.accounts books.2,fun later t seen continued broken => ?_⟩
  have code : s.tally.writerStatus.code = .transportError :=
    books.1.writerStatus.resolve_left fun ok => Bool.false_ne_true (broken.symm.trans ok)
  refine (Machine.run_invariant (motive := fun (s : System) seen =>
    s.tally.writerStatus.code = .transportError ∧ accepted seen = []) ?_ ⟨code,rfl⟩ continued).2
  intro s past action t seen before stepped
  have tallied := step_tallied {} (by rw [show s.recorder.writerStatus.code = _ from before.1]; decide) stepped
  obtain ⟨still,silent⟩ := broken_tallied tallied before.1
  exact ⟨still,by rw [accepted_append,before.2,silent]; rfl⟩

def lossyConfig : RecorderConfig where
  path := [116]
  queueCapacity := 1
  overflowPolicy := .dropNewest

/-- Three records: the first is in the writer's hands when its write fails, the second one waits
in the queue, and the third finds the queue full. -/
def lossySchedule : List Action :=
  [.record (sampleInput 1) none 101,.enter 0,.pop,.record (sampleInput 2) none 102,.enter 1,
    .record (sampleInput 3) none 103,.enter 2,.write [.wrote 7,.failed "disk full"],.fail,
    .record (sampleInput 4) none 104,.enter 3]

set_option maxRecDepth 4000

theorem recorder_accounts_sample : ∃ r s history,
    Recorder.create lossyConfig 7 100 .created = .ok r ∧
    system.run { recorder := r } lossySchedule = some (s,history) ∧
    s.recorder.stats.acceptedRecords = 2 ∧ s.recorder.stats.droppedRecords = 3 ∧
    s.recorder.stats.bytesWritten = 40 ∧ s.recorder.writerStatus.ok = false ∧
    Accounts lossyConfig s history (system.notes Ledger.record { recorder := r } lossySchedule {}) := by
  obtain ⟨r,created⟩ : ∃ r, Recorder.create lossyConfig 7 100 .created = .ok r := ⟨_,rfl⟩
  obtain ⟨s,history,ran,accepted,dropped,bytes,broken⟩ : ∃ s history,
      system.run { recorder := r } lossySchedule = some (s,history) ∧ s.recorder.stats.acceptedRecords = 2 ∧
      s.recorder.stats.droppedRecords = 3 ∧ s.recorder.stats.bytesWritten = 40 ∧
      s.recorder.writerStatus.ok = false := by
    cases created
    exact ⟨_,_,rfl,rfl,rfl,rfl,rfl⟩
  exact ⟨r,s,history,created,ran,accepted,dropped,bytes,broken,(recorder_accounts created ran).1⟩

end AutoRuntime.Trace.Recording
