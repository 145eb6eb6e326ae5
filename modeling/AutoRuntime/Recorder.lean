import AutoRuntime.Machine
import AutoRuntime.TraceFormat

/-! The recorder. Callers of `Record` put records in a bounded queue, one writer thread takes them
out and appends them to the file, and `Stop` waits for the writer. Each section under the lock is
one step; clock readings, what the system calls answer and the exceptions the source catches are
inputs. Memory suffices for the queue itself. -/
namespace AutoRuntime.Trace

inductive RecorderOverflowPolicy where
  | block | dropNewest
  deriving DecidableEq, Repr

structure RecorderConfig where
  path : Bytes
  queueCapacity : Nat := 1024
  limits : TraceLimits := {}
  overflowPolicy : RecorderOverflowPolicy := .block
  enqueueTimeout : Int := 100000000
  synchronizeOnStop : Bool := true
  deriving DecidableEq, Repr

structure RecorderStats where
  acceptedRecords : Nat := 0
  writtenRecords : Nat := 0
  droppedRecords : Nat := 0
  enqueueTimeouts : Nat := 0
  ioErrors : Nat := 0
  bytesWritten : Nat := 0
  queueDepth : Nat := 0
  queueHighWatermark : Nat := 0
  stopping : Bool := false
  stopped : Bool := false
  deriving DecidableEq, Repr

/-- The arguments of `Record`. -/
structure RecordInput where
  channel : Bytes
  messageType : Bytes
  message : Message
  deriving DecidableEq, Repr

structure Recorder where
  config : RecorderConfig
  wallClockStartNs : UInt64
  monotonicStartNs : UInt64
  file : Bytes
  queue : List PendingRecord := []
  nextRecordSequence : UInt64 := 1
  lastRecordOffsetNs : UInt64 := 0
  stopping : Bool := false
  writerFinished : Bool := false
  writerStatus : Status := .success
  stats : RecorderStats := {}
  deriving DecidableEq, Repr

inductive WriteAnswer where
  | wrote (count : Nat)
  | interrupted
  | failed (text : String)
  deriving DecidableEq, Repr

/-- The file and the status after these answers of `write`; none if they do not end the loop, or
promise more than was asked for. -/
def writeAll (file : Bytes) : Bytes → List WriteAnswer → Option (Bytes × Status)
  | [], [] => some (file,.success)
  | [], _ :: _ => none
  | _ :: _, [] => none
  | byte :: bytes, .interrupted :: answers => writeAll file (byte :: bytes) answers
  | _ :: _, .failed text :: answers =>
    if answers.isEmpty then some (file,⟨.transportError,"write trace failed: " ++ text⟩) else none
  | _ :: _, .wrote 0 :: answers =>
    if answers.isEmpty then some (file,⟨.transportError,"write trace made no progress"⟩) else none
  | byte :: bytes, .wrote (count + 1) :: answers =>
    if count > bytes.length then none
    else writeAll (file ++ (byte :: bytes).take (count + 1)) (bytes.drop count) answers

/-- How making the file, writing its header and starting the thread went. -/
inductive Creation where
  | alreadyExists
  | systemError (what : String)
  | exception (what : String)
  | created
  deriving DecidableEq, Repr

def Recorder.create (config : RecorderConfig) (wallClockStartNs monotonicStartNs : UInt64)
    (creation : Creation) : Result Recorder :=
  if config.path.isEmpty || config.queueCapacity = 0 then
    .error ⟨.invalidArgument,"recorder requires a path and nonzero queue capacity"⟩
  else
    let limitsStatus := validateLimits config.limits
    if !limitsStatus.ok then .error limitsStatus
    else if config.overflowPolicy = .block && config.enqueueTimeout ≤ 0 then
      .error ⟨.invalidArgument,"blocking recorder requires a positive enqueue timeout"⟩
    else
      match creation with
      | .alreadyExists => .error ⟨.alreadyExists,"trace output already exists"⟩
      | .systemError what => .error ⟨.transportError,what⟩
      | .exception what => .error ⟨.transportError,"create recorder failed: " ++ what⟩
      | .created =>
        let header := buildFileHeader wallClockStartNs monotonicStartNs
        .ok {
          config := config
          wallClockStartNs := wallClockStartNs
          monotonicStartNs := monotonicStartNs
          file := header
          stats := { bytesWritten := header.length } }

/-- The checks on the arguments, and the copy, which may throw. -/
def Recorder.validate (r : Recorder) (input : RecordInput) (copyError : Option String) : Option Status :=
  if input.channel.isEmpty || input.messageType.isEmpty then
    some ⟨.invalidArgument,"trace record requires channel and message type"⟩
  else if input.channel.length > r.config.limits.maxChannelBytes ||
      input.messageType.length > r.config.limits.maxMessageTypeBytes ||
      input.message.payload.length > r.config.limits.maxPayloadBytes then
    some ⟨.invalidArgument,"trace record exceeds configured limits"⟩
  else copyError.map fun what => ⟨.internal,"copy trace record failed: " ++ what⟩

/-- Why the recorder takes no more records. -/
def Recorder.refusal (r : Recorder) : Option Status :=
  if r.stopping then some ⟨.closed,"recorder is stopping"⟩
  else if !r.writerStatus.ok then some r.writerStatus
  else none

def Recorder.full (r : Recorder) : Bool := r.queue.length ≥ r.config.queueCapacity

/-- A copied record with the time it was captured at, before the lock. -/
structure Capture where
  input : RecordInput
  captureNow : UInt64
  deriving DecidableEq, Repr

def Recorder.push (r : Recorder) (capture : Capture) : Recorder :=
  let capturedOffset :=
    if capture.captureNow ≥ r.monotonicStartNs then capture.captureNow - r.monotonicStartNs else 0
  let offset := max capturedOffset r.lastRecordOffsetNs
  let record : PendingRecord := ⟨r.nextRecordSequence,offset,capture.input.channel,
    capture.input.messageType,capture.input.message⟩
  let queue := r.queue ++ [record]
  { r with
    lastRecordOffsetNs := offset
    nextRecordSequence := r.nextRecordSequence + 1
    queue := queue
    stats := { r.stats with
      acceptedRecords := r.stats.acceptedRecords + 1
      queueDepth := queue.length
      queueHighWatermark := max r.stats.queueHighWatermark queue.length } }

/-- What `Record` does once it holds the lock; no status if it has to wait for room. -/
def Recorder.enter (r : Recorder) (capture : Capture) : Option Status × Recorder :=
  match r.refusal with
  | some status => (some status,r)
  | none =>
    if r.full then
      match r.config.overflowPolicy with
      | .dropNewest =>
        (some ⟨.dropped,"recorder queue is full"⟩,
          { r with stats := { r.stats with droppedRecords := r.stats.droppedRecords + 1 } })
      | .block => (none,r)
    else (some .success,r.push capture)

/-- The wait is over because its predicate holds. -/
def Recorder.wake (r : Recorder) (capture : Capture) : Option (Status × Recorder) :=
  match r.refusal with
  | some status => some (status,r)
  | none => if r.full then none else some (.success,r.push capture)

/-- The wait is over although its predicate does not hold. -/
def Recorder.expire (r : Recorder) : Option (Status × Recorder) :=
  if r.refusal = none && r.full then
    some (⟨.timeout,"recorder queue wait timed out"⟩,
      { r with stats := { r.stats with enqueueTimeouts := r.stats.enqueueTimeouts + 1 } })
  else none

def Recorder.failWriter (r : Recorder) (detail : String) : Recorder :=
  { r with
    queue := []
    writerStatus := ⟨.transportError,detail⟩
    stopping := true
    stats := { r.stats with
      ioErrors := r.stats.ioErrors + 1
      droppedRecords := r.stats.droppedRecords + r.queue.length + 1
      queueDepth := 0
      stopping := true } }

/-- The end of the writer, with the errors of `fsync` and `close`. -/
def Recorder.finish (r : Recorder) (syncError closeError : Option String) : Recorder :=
  let synchronizationError := if r.config.synchronizeOnStop then syncError else none
  let r := match r.writerStatus.ok, synchronizationError.or closeError with
    | true, some text => { r with
        writerStatus := ⟨.transportError,"synchronize trace output failed: " ++ text⟩
        stats := { r.stats with ioErrors := r.stats.ioErrors + 1 } }
    | _, _ => r
  { r with
    writerFinished := true
    stats := { r.stats with stopped := true, stopping := true } }

def Recorder.beginStop (r : Recorder) : Recorder :=
  if r.stopping then r else { r with stopping := true, stats := { r.stats with stopping := true } }

namespace Recording

inductive CallPhase where
  | captured (capture : Capture)
  | waiting (capture : Capture)
  | returned
  deriving DecidableEq, Repr

inductive WriterPhase where
  | looping
  | holding (record : PendingRecord)
  | wrote (size : Nat)
  | failing (detail : String)
  | closing
  | finished
  deriving DecidableEq, Repr

/-- A call of `Stop` waits for the other calls of `Stop`, then for the writer. -/
inductive StopPhase where
  | joining (deadline : Deadline)
  | waiting (deadline : Deadline)
  | returned
  deriving DecidableEq, Repr

def StopPhase.holdsJoin : StopPhase → Bool
  | .waiting _ => true
  | _ => false

structure System where
  recorder : Recorder
  writer : WriterPhase := .looping
  calls : List CallPhase := []
  stops : List StopPhase := []
  deriving DecidableEq, Repr

inductive Action where
  | record (input : RecordInput) (copyError : Option String) (captureNow : UInt64)
  | enter (call : Nat)
  | wake (call : Nat)
  | expire (call : Nat)
  | pop
  | write (answers : List WriteAnswer)
  | serializeFails (what : Option String)
  | account
  | fail
  | leave
  | finish (syncError closeError : Option String)
  | stop (deadline : Deadline)
  | join (call : Nat)
  | flushed (call : Nat)
  | flushExpires (call : Nat)
  deriving DecidableEq, Repr

/-- A `Record` call is over with its last section: after it the call only notifies. -/
inductive Event where
  | recorded (input : RecordInput) (status : Status)
  | stopped (status : Status)
  deriving DecidableEq, Repr

def System.close (s : System) (call : Nat) (r : Recorder) : System :=
  { s with recorder := r, calls := s.calls.set call .returned }

def System.pop (s : System) : Option System :=
  match s.writer, s.recorder.queue with
  | .looping, record :: queue => some { s with
      writer := .holding record
      recorder := { s.recorder with
        queue := queue
        stats := { s.recorder.stats with queueDepth := queue.length } } }
  | _, _ => none

def System.write (s : System) (answers : List WriteAnswer) : Option System :=
  match s.writer with
  | .holding record =>
    match serializeRecord record with
    | .error what => if answers.isEmpty then
        some { s with writer := .failing ("serialize trace record failed: " ++ what) } else none
    | .ok serialized =>
      match writeAll s.recorder.file serialized answers with
      | none => none
      | some (file,status) => some { s with
          recorder := { s.recorder with file := file }
          writer := if status.ok then .wrote serialized.length else .failing status.detail }
  | _ => none

/-- Serializing runs out of memory, or throws something that is no `std::exception`. -/
def System.serializeFails (s : System) (what : Option String) : Option System :=
  match s.writer with
  | .holding _ => some { s with
      writer := .failing (match what with
        | some what => "serialize trace record failed: " ++ what
        | none => "serialize trace record failed") }
  | _ => none

def System.account (s : System) : Option System :=
  match s.writer with
  | .wrote size => some { s with
      writer := .looping
      recorder := { s.recorder with
        stats := { s.recorder.stats with
          writtenRecords := s.recorder.stats.writtenRecords + 1
          bytesWritten := s.recorder.stats.bytesWritten + size } } }
  | _ => none

def step (s : System) : Action → Option (System × List Event)
  | .record input copyError captureNow =>
    match s.recorder.validate input copyError with
    | some status => some (s,[.recorded input status])
    | none => some ({ s with calls := s.calls ++ [.captured ⟨input,captureNow⟩] },[])
  | .enter call =>
    match s.calls[call]? with
    | some (.captured capture) =>
      match s.recorder.enter capture with
      | (some status,r) => some (s.close call r,[.recorded capture.input status])
      | (none,_) => some ({ s with calls := s.calls.set call (.waiting capture) },[])
    | _ => none
  | .wake call =>
    match s.calls[call]? with
    | some (.waiting capture) =>
      (s.recorder.wake capture).map fun (status,r) => (s.close call r,[.recorded capture.input status])
    | _ => none
  | .expire call =>
    match s.calls[call]? with
    | some (.waiting capture) =>
      s.recorder.expire.map fun (status,r) => (s.close call r,[.recorded capture.input status])
    | _ => none
  | .pop => s.pop.map (·,[])
  | .write answers => (s.write answers).map (·,[])
  | .serializeFails what => (s.serializeFails what).map (·,[])
  | .account => s.account.map (·,[])
  | .fail =>
    match s.writer with
    | .failing detail => some ({ s with recorder := s.recorder.failWriter detail, writer := .closing },[])
    | _ => none
  | .leave =>
    if s.writer = .looping && s.recorder.queue.isEmpty && s.recorder.stopping then
      some ({ s with writer := .closing },[])
    else none
  | .finish syncError closeError =>
    if s.writer = .closing then
      some ({ s with recorder := s.recorder.finish syncError closeError, writer := .finished },[])
    else none
  | .stop deadline => some ({ s with stops := s.stops ++ [.joining deadline] },[])
  | .join call =>
    match s.stops[call]? with
    | some (.joining deadline) =>
      if s.stops.any StopPhase.holdsJoin then none
      else
        let r := s.recorder.beginStop
        if r.writerFinished then
          some ({ s with recorder := r, stops := s.stops.set call .returned },[.stopped r.writerStatus])
        else some ({ s with recorder := r, stops := s.stops.set call (.waiting deadline) },[])
    | _ => none
  | .flushed call =>
    match s.stops[call]? with
    | some (.waiting _) =>
      if s.recorder.writerFinished then
        some ({ s with stops := s.stops.set call .returned },[.stopped s.recorder.writerStatus])
      else none
    | _ => none
  | .flushExpires call =>
    match s.stops[call]? with
    | some (.waiting deadline) =>
      if !s.recorder.writerFinished && !deadline.isInfinite then
        some ({ s with stops := s.stops.set call .returned },
          [.stopped ⟨.timeout,"recorder flush deadline expired"⟩])
      else none
    | _ => none

def system : Machine System Action Event := ⟨step⟩

end Recording

end AutoRuntime.Trace
