import AutoRuntime.Recorder
import AutoRuntime.TraceRoundTrip

/-! What each step of a recording can do, and what the file and the queue hold along every run. -/
namespace AutoRuntime.Trace

/-- A section of `Record` turns the record away, drops it or puts it in the queue. -/
inductive Answered (r : Recorder) (capture : Capture) : Status → Recorder → Prop where
  | refused (failed : status.ok = false) (told : status.code ≠ .dropped ∨ status = r.writerStatus) :
      Answered r capture status r
  | dropped (code : status.code = .dropped) : Answered r capture status
      { r with stats := { r.stats with droppedRecords := r.stats.droppedRecords + 1 } }
  | accepted (live : r.stopping = false) (sound : r.writerStatus.ok = true)
      (room : r.queue.length < r.config.queueCapacity) : Answered r capture .success (r.push capture)

theorem refusal_answered {r : Recorder} (refused : r.refusal = some status) (capture : Capture) :
    Answered r capture status r := by
  simp only [Recorder.refusal] at refused
  split at refused
  · cases refused
    exact .refused rfl (.inl (by decide))
  · split at refused
    next failed =>
      cases refused
      exact .refused (by simpa using failed) (.inr rfl)
    · contradiction

theorem push_answered {r : Recorder} (accepts : r.refusal = none) (room : ¬r.full = true) (capture : Capture) :
    Answered r capture .success (r.push capture) := by
  simp only [Recorder.refusal] at accepts
  split at accepts
  · contradiction
  next running =>
    split at accepts
    · contradiction
    next sound => exact .accepted (by simpa using running) (by simpa using sound) (by simpa [Recorder.full] using room)

theorem enter_answered {r : Recorder} (entered : r.enter capture = (some status,t)) :
    Answered r capture status t := by
  simp only [Recorder.enter] at entered
  split at entered
  next refused =>
    cases entered
    exact refusal_answered refused capture
  next accepts =>
    split at entered
    · split at entered
      · cases entered
        exact .dropped rfl
      · cases entered
    next room =>
      cases entered
      exact push_answered accepts room capture

theorem wake_answered {r : Recorder} (woke : r.wake capture = some (status,t)) :
    Answered r capture status t := by
  simp only [Recorder.wake] at woke
  split at woke
  next refused =>
    cases woke
    exact refusal_answered refused capture
  next accepts =>
    split at woke
    · contradiction
    next room =>
      cases woke
      exact push_answered accepts room capture

theorem expire_eq {r : Recorder} (expired : r.expire = some (status,t)) :
    status = ⟨.timeout,"recorder queue wait timed out"⟩ ∧
      t = { r with stats := { r.stats with enqueueTimeouts := r.stats.enqueueTimeouts + 1 } } := by
  simp only [Recorder.expire] at expired
  split at expired
  · cases expired
    exact ⟨rfl,rfl⟩
  · contradiction

/-- What `Record` lets through to the queue. -/
def RecordInput.Fits (limits : TraceLimits) (input : RecordInput) : Prop :=
  ∀ sequence offset,
    PendingRecord.Fits limits ⟨sequence,offset,input.channel,input.messageType,input.message⟩

theorem validate_failed {r : Recorder} (refused : r.validate input copyError = some status) :
    status.ok = false ∧ status.code ≠ .dropped := by
  simp only [Recorder.validate] at refused
  split at refused
  · cases refused
    decide
  · split at refused
    · cases refused
      decide
    · obtain ⟨what,_,rfl⟩ := Option.map_eq_some_iff.mp refused
      exact ⟨rfl,by simp⟩

theorem validate_fits {r : Recorder} (valid : r.validate input copyError = none) :
    input.Fits r.config.limits := by
  simp only [Recorder.validate] at valid
  split at valid
  · contradiction
  next named =>
    split at valid
    · contradiction
    next small =>
      simp only [Bool.or_eq_true,List.isEmpty_iff,not_or] at named
      simp only [Bool.or_eq_true,decide_eq_true_eq,not_or,not_lt] at small
      exact fun _ _ => ⟨named.1,named.2,small.1.1,small.1.2,small.2⟩

theorem writeAll_ok (wrote : writeAll file bytes answers = some (after,status)) (ok : status.ok) :
    after = file ++ bytes := by
  fun_induction writeAll file bytes answers with
  | case1 => simp_all
  | case2 | case3 | case6 | case8 | case9 => contradiction
  | case4 file byte bytes answers ih => exact ih wrote
  | case5 | case7 => cases wrote; contradiction
  | case10 file byte bytes count answers small ih =>
    rw [ih wrote,List.append_assoc,List.take_succ_cons,List.cons_append,List.take_append_drop]

namespace Recording

def CallPhase.capture : CallPhase → Option Capture
  | .captured capture | .waiting capture => some capture
  | .returned => none

inductive Took (s : System) : Action → System → List Event → Prop where
  | rejected (failed : status.ok = false) (kept : status.code ≠ .dropped) :
      Took s (.record input copyError captureNow) s [.recorded input status]
  | arrived {input : RecordInput} (fits : input.Fits s.recorder.config.limits) :
      Took s (.record input copyError captureNow) { s with calls := s.calls ++ [.captured ⟨input,captureNow⟩] } []
  | waits (phase : s.calls[call]? = some (.captured capture)) :
      Took s (.enter call) { s with calls := s.calls.set call (.waiting capture) } []
  | answered {phase : CallPhase} (atCall : s.calls[call]? = some phase) (pending : phase.capture = some capture)
      (answered : Answered s.recorder capture status r) (enters : action = .enter call ∨ action = .wake call) :
      Took s action (s.close call r) [.recorded capture.input status]
  | expired (phase : s.calls[call]? = some (.waiting capture)) (timeouts : Nat) (failed : status.ok = false)
      (kept : status.code ≠ .dropped) : Took s (.expire call)
      (s.close call { s.recorder with stats := { s.recorder.stats with enqueueTimeouts := timeouts } })
      [.recorded capture.input status]
  | popped (phase : s.writer = .looping) (queued : s.recorder.queue = record :: queue) :
      Took s .pop { s with
        writer := .holding record
        recorder := { s.recorder with
          queue := queue, stats := { s.recorder.stats with queueDepth := queue.length } } } []
  | wrote (phase : s.writer = .holding record) (serialized : serializeRecord record = .ok bytes) :
      Took s (.write answers) { s with
        writer := .wrote bytes.length
        recorder := { s.recorder with file := s.recorder.file ++ bytes } } []
  | broke (phase : s.writer = .holding record) (file : Bytes) (detail : String)
      (writes : (∃ answers, action = .write answers) ∨ ∃ what, action = .serializeFails what) :
      Took s action { s with writer := .failing detail, recorder := { s.recorder with file := file } } []
  | accounted (phase : s.writer = .wrote size) :
      Took s .account { s with
        writer := .looping
        recorder := { s.recorder with stats := { s.recorder.stats with
          writtenRecords := s.recorder.stats.writtenRecords + 1
          bytesWritten := s.recorder.stats.bytesWritten + size } } } []
  | failed (phase : s.writer = .failing detail) :
      Took s .fail { s with recorder := s.recorder.failWriter detail, writer := .closing } []
  | left (phase : s.writer = .looping) (drained : s.recorder.queue = []) (stopping : s.recorder.stopping = true) :
      Took s .leave { s with writer := .closing } []
  | finished (phase : s.writer = .closing) : Took s (.finish syncError closeError)
      { s with recorder := s.recorder.finish syncError closeError, writer := .finished } []
  | stopArrived : Took s (.stop deadline) { s with stops := stops } []
  | stopWaits : Took s (.join call) { s with recorder := s.recorder.beginStop, stops := stops } []
  | stopped (done : s.recorder.writerFinished = true) :
      Took s (.flushed call) { s with stops := stops } [.stopped s.recorder.writerStatus]
  | stoppedLate (done : s.recorder.writerFinished = true) : Took s (.join call)
      { s with recorder := s.recorder.beginStop, stops := stops } [.stopped s.recorder.writerStatus]
  | stopExpired : Took s (.flushExpires call) { s with stops := stops } [.stopped ⟨.timeout,detail⟩]

theorem beginStop_writer (r : Recorder) :
    r.beginStop.writerFinished = r.writerFinished ∧ r.beginStop.writerStatus = r.writerStatus := by
  simp only [Recorder.beginStop]
  split <;> exact ⟨rfl,rfl⟩

variable {s : System}

theorem pop_took (popped : s.pop = some t) : Took s .pop t [] := by
  simp only [System.pop] at popped
  split at popped
  next phase queued =>
    cases popped
    exact .popped phase queued
  · contradiction

theorem write_took (wrote : s.write answers = some t) : Took s (.write answers) t [] := by
  simp only [System.write] at wrote
  split at wrote
  next record phase =>
    split at wrote
    · split at wrote
      · cases wrote
        exact .broke phase s.recorder.file _ (.inl ⟨_,rfl⟩)
      · contradiction
    next bytes serialized =>
      split at wrote
      · contradiction
      next file status written =>
        cases wrote
        cases ok : status.ok with
        | true =>
          obtain rfl := writeAll_ok written ok
          exact .wrote phase serialized
        | false => exact .broke phase file status.detail (.inl ⟨_,rfl⟩)
  · contradiction

theorem record_took (stepped : step s (.record input copyError captureNow) = some (t,emitted)) :
    Took s (.record input copyError captureNow) t emitted := by
  simp only [step] at stepped
  split at stepped
  next refused =>
    cases stepped
    exact .rejected (validate_failed refused).1 (validate_failed refused).2
  next valid =>
    cases stepped
    exact .arrived (validate_fits valid)

theorem enter_took (stepped : step s (.enter call) = some (t,emitted)) : Took s (.enter call) t emitted := by
  simp only [step] at stepped
  split at stepped
  next capture phase =>
    split at stepped
    next entered =>
      cases stepped
      exact .answered phase rfl (enter_answered entered) (.inl rfl)
    next =>
      cases stepped
      exact .waits phase
  · contradiction

theorem serializeFails_took (failed : s.serializeFails what = some t) : Took s (.serializeFails what) t [] := by
  simp only [System.serializeFails] at failed
  split at failed
  next phase =>
    cases failed
    exact .broke phase s.recorder.file _ (.inr ⟨_,rfl⟩)
  · contradiction

theorem account_took (accounted : s.account = some t) : Took s .account t [] := by
  simp only [System.account] at accounted
  split at accounted
  next phase =>
    cases accounted
    exact .accounted phase
  · contradiction

/-- The writer's steps that the model writes down as functions of their own. -/
theorem writer_took {next : Option System} (took : ∀ t, next = some t → Took s action t [])
    (stepped : next.map (·,([] : List Event)) = some (t,emitted)) : Took s action t emitted := by
  obtain ⟨u,moved,same⟩ := Option.map_eq_some_iff.mp stepped
  cases same
  exact took _ moved

theorem join_took (stepped : step s (.join call) = some (t,emitted)) : Took s (.join call) t emitted := by
  simp only [step] at stepped
  split at stepped
  · split at stepped
    · contradiction
    · split at stepped
      next done =>
        cases stepped
        rw [(beginStop_writer s.recorder).2]
        exact .stoppedLate ((beginStop_writer s.recorder).1 ▸ done)
      · cases stepped
        exact .stopWaits
  · contradiction

theorem flushed_took (stepped : step s (.flushed call) = some (t,emitted)) : Took s (.flushed call) t emitted := by
  simp only [step] at stepped
  split at stepped
  · split at stepped
    next done =>
      cases stepped
      exact .stopped done
    · contradiction
  · contradiction

theorem flushExpires_took (stepped : step s (.flushExpires call) = some (t,emitted)) :
    Took s (.flushExpires call) t emitted := by
  simp only [step] at stepped
  split at stepped
  · split at stepped
    · cases stepped
      exact .stopExpired
    · contradiction
  · contradiction

theorem step_took (stepped : step s action = some (t,emitted)) : Took s action t emitted := by
  cases action with
  | record => exact record_took stepped
  | enter => exact enter_took stepped
  | wake =>
    simp only [step] at stepped
    split at stepped
    next capture phase =>
      obtain ⟨⟨status,r⟩,woke,same⟩ := Option.map_eq_some_iff.mp stepped
      cases same
      exact .answered phase rfl (wake_answered woke) (.inr rfl)
    · contradiction
  | expire =>
    simp only [step] at stepped
    split at stepped
    next capture phase =>
      obtain ⟨⟨status,r⟩,expired,same⟩ := Option.map_eq_some_iff.mp stepped
      cases same
      obtain ⟨rfl,rfl⟩ := expire_eq expired
      exact .expired phase _ rfl (by simp)
    · contradiction
  | pop => exact writer_took (fun _ => pop_took) stepped
  | write => exact writer_took (fun _ => write_took) stepped
  | serializeFails => exact writer_took (fun _ => serializeFails_took) stepped
  | account => exact writer_took (fun _ => account_took) stepped
  | fail =>
    simp only [step] at stepped
    split at stepped
    next phase =>
      cases stepped
      exact .failed phase
    · contradiction
  | leave =>
    simp only [step] at stepped
    split at stepped
    next leaves =>
      cases stepped
      simp only [Bool.and_eq_true,decide_eq_true_eq,List.isEmpty_iff] at leaves
      exact .left leaves.1.1 leaves.1.2 leaves.2
    · contradiction
  | finish =>
    simp only [step] at stepped
    split at stepped
    next phase =>
      cases stepped
      exact .finished phase
    · contradiction
  | stop =>
    cases stepped
    exact .stopArrived
  | join => exact join_took stepped
  | flushed => exact flushed_took stepped
  | flushExpires => exact flushExpires_took stepped

end Recording

end AutoRuntime.Trace
