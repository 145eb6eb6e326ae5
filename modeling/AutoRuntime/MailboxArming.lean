import AutoRuntime.MailboxTokens

/-! When a raised flag means something. A mailbox whose re-notifications find room in their
callback group, and whose refused callers lower the flag, never leaves the flag up with
nothing on its way. -/
namespace AutoRuntime.Mailbox

open List Pool

variable {c : Component}

/-- Before `Start` nothing has passed the first section of `Enqueue`. -/
def Started (s : System c) : Prop :=
  s.port.running = false → s.port.stopping = false →
    s.runs = [] ∧ s.port.queued = 0 ∧ .notifying .sequenced ∉ s.calls

theorem added_started (state : c.State) (running : Bool) (others capacity : Nat) :
    Started (c := c) ⟨state,.added running others capacity,[],[]⟩ :=
  fun _ _ => ⟨rfl,rfl,not_mem_nil⟩

variable {s : System c}

theorem Sound.unreserved (sound : Sound s) (none : s.port.queued = 0) :
    .notifying .reserved ∉ s.calls ∧ s.port.popped = [] := by
  have account := sound.account
  constructor
  · intro member
    have counted : 0 < s.calls.countP CallPhase.reserving := countP_pos_iff.mpr ⟨_,member,rfl⟩
    omega
  · exact length_eq_zero_iff.mp (by omega)

theorem step_started (sound : Sound s) (started : Started s) (stepped : step s action = some (t,seen)) :
    Started t := by
  have nothing {run : Nat} {phase : RunPhase c.Work} (active : s.runs[run]? = some phase)
      (down : s.port.running = false) (up : s.port.stopping = false) : False := by
    simp [(started down up).1] at active
  cases step_took stepped with
  | arrived =>
    intro down up
    obtain ⟨runs,queued,calls⟩ := started down up
    refine ⟨runs,queued,?_⟩
    split <;> simp [calls]
  | @notified call progress port next active took =>
    obtain ⟨-,stopping,-,-,running⟩ := Enqueued.frame took
    intro down up
    obtain ⟨runs,queued,calls⟩ := started (running ▸ down) (stopping ▸ up)
    have member := mem_of_getElem? active
    cases took with
    | sequenced on => simp [on] at down
    | reserved | denied => exact absurd member calls
    | pushed | withdrawn => exact absurd member (sound.unreserved queued).1
    | closed _ bad =>
      refine ⟨runs,queued,fun later => ?_⟩
      rcases mem_or_eq_of_mem_set later with old | new
      · exact calls old
      · simp [CallPhase.notified,bad] at new
  | refused =>
    intro down up
    obtain ⟨runs,queued,calls⟩ := started down up
    refine ⟨runs,queued,fun later => ?_⟩
    rcases mem_or_eq_of_mem_set later with old | new
    · exact calls old
    · contradiction
  | discarded active | dispatched active =>
    intro down up
    simp [(sound.unreserved (started down up).2.1).2] at active
  | took active | proceeded active | checked active => exact fun down up => (nothing active down up).elim
  | renotified active took =>
    obtain ⟨-,stopping,-,-,running⟩ := Enqueued.frame took
    exact fun down up => (nothing active (running ▸ down) (stopping ▸ up)).elim
  | closed | cancelled | reacted => exact started
  | executor acted =>
    have drift := port_drift acted
    intro down up
    have wasUp : s.port.stopping = false := by
      rw [← Bool.not_eq_true]
      exact fun on => by simp [drift.stopping on] at up
    have wasDown : s.port.running = false := by
      rw [← Bool.not_eq_true]
      intro on
      rcases drift.started on with still | stopped
      · simp [still] at down
      · simp [stopped] at up
    exact drift.queued.symm ▸ started wasDown wasUp

theorem run_started (sound : Sound s) (started : Started s) (ran : (system c).run s actions = some (t,history)) :
    Sound t ∧ Started t :=
  Machine.run_invariant (motive := fun s _ => Sound s ∧ Started s)
    (fun _ _ _ _ _ held stepped => ⟨step_sound held.1 stepped,step_started held.1 held.2 stepped⟩)
    ⟨sound,started⟩ ran

/-- A mailbox is armed when a raised flag stands for something on its way. -/
def Armed (s : System c) : Prop :=
  c.closed s.state = false → c.scheduled s.state = true → 0 < s.tokens

/-- Nothing loses the token of an open mailbox: a refused caller lowers the flag, a re-notification
is accepted, and no job is discarded because its group is stopping. -/
def Kept (s : System c) : Action c → Prop
  | .refuse call => ∀ status, s.calls[call]? = some (.refused status) → c.closed s.state = false →
    c.scheduled (c.refused s.state call status).1 = false
  | .renotify run => ∀ progress, s.runs[run]? = some (.notifying progress) → c.closed s.state = false →
    s.port.accepts progress = true
  | .dispatch job => c.closed s.state = false → s.port.popped[job]? ≠ some true
  | _ => True

theorem renotify_keeps (sound : Sound s) (active : s.runs[run]? = some (.notifying progress))
    (took : s.port.Enqueued progress port post) (open_ : c.closed s.state = false)
    (accepts : s.port.accepts progress = true) :
    { s with port := port, runs := s.runs.set run (.notified post) : System c }.tokens = s.tokens := by
  have token := countP_set RunPhase.token s.runs active (.notified post)
  have single := sound.single
  cases took with
  | sequenced | reserved | pushed =>
    simp [RunPhase.token,RunPhase.notified,System.tokens] at token ⊢
    omega
  | closed why | withdrawn why =>
    simp only [Port.accepts,Bool.and_eq_true,Bool.not_eq_eq_eq_not,Bool.not_true] at accepts
    simp [accepts] at why
  | denied why =>
    rcases why with dead | full
    · simp [sound.cancelled dead] at open_
    · have counted : 0 < s.runs.countP RunPhase.token :=
        countP_pos_iff.mpr ⟨_,mem_of_getElem? active,rfl⟩
      simp only [System.tokens,Port.taskCapacity] at single full
      omega

theorem renotify_loses (sound : Sound s) (active : s.runs[run]? = some (.notifying progress))
    (took : s.port.Enqueued progress port post) (refuses : s.port.accepts progress = false) :
    { s with port := port, runs := s.runs.set run (.notified post) : System c }.tokens = 0 ∧
      s.tokens = 1 := by
  have token := countP_set RunPhase.token s.runs active (.notified post)
  have single := sound.single
  have account := sound.account
  have member := mem_of_getElem? active
  cases took with
  | sequenced running open_ => simp [Port.accepts,running,open_] at refuses
  | reserved | denied => simp [Port.accepts] at refuses
  | pushed open_ room => simp [Port.accepts,open_,room] at refuses
  | closed =>
    simp [RunPhase.token,RunPhase.notified] at token
    simp only [System.tokens,RunPhase.notified] at single ⊢
    omega
  | withdrawn =>
    have reserving : 0 < s.runs.countP RunPhase.reserving := countP_pos_iff.mpr ⟨_,member,rfl⟩
    simp [RunPhase.token,RunPhase.notified] at token
    simp only [System.tokens,RunPhase.notified] at single ⊢
    omega

/-- A run that holds its token arms the mailbox. -/
theorem run_armed {state : c.State} (active : s.runs[run]? = some old) (holds : post.token = true) :
    0 < { s with state := state, runs := s.runs.set run post : System c }.tokens := by
  have counted := countP_set_pos RunPhase.token s.runs active holds
  simp only [System.tokens]
  omega

theorem step_armed (sound : Sound s) (armed : Armed s) (kept : Kept s action)
    (stepped : step s action = some (t,seen)) : Armed t := by
  cases step_took stepped with
  | arrived input =>
    intro open_ up
    cases notify : (c.arrive s.state s.calls.length input).2.1 with
    | true =>
      simp only [System.tokens,if_true,countP_append,countP_singleton,CallPhase.token]
      omega
    | false =>
      have before := armed (c.arrive_closed ▸ open_) (c.arrive_quiet notify ▸ up)
      simpa [System.tokens,notify,CallPhase.token] using before
  | notified active took =>
    have same := (notify_counts sound active took).1
    exact fun open_ up => same ▸ armed open_ up
  | refused active =>
    intro open_ up
    simp [kept _ active (c.refused_closed ▸ open_)] at up
  | discarded active why =>
    intro open_ _
    rcases why with dead | rfl
    · simp [sound.cancelled dead] at open_
    · exact absurd active (kept open_)
  | dispatched active =>
    have same := dispatched_tokens sound active
    exact fun open_ up => same ▸ armed open_ up
  | took active =>
    intro _ up
    cases work : (c.take s.state).2.1 with
    | none => simp [c.take_nothing work] at up
    | some => exact run_armed active rfl
  | @proceeded run work outcome state next seen active =>
    exact fun _ _ => run_armed active (by cases next <;> rfl)
  | checked active =>
    intro _ up
    cases notify : (c.check s.state).2 with
    | true => exact run_armed active rfl
    | false => simp [c.check_quiet notify] at up
  | renotified active took =>
    intro open_ up
    rw [renotify_keeps sound active took open_ (kept _ active open_)]
    exact armed open_ up
  | closed =>
    intro open_
    simp [c.close_closed] at open_
  | cancelled => exact armed
  | reacted reacted =>
    obtain ⟨flag,closed⟩ := c.react_flags reacted
    exact fun open_ up => armed (closed ▸ open_) (flag ▸ up)
  | executor acted =>
    have same : { s with port := _ : System c }.tokens = s.tokens :=
      congrArg (_ + ·) (port_drift acted).queued
    exact fun open_ up => same ▸ armed open_ up

theorem Sound.raised (sound : Sound s) (open_ : c.closed s.state = false) (token : 0 < s.tokens) :
    c.scheduled s.state = true := by
  rw [← Bool.not_eq_false]
  intro down
  have none := sound.idle open_ down
  omega

theorem step_kept (sound : Sound s) (stepped : step s action = some (t,seen)) (armed : Armed t) : Kept s action := by
  have account := sound.account
  have single := sound.single
  cases step_took stepped with
  | @refused call status active =>
    intro other same open_
    obtain rfl : status = other := by simpa [active] using same
    rw [← Bool.not_eq_true]
    intro up
    have left := armed (c.refused_closed.trans open_) up
    have token := countP_set CallPhase.token s.calls active .returned
    simp only [CallPhase.token,Bool.toNat_true,Bool.toNat_false] at token
    simp only [System.tokens] at single left
    omega
  | @discarded job flag active =>
    intro open_ _
    have inside := inside active
    have left := armed open_ (sound.raised open_ (by simp only [System.tokens]; omega))
    simp only [System.tokens] at single left
    omega
  | dispatched active => exact fun _ same => by simp [active] at same
  | @renotified run progress port next active took =>
    intro other same open_
    obtain rfl : progress = other := by simpa [active] using same
    rw [← Bool.not_eq_false]
    intro refuses
    obtain ⟨gone,one⟩ := renotify_loses sound active took refuses
    have left := armed open_ (sound.raised open_ (by omega))
    omega
  | _ => trivial

/-- The callback group has room when a re-notification comes to its last section, as long as the
component is open and the executor runs. -/
def Roomy (s : System c) : Action c → Prop
  | .renotify run => s.runs[run]? = some (.notifying .reserved) → c.closed s.state = false →
    s.port.running = true → s.port.room = true
  | _ => True

/-- A caller that handles a refusal lowers the flag. -/
def Lowers (s : System c) : Action c → Prop
  | .refuse call => ∀ status, c.scheduled (c.refused s.state call status).1 = false
  | _ => True

theorem roomy_kept (sound : Sound s) (started : Started s) (alive : s.port.stopping = false) (roomy : Roomy s action)
    (lowers : Lowers s action) : Kept s action := by
  cases action with
  | refuse => exact fun status _ _ => lowers status
  | dispatch =>
    intro _ flagged
    simp [sound.flagged (mem_of_getElem? flagged)] at alive
  | renotify =>
    intro progress active open_
    have running : s.port.running = true := by
      rw [← Bool.not_eq_false]
      intro down
      simp [(started down alive).1] at active
    have free : s.port.groupStopping = false := by
      rw [← Bool.not_eq_true]
      exact fun on => by simp [sound.marked on] at alive
    cases progress with
    | requested => simp [Port.accepts,running,alive]
    | sequenced => rfl
    | reserved => simp [Port.accepts,free,roomy active open_ running]
  | _ => trivial

theorem step_stopping (stepped : step s action = some (t,seen)) (stopping : s.port.stopping = true) :
    t.port.stopping = true := by
  cases step_took stepped with
  | notified _ took | renotified _ took => exact (Enqueued.frame took).2.1.trans stopping
  | executor acted => exact (port_drift acted).stopping stopping
  | _ => exact stopping

structure Live (s : System c) : Prop where
  sound : Sound s
  started : Started s
  armed : s.port.stopping = false → Armed s

theorem added_live (state : c.State) (running : Bool) (others capacity : Nat)
    (down : c.scheduled state = false) :
    Live (c := c) ⟨state,.added running others capacity,[],[]⟩ :=
  ⟨added_sound state running others capacity,added_started state running others capacity,
    fun _ _ up => by simp [down] at up⟩

theorem step_live (live : Live s) (roomy : Roomy s action) (lowers : Lowers s action)
    (stepped : step s action = some (t,seen)) : Live t := by
  refine ⟨step_sound live.sound stepped,step_started live.sound live.started stepped,fun alive => ?_⟩
  have before : s.port.stopping = false := by
    rw [← Bool.not_eq_true]
    exact fun on => by simp [step_stopping stepped on] at alive
  exact step_armed live.sound (live.armed before)
    (roomy_kept live.sound live.started before roomy lowers) stepped

def CallPhase.busy : CallPhase → Bool
  | .notifying _ => true
  | .refused _ | .returned => false

def CallPhase.refusal : CallPhase → Bool
  | .refused _ => true
  | .notifying _ | .returned => false

def RunPhase.busy : RunPhase ω → Bool
  | .returned => false
  | .taking | .working _ | .checking | .notifying _ => true

/-- Jobs, executions and callers inside `Notify`. -/
def System.underway (s : System c) : Nat :=
  s.port.jobs + s.port.popped.length + s.runs.countP RunPhase.busy + s.calls.countP CallPhase.busy

theorem Sound.tokens_eq (sound : Sound s) : s.tokens = s.underway + s.calls.countP CallPhase.refusal := by
  have account := sound.account
  have calls : s.calls.countP CallPhase.token + s.calls.countP CallPhase.reserving =
      s.calls.countP CallPhase.busy + s.calls.countP CallPhase.refusal :=
    countP_split s.calls fun call => by rcases call with ⟨_ | _ | _⟩ | _ | _ <;> rfl
  have runs : s.runs.countP RunPhase.token + s.runs.countP RunPhase.reserving =
      s.runs.countP RunPhase.busy + s.runs.countP fun _ => false :=
    countP_split s.runs fun run => by rcases run with _ | _ | _ | ⟨_ | _ | _⟩ | _ <;> rfl
  have none : (s.runs.countP fun _ => false) = 0 := by simp
  simp only [System.tokens,System.underway]
  omega

/-- A job of the task is queued or running, or a caller is about to notify. -/
def Served (s : System c) : Prop :=
  0 < s.port.jobs + s.port.popped.length ∨ (∃ run ∈ s.runs, run ≠ .returned) ∨
    ∃ call ∈ s.calls, ∃ progress, call = .notifying progress

theorem served_iff : Served s ↔ 0 < s.underway := by
  have runs : (∃ run ∈ s.runs, run ≠ .returned) ↔ 0 < s.runs.countP RunPhase.busy := by
    rw [countP_pos_iff]
    refine exists_congr fun run => and_congr_right fun _ => ?_
    cases run <;> simp [RunPhase.busy]
  have calls : (∃ call ∈ s.calls, ∃ progress, call = .notifying progress) ↔
      0 < s.calls.countP CallPhase.busy := by
    rw [countP_pos_iff]
    refine exists_congr fun call => and_congr_right fun _ => ?_
    cases call <;> simp [CallPhase.busy]
  rw [Served,runs,calls,System.underway]
  omega

theorem arrive_underway (s : System c) (input : c.Input) : (s.arrive input).1.underway =
    s.underway + (c.arrive s.state s.calls.length input).2.1.toNat := by
  simp only [System.arrive,System.underway,countP_append,countP_singleton]
  cases (c.arrive s.state s.calls.length input).2.1 <;> rfl

theorem Sound.tokens_pos (sound : Sound s) : 0 < s.tokens ↔ Served s ∨ ∃ status, .refused status ∈ s.calls := by
  have refusals : (∃ status, .refused status ∈ s.calls) ↔ 0 < s.calls.countP CallPhase.refusal := by
    rw [countP_pos_iff]
    constructor
    · rintro ⟨status,member⟩
      exact ⟨_,member,rfl⟩
    · rintro ⟨call,member,refusal⟩
      cases call <;> simp [CallPhase.refusal] at refusal
      exact ⟨_,member⟩
  rw [sound.tokens_eq,served_iff,refusals]
  omega

theorem Sound.idle_calls (sound : Sound s) (none : s.tokens = 0) :
    s.port.jobs + s.port.popped.length = 0 ∧ (∀ run ∈ s.runs, run = .returned) ∧
      ∀ call ∈ s.calls, call = .returned := by
  rw [sound.tokens_eq,System.underway] at none
  have runs : s.runs.countP RunPhase.busy = 0 := by omega
  have busy : s.calls.countP CallPhase.busy = 0 := by omega
  have refusal : s.calls.countP CallPhase.refusal = 0 := by omega
  rw [countP_eq_zero] at runs busy refusal
  refine ⟨by omega,fun run member => ?_,fun call member => ?_⟩
  · have idle := runs run member
    cases run <;> simp [RunPhase.busy] at idle ⊢
  · have first := busy call member
    have second := refusal call member
    cases call <;> simp [CallPhase.busy,CallPhase.refusal] at first second ⊢

theorem Sound.no_refusal (sound : Sound s) (served : Served s) : .refused status ∉ s.calls := by
  intro member
  have refusals : 0 < s.calls.countP CallPhase.refusal := countP_pos_iff.mpr ⟨_,member,rfl⟩
  have single := sound.single
  rw [sound.tokens_eq] at single
  rw [served_iff] at served
  omega

theorem step_closed (stepped : step s action = some (t,seen)) (closed : c.closed s.state = true) :
    c.closed t.state = true := by
  cases step_took stepped with
  | arrived => exact c.arrive_closed.trans closed
  | refused => exact c.refused_closed.trans closed
  | took => exact c.take_closed.trans closed
  | proceeded _ proceeded => exact (c.proceed_flags proceeded).2.trans closed
  | checked => exact c.check_closed.trans closed
  | closed => exact c.close_closed
  | reacted reacted => exact (c.react_flags reacted).2.trans closed
  | notified | renotified | discarded | dispatched | cancelled | executor => exact closed

/-- The executor runs, the task is not cancelled and its group has room. -/
def ready (port : Port) : Bool := port.running && !port.cancelled && port.room

theorem notify_accepted {call : Nat} (sound : Sound s) (live : ready s.port = true)
    (active : s.calls[call]? = some (.notifying progress)) (took : s.port.Enqueued progress port post) :
    CallPhase.notified post ≠ .refused status := by
  simp only [ready,Bool.and_eq_true,Bool.not_eq_eq_eq_not,Bool.not_true] at live
  obtain ⟨⟨running,alive⟩,room⟩ := live
  have open_ := sound.exclusive running
  cases took with
  | sequenced | reserved | pushed => simp [CallPhase.notified]
  | closed why => simp [running,open_] at why
  | denied why =>
    have single := sound.single
    have token : 0 < s.calls.countP CallPhase.token :=
      countP_pos_iff.mpr ⟨_,mem_of_getElem? active,rfl⟩
    have full : Port.taskCapacity ≤ s.port.queued := by simpa [alive] using why
    simp only [System.tokens,Port.taskCapacity] at single full
    omega
  | withdrawn why =>
    rcases why with stopping | crowded
    · simp [sound.marked stopping] at open_
    · simp [room] at crowded

theorem step_refusal (sound : Sound s) (live : ready s.port = true) (stepped : step s action = some (t,seen))
    (refusal : .refused status ∈ t.calls) : .refused status ∈ s.calls := by
  cases step_took stepped with
  | arrived =>
    rcases mem_append.mp refusal with old | new
    · exact old
    · have same := mem_singleton.mp new
      split at same <;> contradiction
  | notified active took =>
    rcases mem_or_eq_of_mem_set refusal with old | new
    · exact old
    · exact absurd new.symm (notify_accepted sound live active took)
  | refused =>
    rcases mem_or_eq_of_mem_set refusal with old | new
    · exact old
    · contradiction
  | _ => exact refusal

end AutoRuntime.Mailbox
