import AutoRuntime.MailboxArming
import AutoRuntime.Subscription

/-! When a subscription wakes up again. A refused caller lowers the flag, but `ProcessOne` does
not look at the status of its own notification, and `Accept` returns early when it drops
the newest message. -/
namespace AutoRuntime.Subscription

open Mailbox

variable {μ : Type}

theorem lowers (s : System (component μ)) (action : Action (component μ)) : Lowers s action := by
  cases action <;> simp [Lowers,Impl.refused]

/-- A raised flag stands for a queued job, a `ProcessOne` in progress, or an `Accept` that has
not yet dealt with the result of its notification. -/
def Faithful (s : System (component μ)) : Prop :=
  s.state.closed = false → s.port.running = true → s.state.scheduled = true →
    0 < s.port.jobs + s.port.popped.length ∨ (∃ run ∈ s.runs, run ≠ .returned) ∨
      ∃ call ∈ s.calls, call ≠ .returned

theorem faithful_iff {s : System (component μ)} (sound : Sound s) :
    Faithful s ↔ (s.state.closed = false → s.port.running = true → s.state.scheduled = true →
      0 < s.tokens) := by
  have callers : (∃ call ∈ s.calls, call ≠ .returned) ↔
      (∃ call ∈ s.calls, ∃ progress, call = .notifying progress) ∨ ∃ status, .refused status ∈ s.calls := by
    constructor
    · rintro ⟨call,member,busy⟩
      cases call with
      | notifying progress => exact .inl ⟨_,member,progress,rfl⟩
      | refused status => exact .inr ⟨status,member⟩
      | returned => contradiction
    · rintro (⟨call,member,progress,rfl⟩ | ⟨status,member⟩)
      · exact ⟨_,member,by simp⟩
      · exact ⟨_,member,by simp⟩
  rw [Faithful,sound.tokens_pos,Served,callers,or_assoc,or_assoc]

theorem renotify_roomy {s : System (component μ)} (sound : Sound s)
    (stepped : step s action = some (t,seen)) (faithful : Faithful t) : Roomy s action := by
  rw [faithful_iff (step_sound sound stepped)] at faithful
  cases step_took stepped with
  | @renotified run progress port next active took =>
    intro reserved open_ running
    have kept := step_kept sound stepped fun still up =>
      faithful still ((Enqueued.frame took).2.2.2.2.trans running) up
    have accepts := kept .reserved reserved open_
    simp only [Port.accepts,Bool.and_eq_true] at accepts
    exact accepts.2
  | _ => trivial

/-- The flag is faithful throughout a run exactly when every re-notification of an open
subscription found room in its callback group. -/
theorem flag_faithful_iff (ran : (system (component μ)).run
      (created μ options running others groupCapacity) actions = some (s,history)) :
    (system (component μ)).Throughout Faithful (created μ options running others groupCapacity) actions ↔
      (system (component μ)).Along Roomy (created μ options running others groupCapacity) actions := by
  refine Machine.throughout_iff_along ?_ ?_ ?_ (added_live _ _ _ _ rfl) ran
  · intro s live
    rw [faithful_iff live.sound]
    exact fun open_ on => live.armed (live.sound.exclusive on) open_
  · exact fun s action t seen live roomy stepped => step_live live roomy (lowers s action) stepped
  · exact fun s action t seen live stepped faithful => renotify_roomy live.sound stepped faithful

/-- Two messages; the second one arrives while the first is in the callback. -/
def busyRun : List (Action (component Nat)) :=
  [.arrive 1,.notify 0,.notify 0,.notify 0,.executor .pop,.dispatch 0,.take 0,.arrive 2]

/-- The first job ends and notifies again. -/
def busyEnd : List (Action (component Nat)) :=
  [.proceed 0 false,.proceed 0 false,.check 0,.renotify 0,.renotify 0,.renotify 0]

def pair : SubscriptionOptions := ⟨2,.dropNewest,by decide⟩

theorem flag_faithful_sample : ∃ s history,
    (system (component Nat)).run (created Nat pair true 0 1) (busyRun ++ busyEnd) = some (s,history) ∧
    s.port.jobs = 1 ∧ s.state.queue = [2] ∧
    (system (component Nat)).Throughout Faithful (created Nat pair true 0 1) (busyRun ++ busyEnd) := by
  have ran : (system (component Nat)).run (created Nat pair true 0 1) (busyRun ++ busyEnd) = some _ := rfl
  refine ⟨_,_,ran,rfl,rfl,(flag_faithful_iff ran).mpr ?_⟩
  iterate 13
    refine ⟨?_,fun t seen stepped => ?_⟩
    · first | trivial | exact fun active => by cases active
    cases stepped
  exact ⟨fun _ _ _ => rfl,fun _ _ _ => trivial⟩

/-- The group is full when the first job notifies again, so the flag stays up for nothing. -/
theorem flag_stranded : ∃ s history, (system (component Nat)).run (created Nat pair true 0 1)
      (busyRun ++ [.executor (.load 1)] ++ busyEnd) = some (s,history) ∧
    s.state.closed = false ∧ s.port.running = true ∧ s.state.scheduled = true ∧ s.state.queue = [2] ∧
    s.port.jobs = 0 ∧ s.port.popped = [] ∧ s.runs = [.returned] ∧ s.calls = [.returned,.returned] ∧
    ¬ Faithful s := by
  refine ⟨_,_,rfl,rfl,rfl,rfl,rfl,rfl,rfl,rfl,rfl,fun faithful => ?_⟩
  have job := faithful rfl rfl rfl
  revert job
  decide

/-- Messages in the queue of an open subscription keep the flag up. -/
def Impl.Raised (s : Impl μ) : Prop := s.closed = false → s.queue ≠ [] → s.scheduled = true

section

variable {s : Impl μ} (raised : s.Raised)

include raised

theorem accept_raised (message : μ) : (s.accept message).1.Raised := by
  have accepted := accept_accepted s message
  generalize s.accept message = result at accepted ⊢
  cases accepted with
  | ignored | dropped => exact raised
  | evicted | queued => exact fun _ _ => rfl

theorem take_raised : s.take.1.Raised := by
  simp only [Impl.take]
  split
  next message rest closed queue => exact fun open_ _ => raised open_ (by simp [queue])
  next other =>
    intro open_ nonempty
    obtain ⟨message,rest,queue⟩ := List.exists_cons_of_ne_nil nonempty
    exact absurd queue (other message rest open_)

theorem check_raised : s.check.1.Raised := by
  simp only [Impl.check]
  split
  next idle =>
    intro open_ nonempty
    simp at open_ nonempty
    simp [open_,nonempty] at idle
  · exact raised

end

theorem proceed_raised {s : Impl μ} (raised : s.Raised) (work : Work μ) (threw : Bool) :
    (s.proceed work threw).1.Raised := by
  cases work <;> exact raised

theorem close_raised (s : Impl μ) : s.close.1.Raised := by
  intro open_
  simp [close_closed] at open_

section

variable {s : System (component μ)}

theorem step_raised (raised : s.state.Raised) (stepped : step s action = some (t,seen))
    (kept : ∀ status, .refused status ∉ s.calls) : t.state.Raised := by
  cases step_took stepped with
  | arrived message => exact accept_raised raised message
  | @refused call status active => exact absurd (List.mem_of_getElem? active) (kept status)
  | took => exact take_raised raised
  | @proceeded _ work threw _ _ _ _ proceeded =>
    have next := proceed_raised raised work threw
    rwa [Option.some.inj proceeded] at next
  | checked => exact check_raised raised
  | closed => exact close_raised s.state
  | @reacted reaction => exact reaction.elim
  | notified | renotified | discarded | dispatched | cancelled | executor => exact raised

/-- What holds from an `Accept` on, as long as the executor stays ready. -/
structure Rearmed (s : System (component μ)) : Prop where
  sound : Sound s
  started : Started s
  raised : s.state.Raised
  served : s.state.closed = false → s.state.scheduled = true → Served s

theorem Rearmed.no_refusal (rearmed : Rearmed s) (open_ : s.state.closed = false) : .refused status ∉ s.calls := by
  intro member
  have token := rearmed.sound.tokens_pos.mpr (.inr ⟨status,member⟩)
  exact rearmed.sound.no_refusal (rearmed.served open_ (rearmed.sound.raised open_ token)) member

theorem step_rearmed (rearmed : Rearmed s) (live : ready s.port = true) (stepped : step s action = some (t,seen)) :
    Rearmed t := by
  have sound := step_sound rearmed.sound stepped
  have started := step_started rearmed.sound rearmed.started stepped
  have stillOpen (open_ : t.state.closed = false) : s.state.closed = false := by
    rw [← Bool.not_eq_true]
    exact fun shut => Bool.false_ne_true (open_.symm.trans (step_closed (c := component μ) stepped shut))
  refine ⟨sound,started,?_,?_⟩
  · intro open_
    exact step_raised rearmed.raised stepped (fun _ => rearmed.no_refusal (stillOpen open_)) open_
  · intro open_ up
    have armed : Armed s := fun open_ up => rearmed.sound.tokens_pos.mpr (.inl (rearmed.served open_ up))
    have facts : (s.port.running = true ∧ s.port.cancelled = false) ∧ s.port.room = true := by
      simpa [ready] using live
    have roomy : Roomy s action := by
      cases action <;> simp [Roomy,facts.2]
    have kept := roomy_kept rearmed.sound rearmed.started (rearmed.sound.exclusive facts.1.1) roomy
      (lowers s action)
    have next := step_armed rearmed.sound armed kept stepped
    rcases sound.tokens_pos.mp (next open_ up) with served | ⟨status,refusal⟩
    · exact served
    · exact absurd (step_refusal rearmed.sound live stepped refusal) (rearmed.no_refusal (stillOpen open_))

theorem run_rearmed (rearmed : Rearmed s)
    (live : (system (component μ)).Throughout (fun s => ready s.port = true) s actions)
    (ran : (system (component μ)).run s actions = some (t,history)) : Rearmed t := by
  have rule := Machine.run_rule (motive := fun s _ rest => Rearmed s ∧
      (system (component μ)).Throughout (fun s => ready s.port = true) s rest)
    (fun s _ a rest t emitted held stepped =>
      ⟨step_rearmed held.1 held.2.start stepped,held.2.2 t emitted stepped⟩)
    ⟨rearmed,live⟩ ran
  exact rule.1

end

theorem accept_nonempty {s : Impl μ} (open_ : s.closed = false) (message : μ) :
    (s.accept message).1.queue ≠ [] := by
  have positive := s.options.capacity_pos
  have accepted := accept_accepted s message
  generalize s.accept message = result at accepted ⊢
  cases accepted with
  | ignored closed => simp [closed] at open_
  | dropped _ full =>
    have crowded : s.options.queueCapacity ≤ s.queue.length := by simpa [Impl.full] using full
    exact List.length_pos_iff.mp (Nat.lt_of_lt_of_le positive crowded)
  | evicted | queued => simp [Impl.push]

theorem accept_drops {s : Impl μ} (open_ : s.closed = false) (policy : s.options.overflowPolicy = .dropNewest)
    (full : s.full = true) (message : μ) : (s.accept message).2.1 = false := by
  simp [Impl.accept,open_,full,policy]

theorem accept_raises {s : Impl μ} (open_ : s.closed = false)
    (taken : s.scheduled = false → s.options.overflowPolicy = .dropNewest → s.full = false) (message : μ) :
    (s.accept message).1.scheduled = true := by
  have accepted := accept_accepted s message
  generalize s.accept message = result at accepted ⊢
  cases accepted with
  | ignored closed => simp [closed] at open_
  | dropped _ full policy =>
    rw [← Bool.not_eq_false]
    exact fun down => by simp [taken down policy] at full
  | evicted | queued => rfl

/-- While the executor stays ready, an `Accept` leaves an open subscription served exactly when
the flag it found stood for something, or was down and the message was not to be dropped. -/
theorem accept_rearms_iff (ran : (system (component μ)).run
      (created μ options running others groupCapacity) actions = some (s,history))
    (open_ : s.state.closed = false) (live : ready s.port = true) (message : μ) :
    (∀ rest t later, (system (component μ)).run s (.arrive message :: rest) = some (t,later) →
      (system (component μ)).Throughout (fun s => ready s.port = true) s (.arrive message :: rest) →
      t.state.closed = false → t.state.queue ≠ [] → Served t) ↔
    (s.state.scheduled = true → Served s) ∧ (s.state.scheduled = false →
      s.state.options.overflowPolicy = .dropNewest → s.state.full = false) := by
  obtain ⟨sound,started⟩ := run_started (added_sound _ running others groupCapacity)
    (added_started _ running others groupCapacity) ran
  have stepped : step s (.arrive message) = some (s.arrive message) := rfl
  have flags := accept_flags s.state message
  have underway : (s.arrive message).1.underway = s.underway + (s.state.accept message).2.1.toNat :=
    arrive_underway s message
  constructor
  · intro property
    have once : (system (component μ)).run s [.arrive message] = some (s.arrive message) :=
      Machine.run_cons_iff.mpr ⟨_,_,[],stepped,rfl,(List.append_nil _).symm⟩
    have served : Served (s.arrive message).1 := by
      refine property [] _ _ once ⟨live,fun t emitted same => ?_⟩ (flags.1.trans open_)
        (accept_nonempty open_ message)
      · obtain rfl : (s.arrive message).1 = t := congrArg Prod.fst (Option.some.inj same)
        exact live
    rw [served_iff,underway] at served
    constructor
    · intro up
      have quiet : (s.state.accept message).2.1 = false := by
        rw [← Bool.not_eq_true]
        exact fun notify => by simp [(flags.2.1 notify).2.1] at up
      rw [quiet] at served
      exact served_iff.mpr served
    · intro down policy
      rw [← Bool.not_eq_true]
      intro full
      have none := sound.idle open_ down
      rw [sound.tokens_eq] at none
      rw [accept_drops open_ policy full] at served
      simp only [Bool.toNat_false] at served
      omega
  · rintro ⟨standing,taken⟩ rest t later continued throughout stillOpen nonempty
    have raises := accept_raises open_ taken message
    have served : Served (s.arrive message).1 := by
      rw [served_iff,underway]
      cases notify : (s.state.accept message).2.1 with
      | true => exact Nat.succ_pos _
      | false => exact served_iff.mp (standing (flags.2.2 notify ▸ raises))
    have rearmed : Rearmed (s.arrive message).1 :=
      ⟨step_sound sound stepped,step_started sound started stepped,fun _ _ => raises,fun _ _ => served⟩
    obtain ⟨u,emitted,after,first,second,-⟩ := Machine.run_cons_iff.mp continued
    obtain rfl : (s.arrive message).1 = u := congrArg Prod.fst (Option.some.inj first)
    have last := run_rearmed rearmed (throughout.2 _ _ first) second
    exact last.served stillOpen (last.raised stillOpen nonempty)

theorem accept_rearms_sample : ∃ t later, (system (component Nat)).run (created Nat pair true 0 2)
      [.arrive 1,.notify 0,.notify 0,.notify 0] = some (t,later) ∧
    t.state.queue = [1] ∧ t.calls = [.returned] ∧ Served t := by
  obtain ⟨t,later,ran,open_,queue,calls⟩ : ∃ t later, (system (component Nat)).run (created Nat pair true 0 2)
      [.arrive 1,.notify 0,.notify 0,.notify 0] = some (t,later) ∧ t.state.closed = false ∧
      t.state.queue = [1] ∧ t.calls = [.returned] := ⟨_,_,rfl,rfl,rfl,rfl⟩
  have nothing : (system (component Nat)).run (created Nat pair true 0 2) [] =
      some (created Nat pair true 0 2,[]) := rfl
  have rearms := (accept_rearms_iff nothing rfl rfl 1).mpr
    ⟨fun up => by contradiction,fun _ _ => rfl⟩
  refine ⟨t,later,ran,queue,calls,rearms _ t later ran ?_ open_ (by simp [queue])⟩
  iterate 4
    refine ⟨rfl,fun u seen stepped => ?_⟩
    cases stepped
  rfl

def single : SubscriptionOptions := ⟨1,.dropNewest,by decide⟩

/-- A message from before `Start` fills the queue. The next one is dropped, its `Accept` returns,
and nothing is on its way although the executor is ready. -/
theorem accept_leaves_idle : ∃ s history t later, (system (component Nat)).run (created Nat single false 0 1)
      [.arrive 1,.notify 0,.refuse 0,.executor .start] = some (s,history) ∧
    s.state.closed = false ∧ ready s.port = true ∧
    (system (component Nat)).run s [.arrive 2] = some (t,later) ∧ t.calls = [.returned,.returned] ∧
    t.state.closed = false ∧ ready t.port = true ∧ t.state.queue = [1] ∧ ¬ Served t := by
  obtain ⟨s,history,t,later,ran,open_,live,next,calls,stillOpen,stillLive,queue,jobs,popped,runs⟩ :
      ∃ s history t later, (system (component Nat)).run (created Nat single false 0 1)
        [.arrive 1,.notify 0,.refuse 0,.executor .start] = some (s,history) ∧
      s.state.closed = false ∧ ready s.port = true ∧
      (system (component Nat)).run s [.arrive 2] = some (t,later) ∧ t.calls = [.returned,.returned] ∧
      t.state.closed = false ∧ ready t.port = true ∧ t.state.queue = [1] ∧ t.port.jobs = 0 ∧
      t.port.popped = [] ∧ t.runs = [] :=
    ⟨_,_,_,_,rfl,rfl,rfl,rfl,rfl,rfl,rfl,rfl,rfl,rfl,rfl⟩
  refine ⟨s,history,t,later,ran,open_,live,next,calls,stillOpen,stillLive,queue,?_⟩
  simp [Served,jobs,popped,runs,calls]

end AutoRuntime.Subscription
