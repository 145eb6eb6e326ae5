import AutoRuntime.SubscriptionCalls

/-! The statistics of a subscription. A message that is taken in is waiting, on its way through
the callback, or counted; one whose callback throws is counted twice. -/
namespace AutoRuntime.Subscription

open List

variable {μ : Type}

/-- A message that has left the queue and has sections of its accounting ahead. -/
def Frame.busy : Frame μ → Bool
  | .working _ => true
  | _ => false

/-- A callback has thrown and the drop is still to be counted. -/
def Frame.failing : Frame μ → Bool
  | .working .failed => true
  | _ => false

def Event.thrown : Event μ → Bool
  | .finished _ threw => threw
  | _ => false

def thrown (history : List (Event μ)) : Nat := history.countP Event.thrown

def Calls.inTransit (s : Calls μ) : Nat := s.frames.countP Frame.busy

def Calls.unrecorded (s : Calls μ) : Nat := s.frames.countP Frame.failing

/-- Every message that was received is accounted for once. -/
def Calls.Conserved (s : Calls μ) : Prop :=
  s.state.stats.receivedMessages =
    s.state.stats.deliveredMessages + s.state.stats.droppedMessages + s.state.stats.queueDepth + s.inTransit

instance (s : Calls μ) : Decidable s.Conserved := inferInstanceAs (Decidable (_ = _))

/-- What the statistics and the queue account for. -/
def Impl.accounted (s : Impl μ) : Nat := s.stats.deliveredMessages + s.stats.droppedMessages + s.queue.length

def Frame.weight (frame : Frame μ) : Nat := frame.busy.toNat + frame.failing.toNat

/-- A section moves a message between the queue, the call and the counters. -/
structure Balanced (s : Impl μ) (frame : Frame μ) (t : Impl μ) (next : Frame μ) (seen : List (Event μ)) : Prop where
  closed : t.closed = s.closed
  depth : s.stats.queueDepth = s.queue.length → t.stats.queueDepth = t.queue.length
  account : s.closed = false → t.stats.receivedMessages + thrown seen + s.accounted + frame.weight =
    s.stats.receivedMessages + t.accounted + next.weight
  failing : next.failing.toNat ≤ frame.failing.toNat + thrown seen
  mark : s.queue.length ≤ s.stats.queueHighWatermark →
    t.stats.queueHighWatermark = max s.stats.queueHighWatermark t.queue.length

@[simp] theorem accepting_weight (message : μ) : (Frame.accepting message).weight = 0 := rfl
@[simp] theorem callback_weight (message : μ) : (Frame.working (.callback message)).weight = 1 := rfl
@[simp] theorem failed_weight : (Frame.working .failed : Frame μ).weight = 2 := rfl
@[simp] theorem counting_weight : (Frame.working .counting : Frame μ).weight = 1 := rfl

@[simp] theorem thrown_nil : thrown ([] : List (Event μ)) = 0 := rfl
@[simp] theorem thrown_arrived (message : μ) (fate : Fate μ) : thrown [.arrived message fate] = 0 := rfl
@[simp] theorem thrown_delivered (message : μ) : thrown [.delivered message] = 0 := rfl

theorem thrown_append (first second : List (Event μ)) : thrown (first ++ second) = thrown first + thrown second :=
  countP_append

theorem calm_of_weightless {frame : Frame μ} (weightless : frame.weight = 0) : frame.failing = false := by
  simpa using (Nat.add_eq_zero_iff.mp weightless).2

theorem Balanced.unmoved {s t : Impl μ} {frame next : Frame μ} (closed : t.closed = s.closed)
    (stats : t.stats = s.stats) (queue : t.queue = s.queue) (before : frame.weight = 0) (after : next.weight = 0)
    (silent : thrown seen = 0) : Balanced s frame t next seen where
  closed := closed
  depth := by rw [stats,queue]; exact id
  account := by
    intro _
    simp only [Impl.accounted,stats,queue,before,after,silent,Nat.add_zero]
  failing := by simp [calm_of_weightless after]
  mark := by
    intro below
    rw [stats,queue]
    omega

theorem accept_balanced (s : Impl μ) (message : μ) {next : Frame μ} (weightless : next.weight = 0) :
    Balanced s (.accepting message) (s.accept message).1 next (s.accept message).2.2 := by
  have calm : next.failing.toNat ≤ 0 := by simp [calm_of_weightless weightless]
  have accepted := accept_accepted s message
  generalize s.accept message = result at accepted ⊢
  cases accepted with
  | ignored => exact .unmoved rfl rfl rfl rfl weightless rfl
  | dropped =>
    refine ⟨rfl,id,?_,calm,?_⟩
    · intro _
      simp only [accepting_weight,thrown_arrived,Impl.accounted,Impl.dropping,Impl.received]
      omega
    · intro below
      simp only [Impl.dropping,Impl.received]
      omega
  | evicted open_ full policy queue =>
    refine ⟨rfl,fun _ => rfl,?_,calm,fun _ => rfl⟩
    simp only [accepting_weight,thrown_arrived,Impl.accounted,Impl.dropping,Impl.received,Impl.push,queue,
      length_append,length_cons,length_nil]
    omega
  | queued =>
    refine ⟨rfl,fun _ => rfl,?_,calm,fun _ => rfl⟩
    simp only [accepting_weight,thrown_arrived,Impl.accounted,Impl.received,Impl.push,
      length_append,length_cons,length_nil]
    omega

theorem take_balanced (s : Impl μ) :
    Balanced s .taking s.take.1 (s.take.2.1.elim .returned .working) s.take.2.2 := by
  simp only [Impl.take]
  split
  next message rest open_ queue =>
    refine ⟨rfl,fun _ => rfl,?_,Nat.zero_le _,?_⟩
    · intro _
      have idle : (Frame.taking : Frame μ).weight = 0 := rfl
      simp only [Option.elim_some,callback_weight,thrown_delivered,Impl.accounted,queue,length_cons]
      omega
    · intro below
      rw [queue,length_cons] at below
      simp only
      omega
  · exact .unmoved rfl rfl rfl rfl rfl rfl

theorem proceed_balanced (s : Impl μ) (work : Work μ) (threw : Bool) :
    Balanced s (.working work) (s.proceed work threw).1 ((s.proceed work threw).2.1.elim .checking .working)
      (s.proceed work threw).2.2 := by
  have checking : (Frame.checking : Frame μ).weight = 0 := rfl
  cases work with
  | callback =>
    refine ⟨rfl,id,?_,?_,fun below => (Nat.max_eq_left below).symm⟩
    · intro _
      cases threw with
      | false => rfl
      | true =>
        simp only [Impl.proceed,thrown,Event.thrown,Option.elim_some,callback_weight,failed_weight,if_true,
          countP_cons,countP_nil]
        omega
    · cases threw <;> simp [Impl.proceed,thrown,Event.thrown,Frame.failing]
  | failed =>
    refine ⟨rfl,id,?_,Nat.zero_le _,fun below => (Nat.max_eq_left below).symm⟩
    simp only [Impl.proceed,Option.elim_some,failed_weight,counting_weight,thrown_nil,Impl.accounted]
    omega
  | counting =>
    refine ⟨rfl,id,?_,Nat.zero_le _,fun below => (Nat.max_eq_left below).symm⟩
    simp only [Impl.proceed,Option.elim_none,counting_weight,thrown_nil,Impl.accounted]
    omega

theorem check_balanced (s : Impl μ) {next : Frame μ} (weightless : next.weight = 0) :
    Balanced s .checking s.check.1 next [] := by
  simp only [Impl.check]
  split <;> exact .unmoved rfl rfl rfl rfl weightless rfl

theorem either_weightless (flag : Bool) {first second : Frame μ} (one : first.weight = 0) (other : second.weight = 0) :
    (if flag then first else second).weight = 0 := by
  cases flag <;> assumption

theorem advance_balanced {s t : Impl μ} {frame next : Frame μ}
    (advanced : Calls.advance s choice frame = some (t,next,seen)) : Balanced s frame t next seen := by
  cases frame with
  | accepting message =>
    cases advanced
    exact accept_balanced s message (either_weightless _ rfl rfl)
  | notifying =>
    cases advanced
    exact .unmoved rfl rfl rfl rfl (either_weightless _ rfl rfl) rfl
  | resetting | renotifying =>
    cases advanced
    exact .unmoved rfl rfl rfl rfl rfl rfl
  | taking =>
    cases advanced
    exact take_balanced s
  | working work =>
    cases advanced
    exact proceed_balanced s work choice
  | checking =>
    cases advanced
    exact check_balanced s (either_weightless _ rfl rfl)
  | returned => contradiction

structure Accounts (s : Calls μ) (history : List (Event μ)) : Prop where
  depth : s.state.stats.queueDepth = s.state.queue.length
  unrecorded : s.unrecorded ≤ thrown history
  account : s.state.closed = false → s.state.stats.receivedMessages + thrown history =
    s.state.accounted + s.inTransit + s.unrecorded

theorem idle_accounts (options : SubscriptionOptions) : Accounts (idle options : Calls μ) [] :=
  ⟨rfl,Nat.le_refl _,fun _ => rfl⟩

theorem Accounts.enter {s : Calls μ} (accounts : Accounts s history) {frame : Frame μ} (idle : frame.weight = 0)
    (still : frame.busy = false) : Accounts { s with frames := s.frames ++ [frame] } (history ++ []) := by
  have calm := calm_of_weightless idle
  have transit : Calls.inTransit { s with frames := s.frames ++ [frame] } = s.inTransit := by
    simp [Calls.inTransit,still]
  have failing : Calls.unrecorded { s with frames := s.frames ++ [frame] } = s.unrecorded := by
    simp [Calls.unrecorded,calm]
  rw [append_nil]
  refine ⟨accounts.depth,?_,?_⟩
  · rw [failing]
    exact accounts.unrecorded
  · rw [transit,failing]
    exact accounts.account

theorem Accounts.advance {s : Calls μ} (accounts : Accounts s history) {call : Nat}
    (active : s.frames[call]? = some frame) (balanced : Balanced s.state frame t post seen) :
    Accounts ⟨t,s.frames.set call post⟩ (history ++ seen) := by
  have busy := Pool.countP_set Frame.busy s.frames active post
  have failing := Pool.countP_set Frame.failing s.frames active post
  have bound := balanced.failing
  have old := accounts.unrecorded
  have weight : frame.weight = frame.busy.toNat + frame.failing.toNat := rfl
  have later : post.weight = post.busy.toNat + post.failing.toNat := rfl
  refine ⟨balanced.depth accounts.depth,?_,?_⟩
  · rw [thrown_append]
    simp only [Calls.unrecorded] at old ⊢
    omega
  · intro open_
    have open_ := balanced.closed.symm.trans open_
    have account := accounts.account open_
    have moved := balanced.account open_
    rw [thrown_append]
    simp only [Calls.inTransit,Calls.unrecorded] at account ⊢
    omega

theorem Accounts.close {s : Calls μ} (accounts : Accounts s history) :
    Accounts { s with state := s.state.close.1 } (history ++ s.state.close.2) := by
  simp only [Impl.close]
  split
  next closed =>
    rw [append_nil]
    exact accounts
  next open_ =>
    have silent : thrown [.closed s.state.queue] = 0 := rfl
    refine ⟨rfl,?_,by simp⟩
    rw [thrown_append]
    exact accounts.unrecorded

theorem step_accounts {s t : Calls μ} (accounts : Accounts s history) (stepped : Calls.step s action = some (t,seen)) :
    Accounts t (history ++ seen) := by
  cases action with
  | accept | processOne =>
    cases stepped
    exact accounts.enter rfl rfl
  | advance =>
    simp only [Calls.step] at stepped
    split at stepped
    · contradiction
    next frame active =>
      split at stepped
      · contradiction
      next u next emitted advanced =>
        cases stepped
        exact accounts.advance active (advance_balanced advanced)
  | close =>
    cases stepped
    exact accounts.close

/-- The watermark rises to the length of a queue that outgrows it. -/
theorem step_mark {s t : Calls μ} (below : s.state.queue.length ≤ s.state.stats.queueHighWatermark)
    (stepped : Calls.step s action = some (t,seen)) :
    t.state.stats.queueHighWatermark = max s.state.stats.queueHighWatermark t.state.queue.length := by
  cases action with
  | accept message | processOne =>
    cases stepped
    exact (Nat.max_eq_left below).symm
  | advance =>
    simp only [Calls.step] at stepped
    split at stepped
    · contradiction
    next frame active =>
      split at stepped
      · contradiction
      next u next emitted advanced =>
        cases stepped
        exact (advance_balanced advanced).mark below
  | close =>
    simp only [Calls.step,Impl.close] at stepped
    split at stepped
    next closed =>
      cases stepped
      exact (Nat.max_eq_left below).symm
    next open_ =>
      cases stepped
      exact (Nat.max_eq_left (Nat.zero_le _)).symm

/-- While a subscription is open, its statistics account for every message once as long as no
exception of a callback has been counted; such a message is counted as dropped and as delivered.
The watermark is the longest queue that there ever was. -/
theorem statistics_conserved_iff {s : Calls μ} (ran : (calls μ).run (idle options) actions = some (s,history))
    (open_ : s.state.closed = false) :
    s.unrecorded ≤ thrown history ∧ (s.Conserved ↔ thrown history = s.unrecorded) ∧
    (∀ u, (calls μ).Visits (idle options) actions u → u.state.queue.length ≤ s.state.stats.queueHighWatermark) ∧
    ∃ u, (calls μ).Visits (idle options) actions u ∧ u.state.queue.length = s.state.stats.queueHighWatermark := by
  have accounts : Accounts s history :=
    Machine.run_invariant (fun _ _ _ _ _ => step_accounts) (idle_accounts options) ran
  have peak := Machine.run_peak (m := calls μ) (fun _ _ _ _ => step_mark) rfl ran
  refine ⟨accounts.unrecorded,?_,peak⟩
  have account := accounts.account open_
  simp only [Calls.Conserved,accounts.depth]
  simp only [Impl.accounted] at account
  omega

def twoPlaces : SubscriptionOptions := ⟨2,.dropNewest,Nat.two_pos⟩

/-- Three messages come, one is too many; the first goes through the callback. -/
def overflowing (threw : Bool) : List (Calls.Action Nat) :=
  [.accept 1,.advance 0 false,.advance 0 false,.accept 2,.advance 1 false,.accept 3,.advance 2 false,
    .processOne,.advance 3 false,.advance 3 threw,.advance 3 false,.advance 3 false]

theorem statistics_conserved_iff_sample : ∃ s history,
    (calls Nat).run (idle twoPlaces) (overflowing false) = some (s,history) ∧ thrown history = 0 ∧ s.Conserved ∧
    s.state.stats = ⟨3,1,1,1,2⟩ ∧
    ∃ u, (calls Nat).Visits (idle twoPlaces) (overflowing false) u ∧ u.state.queue.length = 2 := by
  have ran : (calls Nat).run (idle twoPlaces) (overflowing false) = some _ := rfl
  obtain ⟨-,conserved,-,peak⟩ := statistics_conserved_iff ran rfl
  exact ⟨_,_,ran,rfl,conserved.mpr rfl,rfl,peak⟩

/-- The message whose callback threw is both dropped and delivered. -/
theorem thrown_counted_twice : ∃ s history,
    (calls Nat).run (idle twoPlaces) [.accept 1,.advance 0 false,.advance 0 false,.processOne,.advance 1 false,
      .advance 1 true,.advance 1 false,.advance 1 false,.advance 1 false] = some (s,history) ∧
    s.state.closed = false ∧ s.frames = [.returned,.returned] ∧ s.state.stats = ⟨1,1,1,0,1⟩ ∧ ¬ s.Conserved :=
  ⟨_,_,rfl,rfl,rfl,rfl,by decide⟩

end AutoRuntime.Subscription
