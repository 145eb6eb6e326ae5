import AutoRuntime.DdsRpcChannel

/-! Closing a client channel. `closed` is set before the pending map is emptied and read again
under the same mutex before an insertion, so nothing comes in behind the section that empties it. -/
namespace AutoRuntime.DdsRpc

open List

section

variable {channel next : Channel}

@[simp] theorem removePending_calls : (channel.removePending requestId index).calls = channel.calls := by
  simp only [Channel.removePending]
  split <;> rfl

@[simp] theorem removePending_closed : (channel.removePending requestId index).closed = channel.closed := by
  simp only [Channel.removePending]
  split <;> rfl

@[simp] theorem removePending_closers : (channel.removePending requestId index).closers = channel.closers := by
  simp only [Channel.removePending]
  split <;> rfl

@[simp] theorem removePending_receiver : (channel.removePending requestId index).receiver = channel.receiver := by
  simp only [Channel.removePending]
  split <;> rfl

theorem removePending_lookup : (channel.removePending requestId index).pending.lookup number = some owner ↔
      channel.pending.lookup number = some owner ∧ ¬(number = requestId ∧ owner = index) := by
  simp only [Channel.removePending]
  split
  next own =>
    by_cases same : number = requestId
    · subst same
      simp [own,eq_comm]
    · simp [same]
  next other =>
    refine ⟨fun found => ⟨found,?_⟩,And.left⟩
    rintro ⟨rfl,rfl⟩
    exact other found

/-- The call is still waiting to be completed under this number. -/
def Call.Owns (call : Call) (number : UInt64) : Prop :=
  call.requestId = number ∧ call.result = none ∧ call.phase.Busy

/-- The call was completed, or it has withdrawn and returned an error. -/
def Call.Settled (call : Call) : Prop :=
  call.result.isSome ∨ ∃ failure, call.phase = .returned (.error failure)

structure Sound (channel : Channel) (history : List ChannelEvent) : Prop where
  owned : ∀ number index, channel.pending.lookup number = some index →
    ∃ call, channel.calls[index]? = some call ∧ call.Owns number
  blank : ∀ (index : Nat) (call : Call), channel.calls[index]? = some call → call.phase = .inserting →
    call.result = none
  busy : ∀ (index : Nat) (call : Call), channel.calls[index]? = some call → call.phase.Busy → .inserted index ∈ history
  settled : ∀ index, .inserted index ∈ history → ∃ call, channel.calls[index]? = some call ∧
    (call.Settled ∨ channel.pending.lookup call.requestId = some index)
  closing : .clearing ∈ channel.closers → channel.closed = true
  cleared : .cleared ∈ history → channel.closed = true ∧ channel.pending = ∅

/-- A step of one call keeps the channel sound if it accounts for its own entry and leaves those of
the others alone. -/
theorem Sound.update {next : Channel} (sound : Sound channel history) (active : channel.calls[index]? = some call)
    (calls : next.calls = channel.calls.set index changed) (closed : next.closed = channel.closed)
    (closers : next.closers = channel.closers) (others : ∀ number other, other ≠ index →
      (next.pending.lookup number = some other ↔ channel.pending.lookup number = some other))
    (own : ∀ number, next.pending.lookup number = some index → changed.Owns number)
    (started : changed.phase ≠ .inserting) (busy : changed.phase.Busy → .inserted index ∈ history ++ emitted)
    (settled : .inserted index ∈ history ++ emitted →
      changed.Settled ∨ next.pending.lookup changed.requestId = some index)
    (only : ∀ other, other ≠ index → .inserted other ∉ emitted) (silent : .cleared ∉ emitted)
    (void : channel.closed = true → channel.pending = ∅ → next.pending = ∅) : Sound next (history ++ emitted) := by
  have here : next.calls[index]? = some changed := by
    rw [calls,getElem?_set_self (Pool.inside active)]
  have elsewhere (other : Nat) (apart : other ≠ index) : next.calls[other]? = channel.calls[other]? := by
    rw [calls,getElem?_set_ne (Ne.symm apart)]
  refine ⟨?_,?_,?_,?_,?_,?_⟩
  · intro number other found
    by_cases same : other = index
    · subst same
      exact ⟨changed,here,own number found⟩
    · rw [elsewhere other same]
      exact sound.owned number other ((others number other same).mp found)
  · intro other member found fresh
    by_cases same : other = index
    · subst same
      cases here.symm.trans found
      contradiction
    · rw [elsewhere other same] at found
      exact sound.blank other member found fresh
  · intro other member found occupied
    by_cases same : other = index
    · subst same
      cases here.symm.trans found
      exact busy occupied
    · rw [elsewhere other same] at found
      exact mem_append_left _ (sound.busy other member found occupied)
  · intro other inserted
    by_cases same : other = index
    · subst same
      exact ⟨changed,here,settled inserted⟩
    · obtain ⟨member,found,state⟩ := sound.settled other
        ((mem_append.mp inserted).resolve_right (only other same))
      rw [elsewhere other same]
      exact ⟨member,found,state.imp_right (others _ other same).mpr⟩
  · rw [closers,closed]
    exact sound.closing
  · intro cleared
    obtain ⟨shut,empty⟩ := sound.cleared ((mem_append.mp cleared).resolve_right silent)
    exact ⟨closed ▸ shut,void shut empty⟩

/-- What the section of `CloseClient` makes of a call. -/
def Channel.afterClear (channel : Channel) (index : Nat) (call : Call) : Call :=
  if channel.abandoned index call then { call with result := some (.error clientChannelClosed) } else call

theorem clear_calls : channel.clear.1.calls[index]? = channel.calls[index]?.map (channel.afterClear index) :=
  getElem?_mapIdx

@[simp] theorem afterClear_phase : (channel.afterClear index call).phase = call.phase := by
  simp only [Channel.afterClear]
  split <;> rfl

theorem afterClear_kept (result : call.result = some outcome) : channel.afterClear index call = call := by
  simp [Channel.afterClear,Channel.abandoned,result]

theorem afterClear_pending (pending : channel.pending.lookup number = some index) :
    (channel.afterClear index call).result.isSome := by
  have listed : channel.pending.entries.any (fun entry => entry.2 == index) = true :=
    any_eq_true.mpr ⟨⟨number,index⟩,Table.lookup_eq_some_iff.mp pending,beq_self_eq_true index⟩
  cases result : call.result <;> simp [Channel.afterClear,Channel.abandoned,listed,result]

theorem afterClear_unlisted (unlisted : ∀ number, channel.pending.lookup number ≠ some index) :
    channel.afterClear index call = call := by
  have absent : channel.pending.entries.any (fun entry => entry.2 == index) = false := by
    refine any_eq_false.mpr fun entry member same => unlisted entry.1 ?_
    obtain rfl := beq_iff_eq.mp same
    exact Table.lookup_eq_some_iff.mpr member
  simp [Channel.afterClear,Channel.abandoned,absent]

section

variable (sound : Sound channel history)

include sound

theorem Sound.owns (active : channel.calls[index]? = some call)
    (pending : channel.pending.lookup number = some index) : call.Owns number := by
  obtain ⟨owner,found,owns⟩ := sound.owned number index pending
  cases active.symm.trans found
  exact owns

theorem Sound.unlisted (active : channel.calls[index]? = some call) (idle : ¬call.phase.Busy) (number : UInt64) :
    channel.pending.lookup number ≠ some index :=
  fun pending => idle (sound.owns active pending).2.2

theorem Sound.clear (clearing : .clearing ∈ channel.closers) :
    Sound { channel.clear.1 with closers := closers } (history ++ channel.clear.2) := by
  have shut : channel.closed = true := sound.closing clearing
  refine ⟨?_,?_,?_,?_,fun _ => shut,fun _ => ⟨shut,rfl⟩⟩
  · intro number index found
    cases found
  · intro index later found fresh
    obtain ⟨call,active,rfl⟩ := Option.map_eq_some_iff.mp (clear_calls.symm.trans found)
    rw [afterClear_phase] at fresh
    rw [afterClear_unlisted (sound.unlisted active (by simp [fresh,CallPhase.Busy]))]
    exact sound.blank index call active fresh
  · intro index later found busy
    obtain ⟨call,active,rfl⟩ := Option.map_eq_some_iff.mp (clear_calls.symm.trans found)
    rw [afterClear_phase] at busy
    exact mem_append_left _ (sound.busy index call active busy)
  · intro index inserted
    obtain ⟨call,active,state⟩ := sound.settled index (by simpa [Channel.clear] using inserted)
    refine ⟨channel.afterClear index call,clear_calls.trans (by rw [active]; rfl),.inl ?_⟩
    rcases state with (completed | withdrawn) | pending
    · obtain ⟨outcome,result⟩ := Option.isSome_iff_exists.mp completed
      rw [afterClear_kept result]
      exact .inl completed
    · exact .inr (by simpa using withdrawn)
    · exact .inl (afterClear_pending pending)

theorem Sound.enter {new : Call} (fresh : new.phase = .inserting) (blank : new.result = none) :
    Sound { channel with calls := channel.calls ++ [new] } (history ++ []) := by
  have old (index : Nat) (call : Call) (active : channel.calls[index]? = some call) :
      (channel.calls ++ [new])[index]? = some call := by
    rw [getElem?_append_left (Pool.inside active),active]
  rw [append_nil]
  refine ⟨?_,?_,?_,?_,sound.closing,sound.cleared⟩
  · intro number index found
    obtain ⟨call,active,owns⟩ := sound.owned number index found
    exact ⟨call,old index call active,owns⟩
  · intro index call found inserting
    rcases Pool.concat_cases found with active | ⟨-,rfl⟩
    · exact sound.blank index call active inserting
    · exact blank
  · intro index call found busy
    rcases Pool.concat_cases found with active | ⟨-,rfl⟩
    · exact sound.busy index call active busy
    · simp [fresh,CallPhase.Busy] at busy
  · intro index inserted
    obtain ⟨call,active,state⟩ := sound.settled index inserted
    exact ⟨call,old index call active,state⟩

theorem Sound.advance {next : Channel} (active : channel.calls[index]? = some call) (busy : call.phase.Busy)
    (still : phase.Busy) (calls : next.calls = channel.calls.set index { call with phase := phase })
    (closed : next.closed = channel.closed) (closers : next.closers = channel.closers)
    (pending : next.pending = channel.pending) (only : ∀ other, .inserted other ∉ emitted)
    (silent : .cleared ∉ emitted) : Sound next (history ++ emitted) := by
  have inserted := sound.busy index call active busy
  refine sound.update active calls closed closers (fun _ _ _ => by rw [pending]) ?_ ?_
    (fun _ => mem_append_left _ inserted) ?_ (fun other _ => only other) silent
    fun _ void => pending.trans void
  · intro number listed
    obtain ⟨same,blank,-⟩ := sound.owns active (pending ▸ listed)
    exact ⟨same,blank,still⟩
  · rintro rfl
    exact still
  · intro _
    obtain ⟨owner,found,state⟩ := sound.settled index inserted
    cases active.symm.trans found
    rcases state with (completed | ⟨failure,withdrawn⟩) | listed
    · exact .inl (.inl completed)
    · simp [withdrawn,CallPhase.Busy] at busy
    · exact .inr (pending ▸ listed)

theorem Sound.insert (active : channel.calls[index]? = some call) (before : call.phase = .inserting)
    (opened : channel.closed = false) (free : channel.pending.lookup call.requestId = none) :
    Sound { channel.setCall index { call with phase := .budgeting } with
      pending := channel.pending.insert call.requestId index } (history ++ [.inserted index]) := by
  refine sound.update active rfl rfl rfl ?_ ?_ nofun (fun _ => by simp) ?_ ?_ (by simp) ?_
  · intro number other distinct
    by_cases same : number = call.requestId
    · subst same
      simp [free,Ne.symm distinct]
    · simp [AList.lookup_insert_ne same]
  · intro number listed
    by_cases same : number = call.requestId
    · exact ⟨same.symm,sound.blank index call active before,trivial⟩
    · simp only [AList.lookup_insert_ne same] at listed
      exact absurd listed (sound.unlisted active (by simp [before,CallPhase.Busy]) number)
  · intro _
    exact .inr (AList.lookup_insert _)
  · intro other distinct
    simpa using distinct
  · intro shut
    simp [opened] at shut

theorem Sound.giveUp {failure : Failure} (active : channel.calls[index]? = some call) :
    Sound { (channel.setCall index { call with phase := .returned (.error failure) }).removePending
      call.requestId index with writer := writer } (history ++ [.failed index failure]) := by
  refine sound.update active removePending_calls removePending_closed removePending_closers ?_ ?_ nofun nofun ?_
    (by simp) (by simp) ?_
  · intro number other distinct
    simp [removePending_lookup,Channel.setCall,distinct]
  · intro number listed
    simp only [removePending_lookup] at listed
    exact absurd ⟨(sound.owns active listed.1).1.symm,trivial⟩ listed.2
  · intro _
    exact .inl (.inr ⟨_,rfl⟩)
  · intro _ void
    refine Table.eq_empty_iff.mpr fun number => Option.eq_none_iff_forall_ne_some.mpr fun owner listed => ?_
    simp [removePending_lookup,Channel.setCall,void] at listed

theorem Sound.complete (known : channel.pending.lookup sample.requestId = some index)
    (active : channel.calls[index]? = some call) :
    Sound { channel.setCall index { call with result := some completion } with
      pending := channel.pending.erase sample.requestId
      receiver := .receiving } (history ++ [.completed index sample completion]) := by
  obtain ⟨same,-,busy⟩ := sound.owns active known
  refine sound.update active rfl rfl rfl ?_ ?_ ?_ ?_ ?_ (by simp) (by simp) ?_
  · intro number other distinct
    by_cases equal : number = sample.requestId
    · subst equal
      simp [known,Ne.symm distinct]
    · simp [AList.lookup_erase_ne equal]
  · intro number listed
    by_cases equal : number = sample.requestId
    · subst equal
      simp at listed
    · simp only [AList.lookup_erase_ne equal] at listed
      have own := (sound.owns active listed).1
      exact absurd (own.symm.trans same) equal
  · intro fresh
    simp only at fresh
    simp [fresh,CallPhase.Busy] at busy
  · intro _
    exact mem_append_left _ (sound.busy index call active busy)
  · intro _
    exact .inl (.inl rfl)
  · intro _ void
    simp [void] at known

theorem Sound.receive : Sound { channel with receiver := receiver } (history ++ []) := by
  rw [append_nil]
  exact ⟨sound.owned,sound.blank,sound.busy,sound.settled,sound.closing,sound.cleared⟩

theorem moved_sound (moved : Moved channel action next emitted) : Sound next (history ++ emitted) := by
  cases moved with
  | entered => exact sound.enter rfl rfl
  | refused active before =>
    refine sound.update active rfl rfl rfl (fun _ _ _ => Iff.rfl) ?_ nofun nofun ?_ (by simp) (by simp)
      fun _ void => void
    · intro number listed
      exact absurd listed (sound.unlisted active (by simp [before,CallPhase.Busy]) number)
    · intro _
      exact .inl (.inr ⟨_,rfl⟩)
  | inserted active before opened free => exact sound.insert active before opened free
  | advanced active busy still => exact sound.advance active busy still rfl rfl rfl rfl (by simp) (by simp)
  | wrote active before still =>
    exact sound.advance active (by rw [before]; trivial) still rfl rfl rfl rfl (by simp) (by simp)
  | gaveUp active => exact sound.giveUp active
  | answered active before result =>
    refine sound.update active rfl rfl rfl (fun _ _ _ => Iff.rfl) ?_ nofun nofun ?_ (by simp) (by simp)
      fun _ void => void
    · intro number listed
      have blank := (sound.owns active listed).2.1
      simp [result] at blank
    · intro _
      exact .inl (.inl (by simp [result]))
  | received | dropped | ended => exact sound.receive
  | completed before known active => exact sound.complete known active
  | closing old =>
    simpa using ⟨sound.owned,sound.blank,sound.busy,sound.settled,fun member => sound.closing (old member),
      sound.cleared⟩
  | exchanged =>
    simpa using ⟨sound.owned,sound.blank,sound.busy,sound.settled,fun _ => rfl,
      fun cleared => ⟨rfl,(sound.cleared cleared).2⟩⟩
  | cleared clearing => exact sound.clear clearing

end

theorem sound_start : Sound {} [] :=
  ⟨by simp,by simp,by simp,by simp,by simp,by simp⟩

theorem run_sound (ran : clientChannel.run {} actions = some (channel,history)) : Sound channel history :=
  Machine.run_invariant (motive := Sound)
    (fun _ _ _ _ _ sound stepped => moved_sound sound (step_moved stepped)) sound_start ran

/-- What the channel has to have been through for an event to come next. -/
def ChannelEvent.Warranted (channel : Channel) (history : List ChannelEvent) : ChannelEvent → Prop
  | .inserted _ => channel.closed = false
  | .wrote index _ | .answered index _ => .inserted index ∈ history
  | .failed index failure => .inserted index ∈ history ∨ failure = channelIsClosed ∨ channel.closed = false
  | _ => True

theorem moved_warranted (sound : Sound channel history) (moved : Moved channel action next emitted) :
    ∀ event ∈ emitted, event.Warranted channel history := by
  cases moved with
  | refused active before reason => simpa using .inr reason
  | inserted active before opened => simpa [ChannelEvent.Warranted] using opened
  | wrote active before | answered active before =>
    simpa [ChannelEvent.Warranted] using sound.busy _ _ active (by rw [before]; trivial)
  | gaveUp active busy => simpa using .inl (sound.busy _ _ active busy)
  | cleared =>
    intro event member
    simp only [Channel.clear,mem_append,mem_map,mem_singleton] at member
    rcases member with ⟨index,-,rfl⟩ | rfl <;> trivial
  | _ => simp [ChannelEvent.Warranted]

theorem moved_cleared (moved : Moved channel action next emitted) (cleared : .cleared ∈ emitted) :
    ∀ event ∈ emitted, event = .cleared ∨ ∃ index, event = .aborted index := by
  cases moved with
  | cleared =>
    intro event member
    simp only [Channel.clear,mem_append,mem_map,mem_singleton] at member
    rcases member with ⟨index,-,rfl⟩ | rfl
    · exact .inr ⟨index,rfl⟩
    · exact .inl rfl
  | _ => simp at cleared

/-- A call is heard of outside only after its insertion, and once the map was emptied there are no
more insertions: whoever comes then is told that the channel is closed. -/
structure Fenced (history : List ChannelEvent) : Prop where
  wrote : ∀ index budget, .wrote index budget ∈ history → .inserted index ∈ history
  answered : ∀ index outcome, .answered index outcome ∈ history → .inserted index ∈ history
  shut : ∀ before after, history = before ++ .cleared :: after → ∀ index, .inserted index ∉ after
  refused : ∀ before after, history = before ++ .cleared :: after → ∀ index failure,
    .failed index failure ∈ after → .inserted index ∈ history ∨ failure = channelIsClosed

theorem moved_fenced (sound : Sound channel history) (fenced : Fenced history)
    (moved : Moved channel action next emitted) : Fenced (history ++ emitted) := by
  have warranted := moved_warranted sound moved
  have only := moved_cleared moved
  refine ⟨?_,?_,?_,?_⟩
  · intro index budget member
    rcases mem_append.mp member with old | new
    · exact mem_append_left _ (fenced.wrote index budget old)
    · exact mem_append_left _ (warranted _ new)
  · intro index outcome member
    rcases mem_append.mp member with old | new
    · exact mem_append_left _ (fenced.answered index outcome old)
    · exact mem_append_left _ (warranted _ new)
  · intro before after split index inserted
    rcases Machine.history_split split with ⟨between,rfl,rfl⟩ | ⟨between,rfl,rfl⟩
    · rcases mem_append.mp inserted with old | new
      · exact fenced.shut before between rfl index old
      · have opened : channel.closed = false := warranted _ new
        have shut := (sound.cleared (by simp)).1
        simp [opened] at shut
    · have aborted := only (by simp) (.inserted index) (by simp [inserted])
      simp at aborted
  · intro before after split index failure failed
    rcases Machine.history_split split with ⟨between,rfl,rfl⟩ | ⟨between,rfl,rfl⟩
    · rcases mem_append.mp failed with old | new
      · exact (fenced.refused before between rfl index failure old).imp_left (mem_append_left _)
      · have shut := (sound.cleared (by simp)).1
        rcases warranted _ new with inserted | refused | opened
        · exact .inl (mem_append_left _ inserted)
        · exact .inr refused
        · simp [opened] at shut
    · have aborted := only (by simp) (.failed index failure) (by simp [failed])
      simp at aborted

theorem run_fenced (ran : clientChannel.run {} actions = some (channel,history)) : Fenced history :=
  (Machine.run_invariant (motive := fun channel history => Sound channel history ∧ Fenced history)
    (fun _ _ _ _ _ held stepped =>
      ⟨moved_sound held.1 (step_moved stepped),moved_fenced held.1 held.2 (step_moved stepped)⟩)
    ⟨sound_start,⟨by simp,by simp,by simp,by simp⟩⟩ ran).2

theorem moved_results (sound : Sound channel history) (moved : Moved channel action next emitted) :
    Pool.Grows (fun call later : Call => ∀ outcome, call.result = some outcome → later.result = some outcome)
      channel.calls next.calls := by
  have same (call : Call) (outcome : Outcome Message) (result : call.result = some outcome) :
      call.result = some outcome := result
  cases moved with
  | entered => exact .concat same _ _
  | refused active | inserted active | advanced active | wrote active | answered active =>
    exact .set same active fun _ result => result
  | gaveUp active =>
    simp only [removePending_calls]
    exact .set same active fun _ result => result
  | completed before known active =>
    refine .set same active fun outcome result => ?_
    have blank := (sound.owns active known).2.1
    simp [result] at blank
  | cleared =>
    intro index call active
    refine ⟨channel.afterClear index call,clear_calls.trans (by rw [active]; rfl),fun outcome result => ?_⟩
    rw [afterClear_kept result,result]
  | _ => exact .refl same _

/-- After the section of `CloseClient` nobody is left to wait for nothing. -/
theorem Sound.woken (sound : Sound channel history) (cleared : .cleared ∈ history)
    (active : channel.calls[index]? = some call) (waiting : call.phase = .waiting) :
    (channel.step (.wake index)).isSome := by
  obtain ⟨owner,found,state⟩ := sound.settled index (sound.busy index call active (by rw [waiting]; trivial))
  cases active.symm.trans found
  rcases state with (completed | ⟨failure,withdrawn⟩) | listed
  · obtain ⟨outcome,result⟩ := Option.isSome_iff_exists.mp completed
    simp [Channel.step,Channel.wake,active,waiting,result]
  · simp [waiting] at withdrawn
  · simp [(sound.cleared cleared).2] at listed

end

/-- `CloseClient` leaves no waiter behind. -/
theorem close_leaves_no_waiter (ran : clientChannel.run {} actions = some (channel,history)) :
    (.cleared ∈ history →
      channel.pending = ∅ ∧
      (∀ index, .inserted index ∈ history → ∃ call, channel.calls[index]? = some call ∧ call.Settled) ∧
      (∀ (index : Nat) (call : Call), channel.calls[index]? = some call → call.phase = .waiting →
        (channel.step (.wake index)).isSome) ∧
      (∀ (index : Nat) (call : Call), channel.calls[index]? = some call → call.phase = .inserting →
        channel.step (.insert index) = some
          (channel.setCall index { call with phase := .returned (.error channelIsClosed) },
            [.failed index channelIsClosed]))) ∧
    (∀ before after, history = before ++ .cleared :: after → ∀ index, .inserted index ∉ before →
      .inserted index ∉ history ∧ (∀ budget, .wrote index budget ∉ history) ∧
      (∀ outcome, .answered index outcome ∉ history) ∧
      ∀ failure, .failed index failure ∈ after → failure = channelIsClosed) ∧
    (∀ action next emitted, channel.step action = some (next,emitted) →
      ∀ (index : Nat) (call : Call) (outcome : Outcome Message), channel.calls[index]? = some call →
        call.result = some outcome →
          ∃ later : Call, next.calls[index]? = some later ∧ later.result = some outcome) := by
  have sound := run_sound ran
  have fenced := run_fenced ran
  refine ⟨fun cleared => ⟨(sound.cleared cleared).2,?_,?_,?_⟩,?_,?_⟩
  · intro index inserted
    obtain ⟨call,active,state⟩ := sound.settled index inserted
    refine ⟨call,active,state.resolve_right fun listed => ?_⟩
    simp [(sound.cleared cleared).2] at listed
  · intro index call active waiting
    exact sound.woken cleared active waiting
  · intro index call active inserting
    simp [Channel.step,Channel.insert,active,inserting,(sound.cleared cleared).1]
  · intro before after split index early
    have never : .inserted index ∉ history := by
      rw [split]
      simpa using ⟨early,fenced.shut before after split index⟩
    refine ⟨never,fun budget wrote => never (fenced.wrote index budget wrote),
      fun outcome answered => never (fenced.answered index outcome answered),fun failure failed => ?_⟩
    exact (fenced.refused before after split index failure failed).resolve_left never
  · intro action next emitted stepped index call outcome active result
    obtain ⟨later,found,kept⟩ := moved_results sound (step_moved stepped) index call active
    exact ⟨later,found,kept outcome result⟩

/-- One call waits for ever and another has not come in yet when the channel is closed. -/
def closeSchedule : List ChannelAction :=
  [.enter 1 ⟨{},[]⟩ .infinite,.enter 2 ⟨{},[]⟩ .infinite,.insert 0,.budget 0 0,.check 0,.write 0 none,
    .closeClient,.proceed 0,.proceed 0,.insert 1]

theorem close_leaves_no_waiter_sample : ∃ channel history,
    clientChannel.run {} closeSchedule = some (channel,history) ∧ .inserted 0 ∈ history ∧
      .failed 1 channelIsClosed ∈ history ∧ channel.pending = ∅ ∧
      (∃ call, channel.calls[0]? = some call ∧ call.Settled) ∧ ∀ budget, .wrote 1 budget ∉ history := by
  obtain ⟨channel,before,after,ran,inserted,failed,early⟩ : ∃ channel before after,
      clientChannel.run {} closeSchedule = some (channel,before ++ .cleared :: after) ∧
        .inserted 0 ∈ before ∧ .failed 1 channelIsClosed ∈ after ∧ .inserted 1 ∉ before :=
    ⟨_,[.inserted 0,.wrote 0 infiniteBudget,.aborted 0],[.failed 1 channelIsClosed],rfl,
      by simp,by simp,by simp⟩
  obtain ⟨closed,fence,-⟩ := close_leaves_no_waiter ran
  obtain ⟨void,settled,-,-⟩ := closed (by simp)
  refine ⟨channel,_,ran,mem_append_left _ inserted,?_,void,?_,(fence before after rfl 1 early).2.1⟩
  · exact mem_append_right _ (mem_cons_of_mem _ failed)
  · exact settled 0 (mem_append_left _ inserted)

end AutoRuntime.DdsRpc
