import AutoRuntime.DdsRpcClose

/-! What completes a call. The result of a call is set once, by the response that carries its
number or by `CloseClient`, and never after the call has returned. -/
namespace AutoRuntime.DdsRpc

open List

def ChannelEvent.completes (index : Nat) : ChannelEvent → Bool
  | .completed other _ _ | .aborted other => other == index
  | _ => false

/-- The call returns. -/
def ChannelEvent.returns (index : Nat) : ChannelEvent → Bool
  | .failed other _ | .answered other _ => other == index
  | _ => false

def Channel.resultOf (channel : Channel) (index : Nat) : Option (Outcome Message) :=
  channel.calls[index]?.bind (·.result)

/-- Where a result comes from. -/
def Completed (history : List ChannelEvent) (index : Nat) (outcome : Outcome Message) : Prop :=
  outcome = .error clientChannelClosed ∧ .aborted index ∈ history ∨
    ∃ sample, .completed index sample outcome ∈ history

theorem Completed.append (completed : Completed history index outcome) (emitted : List ChannelEvent) :
    Completed (history ++ emitted) index outcome := by
  rcases completed with ⟨closed,aborted⟩ | ⟨sample,completed⟩
  · exact .inl ⟨closed,mem_append_left _ aborted⟩
  · exact .inr ⟨sample,mem_append_left _ completed⟩

variable {channel next : Channel}

theorem resultOf_set {call changed : Call} (active : channel.calls[other]? = some call)
    (same : changed.result = call.result) :
    (channel.calls.set other changed)[index]?.bind (·.result) = channel.resultOf index := by
  by_cases equal : other = index
  · subst equal
    rw [getElem?_set_self (Pool.inside active),Channel.resultOf,active]
    exact same
  · rw [getElem?_set_ne equal]
    rfl

theorem resultOf_enter {new : Call} (blank : new.result = none) :
    (channel.calls ++ [new])[index]?.bind (·.result) = channel.resultOf index := by
  rw [Channel.resultOf]
  rcases Nat.lt_trichotomy index channel.calls.length with inside | rfl | outside
  · rw [getElem?_append_left inside]
  · simp [blank]
  · rw [getElem?_eq_none (by rw [length_append]; exact outside),getElem?_eq_none (by omega)]

/-- What a step does to the results: nothing, or one response or one closing does it all. -/
inductive Completes (channel next : Channel) : List ChannelEvent → Prop where
  | silent (same : ∀ index, next.resultOf index = channel.resultOf index)
      (quiet : ∀ event ∈ emitted, ∀ index, event.completes index = false) : Completes channel next emitted
  | completed {call : Call} (active : channel.calls[index]? = some call) (owns : call.Owns sample.requestId)
      (results : ∀ other, next.resultOf other = if other = index then some completion else channel.resultOf other) :
      Completes channel next [.completed index sample completion]
  | cleared (calls : ∀ index, next.calls[index]? = channel.calls[index]?.map (channel.afterClear index)) :
      Completes channel next channel.clear.2

theorem moved_completes (sound : Sound channel history) (moved : Moved channel action next emitted) :
    Completes channel next emitted := by
  cases moved with
  | entered => exact .silent (fun _ => resultOf_enter rfl) (by simp)
  | refused active | inserted active | wrote active | answered active =>
    exact .silent (fun _ => resultOf_set active rfl) (by simp [ChannelEvent.completes])
  | advanced active => exact .silent (fun _ => resultOf_set active rfl) (by simp)
  | gaveUp active =>
    refine .silent (fun index => ?_) (by simp [ChannelEvent.completes])
    simp only [Channel.resultOf,removePending_calls]
    exact resultOf_set active rfl
  | @completed sample completion index _ call before known active =>
    refine .completed active (sound.owns active known) fun other => ?_
    simp only [Channel.resultOf,Channel.setCall]
    split
    next same =>
      subst same
      rw [getElem?_set_self (Pool.inside active)]
      rfl
    next apart => rw [getElem?_set_ne (Ne.symm apart)]
  | cleared => exact .cleared fun _ => clear_calls
  | _ => exact .silent (fun _ => rfl) (by simp)

/-- A call keeps its number, and once returned it stays so. -/
def Call.Continues (call later : Call) : Prop :=
  later.requestId = call.requestId ∧ ∀ outcome, call.phase = .returned outcome → later.phase = .returned outcome

theorem moved_calls (moved : Moved channel action next emitted) :
    Pool.Grows Call.Continues channel.calls next.calls := by
  have same (call : Call) : call.Continues call := ⟨rfl,fun _ returned => returned⟩
  have busy (call changed : Call) (number : changed.requestId = call.requestId) (busy : call.phase.Busy) :
      call.Continues changed := by
    refine ⟨number,fun outcome returned => ?_⟩
    simp [returned,CallPhase.Busy] at busy
  cases moved with
  | entered => exact .concat same _ _
  | refused active before | inserted active before | wrote active before | answered active before =>
    exact .set same active ⟨rfl,by simp [before]⟩
  | advanced active occupied => exact .set same active (busy _ _ rfl occupied)
  | gaveUp active occupied =>
    simp only [removePending_calls]
    exact .set same active (busy _ _ rfl occupied)
  | completed before known active => exact .set same active ⟨rfl,fun _ returned => returned⟩
  | cleared =>
    intro index call active
    refine ⟨channel.afterClear index call,clear_calls.trans (by rw [active]; rfl),?_,fun outcome returned => ?_⟩
    · simp only [Channel.afterClear]
      split <;> rfl
    · rw [afterClear_phase,returned]
  | _ => exact .refl same _

theorem moved_returns (moved : Moved channel action next emitted) (member : event ∈ emitted)
    (returns : event.returns index = true) :
    emitted = [event] ∧ ∃ (later : Call) (outcome : Outcome Message),
      next.calls[index]? = some later ∧ later.phase = .returned outcome := by
  have here (call changed : Call) (active : channel.calls[index]? = some call) :
      (channel.calls.set index changed)[index]? = some changed :=
    getElem?_set_self (Pool.inside active)
  cases moved with
  | refused active | answered active =>
    obtain rfl := mem_singleton.mp member
    obtain rfl := beq_iff_eq.mp returns
    exact ⟨rfl,_,_,here _ _ active,rfl⟩
  | gaveUp active =>
    obtain rfl := mem_singleton.mp member
    obtain rfl := beq_iff_eq.mp returns
    refine ⟨rfl,?_⟩
    simp only [removePending_calls]
    exact ⟨_,_,here _ _ active,rfl⟩
  | inserted | wrote | completed =>
    obtain rfl := mem_singleton.mp member
    contradiction
  | cleared =>
    simp only [Channel.clear,mem_append,mem_map,mem_singleton] at member
    rcases member with ⟨other,-,rfl⟩ | rfl <;> contradiction
  | _ => simp at member

theorem moved_answered (moved : Moved channel action next emitted) (member : .answered index outcome ∈ emitted) :
    channel.resultOf index = some outcome := by
  cases moved with
  | answered active before result =>
    simp only [mem_singleton,ChannelEvent.answered.injEq] at member
    obtain ⟨rfl,rfl⟩ := member
    simp [Channel.resultOf,active,result]
  | cleared => simp [Channel.clear] at member
  | _ => simp at member

theorem clear_count :
    channel.clear.2.countP (·.completes index) = (channel.calls[index]?.any (channel.abandoned index)).toNat := by
  have single : ((ChannelEvent.completes index) ∘ .aborted) = fun other => other == index := rfl
  rw [Channel.clear,countP_append,countP_map,single,← count.eq_def,
    (nodup_range.filter _).count]
  by_cases abandoned : channel.calls[index]?.any (channel.abandoned index) = true
  · have inside : index < channel.calls.length := by
      by_contra outside
      rw [getElem?_eq_none (by omega)] at abandoned
      contradiction
    rw [if_pos (mem_filter.mpr ⟨mem_range.mpr inside,by simpa using abandoned⟩),abandoned]
    rfl
  · rw [if_neg fun member => abandoned (by simpa using (mem_filter.mp member).2),
      Bool.eq_false_iff.mpr abandoned]
    rfl

theorem afterClear_result {call : Call} (blank : call.result = none) : (channel.afterClear index call).result =
      if channel.abandoned index call then some (.error clientChannelClosed) else none := by
  simp only [Channel.afterClear]
  split
  · rfl
  · exact blank

theorem Completes.counted (completes : Completes channel next emitted) :
    emitted.countP (·.completes index) + (channel.resultOf index).isSome.toNat =
      (next.resultOf index).isSome.toNat := by
  cases completes with
  | silent same quiet =>
    rw [same,countP_eq_zero.mpr fun event member => by simp [quiet event member],Nat.zero_add]
  | @completed other sample completion call active owns results =>
    rw [results]
    by_cases equal : index = other
    · subst equal
      simp [ChannelEvent.completes,Channel.resultOf,active,owns.2.1]
    · simp [ChannelEvent.completes,equal,Ne.symm equal]
  | cleared calls =>
    rw [clear_count,Channel.resultOf,Channel.resultOf,calls]
    cases active : channel.calls[index]? with
    | none => rfl
    | some call =>
      simp only [Option.any_some,Option.bind_some,Option.map_some]
      cases result : call.result with
      | some => simp [afterClear_kept result,result,Channel.abandoned]
      | none =>
        rw [afterClear_result result]
        cases channel.abandoned index call <;> rfl

theorem Completes.origin (completes : Completes channel next emitted) (result : next.resultOf index = some outcome) :
    channel.resultOf index = some outcome ∨ Completed emitted index outcome := by
  cases completes with
  | silent same => exact .inl (same index ▸ result)
  | @completed other completion sample call active owns results =>
    rw [results] at result
    split at result
    next equal =>
      subst equal
      cases result
      exact .inr (.inr ⟨sample,by simp⟩)
    · exact .inl result
  | cleared calls =>
    simp only [Channel.resultOf,calls] at result ⊢
    cases active : channel.calls[index]? with
    | none => simp [active] at result
    | some call =>
      simp only [active,Option.map_some,Option.bind_some] at result ⊢
      cases old : call.result with
      | some => exact .inl (by rw [← result,afterClear_kept old,old])
      | none =>
        rw [afterClear_result old] at result
        split at result
        next abandoned =>
          refine .inr (.inl ⟨(Option.some.inj result).symm,mem_append_left _ ?_⟩)
          refine mem_map.mpr ⟨index,mem_filter.mpr ⟨?_,?_⟩,rfl⟩
          · exact mem_range.mpr (Pool.inside active)
          · simpa [active] using abandoned
        · contradiction

theorem Completes.busy (sound : Sound channel history) (completes : Completes channel next emitted)
    (member : event ∈ emitted) (completing : event.completes index = true) :
    ∃ call : Call, channel.calls[index]? = some call ∧ call.phase.Busy := by
  cases completes with
  | silent same quiet => simp [quiet event member] at completing
  | @completed other sample completion call active owns results =>
    obtain rfl := mem_singleton.mp member
    obtain rfl := beq_iff_eq.mp completing
    exact ⟨call,active,owns.2.2⟩
  | cleared =>
    simp only [Channel.clear,mem_append,mem_map,mem_filter,mem_singleton] at member
    rcases member with ⟨other,⟨-,listed⟩,rfl⟩ | rfl
    · obtain rfl := beq_iff_eq.mp completing
      obtain ⟨call,active,abandoned⟩ : ∃ call, channel.calls[other]? = some call ∧ channel.abandoned other call := by
        cases active : channel.calls[other]? with
        | none => simp [active] at listed
        | some call => exact ⟨call,rfl,by simpa [active] using listed⟩
      simp only [Channel.abandoned,Bool.and_eq_true,any_eq_true,beq_iff_eq] at abandoned
      obtain ⟨⟨⟨number,owner⟩,entry,rfl⟩,-⟩ := abandoned
      exact ⟨call,active,(sound.owns active (Table.lookup_eq_some_iff.mpr entry)).2.2⟩
    · contradiction

structure Accounted (channel : Channel) (history : List ChannelEvent) : Prop where
  counted : ∀ index, history.countP (·.completes index) = (channel.resultOf index).isSome.toNat
  origin : ∀ index outcome, channel.resultOf index = some outcome → Completed history index outcome
  answered : ∀ index outcome, .answered index outcome ∈ history → Completed history index outcome
  numbered : ∀ index sample completion, .completed index sample completion ∈ history →
    ∃ call, channel.calls[index]? = some call ∧ call.requestId = sample.requestId
  returned : ∀ (index : Nat) (event : ChannelEvent), event ∈ history → event.returns index = true →
    ∃ call outcome, channel.calls[index]? = some call ∧ call.phase = .returned outcome
  late : ∀ index before event after, history = before ++ event :: after → event.returns index = true →
    ∀ later ∈ after, later.completes index = false

theorem Completed.prepend (completed : Completed emitted index outcome) (history : List ChannelEvent) :
    Completed (history ++ emitted) index outcome := by
  rcases completed with ⟨closed,aborted⟩ | ⟨sample,completed⟩
  · exact .inl ⟨closed,mem_append_right _ aborted⟩
  · exact .inr ⟨sample,mem_append_right _ completed⟩

theorem moved_accounted (sound : Sound channel history) (accounted : Accounted channel history)
    (moved : Moved channel action next emitted) : Accounted next (history ++ emitted) := by
  have completes := moved_completes sound moved
  refine ⟨?_,?_,?_,?_,?_,?_⟩
  · intro index
    rw [countP_append,accounted.counted,Nat.add_comm,completes.counted]
  · intro index outcome result
    rcases completes.origin result with old | new
    · exact (accounted.origin index outcome old).append emitted
    · exact new.prepend history
  · intro index outcome member
    rcases mem_append.mp member with old | new
    · exact (accounted.answered index outcome old).append emitted
    · exact (accounted.origin index outcome (moved_answered moved new)).append emitted
  · intro index sample completion member
    have owner : ∃ call, channel.calls[index]? = some call ∧ call.requestId = sample.requestId := by
      rcases mem_append.mp member with old | new
      · exact accounted.numbered index sample completion old
      · cases completes with
        | silent same quiet => simpa [ChannelEvent.completes] using quiet _ new index
        | completed active owns =>
          simp only [mem_singleton,ChannelEvent.completed.injEq] at new
          obtain ⟨rfl,rfl,rfl⟩ := new
          exact ⟨_,active,owns.1⟩
        | cleared => simp [Channel.clear] at new
    obtain ⟨call,active,number⟩ := owner
    obtain ⟨later,found,same,-⟩ := moved_calls moved index call active
    exact ⟨later,found,same.trans number⟩
  · intro index event member returns
    rcases mem_append.mp member with old | new
    · obtain ⟨call,outcome,active,returned⟩ := accounted.returned index event old returns
      obtain ⟨later,found,-,still⟩ := moved_calls moved index call active
      exact ⟨later,outcome,found,still outcome returned⟩
    · exact (moved_returns moved new returns).2
  · intro index before event after split returns later member
    rcases Machine.history_split split with ⟨between,rfl,rfl⟩ | ⟨between,rfl,rfl⟩
    · rcases mem_append.mp member with old | new
      · exact accounted.late index before event between rfl returns later old
      · by_contra completing
        obtain ⟨call,active,busy⟩ := completes.busy sound new (by simpa using completing)
        obtain ⟨owner,outcome,found,returned⟩ := accounted.returned index event (by simp) returns
        cases active.symm.trans found
        simp [returned,CallPhase.Busy] at busy
    · have single := (moved_returns moved (mem_append_right between mem_cons_self) returns).1
      simp only [append_eq_singleton_iff,cons.injEq] at single
      rcases single with ⟨-,-,rfl⟩ | ⟨-,nothing⟩
      · contradiction
      · contradiction

theorem accounted_start : Accounted {} [] :=
  ⟨by simp [Channel.resultOf],by simp [Channel.resultOf],by simp,by simp,by simp,by simp⟩

end AutoRuntime.DdsRpc
