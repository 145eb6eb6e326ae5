import AutoRuntime.FastIpcTransport
import AutoRuntime.Machine

/-! Subscriptions of the FastIPC adapter. An endpoint has one subscriber at a time; `Unsubscribe`
closes the endpoint's channel, and a closed channel stays closed. Calls come one after the other;
whether the receiver thread can be started is an input. -/
namespace AutoRuntime.FastIpc

open List Option Nat Table AList

def Endpoint.slot (endpoint : Endpoint) : LoopKind → Bool
  | .copy => endpoint.callback
  | .loaned => endpoint.loanedCallback

def LoopKind.other : LoopKind → LoopKind
  | .copy => .loaned
  | .loaned => .copy

/-- The section under the callback mutex. -/
def Endpoint.register (endpoint : Endpoint) (kind : LoopKind) (qos : QosProfile) : Endpoint :=
  match kind with
  | .copy => { endpoint with qos := qos, callback := true }
  | .loaned => { endpoint with qos := qos, loanedCallback := true }

namespace Transport

/-- The endpoint has a number, a callback and a receiver. -/
def admitted (t : Transport) (kind : LoopKind) (topic : Bytes) (qos : QosProfile) : Transport :=
  { t with
    nextSubscriptionId := t.nextSubscriptionId + 1
    endpoints := t.endpoints.modify topic fun endpoint =>
      { endpoint.register kind qos with
        subscriptionId := t.nextSubscriptionId
        receiver := some { loop := kind } }
    subscriptions := t.subscriptions.insert t.nextSubscriptionId topic }

/-- The receiver could not be started. The number is taken back, the callback is not. -/
def rolledBack (t : Transport) (kind : LoopKind) (topic : Bytes) (qos : QosProfile) : Transport :=
  { t with
    nextSubscriptionId := t.nextSubscriptionId + 1
    endpoints := t.endpoints.modify topic fun endpoint => { endpoint.register kind qos with subscriptionId := 0 }
    subscriptions := (t.subscriptions.insert t.nextSubscriptionId topic).erase t.nextSubscriptionId }

/-- `Subscribe` and `SubscribeLoaned` but for their wording. A thread that does not start throws with
a text. -/
def enroll (t : Transport) (kind : LoopKind) (required failed : String) (topic : Bytes) (qos : QosProfile)
    (callback : Bool) (start : Except String Unit) : Transport × Result Nat :=
  if callback = false ∨ qos.depth = 0 then (t,.error ⟨.invalidArgument,required⟩)
  else if t.closed then (t,.error ⟨.closed,"FastIPC transport is closed"⟩)
  else
    match t.endpoints.lookup topic with
    | none => (t,.error ⟨.notFound,"FastIPC subscribe endpoint is not configured"⟩)
    | some endpoint =>
      if endpoint.config.direction ≠ .subscribe then
        (t,.error ⟨.notFound,"FastIPC subscribe endpoint is not configured"⟩)
      else if endpoint.subscriptionId ≠ 0 then
        (t,.error ⟨.alreadyExists,"FastIPC SPSC endpoint already has a subscriber"⟩)
      else
        match start with
        | .ok () => (t.admitted kind topic qos,.ok t.nextSubscriptionId)
        | .error what => (t.rolledBack kind topic qos,.error ⟨.internal,failed ++ what⟩)

def subscribe (t : Transport) (topic : Bytes) (qos : QosProfile) (callback : Bool) (start : Except String Unit) :
    Transport × Result Nat :=
  t.enroll .copy "FastIPC subscription requires callback and depth" "failed to start FastIPC receiver: "
    topic qos callback start

def subscribeLoaned (t : Transport) (topic : Bytes) (qos : QosProfile) (callback : Bool)
    (start : Except String Unit) : Transport × Result Nat :=
  t.enroll .loaned "FastIPC loaned subscription requires callback and depth"
    "failed to start FastIPC loaned receiver: " topic qos callback start

/-- The receiver finds its channel closed, and is joined. -/
def dismissed (t : Transport) (id : Nat) (topic : Bytes) : Transport :=
  { t with
    endpoints := t.endpoints.modify topic fun endpoint =>
      { endpoint with
        channelOpen := false
        callback := false
        loanedCallback := false
        subscriptionId := 0
        receiver := none }
    subscriptions := t.subscriptions.erase id }

def unsubscribe (t : Transport) (id : Nat) : Transport × Status :=
  match t.subscriptions.lookup id with
  | none => (t,⟨.notFound,"FastIPC subscription does not exist"⟩)
  | some topic => (t.dismissed id topic,.success)

/-- The endpoints keep their numbers and callbacks. -/
def shut (t : Transport) : Transport :=
  { t with
    closed := true
    endpoints := t.endpoints.mapValues fun _ endpoint => { endpoint with channelOpen := false, receiver := none }
    subscriptions := ∅ }

def close (t : Transport) : Transport × Status := if t.closed then (t,.success) else (t.shut,.success)

end Transport

inductive Event where
  | subscribed (kind : LoopKind) (topic : Bytes) (id : Nat)
  | unsubscribed (id : Nat) (topic : Bytes)
  | closed
  deriving DecidableEq, Repr

inductive Action where
  | subscribe (topic : Bytes) (qos : QosProfile) (callback : Bool) (start : Except String Unit)
  | subscribeLoaned (topic : Bytes) (qos : QosProfile) (callback : Bool) (start : Except String Unit)
  | unsubscribe (id : Nat)
  | close
  | exit (topic : Bytes)

/-- What a call that returned a number or an error leaves in the history. -/
def returned (kind : LoopKind) (topic : Bytes) : Transport × Result Nat → Option (Transport × List Event)
  | (t,.ok id) => some (t,[.subscribed kind topic id])
  | (t,.error _) => some (t,[])

/-- A receiver leaves its loop on its own when the channel is closed. -/
def step (t : Transport) : Action → Option (Transport × List Event)
  | .subscribe topic qos callback start => returned .copy topic (t.subscribe topic qos callback start)
  | .subscribeLoaned topic qos callback start => returned .loaned topic (t.subscribeLoaned topic qos callback start)
  | .unsubscribe id => some ((t.unsubscribe id).1,((t.subscriptions.lookup id).map (.unsubscribed id)).toList)
  | .close => some (t.close.1,if t.closed then [] else [.closed])
  | .exit topic =>
    match t.endpoints.lookup topic with
    | some endpoint =>
      if endpoint.channelOpen then none
      else
        some ({ t with
          endpoints := t.endpoints.modify topic fun endpoint =>
            { endpoint with receiver := endpoint.receiver.map fun receiver => { receiver with exited := true } } },[])
    | none => none

def subscriptionSystem : Machine Transport Action Event := ⟨step⟩

/-- As `Create` leaves it. -/
def created (configs : Table Bytes FastIpcEndpointConfig) : Transport where
  endpoints := ⟨configs.entries.map fun entry => ⟨entry.1,{ config := entry.2 }⟩,by
    simpa [List.NodupKeys,List.keys,Function.comp_def] using configs.nodupKeys⟩

/-- The numbers that were returned and not yet given back, with the topics of their endpoints. -/
def live (history : List Event) : List (Nat × Bytes) :=
  history.foldl (fun ids event =>
    match event with
    | .subscribed _ topic id => ids ++ [(id,topic)]
    | .unsubscribed id _ => ids.filter fun entry => entry.1 ≠ id
    | .closed => []) []

/-- The endpoint's channel is open, one callback is set, and the receiver is at work. -/
structure Endpoint.Live (endpoint : Endpoint) : Prop where
  channel : endpoint.channelOpen = true
  callbacks : endpoint.callback ≠ endpoint.loanedCallback
  receiver : ∃ receiver, endpoint.receiver = some receiver ∧ receiver.exited = false

/-- Whether an endpoint is free for a subscriber, as the admission sees it. -/
def Transport.Vacant (t : Transport) (topic : Bytes) (endpoint : Endpoint) : Prop :=
  t.closed = false ∧ t.endpoints.lookup topic = some endpoint ∧ endpoint.subscriptionId = 0

/-- What a call to subscribe can come to. -/
inductive Admitted (t : Transport) (kind : LoopKind) (topic : Bytes) : Transport × Result Nat → Prop
  | refused (status : Status) : Admitted t kind topic (t,.error status)
  | started (qos : QosProfile) : t.Vacant topic endpoint →
      Admitted t kind topic (t.admitted kind topic qos,.ok t.nextSubscriptionId)
  | failed (qos : QosProfile) (status : Status) : t.Vacant topic endpoint →
      Admitted t kind topic (t.rolledBack kind topic qos,.error status)

theorem enroll_admitted (t : Transport) (kind : LoopKind) (required failed : String) (topic : Bytes) (qos : QosProfile)
    (callback : Bool) (start : Except String Unit) :
    Admitted t kind topic (t.enroll kind required failed topic qos callback start) := by
  simp only [Transport.enroll]
  split
  · exact .refused _
  split
  · exact .refused _
  next open_ =>
    split
    · exact .refused _
    next endpoint found =>
      split
      · exact .refused _
      split
      · exact .refused _
      next free =>
        have vacant : t.Vacant topic endpoint := ⟨by simpa using open_,found,not_not.mp free⟩
        split
        · exact .started qos vacant
        · exact .failed qos _ vacant

inductive Took (t : Transport) : Transport → List Event → Prop
  | unchanged : Took t t []
  | started (kind : LoopKind) (qos : QosProfile) : t.Vacant topic endpoint →
      Took t (t.admitted kind topic qos) [.subscribed kind topic t.nextSubscriptionId]
  | failed (kind : LoopKind) (qos : QosProfile) : t.Vacant topic endpoint → Took t (t.rolledBack kind topic qos) []
  | dismissed {id : Nat} :
    t.subscriptions.lookup id = some topic → Took t (t.dismissed id topic) [.unsubscribed id topic]
  | shut : t.closed = false → Took t t.shut [.closed]
  | exited (topic : Bytes) (change : Option Receiver → Option Receiver) : Took t { t with
      endpoints := t.endpoints.modify topic fun endpoint => { endpoint with receiver := change endpoint.receiver } } []

theorem returned_took (admission : Admitted t kind topic result) (done : returned kind topic result = some (u,seen)) :
    Took t u seen := by
  cases admission with
  | refused =>
    cases done
    exact .unchanged
  | started qos vacant =>
    cases done
    exact .started kind qos vacant
  | failed qos status vacant =>
    cases done
    exact .failed kind qos vacant

theorem step_took (stepped : step t action = some (u,seen)) : Took t u seen := by
  cases action with
  | subscribe | subscribeLoaned => exact returned_took (enroll_admitted ..) stepped
  | unsubscribe =>
    simp only [step,Transport.unsubscribe] at stepped
    split at stepped
    next absent =>
      rw [absent] at stepped
      cases stepped
      exact .unchanged
    next topic found =>
      rw [found] at stepped
      cases stepped
      exact .dismissed found
  | close =>
    simp only [step,Transport.close] at stepped
    by_cases closed : t.closed = true
    · rw [if_pos closed,if_pos closed] at stepped
      cases stepped
      exact .unchanged
    · rw [if_neg closed,if_neg closed] at stepped
      cases stepped
      exact .shut (by simpa using closed)
  | exit topic =>
    simp only [step] at stepped
    split at stepped
    · split at stepped
      · contradiction
      · cases stepped
        exact .exited topic _
    · contradiction

/-- The topics whose subscriptions have been given back. -/
def abandoned (history : List Event) : List Bytes := history.filterMap fun
  | .unsubscribed _ topic => some topic
  | _ => none

/-- What the map of the subscriptions has to do with the endpoints and with the history. -/
structure Sound (t : Transport) (history : List Event) : Prop where
  listed : ∀ id topic, t.subscriptions.lookup id = some topic ↔ (id,topic) ∈ live history
  owned : t.closed = false → ∀ id topic, t.subscriptions.lookup id = some topic ↔
    id ≠ 0 ∧ ∃ endpoint, t.endpoints.lookup topic = some endpoint ∧ endpoint.subscriptionId = id
  cleared : t.closed = true → ∀ id, t.subscriptions.lookup id = none
  positive : 0 < t.nextSubscriptionId
  below : ∀ id topic, t.subscriptions.lookup id = some topic → id < t.nextSubscriptionId
  opened : ∀ topic endpoint, t.endpoints.lookup topic = some endpoint →
    (endpoint.channelOpen = true ↔ t.closed = false ∧ topic ∉ abandoned history)

theorem created_sound (configs : Table Bytes FastIpcEndpointConfig) : Sound (created configs) [] := by
  have fresh (topic : Bytes) (endpoint : Endpoint) (found : (created configs).endpoints.lookup topic = some endpoint) :
      endpoint.channelOpen = true ∧ endpoint.subscriptionId = 0 := by
    obtain ⟨entry,-,same⟩ := mem_map.mp (lookup_eq_some_iff.mp found)
    cases same
    exact ⟨rfl,rfl⟩
  have empty (id : Nat) : (created configs).subscriptions.lookup id = none := lookup_empty id
  refine ⟨?_,?_,fun _ => empty,Nat.one_pos,?_,?_⟩
  · intro id topic
    simp [empty,live]
  · intro _ id topic
    refine ⟨nofun,?_⟩
    rintro ⟨positive,endpoint,found,rfl⟩
    exact absurd (fresh topic endpoint found).2 positive
  · intro id topic found
    contradiction
  · intro topic endpoint found
    exact iff_of_true (fresh topic endpoint found).1 ⟨rfl,not_mem_nil⟩

section

variable {t : Transport}

theorem Sound.unmoved {u : Transport} (sound : Sound t history) (closed : u.closed = t.closed)
    (next : t.nextSubscriptionId ≤ u.nextSubscriptionId)
    (subscriptions : ∀ id, u.subscriptions.lookup id = t.subscriptions.lookup id) (endpoints : ∀ topic,
      (u.endpoints.lookup topic).map (fun endpoint => (endpoint.subscriptionId,endpoint.channelOpen)) =
      (t.endpoints.lookup topic).map fun endpoint => (endpoint.subscriptionId,endpoint.channelOpen)) :
    Sound u (history ++ []) := by
  have origin (topic : Bytes) (endpoint : Endpoint) (found : u.endpoints.lookup topic = some endpoint) :
      ∃ old, t.endpoints.lookup topic = some old ∧ old.subscriptionId = endpoint.subscriptionId ∧
        old.channelOpen = endpoint.channelOpen := by
    have same := endpoints topic
    rw [found] at same
    obtain ⟨old,stored,equal⟩ := map_eq_some_iff.mp same.symm
    exact ⟨old,stored,congrArg Prod.fst equal,congrArg Prod.snd equal⟩
  have remains (topic : Bytes) (endpoint : Endpoint) (found : t.endpoints.lookup topic = some endpoint) :
      ∃ new, u.endpoints.lookup topic = some new ∧ new.subscriptionId = endpoint.subscriptionId := by
    have same := endpoints topic
    rw [found] at same
    obtain ⟨new,stored,equal⟩ := map_eq_some_iff.mp same
    exact ⟨new,stored,congrArg Prod.fst equal⟩
  rw [append_nil]
  refine ⟨?_,?_,?_,lt_of_lt_of_le sound.positive next,?_,?_⟩
  · intro id topic
    rw [subscriptions]
    exact sound.listed id topic
  · intro open_ id topic
    rw [subscriptions,sound.owned (closed ▸ open_)]
    refine and_congr_right fun _ => ⟨?_,?_⟩
    · rintro ⟨endpoint,found,rfl⟩
      exact remains topic endpoint found
    · rintro ⟨endpoint,found,rfl⟩
      obtain ⟨old,stored,same,-⟩ := origin topic endpoint found
      exact ⟨old,stored,same⟩
  · intro shut id
    rw [subscriptions]
    exact sound.cleared (closed ▸ shut) id
  · intro id topic found
    rw [subscriptions] at found
    exact lt_of_lt_of_le (sound.below id topic found) next
  · intro topic endpoint found
    obtain ⟨old,stored,-,same⟩ := origin topic endpoint found
    rw [← same,closed]
    exact sound.opened topic old stored

theorem register_fields (endpoint : Endpoint) (kind : LoopKind) (qos : QosProfile) :
    (endpoint.register kind qos).channelOpen = endpoint.channelOpen ∧
    (endpoint.register kind qos).receiver = endpoint.receiver ∧
    (endpoint.register kind qos).slot kind = true ∧
    (endpoint.register kind qos).slot kind.other = endpoint.slot kind.other := by
  cases kind <;> exact ⟨rfl,rfl,rfl,rfl⟩

theorem live_append (history : List Event) (event : Event) : live (history ++ [event]) =
    match event with
    | .subscribed _ topic id => live history ++ [(id,topic)]
    | .unsubscribed id _ => (live history).filter fun entry => entry.1 ≠ id
    | .closed => [] := by
  rw [live,foldl_append]
  rfl

section

variable (sound : Sound t history)

include sound

theorem Sound.started (vacant : t.Vacant topic endpoint) (kind : LoopKind) (qos : QosProfile) :
    Sound (t.admitted kind topic qos) (history ++ [.subscribed kind topic t.nextSubscriptionId]) := by
  obtain ⟨open_,found,free⟩ := vacant
  have unused : t.subscriptions.lookup t.nextSubscriptionId = none := by
    cases used : t.subscriptions.lookup t.nextSubscriptionId with
    | none => rfl
    | some other => exact absurd (sound.below _ other used) (lt_irrefl _)
  have entries (id : Nat) (other : Bytes) :
      (t.admitted kind topic qos).subscriptions.lookup id = some other ↔
        t.subscriptions.lookup id = some other ∨ id = t.nextSubscriptionId ∧ other = topic := by
    by_cases new : id = t.nextSubscriptionId
    · subst new
      simp [Transport.admitted,unused,eq_comm]
    · simp [Transport.admitted,new]
  have quiet : abandoned (history ++ [.subscribed kind topic t.nextSubscriptionId]) = abandoned history := by
    simp [abandoned]
  refine ⟨?_,?_,?_,succ_pos _,?_,?_⟩
  · intro id other
    rw [entries,sound.listed,live_append]
    simp
  · intro _ id other
    rw [entries,sound.owned open_]
    by_cases here : other = topic
    · subst here
      simp only [Transport.admitted,lookup_modify_same,found,map_some,some.injEq,exists_eq_left',
        free,and_true]
      constructor
      · rintro (⟨positive,rfl⟩ | rfl)
        · exact absurd rfl positive
        · exact ⟨Nat.pos_iff_ne_zero.mp sound.positive,rfl⟩
      · rintro ⟨-,rfl⟩
        exact .inr rfl
    · simp only [Transport.admitted,lookup_modify_other _ _ here,here,and_false,or_false]
  · intro shut
    exact absurd (open_.symm.trans shut) (by decide)
  · intro id other stored
    rcases (entries id other).mp stored with old | ⟨rfl,-⟩
    · exact lt_succ_of_lt (sound.below id other old)
    · exact lt_succ_self _
  · intro other changed stored
    rw [quiet]
    by_cases here : other = topic
    · subst here
      simp only [Transport.admitted,lookup_modify_same,found,map_some,some.injEq] at stored
      subst stored
      rw [(register_fields endpoint kind qos).1]
      exact sound.opened other endpoint found
    · simp only [Transport.admitted,lookup_modify_other _ _ here] at stored
      exact sound.opened other changed stored

theorem Sound.failed (vacant : t.Vacant topic endpoint) (kind : LoopKind) (qos : QosProfile) :
    Sound (t.rolledBack kind topic qos) (history ++ []) := by
  obtain ⟨open_,found,free⟩ := vacant
  refine sound.unmoved rfl (le_succ _) ?_ ?_
  · intro id
    by_cases new : id = t.nextSubscriptionId
    · subst new
      cases used : t.subscriptions.lookup t.nextSubscriptionId with
      | none => simp [Transport.rolledBack]
      | some other => exact absurd (sound.below _ other used) (lt_irrefl _)
    · simp [Transport.rolledBack,lookup_erase_ne new,lookup_insert_ne new]
  · intro other
    by_cases here : other = topic
    · subst here
      simp [Transport.rolledBack,found,free,(register_fields endpoint kind qos).1]
    · simp [Transport.rolledBack,here]

theorem Sound.dismissed {id : Nat} (found : t.subscriptions.lookup id = some topic) :
    Sound (t.dismissed id topic) (history ++ [.unsubscribed id topic]) := by
  have open_ : t.closed = false := by
    cases closed : t.closed with
    | false => rfl
    | true =>
      rw [sound.cleared closed] at found
      contradiction
  obtain ⟨-,endpoint,stored,number⟩ := (sound.owned open_ id topic).mp found
  have entries (other : Nat) (place : Bytes) : (t.dismissed id topic).subscriptions.lookup other = some place ↔
      t.subscriptions.lookup other = some place ∧ other ≠ id := by
    by_cases same : other = id
    · subst same
      simp [Transport.dismissed]
    · simp [Transport.dismissed,same]
  have given : abandoned (history ++ [.unsubscribed id topic]) = abandoned history ++ [topic] := by
    simp [abandoned]
  refine ⟨?_,?_,?_,sound.positive,?_,?_⟩
  · intro other place
    rw [entries,sound.listed,live_append]
    simp
  · intro _ other place
    rw [entries,sound.owned open_]
    by_cases here : place = topic
    · subst here
      simp only [Transport.dismissed,lookup_modify_same,stored,map_some,some.injEq,exists_eq_left',
        number]
      constructor
      · rintro ⟨⟨-,rfl⟩,apart⟩
        exact absurd rfl apart
      · rintro ⟨positive,rfl⟩
        exact absurd rfl positive
    · simp only [Transport.dismissed,lookup_modify_other _ _ here]
      refine ⟨And.left,fun owner => ⟨owner,?_⟩⟩
      rintro rfl
      have again := (sound.owned open_ other place).mpr owner
      exact here (some.inj (again.symm.trans found))
  · intro shut
    exact absurd (open_.symm.trans shut) (by decide)
  · intro other place held
    exact sound.below other place ((entries other place).mp held).1
  · intro place changed held
    rw [given,mem_append]
    by_cases here : place = topic
    · subst here
      simp only [Transport.dismissed,lookup_modify_same,stored,map_some,some.injEq] at held
      subst held
      simp
    · simp only [Transport.dismissed,lookup_modify_other _ _ here] at held
      simpa [here,Transport.dismissed] using sound.opened place changed held

theorem Sound.shut : Sound t.shut (history ++ [.closed]) := by
  have empty (id : Nat) : t.shut.subscriptions.lookup id = none := lookup_empty id
  refine ⟨?_,?_,fun _ => empty,sound.positive,?_,?_⟩
  · intro id topic
    rw [empty,live_append]
    simp
  · intro open_
    exact absurd open_ (by simp [Transport.shut])
  · intro id topic found
    contradiction
  · intro topic endpoint found
    simp only [Transport.shut,lookup_mapValues,map_eq_some_iff] at found
    obtain ⟨old,-,rfl⟩ := found
    simp [Transport.shut]

theorem Sound.exited (topic : Bytes) (change : Option Receiver → Option Receiver) :
    Sound { t with endpoints := t.endpoints.modify topic fun endpoint =>
      { endpoint with receiver := change endpoint.receiver } } (history ++ []) := by
  refine sound.unmoved rfl (le_refl _) (fun _ => rfl) ?_
  intro other
  by_cases here : other = topic
  · subst here
    simp [Function.comp_def]
  · simp [here]

theorem step_sound {u : Transport} (stepped : step t action = some (u,seen)) : Sound u (history ++ seen) := by
  cases step_took stepped with
  | unchanged =>
    rw [append_nil]
    exact sound
  | started kind qos vacant => exact sound.started vacant kind qos
  | failed kind qos vacant => exact sound.failed vacant kind qos
  | dismissed found => exact sound.dismissed found
  | shut => exact sound.shut
  | exited topic change => exact sound.exited topic change

end

/-- A new subscription lives exactly when its endpoint's channel was open and the other callback unset. -/
theorem admitted_live_iff (vacant : t.Vacant topic endpoint) (kind : LoopKind) (qos : QosProfile) :
    ∃ after, (t.admitted kind topic qos).endpoints.lookup topic = some after ∧
      (after.Live ↔ endpoint.channelOpen = true ∧ endpoint.slot kind.other = false) := by
  obtain ⟨channel,-,own,other⟩ := register_fields endpoint kind qos
  refine ⟨{ endpoint.register kind qos with
    subscriptionId := t.nextSubscriptionId, receiver := some { loop := kind } },?_,?_⟩
  · simp [Transport.admitted,vacant.2.1]
  · have slots : (endpoint.register kind qos).callback ≠ (endpoint.register kind qos).loanedCallback ↔
        endpoint.slot kind.other = false := by
      rw [← other]
      cases kind with
      | copy =>
        have own : (endpoint.register .copy qos).callback = true := own
        simp [own,Endpoint.slot,LoopKind.other]
      | loaned =>
        have own : (endpoint.register .loaned qos).loanedCallback = true := own
        simp [own,Endpoint.slot,LoopKind.other]
    constructor
    · rintro ⟨open_,callbacks,-⟩
      exact ⟨channel.symm.trans open_,slots.mp callbacks⟩
    · rintro ⟨open_,free⟩
      exact ⟨channel.trans open_,slots.mpr free,_,rfl,rfl⟩

end

/-- In every state that calls can lead to, the map holds the live numbers, one for an endpoint at most,
and a channel is closed once a subscription of its endpoint has been given back. A call that then
returns a number has made a live subscription exactly when it found the channel open and the
callback of the other kind unset. -/
theorem subscription_live_iff (ran : subscriptionSystem.run (created configs) actions = some (t,history)) :
    (∀ id topic, t.subscriptions.lookup id = some topic ↔ (id,topic) ∈ live history) ∧
    (∀ id other topic, (id,topic) ∈ live history → (other,topic) ∈ live history → id = other) ∧
    (∀ topic endpoint, t.endpoints.lookup topic = some endpoint →
      (endpoint.channelOpen = true ↔ t.closed = false ∧ topic ∉ abandoned history)) ∧
    ∀ action u seen kind topic id, step t action = some (u,seen) → .subscribed kind topic id ∈ seen →
      ∃ before after, t.endpoints.lookup topic = some before ∧ u.endpoints.lookup topic = some after ∧
        (after.Live ↔ before.channelOpen = true ∧ before.slot kind.other = false) := by
  have sound : Sound t history :=
    Machine.run_invariant (motive := Sound) (fun _ _ _ _ _ sound stepped => step_sound sound stepped)
      (created_sound configs) ran
  refine ⟨sound.listed,?_,sound.opened,?_⟩
  · intro id other topic one another
    have one := (sound.listed id topic).mpr one
    have another := (sound.listed other topic).mpr another
    cases closed : t.closed with
    | true =>
      rw [sound.cleared closed] at one
      contradiction
    | false =>
      obtain ⟨-,endpoint,found,rfl⟩ := (sound.owned closed id topic).mp one
      obtain ⟨-,same,stored,rfl⟩ := (sound.owned closed other topic).mp another
      rw [some.inj (found.symm.trans stored)]
  · intro action u seen kind topic id stepped member
    cases step_took stepped with
    | unchanged | failed | exited => contradiction
    | dismissed | shut => simp at member
    | @started place endpoint loop qos vacant =>
      obtain ⟨rfl,rfl,rfl⟩ : kind = loop ∧ topic = place ∧ id = t.nextSubscriptionId := by simpa using member
      obtain ⟨later,stored,lives⟩ := admitted_live_iff vacant kind qos
      exact ⟨endpoint,later,vacant.2.1,stored,lives⟩

def viewerConfig : FastIpcEndpointConfig := { cameraConfig with direction := .subscribe }

def viewer : Transport := created (AList.singleton [99] viewerConfig)

def viewers : Transport := created ((AList.singleton [99] viewerConfig).insert [98] viewerConfig)

theorem subscription_live_iff_sample : ∃ t history u seen later,
    subscriptionSystem.run viewers [.subscribe [99] {} false (.ok ()),.subscribe [98] {} true (.ok ())] =
      some (t,history) ∧
    live history = [(1,[98])] ∧ t.subscriptions.lookup 1 = some [98] ∧
    step t (.subscribeLoaned [99] {} true (.ok ())) = some (u,seen) ∧ seen = [.subscribed .loaned [99] 2] ∧
    u.endpoints.lookup [99] = some later ∧ later.Live := by
  have ran : subscriptionSystem.run viewers [.subscribe [99] {} false (.ok ()),.subscribe [98] {} true (.ok ())] =
      some (viewers.admitted .copy [98] {},_) := rfl
  have stepped : step (viewers.admitted .copy [98] {}) (.subscribeLoaned [99] {} true (.ok ())) = some (_,_) := rfl
  obtain ⟨listed,-,-,started⟩ := subscription_live_iff ran
  obtain ⟨before,later,found,stored,lives⟩ := started _ _ _ _ _ _ stepped mem_cons_self
  obtain rfl : ({ config := viewerConfig } : Endpoint) = before := some.inj found
  exact ⟨_,_,_,_,later,ran,rfl,(listed 1 [98]).mpr (.head _),stepped,rfl,stored,lives.mpr ⟨rfl,rfl⟩⟩

/-- An endpoint that is subscribed to again has a closed channel; one whose first receiver did not
start has both callbacks. -/
theorem subscription_not_live :
    (∃ t u later, subscriptionSystem.run viewer [.subscribe [99] {} true (.ok ()),.unsubscribe 1] =
        some (t,[.subscribed .copy [99] 1,.unsubscribed 1 [99]]) ∧
      t.subscribe [99] {} true (.ok ()) = (u,.ok 2) ∧ u.endpoints.lookup [99] = some later ∧
      later.channelOpen = false ∧ ¬later.Live) ∧
    ∃ t u later, subscriptionSystem.run viewer [.subscribe [99] {} true (.error "no thread")] = some (t,[]) ∧
      t.subscribeLoaned [99] {} true (.ok ()) = (u,.ok 2) ∧ u.endpoints.lookup [99] = some later ∧
      later.callback = true ∧ later.loanedCallback = true ∧ ¬later.Live := by
  refine ⟨⟨_,_,_,rfl,rfl,rfl,rfl,?_⟩,_,_,_,rfl,rfl,rfl,rfl,rfl,?_⟩
  · rintro ⟨channel,-,-⟩
    contradiction
  · rintro ⟨-,callbacks,-⟩
    exact callbacks rfl

end AutoRuntime.FastIpc
