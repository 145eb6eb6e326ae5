import AutoRuntime.DdsRpcWiring
import AutoRuntime.Transport

/-! The RPC counters of the engines. Every step of a domain names the engine whose `Request` counts a
request or a failure in it, and the engine whose service thread counts one. -/
namespace AutoRuntime.DdsRpc

open List Pool Option

/-- The call whose failure a step of the channel counts. -/
def Channel.countsFailure (channel : Channel) : ChannelAction → Option Nat
  | .insert index => do
    let call ← channel.calls[index]?
    if channel.closed then some index
    else if (channel.pending.lookup call.requestId).isSome then some index
    else none
  | .withdraw index => some index
  | .expire index _ => some index
  | .wake index => do
    let call ← channel.calls[index]?
    let .error _ ← call.result | none
    some index
  | _ => none

/-- The engine whose `Request` counts a failure. -/
def Domain.requestFailure (domain : Domain) : DomainAction → Option Nat
  | .request index serviceName request deadline now => do
    let engine ← domain.engines[index]?
    if ¬ValidServiceName serviceName ∨ request.envelope.version ≠ messageEnvelopeVersion ∨
        request.payload.length > engine.config.maxPayloadSize then some index
    else if deadline.expired now then some index
    else none
  | .connect index creation => do
    let caller ← domain.callers[index]?
    let engine ← domain.engines[caller.engine]?
    if engine.closed then some caller.engine
    else
      match engine.clients.lookup caller.serviceName, creation with
      | none, some _ => some caller.engine
      | _, _ => none
  | .client index action => do
    let client ← domain.clients[index]?
    let _ ← client.channel.countsFailure action
    some client.engine
  | _ => none

/-- The engine whose `ReceiveRequests` counts one: for a response without a message, and for a
response that `dds_write` refuses. -/
def Domain.serviceFailure (domain : Domain) (writeFails : Bool) : DomainAction → Option Nat
  | .dispatch index made checked ended => do
    let endpoint ← domain.endpoints[index]?
    let engine ← domain.engines[endpoint.engine]?
    let .dispatching sample := endpoint.phase | none
    match checkResponse engine.config (DdsRpc.dispatch sample made checked ended) with
    | .ok _ => none
    | .error _ => some endpoint.engine
  | .respond index _ => do
    let endpoint ← domain.endpoints[index]?
    if writeFails then some endpoint.engine else none
  | _ => none

/-- The engine whose `Request` counts a request: the write went well. -/
def Domain.requestWritten (domain : Domain) : DomainAction → Option Nat
  | .write index _ none _ => do
    let client ← domain.clients[index]?
    some client.engine
  | _ => none

structure Metered where
  domain : Domain := {}
  stats : Nat → RpcStats := fun _ => {}

def Metered.count (counted : RpcStats → RpcStats) (stats : Nat → RpcStats) : Option Nat → Nat → RpcStats
  | none => stats
  | some engine => Function.update stats engine (counted (stats engine))

/-- A step of the domain, with what `dds_write` says to the service thread. -/
def Metered.step (s : Metered) (input : DomainAction × Bool) : Option (Metered × List DomainEvent) := do
  let (domain,emitted) ← s.domain.step input.1
  let written := Metered.count .countRequest s.stats (s.domain.requestWritten input.1)
  let requested := Metered.count .countFailure written (s.domain.requestFailure input.1)
  let served := Metered.count .countFailure requested (s.domain.serviceFailure input.2 input.1)
  some (⟨domain,served⟩,emitted)

def meteredDomain : Machine Metered (DomainAction × Bool) DomainEvent := ⟨Metered.step⟩

def CallPhase.fails : CallPhase → Bool
  | .returned (.error _) => true
  | _ => false

def Channel.fails (channel : Channel) (number : Nat) : Bool := channel.calls[number]?.any (·.phase.fails)

def Domain.callFails (domain : Domain) (index number : Nat) : Bool :=
  domain.clients[index]?.any (·.channel.fails number)

/-- `Request` returned an error, on its own or from its channel. -/
def Caller.fails (calls : Nat → Nat → Bool) (caller : Caller) : Bool :=
  match caller.stage with
  | .returned _ => true
  | .entered client number _ => calls client number
  | .connecting | .numbering _ _ => false

/-- The calls of `Request` on this engine that returned an error. -/
def Domain.failedRequests (domain : Domain) (engine : Nat) : Nat :=
  domain.callers.countP fun caller => caller.engine == engine && caller.fails domain.callFails

/-- The call whose `Request` returns an error. -/
def ChannelEvent.failing : ChannelEvent → Option Nat
  | .failed index _ => some index
  | .answered index (.error _) => some index
  | _ => none

theorem clear_failing (channel : Channel) : channel.clear.2.filterMap ChannelEvent.failing = [] := by
  simp [Channel.clear,ChannelEvent.failing]

/-- A step counts a failure exactly where it returns an error. -/
theorem step_counts {channel next : Channel} (stepped : channel.step action = some (next,emitted)) :
    emitted.filterMap ChannelEvent.failing = (channel.countsFailure action).toList := by
  cases action with
  | insert =>
    simp only [Channel.step,Channel.insert,bind_eq_bind,bind_eq_some_iff] at stepped
    obtain ⟨call,active,stepped⟩ := stepped
    simp only [Channel.countsFailure,active,bind_eq_bind,bind_some]
    split at stepped
    · split at stepped
      next closed =>
        cases stepped
        rw [if_pos closed]
        rfl
      next opened =>
        rw [if_neg opened]
        split at stepped
        next collided =>
          cases stepped
          rw [if_pos collided]
          rfl
        next free =>
          cases stepped
          rw [if_neg free]
          rfl
    · contradiction
  | wake =>
    simp only [Channel.step,Channel.wake,bind_eq_bind,bind_eq_some_iff] at stepped
    obtain ⟨call,active,stepped⟩ := stepped
    split at stepped
    · simp only [bind_eq_some_iff] at stepped
      obtain ⟨outcome,result,-,rfl⟩ := stepped
      simp only [Channel.countsFailure,active,result,bind_eq_bind,bind_some]
      cases outcome <;> rfl
    · contradiction
  | proceed =>
    simp only [Channel.step,Channel.proceed,bind_eq_bind,bind_eq_some_iff] at stepped
    obtain ⟨phase,active,stepped⟩ := stepped
    cases phase with
    | clearing =>
      cases stepped
      exact clear_failing channel
    | exchanging =>
      simp only at stepped
      split at stepped <;> cases stepped <;> rfl
    | passing | joining =>
      simp only at stepped
      split at stepped <;> cases stepped
      rfl
    | returned => contradiction
  | complete =>
    simp only [Channel.step,Channel.complete] at stepped
    split at stepped
    · split at stepped
      · cases stepped
        rfl
      · simp only [bind_eq_bind,bind_eq_some_iff] at stepped
        obtain ⟨call,-,-,rfl⟩ := stepped
        rfl
    · contradiction
  | enter | closeClient =>
    cases stepped
    rfl
  | receive | endReceiver =>
    simp only [Channel.step,Channel.receive,Channel.endReceiver] at stepped
    split at stepped <;> cases stepped
    rfl
  | write | withdraw =>
    simp only [Channel.step,Channel.write,Channel.withdraw,bind_eq_bind,bind_eq_some_iff] at stepped
    obtain ⟨call,-,stepped⟩ := stepped
    split at stepped <;> cases stepped
    rfl
  | budget | check | expire =>
    simp only [Channel.step,Channel.budget,Channel.check,Channel.expire,bind_eq_bind,bind_eq_some_iff] at stepped
    obtain ⟨call,-,stepped⟩ := stepped
    split at stepped
    · split at stepped <;> cases stepped <;> rfl
    · contradiction

theorem Busy.unfailing {phase : CallPhase} (busy : phase.Busy) : phase.fails = false := by
  cases phase with
  | returned => exact busy.elim
  | _ => rfl

theorem set_fails {calls : List Call} {call changed : Call} (active : calls[index]? = some call)
    (before : call.phase.fails = false) (number : Nat) :
    (calls.set index changed)[number]?.any (·.phase.fails) =
      (calls[number]?.any (·.phase.fails) || decide (number = index) && changed.phase.fails) := by
  rw [any_set _ active]
  by_cases same : number = index
  · simp [same,active,before]
  · simp [same]

/-- Whoever fails in a step had not failed, and nobody else fails in it. -/
structure Fails (channel next : Channel) (failing : List Nat) : Prop where
  fails : ∀ number, next.fails number = (channel.fails number || failing.contains number)
  fresh : ∀ number ∈ failing, ∃ call, channel.calls[number]? = some call ∧ call.phase.fails = false

theorem Fails.none {channel next : Channel} (same : ∀ number, next.fails number = channel.fails number) :
    Fails channel next [] := by
  refine ⟨fun number => ?_,by simp⟩
  simp [same number]

theorem Fails.silent {channel next : Channel} {call changed : Call} (active : channel.calls[index]? = some call)
    (before : call.phase.fails = false) (still : changed.phase.fails = false)
    (calls : next.calls = channel.calls.set index changed) : Fails channel next [] := by
  refine .none fun number => ?_
  rw [Channel.fails,calls,set_fails active before,still,Bool.and_false,Bool.or_false]
  rfl

theorem Fails.one {channel next : Channel} {call changed : Call} (active : channel.calls[index]? = some call)
    (before : call.phase.fails = false) (failed : changed.phase.fails = true)
    (calls : next.calls = channel.calls.set index changed) : Fails channel next [index] := by
  refine ⟨fun number => ?_,by simpa using ⟨call,active,before⟩⟩
  rw [Channel.fails,calls,set_fails active before,failed]
  simp [Channel.fails]

theorem moved_fails {channel next : Channel} (moved : Moved channel action next emitted) :
    Fails channel next (emitted.filterMap ChannelEvent.failing) := by
  cases moved with
  | entered => exact .none fun number => any_concat _ _ rfl number
  | refused active before => exact .one active (by rw [before]; rfl) rfl rfl
  | inserted active before => exact .silent active (by rw [before]; rfl) rfl rfl
  | advanced active busy still => exact .silent active (Busy.unfailing busy) (Busy.unfailing still) rfl
  | wrote active before still => exact .silent active (by rw [before]; rfl) (Busy.unfailing still) rfl
  | gaveUp active busy => exact .one active (Busy.unfailing busy) rfl removePending_calls
  | @answered _ _ _ outcome active before result =>
    cases outcome with
    | ok => exact .silent active (by rw [before]; rfl) rfl rfl
    | error => exact .one active (by rw [before]; rfl) rfl rfl
  | @completed _ _ _ _ call before known active =>
    refine .none fun number => ?_
    refine (any_set _ active _ number).trans ?_
    split
    next same => simp [Channel.fails,same,active]
    · rfl
  | cleared =>
    rw [clear_failing]
    refine .none fun number => ?_
    simp only [Channel.fails,clear_calls,Option.any_map]
    congr 1
    funext call
    exact congrArg CallPhase.fails afterClear_phase
  | _ => exact .none fun number => rfl

theorem step_fails {channel next : Channel} (stepped : channel.step action = some (next,emitted)) :
    Fails channel next (channel.countsFailure action).toList :=
  step_counts stepped ▸ moved_fails (step_moved stepped)

variable {domain next : Domain}

theorem setClient_callFails {client : Client} (active : domain.clients[index]? = some client)
    (fails : Fails client.channel channel failing) (place number : Nat) :
    (domain.setClient index { client with channel := channel }).callFails place number =
      (domain.callFails place number || decide (place = index) && failing.contains number) := by
  refine (any_set _ active _ place).trans ?_
  split
  next same => simp [Domain.callFails,same,active,fails.fails number]
  next apart => simp [Domain.callFails,apart]

section Counting

variable {domain next : Domain} {engine : Nat} {counted : Bool}

theorem failedRequests_concat {new : Caller} (callers : next.callers = domain.callers ++ [new])
    (fails : next.callFails = domain.callFails)
    (share : (new.engine == engine && new.fails domain.callFails) = counted) :
    next.failedRequests engine = domain.failedRequests engine + counted.toNat := by
  rw [Domain.failedRequests,callers,fails,countP_concat,share]
  rfl

theorem failedRequests_set {caller : Caller} {stage : CallerStage} (active : domain.callers[index]? = some caller)
    (before : caller.fails domain.callFails = false)
    (callers : next.callers = domain.callers.set index { caller with stage := stage })
    (fails : next.callFails = domain.callFails)
    (share : (caller.engine == engine && ({ caller with stage := stage } : Caller).fails domain.callFails) = counted) :
    next.failedRequests engine = domain.failedRequests engine + counted.toNat := by
  have changes := countP_set (fun caller => caller.engine == engine && caller.fails domain.callFails)
    domain.callers active { caller with stage := stage }
  simp only [before,Bool.and_false,share] at changes
  rw [Domain.failedRequests,callers,fails]
  exact changes

end Counting

theorem request_counts (stepped : domain.request index serviceName request deadline now = some (next,emitted))
    (engine : Nat) : next.failedRequests engine = domain.failedRequests engine +
      (domain.requestFailure (.request index serviceName request deadline now) == some engine).toNat := by
  simp only [Domain.request,bind_eq_bind,bind_eq_some_iff] at stepped
  obtain ⟨home,active,stepped⟩ := stepped
  simp only [Domain.requestFailure,active,bind_eq_bind,bind_some]
  split at stepped
  next invalid =>
    cases stepped
    rw [if_pos invalid]
    exact failedRequests_concat rfl rfl (by simp [Caller.fails])
  next valid =>
    rw [if_neg valid]
    split at stepped
    next expired =>
      cases stepped
      rw [if_pos expired]
      exact failedRequests_concat rfl rfl (by simp [Caller.fails])
    next timely =>
      cases stepped
      rw [if_neg timely]
      exact failedRequests_concat rfl rfl (by simp [Caller.fails])

theorem connect_counts (stepped : domain.connect index creation = some (next,emitted)) (engine : Nat) :
    next.failedRequests engine = domain.failedRequests engine +
      (domain.requestFailure (.connect index creation) == some engine).toNat := by
  simp only [Domain.connect,bind_eq_bind,bind_eq_some_iff] at stepped
  obtain ⟨caller,active,stepped⟩ := stepped
  split at stepped
  next before =>
    have unfailing : caller.fails domain.callFails = false := by rw [Caller.fails,before]
    simp only [bind_eq_some_iff] at stepped
    obtain ⟨home,found,stepped⟩ := stepped
    simp only [Domain.requestFailure,active,found,bind_eq_bind,bind_some]
    split at stepped
    next closed =>
      cases stepped
      rw [if_pos closed]
      exact failedRequests_set active unfailing rfl rfl (by simp [Caller.fails])
    next opened =>
      rw [if_neg opened]
      split at stepped
      next client known =>
        cases stepped
        rw [known]
        exact failedRequests_set active unfailing rfl rfl (by simp [Caller.fails])
      next unknown =>
        rw [unknown]
        cases creation with
        | some =>
          cases stepped
          exact failedRequests_set active unfailing rfl rfl (by simp [Caller.fails])
        | none =>
          cases stepped
          refine failedRequests_set active unfailing rfl ?_ ?_
          · funext place number
            exact any_concat _ _ rfl place
          · simp [Caller.fails]
  · contradiction

theorem number_counts (stepped : domain.number index = some (next,emitted)) (engine : Nat) :
    next.failedRequests engine = domain.failedRequests engine + false.toNat := by
  simp only [Domain.number,bind_eq_bind,bind_eq_some_iff] at stepped
  obtain ⟨caller,active,stepped⟩ := stepped
  split at stepped
  next client again before =>
    have unfailing : caller.fails domain.callFails = false := by rw [Caller.fails,before]
    simp only [bind_eq_some_iff] at stepped
    obtain ⟨home,found,stepped⟩ := stepped
    split at stepped
    · cases stepped
      exact failedRequests_set active unfailing rfl rfl (by simp [Caller.fails])
    · simp only [bind_eq_some_iff] at stepped
      obtain ⟨owner,present,⟨channel,events⟩,entered,stepped⟩ := stepped
      cases stepped
      replace present : domain.clients[client]? = some owner := present
      have same : domain.callFails client owner.channel.calls.length = false := by
        simp [Domain.callFails,present,Channel.fails]
      refine failedRequests_set active unfailing rfl ?_ ?_
      · funext place number
        exact (setClient_callFails present (step_fails entered) place number).trans (by simp [Channel.countsFailure])
      · simp [Caller.fails,same]
  · contradiction

/-- The call of its channel that this call of `Request` is. -/
def Caller.place (caller : Caller) : Option (Nat × Nat) :=
  match caller.stage with
  | .entered client number _ => some (client,number)
  | _ => none

def Domain.places (domain : Domain) : List (Nat × Nat) := domain.callers.filterMap Caller.place

theorem Caller.place_eq_some {caller : Caller} (placed : caller.place = some (client,number)) :
    ∃ requestId, caller.stage = .entered client number requestId := by
  simp only [Caller.place] at placed
  split at placed
  next own seat requestId entered =>
    cases placed
    exact ⟨requestId,entered⟩
  · contradiction

theorem Wired.free (wired : Wired domain) {owner : Client} (found : domain.clients[client]? = some owner) :
    (client,owner.channel.calls.length) ∉ domain.places := by
  intro member
  obtain ⟨caller,listed,placed⟩ := mem_filterMap.mp member
  obtain ⟨requestId,entered⟩ := Caller.place_eq_some placed
  have staged := wired.staged caller listed
  simp only [Domain.Staged,entered] at staged
  obtain ⟨-,same,again,numbered⟩ := staged
  cases found.symm.trans again
  simp [Channel.numbers] at numbered

/-- No two calls of `Request` are the same call of a channel. -/
theorem took_places (wired : Wired domain) (apart : domain.places.Nodup) (took : Took domain next emitted) :
    next.places.Nodup := by
  have stays (index : Nat) (caller changed : Caller) (active : domain.callers[index]? = some caller)
      (same : changed.place = caller.place) :
      ((domain.callers.set index changed).filterMap Caller.place).Nodup :=
    (filterMap_set_same Caller.place _ active same).symm ▸ apart
  cases took with
  | @requested _ new home stage quiet =>
    have nowhere : new.place = none := by
      rcases stage with ⟨connecting,-⟩ | ⟨failure,returned⟩
      · rw [Caller.place,connecting]
      · rw [Caller.place,returned]
    rw [Domain.places,filterMap_append,filterMap_cons_none nowhere]
    simpa [Domain.places] using apart
  | refused active before | connected active before | opened active before | redrawn active before =>
    exact stays _ _ _ active (by simp [Caller.place,before])
  | @numbered _ _ index caller engine owner client again active before home found stepped =>
    have exchanged := filterMap_set_perm Caller.place domain.callers active
      { caller with stage := .entered client owner.channel.calls.length engine.nextRequestId }
    rw [show caller.place = none by rw [Caller.place,before]] at exchanged
    exact exchanged.nodup_iff.mpr (nodup_cons.mpr ⟨wired.free found,apart⟩)
  | _ => exact apart

/-- Exactly one call of `Request` is behind a call of a channel, and it is of the channel's engine. -/
theorem Wired.behind (wired : Wired domain) (apart : domain.places.Nodup) {client : Client}
    (active : domain.clients[index]? = some client) (inside : client.channel.calls[number]? = some call)
    (engine : Nat) :
    (domain.callers.countP fun caller => caller.engine == engine && caller.place == some (index,number)) =
      (client.engine == engine).toNat := by
  have carries : domain.Carries index number call.requestId := ⟨client,active,by simp [Channel.numbers,inside]⟩
  obtain ⟨caller,listed,entered⟩ := wired.owned index number call.requestId carries
  have placed : (index,number) ∈ domain.places := mem_filterMap.mpr ⟨caller,listed,by rw [Caller.place,entered]⟩
  have once := count_eq_one_of_mem apart placed
  rw [Domain.places,count_filterMap] at once
  -- whoever is there belongs to the engine of the client
  have home (other : Caller) (member : other ∈ domain.callers) (there : other.place = some (index,number)) :
      other.engine = client.engine := by
    obtain ⟨requestId,stage⟩ := Caller.place_eq_some there
    have staged := wired.staged other member
    simp only [Domain.Staged,stage] at staged
    obtain ⟨⟨same,again,belongs,-⟩,-⟩ := staged
    cases active.symm.trans again
    exact belongs.symm
  cases mine : client.engine == engine with
  | true =>
    rw [Bool.toNat_true,← once]
    refine countP_congr fun other member => ?_
    simp only [Bool.and_eq_true,beq_iff_eq] at mine ⊢
    exact ⟨And.right,fun there => ⟨(home other member there).trans mine,there⟩⟩
  | false =>
    refine countP_eq_zero.mpr fun other member both => ?_
    simp only [Bool.and_eq_true,beq_iff_eq] at both
    simp [← home other member both.2,both.1] at mine

theorem Caller.fails_more {calls later : Nat → Nat → Bool} (before : calls index number = false)
    (more : ∀ place seat, later place seat = (calls place seat || decide (place = index) && decide (seat = number)))
    (caller : Caller) :
    (caller.fails later).toNat = (caller.fails calls).toNat + (caller.place == some (index,number)).toNat := by
  simp only [Caller.fails,Caller.place]
  cases caller.stage with
  | entered place seat =>
    by_cases same : place = index ∧ seat = number
    · obtain ⟨rfl,rfl⟩ := same
      simp [more,before]
    · have apart : (some (place,seat) == some (index,number)) = false := by simpa using same
      have still : (decide (place = index) && decide (seat = number)) = false := by simpa using same
      simp only [more,still,apart,Bool.or_false,Bool.toNat_false,Nat.add_zero]
  | _ => rfl

theorem moveClient_counts (wired : Wired domain) (apart : domain.places.Nodup)
    (stepped : domain.moveClient index action = some (next,emitted)) (engine : Nat) :
    next.failedRequests engine = domain.failedRequests engine +
      (domain.requestFailure (.client index action) == some engine).toNat := by
  obtain ⟨client,channel,events,active,moved,changed,-⟩ := moveClient_some stepped
  have fails := step_fails moved
  have after := setClient_callFails active fails
  have callers : next.callers = domain.callers := by rw [changed]; rfl
  rw [← changed] at after
  simp only [Domain.requestFailure,active,bind_eq_bind,bind_some,Domain.failedRequests,callers]
  cases counted : client.channel.countsFailure action with
  | none =>
    have same : next.callFails = domain.callFails := by
      funext place number
      simpa [counted] using after place number
    rw [same]
    rfl
  | some number =>
    obtain ⟨call,inside,unfailing⟩ := fails.fresh number (by simp [counted])
    have before : domain.callFails index number = false := by
      simp [Domain.callFails,active,Channel.fails,inside,unfailing]
    have more (place seat : Nat) : next.callFails place seat =
        (domain.callFails place seat || decide (place = index) && decide (seat = number)) :=
      (after place seat).trans (by simp [counted])
    have pointwise (caller : Caller) :
        (caller.engine == engine && caller.fails next.callFails).toNat + Bool.toNat false =
        (caller.engine == engine && caller.fails domain.callFails).toNat +
          (caller.engine == engine && caller.place == some (index,number)).toNat := by
      cases caller.engine == engine with
      | true => simpa using Caller.fails_more before more caller
      | false => rfl
    have sorted := countP_split domain.callers pointwise
    rw [wired.behind apart active inside engine,countP_false] at sorted
    exact sorted

/-- Apart from `Request` and the channels, nothing touches a call. -/
def DomainAction.calls : DomainAction → Bool
  | .request _ _ _ _ _ | .connect _ _ | .number _ | .client _ _ | .write _ _ _ _ | .takeResponse _ _
  | .closeClient _ => true
  | _ => false

theorem step_calm (stepped : domain.step action = some (next,emitted)) (calm : action.calls = false) :
    next.callers = domain.callers ∧ next.clients = domain.clients := by
  cases action with
  | request | connect | number | client | write | takeResponse | closeClient => contradiction
  | create =>
    cases stepped
    exact ⟨rfl,rfl⟩
  | advertise _ _ creation =>
    simp only [Domain.step,Domain.advertise,bind_eq_bind,bind_eq_some_iff] at stepped
    obtain ⟨engine,-,stepped⟩ := stepped
    split at stepped
    · cases stepped
      exact ⟨rfl,rfl⟩
    split at stepped
    · cases stepped
      exact ⟨rfl,rfl⟩
    split at stepped
    · cases stepped
      exact ⟨rfl,rfl⟩
    cases creation <;> cases stepped <;> exact ⟨rfl,rfl⟩
  | remove =>
    simp only [Domain.step,Domain.remove,bind_eq_bind,bind_eq_some_iff] at stepped
    obtain ⟨engine,-,stepped⟩ := stepped
    split at stepped
    · cases stepped
      exact ⟨rfl,rfl⟩
    split at stepped
    · cases stepped
      exact ⟨rfl,rfl⟩
    · obtain ⟨endpoint,-,stepped⟩ := bind_eq_some_iff.mp stepped
      cases stepped
      exact ⟨rfl,rfl⟩
  | takeRequest =>
    simp only [Domain.step,Domain.takeRequest,bind_eq_bind,bind_eq_some_iff] at stepped
    obtain ⟨endpoint,-,engine,-,stepped⟩ := stepped
    split at stepped
    · obtain ⟨wire,-,stepped⟩ := bind_eq_some_iff.mp stepped
      split at stepped
      · contradiction
      split at stepped <;> cases stepped <;> exact ⟨rfl,rfl⟩
    · contradiction
  | dispatch =>
    simp only [Domain.step,Domain.dispatch,bind_eq_bind,bind_eq_some_iff] at stepped
    obtain ⟨endpoint,-,engine,-,stepped⟩ := stepped
    split at stepped <;> cases stepped
    exact ⟨rfl,rfl⟩
  | respond =>
    simp only [Domain.step,Domain.respond,bind_eq_bind,bind_eq_some_iff] at stepped
    obtain ⟨endpoint,-,stepped⟩ := stepped
    split at stepped
    · split at stepped <;> cases stepped <;> exact ⟨rfl,rfl⟩
    · contradiction
  | endRequests =>
    simp only [Domain.step,Domain.endRequests,bind_eq_bind,bind_eq_some_iff] at stepped
    obtain ⟨endpoint,-,stepped⟩ := stepped
    split at stepped <;> cases stepped
    exact ⟨rfl,rfl⟩
  | close =>
    simp only [Domain.step,Domain.close,bind_eq_bind,bind_eq_some_iff] at stepped
    obtain ⟨engine,-,stepped⟩ := stepped
    split at stepped <;> cases stepped <;> exact ⟨rfl,rfl⟩
  | closeService =>
    simp only [Domain.step,Domain.closeService,bind_eq_bind,bind_eq_some_iff] at stepped
    obtain ⟨endpoint,-,stepped⟩ := stepped
    cases stepped
    exact ⟨rfl,rfl⟩

theorem step_failedRequests (wired : Wired domain) (apart : domain.places.Nodup)
    (stepped : domain.step action = some (next,emitted)) (engine : Nat) :
    next.failedRequests engine = domain.failedRequests engine +
      (domain.requestFailure action == some engine).toNat := by
  cases action with
  | request => exact request_counts stepped engine
  | connect => exact connect_counts stepped engine
  | number => exact number_counts stepped engine
  | client =>
    simp only [Domain.step] at stepped
    split at stepped
    · exact moveClient_counts wired apart stepped engine
    · contradiction
  | write =>
    simp only [Domain.step,Domain.write,bind_eq_bind,bind_eq_some_iff] at stepped
    obtain ⟨client,active,home,-,caller,-,stepped⟩ := stepped
    split at stepped
    · simp only [bind_eq_some_iff] at stepped
      obtain ⟨⟨reached,events⟩,moved,stepped⟩ := stepped
      have counts := moveClient_counts wired apart moved engine
      simp only [Domain.requestFailure,active] at counts
      split at stepped
      · cases stepped
        exact counts
      · cases stepped
        exact counts
    · contradiction
  | takeResponse =>
    simp only [Domain.step,Domain.takeResponse,bind_eq_bind,bind_eq_some_iff] at stepped
    obtain ⟨client,active,home,-,stepped⟩ := stepped
    split at stepped
    · simp only [bind_eq_some_iff] at stepped
      obtain ⟨⟨topic,wire⟩,-,stepped⟩ := stepped
      split at stepped
      · contradiction
      split at stepped
      · cases stepped
        rfl
      · have counts := moveClient_counts wired apart stepped engine
        simpa [Domain.requestFailure,Channel.countsFailure] using counts
    · contradiction
  | closeClient =>
    simp only [Domain.step,Domain.closeClient,bind_eq_bind,bind_eq_some_iff] at stepped
    obtain ⟨client,active,home,-,stepped⟩ := stepped
    split at stepped
    · have counts := moveClient_counts wired apart stepped engine
      simpa [Domain.requestFailure,Channel.countsFailure] using counts
    · contradiction
  | _ =>
    have calm := step_calm stepped rfl
    have same : next.callFails = domain.callFails := by
      funext index number
      rw [Domain.callFails,calm.2]
      rfl
    rw [Domain.failedRequests,calm.1,same]
    rfl

@[simp] theorem count_request_rpcFailures (stats : Nat → RpcStats) (site : Option Nat) (engine : Nat) :
    (Metered.count .countRequest stats site engine).rpcFailures = (stats engine).rpcFailures := by
  cases site with
  | none => rfl
  | some home => by_cases same : engine = home <;> simp [Metered.count,same,RpcStats.countRequest]

@[simp] theorem count_failure_rpcFailures (stats : Nat → RpcStats) (site : Option Nat) (engine : Nat) :
    (Metered.count .countFailure stats site engine).rpcFailures =
      (stats engine).rpcFailures + (site == some engine).toNat := by
  cases site with
  | none => rfl
  | some home =>
    by_cases same : home = engine
    · simp [Metered.count,same,RpcStats.countFailure]
    · simp [Metered.count,Ne.symm same,same]

theorem metered_step {s t : Metered} (stepped : s.step input = some (t,emitted)) :
    s.domain.step input.1 = some (t.domain,emitted) ∧
      ∀ engine, (t.stats engine).rpcFailures = (s.stats engine).rpcFailures +
        (s.domain.requestFailure input.1 == some engine).toNat +
        (s.domain.serviceFailure input.2 input.1 == some engine).toNat := by
  simp only [Metered.step,bind_eq_bind,bind_eq_some_iff] at stepped
  obtain ⟨⟨domain,events⟩,moved,stepped⟩ := stepped
  cases stepped
  exact ⟨moved,fun engine => by simp⟩

theorem serviceFailure_served (counted : domain.serviceFailure writeFails action = some engine) :
    ∃ endpoint ∈ domain.endpoints, endpoint.engine = engine := by
  cases action with
  | dispatch =>
    simp only [Domain.serviceFailure,bind_eq_bind,bind_eq_some_iff] at counted
    obtain ⟨endpoint,active,home,-,counted⟩ := counted
    split at counted
    · split at counted
      · contradiction
      · exact ⟨endpoint,mem_of_getElem? active,some.inj counted⟩
    · contradiction
  | respond =>
    simp only [Domain.serviceFailure,bind_eq_bind,bind_eq_some_iff] at counted
    obtain ⟨endpoint,active,counted⟩ := counted
    split at counted
    · exact ⟨endpoint,mem_of_getElem? active,some.inj counted⟩
    · contradiction
  | _ => contradiction

def Domain.ClientOnly (domain : Domain) (engine : Nat) : Prop :=
  ∀ endpoint ∈ domain.endpoints, endpoint.engine ≠ engine

theorem Extends.clientOnly {next : Domain} (grown : Extends domain next) (clientOnly : next.ClientOnly engine) :
    domain.ClientOnly engine := by
  intro endpoint member
  obtain ⟨index,found⟩ := mem_iff_getElem?.mp member
  obtain ⟨later,present,same,-⟩ := grown.endpoints index endpoint found
  exact same ▸ clientOnly later (mem_of_getElem? present)

structure Metered.Exact (s : Metered) : Prop where
  wired : Wired s.domain
  apart : s.domain.places.Nodup
  failures : ∀ engine, s.domain.ClientOnly engine → (s.stats engine).rpcFailures = s.domain.failedRequests engine

theorem Metered.Exact.step {s t : Metered} (exact : s.Exact) (stepped : s.step input = some (t,emitted)) : t.Exact := by
  obtain ⟨moved,counted⟩ := metered_step stepped
  have took := step_took moved
  refine ⟨took_wired exact.wired took,took_places exact.wired exact.apart took,fun engine clientOnly => ?_⟩
  have before := (took_extends took).clientOnly clientOnly
  have unserved : (s.domain.serviceFailure input.2 input.1 == some engine) = false := by
    rw [beq_eq_false_iff_ne]
    intro served
    obtain ⟨endpoint,member,home⟩ := serviceFailure_served served
    exact before endpoint member home
  rw [counted,exact.failures engine before,unserved,step_failedRequests exact.wired exact.apart moved engine]
  rfl

/-- An engine without services counts the requests that failed. -/
theorem run_exact (ran : meteredDomain.run {} inputs = some (s,history)) : s.Exact :=
  Machine.run_invariant (motive := fun s _ => s.Exact) (fun _ _ _ _ _ exact stepped => exact.step stepped)
    ⟨⟨by simp,by simp,by simp,by simp,by simp [Domain.Carries]⟩,nodup_nil,fun _ _ => rfl⟩ ran

end AutoRuntime.DdsRpc
