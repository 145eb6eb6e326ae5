import AutoRuntime.DdsRpcCorrelation

/-! What a call carries to the callback of a service and back. The message of a request arrives as
it was, and so does a message in return; of the detail of an error arrives what a bounded string
can hold. -/
namespace AutoRuntime.DdsRpc

open List Option

/-- `Request` takes no other message, and a service sends no other one back. -/
def Admitted (limit : Nat) (message : Message) : Prop :=
  message.envelope.version = messageEnvelopeVersion ∧ message.payload.length ≤ limit

instance : Decidable (Admitted limit message) := inferInstanceAs (Decidable (_ ∧ _))

/-- What `ReceiveRequests` calls the callback with, if the deadline lets it. -/
def invocation (sample : RpcRequest) (made checked : Int) : Option (Message × Deadline) :=
  let request := decodeMessage sample.message
  let handlerDeadline := deadlineFromBudget sample.timeoutBudgetNs made
  if handlerDeadline.expired checked then none else some (request,handlerDeadline)

/-- A detail on its way: its first bytes, up to the first zero among them. -/
def boundedText (detail : Bytes) : Bytes := (detail.take maximumErrorDetailBytes).takeWhile (· ≠ 0)

/-- What `Request` is to return for a result of the callback. -/
def relayed (limit : Nat) : Outcome Message → Outcome Message
  | .ok message => if Admitted limit message then .ok message else .error invalidResponse
  | .error failure => .error { failure with detail := boundedText failure.detail }

theorem dispatch_eq_invocation (sample : RpcRequest) (made checked : Int) (ended : CallbackEnd) :
    dispatch sample made checked ended =
      match invocation sample made checked,ended with
      | none,_ => .error expiredBeforeDispatch
      | some _,.returned response => response
      | some _,.threw => .error callbackThrew := by
  simp only [dispatch,invocation]
  split
  · rfl
  · cases ended <;> rfl

theorem boundedText_clean (detail : Bytes) (short : detail.length ≤ maximumErrorDetailBytes) (clean : 0 ∉ detail) :
    boundedText detail = detail := by
  rw [boundedText,take_of_length_le short]
  refine takeWhile_eq_self_iff.mpr fun byte member => ?_
  simpa using ne_of_mem_of_not_mem member clean

theorem conveyed_eq_relayed (config : Config) (response : Outcome Message) :
    conveyed config response = relayed config.maxPayloadSize response := by
  cases response with
  | error => rfl
  | ok message =>
    by_cases admitted : Admitted config.maxPayloadSize message
    · have sound : ¬(message.envelope.version ≠ messageEnvelopeVersion ∨
          message.payload.length > config.maxPayloadSize) := by
        rintro (outdated | long)
        · exact outdated admitted.1
        · exact absurd admitted.2 (Nat.not_le.mpr long)
      simp only [conveyed,checkResponse,if_neg sound,relayed,if_pos admitted]
      rfl
    · have unsound : message.envelope.version ≠ messageEnvelopeVersion ∨
          message.payload.length > config.maxPayloadSize := by
        by_contra sound
        simp only [not_or,not_not,Nat.not_lt,gt_iff_lt] at sound
        exact admitted sound
      have whole := boundedText_clean invalidResponse.detail (by decide) (by decide)
      simp only [conveyed,checkResponse,if_pos unsound,relayed,if_neg admitted]
      exact congrArg Except.error (by rw [boundedText] at whole; simp only [whole])

theorem validWireMessage_encode (admitted : Admitted limit message) :
    validWireMessage (encodeMessage message) limit = true := by
  have fits : (encodeMessage message).payload.length ≤ limit := (length_take_le' _ _).trans admitted.2
  rw [validWireMessage,Bool.and_eq_true,beq_iff_eq]
  exact ⟨admitted.1,decide_eq_true fits⟩

theorem checkResponse_admitted (checked : checkResponse config response = .ok decoded) :
    Admitted config.maxPayloadSize decoded := by
  refine ⟨?_,checkResponse_ok checked⟩
  cases response with
  | error => contradiction
  | ok =>
    simp only [checkResponse] at checked
    split at checked
    · contradiction
    next sound =>
      cases checked
      exact not_not.mp (not_or.mp sound).1

theorem dispatchable_build (valid : ValidServiceName serviceName) (known : guid ≠ ⟨0,0⟩) (drawn : requestId ≠ 0)
    (funded : budget ≠ 0) (config : Config) (admitted : Admitted config.maxPayloadSize request) :
    Dispatchable config serviceName (buildRequest guid serviceName requestId budget request) :=
  ⟨readBoundedString_name valid,rfl,known,drawn,funded,validWireMessage_encode admitted⟩

theorem invocation_build (config : Config) (admitted : Admitted config.maxPayloadSize request)
    (called : invocation (buildRequest guid serviceName requestId budget request) made checked =
      some (received,deadline)) : received = request := by
  have short : request.payload.length < 2^32 :=
    Nat.lt_of_le_of_lt (admitted.2.trans config.bounded) (by decide)
  simp only [invocation,buildRequest,decodeMessage_encode short] at called
  split at called
  · contradiction
  · exact (Prod.mk.inj (some.inj called)).1.symm

theorem readCompletion_relayed {sample : RpcRequest} (valid : ValidServiceName serviceName)
    (addressed : sample.clientGuid = guid) (drawn : sample.requestId ≠ 0)
    (alike : responder.maxPayloadSize = config.maxPayloadSize) (response : Outcome Message) :
    readCompletion config guid serviceName (buildResponse responder serviceName sample response) =
      some (relayed responder.maxPayloadSize response) := by
  -- what is read is known, so it is enough that the response is not dropped
  suffices taken : ∃ completion,
      readCompletion config guid serviceName (buildResponse responder serviceName sample response) =
        some completion by
    obtain ⟨completion,read⟩ := taken
    rw [read,readCompletion_build read,conveyed_eq_relayed]
  have name := readBoundedString_name valid
  cases checked : checkResponse responder response with
  | ok decoded =>
    have detail : readBoundedString (copyBoundedString (maximumErrorDetailBytes + 1) []) = some [] :=
      readBoundedString_copy (by decide)
    have sound := validWireMessage_encode (checkResponse_admitted checked)
    rw [alike] at sound
    refine ⟨.ok (decodeMessage (encodeMessage decoded)),?_⟩
    simp [readCompletion,buildResponse,checked,name,detail,addressed,drawn,sound]
  | error failure =>
    have detail :=
      readBoundedString_copy (Nat.lt_succ_of_le (length_take_le maximumErrorDetailBytes failure.detail))
    refine ⟨.error { failure with detail := boundedText failure.detail },?_⟩
    simp [readCompletion,buildResponse,checked,name,detail,addressed,drawn,failure.failed,boundedText]

/-- The budgets of the calls that go on are not zero. -/
def Funded (calls : List Call) : Prop := ∀ call ∈ calls, call.phase ≠ .checking 0 ∧ call.phase ≠ .writing 0

theorem Funded.set {calls : List Call} (funded : Funded calls) (index : Nat) (new : Call)
    (fresh : new.phase ≠ .checking 0 ∧ new.phase ≠ .writing 0) : Funded (calls.set index new) := by
  intro call member
  rcases mem_or_eq_of_mem_set member with old | rfl
  · exact funded call old
  · exact fresh

theorem step_funded {channel next : Channel} (funded : Funded channel.calls)
    (stepped : channel.step action = some (next,emitted)) : Funded next.calls := by
  cases action with
  | enter =>
    cases stepped
    intro call member
    rcases mem_append.mp member with old | new
    · exact funded call old
    · rw [mem_singleton.mp new]
      exact by simp
  | insert index =>
    simp only [Channel.step,Channel.insert,bind_eq_bind,bind_eq_some_iff] at stepped
    obtain ⟨call,active,stepped⟩ := stepped
    have kept (phase : CallPhase) := funded.set index { call with phase := phase }
    grind [Channel.setCall]
  | budget index =>
    simp only [Channel.step,Channel.budget,bind_eq_bind,bind_eq_some_iff] at stepped
    obtain ⟨call,active,stepped⟩ := stepped
    have kept (phase : CallPhase) := funded.set index { call with phase := phase }
    grind [Channel.setCall]
  | check index =>
    simp only [Channel.step,Channel.check,bind_eq_bind,bind_eq_some_iff] at stepped
    obtain ⟨call,active,stepped⟩ := stepped
    have paid := (funded call (mem_of_getElem? active)).1
    have kept (phase : CallPhase) := funded.set index { call with phase := phase }
    split at stepped
    next budget before =>
      split at stepped
      · contradiction
      · cases stepped
        refine kept _ ?_
        split
        · exact by simp
        · refine ⟨by simp,fun empty => paid ?_⟩
          rw [before,CallPhase.writing.inj empty]
    · contradiction
  | write index =>
    simp only [Channel.step,Channel.write,bind_eq_bind,bind_eq_some_iff] at stepped
    obtain ⟨call,active,stepped⟩ := stepped
    have kept (phase : CallPhase) := funded.set index { call with phase := phase }
    grind [Channel.setCall]
  | withdraw index =>
    simp only [Channel.step,Channel.withdraw,bind_eq_bind,bind_eq_some_iff] at stepped
    obtain ⟨call,active,stepped⟩ := stepped
    have kept (phase : CallPhase) := funded.set index { call with phase := phase }
    grind [Channel.setCall,removePending_calls]
  | wake index =>
    simp only [Channel.step,Channel.wake,bind_eq_bind,bind_eq_some_iff] at stepped
    obtain ⟨call,active,stepped⟩ := stepped
    split at stepped
    · simp only [bind_eq_some_iff,some.injEq,Prod.mk.injEq] at stepped
      obtain ⟨outcome,-,rfl,-⟩ := stepped
      exact funded.set index _ (by simp)
    · contradiction
  | expire index =>
    simp only [Channel.step,Channel.expire,bind_eq_bind,bind_eq_some_iff] at stepped
    obtain ⟨call,active,stepped⟩ := stepped
    have kept (phase : CallPhase) := funded.set index { call with phase := phase }
    grind [Channel.setCall,removePending_calls]
  | receive => grind [Channel.step,Channel.receive]
  | complete =>
    simp only [Channel.step,Channel.complete,bind_eq_bind] at stepped
    split at stepped
    · split at stepped
      · cases stepped
        exact funded
      next index known =>
        simp only [bind_eq_some_iff,some.injEq,Prod.mk.injEq] at stepped
        obtain ⟨call,active,rfl,-⟩ := stepped
        exact funded.set index _ (funded call (mem_of_getElem? active))
    · contradiction
  | endReceiver => grind [Channel.step,Channel.endReceiver]
  | closeClient => grind [Channel.step]
  | proceed =>
    -- `clear` gives results to calls and leaves their phases
    have cleared : Funded channel.clear.1.calls := by
      intro call member
      obtain ⟨index,found⟩ := mem_iff_getElem?.mp member
      rw [clear_calls,map_eq_some_iff] at found
      obtain ⟨earlier,active,rfl⟩ := found
      rw [afterClear_phase]
      exact funded earlier (mem_of_getElem? active)
    grind [Channel.step,Channel.proceed]

theorem run_funded {owner : Client} {client : Nat} (ran : ddsDomain.run {} actions = some (domain,history))
    (present : domain.clients[client]? = some owner) : Funded owner.channel.calls :=
  (run_channels (motive := fun channel _ => Funded channel.calls) (by simp [Funded])
    (fun _ _ _ _ _ funded stepped => step_funded funded stepped) ran client).2 owner present

def Channel.requests (channel : Channel) : List Message := channel.calls.map (·.request)

theorem moved_requests {channel next : Channel} (moved : Moved channel action next emitted) :
    channel.requests <+: next.requests := by
  have same (kept : next.requests = channel.requests) : channel.requests <+: next.requests :=
    kept ▸ prefix_rfl
  cases moved with
  | entered => simp [Channel.requests]
  | refused active | inserted active | advanced active | wrote active | answered active
  | completed before known active => exact same (Pool.map_set_same _ _ active rfl)
  | gaveUp active =>
    refine same ?_
    simp only [Channel.requests,removePending_calls]
    exact Pool.map_set_same _ _ active rfl
  | cleared =>
    refine same (ext_getElem? fun index => ?_)
    simp only [Channel.requests,getElem?_map,clear_calls,Option.map_map]
    congr 1
    funext call
    simp only [Function.comp,Channel.afterClear]
    split <;> rfl
  | _ => exact same rfl

/-- The call at this place of this client carries this message. -/
def Domain.Bears (domain : Domain) (client number : Nat) (request : Message) : Prop :=
  ∃ owner, domain.clients[client]? = some owner ∧ owner.channel.requests[number]? = some request

section

variable {domain next : Domain}

theorem took_bears (took : Took domain next emitted) (bears : domain.Bears client number request) :
    next.Bears client number request := by
  have unmoved (client : Client) : client.channel.requests <+: client.channel.requests := prefix_rfl
  have grown : Pool.Grows (fun client later : Client => client.channel.requests <+: later.channel.requests)
      domain.clients next.clients := by
    cases took with
    | opened => exact .concat unmoved _ _
    | numbered active before home found stepped => exact .set unmoved found (moved_requests (step_moved stepped))
    | moved active stepped | sent active home found stepped | received active home listed read stepped =>
      exact .set unmoved active (moved_requests (step_moved stepped))
    | _ => exact .refl unmoved _
  obtain ⟨owner,present,carried⟩ := bears
  obtain ⟨later,there,rest,whole⟩ := grown client owner present
  refine ⟨later,there,?_⟩
  rw [← whole,getElem?_append_left (Pool.inside carried),carried]

/-- The calls of `Request` that are in a channel are there with the messages they were given. -/
def Domain.Entrusted (domain : Domain) : Prop :=
  ∀ caller ∈ domain.callers, ∀ client number requestId, caller.stage = .entered client number requestId →
    domain.Bears client number caller.request

theorem took_entrusted (entrusted : domain.Entrusted) (took : Took domain next emitted) : next.Entrusted := by
  have kept (caller : Caller) (member : caller ∈ domain.callers) (client number : Nat) (requestId : UInt64)
      (entered : caller.stage = .entered client number requestId) : next.Bears client number caller.request :=
    took_bears took (entrusted caller member client number requestId entered)
  -- a call that changes its stage without entering a channel
  have outside (index : Nat) (new : Caller) (callers : next.callers = domain.callers.set index new)
      (apart : ∀ client number requestId, new.stage ≠ .entered client number requestId) : next.Entrusted := by
    intro caller member client number requestId entered
    rw [callers] at member
    rcases mem_or_eq_of_mem_set member with old | rfl
    · exact kept caller old client number requestId entered
    · exact absurd entered (apart client number requestId)
  cases took with
  | requested home stage =>
    intro caller member client number requestId entered
    rcases Pool.mem_concat member with old | rfl
    · exact kept caller old client number requestId entered
    · rw [entered] at stage
      simp at stage
  | refused | connected | opened | redrawn => exact outside _ _ rfl (by simp)
  | numbered active before home found stepped =>
    intro caller member client number requestId entered
    rcases mem_or_eq_of_mem_set member with old | rfl
    · exact kept caller old client number requestId entered
    · cases entered
      cases stepped
      exact ⟨_,getElem?_set_self (Pool.inside found),by simp [Channel.requests]⟩
  | _ => exact kept

theorem run_entrusted (ran : ddsDomain.run {} actions = some (domain,history)) : domain.Entrusted :=
  Machine.run_invariant (motive := fun domain _ => domain.Entrusted)
    (fun _ _ _ _ _ entrusted stepped => took_entrusted entrusted (step_took stepped)) (by simp [Domain.Entrusted]) ran

theorem moveClient_sent (stepped : domain.moveClient index action = some (next,emitted)) :
    .sent client number sample ∉ emitted := by
  obtain ⟨_,_,events,-,-,-,rfl⟩ := moveClient_some stepped
  simp

/-- The sample is what this call writes. -/
def Domain.Writes (domain : Domain) (client number : Nat) (sample : RpcRequest) : Prop :=
  ∃ owner engine call budget, domain.clients[client]? = some owner ∧ domain.engines[owner.engine]? = some engine ∧
    owner.channel.calls[number]? = some call ∧ call.phase = .writing budget ∧
    sample = buildRequest engine.guid owner.serviceName call.requestId budget call.request

theorem write_writes (stepped : domain.write index call status written = some (next,emitted))
    (sent : .sent client number sample ∈ emitted) : domain.Writes client number sample := by
  simp only [Domain.write,bind_eq_bind,bind_eq_some_iff] at stepped
  obtain ⟨owner,active,engine,home,caller,found,stepped⟩ := stepped
  split at stepped
  next budget writing =>
    simp only [bind_eq_some_iff] at stepped
    obtain ⟨⟨reached,events⟩,moved,stepped⟩ := stepped
    have silent : .sent client number sample ∉ events := moveClient_sent moved
    split at stepped
    · cases stepped
      simp only [mem_append,silent,false_or,mem_singleton,DomainEvent.sent.injEq] at sent
      obtain ⟨rfl,rfl,rfl⟩ := sent
      exact ⟨owner,engine,caller,budget,active,home,found,writing,rfl⟩
    · cases stepped
      contradiction
  · contradiction

theorem number_sent (stepped : domain.number index = some (next,emitted)) : .sent client number sample ∉ emitted := by
  simp only [Domain.number,bind_eq_bind,bind_eq_some_iff] at stepped
  obtain ⟨caller,active,stepped⟩ := stepped
  split at stepped
  · simp only [bind_eq_some_iff] at stepped
    obtain ⟨engine,home,stepped⟩ := stepped
    split at stepped
    · simp only [some.injEq,Prod.mk.injEq] at stepped
      simp [← stepped.2]
    · simp only [bind_eq_some_iff,some.injEq,Prod.mk.injEq] at stepped
      obtain ⟨owner,-,⟨channel,events⟩,-,-,rfl⟩ := stepped
      simp
  · contradiction

theorem step_writes (stepped : domain.step action = some (next,emitted)) (sent : .sent client number sample ∈ emitted) :
    domain.Writes client number sample := by
  cases action with
  | write => exact write_writes stepped sent
  | number => exact absurd sent (number_sent stepped)
  | client => grind [Domain.step,moveClient_sent]
  | takeResponse =>
    simp only [Domain.step,Domain.takeResponse,bind_eq_bind,bind_eq_some_iff] at stepped
    grind [moveClient_sent]
  | closeClient =>
    simp only [Domain.step,Domain.closeClient,bind_eq_bind,bind_eq_some_iff] at stepped
    grind [moveClient_sent]
  | _ =>
    simp only [Domain.step,Domain.advertise,Domain.remove,Domain.request,Domain.connect,Domain.takeRequest,
      Domain.dispatch,Domain.respond,Domain.endRequests,Domain.close,Domain.closeService,bind_eq_bind,
      bind_eq_some_iff] at stepped
    grind

/-- The sample has the message of this call, and time left. -/
def Domain.Loaded (domain : Domain) (client number : Nat) (sample : RpcRequest) : Prop :=
  sample.protocolVersion = rpcProtocolVersion ∧ sample.timeoutBudgetNs ≠ 0 ∧
    ∃ request, domain.Bears client number request ∧ sample.message = encodeMessage request

theorem loaded_of_writes (writes : domain.Writes client number sample)
    (funded : ∀ owner, domain.clients[client]? = some owner → Funded owner.channel.calls) :
    domain.Loaded client number sample := by
  obtain ⟨owner,engine,call,budget,present,-,found,writing,rfl⟩ := writes
  refine ⟨rfl,fun empty => ?_,call.request,⟨owner,present,by simp [Channel.requests,found]⟩,rfl⟩
  refine (funded owner present call (mem_of_getElem? found)).2 ?_
  rw [writing]
  exact congrArg CallPhase.writing empty

theorem run_loaded (ran : ddsDomain.run {} actions = some (domain,history))
    (sent : .sent client number sample ∈ history) : domain.Loaded client number sample := by
  -- the budget was checked in the state that wrote the sample, so the run up to it is kept along
  have held := Machine.run_invariant (motive := fun domain history =>
    (∃ actions, ddsDomain.run {} actions = some (domain,history)) ∧
      ∀ client number sample, .sent client number sample ∈ history → domain.Loaded client number sample) ?_
    ⟨⟨[],rfl⟩,by simp⟩ ran
  · exact held.2 client number sample sent
  · rintro domain history action next emitted ⟨⟨actions,ran⟩,loaded⟩ stepped
    refine ⟨⟨_,Machine.run_concat ran stepped⟩,fun client number sample sent => ?_⟩
    have before : domain.Loaded client number sample := by
      rcases mem_append.mp sent with old | new
      · exact loaded client number sample old
      · exact loaded_of_writes (step_writes stepped new) fun owner present => run_funded ran present
    obtain ⟨version,funded,request,bears,carried⟩ := before
    exact ⟨version,funded,request,took_bears (step_took stepped) bears,carried⟩

theorem sent_builds (ran : ddsDomain.run {} actions = some (domain,history)) (member : caller ∈ domain.callers)
    (entered : caller.stage = .entered client number requestId) (home : domain.engines[caller.engine]? = some engine)
    (sent : .sent client number sample ∈ history) :
    ∃ budget, budget ≠ 0 ∧ sample = buildRequest engine.guid caller.serviceName requestId budget caller.request := by
  obtain ⟨version,funded,request,⟨owner,present,carried⟩,message⟩ := run_loaded ran sent
  obtain ⟨_,_,again,there,guid,name,numbered⟩ := (run_traced ran).sent client number sample sent
  cases present.symm.trans again
  obtain ⟨_,alike,borne⟩ := run_entrusted ran caller member client number requestId entered
  cases present.symm.trans alike
  cases carried.symm.trans borne
  have staged := (run_wired ran).staged caller member
  simp only [Domain.Staged,entered] at staged
  obtain ⟨⟨_,here,host,title⟩,_,too,drawn⟩ := staged
  cases present.symm.trans here
  cases present.symm.trans too
  cases numbered.symm.trans drawn
  rw [host,home] at there
  cases there
  refine ⟨sample.timeoutBudgetNs,funded,?_⟩
  rw [← title,buildRequest,← message,← guid,← name,← version]

end

/-- In any run of any number of engines, a service that has the limit of the caller dispatches the
request of a call, its callback is called with the message of the call and with no other one, the
result of the callback is what is answered, and whatever that is, the client reads from the response
what is to be returned for it; a call that returns a response returns this. -/
theorem exchange_faithful (ran : ddsDomain.run {} actions = some (domain,history))
    (distinct : (domain.engines.map Engine.guid).Nodup) (few : domain.callers.length < 2^64)
    (known : ∀ engine ∈ domain.engines, engine.guid ≠ ⟨0,0⟩) (member : caller ∈ domain.callers)
    (entered : caller.stage = .entered client number requestId) (home : domain.engines[caller.engine]? = some engine)
    (admitted : Admitted engine.config.maxPayloadSize caller.request) :
    (∀ sample, .sent client number sample ∈ history →
      ∀ responder : Config, responder.maxPayloadSize = engine.config.maxPayloadSize →
        Dispatchable responder caller.serviceName sample ∧
        (∀ made checked received deadline, invocation sample made checked = some (received,deadline) →
          received = caller.request ∧ ∀ response, dispatch sample made checked (.returned response) = response) ∧
        ∀ response, readCompletion engine.config engine.guid caller.serviceName
          (buildResponse responder caller.serviceName sample response) =
            some (relayed responder.maxPayloadSize response)) ∧
    ∀ outcome, .client client (.answered number outcome) ∈ history →
      (outcome = .error clientChannelClosed ∧ .client client (.aborted number) ∈ history) ∨
      ∃ service endpoint responder sample response, domain.endpoints[service]? = some endpoint ∧
        domain.engines[endpoint.engine]? = some responder ∧ endpoint.serviceName = caller.serviceName ∧
        .sent client number sample ∈ history ∧ .produced service sample response ∈ history ∧
        outcome = relayed responder.config.maxPayloadSize response := by
  constructor
  · intro sample sent responder alike
    obtain ⟨budget,funded,rfl⟩ := sent_builds ran member entered home sent
    have drawn := ((run_numbered ran few).drawn caller member client number requestId entered).1
    have valid : ValidServiceName caller.serviceName := by
      have staged := (run_wired ran).staged caller member
      simp only [Domain.Staged,entered] at staged
      obtain ⟨⟨owner,present,-,name⟩,-⟩ := staged
      rw [← name]
      exact (run_wired ran).valid owner (mem_of_getElem? present)
    refine ⟨?_,fun made checked received deadline called => ⟨invocation_build engine.config admitted called,?_⟩,
      readCompletion_relayed valid rfl drawn alike⟩
    · exact dispatchable_build valid (known engine (mem_of_getElem? home)) drawn funded responder
        (alike ▸ admitted)
    · intro response
      rw [dispatch_eq_invocation,called]
  · intro outcome answered
    rcases answered_responds ran distinct few member entered answered with closed | ⟨_,-,responds⟩
    · exact .inl closed
    · obtain ⟨service,endpoint,responder,sample,response,found,host,sent,produced,name,-,-,-,rfl⟩ := responds
      exact .inr ⟨service,endpoint,responder,sample,response,found,host,name,sent,produced,
        conveyed_eq_relayed responder.config response⟩

theorem exchange_faithful_sample : ∃ domain history sample,
    ddsDomain.run {} callSchedule = some (domain,history) ∧ .sent 0 0 sample ∈ history ∧
      Dispatchable sampleConfig [97] sample ∧
      ∀ made checked received deadline, invocation sample made checked = some (received,deadline) →
        received = ⟨{},[1]⟩ := by
  obtain ⟨domain,history,sample,caller,engine,ran,listed,member,entered,home,limit,known,distinct,few,name,message⟩ :
      ∃ domain history sample caller engine, ddsDomain.run {} callSchedule = some (domain,history) ∧
        history[3]? = some (.sent 0 0 sample) ∧ caller ∈ domain.callers ∧
        caller.stage = .entered 0 0 1 ∧ domain.engines[caller.engine]? = some engine ∧
        engine.config = sampleConfig ∧ (∀ engine ∈ domain.engines, engine.guid ≠ ⟨0,0⟩) ∧
        (domain.engines.map Engine.guid).Nodup ∧ domain.callers.length < 2^64 ∧
        caller.serviceName = [97] ∧ caller.request = ⟨{},[1]⟩ :=
    ⟨_,_,_,_,_,rfl,rfl,.head _,rfl,rfl,rfl,by decide,by decide,by decide,rfl,rfl⟩
  have sent := mem_of_getElem? listed
  have admitted : Admitted engine.config.maxPayloadSize caller.request := by
    rw [limit,message]
    decide
  obtain ⟨dispatchable,received,-⟩ := (exchange_faithful ran distinct few known member entered home admitted).1
    sample sent sampleConfig (by rw [limit])
  rw [name] at dispatchable
  rw [message] at received
  exact ⟨domain,history,sample,ran,sent,dispatchable,fun made checked _ deadline called =>
    (received made checked _ deadline called).1⟩

/-- A detail with a zero in it. -/
def severed : Failure := { Failure.internal "" with detail := [104,0,105] }

/-- The call of the schedule above, with a callback that fails. -/
def failedSchedule : List DomainAction :=
  [.create ⟨0,1⟩ sampleConfig,.create ⟨0,2⟩ sampleConfig,.advertise 1 [97] none,
    .request 0 [97] ⟨{},[1]⟩ .infinite 0,.connect 0 none,.number 0,.client 0 (.insert 0),.client 0 (.budget 0 0),
    .client 0 (.check 0),.write 0 0 none true,.takeRequest 0 0,.dispatch 0 0 0 (.returned (.error severed)),
    .respond 0 true,.takeResponse 0 0,.client 0 .complete,.client 0 (.wake 0)]

/-- The detail that comes back is not the first bytes of the detail of the callback. -/
theorem detail_severed : ∃ domain history sample outcome,
    ddsDomain.run {} failedSchedule = some (domain,history) ∧ .produced 0 sample (.error severed) ∈ history ∧
      .client 0 (.answered 0 outcome) ∈ history ∧ outcome ≠ .error (severed.cut maximumErrorDetailBytes) := by
  obtain ⟨domain,history,sample,ran,produced,answered⟩ : ∃ domain history sample,
      ddsDomain.run {} failedSchedule = some (domain,history) ∧
        history[4]? = some (.produced 0 sample (.error severed)) ∧
        history.getLast? = some (.client 0 (.answered 0 (.error ⟨.internal,[104],by decide⟩))) :=
    ⟨_,_,_,rfl,rfl,rfl⟩
  exact ⟨domain,history,sample,_,ran,mem_of_getElem? produced,mem_of_getLast? answered,by decide⟩

end AutoRuntime.DdsRpc
