import AutoRuntime.DdsRpcChannel

/-! A DDS domain with any number of RPC engines. What is written on a topic stays there and may be
delivered to any reader of the topic, any number of times and in any order, or never. A reader
that takes nothing, or an invalid sample, leaves everything as it is and has no step here. -/
namespace AutoRuntime.DdsRpc

open Option

structure Engine where
  guid : Guid
  config : Config
  nextRequestId : UInt64 := 1
  nextServiceId : UInt64 := 1
  closed : Bool := false
  clients : Table Bytes Nat := ∅
  services : Table UInt64 Nat := ∅
  serviceNames : Table Bytes UInt64 := ∅

structure Client where
  engine : Nat
  serviceName : Bytes
  channel : Channel := {}

inductive EndpointPhase where
  | receiving
  | dispatching (sample : RpcRequest)
  | responding (wire : RpcResponse)
  | ended

structure Endpoint where
  engine : Nat
  serviceId : UInt64
  serviceName : Bytes
  closed : Bool := false
  phase : EndpointPhase := .receiving

/-- How far a call of `Request` has come. It draws a second number where the first one is zero. -/
inductive CallerStage where
  | connecting
  | numbering (client : Nat) (again : Bool)
  | entered (client index : Nat) (requestId : UInt64)
  | returned (failure : Failure)

structure Caller where
  engine : Nat
  serviceName : Bytes
  request : Message
  deadline : Deadline
  stage : CallerStage

structure Domain where
  engines : List Engine := []
  clients : List Client := []
  endpoints : List Endpoint := []
  callers : List Caller := []
  requests : List (String × RpcRequest) := []
  responses : List (String × RpcResponse) := []

inductive DomainEvent where
  | advertised (engine : Nat) (outcome : Outcome UInt64)
  | removed (engine : Nat) (failure : Option Failure)
  | refused (caller : Nat) (failure : Failure)
  | client (client : Nat) (event : ChannelEvent)
  | sent (client index : Nat) (sample : RpcRequest)
  | produced (service : Nat) (sample : RpcRequest) (response : Outcome Message)

/-- A failure of DDS is an input where one can happen. -/
inductive DomainAction where
  | create (guid : Guid) (config : Config)
  | advertise (engine : Nat) (serviceName : Bytes) (creation : Option Failure)
  | remove (engine : Nat) (serviceId : UInt64)
  | request (engine : Nat) (serviceName : Bytes) (request : Message) (deadline : Deadline) (now : Int)
  | connect (caller : Nat) (creation : Option Failure)
  | number (caller : Nat)
  | client (client : Nat) (action : ChannelAction)
  | write (client index : Nat) (status : Option Failure) (sent : Bool)
  | takeResponse (client sample : Nat)
  | takeRequest (service sample : Nat)
  | dispatch (service : Nat) (made checked : Int) (ended : CallbackEnd)
  | respond (service : Nat) (sent : Bool)
  | endRequests (service : Nat)
  | close (engine : Nat)
  | closeClient (client : Nat)
  | closeService (service : Nat)

def invalidService : Failure :=
  .invalidArgument "DDS RPC service requires a 1-128 byte name and callback"

def engineIsClosed : Failure := .closed "DDS RPC engine is closed"

def alreadyAdvertised : Failure := .alreadyExists "DDS RPC service name is already advertised"

def serviceNotFound : Failure := .notFound "DDS RPC service was not found"

def invalidRequest : Failure := .invalidArgument "invalid DDS RPC service, envelope, or payload"

def deadlineAlreadyExpired : Failure := .timeout "DDS RPC deadline already expired"

def Domain.setEngine (domain : Domain) (index : Nat) (engine : Engine) : Domain :=
  { domain with engines := domain.engines.set index engine }

def Domain.setClient (domain : Domain) (index : Nat) (client : Client) : Domain :=
  { domain with clients := domain.clients.set index client }

def Domain.setEndpoint (domain : Domain) (index : Nat) (endpoint : Endpoint) : Domain :=
  { domain with endpoints := domain.endpoints.set index endpoint }

def Domain.setCaller (domain : Domain) (index : Nat) (caller : Caller) : Domain :=
  { domain with callers := domain.callers.set index caller }

def Domain.advertise (domain : Domain) (index : Nat) (serviceName : Bytes) (creation : Option Failure) :
    Option (Domain × List DomainEvent) := do
  let engine ← domain.engines[index]?
  if ¬ValidServiceName serviceName then some (domain,[.advertised index (.error invalidService)])
  else if engine.closed then some (domain,[.advertised index (.error engineIsClosed)])
  else if (engine.serviceNames.lookup serviceName).isSome then
    some (domain,[.advertised index (.error alreadyAdvertised)])
  else
    let serviceId := engine.nextServiceId
    let engine := { engine with nextServiceId := serviceId + 1 }
    match creation with
    | some failure => some (domain.setEngine index engine,[.advertised index (.error failure)])
    | none =>
      let engine := { engine with
        serviceNames := engine.serviceNames.insert serviceName serviceId
        services := engine.services.insert serviceId domain.endpoints.length }
      some ({ domain.setEngine index engine with endpoints := domain.endpoints ++
        [{ engine := index, serviceId := serviceId, serviceName := serviceName }] },
        [.advertised index (.ok serviceId)])

/-- The section of `RemoveService`; `CloseService` comes after it. -/
def Domain.remove (domain : Domain) (index : Nat) (serviceId : UInt64) : Option (Domain × List DomainEvent) := do
  let engine ← domain.engines[index]?
  if engine.closed then some (domain,[.removed index (some engineIsClosed)])
  else
    match engine.services.lookup serviceId with
    | none => some (domain,[.removed index (some serviceNotFound)])
    | some service =>
      let endpoint ← domain.endpoints[service]?
      some (domain.setEngine index { engine with
        serviceNames := engine.serviceNames.erase endpoint.serviceName
        services := engine.services.erase serviceId },[.removed index none])

def Domain.request (domain : Domain) (index : Nat) (serviceName : Bytes) (request : Message)
    (deadline : Deadline) (now : Int) : Option (Domain × List DomainEvent) := do
  let engine ← domain.engines[index]?
  let enter (stage : CallerStage) : Domain :=
    { domain with callers := domain.callers ++ [⟨index,serviceName,request,deadline,stage⟩] }
  if ¬ValidServiceName serviceName ∨ request.envelope.version ≠ messageEnvelopeVersion ∨
      request.payload.length > engine.config.maxPayloadSize then
    some (enter (.returned invalidRequest),[.refused domain.callers.length invalidRequest])
  else if deadline.expired now then
    some (enter (.returned deadlineAlreadyExpired),[.refused domain.callers.length deadlineAlreadyExpired])
  else some (enter .connecting,[])

/-- The section of `Request` that finds its channel or makes it. -/
def Domain.connect (domain : Domain) (index : Nat) (creation : Option Failure) :
    Option (Domain × List DomainEvent) := do
  let caller ← domain.callers[index]?
  let .connecting := caller.stage | none
  let engine ← domain.engines[caller.engine]?
  let enter (domain : Domain) (stage : CallerStage) : Domain :=
    domain.setCaller index { caller with stage := stage }
  if engine.closed then some (enter domain (.returned engineIsClosed),[.refused index engineIsClosed])
  else
    match engine.clients.lookup caller.serviceName with
    | some client => some (enter domain (.numbering client false),[])
    | none =>
      match creation with
      | some failure => some (enter domain (.returned failure),[.refused index failure])
      | none =>
        let client := domain.clients.length
        let engine := { engine with clients := engine.clients.insert caller.serviceName client }
        let domain := { domain.setEngine caller.engine engine with
          clients := domain.clients ++ [{ engine := caller.engine, serviceName := caller.serviceName }] }
        some (enter domain (.numbering client false),[])

def Domain.number (domain : Domain) (index : Nat) : Option (Domain × List DomainEvent) := do
  let caller ← domain.callers[index]?
  let .numbering client again := caller.stage | none
  let engine ← domain.engines[caller.engine]?
  let requestId := engine.nextRequestId
  let domain := domain.setEngine caller.engine { engine with nextRequestId := requestId + 1 }
  if requestId = 0 ∧ again = false then
    some (domain.setCaller index { caller with stage := .numbering client true },[])
  else
    let owner ← domain.clients[client]?
    let (channel,events) ← owner.channel.step (.enter requestId caller.request caller.deadline)
    let domain := domain.setClient client { owner with channel := channel }
    let stage := .entered client owner.channel.calls.length requestId
    some (domain.setCaller index { caller with stage := stage },events.map (.client client))

/-- The steps of a channel that concern nobody else. -/
def ChannelAction.isOwn : ChannelAction → Bool
  | .enter _ _ _ | .write _ _ | .receive _ _ | .closeClient => false
  | _ => true

def Domain.moveClient (domain : Domain) (index : Nat) (action : ChannelAction) :
    Option (Domain × List DomainEvent) := do
  let client ← domain.clients[index]?
  let (channel,events) ← client.channel.step action
  some (domain.setClient index { client with channel := channel },events.map (.client index))

/-- `dds_write` may or may not have an effect, whatever it returns. -/
def Domain.write (domain : Domain) (index call : Nat) (status : Option Failure) (sent : Bool) :
    Option (Domain × List DomainEvent) := do
  let client ← domain.clients[index]?
  let engine ← domain.engines[client.engine]?
  let caller ← client.channel.calls[call]?
  let .writing budget := caller.phase | none
  let (next,events) ← domain.moveClient index (.write call status)
  if sent then
    let wire := buildRequest engine.guid client.serviceName caller.requestId budget caller.request
    some ({ next with requests := next.requests ++ [(requestTopicName client.serviceName,wire)] },
      events ++ [.sent index call wire])
  else some (next,events)

def Domain.takeResponse (domain : Domain) (index sample : Nat) : Option (Domain × List DomainEvent) := do
  let client ← domain.clients[index]?
  let engine ← domain.engines[client.engine]?
  let .receiving := client.channel.receiver | none
  let (topic,wire) ← domain.responses[sample]?
  if topic ≠ responseTopicName client.serviceName then none
  else
    match readCompletion engine.config engine.guid client.serviceName wire with
    | none => some (domain,[])
    | some completion => domain.moveClient index (.receive wire completion)

def Domain.takeRequest (domain : Domain) (index sample : Nat) : Option (Domain × List DomainEvent) := do
  let endpoint ← domain.endpoints[index]?
  let engine ← domain.engines[endpoint.engine]?
  let .receiving := endpoint.phase | none
  let (topic,wire) ← domain.requests[sample]?
  if topic ≠ requestTopicName endpoint.serviceName then none
  else if Dispatchable engine.config endpoint.serviceName wire then
    some (domain.setEndpoint index { endpoint with phase := .dispatching wire },[])
  else some (domain,[])

def Domain.dispatch (domain : Domain) (index : Nat) (made checked : Int) (ended : CallbackEnd) :
    Option (Domain × List DomainEvent) := do
  let endpoint ← domain.endpoints[index]?
  let engine ← domain.engines[endpoint.engine]?
  let .dispatching sample := endpoint.phase | none
  let response := DdsRpc.dispatch sample made checked ended
  let wire := buildResponse engine.config endpoint.serviceName sample response
  some (domain.setEndpoint index { endpoint with phase := .responding wire },[.produced index sample response])

def Domain.respond (domain : Domain) (index : Nat) (sent : Bool) : Option (Domain × List DomainEvent) := do
  let endpoint ← domain.endpoints[index]?
  let .responding wire := endpoint.phase | none
  let next := domain.setEndpoint index { endpoint with phase := .receiving }
  if sent then
    some ({ next with responses := next.responses ++ [(responseTopicName endpoint.serviceName,wire)] },[])
  else some (next,[])

def Domain.endRequests (domain : Domain) (index : Nat) : Option (Domain × List DomainEvent) := do
  let endpoint ← domain.endpoints[index]?
  let .receiving := endpoint.phase | none
  some (domain.setEndpoint index { endpoint with phase := .ended },[])

/-- The section of `Close`. It then closes every client and every service it found. -/
def Domain.close (domain : Domain) (index : Nat) : Option (Domain × List DomainEvent) := do
  let engine ← domain.engines[index]?
  if engine.closed then some (domain,[])
  else
    some (domain.setEngine index
      { engine with closed := true, clients := ∅, services := ∅, serviceNames := ∅ },[])

def Domain.closeClient (domain : Domain) (index : Nat) : Option (Domain × List DomainEvent) := do
  let client ← domain.clients[index]?
  let engine ← domain.engines[client.engine]?
  if engine.closed then domain.moveClient index .closeClient else none

def Domain.closeService (domain : Domain) (index : Nat) : Option (Domain × List DomainEvent) := do
  let endpoint ← domain.endpoints[index]?
  some (domain.setEndpoint index { endpoint with closed := true },[])

def Domain.step (domain : Domain) : DomainAction → Option (Domain × List DomainEvent)
  | .create guid config => some ({ domain with engines := domain.engines ++ [{ guid := guid, config := config }] },[])
  | .advertise engine serviceName creation => domain.advertise engine serviceName creation
  | .remove engine serviceId => domain.remove engine serviceId
  | .request engine serviceName request deadline now => domain.request engine serviceName request deadline now
  | .connect caller creation => domain.connect caller creation
  | .number caller => domain.number caller
  | .client client action => if action.isOwn then domain.moveClient client action else none
  | .write client index status sent => domain.write client index status sent
  | .takeResponse client sample => domain.takeResponse client sample
  | .takeRequest service sample => domain.takeRequest service sample
  | .dispatch service made checked ended => domain.dispatch service made checked ended
  | .respond service sent => domain.respond service sent
  | .endRequests service => domain.endRequests service
  | .close engine => domain.close engine
  | .closeClient client => domain.closeClient client
  | .closeService service => domain.closeService service

def ddsDomain : Machine Domain DomainAction DomainEvent := ⟨Domain.step⟩

/-- The event says nothing about what is written or completed. -/
def DomainEvent.isQuiet : DomainEvent → Bool
  | .advertised _ _ | .removed _ _ | .refused _ _ => true
  | _ => false

/-- What a step can do. -/
inductive Took (domain : Domain) : Domain → List DomainEvent → Prop where
  | aside (quiet : ∀ event ∈ emitted, event.isQuiet = true) : Took domain domain emitted
  | created {guid : Guid} {config : Config} :
      Took domain { domain with engines := domain.engines ++ [{ guid := guid, config := config }] } []
  | managed {engine changed : Engine} (active : domain.engines[index]? = some engine)
      (guid : changed.guid = engine.guid) (config : changed.config = engine.config)
      (number : changed.nextRequestId = engine.nextRequestId)
      (clients : changed.clients = engine.clients ∨ changed.clients = ∅)
      (quiet : ∀ event ∈ emitted, event.isQuiet = true) : Took domain (domain.setEngine index changed) emitted
  | advertised {engine changed : Engine} {new : Endpoint} (active : domain.engines[index]? = some engine)
      (guid : changed.guid = engine.guid) (config : changed.config = engine.config)
      (number : changed.nextRequestId = engine.nextRequestId) (clients : changed.clients = engine.clients)
      (phase : new.phase = .receiving) (quiet : ∀ event ∈ emitted, event.isQuiet = true) :
      Took domain { domain.setEngine index changed with endpoints := domain.endpoints ++ [new] } emitted
  | requested {new : Caller} (home : new.engine < domain.engines.length)
      (stage : new.stage = .connecting ∧ ValidServiceName new.serviceName ∨ ∃ failure, new.stage = .returned failure)
      (quiet : ∀ event ∈ emitted, event.isQuiet = true) :
      Took domain { domain with callers := domain.callers ++ [new] } emitted
  | refused {caller : Caller} {failure : Failure} (active : domain.callers[index]? = some caller)
      (before : caller.stage = .connecting) (quiet : ∀ event ∈ emitted, event.isQuiet = true) :
      Took domain (domain.setCaller index { caller with stage := .returned failure }) emitted
  | connected {caller : Caller} {engine : Engine} {client : Nat} (active : domain.callers[index]? = some caller)
      (before : caller.stage = .connecting) (home : domain.engines[caller.engine]? = some engine)
      (known : engine.clients.lookup caller.serviceName = some client) :
      Took domain (domain.setCaller index { caller with stage := .numbering client false }) []
  | opened {caller : Caller} {engine : Engine} (active : domain.callers[index]? = some caller)
      (before : caller.stage = .connecting) (home : domain.engines[caller.engine]? = some engine) :
      Took domain { domain with
        engines := domain.engines.set caller.engine
          { engine with clients := engine.clients.insert caller.serviceName domain.clients.length }
        clients := domain.clients ++ [{ engine := caller.engine, serviceName := caller.serviceName }]
        callers := domain.callers.set index { caller with stage := .numbering domain.clients.length false } } []
  | redrawn {caller : Caller} {engine : Engine} {client : Nat} (active : domain.callers[index]? = some caller)
      (before : caller.stage = .numbering client false) (home : domain.engines[caller.engine]? = some engine)
      (zero : engine.nextRequestId = 0) :
      Took domain { domain with
        engines := domain.engines.set caller.engine { engine with nextRequestId := engine.nextRequestId + 1 }
        callers := domain.callers.set index { caller with stage := .numbering client true } } []
  | numbered {caller : Caller} {engine : Engine} {owner : Client} {client : Nat} {again : Bool}
      (active : domain.callers[index]? = some caller) (before : caller.stage = .numbering client again)
      (home : domain.engines[caller.engine]? = some engine) (found : domain.clients[client]? = some owner)
      (stepped : owner.channel.step (.enter engine.nextRequestId caller.request caller.deadline) =
        some (channel,events)) :
      Took domain { domain with
        engines := domain.engines.set caller.engine { engine with nextRequestId := engine.nextRequestId + 1 }
        clients := domain.clients.set client { owner with channel := channel }
        callers := domain.callers.set index
          { caller with stage := .entered client owner.channel.calls.length engine.nextRequestId } }
        (events.map (.client client))
  | moved {client : Client} {action : ChannelAction} (active : domain.clients[index]? = some client)
      (stepped : client.channel.step action = some (channel,events))
      (settled : ∀ requestId request deadline, action ≠ .enter requestId request deadline)
      (deaf : ∀ sample completion, action ≠ .receive sample completion) :
      Took domain (domain.setClient index { client with channel := channel }) (events.map (.client index))
  | sent {client : Client} {engine : Engine} {call : Call} {number : Nat}
      (active : domain.clients[index]? = some client) (home : domain.engines[client.engine]? = some engine)
      (found : client.channel.calls[number]? = some call)
      (stepped : client.channel.step (.write number status) = some (channel,events)) :
      Took domain { domain.setClient index { client with channel := channel } with
        requests := domain.requests ++ [(topic,
          buildRequest engine.guid client.serviceName call.requestId budget call.request)] }
        (events.map (.client index) ++
          [.sent index number (buildRequest engine.guid client.serviceName call.requestId budget call.request)])
  | received {client : Client} {engine : Engine} (active : domain.clients[index]? = some client)
      (home : domain.engines[client.engine]? = some engine) (listed : (topic,wire) ∈ domain.responses)
      (read : readCompletion engine.config engine.guid client.serviceName wire = some completion)
      (stepped : client.channel.step (.receive wire completion) = some (channel,events)) :
      Took domain (domain.setClient index { client with channel := channel }) (events.map (.client index))
  | taken {endpoint : Endpoint} (active : domain.endpoints[index]? = some endpoint)
      (listed : (topic,wire) ∈ domain.requests)
      (named : readBoundedString wire.serviceName = some endpoint.serviceName) :
      Took domain (domain.setEndpoint index { endpoint with phase := .dispatching wire }) []
  | produced {endpoint : Endpoint} {engine : Engine} {response : Outcome Message}
      (active : domain.endpoints[index]? = some endpoint) (home : domain.engines[endpoint.engine]? = some engine)
      (before : endpoint.phase = .dispatching sample) :
      Took domain (domain.setEndpoint index { endpoint with
        phase := .responding (buildResponse engine.config endpoint.serviceName sample response) })
        [.produced index sample response]
  | responded {endpoint : Endpoint} (active : domain.endpoints[index]? = some endpoint)
      (before : endpoint.phase = .responding wire) :
      Took domain { domain.setEndpoint index { endpoint with phase := .receiving } with
        responses := domain.responses ++ [(topic,wire)] } []
  | settled {endpoint changed : Endpoint} (active : domain.endpoints[index]? = some endpoint)
      (engine : changed.engine = endpoint.engine) (name : changed.serviceName = endpoint.serviceName)
      (phase : changed.phase = endpoint.phase ∨ changed.phase = .receiving ∨ changed.phase = .ended) :
      Took domain (domain.setEndpoint index changed) []

variable {domain : Domain}

theorem advertise_took (stepped : domain.advertise index serviceName creation = some (next,emitted)) :
    Took domain next emitted := by
  simp only [Domain.advertise,bind_eq_bind,bind_eq_some_iff] at stepped
  obtain ⟨engine,active,stepped⟩ := stepped
  split at stepped
  · cases stepped
    exact .aside (by simp [DomainEvent.isQuiet])
  split at stepped
  · cases stepped
    exact .aside (by simp [DomainEvent.isQuiet])
  split at stepped
  · cases stepped
    exact .aside (by simp [DomainEvent.isQuiet])
  cases creation with
  | some =>
    cases stepped
    exact .managed active rfl rfl rfl (.inl rfl) (by simp [DomainEvent.isQuiet])
  | none =>
    cases stepped
    exact .advertised active rfl rfl rfl rfl rfl (by simp [DomainEvent.isQuiet])

theorem remove_took (stepped : domain.remove index serviceId = some (next,emitted)) : Took domain next emitted := by
  simp only [Domain.remove,bind_eq_bind,bind_eq_some_iff] at stepped
  obtain ⟨engine,active,stepped⟩ := stepped
  split at stepped
  · cases stepped
    exact .aside (by simp [DomainEvent.isQuiet])
  split at stepped
  · cases stepped
    exact .aside (by simp [DomainEvent.isQuiet])
  · simp only [bind_eq_some_iff] at stepped
    obtain ⟨endpoint,-,rfl,rfl⟩ := stepped
    exact .managed active rfl rfl rfl (.inl rfl) (by simp [DomainEvent.isQuiet])

theorem request_took (stepped : domain.request index serviceName request deadline now = some (next,emitted)) :
    Took domain next emitted := by
  simp only [Domain.request,bind_eq_bind,bind_eq_some_iff] at stepped
  obtain ⟨engine,active,stepped⟩ := stepped
  have home : index < domain.engines.length := Pool.inside active
  split at stepped
  · cases stepped
    exact .requested home (.inr ⟨_,rfl⟩) (by simp [DomainEvent.isQuiet])
  next sound =>
    split at stepped
    · cases stepped
      exact .requested home (.inr ⟨_,rfl⟩) (by simp [DomainEvent.isQuiet])
    · cases stepped
      simp only [not_or,not_not] at sound
      exact .requested home (.inl ⟨rfl,sound.1⟩) (by simp)

theorem connect_took (stepped : domain.connect index creation = some (next,emitted)) : Took domain next emitted := by
  simp only [Domain.connect,bind_eq_bind,bind_eq_some_iff] at stepped
  obtain ⟨caller,active,stepped⟩ := stepped
  split at stepped
  next before =>
    simp only [bind_eq_some_iff] at stepped
    obtain ⟨engine,home,stepped⟩ := stepped
    split at stepped
    · cases stepped
      exact .refused active before (by simp [DomainEvent.isQuiet])
    split at stepped
    next known =>
      cases stepped
      exact .connected active before home known
    · cases creation with
      | some =>
        cases stepped
        exact .refused active before (by simp [DomainEvent.isQuiet])
      | none =>
        cases stepped
        exact .opened active before home
  · contradiction

theorem number_took (stepped : domain.number index = some (next,emitted)) : Took domain next emitted := by
  simp only [Domain.number,bind_eq_bind,bind_eq_some_iff] at stepped
  obtain ⟨caller,active,stepped⟩ := stepped
  split at stepped
  next client again before =>
    simp only [bind_eq_some_iff] at stepped
    obtain ⟨engine,home,stepped⟩ := stepped
    split at stepped
    next wrapped =>
      cases stepped
      exact .redrawn active (wrapped.2 ▸ before) home wrapped.1
    · simp only [bind_eq_some_iff] at stepped
      obtain ⟨owner,found,⟨channel,events⟩,entered,stepped⟩ := stepped
      cases stepped
      exact .numbered active before home found entered
  · contradiction

theorem moveClient_some (stepped : domain.moveClient index action = some (next,emitted)) :
    ∃ client channel events, domain.clients[index]? = some client ∧
      client.channel.step action = some (channel,events) ∧
      next = domain.setClient index { client with channel := channel } ∧ emitted = events.map (.client index) := by
  simp only [Domain.moveClient,bind_eq_bind,bind_eq_some_iff] at stepped
  obtain ⟨client,active,⟨channel,events⟩,moved,rfl,rfl⟩ := stepped
  exact ⟨client,channel,events,active,moved,rfl,rfl⟩

theorem moveClient_took (stepped : domain.moveClient index action = some (next,emitted))
    (settled : ∀ requestId request deadline, action ≠ .enter requestId request deadline)
    (deaf : ∀ sample completion, action ≠ .receive sample completion) : Took domain next emitted := by
  obtain ⟨client,channel,events,active,moved,rfl,rfl⟩ := moveClient_some stepped
  exact .moved active moved settled deaf

theorem write_took (stepped : domain.write index call status sent = some (next,emitted)) :
    Took domain next emitted := by
  simp only [Domain.write,bind_eq_bind,bind_eq_some_iff] at stepped
  obtain ⟨client,active,engine,home,caller,found,stepped⟩ := stepped
  split at stepped
  · simp only [bind_eq_some_iff] at stepped
    obtain ⟨⟨reached,events⟩,moved,stepped⟩ := stepped
    split at stepped
    · cases stepped
      obtain ⟨same,channel,events,again,written,rfl,rfl⟩ := moveClient_some moved
      cases active.symm.trans again
      exact .sent active home found written
    · cases stepped
      exact moveClient_took moved nofun nofun
  · contradiction

theorem takeResponse_took (stepped : domain.takeResponse index sample = some (next,emitted)) :
    Took domain next emitted := by
  simp only [Domain.takeResponse,bind_eq_bind,bind_eq_some_iff] at stepped
  obtain ⟨client,active,engine,home,stepped⟩ := stepped
  split at stepped
  · simp only [bind_eq_some_iff] at stepped
    obtain ⟨⟨topic,wire⟩,listed,stepped⟩ := stepped
    split at stepped
    · contradiction
    split at stepped
    · cases stepped
      exact .aside (by simp)
    next read =>
      obtain ⟨same,channel,events,again,received,rfl,rfl⟩ := moveClient_some stepped
      cases active.symm.trans again
      exact .received active home (List.mem_of_getElem? listed) read received
  · contradiction

theorem takeRequest_took (stepped : domain.takeRequest index sample = some (next,emitted)) :
    Took domain next emitted := by
  simp only [Domain.takeRequest,bind_eq_bind,bind_eq_some_iff] at stepped
  obtain ⟨endpoint,active,engine,home,stepped⟩ := stepped
  split at stepped
  · simp only [bind_eq_some_iff] at stepped
    obtain ⟨⟨topic,wire⟩,listed,stepped⟩ := stepped
    split at stepped
    · contradiction
    split at stepped
    next dispatchable =>
      cases stepped
      exact .taken active (List.mem_of_getElem? listed) dispatchable.1
    · cases stepped
      exact .aside (by simp)
  · contradiction

theorem dispatch_took (stepped : domain.dispatch index made checked ended = some (next,emitted)) :
    Took domain next emitted := by
  simp only [Domain.dispatch,bind_eq_bind,bind_eq_some_iff] at stepped
  obtain ⟨endpoint,active,engine,home,stepped⟩ := stepped
  split at stepped
  next before =>
    cases stepped
    exact .produced active home before
  · contradiction

theorem respond_took (stepped : domain.respond index sent = some (next,emitted)) : Took domain next emitted := by
  simp only [Domain.respond,bind_eq_bind,bind_eq_some_iff] at stepped
  obtain ⟨endpoint,active,stepped⟩ := stepped
  split at stepped
  next before =>
    split at stepped
    · cases stepped
      exact .responded active before
    · cases stepped
      exact .settled active rfl rfl (.inr (.inl rfl))
  · contradiction

theorem step_took (stepped : domain.step action = some (next,emitted)) : Took domain next emitted := by
  cases action with
  | create =>
    cases stepped
    exact .created
  | advertise => exact advertise_took stepped
  | remove => exact remove_took stepped
  | request => exact request_took stepped
  | connect => exact connect_took stepped
  | number => exact number_took stepped
  | client =>
    simp only [Domain.step] at stepped
    split at stepped
    next own =>
      refine moveClient_took stepped ?_ ?_
      · rintro requestId request deadline rfl
        contradiction
      · rintro sample completion rfl
        contradiction
    · contradiction
  | write => exact write_took stepped
  | takeResponse => exact takeResponse_took stepped
  | takeRequest => exact takeRequest_took stepped
  | dispatch => exact dispatch_took stepped
  | respond => exact respond_took stepped
  | endRequests =>
    simp only [Domain.step,Domain.endRequests,bind_eq_bind,bind_eq_some_iff] at stepped
    obtain ⟨endpoint,active,stepped⟩ := stepped
    split at stepped
    · cases stepped
      exact .settled active rfl rfl (.inr (.inr rfl))
    · contradiction
  | close =>
    simp only [Domain.step,Domain.close,bind_eq_bind,bind_eq_some_iff] at stepped
    obtain ⟨home,active,stepped⟩ := stepped
    split at stepped
    · cases stepped
      exact .aside (by simp)
    · cases stepped
      exact .managed active rfl rfl rfl (.inr rfl) (by simp)
  | closeClient =>
    simp only [Domain.step,Domain.closeClient,bind_eq_bind,bind_eq_some_iff] at stepped
    obtain ⟨owner,-,engine,-,stepped⟩ := stepped
    split at stepped
    · exact moveClient_took stepped nofun nofun
    · contradiction
  | closeService =>
    simp only [Domain.step,Domain.closeService,bind_eq_bind,bind_eq_some_iff] at stepped
    obtain ⟨endpoint,active,rfl,rfl⟩ := stepped
    exact .settled active rfl rfl (.inl rfl)

end AutoRuntime.DdsRpc
