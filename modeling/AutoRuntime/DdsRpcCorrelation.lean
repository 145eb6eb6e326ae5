import AutoRuntime.DdsRpcWiring

/-! Every response reaches the call it answers. Whatever is on a topic was written there, so a
completion leads back from the sample to the endpoint that produced it, from there to the request
it was produced for, and from the request to the one call that carries its number. -/
namespace AutoRuntime.DdsRpc

open List Pool

theorem moved_completed {channel next : Channel} (moved : Moved channel action next emitted)
    (completed : .completed index sample completion ∈ emitted) :
    channel.receiver = .completing sample completion := by
  cases moved with
  | completed before =>
    simp only [mem_singleton] at completed
    obtain ⟨-,rfl,rfl⟩ := completed
    exact before
  | cleared => simp [Channel.clear] at completed
  | _ => simp at completed

theorem moved_completing {channel next : Channel} (moved : Moved channel action next emitted)
    (holding : next.receiver = .completing wire completion) :
    action = .receive wire completion ∨ channel.receiver = .completing wire completion := by
  cases moved with
  | received =>
    cases holding
    exact .inl rfl
  | dropped | completed | ended => contradiction
  | gaveUp => exact .inr (by simpa [Channel.setCall] using holding)
  | _ => exact .inr holding

/-- The sample asks for what this call asks for. -/
def Domain.Asked (domain : Domain) (client number : Nat) (sample : RpcRequest) : Prop :=
  ∃ owner engine, domain.clients[client]? = some owner ∧ domain.engines[owner.engine]? = some engine ∧
    sample.clientGuid = engine.guid ∧
    sample.serviceName = copyBoundedString (maximumServiceNameBytes + 1) owner.serviceName ∧
    owner.channel.numbers[number]? = some sample.requestId

/-- The sample is what an endpoint made of a request. -/
def Domain.Replied (domain : Domain) (history : List DomainEvent) (wire : RpcResponse) : Prop :=
  ∃ service endpoint responder sample response, domain.endpoints[service]? = some endpoint ∧
    domain.engines[endpoint.engine]? = some responder ∧ .produced service sample response ∈ history ∧
    wire = buildResponse responder.config endpoint.serviceName sample response

/-- The client reads this from the sample. -/
def Domain.Accepts (domain : Domain) (client : Nat) (wire : RpcResponse) (completion : Outcome Message) : Prop :=
  ∃ owner engine, domain.clients[client]? = some owner ∧ domain.engines[owner.engine]? = some engine ∧
    readCompletion engine.config engine.guid owner.serviceName wire = some completion

section Extends

variable {domain next : Domain} (grown : Extends domain next)

include grown

theorem Extends.asked (asked : domain.Asked client number sample) : next.Asked client number sample := by
  obtain ⟨owner,engine,found,home,guid,name,numbered⟩ := asked
  obtain ⟨later,present,same,title,-⟩ := grown.clients client owner found
  obtain ⟨host,there,alike,-⟩ := grown.engines owner.engine engine home
  obtain ⟨client,again,carried⟩ := grown.carries ⟨owner,found,numbered⟩
  cases present.symm.trans again
  exact ⟨later,host,present,same ▸ there,guid.trans alike.symm,title ▸ name,carried⟩

theorem Extends.replied (replied : domain.Replied history wire) (emitted : List DomainEvent) :
    next.Replied (history ++ emitted) wire := by
  obtain ⟨service,endpoint,responder,sample,response,found,home,produced,rfl⟩ := replied
  obtain ⟨later,present,same,name⟩ := grown.endpoints service endpoint found
  obtain ⟨host,there,-,config⟩ := grown.engines endpoint.engine responder home
  refine ⟨service,later,host,sample,response,present,same ▸ there,mem_append_left _ produced,?_⟩
  rw [config,name]

theorem Extends.accepts (accepts : domain.Accepts client wire completion) : next.Accepts client wire completion := by
  obtain ⟨owner,engine,found,home,read⟩ := accepts
  obtain ⟨later,present,same,title,-⟩ := grown.clients client owner found
  obtain ⟨host,there,guid,config⟩ := grown.engines owner.engine engine home
  refine ⟨later,host,present,same ▸ there,?_⟩
  rw [config,guid,title,read]

end Extends

/-- The sample is on its way from a call to an endpoint of this name. -/
def Requested (history : List DomainEvent) (serviceName : Bytes) (sample : RpcRequest) : Prop :=
  readBoundedString sample.serviceName = some serviceName ∧
    ∃ client number, .sent client number sample ∈ history

theorem Requested.append (requested : Requested history serviceName sample) (emitted : List DomainEvent) :
    Requested (history ++ emitted) serviceName sample := by
  obtain ⟨named,client,number,sent⟩ := requested
  exact ⟨named,client,number,mem_append_left _ sent⟩

structure Traced (domain : Domain) (history : List DomainEvent) : Prop where
  sent : ∀ client number sample, .sent client number sample ∈ history → domain.Asked client number sample
  requests : ∀ topic sample, (topic,sample) ∈ domain.requests → ∃ client number, .sent client number sample ∈ history
  dispatching : ∀ endpoint ∈ domain.endpoints, ∀ sample, endpoint.phase = .dispatching sample →
    Requested history endpoint.serviceName sample
  produced : ∀ service sample response, .produced service sample response ∈ history →
    ∃ endpoint, domain.endpoints[service]? = some endpoint ∧ Requested history endpoint.serviceName sample
  responding : ∀ endpoint ∈ domain.endpoints, ∀ wire, endpoint.phase = .responding wire → domain.Replied history wire
  responses : ∀ topic wire, (topic,wire) ∈ domain.responses → domain.Replied history wire
  completing : ∀ (client : Nat) (owner : Client), domain.clients[client]? = some owner →
    ∀ wire completion, owner.channel.receiver = .completing wire completion →
      domain.Replied history wire ∧ domain.Accepts client wire completion
  completed : ∀ client number wire completion, .client client (.completed number wire completion) ∈ history →
    domain.Replied history wire ∧ domain.Accepts client wire completion

section

variable {domain next : Domain} (traced : Traced domain history)

include traced

/-- A step leaves everything traced if what it adds can be traced. -/
theorem Traced.extend (grown : Extends domain next)
    (sent : ∀ client number sample, .sent client number sample ∈ emitted → next.Asked client number sample)
    (requests : ∀ topic sample, (topic,sample) ∈ next.requests →
      (topic,sample) ∈ domain.requests ∨ ∃ client number, .sent client number sample ∈ emitted)
    (phases : ∀ endpoint ∈ next.endpoints,
      (∃ old ∈ domain.endpoints, old.serviceName = endpoint.serviceName ∧ old.phase = endpoint.phase) ∨
      endpoint.phase = .receiving ∨ endpoint.phase = .ended ∨
      (∃ sample, endpoint.phase = .dispatching sample ∧ Requested history endpoint.serviceName sample) ∨
      ∃ wire, endpoint.phase = .responding wire ∧ next.Replied (history ++ emitted) wire)
    (produced : ∀ service sample response, .produced service sample response ∈ emitted →
      ∃ endpoint, domain.endpoints[service]? = some endpoint ∧ Requested history endpoint.serviceName sample)
    (responses : ∀ topic wire, (topic,wire) ∈ next.responses →
      (topic,wire) ∈ domain.responses ∨ domain.Replied history wire)
    (completing : ∀ (client : Nat) (owner : Client), next.clients[client]? = some owner →
      ∀ wire completion, owner.channel.receiver = .completing wire completion →
        (∃ old, domain.clients[client]? = some old ∧ old.channel.receiver = .completing wire completion) ∨
          domain.Replied history wire ∧ domain.Accepts client wire completion)
    (completed : ∀ client number wire completion, .client client (.completed number wire completion) ∈ emitted →
      ∃ old, domain.clients[client]? = some old ∧ old.channel.receiver = .completing wire completion) :
    Traced next (history ++ emitted) := by
  have carried {client : Nat} {wire : RpcResponse} {completion : Outcome Message}
      (old : domain.Replied history wire ∧ domain.Accepts client wire completion) :
      next.Replied (history ++ emitted) wire ∧ next.Accepts client wire completion :=
    ⟨grown.replied old.1 emitted,grown.accepts old.2⟩
  refine ⟨?_,?_,?_,?_,?_,?_,?_,?_⟩
  · intro client number sample member
    rcases mem_append.mp member with old | new
    · exact grown.asked (traced.sent client number sample old)
    · exact sent client number sample new
  · intro topic sample member
    rcases requests topic sample member with old | ⟨client,number,new⟩
    · obtain ⟨client,number,sent⟩ := traced.requests topic sample old
      exact ⟨client,number,mem_append_left _ sent⟩
    · exact ⟨client,number,mem_append_right _ new⟩
  · intro endpoint member sample dispatching
    rcases phases endpoint member with ⟨old,before,name,same⟩ | idle | ended | ⟨taken,now,requested⟩ | ⟨wire,now,-⟩
    · exact name ▸ (traced.dispatching old before sample (same.trans dispatching)).append emitted
    · simp [idle] at dispatching
    · simp [ended] at dispatching
    · cases now.symm.trans dispatching
      exact requested.append emitted
    · simp [now] at dispatching
  · intro service sample response member
    have origin : ∃ endpoint, domain.endpoints[service]? = some endpoint ∧
        Requested history endpoint.serviceName sample := by
      rcases mem_append.mp member with old | new
      · exact traced.produced service sample response old
      · exact produced service sample response new
    obtain ⟨endpoint,found,requested⟩ := origin
    obtain ⟨later,present,-,name⟩ := grown.endpoints service endpoint found
    exact ⟨later,present,name ▸ requested.append emitted⟩
  · intro endpoint member wire responding
    rcases phases endpoint member with ⟨old,before,-,same⟩ | idle | ended | ⟨taken,now,-⟩ | ⟨made,now,replied⟩
    · exact grown.replied (traced.responding old before wire (same.trans responding)) emitted
    · simp [idle] at responding
    · simp [ended] at responding
    · simp [now] at responding
    · cases now.symm.trans responding
      exact replied
  · intro topic wire member
    rcases responses topic wire member with old | replied
    · exact grown.replied (traced.responses topic wire old) emitted
    · exact grown.replied replied emitted
  · intro client owner found wire completion holding
    rcases completing client owner found wire completion holding with ⟨old,before,same⟩ | new
    · exact carried (traced.completing client old before wire completion same)
    · exact carried new
  · intro client number wire completion member
    rcases mem_append.mp member with old | new
    · exact carried (traced.completed client number wire completion old)
    · obtain ⟨old,before,same⟩ := completed client number wire completion new
      exact carried (traced.completing client old before wire completion same)

theorem Traced.quiet (grown : Extends domain next) (quiet : ∀ event ∈ emitted, event.isQuiet = true)
    (requests : next.requests = domain.requests) (responses : next.responses = domain.responses)
    (phases : ∀ endpoint ∈ next.endpoints, endpoint ∈ domain.endpoints ∨ endpoint.phase = .receiving)
    (completing : ∀ (client : Nat) (owner : Client), next.clients[client]? = some owner →
      ∀ wire completion, owner.channel.receiver = .completing wire completion →
        ∃ old, domain.clients[client]? = some old ∧ old.channel.receiver = .completing wire completion) :
    Traced next (history ++ emitted) := by
  refine traced.extend grown ?_ ?_ ?_ ?_ ?_ ?_ ?_
  · intro client number sample member
    exact absurd (quiet _ member) nofun
  · intro topic sample member
    exact .inl (requests ▸ member)
  · intro endpoint member
    rcases phases endpoint member with old | idle
    · exact .inl ⟨endpoint,old,rfl,rfl⟩
    · exact .inr (.inl idle)
  · intro service sample response member
    exact absurd (quiet _ member) nofun
  · intro topic wire member
    exact .inl (responses ▸ member)
  · intro client owner found wire completion holding
    exact .inl (completing client owner found wire completion holding)
  · intro client number wire completion member
    exact absurd (quiet _ member) nofun

theorem Traced.move (grown : Extends domain next) {client : Client} (extra : List DomainEvent)
    (active : domain.clients[index]? = some client) (stepped : client.channel.step action = some (channel,events))
    (clients : next.clients = domain.clients.set index { client with channel := channel })
    (endpoints : next.endpoints = domain.endpoints) (responses : next.responses = domain.responses)
    (heard : ∀ wire completion, action = .receive wire completion →
      domain.Replied history wire ∧ domain.Accepts index wire completion)
    (requests : ∀ topic sample, (topic,sample) ∈ next.requests →
      (topic,sample) ∈ domain.requests ∨ ∃ client number, .sent client number sample ∈ extra)
    (sent : ∀ event ∈ extra, ∃ client number sample, event = .sent client number sample ∧
      next.Asked client number sample) : Traced next (history ++ (events.map (.client index) ++ extra)) := by
  have moved := step_moved stepped
  refine traced.extend grown ?_ ?_ ?_ ?_ ?_ ?_ ?_
  · intro other number sample member
    rcases mem_append.mp member with channel | extra
    · simp at channel
    · obtain ⟨owner,place,asked,same,fact⟩ := sent _ extra
      cases same
      exact fact
  · intro topic sample member
    rcases requests topic sample member with old | ⟨other,number,new⟩
    · exact .inl old
    · exact .inr ⟨other,number,mem_append_right _ new⟩
  · intro endpoint member
    exact .inl ⟨endpoint,endpoints ▸ member,rfl,rfl⟩
  · intro service sample response member
    rcases mem_append.mp member with channel | extra
    · simp at channel
    · obtain ⟨owner,place,asked,same,-⟩ := sent _ extra
      contradiction
  · intro topic wire member
    exact .inl (responses ▸ member)
  · intro other owner found wire completion holding
    rw [clients] at found
    rcases set_cases found with ⟨rfl,rfl⟩ | ⟨-,old⟩
    · rcases moved_completing moved holding with received | before
      · exact .inr (heard wire completion received)
      · exact .inl ⟨client,active,before⟩
    · exact .inl ⟨owner,old,holding⟩
  · intro other number wire completion member
    rcases mem_append.mp member with channel | extra
    · obtain ⟨event,emitted,same⟩ := mem_map.mp channel
      cases same
      exact ⟨client,active,moved_completed moved emitted⟩
    · obtain ⟨owner,place,asked,same,-⟩ := sent _ extra
      contradiction

theorem Traced.serve (grown : Extends domain next) {changed : Endpoint} (clients : next.clients = domain.clients)
    (requests : next.requests = domain.requests) (endpoints : next.endpoints = domain.endpoints.set index changed)
    (phase : (∃ old ∈ domain.endpoints, old.serviceName = changed.serviceName ∧ old.phase = changed.phase) ∨
      changed.phase = .receiving ∨ changed.phase = .ended ∨
      (∃ sample, changed.phase = .dispatching sample ∧ Requested history changed.serviceName sample) ∨
      ∃ wire, changed.phase = .responding wire ∧ next.Replied (history ++ emitted) wire)
    (produced : ∀ event ∈ emitted, ∃ service sample response endpoint,
      event = .produced service sample response ∧ domain.endpoints[service]? = some endpoint ∧
        Requested history endpoint.serviceName sample) (responses : ∀ topic wire, (topic,wire) ∈ next.responses →
      (topic,wire) ∈ domain.responses ∨ domain.Replied history wire) : Traced next (history ++ emitted) := by
  refine traced.extend grown ?_ (fun _ _ member => .inl (requests ▸ member)) ?_ ?_ responses ?_ ?_
  · intro client number sample member
    obtain ⟨_,_,_,_,same,-⟩ := produced _ member
    contradiction
  · intro endpoint member
    rw [endpoints] at member
    rcases mem_or_eq_of_mem_set member with old | rfl
    · exact .inl ⟨endpoint,old,rfl,rfl⟩
    · exact phase
  · intro service sample response member
    obtain ⟨_,_,_,endpoint,same,found,requested⟩ := produced _ member
    cases same
    exact ⟨endpoint,found,requested⟩
  · intro client owner found wire completion holding
    exact .inl ⟨owner,clients ▸ found,holding⟩
  · intro client number wire completion member
    obtain ⟨_,_,_,_,same,-⟩ := produced _ member
    contradiction

theorem took_traced (took : Took domain next emitted) : Traced next (history ++ emitted) := by
  have grown := took_extends took
  have still (client : Nat) (owner : Client) (found : domain.clients[client]? = some owner) (wire : RpcResponse)
      (completion : Outcome Message) (holding : owner.channel.receiver = .completing wire completion) :
      ∃ old, domain.clients[client]? = some old ∧ old.channel.receiver = .completing wire completion :=
    ⟨owner,found,holding⟩
  cases took with
  | aside quiet | managed active guid config number clients quiet | requested home stage quiet
  | refused active before quiet => exact traced.quiet grown quiet rfl rfl (fun _ member => .inl member) still
  | created | connected | redrawn => exact traced.quiet grown (by simp) rfl rfl (fun _ member => .inl member) still
  | advertised active guid config number clients phase quiet =>
    refine traced.quiet grown quiet rfl rfl ?_ still
    intro endpoint member
    rcases mem_concat member with old | rfl
    · exact .inl old
    · exact .inr phase
  | opened =>
    refine traced.quiet grown (by simp) rfl rfl (fun _ member => .inl member) ?_
    intro client owner found wire completion holding
    rcases concat_cases found with old | ⟨-,rfl⟩
    · exact ⟨owner,old,holding⟩
    · contradiction
  | numbered active before home found stepped =>
    have moved := traced.move grown [] found stepped rfl rfl rfl nofun (fun _ _ member => .inl member) (by simp)
    rwa [append_nil] at moved
  | moved active stepped settled deaf =>
    have moved := traced.move grown [] active stepped rfl rfl rfl
      (fun wire completion same => absurd same (deaf wire completion)) (fun _ _ member => .inl member) (by simp)
    rwa [append_nil] at moved
  | sent active home found stepped =>
    refine traced.move grown _ active stepped rfl rfl rfl nofun ?_ ?_
    · intro topic sample member
      rcases mem_append.mp member with old | new
      · exact .inl old
      · cases mem_singleton.mp new
        exact .inr ⟨_,_,mem_singleton.mpr rfl⟩
    · intro event member
      obtain rfl := mem_singleton.mp member
      refine ⟨_,_,_,rfl,grown.asked ⟨_,_,active,home,rfl,rfl,?_⟩⟩
      simp [Channel.numbers,found,buildRequest]
  | received active home listed read stepped =>
    have moved := traced.move grown [] active stepped rfl rfl rfl ?_ (fun _ _ member => .inl member) (by simp)
    · rwa [append_nil] at moved
    · intro wire completion same
      cases same
      exact ⟨traced.responses _ _ listed,_,_,active,home,read⟩
  | taken active listed named =>
    exact traced.serve grown rfl rfl rfl (.inr (.inr (.inr (.inl ⟨_,rfl,named,traced.requests _ _ listed⟩))))
      (by simp) (fun _ _ member => .inl member)
  | @produced index sample endpoint engine response active home before =>
    have inside := inside active
    refine traced.serve grown rfl rfl rfl (.inr (.inr (.inr (.inr ⟨_,rfl,index,{ endpoint with phase := _ },engine,
      sample,response,getElem?_set_self inside,home,by simp,rfl⟩)))) ?_ (fun _ _ member => .inl member)
    intro event member
    exact ⟨index,sample,response,endpoint,mem_singleton.mp member,active,
      traced.dispatching endpoint (mem_of_getElem? active) _ before⟩
  | @responded index wire topic endpoint active before =>
    refine traced.serve grown rfl rfl rfl (.inr (.inl rfl)) (by simp) ?_
    intro place sample member
    rcases mem_append.mp member with old | new
    · exact .inl old
    · cases mem_singleton.mp new
      exact .inr (traced.responding endpoint (mem_of_getElem? active) _ before)
  | settled active engine name phase =>
    refine traced.serve grown rfl rfl rfl ?_ (by simp) (fun _ _ member => .inl member)
    rcases phase with same | idle | ended
    · exact .inl ⟨_,mem_of_getElem? active,name.symm,same.symm⟩
    · exact .inr (.inl idle)
    · exact .inr (.inr (.inl ended))

end

theorem run_traced (ran : ddsDomain.run {} actions = some (domain,history)) : Traced domain history :=
  Machine.run_invariant (motive := Traced)
    (fun _ _ _ _ _ traced stepped => took_traced traced (step_took stepped))
    ⟨by simp,by simp,by simp,by simp,by simp,by simp,by simp,by simp⟩ ran

def DomainEvent.labelled : DomainEvent → Option (Nat × ChannelEvent)
  | .client owner event => some (owner,event)
  | _ => none

/-- What the channel of one client has been through. -/
def clientHistory (client : Nat) (history : List DomainEvent) : List ChannelEvent :=
  Pool.share client (history.filterMap DomainEvent.labelled)

theorem clientHistory_append (client : Nat) (first second : List DomainEvent) :
    clientHistory client (first ++ second) = clientHistory client first ++ clientHistory client second := by
  rw [clientHistory,filterMap_append,share_append]
  rfl

theorem clientHistory_moved (client index : Nat) (events : List ChannelEvent) :
    clientHistory client (events.map (.client index)) = if client = index then events else [] := by
  have labelled : (events.map (DomainEvent.client index)).filterMap DomainEvent.labelled =
      events.map fun event => (index,event) := by
    rw [filterMap_map,← filterMap_eq_map]
    rfl
  rw [clientHistory,labelled]
  split
  next same => rw [same,share_own]
  next apart => rw [share_other (Ne.symm apart)]

theorem clientHistory_silent (silent : ∀ event ∈ emitted, event.labelled = none) :
    clientHistory client emitted = [] := by
  rw [clientHistory,filterMap_eq_nil_iff.mpr silent]
  rfl

theorem mem_clientHistory : event ∈ clientHistory client history ↔ .client client event ∈ history := by
  simp only [clientHistory,share,mem_filterMap]
  constructor
  · rintro ⟨⟨owner,happened⟩,⟨entry,member,labelled⟩,found⟩
    cases entry with
    | client =>
      cases labelled
      simp only [Option.ite_none_right_eq_some,Option.some.injEq] at found
      obtain ⟨rfl,rfl⟩ := found
      exact member
    | _ => contradiction
  · intro member
    exact ⟨(client,event),⟨_,member,rfl⟩,if_pos rfl⟩

/-- What a step of the domain is to the channel of one client: nothing, its beginning or one of its steps. -/
inductive Follows (domain next : Domain) (client : Nat) : List ChannelEvent → Prop where
  | idle (same : next.clients[client]?.map (·.channel) = domain.clients[client]?.map (·.channel)) :
      Follows domain next client []
  | opened (absent : domain.clients[client]? = none) (present : next.clients[client]?.map (·.channel) = some {}) :
      Follows domain next client []
  | stepped {owner : Client} (found : domain.clients[client]? = some owner)
      (taken : owner.channel.step action = some (channel,events))
      (present : next.clients[client]?.map (·.channel) = some channel) : Follows domain next client events

section

variable {domain next : Domain}

theorem took_follows (took : Took domain next emitted) (client : Nat) :
    Follows domain next client (clientHistory client emitted) := by
  have quiet (silent : ∀ event ∈ emitted, event.isQuiet = true) : clientHistory client emitted = [] := by
    refine clientHistory_silent fun event member => ?_
    have still := silent event member
    cases event <;> first | rfl | contradiction
  -- the channel of one client takes a step and the others do not
  have moves (index : Nat) (owner : Client) (action : ChannelAction) (channel : Channel) (events : List ChannelEvent)
      (next : Domain) (active : domain.clients[index]? = some owner)
      (stepped : owner.channel.step action = some (channel,events))
      (clients : next.clients = domain.clients.set index { owner with channel := channel }) :
      Follows domain next client (clientHistory client (events.map (.client index))) := by
    rw [clientHistory_moved]
    split
    next same =>
      subst same
      refine .stepped active stepped ?_
      rw [clients,getElem?_set_self (inside active)]
      rfl
    next apart =>
      refine .idle ?_
      rw [clients,getElem?_set_ne (Ne.symm apart)]
  cases took with
  | aside silent | managed active guid config number clients silent
  | advertised active guid config number clients phase silent | requested home stage silent
  | refused active before silent => exact quiet silent ▸ .idle rfl
  | opened =>
    by_cases new : client = domain.clients.length
    · subst new
      exact .opened (getElem?_eq_none (Nat.le_refl _)) (by simp)
    · refine .idle ?_
      rcases Nat.lt_or_gt_of_ne new with inside | outside
      · rw [getElem?_append_left inside]
      · rw [getElem?_eq_none (by rw [length_append]; exact outside),
          getElem?_eq_none (by omega)]
  | numbered active before home found stepped => exact moves _ _ _ _ _ _ found stepped rfl
  | moved active stepped | received active home listed read stepped => exact moves _ _ _ _ _ _ active stepped rfl
  | sent active home found stepped =>
    have more (index number : Nat) (sample : RpcRequest) : clientHistory client [.sent index number sample] = [] :=
      clientHistory_silent (by simp [DomainEvent.labelled])
    rw [clientHistory_append,more,append_nil]
    exact moves _ _ _ _ _ _ active stepped rfl
  | _ => exact .idle rfl

/-- An invariant of the channel machine is an invariant of the channel of every client. -/
theorem run_channels {motive : Channel → List ChannelEvent → Prop} (start : motive {} [])
    (preserved : ∀ channel history action next emitted, motive channel history →
      channel.step action = some (next,emitted) → motive next (history ++ emitted))
    (ran : ddsDomain.run {} actions = some (domain,history)) (client : Nat) :
    (domain.clients[client]? = none → clientHistory client history = []) ∧
      ∀ owner, domain.clients[client]? = some owner → motive owner.channel (clientHistory client history) := by
  have held := Machine.run_invariant
    (motive := fun domain history => ∀ client,
      (domain.clients[client]? = none → clientHistory client history = []) ∧
      ∀ channel, domain.clients[client]?.map (·.channel) = some channel →
        motive channel (clientHistory client history)) ?_ ?_ ran
  · exact ⟨(held client).1,fun owner found => (held client).2 owner.channel (by rw [found]; rfl)⟩
  · intro before past action after emitted held stepped client
    have follows := took_follows (step_took stepped) client
    rw [clientHistory_append]
    generalize clientHistory client emitted = events at follows
    obtain ⟨absent,holds⟩ := held client
    cases follows with
    | idle same =>
      rw [append_nil]
      refine ⟨fun none => absent ?_,fun channel present => holds channel (same ▸ present)⟩
      simpa [none] using same.symm
    | opened missing present =>
      rw [absent missing]
      refine ⟨fun none => rfl,fun channel found => ?_⟩
      cases present.symm.trans found
      exact start
    | stepped found taken present =>
      refine ⟨fun none => ?_,fun channel now => ?_⟩
      · rw [none] at present
        contradiction
      · cases present.symm.trans now
        exact preserved _ _ _ _ _ (holds _ (by rw [found]; rfl)) taken
  · intro client
    exact ⟨fun _ => rfl,fun channel present => by simp at present⟩

/-- The sample is addressed to this call: to its client, its service and its number. -/
def Domain.Answers (domain : Domain) (client number : Nat) (wire : RpcResponse) : Prop :=
  ∃ owner engine, domain.clients[client]? = some owner ∧ domain.engines[owner.engine]? = some engine ∧
    wire.clientGuid = engine.guid ∧ readBoundedString wire.serviceName = some owner.serviceName ∧
    owner.channel.numbers[number]? = some wire.requestId

/-- Where the participants can be told apart, so can the calls. -/
theorem address_unique {client other number place : Nat} (wired : Wired domain) (numbered : Numbered domain)
    (distinct : (domain.engines.map Engine.guid).Nodup) {first second : Client} {left right : Engine}
    (one : domain.clients[client]? = some first) (home : domain.engines[first.engine]? = some left)
    (carries : first.channel.numbers[number]? = some requestId) (two : domain.clients[other]? = some second)
    (host : domain.engines[second.engine]? = some right) (too : second.channel.numbers[place]? = some requestId)
    (same : left.guid = right.guid) : client = other ∧ number = place := by
  have inside := inside home
  have equal : first.engine = second.engine :=
    (getElem?_inj (by simpa using inside) distinct).mp (by simp [home,host,same])
  exact numbered.unique wired ⟨first,one,rfl,rfl⟩ ⟨first,one,carries⟩ ⟨second,two,equal.symm,rfl⟩
    ⟨second,two,too⟩

/-- The events that complete one call. -/
def DomainEvent.completesCall (client number : Nat) (event : DomainEvent) : Bool :=
  match event with
  | .client owner happened => owner == client && happened.completes number
  | _ => false

theorem countP_clientHistory {history : List DomainEvent} :
    history.countP (·.completesCall client number) = (clientHistory client history).countP (·.completes number) := by
  induction history with
  | nil => rfl
  | cons event history ih =>
    have split := clientHistory_append client [event] history
    rw [singleton_append] at split
    rw [split,countP_append,countP_cons,ih,Nat.add_comm]
    cases event with
    | client owner happened =>
      have single := clientHistory_moved client owner [happened]
      rw [map_singleton] at single
      rw [single]
      by_cases same : client = owner
      · subst same
        cases completes : happened.completes number <;> simp [DomainEvent.completesCall]
      · simp [DomainEvent.completesCall,same,Ne.symm same]
    | _ => rfl

theorem run_channel_accounted (ran : ddsDomain.run {} actions = some (domain,history)) (client : Nat) :
    (domain.clients[client]? = none → clientHistory client history = []) ∧
      ∀ owner, domain.clients[client]? = some owner → Accounted owner.channel (clientHistory client history) := by
  have held := run_channels (motive := fun channel history => Sound channel history ∧ Accounted channel history)
    ⟨sound_start,accounted_start⟩ (fun _ _ _ _ _ held stepped =>
      ⟨moved_sound held.1 (step_moved stepped),moved_accounted held.1 held.2 (step_moved stepped)⟩) ran client
  exact ⟨held.1,fun owner found => (held.2 owner found).2⟩

theorem completed_answers (ran : ddsDomain.run {} actions = some (domain,history))
    (completed : .client client (.completed number wire completion) ∈ history) :
    domain.Answers client number wire := by
  obtain ⟨-,owner,engine,present,home,read⟩ := (run_traced ran).completed client number wire completion completed
  obtain ⟨named,addressed⟩ := readCompletion_addressed read
  obtain ⟨call,active,same⟩ := ((run_channel_accounted ran client).2 owner present).numbered number wire completion
    (mem_clientHistory.mpr completed)
  exact ⟨owner,engine,present,home,addressed,named,by simp [Channel.numbers,active,same]⟩

/-- What an endpoint of this name made of the request that the call sent, as it reaches the call. -/
def Domain.Responds (domain : Domain) (history : List DomainEvent) (client number : Nat) (guid : Guid)
    (serviceName : Bytes) (requestId : UInt64) (outcome : Outcome Message) : Prop :=
  ∃ service endpoint responder sample response,
    domain.endpoints[service]? = some endpoint ∧ domain.engines[endpoint.engine]? = some responder ∧
    .sent client number sample ∈ history ∧ .produced service sample response ∈ history ∧
    endpoint.serviceName = serviceName ∧ sample.clientGuid = guid ∧
    readBoundedString sample.serviceName = some serviceName ∧ sample.requestId = requestId ∧
    outcome = conveyed responder.config response

theorem completed_responds (ran : ddsDomain.run {} actions = some (domain,history))
    (distinct : (domain.engines.map Engine.guid).Nodup) (few : domain.callers.length < 2^64)
    (present : domain.clients[client]? = some owner) (home : domain.engines[owner.engine]? = some engine)
    (carries : owner.channel.numbers[number]? = some requestId)
    (completed : .client client (.completed number wire completion) ∈ history) :
    domain.Responds history client number engine.guid owner.serviceName requestId completion := by
  have traced := run_traced ran
  have wired := run_wired ran
  obtain ⟨_,_,again,there,addressed,-,carried⟩ := completed_answers ran completed
  cases present.symm.trans again
  cases home.symm.trans there
  cases carries.symm.trans carried
  obtain ⟨⟨service,endpoint,responder,sample,response,found,host,produced,rfl⟩,_,_,_,_,read⟩ :=
    traced.completed client number wire completion completed
  rw [buildResponse_clientGuid] at addressed
  rw [buildResponse_requestId] at carries ⊢
  -- the request behind the response was sent by the call that carries its number
  obtain ⟨target,aimed,named,sender,place,sent⟩ := traced.produced service sample response produced
  cases found.symm.trans aimed
  obtain ⟨asker,origin,known,based,guid,name,asked⟩ := traced.sent sender place sample sent
  obtain ⟨rfl,rfl⟩ := address_unique wired (run_numbered ran few) distinct present home carries known based asked
    (addressed.symm.trans guid)
  cases present.symm.trans known
  have whole : readBoundedString sample.serviceName = some owner.serviceName := by
    rw [name,readBoundedString_name (wired.valid owner (mem_of_getElem? present))]
  exact ⟨service,endpoint,responder,sample,response,found,host,sent,produced,
    Option.some.inj (named.symm.trans whole),addressed,whole,rfl,readCompletion_build read⟩

theorem answered_responds (ran : ddsDomain.run {} actions = some (domain,history))
    (distinct : (domain.engines.map Engine.guid).Nodup) (few : domain.callers.length < 2^64)
    (member : caller ∈ domain.callers) (entered : caller.stage = .entered client number requestId)
    (answered : .client client (.answered number outcome) ∈ history) :
    (outcome = .error clientChannelClosed ∧ .client client (.aborted number) ∈ history) ∨
      ∃ engine, domain.engines[caller.engine]? = some engine ∧
        domain.Responds history client number engine.guid caller.serviceName requestId outcome := by
  have wired := run_wired ran
  have staged := wired.staged caller member
  simp only [Domain.Staged,entered] at staged
  obtain ⟨⟨owner,present,here,name⟩,_,again,carries⟩ := staged
  cases present.symm.trans again
  have accounted := (run_channel_accounted ran client).2 owner present
  rcases accounted.answered number outcome (mem_clientHistory.mpr answered) with ⟨closed,aborted⟩ | ⟨wire,completed⟩
  · exact .inl ⟨closed,mem_clientHistory.mp aborted⟩
  · obtain ⟨engine,home⟩ : ∃ engine, domain.engines[caller.engine]? = some engine :=
      ⟨_,getElem?_eq_getElem (wired.homes caller member)⟩
    refine .inr ⟨engine,home,?_⟩
    rw [← here] at home
    rw [← name]
    exact completed_responds ran distinct few present home carries (mem_clientHistory.mp completed)

end

/-- In any run of any number of engines, a call is answered by what an endpoint of the service made
of its own request, or by the closing of its channel; it is completed once at most, and never after
it has returned; and a response completes the call it is addressed to or none. -/
theorem responses_correlated (ran : ddsDomain.run {} actions = some (domain,history))
    (distinct : (domain.engines.map Engine.guid).Nodup) (few : domain.callers.length < 2^64) :
    (∀ caller ∈ domain.callers, ∀ client number requestId, caller.stage = .entered client number requestId →
      ∀ outcome, .client client (.answered number outcome) ∈ history →
        (outcome = .error clientChannelClosed ∧ .client client (.aborted number) ∈ history) ∨
        ∃ engine, domain.engines[caller.engine]? = some engine ∧
          domain.Responds history client number engine.guid caller.serviceName requestId outcome) ∧
    (∀ client number, history.countP (·.completesCall client number) ≤ 1) ∧
    (∀ client number wire completion, .client client (.completed number wire completion) ∈ history →
      domain.Answers client number wire ∧
        ∀ other place, domain.Answers other place wire → other = client ∧ place = number) ∧
    (∀ client number before event after, history = before ++ .client client event :: after →
      event.returns number = true → ∀ wire completion, .client client (.completed number wire completion) ∉ after) := by
  have wired := run_wired ran
  refine ⟨?_,?_,?_,?_⟩
  · intro caller member client number requestId entered outcome answered
    exact answered_responds ran distinct few member entered answered
  · intro client number
    rw [countP_clientHistory]
    obtain ⟨absent,accounted⟩ := run_channel_accounted ran client
    cases present : domain.clients[client]? with
    | none => simp [absent present]
    | some owner =>
      rw [(accounted owner present).counted]
      exact Bool.toNat_le _
  · intro client number wire completion completed
    have answers := completed_answers ran completed
    refine ⟨answers,fun other place alike => ?_⟩
    obtain ⟨owner,engine,present,home,guid,-,carries⟩ := answers
    obtain ⟨rival,host,known,based,same,-,carried⟩ := alike
    exact address_unique wired (run_numbered ran few) distinct known based carried present home carries
      (same.symm.trans guid)
  · intro client number before event after split returns wire completion completed
    obtain ⟨absent,accounted⟩ := run_channel_accounted ran client
    have parts : clientHistory client history = clientHistory client before ++ event :: clientHistory client after := by
      have single := clientHistory_moved client client [event]
      rw [map_singleton,if_pos rfl] at single
      rw [split,clientHistory_append,← singleton_append,clientHistory_append,single,singleton_append]
    cases present : domain.clients[client]? with
    | none =>
      rw [absent present] at parts
      simp at parts
    | some owner =>
      have late := (accounted owner present).late number _ event _ parts returns _ (mem_clientHistory.mpr completed)
      simp [ChannelEvent.completes] at late

def sampleConfig : Config := ⟨idlMaximumPayload,idlMaximumPayload_pos,Nat.le_refl idlMaximumPayload⟩

/-- Two engines; one of them advertises a service and the other one calls it. -/
def callSchedule : List DomainAction :=
  [.create ⟨0,1⟩ sampleConfig,.create ⟨0,2⟩ sampleConfig,.advertise 1 [97] none,
    .request 0 [97] ⟨{},[1]⟩ .infinite 0,.connect 0 none,.number 0,.client 0 (.insert 0),.client 0 (.budget 0 0),
    .client 0 (.check 0),.write 0 0 none true,.takeRequest 0 0,.dispatch 0 0 0 (.returned (.ok ⟨{},[2]⟩)),
    .respond 0 true,.takeResponse 0 0,.client 0 .complete,.client 0 (.wake 0)]

theorem responses_correlated_sample : ∃ domain history,
    ddsDomain.run {} callSchedule = some (domain,history) ∧
      .client 0 (.answered 0 (.ok ⟨{},[2]⟩)) ∈ history ∧
      domain.Responds history 0 0 ⟨0,1⟩ [97] 1 (.ok ⟨{},[2]⟩) := by
  have ran : ddsDomain.run {} callSchedule = some _ := rfl
  rcases (responses_correlated ran (by decide) (by decide)).1 _ (.head _) 0 0 1 rfl _ (mem_of_getLast? rfl) with
    ⟨closed,-⟩ | ⟨engine,found,responds⟩
  · contradiction
  · cases found
    exact ⟨_,_,ran,mem_of_getLast? rfl,responds⟩

end AutoRuntime.DdsRpc
