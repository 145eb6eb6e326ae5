import AutoRuntime.DdsRpcCompletion
import AutoRuntime.DdsRpcDomain

/-! Who is who in a domain: which call of a channel is which call of `Request`, and which numbers
the calls of an engine carry. -/
namespace AutoRuntime.DdsRpc

open List Pool

def Channel.numbers (channel : Channel) : List UInt64 := channel.calls.map (·.requestId)

theorem moved_numbers {channel next : Channel} (moved : Moved channel action next emitted)
    (settled : ∀ requestId request deadline, action ≠ .enter requestId request deadline) :
    next.numbers = channel.numbers := by
  cases moved with
  | entered => exact absurd rfl (settled _ _ _)
  | refused active | inserted active | advanced active | wrote active | answered active
  | completed before known active => exact map_set_same _ _ active rfl
  | gaveUp active =>
    simp only [removePending_calls]
    exact map_set_same _ _ active rfl
  | cleared =>
    refine ext_getElem? fun index => ?_
    simp only [Channel.numbers,getElem?_map,clear_calls,Option.map_map]
    congr 1
    funext call
    simp only [Function.comp,Channel.afterClear]
    split <;> rfl
  | _ => rfl

def Engine.Continues (engine later : Engine) : Prop :=
  later.guid = engine.guid ∧ later.config = engine.config

def Client.Continues (client later : Client) : Prop :=
  later.engine = client.engine ∧ later.serviceName = client.serviceName ∧
    client.channel.numbers <+: later.channel.numbers

def Endpoint.Continues (endpoint later : Endpoint) : Prop :=
  later.engine = endpoint.engine ∧ later.serviceName = endpoint.serviceName

/-- Whoever is in the domain stays, under the same name. -/
structure Extends (domain next : Domain) : Prop where
  engines : Pool.Grows Engine.Continues domain.engines next.engines
  clients : Pool.Grows Client.Continues domain.clients next.clients
  endpoints : Pool.Grows Endpoint.Continues domain.endpoints next.endpoints

variable {domain next : Domain}

theorem took_extends (took : Took domain next emitted) : Extends domain next := by
  have engines (engine : Engine) : engine.Continues engine := ⟨rfl,rfl⟩
  have clients (client : Client) : client.Continues client := ⟨rfl,rfl,prefix_rfl⟩
  have endpoints (endpoint : Endpoint) : endpoint.Continues endpoint := ⟨rfl,rfl⟩
  -- the channel of one client takes a step that brings no call
  have moves (index : Nat) (client : Client) (action : ChannelAction) (channel : Channel)
      (events : List ChannelEvent) (active : domain.clients[index]? = some client)
      (stepped : client.channel.step action = some (channel,events))
      (settled : ∀ requestId request deadline, action ≠ .enter requestId request deadline) :
      Pool.Grows Client.Continues domain.clients (domain.clients.set index { client with channel := channel }) := by
    refine .set clients active ⟨rfl,rfl,[],?_⟩
    rw [append_nil,moved_numbers (step_moved stepped) settled]
  cases took with
  | aside | requested | refused | connected => exact ⟨.refl engines _,.refl clients _,.refl endpoints _⟩
  | created => exact ⟨.concat engines _ _,.refl clients _,.refl endpoints _⟩
  | managed active guid config => exact ⟨.set engines active ⟨guid,config⟩,.refl clients _,.refl endpoints _⟩
  | advertised active guid config => exact ⟨.set engines active ⟨guid,config⟩,.refl clients _,.concat endpoints _ _⟩
  | opened active before home => exact ⟨.set engines home ⟨rfl,rfl⟩,.concat clients _ _,.refl endpoints _⟩
  | redrawn active before home => exact ⟨.set engines home ⟨rfl,rfl⟩,.refl clients _,.refl endpoints _⟩
  | numbered active before home found stepped =>
    refine ⟨.set engines home ⟨rfl,rfl⟩,.set clients found ⟨rfl,rfl,?_⟩,.refl endpoints _⟩
    cases stepped
    simp [Channel.numbers]
  | moved active stepped settled => exact ⟨.refl engines _,moves _ _ _ _ _ active stepped settled,.refl endpoints _⟩
  | sent active home found stepped | received active home listed read stepped =>
    exact ⟨.refl engines _,moves _ _ _ _ _ active stepped (by simp),.refl endpoints _⟩
  | taken active | produced active | responded active =>
    exact ⟨.refl engines _,.refl clients _,.set endpoints active ⟨rfl,rfl⟩⟩
  | settled active engine name => exact ⟨.refl engines _,.refl clients _,.set endpoints active ⟨engine,name⟩⟩

/-- The client belongs to this engine and this service. -/
def Domain.Serves (domain : Domain) (index home : Nat) (serviceName : Bytes) : Prop :=
  ∃ client : Client, domain.clients[index]? = some client ∧ client.engine = home ∧ client.serviceName = serviceName

/-- The call at this place of this client carries this number. -/
def Domain.Carries (domain : Domain) (index number : Nat) (requestId : UInt64) : Prop :=
  ∃ client : Client, domain.clients[index]? = some client ∧ client.channel.numbers[number]? = some requestId

theorem Extends.serves (grown : Extends domain next) (serves : domain.Serves index home serviceName) :
    next.Serves index home serviceName := by
  obtain ⟨client,found,rfl,rfl⟩ := serves
  obtain ⟨later,present,engine,name,-⟩ := grown.clients index client found
  exact ⟨later,present,engine,name⟩

theorem Extends.carries (grown : Extends domain next) (carries : domain.Carries index number requestId) :
    next.Carries index number requestId := by
  obtain ⟨client,found,numbered⟩ := carries
  obtain ⟨later,present,-,-,longer⟩ := grown.clients index client found
  obtain ⟨rest,whole⟩ := longer
  refine ⟨later,present,?_⟩
  rw [← whole,getElem?_append_left (inside numbered),numbered]

def Domain.Staged (domain : Domain) (caller : Caller) : Prop :=
  match caller.stage with
  | .connecting => ValidServiceName caller.serviceName
  | .numbering client _ => domain.Serves client caller.engine caller.serviceName
  | .entered client number requestId =>
    domain.Serves client caller.engine caller.serviceName ∧ domain.Carries client number requestId
  | .returned _ => True

theorem Extends.staged (grown : Extends domain next) (staged : domain.Staged caller) : next.Staged caller := by
  revert staged
  simp only [Domain.Staged]
  cases caller.stage with
  | connecting => exact fun valid => valid
  | numbering => exact grown.serves
  | entered => exact And.imp grown.serves grown.carries
  | returned => exact fun _ => trivial

structure Wired (domain : Domain) : Prop where
  homes : ∀ caller ∈ domain.callers, caller.engine < domain.engines.length
  tables : ∀ (home : Nat) (engine : Engine), domain.engines[home]? = some engine →
    ∀ name index, engine.clients.lookup name = some index → domain.Serves index home name
  valid : ∀ client ∈ domain.clients, ValidServiceName client.serviceName
  staged : ∀ caller ∈ domain.callers, domain.Staged caller
  owned : ∀ index number requestId, domain.Carries index number requestId →
    ∃ caller ∈ domain.callers, caller.stage = .entered index number requestId

/-- A step leaves the domain wired if it wires what it adds. -/
theorem Wired.extend (wired : Wired domain) (grown : Extends domain next)
    (homes : ∀ caller ∈ next.callers, caller ∈ domain.callers ∨ caller.engine < domain.engines.length)
    (tables : ∀ (home : Nat) (engine : Engine), next.engines[home]? = some engine →
      ∀ name index, engine.clients.lookup name = some index →
        (∃ old, domain.engines[home]? = some old ∧ old.clients.lookup name = some index) ∨
          next.Serves index home name) (valid : ∀ client ∈ next.clients,
      (∃ old ∈ domain.clients, old.serviceName = client.serviceName) ∨ ValidServiceName client.serviceName)
    (staged : ∀ caller ∈ next.callers, caller ∈ domain.callers ∨ next.Staged caller)
    (owned : ∀ index number requestId, next.Carries index number requestId →
      domain.Carries index number requestId ∨
        ∃ caller ∈ next.callers, caller.stage = .entered index number requestId)
    (kept : ∀ caller ∈ domain.callers, ∀ index number requestId,
      caller.stage = .entered index number requestId → caller ∈ next.callers) : Wired next := by
  have more : domain.engines.length ≤ next.engines.length := by
    by_contra fewer
    have found := getElem?_eq_getElem (Nat.not_le.mp fewer)
    obtain ⟨later,present,-⟩ := grown.engines _ _ found
    rw [getElem?_eq_none (Nat.le_refl _)] at present
    contradiction
  refine ⟨?_,?_,?_,?_,?_⟩
  · intro caller member
    have inside := (homes caller member).elim (wired.homes caller) fun inside => inside
    omega
  · intro home engine found name index listed
    rcases tables home engine found name index listed with ⟨old,before,known⟩ | serves
    · exact grown.serves (wired.tables home old before name index known)
    · exact serves
  · intro client member
    rcases valid client member with ⟨old,before,same⟩ | new
    · exact same ▸ wired.valid old before
    · exact new
  · intro caller member
    rcases staged caller member with old | new
    · exact grown.staged (wired.staged caller old)
    · exact new
  · intro index number requestId carries
    rcases owned index number requestId carries with old | new
    · obtain ⟨caller,member,entered⟩ := wired.owned index number requestId old
      exact ⟨caller,kept caller member index number requestId entered,entered⟩
    · exact new

theorem Wired.move (wired : Wired domain) {client : Client} (active : domain.clients[index]? = some client)
    (numbers : channel.numbers = client.channel.numbers)
    (grown : Extends domain (domain.setClient index { client with channel := channel })) :
    Wired (domain.setClient index { client with channel := channel }) := by
  refine wired.extend grown (fun _ member => .inl member) ?_ ?_ (fun _ member => .inl member) ?_
    (fun _ member _ _ _ _ => member)
  · intro home engine found name place listed
    exact .inl ⟨engine,found,listed⟩
  · intro other member
    rcases mem_or_eq_of_mem_set member with old | rfl
    · exact .inl ⟨other,old,rfl⟩
    · exact .inl ⟨client,mem_of_getElem? active,rfl⟩
  · rintro place number requestId ⟨other,found,numbered⟩
    rcases set_cases found with ⟨rfl,rfl⟩ | ⟨-,old⟩
    · exact .inl ⟨client,active,numbers ▸ numbered⟩
    · exact .inl ⟨other,old,numbered⟩

variable {caller : Caller}

theorem Wired.stage (wired : Wired domain) (grown : Extends domain next) {stage : CallerStage}
    (active : domain.callers[index]? = some caller)
    (before : ∀ client number requestId, caller.stage ≠ .entered client number requestId)
    (callers : next.callers = domain.callers.set index { caller with stage := stage })
    (staged : next.Staged { caller with stage := stage })
    (tables : ∀ (home : Nat) (engine : Engine), next.engines[home]? = some engine →
      ∀ name index, engine.clients.lookup name = some index →
        (∃ old, domain.engines[home]? = some old ∧ old.clients.lookup name = some index) ∨
          next.Serves index home name) (valid : ∀ client ∈ next.clients,
      (∃ old ∈ domain.clients, old.serviceName = client.serviceName) ∨ ValidServiceName client.serviceName)
    (owned : ∀ index number requestId, next.Carries index number requestId →
      domain.Carries index number requestId ∨
        ∃ caller ∈ next.callers, caller.stage = .entered index number requestId) : Wired next := by
  refine wired.extend grown ?_ tables valid ?_ owned ?_
  · intro other member
    rw [callers] at member
    rcases mem_or_eq_of_mem_set member with old | rfl
    · exact .inl old
    · exact .inr (wired.homes caller (mem_of_getElem? active))
  · intro other member
    rw [callers] at member
    rcases mem_or_eq_of_mem_set member with old | rfl
    · exact .inl old
    · exact .inr staged
  · intro other member client number requestId entered
    rw [callers]
    refine mem_set_of_ne active member ?_
    rintro rfl
    exact before client number requestId entered

theorem managed_tables {engine changed other : Engine} {home : Nat}
    (found : (domain.engines.set index changed)[home]? = some other)
    (listed : other.clients.lookup name = some place) (active : domain.engines[index]? = some engine)
    (clients : changed.clients = engine.clients ∨ changed.clients = ∅) :
    ∃ old, domain.engines[home]? = some old ∧ old.clients.lookup name = some place := by
  rcases set_cases found with ⟨rfl,rfl⟩ | ⟨-,old⟩
  · rcases clients with same | empty
    · exact ⟨engine,active,same ▸ listed⟩
    · simp [empty] at listed
  · exact ⟨other,old,listed⟩

theorem Wired.opened (wired : Wired domain) (grown : Extends domain next) {engine : Engine}
    (active : domain.callers[index]? = some caller) (before : caller.stage = .connecting)
    (home : domain.engines[caller.engine]? = some engine) (engines : next.engines = domain.engines.set caller.engine
      { engine with clients := engine.clients.insert caller.serviceName domain.clients.length })
    (clients : next.clients = domain.clients ++ [{ engine := caller.engine, serviceName := caller.serviceName }])
    (callers : next.callers = domain.callers.set index
      { caller with stage := .numbering domain.clients.length false }) : Wired next := by
  have valid : ValidServiceName caller.serviceName := by
    simpa [Domain.Staged,before] using wired.staged caller (mem_of_getElem? active)
  have serves : next.Serves domain.clients.length caller.engine caller.serviceName :=
    ⟨_,clients ▸ getElem?_concat_length,rfl,rfl⟩
  refine wired.stage grown active (by simp [before]) callers serves ?_ ?_ ?_
  · intro place other found name client listed
    rw [engines] at found
    rcases set_cases found with ⟨rfl,rfl⟩ | ⟨-,old⟩
    · by_cases same : name = caller.serviceName
      · subst same
        cases (AList.lookup_insert _).symm.trans listed
        exact .inr serves
      · exact .inl ⟨engine,home,(AList.lookup_insert_ne same).symm.trans listed⟩
    · exact .inl ⟨other,old,listed⟩
  · intro client member
    rw [clients] at member
    rcases mem_concat member with old | rfl
    · exact .inl ⟨client,old,rfl⟩
    · exact .inr valid
  · rintro place number requestId ⟨client,found,numbered⟩
    rw [clients] at found
    rcases concat_cases found with old | ⟨-,rfl⟩
    · exact .inl ⟨client,old,numbered⟩
    · simp [Channel.numbers] at numbered

theorem Wired.numbered (wired : Wired domain) (grown : Extends domain next) {engine : Engine} {owner : Client}
    {client : Nat} (active : domain.callers[index]? = some caller) (before : caller.stage = .numbering client again)
    (home : domain.engines[caller.engine]? = some engine) (found : domain.clients[client]? = some owner)
    (numbers : channel.numbers = owner.channel.numbers ++ [engine.nextRequestId])
    (engines : next.engines = domain.engines.set caller.engine
      { engine with nextRequestId := engine.nextRequestId + 1 })
    (clients : next.clients = domain.clients.set client { owner with channel := channel })
    (callers : next.callers = domain.callers.set index
      { caller with stage := .entered client owner.channel.numbers.length engine.nextRequestId }) : Wired next := by
  have staged := wired.staged caller (mem_of_getElem? active)
  simp only [Domain.Staged,before] at staged
  refine wired.stage grown active (by simp [before]) callers ⟨grown.serves staged,?_⟩ ?_ ?_ ?_
  · refine ⟨_,clients ▸ getElem?_set_self (inside found),?_⟩
    rw [numbers]
    exact getElem?_concat_length
  · intro place other present name index listed
    rw [engines] at present
    exact .inl (managed_tables present listed home (.inl rfl))
  · intro other member
    rw [clients] at member
    rcases mem_or_eq_of_mem_set member with old | rfl
    · exact .inl ⟨other,old,rfl⟩
    · exact .inl ⟨owner,mem_of_getElem? found,rfl⟩
  · rintro place number requestId ⟨other,present,numbered⟩
    rw [clients] at present
    rcases set_cases present with ⟨rfl,rfl⟩ | ⟨-,old⟩
    · simp only [numbers] at numbered
      rcases concat_cases numbered with old | ⟨rfl,rfl⟩
      · exact .inl ⟨owner,found,old⟩
      · exact .inr ⟨_,callers ▸ mem_set (inside active) _,rfl⟩
    · exact .inl ⟨other,old,numbered⟩

theorem took_wired (wired : Wired domain) (took : Took domain next emitted) : Wired next := by
  have grown := took_extends took
  cases took with
  | aside => exact wired
  | created =>
    refine wired.extend grown (fun _ member => .inl member) ?_ (fun client member => .inl ⟨client,member,rfl⟩)
      (fun _ member => .inl member) (fun _ _ _ carries => .inl carries) (fun _ member _ _ _ _ => member)
    intro home engine found name place listed
    rcases concat_cases found with old | ⟨-,rfl⟩
    · exact .inl ⟨engine,old,listed⟩
    · simp at listed
  | managed active guid config number clients =>
    exact wired.extend grown (fun _ member => .inl member)
      (fun _ _ found _ _ listed => .inl (managed_tables found listed active clients))
      (fun client member => .inl ⟨client,member,rfl⟩) (fun _ member => .inl member)
      (fun _ _ _ carries => .inl carries) (fun _ member _ _ _ _ => member)
  | advertised active guid config number clients =>
    exact wired.extend grown (fun _ member => .inl member)
      (fun _ _ found _ _ listed => .inl (managed_tables found listed active (.inl clients)))
      (fun client member => .inl ⟨client,member,rfl⟩) (fun _ member => .inl member)
      (fun _ _ _ carries => .inl carries) (fun _ member _ _ _ _ => member)
  | requested home stage =>
    refine wired.extend grown ?_ (fun _ engine found _ _ listed => .inl ⟨engine,found,listed⟩)
      (fun client member => .inl ⟨client,member,rfl⟩) ?_ (fun _ _ _ carries => .inl carries)
      (fun _ member _ _ _ _ => mem_append_left _ member)
    · intro caller member
      rcases mem_concat member with old | rfl
      · exact .inl old
      · exact .inr home
    · intro caller member
      rcases mem_concat member with old | rfl
      · exact .inl old
      · rcases stage with ⟨connecting,valid⟩ | ⟨failure,returned⟩
        · exact .inr (by simpa [Domain.Staged,connecting] using valid)
        · exact .inr (by simp [Domain.Staged,returned])
  | refused active before =>
    exact wired.stage grown active (by simp [before]) rfl trivial
      (fun _ engine found _ _ listed => .inl ⟨engine,found,listed⟩) (fun client member => .inl ⟨client,member,rfl⟩)
      (fun _ _ _ carries => .inl carries)
  | connected active before home known =>
    exact wired.stage grown active (by simp [before]) rfl (wired.tables _ _ home _ _ known)
      (fun _ engine found _ _ listed => .inl ⟨engine,found,listed⟩) (fun client member => .inl ⟨client,member,rfl⟩)
      (fun _ _ _ carries => .inl carries)
  | opened active before home => exact wired.opened grown active before home rfl rfl rfl
  | @redrawn index caller engine client active before home zero =>
    have staged := wired.staged caller (mem_of_getElem? active)
    simp only [Domain.Staged,before] at staged
    exact wired.stage grown active (by simp [before]) rfl staged
      (fun _ _ found _ _ listed => .inl (managed_tables found listed home (.inl rfl)))
      (fun client member => .inl ⟨client,member,rfl⟩) (fun _ _ _ carries => .inl carries)
  | numbered active before home found stepped =>
    cases stepped
    refine wired.numbered grown active before home found ?_ rfl rfl ?_
    · simp [Channel.numbers]
    · simp [Channel.numbers]
  | moved active stepped settled => exact wired.move active (moved_numbers (step_moved stepped) settled) grown
  | sent active home found stepped =>
    have moved := wired.move active (moved_numbers (step_moved stepped) (by simp))
      ⟨grown.engines,grown.clients,grown.endpoints⟩
    exact ⟨moved.homes,moved.tables,moved.valid,moved.staged,moved.owned⟩
  | received active home listed read stepped =>
    exact wired.move active (moved_numbers (step_moved stepped) (by simp)) grown
  | taken | produced | responded | settled => exact ⟨wired.homes,wired.tables,wired.valid,wired.staged,wired.owned⟩

def CallerStage.isEntered : CallerStage → Bool
  | .entered _ _ _ => true
  | _ => false

/-- The call has a number of this engine. -/
def Caller.drew (home : Nat) (caller : Caller) : Bool := caller.engine == home && caller.stage.isEntered

/-- The numbers of an engine are the first ones, each drawn once. -/
structure Numbered (domain : Domain) : Prop where
  once : ∀ caller ∈ domain.callers, ∀ client, caller.stage ≠ .numbering client true
  following : ∀ (home : Nat) (engine : Engine), domain.engines[home]? = some engine →
    engine.nextRequestId = UInt64.ofNat (1 + domain.callers.countP (Caller.drew home))
  drawn : ∀ caller ∈ domain.callers, ∀ client number requestId,
    caller.stage = .entered client number requestId → requestId ≠ 0 ∧
      requestId.toNat ≤ domain.callers.countP (Caller.drew caller.engine)
  distinct : ∀ (first second : Nat) (left right : Caller) (client number other place : Nat) (requestId : UInt64),
    domain.callers[first]? = some left → domain.callers[second]? = some right → left.engine = right.engine →
    left.stage = .entered client number requestId → right.stage = .entered other place requestId → first = second

theorem Numbered.extend (numbered : Numbered domain)
    (once : ∀ caller ∈ next.callers, caller ∈ domain.callers ∨ ∀ client, caller.stage ≠ .numbering client true)
    (engines : ∀ (home : Nat) (engine : Engine), next.engines[home]? = some engine →
      (∃ old : Engine, domain.engines[home]? = some old ∧ engine.nextRequestId = old.nextRequestId) ∨
        engine.nextRequestId = 1 ∧ next.callers.countP (Caller.drew home) = 0)
    (counts : ∀ home, next.callers.countP (Caller.drew home) = domain.callers.countP (Caller.drew home))
    (callers : ∀ (index : Nat) (caller : Caller), next.callers[index]? = some caller →
      caller.stage.isEntered = true → domain.callers[index]? = some caller) : Numbered next := by
  refine ⟨?_,?_,?_,?_⟩
  · intro caller member
    exact (once caller member).elim (numbered.once caller) fun fresh => fresh
  · intro home engine found
    rcases engines home engine found with ⟨old,before,same⟩ | ⟨first,nobody⟩
    · rw [same,counts,numbered.following home old before]
    · rw [first,nobody]
      rfl
  · intro caller member client number requestId entered
    obtain ⟨index,found⟩ := mem_iff_getElem?.mp member
    have old := callers index caller found (by simp [entered,CallerStage.isEntered])
    rw [counts]
    exact numbered.drawn caller (mem_of_getElem? old) client number requestId entered
  · intro first second left right client number other place requestId one two same entered again
    exact numbered.distinct first second left right client number other place requestId
      (callers first left one (by simp [entered,CallerStage.isEntered]))
      (callers second right two (by simp [again,CallerStage.isEntered])) same entered again

theorem Numbered.stage (numbered : Numbered domain) {stage : CallerStage}
    (active : domain.callers[index]? = some caller) (before : caller.stage.isEntered = false)
    (callers : next.callers = domain.callers.set index { caller with stage := stage })
    (still : stage.isEntered = false) (first : ∀ client, stage ≠ .numbering client true)
    (engines : ∀ (home : Nat) (engine : Engine), next.engines[home]? = some engine →
      ∃ old : Engine, domain.engines[home]? = some old ∧ engine.nextRequestId = old.nextRequestId) :
    Numbered next := by
  refine numbered.extend ?_ (fun home engine found => .inl (engines home engine found)) ?_ ?_
  · intro other member
    rw [callers] at member
    rcases mem_or_eq_of_mem_set member with old | rfl
    · exact .inl old
    · exact .inr first
  · intro home
    have counted := countP_set (Caller.drew home) domain.callers active { caller with stage := stage }
    rw [callers]
    simpa [Caller.drew,before,still] using counted
  · intro place other found entered
    rw [callers] at found
    rcases set_cases found with ⟨-,rfl⟩ | ⟨-,old⟩
    · simp [still] at entered
    · exact old

theorem drew_lt (member : caller ∈ domain.callers) (before : caller.stage.isEntered = false) (home : Nat) :
    domain.callers.countP (Caller.drew home) < domain.callers.length := by
  refine Nat.lt_of_le_of_ne countP_le_length fun all => ?_
  have drew := countP_eq_length.mp all caller member
  simp [Caller.drew,before] at drew

/-- The next number of an engine as long as somebody is left to draw it. -/
theorem Numbered.fresh (numbered : Numbered domain) (few : domain.callers.length < 2^64)
    (member : caller ∈ domain.callers) (before : caller.stage.isEntered = false)
    (home : domain.engines[caller.engine]? = some engine) :
    engine.nextRequestId.toNat = 1 + domain.callers.countP (Caller.drew caller.engine) := by
  have left := drew_lt member before caller.engine
  rw [numbered.following _ _ home]
  exact Nat.mod_eq_of_lt (by omega)

theorem Numbered.draw (numbered : Numbered domain) (few : domain.callers.length < 2^64) {engine changed : Engine}
    (active : domain.callers[index]? = some caller) (before : caller.stage.isEntered = false)
    (home : domain.engines[caller.engine]? = some engine)
    (advanced : changed.nextRequestId = engine.nextRequestId + 1)
    (engines : next.engines = domain.engines.set caller.engine changed)
    (callers : next.callers = domain.callers.set index
      { caller with stage := .entered client number engine.nextRequestId }) : Numbered next := by
  have fresh := numbered.fresh few (mem_of_getElem? active) before home
  have counted (place : Nat) : next.callers.countP (Caller.drew place) =
      domain.callers.countP (Caller.drew place) + (caller.engine == place).toNat := by
    have counted := countP_set (Caller.drew place) domain.callers active
      { caller with stage := .entered client number engine.nextRequestId }
    have now : (CallerStage.entered client number engine.nextRequestId).isEntered = true := rfl
    rw [callers]
    simpa [Caller.drew,before,now] using counted
  -- whoever has a number in the new state is an old holder or the one that just drew
  have holders (place : Nat) (other : Caller) (found : next.callers[place]? = some other) :
      place = index ∧ other = { caller with stage := .entered client number engine.nextRequestId } ∨
        place ≠ index ∧ domain.callers[place]? = some other := by
    rw [callers] at found
    exact set_cases found
  have older (place : Nat) (other : Caller) (found : domain.callers[place]? = some other) (owner seat : Nat)
      (entered : other.stage = .entered owner seat engine.nextRequestId) : other.engine ≠ caller.engine := by
    intro same
    have bound := (numbered.drawn other (mem_of_getElem? found) _ _ _ entered).2
    rw [same] at bound
    omega
  refine ⟨?_,?_,?_,?_⟩
  · intro other member
    rw [callers] at member
    rcases mem_or_eq_of_mem_set member with old | rfl
    · exact numbered.once other old
    · exact nofun
  · intro place other found
    rw [engines] at found
    rw [counted]
    rcases set_cases found with ⟨rfl,rfl⟩ | ⟨apart,old⟩
    · rw [advanced,numbered.following _ _ home]
      simp [UInt64.add_assoc]
    · rw [numbered.following place other old,beq_eq_false_iff_ne.mpr (Ne.symm apart)]
      rfl
  · intro other member owner seat requestId entered
    obtain ⟨place,found⟩ := mem_iff_getElem?.mp member
    rw [counted]
    rcases holders place other found with ⟨-,rfl⟩ | ⟨-,old⟩
    · cases entered
      constructor
      · intro zero
        rw [zero] at fresh
        simp at fresh
        omega
      · simp [fresh,Nat.add_comm]
    · obtain ⟨nonzero,bound⟩ := numbered.drawn other (mem_of_getElem? old) owner seat requestId entered
      exact ⟨nonzero,by omega⟩
  · intro first second left right owner seat rival chair requestId one two same entered again
    rcases holders first left one with ⟨rfl,rfl⟩ | ⟨-,oldLeft⟩ <;>
      rcases holders second right two with ⟨rfl,rfl⟩ | ⟨-,oldRight⟩
    · rfl
    · cases entered
      exact absurd same.symm (older second right oldRight rival chair again)
    · cases again
      exact absurd same (older first left oldLeft owner seat entered)
    · exact numbered.distinct first second left right owner seat rival chair requestId oldLeft oldRight same entered
        again

theorem took_numbered (wired : Wired domain) (numbered : Numbered domain) (few : domain.callers.length < 2^64)
    (took : Took domain next emitted) : Numbered next := by
  have same (home : Nat) (engine : Engine) (found : domain.engines[home]? = some engine) :
      ∃ old : Engine, domain.engines[home]? = some old ∧ engine.nextRequestId = old.nextRequestId :=
    ⟨engine,found,rfl⟩
  have changed (index : Nat) (engine changed : Engine) (active : domain.engines[index]? = some engine)
      (number : changed.nextRequestId = engine.nextRequestId) (home : Nat) (other : Engine)
      (found : (domain.engines.set index changed)[home]? = some other) :
      ∃ old : Engine, domain.engines[home]? = some old ∧ other.nextRequestId = old.nextRequestId := by
    rcases set_cases found with ⟨rfl,rfl⟩ | ⟨-,old⟩
    · exact ⟨engine,active,number⟩
    · exact ⟨other,old,rfl⟩
  cases took with
  | created =>
    refine numbered.extend (fun _ member => .inl member) ?_ (fun _ => rfl) (fun _ _ found _ => found)
    intro home engine found
    rcases concat_cases found with old | ⟨rfl,rfl⟩
    · exact .inl (same home engine old)
    · refine .inr ⟨rfl,countP_eq_zero.mpr fun caller member => ?_⟩
      have inside := wired.homes caller member
      simp [Caller.drew,Nat.ne_of_lt inside]
  | managed active guid config number | advertised active guid config number =>
    exact numbered.extend (fun _ member => .inl member)
      (fun home engine found => .inl (changed _ _ _ active number home engine found)) (fun _ => rfl)
      (fun _ _ found _ => found)
  | @requested _ new home stage quiet =>
    have fresh : new.stage.isEntered = false := by
      rcases stage with ⟨connecting,-⟩ | ⟨failure,returned⟩
      · rw [connecting]
        rfl
      · rw [returned]
        rfl
    refine numbered.extend ?_ (fun home engine found => .inl (same home engine found)) ?_ ?_
    · intro caller member
      rcases mem_concat member with old | rfl
      · exact .inl old
      · rcases stage with ⟨connecting,-⟩ | ⟨failure,returned⟩
        · exact .inr (by simp [connecting])
        · exact .inr (by simp [returned])
    · intro home
      simp [Caller.drew,fresh]
    · intro index caller found entered
      rcases concat_cases found with old | ⟨-,rfl⟩
      · exact old
      · simp [fresh] at entered
  | refused active before => exact numbered.stage active (by rw [before]; rfl) rfl rfl nofun same
  | connected active before => exact numbered.stage active (by rw [before]; rfl) rfl rfl (by simp) same
  | opened active before home =>
    refine numbered.stage active (by rw [before]; rfl) rfl rfl (by simp) ?_
    exact changed _ _ _ home rfl
  | redrawn active before home zero =>
    have fresh := numbered.fresh few (mem_of_getElem? active) (by rw [before]; rfl) home
    rw [zero] at fresh
    simp at fresh
    omega
  | numbered active before home => exact numbered.draw few active (by rw [before]; rfl) home rfl rfl rfl
  | _ => exact ⟨numbered.once,numbered.following,numbered.drawn,numbered.distinct⟩

theorem took_callers (took : Took domain next emitted) : domain.callers.length ≤ next.callers.length := by
  cases took with
  | requested | opened | redrawn | numbered => simp
  | refused | connected => simp [Domain.setCaller]
  | _ => exact Nat.le_refl _

theorem run_wired (ran : ddsDomain.run {} actions = some (domain,history)) : Wired domain :=
  Machine.run_invariant (motive := fun domain _ => Wired domain)
    (fun _ _ _ _ _ wired stepped => took_wired wired (step_took stepped))
    ⟨by simp,by simp,by simp,by simp,by simp [Domain.Carries]⟩ ran

theorem run_numbered (ran : ddsDomain.run {} actions = some (domain,history))
    (few : domain.callers.length < 2^64) : Numbered domain := by
  have held := Machine.run_invariant
    (motive := fun domain _ => Wired domain ∧ (domain.callers.length < 2^64 → Numbered domain))
    (fun _ _ _ _ _ held stepped =>
      ⟨took_wired held.1 (step_took stepped),fun few =>
        have fewer := Nat.lt_of_le_of_lt (took_callers (step_took stepped)) few
        took_numbered held.1 (held.2 fewer) fewer (step_took stepped)⟩)
    ⟨⟨by simp,by simp,by simp,by simp,by simp [Domain.Carries]⟩,fun _ => ⟨by simp,by simp,by simp,by simp⟩⟩ ran
  exact held.2 few

theorem Numbered.unique (wired : Wired domain) (numbered : Numbered domain) (serves : domain.Serves client home name)
    (carries : domain.Carries client number requestId) (alike : domain.Serves other home title)
    (too : domain.Carries other place requestId) : client = other ∧ number = place := by
  -- the call of `Request` behind a number belongs to the engine of its client
  have behind (index seat : Nat) (name : Bytes) (serves : domain.Serves index home name)
      (carries : domain.Carries index seat requestId) :
      ∃ (place : Nat) (caller : Caller), domain.callers[place]? = some caller ∧
        caller.stage = .entered index seat requestId ∧ caller.engine = home := by
    obtain ⟨caller,member,entered⟩ := wired.owned index seat requestId carries
    obtain ⟨place,found⟩ := mem_iff_getElem?.mp member
    have staged := wired.staged caller member
    simp only [Domain.Staged,entered] at staged
    obtain ⟨⟨owner,present,engine,-⟩,-⟩ := staged
    obtain ⟨same,again,here,-⟩ := serves
    cases present.symm.trans again
    exact ⟨place,caller,found,entered,engine.symm.trans here⟩
  obtain ⟨first,left,one,entered,here⟩ := behind client number name serves carries
  obtain ⟨second,right,two,again,there⟩ := behind other place title alike too
  obtain rfl := numbered.distinct first second left right _ _ _ _ requestId one two (here.trans there.symm) entered
    again
  cases one.symm.trans two
  simpa using entered.symm.trans again

end AutoRuntime.DdsRpc
