import AutoRuntime.InMemoryTransport
import AutoRuntime.Pool

/-! The two tables of the services, and the callbacks that a publish calls. -/
namespace AutoRuntime.InMemory

open List Option Pool

/-- The ids that `AdvertiseService` has handed out. -/
def serviceIds (history : List Event) : List UInt64 := history.filterMap fun
  | .advertised (.ok number) => some number
  | _ => none

/-- A name stands for an id as long as the id stands for a service of that name. -/
def Inverse (names : Table Bytes UInt64) (services : Table UInt64 ServiceEntry) : Prop :=
  ∀ name number, names.lookup name = some number ↔ (services.lookup number).map ServiceEntry.name = some name

section

variable {names : Table Bytes UInt64} {services : Table UInt64 ServiceEntry}

theorem Inverse.insert (inverse : Inverse names services) (unnamed : names.lookup name = none)
    (fresh : services.lookup number = none) (callback : Nat) :
    Inverse (names.insert name number) (services.insert number ⟨number,name,callback⟩) := by
  intro other found
  rcases eq_or_ne other name with rfl | called <;> rcases eq_or_ne found number with rfl | same
  · simp
  · simpa [AList.lookup_insert_ne same,same.symm,unnamed] using inverse other found
  · simpa [AList.lookup_insert_ne called,called.symm,fresh] using inverse other found
  · simpa [AList.lookup_insert_ne called,AList.lookup_insert_ne same] using inverse other found

theorem Inverse.erase (inverse : Inverse names services) (present : services.lookup number = some entry) :
    Inverse (names.erase entry.name) (services.erase number) := by
  have own : names.lookup entry.name = some number := (inverse _ _).mpr (by simp [present])
  intro name found
  rcases eq_or_ne name entry.name with rfl | called <;> rcases eq_or_ne found number with rfl | same
  · simp [AList.lookup_erase]
  · simpa [AList.lookup_erase,AList.lookup_erase_ne same,own,same.symm] using inverse entry.name found
  · simpa [AList.lookup_erase,AList.lookup_erase_ne called,present,called.symm] using inverse name found
  · simpa [AList.lookup_erase_ne called,AList.lookup_erase_ne same] using inverse name found

end

/-- What holds after so many advertisements. The ids are unused before the counter runs through. -/
structure Registered (s : System) (issued : Nat) : Prop where
  next : s.registry.nextServiceId = UInt64.ofNat (issued + 1)
  known : ∀ number entry, s.registry.services.lookup number = some entry → number.toNat ≤ issued
  sound : issued < 2 ^ 64 →
    Inverse s.registry.serviceNames s.registry.services ∧ ∀ call ∈ s.requests, call.phase ≠ .broken

section

variable {s t : System}

theorem advertised_registered (registered : Registered s issued)
    (unnamed : s.registry.serviceNames.lookup name = none) (callback : Nat) :
    Registered { s with registry := { s.registry with
      nextServiceId := s.registry.nextServiceId + 1
      serviceNames := emplace s.registry.serviceNames name s.registry.nextServiceId
      services := emplace s.registry.services s.registry.nextServiceId ⟨s.registry.nextServiceId,name,callback⟩ } }
      (issued + 1) where
  next := by
    rw [registered.next,UInt64.ofNat_add (issued + 1)]
    rfl
  known := by
    intro number entry found
    simp only [emplace] at found
    split at found
    · exact Nat.le_succ_of_le (registered.known number entry found)
    · rcases Table.insert_cases found with ⟨rfl,-⟩ | ⟨-,found⟩
      · rw [registered.next,UInt64.toNat_ofNat']
        exact Nat.mod_le _ _
      · exact Nat.le_succ_of_le (registered.known number entry found)
  sound := by
    intro few
    have fresh : s.registry.services.lookup s.registry.nextServiceId = none := by
      refine eq_none_iff_forall_ne_some.mpr fun entry found => ?_
      have old := registered.known _ _ found
      rw [registered.next,UInt64.toNat_ofNat',Nat.mod_eq_of_lt few] at old
      omega
    obtain ⟨inverse,unbroken⟩ := registered.sound (by omega)
    simp only [emplace,unnamed,fresh]
    exact ⟨inverse.insert unnamed fresh callback,unbroken⟩

theorem request_spec (registry : Registry) (serviceName : Bytes) (deadline : Deadline) (now : Int) :
    (registry.request serviceName deadline now).1 =
      { registry with rpc := (registry.request serviceName deadline now).1.rpc } ∧
    (Inverse registry.serviceNames registry.services →
      (registry.request serviceName deadline now).2 ≠ .broken) := by
  simp only [Registry.request]
  repeat' split
  all_goals try exact ⟨rfl,fun _ => RequestPhase.noConfusion⟩
  next named _ missing =>
    refine ⟨rfl,fun inverse => ?_⟩
    have found := (inverse _ _).mp named
    simp [missing] at found

theorem step_registered (registered : Registered s issued) (stepped : s.step action = some (t,emitted)) :
    Registered t (issued + (serviceIds emitted).length) := by
  obtain ⟨next,known,sound⟩ := registered
  cases action with
  | advertiseService serviceName callback =>
    simp only [System.step,Registry.advertiseService,some.injEq,Prod.mk.injEq] at stepped
    obtain ⟨rfl,rfl⟩ := stepped
    repeat' split
    case isFalse.isFalse.isFalse callback _ _ unnamed =>
      exact advertised_registered ⟨next,known,sound⟩ (by simpa using unnamed) callback
    all_goals exact ⟨next,known,sound⟩
  | removeService serviceId =>
    simp only [System.step,Registry.removeService,some.injEq,Prod.mk.injEq] at stepped
    obtain ⟨rfl,rfl⟩ := stepped
    split
    · exact ⟨next,known,sound⟩
    next entry present =>
      refine ⟨next,fun number kept found => known number kept ?_,fun few => (sound few).imp (·.erase present) id⟩
      rcases eq_or_ne number serviceId with rfl | apart
      · simp [AList.lookup_erase] at found
      · rwa [AList.lookup_erase_ne apart] at found
  | request serviceName request deadline now =>
    simp only [System.step,System.request,some.injEq,Prod.mk.injEq] at stepped
    obtain ⟨rfl,rfl⟩ := stepped
    obtain ⟨same,found⟩ := request_spec s.registry serviceName deadline now
    have silent : serviceIds ((s.registry.request serviceName deadline now).2.events s.requests.length) = [] := by
      cases (s.registry.request serviceName deadline now).2 <;> rfl
    rw [silent,same]
    refine ⟨next,known,fun few => ⟨(sound few).1,fun call member => ?_⟩⟩
    rcases mem_concat member with member | rfl
    · exact (sound few).2 call member
    · exact found (sound few).1
  | answer index ended =>
    simp only [System.step,System.answer,bind_eq_bind,bind_eq_some_iff] at stepped
    obtain ⟨call,active,stepped⟩ := stepped
    split at stepped
    · cases stepped
      have same : (s.registry.answer ended).1 = { s.registry with rpc := (s.registry.answer ended).1.rpc } := by
        simp only [Registry.answer]
        split <;> rfl
      rw [same]
      refine ⟨next,known,fun few => ⟨(sound few).1,fun other member => ?_⟩⟩
      rcases mem_or_eq_of_mem_set member with member | rfl
      · exact (sound few).2 other member
      · exact RequestPhase.noConfusion
    · contradiction
  | close =>
    simp only [System.step,Registry.close,some.injEq,Prod.mk.injEq] at stepped
    obtain ⟨rfl,rfl⟩ := stepped
    split
    · exact ⟨next,known,sound⟩
    · exact ⟨next,by simp,fun few => ⟨by simp [Inverse],(sound few).2⟩⟩
  | invoke | account =>
    simp only [System.step,System.invoke,System.account,bind_eq_bind,bind_eq_some_iff] at stepped
    obtain ⟨call,-,stepped⟩ := stepped
    split at stepped
    · cases stepped
      exact ⟨next,known,sound⟩
    · contradiction
  | _ =>
    simp only [System.step,System.publish,Registry.subscribe,Registry.unsubscribe,Registry.publish,
      some.injEq,Prod.mk.injEq] at stepped
    obtain ⟨rfl,rfl⟩ := stepped
    repeat' split
    all_goals exact ⟨next,known,sound⟩

/-- Before the ids run out the two tables are inverse, so that no two services share a name, and no request finds a
name without its service. -/
theorem services_consistent (ran : inMemoryTransport.run {} actions = some (s,history))
    (few : (serviceIds history).length < 2 ^ 64) :
    Inverse s.registry.serviceNames s.registry.services ∧ ∀ call ∈ s.requests, call.phase ≠ .broken := by
  have registered : Registered s (serviceIds history).length := by
    refine inMemoryTransport.run_invariant (motive := fun s history => Registered s (serviceIds history).length)
      ?_ ⟨rfl,by simp,fun _ => ⟨by simp [Inverse],by simp⟩⟩ ran
    intro u earlier action v emitted registered stepped
    rw [serviceIds,filterMap_append,length_append]
    exact step_registered registered stepped
  exact registered.sound few

def readvertise : List Action := [.advertiseService [1] (some 7),.removeService 1,.advertiseService [1] (some 8)]

theorem services_consistent_readvertise : ∃ s history, inMemoryTransport.run {} readvertise = some (s,history) ∧
    s.registry.serviceNames.lookup [1] = some 2 ∧ Inverse s.registry.serviceNames s.registry.services := by
  have ran : inMemoryTransport.run {} readvertise = some _ := rfl
  exact ⟨_,_,ran,rfl,(services_consistent ran (by decide)).1⟩

/-- The calls of callbacks, each with its publish. -/
def invocations (history : List Event) : List (Nat × Nat) := history.filterMap fun
  | .invoked call callback => some (call,callback)
  | _ => none

theorem invocations_append (first second : List Event) :
    invocations (first ++ second) = invocations first ++ invocations second :=
  filterMap_append

/-- The callbacks subscribed to exactly this topic. -/
def Registry.subscribed (registry : Registry) (topic : Bytes) : List Nat :=
  (registry.subscriptions.entries.filter fun entry => entry.2.topic = topic).map (·.2.callback)

def PublishPhase.remaining : PublishPhase → List Nat
  | .invoking remaining _ _ => remaining
  | .returned _ => []

def PublishPhase.pending : PublishPhase → Nat
  | .invoking _ delivered failed => delivered + failed
  | .returned _ => 0

def Registry.counted (registry : Registry) : Nat :=
  registry.stats.deliveredMessages + registry.stats.droppedMessages

/-- What a step does to the publishes. -/
inductive Progresses (s t : System) (emitted : List Event) : Prop where
  | moves (active : s.publishes[index]? = some call)
      (publishes : t.publishes = s.publishes.set index { call with phase := phase })
      (left : Pool.share index (invocations emitted) ++ phase.remaining = call.phase.remaining)
      (elsewhere : ∀ other, index ≠ other → Pool.share other (invocations emitted) = [])
      (counts : t.registry.counted + phase.pending =
        s.registry.counted + call.phase.pending + (invocations emitted).length)
  | apart (silent : invocations emitted = []) (publishes : t.publishes = s.publishes ++ more)
      (idle : (more.map (·.phase.pending)).sum = 0) (counts : t.registry.counted = s.registry.counted)

theorem step_progresses (stepped : s.step action = some (t,emitted)) : Progresses s t emitted := by
  cases action with
  | invoke index threw =>
    simp only [System.step,System.invoke,bind_eq_bind,bind_eq_some_iff] at stepped
    obtain ⟨call,active,stepped⟩ := stepped
    split at stepped
    next phase =>
      cases stepped
      refine .moves active rfl ?_ ?_ ?_
      all_goals
        cases threw <;> simp +contextual [phase,PublishPhase.remaining,PublishPhase.pending,invocations,share]
      all_goals omega
    · contradiction
  | account index =>
    simp only [System.step,System.account,bind_eq_bind,bind_eq_some_iff] at stepped
    obtain ⟨call,active,stepped⟩ := stepped
    split at stepped
    next phase =>
      cases stepped
      refine .moves active rfl (by rw [phase]; rfl) (fun _ _ => rfl) ?_
      rw [phase]
      simp only [Registry.counted,Registry.account,PublishPhase.pending]
      change _ = _ + 0
      omega
    · contradiction
  | answer index ended =>
    simp only [System.step,System.answer,bind_eq_bind,bind_eq_some_iff] at stepped
    obtain ⟨call,-,stepped⟩ := stepped
    split at stepped
    · cases stepped
      simp only [Registry.answer]
      split <;> exact .apart rfl (append_nil _).symm rfl rfl
    · contradiction
  | publish topic message order =>
    simp only [System.step,System.publish,Registry.publish,some.injEq,Prod.mk.injEq] at stepped
    obtain ⟨rfl,rfl⟩ := stepped
    repeat' split
    all_goals exact .apart rfl rfl rfl rfl
  | _ =>
    simp only [System.step,System.request,Registry.subscribe,Registry.unsubscribe,Registry.advertiseService,
      Registry.removeService,Registry.request,Registry.close,some.injEq,Prod.mk.injEq] at stepped
    obtain ⟨rfl,rfl⟩ := stepped
    repeat' split
    all_goals exact .apart rfl (append_nil _).symm rfl rfl

/-- A publish on its way: what it has called and what is left make up its copy. -/
def Follows (copy : List Nat) (index : Nat) (s : System) (seen : List Event) : Prop :=
  ∃ call, s.publishes[index]? = some call ∧ Pool.share index (invocations seen) ++ call.phase.remaining = copy

theorem step_follows (follows : Follows copy index s seen) (stepped : s.step action = some (t,emitted)) :
    Follows copy index t (seen ++ emitted) := by
  obtain ⟨call,active,whole⟩ := follows
  rw [Follows,invocations_append,share_append]
  cases step_progresses stepped with
  | @moves other _ _ found publishes left elsewhere =>
    rw [publishes]
    by_cases same : other = index
    · subst same
      cases found.symm.trans active
      refine ⟨_,getElem?_set_self (inside active),?_⟩
      rw [append_assoc,left]
      exact whole
    · rw [getElem?_set_ne same,elsewhere index same,append_nil]
      exact ⟨call,active,whole⟩
  | apart silent publishes =>
    rw [publishes,getElem?_append_left (inside active),silent]
    exact ⟨call,active,by simpa [share] using whole⟩

/-- Whatever else happens, a publish calls the callbacks that were subscribed to its topic when it took the lock,
each once. When it returns it has called them all. -/
theorem publish_snapshot (stepped : s.step (.publish topic message order) = some (t,emitted)) (named : topic ≠ [])
    (serving : s.registry.closed = false) (ran : inMemoryTransport.run t later = some (u,seen)) :
    ∃ call, u.publishes[s.publishes.length]? = some call ∧
      (share s.publishes.length (invocations seen) ++ call.phase.remaining).Perm
        (s.registry.subscribed topic) := by
  simp only [System.step,System.publish,Registry.publish,named,serving,Bool.false_eq_true,if_false,
    some.injEq,Prod.mk.injEq] at stepped
  obtain ⟨rfl,-⟩ := stepped
  have follows : Follows (s.registry.subscribers topic order) s.publishes.length u seen :=
    inMemoryTransport.run_invariant (fun _ _ _ _ _ => step_follows) ⟨_,getElem?_concat_length,rfl⟩ ran
  obtain ⟨call,active,whole⟩ := follows
  have copied : (s.registry.subscribers topic order).Perm (s.registry.subscribed topic) :=
    ((order.perm _).filter _).map _
  exact ⟨call,active,whole ▸ copied⟩

def listening : System := { registry := (Registry.subscribe {} [1] {} (some 7)).1 }

/-- The subscription is gone before its callback is called. -/
theorem publish_snapshot_unsubscribed : ∃ t u seen call,
    listening.step (.publish [1] ⟨{},[]⟩ Table.Order.stored) = some (t,[]) ∧
    inMemoryTransport.run t [.unsubscribe 1,.invoke 0 false] = some (u,seen) ∧ u.publishes[0]? = some call ∧
    (share 0 (invocations seen) ++ call.phase.remaining).Perm (listening.registry.subscribed [1]) := by
  obtain ⟨t,stepped,u,seen,ran⟩ : ∃ t, listening.step (.publish [1] ⟨{},[]⟩ Table.Order.stored) = some (t,[]) ∧
      ∃ u seen, inMemoryTransport.run t [.unsubscribe 1,.invoke 0 false] = some (u,seen) := ⟨_,rfl,_,_,rfl⟩
  obtain ⟨call,active,called⟩ := publish_snapshot stepped (by decide) rfl ran
  exact ⟨t,u,seen,call,stepped,ran,active,called⟩

theorem sum_set (view : α → Nat) {pool : List α} (active : pool[index]? = some old) (new : α) :
    ((pool.set index new).map view).sum + view old = (pool.map view).sum + view new := by
  induction pool generalizing index with
  | nil => simp at active
  | cons head rest ih =>
    cases index with
    | zero =>
      cases active
      simp only [set_cons_zero,map_cons,sum_cons]
      omega
    | succ index =>
      have later := ih active
      simp only [set_cons_succ,map_cons,sum_cons]
      omega

/-- Every call of a callback is counted as delivered or as dropped, or its publish has still to count it. -/
theorem calls_counted (ran : inMemoryTransport.run {} actions = some (s,history)) :
    s.registry.counted + (s.publishes.map (·.phase.pending)).sum = (invocations history).length := by
  refine inMemoryTransport.run_invariant (motive := fun s history =>
    s.registry.counted + (s.publishes.map (·.phase.pending)).sum = (invocations history).length) ?_ rfl ran
  intro s history action t emitted counted stepped
  rw [invocations_append,length_append,← counted]
  cases step_progresses stepped with
  | @moves _ call phase active publishes _ _ counts =>
    have moved := sum_set (·.phase.pending) active { call with phase := phase }
    rw [publishes]
    simp only at moved
    omega
  | apart silent publishes idle counts =>
    rw [counts,publishes,map_append,sum_append,idle,silent]
    rfl

def throwing : List Action :=
  [.subscribe [1] {} (some 7),.publish [1] ⟨{},[]⟩ Table.Order.stored,.invoke 0 true]

theorem calls_counted_throwing : ∃ s history, inMemoryTransport.run {} throwing = some (s,history) ∧
    s.registry.counted + (s.publishes.map (·.phase.pending)).sum = 1 := by
  obtain ⟨s,history,ran,one⟩ : ∃ s history, inMemoryTransport.run {} throwing = some (s,history) ∧
      (invocations history).length = 1 := ⟨_,_,rfl,rfl⟩
  exact ⟨s,history,ran,(calls_counted ran).trans one⟩

end

end AutoRuntime.InMemory
