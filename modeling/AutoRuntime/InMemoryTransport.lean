import AutoRuntime.Message
import AutoRuntime.Machine
import AutoRuntime.Table
import AutoRuntime.Transport

/-! The transport inside one process. A step is one section under the mutex, or one callback: a
publish copies its callbacks under the lock and calls them outside it, and so does a request. -/
namespace AutoRuntime.InMemory

/-- A callback is known by a number of its own. -/
structure SubscriptionEntry where
  id : UInt64
  topic : Bytes
  qos : QosProfile
  callback : Nat
  deriving DecidableEq, Repr

structure ServiceEntry where
  id : UInt64
  name : Bytes
  callback : Nat
  deriving DecidableEq, Repr

/-- `Impl` without its mutex. -/
structure Registry where
  closed : Bool := false
  nextSubscriptionId : UInt64 := 1
  nextServiceId : UInt64 := 1
  subscriptions : Table UInt64 SubscriptionEntry := ∅
  services : Table UInt64 ServiceEntry := ∅
  serviceNames : Table Bytes UInt64 := ∅
  stats : TransportStats := {}
  rpc : RpcStats := {}

inductive PublishPhase where
  | invoking (remaining : List Nat) (delivered failed : Nat)
  | returned (status : Status)

structure PublishCall where
  topic : Bytes
  message : Message
  phase : PublishPhase

/-- How a service callback ends. -/
inductive CallbackEnd where
  | returned (outcome : Result Message)
  | exception
  | unknown

/-- A request breaks where `services.at` throws. -/
inductive RequestPhase where
  | calling (callback : Nat)
  | broken
  | returned (outcome : Result Message)

structure RequestCall where
  serviceName : Bytes
  request : Message
  deadline : Deadline
  phase : RequestPhase

structure System where
  registry : Registry := {}
  publishes : List PublishCall := []
  requests : List RequestCall := []

/-- A callback that is absent is an empty `std::function`. -/
inductive Action where
  | subscribe (topic : Bytes) (qos : QosProfile) (callback : Option Nat)
  | unsubscribe (subscriptionId : UInt64)
  | advertiseService (serviceName : Bytes) (callback : Option Nat)
  | removeService (serviceId : UInt64)
  | publish (topic : Bytes) (message : Message) (order : Table.Order UInt64 SubscriptionEntry)
  | invoke (call : Nat) (threw : Bool)
  | account (call : Nat)
  | request (serviceName : Bytes) (request : Message) (deadline : Deadline) (now : Int)
  | answer (call : Nat) (ended : CallbackEnd)
  | close

inductive Event where
  | subscribed (outcome : Result UInt64)
  | unsubscribed (status : Status)
  | advertised (outcome : Result UInt64)
  | removed (status : Status)
  | invoked (call callback : Nat)
  | published (call : Nat) (status : Status)
  | called (call callback : Nat)
  | returned (call : Nat) (outcome : Result Message)
  | closed

def emptyTopic : Status := ⟨.invalidArgument,"topic must not be empty"⟩

def transportIsClosed : Status := ⟨.closed,"transport is closed"⟩

def subscribersThrew : Status := ⟨.internal,"one or more in-memory subscribers threw"⟩

def invalidSubscription : Status := ⟨.invalidArgument,"subscription requires topic, callback, and depth"⟩

def subscriptionNotFound : Status := ⟨.notFound,"subscription does not exist"⟩

def invalidService : Status := ⟨.invalidArgument,"service requires name and callback"⟩

def alreadyAdvertised : Status := ⟨.alreadyExists,"service name is already advertised"⟩

def serviceNotFound : Status := ⟨.notFound,"service does not exist"⟩

def requestExpired : Status := ⟨.timeout,"request deadline already expired"⟩

def serviceNotAdvertised : Status := ⟨.notFound,"service is not advertised"⟩

def callbackThrew : Status := ⟨.internal,"service callback threw"⟩

/-- `emplace` leaves an entry that is there. -/
def emplace [DecidableEq κ] (table : Table κ ν) (key : κ) (value : ν) : Table κ ν :=
  if (table.lookup key).isSome then table else table.insert key value

namespace Registry

def subscribe (registry : Registry) (topic : Bytes) (qos : QosProfile) (callback : Option Nat) :
    Registry × Result UInt64 :=
  match callback with
  | none => (registry,.error invalidSubscription)
  | some callback =>
    if topic = [] ∨ qos.depth = 0 then (registry,.error invalidSubscription)
    else if registry.closed then (registry,.error transportIsClosed)
    else
      let id := registry.nextSubscriptionId
      ({ registry with
          nextSubscriptionId := id + 1
          subscriptions := emplace registry.subscriptions id ⟨id,topic,qos,callback⟩ },.ok id)

def unsubscribe (registry : Registry) (subscriptionId : UInt64) : Registry × Status :=
  if (registry.subscriptions.lookup subscriptionId).isSome then
    ({ registry with subscriptions := registry.subscriptions.erase subscriptionId },Status.success)
  else (registry,subscriptionNotFound)

def advertiseService (registry : Registry) (serviceName : Bytes) (callback : Option Nat) :
    Registry × Result UInt64 :=
  match callback with
  | none => (registry,.error invalidService)
  | some callback =>
    if serviceName = [] then (registry,.error invalidService)
    else if registry.closed then (registry,.error transportIsClosed)
    else if (registry.serviceNames.lookup serviceName).isSome then (registry,.error alreadyAdvertised)
    else
      let id := registry.nextServiceId
      ({ registry with
          nextServiceId := id + 1
          serviceNames := emplace registry.serviceNames serviceName id
          services := emplace registry.services id ⟨id,serviceName,callback⟩ },.ok id)

def removeService (registry : Registry) (serviceId : UInt64) : Registry × Status :=
  match registry.services.lookup serviceId with
  | none => (registry,serviceNotFound)
  | some entry =>
    ({ registry with
        serviceNames := registry.serviceNames.erase entry.name
        services := registry.services.erase serviceId },Status.success)

def close (registry : Registry) : Registry :=
  if registry.closed then registry
  else { registry with closed := true, subscriptions := ∅, services := ∅, serviceNames := ∅ }

/-- The callbacks that a publish copies, in the order in which it meets them. -/
def subscribers (registry : Registry) (topic : Bytes) (order : Table.Order UInt64 SubscriptionEntry) : List Nat :=
  ((order.arrange registry.subscriptions.entries).filter fun entry => entry.2.topic = topic).map (·.2.callback)

/-- The first section of `Publish`. -/
def publish (registry : Registry) (topic : Bytes) (order : Table.Order UInt64 SubscriptionEntry) :
    Registry × PublishPhase :=
  if topic = [] then (registry,.returned emptyTopic)
  else if registry.closed then
    ({ registry with stats := registry.stats.countPublishFailure },.returned transportIsClosed)
  else
    ({ registry with stats := registry.stats.countPublished },.invoking (registry.subscribers topic order) 0 0)

/-- The second one. -/
def account (registry : Registry) (delivered failed : Nat) : Registry :=
  { registry with stats := { registry.stats with
      deliveredMessages := registry.stats.deliveredMessages + delivered
      droppedMessages := registry.stats.droppedMessages + failed } }

/-- `Request` up to the callback. An expired deadline is found before the lock is taken. -/
def request (registry : Registry) (serviceName : Bytes) (deadline : Deadline) (now : Int) :
    Registry × RequestPhase :=
  if deadline.expired now then (registry,.returned (.error requestExpired))
  else if registry.closed then
    ({ registry with rpc := registry.rpc.countFailure },.returned (.error transportIsClosed))
  else
    match registry.serviceNames.lookup serviceName with
    | none => ({ registry with rpc := registry.rpc.countFailure },.returned (.error serviceNotAdvertised))
    | some id =>
      match registry.services.lookup id with
      | none => (registry,.broken)
      | some entry => ({ registry with rpc := registry.rpc.countRequest },.calling entry.callback)

/-- `Request` from the callback on. -/
def answer (registry : Registry) : CallbackEnd → Registry × Result Message
  | .returned (.ok response) => (registry,.ok response)
  | .returned (.error status) => ({ registry with rpc := registry.rpc.countFailure },.error status)
  | .exception => ({ registry with rpc := registry.rpc.countFailure },.error callbackThrew)
  | .unknown => ({ registry with rpc := registry.rpc.countFailure },.error callbackThrew)

end Registry

def PublishPhase.events (call : Nat) : PublishPhase → List Event
  | .invoking _ _ _ => []
  | .returned status => [.published call status]

def RequestPhase.events (call : Nat) : RequestPhase → List Event
  | .calling callback => [.called call callback]
  | .broken => []
  | .returned outcome => [.returned call outcome]

namespace System

def publish (s : System) (topic : Bytes) (message : Message) (order : Table.Order UInt64 SubscriptionEntry) :
    System × List Event :=
  let (registry,phase) := s.registry.publish topic order
  ({ s with registry := registry, publishes := s.publishes ++ [⟨topic,message,phase⟩] },
    phase.events s.publishes.length)

def invoke (s : System) (index : Nat) (threw : Bool) : Option (System × List Event) := do
  let call ← s.publishes[index]?
  let .invoking (callback :: remaining) delivered failed := call.phase | none
  let phase : PublishPhase :=
    if threw then .invoking remaining delivered (failed + 1) else .invoking remaining (delivered + 1) failed
  some ({ s with publishes := s.publishes.set index { call with phase := phase } },[.invoked index callback])

def account (s : System) (index : Nat) : Option (System × List Event) := do
  let call ← s.publishes[index]?
  let .invoking [] delivered failed := call.phase | none
  let status := if failed ≠ 0 then subscribersThrew else Status.success
  some ({ s with
      registry := s.registry.account delivered failed
      publishes := s.publishes.set index { call with phase := .returned status } },[.published index status])

def request (s : System) (serviceName : Bytes) (request : Message) (deadline : Deadline) (now : Int) :
    System × List Event :=
  let (registry,phase) := s.registry.request serviceName deadline now
  ({ s with registry := registry, requests := s.requests ++ [⟨serviceName,request,deadline,phase⟩] },
    phase.events s.requests.length)

def answer (s : System) (index : Nat) (ended : CallbackEnd) : Option (System × List Event) := do
  let call ← s.requests[index]?
  let .calling _ := call.phase | none
  let (registry,outcome) := s.registry.answer ended
  some ({ s with
      registry := registry
      requests := s.requests.set index { call with phase := .returned outcome } },[.returned index outcome])

def step (s : System) : Action → Option (System × List Event)
  | .subscribe topic qos callback =>
    let (registry,outcome) := s.registry.subscribe topic qos callback
    some ({ s with registry := registry },[.subscribed outcome])
  | .unsubscribe subscriptionId =>
    let (registry,status) := s.registry.unsubscribe subscriptionId
    some ({ s with registry := registry },[.unsubscribed status])
  | .advertiseService serviceName callback =>
    let (registry,outcome) := s.registry.advertiseService serviceName callback
    some ({ s with registry := registry },[.advertised outcome])
  | .removeService serviceId =>
    let (registry,status) := s.registry.removeService serviceId
    some ({ s with registry := registry },[.removed status])
  | .publish topic message order => some (s.publish topic message order)
  | .invoke call threw => s.invoke call threw
  | .account call => s.account call
  | .request serviceName request deadline now => some (s.request serviceName request deadline now)
  | .answer call ended => s.answer call ended
  | .close => some ({ s with registry := s.registry.close },[.closed])

end System

def inMemoryTransport : Machine System Action Event := ⟨System.step⟩

end AutoRuntime.InMemory
