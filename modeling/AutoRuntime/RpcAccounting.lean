import AutoRuntime.DdsRpcMeter
import AutoRuntime.InMemoryTransport

/-! What the transports count as a failed request. The in-memory transport turns a request whose
deadline has expired away before it takes its lock, and counts nothing there; every other request
that returns an error is counted once, and so is every one of an engine over DDS. -/
namespace AutoRuntime.InMemory

open Option Nat

def RequestPhase.failed : RequestPhase → Bool
  | .returned (.error _) => true
  | _ => false

def RequestCall.failed (call : RequestCall) : Bool := call.phase.failed

/-- A request that finds its deadline expired. -/
def Action.late : Action → Bool
  | .request _ _ deadline now => deadline.expired now
  | _ => false

def System.failedRequests (s : System) : Nat := s.requests.countP RequestCall.failed

section Registry

variable (registry : Registry)

@[simp] theorem subscribe_rpc (topic : Bytes) (qos : QosProfile) (callback : Option Nat) :
    (registry.subscribe topic qos callback).1.rpc = registry.rpc := by
  simp only [Registry.subscribe]
  repeat' split
  all_goals rfl

@[simp] theorem unsubscribe_rpc (subscriptionId : UInt64) :
    (registry.unsubscribe subscriptionId).1.rpc = registry.rpc := by
  simp only [Registry.unsubscribe]
  split <;> rfl

@[simp] theorem advertiseService_rpc (serviceName : Bytes) (callback : Option Nat) :
    (registry.advertiseService serviceName callback).1.rpc = registry.rpc := by
  simp only [Registry.advertiseService]
  repeat' split
  all_goals rfl

@[simp] theorem removeService_rpc (serviceId : UInt64) :
    (registry.removeService serviceId).1.rpc = registry.rpc := by
  simp only [Registry.removeService]
  split <;> rfl

@[simp] theorem publish_rpc (topic : Bytes) (order : Table.Order UInt64 SubscriptionEntry) :
    (registry.publish topic order).1.rpc = registry.rpc := by
  simp only [Registry.publish]
  repeat' split
  all_goals rfl

@[simp] theorem close_rpc : registry.close.rpc = registry.rpc := by
  simp only [Registry.close]
  split <;> rfl

theorem request_rpcFailures (serviceName : Bytes) (deadline : Deadline) (now : Int) :
    (registry.request serviceName deadline now).1.rpc.rpcFailures + (deadline.expired now).toNat =
      registry.rpc.rpcFailures + (registry.request serviceName deadline now).2.failed.toNat := by
  simp only [Registry.request]
  split
  next late => simp [late,RequestPhase.failed]
  next timely =>
    repeat' split
    all_goals simp [timely,RequestPhase.failed,RpcStats.countFailure,RpcStats.countRequest]

theorem answer_rpcFailures (ended : CallbackEnd) :
    (registry.answer ended).1.rpc.rpcFailures =
      registry.rpc.rpcFailures + (RequestPhase.returned (registry.answer ended).2).failed.toNat := by
  simp only [Registry.answer]
  split <;> rfl

end Registry

theorem step_rpcFailures {s t : System} (stepped : s.step action = some (t,emitted)) :
    t.registry.rpc.rpcFailures + action.late.toNat + s.failedRequests =
      s.registry.rpc.rpcFailures + t.failedRequests := by
  cases action with
  | invoke =>
    simp only [System.step,System.invoke,bind_eq_bind,bind_eq_some_iff] at stepped
    obtain ⟨call,-,stepped⟩ := stepped
    split at stepped
    · cases stepped
      rfl
    · contradiction
  | account =>
    simp only [System.step,System.account,bind_eq_bind,bind_eq_some_iff] at stepped
    obtain ⟨call,-,stepped⟩ := stepped
    split at stepped
    · cases stepped
      rfl
    · contradiction
  | request serviceName request deadline now =>
    simp only [System.step,System.request] at stepped
    obtain ⟨rfl,-⟩ := stepped
    have counted := request_rpcFailures s.registry serviceName deadline now
    simp only [Action.late,counted,System.failedRequests,Pool.countP_concat]
    exact (add_right_comm _ _ _).trans (add_assoc _ _ _)
  | answer index ended =>
    simp only [System.step,System.answer,bind_eq_bind,bind_eq_some_iff] at stepped
    obtain ⟨call,active,stepped⟩ := stepped
    split at stepped
    next before =>
      cases stepped
      have changes := Pool.countP_set RequestCall.failed s.requests active
        { call with phase := .returned (s.registry.answer ended).2 }
      have unfailing : call.failed = false := by rw [RequestCall.failed,before]; rfl
      rw [unfailing,Bool.toNat_false,add_zero] at changes
      simp only [Action.late,System.failedRequests,answer_rpcFailures,changes,Bool.toNat_false,add_zero]
      exact (add_right_comm _ _ _).trans (add_assoc _ _ _)
    · contradiction
  | _ =>
    simp only [System.step,System.publish] at stepped
    obtain ⟨rfl,-⟩ := stepped
    simp [Action.late,System.failedRequests]

theorem run_rpcFailures {s t : System} (ran : inMemoryTransport.run s actions = some (t,history)) :
    t.registry.rpc.rpcFailures + actions.countP Action.late + s.failedRequests =
      s.registry.rpc.rpcFailures + t.failedRequests := by
  induction actions generalizing s history with
  | nil =>
    obtain ⟨rfl,-⟩ := Machine.run_nil_iff.mp ran
    simp
  | cons action rest ih =>
    obtain ⟨u,emitted,later,stepped,continued,-⟩ := Machine.run_cons_iff.mp ran
    have first := step_rpcFailures stepped
    have second := ih continued
    cases late : action.late <;> simp [late] at first ⊢ <;> omega

end AutoRuntime.InMemory

namespace AutoRuntime

open InMemory DdsRpc

/-- The in-memory transport counts the requests that returned an error exactly if none of them was
late, and what it misses are the late ones; an engine over DDS without services misses none. -/
theorem rpc_failures_iff {s : InMemory.System} {m : Metered}
    (ran : inMemoryTransport.run {} actions = some (s,history))
    (observed : meteredDomain.run {} inputs = some (m,seen)) (clientOnly : m.domain.ClientOnly engine) :
    (s.registry.rpc.rpcFailures = s.failedRequests ↔ ∀ action ∈ actions, action.late = false) ∧
      s.registry.rpc.rpcFailures + actions.countP InMemory.Action.late = s.failedRequests ∧
      (m.stats engine).rpcFailures = m.domain.failedRequests engine := by
  have balance : s.registry.rpc.rpcFailures + actions.countP InMemory.Action.late = s.failedRequests := by
    simpa [System.failedRequests] using run_rpcFailures ran
  refine ⟨?_,balance,(run_exact observed).failures engine clientOnly⟩
  rw [← balance,left_eq_add,List.countP_eq_zero]
  simp only [Bool.not_eq_true]

def ping : Message := ⟨{},[]⟩

/-- A late request returns an error that nobody counts. -/
theorem late_request_uncounted : ∃ s history,
    inMemoryTransport.run {} [.request [112] ping ⟨false,0⟩ 1] = some (s,history) ∧
      s.requests.map (·.phase.failed) = [true] ∧ s.failedRequests = 1 ∧ s.registry.rpc.rpcFailures = 0 :=
  ⟨_,_,rfl,rfl,rfl,rfl⟩

/-- A service that throws, and one that is not there. -/
def timelyPings : List InMemory.Action :=
  [.advertiseService [112] (some 0),.request [112] ping .infinite 1,.answer 0 .exception,
    .request [113] ping .infinite 2]

def expiredPing : List (DomainAction × Bool) :=
  [(.create ⟨1,2⟩ ⟨idlMaximumPayload,idlMaximumPayload_pos,Nat.le_refl _⟩,false),
    (.request 0 [112] ping ⟨false,0⟩ 1,false)]

theorem rpc_failures_sample : ∃ s history m seen,
    inMemoryTransport.run {} timelyPings = some (s,history) ∧ meteredDomain.run {} expiredPing = some (m,seen) ∧
      s.registry.rpc.rpcFailures = 2 ∧ s.registry.rpc.rpcFailures = s.failedRequests ∧
      (m.stats 0).rpcFailures = 1 ∧ (m.stats 0).rpcFailures = m.domain.failedRequests 0 := by
  obtain ⟨s,history,ran,two⟩ : ∃ s history,
      inMemoryTransport.run {} timelyPings = some (s,history) ∧ s.registry.rpc.rpcFailures = 2 := ⟨_,_,rfl,rfl⟩
  obtain ⟨m,seen,observed,one,clientOnly⟩ : ∃ m seen, meteredDomain.run {} expiredPing = some (m,seen) ∧
      (m.stats 0).rpcFailures = 1 ∧ m.domain.ClientOnly 0 := ⟨_,_,rfl,rfl,by simp [Domain.ClientOnly]⟩
  obtain ⟨counted,-,exact⟩ := rpc_failures_iff ran observed clientOnly
  exact ⟨s,history,m,seen,ran,observed,two,counted.mpr (by decide),one,exact⟩

end AutoRuntime
