import AutoRuntime.Pool
import AutoRuntime.Subscription

/-! The calls into a subscription, whoever makes them: any number of `Accept` and `ProcessOne` in
progress at once, each between two of its critical sections. What the executor answers and
whether a callback throws is open. -/
namespace AutoRuntime.Subscription

variable {μ : Type}

/-- Where a call stands: in `Accept` before its section, before `Notify`, before it takes the
flag back; in `ProcessOne` before, between and after the sections. -/
inductive Frame (μ : Type) where
  | accepting (message : μ)
  | notifying
  | resetting
  | taking
  | working (work : Work μ)
  | checking
  | renotifying
  | returned
  deriving DecidableEq, Repr

structure Calls (μ : Type) where
  state : Impl μ
  frames : List (Frame μ)

def idle (options : SubscriptionOptions) : Calls μ := ⟨Impl.new options,[]⟩

namespace Calls

/-- The rest of a call up to the end of its next section. The choice is the executor's, to refuse
the notification, or the callback's, to throw. -/
def advance (s : Impl μ) (choice : Bool) : Frame μ → Option (Impl μ × Frame μ × List (Event μ))
  | .accepting message =>
    let (t,notify,seen) := s.accept message
    some (t,if notify then .notifying else .returned,seen)
  | .notifying => some (s,if choice then .resetting else .returned,[])
  | .resetting => some (s.refused,.returned,[])
  | .taking =>
    let (t,work,seen) := s.take
    some (t,work.elim .returned .working,seen)
  | .working work =>
    let (t,next,seen) := s.proceed work choice
    some (t,next.elim .checking .working,seen)
  | .checking =>
    let (t,notify) := s.check
    some (t,if notify then .renotifying else .returned,[])
  | .renotifying => some (s,.returned,[])
  | .returned => none

inductive Action (μ : Type) where
  | accept (message : μ)
  | processOne
  | advance (call : Nat) (choice : Bool)
  | close
  deriving DecidableEq, Repr

def step (s : Calls μ) : Action μ → Option (Calls μ × List (Event μ))
  | .accept message => some ({ s with frames := s.frames ++ [.accepting message] },[])
  | .processOne => some ({ s with frames := s.frames ++ [.taking] },[])
  | .advance call choice =>
    match s.frames[call]? with
    | none => none
    | some frame =>
      match advance s.state choice frame with
      | none => none
      | some (t,next,seen) => some (⟨t,s.frames.set call next⟩,seen)
  | .close =>
    let (t,seen) := s.state.close
    some ({ s with state := t },seen)

end Calls

def calls (μ : Type) : Machine (Calls μ) (Calls.Action μ) (Event μ) := ⟨Calls.step⟩

end AutoRuntime.Subscription
