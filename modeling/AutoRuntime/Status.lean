import AutoRuntime.Chrono

/-! Vocabulary shared by every component: byte strings, status values and deadlines. -/
namespace AutoRuntime

open Chrono

abbrev Bytes := List UInt8

inductive StatusCode where
  | ok | invalidArgument | alreadyExists | notFound | closed | timeout | queueFull
  | dropped | cancelled | staleGeneration | transportError | unsupported | internal
  deriving DecidableEq, Repr

structure Status where
  code : StatusCode
  detail : String
  deriving DecidableEq, Repr

def Status.success : Status := ⟨.ok,""⟩

def Status.ok (status : Status) : Bool := status.code == .ok

@[simp] theorem Status.success_ok : Status.success.ok = true := rfl

/-- A value, or the status that explains its absence. -/
abbrev Result (α : Type) := Except Status α

structure Deadline where
  isInfinite : Bool
  timePoint : Int
  deriving DecidableEq, Repr

def Deadline.infinite : Deadline := ⟨true,2^63 - 1⟩

def Deadline.expired (deadline : Deadline) (now : Int) : Bool :=
  !deadline.isInfinite && deadline.timePoint ≤ now

end AutoRuntime
