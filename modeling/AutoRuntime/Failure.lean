import AutoRuntime.Status

/-! What a call over a wire can come back with. The detail of a status travels as bytes and may
be cut anywhere, so here it is bytes. -/
namespace AutoRuntime

def StatusCode.raw : StatusCode → UInt16
  | .ok => 0
  | .invalidArgument => 1
  | .alreadyExists => 2
  | .notFound => 3
  | .closed => 4
  | .timeout => 5
  | .queueFull => 6
  | .dropped => 7
  | .cancelled => 8
  | .staleGeneration => 9
  | .transportError => 10
  | .unsupported => 11
  | .internal => 12

/-- `ValidStatusCode` and the cast behind it. -/
def StatusCode.ofRaw (raw : UInt16) : Option StatusCode :=
  [.ok,.invalidArgument,.alreadyExists,.notFound,.closed,.timeout,.queueFull,.dropped,.cancelled,
    .staleGeneration,.transportError,.unsupported,.internal][raw.toNat]?

@[simp] theorem StatusCode.ofRaw_raw (code : StatusCode) : StatusCode.ofRaw code.raw = some code := by
  cases code <;> rfl

/-- The status of a `Result` without a value, which is never ok. -/
structure Failure where
  code : StatusCode
  detail : Bytes
  failed : code ≠ .ok
  deriving DecidableEq, Repr

abbrev Outcome (α : Type) := Except Failure α

def detailBytes (detail : String) : Bytes := detail.toUTF8.data.toList

namespace Failure

def invalidArgument (detail : String) : Failure := ⟨.invalidArgument,detailBytes detail,by decide⟩

def alreadyExists (detail : String) : Failure := ⟨.alreadyExists,detailBytes detail,by decide⟩

def notFound (detail : String) : Failure := ⟨.notFound,detailBytes detail,by decide⟩

def closed (detail : String) : Failure := ⟨.closed,detailBytes detail,by decide⟩

def timeout (detail : String) : Failure := ⟨.timeout,detailBytes detail,by decide⟩

def cancelled (detail : String) : Failure := ⟨.cancelled,detailBytes detail,by decide⟩

def transportError (detail : String) : Failure := ⟨.transportError,detailBytes detail,by decide⟩

def internal (detail : String) : Failure := ⟨.internal,detailBytes detail,by decide⟩

end Failure

/-- The first bytes of the detail. -/
def Failure.cut (limit : Nat) (failure : Failure) : Failure :=
  { failure with detail := failure.detail.take limit }

end AutoRuntime
