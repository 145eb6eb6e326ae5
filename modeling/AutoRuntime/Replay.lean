import AutoRuntime.Machine
import AutoRuntime.TraceReader

/-! `Replay`: one call after the other on one replayer. A call reads a record, waits for its time
unless it replays as fast as possible, and passes it to the callback; it may be cancelled before it
reads and while it waits. Clock, stop token and callback answer with the action, and what the
division of `long double` numbers gives is a parameter. -/
namespace AutoRuntime.Trace.Replaying

inductive ReplayTiming where
  | original | accelerated | asFastAsPossible
  deriving DecidableEq, Repr

inductive Speed where
  | finite (value : Rat)
  | notFinite
  deriving DecidableEq, Repr

structure ReplayOptions where
  timing : ReplayTiming := .original
  speed : Speed := .finite 1
  deriving DecidableEq, Repr

def ReplayOptions.valid (options : ReplayOptions) : Bool :=
  match options.speed with
  | .notFinite => false
  | .finite speed => !(speed ≤ 0 || options.timing == .accelerated && speed ≤ 1)

def ReplayOptions.divisor (options : ReplayOptions) : Rat :=
  match options.timing, options.speed with
  | .accelerated, .finite speed => speed
  | _, _ => 1

/-- The largest nanosecond count, of a duration and of a point in time. -/
def int64Max : Int := 2 ^ 63 - 1

/-- When a record is due that was recorded so many nanoseconds after the first one. -/
def ReplayOptions.target (quotient : UInt64 → Rat → Rat) (options : ReplayOptions) (replayStart : Int)
    (relativeNs : UInt64) : Result Int :=
  let scaled := quotient relativeNs options.divisor
  if scaled > int64Max then .error (traceError "replay timestamp exceeds nanosecond duration range")
  else
    -- the cast truncates
    let scaledDuration := scaled.num.tdiv scaled.den
    if scaledDuration > int64Max - replayStart then
      .error (traceError "replay target time point would overflow")
    else .ok (replayStart + scaledDuration)

structure ReplayCall where
  options : ReplayOptions
  replayStart : Int
  firstOffset : Option UInt64 := none
  deriving DecidableEq, Repr

inductive Phase where
  | idle
  | reading (call : ReplayCall)
  | waiting (call : ReplayCall) (record : TraceRecord) (target : Int)
  | inCallback (call : ReplayCall)
  deriving DecidableEq, Repr

structure DeliveryStats where
  recordsDelivered : Nat := 0
  timingObservations : Nat := 0
  totalTimingDrift : Int := 0
  maximumTimingDrift : Int := 0
  deriving DecidableEq, Repr

structure System where
  replayer : Replayer
  phase : Phase := .idle
  delivery : DeliveryStats := {}

inductive CallbackAnswer where
  | returned (status : Status)
  | threw (what : Option String)
  deriving DecidableEq, Repr

def CallbackAnswer.status : CallbackAnswer → Status
  | .returned status => status
  | .threw (some what) => ⟨.internal,"replay callback threw: " ++ what⟩
  | .threw none => ⟨.internal,"replay callback threw"⟩

inductive Action where
  | replay (options : ReplayOptions) (callback : Bool) (now : Int)
  | read (stopRequested : Bool)
  | poll (now : Int) (stopRequested : Bool) (deliveredAt : Int)
  | answer (callback : CallbackAnswer)
  deriving DecidableEq, Repr

/-- A call returns with the record that it has read and not passed on. -/
inductive Event where
  | delivered (record : TraceRecord)
  | returned (status : Status) (dropped : Option TraceRecord)
  deriving DecidableEq, Repr

def cancelled : Status := ⟨.cancelled,"replay was cancelled"⟩

def System.finish (s : System) (status : Status) (dropped : Option TraceRecord) : System × List Event :=
  ({ s with phase := .idle },[.returned status dropped])

def System.deliver (s : System) (call : ReplayCall) (record : TraceRecord) : System × List Event :=
  ({ s with phase := .inCallback call },[.delivered record])

def System.replay (s : System) (options : ReplayOptions) (callback : Bool) (now : Int) : System × List Event :=
  if !callback then s.finish ⟨.invalidArgument,"replay requires a callback"⟩ none
  else if !options.valid then
    s.finish ⟨.invalidArgument,"replay speed is invalid for the selected mode"⟩ none
  else ({ s with phase := .reading ⟨options,now,none⟩ },[])

def System.schedule (quotient : UInt64 → Rat → Rat) (s : System) (call : ReplayCall) (record : TraceRecord) :
    System × List Event :=
  match call.options.timing with
  | .asFastAsPossible => s.deliver call record
  | _ =>
    let firstOffset := call.firstOffset.getD record.monotonicOffsetNs
    match call.options.target quotient call.replayStart (record.monotonicOffsetNs - firstOffset) with
    | .error status => s.finish status (some record)
    | .ok target => ({ s with phase := .waiting { call with firstOffset := some firstOffset } record target },[])

/-- The head of the loop: the stop token, then `Next`. -/
def System.read (quotient : UInt64 → Rat → Rat) (s : System) (call : ReplayCall) (stopRequested : Bool) :
    System × List Event :=
  if stopRequested then s.finish cancelled none
  else
    let t := { s with replayer := s.replayer.next.2 }
    match s.replayer.next.1 with
    | .error status => t.finish status none
    | .ok none => t.finish .success none
    | .ok (some record) => t.schedule quotient call record

def DeliveryStats.observe (stats : DeliveryStats) (target deliveredAt : Int) : DeliveryStats :=
  let drift := if deliveredAt > target then deliveredAt - target else 0
  { stats with
    timingObservations := stats.timingObservations + 1
    totalTimingDrift := stats.totalTimingDrift + drift
    maximumTimingDrift := max stats.maximumTimingDrift drift }

/-- One round of the waiting loop, or the way out of it. -/
def System.poll (s : System) (call : ReplayCall) (record : TraceRecord) (target now : Int)
    (stopRequested : Bool) (deliveredAt : Int) : System × List Event :=
  if now < target then
    if stopRequested then s.finish cancelled (some record) else (s,[])
  else { s with delivery := s.delivery.observe target deliveredAt }.deliver call record

def System.answer (s : System) (call : ReplayCall) (callback : CallbackAnswer) : System × List Event :=
  if !callback.status.ok then s.finish callback.status none
  else ({ s with
    phase := .reading call
    delivery := { s.delivery with recordsDelivered := s.delivery.recordsDelivered + 1 } },[])

def step (quotient : UInt64 → Rat → Rat) (s : System) (action : Action) : Option (System × List Event) :=
  match s.phase, action with
  | .idle, .replay options callback now => some (s.replay options callback now)
  | .reading call, .read stopRequested => some (s.read quotient call stopRequested)
  | .waiting call record target, .poll now stopRequested deliveredAt =>
    some (s.poll call record target now stopRequested deliveredAt)
  | .inCallback call, .answer callback => some (s.answer call callback)
  | _, _ => none

def system (quotient : UInt64 → Rat → Rat) : Machine System Action Event := ⟨step quotient⟩

end AutoRuntime.Trace.Replaying
