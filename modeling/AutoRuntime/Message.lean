import AutoRuntime.Status

/-! Messages and the envelope that carries their trace. Clock readings and the process-wide
trace and span counters are inputs. -/
namespace AutoRuntime

structure TraceContext where
  traceId : UInt64 := 0
  parentSpanId : UInt64 := 0
  originTimestampNs : UInt64 := 0
  deriving DecidableEq, Repr

def messageEnvelopeVersion : UInt16 := 1

structure MessageEnvelope where
  version : UInt16 := 1
  traceId : UInt64 := 0
  spanId : UInt64 := 0
  parentSpanId : UInt64 := 0
  sequence : UInt64 := 0
  sourceTimestampNs : UInt64 := 0
  publishTimestampNs : UInt64 := 0
  sourceGeneration : UInt64 := 0
  priority : Int32 := 0
  deriving DecidableEq, Repr

structure Message where
  envelope : MessageEnvelope
  payload : Bytes
  deriving DecidableEq, Repr

def Message.continueTrace (message : Message) : TraceContext :=
  ⟨message.envelope.traceId,message.envelope.spanId,message.envelope.sourceTimestampNs⟩

/-- What `BuildEnvelope` reads from outside. -/
structure Stamp where
  now : UInt64
  nextTraceId : UInt64
  nextSpanId : UInt64
  deriving DecidableEq, Repr

/-- The counter is the value before the increment. -/
def buildEnvelope (generation sequence : UInt64) (trace : TraceContext) (stamp : Stamp) : MessageEnvelope :=
  { traceId := if trace.traceId = 0 then stamp.nextTraceId else trace.traceId
    spanId := stamp.nextSpanId
    parentSpanId := trace.parentSpanId
    sequence := sequence + 1
    sourceTimestampNs := if trace.originTimestampNs = 0 then stamp.now else trace.originTimestampNs
    publishTimestampNs := stamp.now
    sourceGeneration := generation }

def buildMessage (generation sequence : UInt64) (payload : Bytes) (trace : TraceContext) (stamp : Stamp) :
    Message :=
  ⟨buildEnvelope generation sequence trace stamp,payload⟩

end AutoRuntime
