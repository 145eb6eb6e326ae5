import AutoRuntime.Status

/-! Vocabulary of the transports: what a topic is asked for, and what a transport counts. -/
namespace AutoRuntime

inductive Reliability where
  | reliable | bestEffort
  deriving DecidableEq, Repr

/-- The deadline is a count of nanoseconds. -/
structure QosProfile where
  reliability : Reliability := .reliable
  depth : Nat := 16
  deadline : Int := 0
  deriving DecidableEq, Repr

structure TransportStats where
  publishedMessages : Nat := 0
  deliveredMessages : Nat := 0
  droppedMessages : Nat := 0
  publishFailures : Nat := 0
  deriving DecidableEq, Repr

namespace TransportStats

def countPublished (stats : TransportStats) : TransportStats :=
  { stats with publishedMessages := stats.publishedMessages + 1 }

def countPublishFailure (stats : TransportStats) : TransportStats :=
  { stats with publishFailures := stats.publishFailures + 1 }

def countDelivered (stats : TransportStats) : TransportStats :=
  { stats with deliveredMessages := stats.deliveredMessages + 1 }

def countDropped (stats : TransportStats) : TransportStats :=
  { stats with droppedMessages := stats.droppedMessages + 1 }

end TransportStats

/-- The counters of the requests, which the transports without RPC leave alone. -/
structure RpcStats where
  rpcRequests : Nat := 0
  rpcFailures : Nat := 0
  deriving DecidableEq, Repr

namespace RpcStats

def countRequest (stats : RpcStats) : RpcStats := { stats with rpcRequests := stats.rpcRequests + 1 }

def countFailure (stats : RpcStats) : RpcStats := { stats with rpcFailures := stats.rpcFailures + 1 }

end RpcStats

end AutoRuntime
