import AutoRuntime.DdsRpcWire
import AutoRuntime.DiscoveryWire
import AutoRuntime.TcpRpcSocket

/-! Calls over TCP: one connection, one request and one response for each. What the system and
the clock say before the first byte is written comes with the call. -/
namespace AutoRuntime.TcpRpc

open Chrono Process
open Discovery (NetworkEndpoint)

/-- The letters `ARRQ`. -/
def requestMagic : Bytes := [65,82,82,81]

/-- The letters `ARRS`. -/
def responseMagic : Bytes := [65,82,82,83]

def rpcVersion : UInt16 := 1

def requestHeaderBytes : Nat := 28

def responseHeaderBytes : Nat := 24

def maximumMethodBytes : Nat := 128

def maximumDetailBytes : Nat := 1024

def absolutePayloadLimit : Nat := 16 * 1024 * 1024

def socketAddress (endpoint : NetworkEndpoint) (allowZeroPort : Bool) : Option Failure :=
  (Discovery.socketAddress endpoint allowZeroPort).map fun status => .invalidArgument status.detail

/-- The count is cut off and a rest rounds it up. -/
def remainingMilliseconds (deadline : Deadline) (now : Int) : UInt32 :=
  if deadline.isInfinite then 4294967295
  else
    let remaining := elapsed deadline.timePoint now
    if remaining ≤ 0 then 0
    else
      let whole := remaining / 1000000
      let rounded := if whole * 1000000 < remaining then whole + 1 else whole
      UInt32.ofNat (max 1 (min rounded 4294967295)).toNat

/-- The two bytes after the version stay zero. -/
def requestHeader (requestId : UInt64) (timeoutMilliseconds methodSize payloadSize : UInt32) : Bytes :=
  requestMagic ++ storeU16 rpcVersion ++ [0,0] ++ storeU64 requestId ++ storeU32 timeoutMilliseconds ++
    storeU32 methodSize ++ storeU32 payloadSize

def responseHeader (code : StatusCode) (requestId : UInt64) (detailSize payloadSize : UInt32) : Bytes :=
  responseMagic ++ storeU16 rpcVersion ++ storeU16 code.raw ++ storeU64 requestId ++ storeU32 detailSize ++
    storeU32 payloadSize

inductive HandlerEnd where
  | returned (response : Outcome Bytes)
  | threw (what : Bytes)
  | threwUnknown

abbrev RpcHandler := Bytes → HandlerEnd

structure RpcServerConfig where
  bindEndpoint : NetworkEndpoint
  maxRequestBytes : Nat := 1024 * 1024
  ioTimeout : Int := 1000
  listenBacklog : Nat := 16

def RpcServerConfig.Valid (config : RpcServerConfig) : Prop :=
  config.maxRequestBytes ≠ 0 ∧ config.maxRequestBytes ≤ absolutePayloadLimit ∧ 0 < config.ioTimeout ∧
    config.listenBacklog ≠ 0 ∧ config.listenBacklog ≤ 1024

instance (config : RpcServerConfig) : Decidable config.Valid := inferInstanceAs (Decidable (_ ∧ _))

/-- A server as `Create` lets it be. -/
structure RpcServer where
  config : RpcServerConfig
  valid : config.Valid
  handlers : Table Bytes RpcHandler := ∅

structure RpcServerStats where
  acceptedConnections : Nat := 0
  requests : Nat := 0
  responses : Nat := 0
  malformedRequests : Nat := 0
  handlerFailures : Nat := 0
  ioFailures : Nat := 0
  deriving DecidableEq, Repr

def RpcServerStats.countIoFailure (stats : RpcServerStats) : RpcServerStats :=
  { stats with ioFailures := stats.ioFailures + 1 }

def RpcServerStats.countMalformed (stats : RpcServerStats) : RpcServerStats :=
  { stats with malformedRequests := stats.malformedRequests + 1 }

def RpcServerStats.countRequest (stats : RpcServerStats) (response : Outcome Bytes) : RpcServerStats :=
  { stats with
    requests := stats.requests + 1
    handlerFailures := stats.handlerFailures + if response.isOk then 0 else 1 }

def RpcServerStats.countResponse (stats : RpcServerStats) : RpcServerStats :=
  { stats with responses := stats.responses + 1 }

def methodNotRegistered : Failure := .notFound "RPC method is not registered"

def handlerThrew (what : Bytes) : Failure :=
  { Failure.internal "RPC handler threw: " with detail := detailBytes "RPC handler threw: " ++ what }

/-- The deadline of the request is made and checked before the handler runs. -/
def dispatch (server : RpcServer) (timeoutMilliseconds : UInt32) (made checked : Int) (method request : Bytes) :
    Outcome Bytes :=
  match server.handlers.lookup method with
  | none => .error methodNotRegistered
  | some handler =>
    if (DdsRpc.deadlineAfter (milliseconds timeoutMilliseconds.toNat) made).expired checked then
      .error (.timeout "RPC request expired before dispatch")
    else
      match handler request with
      | .returned response => response
      | .threw what => .error (handlerThrew what)
      | .threwUnknown => .error (.internal "RPC handler threw")

/-- What goes into a response. -/
structure Reply where
  code : StatusCode
  detail : Bytes
  payload : Bytes

def responseTooLarge : Failure := .internal "RPC response exceeds configured size"

def reply (server : RpcServer) : Outcome Bytes → Reply
  | .ok payload =>
    if payload.length > server.config.maxRequestBytes then ⟨.internal,responseTooLarge.detail,[]⟩
    else ⟨.ok,[],payload⟩
  | .error failed => ⟨failed.code,failed.detail.take maximumDetailBytes,[]⟩

def readRequest (methodSize payloadSize : Nat) : ExceptT Failure (Process UInt8 Failure) (Bytes × Bytes) := do
  let method ← readExact methodSize
  let request ← readExact payloadSize
  return (method,request)

def writeReply (requestId : UInt64) (reply : Reply) : ExceptT Failure (Process UInt8 Failure) Unit := do
  writeExact (responseHeader reply.code requestId (.ofNat reply.detail.length) (.ofNat reply.payload.length))
  writeExact reply.detail
  writeExact reply.payload

/-- `HandleConnection`, with the times at which the deadline of the request is made and checked. -/
def handleConnection (server : RpcServer) (made checked : Int) (stats : RpcServerStats) :
    Thread RpcServerStats := do
  match ← (readExact requestHeaderBytes).run with
  | .error _ => return stats.countIoFailure
  | .ok header =>
    if header.take 4 ≠ requestMagic || loadU16 (header.drop 4) ≠ rpcVersion then return stats.countMalformed
    else
      let requestId := loadU64 (header.drop 8)
      let timeoutMilliseconds := loadU32 (header.drop 16)
      let methodSize := (loadU32 (header.drop 20)).toNat
      let payloadSize := (loadU32 (header.drop 24)).toNat
      if requestId = 0 || timeoutMilliseconds = 0 || methodSize = 0 || methodSize > maximumMethodBytes ||
          payloadSize > server.config.maxRequestBytes then return stats.countMalformed
      else
        match ← (readRequest methodSize payloadSize).run with
        | .error _ => return stats.countIoFailure
        | .ok (method,request) =>
          let response := dispatch server timeoutMilliseconds made checked method request
          let stats := stats.countRequest response
          match ← (writeReply requestId (reply server response)).run with
          | .ok () => return stats.countResponse
          | .error _ => return stats.countIoFailure

/-- What `Run` does with a connection it has accepted. -/
def serve (server : RpcServer) (made checked : Int) (stats : RpcServerStats) : Thread RpcServerStats :=
  handleConnection server made checked { stats with acceptedConnections := stats.acceptedConnections + 1 }

def writeRequest (requestId : UInt64) (timeoutMilliseconds : UInt32) (method payload : Bytes) :
    ExceptT Failure (Process UInt8 Failure) Unit := do
  writeExact (requestHeader requestId timeoutMilliseconds (.ofNat method.length) (.ofNat payload.length))
  writeExact method
  writeExact payload

def readReply (requestId : UInt64) : ExceptT Failure (Process UInt8 Failure) Bytes := do
  let header ← readExact responseHeaderBytes
  if header.take 4 ≠ responseMagic || loadU16 (header.drop 4) ≠ rpcVersion then
    throw (.transportError "RPC response header is invalid")
  else
    match StatusCode.ofRaw (loadU16 (header.drop 6)) with
    | none => throw (.transportError "RPC response bounds or correlation are invalid")
    | some code =>
      let detailSize := (loadU32 (header.drop 16)).toNat
      let responseSize := (loadU32 (header.drop 20)).toNat
      if loadU64 (header.drop 8) ≠ requestId || detailSize > maximumDetailBytes ||
          responseSize > absolutePayloadLimit then
        throw (.transportError "RPC response bounds or correlation are invalid")
      else
        let detail ← readExact detailSize
        let response ← readExact responseSize
        if failed : code ≠ .ok then throw ⟨code,detail,failed⟩ else return response

/-- `Call` once it is connected and has its number and its time left. -/
def exchange (requestId : UInt64) (timeoutMilliseconds : UInt32) (method payload : Bytes) :
    ExceptT Failure (Process UInt8 Failure) Bytes := do
  writeRequest requestId timeoutMilliseconds method payload
  readReply requestId

/-- What a call meets before it writes: a stop, the time of its first check, how connecting
failed, how many calls of the process took a number before it and the time when it reads what
is left of its deadline. -/
structure Entry where
  stopped : Bool := false
  checkedAt : Int
  refused : Option Failure := none
  earlier : Nat
  sentAt : Int

/-- The counter of the process starts at one and wraps. -/
def requestIdAfter (earlier : Nat) : UInt64 := .ofNat (1 + earlier)

def call (endpoint : NetworkEndpoint) (method payload : Bytes) (deadline : Deadline) (entry : Entry) :
    Thread (Outcome Bytes) :=
  if method.isEmpty || method.length > maximumMethodBytes || payload.length > absolutePayloadLimit then
    .done (.error (.invalidArgument "invalid RPC request bounds"))
  else if entry.stopped then .done (.error (.cancelled "RPC operation cancelled"))
  else if deadline.expired entry.checkedAt then .done (.error (.timeout "RPC deadline expired"))
  else
    match (socketAddress endpoint false).or entry.refused with
    | some failed => .done (.error failed)
    | none =>
      let timeoutMilliseconds := remainingMilliseconds deadline entry.sentAt
      if timeoutMilliseconds = 0 then .done (.error (.timeout "RPC deadline expired"))
      else (exchange (requestIdAfter entry.earlier) timeoutMilliseconds method payload).run

theorem requestHeader_length (requestId timeoutMilliseconds methodSize payloadSize) :
    (requestHeader requestId timeoutMilliseconds methodSize payloadSize).length = requestHeaderBytes := by
  rfl

theorem requestHeader_loads (requestId timeoutMilliseconds methodSize payloadSize) :
    let header := requestHeader requestId timeoutMilliseconds methodSize payloadSize
    header.take 4 = requestMagic ∧ loadU16 (header.drop 4) = rpcVersion ∧ loadU64 (header.drop 8) = requestId ∧
      loadU32 (header.drop 16) = timeoutMilliseconds ∧ loadU32 (header.drop 20) = methodSize ∧
      loadU32 (header.drop 24) = payloadSize := by
  have last : storeU32 payloadSize = storeU32 payloadSize ++ [] := (List.append_nil _).symm
  simp only [requestHeader]
  rw [last]
  exact ⟨rfl,loadU16_store ..,loadU64_store ..,loadU32_store ..,loadU32_store ..,loadU32_store ..⟩

theorem responseHeader_length (code requestId detailSize payloadSize) :
    (responseHeader code requestId detailSize payloadSize).length = responseHeaderBytes := by
  rfl

theorem responseHeader_loads (code requestId detailSize payloadSize) :
    let header := responseHeader code requestId detailSize payloadSize
    header.take 4 = responseMagic ∧ loadU16 (header.drop 4) = rpcVersion ∧ loadU16 (header.drop 6) = code.raw ∧
      loadU64 (header.drop 8) = requestId ∧ loadU32 (header.drop 16) = detailSize ∧
      loadU32 (header.drop 20) = payloadSize := by
  have last : storeU32 payloadSize = storeU32 payloadSize ++ [] := (List.append_nil _).symm
  simp only [responseHeader]
  rw [last]
  exact ⟨rfl,loadU16_store ..,loadU16_store ..,loadU64_store ..,loadU32_store ..,loadU32_store ..⟩

end AutoRuntime.TcpRpc
