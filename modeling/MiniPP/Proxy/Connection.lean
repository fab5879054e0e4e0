import MiniPP.Protocol

/-! One client connection of the proxy-access server: its fields, the callbacks that
reach it, and what a callback may do besides changing the fields. -/
namespace MiniPP.Proxy

/-- `eProxyPhase`, in the order of the enumeration. -/
inductive Phase where
  | unknown
  | s5WaitForAuthInfo
  | s5WaitForAccountExchange
  | s5WaitForDeviceSelection
  | s5WaitForConnectionRequest
  | s5WaitForConnectionEstablish
  | s5ConnectionReady
  | s5WaitForConnectionClosed
  | httpChallenge
  | httpRawChallenge
  | httpRawWaitForAccountExchange
  | httpRawWaitForDeviceSelection
  | httpRawWaitForConnectionEstablish
  | httpRawReady
  | httpRawClosed
  | httpNormalChallenge
  | httpNormalWaitForAccountExchange
  | httpNormalWaitForDeviceSelection
  | httpNormalWaitForConnectionEstablish
  | httpNormalReady
  | httpNormalClosed
  | lingerKill
  | error
  deriving DecidableEq, Repr

/-- The numeric value of the phase. -/
def Phase.value (p : Phase) : Nat := p.ctorIdx

def Phase.Ready (p : Phase) : Prop :=
  p = .s5ConnectionReady ∨ p = .httpRawReady ∨ p = .httpNormalReady

instance (p : Phase) : Decidable p.Ready := inferInstanceAs (Decidable (_ ∨ _ ∨ _))

structure Http where
  targetHost : Bytes := []
  targetPort : Nat := 0
  rebuiltHttpHeader : Bytes := []
  httpHeaderLine : Bytes := []
  authNamePass : Bytes := []
  contentLengthLeft : Nat := 0
  deriving DecidableEq, Repr

/-- `remoteIp` is the text of the peer's address. The list nodes a connection inherits
are kept by the manager. -/
structure ClientConnection where
  connectionId : Nat
  remoteIp : Bytes
  readingSuspended : Bool := false
  phase : Phase := .unknown
  relayConnectionId : Nat := 0
  relaySideDeviceId : Nat := 0
  relaySideConnectionId : Nat := 0
  totalUploadDataSize : Nat := 0
  totalDumpedDataSize : Nat := 0
  totalReportedUploadDataSize : Nat := 0
  totalReportedDumpedDataSize : Nat := 0
  http : Http := {}
  deriving DecidableEq, Repr

/-- `xPA_AuthResult`: the fields of a decoded verdict, and whether there was one. -/
structure AuthResult extends QueryAuthCacheResp where
  ready : Bool
  deriving DecidableEq, Repr

structure DeviceRequest where
  clientConnectionId : Nat
  countryId : Nat
  stateId : Nat
  cityId : Nat
  requireIpv6 : Bool := false
  requireUdp : Bool := false
  requireRemoteDns : Bool := false
  deriving DecidableEq, Repr

/-- `relayServers` are the keys of `GlobalTestRCM`'s map. `after502` are the bytes that
follow the 502 reply in memory: its length is given as 64, ten more than its text has. -/
structure Config where
  xel : Xel
  relayServers : List Nat
  after502 : Bytes

def referenceConfig : Config := { xel := .reference, relayServers := [9], after502 := [] }

/-- What a callback of the connection does to the world outside its own fields, in order.
`readOutOfBounds` stands for the undefined behaviour of a read past a buffer. -/
inductive Effect where
  | postData (data : Bytes)
  | kill
  | lingerKill
  | keepAlive
  | removeAccountTimeout
  | requestAuth (userPass : Bytes)
  | postDeviceRequest (request : DeviceRequest)
  | postMessage (server : Nat) (message : PR.Message)
  | runtimeAssertFailed
  | readOutOfBounds
  deriving DecidableEq, Repr

structure Act where
  conn : ClientConnection
  effects : List Effect
  deriving DecidableEq, Repr

/-- The answer to received bytes: how many were consumed, `none` for `InvalidDataSize`. -/
structure Reading where
  conn : ClientConnection
  effects : List Effect
  consumed : Option Nat
  deriving DecidableEq, Repr

/-- The callbacks of a live connection. `pendingWrites` is what `HasPendingWrites` would
answer, and `payloadSize` the size of the packet a pushed payload came in. -/
inductive ConnEvent where
  | data (data : Bytes)
  | peerClose
  | authResult (result : Option AuthResult)
  | deviceSelected (result : AcquireDeviceResp)
  | relayState (notify : PR.ConnectionStateNotify) (pendingWrites : Bool)
  | relayDestroy (pendingWrites : Bool)
  | relayPush (payload : Bytes) (payloadSize : Nat)
  deriving DecidableEq, Repr

end MiniPP.Proxy
