import MiniPP.Xel

/-! The messages between a proxy-access server and a relay (`PR`), between a relay and
a device (`TR`), and of the auth and device-selector services. Messages stand for their
decoded fields; a packet whose payload does not decode carries no message. -/
namespace MiniPP

/-- `STATE_ESTABLISHED`, `STATE_UPDATE_TRANSFER` and `STATE_CLOSED` have one numbering on
both links; 0 is `STATE_UNSEPC`, and the field is 32 bits wide. -/
def stateEstablished : Nat := 1
def stateUpdateTransfer : Nat := 2
def stateClosed : Nat := 3

namespace PR

structure CreateConnection where
  relaySideDeviceId : Nat
  proxySideConnectionId : Nat
  targetAddress : NetAddress
  hostname : Bytes
  hostnamePort : Nat
  deriving DecidableEq, Repr

structure DestroyConnection where
  proxySideConnectionId : Nat
  relaySideConnectionId : Nat
  deriving DecidableEq, Repr

structure ConnectionStateNotify where
  proxySideConnectionId : Nat
  relaySideConnectionId : Nat
  newState : Nat
  totalUploadedBytes : Nat := 0
  totalDumpedBytes : Nat := 0
  deriving DecidableEq, Repr

structure PushData where
  proxySideConnectionId : Nat
  relaySideConnectionId : Nat
  payload : Bytes
  deriving DecidableEq, Repr

def maxPayloadSize : Nat := 4096

/-- A packet on the link, in either direction. -/
inductive Message where
  | challenge
  | challengeResp (accepted : Bool)
  | createConnection (m : CreateConnection)
  | destroyConnection (m : DestroyConnection)
  | notifyConnectionState (m : ConnectionStateNotify)
  | postData (m : PushData)
  deriving DecidableEq, Repr

end PR

namespace TR

structure CreateConnection where
  relaySideConnectionId : Nat
  targetAddress : NetAddress
  deriving DecidableEq, Repr

structure DestroyConnection where
  deviceSideConnectionId : Nat
  relaySideConnectionId : Nat
  deriving DecidableEq, Repr

structure ConnectionStateNotify where
  deviceSideConnectionId : Nat
  relaySideConnectionId : Nat
  newState : Nat
  totalReadBytes : Nat := 0
  totalWrittenBytes : Nat := 0
  deriving DecidableEq, Repr

structure PostData where
  deviceSideConnectionId : Nat
  relaySideConnectionId : Nat
  payload : Bytes
  deriving DecidableEq, Repr

structure DnsQueryResp where
  hostname : Bytes
  primaryIpv4 : NetAddress
  primaryIpv6 : NetAddress
  deriving DecidableEq, Repr

structure InitCtrlStream where
  checkKey : Bytes
  ipv4Address : NetAddress
  ipv6Address : NetAddress
  resolved3rdIpv6 : Bool
  deriving DecidableEq, Repr

structure InitCtrlStreamResp where
  deviceId : Nat
  ctrlId : Nat
  deviceKey : Bytes
  enableIpv6 : Bool
  deriving DecidableEq, Repr

structure InitDataStream where
  ctrlId : Nat
  dataKey : Bytes
  deviceLocalIdString : Bytes
  deriving DecidableEq, Repr

/-- A packet to a device. A DNS query carries the connection's id as its request id. -/
inductive Message where
  | createConnection (m : CreateConnection)
  | destroyConnection (m : DestroyConnection)
  | proxyClientNotify (m : ConnectionStateNotify)
  | postData (m : PostData)
  | dnsQuery (requestId : Nat) (hostname : Bytes)
  | initCtrlStreamResp (requestId : Nat) (m : InitCtrlStreamResp)
  | initDataStreamResp (requestId : Nat) (accepted : Bool)
  deriving DecidableEq, Repr

/-- The id by which the device is to know the connection. -/
def Message.deviceSideId : Message → Option Nat
  | .destroyConnection m => some m.deviceSideConnectionId
  | .proxyClientNotify m => some m.deviceSideConnectionId
  | .postData m => some m.deviceSideConnectionId
  | _ => none

end TR

/-- `xQueryAuthCacheResp`, without the audit id and the token, which nothing here reads. -/
structure QueryAuthCacheResp where
  countryId : Nat
  stateId : Nat
  cityId : Nat
  isBlocked : Bool
  requireIpv6 : Bool
  requireUdp : Bool
  requireRemoteDns : Bool
  autoChangeIp : Bool
  deriving DecidableEq, Repr

/-- `xPP_AcquireDeviceResp`. -/
structure AcquireDeviceResp where
  deviceRelayServerRuntimeId : Nat
  deviceRelaySideId : Nat
  deriving DecidableEq, Repr

end MiniPP
