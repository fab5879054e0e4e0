import MiniPP.Lib.Machine
import MiniPP.Relay.Managers

/-! The relay server: what it does with the packets of devices and of proxy-access
servers, with closed peers and with time. A handler's `false` makes `OnData` answer
`InvalidDataSize`, which is logged; whether the peer is then reported closed is left to
the events. -/
namespace MiniPP.Relay

structure Config where
  xel : Xel
  serverRuntimeId : Nat

structure DeviceRelayService (keys : Keys) where
  deviceConnectionManager : DeviceConnectionManager keys.deviceConnection
  deviceManager : DeviceManager keys.device
  proxyConnectionManager : ProxyConnectionManager keys.proxyConnection
  relayConnectionManager : RelayConnectionManager keys.relayConnection

/-- `useAfterFree` and `nullConnection` stand for a message posted through a pointer to
a destroyed connection, and through a null pointer. -/
inductive RelayAction where
  | toDevice (c : Nat) (m : TR.Message)
  | toProxy (p : Nat) (m : PR.Message)
  | useAfterFree (c : Nat) (m : TR.Message)
  | nullConnection (m : TR.Message)
  | keepAliveToDevice (c : Nat)
  | keepAliveToProxy (p : Nat)
  | report (r : DeviceInfoUpdate)
  | acceptedDevice (c : Nat) (type : DeviceConnectionType)
  | acceptedProxy (p : Nat)
  | invalidDeviceData (c : Nat)
  | invalidProxyData (p : Nat)
  | destroyedDevice (c : Nat)
  | destroyedProxy (p : Nat)
  deriving DecidableEq, Repr

/-- A packet of a device; its message is absent when the payload does not decode. -/
inductive DevicePacket where
  | keepAlive
  | initCtrlStream (requestId : Nat) (m : Option TR.InitCtrlStream)
  | dnsQueryResp (requestId : Nat) (m : Option TR.DnsQueryResp)
  | initDataStream (requestId : Nat) (m : Option TR.InitDataStream)
  | notifyConnectionState (m : Option TR.ConnectionStateNotify)
  | postData (m : Option TR.PostData)
  | other
  deriving DecidableEq, Repr

/-- A packet of a proxy-access server, with no message when its command is not known or its
payload does not decode. -/
inductive ProxyPacket where
  | keepAlive
  | message (m : Option PR.Message)
  deriving DecidableEq, Repr

inductive RelayEvent where
  | newDeviceConnection (type : DeviceConnectionType)
  | newProxyConnection
  | devicePacket (c : Nat) (packet : DevicePacket)
  | proxyPacket (p : Nat) (packet : ProxyPacket)
  | devicePeerClose (c : Nat)
  | proxyPeerClose (p : Nat)
  | deviceConnectionTick (nowMS : Nat)
  | proxyConnectionTick (nowMS : Nat)
  deriving DecidableEq, Repr

/-- What a packet handler leaves behind, and the value it returns. -/
structure Handled (keys : Keys) where
  relay : DeviceRelayService keys
  actions : List RelayAction
  accepted : Bool

namespace DeviceRelayService

variable {keys : Keys}

def init (keys : Keys) (ticker maxDeviceConnections maxDevices maxProxyConnections
    maxRelayConnections : Nat) : DeviceRelayService keys where
  deviceConnectionManager := .init _ _ ticker maxDeviceConnections
  deviceManager := .init _ maxDevices
  proxyConnectionManager := .init _ _ ticker maxProxyConnections
  relayConnectionManager := .init _ maxRelayConnections

/-- `PostMessage` on a device's connection, through the pointer that the device holds. -/
def post (s : DeviceRelayService keys) (connection : Option Nat) (m : TR.Message) : List RelayAction :=
  match connection with
  | none => [.nullConnection m]
  | some c =>
    match s.deviceConnectionManager.getConnectionById c with
    | none => [.useAfterFree c m]
    | some _ => [.toDevice c m]

/-! ## Ctrl connections -/

def onTerminalInitCtrlStream (cfg : Config) (s : DeviceRelayService keys) (c requestId : Nat) :
    Option TR.InitCtrlStream → Handled keys
  | none => ⟨s,[],false⟩
  | some m =>
    ⟨{ s with deviceConnectionManager := s.deviceConnectionManager.keepAlive c },
      [.toDevice c (.initCtrlStreamResp requestId
        { deviceId := 0
          ctrlId := c
          deviceKey := m.checkKey
          enableIpv6 := m.resolved3rdIpv6 || cfg.xel.isSet m.ipv6Address })],true⟩

/-- An address is usable if it is set and its first byte is not zero. -/
def usable (cfg : Config) (address : NetAddress) : Bool :=
  cfg.xel.isSet address && address.bytes.getD 0 0 != 0

/-- The address that a DNS answer gives to its connection, before the port is set. -/
def selectAddress (cfg : Config) (m : TR.DnsQueryResp) : Option NetAddress :=
  if usable cfg m.primaryIpv6 then some m.primaryIpv6
  else if usable cfg m.primaryIpv4 then some m.primaryIpv4
  else none

def onTerminalDnsQueryResp (cfg : Config) (s : DeviceRelayService keys) (c requestId : Nat) :
    Option TR.DnsQueryResp → Handled keys
  | none => ⟨s,[],false⟩
  | some m =>
    match s.relayConnectionManager.getConnectionById requestId with
    | none => ⟨s,[],true⟩
    | some rcc =>
      match selectAddress cfg m with
      | none => ⟨s,[],true⟩
      | some address =>
        ⟨s,[.toDevice c (.createConnection
          { relaySideConnectionId := rcc.relaySideConnectionId
            targetAddress := { address with port := rcc.targetPort } })],true⟩

def onCtrlPacket (cfg : Config) (s : DeviceRelayService keys) (c : Nat) : DevicePacket → Handled keys
  | .initCtrlStream requestId m => s.onTerminalInitCtrlStream cfg c requestId m
  | .dnsQueryResp requestId m => s.onTerminalDnsQueryResp cfg c requestId m
  | _ => ⟨s,[],false⟩

/-! ## Data connections -/

/-- The location of a device is read from the second half of its data key. -/
def geoInfo (cfg : Config) (rawGeo : Bytes) : GeoInfo where
  countryId := cfg.xel.r4 rawGeo
  stateId := cfg.xel.r4 (rawGeo.drop 4)
  cityId := cfg.xel.r4 (rawGeo.drop 8)

/-- The checks of the data key: two halves, the second of 24 characters. -/
def geoSegment (cfg : Config) (dataKey : Bytes) : Option Bytes :=
  match cfg.xel.split dataKey [colon] with
  | [_,segment] => if segment.length = 24 then some segment else none
  | _ => none

def onTerminalInitDataStream (cfg : Config) (s : DeviceRelayService keys) (c requestId : Nat) :
    Option TR.InitDataStream → Handled keys
  | none => ⟨s,[],false⟩
  | some m =>
    match s.deviceConnectionManager.getConnectionById m.ctrlId with
    | none => ⟨s,[],false⟩
    | some ctrlConn =>
      if ctrlConn.deviceId ≠ 0 then ⟨s,[],false⟩
      else
        match s.deviceManager.newDevice with
        | none =>
          ⟨{ s with deviceConnectionManager := s.deviceConnectionManager.deferReleaseConnection m.ctrlId },
            [],false⟩
        | some (id,deviceManager) =>
          match geoSegment cfg m.dataKey with
          -- The new device stays in the pool, with no connections.
          | none => ⟨{ s with deviceManager },[],false⟩
          | some segment =>
            let device : Device :=
              { deviceRuntimeId := id
                ctrlConnection := some m.ctrlId
                dataConnection := some c
                deviceLocalIdString := m.deviceLocalIdString
                geoInfo := geoInfo cfg (cfg.xel.hexToStr segment) }
            ⟨{ s with
                deviceConnectionManager :=
                  ((s.deviceConnectionManager.setDeviceId c id).setDeviceId m.ctrlId id).keepAlive c
                deviceManager := deviceManager.update id (fun _ => device) },
              [.toDevice c (.initDataStreamResp requestId true),
                .report (device.report cfg.serverRuntimeId false)],true⟩

/-- The state as the proxy is told it; none for a state that is not recognised. -/
def proxyState (newState : Nat) : Option Nat :=
  if newState = stateEstablished then some stateEstablished
  else if newState = stateUpdateTransfer then some stateUpdateTransfer
  else if newState = stateClosed then some stateClosed
  else none

def onTerminalTargetConnectionUpdate (s : DeviceRelayService keys) :
    Option TR.ConnectionStateNotify → Handled keys
  | none => ⟨s,[],false⟩
  | some m =>
    match s.relayConnectionManager.getConnectionById m.relaySideConnectionId with
    | none => ⟨s,[],true⟩
    | some cr =>
      if cr.relaySideConnectionId ≠ m.relaySideConnectionId then ⟨s,[],true⟩
      else
        let s :=
          if m.newState = stateEstablished then
            { s with
              relayConnectionManager := s.relayConnectionManager.setDeviceSideConnectionId
                m.relaySideConnectionId m.deviceSideConnectionId }
          else s
        match proxyState m.newState with
        | none => ⟨s,[],false⟩
        | some newState =>
          match s.proxyConnectionManager.getConnectionById cr.proxyConnectionId with
          | none => ⟨s,[],true⟩
          | some _ =>
            ⟨s,[.toProxy cr.proxyConnectionId (.notifyConnectionState
              { proxySideConnectionId := cr.proxySideConnectionId
                relaySideConnectionId := cr.relaySideConnectionId
                newState := newState })],true⟩

def onTerminalPostData (s : DeviceRelayService keys) : Option TR.PostData → Handled keys
  | none => ⟨s,[],false⟩
  | some m =>
    match s.relayConnectionManager.getConnectionById m.relaySideConnectionId with
    | none => ⟨s,[],true⟩
    | some cr =>
      if cr.relaySideConnectionId ≠ m.relaySideConnectionId then ⟨s,[],true⟩
      else
        match s.proxyConnectionManager.getConnectionById cr.proxyConnectionId with
        | none => ⟨s,[],true⟩
        | some _ =>
          ⟨s,[.toProxy cr.proxyConnectionId (.postData
            { proxySideConnectionId := cr.proxySideConnectionId
              relaySideConnectionId := cr.relaySideConnectionId
              payload := m.payload })],true⟩

def onDataPacket (cfg : Config) (s : DeviceRelayService keys) (c : Nat) : DevicePacket → Handled keys
  | .initDataStream requestId m => s.onTerminalInitDataStream cfg c requestId m
  | .notifyConnectionState m => s.onTerminalTargetConnectionUpdate m
  | .postData m => s.onTerminalPostData m
  | _ => ⟨s,[],false⟩

/-! ## Connections of proxy-access servers -/

def onProxyChallenge (s : DeviceRelayService keys) (p : Nat) : Handled keys :=
  ⟨{ s with
      proxyConnectionManager := (s.proxyConnectionManager.setChallengeReady p).keepAlive p },
    [.toProxy p (.challengeResp true)],true⟩

/-- The fields of a new context. -/
def fillContext (d : Device) (p : Nat) (m : PR.CreateConnection) (rcc : RelayConnectionContext) :
    RelayConnectionContext :=
  { rcc with
    deviceId := d.deviceRuntimeId
    proxyConnectionId := p
    proxySideConnectionId := m.proxySideConnectionId }.setTargetPort m.hostnamePort

def onProxyCreateConnection (cfg : Config) (s : DeviceRelayService keys) (p : Nat) (m : PR.CreateConnection) :
    Handled keys :=
  match s.deviceManager.getDeviceById m.relaySideDeviceId with
  | none =>
    ⟨s,[.toProxy p (.destroyConnection
      { proxySideConnectionId := m.proxySideConnectionId, relaySideConnectionId := 0 })],true⟩
  | some d =>
    match s.relayConnectionManager.create (fillContext d p m) with
    | none =>
      ⟨s,[.toProxy p (.notifyConnectionState
        { proxySideConnectionId := m.proxySideConnectionId
          relaySideConnectionId := 0
          newState := stateClosed })],true⟩
    | some (id,relayConnectionManager) =>
      let s := { s with relayConnectionManager }
      if cfg.xel.isSet m.targetAddress then
        ⟨s,s.post d.ctrlConnection (.createConnection
          { relaySideConnectionId := id, targetAddress := m.targetAddress }),true⟩
      else if m.hostname.length ≠ 0 then
        ⟨s,s.post d.ctrlConnection (.dnsQuery id m.hostname),true⟩
      else ⟨s,[],false⟩

def onProxyDestroyConnection (s : DeviceRelayService keys) (m : PR.DestroyConnection) : Handled keys :=
  match s.relayConnectionManager.getConnectionById m.relaySideConnectionId with
  | none => ⟨s,[],true⟩
  | some rc =>
    match s.deviceManager.getDeviceById rc.deviceId with
    | none => ⟨s,[],true⟩
    | some d =>
      ⟨s,s.post d.dataConnection (.destroyConnection
        { deviceSideConnectionId := rc.deviceSideConnectionId
          relaySideConnectionId := rc.relaySideConnectionId }),true⟩

def onProxyPushData (s : DeviceRelayService keys) (m : PR.PushData) : Handled keys :=
  match s.relayConnectionManager.getConnectionById m.relaySideConnectionId with
  | none => ⟨s,[],true⟩
  | some rc =>
    if rc.proxySideConnectionId ≠ m.proxySideConnectionId then ⟨s,[],true⟩
    else
      match s.deviceManager.getDeviceById rc.deviceId with
      | none => ⟨s,[],true⟩
      | some d =>
        ⟨s,s.post d.dataConnection (.postData
          { deviceSideConnectionId := rc.deviceSideConnectionId
            relaySideConnectionId := rc.relaySideConnectionId
            payload := m.payload }),true⟩

def onProxyNotifyConnectionState (s : DeviceRelayService keys) (m : PR.ConnectionStateNotify) : Handled keys :=
  match s.relayConnectionManager.getConnectionById m.relaySideConnectionId with
  | none => ⟨s,[],true⟩
  | some rcp =>
    match s.deviceManager.getDeviceById rcp.deviceId with
    | none => ⟨s,[],true⟩
    | some d =>
      ⟨s,s.post d.dataConnection (.proxyClientNotify
        { deviceSideConnectionId := rcp.deviceSideConnectionId
          relaySideConnectionId := rcp.relaySideConnectionId
          newState := stateUpdateTransfer
          totalReadBytes := m.totalDumpedBytes
          totalWrittenBytes := m.totalUploadedBytes }),true⟩

def onProxyPacket (cfg : Config) (s : DeviceRelayService keys) (p : Nat) : Option PR.Message → Handled keys
  | some .challenge => s.onProxyChallenge p
  | some (.createConnection m) => s.onProxyCreateConnection cfg p m
  | some (.destroyConnection m) => s.onProxyDestroyConnection m
  | some (.postData m) => s.onProxyPushData m
  | some (.notifyConnectionState m) => s.onProxyNotifyConnectionState m
  | some (.challengeResp _) | none => ⟨s,[],false⟩

/-! ## Events -/

/-- A state report of the device, deleted or not. -/
def reportDeviceOnState (cfg : Config) (s : DeviceRelayService keys) (id : Nat) : List RelayAction :=
  match s.deviceManager.devicePool.find? id with
  | none => []
  | some device => [.report (device.report cfg.serverRuntimeId false)]

def onDeviceKeepAlive (cfg : Config) (s : DeviceRelayService keys) (c : Nat) (conn : DeviceConnection) :
    Handled keys :=
  let reports := match conn.type with
    | .ctrl => s.reportDeviceOnState cfg conn.deviceId
    | .data => []
  ⟨{ s with deviceConnectionManager := s.deviceConnectionManager.keepAlive c },
    .keepAliveToDevice c :: reports,true⟩

def onDevicePacket (cfg : Config) (s : DeviceRelayService keys) (c : Nat) (conn : DeviceConnection) :
    DevicePacket → Handled keys
  | .keepAlive => s.onDeviceKeepAlive cfg c conn
  | packet =>
    match conn.type with
    | .ctrl => s.onCtrlPacket cfg c packet
    | .data => s.onDataPacket cfg c packet

def onProxyData (cfg : Config) (s : DeviceRelayService keys) (p : Nat) : ProxyPacket → Handled keys
  | .keepAlive =>
    ⟨{ s with proxyConnectionManager := s.proxyConnectionManager.keepAlive p },
      [.keepAliveToProxy p],true⟩
  | .message m => s.onProxyPacket cfg p m

def removeDeviceFromConnection (cfg : Config) (s : DeviceRelayService keys) (conn : DeviceConnection) :
    DeviceRelayService keys × List RelayAction :=
  match s.deviceManager.getDeviceById conn.deviceId with
  | none => (s,[])
  | some device =>
    ({ s with deviceManager := s.deviceManager.releaseDevice conn.deviceId },
      [.report (device.report cfg.serverRuntimeId true)])

def onDevicePeerClose (cfg : Config) (s : DeviceRelayService keys) (c : Nat) (conn : DeviceConnection) :
    DeviceRelayService keys × List RelayAction :=
  let (s,actions) := match conn.type with
    | .ctrl => s.removeDeviceFromConnection cfg conn
    | .data => (s,[])
  ({ s with deviceConnectionManager := s.deviceConnectionManager.deferReleaseConnection c },actions)

def step (cfg : Config) (s : DeviceRelayService keys) : RelayEvent → DeviceRelayService keys × List RelayAction
  | .newDeviceConnection type =>
    match s.deviceConnectionManager.acceptConnection type with
    | none => (s,[])
    | some (c,deviceConnectionManager) => ({ s with deviceConnectionManager },[.acceptedDevice c type])
  | .newProxyConnection =>
    match s.proxyConnectionManager.acceptConnection with
    | none => (s,[])
    | some (p,proxyConnectionManager) => ({ s with proxyConnectionManager },[.acceptedProxy p])
  | .devicePacket c packet =>
    match s.deviceConnectionManager.getConnectionById c with
    | none => (s,[])
    | some conn =>
      let handled := s.onDevicePacket cfg c conn packet
      (handled.relay,handled.actions ++ if handled.accepted then [] else [.invalidDeviceData c])
  | .proxyPacket p packet =>
    match s.proxyConnectionManager.getConnectionById p with
    | none => (s,[])
    | some _ =>
      let handled := s.onProxyData cfg p packet
      (handled.relay,handled.actions ++ if handled.accepted then [] else [.invalidProxyData p])
  | .devicePeerClose c =>
    match s.deviceConnectionManager.getConnectionById c with
    | none => (s,[])
    | some conn => s.onDevicePeerClose cfg c conn
  | .proxyPeerClose p =>
    ({ s with proxyConnectionManager := s.proxyConnectionManager.deferReleaseConnection p },[])
  | .deviceConnectionTick nowMS =>
    let m := s.deviceConnectionManager.setTicker nowMS
    ({ s with deviceConnectionManager := DeviceConnectionManager.removeIdleConnections m },
      (DeviceConnectionManager.idleConnections m).map .destroyedDevice)
  | .proxyConnectionTick nowMS =>
    let m := s.proxyConnectionManager.setTicker nowMS
    ({ s with proxyConnectionManager := ProxyConnectionManager.removeIdleConnections m },
      (ProxyConnectionManager.idleConnections m).map .destroyedProxy)

end DeviceRelayService

def relayMachine (cfg : Config) (keys : Keys) : Machine (DeviceRelayService keys) RelayEvent RelayAction where
  start s := ∃ ticker maxDeviceConnections maxDevices maxProxyConnections maxRelayConnections,
    s = .init keys ticker maxDeviceConnections maxDevices maxProxyConnections maxRelayConnections
  step s e := s.step cfg e

/-! ## A small relay -/

def referenceConfig : Config := ⟨.reference,1⟩

abbrev smallRelay : DeviceRelayService .sequential := .init .sequential 1000000 4 4 4 4

abbrev after (es : List RelayEvent) : DeviceRelayService .sequential × List RelayAction :=
  (relayMachine referenceConfig .sequential).run smallRelay es

/-- A device registers: its ctrl connection is 1, its data connection 2, and it is device 1. -/
def registration : List RelayEvent :=
  [.newDeviceConnection .ctrl,
    .devicePacket 1 (.initCtrlStream 1 (some ⟨ascii "key",.unspecified,.unspecified,false⟩)),
    .newDeviceConnection .data,
    .devicePacket 2 (.initDataStream 2 (some ⟨1,ascii "key:000000010000000200000003",ascii "d"⟩))]

/-- A proxy-access server connects, and its client 7 is given device 1. -/
def opening : List RelayEvent :=
  [.newProxyConnection,.proxyPacket 1 (.message (some .challenge)),
    .proxyPacket 1 (.message (some (.createConnection
      { relaySideDeviceId := 1, proxySideConnectionId := 7, targetAddress := .unspecified
        hostname := ascii "h", hostnamePort := 80 })))]

theorem after_reach (es : List RelayEvent) : (relayMachine referenceConfig .sequential).Reach
    Machine.anything (after es).1 (after es).2 := by
  have start : (relayMachine referenceConfig .sequential).start smallRelay := ⟨_,_,_,_,_,rfl⟩
  exact Machine.reach_run start es

end MiniPP.Relay
