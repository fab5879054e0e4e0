import MiniPP.Proxy.Challenge

/-! The callbacks of a client connection once its target is known: the answers of the
auth cache and of the device selector, the relay's packets, and the upload of data. -/
namespace MiniPP.Proxy

def readOverflowSize : Nat := 1000
def writeOverflowSize : Nat := 1000

/-- The differences are taken between 64-bit counters. -/
def tryUpdateDataTransferSize (cfg : Config) (c : ClientConnection)
    (uploadSizeIncrement dumpedSizeIncrement : Nat) : Act :=
  let c := { c with
    totalUploadDataSize := (c.totalUploadDataSize + uploadSizeIncrement) % 2^64
    totalDumpedDataSize := (c.totalDumpedDataSize + dumpedSizeIncrement) % 2^64 }
  let uploadDiff := sub64 c.totalUploadDataSize c.totalReportedUploadDataSize
  let dumpedDiff := sub64 c.totalDumpedDataSize c.totalReportedDumpedDataSize
  if uploadDiff < readOverflowSize ∧ dumpedDiff < writeOverflowSize then ⟨c,[]⟩
  else if c.relayConnectionId ∈ cfg.relayServers then
    ⟨{ c with
        totalReportedUploadDataSize := c.totalUploadDataSize
        totalReportedDumpedDataSize := c.totalDumpedDataSize },
      [.postMessage c.relayConnectionId (.notifyConnectionState
        { proxySideConnectionId := c.connectionId
          relaySideConnectionId := c.relaySideConnectionId
          newState := stateUpdateTransfer
          totalUploadedBytes := c.totalUploadDataSize
          totalDumpedBytes := c.totalDumpedDataSize })]⟩
  else ⟨c,[.kill]⟩

/-- The payloads of the loop over `RemainSize`, with fuel for one turn a byte. -/
def payloads : Nat → Bytes → List Bytes
  | 0, _ => []
  | fuel + 1, data =>
    if data = [] then []
    else data.take PR.maxPayloadSize :: payloads fuel (data.drop PR.maxPayloadSize)

def onUploadData (cfg : Config) (c : ClientConnection) (data : Bytes) : Reading :=
  if c.relayConnectionId ∈ cfg.relayServers then
    let pushes := (payloads data.length data).map (fun payload =>
      Effect.postMessage c.relayConnectionId (.postData
        { proxySideConnectionId := c.connectionId
          relaySideConnectionId := c.relaySideConnectionId
          payload := payload }))
    let updated := tryUpdateDataTransferSize cfg c data.length 0
    ⟨updated.conn,pushes ++ updated.effects ++ [.keepAlive],some data.length⟩
  else ⟨c,[],none⟩

def onS5UploadData := onUploadData
def onHttpRawUploadData := onUploadData
def onHttpNormalUploadData := onUploadData

/-- What the three callbacks for a finished authentication share: what is sent and how the
connection is closed without a verdict, and the phase that waits for a device. -/
def onAuthFinished (failure : Bytes) (close : Effect) (next : Phase) (c : ClientConnection)
    (result : Option AuthResult) : Act :=
  match result with
  | none => ⟨c,[.postData failure,close]⟩
  | some verdict =>
    ⟨{ c with phase := next },
      [.removeAccountTimeout,.keepAlive,.postDeviceRequest
        { clientConnectionId := c.connectionId
          countryId := verdict.countryId
          stateId := verdict.stateId
          cityId := verdict.cityId }]⟩

def onS5ClientAuthFinished := onAuthFinished [0x01,0x01] .lingerKill .s5WaitForDeviceSelection
def onHttpRawAuthFinished := onAuthFinished http407Response .kill .httpRawWaitForDeviceSelection
def onHttpNormalAuthFinished :=
  onAuthFinished http407Response .kill .httpNormalWaitForDeviceSelection

def onAuthResult (c : ClientConnection) (result : Option AuthResult) : Act :=
  match c.phase with
  | .s5WaitForAccountExchange => onS5ClientAuthFinished c result
  | .httpRawWaitForAccountExchange => onHttpRawAuthFinished c result
  | .httpNormalWaitForAccountExchange => onHttpNormalAuthFinished c result
  | _ => ⟨c,[.kill]⟩

/-- The address an HTTP client's target host and port stand for. -/
def targetAddress (cfg : Config) (http : Http) : NetAddress :=
  { cfg.xel.parseAddress http.targetHost with port := http.targetPort }

def useDevice (c : ClientConnection) (result : AcquireDeviceResp) : ClientConnection :=
  { c with
    relayConnectionId := result.deviceRelayServerRuntimeId
    relaySideDeviceId := result.deviceRelaySideId }

def onDeviceSelected (cfg : Config) (c : ClientConnection) (result : AcquireDeviceResp) : Act :=
  match c.phase with
  | .s5WaitForDeviceSelection =>
    if result.deviceRelaySideId = 0 then ⟨c,[.postData [0x01,0x01],.kill]⟩
    else ⟨{ useDevice c result with phase := .s5WaitForConnectionRequest },[.postData [0x01,0x00]]⟩
  | .httpRawWaitForDeviceSelection | .httpNormalWaitForDeviceSelection =>
    onOpenRemoteConnection cfg (useDevice c result) (targetAddress cfg c.http) c.http.targetHost
  | _ => ⟨c,[.kill]⟩

/-- `Kill`, or `LingerKill` while bytes are still to be written. -/
def killWhenWritten (pendingWrites : Bool) : Effect := if pendingWrites then .lingerKill else .kill

def s5Reply (status : UInt8) : Bytes := [0x05,status,0x00,0x01,0,0,0,0,0,0]

def http200Response : Bytes := ascii
  "HTTP/1.1 200 Connection established\r\nProxy-agent: proxy / 1.0\r\n\r\n"

/-- The text of the reply, its zero byte, and what follows in memory up to 64 bytes. -/
def http502Response (cfg : Config) : Bytes :=
  (ascii "HTTP/1.1 502 Bad Gateway\r\nProxy-agent: proxy / 1.0\r\n\r\n" ++ 0 :: cfg.after502).take 64

def onRelaySideConnectionStateChange (cfg : Config) (c : ClientConnection)
    (n : PR.ConnectionStateNotify) (pendingWrites : Bool) : Act :=
  match c.phase with
  | .s5WaitForConnectionEstablish =>
    if n.newState = stateEstablished then
      ⟨{ c with
          relaySideConnectionId := n.relaySideConnectionId
          phase := .s5ConnectionReady },[.postData (s5Reply 0x00)]⟩
    else ⟨c,[.runtimeAssertFailed]⟩
  | .s5ConnectionReady =>
    if n.newState = stateClosed then
      ⟨{ c with phase := .s5WaitForConnectionClosed },[killWhenWritten pendingWrites]⟩
    else ⟨c,[]⟩
  | .httpRawWaitForConnectionEstablish =>
    if n.newState = stateEstablished then
      ⟨{ c with
          readingSuspended := false
          relaySideConnectionId := n.relaySideConnectionId
          phase := .httpRawReady },[.postData http200Response]⟩
    else ⟨c,[.runtimeAssertFailed]⟩
  | .httpNormalWaitForConnectionEstablish =>
    if n.newState = stateEstablished then
      let c := { c with
        readingSuspended := false
        relaySideConnectionId := n.relaySideConnectionId
        phase := .httpNormalReady }
      let upload := onHttpNormalUploadData cfg c c.http.rebuiltHttpHeader
      ⟨upload.conn,upload.effects⟩
    else ⟨c,[.runtimeAssertFailed]⟩
  | _ => ⟨c,[]⟩

def onDestroyConnection (cfg : Config) (c : ClientConnection) (pendingWrites : Bool) : Act :=
  match c.phase with
  | .s5WaitForConnectionEstablish =>
    ⟨{ c with phase := .s5WaitForConnectionClosed },[.postData (s5Reply 0x03),.lingerKill]⟩
  | .s5ConnectionReady =>
    ⟨{ c with phase := .s5WaitForConnectionClosed },[killWhenWritten pendingWrites]⟩
  | .httpRawWaitForConnectionEstablish =>
    ⟨{ c with phase := .httpRawClosed },[.postData (http502Response cfg),.lingerKill]⟩
  | .httpRawReady => ⟨{ c with phase := .httpRawClosed },[killWhenWritten pendingWrites]⟩
  | .httpNormalReady => ⟨{ c with phase := .httpNormalClosed },[killWhenWritten pendingWrites]⟩
  | .httpNormalWaitForConnectionEstablish =>
    ⟨{ c with phase := .httpNormalClosed },[.postData (http502Response cfg),.lingerKill]⟩
  | _ => ⟨c,[.kill]⟩

def onRelaySidePushData (cfg : Config) (c : ClientConnection) (payload : Bytes)
    (payloadSize : Nat) : Act :=
  let updated := tryUpdateDataTransferSize cfg c 0 payloadSize
  ⟨updated.conn,[.keepAlive,.postData payload] ++ updated.effects⟩

def onPeerClose (c : ClientConnection) : Act :=
  match c.phase with
  | .s5ConnectionReady => ⟨{ c with phase := .s5WaitForConnectionClosed },[.kill]⟩
  | _ => ⟨c,[.kill]⟩

def onData (cfg : Config) (c : ClientConnection) (data : Bytes) : Reading :=
  match c.phase with
  | .unknown => onChallenge c data
  | .s5WaitForAuthInfo => onS5ClientAuth c data
  | .s5WaitForConnectionRequest => onS5ConnectionRequest cfg c data
  | .s5ConnectionReady => onS5UploadData cfg c data
  | .httpRawChallenge => onHttpRawChallenge cfg c data
  | .httpRawReady => onHttpRawUploadData cfg c data
  | .httpNormalChallenge => onHttpNormalChallenge cfg c data
  | .httpNormalReady => onHttpNormalUploadData cfg c data
  | _ => ⟨c,[.kill],some 0⟩

/-- `InvalidDataSize` makes the connection's I/O layer report a closed peer. -/
def handle (cfg : Config) (c : ClientConnection) : ConnEvent → Act
  | .data data =>
    let reading := onData cfg c data
    ⟨reading.conn,reading.effects⟩
  | .peerClose => onPeerClose c
  | .authResult result => onAuthResult c result
  | .deviceSelected result => onDeviceSelected cfg c result
  | .relayState notify pendingWrites => onRelaySideConnectionStateChange cfg c notify pendingWrites
  | .relayDestroy pendingWrites => onDestroyConnection cfg c pendingWrites
  | .relayPush payload payloadSize => onRelaySidePushData cfg c payload payloadSize

/-- Every payload of an upload fits in a packet. -/
theorem length_payloads (fuel : Nat) (data payload : Bytes) (member : payload ∈ payloads fuel data) :
    payload.length ≤ PR.maxPayloadSize := by
  induction fuel generalizing data with
  | zero => simp [payloads] at member
  | succ fuel ih =>
    simp only [payloads] at member
    split at member
    · simp at member
    · rcases List.mem_cons.mp member with rfl | later
      · exact List.length_take_le _ _
      · exact ih _ later

/-- The payloads of an upload carry its bytes, each once and in order. -/
theorem flatten_payloads (fuel : Nat) (data : Bytes) (enough : data.length ≤ fuel) :
    (payloads fuel data).flatten = data := by
  induction fuel generalizing data with
  | zero =>
    have : data = [] := List.length_eq_zero_iff.mp (by omega)
    simp [payloads,this]
  | succ fuel ih =>
    simp only [payloads]
    split
    · rename_i empty; simp [empty]
    · rename_i some_
      have positive := List.length_pos_iff.mpr some_
      have shorter : (data.drop PR.maxPayloadSize).length ≤ fuel := by
        rw [List.length_drop]
        simp only [PR.maxPayloadSize]
        omega
      rw [List.flatten_cons,ih _ shorter,List.take_append_drop]

end MiniPP.Proxy
