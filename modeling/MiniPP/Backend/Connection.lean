import MiniPP.Backend.Challenge
import MiniPP.Lib.Machine
import MiniPP.Packets

/-! A connection to the backend: it connects again and again, and carries packets of the
application once its challenge is answered. -/
namespace MiniPP.Backend

open Message

inductive ConnectionState where
  | unspecified | setupReady | connecting | connected | challenging | ready | closing
  deriving DecidableEq, Repr

structure BackendConnection where
  state : ConnectionState := .setupReady
  ticker : Nat := 0
  connectionStartTimestampMS : Nat := 0
  lastRequestKeepAliveTimestampMS : Nat := 0
  lastKeepAliveTimestampMS : Nat := 0
  appKey : Bytes
  appSecret : Bytes
  deriving DecidableEq, Repr

/-- What an override of `OnConnectionReady` or of `OnBackendPacket` does: it posts data, and
accepts or not. -/
structure Override where
  posts : List Bytes := []
  accepts : Bool := true
  deriving DecidableEq, Repr

/-- The answers of the overrides that are called while data is handled come with the data. -/
inductive BackendEvent where
  | tick (nowMS : Nat) (initialised : Bool)
  | connected (timestampMS : Nat)
  | peerClose
  | data (data : Bytes) (overrides : List Override)
  | postData (data : Bytes)
  | postMessage (buffer : Bytes)
  deriving DecidableEq, Repr

/-- `posted` is data of the application on its way to the TCP connection, and `taken` what
`OnData` returns; no size is `InvalidDataSize`. -/
inductive BackendAction where
  | cleaned
  | initialised (accepted : Bool)
  | requestKeepAlive
  | connected
  | challenge (m : BackendChallenge)
  | received (commandId requestId : Nat) (payload : Bytes)
  | ready
  | backendPacket (commandId requestId : Nat) (payload : Bytes)
  | posted (data : Bytes)
  | taken (size : Option Nat)
  deriving DecidableEq, Repr

def minRequestKeepAliveTimeoutMS : Nat := 60000
def minKeepAliveTimeoutMS : Nat := minRequestKeepAliveTimeoutMS + 5000
def minConnectionTimeoutMS : Nat := 5000
def minReconnectTimeoutMS : Nat := 3000

/-- The difference of two 64-bit unsigned integers, seen as signed. -/
def signedDiff (a b : Nat) : Int :=
  if sub64 a b < 2^63 then (sub64 a b : Int) else (sub64 a b : Int) - 2^64

namespace BackendConnection

/-! ## Ticks -/

def checkAndReconnect (c : BackendConnection) (initialised : Bool) : BackendConnection × List BackendAction :=
  let (c,cleaned) := if c.state = .closing then ({ c with state := .setupReady },[.cleaned]) else (c,[])
  if c.state = .setupReady then
    if signedDiff c.ticker c.connectionStartTimestampMS < minReconnectTimeoutMS then (c,cleaned)
    else
      let c := { c with
        lastRequestKeepAliveTimestampMS := 0
        lastKeepAliveTimestampMS := 0
        connectionStartTimestampMS := c.ticker }
      (if initialised then { c with state := .connecting } else c,cleaned ++ [.initialised initialised])
  else (c,cleaned)

def onTick (c : BackendConnection) (initialised : Bool) : BackendConnection × List BackendAction :=
  if c.state = .ready then
    if minKeepAliveTimeoutMS ≤ sub64 c.ticker c.lastKeepAliveTimestampMS then
      ({ c with state := .closing }).checkAndReconnect initialised
    else if minRequestKeepAliveTimeoutMS ≤ sub64 c.ticker c.lastRequestKeepAliveTimestampMS then
      ({ c with lastRequestKeepAliveTimestampMS := c.ticker },[.requestKeepAlive])
    else (c,[])
  else
    let opening := c.state = .connecting ∨ c.state = .connected ∨ c.state = .challenging
    let c :=
      if opening ∧ minConnectionTimeoutMS ≤ sub64 c.ticker c.connectionStartTimestampMS then
        { c with state := .closing }
      else c
    c.checkAndReconnect initialised

/-! ## Packets -/

/-- The challenge goes out with the connection still `Connected`. -/
def onConnected (x : Library) (c : BackendConnection) (timestampMS : Nat) :
    BackendConnection × List BackendAction :=
  ({ c with state := .challenging },
    [.connected,.challenge (.make x c.appKey c.appSecret timestampMS)])

def onPeerClose (c : BackendConnection) : BackendConnection := { c with state := .closing }

def postData (c : BackendConnection) (data : Bytes) : List BackendAction :=
  if c.state = .ready then [.posted data] else []

def postMessage (c : BackendConnection) (buffer : Bytes) : List BackendAction :=
  if buffer.length = 0 then [] else c.postData buffer

/-- The connection, what it did, and whether the packet was accepted. -/
structure Handled where
  connection : BackendConnection
  actions : List BackendAction
  accepted : Bool

def overridden (c : BackendConnection) (o : Override) : Handled :=
  ⟨c,o.posts.flatMap c.postData,o.accepts⟩

/-- The error code is not looked at. -/
def onCmdBackendChallengeResp (x : Library) (c : BackendConnection) (payload : Bytes) (o : Override) : Handled :=
  if c.state ≠ .challenging then ⟨c,[],false⟩
  else
    match BackendChallengeResp.deserialize x.messages payload with
    | none => ⟨c,[],false⟩
    | some _ =>
      let c := { c with
        state := .ready
        lastRequestKeepAliveTimestampMS := c.ticker
        lastKeepAliveTimestampMS := c.ticker }
      let handled := c.overridden o
      { handled with actions := .ready :: handled.actions }

def onPacket (x : Library) (c : BackendConnection) (commandId requestId : Nat) (payload : Bytes) (o : Override) :
    Handled :=
  let handled :=
    if c.state = .ready then
      let handled := c.overridden o
      { handled with actions := .backendPacket commandId requestId payload :: handled.actions }
    else if commandId ≠ cmdBackendChallengeResp then ⟨c,[],false⟩
    else c.onCmdBackendChallengeResp x payload o
  { handled with actions := .received commandId requestId payload :: handled.actions }

/-- The connection, what it did, and how much data it took. -/
structure Looped where
  connection : BackendConnection
  actions : List BackendAction
  size : Option Nat

/-- The loop of `OnData`. There are no more turns than bytes, as no packet is empty. -/
def onDataLoop (x : Library) (f : PacketFormat) : Nat → BackendConnection → Bytes → List Override → Looped
  | 0, c, _, _ => ⟨c,[],some 0⟩
  | fuel + 1, c, data, overrides =>
    match Framing.front f.framing data with
    | .invalid => ⟨c,[],none⟩
    | .incomplete => ⟨c,[],some 0⟩
    | .packet header payload =>
      let behind := data.drop header.packetSize
      if header.isKeepAlive then
        let looped := onDataLoop x f fuel { c with lastKeepAliveTimestampMS := c.ticker } behind overrides
        { looped with size := looped.size.map (header.packetSize + ·) }
      else
        let handled := c.onPacket x header.commandId header.requestId payload (overrides.headD {})
        if handled.accepted then
          let looped := onDataLoop x f fuel handled.connection behind overrides.tail
          ⟨looped.connection,handled.actions ++ looped.actions,looped.size.map (header.packetSize + ·)⟩
        else ⟨handled.connection,handled.actions,none⟩

def onData (x : Library) (f : PacketFormat) (c : BackendConnection) (data : Bytes) (overrides : List Override) :
    BackendConnection × List BackendAction :=
  let looped := onDataLoop x f data.length c data overrides
  (looped.connection,looped.actions ++ [.taken looped.size])

/-! ## Events -/

def step (x : Library) (f : PacketFormat) (c : BackendConnection) :
    BackendEvent → BackendConnection × List BackendAction
  | .tick nowMS initialised => ({ c with ticker := nowMS }).onTick initialised
  | .connected timestampMS => c.onConnected x timestampMS
  | .peerClose => (c.onPeerClose,[])
  | .data data overrides => c.onData x f data overrides
  | .postData data => (c,c.postData data)
  | .postMessage buffer => (c,c.postMessage buffer)

end BackendConnection

def backendMachine (x : Library) (f : PacketFormat) : Machine BackendConnection BackendEvent BackendAction where
  start c := ∃ ticker appKey appSecret, c = { ticker, appKey, appSecret }
  step := BackendConnection.step x f

end MiniPP.Backend
