import MiniPP.Backend.Connection
import MiniPP.Lib.Machine
import MiniPP.Proxy.RelayConnections

/-! The manager of the links from a proxy-access server to the relays: a group of links for each
relay, a schedule of reconnects and keep-alives, and a pool of ids for the links. -/
namespace MiniPP.RelayLinks

open Backend (signedDiff)
open Proxy (RelayDispatch)

def maxRelayServerCount : Nat := 4000
def maxRelayServerId : Nat := maxRelayServerCount
def connectionCountPerRelayGroup : Nat := 3

def reconnectOrKeepAliveTimeout : Int := 60000
def keepAliveResponseTimeout : Int := reconnectOrKeepAliveTimeout / 3 + reconnectOrKeepAliveTimeout
def maxReconnectOrKeepAliveCheckCount : Nat := 200

/-- `AddRelayGroup` asserts of its caller that the address is set and has a port. -/
structure TargetAddress where
  address : NetAddress
  isSet : address.type ≠ .unspecified
  hasPort : address.port ≠ 0
  deriving DecidableEq

/-- `isOpen` is the library's; it calls back for a connection that was opened, until it is cleaned or
its peer closes. -/
structure RelayConnection where
  lastKeepAliveRequestTimestampMS : Nat := 0
  lastKeepAliveResponseTimestampMS : Nat := 0
  connectionId : Nat := 0
  isOpen : Bool := false
  calledBack : Bool := false
  deriving DecidableEq, Repr

/-- Groups and links are known by their pointers. -/
def groupPtr (rcp : Nat) : Nat := rcp / connectionCountPerRelayGroup

def connectionsOf (gp : Nat) : List Nat :=
  (List.range connectionCountPerRelayGroup).map (connectionCountPerRelayGroup * gp + ·)

theorem mem_connectionsOf {gp rcp : Nat} : rcp ∈ connectionsOf gp ↔ groupPtr rcp = gp := by
  simp only [connectionsOf,connectionCountPerRelayGroup,groupPtr,List.mem_map,List.mem_range]
  constructor
  · rintro ⟨i,small,rfl⟩
    omega
  · rintro rfl
    exact ⟨rcp % 3,Nat.mod_lt _ (by decide),by omega⟩

theorem nodup_connectionsOf (gp : Nat) : (connectionsOf gp).Nodup :=
  List.nodup_range.map (fun _ _ same => Nat.add_left_cancel same)

/-- A link is on one of the two lists. An id stands for the pointer that is stored under it. -/
structure RelayConnectionManager (keys : KeySource) where
  ticker : Nat
  idleList : List Nat
  killList : List Nat
  killGroupList : List Nat
  relayGroupMap : Nat → Option Nat
  connectionIdPool : Storage keys (Option Nat)
  groups : Nat → Option TargetAddress
  connections : Nat → RelayConnection
  allocated : Nat

inductive LinkAction where
  | added (rcp : Nat)
  | init (rcp id : Nat) (target : TargetAddress) (succeeded : Bool)
  | requestKeepAlive (rcp : Nat)
  | requested (rcp : Nat)
  | answered (rcp : Nat)
  | freed (rcp : Nat)
  | retired (id : Nat)
  deriving DecidableEq

namespace RelayConnectionManager

variable {keys : KeySource}

/-- `Init`, at a time of the library's clock. -/
def init (keys : KeySource) (ticker : Nat) : RelayConnectionManager keys where
  ticker := ticker
  idleList := []
  killList := []
  killGroupList := []
  relayGroupMap _ := none
  connectionIdPool := .empty keys _ maxRelayServerId
  groups _ := none
  connections _ := {}
  allocated := 0

def getConnectionById (m : RelayConnectionManager keys) (connectionId : Nat) : Option Nat :=
  (m.connectionIdPool.find? connectionId).getD none

def modify (m : RelayConnectionManager keys) (rcp : Nat) (change : RelayConnection → RelayConnection) :
    RelayConnectionManager keys :=
  { m with connections := Function.update m.connections rcp (change (m.connections rcp)) }

/-! ## Groups -/

def deferKillGroup (m : RelayConnectionManager keys) (gp : Nat) : RelayConnectionManager keys :=
  { m with killGroupList := toTail m.killGroupList gp }

/-- The links of a group are made, or are gone. -/
def blank (m : RelayConnectionManager keys) (gp : Nat) : RelayConnectionManager keys :=
  { m with connections := fun rcp => if groupPtr rcp = gp then {} else m.connections rcp }

/-- `new xPA_RelayGroup`; each of its links goes to the head of the idle list. -/
def newGroup (m : RelayConnectionManager keys) (runtimeServerId : Nat) (target : TargetAddress) :
    RelayConnectionManager keys :=
  let gp := m.allocated
  { m.blank gp with
    idleList := (connectionsOf gp).reverse ++ m.idleList
    relayGroupMap := Function.update m.relayGroupMap runtimeServerId (some gp)
    groups := Function.update m.groups gp (some target)
    allocated := gp + 1 }

/-- The ids of the links that are given up go to the log. -/
def addRelayGroup (m : RelayConnectionManager keys) (runtimeServerId : Nat) (target : TargetAddress) :
    RelayConnectionManager keys × List LinkAction :=
  let added := (connectionsOf m.allocated).map LinkAction.added
  match m.relayGroupMap runtimeServerId with
  | none => (m.newGroup runtimeServerId target,added)
  | some gp =>
    if m.groups gp = some target then (m,[])
    else
      ((m.deferKillGroup gp).newGroup runtimeServerId target,
        (connectionsOf gp).map (fun rcp => .retired (m.connections rcp).connectionId) ++ added)

/-! ## Callbacks -/

def keepAlive (m : RelayConnectionManager keys) (rcp : Nat) : RelayConnectionManager keys :=
  { m.modify rcp (fun rc => { rc with lastKeepAliveResponseTimestampMS := m.ticker }) with
    idleList := toTail m.idleList rcp
    killList := without m.killList rcp }

def deferKillConnection (m : RelayConnectionManager keys) (rcp : Nat) : RelayConnectionManager keys :=
  { m with
    idleList := without m.idleList rcp
    killList := toTail m.killList rcp }

/-- What `OnData` does with a packet; `OnPacket` only logs. -/
def onDispatch (m : RelayConnectionManager keys) :
    RelayDispatch → RelayConnectionManager keys × List LinkAction
  | .keepAlive rcp => (m.keepAlive rcp,[.answered rcp])
  | .packet _ _ _ _ => (m,[])

/-- Whether the connection is still open when its peer has closed is left to the library. -/
def onPeerClose (m : RelayConnectionManager keys) (rcp : Nat) (stillOpen : Bool) : RelayConnectionManager keys :=
  (m.modify rcp (fun rc => { rc with isOpen := stillOpen, calledBack := false })).deferKillConnection rcp

/-! ## Tick -/

def release (m : RelayConnectionManager keys) (id : Nat) : RelayConnectionManager keys :=
  { m with connectionIdPool := m.connectionIdPool.release id }

/-- `Release(Steal(ConnectionId))` and `Clean`. -/
def cleanConnection (m : RelayConnectionManager keys) (rcp : Nat) : RelayConnectionManager keys :=
  (m.release (m.connections rcp).connectionId).modify rcp
    (fun rc => { rc with connectionId := 0, isOpen := false, calledBack := false })

/-- One turn of `DoFreeKillList`. -/
def freeKilled (m : RelayConnectionManager keys) (rcp : Nat) : RelayConnectionManager keys :=
  let m := m.cleanConnection rcp
  { m.modify rcp (fun rc => { rc with lastKeepAliveRequestTimestampMS := m.ticker }) with
    idleList := toTail m.idleList rcp
    killList := without m.killList rcp }

def doFreeKillList (m : RelayConnectionManager keys) : RelayConnectionManager keys × List LinkAction :=
  (m.killList.foldl freeKilled m,
    m.killList.flatMap (fun rcp => [.retired (m.connections rcp).connectionId,.freed rcp]))

/-- The destructors take the links out of their lists. -/
def doFreeGroup (m : RelayConnectionManager keys) (gp : Nat) : RelayConnectionManager keys :=
  let m := (connectionsOf gp).foldl
    (fun m rcp => if (m.connections rcp).isOpen then m.cleanConnection rcp else m) m
  { m.blank gp with
    idleList := m.idleList.filter (fun rcp => groupPtr rcp != gp)
    killList := m.killList.filter (fun rcp => groupPtr rcp != gp)
    groups := Function.update m.groups gp none }

def doFreeKillGroupList (m : RelayConnectionManager keys) : RelayConnectionManager keys :=
  { m.killGroupList.foldl doFreeGroup m with killGroupList := [] }

/-- The link is asked again, or connected again, for so long not. -/
def Due (nowMS timestampMS : Nat) : Prop := reconnectOrKeepAliveTimeout ≤ signedDiff nowMS timestampMS

instance decidableDue (nowMS timestampMS : Nat) : Decidable (Due nowMS timestampMS) :=
  inferInstanceAs (Decidable (_ ≤ _))

def isDue (m : RelayConnectionManager keys) (nowMS rcp : Nat) : Bool :=
  Due nowMS (m.connections rcp).lastKeepAliveRequestTimestampMS

/-- `Acquire` stores no pointer; it gives 0 if every id is in use. -/
def acquire (m : RelayConnectionManager keys) (rcp : Nat) : RelayConnectionManager keys :=
  match m.connectionIdPool.acquire (fun _ => none) with
  | none => m.modify rcp (fun rc => { rc with connectionId := 0 })
  | some (id,connectionIdPool) =>
    { m.modify rcp (fun rc => { rc with connectionId := id }) with connectionIdPool }

/-- The links of `refused` fail to connect. -/
def reconnect (m : RelayConnectionManager keys) (refused : List Nat) (rcp : Nat) : RelayConnectionManager keys :=
  (m.acquire rcp).modify rcp (fun rc =>
    { rc with isOpen := decide (rcp ∉ refused), calledBack := decide (rcp ∉ refused) })

def requestedAt (m : RelayConnectionManager keys) (nowMS rcp : Nat) : RelayConnectionManager keys :=
  m.modify rcp (fun rc => { rc with lastKeepAliveRequestTimestampMS := nowMS })

/-- A link that was taken off the idle list; it is for the list of those to be put back, or not. -/
def visit (m : RelayConnectionManager keys) (nowMS : Nat) (refused : List Nat) (rcp : Nat) :
    RelayConnectionManager keys × Bool × List LinkAction :=
  let rc := m.connections rcp
  if rc.isOpen = false then
    let reconnected := m.reconnect refused rcp
    let inits := (m.groups (groupPtr rcp)).map (fun target =>
      LinkAction.init rcp (reconnected.connections rcp).connectionId target (decide (rcp ∉ refused)))
    (reconnected.requestedAt nowMS rcp,true,inits.toList ++ [.requested rcp])
  else if keepAliveResponseTimeout ≤ signedDiff nowMS rc.lastKeepAliveResponseTimestampMS then
    (m.deferKillConnection rcp,false,[])
  else (m.requestedAt nowMS rcp,true,[.requestKeepAlive rcp,.requested rcp])

/-- The loop pops the head of the idle list while it is due, and so many times at most. -/
def scan (nowMS : Nat) (refused : List Nat) : Nat → RelayConnectionManager keys → List Nat →
    RelayConnectionManager keys × List Nat × List LinkAction
  | 0, m, tempList => (m,tempList,[])
  | checks + 1, m, tempList =>
    match m.idleList with
    | [] => (m,tempList,[])
    | rcp :: rest =>
      if m.isDue nowMS rcp then
        let (m,back,out) := { m with idleList := rest }.visit nowMS refused rcp
        let (m,tempList,later) := scan nowMS refused checks m (if back then tempList ++ [rcp] else tempList)
        (m,tempList,out ++ later)
      else (m,tempList,[])

def doReconnectAndKeepAlive (m : RelayConnectionManager keys) (refused : List Nat) :
    RelayConnectionManager keys × List LinkAction :=
  let (m,tempList,out) := scan m.ticker refused maxReconnectOrKeepAliveCheckCount m []
  ({ m with idleList := m.idleList ++ tempList },out)

/-- `Tick` up to the reconnects. -/
def freed (m : RelayConnectionManager keys) (nowMS : Nat) : RelayConnectionManager keys :=
  doFreeKillGroupList { m with ticker := nowMS }.doFreeKillList.1

def tick (m : RelayConnectionManager keys) (nowMS : Nat) (refused : List Nat) :
    RelayConnectionManager keys × List LinkAction :=
  let released := { m with ticker := nowMS }.doFreeKillList.2
  let (m,out) := (m.freed nowMS).doReconnectAndKeepAlive refused
  (m,released ++ out)

end RelayConnectionManager

/-! ## Runs -/

inductive LinkEvent where
  | addRelayGroup (runtimeServerId : Nat) (target : TargetAddress)
  | tick (nowMS : Nat) (refused : List Nat)
  | connected (rcp : Nat)
  | dispatch (packet : RelayDispatch)
  | peerClose (rcp : Nat) (stillOpen : Bool)
  deriving DecidableEq

def dispatchedTo : RelayDispatch → Nat
  | .keepAlive rcp | .packet rcp _ _ _ => rcp

variable {keys : KeySource}

/-- The library calls back for the connections it does so for; nothing happens otherwise. -/
def step (m : RelayConnectionManager keys) : LinkEvent → RelayConnectionManager keys × List LinkAction
  | .addRelayGroup runtimeServerId target => m.addRelayGroup runtimeServerId target
  | .tick nowMS refused => m.tick nowMS refused
  | .connected rcp =>
    if (m.connections rcp).calledBack then (m.keepAlive rcp,[.answered rcp]) else (m,[])
  | .dispatch packet =>
    if (m.connections (dispatchedTo packet)).calledBack then m.onDispatch packet else (m,[])
  | .peerClose rcp stillOpen =>
    if (m.connections rcp).calledBack then (m.onPeerClose rcp stillOpen,[]) else (m,[])

def linkMachine (keys : KeySource) : Machine (RelayConnectionManager keys) LinkEvent LinkAction where
  start m := ∃ ticker, m = .init keys ticker
  step := step

/-! ## The receive loop -/

namespace RelayConnectionManager

open Framing

/-- What `OnData` reads and writes of the manager. -/
def view (m : RelayConnectionManager keys) : Proxy.RelayConnectionManager where
  ticker := m.ticker
  idleList := m.idleList
  killList := m.killList
  lastKeepAliveResponseTimestampMS rcp := (m.connections rcp).lastKeepAliveResponseTimestampMS

theorem view_keepAlive (m : RelayConnectionManager keys) (rcp : Nat) :
    (m.keepAlive rcp).view = m.view.keepAlive rcp := by
  have responses : (m.keepAlive rcp).view.lastKeepAliveResponseTimestampMS =
      (m.view.keepAlive rcp).lastKeepAliveResponseTimestampMS := by
    funext other
    by_cases same : other = rcp <;>
      simp [view,keepAlive,modify,Proxy.RelayConnectionManager.keepAlive,same]
  simpa [view,keepAlive,modify,Proxy.RelayConnectionManager.keepAlive] using responses

/-- A packet is dispatched to the link it came on. -/
theorem dispatch_view (m : RelayConnectionManager keys) (rcp : Nat) (header : PacketHeader) (payload : Bytes) :
    ∃ packet, dispatchedTo packet = rcp ∧
      Proxy.RelayConnectionManager.dispatch (.base Unit) rcp (m.view,()) header payload =
        ⟨((m.onDispatch packet).1.view,()),[packet],true⟩ := by
  unfold Proxy.RelayConnectionManager.dispatch
  split
  · refine ⟨.keepAlive rcp,rfl,?_⟩
    rw [← view_keepAlive]
    rfl
  · exact ⟨.packet rcp header.commandId header.requestId payload,rfl,rfl⟩

/-- A call of `OnData` is the dispatch of its packets, one after the other. -/
theorem onDataLoop_view (f : PacketFormat) (rcp fuel : Nat) (m : RelayConnectionManager keys) (data : Bytes) :
    let call := Proxy.RelayConnectionManager.onDataLoop (.base Unit) f rcp fuel (m.view,()) data
    (∀ packet ∈ call.out, dispatchedTo packet = rcp) ∧
      call.state.1 = (call.out.foldl (fun m packet => (m.onDispatch packet).1) m).view := by
  induction fuel generalizing m data with
  | zero => exact ⟨fun _ => List.not_mem_nil.elim,rfl⟩
  | succ fuel ih =>
    unfold Proxy.RelayConnectionManager.onDataLoop
    dsimp only
    split
    · exact ⟨by simp,rfl⟩
    · split
      · exact ⟨by simp,rfl⟩
      · rename_i header _
        split
        · exact ⟨by simp,rfl⟩
        · obtain ⟨packet,own,dispatched⟩ :=
            m.dispatch_view rcp header ((data.take header.packetSize).drop f.headerSize)
          obtain ⟨others,state⟩ := ih (m.onDispatch packet).1 (data.drop header.packetSize)
          rw [dispatched]
          refine ⟨?_,state⟩
          intro other member
          rcases List.mem_cons.mp member with rfl | later
          · exact own
          · exact others other later

end RelayConnectionManager

end MiniPP.RelayLinks
