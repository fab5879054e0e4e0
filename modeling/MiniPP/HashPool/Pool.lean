import Mathlib.Logic.Function.Basic
import MiniPP.Lib.GrowArray
import MiniPP.Lib.Reconcile
import MiniPP.Xel

/-! The pool of connections to the servers of one kind, from which a hash chooses. A pointer
to a context is its number among all that were allocated, and so is one to a connection. -/
namespace MiniPP.HashPool

structure ServerInfo where
  serverId : Nat
  address : NetAddress
  deriving DecidableEq, Repr

structure TcpConnection where
  number : Nat
  isOpen : Bool
  deriving DecidableEq, Repr

structure ServerContext extends ServerInfo where
  connection : Option TcpConnection
  deleteMark : Bool
  deriving DecidableEq, Repr

/-- What is done with connections: `Clean`, `delete`, `Init` with its result, `PostData`. -/
inductive Effect where
  | clean (number : Nat)
  | delete (number : Nat)
  | init (number : Nat) (address : NetAddress) (opened : Bool)
  | postData (number : Nat) (packet : Bytes)
  deriving DecidableEq, Repr

def Effect.number : Effect → Nat
  | .clean number | .delete number | .init number _ _ | .postData number _ => number

abbrev Contexts := Nat → Option ServerContext

@[ext] structure Pool where
  ticker : Nat
  contexts : Contexts
  nextContext : Nat
  nextConnection : Nat
  activeServerList : List Nat
  uninitializedServerList : List Nat
  deleteServerList : List Nat
  closingServerList : List Nat
  reconnectServerList : List Nat

def Pool.empty : Pool := ⟨0,fun _ => none,0,0,[],[],[],[],[]⟩

/-- A loop over contexts, its body run on the context and on its connection. There is no result
if a pointer dangles or the connection is null. -/
def forEach (body : ServerContext → TcpConnection → Option ServerContext × List Effect) :
    List Nat → Contexts → Option (Contexts × List Effect)
  | [], contexts => some (contexts,[])
  | p :: rest, contexts => do
    let context ← contexts p
    let connection ← context.connection
    let (context,first) := body context connection
    let (contexts,later) ← forEach body rest (Function.update contexts p context)
    some (contexts,first ++ later)

namespace Pool

/-! ## UpdateServerList -/

def newServer (s : Pool) (d : ServerInfo) : Pool :=
  { s with
    contexts := Function.update s.contexts s.nextContext (some ⟨d,none,false⟩)
    nextContext := s.nextContext + 1
    uninitializedServerList := s.uninitializedServerList ++ [s.nextContext] }

def markDelete (s : Pool) (p : Nat) : Pool :=
  { s with
    contexts := Function.update s.contexts p ((s.contexts p).map ({ · with deleteMark := true }))
    deleteServerList := s.deleteServerList ++ [p] }

/-- The loop, from the rest of `ActiveServerList` and the rest of `NewServerInfoList`. -/
def mergeLists : Nat → List Nat → List ServerInfo → Pool → Option Pool
  | 0, _, _, _ => none
  | _ + 1, [], news, s => some (news.foldl newServer s)
  | _ + 1, olds, [], s => some (olds.foldl markDelete s)
  | fuel + 1, p :: olds, d :: news, s => do
    let old ← s.contexts p
    if old.serverId = d.serverId then
      if old.address ≠ d.address then mergeLists fuel olds news ((s.markDelete p).newServer d)
      else mergeLists fuel olds news s
    else if old.serverId < d.serverId then mergeLists fuel olds (d :: news) (s.markDelete p)
    else mergeLists fuel (p :: olds) news (s.newServer d)

def deleteMarked (contexts : Contexts) (p : Nat) : Bool := (contexts p).any (·.deleteMark)

abbrev StdSort := {α : Type} → (key : α → Nat) → Sorting key

def updateServerList (sort : StdSort) (s : Pool) (source : List ServerInfo) : Option Pool :=
  if s.uninitializedServerList ≠ [] ∨ s.deleteServerList ≠ [] then none
  else do
    let news := (sort ServerInfo.serverId).sort source
    let s ← mergeLists (s.activeServerList.length + news.length + 1) s.activeServerList news s
    some { s with
      activeServerList := s.activeServerList.filter (fun p => !deleteMarked s.contexts p) }

/-! ## Tick -/

def serverIdOf (contexts : Contexts) (p : Nat) : Nat := ((contexts p).map (·.serverId)).getD 0

def newConnection (s : Pool) (p : Nat) : Option Pool := do
  let context ← s.contexts p
  if context.connection ≠ none then none
  else some { s with
    contexts := Function.update s.contexts p
      (some { context with connection := some ⟨s.nextConnection,false⟩ })
    nextConnection := s.nextConnection + 1
    reconnectServerList := s.reconnectServerList ++ [p] }

def newConnections : List Nat → Pool → Option Pool
  | [], s => some s
  | p :: rest, s => do newConnections rest (← s.newConnection p)

def initializeServers (sort : StdSort) (s : Pool) : Option Pool :=
  if s.uninitializedServerList = [] then some s
  else do
    let s ← newConnections s.uninitializedServerList s
    some { s with
      activeServerList := (sort (serverIdOf s.contexts)).sort
        (s.activeServerList ++ s.uninitializedServerList)
      uninitializedServerList := [] }

def destroyServer (_ : ServerContext) (connection : TcpConnection) :
    Option ServerContext × List Effect :=
  (none,(if connection.isOpen then [.clean connection.number] else []) ++ [.delete connection.number])

/-- A context that is deleted unlinks itself. -/
def destroy (s : Pool) (servers : List Nat) : Option (Pool × List Effect) := do
  let (contexts,out) ← forEach destroyServer servers s.contexts
  some ({ s with
    contexts
    closingServerList := s.closingServerList.filter (· ∉ servers)
    reconnectServerList := s.reconnectServerList.filter (· ∉ servers) },out)

def cleanConnection (context : ServerContext) (connection : TcpConnection) :
    Option ServerContext × List Effect :=
  (some { context with connection := some { connection with isOpen := false } },
    [.clean connection.number])

/-- `opens` are the results of `Connection->Init`. -/
def initConnection (opens : Nat → Bool) (context : ServerContext) (connection : TcpConnection) :
    Option ServerContext × List Effect :=
  let opened := opens connection.number
  (some { context with connection := some { connection with isOpen := opened } },
    [.init connection.number context.address opened])

/-- `Tick` behind the update of the ticker. -/
def refresh (sort : StdSort) (s : Pool) (opens : Nat → Bool) : Option (Pool × List Effect) := do
  let s ← initializeServers sort s
  let (s,destroyed) ← s.destroy s.deleteServerList
  let (contexts,cleaned) ← forEach cleanConnection s.closingServerList s.contexts
  let reconnect := s.reconnectServerList ++ s.closingServerList
  let (contexts,opened) ← forEach (initConnection opens) reconnect contexts
  some ({ s with
    contexts
    deleteServerList := []
    closingServerList := []
    reconnectServerList := [] },destroyed ++ (cleaned ++ opened))

def tick (sort : StdSort) (s : Pool) (now : Nat) (opens : Nat → Bool) : Option (Pool × List Effect) :=
  refresh sort { s with ticker := now } opens

/-! ## The other calls -/

/-- The listener is called for the connection of a context; `isOpen` is what the connection
says of itself from then on. -/
def onPeerClose (s : Pool) (p : Nat) (isOpen : Bool) : Option Pool := do
  let context ← s.contexts p
  let connection ← context.connection
  if p ∈ s.closingServerList ∨ p ∈ s.reconnectServerList then none
  else some { s with
    contexts := Function.update s.contexts p
      (some { context with connection := some { connection with isOpen } })
    closingServerList := s.closingServerList ++ [p] }

/-- The context that a hash chooses. -/
def route (s : Pool) (hash : Nat) : Option Nat :=
  s.activeServerList[hash % s.activeServerList.length]?

/-- `isConnected` is the state of the connection that is chosen, and `packet` what
`WriteMessage` makes of the message. -/
def postMessage (s : Pool) (hash : Nat) (isConnected : Bool) (packet : Bytes) :
    Option (Bool × List Effect) :=
  if s.activeServerList = [] then some (false,[])
  else do
    let p ← s.route hash
    let context ← s.contexts p
    let connection ← context.connection
    if ¬ isConnected then some (false,[])
    else if packet = [] then some (false,[])
    else some (true,[.postData connection.number packet])

def discard (contexts : Contexts) (servers : List Nat) : Contexts :=
  fun p => if p ∈ servers then none else contexts p

def clean (s : Pool) : Option (Pool × List Effect) := do
  let (s,active) ← s.destroy s.activeServerList
  let (s,deleted) ← s.destroy s.deleteServerList
  if s.uninitializedServerList.any (fun p => (s.contexts p).any (·.connection.isSome)) then none
  else if s.reconnectServerList ≠ [] then none
  else some ({ s with
    contexts := discard s.contexts s.uninitializedServerList
    activeServerList := []
    deleteServerList := []
    uninitializedServerList := [] },active ++ deleted)

end Pool

inductive Event where
  | updateServerList (source : List ServerInfo)
  | tick (now : Nat) (opens : Nat → Bool)
  | peerClose (p : Nat) (isOpen : Bool)
  | postMessage (hash : Nat) (isConnected : Bool) (packet : Bytes)
  | clean

/-- There is no result if an assertion fails or a pointer dangles. -/
def step (sort : Pool.StdSort) (s : Pool) : Event → Option (Pool × List Effect)
  | .updateServerList source => (s.updateServerList sort source).map (·,[])
  | .tick now opens => s.tick sort now opens
  | .peerClose p isOpen => (s.onPeerClose p isOpen).map (·,[])
  | .postMessage hash isConnected packet => (s.postMessage hash isConnected packet).map (fun r => (s,r.2))
  | .clean => s.clean

def run (sort : Pool.StdSort) : Pool → List Event → Option (Pool × List Effect)
  | s, [] => some (s,[])
  | s, e :: events => do
    let (s,first) ← step sort s e
    let (s,later) ← run sort s events
    some (s,first ++ later)

end MiniPP.HashPool
