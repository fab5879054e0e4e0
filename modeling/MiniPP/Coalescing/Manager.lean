import MiniPP.Lib.Machine
import MiniPP.Lib.Storage

/-! The cache that asks for a value by an asynchronous query and lets the requests for it wait.
A pointer to a node is the node's id, and data is a pointer that may be null. -/
namespace MiniPP.Coalescing

inductive CacheState where
  | init | query | result
  deriving DecidableEq, Repr

structure CacheNode (κ γ δ : Type) where
  cacheNodeId : Nat
  state : CacheState
  key : κ
  pendingRequestList : List γ
  dataPtr : Option δ
  deriving Repr

/-- What the cache does: the requests it is given, the three virtual functions it calls, and the
results that it stores. -/
inductive CacheAction (κ γ δ : Type) where
  | posted (key : κ) (context : γ)
  | onResultData (context : γ) (data : Option δ)
  | makeAsyncQuery (id : Nat) (key : κ) (accepted : Bool)
  | stored (key : κ) (data : Option δ)
  | onReleaseData (id : Nat) (data : δ)
  deriving DecidableEq, Repr

structure CacheManager (keys : KeySource) (κ γ δ : Type) where
  cacheNodePool : Storage keys (CacheNode κ γ δ)
  cacheRequestPoolSize : Nat
  cacheRequestsInUse : Nat
  cacheMap : κ → Option Nat
  crashed : Bool

namespace CacheManager

variable {keys : KeySource} {κ γ δ : Type}

/-- Both pools are initialised. -/
def init (keys : KeySource) (κ γ δ : Type) (maxCacheNodeSize requestPoolSize : Nat) :
    CacheManager keys κ γ δ := ⟨.empty keys _ maxCacheNodeSize,requestPoolSize,0,fun _ => none,false⟩

/-- The list of a node is emptied, and its requests go back to their pool. -/
def popRequests (m : CacheManager keys κ γ δ) (id : Nat) (f : CacheNode κ γ δ → CacheNode κ γ δ)
    (node : CacheNode κ γ δ) : CacheManager keys κ γ δ :=
  { m with
    cacheNodePool := m.cacheNodePool.modify id (fun node => f { node with pendingRequestList := [] })
    cacheRequestsInUse := m.cacheRequestsInUse - node.pendingRequestList.length }

def setResultData (m : CacheManager keys κ γ δ) (id : Nat) (data : Option δ) :
    CacheManager keys κ γ δ × List (CacheAction κ γ δ) :=
  match m.cacheNodePool.find? id with
  | none => (m,[])
  | some node =>
    (m.popRequests id (fun node => { node with dataPtr := data, state := .result }) node,
      node.dataPtr.toList.map (.onReleaseData node.cacheNodeId) ++
        .stored node.key data :: node.pendingRequestList.map (.onResultData · data))

/-- The node stays in the pool and in the map. -/
def releaseCacheNode (m : CacheManager keys κ γ δ) (id : Nat) :
    CacheManager keys κ γ δ × List (CacheAction κ γ δ) :=
  match m.cacheNodePool.find? id with
  | none => (m,[]) -- the assertion
  | some node =>
    (m.popRequests id (fun node => node) node,
      node.pendingRequestList.map (.onResultData · none) ++
        node.dataPtr.toList.map (.onReleaseData node.cacheNodeId))

/-- The part of `PostAcquireCacheNodeRequest` behind its look at the map. `accepted` is what
`MakeAsyncQuery` returns if it is called. -/
def requestFrom (m : CacheManager keys κ γ δ) (id : Nat) (key : κ) (context : γ) (accepted : Bool) :
    CacheManager keys κ γ δ × List (CacheAction κ γ δ) :=
  match m.cacheNodePool.find? id with
  | none => (m,[])
  | some node =>
    if node.state = .result then (m,[.onResultData context node.dataPtr])
    else if m.cacheRequestPoolSize ≤ m.cacheRequestsInUse then (m,[.onResultData context none])
    else
      let m := { m with
        cacheNodePool := m.cacheNodePool.modify id (fun node =>
          { node with pendingRequestList := node.pendingRequestList ++ [context] })
        cacheRequestsInUse := m.cacheRequestsInUse + 1 }
      if node.state = .query then (m,[])
      else if !accepted then
        let (m,out) := m.setResultData node.cacheNodeId none
        (m,.makeAsyncQuery node.cacheNodeId key false :: out)
      else (m,[.makeAsyncQuery node.cacheNodeId key true])

variable [DecidableEq κ]

def insert (m : CacheManager keys κ γ δ) (key : κ) (id : Nat)
    (cacheNodePool : Storage keys (CacheNode κ γ δ)) : CacheManager keys κ γ δ :=
  { m with
    cacheNodePool
    cacheMap := Function.update m.cacheMap key (some id) }

def acquireNode (m : CacheManager keys κ γ δ) (key : κ) :
    Option (Nat × Storage keys (CacheNode κ γ δ)) :=
  m.cacheNodePool.acquire (fun id => ⟨id,.init,key,[],none⟩)

def postAcquireCacheNodeRequest (m : CacheManager keys κ γ δ) (key : κ) (context : γ)
    (accepted : Bool) : CacheManager keys κ γ δ × List (CacheAction κ γ δ) :=
  match m.cacheMap key with
  -- `NP` is set for a new key only: here its state is read through a null pointer
  | some _ => ({ m with crashed := true },[])
  | none =>
    match m.acquireNode key with
    | none => (m,[])
    | some (id,cacheNodePool) => (m.insert key id cacheNodePool).requestFrom id key context accepted

end CacheManager

inductive CacheEvent (κ γ δ : Type) where
  | postAcquireCacheNodeRequest (key : κ) (context : γ) (accepted : Bool)
  | setResultData (id : Nat) (data : Option δ)
  | releaseCacheNode (id : Nat)
  deriving Repr

section Machine

variable {keys : KeySource} {κ γ δ : Type} [DecidableEq κ]

/-- A process that has crashed takes no more calls. -/
def step (m : CacheManager keys κ γ δ) (e : CacheEvent κ γ δ) :
    CacheManager keys κ γ δ × List (CacheAction κ γ δ) :=
  if m.crashed then (m,[])
  else
    match e with
    | .postAcquireCacheNodeRequest key context accepted =>
      let (m,out) := m.postAcquireCacheNodeRequest key context accepted
      (m,.posted key context :: out)
    | .setResultData id data => m.setResultData id data
    | .releaseCacheNode id => m.releaseCacheNode id

def cacheMachine (keys : KeySource) (κ γ δ : Type) [DecidableEq κ] (maxCacheNodeSize requestPoolSize : Nat) :
    Machine (CacheManager keys κ γ δ) (CacheEvent κ γ δ) (CacheAction κ γ δ) where
  start m := m = .init keys κ γ δ maxCacheNodeSize requestPoolSize
  step := step

end Machine

end MiniPP.Coalescing
