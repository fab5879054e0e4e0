import MiniPP.Lib.Machine
import MiniPP.Lib.Storage

/-! Server ids. An id packs the index of a slot, the random number the slot holds while the id
is in use, and a checksum of both. A server that connects again may ask for its former id. -/
namespace MiniPP.ServerId

/-! ## The manager of indices -/

/-- `xObjectIdManager`: `acquire` hands out some free index, or 0, and `acquireId` the index it
is given, which succeeds exactly if that is free. -/
structure ObjectIdManager (σ : Type) where
  maxObjectId : Nat
  init : σ
  acquire : σ → Nat × σ
  acquireId : σ → Nat → Bool × σ
  release : σ → Nat → σ
  Free : σ → Nat → Prop
  small : maxObjectId < 2^20
  free_init : ∀ id, Free init id ↔ 1 ≤ id ∧ id ≤ maxObjectId
  acquire_spec : ∀ s,
    ((acquire s).1 = 0 ∧ ∀ id, Free (acquire s).2 id ↔ Free s id) ∨
    (Free s (acquire s).1 ∧ ∀ id, Free (acquire s).2 id ↔ Free s id ∧ id ≠ (acquire s).1)
  acquireId_spec : ∀ s id, ((acquireId s id).1 = true ↔ Free s id) ∧
    ∀ other, Free (acquireId s id).2 other ↔ Free s other ∧ other ≠ id
  release_spec : ∀ s id, 1 ≤ id → id ≤ maxObjectId →
    ∀ other, Free (release s id) other ↔ Free s other ∨ other = id

/-- The list of the free indices, of which the first is handed out. -/
def ObjectIdManager.ofList (maxObjectId : Nat) (small : maxObjectId < 2^20) :
    ObjectIdManager (List Nat) where
  maxObjectId := maxObjectId
  init := List.range' 1 maxObjectId
  acquire s := (s.headD 0,s.filter (fun id => !(id == s.headD 0)))
  acquireId s id := (s.contains id,s.filter (fun other => !(other == id)))
  release s id := id :: s
  Free s id := id ∈ s
  small := small
  free_init id := by
    rw [List.mem_range'_1]
    omega
  acquire_spec s := by
    cases s with
    | nil => exact .inl ⟨rfl,fun _ => by simp⟩
    | cons first rest =>
      refine .inr ⟨List.mem_cons_self,fun id => ?_⟩
      rw [List.mem_filter]
      simp
  acquireId_spec s id := by simp
  release_spec s id _ _ other := by simp [or_comm]

/-! ## Server ids -/

def high32 (x : Nat) : Nat := x / 2^32 % 2^32
def low32 (x : Nat) : Nat := x % 2^32
def make64 (high low : Nat) : Nat := high * 2^32 + low

def idIndex (serverId : Nat) : Nat := high32 (serverId / 2^12)
def idRandom (serverId : Nat) : Nat := low32 (serverId / 2^12)
def idCheckSum (serverId : Nat) : Nat := serverId % 2^12

/-- What is drawn from the generator, made odd. -/
def generateRandom (drawn : UInt32) : Nat := ((drawn ^^^ 0x784C6565) ||| 1).toNat

/-- `none` is an assertion that fails. -/
def generateCheckSum (index random : Nat) : Option Nat :=
  if index = 0 ∨ random = 0 then none
  else
    let sum := index ^^^ random
    some ((sum &&& 0xFFF) ^^^ (sum >>> 12 &&& 0xFFF) ^^^ (sum >>> 24 &&& 0xFFF))

/-- `randomPool` is 0 where the slot is free. -/
structure ServerIdManager (σ : Type) where
  idManager : σ
  randomPool : Nat → Nat

namespace ServerIdManager

variable {σ : Type}

def init (ids : ObjectIdManager σ) : ServerIdManager σ := ⟨ids.init,fun _ => 0⟩

/-! In what follows `none` is a failed assertion. -/

def acquireServerId (ids : ObjectIdManager σ) (drawn : UInt32) (m : ServerIdManager σ) :
    Option (Nat × ServerIdManager σ) :=
  let (id32,idManager) := ids.acquire m.idManager
  if id32 = 0 then some (0,{ m with idManager })
  else
    let random32 := generateRandom drawn
    let randomPool := Function.update m.randomPool (id32 - 1) random32
    match generateCheckSum id32 random32 with
    | none => none
    | some checkSum => some (make64 id32 random32 * 2^12 % 2^64 + checkSum,⟨idManager,randomPool⟩)

def regainServerId (ids : ObjectIdManager σ) (drawn : UInt32) (m : ServerIdManager σ) (serverId : Nat) :
    Option (Nat × ServerIdManager σ) :=
  if serverId = 0 then m.acquireServerId ids drawn
  else
    let id := idIndex serverId
    let random32 := idRandom serverId
    if id = 0 ∨ ids.maxObjectId < id ∨ random32 = 0 then m.acquireServerId ids drawn
    else match generateCheckSum id random32 with
      | none => none
      | some checkSum =>
        if idCheckSum serverId ≠ checkSum then m.acquireServerId ids drawn
        else if m.randomPool (id - 1) ≠ 0 then m.acquireServerId ids drawn
        else
          let (acquired,idManager) := ids.acquireId m.idManager id
          if acquired then some (serverId,⟨idManager,Function.update m.randomPool (id - 1) random32⟩)
          else none

def releaseServerId (ids : ObjectIdManager σ) (m : ServerIdManager σ) (serverId : Nat) :
    Option (Bool × ServerIdManager σ) :=
  let id := idIndex serverId
  let random32 := idRandom serverId
  if id = 0 ∨ ids.maxObjectId < id then some (false,m)
  else match generateCheckSum id random32 with
    | none => none
    | some checkSum =>
      if idCheckSum serverId ≠ checkSum then some (false,m)
      else if m.randomPool (id - 1) ≠ random32 then some (false,m)
      else some (true,⟨ids.release m.idManager id,Function.update m.randomPool (id - 1) 0⟩)

end ServerIdManager

/-! ## The service -/

/-- A request that does not decode is `none`. -/
inductive CenterPacket where
  | acquireServerId (previousServerId : Option UInt64)
  | other
  deriving DecidableEq

/-- With a packet comes what the generator would draw next. -/
inductive CenterEvent where
  | clientConnected
  | clientPacket (c : Nat) (packet : CenterPacket) (drawn : UInt32)
  | clientClose (c : Nat)
  deriving DecidableEq

inductive CenterAction where
  | accepted (c : Nat)
  | refused (c : Nat)
  | acquireServerIdResp (c previousServerId newServerId : Nat)
  | assertion
  deriving DecidableEq, Repr

/-- The process is gone once `aborted` is set. A connection has its id, or 0. -/
structure ServerIdCenterService (σ : Type) (keys : KeySource) where
  serverIdManager : ServerIdManager σ
  connections : Storage keys Nat
  aborted : Bool := false

namespace ServerIdCenterService

variable {σ : Type} {keys : KeySource}

def init (ids : ObjectIdManager σ) (keys : KeySource) (maxIdIndex : Nat) : ServerIdCenterService σ keys where
  serverIdManager := .init ids
  connections := .empty keys _ maxIdIndex

def abort (s : ServerIdCenterService σ keys) : ServerIdCenterService σ keys × List CenterAction :=
  ({ s with aborted := true },[.assertion])

def onClientPacket (ids : ObjectIdManager σ) (s : ServerIdCenterService σ keys) (c serverId : Nat)
    (packet : CenterPacket) (drawn : UInt32) : ServerIdCenterService σ keys × List CenterAction :=
  if serverId ≠ 0 then (s,[.refused c])
  else match packet with
    | .other | .acquireServerId none => (s,[.refused c])
    | .acquireServerId (some previousServerId) =>
      match s.serverIdManager.regainServerId ids drawn previousServerId.toNat with
      | none => s.abort
      | some (newServerId,serverIdManager) =>
        ({ s with
            serverIdManager
            connections := s.connections.modify c (fun _ => newServerId) },
          [.acquireServerIdResp c previousServerId.toNat newServerId])

def onClientClose (ids : ObjectIdManager σ) (s : ServerIdCenterService σ keys) (serverId : Nat) :
    ServerIdCenterService σ keys × List CenterAction :=
  if serverId = 0 then (s,[])
  else match s.serverIdManager.releaseServerId ids serverId with
    | none | some (false,_) => s.abort
    | some (true,serverIdManager) => ({ s with serverIdManager },[])

def step (ids : ObjectIdManager σ) (s : ServerIdCenterService σ keys) (e : CenterEvent) :
    ServerIdCenterService σ keys × List CenterAction :=
  if s.aborted then (s,[])
  else match e with
    | .clientConnected =>
      match s.connections.acquire (fun _ => 0) with
      | none => (s,[])
      | some (c,connections) => ({ s with connections },[.accepted c])
    | .clientPacket c packet drawn =>
      match s.connections.find? c with
      | none => (s,[])
      | some serverId => s.onClientPacket ids c serverId packet drawn
    | .clientClose c =>
      match s.connections.find? c with
      | none => (s,[])
      | some serverId =>
        let (s,actions) := s.onClientClose ids serverId
        ({ s with connections := s.connections.release c },actions)

end ServerIdCenterService

def centerMachine {σ : Type} (ids : ObjectIdManager σ) (keys : KeySource) :
    Machine (ServerIdCenterService σ keys) CenterEvent CenterAction where
  start s := ∃ maxIdIndex, s = .init ids keys maxIdIndex
  step s e := s.step ids e

end MiniPP.ServerId
