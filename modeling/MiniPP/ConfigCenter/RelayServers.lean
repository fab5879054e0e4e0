import Mathlib.Data.List.Basic
import MiniPP.Lib.Machine
import MiniPP.ServerId.Manager
import MiniPP.Xel

/-! The relay servers that the config center knows. A server stands in a slot, and its key is the
time of its registration and the index of the slot. A slot whose key is 0 is free. -/
namespace MiniPP.ConfigCenter

open ServerId

/-! ## The manager of ids -/

/-- `xObjectIdManagerMini`: `acquire` allocates some id, or gives 0, and `release` takes back one
that is allocated. What it does with another is left open. -/
structure ObjectIdManagerMini (σ : Type) where
  init : σ
  acquire : σ → Nat × σ
  release : σ → Nat → σ
  Allocated : σ → Nat → Prop
  init_spec : ∀ id, ¬ Allocated init id
  acquire_spec : ∀ s,
    ((acquire s).1 = 0 ∧ ∀ id, Allocated (acquire s).2 id ↔ Allocated s id) ∨
    ((acquire s).1 ≠ 0 ∧ ¬ Allocated s (acquire s).1 ∧
      ∀ id, Allocated (acquire s).2 id ↔ Allocated s id ∨ id = (acquire s).1)
  release_spec : ∀ s id, Allocated s id →
    ∀ other, Allocated (release s id) other ↔ Allocated s other ∧ other ≠ id

/-- The least of the first `maxObjectId` ids that is not in the list is allocated. -/
def ObjectIdManagerMini.ofList (maxObjectId : Nat) : ObjectIdManagerMini (List Nat) where
  init := []
  acquire s :=
    let id := ((List.range' 1 maxObjectId).find? (fun id => !s.contains id)).getD 0
    (id,if id = 0 then s else id :: s)
  release s id := s.filter (fun other => !(other == id))
  Allocated s id := id ∈ s
  init_spec id := List.not_mem_nil
  acquire_spec s := by
    cases found : (List.range' 1 maxObjectId).find? (fun id => !s.contains id) with
    | none => exact .inl ⟨rfl,fun id => Iff.rfl⟩
    | some id =>
      have range := List.mem_range'_1.mp (List.mem_of_find?_eq_some found)
      have free := List.find?_some found
      have positive : id ≠ 0 := by omega
      refine .inr ⟨positive,by simpa using free,fun other => ?_⟩
      rw [Option.getD_some]
      dsimp only
      rw [if_neg positive,List.mem_cons,or_comm]
  release_spec s id _ other := by simp

/-! ## The registry -/

structure RelayServerBase where
  key : Nat
  ctrlAddress : NetAddress
  dataAddress : NetAddress
  paAddress : NetAddress
  deriving DecidableEq, Repr

/-- What `Renew` leaves. -/
def RelayServerBase.blank : RelayServerBase := ⟨0,.unspecified,.unspecified,.unspecified⟩

def relayServerPoolSize : Nat := 4096

/-- The list of all servers links slots of the pool. -/
structure RelayServerManager (σ : Type) where
  relayServerListAll : List Nat
  relayServerPool : Nat → RelayServerBase
  idManager : σ

namespace RelayServerManager

variable {σ : Type}

def init (ids : ObjectIdManagerMini σ) : RelayServerManager σ := ⟨[],fun _ => .blank,ids.init⟩

def getAnyRelayServer (m : RelayServerManager σ) : Option RelayServerBase × RelayServerManager σ :=
  match m.relayServerListAll with
  | [] => (none,m)
  | index :: rest => (some (m.relayServerPool index),{ m with relayServerListAll := rest ++ [index] })

/-- `none` is an assertion that fails. -/
def addServerInfo (ids : ObjectIdManagerMini σ) (m : RelayServerManager σ) (newInfo : RelayServerBase)
    (nowMS : Nat) : Option (Nat × RelayServerManager σ) :=
  if newInfo.key ≠ 0 then none
  else
    let (id,idManager) := ids.acquire m.idManager
    if id = 0 then some (0,{ m with idManager })
    else if id > relayServerPoolSize then some (0,{ m with idManager := ids.release idManager id })
    else
      let index := id - 1
      let random := low32 nowMS
      let key := make64 random index
      if (m.relayServerPool index).key ≠ 0 then none
      else some (key,{
        relayServerListAll := m.relayServerListAll ++ [index]
        relayServerPool := Function.update m.relayServerPool index { newInfo with key }
        idManager })

/-- A slot that is renewed is in no list. -/
def removeServerInfoByKey (ids : ObjectIdManagerMini σ) (m : RelayServerManager σ) (key : Nat) :
    RelayServerManager σ :=
  let index := low32 key
  let id := index + 1
  if index ≥ relayServerPoolSize then m
  else if (m.relayServerPool index).key ≠ key then m
  else {
    relayServerListAll := m.relayServerListAll.erase index
    relayServerPool := Function.update m.relayServerPool index .blank
    idManager := ids.release m.idManager id }

end RelayServerManager

/-! ## Runs -/

/-- A server is added at some time. -/
inductive RelayEvent where
  | addServerInfo (newInfo : RelayServerBase) (nowMS : UInt64)
  | removeServerInfoByKey (key : UInt64)
  | getAnyRelayServer
  deriving DecidableEq

inductive RelayAction where
  | added (key : Nat)
  | selected (server : Option RelayServerBase)
  | assertion
  deriving DecidableEq, Repr

open RelayServerManager in
/-- Nothing is left after an assertion has failed. -/
def step {σ : Type} (ids : ObjectIdManagerMini σ) :
    Option (RelayServerManager σ) → RelayEvent → Option (RelayServerManager σ) × List RelayAction
  | none, _ => (none,[])
  | some m, .addServerInfo newInfo nowMS =>
    match m.addServerInfo ids newInfo nowMS.toNat with
    | none => (none,[.assertion])
    | some (key,m') => (some m',[.added key])
  | some m, .removeServerInfoByKey key => (some (m.removeServerInfoByKey ids key.toNat),[])
  | some m, .getAnyRelayServer =>
    let (server,m') := m.getAnyRelayServer
    (some m',[.selected server])

def relayMachine {σ : Type} (ids : ObjectIdManagerMini σ) :
    Machine (Option (RelayServerManager σ)) RelayEvent RelayAction where
  start s := s = some (.init ids)
  step := step ids

end MiniPP.ConfigCenter
