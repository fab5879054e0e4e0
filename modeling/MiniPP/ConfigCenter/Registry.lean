import Mathlib.Data.List.Nodup
import MiniPP.ConfigCenter.RelayServers
import MiniPP.Lib.RoundRobin

/-! What the registry of relay servers is for: a queue of servers that take turns, each under a key
of its own. The slots, the ids and the list agree on who is in it. -/
namespace MiniPP.ConfigCenter

open ServerId RelayServerManager RoundRobin

variable {σ : Type} {ids : ObjectIdManagerMini σ} {m m' : RelayServerManager σ}

/-! ## The contract -/

/-- The registered servers, in the order of their turns. -/
def servers (m : RelayServerManager σ) : List RelayServerBase :=
  m.relayServerListAll.map m.relayServerPool

/-- What an event does to the queue of the registered servers, and what it gives. The key 0 is
for a server that was turned away. -/
inductive Serves : List RelayServerBase → RelayEvent → List RelayAction → List RelayServerBase → Prop where
  | refused {queue : List RelayServerBase} {newInfo : RelayServerBase} {nowMS : UInt64} :
      Serves queue (.addServerInfo newInfo nowMS) [.added 0] queue
  | added {queue : List RelayServerBase} {newInfo : RelayServerBase} {nowMS : UInt64} {key : Nat}
      (valid : key ≠ 0) (new : ∀ server ∈ queue, server.key ≠ key) :
      Serves queue (.addServerInfo newInfo nowMS) [.added key] (queue ++ [{ newInfo with key }])
  | removed {queue : List RelayServerBase} {key : UInt64} :
      Serves queue (.removeServerInfoByKey key) [] (queue.filter (fun server => server.key != key.toNat))
  | nobody : Serves [] .getAnyRelayServer [.selected none] []
  | turn {server : RelayServerBase} {rest : List RelayServerBase} :
      Serves (server :: rest) .getAnyRelayServer [.selected (some server)] (rest ++ [server])

def InUse (m : RelayServerManager σ) (index : Nat) : Prop :=
  index < relayServerPoolSize ∧ (m.relayServerPool index).key ≠ 0

/-- The slots in use, the members of the list and the allocated ids are the same. -/
structure Consistent (ids : ObjectIdManagerMini σ) (m : RelayServerManager σ) : Prop where
  once : m.relayServerListAll.Nodup
  slots : ∀ index, InUse m index ↔ index ∈ m.relayServerListAll
  ids : ∀ id, ids.Allocated m.idManager id ↔ ∃ index ∈ m.relayServerListAll, id = index + 1

structure Unchanged (ids : ObjectIdManagerMini σ) (m m' : RelayServerManager σ) : Prop where
  list : m'.relayServerListAll = m.relayServerListAll
  pool : m'.relayServerPool = m.relayServerPool
  ids : ∀ id, ids.Allocated m'.idManager id ↔ ids.Allocated m.idManager id

def selections (log : List RelayAction) : List RelayServerBase :=
  log.filterMap fun
    | .selected server => server
    | _ => none

/-- A server may only be added without a key. -/
def Admissible : RelayEvent → Prop
  | .addServerInfo newInfo _ => newInfo.key = 0
  | _ => True

/-- The contract of a run from the start. Any servers that stay registered for a while have their
turns in one and the same order. -/
structure Kept (ids : ObjectIdManagerMini σ) (events : List RelayEvent) : Prop where
  consistent : ∀ front back m, events = front ++ back →
    ((relayMachine ids).run (some (.init ids)) front).1 = some m → Consistent ids m
  serves : ∀ front e back m, events = front ++ e :: back →
    ((relayMachine ids).run (some (.init ids)) front).1 = some m → Admissible e →
    ∃ m' out, step ids (some m) e = (some m',out) ∧ Serves (servers m) e out (servers m')
  removes : ∀ front key back m, events = front ++ .removeServerInfoByKey key :: back →
    ((relayMachine ids).run (some (.init ids)) front).1 = some m →
    (∀ server ∈ servers m, server.key ≠ key.toNat) →
    Unchanged ids m (m.removeServerInfoByKey ids key.toNat)
  turns : ∀ front stretch back m (stays : RelayServerBase → Bool), events = front ++ (stretch ++ back) →
    ((relayMachine ids).run (some (.init ids)) front).1 = some m →
    (∀ part rest m', stretch = part ++ rest → ((relayMachine ids).run (some m) part).1 = some m' →
      ∀ server, stays server = true → server ∈ servers m') →
    GoesRound ((servers m).filter stays)
      ((selections ((relayMachine ids).run (some m) stretch).2).filter stays)

/-- Slot 0 is not taken at a time whose low half is 0, and the key 0 is not removed while slot 0
is free, except where releasing an id that is not allocated does nothing. -/
def Sound (ids : ObjectIdManagerMini σ) : Option (RelayServerManager σ) → List RelayAction → RelayEvent → Prop
  | some m, _, .addServerInfo newInfo nowMS =>
    newInfo.key = 0 → (ids.acquire m.idManager).1 = 1 → low32 nowMS.toNat ≠ 0
  | some m, _, .removeServerInfoByKey key => key = 0 → 0 ∉ m.relayServerListAll →
    ∀ id, ids.Allocated (ids.release m.idManager 1) id ↔ ids.Allocated m.idManager id
  | _, _, _ => True

/-! ## Keys -/

theorem low32_make64 (high : Nat) {low : Nat} (small : low < 2^32) : low32 (make64 high low) = low := by
  rw [low32,make64,Nat.mul_add_mod_self_right]
  exact Nat.mod_eq_of_lt small

theorem make64_eq_zero {high low : Nat} : make64 high low = 0 ↔ high = 0 ∧ low = 0 := by
  rw [make64]
  omega

/-! ## The invariant -/

structure Good (ids : ObjectIdManagerMini σ) (m : RelayServerManager σ) : Prop where
  once : m.relayServerListAll.Nodup
  small : ∀ index ∈ m.relayServerListAll, index < relayServerPoolSize
  own : ∀ index ∈ m.relayServerListAll, low32 (m.relayServerPool index).key = index
  valid : ∀ index ∈ m.relayServerListAll, (m.relayServerPool index).key ≠ 0
  blank : ∀ index, index ∉ m.relayServerListAll → m.relayServerPool index = .blank
  ids : ∀ id, ids.Allocated m.idManager id ↔ ∃ index ∈ m.relayServerListAll, id = index + 1

theorem good_init (ids : ObjectIdManagerMini σ) : Good ids (.init ids) where
  once := List.nodup_nil
  small index member := by cases member
  own index member := by cases member
  valid index member := by cases member
  blank index _ := rfl
  ids id := by
    constructor
    · intro allocated
      exact absurd allocated (ids.init_spec id)
    · rintro ⟨index,member,-⟩
      cases member

theorem Good.consistent (good : Good ids m) : Consistent ids m where
  once := good.once
  slots index := by
    constructor
    · rintro ⟨-,used⟩
      by_contra free
      rw [good.blank index free] at used
      exact used rfl
    · intro member
      exact ⟨good.small index member,good.valid index member⟩
  ids := good.ids

/-- A registered key leads to the slot that has it. -/
theorem Good.index_eq (good : Good ids m) {index other : Nat} (member : other ∈ m.relayServerListAll)
    (same : low32 (m.relayServerPool other).key = index) : other = index :=
  (good.own other member).symm.trans same

/-- Only what the manager of ids holds differs. -/
theorem Good.of_ids (good : Good ids m) {idManager : σ}
    (same : ∀ id, ids.Allocated idManager id ↔ ids.Allocated m.idManager id) :
    Good ids { m with idManager } where
  once := good.once
  small := good.small
  own := good.own
  valid := good.valid
  blank := good.blank
  ids id := (same id).trans (good.ids id)

end MiniPP.ConfigCenter
