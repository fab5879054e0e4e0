import MiniPP.Relay.TableMoves

/-! The contexts of relayed connections: who opens one, what may change in it, and for
which context an action is taken. -/
namespace MiniPP.Relay

variable {keys : Keys}

abbrev DeviceRelayService.context? (s : DeviceRelayService keys) (id : Nat) :
    Option RelayConnectionContext := s.relayConnectionManager.contextPool.find? id

abbrev DeviceRelayService.proxy? (s : DeviceRelayService keys) (p : Nat) : Option ProxyConnection :=
  s.proxyConnectionManager.get? p

/-- What one event does to the contexts. -/
inductive ContextMove (s : DeviceRelayService keys) :
    RelayEvent → DeviceRelayService keys → Prop where
  | same {e : RelayEvent} {s' : DeviceRelayService keys}
      (contexts : s'.relayConnectionManager = s.relayConnectionManager) : ContextMove s e s'
  | created {s' : DeviceRelayService keys} (p id : Nat) (m : PR.CreateConnection)
      (rc : RelayConnectionContext) (registered : s.proxy? p ≠ none) (fresh : s.context? id = none)
      (self : rc.relaySideConnectionId = id) (proxy : rc.proxyConnectionId = p)
      (client : rc.proxySideConnectionId = m.proxySideConnectionId)
      (contexts : ∀ other, s'.context? other = if other = id then some rc else s.context? other) :
      ContextMove s (.proxyPacket p (.message (some (.createConnection m)))) s'
  | established {s' : DeviceRelayService keys} (c : Nat) (m : TR.ConnectionStateNotify)
      (state : m.newState = stateEstablished)
      (contexts : ∀ other, s'.context? other = if other = m.relaySideConnectionId then
        (s.context? other).map (fun rc => { rc with deviceSlot := m.deviceSideConnectionId })
        else s.context? other) :
      ContextMove s (.devicePacket c (.notifyConnectionState (some m))) s'

theorem create_spec {m m' : RelayConnectionManager keys.relayConnection} {id : Nat}
    {fill : RelayConnectionContext → RelayConnectionContext} (created : m.create fill = some (id,m')) :
    id = m.contextPool.nextKey ∧ m.contextPool.find? id = none ∧ ∀ other, m'.contextPool.find? other =
      if other = id then some (fill { relaySideConnectionId := id }) else m.contextPool.find? other := by
  obtain ⟨⟨key,pool⟩,acquired,same⟩ := Option.map_eq_some_iff.mp created
  obtain ⟨rfl,rfl⟩ := Prod.mk.inj same
  exact ⟨(Storage.acquire_spec acquired).1,(Storage.acquired_fresh acquired).1,
    Storage.find?_acquire acquired⟩

theorem contexts_established (m : RelayConnectionManager keys.relayConnection)
    (id deviceSideConnectionId other : Nat) :
    (m.setDeviceSideConnectionId id deviceSideConnectionId).contextPool.find? other =
      if other = id then
        (m.contextPool.find? other).map (fun rc => { rc with deviceSlot := deviceSideConnectionId })
      else m.contextPool.find? other := by
  rw [RelayConnectionManager.setDeviceSideConnectionId,Storage.find?_modify]
  split
  · rename_i same
    rw [same]
  · rfl

theorem move_createConnection (cfg : Config) (s : DeviceRelayService keys) (p : Nat)
    (m : PR.CreateConnection) (registered : s.proxy? p ≠ none) :
    ContextMove s (.proxyPacket p (.message (some (.createConnection m))))
      (s.onProxyCreateConnection cfg p m).relay := by
  unfold DeviceRelayService.onProxyCreateConnection
  split
  · exact .same rfl
  · rename_i d _
    dsimp only
    split
    · exact .same rfl
    · rename_i id manager created
      obtain ⟨-,fresh,contexts⟩ := create_spec created
      refine .created p id m (DeviceRelayService.fillContext d p m { relaySideConnectionId := id })
        registered fresh rfl rfl rfl ?_
      intro other
      simp only [apply_ite Handled.relay,ite_self]
      exact contexts other

/-- A state notification changes at most the slot of the context it names. -/
theorem DeviceRelayService.relay_connectionUpdate (s : DeviceRelayService keys)
    (m : TR.ConnectionStateNotify) :
    (s.onTerminalTargetConnectionUpdate (some m)).relay = s ∨
      (m.newState = stateEstablished ∧ (s.onTerminalTargetConnectionUpdate (some m)).relay =
        { s with
          relayConnectionManager := s.relayConnectionManager.setDeviceSideConnectionId
            m.relaySideConnectionId m.deviceSideConnectionId }) := by
  simp only [DeviceRelayService.onTerminalTargetConnectionUpdate]
  repeat' split
  all_goals simp_all

theorem move_connectionUpdate (s : DeviceRelayService keys) (c : Nat)
    (m : Option TR.ConnectionStateNotify) :
    ContextMove s (.devicePacket c (.notifyConnectionState m))
      (s.onTerminalTargetConnectionUpdate m).relay := by
  cases m with
  | none => exact .same rfl
  | some m =>
    rcases s.relay_connectionUpdate m with same | ⟨state,new⟩
    · rw [same]
      exact .same rfl
    · rw [new]
      exact .established c m state (fun _ => contexts_established _ _ _ _)

theorem contexts_initDataStream (cfg : Config) (s : DeviceRelayService keys) (c requestId : Nat)
    (m : Option TR.InitDataStream) : (s.onTerminalInitDataStream cfg c requestId m).relay.relayConnectionManager =
      s.relayConnectionManager := by
  unfold DeviceRelayService.onTerminalInitDataStream
  repeat' split
  all_goals rfl

theorem contexts_devicePacket (cfg : Config) (s : DeviceRelayService keys) (c : Nat)
    (conn : DeviceConnection) (packet : DevicePacket) :
    ContextMove s (.devicePacket c packet) (s.onDevicePacket cfg c conn packet).relay := by
  have move := devicePacket_move cfg s c conn packet
  generalize (s.onDevicePacket cfg c conn packet).relay = s' at move
  cases move with
  | same | keepAlive => exact .same rfl
  | initDataStream requestId m => exact .same (contexts_initDataStream cfg s c requestId m)
  | connectionUpdate m => exact move_connectionUpdate s c m

theorem contexts_proxyData (cfg : Config) (s : DeviceRelayService keys) (p : Nat)
    (packet : ProxyPacket) (registered : s.proxy? p ≠ none) :
    ContextMove s (.proxyPacket p packet) (s.onProxyData cfg p packet).relay := by
  have move := proxyPacket_move cfg s p packet
  generalize (s.onProxyData cfg p packet).relay = s' at move
  cases move with
  | same | keepAlive | challenge => exact .same rfl
  | createConnection m => exact move_createConnection cfg s p m registered

theorem step_contextMove (cfg : Config) (s : DeviceRelayService keys) (e : RelayEvent) :
    ContextMove s e (s.step cfg e).1 := by
  cases e with
  | devicePacket c packet =>
    simp only [DeviceRelayService.step]
    split
    · exact .same rfl
    · exact contexts_devicePacket cfg s c _ packet
  | proxyPacket p packet =>
    simp only [DeviceRelayService.step]
    split
    · exact .same rfl
    · rename_i known
      refine contexts_proxyData cfg s p packet (fun unknown => ?_)
      exact absurd (unknown.symm.trans known) (by simp)
  | newDeviceConnection type =>
    simp only [DeviceRelayService.step]
    split <;> exact .same rfl
  | newProxyConnection =>
    simp only [DeviceRelayService.step]
    split <;> exact .same rfl
  | devicePeerClose c =>
    simp only [DeviceRelayService.step,DeviceRelayService.onDevicePeerClose,
      DeviceRelayService.removeDeviceFromConnection]
    repeat' split
    all_goals exact .same rfl
  | proxyPeerClose p => exact .same rfl
  | deviceConnectionTick nowMS => exact .same rfl
  | proxyConnectionTick nowMS => exact .same rfl

/-- A context carries its own id. -/
def SelfNamed (s : DeviceRelayService keys) : Prop :=
  ∀ id rc, s.context? id = some rc → rc.relaySideConnectionId = id

theorem selfNamed_move {s s' : DeviceRelayService keys} {e : RelayEvent} (named : SelfNamed s)
    (move : ContextMove s e s') : SelfNamed s' := by
  intro id rc found
  cases move with
  | same contexts =>
    exact named id rc (by simpa only [DeviceRelayService.context?,contexts] using found)
  | created p new m opened _ _ self _ _ contexts =>
    rw [contexts] at found
    split at found
    · rename_i here
      rw [← Option.some.inj found,here,self]
    · exact named id rc found
  | established c m _ contexts =>
    rw [contexts] at found
    split at found
    · obtain ⟨old,known,rfl⟩ := Option.map_eq_some_iff.mp found
      exact named id old known
    · exact named id rc found

theorem self_named {cfg : Config} {ok : DeviceRelayService keys → List RelayAction → RelayEvent → Prop}
    {s : DeviceRelayService keys} {log : List RelayAction}
    (reach : (relayMachine cfg keys).Reach ok s log) : SelfNamed s := by
  apply reach.invariant (I := fun s _ => SelfNamed s)
  · rintro s ⟨ticker,_,_,_,_,rfl⟩ id rc found
    simp [DeviceRelayService.init,RelayConnectionManager.init,DeviceRelayService.context?] at found
  · exact fun s _ e _ _ named => selfNamed_move named (step_contextMove cfg s e)

end MiniPP.Relay
