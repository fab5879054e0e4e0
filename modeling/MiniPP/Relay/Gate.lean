import MiniPP.Relay.Isolation
import MiniPP.Relay.Notifications

/-! The challenge on the proxy port. Accepting it marks the connection, but no handler looks
at the mark: which commands have an effect is worked out here, and in which runs no effect
comes before the challenge of its connection. -/
namespace MiniPP.Relay

variable {keys : Keys} {cfg : Config}

/-- What a proxy-access server may ask for once it has been accepted. -/
def Command : PR.Message → Prop
  | .createConnection _ | .destroyConnection _ | .postData _ | .notifyConnectionState _ => True
  | .challenge | .challengeResp _ => False

/-- A message to a device, sent or lost to a pointer that leads nowhere. -/
def RelayAction.ForDevice : RelayAction → Prop
  | .toDevice _ _ | .useAfterFree _ _ | .nullConnection _ => True
  | _ => False

/-- A context is created or changed, or a device is sent something. -/
def HasEffect (s : DeviceRelayService keys) (out : DeviceRelayService keys × List RelayAction) : Prop :=
  (∃ id, out.1.context? id ≠ s.context? id) ∨ ∃ a ∈ out.2, a.ForDevice

/-- The command finds nothing to work on: no device or no room for a new context; no context
under its id, none that is the sender's for pushed data, or no device any more. -/
def Inert (s : DeviceRelayService keys) : PR.Message → Prop
  | .createConnection m => s.deviceManager.getDeviceById m.relaySideDeviceId = none ∨ Full s
  | m => ∀ client relaySide, requestIds m = some (client,relaySide) →
      ∀ rc, s.context? relaySide = some rc →
        s.deviceManager.getDeviceById rc.deviceId = none ∨ Refused rc m

/-! ## Effects of the commands -/

theorem not_effect_of_same {s : DeviceRelayService keys} {actions : List RelayAction}
    (none : ∀ a ∈ actions, ¬ a.ForDevice) : ¬ HasEffect s (s,actions) := by
  rintro (⟨id,changed⟩ | ⟨a,member,forDevice⟩)
  · exact changed rfl
  · exact none a member forDevice

theorem forDevice_post (s : DeviceRelayService keys) (pointer : Option Nat) (m : TR.Message) :
    ∃ a ∈ s.post pointer m, a.ForDevice := by
  unfold DeviceRelayService.post
  repeat' split
  all_goals exact ⟨_,List.mem_singleton_self _,trivial⟩

theorem effect_create (s : DeviceRelayService keys) (p : Nat) (m : PR.CreateConnection) :
    let handled := s.onProxyCreateConnection cfg p m
    HasEffect s (handled.relay,handled.actions) ↔ ¬ Inert s (.createConnection m) := by
  dsimp only [DeviceRelayService.onProxyCreateConnection,Inert]
  cases device : s.deviceManager.getDeviceById m.relaySideDeviceId with
  | none =>
    refine iff_of_false (not_effect_of_same ?_) (by simp)
    simp [RelayAction.ForDevice]
  | some d =>
    dsimp only
    cases created : s.relayConnectionManager.create (DeviceRelayService.fillContext d p m) with
    | none =>
      refine iff_of_false (not_effect_of_same ?_) (by simp [create_none.mp created])
      simp [RelayAction.ForDevice]
    | some made =>
      obtain ⟨id,manager⟩ := made
      obtain ⟨-,fresh,contexts⟩ := create_spec created
      have room : ¬ Full s := fun full => by simp [create_none.mpr full] at created
      refine iff_of_true (.inl ⟨id,?_⟩) (by simp [room])
      have found := contexts id
      rw [if_pos rfl] at found
      simp only [apply_ite Handled.relay,ite_self,DeviceRelayService.context?]
      rw [found,fresh]
      simp

theorem effect_request {s : DeviceRelayService keys} {m : PR.Message} {client relaySide : Nat}
    (ids : requestIds m = some (client,relaySide)) (p : Nat) :
    let handled := s.onProxyData cfg p (.message (some m))
    HasEffect s (handled.relay,handled.actions) ↔ ¬ Inert s m := by
  have inert : Inert s m ↔ ∀ rc, s.context? relaySide = some rc →
      s.deviceManager.getDeviceById rc.deviceId = none ∨ Refused rc m := by
    cases m <;> simp [requestIds] at ids
    all_goals
      obtain ⟨rfl,rfl⟩ := ids
      simp [Inert,requestIds]
  obtain ⟨actions,handled,outcome⟩ := request_handled cfg s ids p
  dsimp only
  rw [handled,inert]
  rcases outcome with ⟨rfl,refused⟩ | ⟨rc,pointer,sent,rfl,context,device,accepted,-⟩
  · exact iff_of_false (not_effect_of_same (by simp)) (not_not.mpr refused)
  · refine iff_of_true (.inr (forDevice_post s pointer sent)) (fun nothing => ?_)
    exact (nothing rc context).elim device accepted

/-- The handlers of the commands have an effect whenever there is something to work on. -/
theorem effect_command {s : DeviceRelayService keys} {p : Nat} {conn : ProxyConnection}
    (registered : s.proxy? p = some conn) {m : PR.Message} (command : Command m) :
    HasEffect s (s.step cfg (.proxyPacket p (.message (some m)))) ↔ ¬ Inert s m := by
  have found : s.proxyConnectionManager.getConnectionById p = some conn := registered
  have handled : HasEffect s (s.step cfg (.proxyPacket p (.message (some m)))) ↔
      HasEffect s ((s.onProxyData cfg p (.message (some m))).relay,
        (s.onProxyData cfg p (.message (some m))).actions) := by
    simp only [DeviceRelayService.step,found,HasEffect]
    refine or_congr Iff.rfl ⟨?_,?_⟩
    · rintro ⟨a,member,forDevice⟩
      rcases List.mem_append.mp member with answered | invalid
      · exact ⟨a,answered,forDevice⟩
      · split at invalid
        · simp at invalid
        · obtain rfl := List.mem_singleton.mp invalid
          exact forDevice.elim
    · rintro ⟨a,member,forDevice⟩
      exact ⟨a,List.mem_append_left _ member,forDevice⟩
  rw [handled]
  cases m with
  | createConnection m => exact effect_create s p m
  | destroyConnection m => exact effect_request rfl p
  | postData m => exact effect_request rfl p
  | notifyConnectionState m => exact effect_request rfl p
  | challenge | challengeResp _ => exact command.elim

/-! ## The mark of a connection -/

/-- A challenge on this connection was accepted: the answer went out. -/
def Challenged (p : Nat) (log : List RelayAction) : Prop := .toProxy p (.challengeResp true) ∈ log

theorem not_challenged_devicePacket {s : DeviceRelayService keys} {c p : Nat} {conn : DeviceConnection}
    {packet : DevicePacket} : ¬ Challenged p (s.onDevicePacket cfg c conn packet).actions := by
  intro answered
  by_cases alive : packet = .keepAlive
  · subst alive
    simp only [Challenged,DeviceRelayService.onDevicePacket,DeviceRelayService.onDeviceKeepAlive,
      DeviceRelayService.reportDeviceOnState] at answered
    repeat' split at answered
    all_goals simp at answered
  · rw [Challenged,onDevicePacket_dispatch cfg s c conn packet alive] at answered
    split at answered
    · exact not_told_ctrlPacket answered
    · unfold DeviceRelayService.onDataPacket at answered
      split at answered
      · simp only [DeviceRelayService.onTerminalInitDataStream] at answered
        repeat' split at answered
        all_goals simp at answered
      · simp only [DeviceRelayService.onTerminalTargetConnectionUpdate] at answered
        repeat' split at answered
        all_goals simp at answered
      · simp only [DeviceRelayService.onTerminalPostData] at answered
        repeat' split at answered
        all_goals simp at answered
      · simp at answered

theorem not_challenged_request {s : DeviceRelayService keys} {p p' : Nat} {m : PR.Message}
    {client relaySide : Nat} (ids : requestIds m = some (client,relaySide)) :
    ¬ Challenged p (s.onProxyData cfg p' (.message (some m))).actions := by
  obtain ⟨actions,handled,outcome⟩ := request_handled cfg s ids p'
  rw [handled]
  rcases outcome with ⟨rfl,-⟩ | ⟨rc,pointer,sent,rfl,-⟩
  · simp [Challenged]
  · exact not_told_post

theorem challenged_proxyData {s : DeviceRelayService keys} {p p' : Nat} {packet : ProxyPacket}
    (answered : Challenged p (s.onProxyData cfg p' packet).actions) :
    p = p' ∧ packet = .message (some .challenge) := by
  rcases packet with _ | _ | m
  · simp [Challenged,DeviceRelayService.onProxyData] at answered
  · simp [Challenged,DeviceRelayService.onProxyData,DeviceRelayService.onProxyPacket] at answered
  · cases m with
    | challenge =>
      simp only [Challenged,DeviceRelayService.onProxyData,DeviceRelayService.onProxyPacket,
        DeviceRelayService.onProxyChallenge] at answered
      exact ⟨by simpa using answered,rfl⟩
    | challengeResp _ =>
      simp [Challenged,DeviceRelayService.onProxyData,DeviceRelayService.onProxyPacket] at answered
    | createConnection m =>
      simp only [Challenged,DeviceRelayService.onProxyData,DeviceRelayService.onProxyPacket,
        DeviceRelayService.onProxyCreateConnection] at answered
      repeat' split at answered
      all_goals simp [not_told_post] at answered
    | destroyConnection m => exact absurd answered (not_challenged_request rfl)
    | postData m => exact absurd answered (not_challenged_request rfl)
    | notifyConnectionState m => exact absurd answered (not_challenged_request rfl)

/-- A connection is answered its challenge, and nothing else makes that answer. -/
theorem challenged_step {s : DeviceRelayService keys} {e : RelayEvent} {p : Nat} :
    Challenged p (s.step cfg e).2 ↔
      e = .proxyPacket p (.message (some .challenge)) ∧ s.proxy? p ≠ none := by
  constructor
  · intro challenged
    rcases step_actions challenged with unasked | ⟨c,conn,packet,rfl,known,answered⟩ |
      ⟨p',conn,packet,rfl,known,answered⟩
    · exact unasked.elim
    · exact absurd answered not_challenged_devicePacket
    · obtain ⟨rfl,rfl⟩ := challenged_proxyData answered
      exact ⟨rfl,fun unknown => absurd (unknown.symm.trans known) (by simp)⟩
  · rintro ⟨rfl,registered⟩
    obtain ⟨conn,known⟩ := Option.ne_none_iff_exists'.mp registered
    have found : s.proxyConnectionManager.getConnectionById p = some conn := known
    simp [Challenged,DeviceRelayService.step,found,DeviceRelayService.onProxyData,
      DeviceRelayService.onProxyPacket,DeviceRelayService.onProxyChallenge]

@[simp] theorem proxy_keepAlive (m : ProxyConnectionManager keys.proxyConnection) (p other : Nat) :
    TimedPool.get? (m.keepAlive p) other = m.get? other := by
  unfold ProxyConnectionManager.keepAlive
  split
  · exact TimedPool.get?_keepAlive m p other
  · rfl

theorem proxy_challenge (s : DeviceRelayService keys) (p other : Nat) :
    (s.onProxyChallenge p).relay.proxy? other =
      if other = p then (s.proxy? p).map (fun _ => ⟨true⟩) else s.proxy? other :=
  (proxy_keepAlive _ p other).trans (TimedPool.get?_modify _ p other _)

/-- What one event does to the connections of proxy-access servers. -/
inductive ProxyMove (s : DeviceRelayService keys) : RelayEvent → DeviceRelayService keys → Prop where
  | fewer {e : RelayEvent} {s' : DeviceRelayService keys}
      (unchallenged : ∀ p, e = .proxyPacket p (.message (some .challenge)) → s.proxy? p = none)
      (proxies : ∀ p conn, s'.proxy? p = some conn → s.proxy? p = some conn) : ProxyMove s e s'
  | accepted {s' : DeviceRelayService keys} (p : Nat) (fresh : ¬ s.ProxyIssued p)
      (proxies : ∀ other, s'.proxy? other = if other = p then some {} else s.proxy? other) :
      ProxyMove s .newProxyConnection s'
  | challenged {s' : DeviceRelayService keys} (p : Nat)
      (proxies : ∀ other, s'.proxy? other =
        if other = p then (s.proxy? p).map (fun _ => ⟨true⟩) else s.proxy? other) :
      ProxyMove s (.proxyPacket p (.message (some .challenge))) s'

theorem ProxyMove.same {s s' : DeviceRelayService keys} {e : RelayEvent}
    (other : ∀ p, e ≠ .proxyPacket p (.message (some .challenge)))
    (proxies : s'.proxyConnectionManager = s.proxyConnectionManager) : ProxyMove s e s' := by
  refine .fewer (fun p is => absurd is (other p)) (fun p conn found => ?_)
  simpa only [DeviceRelayService.proxy?,proxies] using found

theorem proxies_proxyData (cfg : Config) (s : DeviceRelayService keys) (p : Nat) (packet : ProxyPacket) :
    ProxyMove s (.proxyPacket p packet) (s.onProxyData cfg p packet).relay := by
  by_cases challenge : packet = .message (some .challenge)
  · subst challenge
    exact .challenged p (proxy_challenge s p)
  · have other (p' : Nat) : RelayEvent.proxyPacket p packet ≠ .proxyPacket p' (.message (some .challenge)) := by
      simp [challenge]
    have move := proxyPacket_move cfg s p packet
    generalize (s.onProxyData cfg p packet).relay = s' at move
    cases move with
    | same => exact .same other rfl
    | keepAlive =>
      refine .fewer (by simp) (fun p' conn found => ?_)
      exact (proxy_keepAlive _ p p').symm.trans found
    | challenge => exact absurd rfl challenge
    | createConnection m =>
      refine .same other ?_
      unfold DeviceRelayService.onProxyCreateConnection
      repeat' split
      all_goals rfl

theorem step_proxyMove (cfg : Config) (s : DeviceRelayService keys) (e : RelayEvent) :
    ProxyMove s e (s.step cfg e).1 := by
  cases e with
  | newDeviceConnection type =>
    simp only [DeviceRelayService.step]
    split <;> exact .same (by simp) rfl
  | newProxyConnection =>
    simp only [DeviceRelayService.step]
    split
    · exact .same (by simp) rfl
    · rename_i p manager accepted
      exact .accepted p (TimedPool.accept_fresh accepted).2 (TimedPool.get?_accept accepted)
  | devicePacket c packet =>
    simp only [DeviceRelayService.step]
    split
    · exact .same (by simp) rfl
    · exact .same (by simp) (proxies_devicePacket cfg s c _ packet)
  | proxyPacket p packet =>
    simp only [DeviceRelayService.step]
    split
    · rename_i unknown
      refine .fewer (fun p' is => ?_) (fun _ _ found => found)
      obtain ⟨rfl,-⟩ := RelayEvent.proxyPacket.inj is
      exact unknown
    · exact proxies_proxyData cfg s p packet
  | devicePeerClose c =>
    simp only [DeviceRelayService.step,DeviceRelayService.onDevicePeerClose,
      DeviceRelayService.removeDeviceFromConnection]
    repeat' split
    all_goals exact .same (by simp) rfl
  | proxyPeerClose p =>
    refine .fewer (by simp) (fun p' conn found => ?_)
    exact (TimedPool.get?_giveUp _ p p').symm.trans found
  | deviceConnectionTick nowMS => exact .same (by simp) rfl
  | proxyConnectionTick nowMS =>
    refine .fewer (by simp) (fun p conn found => ?_)
    have left := (TimedPool.get?_destroyAll (s.proxyConnectionManager.setTicker nowMS) _ p).symm.trans found
    split at left
    · simp at left
    · exact left

/-- The mark of a connection says that its challenge was accepted. -/
structure Marks (s : DeviceRelayService keys) (log : List RelayAction) : Prop where
  ready : ∀ p conn, s.proxy? p = some conn → (conn.challengeReady = true ↔ Challenged p log)
  issued : ∀ p, Challenged p log → s.ProxyIssued p

theorem challenged_append {p : Nat} {log out : List RelayAction} :
    Challenged p (log ++ out) ↔ Challenged p log ∨ Challenged p out := List.mem_append

theorem marks_init (ticker maxDeviceConnections maxDevices maxProxyConnections maxRelayConnections : Nat) :
    Marks (.init keys ticker maxDeviceConnections maxDevices maxProxyConnections maxRelayConnections) [] where
  ready p conn found := by cases found
  issued := by simp [Challenged]

theorem marks_step {s : DeviceRelayService keys} {log : List RelayAction} (marks : Marks s log)
    (e : RelayEvent) : Marks (s.step cfg e).1 (log ++ (s.step cfg e).2) := by
  have answered (p : Nat) : Challenged p (s.step cfg e).2 ↔
      e = .proxyPacket p (.message (some .challenge)) ∧ s.proxy? p ≠ none := challenged_step
  constructor
  · intro p conn found
    rw [challenged_append,answered]
    have move := step_proxyMove cfg s e
    generalize (s.step cfg e).1 = s' at move found
    cases move with
    | fewer unchallenged proxies =>
      have before := proxies p conn found
      rw [marks.ready p conn before,or_iff_left]
      rintro ⟨is,registered⟩
      exact registered (unchallenged p is)
    | accepted new fresh proxies =>
      rw [proxies] at found
      split at found
      · rename_i here
        obtain rfl := Option.some.inj found
        apply iff_of_false (by simp)
        rintro (challenged | ⟨is,-⟩)
        · exact fresh (here ▸ marks.issued p challenged)
        · cases is
      · simpa using marks.ready p conn found
    | challenged new proxies =>
      rw [proxies] at found
      split at found
      · rename_i here
        subst here
        obtain ⟨old,known,rfl⟩ := Option.map_eq_some_iff.mp found
        simp [known]
      · rename_i elsewhere
        have apart : new ≠ p := fun same => elsewhere same.symm
        simpa [apart] using marks.ready p conn found
  · intro p challenged
    apply issued_step s e
    rcases challenged_append.mp challenged with old | now
    · exact marks.issued p old
    · obtain ⟨-,registered⟩ := (answered p).mp now
      obtain ⟨conn,known⟩ := Option.ne_none_iff_exists'.mp registered
      exact TimedPool.issued_of_get? known

theorem marks_reach {ok : DeviceRelayService keys → List RelayAction → RelayEvent → Prop}
    {s : DeviceRelayService keys} {log : List RelayAction}
    (reach : (relayMachine cfg keys).Reach ok s log) : Marks s log := by
  refine reach.invariant (I := Marks) ?_ (fun _ _ e _ _ marks => marks_step marks e)
  rintro s ⟨ticker,_,_,_,_,rfl⟩
  exact marks_init _ _ _ _ _

/-! ## Runs -/

/-- A command has an effect only once a challenge on its connection was accepted. -/
def Gated (cfg : Config) (s : DeviceRelayService keys) (log : List RelayAction) (e : RelayEvent) : Prop :=
  ∀ p m, e = .proxyPacket p (.message (some m)) → Command m → HasEffect s (s.step cfg e) →
    Challenged p log

/-- A command comes on a connection that carries the mark, or finds nothing to work on. -/
def Held (s : DeviceRelayService keys) (_ : List RelayAction) (e : RelayEvent) : Prop :=
  ∀ p m conn, e = .proxyPacket p (.message (some m)) → Command m → s.proxy? p = some conn →
    conn.challengeReady = true ∨ Inert s m

theorem not_effect_unregistered {s : DeviceRelayService keys} {p : Nat} (unknown : s.proxy? p = none)
    (packet : ProxyPacket) : ¬ HasEffect s (s.step cfg (.proxyPacket p packet)) := by
  have missing : s.proxyConnectionManager.getConnectionById p = none := unknown
  simp only [DeviceRelayService.step,missing]
  exact not_effect_of_same (by simp)

theorem gated_iff_held {s : DeviceRelayService keys} {log : List RelayAction} (marks : Marks s log)
    (e : RelayEvent) : Gated cfg s log e ↔ Held s log e := by
  constructor
  · rintro gated p m conn rfl command registered
    rw [marks.ready p conn registered,or_iff_not_imp_right]
    intro works
    exact gated p m rfl command ((effect_command registered command).mpr works)
  · rintro held p m rfl command effect
    cases registered : s.proxy? p with
    | none => exact absurd effect (not_effect_unregistered registered _)
    | some conn =>
      rcases held p m conn rfl command registered with ready | inert
      · exact (marks.ready p conn registered).mp ready
      · exact absurd inert ((effect_command registered command).mp effect)

/-- The relay asks for a challenge only to keep a connection alive: the commands of a run wait
for it just when the server that sends them does. -/
theorem challenge_gate {s : DeviceRelayService keys} (start : (relayMachine cfg keys).start s)
    (es : List RelayEvent) :
    (relayMachine cfg keys).Allowed (Gated cfg) s [] es ↔ (relayMachine cfg keys).Allowed Held s [] es :=
  Machine.allowed_iff (fun _ _ e reach => gated_iff_held (marks_reach reach) e) (.start start) es

/-- The usual opening: the command comes after the challenge. -/
theorem challenge_gate_opening :
    (relayMachine referenceConfig .sequential).Allowed (Gated referenceConfig) smallRelay []
      (registration ++ opening) := by
  refine (challenge_gate ⟨_,_,_,_,_,rfl⟩ _).mpr ⟨?_,?_,?_,?_,?_,?_,?_,trivial⟩
  iterate 5 exact fun _ _ _ is => by cases is
  · intro p m conn is command
    cases is
    exact command.elim
  · intro p m conn is command registered
    cases is
    obtain rfl := Option.some.inj (registered.symm.trans (by decide : _ = some ⟨true⟩))
    exact .inl rfl

/-- A server that never sends a challenge opens a connection on a device. -/
theorem command_before_challenge :
    ¬ ∀ s es, (relayMachine referenceConfig .sequential).start s →
      (relayMachine referenceConfig .sequential).Allowed (Gated referenceConfig) s [] es := by
  intro always
  let create : PR.CreateConnection :=
    { relaySideDeviceId := 1, proxySideConnectionId := 7, targetAddress := .unspecified
      hostname := ascii "h", hostnamePort := 80 }
  have gated := always smallRelay (registration ++ [.newProxyConnection] ++
    [.proxyPacket 1 (.message (some (.createConnection create)))]) ⟨_,_,_,_,_,rfl⟩
  obtain ⟨last,-⟩ := ((Machine.allowed_append _ _).mp gated).2
  have challenged := last 1 _ rfl trivial (.inr ⟨.toDevice 1 (.dnsQuery 1 (ascii "h")),by decide,trivial⟩)
  exact absurd challenged (by unfold Challenged; decide)

end MiniPP.Relay
