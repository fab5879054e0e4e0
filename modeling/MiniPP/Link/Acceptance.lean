import MiniPP.Link.Composition
import MiniPP.Proxy.Guarantees
import MiniPP.Proxy.Targets
import MiniPP.Relay.Notifications

/-! Whether a relay accepts what a proxy-access server posts to it. A packet that it does not
accept costs the link, and with it the connections of every other client. -/
namespace MiniPP.Link

open Proxy (Acceptable Addresses Nameless)

variable {keys : KeySource} {relayKeys : Relay.Keys}

/-- A relay refuses a creation only if it would carry it out and finds no target in it. -/
theorem create_accepted (cfg : Relay.Config) (relay : Relay.DeviceRelayService relayKeys) (p : Nat)
    (m : PR.CreateConnection) :
    (relay.onProxyCreateConnection cfg p m).accepted = true ↔
      relay.deviceManager.getDeviceById m.relaySideDeviceId = none ∨ Relay.Full relay ∨
        Acceptable cfg.xel m := by
  unfold Relay.DeviceRelayService.onProxyCreateConnection
  split
  · rename_i gone
    simp [gone]
  · rename_i d known
    split
    · rename_i none
      simp [Relay.create_none.mp none]
    · rename_i id manager room
      have free : ¬ Relay.Full relay := by
        intro full
        rw [Relay.create_none.mpr full] at room
        cases room
      dsimp only
      split
      · rename_i set
        simp [Acceptable,set]
      · rename_i unset
        split
        · rename_i named
          have name : m.hostname ≠ [] := fun empty => named (by rw [empty]; rfl)
          simp [Acceptable,name]
        · rename_i nameless
          have empty : m.hostname = [] := List.length_eq_zero_iff.mp (not_not.mp nameless)
          simp [Acceptable,unset,empty,known,free]

/-- The other packets that a proxy posts are accepted in every state. -/
theorem posts_accepted (cfg : Relay.Config) (relay : Relay.DeviceRelayService relayKeys) (p : Nat)
    {server : Nat} {msg : PR.Message} (known : (Proxy.Effect.postMessage server msg).Known)
    (other : ∀ m, msg ≠ .createConnection m) : (relay.onProxyPacket cfg p (some msg)).accepted = true := by
  cases msg with
  | createConnection m => exact absurd rfl (other m)
  | postData m =>
    simp only [Relay.DeviceRelayService.onProxyPacket,Relay.DeviceRelayService.onProxyPushData]
    split
    · rfl
    · split
      · rfl
      · split <;> rfl
  | notifyConnectionState m =>
    simp only [Relay.DeviceRelayService.onProxyPacket,
      Relay.DeviceRelayService.onProxyNotifyConnectionState]
    split
    · rfl
    · split <;> rfl
  | _ => exact known.elim

/-- In every run of a proxy-access server and every state of a relay that is linked against
the same library: the relay accepts a packet posted for a client, unless it asks for a
connection to a target that the client has not named, on a device that the relay knows, with
a context left to give out. -/
theorem relay_accepts_posts {cfg : Proxy.Config} (addresses : Addresses cfg.xel)
    {s : Proxy.Server keys} {log : List Proxy.ServerAction}
    (reach : (Proxy.serverMachine cfg keys).Reach Machine.anything s log) {c server : Nat}
    {msg : PR.Message} {before after : List Proxy.Entry}
    (split : Proxy.history c log = before ++ .did (.postMessage server msg) :: after)
    (serverRuntimeId : Nat) (relay : Relay.DeviceRelayService relayKeys) (p : Nat) :
    (relay.onProxyPacket ⟨cfg.xel,serverRuntimeId⟩ p (some msg)).accepted = true ↔
      ∀ m, msg = .createConnection m →
        relay.deviceManager.getDeviceById m.relaySideDeviceId = none ∨ Relay.Full relay ∨
          ¬ Nameless before := by
  obtain ⟨conn,reached,-⟩ := (Proxy.server_invariant reach).past c
  by_cases create : ∃ m, msg = .createConnection m
  · obtain ⟨m,rfl⟩ := create
    have settled : Acceptable cfg.xel m ↔ ¬ Nameless before :=
      Proxy.targets_settled addresses reached before _ after split
    rw [← settled]
    refine (create_accepted ⟨cfg.xel,serverRuntimeId⟩ relay p m).trans ⟨?_,fun all => all m rfl⟩
    rintro accepted m' same
    cases same
    exact accepted
  · have member : .did (.postMessage server msg) ∈ Proxy.history c log := by simp [split]
    have known := Proxy.posts_known reached _ member
    refine ⟨fun _ m same => absurd ⟨m,same⟩ create,fun _ => ?_⟩
    exact posts_accepted _ relay p known (fun m same => create ⟨m,same⟩)

/-- The client asks for a domain name of `length` bytes. -/
def askDomain (length : UInt8) : List Event :=
  socksLogin ++ [.proxy (.data 1 ([0x05,0x01,0x00,0x03,length,97,0,80,0,0])),.relayReceives]

/-- An HTTP client logs in with an absolute URI. -/
def askUri (uri : String) : List Event :=
  linked ++
  [ .proxy (.newConnection (ascii "1")),
    .proxy (.data 1 (ascii "GET " ++ ascii uri ++ ascii " HTTP/1.1\r\n")),
    .proxy (.data 1 (ascii "Proxy-Authorization: Basic dTpw\r\n\r\n")) ] ++
  (((Proxy.socksSession false).take 5).drop 3).map .proxy ++
  [ .proxy (.devicePacket 1 { deviceRelayServerRuntimeId := 9, deviceRelaySideId := 1 }),
    .relayReceives ]

theorem relay_accepts_posts_askDomain :
    ((after 4 socksLogin).1.relay.onProxyPacket ⟨.reference,1⟩ 1 (some (.createConnection
      { relaySideDeviceId := 1, proxySideConnectionId := 1, targetAddress := ⟨.unspecified,[],80⟩
        hostname := [97], hostnamePort := 80 }))).accepted = true := by
  have reach := proxy_reach (after_reach 4 (askDomain 1))
  have split : Proxy.history 1 (proxyLog (after 4 (askDomain 1)).2) =
      (Proxy.history 1 (proxyLog (after 4 (askDomain 1)).2)).take 11 ++
        .did (.postMessage 9 (.createConnection
          { relaySideDeviceId := 1, proxySideConnectionId := 1, targetAddress := ⟨.unspecified,[],80⟩
            hostname := [97], hostnamePort := 80 })) :: [] := by decide
  apply (relay_accepts_posts Proxy.addresses_reference reach split 1 _ 1).mpr
  exact fun _ _ => .inr (.inr (by decide))

/-- The requests are a run of the system in which the relay drops the link. -/
def Refused (es : List Event) : Prop :=
  (systemMachine referenceConfig .sequential .sequential).Reach Machine.anything
    (after 4 es).1 (after 4 es).2 ∧
  .relay (.invalidProxyData 1) ∈ (after 4 es).2

/-- A domain name without a byte, and the host of a URI that begins with "https://", are no
target: the relay drops the link. -/
theorem nameless_requests_refused : Refused (askDomain 0) ∧ Refused (askUri "https://h/") := by
  refine ⟨⟨after_reach 4 _,?_⟩,⟨after_reach 4 _,?_⟩⟩ <;> decide

end MiniPP.Link
