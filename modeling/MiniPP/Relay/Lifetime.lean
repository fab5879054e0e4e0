import MiniPP.Lib.TimedRuns
import MiniPP.Relay.Managers

/-! The two connection managers of the relay over any sequence of calls: the lists a
connection moves between, when it is destroyed, and how old it may get. -/
namespace MiniPP.Relay

variable {keys proxyKeys : KeySource}

inductive DeviceManagerEvent where
  | acceptConnection (type : DeviceConnectionType)
  | keepAlive (c : Nat)
  | deferReleaseConnection (c : Nat)
  | tick (nowMS : Nat)
  deriving DecidableEq, Repr

/-- `challenge` is `SetChallengeReady` with the `KeepAlive` that follows it. -/
inductive ProxyManagerEvent where
  | acceptConnection
  | keepAlive (p : Nat)
  | challenge (p : Nat)
  | deferReleaseConnection (p : Nat)
  | tick (nowMS : Nat)
  deriving DecidableEq, Repr

def DeviceConnectionManager.step (m : DeviceConnectionManager keys) :
    DeviceManagerEvent → DeviceConnectionManager keys × List LifeAction
  | .acceptConnection type =>
    match m.acceptConnection type with
    | none => (m,[])
    | some (c,m') => (m',[.accepted c m.ticker])
  | .keepAlive c => (m.keepAlive c,[.keptAlive c m.ticker])
  | .deferReleaseConnection c => (m.deferReleaseConnection c,[])
  | .tick nowMS =>
    let m := m.setTicker nowMS
    (DeviceConnectionManager.removeIdleConnections m,
      (DeviceConnectionManager.idleConnections m).map .destroyed)

def ProxyConnectionManager.step (m : ProxyConnectionManager keys) :
    ProxyManagerEvent → ProxyConnectionManager keys × List LifeAction
  | .acceptConnection =>
    match m.acceptConnection with
    | none => (m,[])
    | some (p,m') => (m',[.accepted p m.ticker])
  | .keepAlive p => (m.keepAlive p,[.keptAlive p m.ticker])
  | .challenge p => ((m.setChallengeReady p).keepAlive p,[.approved p m.ticker])
  | .deferReleaseConnection p => (m.deferReleaseConnection p,[])
  | .tick nowMS =>
    let m := m.setTicker nowMS
    (ProxyConnectionManager.removeIdleConnections m,
      (ProxyConnectionManager.idleConnections m).map .destroyed)

def deviceManagerMachine (keys : KeySource) :
    Machine (DeviceConnectionManager keys) DeviceManagerEvent LifeAction where
  start m := ∃ ticker maxConnections, m = .init keys _ ticker maxConnections
  step m e := DeviceConnectionManager.step m e

def proxyManagerMachine (keys : KeySource) :
    Machine (ProxyConnectionManager keys) ProxyManagerEvent LifeAction where
  start m := ∃ ticker maxConnections, m = .init keys _ ticker maxConnections
  step m e := ProxyConnectionManager.step m e

/-- A manager is called with its own connections, and by a clock that does not go back. -/
def DeviceManagerEvent.Regular (m : DeviceConnectionManager keys) (_ : List LifeAction) :
    DeviceManagerEvent → Prop
  | .acceptConnection _ => True
  | .keepAlive c | .deferReleaseConnection c => m.getConnectionById c ≠ none
  | .tick nowMS => m.ticker ≤ nowMS

def ProxyManagerEvent.Regular (m : ProxyConnectionManager keys) (_ : List LifeAction) :
    ProxyManagerEvent → Prop
  | .acceptConnection => True
  | .keepAlive p | .challenge p | .deferReleaseConnection p => m.getConnectionById p ≠ none
  | .tick nowMS => m.ticker ≤ nowMS

/-! ## The managers follow a policy -/

def devicePolicy : LifePolicy DeviceConnection where
  newcomerLimit nowMS := sub64 nowMS DeviceConnectionManager.newConnectionTimeoutMS
  idleLimit nowMS := sub64 nowMS DeviceConnectionManager.idleTimeoutMS
  ready _ := true
  startsReady := true
  approve conn := conn
  approves _ := rfl

def proxyPolicy : LifePolicy ProxyConnection where
  newcomerLimit nowMS := sub64 nowMS ProxyConnectionManager.challengeTimeout
  idleLimit nowMS := sub64 nowMS ProxyConnectionManager.idleTimeout
  ready conn := conn.challengeReady
  startsReady := false
  approve _ := { challengeReady := true }
  approves _ := rfl

def DeviceManagerEvent.life : DeviceManagerEvent → LifeEvent DeviceConnection
  | .acceptConnection type => .accept { type }
  | .keepAlive c => .keepAlive c
  | .deferReleaseConnection c => .giveUp c
  | .tick nowMS => .tick nowMS

def ProxyManagerEvent.life : ProxyManagerEvent → LifeEvent ProxyConnection
  | .acceptConnection => .accept {}
  | .keepAlive p => .keepAlive p
  | .challenge p => .approve p
  | .deferReleaseConnection p => .giveUp p
  | .tick nowMS => .tick nowMS

theorem device_step_life {m : DeviceConnectionManager keys} {log : List LifeAction} {e : DeviceManagerEvent}
    (regular : e.Regular m log) :
    DeviceConnectionManager.step m e = devicePolicy.step m e.life ∧ devicePolicy.Regular m log e.life := by
  cases e with
  | acceptConnection type =>
    refine ⟨?_,rfl⟩
    simp only [DeviceConnectionManager.step,DeviceManagerEvent.life,LifePolicy.step,
      DeviceConnectionManager.acceptConnection]
    split <;> simp_all
  | keepAlive c =>
    refine ⟨?_,regular⟩
    obtain ⟨conn,found⟩ := Option.ne_none_iff_exists'.mp regular
    have known : m.get? c = some conn := found
    simp [DeviceConnectionManager.step,DeviceManagerEvent.life,LifePolicy.step,LifePolicy.keepAlive,known,
      devicePolicy,DeviceConnectionManager.keepAlive]
  | deferReleaseConnection c => exact ⟨rfl,regular⟩
  | tick nowMS => exact ⟨rfl,regular⟩

theorem proxy_step_life {m : ProxyConnectionManager keys} {log : List LifeAction} {e : ProxyManagerEvent}
    (regular : e.Regular m log) :
    ProxyConnectionManager.step m e = proxyPolicy.step m e.life ∧ proxyPolicy.Regular m log e.life := by
  cases e with
  | acceptConnection =>
    refine ⟨?_,rfl⟩
    simp only [ProxyConnectionManager.step,ProxyManagerEvent.life,LifePolicy.step,
      ProxyConnectionManager.acceptConnection]
    split <;> simp_all
  | _ => exact ⟨rfl,regular⟩

theorem device_life {m : DeviceConnectionManager keys} {log : List LifeAction}
    (reach : (deviceManagerMachine keys).Reach (fun m log e => e.Regular m log) m log) :
    (devicePolicy.machine keys).Reach devicePolicy.Regular m log := by
  induction reach with
  | start start => exact .start start
  | step e _ regular ih =>
    obtain ⟨step,regular⟩ := device_step_life regular
    change (devicePolicy.machine keys).Reach _ (DeviceConnectionManager.step _ e).1
      (_ ++ (DeviceConnectionManager.step _ e).2)
    rw [step]
    exact .step e.life ih regular

theorem proxy_life {m : ProxyConnectionManager keys} {log : List LifeAction}
    (reach : (proxyManagerMachine keys).Reach (fun m log e => e.Regular m log) m log) :
    (proxyPolicy.machine keys).Reach proxyPolicy.Regular m log := by
  induction reach with
  | start start => exact .start start
  | step e _ regular ih =>
    obtain ⟨step,regular⟩ := proxy_step_life regular
    change (proxyPolicy.machine keys).Reach _ (ProxyConnectionManager.step _ e).1
      (_ ++ (ProxyConnectionManager.step _ e).2)
    rw [step]
    exact .step e.life ih regular

/-- The device manager approves nobody: a connection starts out ready. -/
theorem device_never_approves {m : DeviceConnectionManager keys} {log : List LifeAction}
    (reach : (deviceManagerMachine keys).Reach (fun m log e => e.Regular m log) m log) (c t : Nat) :
    .approved c t ∉ log := by
  apply reach.invariant (I := fun _ log => .approved c t ∉ log) (fun _ _ => by simp)
  intro m log e _ _ before member
  rcases List.mem_append.mp member with old | new
  · exact before old
  · cases e with
    | acceptConnection type =>
      simp only [deviceManagerMachine,DeviceConnectionManager.step] at new
      split at new <;> simp at new
    | _ => simp [deviceManagerMachine,DeviceConnectionManager.step] at new

/-- The limit that the managers compute bounds the age. -/
theorem young_of_limit {nowMS timeout t : Nat} (young : sub64 nowMS timeout < t) :
    nowMS < t + timeout := by
  unfold sub64 at young
  split at young <;> omega

/-! ## Guarantees -/

/-- Every connection ever accepted is registered and on one list, and not destroyed; or it was
destroyed once, and is neither registered nor on a list. -/
def OneLife {α : Type} (m : TimedPool keys α) (log : List LifeAction) : Prop :=
  ∀ c t, .accepted c t ∈ log →
    (log.count (.destroyed c) = 0 ∧ m.get? c ≠ none ∧
      m.newcomers.count c + m.idle.count c + m.doomed.count c = 1) ∨
    (log.count (.destroyed c) = 1 ∧ m.get? c = none ∧ c ∉ m.newcomers ∧ c ∉ m.idle ∧ c ∉ m.doomed)

/-- For each manager and any sequence of calls: connections have one life, and what a tick
leaves has been accepted, or kept alive, no longer ago than the manager allows. -/
theorem connection_lifetimes :
    (∀ (m : DeviceConnectionManager keys) (log : List LifeAction),
      (deviceManagerMachine keys).Reach (fun m log e => e.Regular m log) m log →
      OneLife m log ∧ ∀ nowMS, m.ticker ≤ nowMS → ∀ c,
        (DeviceConnectionManager.step m (.tick nowMS)).1.getConnectionById c ≠ none →
          ((∀ t, .keptAlive c t ∉ log) → ∀ t, .accepted c t ∈ log →
            nowMS < t + DeviceConnectionManager.newConnectionTimeoutMS) ∧
          ((∃ t, .keptAlive c t ∈ log) → ∃ t, .keptAlive c t ∈ log ∧
            nowMS < t + DeviceConnectionManager.idleTimeoutMS)) ∧
    (∀ (m : ProxyConnectionManager proxyKeys) (log : List LifeAction),
      (proxyManagerMachine proxyKeys).Reach (fun m log e => e.Regular m log) m log →
      OneLife m log ∧ ∀ nowMS, m.ticker ≤ nowMS → ∀ p,
        (ProxyConnectionManager.step m (.tick nowMS)).1.getConnectionById p ≠ none →
          ((∀ t, .approved p t ∉ log) → ∀ t, .accepted p t ∈ log →
            nowMS < t + ProxyConnectionManager.challengeTimeout) ∧
          ((∃ t, .approved p t ∈ log) → ∃ t, (.keptAlive p t ∈ log ∨ .approved p t ∈ log) ∧
            nowMS < t + ProxyConnectionManager.idleTimeout)) := by
  constructor
  · intro m log reach
    have life := device_life reach
    have never := device_never_approves reach
    refine ⟨fun c t accepted => ?_,?_⟩
    · simpa using LifePolicy.one_life life accepted
    intro nowMS later c known
    have regular : (DeviceManagerEvent.tick nowMS).Regular m log := later
    rw [(device_step_life regular).1] at known
    obtain ⟨young,recent⟩ := LifePolicy.left_by_tick life later known
    constructor
    · intro silent t accepted
      refine young_of_limit (young ?_ t accepted)
      rintro (⟨t',approved⟩ | ⟨-,t',kept⟩)
      · exact never c t' approved
      · exact silent t' kept
    · rintro ⟨t',kept⟩
      obtain ⟨t,kept | approved,late⟩ := recent (.inr ⟨rfl,t',kept⟩)
      · exact ⟨t,kept,young_of_limit late⟩
      · exact absurd approved (never c t)
  · intro m log reach
    have life := proxy_life reach
    refine ⟨fun p t accepted => ?_,?_⟩
    · simpa using LifePolicy.one_life life accepted
    intro nowMS later p known
    have regular : (ProxyManagerEvent.tick nowMS).Regular m log := later
    rw [(proxy_step_life regular).1] at known
    obtain ⟨young,recent⟩ := LifePolicy.left_by_tick life later known
    constructor
    · intro silent t accepted
      refine young_of_limit (young ?_ t accepted)
      rintro (⟨t',approved⟩ | ⟨starts,-⟩)
      · exact silent t' approved
      · cases starts
    · intro approved
      obtain ⟨t,called,late⟩ := recent (.inl approved)
      exact ⟨t,called,young_of_limit late⟩

/-- Two connections are accepted and one of them is called: three seconds later the other one is gone. -/
theorem connection_lifetimes_pair :
    let devices := (deviceManagerMachine .sequential).run (.init .sequential _ 1000000 8)
      [.acceptConnection .ctrl,.acceptConnection .data,.keepAlive 1]
    let proxies := (proxyManagerMachine .sequential).run (.init .sequential _ 1000000 8)
      [.acceptConnection,.acceptConnection,.challenge 1]
    OneLife devices.1 devices.2 ∧ OneLife proxies.1 proxies.2 ∧
    (DeviceConnectionManager.step devices.1 (.tick 1003000)).2 = [.destroyed 2] ∧
    (ProxyConnectionManager.step proxies.1 (.tick 1003000)).2 = [.destroyed 2] := by
  have devices : (deviceManagerMachine .sequential).Allowed (fun m log e => e.Regular m log)
      (.init .sequential _ 1000000 8) []
      [.acceptConnection .ctrl,.acceptConnection .data,.keepAlive 1] :=
    ⟨trivial,trivial,by unfold DeviceManagerEvent.Regular; decide,trivial⟩
  have proxies : (proxyManagerMachine .sequential).Allowed (fun m log e => e.Regular m log)
      (.init .sequential _ 1000000 8) [] [.acceptConnection,.acceptConnection,.challenge 1] :=
    ⟨trivial,trivial,by unfold ProxyManagerEvent.Regular; decide,trivial⟩
  have start : (deviceManagerMachine .sequential).start (.init .sequential _ 1000000 8) := ⟨_,_,rfl⟩
  have start' : (proxyManagerMachine .sequential).start (.init .sequential _ 1000000 8) := ⟨_,_,rfl⟩
  have lifetimes := @connection_lifetimes .sequential .sequential
  refine ⟨?_,?_,by decide,by decide⟩
  · exact (lifetimes.1 _ _ (Machine.Reach.run (.start start) _ devices)).1
  · exact (lifetimes.2 _ _ (Machine.Reach.run (.start start') _ proxies)).1

end MiniPP.Relay
