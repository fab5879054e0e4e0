import MiniPP.Registry.Clients
import MiniPP.Registry.Download
import MiniPP.Registry.Entries
import MiniPP.ServerId.Given

/-! How servers are found. A server is given an id by the center and registers under it, and clients download
the list of the servers of a kind. The registry has one manager of the lists for both its services. What is
posted is on its way until the other side reads it, and any connection can be lost. -/
namespace MiniPP.Directory

open Registry ServerId

/-- What the servers register with beside their ids, and the kind of the list that each client downloads. -/
structure Config where
  kind : Nat → ServerKind
  exportServerAddress : Nat → NetAddress
  downloads : Nat → ServerKind

/-- A client, and what is on its way between it and the registry. -/
structure Peer where
  client : DownloadClient := {}
  connected : Bool := false
  requests : List Nat := []
  responses : List DownloadResp := []
  deriving DecidableEq, Repr

/-- `registrations` are the keys that the registry has for the connections of the servers. -/
structure System (σ : Type) (keys registryKeys : KeySource) where
  fleet : Fleet σ keys
  registry : RegisterServerService registryKeys
  service : DownloadServerService := {}
  registrations : Nat → Nat := fun _ => 0
  requests : Nat → List RegisterPacket := fun _ => []
  peers : Nat → Peer := fun _ => {}

/-- A server that connects to the registry does so by `registerConnects`, and what a client meets of the others
is not among its own events. -/
inductive Event where
  | fleet (e : FleetEvent)
  | registerConnects (i : Nat)
  | registryReads (c : Nat)
  | registryCloses (c : Nat)
  | registryTicks (nowMS : Nat)
  | peer (j : Nat) (e : DownloadEvent)
  | peerRestarts (j : Nat)
  deriving DecidableEq

inductive Action where
  | fleet (a : FleetAction)
  | registry (a : RegisterAction)
  | connected (i c : Nat)
  deriving DecidableEq, Repr

def connects : FleetEvent → Bool
  | .registerConnected _ => true
  | _ => false

def foreign : DownloadEvent → Bool
  | .list _ | .otherDownload _ _ => true
  | _ => false

namespace System

variable {σ : Type} {keys registryKeys : KeySource}

def registrant (cfg : Config) (s : System σ keys registryKeys) (i : Nat) : Registrant where
  kind := cfg.kind i
  exportServerAddress := cfg.exportServerAddress i
  client := s.fleet.registerServerClient i
  connection := s.registrations i

/-- The part of the servers and the registry. -/
def enrolment (cfg : Config) (s : System σ keys registryKeys) : Enrolment registryKeys where
  registry := s.registry
  registrants := s.registrant cfg
  requests := s.requests

/-- The part of one client and the registry. -/
def download (s : System σ keys registryKeys) (j : Nat) : DownloadSystem where
  manager := s.registry.serverListManager
  service := s.service
  client := (s.peers j).client
  connected := (s.peers j).connected
  requests := (s.peers j).requests
  responses := (s.peers j).responses

def setDownload (s : System σ keys registryKeys) (j : Nat) (d : DownloadSystem) : System σ keys registryKeys :=
  { s with
      service := d.service
      peers := Function.update s.peers j ⟨d.client,d.connected,d.requests,d.responses⟩ }

/-- What a server posts goes to its connection. -/
def post (cfg : Config) (s : System σ keys registryKeys) (out : List FleetAction) : System σ keys registryKeys :=
  { s with requests := fun c => s.requests c ++ out.filterMap fun
      | .registers i serverId =>
        if s.registrations i = c then some ((s.registrant cfg i).postServerId serverId) else none
      | _ => none }

def fleetStep (cfg : Config) (ids : ObjectIdManager σ) (s : System σ keys registryKeys) (e : FleetEvent) :
    System σ keys registryKeys × List Action :=
  let (fleet,out) := s.fleet.step ids e
  ({ s with fleet }.post cfg out,out.map .fleet)

def registryStep (grow : Nat → Nat) (s : System σ keys registryKeys) (e : RegisterEvent) :
    System σ keys registryKeys × List Action :=
  let (registry,out) := s.registry.step grow e
  ({ s with registry },out.map .registry)

def registerConnects (cfg : Config) (ids : ObjectIdManager σ) (grow : Nat → Nat) (s : System σ keys registryKeys)
    (i : Nat) : System σ keys registryKeys × List Action :=
  match s.registry.step grow .clientConnected with
  | (registry,[.accepted c]) =>
    let (s,out) := { s with registry, registrations := Function.update s.registrations i c }.fleetStep cfg ids
      (.registerConnected i)
    (s,.registry (.accepted c) :: .connected i c :: out)
  | (registry,out) => ({ s with registry },out.map .registry)

def step (cfg : Config) (ids : ObjectIdManager σ) (grow : Nat → Nat) (sorting : Sorting ListedServer.serverId)
    (s : System σ keys registryKeys) : Event → System σ keys registryKeys × List Action
  | .fleet e => if connects e then (s,[]) else s.fleetStep cfg ids e
  | .registerConnects i =>
    match (s.fleet.hosts i).process with
    | none => (s,[])
    | some p => if p.registerServerClient.isOpen then (s,[]) else s.registerConnects cfg ids grow i
  | .registryReads c =>
    match s.requests c with
    | [] => (s,[])
    | packet :: rest =>
      { s with requests := Function.update s.requests c rest }.registryStep grow (.clientPacket c packet)
  | .registryCloses c => s.registryStep grow (.clientClose c)
  | .registryTicks nowMS => s.registryStep grow (.tick nowMS)
  | .peer j e =>
    if foreign e then (s,[])
    else (s.setDownload j ((s.download j).step grow sorting (cfg.downloads j) e).1,[])
  | .peerRestarts j => ({ s with peers := Function.update s.peers j {} },[])

end System

/-- The center and the registry have just started, and no server is up. -/
def systemMachine {σ : Type} (cfg : Config) (ids : ObjectIdManager σ) (grow : Nat → Nat)
    (sorting : Sorting ListedServer.serverId) (keys registryKeys : KeySource) :
    Machine (System σ keys registryKeys) Event Action where
  start s := ∃ fleet maxConnections, (fleetMachine ids keys).start fleet ∧
    s = { fleet, registry := .init registryKeys maxConnections }
  step s e := s.step cfg ids grow sorting e

/-! ## The parts of a run -/

def fleetLog (log : List Action) : List FleetAction :=
  log.filterMap fun
    | .fleet a => some a
    | _ => none

def registerLog (log : List Action) : List RegisterAction :=
  log.filterMap fun
    | .registry a => some a
    | _ => none

@[simp] theorem fleetLog_append (log out : List Action) : fleetLog (log ++ out) = fleetLog log ++ fleetLog out :=
  List.filterMap_append

@[simp] theorem fleetLog_fleet (out : List FleetAction) : fleetLog (out.map .fleet) = out := by
  simp [fleetLog,List.filterMap_map]

@[simp] theorem fleetLog_registry (out : List RegisterAction) : fleetLog (out.map .registry) = [] := by
  simp [fleetLog,List.filterMap_map]

@[simp] theorem registerLog_append (log out : List Action) :
    registerLog (log ++ out) = registerLog log ++ registerLog out := List.filterMap_append

@[simp] theorem registerLog_registry (out : List RegisterAction) : registerLog (out.map .registry) = out := by
  simp [registerLog,List.filterMap_map]

@[simp] theorem registerLog_fleet (out : List FleetAction) : registerLog (out.map .fleet) = [] := by
  simp [registerLog,List.filterMap_map]

theorem mem_registerLog {log : List Action} {a : RegisterAction} : a ∈ registerLog log ↔ .registry a ∈ log := by
  simp only [registerLog,List.mem_filterMap]
  constructor
  · rintro ⟨b,member,same⟩
    cases b with
    | registry b => exact Option.some.inj same ▸ member
    | _ => cases same
  · exact fun member => ⟨_,member,rfl⟩

variable {σ : Type} {keys registryKeys : KeySource} {cfg : Config} {ids : ObjectIdManager σ} {grow : Nat → Nat}
  {sorting : Sorting ListedServer.serverId} {s : System σ keys registryKeys} {log : List Action}

/-- Everything a step can do, except for the order in which things are on their way. -/
inductive Outcome (cfg : Config) (ids : ObjectIdManager σ) (grow : Nat → Nat)
    (sorting : Sorting ListedServer.serverId) (s : System σ keys registryKeys) :
    Event → System σ keys registryKeys × List Action → Prop where
  | idle {e : Event} : Outcome cfg ids grow sorting s e (s,[])
  | fleet {e : FleetEvent} (other : ∀ i, e ≠ .registerConnected i) :
      Outcome cfg ids grow sorting s (.fleet e) (s.fleetStep cfg ids e)
  | connects {i c : Nat} {p : ServerProcess} {registry : RegisterServerService registryKeys}
      (up : (s.fleet.hosts i).process = some p) (closed : p.registerServerClient.isOpen = false)
      (accepted : s.registry.step grow .clientConnected = (registry,[.accepted c])) :
      Outcome cfg ids grow sorting s (.registerConnects i)
        (({ s with registry, registrations := Function.update s.registrations i c }.fleetStep cfg ids
            (.registerConnected i)).1,
          .registry (.accepted c) :: .connected i c ::
            ({ s with registry, registrations := Function.update s.registrations i c }.fleetStep cfg ids
              (.registerConnected i)).2)
  | refused {i : Nat} {registry : RegisterServerService registryKeys} {out : List RegisterAction}
      (refused : s.registry.step grow .clientConnected = (registry,out)) (none : ∀ c, out ≠ [.accepted c]) :
      Outcome cfg ids grow sorting s (.registerConnects i) ({ s with registry },out.map .registry)
  | reads {c : Nat} {packet : RegisterPacket} {rest : List RegisterPacket} (here : s.requests c = packet :: rest) :
      Outcome cfg ids grow sorting s (.registryReads c)
        ({ s with requests := Function.update s.requests c rest }.registryStep grow (.clientPacket c packet))
  | closes (c : Nat) : Outcome cfg ids grow sorting s (.registryCloses c) (s.registryStep grow (.clientClose c))
  | tick (nowMS : Nat) : Outcome cfg ids grow sorting s (.registryTicks nowMS) (s.registryStep grow (.tick nowMS))
  | peer {j : Nat} {e : DownloadEvent} (own : foreign e = false) : Outcome cfg ids grow sorting s (.peer j e)
      (s.setDownload j ((s.download j).step grow sorting (cfg.downloads j) e).1,[])
  | restart (j : Nat) : Outcome cfg ids grow sorting s (.peerRestarts j)
      ({ s with peers := Function.update s.peers j {} },[])

theorem step_outcome (s : System σ keys registryKeys) (e : Event) :
    Outcome cfg ids grow sorting s e (s.step cfg ids grow sorting e) := by
  cases e with
  | fleet e =>
    rw [System.step]
    split
    · exact .idle
    · next other =>
      refine .fleet fun i same => other ?_
      rw [same]
      rfl
  | registerConnects i =>
    rw [System.step]
    split
    · exact .idle
    · next p up =>
      split
      · exact .idle
      · next closed =>
        rw [System.registerConnects]
        split
        · next registry c accepted => exact .connects up (Bool.eq_false_iff.mpr closed) accepted
        · next registry out none refused =>
          exact .refused refused none
  | registryReads c =>
    rw [System.step]
    split
    · exact .idle
    · next here => exact .reads here
  | registryCloses c => exact .closes c
  | registryTicks nowMS => exact .tick nowMS
  | peer j e =>
    rw [System.step]
    split
    · exact .idle
    · next own => exact .peer (Bool.eq_false_iff.mpr own)
  | peerRestarts j => exact .restart j

end MiniPP.Directory
