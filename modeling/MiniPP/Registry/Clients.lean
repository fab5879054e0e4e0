import MiniPP.Registry.Ownership
import MiniPP.ServerId.Clients

/-! The servers that register. A server posts its id when it is connected, and again when it is told
another one; what it posts is on its way until the registry reads it. -/
namespace MiniPP.Registry

open ServerId RegisterServerService

/-- A server of a kind, and the key that the registry has for its connection while it is open. -/
structure Registrant where
  kind : ServerKind
  exportServerAddress : NetAddress
  client : RegisterServerClient := {}
  connection : Nat := 0
  deriving DecidableEq, Repr

/-- `PostServerId`. -/
def Registrant.postServerId (r : Registrant) (serverId : Nat) : RegisterPacket :=
  .register r.kind (some ⟨serverId,r.exportServerAddress⟩)

inductive EnrolEvent where
  | updateServerId (i serverId : Nat)
  | connect (i : Nat)
  | registryReads (c : Nat)
  | registryCloses (c : Nat)
  | clientCloses (i : Nat)
  | tick (nowMS : Nat)
  deriving DecidableEq, Repr

inductive EnrolAction where
  | registry (a : RegisterAction)
  | assertion (i : Nat)
  deriving DecidableEq, Repr

/-- What is on its way is listed by the keys of the connections. -/
structure Enrolment (keys : KeySource) where
  registry : RegisterServerService keys
  registrants : Nat → Registrant
  requests : Nat → List RegisterPacket := fun _ => []

namespace Enrolment

variable {keys : KeySource}

def setRegistrant (s : Enrolment keys) (i : Nat) (r : Registrant) : Enrolment keys :=
  { s with registrants := Function.update s.registrants i r }

/-- Posts go to the connection of the server. -/
def post (s : Enrolment keys) (r : Registrant) (posted : List Nat) : Enrolment keys :=
  { s with
      requests := Function.update s.requests r.connection
        (s.requests r.connection ++ posted.map r.postServerId) }

def atRegistry (grow : Nat → Nat) (s : Enrolment keys) (e : RegisterEvent) : Enrolment keys × List EnrolAction :=
  let (registry,actions) := s.registry.step grow e
  ({ s with registry },actions.map .registry)

/-- A process in which an assertion fails is gone, and so is its connection. -/
def step (grow : Nat → Nat) (s : Enrolment keys) : EnrolEvent → Enrolment keys × List EnrolAction
  | .updateServerId i serverId =>
    let r := s.registrants i
    match r.client.updateServerId serverId with
    | none => (s.setRegistrant i { r with client := {} },[.assertion i])
    | some (client,posted) => ((s.setRegistrant i { r with client }).post r posted,[])
  | .connect i =>
    let r := s.registrants i
    if r.client.isOpen then (s,[])
    else match s.registry.step grow .clientConnected with
      | (registry,[.accepted c]) =>
        let (client,posted) := r.client.onServerConnected
        let r := { r with client, connection := c }
        ({ (s.setRegistrant i r).post r posted with registry },[.registry (.accepted c)])
      | (registry,actions) => ({ s with registry },actions.map .registry)
  | .registryReads c =>
    match s.requests c with
    | [] => (s,[])
    | packet :: rest =>
      { s with requests := Function.update s.requests c rest }.atRegistry grow (.clientPacket c packet)
  | .registryCloses c => s.atRegistry grow (.clientClose c)
  | .clientCloses i =>
    let r := s.registrants i
    (s.setRegistrant i { r with client := { r.client with isOpen := false } },[])
  | .tick nowMS => s.atRegistry grow (.tick nowMS)

end Enrolment

def enrolMachine (grow : Nat → Nat) (keys : KeySource) : Machine (Enrolment keys) EnrolEvent EnrolAction where
  start s := ∃ maxConnections, ∃ registrants : Nat → Registrant,
    (∀ i, (registrants i).client = {}) ∧ s = { registry := .init keys maxConnections, registrants }
  step s e := s.step grow e

/-! ## What holds of a run -/

variable {keys : KeySource} {grow : Nat → Nat} {s : Enrolment keys} {log : List EnrolAction}

/-- What the registry did. -/
def registryLog (log : List EnrolAction) : List RegisterAction :=
  log.filterMap fun
    | .registry a => some a
    | .assertion _ => none

theorem registryLog_append (log : List EnrolAction) (actions : List RegisterAction) :
    registryLog (log ++ actions.map .registry) = registryLog log ++ actions := by
  rw [registryLog,List.filterMap_append,List.filterMap_map]
  have all : actions.filterMap ((fun
      | EnrolAction.registry a => some a
      | .assertion _ => none) ∘ EnrolAction.registry) = actions := List.filterMap_some
  rw [all]
  rfl

/-- A connection that closes finds its entry where the registry has put it. -/
def Tidy (s : Enrolment keys) (log : List EnrolAction) : EnrolEvent → Prop
  | .registryCloses c => InPlace s.registry (registryLog log) (.clientClose c)
  | _ => True

/-- What is kept of a server that is connected: the last that is on its way has the id that the server
goes by, and when nothing is, the registry has that id, unless it turned the server away. -/
structure Kept (registry : RegisterServerService keys) (done : List RegisterAction)
    (requests : List RegisterPacket) (r : Registrant) : Prop where
  issued : registry.connections.Issued r.connection
  last : ∀ packet, requests.getLast? = some packet →
    r.client.serverId ≠ 0 ∧ packet = r.postServerId r.client.serverId
  settled : requests = [] → .refused r.connection ∉ done →
    match registry.connections.find? r.connection with
    | none => True
    | some none => r.client.serverId = 0
    | some (some _) => r.client.serverId ≠ 0 ∧ .registered r.connection r.kind r.client.serverId ∈ done

structure Posts (s : Enrolment keys) (log : List EnrolAction) : Prop where
  valid : Valid s.registry (registryLog log)
  formed : ∀ c packet, packet ∈ s.requests c → ∃ kind request, packet = .register kind (some request)
  fresh : ∀ c, ¬ s.registry.connections.Issued c → s.requests c = []
  single : ∀ i j, (s.registrants i).client.isOpen = true → (s.registrants j).client.isOpen = true →
    (s.registrants i).connection = (s.registrants j).connection → i = j
  kept : ∀ i, (s.registrants i).client.isOpen = true →
    Kept s.registry (registryLog log) (s.requests (s.registrants i).connection) (s.registrants i)

theorem posts_init (maxConnections : Nat) {registrants : Nat → Registrant}
    (down : ∀ i, (registrants i).client = {}) :
    Posts { registry := .init keys maxConnections, registrants } [] where
  valid := valid_init maxConnections
  formed c packet member := by cases member
  fresh c _ := rfl
  single i j isOpen := by simp [down] at isOpen
  kept i isOpen := by simp [down] at isOpen

/-! ## Steps -/

theorem setRegistrant_registrants (i j : Nat) (r : Registrant) :
    (s.setRegistrant i r).registrants j = if j = i then r else s.registrants j := by
  unfold Enrolment.setRegistrant
  by_cases same : j = i
  · rw [if_pos same,same]
    exact Function.update_self ..
  · rw [if_neg same]
    exact Function.update_of_ne same ..

/-- The registry goes on, and no connection gets another entry. -/
theorem Kept.later {registry registry' : RegisterServerService keys} {done out : List RegisterAction}
    {requests : List RegisterPacket} {r : Registrant} (kept : Kept registry done requests r)
    (issued : registry'.connections.Issued r.connection)
    (same : registry'.connections.find? r.connection = none ∨
      registry'.connections.find? r.connection = registry.connections.find? r.connection) :
    Kept registry' (done ++ out) requests r where
  issued := issued
  last := kept.last
  settled quiet accepted := by
    have before := kept.settled quiet (fun member => accepted (List.mem_append_left _ member))
    rcases same with none | same
    · simp only [none]
    · rw [same]
      split at before
      · trivial
      · exact before
      · exact ⟨before.1,List.mem_append_left _ before.2⟩

/-- A server closes its connection. -/
theorem Posts.close (posts : Posts s log) (i : Nat) {r : Registrant} (closed : r.client.isOpen = false) :
    Posts (s.setRegistrant i r) log := by
  have old {j : Nat} (isOpen : ((s.setRegistrant i r).registrants j).client.isOpen = true) :
      (s.setRegistrant i r).registrants j = s.registrants j := by
    rw [setRegistrant_registrants] at isOpen ⊢
    split at isOpen
    · rw [closed] at isOpen
      cases isOpen
    · next apart => exact if_neg apart
  refine ⟨posts.valid,posts.formed,posts.fresh,fun j k isOpen isOpen' equal => ?_,fun j isOpen => ?_⟩
  · have same := old isOpen
    have same' := old isOpen'
    rw [same] at isOpen equal
    rw [same'] at isOpen' equal
    exact posts.single j k isOpen isOpen' equal
  · have same := old isOpen
    rw [same] at isOpen ⊢
    exact posts.kept j isOpen

theorem formed_post (posts : Posts s log) (r : Registrant) (posted : List Nat) :
    ∀ c packet, packet ∈ (s.post r posted).requests c → ∃ kind request, packet = .register kind (some request) := by
  intro c packet member
  dsimp only [Enrolment.post] at member
  by_cases same : c = r.connection
  · rw [same,Function.update_self] at member
    rcases List.mem_append.mp member with old | new
    · exact posts.formed _ packet old
    · obtain ⟨serverId,-,rfl⟩ := List.mem_map.mp new
      exact ⟨_,_,rfl⟩
  · rw [Function.update_of_ne same] at member
    exact posts.formed c packet member

theorem post_nothing (r : Registrant) : s.post r [] = s := by
  rw [Enrolment.post,List.map_nil,List.append_nil,Function.update_eq_self]

/-- A server that is connected posts another id. -/
theorem Posts.repost (posts : Posts s log) {i serverId : Nat} (given : serverId ≠ 0)
    (isOpen : (s.registrants i).client.isOpen = true) :
    Posts ((s.setRegistrant i { s.registrants i with
      client := { (s.registrants i).client with serverId } }).post (s.registrants i) [serverId]) log := by
  have others {j : Nat} (isOpen' : (s.registrants j).client.isOpen = true) (apart : j ≠ i) :
      (s.registrants j).connection ≠ (s.registrants i).connection :=
    fun same => apart (posts.single j i isOpen' isOpen same)
  have link (j : Nat) : ((s.setRegistrant i { s.registrants i with
      client := { (s.registrants i).client with serverId } }).registrants j).client.isOpen =
        (s.registrants j).client.isOpen ∧
      ((s.setRegistrant i { s.registrants i with
      client := { (s.registrants i).client with serverId } }).registrants j).connection =
        (s.registrants j).connection := by
    rw [setRegistrant_registrants]
    split
    · next same =>
      subst same
      exact ⟨rfl,rfl⟩
    · exact ⟨rfl,rfl⟩
  constructor
  case valid => exact posts.valid
  case formed => exact formed_post posts (s.registrants i) [serverId]
  case fresh =>
    intro c absent
    have apart : c ≠ (s.registrants i).connection := by
      rintro rfl
      exact absent (posts.kept i isOpen).issued
    dsimp only [Enrolment.post]
    rw [Function.update_of_ne apart]
    exact posts.fresh c absent
  case single =>
    intro j k isOpen' isOpen'' equal
    dsimp only [Enrolment.post] at isOpen' isOpen'' equal
    rw [(link j).1] at isOpen'
    rw [(link k).1] at isOpen''
    rw [(link j).2,(link k).2] at equal
    exact posts.single j k isOpen' isOpen'' equal
  case kept =>
    intro j isOpen'
    dsimp only [Enrolment.post] at isOpen' ⊢
    rw [(link j).1] at isOpen'
    rw [(link j).2]
    by_cases same : j = i
    · subst same
      rw [Function.update_self,setRegistrant_registrants,if_pos rfl]
      refine ⟨(posts.kept j isOpen').issued,fun packet here => ?_,fun quiet => ?_⟩
      · rw [List.map_singleton,List.getLast?_concat] at here
        exact ⟨given,(Option.some.inj here).symm⟩
      · simp at quiet
    · rw [Function.update_of_ne (others isOpen' same),setRegistrant_registrants,if_neg same]
      exact posts.kept j isOpen'

/-- A server is told an id. -/
theorem Posts.update (posts : Posts s log) {i serverId : Nat} {client : RegisterServerClient} {posted : List Nat}
    (updated : (s.registrants i).client.updateServerId serverId = some (client,posted)) :
    Posts ((s.setRegistrant i { s.registrants i with client }).post (s.registrants i) posted) log := by
  rw [RegisterServerClient.updateServerId] at updated
  split at updated
  · cases updated
  · next given =>
    split at updated
    · obtain ⟨rfl,rfl⟩ := Prod.mk.inj (Option.some.inj updated)
      have same : s.setRegistrant i { s.registrants i with client := (s.registrants i).client } = s := by
        rw [Enrolment.setRegistrant,Function.update_eq_self]
      rw [same,post_nothing]
      exact posts
    · obtain ⟨rfl,rfl⟩ := Prod.mk.inj (Option.some.inj updated)
      by_cases isOpen : (s.registrants i).client.isOpen = true
      · rw [if_pos isOpen]
        exact posts.repost given isOpen
      · rw [if_neg isOpen,post_nothing]
        exact posts.close i (Bool.eq_false_iff.mpr isOpen)

/-- A server connects, and posts the id that it goes by. -/
theorem Posts.connect (posts : Posts s log) {i c : Nat} {connections : Storage keys (Option UserContext)}
    (acquired : s.registry.connections.acquire (fun _ => none) = some (c,connections)) {r : Registrant}
    (connection : r.connection = c)
    (valid : Valid { s.registry with connections } (registryLog (log ++ [.registry (.accepted c)]))) :
    Posts { (s.setRegistrant i r).post r (if r.client.serverId ≠ 0 then [r.client.serverId] else []) with
      registry := { s.registry with connections } } (log ++ [.registry (.accepted c)]) := by
  subst connection
  obtain ⟨-,new⟩ := Storage.acquired_fresh acquired
  have issued := Storage.issued_acquire acquired
  have silent := posts.fresh _ new
  have others {j : Nat} (isOpen : (s.registrants j).client.isOpen = true) :
      (s.registrants j).connection ≠ r.connection := by
    intro same
    exact new (same ▸ (posts.kept j isOpen).issued)
  constructor
  case valid => exact valid
  case formed => exact formed_post posts r _
  case fresh =>
    intro c absent
    obtain ⟨apart,old⟩ := not_or.mp (mt (issued c).mpr absent)
    dsimp only [Enrolment.post]
    rw [Function.update_of_ne apart]
    exact posts.fresh c old
  case single =>
    intro j k isOpen isOpen' equal
    dsimp only [Enrolment.post] at isOpen isOpen' equal
    rw [setRegistrant_registrants] at isOpen isOpen' equal
    rw [setRegistrant_registrants] at equal
    by_cases first : j = i <;> by_cases second : k = i
    · exact first.trans second.symm
    · rw [if_neg second] at isOpen' equal
      rw [if_pos first] at equal
      exact absurd equal.symm (others isOpen')
    · rw [if_neg first] at isOpen equal
      rw [if_pos second] at equal
      exact absurd equal (others isOpen)
    · rw [if_neg first] at isOpen equal
      rw [if_neg second] at isOpen' equal
      exact posts.single j k isOpen isOpen' equal
  case kept =>
    intro j isOpen
    dsimp only [Enrolment.post] at isOpen ⊢
    rw [setRegistrant_registrants] at isOpen ⊢
    split at isOpen
    · next same =>
      rw [if_pos same,Function.update_self]
      refine ⟨(issued _).mpr (.inl rfl),fun packet here => ?_,fun quiet _ => ?_⟩
      · have silent' : (s.setRegistrant i r).requests r.connection = [] := silent
        rw [silent',List.nil_append] at here
        split at here
        · next given =>
          rw [List.map_singleton,List.getLast?_singleton] at here
          exact ⟨given,(Option.some.inj here).symm⟩
        · cases here
      · have found : connections.find? r.connection = some none := by
          rw [Storage.find?_acquire acquired,if_pos rfl]
        simp only [found]
        by_contra given
        rw [if_pos given] at quiet
        simp at quiet
    · next apart =>
      rw [if_neg apart,Function.update_of_ne (others isOpen)]
      have found : connections.find? (s.registrants j).connection =
          s.registry.connections.find? (s.registrants j).connection := by
        rw [Storage.find?_acquire acquired,if_neg (others isOpen)]
      have done : registryLog (log ++ [.registry (.accepted r.connection)]) =
          registryLog log ++ [.accepted r.connection] := registryLog_append log [.accepted r.connection]
      rw [done]
      exact (posts.kept j isOpen).later ((issued _).mpr (.inr (posts.kept j isOpen).issued)) (.inr found)

/-- The registry does something that gives no connection another entry. -/
theorem Posts.elsewhere (posts : Posts s log) {registry : RegisterServerService keys} {out : List RegisterAction}
    (valid : Valid registry (registryLog log ++ out))
    (issued : ∀ c, registry.connections.Issued c ↔ s.registry.connections.Issued c)
    (same : ∀ c, registry.connections.find? c = none ∨
      registry.connections.find? c = s.registry.connections.find? c) :
    Posts { s with registry } (log ++ out.map .registry) := by
  refine ⟨?_,posts.formed,fun c absent => posts.fresh c (mt (issued c).mpr absent),posts.single,
    fun i isOpen => ?_⟩
  · rw [registryLog_append]
    exact valid
  · rw [registryLog_append]
    exact (posts.kept i isOpen).later ((issued _).mpr (posts.kept i isOpen).issued) (same _)

/-- What the registry does with a request on a connection that is open. -/
theorem registers_or_refuses (grow : Nat → Nat) {registry : RegisterServerService keys} (running : registry.undefined = false)
    {c : Nat} {context : Option UserContext} (found : registry.connections.find? c = some context)
    (kind : ServerKind) (request : RegisterRequest) :
    (registry.step grow (.clientPacket c (.register kind (some request))) = (registry,[.refused c])) ∨
    ∃ serverListManager pointer a, context = none ∧
      registry.step grow (.clientPacket c (.register kind (some request))) =
        ({ registry with
            serverListManager
            connections := registry.connections.modify c (fun _ => some ⟨kind,pointer⟩) },
          [a,.registered c kind request.serverId]) := by
  have dispatched : registry.step grow (.clientPacket c (.register kind (some request))) =
      registry.onRegister grow kind c context (some request) := by
    cases kind <;> simp [RegisterServerService.step,running,found,onClientPacket,onRegisterAuthCacheServer,
      onRegisterAuditDeviceServer,onRegisterAuditAccountServer]
  rw [dispatched]
  unfold onRegister
  cases context with
  | some p => exact .inl rfl
  | none =>
    dsimp only
    split
    · exact .inl rfl
    · exact .inr ⟨_,_,_,rfl,rfl⟩

/-- The registry reads what was posted on a connection. -/
theorem Posts.reads (posts : Posts s log) {c : Nat} {packet : RegisterPacket} {rest : List RegisterPacket}
    (here : s.requests c = packet :: rest) :
    Posts ({ s with requests := Function.update s.requests c rest }.atRegistry grow (.clientPacket c packet)).1
      (log ++ ({ s with requests := Function.update s.requests c rest }.atRegistry grow (.clientPacket c packet)).2) := by
  have valid : Valid (s.registry.step grow (.clientPacket c packet)).1
      (registryLog log ++ (s.registry.step grow (.clientPacket c packet)).2) := valid_step posts.valid _ trivial
  obtain ⟨kind,request,rfl⟩ := posts.formed c packet (by rw [here]; exact List.mem_cons_self)
  have shorter {packet' : RegisterPacket} (last : rest.getLast? = some packet') :
      (s.requests c).getLast? = some packet' := by
    rw [here,List.getLast?_cons,last]
    rfl
  have issued : s.registry.connections.Issued c := by
    by_contra absent
    rw [posts.fresh c absent] at here
    cases here
  -- what holds of the connections that the packet is not on
  have whole {registry : RegisterServerService keys} {out : List RegisterAction}
      (valid : Valid registry (registryLog log ++ out))
      (issued : ∀ c, registry.connections.Issued c ↔ s.registry.connections.Issued c)
      (same : ∀ c', c' ≠ c → registry.connections.find? c' = s.registry.connections.find? c')
      (settled : ∀ r : Registrant, r.connection = c → Kept s.registry (registryLog log) (s.requests c) r →
        rest = [] → .refused c ∉ registryLog log ++ out → match registry.connections.find? c with
          | none => True
          | some none => r.client.serverId = 0
          | some (some _) => r.client.serverId ≠ 0 ∧
              .registered c r.kind r.client.serverId ∈ registryLog log ++ out) :
      Posts { s with registry, requests := Function.update s.requests c rest } (log ++ out.map .registry) := by
    refine ⟨?_,fun c' packet' member => ?_,fun c' absent => ?_,posts.single,fun i isOpen => ?_⟩
    · rw [registryLog_append]
      exact valid
    · dsimp only at member
      by_cases equal : c' = c
      · rw [equal,Function.update_self] at member
        exact posts.formed c packet' (by rw [here]; exact List.mem_cons_of_mem _ member)
      · rw [Function.update_of_ne equal] at member
        exact posts.formed c' packet' member
    · have old := mt (issued c').mpr absent
      have apart : c' ≠ c := by
        rintro rfl
        rw [posts.fresh c' old] at here
        cases here
      dsimp only
      rw [Function.update_of_ne apart]
      exact posts.fresh c' old
    · rw [registryLog_append]
      have kept := posts.kept i isOpen
      dsimp only
      by_cases equal : (s.registrants i).connection = c
      · rw [equal,Function.update_self]
        rw [equal] at kept
        refine ⟨(issued _).mpr kept.issued,fun packet' last => kept.last packet' (shorter last),
          fun quiet accepted => ?_⟩
        rw [equal] at accepted ⊢
        exact settled _ equal kept quiet accepted
      · rw [Function.update_of_ne equal]
        exact kept.later ((issued _).mpr kept.issued) (.inr (same _ equal))
  have step : ({ s with requests := Function.update s.requests c rest }.atRegistry grow
      (.clientPacket c (.register kind (some request)))) =
        ({ s with registry := (s.registry.step grow (.clientPacket c (.register kind (some request)))).1,
                  requests := Function.update s.requests c rest },
          (s.registry.step grow (.clientPacket c (.register kind (some request)))).2.map .registry) := rfl
  rw [step]
  cases found : s.registry.connections.find? c with
  | none =>
    have lost : s.registry.step grow (.clientPacket c (.register kind (some request))) = (s.registry,[]) := by
      simp [RegisterServerService.step,posts.valid.running,found]
    rw [lost] at valid ⊢
    refine whole valid (fun c => Iff.rfl) (fun _ _ => rfl) fun r _ _ _ _ => ?_
    simp only [found]
  | some context =>
    rcases registers_or_refuses grow posts.valid.running found kind request with
      refused | ⟨serverListManager,pointer,a,rfl,registered⟩
    · rw [refused] at valid ⊢
      refine whole valid (fun c => Iff.rfl) (fun _ _ => rfl) fun r _ _ _ accepted => ?_
      exact absurd (List.mem_append_right _ (List.mem_singleton.mpr rfl)) accepted
    · rw [registered] at valid ⊢
      refine whole valid (fun c => Iff.rfl) (fun c' apart => ?_) fun r equal kept quiet _ => ?_
      · dsimp only
        rw [Storage.find?_modify,if_neg apart]
      · have now : (s.registry.connections.modify c (fun _ => some ⟨kind,pointer⟩)).find? c =
            some (some ⟨kind,pointer⟩) := by
          rw [Storage.find?_modify,if_pos rfl,found]
          rfl
        simp only [now]
        obtain ⟨given,same⟩ := kept.last (.register kind (some request)) (by rw [here,quiet]; rfl)
        rw [Registrant.postServerId] at same
        obtain ⟨rfl,whole⟩ := RegisterPacket.register.inj same
        obtain rfl := Option.some.inj whole
        exact ⟨given,by simp⟩

/-- Closing a connection takes it, or there was none. -/
theorem connections_clientClose (grow : Nat → Nat) (registry : RegisterServerService keys) (c : Nat) :
    (registry.step grow (.clientClose c)).1.connections = registry.connections ∨
      (registry.step grow (.clientClose c)).1.connections = registry.connections.release c := by
  rw [RegisterServerService.step]
  split
  · exact .inl rfl
  · split
    · exact .inl rfl
    · next context _ =>
      refine .inr ?_
      cases context with
      | none => rfl
      | some p =>
        rw [onClientClose]
        dsimp only
        split <;> rfl

theorem posts_step (posts : Posts s log) {e : EnrolEvent} (tidy : Tidy s log e) :
    Posts (s.step grow e).1 (log ++ (s.step grow e).2) := by
  have running := posts.valid.running
  have idle : Posts s (log ++ []) := by rwa [List.append_nil]
  cases e with
  | updateServerId i serverId =>
    rw [Enrolment.step]
    split
    · have gone := posts.close i (r := { s.registrants i with client := {} }) rfl
      have same : registryLog (log ++ [.assertion i]) = registryLog log := by
        simp [registryLog,List.filterMap_append]
      exact ⟨same ▸ gone.valid,gone.formed,gone.fresh,gone.single,fun j isOpen => same ▸ gone.kept j isOpen⟩
    · next updated =>
      rw [List.append_nil]
      exact posts.update updated
  | connect i =>
    rw [Enrolment.step]
    dsimp only
    split
    · exact idle
    · have valid : Valid (s.registry.step grow .clientConnected).1
          (registryLog log ++ (s.registry.step grow .clientConnected).2) := valid_step posts.valid _ trivial
      cases acquired : s.registry.connections.acquire (fun _ => none) with
      | none =>
        have refused : s.registry.step grow .clientConnected = (s.registry,[]) := by
          simp [RegisterServerService.step,running,acquired]
        rw [refused]
        exact idle
      | some pair =>
        have accepted : s.registry.step grow .clientConnected =
            ({ s.registry with connections := pair.2 },[.accepted pair.1]) := by
          simp [RegisterServerService.step,running,acquired]
        rw [accepted] at valid ⊢
        refine posts.connect acquired rfl ?_
        have done : registryLog (log ++ [.registry (.accepted pair.1)]) = registryLog log ++ [.accepted pair.1] :=
          registryLog_append log [.accepted pair.1]
        rw [done]
        exact valid
  | registryReads c =>
    rw [Enrolment.step]
    split
    · exact idle
    · next here => exact posts.reads here
  | registryCloses c =>
    have connections := connections_clientClose grow s.registry c
    have issued (c' : Nat) : (s.registry.step grow (.clientClose c)).1.connections.Issued c' ↔
        s.registry.connections.Issued c' := by
      rcases connections with same | released
      · rw [same]
      · rw [released,Storage.issued_release]
    have fewer (c' : Nat) : (s.registry.step grow (.clientClose c)).1.connections.find? c' = none ∨
        (s.registry.step grow (.clientClose c)).1.connections.find? c' = s.registry.connections.find? c' := by
      rcases connections with same | released
      · exact .inr (by rw [same])
      · rw [released,Storage.find?_release]
        split
        · exact .inl rfl
        · exact .inr rfl
    have valid : Valid (s.registry.step grow (.clientClose c)).1
        (registryLog log ++ (s.registry.step grow (.clientClose c)).2) := valid_step posts.valid _ tidy
    exact posts.elsewhere valid issued fewer
  | clientCloses i =>
    rw [Enrolment.step,List.append_nil]
    exact posts.close i rfl
  | tick nowMS =>
    have same : (s.registry.step grow (.tick nowMS)).1.connections = s.registry.connections := by
      simp [RegisterServerService.step,running]
    have issued (c : Nat) : (s.registry.step grow (.tick nowMS)).1.connections.Issued c ↔
        s.registry.connections.Issued c := by rw [same]
    have found (c : Nat) : (s.registry.step grow (.tick nowMS)).1.connections.find? c =
        s.registry.connections.find? c := by rw [same]
    have valid : Valid (s.registry.step grow (.tick nowMS)).1
        (registryLog log ++ (s.registry.step grow (.tick nowMS)).2) := valid_step posts.valid _ trivial
    exact posts.elsewhere valid issued (fun c => .inr (found c))

theorem posts_reach (reach : (enrolMachine grow keys).Reach Tidy s log) : Posts s log := by
  apply reach.invariant (I := Posts)
  · rintro _ ⟨maxConnections,registrants,down,rfl⟩
    exact posts_init maxConnections down
  · intro s log e _ tidy posts
    exact posts_step posts tidy

/-- The server is connected, nothing is on its way, and the registry has not turned it away. -/
structure Enrolled (s : Enrolment keys) (log : List EnrolAction) (i : Nat) : Prop where
  isOpen : (s.registrants i).client.isOpen = true
  open_ : Open s.registry (s.registrants i).connection
  quiet : s.requests (s.registrants i).connection = []
  accepted : .refused (s.registrants i).connection ∉ registryLog log

/-- The registry and a server agree. -/
theorem Posts.agrees (posts : Posts s log) {i : Nat} (enrolled : Enrolled s log i) (kind : ServerKind) (id : Nat) :
    .registered (s.registrants i).connection kind id ∈ registryLog log ↔
      kind = (s.registrants i).kind ∧ id = (s.registrants i).client.serverId ∧ id ≠ 0 := by
  have settled := (posts.kept i enrolled.isOpen).settled enrolled.quiet enrolled.accepted
  split at settled
  · next closed => exact absurd closed enrolled.open_
  · next bare =>
    constructor
    · exact fun member => absurd member (posts.valid.bare _ (.inl bare) kind id)
    · rintro ⟨-,rfl,given⟩
      exact absurd settled given
  · next p found =>
    obtain ⟨serverId,only⟩ := posts.valid.own _ p found
    obtain ⟨given,registered⟩ := settled
    obtain ⟨own,rfl⟩ := (only _ _).mp registered
    rw [only,own]
    constructor
    · rintro ⟨rfl,rfl⟩
      exact ⟨rfl,rfl,given⟩
    · rintro ⟨rfl,rfl,-⟩
      exact ⟨rfl,rfl⟩

/-- In every run in which closing connections find their entries in place: of a server that is connected,
with nothing on its way, and that was not turned away, the registry has the id that the server goes by, and no
other. That id is listed, and no second server of the kind has it. -/
theorem enrolled_under_own_id (reach : (enrolMachine grow keys).Reach Tidy s log) :
    (∀ i, Enrolled s log i → ∀ kind id,
      .registered (s.registrants i).connection kind id ∈ registryLog log ↔
        kind = (s.registrants i).kind ∧ id = (s.registrants i).client.serverId ∧ id ≠ 0) ∧
    (∀ i, Enrolled s log i → (s.registrants i).client.serverId ≠ 0 →
      Live s.registry (s.registrants i).kind (s.registrants i).client.serverId) ∧
    ∀ i j, Enrolled s log i → Enrolled s log j → (s.registrants i).kind = (s.registrants j).kind →
      (s.registrants i).client.serverId = (s.registrants j).client.serverId →
      (s.registrants i).client.serverId ≠ 0 → i = j := by
  have posts := posts_reach reach
  have own {i : Nat} (enrolled : Enrolled s log i) (given : (s.registrants i).client.serverId ≠ 0) :=
    (posts.agrees enrolled _ _).mpr ⟨rfl,rfl,given⟩
  refine ⟨fun i enrolled => posts.agrees enrolled,fun i enrolled given => ?_,?_⟩
  · exact (posts.valid.live _ _).mpr ⟨_,enrolled.open_,own enrolled given⟩
  · intro i j enrolled enrolled' kind same given
    have first := own enrolled given
    have second := own enrolled' (same ▸ given)
    rw [kind,same] at first
    have connection := posts.valid.single _ _ _ _ enrolled.open_ enrolled'.open_ first second
    exact posts.single i j enrolled.isOpen enrolled'.isOpen connection

/-- Two servers register. The second one loses its connection, is given another id, and registers again. -/
def twoEnrol : List EnrolEvent :=
  [.updateServerId 1 5,.connect 1,.connect 2,.registryReads 1,.updateServerId 2 6,.registryReads 2,
    .registryCloses 2,.clientCloses 2,.updateServerId 2 7,.connect 2,.registryReads 3]

def nobodyEnrolled : Enrolment .sequential :=
  { registry := .init .sequential 8, registrants := fun _ => ⟨.authCache,.unspecified,{},0⟩ }

abbrev enrolment (es : List EnrolEvent) : Enrolment .sequential × List EnrolAction :=
  (enrolMachine doubling .sequential).run nobodyEnrolled es

theorem enrolled_under_own_id_two :
    (∀ kind id, .registered 3 kind id ∈ registryLog (enrolment twoEnrol).2 ↔ kind = .authCache ∧ id = 7 ∧ id ≠ 0) ∧
      Live (enrolment twoEnrol).1.registry .authCache 5 ∧ Live (enrolment twoEnrol).1.registry .authCache 7 := by
  have start : (enrolMachine doubling .sequential).start nobodyEnrolled :=
    ⟨8,fun _ => ⟨.authCache,.unspecified,{},0⟩,fun _ => rfl,rfl⟩
  have allowed : (enrolMachine doubling .sequential).Allowed Tidy nobodyEnrolled [] twoEnrol := by
    have inPlace : InPlace (enrolment (twoEnrol.take 6)).1.registry (registryLog (enrolment (twoEnrol.take 6)).2)
      (.clientClose 2) := by decide +kernel
    exact ⟨trivial,trivial,trivial,trivial,trivial,trivial,inPlace,trivial,trivial,trivial,trivial,trivial⟩
  have reach : (enrolMachine doubling .sequential).Reach Tidy (enrolment twoEnrol).1 (enrolment twoEnrol).2 := by
    simpa using Machine.Reach.run (.start start) twoEnrol allowed
  have enrolled (i : Nat) (is : i = 1 ∨ i = 2) : Enrolled (enrolment twoEnrol).1 (enrolment twoEnrol).2 i := by
    rcases is with rfl | rfl
    · exact ⟨by decide +kernel,by decide +kernel,by decide +kernel,by decide +kernel⟩
    · exact ⟨by decide +kernel,by decide +kernel,by decide +kernel,by decide +kernel⟩
  obtain ⟨own,live,-⟩ := enrolled_under_own_id reach
  exact ⟨own 2 (enrolled 2 (.inr rfl)),
    live 1 (enrolled 1 (.inl rfl)) (by decide +kernel),live 2 (enrolled 2 (.inr rfl)) (by decide +kernel)⟩

end MiniPP.Registry
