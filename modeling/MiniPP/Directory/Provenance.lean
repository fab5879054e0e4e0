import MiniPP.Directory.System

/-! Where the entries that clients have are from. Whatever is lost, restarted or late, a client lists nothing but
servers of its kind, each at its own address and under an id that the center gave to it. -/
namespace MiniPP.Directory

open Registry ServerId

variable {σ : Type} {keys registryKeys : KeySource} {cfg : Config} {ids : ObjectIdManager σ} {grow : Nat → Nat}
  {sorting : Sorting ListedServer.serverId} {s : System σ keys registryKeys} {log : List Action}

/-! ## What the servers post -/

/-- A packet that is on its way on a connection is of the server that has it, and the center gave the id. -/
structure Posted (cfg : Config) (ids : ObjectIdManager σ) (s : System σ keys registryKeys) (log : List Action) :
    Prop where
  linked : Linked ids s.fleet
  gives : Gives s.fleet (fleetLog log)
  connected : ∀ i, (s.fleet.registerServerClient i).isOpen = true → .connected i (s.registrations i) ∈ log
  posted : ∀ c packet, packet ∈ s.requests c → ∃ i serverId, .connected i c ∈ log ∧
    Given (fleetLog log) i serverId ∧
    packet = .register (cfg.kind i) (some ⟨serverId,cfg.exportServerAddress i⟩)

theorem mem_post {out : List FleetAction} {c : Nat} {packet : RegisterPacket} :
    packet ∈ (s.post cfg out).requests c ↔ packet ∈ s.requests c ∨
      ∃ i serverId, .registers i serverId ∈ out ∧ s.registrations i = c ∧
        packet = .register (cfg.kind i) (some ⟨serverId,cfg.exportServerAddress i⟩) := by
  simp only [System.post,List.mem_append,List.mem_filterMap]
  refine or_congr_right ⟨?_,?_⟩
  · rintro ⟨a,member,posted⟩
    cases a with
    | registers i serverId =>
      dsimp only at posted
      split at posted
      · next here => exact ⟨i,serverId,member,here,(Option.some.inj posted).symm⟩
      · cases posted
    | _ => cases posted
  · rintro ⟨i,serverId,member,rfl,rfl⟩
    exact ⟨_,member,if_pos rfl⟩

/-- The servers and the center stay, and nothing is posted. -/
theorem Posted.keep (posted : Posted cfg ids s log) {s' : System σ keys registryKeys} {out : List Action}
    (fleet : s'.fleet = s.fleet) (registrations : s'.registrations = s.registrations)
    (requests : ∀ c packet, packet ∈ s'.requests c → packet ∈ s.requests c) (silent : fleetLog out = []) :
    Posted cfg ids s' (log ++ out) where
  linked := fleet ▸ posted.linked
  gives := by
    rw [fleet,fleetLog_append,silent,List.append_nil]
    exact posted.gives
  connected i isOpen := by
    rw [fleet] at isOpen
    rw [registrations]
    exact List.mem_append_left _ (posted.connected i isOpen)
  posted c packet member := by
    obtain ⟨i,serverId,connected,given,same⟩ := posted.posted c packet (requests c packet member)
    rw [fleetLog_append,silent,List.append_nil]
    exact ⟨i,serverId,List.mem_append_left _ connected,given,same⟩

theorem Posted.fleetStep (posted : Posted cfg ids s log) {e : FleetEvent}
    (connects : ∀ i, e = .registerConnected i → .connected i (s.registrations i) ∈ log) :
    Posted cfg ids (s.fleetStep cfg ids e).1 (log ++ (s.fleetStep cfg ids e).2) := by
  have logged : fleetLog (log ++ (s.fleetStep cfg ids e).2) = fleetLog log ++ (s.fleet.step ids e).2 := by
    rw [fleetLog_append,System.fleetStep,fleetLog_fleet]
  have gives : Gives (s.fleet.step ids e).1 (fleetLog log ++ (s.fleet.step ids e).2) :=
    gives_step posted.linked posted.gives e
  have connected {i : Nat} (isOpen : ((s.fleet.step ids e).1.registerServerClient i).isOpen = true) :
      .connected i (s.registrations i) ∈ log := by
    rcases isOpen_step isOpen with before | now
    · exact posted.connected i before
    · exact connects i now
  constructor
  case linked => exact linked_step posted.linked e
  case gives => rwa [logged]
  case connected => exact fun i isOpen => List.mem_append_left _ (connected isOpen)
  case posted =>
    intro c packet member
    rw [logged]
    rcases mem_post.mp member with old | ⟨i,serverId,registers,rfl,rfl⟩
    · obtain ⟨i,serverId,here,given,same⟩ := posted.posted c packet old
      exact ⟨i,serverId,List.mem_append_left _ here,given.later _,same⟩
    · obtain ⟨isOpen,rfl,given⟩ := registers_step registers
      exact ⟨i,_,List.mem_append_left _ (connected isOpen),gives.goesBy i given,rfl⟩

theorem posted_step (posted : Posted cfg ids s log) (e : Event) :
    Posted cfg ids (s.step cfg ids grow sorting e).1 (log ++ (s.step cfg ids grow sorting e).2) := by
  have outcome : Outcome cfg ids grow sorting s e (s.step cfg ids grow sorting e) := step_outcome s e
  generalize s.step cfg ids grow sorting e = result at outcome
  cases outcome with
  | idle => exact posted.keep rfl rfl (fun _ _ => id) rfl
  | fleet other => exact posted.fleetStep fun i same => absurd same (other i)
  | @connects i c p registry up closed accepted =>
    have split (out : List Action) : log ++ .registry (.accepted c) :: .connected i c :: out =
        (log ++ [.registry (.accepted c),.connected i c]) ++ out := by simp
    rw [split]
    have now : Posted cfg ids { s with registry, registrations := Function.update s.registrations i c }
        (log ++ [.registry (.accepted c),.connected i c]) := by
      have kept : Posted cfg ids s (log ++ [.registry (.accepted c),.connected i c]) :=
        posted.keep rfl rfl (fun _ _ => id) rfl
      obtain ⟨linked,gives,connected,requests⟩ := kept
      refine ⟨linked,gives,fun j isOpen => ?_,requests⟩
      dsimp only
      by_cases same : j = i
      · subst same
        rw [Function.update_self]
        simp
      · rw [Function.update_of_ne same]
        exact connected j isOpen
    refine now.fleetStep (e := .registerConnected i) fun j same => ?_
    obtain rfl := FleetEvent.registerConnected.inj same
    dsimp only
    rw [Function.update_self]
    simp
  | refused refused none => exact posted.keep rfl rfl (fun _ _ => id) (fleetLog_registry _)
  | @reads c packet rest here =>
    refine posted.keep rfl rfl (fun c' packet' member => ?_) (fleetLog_registry _)
    dsimp only [System.registryStep] at member
    by_cases same : c' = c
    · subst same
      rw [Function.update_self] at member
      rw [here]
      exact List.mem_cons_of_mem _ member
    · rwa [Function.update_of_ne same] at member
  | closes c => exact posted.keep rfl rfl (fun _ _ => id) (fleetLog_registry _)
  | tick nowMS => exact posted.keep rfl rfl (fun _ _ => id) (fleetLog_registry _)
  | peer own => exact posted.keep rfl rfl (fun _ _ => id) rfl
  | restart j => exact posted.keep rfl rfl (fun _ _ => id) rfl

/-- What the registry reads is from a server that says what it is. -/
theorem Posted.read (posted : Posted cfg ids s log) {c c' : Nat} {packet : RegisterPacket} {rest : List RegisterPacket}
    (here : s.requests c = packet :: rest) {kind : ServerKind} {r : RegisterRequest}
    (same : RegisterEvent.clientPacket c packet = .clientPacket c' (.register kind (some r))) :
    ∃ i, cfg.kind i = kind ∧ cfg.exportServerAddress i = r.exportServerAddress ∧ .connected i c' ∈ log ∧
      Given (fleetLog log) i r.serverId := by
  obtain ⟨rfl,rfl⟩ := RegisterEvent.clientPacket.inj same
  obtain ⟨i,serverId,connected,given,same⟩ := posted.posted c _ (by rw [here]; exact List.mem_cons_self)
  obtain ⟨rfl,request⟩ := RegisterPacket.register.inj same
  obtain rfl := Option.some.inj request
  exact ⟨i,rfl,rfl,connected,given⟩

/-! ## What the registry hands out -/

/-- A server with this kind and address registered this id on its connection, and the center gave it the id. -/
def Enlisted (cfg : Config) (log : List Action) (info : ServerInfo) : Prop :=
  ∃ i c, cfg.kind i = info.serverType ∧ cfg.exportServerAddress i = info.serverAddress ∧
    Given (fleetLog log) i info.serverId ∧ .connected i c ∈ log ∧
    .registry (.registered c info.serverType info.serverId) ∈ log

theorem Enlisted.later {info : ServerInfo} (enlisted : Enlisted cfg log info) (out : List Action) :
    Enlisted cfg (log ++ out) info := by
  obtain ⟨i,c,kind,address,given,connected,registered⟩ := enlisted
  rw [Enlisted,fleetLog_append]
  exact ⟨i,c,kind,address,given.later _,List.mem_append_left _ connected,List.mem_append_left _ registered⟩

/-- All of a list of servers of a kind. -/
def AllEnlisted (cfg : Config) (log : List Action) (kind : ServerKind) (list : List ListedServer) : Prop :=
  ∀ e ∈ list, Enlisted cfg log ⟨kind,e.serverId,e.address⟩

structure Sourced (cfg : Config) (s : System σ keys registryKeys) (log : List Action) : Prop where
  entries : s.registry.serverListManager.All (Enlisted cfg log)
  cached : ∀ kind r, (s.service.caches kind).response = some r → AllEnlisted cfg log kind r.serverInfoList
  answered : ∀ j r, r ∈ (s.peers j).responses → AllEnlisted cfg log (cfg.downloads j) r.serverInfoList
  listed : ∀ j, AllEnlisted cfg log (cfg.downloads j) (s.peers j).client.sortedServerInfoList

theorem Sourced.later (sourced : Sourced cfg s log) (out : List Action) : Sourced cfg s (log ++ out) where
  entries := sourced.entries.imp fun _ enlisted => enlisted.later out
  cached kind r here e member := (sourced.cached kind r here e member).later out
  answered j r here e member := (sourced.answered j r here e member).later out
  listed j e member := (sourced.listed j e member).later out

/-- The registry goes on, and the clients do not. -/
theorem Sourced.registry (sourced : Sourced cfg s log) {s' : System σ keys registryKeys} {out : List Action}
    (service : s'.service = s.service) (peers : s'.peers = s.peers)
    (entries : s'.registry.serverListManager.All (Enlisted cfg (log ++ out))) : Sourced cfg s' (log ++ out) := by
  have later := sourced.later out
  refine ⟨entries,?_,?_,?_⟩
  · rw [service]
    exact later.cached
  · rw [peers]
    exact later.answered
  · rw [peers]
    exact later.listed

/-- A new entry is of the server that the registry reads from. -/
theorem Sourced.registryStep (sourced : Sourced cfg s log) (s' : System σ keys registryKeys)
    (same : s'.registry = s.registry) (service : s'.service = s.service) (peers : s'.peers = s.peers)
    {e : RegisterEvent} (posted : ∀ c kind r, e = .clientPacket c (.register kind (some r)) →
      ∃ i, cfg.kind i = kind ∧ cfg.exportServerAddress i = r.exportServerAddress ∧ .connected i c ∈ log ∧
        Given (fleetLog log) i r.serverId) :
    Sourced cfg (s'.registryStep grow e).1 (log ++ (s'.registryStep grow e).2) := by
  refine sourced.registry service peers ?_
  rw [System.registryStep,same]
  dsimp only
  have lists := step_lists grow s.registry e
  have before {out : List Action} := (sourced.later out).entries
  generalize s.registry.step grow e = result at lists
  cases lists with
  | none same silent unregistered =>
    dsimp only
    rw [same]
    exact before
  | @added c kind r manager pointer _ bare added manager =>
    obtain ⟨i,rfl,address,connected,given⟩ := posted c kind r rfl
    dsimp only
    rw [manager]
    refine before.add added ⟨i,c,rfl,address,?_,List.mem_append_left _ connected,?_⟩
    · rw [fleetLog_append]
      exact given.later _
    · exact List.mem_append_right _ (by simp)
  | removed kind serverId manager =>
    dsimp only
    rw [manager]
    exact before.remove kind serverId
  | tick manager =>
    dsimp only
    rw [manager]
    exact before.tick _

/-! ## What the clients download -/

/-- The service answers with what is handed out, or with what it has answered before. -/
theorem onClientPacket_lists (m : InternalServerListManager) (service : DownloadServerService)
    (kind : ServerKind) (requested : Nat) :
    (∀ r, (service.onClientPacket m kind requested).2 = some r → r.serverInfoList = [] ∨
      r.serverInfoList = listed (m.lists kind).versionedInfoList ∨ (service.caches kind).response = some r) ∧
    ∀ kind' r, ((service.onClientPacket m kind requested).1.caches kind').response = some r →
      (service.caches kind').response = some r ∨
        kind' = kind ∧ r.serverInfoList = listed (m.lists kind).versionedInfoList := by
  have shared : service.onClientPacket m kind requested = service.onDownload kind m requested := by
    cases kind <;> rfl
  rw [shared,DownloadServerService.onDownload]
  dsimp only
  split
  · refine ⟨fun r same => ?_,fun kind' r same => .inl same⟩
    obtain rfl := Option.some.inj same
    exact .inl rfl
  · constructor
    · intro r same
      dsimp only at same
      split at same
      · obtain rfl := Option.some.inj same
        exact .inr (.inl rfl)
      · exact .inr (.inr same)
    · intro kind' r same
      dsimp only at same
      by_cases here : kind' = kind
      · subst here
        rw [Function.update_self] at same
        split at same
        · obtain rfl := Option.some.inj same
          exact .inr ⟨rfl,rfl⟩
        · exact .inl same
      · rw [Function.update_of_ne here] at same
        exact .inl same

theorem allEnlisted_versioned (sourced : Sourced cfg s log) (kind : ServerKind) :
    AllEnlisted cfg log kind (listed (s.registry.serverListManager.lists kind).versionedInfoList) := by
  intro e member
  obtain ⟨info,inside,rfl⟩ := List.mem_map.mp member
  obtain ⟨rfl,enlisted⟩ := (sourced.entries kind).2 info inside
  exact enlisted

/-- What a client does by itself brings it no entry, and what it reads was answered to it. -/
theorem download_step (grow : Nat → Nat) (sorting : Sorting ListedServer.serverId) (d : DownloadSystem)
    (kind : ServerKind) {e : DownloadEvent} (own : foreign e = false) :
    let d' := (d.step grow sorting kind e).1
    ((d'.service = d.service ∧ ∀ r ∈ d'.responses, r ∈ d.responses) ∨
      ∃ requested, d'.service = (d.service.onClientPacket d.manager kind requested).1 ∧
        ∀ r ∈ d'.responses, r ∈ d.responses ∨ (d.service.onClientPacket d.manager kind requested).2 = some r) ∧
    ∀ e ∈ d'.client.sortedServerInfoList, e ∈ d.client.sortedServerInfoList ∨
      ∃ r ∈ d.responses, e ∈ r.serverInfoList := by
  dsimp only
  cases e with
  | list e => cases own
  | otherDownload kind' version => cases own
  | connect timestampMS =>
    rw [DownloadSystem.step]
    split
    · exact ⟨.inl ⟨rfl,fun r => id⟩,fun e => .inl⟩
    · exact ⟨.inl ⟨rfl,fun r => id⟩,fun e => .inl⟩
  | disconnect => exact ⟨.inl ⟨rfl,by simp [DownloadSystem.step]⟩,fun e => .inl⟩
  | setUpdateInterval intervalMS => exact ⟨.inl ⟨rfl,fun r => id⟩,fun e => .inl⟩
  | tick nowMS timestampMS =>
    refine ⟨.inl ⟨rfl,fun r => id⟩,fun e member => .inl ?_⟩
    rw [DownloadSystem.step,DownloadSystem.post,DownloadClient.onTick] at member
    split at member <;> exact member
  | serve =>
    rw [DownloadSystem.step]
    split
    · exact ⟨.inl ⟨rfl,fun r => id⟩,fun e => .inl⟩
    · next version requests _ =>
      refine ⟨.inr ⟨version,rfl,fun r member => ?_⟩,fun e => .inl⟩
      exact (List.mem_append.mp member).imp_right Option.mem_toList.mp
  | deliver =>
    rw [DownloadSystem.step]
    split
    · exact ⟨.inl ⟨rfl,fun r => id⟩,fun e => .inl⟩
    · next r responses queue =>
      have rest (r' : DownloadResp) (member : r' ∈ responses) : r' ∈ d.responses := by
        rw [queue]
        exact List.mem_cons_of_mem _ member
      split
      · exact ⟨.inl ⟨rfl,rest⟩,fun e => .inl⟩
      · next client taken =>
        refine ⟨.inl ⟨rfl,rest⟩,fun e member => ?_⟩
        obtain ⟨-,⟨-,rfl⟩ | ⟨-,rfl⟩⟩ := onServerPacket_spec taken
        · exact .inl member
        · rcases List.mem_append.mp ((sorting.perm _).mem_iff.mp member) with old | new
          · exact .inl old
          · exact .inr ⟨r,by rw [queue]; exact List.mem_cons_self,new⟩

/-- One client changes, and has nothing that was not enlisted. -/
theorem Sourced.setPeer (sourced : Sourced cfg s log) (j : Nat) {p : Peer}
    (answered : ∀ r ∈ p.responses, AllEnlisted cfg log (cfg.downloads j) r.serverInfoList)
    (listed : AllEnlisted cfg log (cfg.downloads j) p.client.sortedServerInfoList) :
    Sourced cfg { s with peers := Function.update s.peers j p } log where
  entries := sourced.entries
  cached := sourced.cached
  answered := (Function.forall_update_iff s.peers
    (fun k p => ∀ r ∈ p.responses, AllEnlisted cfg log (cfg.downloads k) r.serverInfoList)).mpr
      ⟨answered,fun k _ => sourced.answered k⟩
  listed := (Function.forall_update_iff s.peers
    (fun k p => AllEnlisted cfg log (cfg.downloads k) p.client.sortedServerInfoList)).mpr
      ⟨listed,fun k _ => sourced.listed k⟩

theorem Sourced.peer (sourced : Sourced cfg s log) (j : Nat) {e : DownloadEvent} (own : foreign e = false) :
    Sourced cfg (s.setDownload j ((s.download j).step grow sorting (cfg.downloads j) e).1) log := by
  obtain ⟨service,list⟩ := download_step grow sorting (s.download j) (cfg.downloads j) own
  generalize ((s.download j).step grow sorting (cfg.downloads j) e).1 = d at service list
  have versioned := allEnlisted_versioned sourced (cfg.downloads j)
  have now : Sourced cfg { s with peers := Function.update s.peers j ⟨d.client,d.connected,d.requests,d.responses⟩ }
      log := by
    refine sourced.setPeer j (fun r member => ?_) fun e member => ?_
    · rcases service with ⟨-,before⟩ | ⟨requested,-,before⟩
      · exact sourced.answered j r (before r member)
      · rcases before r member with old | new
        · exact sourced.answered j r old
        · rcases (onClientPacket_lists _ _ _ requested).1 r new with none | now | cached
          · rw [none]
            exact fun e inside => by cases inside
          · rw [now]
            exact versioned
          · exact sourced.cached _ r cached
    · rcases list e member with old | ⟨r,answered,inside⟩
      · exact sourced.listed j e old
      · exact sourced.answered j r answered e inside
  refine ⟨now.entries,fun kind r here => ?_,now.answered,now.listed⟩
  rcases service with ⟨same,-⟩ | ⟨requested,same,-⟩
  · rw [System.setDownload,same] at here
    exact sourced.cached kind r here
  · rw [System.setDownload,same] at here
    rcases (onClientPacket_lists _ _ _ requested).2 kind r here with old | ⟨rfl,new⟩
    · exact sourced.cached kind r old
    · rw [new]
      exact versioned

theorem sourced_step (posted : Posted cfg ids s log) (sourced : Sourced cfg s log) (e : Event) :
    Sourced cfg (s.step cfg ids grow sorting e).1 (log ++ (s.step cfg ids grow sorting e).2) := by
  have outcome : Outcome cfg ids grow sorting s e (s.step cfg ids grow sorting e) := step_outcome s e
  generalize s.step cfg ids grow sorting e = result at outcome
  have idle : Sourced cfg s (log ++ []) := sourced.later []
  have connected {registry : RegisterServerService registryKeys} {out : List RegisterAction}
      (stepped : s.registry.step grow .clientConnected = (registry,out)) :
      s.registry.serverListManager = registry.serverListManager := by
    have lists := step_lists grow s.registry .clientConnected
    rw [stepped] at lists
    cases lists with
    | none same => exact same.symm
  cases outcome with
  | idle => exact idle
  | fleet other => exact sourced.registry rfl rfl (sourced.later _).entries
  | @connects i c p registry up closed accepted =>
    exact sourced.registry rfl rfl (connected accepted ▸ (sourced.later _).entries)
  | refused refused none => exact sourced.registry rfl rfl (connected refused ▸ (sourced.later _).entries)
  | @reads c packet rest here =>
    exact sourced.registryStep { s with requests := Function.update s.requests c rest } rfl rfl rfl
      fun _ _ _ => posted.read here
  | closes c => exact sourced.registryStep s rfl rfl rfl nofun
  | tick nowMS => exact sourced.registryStep s rfl rfl rfl nofun
  | peer own =>
    rw [List.append_nil]
    exact sourced.peer _ own
  | restart j =>
    rw [List.append_nil]
    exact sourced.setPeer j (fun r member => by cases member) fun e member => by cases member

/-! ## Runs -/

theorem sourced_reach {ok : System σ keys registryKeys → List Action → Event → Prop}
    (reach : (systemMachine cfg ids grow sorting keys registryKeys).Reach ok s log) :
    Posted cfg ids s log ∧ Sourced cfg s log := by
  apply reach.invariant (I := fun s log => Posted cfg ids s log ∧ Sourced cfg s log)
  · rintro _ ⟨_,maxConnections,⟨maxIdIndex,files,rfl⟩,rfl⟩
    refine ⟨⟨linked_init maxIdIndex files,gives_init _ files,fun i isOpen => ?_,fun c packet member => ?_⟩,
      ⟨InternalServerListManager.all_init 0 0,fun kind r here => ?_,fun j r member => ?_,fun j e member => ?_⟩⟩
    · cases isOpen
    · cases member
    · cases here
    · cases member
    · cases member
  · rintro s log e _ _ ⟨posted,sourced⟩
    exact ⟨posted_step posted e,sourced_step posted sourced e⟩

/-- In every run, whatever is lost, restarted or late: each entry that a client has is of a server of the
client's kind, with that server's address, and under an id that the center gave to that server and that it
registered on its own connection. -/
theorem listed_where_given
    (reach : (systemMachine cfg ids grow sorting keys registryKeys).Reach Machine.anything s log) (j : Nat) :
    ∀ e ∈ (s.peers j).client.sortedServerInfoList, ∃ i c, cfg.kind i = cfg.downloads j ∧
      cfg.exportServerAddress i = e.address ∧ Given (fleetLog log) i e.serverId ∧ .connected i c ∈ log ∧
      .registry (.registered c (cfg.downloads j) e.serverId) ∈ log := by
  intro e member
  exact (sourced_reach reach).2.listed j e member

def authCaches : Config := ⟨fun _ => .authCache,fun _ => .unspecified,fun _ => .authCache⟩

def smallDirectory : System (List Nat) .sequential .sequential :=
  { fleet := oneServer, registry := .init .sequential 8 }

theorem smallDirectory_start :
    (systemMachine authCaches hundredIds doubling insertion .sequential .sequential).start smallDirectory :=
  ⟨oneServer,8,oneServer_start,rfl⟩

abbrev directory (es : List Event) : System (List Nat) .sequential .sequential × List Action :=
  (systemMachine authCaches hundredIds doubling insertion .sequential .sequential).run smallDirectory es

/-- A server is given an id and registers, and a client downloads the list with it. -/
def isFound : List Event :=
  comesUp.map .fleet ++ [.registerConnects 1,.registryReads 1,.registryTicks 60001,.peer 0 (.connect 60001),
    .peer 0 .serve,.peer 0 .deliver]

theorem listed_where_given_found : ∃ i c, Given (fleetLog (directory isFound).2) i firstId.toNat ∧
    .connected i c ∈ (directory isFound).2 ∧
    .registry (.registered c .authCache firstId.toNat) ∈ (directory isFound).2 := by
  have member : ⟨firstId.toNat,.unspecified⟩ ∈ ((directory isFound).1.peers 0).client.sortedServerInfoList := by
    decide +kernel
  obtain ⟨i,c,-,-,given,connected,registered⟩ :=
    listed_where_given (Machine.reach_run smallDirectory_start isFound) 0 _ member
  exact ⟨i,c,given,connected,registered⟩

end MiniPP.Directory
