import MiniPP.Directory.Provenance

/-! What a client that is up to date lists. Where closing connections find their entries and lists do not pile
up at a client, it has each server that is served by the center and enrolled at the registry once, under the id
that the center has for it, and nobody who has left. -/
namespace MiniPP.Directory

open Registry ServerId RegisterServerService

variable {σ : Type} {keys registryKeys : KeySource} {cfg : Config} {ids : ObjectIdManager σ} {grow : Nat → Nat}
  {sorting : Sorting ListedServer.serverId} {s : System σ keys registryKeys} {log : List Action}

/-- A connection that closes finds its entry where the registry has put it, a list arrives only at a client that
has none, and the versions do not start over. -/
def Orderly (cfg : Config) (s : System σ keys registryKeys) (log : List Action) : Event → Prop
  | .registryCloses c => InPlace s.registry (registerLog log) (.clientClose c)
  | .registryTicks nowMS => ∀ kind, ((s.registry.serverListManager.lists kind).onTick nowMS).2 = true →
    (s.registry.serverListManager.lists kind).version + 1 < 2^32
  | .peer j .deliver => Replaces (cfg.downloads j) (s.download j) [] .deliver
  | _ => True

/-! ## The registry and its servers -/

/-- The log of the registry, as the log of the part of the servers and the registry. -/
def enrolLog (log : List Action) : List EnrolAction := (registerLog log).map .registry

theorem registryLog_enrolLog (log : List Action) : registryLog (enrolLog log) = registerLog log := by
  have all := registryLog_append [] (registerLog log)
  rw [List.nil_append] at all
  rw [enrolLog,all]
  rfl

/-- Only what the registry did counts. -/
theorem posts_congr {s : Enrolment registryKeys} {log log' : List EnrolAction} (posts : Posts s log)
    (same : registryLog log' = registryLog log) : Posts s log' where
  valid := same ▸ posts.valid
  formed := posts.formed
  fresh := posts.fresh
  single := posts.single
  kept i isOpen := same ▸ posts.kept i isOpen

/-- What the part of the servers and the registry does, the whole does. -/
theorem posts_simulate (grow : Nat → Nat) (posts : Posts (s.enrolment cfg) (enrolLog log))
    {s' : System σ keys registryKeys} {out : List Action} {e : EnrolEvent} (tidy : Tidy (s.enrolment cfg) (enrolLog log) e)
    (step : (s.enrolment cfg).step grow e = (s'.enrolment cfg,(registerLog out).map .registry)) :
    Posts (s'.enrolment cfg) (enrolLog (log ++ out)) := by
  have after : Posts ((s.enrolment cfg).step grow e).1 (enrolLog log ++ ((s.enrolment cfg).step grow e).2) :=
    posts_step posts tidy
  rw [step] at after
  refine posts_congr after ?_
  rw [registryLog_enrolLog,registerLog_append,registryLog_append,registryLog_enrolLog]

theorem registerLog_connected (c i : Nat) (out : List FleetAction) :
    registerLog (.registry (.accepted c) :: .connected i c :: out.map .fleet) = [.accepted c] := by
  change RegisterAction.accepted c :: registerLog (out.map .fleet) = _
  rw [registerLog_fleet]

/-- One server changes. -/
theorem enrolment_change {s' : System σ keys registryKeys} {i c : Nat} {r : RegisterServerClient}
    (clients : s'.fleet.registerServerClient = Function.update s.fleet.registerServerClient i r)
    (connections : s'.registrations = Function.update s.registrations i c) (requests : s'.requests = s.requests) :
    s'.enrolment cfg = { (s.enrolment cfg).setRegistrant i { s.registrant cfg i with client := r, connection := c } with
      registry := s'.registry } := by
  have registrants : s'.registrant cfg =
      Function.update (s.registrant cfg) i { s.registrant cfg i with client := r, connection := c } := by
    funext j
    rw [System.registrant,clients,connections]
    by_cases same : j = i
    · subst same
      rw [Function.update_self,Function.update_self,Function.update_self]
      rfl
    · rw [Function.update_of_ne same,Function.update_of_ne same,Function.update_of_ne same]
      rfl
  rw [System.enrolment,registrants,requests]
  rfl

theorem enrolment_fleet {fleet : Fleet σ keys} {i : Nat} {r : RegisterServerClient}
    (changed : fleet.registerServerClient = Function.update s.fleet.registerServerClient i r) :
    { s with fleet }.enrolment cfg =
      (s.enrolment cfg).setRegistrant i { s.registrant cfg i with client := r } :=
  enrolment_change changed (Function.update_eq_self i s.registrations).symm rfl

theorem enrolment_quiet {out : List FleetAction} (quiet : ∀ i serverId, .registers i serverId ∉ out) :
    (s.post cfg out).enrolment cfg = s.enrolment cfg := by
  have nothing (c : Nat) : (s.post cfg out).requests c = s.requests c := by
    refine List.append_right_eq_self.mpr (List.filterMap_eq_nil_iff.mpr fun a member => ?_)
    cases a with
    | registers i serverId => exact absurd member (quiet i serverId)
    | _ => rfl
  have same : (s.post cfg out).requests = s.requests := funext nothing
  rw [System.enrolment,same]
  rfl

/-- What one server posts is posted on its connection. -/
theorem enrolment_post {i : Nat} {r : Registrant} (connection : r.connection = s.registrations i)
    (kind : r.kind = cfg.kind i) (address : r.exportServerAddress = cfg.exportServerAddress i) (posted : List Nat) :
    (s.post cfg (posted.map (.registers i))).enrolment cfg = (s.enrolment cfg).post r posted := by
  have requests : (s.post cfg (posted.map (.registers i))).requests =
      Function.update s.requests r.connection (s.requests r.connection ++ posted.map r.postServerId) := by
    funext c
    rw [System.post]
    dsimp only
    rw [List.filterMap_map]
    by_cases same : c = r.connection
    · subst same
      rw [Function.update_self,← List.filterMap_eq_map]
      congr 2
      funext serverId
      simp [connection,Registrant.postServerId,System.registrant,kind,address]
    · rw [Function.update_of_ne same,List.filterMap_eq_nil_iff.mpr,List.append_nil]
      intro serverId _
      rw [connection] at same
      simp [Ne.symm same]
  rw [System.enrolment,requests]
  rfl

theorem posts_fleet (posts : Posts (s.enrolment cfg) (enrolLog log)) {e : FleetEvent}
    (other : ∀ i, e ≠ .registerConnected i) :
    Posts ((s.fleetStep cfg ids e).1.enrolment cfg) (enrolLog (log ++ (s.fleetStep cfg ids e).2)) := by
  have same : enrolLog (log ++ (s.fleetStep cfg ids e).2) = enrolLog log := by
    rw [enrolLog,registerLog_append,System.fleetStep,registerLog_fleet,List.append_nil]
    rfl
  rw [same,System.fleetStep]
  have registering : Registering s.fleet e (s.fleet.step ids e) := step_registering s.fleet e
  generalize s.fleet.step ids e = result at registering
  cases registering with
  | @kept _ fleet out same quiet =>
    dsimp only
    rw [enrolment_quiet quiet]
    have unchanged : { s with fleet }.enrolment cfg = s.enrolment cfg := by
      have registrants : { s with fleet }.registrant cfg = s.registrant cfg := by
        funext i
        rw [System.registrant,same]
        rfl
      rw [System.enrolment,registrants]
      rfl
    rwa [unchanged]
  | @closed _ fleet out i r closed changed quiet =>
    dsimp only
    rw [enrolment_quiet quiet,enrolment_fleet changed]
    exact posts.close i closed
  | @updated _ fleet i serverId r posted updated changed =>
    have heard : { s with fleet }.post cfg (.updated i serverId :: posted.map (.registers i)) =
        { s with fleet }.post cfg (posted.map (.registers i)) := rfl
    have post : ({ s with fleet }.post cfg (posted.map (.registers i))).enrolment cfg =
        ({ s with fleet }.enrolment cfg).post (s.registrant cfg i) posted := enrolment_post rfl rfl rfl posted
    dsimp only
    rw [heard,post,enrolment_fleet changed]
    exact posts.update updated
  | @connected _ i changed => exact absurd rfl (other i)

theorem connect_accepted {s : Enrolment registryKeys} {i c : Nat} {registry : RegisterServerService registryKeys}
    (closed : (s.registrants i).client.isOpen = false)
    (accepted : s.registry.step grow .clientConnected = (registry,[.accepted c])) :
    s.step grow (.connect i) =
      let r := { s.registrants i with client := (s.registrants i).client.onServerConnected.1, connection := c }
      ({ (s.setRegistrant i r).post r (s.registrants i).client.onServerConnected.2 with registry },
        [.registry (.accepted c)]) := by
  rw [Enrolment.step]
  dsimp only
  rw [closed,accepted]
  rfl

/-- A server that connects. -/
theorem posts_connects (posts : Posts (s.enrolment cfg) (enrolLog log)) {i c : Nat} {p : ServerProcess}
    {registry : RegisterServerService registryKeys} (up : (s.fleet.hosts i).process = some p)
    (closed : p.registerServerClient.isOpen = false)
    (accepted : s.registry.step grow .clientConnected = (registry,[.accepted c])) :
    Posts (({ s with registry, registrations := Function.update s.registrations i c }.fleetStep cfg ids
        (.registerConnected i)).1.enrolment cfg)
      (enrolLog (log ++ .registry (.accepted c) :: .connected i c ::
        ({ s with registry, registrations := Function.update s.registrations i c }.fleetStep cfg ids
          (.registerConnected i)).2)) := by
  have client : ((s.enrolment cfg).registrants i).client = p.registerServerClient := registerServerClient_up up
  have stepped : s.fleet.step ids (.registerConnected i) = (s.fleet.setHost i { s.fleet.hosts i with
      process := some { p with registerServerClient := p.registerServerClient.onServerConnected.1 } },
      p.registerServerClient.onServerConnected.2.map (.registers i)) := by
    rw [Fleet.step,Fleet.onProcess,up]
  have whole : System.enrolment cfg { s with
      registry, registrations := Function.update s.registrations i c
      fleet := s.fleet.setHost i { s.fleet.hosts i with
        process := some { p with registerServerClient := p.registerServerClient.onServerConnected.1 } } } =
      { (s.enrolment cfg).setRegistrant i { (s.enrolment cfg).registrants i with
          client := p.registerServerClient.onServerConnected.1, connection := c } with registry } :=
    enrolment_change (registerServerClient_setHost i _) rfl rfl
  refine posts_simulate grow posts (e := .connect i) trivial ?_
  rw [connect_accepted (client ▸ closed) accepted,System.fleetStep]
  dsimp only
  rw [stepped,client]
  dsimp only
  rw [registerLog_connected,enrolment_post (r := { (s.enrolment cfg).registrants i with
    client := p.registerServerClient.onServerConnected.1, connection := c }) ?_ rfl rfl,whole]
  · rfl
  · dsimp only
    rw [Function.update_self]

/-- A server that the registry does not take. -/
theorem refused_idle {registry : RegisterServerService registryKeys} {out : List RegisterAction}
    (running : s.registry.undefined = false) (refused : s.registry.step grow .clientConnected = (registry,out))
    (none : ∀ c, out ≠ [.accepted c]) : registry = s.registry ∧ out = [] := by
  rw [RegisterServerService.step,running] at refused
  cases acquired : s.registry.connections.acquire (fun _ => Option.none) with
  | none =>
    simp only [acquired,Bool.false_eq_true,if_false] at refused
    obtain ⟨rfl,rfl⟩ := Prod.mk.inj refused
    exact ⟨rfl,rfl⟩
  | some pair =>
    simp only [acquired,Bool.false_eq_true,if_false] at refused
    exact absurd (Prod.mk.inj refused).2.symm (none pair.1)

theorem posts_registryStep (posts : Posts (s.enrolment cfg) (enrolLog log)) {s' : System σ keys registryKeys}
    {e : RegisterEvent} {m : EnrolEvent} (tidy : Tidy (s.enrolment cfg) (enrolLog log) m)
    (step : (s.enrolment cfg).step grow m = (s'.enrolment cfg).atRegistry grow e) :
    Posts ((s'.registryStep grow e).1.enrolment cfg) (enrolLog (log ++ (s'.registryStep grow e).2)) := by
  refine posts_simulate grow posts tidy ?_
  rw [step,System.registryStep]
  dsimp only
  rw [registerLog_registry]
  rfl

theorem enrolment_step (posts : Posts (s.enrolment cfg) (enrolLog log)) {e : Event} (orderly : Orderly cfg s log e) :
    Posts ((s.step cfg ids grow sorting e).1.enrolment cfg)
      (enrolLog (log ++ (s.step cfg ids grow sorting e).2)) := by
  have outcome : Outcome cfg ids grow sorting s e (s.step cfg ids grow sorting e) := step_outcome s e
  generalize s.step cfg ids grow sorting e = result at outcome
  have idle : Posts (s.enrolment cfg) (enrolLog (log ++ [])) := by rwa [List.append_nil]
  cases outcome with
  | idle => exact idle
  | fleet other => exact posts_fleet posts other
  | connects up closed accepted => exact posts_connects posts up closed accepted
  | refused refused none =>
    obtain ⟨rfl,rfl⟩ := refused_idle posts.valid.running refused none
    exact idle
  | @reads c packet rest here =>
    refine posts_registryStep (m := .registryReads c) posts trivial ?_
    have waiting : (s.enrolment cfg).requests c = packet :: rest := here
    rw [Enrolment.step,waiting]
    rfl
  | closes c =>
    refine posts_registryStep (m := .registryCloses c) posts ?_ rfl
    rw [Tidy,registryLog_enrolLog]
    exact orderly
  | tick nowMS => exact posts_registryStep (m := .tick nowMS) posts trivial rfl
  | peer own => exact idle
  | restart j => exact idle

/-! ## Whose the entries are -/

/-- A live entry is of the server whose open connection registered it, and no other server had that connection. -/
structure Owning (cfg : Config) (s : System σ keys registryKeys) (log : List Action) : Prop where
  issued : ∀ i c, .connected i c ∈ log → s.registry.connections.Issued c
  keyed : ∀ i i' c, .connected i c ∈ log → .connected i' c ∈ log → i = i'
  owned : ∀ kind, ∀ info ∈ (s.registry.serverListManager.lists kind).infoList.items, ∃ i c,
    Open s.registry c ∧ cfg.kind i = kind ∧ cfg.exportServerAddress i = info.serverAddress ∧
      .connected i c ∈ log ∧ .registry (.registered c kind info.serverId) ∈ log

/-- The registry stays, and no server connects to it. -/
theorem Owning.keep (owning : Owning cfg s log) {s' : System σ keys registryKeys} {out : List Action}
    (registry : s'.registry = s.registry) (unconnected : ∀ i c, .connected i c ∉ out) :
    Owning cfg s' (log ++ out) := by
  have old {i c : Nat} (member : .connected i c ∈ log ++ out) : .connected i c ∈ log :=
    (List.mem_append.mp member).resolve_right (unconnected i c)
  refine ⟨fun i c member => ?_,fun i i' c member member' => owning.keyed i i' c (old member) (old member'),?_⟩
  · rw [registry]
    exact owning.issued i c (old member)
  · rw [registry]
    intro kind info inside
    obtain ⟨i,c,open_,same,address,connected,registered⟩ := owning.owned kind info inside
    exact ⟨i,c,open_,same,address,List.mem_append_left _ connected,List.mem_append_left _ registered⟩

/-- The registry goes on with the connections that it has. -/
theorem Owning.goOn (owning : Owning cfg s log) {s' : System σ keys registryKeys} {out : List RegisterAction}
    (issued : ∀ c, s.registry.connections.Issued c → s'.registry.connections.Issued c)
    (owned : ∀ kind, ∀ info ∈ (s'.registry.serverListManager.lists kind).infoList.items, ∃ i c,
      Open s'.registry c ∧ cfg.kind i = kind ∧ cfg.exportServerAddress i = info.serverAddress ∧
        .connected i c ∈ log ∧ (.registry (.registered c kind info.serverId) ∈ log ∨
          .registered c kind info.serverId ∈ out)) : Owning cfg s' (log ++ out.map .registry) := by
  have old {i c : Nat} (member : .connected i c ∈ log ++ out.map .registry) : .connected i c ∈ log := by
    simpa using member
  refine ⟨fun i c member => issued c (owning.issued i c (old member)),
    fun i i' c member member' => owning.keyed i i' c (old member) (old member'),fun kind info inside => ?_⟩
  obtain ⟨i,c,open_,same,address,connected,registered⟩ := owned kind info inside
  refine ⟨i,c,open_,same,address,List.mem_append_left _ connected,?_⟩
  rcases registered with before | now
  · exact List.mem_append_left _ before
  · exact List.mem_append_right _ (List.mem_map.mpr ⟨_,now,rfl⟩)

/-- What the registry does other than to take or to close a connection. -/
theorem Owning.registryStep (owning : Owning cfg s log) (s' : System σ keys registryKeys)
    (same : s'.registry = s.registry) {e : RegisterEvent} (stays : ∀ c, e ≠ .clientClose c)
    (posted : ∀ c kind r, e = .clientPacket c (.register kind (some r)) →
      ∃ i, cfg.kind i = kind ∧ cfg.exportServerAddress i = r.exportServerAddress ∧ .connected i c ∈ log) :
    Owning cfg (s'.registryStep grow e).1 (log ++ (s'.registryStep grow e).2) := by
  rw [System.registryStep,same]
  dsimp only
  have kept (c : Nat) := step_connections grow s.registry e c
  refine owning.goOn (fun c => (kept c).2) ?_
  have lists := step_lists grow s.registry e
  generalize s.registry.step grow e = result at lists kept ⊢
  intro kind info inside
  have before (inside : info ∈ (s.registry.serverListManager.lists kind).infoList.items) : ∃ i c,
      Open result.1 c ∧ cfg.kind i = kind ∧ cfg.exportServerAddress i = info.serverAddress ∧
        .connected i c ∈ log ∧ (.registry (.registered c kind info.serverId) ∈ log ∨
          .registered c kind info.serverId ∈ result.2) := by
    obtain ⟨i,c,open_,same,address,connected,registered⟩ := owning.owned kind info inside
    exact ⟨i,c,(kept c).1 open_ stays,same,address,connected,.inl registered⟩
  cases lists with
  | none same silent unregistered =>
    dsimp only at inside
    rw [same] at inside
    exact before inside
  | @added c kind' r manager pointer _ bare added manager =>
    obtain ⟨infoList,-,placed,rfl⟩ := InternalServerListManager.addServerInfo_spec added
    dsimp only at inside
    rw [manager,InternalServerListManager.lists_setList] at inside
    split at inside
    · next here =>
      subst here
      dsimp only at inside
      rw [GrowArray.items_of_emplace placed] at inside
      rcases SortedBy.mem_insert.mp inside with rfl | present
      · obtain ⟨i,own,address,connected⟩ := posted c kind r rfl
        have open_ : Open s.registry c := by
          rw [Open,bare]
          exact Option.some_ne_none _
        exact ⟨i,c,(kept c).1 open_ stays,own,address,connected,.inr (by simp)⟩
      · exact before present
    · exact before inside
  | removed kind' serverId manager => exact absurd rfl (stays _)
  | tick manager =>
    dsimp only at inside
    rw [manager,InternalServerListManager.infoList_onTick] at inside
    exact before inside

/-- A connection that closes takes its own entry with it. -/
theorem Owning.close (owning : Owning cfg s log) (valid : Valid s.registry (registerLog log)) {c : Nat}
    (inPlace : InPlace s.registry (registerLog log) (.clientClose c)) :
    Owning cfg (s.registryStep grow (.clientClose c)).1 (log ++ (s.registryStep grow (.clientClose c)).2) := by
  rw [System.registryStep]
  dsimp only
  by_cases known : Open s.registry c
  · have own : ClosesOwn grow s.registry (registerLog log) c := (closed_inPlace valid known inPlace).2
    obtain ⟨-,members⟩ := own
    refine owning.goOn (fun c' => (step_connections grow s.registry _ c').2) fun kind info inside => ?_
    obtain ⟨old,left⟩ := (members kind info).mp inside
    obtain ⟨i,c',open_,same,address,connected,registered⟩ := owning.owned kind info old
    have apart : c' ≠ c := by
      rintro rfl
      exact left (mem_registerLog.mpr registered)
    refine ⟨i,c',?_,same,address,connected,.inl registered⟩
    rcases connections_clientClose grow s.registry c with kept | released
    · rwa [Open,kept]
    · rwa [Open,released,Storage.find?_release,if_neg apart]
  · have gone : s.registry.connections.find? c = none := not_not.mp known
    have idle : s.registry.step grow (.clientClose c) = (s.registry,[]) := by
      simp [RegisterServerService.step,valid.running,gone]
    rw [idle]
    exact owning.keep rfl (by simp)

/-- A connection that the registry takes is a new one. -/
theorem accepted_fresh {registry registry' : RegisterServerService registryKeys} {c : Nat}
    (accepted : registry.step grow .clientConnected = (registry',[.accepted c])) :
    ¬ registry.connections.Issued c ∧ registry'.connections.Issued c ∧
      registry'.serverListManager = registry.serverListManager := by
  rw [RegisterServerService.step] at accepted
  split at accepted
  · cases (Prod.mk.inj accepted).2
  · split at accepted
    · cases (Prod.mk.inj accepted).2
    · next c' connections acquired =>
      obtain ⟨rfl,same⟩ := Prod.mk.inj accepted
      obtain rfl := RegisterAction.accepted.inj (List.cons.inj same).1
      exact ⟨(Storage.acquired_fresh acquired).2,(Storage.issued_acquire acquired c').mpr (.inl rfl),rfl⟩

theorem Owning.connects (owning : Owning cfg s log) {i c : Nat} {registry : RegisterServerService registryKeys}
    (accepted : s.registry.step grow .clientConnected = (registry,[.accepted c]))
    {s' : System σ keys registryKeys} (same : s'.registry = registry) (out : List FleetAction) :
    Owning cfg s' (log ++ .registry (.accepted c) :: .connected i c :: out.map .fleet) := by
  obtain ⟨new,issued,manager⟩ := accepted_fresh accepted
  have kept (c' : Nat) := step_connections grow s.registry .clientConnected c'
  rw [accepted] at kept
  have among {j c' : Nat} (member : .connected j c' ∈ log ++ .registry (.accepted c) :: .connected i c :: out.map .fleet) :
      .connected j c' ∈ log ∨ j = i ∧ c' = c := by simpa using member
  refine ⟨fun j c' member => ?_,fun j j' c' member member' => ?_,fun kind info inside => ?_⟩
  · rw [same]
    rcases among member with old | ⟨-,rfl⟩
    · exact (kept c').2 (owning.issued j c' old)
    · exact issued
  · rcases among member with old | ⟨first,fresh⟩ <;> rcases among member' with old' | ⟨second,fresh'⟩
    · exact owning.keyed j j' c' old old'
    · exact absurd (owning.issued j c' old) (fresh' ▸ new)
    · exact absurd (owning.issued j' c' old') (fresh ▸ new)
    · exact first.trans second.symm
  · rw [same,manager] at inside
    obtain ⟨j,c',open_,own,address,connected,registered⟩ := owning.owned kind info inside
    refine ⟨j,c',?_,own,address,List.mem_append_left _ connected,List.mem_append_left _ registered⟩
    rw [same]
    exact (kept c').1 open_ (by simp)

theorem owning_step (posted : Posted cfg ids s log) (valid : Valid s.registry (registerLog log))
    (owning : Owning cfg s log) {e : Event} (orderly : Orderly cfg s log e) :
    Owning cfg (s.step cfg ids grow sorting e).1 (log ++ (s.step cfg ids grow sorting e).2) := by
  have outcome : Outcome cfg ids grow sorting s e (s.step cfg ids grow sorting e) := step_outcome s e
  generalize s.step cfg ids grow sorting e = result at outcome
  cases outcome with
  | idle => exact owning.keep rfl (by simp)
  | fleet other => exact owning.keep rfl (by simp [System.fleetStep])
  | connects up closed accepted => exact owning.connects accepted rfl _
  | refused refused none =>
    obtain ⟨rfl,rfl⟩ := refused_idle valid.running refused none
    exact owning.keep rfl (by simp)
  | @reads c packet rest here =>
    refine owning.registryStep { s with requests := Function.update s.requests c rest } rfl (by simp) ?_
    intro c' kind r same
    obtain ⟨i,own,address,connected,-⟩ := posted.read here same
    exact ⟨i,own,address,connected⟩
  | closes c => exact owning.close valid orderly
  | tick nowMS => exact owning.registryStep s rfl (by simp) fun c kind r same => by cases same
  | peer own => exact owning.keep rfl (by simp)
  | restart j => exact owning.keep rfl (by simp)

/-! ## What the clients have -/

/-- The actions on the lists. -/
abbrev listsLog (log : List Action) : List ListAction := listLog (registerLog log)

structure Tracking (cfg : Config) (s : System σ keys registryKeys) (log : List Action) : Prop where
  unpublished : ∀ kind, publishedList kind 0 (listsLog log) = []
  tracks : ∀ j, Tracks (cfg.downloads j) (s.download j) (listsLog log)

/-- No version 0 is published. -/
theorem published_some (grow : Nat → Nat) (registry : RegisterServerService registryKeys) (e : RegisterEvent)
    (kind : ServerKind) (list : List ServerInfo) :
    .published kind 0 list ∉ listLog (registry.step grow e).2 := by
  have lists := step_lists grow registry e
  generalize registry.step grow e = result at lists
  cases lists with
  | none same silent unregistered => simp [silent]
  | added bare added manager => simp [listLog]
  | removed kind' serverId manager =>
    rw [listLog_list]
    rcases registry.serverListManager.removeServerInfo_spec kind' serverId with ⟨-,same⟩ | ⟨i,-,same⟩
    · simp [same]
    · simp [same]
  | @tick nowMS s' manager =>
    rw [listLog_list]
    intro member
    obtain ⟨kind',due,same⟩ := InternalServerListManager.mem_onTick.mp member
    rw [ServerInfoList.onTick_due due] at same
    exact nextVersion_some _ (ListAction.published.inj same).2.1.symm

/-- What the registry does is for a client an event of the lists, or nothing. -/
theorem Tracking.registry (grow : Nat → Nat) (tracking : Tracking cfg s log) (e : RegisterEvent)
    (ordered : ∀ nowMS, e = .tick nowMS → ∀ kind,
      ((s.registry.serverListManager.lists kind).onTick nowMS).2 = true →
        (s.registry.serverListManager.lists kind).version + 1 < 2^32)
    (s' : System σ keys registryKeys) (registry : s'.registry = (s.registry.step grow e).1)
    (service : s'.service = s.service) (peers : s'.peers = s.peers) {out : List Action}
    (logged : registerLog out = (s.registry.step grow e).2) : Tracking cfg s' (log ++ out) := by
  have lists := step_lists grow s.registry e
  have version (kind : ServerKind) : publishedList kind 0 (listsLog (log ++ out)) = [] := by
    rw [listsLog,registerLog_append,logged,listLog_append,publishedList_same]
    · exact tracking.unpublished kind
    · exact published_some grow s.registry e kind
  refine ⟨version,fun j => ?_⟩
  have now : s'.download j = { s.download j with manager := s'.registry.serverListManager } := by
    rw [System.download,service,peers]
    rfl
  have tracks := tracking.tracks j
  rw [now,registry,listsLog,registerLog_append,logged,listLog_append]
  clear now version
  generalize s.registry.step grow e = result at lists
  cases lists with
  | none same silent unregistered =>
    rw [silent,List.append_nil]
    dsimp only
    rw [same]
    exact tracks
  | @added c kind r m pointer s' bare added manager =>
    have call : s.registry.serverListManager.step grow (.addServerInfo kind r.serverId r.exportServerAddress) =
        (m,[.added kind r.serverId s.registry.serverListManager.ticker]) := by
      simp only [InternalServerListManager.step,added]
    have stepped : Tracks (cfg.downloads j) { s.download j with
        manager := (s.registry.serverListManager.step grow
          (.addServerInfo kind r.serverId r.exportServerAddress)).1 }
        (listsLog log ++ (s.registry.serverListManager.step grow
          (.addServerInfo kind r.serverId r.exportServerAddress)).2) := tracks_manager tracks _ trivial
    rw [call] at stepped
    dsimp only
    rw [manager]
    exact stepped
  | removed kind serverId manager =>
    have stepped : Tracks (cfg.downloads j) { s.download j with
        manager := (s.registry.serverListManager.step grow (.removeServerInfo kind serverId)).1 }
        (listsLog log ++ (s.registry.serverListManager.step grow (.removeServerInfo kind serverId)).2) :=
      tracks_manager tracks _ trivial
    dsimp only
    rw [manager,listLog_list]
    exact stepped
  | @tick nowMS s' manager =>
    have stepped : Tracks (cfg.downloads j) { s.download j with
        manager := (s.registry.serverListManager.step grow (.tick nowMS)).1 }
        (listsLog log ++ (s.registry.serverListManager.step grow (.tick nowMS)).2) :=
      tracks_manager tracks _ (ordered nowMS rfl _)
    dsimp only
    rw [manager,listLog_list]
    exact stepped

theorem Tracking.registryStep (tracking : Tracking cfg s log) (s' : System σ keys registryKeys)
    (same : s'.registry = s.registry) (service : s'.service = s.service) (peers : s'.peers = s.peers)
    {e : RegisterEvent} (ordered : ∀ nowMS, e = .tick nowMS → ∀ kind,
      ((s.registry.serverListManager.lists kind).onTick nowMS).2 = true →
        (s.registry.serverListManager.lists kind).version + 1 < 2^32) :
    Tracking cfg (s'.registryStep grow e).1 (log ++ (s'.registryStep grow e).2) := by
  rw [System.registryStep,same]
  exact tracking.registry grow e ordered { s' with registry := (s.registry.step grow e).1 } rfl service peers
    (registerLog_registry _)

/-- Neither the registry nor the clients move. -/
theorem Tracking.keep (tracking : Tracking cfg s log) {s' : System σ keys registryKeys} {out : List Action}
    (same : ∀ j, s'.download j = s.download j) (silent : registerLog out = []) : Tracking cfg s' (log ++ out) := by
  have lists : listsLog (log ++ out) = listsLog log := by
    rw [listsLog,registerLog_append,silent,List.append_nil]
  refine ⟨fun kind => ?_,fun j => ?_⟩
  · rw [lists]
    exact tracking.unpublished kind
  · rw [lists,same]
    exact tracking.tracks j

/-- What a client does by itself leaves the lists as they are. -/
theorem download_own (grow : Nat → Nat) (sorting : Sorting ListedServer.serverId) (d : DownloadSystem)
    (kind : ServerKind) {e : DownloadEvent} (own : foreign e = false) :
    (d.step grow sorting kind e).1.manager = d.manager ∧ (d.step grow sorting kind e).2 = [] := by
  cases e with
  | list e => cases own
  | otherDownload kind' version => cases own
  | connect timestampMS =>
    rw [DownloadSystem.step]
    split <;> exact ⟨rfl,rfl⟩
  | disconnect => exact ⟨rfl,rfl⟩
  | setUpdateInterval intervalMS => exact ⟨rfl,rfl⟩
  | tick nowMS timestampMS => exact ⟨rfl,rfl⟩
  | serve =>
    rw [DownloadSystem.step]
    split <;> exact ⟨rfl,rfl⟩
  | deliver =>
    rw [DownloadSystem.step]
    split
    · exact ⟨rfl,rfl⟩
    · split <;> exact ⟨rfl,rfl⟩

theorem Tracking.peer (tracking : Tracking cfg s log) {j : Nat} {e : DownloadEvent} (own : foreign e = false)
    (orderly : Orderly cfg s log (.peer j e)) :
    Tracking cfg (s.setDownload j ((s.download j).step grow sorting (cfg.downloads j) e).1) log := by
  have replaces : Replaces (cfg.downloads j) (s.download j) (listsLog log) e := by
    cases e with
    | list e => cases own
    | deliver => exact orderly
    | _ => trivial
  have stepped : Tracks (cfg.downloads j) ((s.download j).step grow sorting (cfg.downloads j) e).1
      (listsLog log ++ ((s.download j).step grow sorting (cfg.downloads j) e).2) :=
    tracks_step (tracking.tracks j) e replaces
  obtain ⟨manager,silent⟩ := download_own grow sorting (s.download j) (cfg.downloads j) own
  obtain ⟨service,-⟩ := download_step grow sorting (s.download j) (cfg.downloads j) own
  rw [silent,List.append_nil] at stepped
  generalize ((s.download j).step grow sorting (cfg.downloads j) e).1 = d at stepped manager service ⊢
  refine ⟨tracking.unpublished,fun k => ?_⟩
  by_cases same : k = j
  · subst same
    have whole : (s.setDownload k d).download k = d := by
      obtain ⟨m,service',client,connected,requests,responses⟩ := d
      obtain rfl : m = s.registry.serverListManager := manager
      simp only [System.download,System.setDownload,Function.update_self]
    rwa [whole]
  · have others : (s.setDownload j d).download k = { s.download k with service := d.service } := by
      simp only [System.download,System.setDownload,Function.update_of_ne same]
    rw [others]
    rcases service with ⟨kept,-⟩ | ⟨requested,kept,-⟩
    · rw [kept]
      exact tracking.tracks k
    · have other : Tracks (cfg.downloads k) ((s.download k).step grow sorting (cfg.downloads k)
          (.otherDownload (cfg.downloads j) requested)).1 (listsLog log ++ []) :=
        tracks_step (tracking.tracks k) (.otherDownload (cfg.downloads j) requested) trivial
      rw [kept]
      rwa [List.append_nil] at other

/-- A client that starts anew has the first version, which is empty. -/
theorem Tracking.restart (tracking : Tracking cfg s log) (j : Nat) :
    Tracking cfg { s with peers := Function.update s.peers j {} } log := by
  refine ⟨tracking.unpublished,fun k => ?_⟩
  obtain ⟨sorted,current,ordered,unset,-,-,-,-,-,-⟩ := tracking.tracks k
  by_cases same : k = j
  · subst same
    have blank : System.download { s with peers := Function.update s.peers k {} } k =
        { manager := s.registry.serverListManager, service := s.service } := by
      simp only [System.download,Function.update_self]
    rw [blank]
    refine ⟨sorted,current,ordered,unset,Nat.zero_le _,by simp,by simp,List.Pairwise.nil,by simp,?_⟩
    have nothing := tracking.unpublished (cfg.downloads k)
    dsimp only
    rw [nothing]
    rfl
  · have others : System.download { s with peers := Function.update s.peers j {} } k = s.download k := by
      simp only [System.download,Function.update_of_ne same]
    rw [others]
    exact tracking.tracks k

theorem tracking_step (running : s.registry.undefined = false) (tracking : Tracking cfg s log) {e : Event}
    (orderly : Orderly cfg s log e) :
    Tracking cfg (s.step cfg ids grow sorting e).1 (log ++ (s.step cfg ids grow sorting e).2) := by
  have outcome : Outcome cfg ids grow sorting s e (s.step cfg ids grow sorting e) := step_outcome s e
  generalize s.step cfg ids grow sorting e = result at outcome
  have same (j : Nat) : s.download j = s.download j := rfl
  cases outcome with
  | idle => exact tracking.keep same rfl
  | fleet other => exact tracking.keep same (registerLog_fleet _)
  | @connects i c p registry up closed accepted =>
    have registry' : registry = (s.registry.step grow .clientConnected).1 := by rw [accepted]
    have logged (out : List FleetAction) :
        registerLog (.registry (.accepted c) :: .connected i c :: out.map .fleet) =
          (s.registry.step grow .clientConnected).2 := by
      rw [accepted]
      exact registerLog_connected c i out
    exact tracking.registry grow .clientConnected (by simp) (System.fleetStep cfg ids
      { s with registry, registrations := Function.update s.registrations i c } (.registerConnected i)).1
      registry' rfl rfl (logged _)
  | refused refused none =>
    obtain ⟨rfl,rfl⟩ := refused_idle running refused none
    exact tracking.keep same rfl
  | @reads c packet rest here =>
    exact tracking.registryStep { s with requests := Function.update s.requests c rest } rfl rfl rfl (by simp)
  | closes c => exact tracking.registryStep s rfl rfl rfl (by simp)
  | tick nowMS =>
    refine tracking.registryStep s rfl rfl rfl fun nowMS' same => ?_
    obtain rfl := RegisterEvent.tick.inj same
    exact orderly
  | peer own =>
    rw [List.append_nil]
    exact tracking.peer own orderly
  | restart j =>
    rw [List.append_nil]
    exact tracking.restart j

/-! ## Runs -/

/-- The client has the version that the registry hands out, and the registry has published the list as it is. -/
def UpToDate (cfg : Config) (s : System σ keys registryKeys) (j : Nat) : Prop :=
  (s.peers j).client.serverListVersion = (s.registry.serverListManager.lists (cfg.downloads j)).version ∧
    (s.registry.serverListManager.lists (cfg.downloads j)).versionedInfoList =
      (s.registry.serverListManager.lists (cfg.downloads j)).infoList.items

theorem orderly_reach (reach : (systemMachine cfg ids grow sorting keys registryKeys).Reach (Orderly cfg) s log) :
    Posts (s.enrolment cfg) (enrolLog log) ∧ Owning cfg s log ∧ Tracking cfg s log := by
  apply reach.invariant (I := fun s log =>
    Posts (s.enrolment cfg) (enrolLog log) ∧ Owning cfg s log ∧ Tracking cfg s log)
  · rintro _ ⟨_,maxConnections,⟨maxIdIndex,files,rfl⟩,rfl⟩
    refine ⟨posts_init maxConnections fun i => rfl,⟨fun i c member => ?_,fun i i' c member => ?_,
      fun kind info inside => ?_⟩,fun kind => rfl,fun j => tracks_init 0 0⟩
    · cases member
    · cases member
    · cases inside
  · rintro s log e before orderly ⟨posts,owning,tracking⟩
    have valid : Valid s.registry (registerLog log) := by
      rw [← registryLog_enrolLog]
      exact posts.valid
    exact ⟨enrolment_step posts orderly,owning_step (sourced_reach before).1 valid owning orderly,
      tracking_step valid.running tracking orderly⟩

/-- In every orderly run: for each server of its kind that the center serves and that is enrolled at the registry,
a client that is up to date has one entry under the id that the center has for it, and that at its address; and
every entry that it has is of a server that is still connected to the registry and has registered it. -/
theorem up_to_date_lists_served
    (reach : (systemMachine cfg ids grow sorting keys registryKeys).Reach (Orderly cfg) s log) {j : Nat}
    (upToDate : UpToDate cfg s j) :
    (∀ i serverId, cfg.kind i = cfg.downloads j → Served s.fleet i serverId →
      Enrolled (s.enrolment cfg) (enrolLog log) i →
        (s.peers j).client.sortedServerInfoList.filter (fun e => e.serverId = serverId) =
          [⟨serverId,cfg.exportServerAddress i⟩]) ∧
      ∀ e ∈ (s.peers j).client.sortedServerInfoList, ∃ i c, cfg.kind i = cfg.downloads j ∧
        cfg.exportServerAddress i = e.address ∧ Open s.registry c ∧ .connected i c ∈ log ∧
        .registry (.registered c (cfg.downloads j) e.serverId) ∈ log := by
  obtain ⟨posted,-⟩ := sourced_reach reach
  obtain ⟨posts,owning,tracking⟩ := orderly_reach reach
  obtain ⟨version,published⟩ := upToDate
  have tracks := tracking.tracks j
  have list : (s.peers j).client.sortedServerInfoList =
      listed (s.registry.serverListManager.lists (cfg.downloads j)).infoList.items := by
    have agrees : (s.peers j).client.sortedServerInfoList = listed (publishedList (cfg.downloads j)
      (s.peers j).client.serverListVersion (listsLog log)) := tracks.agrees
    have current : publishedList (cfg.downloads j) (s.registry.serverListManager.lists (cfg.downloads j)).version
      (listsLog log) = (s.registry.serverListManager.lists (cfg.downloads j)).versionedInfoList := tracks.current
    rw [agrees,version,current,published]
  constructor
  · intro i serverId kind served enrolled
    obtain ⟨p,c,up,connection,quiet,silent,found⟩ := served
    obtain ⟨given,-,registered⟩ := posted.linked.served i p c serverId up connection quiet silent found
    have goesBy : (s.fleet.registerServerClient i).serverId = serverId := by rw [registerServerClient_up up,registered]
    have own : .registered (s.registrations i) (cfg.kind i) serverId ∈ registryLog (enrolLog log) :=
      (posts.agrees enrolled (cfg.kind i) serverId).mpr ⟨rfl,goesBy.symm,given⟩
    obtain ⟨info,inside,same⟩ := (posts.valid.live _ _).mpr ⟨_,enrolled.open_,own⟩
    obtain ⟨i',c',open_,kind',address,connected,registered'⟩ := owning.owned _ info inside
    -- the entry is of this server, since nobody else has registered the id on an open connection
    have here : c' = s.registrations i := by
      refine posts.valid.single c' _ (cfg.kind i) serverId open_ enrolled.open_ ?_ own
      rw [registryLog_enrolLog,← same]
      exact mem_registerLog.mpr registered'
    obtain rfl : i' = i := owning.keyed i' i c' connected (here ▸ posted.connected i enrolled.isOpen)
    have entry : ⟨serverId,cfg.exportServerAddress i'⟩ ∈
        listed (s.registry.serverListManager.lists (cfg.downloads j)).infoList.items := by
      rw [← kind,address,← same]
      exact List.mem_map.mpr ⟨info,inside,rfl⟩
    rw [list]
    exact SortedBy.filter_key (sorted_listed (tracks.sorted _)) entry
  · intro e member
    rw [list] at member
    obtain ⟨info,inside,rfl⟩ := List.mem_map.mp member
    obtain ⟨i,c,open_,own,address,connected,registered⟩ := owning.owned _ info inside
    exact ⟨i,c,own,address,open_,connected,registered⟩

theorem up_to_date_lists_served_found :
    ((directory isFound).1.peers 0).client.sortedServerInfoList.filter (fun e => e.serverId = firstId.toNat) =
      [⟨firstId.toNat,.unspecified⟩] := by
  have orderly : (systemMachine authCaches hundredIds doubling insertion .sequential .sequential).Allowed
      (Orderly authCaches) smallDirectory [] isFound := by
    refine ⟨trivial,trivial,trivial,trivial,trivial,trivial,fun kind _ => ?_,trivial,trivial,fun r _ _ _ => ?_,trivial⟩
    · cases kind <;> decide +kernel
    · decide +kernel
  have reach : (systemMachine authCaches hundredIds doubling insertion .sequential .sequential).Reach
      (Orderly authCaches) (directory isFound).1 (directory isFound).2 := by
    simpa using Machine.Reach.run (.start smallDirectory_start) isFound orderly
  have upToDate : UpToDate authCaches (directory isFound).1 0 := ⟨by decide +kernel,by decide +kernel⟩
  have served : Served (directory isFound).1.fleet 1 firstId.toNat :=
    ⟨⟨⟨firstId.toNat,some 1⟩,⟨firstId.toNat,true⟩⟩,1,by decide +kernel,by decide +kernel,by decide +kernel,
      by decide +kernel,by decide +kernel⟩
  have enrolled : Enrolled ((directory isFound).1.enrolment authCaches) (enrolLog (directory isFound).2) 1 :=
    ⟨by decide +kernel,by decide +kernel,by decide +kernel,by decide +kernel⟩
  exact (up_to_date_lists_served reach upToDate).1 1 firstId.toNat rfl served enrolled

end MiniPP.Directory
