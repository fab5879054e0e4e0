import MiniPP.Registry.Publication

/-! A client that downloads the published list of one kind, and the service it downloads from.
Requests and answers travel in order over one connection, which can be lost and made anew. -/
namespace MiniPP.Registry

/-! ## The service -/

structure ListedServer where
  serverId : Nat
  address : NetAddress
  deriving DecidableEq, Repr

/-- The answer to a download, whichever kind it is of. -/
structure DownloadResp where
  version : Nat
  serverInfoList : List ListedServer
  deriving DecidableEq, Repr

/-- The version that is compared is never assigned, and the response is written anew each time. -/
structure DownloadCache where
  version : Nat := 0
  response : Option DownloadResp := none
  deriving DecidableEq, Repr

structure DownloadServerService where
  caches : ServerKind → DownloadCache := fun _ => {}

def listed (list : List ServerInfo) : List ListedServer :=
  list.map (fun info => ⟨info.serverId,info.serverAddress⟩)

namespace DownloadServerService

/-- What `OnDownloadAuthCacheServerList` and its two siblings share. -/
def onDownload (kind : ServerKind) (m : InternalServerListManager) (s : DownloadServerService)
    (requested : Nat) : DownloadServerService × Option DownloadResp :=
  let version := (m.lists kind).version
  if requested = version then (s,some ⟨version,[]⟩)
  else
    let cache :=
      if version ≠ (s.caches kind).version then
        { s.caches kind with response := some ⟨version,listed (m.lists kind).versionedInfoList⟩ }
      else s.caches kind
    ({ caches := Function.update s.caches kind cache },cache.response)

def onDownloadAuthCacheServerList := onDownload .authCache
def onDownloadAuditDeviceServerList := onDownload .auditDevice
def onDownloadAuditAccountServerList := onDownload .auditAccount

def onClientPacket (m : InternalServerListManager) (s : DownloadServerService) :
    ServerKind → Nat → DownloadServerService × Option DownloadResp
  | .authCache => s.onDownloadAuthCacheServerList m
  | .auditDevice => s.onDownloadAuditDeviceServerList m
  | .auditAccount => s.onDownloadAuditAccountServerList m

end DownloadServerService

/-! ## The client -/

def minUpdateIntervalMS : Nat := 60000

def maxDeviceAuditServerCount : Nat := 125

/-- The bound in `DeserializeMembers` of the answer. -/
def maxListedCount : ServerKind → Nat
  | .authCache => maxAuthCacheServerCount
  | .auditDevice | .auditAccount => maxDeviceAuditServerCount

structure DownloadClient where
  updateIntervalMS : Nat := minUpdateIntervalMS
  lastRequestTimestampMS : Nat := 0
  serverListVersion : Nat := 0
  sortedServerInfoList : List ListedServer := []
  deriving DecidableEq, Repr

namespace DownloadClient

def setUpdateInterval (c : DownloadClient) (intervalMS : Nat) : DownloadClient :=
  { c with updateIntervalMS := if intervalMS < minUpdateIntervalMS then minUpdateIntervalMS else intervalMS }

/-- The version that is asked with, and the client after it has asked. -/
def postDownloadRequest (c : DownloadClient) (timestampMS : Nat) : DownloadClient × Option Nat :=
  ({ c with lastRequestTimestampMS := timestampMS },some c.serverListVersion)

def onTick (c : DownloadClient) (nowMS timestampMS : Nat) : DownloadClient × Option Nat :=
  if sub64 nowMS c.lastRequestTimestampMS < c.updateIntervalMS then (c,none)
  else c.postDownloadRequest timestampMS

def onServerConnected (c : DownloadClient) (timestampMS : Nat) : DownloadClient × Option Nat :=
  c.postDownloadRequest timestampMS

/-- The entries are appended to those that are there. `none` is a packet that is refused. -/
def onServerPacket (sorting : Sorting ListedServer.serverId) (kind : ServerKind) (c : DownloadClient)
    (r : DownloadResp) : Option DownloadClient :=
  if maxListedCount kind ≤ r.serverInfoList.length then none
  else if c.serverListVersion = r.version then some c
  else some { c with
    sortedServerInfoList := sorting.sort (c.sortedServerInfoList ++ r.serverInfoList)
    serverListVersion := r.version }

end DownloadClient

/-! ## Both together -/

inductive DownloadEvent where
  | list (e : ListEvent)
  | otherDownload (kind : ServerKind) (version : Nat)
  | connect (timestampMS : Nat)
  | disconnect
  | setUpdateInterval (intervalMS : Nat)
  | tick (nowMS timestampMS : Nat)
  | serve
  | deliver
  deriving DecidableEq, Repr

structure DownloadSystem where
  manager : InternalServerListManager
  service : DownloadServerService := {}
  client : DownloadClient := {}
  connected : Bool := false
  requests : List Nat := []
  responses : List DownloadResp := []

namespace DownloadSystem

/-- A request is lost if there is no connection. -/
def post (s : DownloadSystem) (asked : DownloadClient × Option Nat) : DownloadSystem :=
  { s with
      client := asked.1
      requests := s.requests ++ if s.connected then asked.2.toList else [] }

def step (grow : Nat → Nat) (sorting : Sorting ListedServer.serverId) (kind : ServerKind)
    (s : DownloadSystem) : DownloadEvent → DownloadSystem × List ListAction
  | .list e =>
    let (manager,actions) := s.manager.step grow e
    ({ s with manager },actions)
  | .otherDownload kind' version =>
    ({ s with service := (s.service.onClientPacket s.manager kind' version).1 },[])
  | .connect timestampMS =>
    if s.connected then (s,[])
    else (({ s with connected := true }).post (s.client.onServerConnected timestampMS),[])
  | .disconnect => ({ s with connected := false, requests := [], responses := [] },[])
  | .setUpdateInterval intervalMS => ({ s with client := s.client.setUpdateInterval intervalMS },[])
  | .tick nowMS timestampMS => (s.post (s.client.onTick nowMS timestampMS),[])
  | .serve =>
    match s.requests with
    | [] => (s,[])
    | version :: requests =>
      let (service,response) := s.service.onClientPacket s.manager kind version
      ({ s with service, requests, responses := s.responses ++ response.toList },[])
  | .deliver =>
    match s.responses with
    | [] => (s,[])
    | r :: responses =>
      match s.client.onServerPacket sorting kind r with
      | none => ({ s with responses },[])
      | some client => ({ s with client, responses },[])

end DownloadSystem

def downloadMachine (grow : Nat → Nat) (sorting : Sorting ListedServer.serverId) (kind : ServerKind) :
    Machine DownloadSystem DownloadEvent ListAction where
  start s := ∃ ticker versionTimestampMS, s = { manager := .init ticker versionTimestampMS }
  step s e := s.step grow sorting kind e

/-- The list that was published last as this version. The first version, 0, is empty. -/
def publishedList (kind : ServerKind) (version : Nat) (log : List ListAction) : List ServerInfo :=
  log.foldl (fun list a =>
    match a with
    | .published kind' version' list' => if kind' = kind ∧ version' = version then list' else list
    | _ => list) []

/-- The client has the list of its version, in order, each server once. -/
def Agrees (kind : ServerKind) (s : DownloadSystem) (log : List ListAction) : Prop :=
  s.client.sortedServerInfoList = listed (publishedList kind s.client.serverListVersion log) ∧
    SortedBy ListedServer.serverId s.client.sortedServerInfoList

/-- A list that arrives in an answer with another version finds the client with none, and the
version numbers do not start over. -/
def Replaces (kind : ServerKind) (s : DownloadSystem) (_ : List ListAction) : DownloadEvent → Prop
  | .deliver => ∀ r ∈ s.responses.head?, r.version ≠ s.client.serverListVersion →
    r.serverInfoList.length < maxListedCount kind → s.client.sortedServerInfoList = []
  | .list (.tick nowMS) => ((s.manager.lists kind).onTick nowMS).2 = true →
    (s.manager.lists kind).version + 1 < 2^32
  | _ => True

variable {grow : Nat → Nat} {sorting : Sorting ListedServer.serverId} {kind : ServerKind}

/-! ## What has been published -/

theorem publishedList_same {version : Nat} {log out : List ListAction}
    (unpublished : ∀ list, .published kind version list ∉ out) :
    publishedList kind version (log ++ out) = publishedList kind version log := by
  unfold publishedList
  rw [List.foldl_append]
  generalize log.foldl _ [] = list
  induction out with
  | nil => rfl
  | cons a out ih =>
    rw [List.foldl_cons]
    have rest := ih (fun list member => unpublished list (List.mem_cons_of_mem a member))
    cases a with
    | added _ _ _ => exact rest
    | removed _ _ _ => exact rest
    | published kind' version' list' =>
      have other : ¬ (kind' = kind ∧ version' = version) := by
        rintro ⟨rfl,rfl⟩
        exact unpublished list' List.mem_cons_self
      simpa only [if_neg other] using rest

/-- A tick publishes at most one list of the kind. -/
theorem publishedList_tick (m : InternalServerListManager) (nowMS version : Nat) (log : List ListAction) :
    publishedList kind version (log ++ (m.onTick nowMS).2) =
      if ((m.lists kind).onTick nowMS).2 = true ∧ ((m.lists kind).onTick nowMS).1.version = version then
        ((m.lists kind).onTick nowMS).1.versionedInfoList
      else publishedList kind version log := by
  cases authCache : ((m.lists .authCache).onTick nowMS).2 <;>
    cases auditDevice : ((m.lists .auditDevice).onTick nowMS).2 <;>
    cases auditAccount : ((m.lists .auditAccount).onTick nowMS).2 <;> cases kind <;>
    simp [InternalServerListManager.onTick,InternalServerListManager.publish,publishedList,authCache,
      auditDevice,auditAccount]

/-! ## The invariant -/

structure Tracks (kind : ServerKind) (s : DownloadSystem) (log : List ListAction) : Prop where
  sorted : s.manager.Sorted
  current : publishedList kind (s.manager.lists kind).version log =
    (s.manager.lists kind).versionedInfoList
  ordered : ∀ version, SortedBy ServerInfo.serverId (publishedList kind version log)
  unset : (s.service.caches kind).version = 0
  behind : s.client.serverListVersion ≤ (s.manager.lists kind).version
  requests : ∀ version ∈ s.requests, version ≤ s.client.serverListVersion
  versions : ∀ r ∈ s.responses, s.client.serverListVersion ≤ r.version ∧
    r.version ≤ (s.manager.lists kind).version
  inOrder : s.responses.Pairwise (fun r r' => r.version ≤ r'.version)
  answers : ∀ r ∈ s.responses, r.version = s.client.serverListVersion ∨
    r.serverInfoList = listed (publishedList kind r.version log)
  agrees : s.client.sortedServerInfoList =
    listed (publishedList kind s.client.serverListVersion log)

theorem sorted_listed {list : List ServerInfo} (sorted : SortedBy ServerInfo.serverId list) :
    SortedBy ListedServer.serverId (listed list) :=
  List.pairwise_map.mpr sorted

theorem Tracks.result {s : DownloadSystem} {log : List ListAction} (valid : Tracks kind s log) :
    Agrees kind s log := by
  refine ⟨valid.agrees,?_⟩
  rw [valid.agrees]
  exact sorted_listed (valid.ordered _)

theorem tracks_init (ticker versionTimestampMS : Nat) :
    Tracks kind { manager := .init ticker versionTimestampMS } [] where
  sorted := InternalServerListManager.sorted_init ticker versionTimestampMS
  current := rfl
  ordered _ := List.Pairwise.nil
  unset := rfl
  behind := Nat.le_refl _
  requests := by simp
  versions := by simp
  inOrder := List.Pairwise.nil
  answers := by simp
  agrees := rfl

/-- The list manager goes on, and what is published for the versions in use stays. -/
private theorem tracks_list {s : DownloadSystem} {log out : List ListAction} (valid : Tracks kind s log)
    {manager : InternalServerListManager} (sorted : manager.Sorted)
    (current : publishedList kind (manager.lists kind).version (log ++ out) =
      (manager.lists kind).versionedInfoList)
    (ordered : ∀ version, SortedBy ServerInfo.serverId (publishedList kind version (log ++ out)))
    (later : (s.manager.lists kind).version ≤ (manager.lists kind).version)
    (kept : ∀ version, version ≤ (s.manager.lists kind).version →
      publishedList kind version (log ++ out) = publishedList kind version log) :
    Tracks kind { s with manager } (log ++ out) where
  sorted := sorted
  current := current
  ordered := ordered
  unset := valid.unset
  behind := Nat.le_trans valid.behind later
  requests := valid.requests
  versions r member := ⟨(valid.versions r member).1,Nat.le_trans (valid.versions r member).2 later⟩
  inOrder := valid.inOrder
  answers r member := by
    rw [kept r.version (valid.versions r member).2]
    exact valid.answers r member
  agrees := by
    rw [kept s.client.serverListVersion valid.behind]
    exact valid.agrees

/-- What is neither published nor a tick of the manager. -/
private theorem tracks_silent {s : DownloadSystem} {log out : List ListAction} (valid : Tracks kind s log)
    {manager : InternalServerListManager} (sorted : manager.Sorted)
    (version : (manager.lists kind).version = (s.manager.lists kind).version)
    (versioned : (manager.lists kind).versionedInfoList = (s.manager.lists kind).versionedInfoList)
    (silent : ∀ version list, .published kind version list ∉ out) :
    Tracks kind { s with manager } (log ++ out) := by
  have kept (version : Nat) : publishedList kind version (log ++ out) = publishedList kind version log :=
    publishedList_same (silent version)
  refine tracks_list valid sorted ?_ ?_ (Nat.le_of_eq version.symm) (fun version _ => kept version)
  · rw [kept,version,versioned]
    exact valid.current
  · intro version
    rw [kept]
    exact valid.ordered version

/-- Another live list, of which nothing is published yet. -/
private theorem tracks_relisted {s : DownloadSystem} {log out : List ListAction} (valid : Tracks kind s log)
    (kind' : ServerKind) {list : ServerInfoList}
    (sorted : (s.manager.setList kind' list).Sorted)
    (version : list.version = (s.manager.lists kind').version)
    (versioned : list.versionedInfoList = (s.manager.lists kind').versionedInfoList)
    (silent : ∀ version list, .published kind version list ∉ out) :
    Tracks kind { s with manager := s.manager.setList kind' list } (log ++ out) := by
  have kept := InternalServerListManager.versioned_setList version versioned kind
  exact tracks_silent valid sorted kept.1 kept.2 silent

theorem tracks_tick {s : DownloadSystem} {log : List ListAction} (valid : Tracks kind s log) {nowMS : Nat}
    (replaces : Replaces kind s log (.list (.tick nowMS))) :
    Tracks kind { s with manager := (s.manager.onTick nowMS).1 } (log ++ (s.manager.onTick nowMS).2) := by
  have sorted : (s.manager.onTick nowMS).1.Sorted := InternalServerListManager.sorted_onTick valid.sorted nowMS
  by_cases due : ((s.manager.lists kind).onTick nowMS).2 = true
  · have list := ServerInfoList.onTick_due due
    have version : nextVersion (s.manager.lists kind).version = (s.manager.lists kind).version + 1 := by
      simp only [nextVersion,Nat.mod_eq_of_lt (replaces due)]
      exact if_neg (Nat.succ_ne_zero _)
    apply tracks_list valid sorted
    · simp [publishedList_tick,InternalServerListManager.onTick_lists,due]
    · intro other
      rw [publishedList_tick]
      split
      · rw [list]
        exact valid.sorted kind
      · exact valid.ordered other
    · rw [InternalServerListManager.onTick_lists,list]
      dsimp only
      rw [version]
      exact Nat.le_succ _
    · intro old below
      rw [publishedList_tick,list,if_neg]
      rintro ⟨-,same⟩
      dsimp only at same
      omega
  · have list := ServerInfoList.onTick_early due
    apply tracks_silent valid sorted
    · rw [InternalServerListManager.onTick_lists,list]
    · rw [InternalServerListManager.onTick_lists,list]
    · intro version list member
      exact due (InternalServerListManager.due_of_published member)

theorem tracks_manager {s : DownloadSystem} {log : List ListAction} (valid : Tracks kind s log)
    (e : ListEvent) (replaces : Replaces kind s log (.list e)) :
    Tracks kind { s with manager := (s.manager.step grow e).1 } (log ++ (s.manager.step grow e).2) := by
  have sorted : (s.manager.step grow e).1.Sorted := InternalServerListManager.sorted_step valid.sorted e
  cases e with
  | addServerInfo kind' serverId serverAddress =>
    simp only [InternalServerListManager.step] at sorted ⊢
    cases added : s.manager.addServerInfo grow kind' serverId serverAddress with
    | none => simpa using valid
    | some pair =>
      obtain ⟨manager,pointer⟩ := pair
      obtain ⟨infoList,-,-,rfl⟩ := InternalServerListManager.addServerInfo_spec added
      rw [added] at sorted
      exact tracks_relisted valid kind' sorted rfl rfl (by simp)
  | removeServerInfo kind' serverId =>
    simp only [InternalServerListManager.step] at sorted ⊢
    rcases s.manager.removeServerInfo_spec kind' serverId with ⟨-,same⟩ | ⟨i,-,same⟩
    · rw [same,List.append_nil]
      exact valid
    · rw [same] at sorted ⊢
      exact tracks_relisted valid kind' sorted rfl rfl (by simp)
  | tick nowMS => exact tracks_tick valid replaces

/-- A request carries the client's version. -/
theorem tracks_post {s : DownloadSystem} {log : List ListAction} (valid : Tracks kind s log)
    {asked : DownloadClient × Option Nat} (version : asked.1.serverListVersion = s.client.serverListVersion)
    (list : asked.1.sortedServerInfoList = s.client.sortedServerInfoList)
    (own : ∀ v ∈ asked.2, v = s.client.serverListVersion) : Tracks kind (s.post asked) log where
  sorted := valid.sorted
  current := valid.current
  ordered := valid.ordered
  unset := valid.unset
  behind := by rw [DownloadSystem.post,version]; exact valid.behind
  requests v member := by
    rw [DownloadSystem.post,version]
    rcases List.mem_append.mp member with old | new
    · exact valid.requests v old
    · split at new
      · exact Nat.le_of_eq (own v (Option.mem_toList.mp new))
      · cases new
  versions := by rw [DownloadSystem.post,version]; exact valid.versions
  inOrder := valid.inOrder
  answers := by rw [DownloadSystem.post,version]; exact valid.answers
  agrees := by rw [DownloadSystem.post,version,list]; exact valid.agrees

/-- What the service answers, and that its own version stays unset. -/
theorem onClientPacket_spec (m : InternalServerListManager) (s : DownloadServerService)
    (kind kind' : ServerKind) (requested : Nat) (unset : (s.caches kind).version = 0) :
    ((s.onClientPacket m kind' requested).1.caches kind).version = 0 ∧
    (kind' = kind → requested ≤ (m.lists kind).version →
      ∀ r ∈ (s.onClientPacket m kind' requested).2, r.version = (m.lists kind).version ∧
        (requested = (m.lists kind).version ∨
          r.serverInfoList = listed (m.lists kind).versionedInfoList)) := by
  have shared : s.onClientPacket m kind' requested = s.onDownload kind' m requested := by
    cases kind' <;> rfl
  rw [shared]
  unfold DownloadServerService.onDownload
  dsimp only
  by_cases same : requested = (m.lists kind').version
  · rw [if_pos same]
    refine ⟨unset,?_⟩
    rintro rfl - r member
    obtain rfl := Option.some.inj member
    exact ⟨rfl,.inl same⟩
  · rw [if_neg same]
    constructor
    · dsimp only
      by_cases here : kind = kind'
      · subst here
        rw [Function.update_self]
        split <;> exact unset
      · rw [Function.update_of_ne here]
        exact unset
    · rintro rfl below r member
      -- an older request, so the version is not the one the service was made with
      have started : (m.lists kind').version ≠ (s.caches kind').version := by omega
      rw [if_pos started] at member
      obtain rfl := Option.some.inj member
      exact ⟨rfl,.inr rfl⟩

/-- The service answers the first request with its present version. -/
theorem tracks_serve {s : DownloadSystem} {log : List ListAction} (valid : Tracks kind s log) :
    Tracks kind (s.step grow sorting kind .serve).1 log := by
  simp only [DownloadSystem.step]
  split
  · exact valid
  · rename_i version requests queue
    have below : version ≤ s.client.serverListVersion := valid.requests version (by simp [queue])
    obtain ⟨unset,answer⟩ := onClientPacket_spec s.manager s.service kind kind version valid.unset
    have answer := answer rfl (Nat.le_trans below valid.behind)
    refine ⟨valid.sorted,valid.current,valid.ordered,unset,valid.behind,?_,?_,?_,?_,valid.agrees⟩
    · intro version' member
      exact valid.requests version' (by simp [queue,show version' ∈ requests from member])
    · intro r member
      rcases List.mem_append.mp member with old | new
      · exact valid.versions r old
      · have now := (answer r (Option.mem_toList.mp new)).1
        exact ⟨now ▸ valid.behind,Nat.le_of_eq now⟩
    · refine List.pairwise_append.mpr ⟨valid.inOrder,?_,?_⟩
      · cases (s.service.onClientPacket s.manager kind version).2 <;> simp
      · intro r old r' new
        rw [(answer r' (Option.mem_toList.mp new)).1]
        exact (valid.versions r old).2
    · intro r member
      rcases List.mem_append.mp member with old | new
      · exact valid.answers r old
      · obtain ⟨now,same | list⟩ := answer r (Option.mem_toList.mp new)
        · left
          change r.version = s.client.serverListVersion
          have behind := valid.behind
          omega
        · right
          rw [list,now,valid.current]

/-- What the client makes of an answer that it takes. -/
theorem onServerPacket_spec {c c' : DownloadClient} {r : DownloadResp}
    (taken : c.onServerPacket sorting kind r = some c') :
    r.serverInfoList.length < maxListedCount kind ∧
    ((c.serverListVersion = r.version ∧ c' = c) ∨
      (c.serverListVersion ≠ r.version ∧ c' = { c with
        sortedServerInfoList := sorting.sort (c.sortedServerInfoList ++ r.serverInfoList)
        serverListVersion := r.version })) := by
  unfold DownloadClient.onServerPacket at taken
  split at taken
  · cases taken
  · rename_i fits
    refine ⟨Nat.lt_of_not_le fits,?_⟩
    split at taken
    · rename_i same
      exact .inl ⟨same,(Option.some.inj taken).symm⟩
    · rename_i other
      exact .inr ⟨other,(Option.some.inj taken).symm⟩

theorem tracks_deliver {s : DownloadSystem} {log : List ListAction} (valid : Tracks kind s log)
    (replaces : Replaces kind s log .deliver) : Tracks kind (s.step grow sorting kind .deliver).1 log := by
  simp only [DownloadSystem.step]
  split
  · exact valid
  · rename_i r responses queue
    have first : r ∈ s.responses := by simp [queue]
    have rest (r' : DownloadResp) (member : r' ∈ responses) : r' ∈ s.responses := by simp [queue,member]
    have order : responses.Pairwise (fun r r' => r.version ≤ r'.version) ∧
        ∀ r' ∈ responses, r.version ≤ r'.version := by
      have := valid.inOrder
      rw [queue,List.pairwise_cons] at this
      exact this.symm
    have waiting : Tracks kind { s with responses } log :=
      ⟨valid.sorted,valid.current,valid.ordered,valid.unset,valid.behind,valid.requests,
        fun r' member => valid.versions r' (rest r' member),order.1,
        fun r' member => valid.answers r' (rest r' member),valid.agrees⟩
    cases taken : s.client.onServerPacket sorting kind r with
    | none => exact waiting
    | some client =>
    obtain ⟨fits,⟨-,rfl⟩ | ⟨other,rfl⟩⟩ := onServerPacket_spec taken
    · exact waiting
    · have empty := replaces r (by simp [queue]) (Ne.symm other) fits
      obtain ⟨lower,upper⟩ := valid.versions r first
      have list := (valid.answers r first).resolve_left (Ne.symm other)
      refine ⟨valid.sorted,valid.current,valid.ordered,valid.unset,upper,?_,?_,order.1,?_,?_⟩
      · intro version member
        exact Nat.le_trans (valid.requests version member) lower
      · intro r' member
        exact ⟨order.2 r' member,(valid.versions r' (rest r' member)).2⟩
      · intro r' member
        rcases valid.answers r' (rest r' member) with own | list'
        · left
          have := order.2 r' member
          omega
        · exact .inr list'
      · dsimp only
        rw [empty,List.nil_append,list]
        exact sorting.sort_eq_self (sorted_listed (valid.ordered r.version))

theorem tracks_step {s : DownloadSystem} {log : List ListAction} (valid : Tracks kind s log)
    (e : DownloadEvent) (replaces : Replaces kind s log e) :
    Tracks kind (s.step grow sorting kind e).1 (log ++ (s.step grow sorting kind e).2) := by
  cases e with
  | list e => exact tracks_manager valid e replaces
  | otherDownload kind' version =>
    rw [DownloadSystem.step,List.append_nil]
    have unset := (onClientPacket_spec s.manager s.service kind kind' version valid.unset).1
    exact ⟨valid.sorted,valid.current,valid.ordered,unset,valid.behind,valid.requests,valid.versions,
      valid.inOrder,valid.answers,valid.agrees⟩
  | connect timestampMS =>
    simp only [DownloadSystem.step]
    split
    · simpa using valid
    · have open_ : Tracks kind { s with connected := true } log :=
        ⟨valid.sorted,valid.current,valid.ordered,valid.unset,valid.behind,valid.requests,valid.versions,
          valid.inOrder,valid.answers,valid.agrees⟩
      rw [List.append_nil]
      exact tracks_post open_ rfl rfl (by simp [DownloadClient.onServerConnected,DownloadClient.postDownloadRequest])
  | disconnect =>
    rw [DownloadSystem.step,List.append_nil]
    exact ⟨valid.sorted,valid.current,valid.ordered,valid.unset,valid.behind,by simp,by simp,
      List.Pairwise.nil,by simp,valid.agrees⟩
  | setUpdateInterval intervalMS =>
    rw [DownloadSystem.step,List.append_nil]
    exact ⟨valid.sorted,valid.current,valid.ordered,valid.unset,valid.behind,valid.requests,valid.versions,
      valid.inOrder,valid.answers,valid.agrees⟩
  | tick nowMS timestampMS =>
    rw [DownloadSystem.step,List.append_nil]
    unfold DownloadClient.onTick
    split
    · exact tracks_post valid rfl rfl (by simp)
    · exact tracks_post valid rfl rfl (by simp [DownloadClient.postDownloadRequest])
  | serve =>
    have silent : (s.step grow sorting kind .serve).2 = [] := by
      simp only [DownloadSystem.step]
      split <;> rfl
    rw [silent,List.append_nil]
    exact tracks_serve valid
  | deliver =>
    have silent : (s.step grow sorting kind .deliver).2 = [] := by
      simp only [DownloadSystem.step]
      split
      · rfl
      · split <;> rfl
    rw [silent,List.append_nil]
    exact tracks_deliver valid replaces

/-! ## Agreement -/

theorem tracks_reach {s : DownloadSystem} {log : List ListAction}
    (reach : (downloadMachine grow sorting kind).Reach (Replaces kind) s log) : Tracks kind s log := by
  refine reach.invariant (I := Tracks kind) ?_ (fun s log e _ replaces valid => tracks_step valid e replaces)
  rintro _ ⟨ticker,versionTimestampMS,rfl⟩
  exact tracks_init ticker versionTimestampMS

/-- In every run in which each list that arrives finds the client with none: the client has the
list of its version. The next answer keeps it so if and only if it meets that condition too. -/
theorem download_agrees {s : DownloadSystem} {log : List ListAction}
    (reach : (downloadMachine grow sorting kind).Reach (Replaces kind) s log) :
    Agrees kind s log ∧
      (Agrees kind (s.step grow sorting kind .deliver).1 log ↔ Replaces kind s log .deliver) := by
  have valid := tracks_reach reach
  refine ⟨valid.result,fun agrees => ?_,fun replaces => (tracks_deliver valid replaces).result⟩
  intro r member other fits
  obtain ⟨responses,queue⟩ : ∃ responses, s.responses = r :: responses :=
    ⟨_,List.eq_cons_of_mem_head? member⟩
  have taken : s.client.onServerPacket sorting kind r = some { s.client with
      sortedServerInfoList := sorting.sort (s.client.sortedServerInfoList ++ r.serverInfoList)
      serverListVersion := r.version } := by
    simp [DownloadClient.onServerPacket,Nat.not_le.mpr fits,Ne.symm other]
  have list := (valid.answers r (by simp [queue])).resolve_left other
  have grown := congrArg List.length agrees.1
  simp only [DownloadSystem.step,queue,taken] at grown
  rw [sorting.length_sort,← list,List.length_append] at grown
  exact List.eq_nil_of_length_eq_zero (by omega)

/-! ## A second version -/

def insertion : Sorting ListedServer.serverId := .insertion ListedServer.serverId

/-- The first version is published and downloaded. -/
def firstDownload : List DownloadEvent :=
  [.list (.addServerInfo .authCache 5 .unspecified),.list (.tick 60001),.connect 60001,.serve,.deliver]

/-- The second one is published, and its list is on its way. -/
def secondDownload : List DownloadEvent :=
  firstDownload ++ [.list (.addServerInfo .authCache 6 .unspecified),.list (.tick 130000),
    .tick 130000 130000,.serve]

abbrev downloaded (es : List DownloadEvent) : DownloadSystem × List ListAction :=
  (downloadMachine doubling insertion .authCache).run { manager := .init 0 0 } es

theorem downloaded_start : (downloadMachine doubling insertion .authCache).start { manager := .init 0 0 } :=
  ⟨0,0,rfl⟩

theorem download_agrees_first :
    Agrees .authCache (downloaded firstDownload).1 (downloaded firstDownload).2 := by
  have replaces : (downloadMachine doubling insertion .authCache).Allowed (Replaces .authCache)
      { manager := .init 0 0 } [] firstDownload := by
    refine ⟨trivial,?_,trivial,trivial,?_,trivial⟩
    · intro _
      decide
    · intro r _ _ _
      rfl
  have reach := Machine.Reach.run (.start downloaded_start) firstDownload replaces
  exact (download_agrees reach).1

/-- The list of the second version joins that of the first, and server 5 is there twice. -/
theorem second_download_accumulates :
    ∃ (s : DownloadSystem) (log : List ListAction),
      (downloadMachine doubling insertion .authCache).Reach Machine.anything s log ∧
        s.client.serverListVersion = 2 ∧
        publishedList .authCache 2 log =
          [⟨.authCache,5,.unspecified⟩,⟨.authCache,6,.unspecified⟩] ∧
        s.client.sortedServerInfoList = [⟨5,.unspecified⟩,⟨5,.unspecified⟩,⟨6,.unspecified⟩] ∧
        ¬ Agrees .authCache s log := by
  refine ⟨_,_,Machine.reach_run downloaded_start (secondDownload ++ [.deliver]),by decide,by decide,by decide,?_⟩
  rintro ⟨same,-⟩
  revert same
  decide

end MiniPP.Registry
