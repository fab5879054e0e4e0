import MiniPP.Message.Members
import MiniPP.Registry.Download

/-! A published list on its way through a packet: the manager's bound on its length, and the
bound of the decoder. -/
namespace MiniPP.Registry

open Message

/-! ## The answer as it is sent -/

def ListedServer.members (s : ListedServer) : List Field := [.u64 s.serverId,.address s.address]

def ListedServer.reads (x : MessageFormat) : Reads ListedServer := do
  return { serverId := ← x.read .u64, address := ← x.read .address }

namespace DownloadResp

def serializeMembers (m : DownloadResp) : List Field :=
  .u32 m.version :: .u32 (m.serverInfoList.length % 2^32) :: m.serverInfoList.flatMap ListedServer.members

def deserializeMembers (x : MessageFormat) (kind : ServerKind) : Reads DownloadResp := do
  let version ← x.read .u32
  let count ← x.read .u32
  if maxListedCount kind ≤ count then failure
  else return { version, serverInfoList := ← Format.times (ListedServer.reads x) count }

end DownloadResp

/-- What is asked with by a client that does not have the published list: anything but its
version, and 0 before there is one. -/
def Asks (l : ServerInfoList) (requested : Nat) : Prop :=
  if l.version = 0 then requested = 0 else requested ≠ l.version

/-- The answer of the service fits in a packet, and is decoded as the published list. -/
def Downloadable (x : MessageFormat) (kind : ServerKind) (s : DownloadSystem) (requested : Nat) : Prop :=
  ∃ r data, (s.service.onClientPacket s.manager kind requested).2 = some r ∧
    x.packet r.serializeMembers = some data ∧
    (DownloadResp.deserializeMembers x kind).run data =
      some (⟨(s.manager.lists kind).version,listed (s.manager.lists kind).versionedInfoList⟩,[])

/-! ## Lists that can be sent -/

def ServerInfo.InRange (info : ServerInfo) : Prop :=
  info.serverId < 2^64 ∧ Primitive.InRange .address info.serverAddress

/-- What a server registers with are values of their types. -/
def Typed (_ : DownloadSystem) (_ : List ListAction) : DownloadEvent → Prop
  | .list (.addServerInfo _ serverId serverAddress) =>
    serverId < 2^64 ∧ Primitive.InRange .address serverAddress
  | _ => True

/-- A live list is as long as the manager lets it become, and what is published was live. -/
structure Listable (l : ServerInfoList) : Prop where
  bounded : l.infoList.items.length ≤ maxAuthCacheServerCount
  inRange : ∀ info ∈ l.infoList.items, info.InRange
  version : l.version < 2^32
  unpublished : l.version = 0 → l.versionedInfoList = []
  published : l.versionedInfoList.length ≤ maxAuthCacheServerCount
  publishedRange : ∀ info ∈ l.versionedInfoList, info.InRange

theorem listable_init (ticker versionTimestampMS : Nat) (kind : ServerKind) :
    Listable ((InternalServerListManager.init ticker versionTimestampMS).lists kind) := by
  constructor
  all_goals simp [InternalServerListManager.init,maxAuthCacheServerCount]

theorem listable_add {grow : Nat → Nat} {m m' : InternalServerListManager} {kind : ServerKind}
    {serverId : Nat} {serverAddress : NetAddress} {pointer : Pointer}
    (listable : ∀ kind, Listable (m.lists kind))
    (typed : serverId < 2^64 ∧ Primitive.InRange .address serverAddress)
    (added : m.addServerInfo grow kind serverId serverAddress = some (m',pointer)) (other : ServerKind) :
    Listable (m'.lists other) := by
  have room := InternalServerListManager.addServerInfo_room added
  obtain ⟨infoList,-,placed,rfl⟩ := InternalServerListManager.addServerInfo_spec added
  have items := GrowArray.items_of_emplace placed
  obtain ⟨-,inRange,version,unpublished,published,publishedRange⟩ := listable kind
  apply InternalServerListManager.forall_setList (p := fun _ l => Listable l) ?_ listable
  refine ⟨?_,?_,version,unpublished,published,publishedRange⟩
  · have grown : infoList.items.length ≤ (m.lists kind).infoList.items.length + 1 := by
      rw [items]
      exact List.length_insertIdx_le_succ
    exact Nat.le_trans grown room
  · intro info member
    dsimp only at member
    rw [items] at member
    rcases SortedBy.mem_insert.mp member with rfl | old
    · exact typed
    · exact inRange info old

theorem listable_remove {m : InternalServerListManager} (listable : ∀ kind, Listable (m.lists kind))
    (kind : ServerKind) (serverId : Nat) (other : ServerKind) :
    Listable ((m.removeServerInfo kind serverId).1.lists other) := by
  rcases m.removeServerInfo_spec kind serverId with ⟨-,same⟩ | ⟨i,-,same⟩
  · rw [same]
    exact listable other
  · obtain ⟨bounded,inRange,version,unpublished,published,publishedRange⟩ := listable kind
    rw [same]
    apply InternalServerListManager.forall_setList (p := fun _ l => Listable l) ?_ listable
    refine ⟨?_,?_,version,unpublished,published,publishedRange⟩
    · have shrunk := List.length_eraseIdx_le (m.lists kind).infoList.items i
      exact Nat.le_trans shrunk bounded
    · exact fun info member => inRange info (List.mem_of_mem_eraseIdx member)

theorem listable_onTick {l : ServerInfoList} (listable : Listable l) (nowMS : Nat) :
    Listable (l.onTick nowMS).1 := by
  by_cases due : (l.onTick nowMS).2 = true
  · rw [ServerInfoList.onTick_due due]
    exact ⟨listable.bounded,listable.inRange,nextVersion_lt _,fun zero => absurd zero (nextVersion_some _),
      listable.bounded,listable.inRange⟩
  · rw [ServerInfoList.onTick_early due]
    exact listable

theorem listable_step {grow : Nat → Nat} {m : InternalServerListManager} {e : ListEvent}
    (listable : ∀ kind, Listable (m.lists kind))
    (typed : ∀ kind serverId serverAddress, e = .addServerInfo kind serverId serverAddress →
      serverId < 2^64 ∧ Primitive.InRange .address serverAddress) (kind : ServerKind) :
    Listable ((m.step grow e).1.lists kind) := by
  cases e with
  | addServerInfo kind' serverId serverAddress =>
    simp only [InternalServerListManager.step]
    cases added : m.addServerInfo grow kind' serverId serverAddress with
    | none => exact listable kind
    | some pair => exact listable_add listable (typed kind' serverId serverAddress rfl) added kind
  | removeServerInfo kind' serverId => exact listable_remove listable kind' serverId kind
  | tick nowMS =>
    simp only [InternalServerListManager.step,InternalServerListManager.onTick_lists]
    exact listable_onTick (listable kind) nowMS

variable {grow : Nat → Nat} {sorting : Sorting ListedServer.serverId} {client : ServerKind}

/-- What holds of the manager and of the service in every run. -/
structure Ready (s : DownloadSystem) : Prop where
  listable : ∀ kind, Listable (s.manager.lists kind)
  unset : ∀ kind, (s.service.caches kind).version = 0

theorem ready_answered {s : DownloadSystem} (ready : Ready s) (kind : ServerKind) (requested : Nat)
    (other : ServerKind) :
    ((s.service.onClientPacket s.manager kind requested).1.caches other).version = 0 :=
  (onClientPacket_spec s.manager s.service other kind requested (ready.unset other)).1

theorem ready_step {s : DownloadSystem} {log : List ListAction} (ready : Ready s) {e : DownloadEvent}
    (typed : Typed s log e) : Ready (s.step grow sorting client e).1 := by
  cases e with
  | list e =>
    refine ⟨listable_step ready.listable ?_,ready.unset⟩
    rintro kind serverId serverAddress rfl
    exact typed
  | otherDownload kind version => exact ⟨ready.listable,ready_answered ready kind version⟩
  | connect timestampMS =>
    simp only [DownloadSystem.step]
    split <;> exact ⟨ready.listable,ready.unset⟩
  | disconnect | setUpdateInterval _ | tick _ _ => exact ⟨ready.listable,ready.unset⟩
  | serve =>
    simp only [DownloadSystem.step]
    split
    · exact ready
    · rename_i version requests _
      exact ⟨ready.listable,ready_answered ready client version⟩
  | deliver =>
    simp only [DownloadSystem.step]
    split
    · exact ready
    · split <;> exact ⟨ready.listable,ready.unset⟩

theorem ready_run {s : DownloadSystem} {log : List ListAction}
    (reach : (downloadMachine grow sorting client).Reach Typed s log) : Ready s := by
  refine reach.invariant (I := fun s _ => Ready s) ?_ (fun s log e _ typed ready => ready_step ready typed)
  rintro _ ⟨ticker,versionTimestampMS,rfl⟩
  exact ⟨listable_init ticker versionTimestampMS,fun _ => rfl⟩

/-! ## The packet -/

theorem ListedServer.delivers (x : MessageFormat) (s : ListedServer) :
    x.Delivers (ListedServer.reads x) s.members s := by
  repeat apply Format.Delivers.next
  exact .pure s

theorem ListedServer.size (x : SizedFormat) {s : ListedServer} (inRange : Primitive.InRange .address s.address) :
    (x.serialize s.members).length ≤ 32 := by
  have serverId := x.length_u64 s.serverId
  have address := x.address_size s.address inRange
  simp only [members,Format.serialize_cons,Format.serialize_nil,Format.write,List.length_append,
    List.length_nil]
  omega

namespace DownloadResp

variable (x : SizedFormat) {r : DownloadResp}

/-- The longest list that the manager admits fits in a packet. -/
theorem packet_eq (bounded : r.serverInfoList.length ≤ maxAuthCacheServerCount)
    (inRange : ∀ s ∈ r.serverInfoList, Primitive.InRange .address s.address) :
    x.packet r.serializeMembers = some (x.serialize r.serializeMembers) := by
  have list : (x.serialize (r.serverInfoList.flatMap ListedServer.members)).length ≤
      32 * r.serverInfoList.length :=
    x.length_serialize_flatMap (fun s member => ListedServer.size x (inRange s member))
  have room := x.wire.payload_room
  have header := x.wire.header_some
  have payload : PR.maxPayloadSize = 4096 := rfl
  have most : maxAuthCacheServerCount = 125 := rfl
  apply if_pos
  simp only [serializeMembers,Format.serialize_cons,Format.write,List.length_append,x.length_u32]
  omega

/-- The decoder gets the list if its bound admits it, and otherwise nothing. -/
theorem decoded (kind : ServerKind) (bounded : r.serverInfoList.length ≤ maxAuthCacheServerCount)
    (version : r.version < 2^32)
    (inRange : ∀ s ∈ r.serverInfoList, s.serverId < 2^64 ∧ Primitive.InRange .address s.address) :
    (deserializeMembers x.toMessageFormat kind).run (x.serialize r.serializeMembers) =
      if maxListedCount kind ≤ r.serverInfoList.length then none else some (r,[]) := by
  have fields : MessageFormat.InRange r.serializeMembers := by
    intro f member
    simp only [serializeMembers,List.mem_cons,List.mem_flatMap] at member
    rcases member with rfl | rfl | ⟨s,listed,member⟩
    · exact version
    · exact Nat.mod_lt _ (by decide)
    · simp only [ListedServer.members,List.mem_cons,List.not_mem_nil,or_false] at member
      rcases member with rfl | rfl
      · exact (inRange s listed).1
      · exact (inRange s listed).2
  have fits : x.Fits r.serializeMembers :=
    x.fits_packet fields (packet_eq x bounded (fun s member => (inRange s member).2))
  have count : r.serverInfoList.length % 2^32 = r.serverInfoList.length := by
    have most : maxAuthCacheServerCount = 125 := rfl
    apply Nat.mod_eq_of_lt
    omega
  rw [serializeMembers,count] at fits ⊢
  by_cases refused : maxListedCount kind ≤ r.serverInfoList.length
  · rw [if_pos refused,← List.append_nil (x.serialize _),deserializeMembers]
    rw [x.run_next (fits _ List.mem_cons_self)]
    rw [x.run_next (fits _ (List.mem_cons_of_mem _ List.mem_cons_self)),if_pos refused]
    rfl
  · rw [if_neg refused]
    apply Format.Delivers.run ?_ fits
    apply Format.Delivers.next
    apply Format.Delivers.next
    rw [if_neg refused,← List.append_nil (r.serverInfoList.flatMap ListedServer.members)]
    exact (Format.Delivers.times (ListedServer.delivers _) _).bind (.pure r)

end DownloadResp

/-! ## What is published -/

theorem inRange_listed {list : List ServerInfo} (inRange : ∀ info ∈ list, info.InRange) :
    ∀ s ∈ listed list, s.serverId < 2^64 ∧ Primitive.InRange .address s.address := by
  intro s member
  obtain ⟨info,inside,rfl⟩ := List.mem_map.mp member
  exact inRange info inside

/-- A client that asks for the published list is answered with it. -/
theorem answered {s : DownloadSystem} (ready : Ready s) {kind : ServerKind} {requested : Nat}
    (asks : Asks (s.manager.lists kind) requested) :
    (s.service.onClientPacket s.manager kind requested).2 =
      some ⟨(s.manager.lists kind).version,listed (s.manager.lists kind).versionedInfoList⟩ := by
  have shared : s.service.onClientPacket s.manager kind requested =
      s.service.onDownload kind s.manager requested := by
    cases kind <;> rfl
  rw [shared]
  unfold DownloadServerService.onDownload
  dsimp only
  unfold Asks at asks
  by_cases first : (s.manager.lists kind).version = 0
  · rw [if_pos first] at asks
    rw [if_pos (asks.trans first.symm),(ready.listable kind).unpublished first]
    rfl
  · rw [if_neg first] at asks
    have renewed : (s.manager.lists kind).version ≠ (s.service.caches kind).version := by
      rw [ready.unset kind]
      exact first
    rw [if_neg asks,if_pos renewed]

theorem downloadable_iff (x : SizedFormat) {s : DownloadSystem} (ready : Ready s) (kind : ServerKind)
    {requested : Nat} (asks : Asks (s.manager.lists kind) requested) :
    Downloadable x.toMessageFormat kind s requested ↔
      (s.manager.lists kind).versionedInfoList.length < 125 := by
  obtain ⟨-,-,version,-,published,publishedRange⟩ := ready.listable kind
  let r : DownloadResp :=
    ⟨(s.manager.lists kind).version,listed (s.manager.lists kind).versionedInfoList⟩
  have answer : (s.service.onClientPacket s.manager kind requested).2 = some r := answered ready asks
  have length : r.serverInfoList.length = (s.manager.lists kind).versionedInfoList.length :=
    List.length_map _
  have inRange := inRange_listed publishedRange
  have packet := DownloadResp.packet_eq x (r := r) (by rw [length]; exact published)
    (fun s member => (inRange s member).2)
  have decoded := DownloadResp.decoded x (r := r) kind (by rw [length]; exact published) version inRange
  have bound : maxListedCount kind = 125 := by cases kind <;> rfl
  rw [bound,length] at decoded
  constructor
  · rintro ⟨r',data,answer',packet',run⟩
    obtain rfl := Option.some.inj (answer.symm.trans answer')
    obtain rfl := Option.some.inj (packet.symm.trans packet')
    by_contra long
    rw [if_pos (Nat.not_lt.mp long)] at decoded
    rw [decoded] at run
    cases run
  · intro short
    rw [if_neg (Nat.not_le.mpr short)] at decoded
    exact ⟨r,_,answer,packet,decoded⟩

/-- In every run a published list can be downloaded unless it is as long as a list may become. -/
theorem list_downloadable (x : SizedFormat) {s : DownloadSystem} {log : List ListAction}
    (reach : (downloadMachine grow sorting client).Reach Typed s log) (kind : ServerKind)
    {requested : Nat} (asks : Asks (s.manager.lists kind) requested) :
    Downloadable x.toMessageFormat kind s requested ↔
      (s.manager.lists kind).versionedInfoList.length < 125 :=
  downloadable_iff x (ready_run reach) kind asks

/-- The first published list of one server. -/
theorem list_downloadable_first :
    Downloadable .reference .authCache (downloaded (firstDownload.take 2)).1 0 := by
  have typed : (downloadMachine doubling insertion .authCache).Allowed Typed { manager := .init 0 0 } []
      (firstDownload.take 2) := ⟨⟨by decide,rfl,by decide⟩,trivial,trivial⟩
  have reach := Machine.Reach.run (.start downloaded_start) _ typed
  exact (list_downloadable .reference reach .authCache (by unfold Asks; decide)).mpr (by decide)

/-! ## A full fleet -/

/-- The servers 1 to `n` have been added. -/
structure Gathered (n : Nat) (m : InternalServerListManager) : Prop where
  ticker : m.ticker = 0
  length : (m.lists .authCache).infoList.items.length = n
  below : ∀ info ∈ (m.lists .authCache).infoList.items, info.serverId ≤ n
  sorted : m.Sorted
  timestamp : (m.lists .authCache).versionTimestampMS = 0
  dirty : 0 < n → (m.lists .authCache).dirty = true

theorem gathered_add {n : Nat} {m : InternalServerListManager} (gathered : Gathered n m) (room : n < 125) :
    Gathered (n + 1) (m.step grow (.addServerInfo .authCache (n + 1) .unspecified)).1 := by
  obtain ⟨ticker,length,below,sorted,timestamp,-⟩ := gathered
  have none : (m.lists .authCache).position? (n + 1) = none := by
    apply (ServerInfoList.position?_eq_none (sorted .authCache)).mpr
    intro info member
    have small := below info member
    omega
  have free : ¬ maxAuthCacheServerCount ≤ (m.lists .authCache).infoList.items.length := by
    rw [length]
    exact Nat.not_le.mpr room
  obtain ⟨m',pointer,added⟩ : ∃ m' pointer,
      m.addServerInfo grow .authCache (n + 1) .unspecified = some (m',pointer) := by
    simp [InternalServerListManager.addServerInfo,free,none]
  have ordered := InternalServerListManager.sorted_addServerInfo sorted added
  obtain ⟨infoList,-,placed,rfl⟩ := InternalServerListManager.addServerInfo_spec added
  have items : infoList.items = (m.lists .authCache).infoList.items.insertIdx
      ((m.lists .authCache).lowerBound (n + 1)) ⟨.authCache,n + 1,.unspecified⟩ := by
    rw [← GrowArray.items_emplace grow,placed]
  simp only [InternalServerListManager.step,added]
  refine ⟨ticker,?_,?_,ordered,?_,fun _ => ?_⟩
  · rw [InternalServerListManager.lists_setList,if_pos rfl]
    dsimp only
    have inside : (m.lists .authCache).lowerBound (n + 1) ≤
        (m.lists .authCache).infoList.items.length := SortedBy.lowerBound_le _ _
    rw [items,List.length_insertIdx_of_le_length inside,length]
  · intro info member
    rw [InternalServerListManager.lists_setList,if_pos rfl] at member
    dsimp only at member
    rw [items] at member
    rcases SortedBy.mem_insert.mp member with rfl | old
    · exact Nat.le_refl _
    · exact Nat.le_succ_of_le (below info old)
  · rw [InternalServerListManager.lists_setList,if_pos rfl]
    exact ticker
  · rw [InternalServerListManager.lists_setList,if_pos rfl]

theorem gathered_reach {n : Nat} (room : n ≤ 125) :
    ∃ s log, (downloadMachine grow sorting client).Reach Typed s log ∧ Gathered n s.manager := by
  induction n with
  | zero =>
    refine ⟨_,_,.start ⟨0,0,rfl⟩,rfl,rfl,?_,?_,rfl,?_⟩
    · intro info member
      cases member
    · exact InternalServerListManager.sorted_init 0 0
    · exact fun positive => absurd positive (Nat.lt_irrefl 0)
  | succ n ih =>
    obtain ⟨s,log,reach,gathered⟩ := ih (Nat.le_of_succ_le room)
    have typed : Typed s log (.list (.addServerInfo .authCache (n + 1) .unspecified)) :=
      ⟨by omega,rfl,by decide⟩
    exact ⟨_,_,.step _ reach typed,gathered_add gathered room⟩

theorem asks_zero (l : ServerInfoList) : Asks l 0 := by
  unfold Asks
  split
  · rfl
  · rename_i published
    exact Ne.symm published

/-- 125 servers are published as one list, and no client can decode it. -/
theorem full_list_not_downloadable :
    ¬ ∀ (s : DownloadSystem) (log : List ListAction),
      (downloadMachine doubling insertion .authCache).Reach Typed s log → ∀ kind requested,
        Asks (s.manager.lists kind) requested → Downloadable .reference kind s requested := by
  intro always
  obtain ⟨s,log,reach,gathered⟩ :
    ∃ s log, (downloadMachine doubling insertion .authCache).Reach Typed s log ∧ Gathered 125 s.manager :=
    gathered_reach (Nat.le_refl 125)
  have tick : Typed s log (.list (.tick 60001)) := trivial
  have later := Machine.Reach.step _ reach tick
  have due : ((s.manager.lists .authCache).onTick 60001).2 = true := by
    have dirty := gathered.dirty (by decide)
    simp [ServerInfoList.onTick,dirty,gathered.timestamp,sub64,upgradeVersionTimeoutMS]
  have published : (((s.manager.onTick 60001).1.lists .authCache).versionedInfoList).length = 125 := by
    rw [InternalServerListManager.onTick_lists,ServerInfoList.onTick_due due]
    exact gathered.length
  have downloadable := always _ _ later .authCache 0 (asks_zero _)
  have short : (((s.manager.onTick 60001).1.lists .authCache).versionedInfoList).length < 125 :=
    (downloadable_iff .reference (ready_run later) .authCache (asks_zero _)).mp downloadable
  omega

end MiniPP.Registry
