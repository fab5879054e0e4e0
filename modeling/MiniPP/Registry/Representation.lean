import MiniPP.Registry.Publication

/-! The lists of the server-list manager as sorted tables: what they hold, what is refused and
found, and how the version goes with the published list. -/
namespace MiniPP.Registry

variable {grow : Nat → Nat}

/-! ## Lookups -/

/-- What `GetAuthCacheServerInfo` and its two siblings share. -/
def InternalServerListManager.getServerInfo (m : InternalServerListManager) (kind : ServerKind) (serverId : Nat) :
    Option ServerInfo :=
  match (m.lists kind).infoList.items[(m.lists kind).lowerBound serverId]? with
  | none => none
  | some info => if info.serverId ≠ serverId then none else some info

namespace InternalServerListManager

def getAuthCacheServerInfo (m : InternalServerListManager) := m.getServerInfo .authCache
def getAuditDeviceServerInfo (m : InternalServerListManager) := m.getServerInfo .auditDevice
def getAuditAccountServerInfo (m : InternalServerListManager) := m.getServerInfo .auditAccount

theorem getServerInfo_eq_some {m : InternalServerListManager} (sorted : m.Sorted) {kind : ServerKind}
    {serverId : Nat} {info : ServerInfo} :
    m.getServerInfo kind serverId = some info ↔
      info ∈ (m.lists kind).infoList.items ∧ info.serverId = serverId := by
  unfold getServerInfo
  constructor
  · intro found
    split at found
    · cases found
    · rename_i here
      split at found
      · cases found
      · rename_i same
        obtain rfl := Option.some.inj found
        exact ⟨List.mem_of_getElem? here,not_not.mp same⟩
  · rintro ⟨member,rfl⟩
    have here : (m.lists kind).infoList.items[(m.lists kind).lowerBound info.serverId]? = some info :=
      SortedBy.getElem?_lowerBound (sorted kind) member
    simp [here]

end InternalServerListManager

/-! ## What has been asked for -/

/-- The calls that the manager got, each with whether it gave an entry. -/
abbrev Calls := List (ListEvent × Bool)

def watchCalls (grow : Nat → Nat) (m : InternalServerListManager) (e : ListEvent) (calls : Calls) : Calls :=
  calls ++ [(e,match e with
    | .addServerInfo kind serverId serverAddress => (m.addServerInfo grow kind serverId serverAddress).isSome
    | _ => false)]

def hold (kind : ServerKind) (serverId : Nat) (held : Option NetAddress) : ListEvent × Bool → Option NetAddress
  | (.addServerInfo kind' serverId' serverAddress,given) =>
    if given = true ∧ kind' = kind ∧ serverId' = serverId then some serverAddress else held
  | (.removeServerInfo kind' serverId',_) => if kind' = kind ∧ serverId' = serverId then none else held
  | (.tick _,_) => held

/-- The address that the server was added with, unless it was to be removed since. -/
def heldAddress (kind : ServerKind) (serverId : Nat) (calls : Calls) : Option NetAddress :=
  calls.foldl (hold kind serverId) none

theorem heldAddress_append {kind : ServerKind} {serverId : Nat} {calls : Calls} {call : ListEvent × Bool} :
    heldAddress kind serverId (calls ++ [call]) = hold kind serverId (heldAddress kind serverId calls) call := by
  rw [heldAddress,List.foldl_append]
  rfl

/-- A list of this kind has been published. -/
def Published (kind : ServerKind) (log : List ListAction) : Prop :=
  ∃ version list, .published kind version list ∈ log

theorem published_append {kind : ServerKind} {log out : List ListAction} :
    Published kind (log ++ out) ↔ Published kind log ∨ Published kind out := by
  unfold Published
  constructor
  · rintro ⟨version,list,member⟩
    obtain old | new := List.mem_append.mp member
    · exact .inl ⟨version,list,old⟩
    · exact .inr ⟨version,list,new⟩
  · rintro (⟨version,list,old⟩ | ⟨version,list,new⟩)
    · exact ⟨version,list,List.mem_append_left _ old⟩
    · exact ⟨version,list,List.mem_append_right _ new⟩

/-! ## The invariant -/

/-- A list as a table: in the order of the ids, each id once, and no more than there may be. -/
structure Table (list : List ServerInfo) : Prop where
  sorted : SortedBy ServerInfo.serverId list
  bounded : list.length ≤ maxAuthCacheServerCount

structure Represented (kind : ServerKind) (m : InternalServerListManager) (calls : Calls)
    (log : List ListAction) : Prop where
  live : Table (m.lists kind).infoList.items
  versioned : Table (m.lists kind).versionedInfoList
  held : ∀ info, info ∈ (m.lists kind).infoList.items ↔
    info.serverType = kind ∧ heldAddress kind info.serverId calls = some info.serverAddress
  bound : (m.lists kind).version < 2^32
  published : Published kind log → (m.lists kind).version ≠ 0

theorem Table.insert {list : List ServerInfo} (table : Table list) {info : ServerInfo}
    (fresh : ∀ other ∈ list, other.serverId ≠ info.serverId) (room : list.length < maxAuthCacheServerCount) :
    Table (list.insertIdx (SortedBy.lowerBound ServerInfo.serverId list info.serverId) info) where
  sorted := SortedBy.insert table.sorted info fresh
  bounded := List.length_insertIdx_le_succ.trans room

theorem Table.erase {list : List ServerInfo} (table : Table list) (i : Nat) : Table (list.eraseIdx i) where
  sorted := SortedBy.erase table.sorted i
  bounded := (List.length_eraseIdx_le list i).trans table.bounded

/-- Another live list, of which nothing is published yet. -/
theorem Represented.relisted {kind : ServerKind} {m m' : InternalServerListManager} {calls calls' : Calls}
    {log out : List ListAction} (kept : Represented kind m calls log)
    (same : (m'.lists kind).version = (m.lists kind).version ∧
      (m'.lists kind).versionedInfoList = (m.lists kind).versionedInfoList)
    (live : Table (m'.lists kind).infoList.items)
    (held : ∀ info, info ∈ (m'.lists kind).infoList.items ↔
      info.serverType = kind ∧ heldAddress kind info.serverId calls' = some info.serverAddress)
    (silent : ¬ Published kind out) : Represented kind m' calls' (log ++ out) where
  live := live
  versioned := by
    rw [same.2]
    exact kept.versioned
  held := held
  bound := by
    rw [same.1]
    exact kept.bound
  published before := by
    rw [same.1]
    exact kept.published ((published_append.mp before).resolve_right silent)

/-- The list of another kind. -/
theorem Represented.other {kind kind' : ServerKind} {m : InternalServerListManager} {calls calls' : Calls}
    {log out : List ListAction} (kept : Represented kind m calls log) (apart : kind ≠ kind') {l : ServerInfoList}
    (held : ∀ serverId, heldAddress kind serverId calls' = heldAddress kind serverId calls)
    (silent : ¬ Published kind out) : Represented kind (m.setList kind' l) calls' (log ++ out) := by
  have list : (m.setList kind' l).lists kind = m.lists kind := by
    rw [InternalServerListManager.lists_setList,if_neg apart]
  apply kept.relisted
  · rw [list]
    exact ⟨rfl,rfl⟩
  · rw [list]
    exact kept.live
  · intro info
    rw [list,held]
    exact kept.held info
  · exact silent

/-- Nothing is changed by the call, and nothing is published. -/
theorem Represented.idle {kind : ServerKind} {m : InternalServerListManager} {calls calls' : Calls}
    {log : List ListAction} (kept : Represented kind m calls log)
    (held : ∀ serverId, heldAddress kind serverId calls' = heldAddress kind serverId calls) :
    Represented kind m calls' log where
  live := kept.live
  versioned := kept.versioned
  held info := by rw [held,kept.held]
  bound := kept.bound
  published := kept.published

theorem represented_added {kind kind' : ServerKind} {m m' : InternalServerListManager} {calls : Calls}
    {log : List ListAction} (kept : Represented kind m calls log) {serverId : Nat} {serverAddress : NetAddress}
    {pointer : Pointer} (added : m.addServerInfo grow kind' serverId serverAddress = some (m',pointer)) :
    Represented kind m' (calls ++ [(.addServerInfo kind' serverId serverAddress,true)])
      (log ++ [.added kind' serverId m.ticker]) := by
  have room := InternalServerListManager.addServerInfo_room added
  obtain ⟨infoList,none,placed,rfl⟩ := InternalServerListManager.addServerInfo_spec added
  have silent : ¬ Published kind [.added kind' serverId m.ticker] := by simp [Published]
  by_cases same : kind = kind'
  · subst same
    have items := GrowArray.items_of_emplace placed
    have fresh := (ServerInfoList.position?_eq_none kept.live.sorted).mp none
    have list : (m.setList kind { m.lists kind with
        infoList, versionTimestampMS := m.ticker, dirty := true }).lists kind =
        { m.lists kind with infoList, versionTimestampMS := m.ticker, dirty := true } := by
      rw [InternalServerListManager.lists_setList,if_pos rfl]
    apply kept.relisted
    · rw [list]
      exact ⟨rfl,rfl⟩
    · rw [list]
      dsimp only
      rw [items]
      exact kept.live.insert fresh room
    · intro info
      rw [list,heldAddress_append]
      dsimp only [hold]
      rw [items]
      refine SortedBy.mem_insert.trans ?_
      by_cases here : serverId = info.serverId
      · rw [if_pos ⟨rfl,rfl,here⟩]
        constructor
        · rintro (rfl | old)
          · exact ⟨rfl,rfl⟩
          · exact absurd here.symm (fresh info old)
        · rintro ⟨type,address⟩
          obtain ⟨serverType,other,otherAddress⟩ := info
          obtain rfl := Option.some.inj address
          obtain rfl : serverId = other := here
          obtain rfl : serverType = kind := type
          exact .inl rfl
      · rw [if_neg (fun both => here both.2.2),← kept.held info]
        refine or_iff_right (fun new => here ?_)
        rw [new]
    · exact silent
  · apply kept.other same ?_ silent
    intro other
    rw [heldAddress_append]
    exact if_neg (fun both => same both.2.1.symm)

/-- A removal takes just the entry with this id out of the live list. -/
theorem removeServerInfo_law {m : InternalServerListManager} (sorted : m.Sorted) (kind : ServerKind)
    (serverId : Nat) : ∃ infoList, (m.removeServerInfo kind serverId).1 =
        m.setList kind { m.lists kind with infoList } ∧
      (∃ i, infoList.items = (m.lists kind).infoList.items.eraseIdx i) ∧
      ∀ info, info ∈ infoList.items ↔ info ∈ (m.lists kind).infoList.items ∧ info.serverId ≠ serverId := by
  obtain ⟨absent,same⟩ | ⟨i,found,same⟩ := m.removeServerInfo_spec kind serverId
  · have whole : m = m.setList kind { m.lists kind with infoList := (m.lists kind).infoList } := by
      rw [InternalServerListManager.setList,Function.update_eq_self]
    refine ⟨(m.lists kind).infoList,?_,⟨(m.lists kind).infoList.items.length,?_⟩,fun info => ?_⟩
    · rw [same]
      exact whole
    · rw [List.eraseIdx_of_length_le (Nat.le_refl _)]
    · have fresh := (ServerInfoList.position?_eq_none (sorted kind)).mp absent info
      exact ⟨fun member => ⟨member,fresh member⟩,fun both => both.1⟩
  · obtain ⟨-,info,stands,rfl⟩ := ServerInfoList.position?_eq_some.mp found
    refine ⟨(m.lists kind).infoList.erase i,?_,⟨i,rfl⟩,SortedBy.mem_erase (sorted kind) stands⟩
    rw [same]

theorem represented_removed {kind : ServerKind} {m : InternalServerListManager} {calls : Calls}
    {log : List ListAction} (kept : Represented kind m calls log) (sorted : m.Sorted) (kind' : ServerKind)
    (serverId : Nat) : Represented kind (m.removeServerInfo kind' serverId).1
      (calls ++ [(.removeServerInfo kind' serverId,false)]) (log ++ (m.removeServerInfo kind' serverId).2) := by
  have silent : ¬ Published kind (m.removeServerInfo kind' serverId).2 := by
    obtain ⟨-,same⟩ | ⟨i,-,same⟩ := m.removeServerInfo_spec kind' serverId <;> simp [same,Published]
  obtain ⟨infoList,removed,⟨i,shorter⟩,left⟩ := removeServerInfo_law sorted kind' serverId
  rw [removed]
  by_cases here : kind = kind'
  · subst here
    have list : (m.setList kind { m.lists kind with infoList }).lists kind =
        { m.lists kind with infoList } := by
      rw [InternalServerListManager.lists_setList,if_pos rfl]
    apply kept.relisted
    · rw [list]
      exact ⟨rfl,rfl⟩
    · rw [list]
      dsimp only
      rw [shorter]
      exact kept.live.erase i
    · intro info
      rw [list,heldAddress_append]
      dsimp only [hold]
      rw [left,kept.held]
      by_cases same : serverId = info.serverId
      · simp [same]
      · simp [same,Ne.symm same]
    · exact silent
  · apply kept.other here ?_ silent
    intro other
    rw [heldAddress_append]
    exact if_neg (fun both => here both.1.symm)

theorem represented_tick {kind : ServerKind} {m : InternalServerListManager} {calls : Calls}
    {log : List ListAction} (kept : Represented kind m calls log) (nowMS : Nat) :
    Represented kind (m.onTick nowMS).1 (calls ++ [(.tick nowMS,false)]) (log ++ (m.onTick nowMS).2) := by
  have held (serverId : Nat) : heldAddress kind serverId (calls ++ [(.tick nowMS,false)]) =
      heldAddress kind serverId calls := heldAddress_append
  by_cases due : ((m.lists kind).onTick nowMS).2 = true
  · have list := ServerInfoList.onTick_due due
    rw [← InternalServerListManager.onTick_lists] at list
    constructor
    · rw [list]
      exact kept.live
    · rw [list]
      exact kept.live
    · intro info
      rw [list,held]
      exact kept.held info
    · rw [list]
      exact nextVersion_lt _
    · intro _
      rw [list]
      exact nextVersion_some _
  · have list := ServerInfoList.onTick_early due
    rw [← InternalServerListManager.onTick_lists] at list
    apply kept.relisted
    · rw [list]
      exact ⟨rfl,rfl⟩
    · rw [list]
      exact kept.live
    · intro info
      rw [list,held]
      exact kept.held info
    · rintro ⟨version,versionedList,member⟩
      exact due (InternalServerListManager.due_of_published member)

/-- The manager with the calls that it got. -/
def calledMachine (grow : Nat → Nat) : Machine (InternalServerListManager × Calls) ListEvent ListAction :=
  (managerMachine grow).withGhost [] (watchCalls grow)

theorem represented_reach {m : InternalServerListManager} {calls : Calls} {log : List ListAction}
    (reach : (calledMachine grow).Reach Machine.anything (m,calls) log) (kind : ServerKind) :
    Represented kind m calls log := by
  have all : (m,calls).1.Sorted ∧ ∀ kind, Represented kind (m,calls).1 (m,calls).2 log := by
    apply Machine.Reach.invariant (I := fun c log => c.1.Sorted ∧ ∀ kind, Represented kind c.1 c.2 log) ?_ ?_ reach
    · rintro ⟨_,_⟩ ⟨⟨ticker,versionTimestampMS,-,rfl⟩,rfl⟩
      refine ⟨InternalServerListManager.sorted_init ticker versionTimestampMS,fun kind => ?_⟩
      have empty : Table [] := ⟨List.Pairwise.nil,Nat.zero_le _⟩
      refine ⟨empty,empty,?_,Nat.two_pow_pos 32,?_⟩
      · simp [InternalServerListManager.init,heldAddress]
      · rintro ⟨version,list,member⟩
        cases member
    · rintro ⟨m,calls⟩ log e - - ⟨sorted,kept⟩
      refine ⟨InternalServerListManager.sorted_step sorted e,fun kind => ?_⟩
      cases e with
      | addServerInfo kind' serverId serverAddress =>
        simp only [calledMachine,Machine.withGhost,managerMachine,InternalServerListManager.step,watchCalls]
        cases added : m.addServerInfo grow kind' serverId serverAddress with
        | none =>
          rw [List.append_nil]
          exact (kept kind).idle (fun other => heldAddress_append)
        | some pair => exact represented_added (kept kind) added
      | removeServerInfo kind' serverId => exact represented_removed (kept kind) sorted kind' serverId
      | tick nowMS => exact represented_tick (kept kind) nowMS
  exact all.2 kind

/-! ## The laws -/

/-- What the manager is and does for one kind of server, whatever its past. -/
structure Lawful (grow : Nat → Nat) (kind : ServerKind) (m : InternalServerListManager) (calls : Calls)
    (log : List ListAction) : Prop where
  live : Table (m.lists kind).infoList.items
  versioned : Table (m.lists kind).versionedInfoList
  searched : ∀ serverId, SortedBy.halve ServerInfo.serverId (m.lists kind).infoList.items serverId
    (m.lists kind).infoList.items.length 0 (m.lists kind).infoList.items.length = (m.lists kind).lowerBound serverId
  refused : ∀ serverId serverAddress, m.addServerInfo grow kind serverId serverAddress = none ↔
    (∃ info ∈ (m.lists kind).infoList.items, info.serverId = serverId) ∨
      (m.lists kind).infoList.items.length = maxAuthCacheServerCount
  unchanged : ∀ serverId serverAddress, m.addServerInfo grow kind serverId serverAddress = none →
    m.step grow (.addServerInfo kind serverId serverAddress) = (m,[])
  removes : ∀ serverId, ∃ infoList, (m.removeServerInfo kind serverId).1 =
      m.setList kind { m.lists kind with infoList } ∧
    ∀ info, info ∈ infoList.items ↔ info ∈ (m.lists kind).infoList.items ∧ info.serverId ≠ serverId
  found : ∀ serverId, m.getServerInfo kind serverId =
    (heldAddress kind serverId calls).map (fun serverAddress => ⟨kind,serverId,serverAddress⟩)
  together : ∀ e, ((m.step grow e).1.lists kind).versionedInfoList ≠ (m.lists kind).versionedInfoList →
    ((m.step grow e).1.lists kind).version ≠ (m.lists kind).version
  published : Published kind log → (m.lists kind).version ≠ 0

theorem addServerInfo_eq_none {m : InternalServerListManager} {kind : ServerKind}
    (live : Table (m.lists kind).infoList.items) (serverId : Nat) (serverAddress : NetAddress) :
    m.addServerInfo grow kind serverId serverAddress = none ↔
      (∃ info ∈ (m.lists kind).infoList.items, info.serverId = serverId) ∨
        (m.lists kind).infoList.items.length = maxAuthCacheServerCount := by
  have absent : (m.lists kind).position? serverId = none ↔
      ∀ info ∈ (m.lists kind).infoList.items, info.serverId ≠ serverId :=
    ServerInfoList.position?_eq_none live.sorted
  unfold InternalServerListManager.addServerInfo
  dsimp only
  by_cases full : maxAuthCacheServerCount ≤ (m.lists kind).infoList.items.length
  · rw [if_pos full]
    exact iff_of_true rfl (.inr (Nat.le_antisymm live.bounded full))
  · rw [if_neg full]
    cases found : (m.lists kind).position? serverId with
    | none =>
      apply iff_of_false (by simp)
      rintro (⟨info,member,same⟩ | length)
      · exact absent.mp found info member same
      · exact full length.ge
    | some i =>
      obtain ⟨-,info,here,same⟩ := ServerInfoList.position?_eq_some.mp found
      exact iff_of_true rfl (.inl ⟨info,List.mem_of_getElem? here,same⟩)

/-- A server is found at the address it was added with, unless it was to be removed since. -/
theorem getServerInfo_eq {m : InternalServerListManager} (sorted : m.Sorted) {kind : ServerKind} {calls : Calls}
    {log : List ListAction} (kept : Represented kind m calls log) (serverId : Nat) :
    m.getServerInfo kind serverId =
      (heldAddress kind serverId calls).map (fun serverAddress => ⟨kind,serverId,serverAddress⟩) := by
  apply Option.ext
  intro info
  rw [InternalServerListManager.getServerInfo_eq_some sorted,kept.held,Option.map_eq_some_iff]
  constructor
  · rintro ⟨⟨type,address⟩,rfl⟩
    refine ⟨info.serverAddress,address,?_⟩
    rw [← type]
  · rintro ⟨serverAddress,held,rfl⟩
    exact ⟨⟨rfl,held⟩,rfl⟩

theorem server_list_lawful {m : InternalServerListManager} {calls : Calls} {log : List ListAction}
    (reach : (calledMachine grow).Reach Machine.anything (m,calls) log) (kind : ServerKind) :
    Lawful grow kind m calls log := by
  have kept := represented_reach reach kind
  have sorted : m.Sorted := fun kind => (represented_reach reach kind).live.sorted
  exact {
    live := kept.live
    versioned := kept.versioned
    searched serverId := SortedBy.halve_eq kept.live.sorted serverId le_rfl (Nat.zero_add _).le (Nat.zero_le _)
      (by
        rw [Nat.zero_add]
        exact SortedBy.lowerBound_le _ _)
    refused := addServerInfo_eq_none kept.live
    unchanged serverId serverAddress refused := by simp only [InternalServerListManager.step,refused]
    removes serverId := by
      obtain ⟨infoList,removed,-,left⟩ := removeServerInfo_law sorted kind serverId
      exact ⟨infoList,removed,left⟩
    found := getServerInfo_eq sorted kept
    together e changed := by
      obtain ⟨-,same⟩ | next := m.step_versioned grow e kind
      · exact absurd same changed
      · rw [next]
        exact nextVersion_ne kept.bound
    published := kept.published }

/-- Two servers are added, one of them twice, and published; one of them is removed, and one that is
not there. -/
def comesTwice : List ListEvent :=
  [.addServerInfo .authCache 5 .unspecified,.addServerInfo .authCache 3 .unspecified,
    .addServerInfo .authCache 5 .unspecified,.tick 60001,.removeServerInfo .authCache 5,
    .removeServerInfo .authCache 9]

theorem server_list_lawful_comesTwice :
    Lawful doubling .authCache ((calledMachine doubling).run (.init 0 0,[]) comesTwice).1.1
      ((calledMachine doubling).run (.init 0 0,[]) comesTwice).1.2
      ((calledMachine doubling).run (.init 0 0,[]) comesTwice).2 := by
  have start : (calledMachine doubling).start (.init 0 0,[]) := ⟨⟨0,0,le_rfl,rfl⟩,rfl⟩
  exact server_list_lawful (Machine.reach_run start comesTwice) .authCache

end MiniPP.Registry
