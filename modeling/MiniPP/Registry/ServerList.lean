import MiniPP.Lib.GrowArray
import MiniPP.Lib.Machine
import MiniPP.Xel
import Mathlib.Data.Nat.Basic
import Mathlib.Logic.Function.Basic

/-! The server-list manager: for each kind of server the live list, sorted by id, and the
version of it that is handed out. -/
namespace MiniPP.Registry

/-- The three values of `eServerType` that are registered here. -/
inductive ServerKind where
  | authCache
  | auditDevice
  | auditAccount
  deriving DecidableEq, Repr

structure ServerInfo where
  serverType : ServerKind
  serverId : Nat
  serverAddress : NetAddress
  deriving DecidableEq, Repr

def upgradeVersionTimeoutMS : Nat := 60000

/-- All three kinds are bounded by `MAX_AUTH_CACHE_SERVER_COUNT`. -/
def maxAuthCacheServerCount : Nat := 125

structure ServerInfoList where
  version : Nat := 0
  dirty : Bool := false
  versionTimestampMS : Nat := 0
  infoList : GrowArray ServerInfo := {}
  versionedInfoList : List ServerInfo := []
  deriving DecidableEq, Repr

structure InternalServerListManager where
  ticker : Nat
  lists : ServerKind → ServerInfoList

/-- What a call of the manager changes, with the time of the manager's ticker. -/
inductive ListAction where
  | added (kind : ServerKind) (serverId : Nat) (timestampMS : Nat)
  | removed (kind : ServerKind) (serverId : Nat) (timestampMS : Nat)
  | published (kind : ServerKind) (version : Nat) (list : List ServerInfo)
  deriving DecidableEq, Repr

/-- `if (!++Version) ++Version`, on 32 bits. -/
def nextVersion (version : Nat) : Nat :=
  let next := (version + 1) % 2^32
  if next = 0 then 1 else next

theorem nextVersion_some (version : Nat) : nextVersion version ≠ 0 := by
  unfold nextVersion
  dsimp only
  split
  · exact Nat.one_ne_zero
  · assumption

theorem nextVersion_lt (version : Nat) : nextVersion version < 2^32 := by
  unfold nextVersion
  dsimp only
  split
  · exact Nat.one_lt_two_pow (by simp)
  · exact Nat.mod_lt _ (Nat.two_pow_pos 32)

/-- Also when the version starts over, the next one is another. -/
theorem nextVersion_ne {version : Nat} (bound : version < 2^32) : nextVersion version ≠ version := by
  unfold nextVersion
  dsimp only
  split <;> omega

namespace ServerInfoList

def lowerBound (l : ServerInfoList) (serverId : Nat) : Nat :=
  SortedBy.lowerBound ServerInfo.serverId l.infoList.items serverId

/-- Where the entry with this id stands. -/
def position? (l : ServerInfoList) (serverId : Nat) : Option Nat :=
  match l.infoList.items[l.lowerBound serverId]? with
  | none => none
  | some info => if info.serverId = serverId then some (l.lowerBound serverId) else none

/-- Publishes a dirty list that has not changed for long enough. -/
def onTick (l : ServerInfoList) (nowMS : Nat) : ServerInfoList × Bool :=
  if l.dirty && decide (upgradeVersionTimeoutMS < sub64 nowMS l.versionTimestampMS) then
    ({ l with
        version := nextVersion l.version
        versionedInfoList := l.infoList.items
        versionTimestampMS := nowMS
        dirty := false },true)
  else (l,false)

end ServerInfoList

namespace InternalServerListManager

def init (ticker versionTimestampMS : Nat) : InternalServerListManager where
  ticker := ticker
  lists _ := { versionTimestampMS }

def setList (m : InternalServerListManager) (kind : ServerKind) (l : ServerInfoList) :
    InternalServerListManager := { m with lists := Function.update m.lists kind l }

def addServerInfo (grow : Nat → Nat) (m : InternalServerListManager) (kind : ServerKind) (serverId : Nat)
    (serverAddress : NetAddress) : Option (InternalServerListManager × Pointer) :=
  let l := m.lists kind
  if maxAuthCacheServerCount ≤ l.infoList.items.length then none
  else
    match l.position? serverId with
    | some _ => none
    | none =>
      let (infoList,pointer) :=
        l.infoList.emplace grow (l.lowerBound serverId) ⟨kind,serverId,serverAddress⟩
      some (m.setList kind { l with infoList, versionTimestampMS := m.ticker, dirty := true },pointer)

/-- The entry leaves the live list, and that is all. -/
def removeServerInfo (m : InternalServerListManager) (kind : ServerKind) (serverId : Nat) :
    InternalServerListManager × List ListAction :=
  let l := m.lists kind
  match l.position? serverId with
  | none => (m,[])
  | some i =>
    (m.setList kind { l with infoList := l.infoList.erase i },[.removed kind serverId m.ticker])

def publish (m : InternalServerListManager) (nowMS : Nat) (kind : ServerKind) :
    InternalServerListManager × List ListAction :=
  let (l,upgraded) := (m.lists kind).onTick nowMS
  (m.setList kind l,if upgraded then [.published kind l.version l.versionedInfoList] else [])

def onTick (m : InternalServerListManager) (nowMS : Nat) :
    InternalServerListManager × List ListAction :=
  let m := { m with ticker := nowMS }
  let (m,authCache) := m.publish nowMS .authCache
  let (m,auditDevice) := m.publish nowMS .auditDevice
  let (m,auditAccount) := m.publish nowMS .auditAccount
  (m,authCache ++ auditDevice ++ auditAccount)

def addAuthCacheServerInfo (grow : Nat → Nat) (m : InternalServerListManager) :=
  m.addServerInfo grow .authCache
def addAuditDeviceServerInfo (grow : Nat → Nat) (m : InternalServerListManager) :=
  m.addServerInfo grow .auditDevice
def addAuditAccountServerInfo (grow : Nat → Nat) (m : InternalServerListManager) :=
  m.addServerInfo grow .auditAccount

def removeAuthCacheServerInfo (m : InternalServerListManager) := m.removeServerInfo .authCache
def removeAuditDeviceServerInfo (m : InternalServerListManager) := m.removeServerInfo .auditDevice
def removeAuditAccountServerInfo (m : InternalServerListManager) := m.removeServerInfo .auditAccount

end InternalServerListManager

inductive ListEvent where
  | addServerInfo (kind : ServerKind) (serverId : Nat) (serverAddress : NetAddress)
  | removeServerInfo (kind : ServerKind) (serverId : Nat)
  | tick (nowMS : Nat)
  deriving DecidableEq, Repr

namespace InternalServerListManager

def step (grow : Nat → Nat) (m : InternalServerListManager) :
    ListEvent → InternalServerListManager × List ListAction
  | .addServerInfo kind serverId serverAddress =>
    match m.addServerInfo grow kind serverId serverAddress with
    | none => (m,[])
    | some (m',_) => (m',[.added kind serverId m.ticker])
  | .removeServerInfo kind serverId => m.removeServerInfo kind serverId
  | .tick nowMS => m.onTick nowMS

end InternalServerListManager

/-- `grow` is the growth of a full `std::vector`. -/
def managerMachine (grow : Nat → Nat) : Machine InternalServerListManager ListEvent ListAction where
  start m := ∃ ticker versionTimestampMS, versionTimestampMS ≤ ticker ∧ m = .init ticker versionTimestampMS
  step := InternalServerListManager.step grow

/-! ## What the calls do -/

namespace ServerInfoList

theorem position?_eq_some {l : ServerInfoList} {serverId i : Nat} :
    l.position? serverId = some i ↔ i = l.lowerBound serverId ∧
      ∃ info, l.infoList.items[i]? = some info ∧ info.serverId = serverId := by
  unfold position?
  constructor
  · intro found
    split at found
    · cases found
    · rename_i info here
      split at found
      · rename_i same
        obtain rfl := Option.some.inj found
        exact ⟨rfl,info,here,same⟩
      · cases found
  · rintro ⟨rfl,info,here,same⟩
    simp only [here,same,if_true]

theorem position?_eq_none {l : ServerInfoList} (sorted : SortedBy ServerInfo.serverId l.infoList.items)
    {serverId : Nat} :
    l.position? serverId = none ↔ ∀ info ∈ l.infoList.items, info.serverId ≠ serverId := by
  constructor
  · rintro none info member rfl
    have found : l.position? info.serverId = some (l.lowerBound info.serverId) :=
      position?_eq_some.mpr ⟨rfl,info,SortedBy.getElem?_lowerBound sorted member,rfl⟩
    rw [none] at found
    cases found
  · intro fresh
    cases found : l.position? serverId with
    | none => rfl
    | some i =>
      obtain ⟨-,info,here,same⟩ := position?_eq_some.mp found
      exact absurd same (fresh info (List.mem_of_getElem? here))

theorem onTick_due {l : ServerInfoList} {nowMS : Nat} (due : (l.onTick nowMS).2 = true) :
    (l.onTick nowMS).1 = { l with
      version := nextVersion l.version
      versionedInfoList := l.infoList.items
      versionTimestampMS := nowMS
      dirty := false } := by
  unfold onTick at due ⊢
  split at due
  · rename_i ready
    rw [if_pos ready]
  · cases due

theorem onTick_early {l : ServerInfoList} {nowMS : Nat} (early : (l.onTick nowMS).2 ≠ true) :
    (l.onTick nowMS).1 = l := by
  unfold onTick at early ⊢
  split at early
  · exact absurd rfl early
  · rename_i waiting
    rw [if_neg waiting]

end ServerInfoList

namespace InternalServerListManager

@[simp] theorem ticker_setList (m : InternalServerListManager) (kind : ServerKind) (l : ServerInfoList) :
    (m.setList kind l).ticker = m.ticker := rfl

@[simp] theorem lists_setList (m : InternalServerListManager) (kind other : ServerKind)
    (l : ServerInfoList) :
    (m.setList kind l).lists other = if other = kind then l else m.lists other := by
  unfold setList
  by_cases same : other = kind
  · subst same
    simp
  · simp [same]

/-- What holds of the new list, and of all lists before. -/
theorem forall_setList {m : InternalServerListManager} {kind : ServerKind} {l : ServerInfoList}
    {p : ServerKind → ServerInfoList → Prop} (new : p kind l) (old : ∀ other, p other (m.lists other))
    (other : ServerKind) : p other ((m.setList kind l).lists other) := by
  rw [lists_setList]
  split
  · rename_i same
    subst same
    exact new
  · exact old other

/-- A list that differs only in what is live. -/
theorem versioned_setList {m : InternalServerListManager} {kind : ServerKind} {l : ServerInfoList}
    (version : l.version = (m.lists kind).version)
    (versioned : l.versionedInfoList = (m.lists kind).versionedInfoList) (other : ServerKind) :
    ((m.setList kind l).lists other).version = (m.lists other).version ∧
      ((m.setList kind l).lists other).versionedInfoList = (m.lists other).versionedInfoList :=
  forall_setList (p := fun other l => l.version = (m.lists other).version ∧
    l.versionedInfoList = (m.lists other).versionedInfoList) ⟨version,versioned⟩ (fun _ => ⟨rfl,rfl⟩) other

/-- A successful addition puts the entry where its id belongs, and nothing else moves. -/
theorem addServerInfo_spec {grow : Nat → Nat} {m m' : InternalServerListManager} {kind : ServerKind}
    {serverId : Nat} {serverAddress : NetAddress} {pointer : Pointer}
    (added : m.addServerInfo grow kind serverId serverAddress = some (m',pointer)) :
    ∃ infoList, (m.lists kind).position? serverId = none ∧
      (m.lists kind).infoList.emplace grow ((m.lists kind).lowerBound serverId)
        ⟨kind,serverId,serverAddress⟩ = (infoList,pointer) ∧
      m' = m.setList kind { m.lists kind with
        infoList, versionTimestampMS := m.ticker, dirty := true } := by
  unfold addServerInfo at added
  dsimp only at added
  split at added
  · cases added
  · split at added
    · cases added
    · rename_i none
      obtain ⟨rfl,rfl⟩ := Prod.mk.inj (Option.some.inj added)
      exact ⟨_,none,rfl,rfl⟩

/-- An addition needs room. -/
theorem addServerInfo_room {grow : Nat → Nat} {m m' : InternalServerListManager} {kind : ServerKind}
    {serverId : Nat} {serverAddress : NetAddress} {pointer : Pointer}
    (added : m.addServerInfo grow kind serverId serverAddress = some (m',pointer)) :
    (m.lists kind).infoList.items.length < maxAuthCacheServerCount := by
  unfold addServerInfo at added
  dsimp only at added
  split at added
  · cases added
  · rename_i room
    exact Nat.not_le.mp room

theorem removeServerInfo_spec (m : InternalServerListManager) (kind : ServerKind) (serverId : Nat) :
    ((m.lists kind).position? serverId = none ∧ m.removeServerInfo kind serverId = (m,[])) ∨
    ∃ i, (m.lists kind).position? serverId = some i ∧ m.removeServerInfo kind serverId =
      (m.setList kind { m.lists kind with infoList := (m.lists kind).infoList.erase i },
        [.removed kind serverId m.ticker]) := by
  unfold removeServerInfo
  dsimp only
  cases found : (m.lists kind).position? serverId with
  | none => exact .inl ⟨rfl,rfl⟩
  | some i => exact .inr ⟨i,rfl,rfl⟩

theorem removeServerInfo_eq {m : InternalServerListManager} {kind : ServerKind} {info : ServerInfo}
    (stands : (m.lists kind).infoList.items[(m.lists kind).lowerBound info.serverId]? = some info) :
    m.removeServerInfo kind info.serverId =
      (m.setList kind { m.lists kind with
          infoList := (m.lists kind).infoList.erase ((m.lists kind).lowerBound info.serverId) },
        [.removed kind info.serverId m.ticker]) := by
  have found : (m.lists kind).position? info.serverId = some ((m.lists kind).lowerBound info.serverId) :=
    ServerInfoList.position?_eq_some.mpr ⟨rfl,info,stands,rfl⟩
  simp [removeServerInfo,found]

/-- Each list is published, or not, by itself. -/
theorem onTick_lists (m : InternalServerListManager) (nowMS : Nat) (kind : ServerKind) :
    (m.onTick nowMS).1.lists kind = ((m.lists kind).onTick nowMS).1 := by
  cases kind <;> simp [onTick,publish]

@[simp] theorem onTick_ticker (m : InternalServerListManager) (nowMS : Nat) :
    (m.onTick nowMS).1.ticker = nowMS := rfl

theorem mem_publish {m : InternalServerListManager} {nowMS : Nat} {kind : ServerKind} {a : ListAction} :
    a ∈ (m.publish nowMS kind).2 ↔ ((m.lists kind).onTick nowMS).2 = true ∧
      a = .published kind ((m.lists kind).onTick nowMS).1.version
        ((m.lists kind).onTick nowMS).1.versionedInfoList := by
  unfold publish
  dsimp only
  split
  · rename_i upgraded
    simp [upgraded]
  · rename_i kept
    simp [kept]

theorem mem_onTick {m : InternalServerListManager} {nowMS : Nat} {a : ListAction} :
    a ∈ (m.onTick nowMS).2 ↔ ∃ kind, ((m.lists kind).onTick nowMS).2 = true ∧
      a = .published kind ((m.lists kind).onTick nowMS).1.version
        ((m.lists kind).onTick nowMS).1.versionedInfoList := by
  simp only [onTick,List.mem_append,mem_publish]
  constructor
  · rintro ((published | published) | published)
    · exact ⟨.authCache,published⟩
    · exact ⟨.auditDevice,published⟩
    · exact ⟨.auditAccount,published⟩
  · rintro ⟨kind,published⟩
    cases kind with
    | authCache => exact .inl (.inl published)
    | auditDevice => exact .inl (.inr published)
    | auditAccount => exact .inr published

/-- What a tick publishes was due. -/
theorem due_of_published {m : InternalServerListManager} {nowMS : Nat} {kind : ServerKind} {version : Nat}
    {list : List ServerInfo} (member : .published kind version list ∈ (m.onTick nowMS).2) :
    ((m.lists kind).onTick nowMS).2 = true := by
  obtain ⟨kind',upgraded,same⟩ := mem_onTick.mp member
  obtain ⟨rfl,-⟩ := ListAction.published.inj same
  exact upgraded

/-- Only a tick publishes, and it goes on to the next version. -/
theorem step_versioned (grow : Nat → Nat) (m : InternalServerListManager) (e : ListEvent) (kind : ServerKind) :
    (((m.step grow e).1.lists kind).version = (m.lists kind).version ∧
      ((m.step grow e).1.lists kind).versionedInfoList = (m.lists kind).versionedInfoList) ∨
    ((m.step grow e).1.lists kind).version = nextVersion (m.lists kind).version := by
  cases e with
  | addServerInfo kind' serverId serverAddress =>
    left
    simp only [step]
    cases added : m.addServerInfo grow kind' serverId serverAddress with
    | none => exact ⟨rfl,rfl⟩
    | some pair =>
      obtain ⟨m',pointer⟩ := pair
      obtain ⟨infoList,-,-,rfl⟩ := addServerInfo_spec added
      exact versioned_setList (by rfl) (by rfl) kind
  | removeServerInfo kind' serverId =>
    left
    simp only [step]
    obtain ⟨-,same⟩ | ⟨i,-,same⟩ := m.removeServerInfo_spec kind' serverId
    · rw [same]
      exact ⟨rfl,rfl⟩
    · rw [same]
      exact versioned_setList (by rfl) (by rfl) kind
  | tick nowMS =>
    simp only [step,onTick_lists]
    by_cases due : ((m.lists kind).onTick nowMS).2 = true
    · right
      rw [ServerInfoList.onTick_due due]
    · left
      rw [ServerInfoList.onTick_early due]
      exact ⟨rfl,rfl⟩

/-- Each live list is in the order of the ids. -/
def Sorted (m : InternalServerListManager) : Prop :=
  ∀ kind, SortedBy ServerInfo.serverId (m.lists kind).infoList.items

theorem sorted_init (ticker versionTimestampMS : Nat) : Sorted (.init ticker versionTimestampMS) :=
  fun _ => List.Pairwise.nil

theorem sorted_addServerInfo {grow : Nat → Nat} {m m' : InternalServerListManager} (sorted : m.Sorted)
    {kind : ServerKind} {serverId : Nat} {serverAddress : NetAddress} {pointer : Pointer}
    (added : m.addServerInfo grow kind serverId serverAddress = some (m',pointer)) : m'.Sorted := by
  obtain ⟨infoList,none,placed,rfl⟩ := addServerInfo_spec added
  apply forall_setList (p := fun _ l => SortedBy ServerInfo.serverId l.infoList.items) ?_ sorted
  dsimp only
  rw [GrowArray.items_of_emplace placed]
  apply SortedBy.insert (sorted kind)
  exact (ServerInfoList.position?_eq_none (sorted kind)).mp none

theorem sorted_removeServerInfo {m : InternalServerListManager} (sorted : m.Sorted) (kind : ServerKind)
    (serverId : Nat) : (m.removeServerInfo kind serverId).1.Sorted := by
  rcases m.removeServerInfo_spec kind serverId with ⟨-,same⟩ | ⟨i,-,same⟩
  · rw [same]
    exact sorted
  · rw [same]
    apply forall_setList (p := fun _ l => SortedBy ServerInfo.serverId l.infoList.items) ?_ sorted
    exact SortedBy.erase (sorted kind) i

theorem infoList_onTick (m : InternalServerListManager) (nowMS : Nat) (kind : ServerKind) :
    ((m.onTick nowMS).1.lists kind).infoList = (m.lists kind).infoList := by
  rw [onTick_lists]
  unfold ServerInfoList.onTick
  split <;> rfl

theorem sorted_onTick {m : InternalServerListManager} (sorted : m.Sorted) (nowMS : Nat) :
    (m.onTick nowMS).1.Sorted := by
  intro kind
  rw [infoList_onTick]
  exact sorted kind

theorem sorted_step {grow : Nat → Nat} {m : InternalServerListManager} (sorted : m.Sorted) (e : ListEvent) :
    (m.step grow e).1.Sorted := by
  cases e with
  | addServerInfo kind serverId serverAddress =>
    simp only [step]
    cases added : m.addServerInfo grow kind serverId serverAddress with
    | none => exact sorted
    | some pair => exact sorted_addServerInfo sorted added
  | removeServerInfo kind serverId => exact sorted_removeServerInfo sorted kind serverId
  | tick nowMS => exact sorted_onTick sorted nowMS

end InternalServerListManager

end MiniPP.Registry
