import MiniPP.Registry.Ownership

/-! What an event of the registry does to the lists that it keeps, and where their entries are from. -/
namespace MiniPP.Registry

open RegisterServerService

variable {keys : KeySource}

/-- What the registry did to its lists. -/
def listLog (log : List RegisterAction) : List ListAction :=
  log.filterMap fun
    | .list a => some a
    | _ => none

@[simp] theorem listLog_append (log out : List RegisterAction) : listLog (log ++ out) = listLog log ++ listLog out :=
  List.filterMap_append

@[simp] theorem listLog_list (out : List ListAction) : listLog (out.map .list) = out := by
  simp [listLog,List.filterMap_map]

/-! ## One call of the manager -/

/-- A registration is refused, or what it says becomes an entry. -/
theorem onRegister_cases (grow : Nat → Nat) (kind : ServerKind) (s : RegisterServerService keys) (c : Nat)
    (userContext : Option UserContext) (request : Option RegisterRequest) :
    s.onRegister grow kind c userContext request = (s,[.refused c]) ∨
    ∃ r serverListManager pointer, userContext = none ∧ request = some r ∧
      s.serverListManager.addServerInfo grow kind r.serverId r.exportServerAddress =
        some (serverListManager,pointer) ∧
      s.onRegister grow kind c userContext request =
        ({ s with
            serverListManager
            connections := s.connections.modify c (fun _ => some ⟨kind,pointer⟩) },
          [.list (.added kind r.serverId s.serverListManager.ticker),.registered c kind r.serverId]) := by
  unfold onRegister
  split
  · exact .inl rfl
  · exact .inl rfl
  · next r =>
    split
    · exact .inl rfl
    · next serverListManager pointer added => exact .inr ⟨r,serverListManager,pointer,rfl,rfl,added,rfl⟩

/-- What an event of the registry is for the lists: nothing, or one call of their manager. -/
inductive Lists (grow : Nat → Nat) (s : RegisterServerService keys) :
    RegisterEvent → RegisterServerService keys × List RegisterAction → Prop where
  | none {e : RegisterEvent} {s' : RegisterServerService keys} {out : List RegisterAction}
      (same : s'.serverListManager = s.serverListManager) (silent : listLog out = [])
      (unregistered : ∀ c kind serverId, .registered c kind serverId ∉ out) : Lists grow s e (s',out)
  | added {c : Nat} {kind : ServerKind} {r : RegisterRequest} {serverListManager : InternalServerListManager}
      {pointer : Pointer} {s' : RegisterServerService keys}
      (bare : s.connections.find? c = some none)
      (added : s.serverListManager.addServerInfo grow kind r.serverId r.exportServerAddress =
        some (serverListManager,pointer))
      (manager : s'.serverListManager = serverListManager) :
      Lists grow s (.clientPacket c (.register kind (some r)))
        (s',[.list (.added kind r.serverId s.serverListManager.ticker),.registered c kind r.serverId])
  | removed {c : Nat} {s' : RegisterServerService keys} (kind : ServerKind) (serverId : Nat)
      (manager : s'.serverListManager = (s.serverListManager.removeServerInfo kind serverId).1) :
      Lists grow s (.clientClose c) (s',(s.serverListManager.removeServerInfo kind serverId).2.map .list)
  | tick {nowMS : Nat} {s' : RegisterServerService keys}
      (manager : s'.serverListManager = (s.serverListManager.onTick nowMS).1) :
      Lists grow s (.tick nowMS) (s',(s.serverListManager.onTick nowMS).2.map .list)

theorem step_lists (grow : Nat → Nat) (s : RegisterServerService keys) (e : RegisterEvent) :
    Lists grow s e (s.step grow e) := by
  have idle : Lists grow s e (s,[]) := .none rfl rfl (by simp)
  unfold step
  split
  · exact idle
  cases e with
  | clientConnected =>
    dsimp only
    split
    · exact idle
    · exact .none rfl rfl (by simp)
  | clientPacket c packet =>
    dsimp only
    split
    · exact idle
    · next userContext found =>
      have register (kind : ServerKind) (request : Option RegisterRequest) :
          Lists grow s (.clientPacket c (.register kind request)) (s.onRegister grow kind c userContext request) := by
        rcases onRegister_cases grow kind s c userContext request with
          refused | ⟨r,manager,pointer,rfl,rfl,added,registered⟩
        · rw [refused]
          exact .none rfl rfl (by simp)
        · rw [registered]
          exact .added found added rfl
      cases packet with
      | register kind request => cases kind <;> exact register _ request
      | other => exact idle
  | clientClose c =>
    dsimp only
    split
    · exact idle
    · next userContext found =>
      cases userContext with
      | none => exact .none rfl rfl (by simp [onClientClose])
      | some p =>
        simp only [onClientClose]
        split
        · exact .none rfl rfl (by simp)
        · next info _ => exact .removed info.serverType info.serverId rfl
  | tick nowMS => exact .tick rfl

/-! ## The connections -/

/-- Only a close takes a connection away, and what was issued remains so. -/
theorem step_connections (grow : Nat → Nat) (s : RegisterServerService keys) (e : RegisterEvent) (c : Nat) :
    (Open s c → (∀ c, e ≠ .clientClose c) → Open (s.step grow e).1 c) ∧
      (s.connections.Issued c → (s.step grow e).1.connections.Issued c) := by
  have idle {s' : RegisterServerService keys} (same : s'.connections = s.connections) :
      (Open s c → (∀ c, e ≠ .clientClose c) → Open s' c) ∧ (s.connections.Issued c → s'.connections.Issued c) := by
    rw [Open,Open,same]
    exact ⟨fun open_ _ => open_,id⟩
  unfold step
  split
  · exact idle rfl
  cases e with
  | clientConnected =>
    dsimp only
    split
    · exact idle rfl
    · next c' connections acquired =>
      refine ⟨fun open_ _ => ?_,fun issued => (Storage.issued_acquire acquired c).mpr (.inr issued)⟩
      rw [Open,Storage.find?_acquire acquired]
      split
      · exact Option.some_ne_none _
      · exact open_
  | clientPacket c' packet =>
    dsimp only
    split
    · exact idle rfl
    · next userContext found =>
      have register (kind : ServerKind) (request : Option RegisterRequest) :
          (Open s c → (∀ c, RegisterEvent.clientPacket c' packet ≠ .clientClose c) →
            Open (s.onRegister grow kind c' userContext request).1 c) ∧
          (s.connections.Issued c → (s.onRegister grow kind c' userContext request).1.connections.Issued c) := by
        rcases onRegister_cases grow kind s c' userContext request with
          refused | ⟨r,manager,pointer,rfl,rfl,added,registered⟩
        · rw [refused]
          exact idle rfl
        · rw [registered]
          refine ⟨fun open_ _ => ?_,id⟩
          rw [Open,Storage.find?_modify]
          split
          · next same =>
            rw [found]
            exact Option.some_ne_none _
          · exact open_
      cases packet with
      | register kind request => cases kind <;> exact register _ request
      | other => exact idle rfl
  | clientClose c' =>
    dsimp only
    split
    · exact idle rfl
    · next userContext found =>
      refine ⟨fun _ other => absurd rfl (other c'),fun issued => ?_⟩
      have kept : (s.onClientClose c' userContext).1.connections = s.connections := by
        cases userContext with
        | none => rfl
        | some p =>
          simp only [onClientClose]
          split <;> rfl
      dsimp only
      rw [kept,Storage.issued_release]
      exact issued
  | tick nowMS => exact idle rfl

/-! ## The entries -/

/-- All entries of the lists, live or handed out, satisfy this. -/
def InternalServerListManager.All (m : InternalServerListManager) (P : ServerInfo → Prop) : Prop :=
  ∀ kind, (∀ info ∈ (m.lists kind).infoList.items, info.serverType = kind ∧ P info) ∧
    ∀ info ∈ (m.lists kind).versionedInfoList, info.serverType = kind ∧ P info

namespace InternalServerListManager

variable {m m' : InternalServerListManager} {P Q : ServerInfo → Prop} {grow : Nat → Nat}

theorem all_init (ticker versionTimestampMS : Nat) : All (.init ticker versionTimestampMS) P :=
  fun _ => ⟨by simp [init],by simp [init]⟩

theorem All.imp (all : m.All P) (weaker : ∀ info, P info → Q info) : m.All Q :=
  fun kind => ⟨fun info member => ((all kind).1 info member).imp_right (weaker info),
    fun info member => ((all kind).2 info member).imp_right (weaker info)⟩

theorem All.add (all : m.All P) {kind : ServerKind} {serverId : Nat} {serverAddress : NetAddress}
    {pointer : Pointer} (added : m.addServerInfo grow kind serverId serverAddress = some (m',pointer))
    (new : P ⟨kind,serverId,serverAddress⟩) : m'.All P := by
  obtain ⟨infoList,-,placed,rfl⟩ := addServerInfo_spec added
  refine forall_setList (p := fun kind l => (∀ info ∈ l.infoList.items, info.serverType = kind ∧ P info) ∧
    ∀ info ∈ l.versionedInfoList, info.serverType = kind ∧ P info) ⟨?_,(all kind).2⟩ all
  intro info member
  dsimp only at member
  rw [GrowArray.items_of_emplace placed] at member
  rcases SortedBy.mem_insert.mp member with rfl | old
  · exact ⟨rfl,new⟩
  · exact (all kind).1 info old

theorem All.remove (all : m.All P) (kind : ServerKind) (serverId : Nat) : (m.removeServerInfo kind serverId).1.All P := by
  rcases m.removeServerInfo_spec kind serverId with ⟨-,same⟩ | ⟨i,-,same⟩
  · rw [same]
    exact all
  · rw [same]
    refine forall_setList (p := fun kind l => (∀ info ∈ l.infoList.items, info.serverType = kind ∧ P info) ∧
      ∀ info ∈ l.versionedInfoList, info.serverType = kind ∧ P info) ⟨?_,(all kind).2⟩ all
    intro info member
    exact (all kind).1 info (List.mem_of_mem_eraseIdx member)

/-- What is handed out was live. -/
theorem All.tick (all : m.All P) (nowMS : Nat) : (m.onTick nowMS).1.All P := by
  intro kind
  rw [onTick_lists]
  by_cases due : ((m.lists kind).onTick nowMS).2 = true
  · rw [ServerInfoList.onTick_due due]
    exact ⟨(all kind).1,(all kind).1⟩
  · rw [ServerInfoList.onTick_early due]
    exact all kind

end InternalServerListManager

end MiniPP.Registry
