import MiniPP.Registry.Registration

/-! Who owns the entries of the live lists. The entry that goes when a connection closes is the
one that its pointer leads to at that time. It is the connection's own as long as neither a
reallocation nor the registrations and closes of other servers have moved it. -/
namespace MiniPP.Registry

open RegisterServerService

variable {keys : KeySource} {grow : Nat → Nat}

/-- The live lists contain exactly what the open connections have registered. -/
def Owned (s : RegisterServerService keys) (log : List RegisterAction) : Prop :=
  s.undefined = false ∧
    ∀ kind serverId, Live s kind serverId ↔ ∃ c, Open s c ∧ .registered c kind serverId ∈ log

/-- Closing the connection removes what it has registered, and leaves every other entry. -/
def ClosesOwn (grow : Nat → Nat) (s : RegisterServerService keys) (log : List RegisterAction) (c : Nat) :
    Prop :=
  (s.step grow (.clientClose c)).1.undefined = false ∧
    ∀ kind info, info ∈ ((s.step grow (.clientClose c)).1.serverListManager.lists kind).infoList.items ↔
      info ∈ (s.serverListManager.lists kind).infoList.items ∧
        .registered c kind info.serverId ∉ log

/-- When a connection that has registered closes, the list is still in the buffer that its
pointer is into, and as many entries have a smaller id as had then. -/
def InPlace (s : RegisterServerService keys) (log : List RegisterAction) : RegisterEvent → Prop
  | .clientClose c => ∀ p, s.connections.find? c = some (some p) →
    p.pointer.buffer = (s.serverListManager.lists p.kind).infoList.buffer ∧
      ∀ serverId, .registered c p.kind serverId ∈ log →
        p.pointer.slot = (s.serverListManager.lists p.kind).lowerBound serverId
  | _ => True

/-- The ids that a connection has registered for the kind. -/
def registeredIds (c : Nat) (kind : ServerKind) (log : List RegisterAction) : List Nat :=
  log.filterMap fun
    | .registered c' kind' serverId => if c' = c ∧ kind' = kind then some serverId else none
    | _ => none

theorem mem_registeredIds {c : Nat} {kind : ServerKind} {log : List RegisterAction} {serverId : Nat} :
    serverId ∈ registeredIds c kind log ↔ .registered c kind serverId ∈ log := by
  rw [registeredIds,List.mem_filterMap]
  constructor
  · rintro ⟨a,member,same⟩
    cases a with
    | registered c' kind' other =>
      obtain ⟨⟨rfl,rfl⟩,given⟩ := Option.ite_none_right_eq_some.mp same
      obtain rfl := Option.some.inj given
      exact member
    | _ => cases same
  · exact fun member => ⟨_,member,if_pos ⟨rfl,rfl⟩⟩

instance (s : RegisterServerService keys) (log : List RegisterAction) :
    (e : RegisterEvent) → Decidable (InPlace s log e)
  | .clientClose c =>
    decidable_of_iff (∀ p ∈ (s.connections.find? c).join,
        p.pointer.buffer = (s.serverListManager.lists p.kind).infoList.buffer ∧
          ∀ serverId ∈ registeredIds c p.kind log,
            p.pointer.slot = (s.serverListManager.lists p.kind).lowerBound serverId) <| by
      simp only [InPlace,mem_registeredIds,Option.mem_def,Option.join_eq_some_iff]
  | .clientConnected | .clientPacket .. | .tick _ => inferInstanceAs (Decidable True)

/-! ## The invariant -/

structure Valid (s : RegisterServerService keys) (log : List RegisterAction) : Prop where
  running : s.undefined = false
  sorted : s.serverListManager.Sorted
  typed : ∀ kind, ∀ info ∈ (s.serverListManager.lists kind).infoList.items, info.serverType = kind
  own : ∀ c p, s.connections.find? c = some (some p) →
    ∃ serverId, ∀ kind other, .registered c kind other ∈ log ↔ kind = p.kind ∧ other = serverId
  bare : ∀ c, s.connections.find? c = some none ∨ ¬ s.connections.Issued c →
    ∀ kind serverId, .registered c kind serverId ∉ log
  live : ∀ kind serverId, Live s kind serverId ↔
    ∃ c, Open s c ∧ .registered c kind serverId ∈ log
  single : ∀ c c' kind serverId, Open s c → Open s c' → .registered c kind serverId ∈ log →
    .registered c' kind serverId ∈ log → c = c'

theorem Valid.owned {s : RegisterServerService keys} {log : List RegisterAction} (valid : Valid s log) :
    Owned s log := ⟨valid.running,valid.live⟩

theorem valid_init (maxConnections : Nat) : Valid (.init keys maxConnections) [] where
  running := rfl
  sorted _ := List.Pairwise.nil
  typed := by simp [RegisterServerService.init,InternalServerListManager.init]
  own := by simp [RegisterServerService.init]
  bare := by simp
  live := by simp [Live,RegisterServerService.init,InternalServerListManager.init]
  single := by simp

/-- Nothing that the invariant speaks of has changed. -/
private theorem valid_transfer {s s' : RegisterServerService keys} {log out : List RegisterAction}
    (valid : Valid s log) (running : s'.undefined = s.undefined)
    (lists : ∀ kind, (s'.serverListManager.lists kind).infoList.items =
      (s.serverListManager.lists kind).infoList.items)
    (connections : s'.connections = s.connections)
    (silent : ∀ c kind serverId, .registered c kind serverId ∉ out) : Valid s' (log ++ out) := by
  have same (c : Nat) (kind : ServerKind) (serverId : Nat) :
      .registered c kind serverId ∈ log ++ out ↔ .registered c kind serverId ∈ log := by
    simp [silent]
  refine ⟨running.trans valid.running,?_,?_,?_,?_,?_,?_⟩
  · simpa only [InternalServerListManager.Sorted,lists] using valid.sorted
  · simpa only [lists] using valid.typed
  · simpa only [connections,same] using valid.own
  · simpa only [connections,same] using valid.bare
  · simpa only [Live,Open,lists,connections,same] using valid.live
  · simpa only [Open,connections,same] using valid.single

theorem valid_connected {s : RegisterServerService keys} {log : List RegisterAction}
    (valid : Valid s log) {c : Nat} {connections : Storage keys (Option UserContext)}
    (acquired : s.connections.acquire (fun _ => none) = some (c,connections)) :
    Valid { s with connections } (log ++ [.accepted c]) := by
  have found (c' : Nat) : connections.find? c' = if c' = c then some none else s.connections.find? c' :=
    Storage.find?_acquire acquired c'
  obtain ⟨unknown,unissued⟩ := Storage.acquired_fresh acquired
  have silent := valid.bare c (.inr unissued)
  have same (c' : Nat) (kind : ServerKind) (serverId : Nat) :
      .registered c' kind serverId ∈ log ++ [.accepted c] ↔ .registered c' kind serverId ∈ log := by
    simp
  have opened (c' : Nat) (kind : ServerKind) (serverId : Nat) (member : .registered c' kind serverId ∈ log) :
      Open { s with connections } c' ↔ Open s c' := by
    have apart : c' ≠ c := by rintro rfl; exact silent kind serverId member
    simp [Open,found,apart]
  refine ⟨valid.running,valid.sorted,valid.typed,?_,?_,?_,?_⟩
  · intro c' p here
    rw [found] at here
    split at here
    · cases here
    · simpa only [same] using valid.own c' p here
  · intro c' free kind serverId
    rw [same]
    by_cases here : c' = c
    · exact here ▸ silent kind serverId
    · refine valid.bare c' (free.imp (fun none => ?_) (fun none old => none ?_)) kind serverId
      · rwa [found,if_neg here] at none
      · exact (Storage.issued_acquire acquired c').mpr (.inr old)
  · intro kind serverId
    refine (valid.live kind serverId).trans (exists_congr (fun c' => ?_))
    rw [same]
    exact and_congr_left (fun member => (opened c' kind serverId member).symm)
  · intro c' c'' kind serverId here there member member'
    rw [same] at member member'
    exact valid.single c' c'' kind serverId ((opened c' kind serverId member).mp here)
      ((opened c'' kind serverId member').mp there) member member'

/-! ## A registration -/

/-- What a registration changes, as far as the live lists and their owners are concerned. -/
structure Registers (s : RegisterServerService keys) (log : List RegisterAction) (c serverId : Nat)
    (kind : ServerKind) (pointer : Pointer) (s' : RegisterServerService keys)
    (log' : List RegisterAction) : Prop where
  bare : s.connections.find? c = some none
  fresh : ¬ Live s kind serverId
  found : ∀ c', s'.connections.find? c' =
    if c' = c then some (some ⟨kind,pointer⟩) else s.connections.find? c'
  issued : ∀ c', s'.connections.Issued c' ↔ s.connections.Issued c'
  live : ∀ kind' other, Live s' kind' other ↔ Live s kind' other ∨ kind' = kind ∧ other = serverId
  logged : ∀ c' kind' other, .registered c' kind' other ∈ log' ↔
    .registered c' kind' other ∈ log ∨ c' = c ∧ kind' = kind ∧ other = serverId

namespace Registers

variable {s s' : RegisterServerService keys} {log log' : List RegisterAction} {c serverId : Nat}
  {kind : ServerKind} {pointer : Pointer}

theorem opened (registers : Registers s log c serverId kind pointer s' log') (c' : Nat) :
    Open s' c' ↔ Open s c' := by
  unfold Open
  rw [registers.found]
  by_cases same : c' = c
  · simp [same,registers.bare]
  · rw [if_neg same]

theorem own (registers : Registers s log c serverId kind pointer s' log') (valid : Valid s log) (c' : Nat)
    (p : UserContext) (here : s'.connections.find? c' = some (some p)) :
    ∃ id, ∀ kind' other, .registered c' kind' other ∈ log' ↔ kind' = p.kind ∧ other = id := by
  rw [registers.found] at here
  split at here
  · rename_i same
    obtain rfl := Option.some.inj (Option.some.inj here)
    refine ⟨serverId,fun kind' other => ?_⟩
    rw [registers.logged]
    constructor
    · rintro (old | ⟨-,pair⟩)
      · exact absurd (same ▸ old) (valid.bare c (.inl registers.bare) kind' other)
      · exact pair
    · intro pair
      exact .inr ⟨same,pair⟩
  · rename_i apart
    obtain ⟨id,only⟩ := valid.own c' p here
    refine ⟨id,fun kind' other => ?_⟩
    rw [registers.logged,← only]
    simp [apart]

theorem unregistered (registers : Registers s log c serverId kind pointer s' log') (valid : Valid s log)
    (c' : Nat) (free : s'.connections.find? c' = some none ∨ ¬ s'.connections.Issued c')
    (kind' : ServerKind) (other : Nat) : .registered c' kind' other ∉ log' := by
  rw [registers.issued,registers.found] at free
  have apart : c' ≠ c := by
    rintro rfl
    rcases free with bare | unissued
    · simp at bare
    · exact unissued (Storage.issued_of_find? registers.bare)
  rw [if_neg apart] at free
  rw [registers.logged]
  simp only [apart,false_and,or_false]
  exact valid.bare c' free kind' other

theorem owners (registers : Registers s log c serverId kind pointer s' log') (valid : Valid s log)
    (kind' : ServerKind) (other : Nat) :
    Live s' kind' other ↔ ∃ c', Open s' c' ∧ .registered c' kind' other ∈ log' := by
  rw [registers.live,valid.live]
  constructor
  · rintro (⟨c',open_,held⟩ | pair)
    · exact ⟨c',(registers.opened c').mpr open_,(registers.logged c' kind' other).mpr (.inl held)⟩
    · have open_ : Open s c := by simp [Open,registers.bare]
      exact ⟨c,(registers.opened c).mpr open_,(registers.logged c kind' other).mpr (.inr ⟨rfl,pair⟩)⟩
  · rintro ⟨c',open_,held⟩
    rcases (registers.logged c' kind' other).mp held with old | ⟨-,pair⟩
    · exact .inl ⟨c',(registers.opened c').mp open_,old⟩
    · exact .inr pair

/-- Nobody else has what is registered, since it is not in the live list. -/
theorem unheld (registers : Registers s log c serverId kind pointer s' log') (valid : Valid s log) {c' : Nat}
    (open_ : Open s c') : .registered c' kind serverId ∉ log := by
  intro held
  exact registers.fresh ((valid.live kind serverId).mpr ⟨c',open_,held⟩)

theorem single (registers : Registers s log c serverId kind pointer s' log') (valid : Valid s log)
    (c' c'' : Nat) (kind' : ServerKind) (other : Nat) (open_ : Open s' c') (open_' : Open s' c'')
    (held : .registered c' kind' other ∈ log') (held' : .registered c'' kind' other ∈ log') : c' = c'' := by
  have open_ := (registers.opened c').mp open_
  have open_' := (registers.opened c'').mp open_'
  rcases (registers.logged c' kind' other).mp held with old | ⟨new,kinds,ids⟩ <;>
    rcases (registers.logged c'' kind' other).mp held' with old' | ⟨new',kinds',ids'⟩
  · exact valid.single c' c'' kind' other open_ open_' old old'
  · exact absurd (kinds' ▸ ids' ▸ old) (registers.unheld valid open_)
  · exact absurd (kinds ▸ ids ▸ old') (registers.unheld valid open_')
  · exact new.trans new'.symm

end Registers

/-- A registration that succeeds. -/
theorem valid_registered {s : RegisterServerService keys} {log : List RegisterAction}
    (valid : Valid s log) {c serverId : Nat} {kind : ServerKind} {address : NetAddress}
    {serverListManager : InternalServerListManager} {pointer : Pointer} {timestampMS : Nat}
    (here : s.connections.find? c = some none)
    (added : s.serverListManager.addServerInfo grow kind serverId address =
      some (serverListManager,pointer)) :
    Valid { s with
        serverListManager
        connections := s.connections.modify c (fun _ => some ⟨kind,pointer⟩) }
      (log ++ [.list (.added kind serverId timestampMS),.registered c kind serverId]) := by
  have sorted := InternalServerListManager.sorted_addServerInfo valid.sorted added
  obtain ⟨infoList,none,placed,rfl⟩ := InternalServerListManager.addServerInfo_spec added
  have fresh := (ServerInfoList.position?_eq_none (valid.sorted kind)).mp none
  have items := GrowArray.items_of_emplace placed
  have members (info : ServerInfo) : info ∈ infoList.items ↔
      info = ⟨kind,serverId,address⟩ ∨ info ∈ (s.serverListManager.lists kind).infoList.items := by
    rw [items]
    exact SortedBy.mem_insert
  have registers : Registers s log c serverId kind pointer
      { s with
        serverListManager := s.serverListManager.setList kind { s.serverListManager.lists kind with
          infoList, versionTimestampMS := s.serverListManager.ticker, dirty := true }
        connections := s.connections.modify c (fun _ => some ⟨kind,pointer⟩) }
      (log ++ [.list (.added kind serverId timestampMS),.registered c kind serverId]) := by
    refine ⟨here,?_,?_,fun _ => Iff.rfl,?_,?_⟩
    · rintro ⟨info,inside,same⟩
      exact fresh info inside same
    · intro c'
      rw [Storage.find?_modify,here]
      rfl
    · intro kind' other
      simp only [Live,InternalServerListManager.lists_setList]
      by_cases same : kind' = kind
      · subst same
        simp only [if_true,members]
        grind
      · simp [same]
    · simp
  refine ⟨valid.running,sorted,?_,registers.own valid,registers.unregistered valid,
    registers.owners valid,registers.single valid⟩
  apply InternalServerListManager.forall_setList
    (p := fun kind' l => ∀ info ∈ l.infoList.items, info.serverType = kind') ?_ valid.typed
  intro info inside
  rcases (members info).mp inside with rfl | old
  · rfl
  · exact valid.typed kind info old

/-! ## Closing a connection -/

section Close

variable {s : RegisterServerService keys} {log : List RegisterAction} {c : Nat} {p : UserContext}

/-- The entry of a connection that has registered. -/
theorem own_entry (valid : Valid s log) (here : s.connections.find? c = some (some p)) :
    ∃ info, (s.serverListManager.lists p.kind).infoList.items[
          (s.serverListManager.lists p.kind).lowerBound info.serverId]? = some info ∧
      ∀ kind other, .registered c kind other ∈ log ↔ kind = p.kind ∧ other = info.serverId := by
  obtain ⟨serverId,only⟩ := valid.own c p here
  have open_ : Open s c := by simp [Open,here]
  obtain ⟨info,inside,rfl⟩ := (valid.live p.kind serverId).mpr ⟨c,open_,(only p.kind serverId).mpr ⟨rfl,rfl⟩⟩
  exact ⟨info,SortedBy.getElem?_lowerBound (valid.sorted p.kind) inside,only⟩

/-- The pointer leads to an entry, which is removed; or the read is undefined. -/
theorem clientClose_cases (grow : Nat → Nat) (valid : Valid s log)
    (here : s.connections.find? c = some (some p)) :
    ((s.serverListManager.lists p.kind).infoList.deref? p.pointer = none ∧
      (s.step grow (.clientClose c)).1.undefined = true) ∨
    ∃ info, (s.serverListManager.lists p.kind).infoList.items[
          (s.serverListManager.lists p.kind).lowerBound info.serverId]? = some info ∧
      (s.serverListManager.lists p.kind).infoList.deref? p.pointer = some info ∧
      s.step grow (.clientClose c) =
        ({ s with
            serverListManager := s.serverListManager.setList p.kind { s.serverListManager.lists p.kind with
              infoList := (s.serverListManager.lists p.kind).infoList.erase
                ((s.serverListManager.lists p.kind).lowerBound info.serverId) }
            connections := s.connections.release c },
          [.list (.removed p.kind info.serverId s.serverListManager.ticker)]) := by
  cases entry : (s.serverListManager.lists p.kind).infoList.deref? p.pointer with
  | none =>
    refine .inl ⟨rfl,?_⟩
    simp [step,valid.running,here,onClientClose,entry]
  | some info =>
    have inside : info ∈ (s.serverListManager.lists p.kind).infoList.items := by
      unfold GrowArray.deref? at entry
      split at entry
      · exact List.mem_of_getElem? entry
      · cases entry
    have stands := SortedBy.getElem?_lowerBound (valid.sorted p.kind) inside
    refine .inr ⟨info,stands,rfl,?_⟩
    simp [step,valid.running,here,onClientClose,entry,valid.typed p.kind info inside,
      InternalServerListManager.removeServerInfo_eq stands]

/-- What is left in the lists when an entry has been removed. -/
theorem mem_removed (valid : Valid s log) {kind : ServerKind} {info : ServerInfo}
    (stands : (s.serverListManager.lists kind).infoList.items[
      (s.serverListManager.lists kind).lowerBound info.serverId]? = some info)
    (kind' : ServerKind) (other : ServerInfo) :
    other ∈ ((s.serverListManager.setList kind { s.serverListManager.lists kind with
        infoList := (s.serverListManager.lists kind).infoList.erase
          ((s.serverListManager.lists kind).lowerBound info.serverId) }).lists kind').infoList.items ↔
      other ∈ (s.serverListManager.lists kind').infoList.items ∧
        ¬ (kind' = kind ∧ other.serverId = info.serverId) := by
  rw [InternalServerListManager.lists_setList]
  by_cases same : kind' = kind
  · subst same
    rw [if_pos rfl]
    simpa using SortedBy.mem_erase (valid.sorted kind') stands other
  · simp [same]

/-- The pointer leads to the connection's own entry exactly if that has not moved. -/
theorem deref_own (valid : Valid s log) (here : s.connections.find? c = some (some p)) {info : ServerInfo}
    (stands : (s.serverListManager.lists p.kind).infoList.items[
      (s.serverListManager.lists p.kind).lowerBound info.serverId]? = some info)
    (only : ∀ kind other, .registered c kind other ∈ log ↔ kind = p.kind ∧ other = info.serverId) :
    (s.serverListManager.lists p.kind).infoList.deref? p.pointer = some info ↔
      InPlace s log (.clientClose c) := by
  have inPlace : InPlace s log (.clientClose c) ↔
      p.pointer.buffer = (s.serverListManager.lists p.kind).infoList.buffer ∧
        p.pointer.slot = (s.serverListManager.lists p.kind).lowerBound info.serverId := by
    simp [InPlace,here,only]
  rw [inPlace]
  unfold GrowArray.deref?
  constructor
  · intro found
    split at found
    · rename_i same
      exact ⟨same,(SortedBy.lowerBound_of_getElem? (valid.sorted p.kind) found).symm⟩
    · cases found
  · rintro ⟨same,slot⟩
    rw [if_pos same,slot]
    exact stands

/-- The connection is gone, and of the entries those that it had registered. -/
theorem valid_released {s' : RegisterServerService keys} {out : List RegisterAction}
    (valid : Valid s log) (known : Open s c) (running : s'.undefined = false)
    (sorted : s'.serverListManager.Sorted)
    (members : ∀ kind info, info ∈ (s'.serverListManager.lists kind).infoList.items ↔
      info ∈ (s.serverListManager.lists kind).infoList.items ∧ .registered c kind info.serverId ∉ log)
    (connections : s'.connections = s.connections.release c)
    (silent : ∀ c kind serverId, .registered c kind serverId ∉ out) : Valid s' (log ++ out) := by
  have same (c : Nat) (kind : ServerKind) (serverId : Nat) :
      .registered c kind serverId ∈ log ++ out ↔ .registered c kind serverId ∈ log := by
    simp [silent]
  have found (c' : Nat) : s'.connections.find? c' = if c' = c then none else s.connections.find? c' := by
    rw [connections,Storage.find?_release]
  have opened (c' : Nat) : Open s' c' ↔ Open s c' ∧ c' ≠ c := by
    unfold Open
    rw [found]
    split <;> simp_all
  refine ⟨running,sorted,?_,?_,?_,?_,?_⟩
  · intro kind info inside
    exact valid.typed kind info ((members kind info).mp inside).1
  · intro c' p here
    rw [found] at here
    split at here
    · cases here
    · simpa only [same] using valid.own c' p here
  · intro c' free kind serverId
    rw [same]
    refine valid.bare c' (free.imp (fun none => ?_) (fun unissued old => unissued ?_)) kind serverId
    · rw [found] at none
      split at none
      · cases none
      · exact none
    · rw [connections]
      exact old
  · intro kind serverId
    constructor
    · rintro ⟨info,inside,rfl⟩
      obtain ⟨old,kept⟩ := (members kind info).mp inside
      obtain ⟨c',open_,held⟩ := (valid.live kind info.serverId).mp ⟨info,old,rfl⟩
      have apart : c' ≠ c := by rintro rfl; exact kept held
      exact ⟨c',(opened c').mpr ⟨open_,apart⟩,(same c' kind info.serverId).mpr held⟩
    · rintro ⟨c',open_,held⟩
      obtain ⟨open_,apart⟩ := (opened c').mp open_
      rw [same] at held
      obtain ⟨info,inside,rfl⟩ := (valid.live kind serverId).mpr ⟨c',open_,held⟩
      refine ⟨info,(members kind info).mpr ⟨inside,fun shared => ?_⟩,rfl⟩
      exact apart (valid.single c' c kind info.serverId open_ known held shared)
  · intro c' c'' kind serverId open_ open_' held held'
    rw [same] at held held'
    exact valid.single c' c'' kind serverId ((opened c').mp open_).1 ((opened c'').mp open_').1 held held'

/-- A connection whose entry has not moved takes that entry with it. -/
theorem closed_inPlace (valid : Valid s log) (known : Open s c) (inPlace : InPlace s log (.clientClose c)) :
    Valid (s.step grow (.clientClose c)).1 (log ++ (s.step grow (.clientClose c)).2) ∧
      ClosesOwn grow s log c := by
  cases here : s.connections.find? c with
  | none => exact absurd here known
  | some userContext =>
  cases userContext with
  | none =>
    have closed : s.step grow (.clientClose c) = ({ s with connections := s.connections.release c },[]) := by
      simp [step,valid.running,here,onClientClose]
    have silent := valid.bare c (.inl here)
    rw [ClosesOwn,closed]
    refine ⟨valid_released valid known valid.running valid.sorted ?_ rfl (by simp),valid.running,?_⟩ <;>
      simp [silent]
  | some p =>
    obtain ⟨info,stands,only⟩ := own_entry valid here
    have leads := (deref_own valid here stands only).mpr inPlace
    rcases clientClose_cases grow valid here with ⟨none,-⟩ | ⟨info',-,leads',closed⟩
    · rw [leads] at none
      cases none
    obtain rfl : info = info' := Option.some.inj (leads.symm.trans leads')
    have members := mem_removed valid stands
    have sorted := InternalServerListManager.sorted_removeServerInfo valid.sorted p.kind info.serverId
    rw [InternalServerListManager.removeServerInfo_eq stands] at sorted
    simp only [← only] at members
    rw [ClosesOwn,closed]
    exact ⟨valid_released valid known valid.running sorted members rfl (by simp),valid.running,members⟩

/-- One whose entry has moved takes that of another connection, or worse. -/
theorem closed_elsewhere (valid : Valid s log) (moved : ¬ InPlace s log (.clientClose c)) :
    ¬ Owned (s.step grow (.clientClose c)).1 (log ++ (s.step grow (.clientClose c)).2) ∧
      ¬ ClosesOwn grow s log c := by
  cases here : s.connections.find? c with
  | none => exact absurd (by simp [InPlace,here]) moved
  | some userContext =>
  cases userContext with
  | none => exact absurd (by simp [InPlace,here]) moved
  | some p =>
    obtain ⟨info,stands,only⟩ := own_entry valid here
    have astray := mt (deref_own valid here stands only).mp moved
    rcases clientClose_cases grow valid here with ⟨-,undefined⟩ | ⟨info',stands',leads,closed⟩
    · have running : (s.step grow (.clientClose c)).1.undefined ≠ false := by simp [undefined]
      exact ⟨fun owned => running owned.1,fun own => running own.1⟩
    have inside := List.mem_of_getElem? stands'
    have other : info'.serverId ≠ info.serverId := by
      intro same
      have member := List.mem_of_getElem? stands
      obtain rfl := SortedBy.key_injective (valid.sorted p.kind) inside member same
      exact astray leads
    have gone := mem_removed valid stands' p.kind
    obtain ⟨c',known,held⟩ := (valid.live p.kind info'.serverId).mp ⟨info',inside,rfl⟩
    have apart : c' ≠ c := by
      rintro rfl
      exact other ((only p.kind info'.serverId).mp held).2
    rw [ClosesOwn,Owned,closed]
    constructor
    · rintro ⟨-,live⟩
      have still : (s.connections.release c).find? c' ≠ none := by
        rw [Storage.find?_release,if_neg apart]
        exact known
      obtain ⟨info'',left,same⟩ := (live p.kind info'.serverId).mpr ⟨c',still,by simp [held]⟩
      exact ((gone info'').mp left).2 ⟨rfl,same⟩
    · rintro ⟨-,members⟩
      have left := (members p.kind info').mpr ⟨inside,fun shared => other ((only p.kind _).mp shared).2⟩
      exact ((gone info').mp left).2 ⟨rfl,rfl⟩

end Close

/-! ## Every run -/

theorem valid_step {s : RegisterServerService keys} {log : List RegisterAction} (valid : Valid s log)
    (e : RegisterEvent) (inPlace : InPlace s log e) :
    Valid (s.step grow e).1 (log ++ (s.step grow e).2) := by
  cases e with
  | clientConnected =>
    cases acquired : s.connections.acquire (fun _ => none) with
    | none => simpa [step,valid.running,acquired] using valid
    | some pair => simpa [step,valid.running,acquired] using valid_connected valid acquired
  | clientPacket c packet =>
    cases here : s.connections.find? c with
    | none => simpa [step,valid.running,here] using valid
    | some userContext =>
    have dispatched : s.step grow (.clientPacket c packet) = s.onClientPacket grow c userContext packet := by
      simp [step,valid.running,here]
    rw [dispatched]
    have refused : Valid s (log ++ [.refused c]) :=
      valid_transfer valid rfl (fun _ => rfl) rfl (by simp)
    have registered (kind : ServerKind) (request : Option RegisterRequest) :
        Valid (s.onRegister grow kind c userContext request).1
          (log ++ (s.onRegister grow kind c userContext request).2) := by
      unfold onRegister
      split
      · exact refused
      · exact refused
      · split
        · exact refused
        · rename_i added
          exact valid_registered valid here added
    cases packet with
    | other => simpa [onClientPacket] using valid
    | register kind request => cases kind <;> exact registered _ request
  | clientClose c =>
    by_cases known : Open s c
    · exact (closed_inPlace valid known inPlace).1
    · have unknown : s.connections.find? c = none := not_not.mp known
      simpa [step,valid.running,unknown] using valid
  | tick nowMS =>
    have ticked : s.step grow (.tick nowMS) =
        ({ s with serverListManager := (s.serverListManager.onTick nowMS).1 },
          (s.serverListManager.onTick nowMS).2.map .list) := by
      simp [step,valid.running]
    rw [ticked]
    refine valid_transfer valid rfl (fun kind => ?_) rfl (by simp)
    rw [InternalServerListManager.infoList_onTick]

theorem valid_reach {s : RegisterServerService keys} {log : List RegisterAction}
    (reach : (registerMachine grow keys).Reach InPlace s log) : Valid s log := by
  refine reach.invariant (I := Valid) ?_ (fun s log e _ inPlace valid => valid_step valid e inPlace)
  rintro _ ⟨maxConnections,rfl⟩
  exact valid_init maxConnections

/-- In every run in which each connection that closes finds its entry where it has put it: the
live lists hold what the open connections have registered. One event more keeps it so if and
only if it meets the condition, and so does a close that is to take the connection's own entry
and no other. -/
theorem registry_ownership {s : RegisterServerService keys} {log : List RegisterAction}
    (reach : (registerMachine grow keys).Reach InPlace s log) :
    Owned s log ∧
    (∀ e, Owned (s.step grow e).1 (log ++ (s.step grow e).2) ↔ InPlace s log e) ∧
    ∀ c, Open s c → (ClosesOwn grow s log c ↔ InPlace s log (.clientClose c)) := by
  have valid := valid_reach reach
  refine ⟨valid.owned,fun e => ⟨fun owned => ?_,fun inPlace => (valid_step valid e inPlace).owned⟩,
    fun c known => ⟨fun own => ?_,fun inPlace => (closed_inPlace valid known inPlace).2⟩⟩
  · cases e with
    | clientClose c => exact not_not.mp (fun moved => (closed_elsewhere valid moved).1 owned)
    | clientConnected => trivial
    | clientPacket c packet => trivial
    | tick nowMS => trivial
  · exact not_not.mp (fun moved => (closed_elsewhere valid moved).2 own)

/-! ## A server that takes another's entry -/

/-- Connections 1 to 4 register the servers 5, 6, 7 and then 1, all within a capacity of 4. -/
def fourServers : List RegisterEvent :=
  [.clientConnected,.clientConnected,.clientConnected,.clientConnected,
    .clientPacket 1 (.register .authCache (some ⟨5,.unspecified⟩)),
    .clientPacket 2 (.register .authCache (some ⟨6,.unspecified⟩)),
    .clientPacket 3 (.register .authCache (some ⟨7,.unspecified⟩)),
    .clientPacket 4 (.register .authCache (some ⟨1,.unspecified⟩))]

abbrev registered (es : List RegisterEvent) :
    RegisterServerService .sequential × List RegisterAction :=
  (registerMachine doubling .sequential).run (.init .sequential 8) es

theorem registered_reach (es : List RegisterEvent)
    (inPlace : (registerMachine doubling .sequential).Allowed InPlace (.init .sequential 8) [] es) :
    (registerMachine doubling .sequential).Reach InPlace (registered es).1 (registered es).2 := by
  have start : (registerMachine doubling .sequential).start (.init .sequential 8) := ⟨8,rfl⟩
  simpa using Machine.Reach.run (.start start) es inPlace

/-- Connection 4, the last to register, closes and takes its own entry with it. -/
theorem registry_ownership_fourServers :
    ClosesOwn doubling (registered fourServers).1 (registered fourServers).2 4 ∧
      Owned (registered (fourServers ++ [.clientClose 4])).1 (registered (fourServers ++ [.clientClose 4])).2 := by
  have before : (registerMachine doubling .sequential).Allowed InPlace (.init .sequential 8) [] fourServers := by
    decide +kernel
  have all : (registerMachine doubling .sequential).Allowed InPlace (.init .sequential 8) []
      (fourServers ++ [.clientClose 4]) := by decide +kernel
  have isOpen : Open (registered fourServers).1 4 := by decide +kernel
  have inPlace : InPlace (registered fourServers).1 (registered fourServers).2 (.clientClose 4) := by
    decide +kernel
  obtain ⟨-,-,closes⟩ := registry_ownership (registered_reach fourServers before)
  exact ⟨(closes 4 isOpen).mpr inPlace,(registry_ownership (registered_reach _ all)).1⟩

/-- Connection 3, which has registered server 7, closes, and server 6 is removed. -/
theorem close_removes_another :
    ∃ (s : RegisterServerService .sequential) (log : List RegisterAction),
      (registerMachine doubling .sequential).Reach Machine.anything s log ∧
        .registered 3 .authCache 7 ∈ log ∧ .registered 2 .authCache 6 ∈ log ∧
        Open s 2 ∧ Open s 3 ∧
        (s.step doubling (.clientClose 3)).2 = [.list (.removed .authCache 6 0)] ∧
        ¬ ClosesOwn doubling s log 3 ∧
        ¬ Owned (s.step doubling (.clientClose 3)).1 (log ++ (s.step doubling (.clientClose 3)).2) := by
  have start : (registerMachine doubling .sequential).start (.init .sequential 8) := ⟨8,rfl⟩
  refine ⟨_,_,Machine.reach_run start fourServers,by decide,by decide,by decide,by decide,by decide,?_,?_⟩
  · rintro ⟨-,members⟩
    have := (members .authCache ⟨.authCache,6,.unspecified⟩).mpr ⟨by decide,by decide⟩
    revert this
    decide
  · rintro ⟨-,live⟩
    obtain ⟨info,inside,same⟩ := (live .authCache 6).mpr ⟨2,by decide,by decide⟩
    revert same
    revert info
    decide

end MiniPP.Registry
