import MiniPP.RelayLinks.Manager

/-! Every link of a group is on one list, and no pointer is ever stored under an id. -/
namespace MiniPP.RelayLinks.RelayConnectionManager

open Proxy (RelayDispatch)

variable {keys : KeySource} {m m' m'' : RelayConnectionManager keys} {temp : List Nat} {rcp : Nat}

/-! ## Where the links are -/

/-- `temp` are links that are off both lists, to be put back. -/
structure Placed (temp : List Nat) (m : RelayConnectionManager keys) : Prop where
  once : (m.idleList ++ temp ++ m.killList).Nodup
  linked : ∀ rcp, rcp ∈ m.idleList ++ temp ++ m.killList ↔ m.groups (groupPtr rcp) ≠ none
  bounded : ∀ gp, m.groups gp ≠ none → gp < m.allocated
  located : ∀ gp, m.groups gp ≠ none → (∃ id, m.relayGroupMap id = some gp) ∨ gp ∈ m.killGroupList
  mapped : ∀ id gp, m.relayGroupMap id = some gp → m.groups gp ≠ none ∧ gp ∉ m.killGroupList
  apart : ∀ id id' gp, m.relayGroupMap id = some gp → m.relayGroupMap id' = some gp → id = id'
  killed : ∀ gp ∈ m.killGroupList, m.groups gp ≠ none
  called : ∀ rcp, (m.connections rcp).calledBack = true → m.groups (groupPtr rcp) ≠ none

/-- What only touches the pool, and links without the times they were asked at. -/
structure Frame (m m' : RelayConnectionManager keys) : Prop where
  ticker : m'.ticker = m.ticker
  idleList : m'.idleList = m.idleList
  killList : m'.killList = m.killList
  killGroupList : m'.killGroupList = m.killGroupList
  relayGroupMap : m'.relayGroupMap = m.relayGroupMap
  groups : m'.groups = m.groups
  allocated : m'.allocated = m.allocated
  called : ∀ rcp, (m'.connections rcp).calledBack = true → (m.connections rcp).calledBack = true
  requested : ∀ rcp, (m'.connections rcp).lastKeepAliveRequestTimestampMS =
    (m.connections rcp).lastKeepAliveRequestTimestampMS

theorem Frame.refl (m : RelayConnectionManager keys) : Frame m m :=
  ⟨rfl,rfl,rfl,rfl,rfl,rfl,rfl,fun _ => id,fun _ => rfl⟩

theorem Frame.trans (first : Frame m m') (second : Frame m' m'') : Frame m m'' where
  ticker := second.ticker.trans first.ticker
  idleList := second.idleList.trans first.idleList
  killList := second.killList.trans first.killList
  killGroupList := second.killGroupList.trans first.killGroupList
  relayGroupMap := second.relayGroupMap.trans first.relayGroupMap
  groups := second.groups.trans first.groups
  allocated := second.allocated.trans first.allocated
  called rcp holds := first.called rcp (second.called rcp holds)
  requested rcp := (second.requested rcp).trans (first.requested rcp)

theorem frame_modify (m : RelayConnectionManager keys) (rcp : Nat) (change : RelayConnection → RelayConnection)
    (called : (change (m.connections rcp)).calledBack = true → (m.connections rcp).calledBack = true)
    (requested : (change (m.connections rcp)).lastKeepAliveRequestTimestampMS =
      (m.connections rcp).lastKeepAliveRequestTimestampMS) : Frame m (m.modify rcp change) := by
  refine ⟨rfl,rfl,rfl,rfl,rfl,rfl,rfl,fun other => ?_,fun other => ?_⟩
  · by_cases same : other = rcp
    · subst same
      simpa [modify] using called
    · simp [modify,same]
  · by_cases same : other = rcp
    · subst same
      simpa [modify] using requested
    · simp [modify,same]

theorem frame_release (m : RelayConnectionManager keys) (id : Nat) : Frame m (m.release id) :=
  ⟨rfl,rfl,rfl,rfl,rfl,rfl,rfl,fun _ holds => holds,fun _ => rfl⟩

theorem frame_cleanConnection (m : RelayConnectionManager keys) (rcp : Nat) : Frame m (m.cleanConnection rcp) :=
  (frame_release m _).trans (frame_modify _ rcp _ (fun none => by cases none) rfl)

theorem frame_acquire (m : RelayConnectionManager keys) (rcp : Nat) : Frame m (m.acquire rcp) := by
  unfold acquire
  split
  · exact frame_modify m rcp _ id rfl
  · rename_i newId _ _
    have changed := frame_modify m rcp (fun rc => { rc with connectionId := newId }) id rfl
    exact ⟨rfl,rfl,rfl,rfl,rfl,rfl,rfl,changed.called,changed.requested⟩

theorem frame_foldl {f : RelayConnectionManager keys → Nat → RelayConnectionManager keys}
    (each : ∀ m x, Frame m (f m x)) (list : List Nat) (m : RelayConnectionManager keys) :
    Frame m (list.foldl f m) := by
  induction list generalizing m with
  | nil => exact .refl m
  | cons x list ih => exact (each m x).trans (ih (f m x))

theorem Placed.frame (placed : Placed temp m) (frame : Frame m m') : Placed temp m' where
  once := by simpa only [frame.idleList,frame.killList] using placed.once
  linked := by simpa only [frame.idleList,frame.killList,frame.groups] using placed.linked
  bounded := by simpa only [frame.groups,frame.allocated] using placed.bounded
  located := by simpa only [frame.groups,frame.relayGroupMap,frame.killGroupList] using placed.located
  mapped := by simpa only [frame.groups,frame.relayGroupMap,frame.killGroupList] using placed.mapped
  apart := by simpa only [frame.relayGroupMap] using placed.apart
  killed := by simpa only [frame.groups,frame.killGroupList] using placed.killed
  called rcp holds := by simpa only [frame.groups] using placed.called rcp (frame.called rcp holds)

/-- The links may be moved about. -/
theorem Placed.move (placed : Placed temp m) {idleList temp' killList : List Nat}
    (perm : (idleList ++ temp' ++ killList).Perm (m.idleList ++ temp ++ m.killList)) :
    Placed temp' { m with idleList := idleList, killList := killList } where
  once := perm.nodup_iff.mpr placed.once
  linked rcp := perm.mem_iff.trans (placed.linked rcp)
  bounded := placed.bounded
  located := placed.located
  mapped := placed.mapped
  apart := placed.apart
  killed := placed.killed
  called := placed.called

/-- One link may be changed as long as it is called back only if it is there. -/
theorem Placed.modify (placed : Placed temp m) (change : RelayConnection → RelayConnection)
    (there : m.groups (groupPtr rcp) ≠ none) : Placed temp (m.modify rcp change) where
  once := placed.once
  linked := placed.linked
  bounded := placed.bounded
  located := placed.located
  mapped := placed.mapped
  apart := placed.apart
  killed := placed.killed
  called other holds := by
    by_cases same : other = rcp
    · exact same ▸ there
    · exact placed.called other (by simpa [RelayConnectionManager.modify,same] using holds)

/-! ## Moves -/

/-- The links with one of them out. -/
theorem Placed.perm_out (placed : Placed temp m) (there : m.groups (groupPtr rcp) ≠ none) (off : rcp ∉ temp) :
    (m.idleList ++ temp ++ m.killList).Perm
      (rcp :: (without m.idleList rcp ++ temp ++ without m.killList rcp)) := by
  have out := perm_without placed.once ((placed.linked rcp).mpr there)
  rwa [without_append,without_append,without_absent off] at out

theorem Placed.toIdle (placed : Placed temp m) (there : m.groups (groupPtr rcp) ≠ none) (off : rcp ∉ temp) :
    Placed temp { m with idleList := toTail m.idleList rcp, killList := without m.killList rcp } := by
  apply placed.move
  refine List.Perm.trans ?_ (placed.perm_out there off).symm
  simp only [toTail,List.append_assoc,List.singleton_append]
  exact List.perm_middle

theorem Placed.toKill (placed : Placed temp m) (there : m.groups (groupPtr rcp) ≠ none) (off : rcp ∉ temp) :
    Placed temp (m.deferKillConnection rcp) := by
  apply placed.move
  refine List.Perm.trans ?_ (placed.perm_out there off).symm
  simp only [toTail]
  rw [← List.append_assoc]
  exact List.perm_append_singleton _ _

/-- The head of the idle list goes to the links that are put back. -/
theorem Placed.pop {rest : List Nat} (placed : Placed temp m) (head : m.idleList = rcp :: rest) :
    Placed (temp ++ [rcp]) { m with idleList := rest } := by
  apply placed.move
  rw [head]
  simp only [List.append_assoc,List.cons_append,List.nil_append]
  rw [← List.append_assoc]
  exact List.perm_middle.trans (by simp)

theorem Placed.keepAlive (placed : Placed [] m) (there : m.groups (groupPtr rcp) ≠ none) :
    Placed [] (m.keepAlive rcp) :=
  (placed.modify _ there).toIdle there (by simp)

theorem Placed.onPeerClose (placed : Placed [] m) (there : m.groups (groupPtr rcp) ≠ none) (stillOpen : Bool) :
    Placed [] (m.onPeerClose rcp stillOpen) :=
  (placed.modify _ there).toKill there (by simp)

/-! ## Groups -/

theorem mem_newLinks {gp : Nat} {list : List Nat} :
    rcp ∈ (connectionsOf gp).reverse ++ list ↔ groupPtr rcp = gp ∨ rcp ∈ list := by
  rw [List.mem_append,List.mem_reverse,mem_connectionsOf]

/-- A new group, under an id whose old group, if any, is given up. -/
theorem Placed.newGroup (placed : Placed [] m) {runtimeServerId : Nat} {killGroupList : List Nat}
    (given : ∀ gp, gp ∈ killGroupList ↔ gp ∈ m.killGroupList ∨ m.relayGroupMap runtimeServerId = some gp)
    (target : TargetAddress) :
    Placed [] ({ m with killGroupList := killGroupList }.newGroup runtimeServerId target) := by
  have fresh : m.groups m.allocated = none := by
    by_contra there
    exact Nat.lt_irrefl _ (placed.bounded _ there)
  have unlisted {rcp : Nat} (listed : rcp ∈ m.idleList ++ [] ++ m.killList) : groupPtr rcp ≠ m.allocated :=
    fun same => (placed.linked rcp).mp listed (same ▸ fresh)
  have old {gp : Nat} (there : m.groups gp ≠ none) : gp ≠ m.allocated := fun same => there (same ▸ fresh)
  constructor
  case once =>
    simp only [RelayConnectionManager.newGroup,blank,List.append_nil,List.append_assoc]
    have once := placed.once
    rw [List.append_nil] at once
    refine List.nodup_append.mpr ⟨List.nodup_reverse.mpr (nodup_connectionsOf _),once,?_⟩
    intro a new b listed same
    subst same
    exact unlisted (by simpa using listed) (mem_connectionsOf.mp (List.mem_reverse.mp new))
  case linked =>
    intro rcp
    have linked := placed.linked rcp
    simp only [List.append_nil] at linked
    simp only [RelayConnectionManager.newGroup,blank,List.append_nil,List.append_assoc,mem_newLinks,linked]
    by_cases same : groupPtr rcp = m.allocated
    · simp [same]
    · simp [same]
  case bounded =>
    intro gp there
    by_cases same : gp = m.allocated
    · exact Nat.lt_succ_of_le (Nat.le_of_eq same)
    · exact Nat.lt_succ_of_lt (placed.bounded gp (by simpa [RelayConnectionManager.newGroup,blank,same] using there))
  case located =>
    intro gp there
    by_cases same : gp = m.allocated
    · exact .inl ⟨runtimeServerId,by simp [RelayConnectionManager.newGroup,same]⟩
    · have there : m.groups gp ≠ none := by
        simpa [RelayConnectionManager.newGroup,blank,same] using there
      rcases placed.located gp there with ⟨id,mapped⟩ | killed
      · by_cases replaced : id = runtimeServerId
        · exact .inr ((given gp).mpr (.inr (replaced ▸ mapped)))
        · exact .inl ⟨id,by simpa [RelayConnectionManager.newGroup,blank,replaced] using mapped⟩
      · exact .inr ((given gp).mpr (.inl killed))
  case mapped =>
    intro id gp mapped
    rcases of_update_some mapped with ⟨rfl,rfl⟩ | ⟨other,mapped⟩
    · refine ⟨by simp [RelayConnectionManager.newGroup],fun killed => ?_⟩
      rcases (given _).mp killed with killed | replaced
      · exact old (placed.killed _ killed) rfl
      · exact old (placed.mapped _ _ replaced).1 rfl
    · obtain ⟨there,alive⟩ := placed.mapped id gp mapped
      refine ⟨?_,fun killed => ?_⟩
      · simpa [RelayConnectionManager.newGroup,blank,old there] using there
      · rcases (given _).mp killed with killed | replaced
        · exact alive killed
        · exact other (placed.apart _ _ gp mapped replaced)
  case apart =>
    intro id id' gp mapped mapped'
    rcases of_update_some mapped with ⟨rfl,rfl⟩ | ⟨-,before⟩
    · rcases of_update_some mapped' with ⟨rfl,-⟩ | ⟨-,before⟩
      · rfl
      · exact absurd rfl (old (placed.mapped _ _ before).1)
    · rcases of_update_some mapped' with ⟨rfl,rfl⟩ | ⟨-,before'⟩
      · exact absurd rfl (old (placed.mapped _ _ before).1)
      · exact placed.apart id id' gp before before'
  case killed =>
    intro gp killed
    have there : m.groups gp ≠ none := by
      rcases (given gp).mp killed with killed | replaced
      · exact placed.killed gp killed
      · exact (placed.mapped _ gp replaced).1
    simpa [RelayConnectionManager.newGroup,blank,old there] using there
  case called =>
    intro rcp holds
    by_cases same : groupPtr rcp = m.allocated
    · simp [RelayConnectionManager.newGroup,blank,same] at holds
    · have there := placed.called rcp (by simpa [RelayConnectionManager.newGroup,blank,same] using holds)
      simpa [RelayConnectionManager.newGroup,blank,same] using there

theorem Placed.addRelayGroup (placed : Placed [] m) (runtimeServerId : Nat) (target : TargetAddress) :
    Placed [] (m.addRelayGroup runtimeServerId target).1 := by
  unfold RelayConnectionManager.addRelayGroup
  split
  · rename_i unmapped
    exact placed.newGroup (fun gp => by simp [unmapped]) target
  · rename_i gp mapped
    split
    · exact placed
    · have alive := (placed.mapped _ gp mapped).2
      refine placed.newGroup (fun other => ?_) target
      rw [mapped,mem_toTail,Option.some.injEq]
      constructor
      · rintro (⟨killed,-⟩ | rfl)
        · exact .inl killed
        · exact .inr rfl
      · rintro (killed | rfl)
        · exact .inl ⟨killed,fun same => alive (same ▸ killed)⟩
        · exact .inr rfl

/-! ## What is freed -/

theorem Placed.freeKilled (placed : Placed [] m) (there : m.groups (groupPtr rcp) ≠ none) :
    Placed [] (m.freeKilled rcp) := by
  have cleaned := placed.frame (frame_cleanConnection m rcp)
  exact (cleaned.modify _ there).toIdle there (by simp)

theorem Placed.freeAll {list : List Nat} (placed : Placed [] m)
    (there : ∀ rcp ∈ list, m.groups (groupPtr rcp) ≠ none) : Placed [] (list.foldl RelayConnectionManager.freeKilled m) := by
  induction list generalizing m with
  | nil => exact placed
  | cons rcp list ih =>
    refine ih (placed.freeKilled (there rcp (by simp))) fun other member => ?_
    exact there other (by simp [member])

theorem Placed.doFreeKillList (placed : Placed [] m) : Placed [] m.doFreeKillList.1 :=
  placed.freeAll fun rcp member => (placed.linked rcp).mp (by simp [member])

/-- Freeing killed links leaves the groups as they are. -/
theorem foldl_freeKilled (list : List Nat) (m : RelayConnectionManager keys) :
    (list.foldl RelayConnectionManager.freeKilled m).ticker = m.ticker ∧
      (list.foldl RelayConnectionManager.freeKilled m).relayGroupMap = m.relayGroupMap ∧
      (list.foldl RelayConnectionManager.freeKilled m).killGroupList = m.killGroupList ∧
      (list.foldl RelayConnectionManager.freeKilled m).groups = m.groups := by
  induction list generalizing m with
  | nil => exact ⟨rfl,rfl,rfl,rfl⟩
  | cons rcp list ih => exact ih (m.freeKilled rcp)

/-- The groups of `gone` are destroyed, and their links with them. -/
structure Freed (gone : List Nat) (m m' : RelayConnectionManager keys) : Prop where
  ticker : m'.ticker = m.ticker
  idleList : m'.idleList = m.idleList.filter (fun rcp => decide (groupPtr rcp ∉ gone))
  killList : m'.killList = m.killList.filter (fun rcp => decide (groupPtr rcp ∉ gone))
  relayGroupMap : m'.relayGroupMap = m.relayGroupMap
  allocated : m'.allocated = m.allocated
  groups : ∀ gp, m'.groups gp = if gp ∈ gone then none else m.groups gp
  called : ∀ rcp, (m'.connections rcp).calledBack = true →
    groupPtr rcp ∉ gone ∧ (m.connections rcp).calledBack = true
  requested : ∀ rcp, groupPtr rcp ∉ gone → (m'.connections rcp).lastKeepAliveRequestTimestampMS =
    (m.connections rcp).lastKeepAliveRequestTimestampMS

theorem freed_doFreeGroup (m : RelayConnectionManager keys) (gp : Nat) : Freed [gp] m (m.doFreeGroup gp) := by
  have cleaned : Frame m ((connectionsOf gp).foldl
      (fun m rcp => if (m.connections rcp).isOpen then m.cleanConnection rcp else m) m) := by
    apply frame_foldl
    intro m rcp
    split
    · exact frame_cleanConnection m rcp
    · exact .refl m
  constructor
  case ticker => exact cleaned.ticker
  case idleList =>
    simp only [doFreeGroup,cleaned.idleList,List.mem_singleton]
    exact List.filter_congr (fun rcp _ => by simp [bne,beq_eq_decide])
  case killList =>
    simp only [doFreeGroup,cleaned.killList,List.mem_singleton]
    exact List.filter_congr (fun rcp _ => by simp [bne,beq_eq_decide])
  case relayGroupMap => exact cleaned.relayGroupMap
  case allocated => exact cleaned.allocated
  case groups =>
    intro other
    simp only [doFreeGroup,blank,cleaned.groups,Function.update_apply,List.mem_singleton]
  case called =>
    intro rcp holds
    by_cases same : groupPtr rcp = gp
    · simp [doFreeGroup,blank,same] at holds
    · exact ⟨by simpa using same,cleaned.called rcp (by simpa [doFreeGroup,blank,same] using holds)⟩
  case requested =>
    intro rcp other
    have apart : ¬ groupPtr rcp = gp := by simpa using other
    simpa [doFreeGroup,blank,apart] using cleaned.requested rcp

theorem Freed.trans {gone gone' : List Nat} (first : Freed gone m m') (second : Freed gone' m' m'') :
    Freed (gone ++ gone') m m'' := by
  constructor
  case ticker => exact second.ticker.trans first.ticker
  case idleList =>
    rw [second.idleList,first.idleList,List.filter_filter]
    exact List.filter_congr (fun rcp _ => by simp [Bool.and_comm])
  case killList =>
    rw [second.killList,first.killList,List.filter_filter]
    exact List.filter_congr (fun rcp _ => by simp [Bool.and_comm])
  case relayGroupMap => exact second.relayGroupMap.trans first.relayGroupMap
  case allocated => exact second.allocated.trans first.allocated
  case groups =>
    intro gp
    rw [second.groups,first.groups]
    by_cases later : gp ∈ gone'
    · simp [later]
    · simp [later]
  case called =>
    intro rcp holds
    obtain ⟨later,before⟩ := second.called rcp holds
    obtain ⟨sooner,called⟩ := first.called rcp before
    exact ⟨by simp [sooner,later],called⟩
  case requested =>
    intro rcp other
    rw [List.mem_append,not_or] at other
    exact (second.requested rcp other.2).trans (first.requested rcp other.1)

theorem freed_foldl (list : List Nat) (m : RelayConnectionManager keys) :
    Freed list m (list.foldl RelayConnectionManager.doFreeGroup m) := by
  induction list generalizing m with
  | nil => exact ⟨rfl,by simp,by simp,rfl,rfl,fun _ => by simp,fun _ holds => ⟨by simp,holds⟩,fun _ _ => rfl⟩
  | cons gp list ih => exact (freed_doFreeGroup m gp).trans (ih (m.doFreeGroup gp))

theorem freed_doFreeKillGroupList (m : RelayConnectionManager keys) :
    Freed m.killGroupList m m.doFreeKillGroupList := by
  have freed := freed_foldl m.killGroupList m
  exact ⟨freed.ticker,freed.idleList,freed.killList,freed.relayGroupMap,freed.allocated,freed.groups,freed.called,
    freed.requested⟩

theorem relayGroupMap_freed (m : RelayConnectionManager keys) (nowMS : Nat) :
    (m.freed nowMS).relayGroupMap = m.relayGroupMap :=
  (freed_doFreeKillGroupList _).relayGroupMap.trans (foldl_freeKilled m.killList _).2.1

theorem ticker_freed (m : RelayConnectionManager keys) (nowMS : Nat) : (m.freed nowMS).ticker = nowMS :=
  (freed_doFreeKillGroupList _).ticker.trans (foldl_freeKilled m.killList _).1

theorem Placed.doFreeKillGroupList (placed : Placed [] m) : Placed [] m.doFreeKillGroupList := by
  have freed := freed_doFreeKillGroupList m
  have kept {gp : Nat} (there : m.doFreeKillGroupList.groups gp ≠ none) :
      gp ∉ m.killGroupList ∧ m.groups gp ≠ none := by
    rw [freed.groups] at there
    by_cases killed : gp ∈ m.killGroupList
    · simp [killed] at there
    · exact ⟨killed,by simpa [killed] using there⟩
  constructor
  case once =>
    rw [freed.idleList,freed.killList,List.append_nil,← List.filter_append]
    exact (by simpa using placed.once : (m.idleList ++ m.killList).Nodup).filter _
  case linked =>
    intro rcp
    have linked := placed.linked rcp
    simp only [List.append_nil,List.mem_append] at linked
    rw [freed.idleList,freed.killList,freed.groups]
    by_cases killed : groupPtr rcp ∈ m.killGroupList
    · simp [killed]
    · simpa [killed] using linked
  case bounded =>
    intro gp there
    rw [freed.allocated]
    exact placed.bounded gp (kept there).2
  case located =>
    intro gp there
    obtain ⟨alive,there⟩ := kept there
    rw [freed.relayGroupMap]
    exact (placed.located gp there).imp_right (fun killed => absurd killed alive)
  case mapped =>
    intro id gp mapped
    rw [freed.relayGroupMap] at mapped
    obtain ⟨there,alive⟩ := placed.mapped id gp mapped
    exact ⟨by simpa [freed.groups,alive] using there,by simp [RelayConnectionManager.doFreeKillGroupList]⟩
  case apart =>
    rw [freed.relayGroupMap]
    exact placed.apart
  case killed => simp [RelayConnectionManager.doFreeKillGroupList]
  case called =>
    intro rcp holds
    obtain ⟨alive,called⟩ := freed.called rcp holds
    simpa [freed.groups,alive] using placed.called rcp called

theorem Placed.freed (placed : Placed [] m) (nowMS : Nat) : Placed [] (m.freed nowMS) := by
  have ticked : Placed [] { m with ticker := nowMS } :=
    ⟨placed.once,placed.linked,placed.bounded,placed.located,placed.mapped,placed.apart,placed.killed,placed.called⟩
  exact ticked.doFreeKillList.doFreeKillGroupList

/-! ## Reconnects -/

theorem groups_reconnect (m : RelayConnectionManager keys) (refused : List Nat) (rcp : Nat) :
    (m.reconnect refused rcp).groups = m.groups := (frame_acquire m rcp).groups

theorem Placed.reconnect (placed : Placed temp m) (there : m.groups (groupPtr rcp) ≠ none) (refused : List Nat) :
    Placed temp (m.reconnect refused rcp) := by
  have frame := frame_acquire m rcp
  exact (placed.frame frame).modify _ (by rwa [frame.groups])

theorem Placed.requestedAt (placed : Placed temp m) (there : m.groups (groupPtr rcp) ≠ none) (nowMS : Nat) :
    Placed temp (m.requestedAt nowMS rcp) := placed.modify _ there

theorem Placed.visit {rest : List Nat} (placed : Placed temp m) (head : m.idleList = rcp :: rest) (nowMS : Nat)
    (refused : List Nat) :
    let visited := { m with idleList := rest }.visit nowMS refused rcp
    Placed (if visited.2.1 then temp ++ [rcp] else temp) visited.1 := by
  have there : m.groups (groupPtr rcp) ≠ none := (placed.linked rcp).mp (by simp [head])
  have once := placed.once
  rw [head,List.cons_append,List.cons_append,List.nodup_cons] at once
  have popped := placed.pop head
  unfold RelayConnectionManager.visit
  dsimp only
  split
  · rw [if_pos rfl]
    exact (popped.reconnect there refused).requestedAt (by rwa [groups_reconnect]) nowMS
  · split
    · have behind : rcp ∉ rest := fun member => once.1 (by simp [member])
      have killed := placed.toKill there (fun member => once.1 (by simp [member]))
      simpa [deferKillConnection,head,without_head behind,without_absent behind] using killed
    · rw [if_pos rfl]
      exact popped.requestedAt there nowMS

theorem Placed.scan (placed : Placed temp m) (nowMS : Nat) (refused : List Nat) (checks : Nat) :
    Placed (RelayConnectionManager.scan nowMS refused checks m temp).2.1
      (RelayConnectionManager.scan nowMS refused checks m temp).1 := by
  induction checks generalizing m temp with
  | zero => exact placed
  | succ checks ih =>
    unfold RelayConnectionManager.scan
    split
    · exact placed
    · rename_i rcp rest head
      split
      · exact ih (placed.visit head nowMS refused)
      · exact placed

/-- What a scan leaves as it is. -/
structure Beside (m m' : RelayConnectionManager keys) : Prop where
  ticker : m'.ticker = m.ticker
  killGroupList : m'.killGroupList = m.killGroupList
  groups : m'.groups = m.groups

theorem Beside.trans (first : Beside m m') (second : Beside m' m'') : Beside m m'' where
  ticker := second.ticker.trans first.ticker
  killGroupList := second.killGroupList.trans first.killGroupList
  groups := second.groups.trans first.groups

theorem beside_visit (m : RelayConnectionManager keys) (nowMS : Nat) (refused : List Nat) (rcp : Nat) :
    Beside m (m.visit nowMS refused rcp).1 := by
  unfold RelayConnectionManager.visit
  dsimp only
  split
  · have frame := frame_acquire m rcp
    exact ⟨frame.ticker,frame.killGroupList,frame.groups⟩
  · split <;> exact ⟨rfl,rfl,rfl⟩

theorem beside_scan (m : RelayConnectionManager keys) (nowMS : Nat) (refused : List Nat) (checks : Nat)
    (temp : List Nat) : Beside m (RelayConnectionManager.scan nowMS refused checks m temp).1 := by
  induction checks generalizing m temp with
  | zero => exact ⟨rfl,rfl,rfl⟩
  | succ checks ih =>
    unfold RelayConnectionManager.scan
    split
    · exact ⟨rfl,rfl,rfl⟩
    · rename_i rcp rest _
      split
      · have popped : Beside m { m with idleList := rest } := ⟨rfl,rfl,rfl⟩
        exact (popped.trans (beside_visit _ nowMS refused rcp)).trans (ih _ _)
      · exact ⟨rfl,rfl,rfl⟩

theorem Placed.doReconnectAndKeepAlive (placed : Placed [] m) (refused : List Nat) :
    Placed [] (m.doReconnectAndKeepAlive refused).1 := by
  have scanned := placed.scan m.ticker refused maxReconnectOrKeepAliveCheckCount
  unfold RelayConnectionManager.doReconnectAndKeepAlive
  generalize RelayConnectionManager.scan m.ticker refused maxReconnectOrKeepAliveCheckCount m [] = result at *
  apply scanned.move
  rw [List.append_nil]

/-! ## Runs -/

theorem placed_init (keys : KeySource) (ticker : Nat) : Placed [] (.init keys ticker) := by
  constructor <;> simp [init]

theorem placed_step (placed : Placed [] m) (e : LinkEvent) : Placed [] (step m e).1 := by
  cases e with
  | addRelayGroup runtimeServerId target => exact placed.addRelayGroup runtimeServerId target
  | tick nowMS refused => exact (placed.freed nowMS).doReconnectAndKeepAlive refused
  | connected rcp =>
    simp only [step]
    split
    · exact placed.keepAlive (placed.called rcp ‹_›)
    · exact placed
  | dispatch packet =>
    simp only [step]
    split
    · cases packet with
      | keepAlive rcp => exact placed.keepAlive (placed.called rcp ‹_›)
      | packet => exact placed
    · exact placed
  | peerClose rcp stillOpen =>
    simp only [step]
    split
    · exact placed.onPeerClose (placed.called rcp ‹_›) stillOpen
    · exact placed

end MiniPP.RelayLinks.RelayConnectionManager
