import MiniPP.ConfigCenter.Registry

/-! Every run of the registry keeps its contract as long as no server gets the key 0 and the id of
a free slot is not released. -/
namespace MiniPP.ConfigCenter

open ServerId RelayServerManager RoundRobin

variable {σ : Type} {ids : ObjectIdManagerMini σ} {m m' : RelayServerManager σ}

/-! ## Adding -/

/-- The id manager has one more id, which is that of a free slot. -/
structure Taken (ids : ObjectIdManagerMini σ) (m : RelayServerManager σ) (index : Nat) (idManager : σ) :
    Prop where
  first : (ids.acquire m.idManager).1 = index + 1
  small : index < relayServerPoolSize
  free : index ∉ m.relayServerListAll
  ids : ∀ id, ids.Allocated idManager id ↔ ids.Allocated m.idManager id ∨ id = index + 1

def register (m : RelayServerManager σ) (index : Nat) (server : RelayServerBase) (idManager : σ) :
    RelayServerManager σ where
  relayServerListAll := m.relayServerListAll ++ [index]
  relayServerPool := Function.update m.relayServerPool index server
  idManager := idManager

theorem addServerInfo_cases (good : Good ids m) {newInfo : RelayServerBase} (unset : newInfo.key = 0)
    (nowMS : Nat) :
    (∃ idManager, m.addServerInfo ids newInfo nowMS = some (0,{ m with idManager }) ∧
      (ids.acquire m.idManager).1 ≠ 1 ∧
      ∀ id, ids.Allocated idManager id ↔ ids.Allocated m.idManager id) ∨
    ∃ index idManager, Taken ids m index idManager ∧ m.addServerInfo ids newInfo nowMS =
      some (make64 (low32 nowMS) index,
        register m index { newInfo with key := make64 (low32 nowMS) index } idManager) := by
  unfold addServerInfo
  rw [if_neg (not_not.mpr unset)]
  dsimp only
  rcases ids.acquire_spec m.idManager with ⟨zero,same⟩ | ⟨nonzero,free,allocated⟩
  · rw [if_pos zero]
    exact .inl ⟨_,rfl,by omega,same⟩
  · rw [if_neg nonzero]
    split
    · rename_i large
      have beyond : (ids.acquire m.idManager).1 ≠ 1 := fun one => absurd (one ▸ large) (by decide)
      have own : ids.Allocated (ids.acquire m.idManager).2 (ids.acquire m.idManager).1 :=
        (allocated _).mpr (.inr rfl)
      refine .inl ⟨_,rfl,beyond,fun id => ?_⟩
      rw [ids.release_spec _ _ own,allocated]
      constructor
      · rintro ⟨old | new,other⟩
        · exact old
        · exact absurd new other
      · intro old
        refine ⟨.inl old,?_⟩
        rintro rfl
        exact free old
    · rename_i large
      have bound : (ids.acquire m.idManager).1 ≤ relayServerPoolSize := Nat.not_lt.mp large
      have first : (ids.acquire m.idManager).1 = (ids.acquire m.idManager).1 - 1 + 1 := by omega
      have unlisted : (ids.acquire m.idManager).1 - 1 ∉ m.relayServerListAll :=
        fun member => free ((good.ids _).mpr ⟨_,member,first⟩)
      have empty : (m.relayServerPool ((ids.acquire m.idManager).1 - 1)).key = 0 :=
        congrArg RelayServerBase.key (good.blank _ unlisted)
      rw [if_neg (not_not.mpr empty)]
      refine .inr ⟨_,_,⟨first,by omega,unlisted,fun id => ?_⟩,rfl⟩
      rw [allocated,← first]

/-- The servers before are the same. -/
theorem servers_register {index : Nat} (free : index ∉ m.relayServerListAll) (server : RelayServerBase)
    (idManager : σ) : servers (register m index server idManager) = servers m ++ [server] := by
  have others : m.relayServerListAll.map (Function.update m.relayServerPool index server) =
      m.relayServerListAll.map m.relayServerPool := by
    apply List.map_congr_left
    intro other member
    apply Function.update_of_ne
    rintro rfl
    exact free member
  rw [servers,register,List.map_append,others,List.map_singleton]
  dsimp only
  rw [Function.update_self]
  rfl

theorem good_register (good : Good ids m) {index : Nat} {idManager : σ} (taken : Taken ids m index idManager)
    {server : RelayServerBase} (own : low32 server.key = index) (valid : server.key ≠ 0) :
    Good ids (register m index server idManager) := by
  have slot (P : Nat → RelayServerBase → Prop) (new : P index server)
      (old : ∀ other ∈ m.relayServerListAll, P other (m.relayServerPool other)) :
      ∀ other ∈ (register m index server idManager).relayServerListAll,
        P other ((register m index server idManager).relayServerPool other) := by
    intro other member
    by_cases same : other = index
    · subst same
      simpa [register] using new
    · have listed : other ∈ m.relayServerListAll := by simpa [register,same] using member
      simpa [register,same] using old other listed
  constructor
  case once =>
    apply List.nodup_append.mpr
    refine ⟨good.once,List.nodup_singleton _,?_⟩
    rintro other member last new rfl
    rw [List.mem_singleton.mp new] at member
    exact taken.free member
  case small => exact slot (fun other _ => other < relayServerPoolSize) taken.small good.small
  case own => exact slot (fun other server => low32 server.key = other) own good.own
  case valid => exact slot (fun _ server => server.key ≠ 0) valid good.valid
  case blank =>
    intro other unlisted
    obtain ⟨old,apart⟩ : other ∉ m.relayServerListAll ∧ other ≠ index := by
      simpa [register] using unlisted
    exact (Function.update_of_ne apart _ _).trans (good.blank other old)
  case ids =>
    intro id
    refine (taken.ids id).trans ?_
    rw [good.ids]
    simp only [register,List.mem_append,List.mem_singleton]
    constructor
    · rintro (⟨other,member,rfl⟩ | rfl)
      · exact ⟨other,.inl member,rfl⟩
      · exact ⟨index,.inr rfl,rfl⟩
    · rintro ⟨other,member | rfl,rfl⟩
      · exact .inl ⟨other,member,rfl⟩
      · exact .inr rfl

theorem Taken.key {index : Nat} {idManager : σ} (taken : Taken ids m index idManager) (nowMS : Nat) :
    low32 (make64 (low32 nowMS) index) = index :=
  low32_make64 _ (Nat.lt_trans taken.small (by decide))

/-- No other server has a key with this index. -/
theorem Good.key_new (good : Good ids m) {index : Nat} (free : index ∉ m.relayServerListAll) {key : Nat}
    (own : low32 key = index) : ∀ server ∈ servers m, server.key ≠ key := by
  intro server member same
  obtain ⟨other,listed,rfl⟩ := List.mem_map.mp member
  rw [good.index_eq listed (same ▸ own)] at listed
  exact free listed

/-! ## Removing -/

def unregister (m : RelayServerManager σ) (index : Nat) (idManager : σ) : RelayServerManager σ where
  relayServerListAll := m.relayServerListAll.erase index
  relayServerPool := Function.update m.relayServerPool index .blank
  idManager := idManager

theorem removeServerInfoByKey_cases (good : Good ids m) (key : Nat) :
    ((∀ server ∈ servers m, server.key ≠ key) ∧
      ((key = 0 → 0 ∈ m.relayServerListAll) ∧ m.removeServerInfoByKey ids key = m ∨ key = 0 ∧ 0 ∉ m.relayServerListAll ∧
        m.removeServerInfoByKey ids key = { m with idManager := ids.release m.idManager 1 })) ∨
    ∃ index ∈ m.relayServerListAll, (m.relayServerPool index).key = key ∧
      m.removeServerInfoByKey ids key = unregister m index (ids.release m.idManager (index + 1)) := by
  have foreign (apart : low32 key ∉ m.relayServerListAll ∨ (m.relayServerPool (low32 key)).key ≠ key) :
      ∀ server ∈ servers m, server.key ≠ key := by
    rintro server member rfl
    obtain ⟨index,listed,rfl⟩ := List.mem_map.mp member
    rw [good.own index listed] at apart
    rcases apart with unlisted | differs
    · exact unlisted listed
    · exact differs rfl
  unfold removeServerInfoByKey
  dsimp only
  split
  · rename_i large
    refine .inl ⟨foreign (.inl fun listed => absurd (good.small _ listed) (Nat.not_lt.mpr large)),
      .inl ⟨?_,rfl⟩⟩
    rintro rfl
    exact absurd large (by decide)
  · split
    · rename_i differs
      refine .inl ⟨foreign (.inr differs),.inl ⟨?_,rfl⟩⟩
      rintro rfl
      by_contra free
      exact differs (congrArg RelayServerBase.key (good.blank 0 free))
    · rename_i same
      rw [not_not] at same
      by_cases listed : low32 key ∈ m.relayServerListAll
      · exact .inr ⟨low32 key,listed,same,rfl⟩
      · have blank := good.blank _ listed
        have zero : key = 0 := by
          rw [blank] at same
          exact same.symm
        subst zero
        refine .inl ⟨foreign (.inl listed),.inr ⟨rfl,listed,?_⟩⟩
        have pool : Function.update m.relayServerPool (low32 0) .blank = m.relayServerPool := by
          rw [← blank]
          exact Function.update_eq_self _ _
        rw [List.erase_of_not_mem listed,pool]
        rfl

theorem servers_unregister (good : Good ids m) {index : Nat} (listed : index ∈ m.relayServerListAll)
    (idManager : σ) : servers (unregister m index idManager) =
      (servers m).filter (fun server => server.key != (m.relayServerPool index).key) := by
  rw [servers,servers,unregister,good.once.erase_eq_filter,List.filter_map]
  have others : m.relayServerListAll.filter (fun other => other != index) =
      m.relayServerListAll.filter ((fun server => server.key != (m.relayServerPool index).key) ∘
        m.relayServerPool) := by
    apply List.filter_congr
    intro other member
    have same : (m.relayServerPool other).key = (m.relayServerPool index).key ↔ other = index := by
      constructor
      · intro keys
        exact good.index_eq member (keys ▸ good.own index listed)
      · rintro rfl
        rfl
    simp [bne,same]
  rw [← others]
  apply List.map_congr_left
  intro other member
  apply Function.update_of_ne
  simpa using (List.mem_filter.mp member).2

theorem good_unregister (good : Good ids m) {index : Nat} (listed : index ∈ m.relayServerListAll) :
    Good ids (unregister m index (ids.release m.idManager (index + 1))) := by
  have member (other : Nat) : other ∈ m.relayServerListAll.erase index ↔
      other ≠ index ∧ other ∈ m.relayServerListAll := good.once.mem_erase_iff
  have kept {other : Nat} (apart : other ≠ index) :
      Function.update m.relayServerPool index .blank other = m.relayServerPool other :=
    Function.update_of_ne apart _ _
  have allocated : ids.Allocated m.idManager (index + 1) := (good.ids _).mpr ⟨index,listed,rfl⟩
  constructor
  case once => exact good.once.erase index
  case small =>
    intro other here
    exact good.small other ((member other).mp here).2
  case own =>
    intro other here
    obtain ⟨apart,old⟩ := (member other).mp here
    simpa [unregister,apart] using good.own other old
  case valid =>
    intro other here
    obtain ⟨apart,old⟩ := (member other).mp here
    simpa [unregister,apart] using good.valid other old
  case blank =>
    intro other gone
    by_cases same : other = index
    · subst same
      exact Function.update_self _ _ _
    · have old : other ∉ m.relayServerListAll := fun here => gone ((member other).mpr ⟨same,here⟩)
      exact (kept same).trans (good.blank other old)
  case ids =>
    intro id
    refine (ids.release_spec _ _ allocated id).trans ?_
    rw [good.ids]
    constructor
    · rintro ⟨⟨other,old,rfl⟩,apart⟩
      exact ⟨other,(member other).mpr ⟨fun same => apart (by rw [same]),old⟩,rfl⟩
    · rintro ⟨other,here,rfl⟩
      obtain ⟨apart,old⟩ := (member other).mp here
      exact ⟨⟨other,old,rfl⟩,fun same => apart (Nat.succ.inj same)⟩

end MiniPP.ConfigCenter
