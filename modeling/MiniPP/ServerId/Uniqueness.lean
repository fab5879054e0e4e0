import MiniPP.ServerId.Manager

/-! No two connections hold the same id. A slot of the random pool is non-zero exactly while its
index is taken, and then one connection holds the id that is packed of both. -/
namespace MiniPP.ServerId

variable {σ : Type} {keys : KeySource} {ids : ObjectIdManager σ}

/-! ## Packing -/

theorem generateRandom_pos (drawn : UInt32) : 0 < generateRandom drawn := by
  unfold generateRandom
  rw [UInt32.toNat_or]
  exact Nat.lt_of_lt_of_le Nat.one_pos Nat.right_le_or

theorem generateRandom_lt (drawn : UInt32) : generateRandom drawn < 2^32 := UInt32.toNat_lt _

theorem generateCheckSum_lt {index random checkSum : Nat}
    (sum : generateCheckSum index random = some checkSum) : checkSum < 2^12 := by
  unfold generateCheckSum at sum
  split at sum
  · cases sum
  · obtain rfl := Option.some.inj sum
    have part (x : Nat) : x &&& 0xFFF < 2^12 := Nat.and_lt_two_pow x (by decide)
    exact Nat.xor_lt_two_pow (Nat.xor_lt_two_pow (part _) (part _)) (part _)

theorem generateCheckSum_isSome {index random : Nat} (index_pos : 0 < index) (random_pos : 0 < random) :
    ∃ checkSum, generateCheckSum index random = some checkSum := by
  unfold generateCheckSum
  rw [if_neg (by omega)]
  exact ⟨_,rfl⟩

/-- The fields of a packed id. -/
theorem packed_fields {index random checkSum : Nat} (small : index < 2^20) (word : random < 2^32)
    (low : checkSum < 2^12) :
    idIndex (make64 index random * 2^12 % 2^64 + checkSum) = index ∧
    idRandom (make64 index random * 2^12 % 2^64 + checkSum) = random ∧
    idCheckSum (make64 index random * 2^12 % 2^64 + checkSum) = checkSum := by
  have whole : make64 index random * 2^12 % 2^64 = make64 index random * 2^12 := by
    unfold make64
    omega
  have raw : (make64 index random * 2^12 + checkSum) / 2^12 = index * 2^32 + random := by
    unfold make64
    omega
  rw [whole]
  unfold idIndex idRandom idCheckSum
  rw [raw]
  unfold high32 low32
  omega

/-! ## The manager -/

/-- An index is free exactly if its slot is 0. -/
def SlotsFree (ids : ObjectIdManager σ) (m : ServerIdManager σ) : Prop :=
  ∀ id, ids.Free m.idManager id ↔ (1 ≤ id ∧ id ≤ ids.maxObjectId) ∧ m.randomPool (id - 1) = 0

/-- The id is in use. -/
structure InUse (ids : ObjectIdManager σ) (m : ServerIdManager σ) (serverId : Nat) : Prop where
  index : 1 ≤ idIndex serverId ∧ idIndex serverId ≤ ids.maxObjectId
  random : 0 < idRandom serverId
  checkSum : generateCheckSum (idIndex serverId) (idRandom serverId) = some (idCheckSum serverId)
  slot : m.randomPool (idIndex serverId - 1) = idRandom serverId

/-- Either no id is given, or one whose index was free. -/
def Gained (ids : ObjectIdManager σ) (m : ServerIdManager σ) (serverId : Nat) (m' : ServerIdManager σ) :
    Prop :=
  SlotsFree ids m' ∧
    ((serverId = 0 ∧ m'.randomPool = m.randomPool) ∨
    (m.randomPool (idIndex serverId - 1) = 0 ∧ InUse ids m' serverId ∧
      m'.randomPool = Function.update m.randomPool (idIndex serverId - 1) (idRandom serverId)))

theorem pred_injective {id other : Nat} (pos : 1 ≤ id) (pos' : 1 ≤ other) (same : id - 1 = other - 1) :
    id = other := by omega

/-- A slot that is taken or given back, with its index. -/
private theorem slotsFree_update {m : ServerIdManager σ} (free : SlotsFree ids m) {idManager : σ}
    {id random : Nat} (range : 1 ≤ id ∧ id ≤ ids.maxObjectId)
    (now : ∀ other, ids.Free idManager other ↔
      if other = id then random = 0 else ids.Free m.idManager other) :
    SlotsFree ids ⟨idManager,Function.update m.randomPool (id - 1) random⟩ := by
  intro other
  rw [now]
  by_cases same : other = id
  · subst same
    simp [range]
  · rw [if_neg same,free other]
    refine and_congr_right (fun inside => ?_)
    have apart : other - 1 ≠ id - 1 := fun equal => same (pred_injective inside.1 range.1 equal)
    dsimp only
    rw [Function.update_of_ne apart]

theorem acquireServerId_spec {m : ServerIdManager σ} (free : SlotsFree ids m) (drawn : UInt32) :
    ∃ serverId m', m.acquireServerId ids drawn = some (serverId,m') ∧ Gained ids m serverId m' := by
  have spec := ids.acquire_spec m.idManager
  unfold ServerIdManager.acquireServerId
  generalize ids.acquire m.idManager = pair at spec
  obtain ⟨id,idManager⟩ := pair
  dsimp only at spec ⊢
  rcases spec with ⟨rfl,same⟩ | ⟨found,taken⟩
  · exact ⟨_,_,rfl,fun id => (same id).trans (free id),.inl ⟨rfl,rfl⟩⟩
  · obtain ⟨range,empty⟩ := (free id).mp found
    rw [if_neg (by omega)]
    obtain ⟨checkSum,sum⟩ := generateCheckSum_isSome range.1 (generateRandom_pos drawn)
    rw [sum]
    obtain ⟨index,random,check⟩ := packed_fields (Nat.lt_of_le_of_lt range.2 ids.small)
      (generateRandom_lt drawn) (generateCheckSum_lt sum)
    refine ⟨_,_,rfl,?_,.inr ⟨?_,⟨?_,?_,?_,?_⟩,?_⟩⟩
    · refine slotsFree_update free range (fun other => ?_)
      have odd := generateRandom_pos drawn
      rw [taken]
      split
      · omega
      · rename_i other
        simp [other]
    · rw [index]
      exact empty
    · rw [index]
      exact range
    · rw [random]
      exact generateRandom_pos drawn
    · rw [index,random,check]
      exact sum
    · rw [index,random]
      exact Function.update_self ..
    · rw [index,random]

theorem regainServerId_spec {m : ServerIdManager σ} (free : SlotsFree ids m) (drawn : UInt32)
    (previous : Nat) :
    ∃ serverId m', m.regainServerId ids drawn previous = some (serverId,m') ∧ Gained ids m serverId m' := by
  have fresh := acquireServerId_spec free drawn
  unfold ServerIdManager.regainServerId
  dsimp only
  split
  · exact fresh
  split
  · exact fresh
  · rename_i usable
    have range : 1 ≤ idIndex previous ∧ idIndex previous ≤ ids.maxObjectId := by omega
    have random : 0 < idRandom previous := by omega
    obtain ⟨checkSum,sum⟩ := generateCheckSum_isSome range.1 random
    rw [sum]
    dsimp only
    split
    · exact fresh
    split
    · exact fresh
    · rename_i check slot
      have check : idCheckSum previous = checkSum := not_not.mp check
      have empty : m.randomPool (idIndex previous - 1) = 0 := not_not.mp slot
      -- the slot is 0, so the index is free and can be acquired
      obtain ⟨succeeds,taken⟩ := ids.acquireId_spec m.idManager (idIndex previous)
      have acquired := succeeds.mpr ((free (idIndex previous)).mpr ⟨range,empty⟩)
      rw [if_pos acquired]
      refine ⟨_,_,rfl,?_,.inr ⟨empty,⟨range,random,check ▸ sum,Function.update_self ..⟩,rfl⟩⟩
      refine slotsFree_update free range (fun other => ?_)
      rw [taken]
      split
      · omega
      · rename_i other
        simp [other]

theorem releaseServerId_spec {m : ServerIdManager σ} (free : SlotsFree ids m) {serverId : Nat}
    (used : InUse ids m serverId) :
    ∃ m', m.releaseServerId ids serverId = some (true,m') ∧ SlotsFree ids m' ∧
      m'.randomPool = Function.update m.randomPool (idIndex serverId - 1) 0 := by
  obtain ⟨range,random,sum,slot⟩ := used
  have usable : ¬ (idIndex serverId = 0 ∨ ids.maxObjectId < idIndex serverId) := by omega
  refine ⟨⟨ids.release m.idManager (idIndex serverId),Function.update m.randomPool (idIndex serverId - 1) 0⟩,
    by simp [ServerIdManager.releaseServerId,usable,sum,slot],?_,rfl⟩
  refine slotsFree_update free range (fun other => ?_)
  rw [ids.release_spec m.idManager _ range.1 range.2]
  split
  · rename_i same
    simp [same]
  · rename_i apart
    simp [apart]

/-! ## The service -/

/-- Slots, indices and connections agree. -/
structure Valid (ids : ObjectIdManager σ) (s : ServerIdCenterService σ keys) : Prop where
  running : s.aborted = false
  free : SlotsFree ids s.serverIdManager
  held : ∀ c serverId, s.connections.find? c = some serverId → serverId ≠ 0 →
    InUse ids s.serverIdManager serverId
  single : ∀ c c' serverId serverId', s.connections.find? c = some serverId →
    s.connections.find? c' = some serverId' → serverId ≠ 0 → serverId' ≠ 0 →
    idIndex serverId = idIndex serverId' → c = c'
  taken : ∀ id, 1 ≤ id → s.serverIdManager.randomPool (id - 1) ≠ 0 →
    ∃ c serverId, s.connections.find? c = some serverId ∧ idIndex serverId = id

theorem valid_init (maxIdIndex : Nat) : Valid ids (.init ids keys maxIdIndex) where
  running := rfl
  free id := by simp [ServerIdCenterService.init,ServerIdManager.init,ids.free_init]
  held := by simp [ServerIdCenterService.init]
  single := by simp [ServerIdCenterService.init]
  taken := by simp [ServerIdCenterService.init,ServerIdManager.init]

theorem valid_connected {s : ServerIdCenterService σ keys} (valid : Valid ids s) {c : Nat}
    {connections : Storage keys Nat} (acquired : s.connections.acquire (fun _ => 0) = some (c,connections)) :
    Valid ids { s with connections } := by
  have found (c' : Nat) : connections.find? c' = if c' = c then some 0 else s.connections.find? c' :=
    Storage.find?_acquire acquired c'
  have old (c' serverId : Nat) (here : connections.find? c' = some serverId) (given : serverId ≠ 0) :
      s.connections.find? c' = some serverId := by
    rw [found] at here
    split at here
    · exact absurd (Option.some.inj here).symm given
    · exact here
  refine ⟨valid.running,valid.free,?_,?_,?_⟩
  · intro c' serverId here given
    exact valid.held c' serverId (old c' serverId here given) given
  · intro c' c'' serverId serverId' here there given given'
    exact valid.single c' c'' serverId serverId' (old _ _ here given) (old _ _ there given') given given'
  · intro id pos taken
    obtain ⟨c',serverId,here,index⟩ := valid.taken id pos taken
    have apart : c' ≠ c := by
      rintro rfl
      rw [(Storage.acquired_fresh acquired).1] at here
      cases here
    exact ⟨c',serverId,by rw [found,if_neg apart]; exact here,index⟩

/-- The index of an id that is held is not one whose slot is 0. -/
theorem Valid.apart {s : ServerIdCenterService σ keys} (valid : Valid ids s) {c serverId id : Nat}
    (here : s.connections.find? c = some serverId) (given : serverId ≠ 0)
    (empty : s.serverIdManager.randomPool (id - 1) = 0) : idIndex serverId ≠ id := by
  intro same
  have used := valid.held c serverId here given
  have slot := used.slot
  rw [same,empty] at slot
  exact absurd used.random (by omega)

/-- A connection that holds an index is not one without an id. -/
theorem not_bare {s : ServerIdCenterService σ keys} {c c' serverId : Nat}
    (bare : s.connections.find? c = some 0) (here : s.connections.find? c' = some serverId)
    (index : 1 ≤ idIndex serverId) : c' ≠ c := by
  rintro rfl
  obtain rfl := Option.some.inj (bare.symm.trans here)
  simp [idIndex,high32] at index

theorem valid_refused {s : ServerIdCenterService σ keys} (valid : Valid ids s) {c : Nat}
    {serverIdManager : ServerIdManager σ} (bare : s.connections.find? c = some 0)
    (free : SlotsFree ids serverIdManager)
    (same : serverIdManager.randomPool = s.serverIdManager.randomPool) :
    Valid ids { s with serverIdManager, connections := s.connections.modify c (fun _ => 0) } := by
  have found (c' : Nat) : (s.connections.modify c (fun _ => 0)).find? c' = s.connections.find? c' := by
    rw [Storage.find?_modify,bare]
    split
    · rename_i here
      rw [here,bare]
      rfl
    · rfl
  refine ⟨valid.running,free,?_,?_,?_⟩
  · intro c' serverId here given
    have used := valid.held c' serverId ((found c').symm.trans here) given
    exact ⟨used.index,used.random,used.checkSum,(congrFun same _).trans used.slot⟩
  · simpa only [found] using valid.single
  · simpa only [found,same] using valid.taken

theorem valid_given {s : ServerIdCenterService σ keys} (valid : Valid ids s) {c serverId : Nat}
    {serverIdManager : ServerIdManager σ} (bare : s.connections.find? c = some 0)
    (free : SlotsFree ids serverIdManager)
    (empty : s.serverIdManager.randomPool (idIndex serverId - 1) = 0)
    (new : InUse ids serverIdManager serverId)
    (slots : serverIdManager.randomPool =
      Function.update s.serverIdManager.randomPool (idIndex serverId - 1) (idRandom serverId)) :
    Valid ids { s with serverIdManager, connections := s.connections.modify c (fun _ => serverId) } := by
  have found (c' : Nat) : (s.connections.modify c (fun _ => serverId)).find? c' =
      if c' = c then some serverId else s.connections.find? c' := by
    rw [Storage.find?_modify,bare]
    rfl
  have kept (id : Nat) (pos : 1 ≤ id) (other : id ≠ idIndex serverId) :
      serverIdManager.randomPool (id - 1) = s.serverIdManager.randomPool (id - 1) := by
    have other_slot : id - 1 ≠ idIndex serverId - 1 := fun same =>
      other (pred_injective pos new.index.1 same)
    rw [slots,Function.update_of_ne other_slot]
  refine ⟨valid.running,free,?_,?_,?_⟩
  · intro c' other here given
    rw [found] at here
    split at here
    · obtain rfl := Option.some.inj here
      exact new
    · have used := valid.held c' other here given
      refine ⟨used.index,used.random,used.checkSum,?_⟩
      exact (kept _ used.index.1 (valid.apart here given empty)).trans used.slot
  · intro c' c'' other other' here there given given' same
    rw [found] at here there
    by_cases first : c' = c <;> by_cases second : c'' = c
    · exact first.trans second.symm
    · rw [if_pos first] at here
      rw [if_neg second] at there
      obtain rfl := Option.some.inj here
      exact absurd same.symm (valid.apart there given' empty)
    · rw [if_neg first] at here
      rw [if_pos second] at there
      obtain rfl := Option.some.inj there
      exact absurd same (valid.apart here given empty)
    · rw [if_neg first] at here
      rw [if_neg second] at there
      exact valid.single c' c'' other other' here there given given' same
  · intro id pos taken
    by_cases here : id = idIndex serverId
    · exact ⟨c,serverId,by rw [found,if_pos rfl],here.symm⟩
    · have old : s.serverIdManager.randomPool (id - 1) ≠ 0 := fun none =>
        taken ((kept id pos here).trans none)
      obtain ⟨c',other,there,index⟩ := valid.taken id pos old
      have known := not_bare bare there (index.symm ▸ pos)
      exact ⟨c',other,by rw [found,if_neg known]; exact there,index⟩

/-- A connection without an id is given one, or still has none. -/
theorem valid_gained {s : ServerIdCenterService σ keys} (valid : Valid ids s) {c serverId : Nat}
    {serverIdManager : ServerIdManager σ} (bare : s.connections.find? c = some 0)
    (gained : Gained ids s.serverIdManager serverId serverIdManager) :
    Valid ids { s with
      serverIdManager
      connections := s.connections.modify c (fun _ => serverId) } := by
  obtain ⟨free,⟨rfl,same⟩ | ⟨empty,new,slots⟩⟩ := gained
  · exact valid_refused valid bare free same
  · exact valid_given valid bare free empty new slots

/-- The id of a connection that closes can be given back. -/
theorem valid_closed {s : ServerIdCenterService σ keys} (valid : Valid ids s) {c serverId : Nat}
    (here : s.connections.find? c = some serverId) :
    ∃ serverIdManager, s.onClientClose ids serverId = ({ s with serverIdManager },[]) ∧
      Valid ids { s with serverIdManager, connections := s.connections.release c } := by
  have found (c' : Nat) : (s.connections.release c).find? c' =
      if c' = c then none else s.connections.find? c' := Storage.find?_release s.connections c c'
  have old (c' other : Nat) (left : (s.connections.release c).find? c' = some other) :
      c' ≠ c ∧ s.connections.find? c' = some other := by
    rw [found] at left
    split at left
    · cases left
    · rename_i apart
      exact ⟨apart,left⟩
  have single (c' c'' other other' : Nat) (left : (s.connections.release c).find? c' = some other)
      (left' : (s.connections.release c).find? c'' = some other') :=
    valid.single c' c'' other other' (old c' other left).2 (old c'' other' left').2
  by_cases given : serverId = 0
  · refine ⟨s.serverIdManager,by simp [ServerIdCenterService.onClientClose,given],valid.running,valid.free,?_,
      single,?_⟩
    · intro c' other left
      exact valid.held c' other (old c' other left).2
    · intro id pos taken
      obtain ⟨c',other,there,index⟩ := valid.taken id pos taken
      have apart := not_bare (given ▸ here) there (index.symm ▸ pos)
      exact ⟨c',other,by rw [found,if_neg apart]; exact there,index⟩
  · have used := valid.held c serverId here given
    obtain ⟨m,released,free,slots⟩ := releaseServerId_spec valid.free used
    refine ⟨m,by simp [ServerIdCenterService.onClientClose,given,released],valid.running,free,?_,single,?_⟩
    · intro c' other left nonzero
      obtain ⟨apart,there⟩ := old c' other left
      have kept := valid.held c' other there nonzero
      refine ⟨kept.index,kept.random,kept.checkSum,?_⟩
      have other_slot : idIndex other - 1 ≠ idIndex serverId - 1 := fun same =>
        apart (valid.single c' c other serverId there here nonzero given
          (pred_injective kept.index.1 used.index.1 same))
      dsimp only
      rw [slots,Function.update_of_ne other_slot]
      exact kept.slot
    · intro id pos taken
      dsimp only at taken
      rw [slots] at taken
      have other_slot : id - 1 ≠ idIndex serverId - 1 := by
        intro same
        rw [same,Function.update_self] at taken
        exact taken rfl
      rw [Function.update_of_ne other_slot] at taken
      obtain ⟨c',other,there,index⟩ := valid.taken id pos taken
      have apart : c' ≠ c := by
        rintro rfl
        obtain rfl := Option.some.inj (here.symm.trans there)
        exact other_slot (by rw [index])
      exact ⟨c',other,by rw [found,if_neg apart]; exact there,index⟩

theorem valid_step {s : ServerIdCenterService σ keys} (valid : Valid ids s) (e : CenterEvent) :
    Valid ids (s.step ids e).1 ∧ .assertion ∉ (s.step ids e).2 := by
  unfold ServerIdCenterService.step
  rw [if_neg (by simp [valid.running])]
  cases e with
  | clientConnected =>
    dsimp only
    split
    · exact ⟨valid,by simp⟩
    · rename_i acquired
      exact ⟨valid_connected valid acquired,by simp⟩
  | clientPacket c packet drawn =>
    dsimp only
    split
    · exact ⟨valid,by simp⟩
    · rename_i serverId here
      unfold ServerIdCenterService.onClientPacket
      split
      · exact ⟨valid,by simp⟩
      · rename_i bare
        obtain rfl : serverId = 0 := not_not.mp bare
        split
        · exact ⟨valid,by simp⟩
        · exact ⟨valid,by simp⟩
        · rename_i previous
          obtain ⟨given,m,regained,gained⟩ := regainServerId_spec valid.free drawn previous.toNat
          rw [regained]
          exact ⟨valid_gained valid here gained,by simp⟩
  | clientClose c =>
    dsimp only
    split
    · exact ⟨valid,by simp⟩
    · rename_i serverId here
      obtain ⟨m,closed,after⟩ := valid_closed valid here
      rw [closed]
      exact ⟨after,by simp⟩

/-- In every run: connections with the same id, or with ids of the same index, are the same
connection, and no assertion has failed. -/
theorem server_ids_unique {s : ServerIdCenterService σ keys} {log : List CenterAction}
    (reach : (centerMachine ids keys).Reach Machine.anything s log) :
    (∀ c c' serverId serverId', s.connections.find? c = some serverId →
      s.connections.find? c' = some serverId' → serverId ≠ 0 → serverId' ≠ 0 →
      serverId = serverId' ∨ idIndex serverId = idIndex serverId' → c = c') ∧
    s.aborted = false ∧ .assertion ∉ log := by
  have invariant : Valid ids s ∧ .assertion ∉ log := by
    apply reach.invariant (I := fun s log => Valid ids s ∧ .assertion ∉ log)
    · rintro _ ⟨maxIdIndex,rfl⟩
      exact ⟨valid_init maxIdIndex,by simp⟩
    · intro s log e _ _ ⟨valid,silent⟩
      obtain ⟨after,quiet⟩ := valid_step valid e
      exact ⟨after,fun member => (List.mem_append.mp member).elim silent quiet⟩
  obtain ⟨valid,silent⟩ := invariant
  refine ⟨?_,valid.running,silent⟩
  intro c c' serverId serverId' here there given given' same
  have index : idIndex serverId = idIndex serverId' := same.elim (congrArg idIndex) id
  exact valid.single c c' serverId serverId' here there given given' index

/-! ## A former id -/

def hundredIds : ObjectIdManager (List Nat) := .ofList 100 (by decide)

/-- Connection 2 asks for the id that connection 1 had, and so does connection 3 while 2 has it. -/
def returning : List CenterEvent :=
  [.clientConnected,.clientPacket 1 (.acquireServerId (some 0)) 7,.clientClose 1,
    .clientConnected,.clientPacket 2 (.acquireServerId (some 25859030659548)) 7,
    .clientConnected,.clientPacket 3 (.acquireServerId (some 25859030659548)) 7]

abbrev returned : ServerIdCenterService (List Nat) .sequential × List CenterAction :=
  (centerMachine hundredIds .sequential).run (.init hundredIds .sequential 8) returning

theorem server_ids_unique_returning :
    returned.1.connections.find? 2 = some 25859030659548 ∧
    (∀ c serverId, returned.1.connections.find? c = some serverId →
      idIndex serverId = idIndex 25859030659548 → c = 2) ∧ .assertion ∉ returned.2 := by
  have reach := Machine.reach_run (m := centerMachine hundredIds .sequential) ⟨8,rfl⟩ returning
  obtain ⟨unique,-,silent⟩ := server_ids_unique reach
  refine ⟨by decide,fun c serverId here index => ?_,silent⟩
  have given : serverId ≠ 0 := by
    rintro rfl
    exact absurd index (by decide)
  exact unique c 2 serverId 25859030659548 here (by decide) given (by decide) (.inr index)

end MiniPP.ServerId
