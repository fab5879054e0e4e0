import MiniPP.RelayLinks.Invariant

/-! The registry of the links. Ids are handed out and taken back, but a link is never put under its
id, so that the registry is right only as long as no link was ever connected. -/
namespace MiniPP.RelayLinks

open RelayConnectionManager

variable {keys : KeySource} {m : RelayConnectionManager keys} {log : List LinkAction}

/-! ## The contract -/

def Open (m : RelayConnectionManager keys) (rcp : Nat) : Prop :=
  m.groups (groupPtr rcp) ≠ none ∧ (m.connections rcp).isOpen = true

def Live (m : RelayConnectionManager keys) (gp : Nat) : Prop := ∃ id, m.relayGroupMap id = some gp

def mentions (id : Nat) : LinkAction → Bool
  | .init _ other _ _ => other == id
  | .retired other => other == id
  | _ => false

/-- The link of the id was cleaned, or its group replaced, and the id is not handed out again. -/
def Retired (log : List LinkAction) (id : Nat) : Prop :=
  (log.filter (mentions id)).getLast? = some (.retired id)

structure Registered (m : RelayConnectionManager keys) (log : List LinkAction) : Prop where
  resolves : ∀ rcp, Open m rcp → Live m (groupPtr rcp) →
    m.getConnectionById (m.connections rcp).connectionId = some rcp
  allocated : ∀ id, m.connectionIdPool.find? id ≠ none →
    ∃! rcp, Open m rcp ∧ (m.connections rcp).connectionId = id
  retired : ∀ id, Retired log id → m.getConnectionById id = none

/-- No tick finds a link that was never connected due. -/
def Sound (m : RelayConnectionManager keys) : LinkEvent → Prop
  | .tick nowMS _ => (∃ gp, Live m gp) → ¬ Due nowMS 0
  | _ => True

/-! ## The pool -/

section Pool

variable {J : Storage keys (Option Nat) → Prop}

theorem pool_acquire (acquire : ∀ p id p', p.acquire (fun _ => none) = some (id,p') → J p → J p')
    (holds : J m.connectionIdPool) (rcp : Nat) : J (m.acquire rcp).connectionIdPool := by
  unfold RelayConnectionManager.acquire
  split
  · exact holds
  · exact acquire _ _ _ ‹_› holds

theorem pool_visit (acquire : ∀ p id p', p.acquire (fun _ => none) = some (id,p') → J p → J p')
    (holds : J m.connectionIdPool) (nowMS : Nat) (refused : List Nat) (rcp : Nat) :
    J (m.visit nowMS refused rcp).1.connectionIdPool := by
  unfold visit
  dsimp only
  split
  · exact pool_acquire acquire holds rcp
  · split
    · exact holds
    · exact holds

theorem pool_scan (acquire : ∀ p id p', p.acquire (fun _ => none) = some (id,p') → J p → J p')
    (holds : J m.connectionIdPool) (nowMS : Nat) (refused : List Nat) (checks : Nat) (temp : List Nat) :
    J (scan nowMS refused checks m temp).1.connectionIdPool := by
  induction checks generalizing m temp with
  | zero => exact holds
  | succ checks ih =>
    unfold scan
    split
    · exact holds
    · rename_i rcp rest _
      split
      · have popped : J { m with idleList := rest }.connectionIdPool := holds
        exact ih (pool_visit acquire popped nowMS refused rcp) _
      · exact holds

theorem pool_foldl (f : RelayConnectionManager keys → Nat → RelayConnectionManager keys)
    (each : ∀ m x, J m.connectionIdPool → J (f m x).connectionIdPool) (list : List Nat)
    (holds : J m.connectionIdPool) : J (list.foldl f m).connectionIdPool := by
  induction list generalizing m with
  | nil => exact holds
  | cons x list ih => exact ih (each m x holds)

theorem pool_freed (release : ∀ p id, J p → J (p.release id)) (holds : J m.connectionIdPool) (nowMS : Nat) :
    J (m.freed nowMS).connectionIdPool := by
  apply pool_foldl
  · intro m gp holds
    refine pool_foldl _ (fun m rcp holds => ?_) _ holds
    split
    · exact release _ _ holds
    · exact holds
  · exact pool_foldl _ (fun m rcp holds => release _ _ holds) _ holds

/-- What releases and acquisitions keep of the pool, every event does. -/
theorem pool_step (release : ∀ p id, J p → J (p.release id))
    (acquire : ∀ p id p', p.acquire (fun _ => none) = some (id,p') → J p → J p')
    (holds : J m.connectionIdPool) (e : LinkEvent) : J (step m e).1.connectionIdPool := by
  cases e with
  | addRelayGroup runtimeServerId target =>
    simp only [step,addRelayGroup]
    repeat' split
    all_goals exact holds
  | tick nowMS refused =>
    exact pool_scan acquire (pool_freed release holds nowMS) (m.freed nowMS).ticker refused
      maxReconnectOrKeepAliveCheckCount []
  | connected rcp =>
    simp only [step]
    split <;> exact holds
  | dispatch packet =>
    simp only [step]
    split
    · cases packet <;> exact holds
    · exact holds
  | peerClose rcp stillOpen =>
    simp only [step]
    split <;> exact holds

end Pool

def Unbound (p : Storage keys (Option Nat)) : Prop := ∀ id pointer, p.find? id = some pointer → pointer = none

theorem unbound_release (p : Storage keys (Option Nat)) (id : Nat) (unbound : Unbound p) :
    Unbound (p.release id) := by
  intro other pointer found
  exact unbound other pointer (Storage.of_find?_release found).2

theorem unbound_acquire (p : Storage keys (Option Nat)) (id : Nat) (p' : Storage keys (Option Nat))
    (acquired : p.acquire (fun _ => none) = some (id,p')) (unbound : Unbound p) : Unbound p' := by
  intro other pointer found
  rcases Storage.of_find?_acquire acquired found with ⟨-,rfl⟩ | ⟨-,found⟩
  · rfl
  · exact unbound other pointer found

theorem unresolved (unbound : Unbound m.connectionIdPool) (id : Nat) : m.getConnectionById id = none := by
  unfold getConnectionById
  cases found : m.connectionIdPool.find? id with
  | none => rfl
  | some pointer => exact unbound id pointer found

/-- No id ever leads to a link. -/
theorem never_resolved (reach : (linkMachine keys).Reach Machine.anything m log) (id : Nat) :
    m.getConnectionById id = none := by
  have unbound : Unbound m.connectionIdPool := by
    apply reach.invariant (I := fun m _ => Unbound m.connectionIdPool)
    · rintro m ⟨ticker,rfl⟩ id pointer found
      cases found
    · exact fun m log e _ _ unbound => pool_step unbound_release unbound_acquire unbound e
  exact unresolved unbound id

/-! ## Before the first connect -/

/-- Nothing was connected yet. -/
structure Dormant (m : RelayConnectionManager keys) : Prop where
  unused : m.connectionIdPool.entries = []
  roomy : m.connectionIdPool.capacity = maxRelayServerId
  blank : ∀ rcp, m.connections rcp = {}
  calm : m.killList = []

theorem dormant_init (keys : KeySource) (ticker : Nat) : Dormant (init keys ticker) := ⟨rfl,rfl,fun _ => rfl,rfl⟩

theorem Dormant.unbound (dormant : Dormant m) : Unbound m.connectionIdPool := by
  intro id pointer found
  have member := Storage.mem_of_find? found
  rw [dormant.unused] at member
  cases member

theorem Dormant.registered (dormant : Dormant m) (log : List LinkAction) : Registered m log := by
  constructor
  case resolves =>
    rintro rcp ⟨-,isOpen⟩
    rw [dormant.blank] at isOpen
    cases isOpen
  case allocated =>
    intro id used
    obtain ⟨pointer,found⟩ := Option.ne_none_iff_exists'.mp used
    have member := Storage.mem_of_find? found
    rw [dormant.unused] at member
    cases member
  case retired => exact fun id _ => unresolved dormant.unbound id

theorem Dormant.newGroup (dormant : Dormant m) (runtimeServerId : Nat) (target : TargetAddress) :
    Dormant (m.newGroup runtimeServerId target) := by
  refine ⟨dormant.unused,dormant.roomy,fun rcp => ?_,dormant.calm⟩
  simp only [RelayConnectionManager.newGroup,RelayConnectionManager.blank,dormant.blank,ite_self]

theorem Dormant.addRelayGroup (dormant : Dormant m) (runtimeServerId : Nat) (target : TargetAddress) :
    Dormant (m.addRelayGroup runtimeServerId target).1 := by
  unfold RelayConnectionManager.addRelayGroup
  split
  · exact dormant.newGroup runtimeServerId target
  · split
    · exact dormant
    · rename_i gp _ _
      have deferred : Dormant (m.deferKillGroup gp) := ⟨dormant.unused,dormant.roomy,dormant.blank,dormant.calm⟩
      exact deferred.newGroup runtimeServerId target

theorem Dormant.doFreeGroup (dormant : Dormant m) (gp : Nat) : Dormant (m.doFreeGroup gp) := by
  have skipped (list : List Nat) : list.foldl
      (fun m rcp => if (m.connections rcp).isOpen then m.cleanConnection rcp else m) m = m := by
    induction list with
    | nil => rfl
    | cons rcp list ih => simpa [dormant.blank] using ih
  simp only [RelayConnectionManager.doFreeGroup,skipped]
  refine ⟨dormant.unused,dormant.roomy,fun rcp => ?_,?_⟩
  · simp only [RelayConnectionManager.blank,dormant.blank,ite_self]
  · rw [dormant.calm,List.filter_nil]

theorem Dormant.freed (dormant : Dormant m) (nowMS : Nat) : Dormant (m.freed nowMS) := by
  have groups (list : List Nat) (m : RelayConnectionManager keys) (dormant : Dormant m) :
      Dormant (list.foldl RelayConnectionManager.doFreeGroup m) := by
    induction list generalizing m with
    | nil => exact dormant
    | cons gp list ih => exact ih _ (dormant.doFreeGroup gp)
  have ticked : Dormant { m with ticker := nowMS }.doFreeKillList.1 := by
    simp only [doFreeKillList,dormant.calm,List.foldl_nil]
    exact ⟨dormant.unused,dormant.roomy,dormant.blank,rfl⟩
  have freed := groups { m with ticker := nowMS }.doFreeKillList.1.killGroupList _ ticked
  exact ⟨freed.unused,freed.roomy,freed.blank,freed.calm⟩

/-- The head of the list is popped while it is due. -/
theorem scan_idle {nowMS : Nat} (refused : List Nat) (checks : Nat) (temp : List Nat)
    (idle : ∀ rcp rest, m.idleList = rcp :: rest → m.isDue nowMS rcp = false) :
    scan nowMS refused checks m temp = (m,temp,[]) := by
  cases checks with
  | zero => rfl
  | succ checks =>
    unfold scan
    split
    · rfl
    · rename_i rcp rest head
      simp [idle rcp rest head]

theorem Dormant.isDue (dormant : Dormant m) (nowMS rcp : Nat) : m.isDue nowMS rcp = decide (Due nowMS 0) := by
  unfold RelayConnectionManager.isDue
  rw [dormant.blank]

/-- A sound event does not wake it. -/
theorem Dormant.step (dormant : Dormant m) (placed : Placed [] m) {e : LinkEvent} (sound : Sound m e) :
    Dormant (RelayLinks.step m e).1 := by
  cases e with
  | addRelayGroup runtimeServerId target => exact dormant.addRelayGroup runtimeServerId target
  | tick nowMS refused =>
    have freed := dormant.freed nowMS
    have still := placed.freed nowMS
    have idle : ∀ rcp rest, (m.freed nowMS).idleList = rcp :: rest → (m.freed nowMS).isDue nowMS rcp = false := by
      intro rcp rest head
      have there := (still.linked rcp).mp (by simp [head])
      rcases still.located _ there with ⟨id,mapped⟩ | killed
      · rw [relayGroupMap_freed] at mapped
        rw [freed.isDue]
        exact decide_eq_false (sound ⟨_,id,mapped⟩)
      · cases killed
    have scanned := scan_idle refused maxReconnectOrKeepAliveCheckCount [] idle
    have result : (RelayLinks.step m (.tick nowMS refused)).1 =
        { m.freed nowMS with idleList := (m.freed nowMS).idleList ++ [] } := by
      simp only [RelayLinks.step,tick,doReconnectAndKeepAlive,ticker_freed,scanned]
    rw [result]
    exact ⟨freed.unused,freed.roomy,freed.blank,freed.calm⟩
  | connected rcp => simpa [RelayLinks.step,dormant.blank] using dormant
  | dispatch packet => simpa [RelayLinks.step,dormant.blank] using dormant
  | peerClose rcp stillOpen => simpa [RelayLinks.step,dormant.blank] using dormant

/-! ## The first connect -/

theorem acquire_used (room : m.connectionIdPool.entries.length < m.connectionIdPool.capacity) (rcp : Nat) :
    (m.acquire rcp).connectionIdPool.entries ≠ [] := by
  unfold RelayConnectionManager.acquire
  split
  · rename_i full
    exact absurd room (Nat.not_lt.mpr (Storage.acquire_eq_none.mp full))
  · rename_i acquired
    exact fun none => List.cons_ne_nil _ _ ((Storage.acquire_spec acquired).2.1.symm.trans none)

theorem visit_closed {nowMS rcp : Nat} {refused : List Nat} (closed : (m.connections rcp).isOpen = false) :
    (m.visit nowMS refused rcp).1 = (m.reconnect refused rcp).requestedAt nowMS rcp := by
  simp only [visit,closed,if_true]

/-- Where a link of a live group is due, an id is in use after the scan. -/
theorem Dormant.scan_used (dormant : Dormant m) {nowMS rcp : Nat} {rest : List Nat}
    (head : m.idleList = rcp :: rest) (due : Due nowMS 0) (refused : List Nat) {checks : Nat} (positive : 0 < checks)
    (temp : List Nat) : (scan nowMS refused checks m temp).1.connectionIdPool.entries ≠ [] := by
  have keeps (p : Storage keys (Option Nat)) (id : Nat) (p' : Storage keys (Option Nat))
      (acquired : p.acquire (fun _ => none) = some (id,p')) (_ : p.entries ≠ []) : p'.entries ≠ [] := by
    rw [(Storage.acquire_spec acquired).2.1]
    exact List.cons_ne_nil _ _
  obtain ⟨checks,rfl⟩ := Nat.exists_eq_succ_of_ne_zero (Nat.ne_of_gt positive)
  have here : m.isDue nowMS rcp = true := by
    rw [dormant.isDue]
    exact decide_eq_true due
  have first : ({ m with idleList := rest }.visit nowMS refused rcp).1.connectionIdPool.entries ≠ [] := by
    have closed : ({ m with idleList := rest }.connections rcp).isOpen = false := by simp only [dormant.blank]
    rw [visit_closed closed]
    exact acquire_used (by simp [dormant.unused,dormant.roomy,maxRelayServerId,maxRelayServerCount]) rcp
  unfold scan
  simp only [head,here,if_true]
  exact pool_scan keeps first nowMS refused checks _

/-- The first tick that connects a link breaks the registry: a link that is open is not found, and
one that could not be opened leaves its id behind. -/
theorem Dormant.step_unsound (dormant : Dormant m) (placed : Placed [] m) {e : LinkEvent} (unsound : ¬ Sound m e)
    (log : List LinkAction) : ¬ Registered (RelayLinks.step m e).1 log := by
  cases e with
  | tick nowMS refused =>
    simp only [Sound,Classical.not_imp,not_not] at unsound
    obtain ⟨⟨gp,id,mapped⟩,due⟩ := unsound
    have freed := dormant.freed nowMS
    have still := placed.freed nowMS
    have listed : connectionCountPerRelayGroup * gp ∈ (m.freed nowMS).idleList := by
      have there := (still.mapped id gp (by rw [relayGroupMap_freed]; exact mapped)).1
      have group : groupPtr (connectionCountPerRelayGroup * gp) = gp :=
        Nat.mul_div_cancel_left gp (by decide)
      simpa [freed.calm] using (still.linked _).mpr (by rwa [group])
    obtain ⟨rcp,rest,head⟩ := List.exists_cons_of_ne_nil (List.ne_nil_of_mem listed)
    have used := freed.scan_used head due refused (by decide : 0 < maxReconnectOrKeepAliveCheckCount) []
    have final := placed_step placed (.tick nowMS refused)
    have unbound := pool_step unbound_release unbound_acquire dormant.unbound (.tick nowMS refused)
    have ended : (RelayLinks.step m (.tick nowMS refused)).1.killGroupList = [] :=
      (beside_scan (m.freed nowMS) (m.freed nowMS).ticker refused maxReconnectOrKeepAliveCheckCount []).killGroupList
    have used : (RelayLinks.step m (.tick nowMS refused)).1.connectionIdPool.entries ≠ [] := by
      have same : (RelayLinks.step m (.tick nowMS refused)).1.connectionIdPool = (scan (m.freed nowMS).ticker refused
        maxReconnectOrKeepAliveCheckCount (m.freed nowMS) []).1.connectionIdPool := rfl
      rwa [same,ticker_freed]
    generalize RelayLinks.step m (.tick nowMS refused) = result at *
    intro registered
    obtain ⟨⟨id,pointer⟩,entries,same⟩ := List.exists_cons_of_ne_nil used
    have found : result.1.connectionIdPool.find? id = some pointer := Storage.find?_of_mem (by simp [same])
    obtain ⟨rcp,⟨⟨there,isOpen⟩,-⟩,-⟩ := registered.allocated id (by simp [found])
    have live : Live result.1 (groupPtr rcp) := by
      rcases final.located _ there with live | killed
      · exact live
      · rw [ended] at killed
        cases killed
    exact absurd ((unresolved unbound _).symm.trans (registered.resolves rcp ⟨there,isOpen⟩ live)) (by simp)
  | _ => exact absurd trivial unsound

/-! ## Any run -/

/-- In every run the registry is right after each event, if and only if no tick finds a link due
that was never connected. -/
theorem relay_link_registry_iff (keys : KeySource) (ticker : Nat) (events : List LinkEvent) :
    (linkMachine keys).Stays Registered (init keys ticker) [] events ↔
      (linkMachine keys).Allowed (fun m _ e => Sound m e) (init keys ticker) [] events := by
  apply Machine.stays_iff_allowed (I := fun m _ => Dormant m ∧ Placed [] m)
  case holds => exact fun m log both => both.1.registered log
  case keeps => exact fun m log e both sound => ⟨both.1.step both.2 sound,placed_step both.2 e⟩
  case loses => exact fun m log e both unsound => both.1.step_unsound both.2 unsound _
  case first => exact ⟨dormant_init keys ticker,placed_init keys ticker⟩

/-! ## A link that is not found -/

def relay : TargetAddress := ⟨⟨.ipv4,[10,0,0,1],7000⟩,by decide,by decide⟩

/-- A relay is added, and its links are connected in the next tick. -/
def firstRelay : List LinkEvent := [.addRelayGroup 1 relay,.tick 1700000000000 []]

theorem connected_link_not_found :
    (¬ ∀ (keys : KeySource) (ticker : Nat) (events : List LinkEvent),
      (linkMachine keys).Stays Registered (init keys ticker) [] events) ∧
    let m := ((linkMachine .sequential).run (init .sequential 0) firstRelay).1
    (m.connections 0).isOpen = true ∧ (m.connections 0).connectionId = 3 ∧ m.getConnectionById 3 = none := by
  refine ⟨fun always => ?_,by decide,by decide,by decide⟩
  have registered := always .sequential 0 firstRelay firstRelay [] (List.append_nil _).symm
  have found := registered.resolves 0 ⟨by decide,by decide⟩ ⟨1,by decide⟩
  revert found
  decide

end MiniPP.RelayLinks
