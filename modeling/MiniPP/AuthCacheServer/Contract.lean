import MiniPP.AuthCacheServer.Invariant

/-! What each call leaves of the map. It is kept by every call but two: a node that is new is not
returned, and one that is bound to a request goes where nothing removes it. -/
namespace MiniPP.AuthCacheServer

open AuthCacheManager

variable {keys : KeySource} {m m' : AuthCacheManager keys} {np : Nat} {key : Bytes} {node : AuthCacheNode}

/-! ## The contract -/

def Call.removes : Call → Bool
  | .removeTimeoutCacheNodes _ | .removeTimeoutCacheUpdateNodes _ => true
  | _ => false

/-- At some time some call removes the node. -/
def Evictable (m : AuthCacheManager keys) (np : Nat) : Prop :=
  ∃ serviceTicker e m' answer, Call.removes e = true ∧ { m with serviceTicker }.call e = .ok (m',answer) ∧
    ∀ key, m'.cacheMap key ≠ some np

structure Consistent (m : AuthCacheManager keys) : Prop where
  stored : ∀ key np, m.cacheMap key = some np → ∃ node, m.cacheNodePool.find? np = some node ∧ node.key = key
  linked : ∀ key np, m.cacheMap key = some np → (m.cacheTimeoutList ++ m.cacheRequestTimeoutList).count np = 1
  evictable : ∀ key np, m.cacheMap key = some np → Evictable m np

/-- What a call is to leave, and to return. -/
structure Contract (m : AuthCacheManager keys) (e : Call) (m' : AuthCacheManager keys) (answer : Answer) : Prop where
  consistent : Consistent m'
  returned : ∀ key, e = .acquireCacheNode key → ∃ np, answer = .node np ∧
    m'.cacheMap key = (if np = 0 then none else some np) ∧ (np = 0 ↔ m.cacheMap key = none ∧ m.Exhausted)
  removed : ∀ np, m.cacheNodePool.find? np ≠ none → m'.cacheNodePool.find? np = none →
    ∀ key, m'.cacheMap key ≠ some np

/-- The program goes on, and the contract is kept; it may end where the caller breaks what is asserted
of the arguments. -/
def Kept (c : Except Fault (AuthCacheManager keys)) (e : Call) : Prop :=
  match c with
  | .error fault => fault = .refused
  | .ok m =>
    match m.call e with
    | .error fault => fault = .refused
    | .ok (m',answer) => Contract m e m' answer

/-! ## The calls that keep it -/

def Refused (m : AuthCacheManager keys) : Call → Prop
  | .bindRequestId np _ => ∃ node, m.cacheNodePool.find? np = some node ∧ node.pendingRequestId ≠ 0
  | .appendRequestNode np rn =>
    ∃ node, m.cacheNodePool.find? np = some node ∧ (node.pendingRequestId = 0 ∨ m.isLinked rn = true)
  | _ => False

/-- A node is asked for that is not there, and can be made. -/
def Creates (m : AuthCacheManager keys) : Call → Prop
  | .acquireCacheNode key => m.cacheMap key = none ∧ ¬ m.Exhausted
  | _ => False

/-- No node is made and none is bound, and each that is bound gets its answer. -/
structure Harmless (m : AuthCacheManager keys) (e : Call) : Prop where
  known : ¬ Creates m e
  unbound : ∀ np requestId, e = .bindRequestId np requestId → m.cacheNodePool.find? np = none
  answered : ∀ np ∈ m.cacheRequestTimeoutList, ∃ key dataSource,
    e = .updateCacheNode key dataSource ∧ m.cacheMap key = some np

def Sound (c : Except Fault (AuthCacheManager keys)) (e : Call) : Prop :=
  match c with
  | .error fault => fault = .refused
  | .ok m => Refused m e ∨ Harmless m e

/-! ## What each call does -/

theorem acquireCacheNode_cases (m : AuthCacheManager keys) (key : Bytes) :
    (∃ np, m.cacheMap key = some np ∧ m.acquireCacheNode key = .ok (m,np)) ∨
    (m.cacheMap key = none ∧ m.Exhausted ∧
      ∃ localAudit, m.acquireCacheNode key = .ok ({ m with localAudit },0)) ∨
    (m.cacheMap key = none ∧ ¬ m.Exhausted ∧ m.acquireCacheNode key = .error .undefined) := by
  unfold acquireCacheNode
  cases mapped : m.cacheMap key with
  | some np => exact .inl ⟨np,rfl,rfl⟩
  | none =>
    right
    dsimp only
    split
    · rename_i failed
      have full := createCacheNode_eq_none.mp failed
      exact .inl ⟨rfl,full,_,rfl⟩
    · rename_i m' created
      refine .inr ⟨rfl,fun full => ?_,rfl⟩
      exact Option.some_ne_none m' (created.symm.trans (createCacheNode_eq_none.mpr full))

/-! ## Eviction -/

theorem le_wrapped (t : UInt64) : t ≤ 0 - 1 := by
  rw [UInt64.le_iff_toNat_le]
  have bound := t.toNat_lt
  have last : (0 - 1 : UInt64).toNat = 2 ^ 64 - 1 := rfl
  omega

/-- A node can be removed just if it is in the first list. -/
theorem Placed.evictable_iff (placed : Placed m) (there : m.cacheNodePool.find? np ≠ none) :
    Evictable m np ↔ np ∈ m.cacheTimeoutList := by
  have ticked (serviceTicker : UInt64) : Placed { m with serviceTicker } := placed.of_same rfl rfl rfl rfl
  obtain ⟨node,found⟩ := Option.ne_none_iff_exists'.mp there
  constructor
  · rintro ⟨serviceTicker,e,m',answer,removes,called,gone⟩
    rcases List.mem_append.mp ((placed.linked np).mpr there) with member | waiting
    · exact member
    · exfalso
      cases e with
      | removeTimeoutCacheNodes timeoutMS =>
        obtain ⟨m₁,removed,placed₁,-,request⟩ := (ticked serviceTicker).removeExpired (serviceTicker - timeoutMS) rfl
        simp only [AuthCacheManager.call,removeTimeoutCacheNodes,removed,Except.map,Except.ok.injEq,Prod.mk.injEq]
          at called
        obtain ⟨rfl,-⟩ := called
        have linked : m₁.cacheNodePool.find? np ≠ none := (placed₁.linked np).mp (by simp [request,waiting])
        obtain ⟨node₁,found₁⟩ := Option.ne_none_iff_exists'.mp linked
        exact gone node₁.key (placed₁.mapped np node₁ found₁)
      | removeTimeoutCacheUpdateNodes timeoutMS =>
        obtain ⟨rfl,-⟩ := Prod.mk.inj (Except.ok.inj called)
        exact gone node.key (placed.mapped np node found)
      | tick | acquireCacheNode | updateCacheNode | bindRequestId | appendRequestNode | getAndResetLocalAudit =>
        cases removes
  · intro member
    obtain ⟨m₁,removed,placed₁,left,request⟩ := (ticked 0).removeExpired (0 - 1) rfl
    refine ⟨0,.removeTimeoutCacheNodes 1,m₁,.done,rfl,?_,?_⟩
    · simp only [AuthCacheManager.call,removeTimeoutCacheNodes,removed,Except.map]
    · intro key mapped
      obtain ⟨node₁,found₁,-⟩ := placed₁.stored key np mapped
      have linked := (placed₁.linked np).mpr (by simp [found₁])
      -- everything in the first list is gone
      have expired : ∀ other ∈ m.cacheTimeoutList, { m with serviceTicker := 0 }.isExpired (0 - 1) other = true := by
        intro other listed
        obtain ⟨node,found⟩ := Option.ne_none_iff_exists'.mp ((placed.linked other).mp (by simp [listed]))
        simp only [isExpired,found]
        exact decide_eq_true (le_wrapped node.updateTimestamp)
      rw [left,List.dropWhile_eq_nil_iff.mpr expired,List.nil_append,request] at linked
      exact (List.nodup_append.mp placed.once).2.2 np member np linked rfl

theorem Placed.consistent_iff (placed : Placed m) : Consistent m ↔ m.cacheRequestTimeoutList = [] := by
  constructor
  · intro consistent
    apply List.eq_nil_iff_forall_not_mem.mpr
    intro np waiting
    have there := (placed.linked np).mp (by simp [waiting])
    obtain ⟨node,found⟩ := Option.ne_none_iff_exists'.mp there
    have member := (placed.evictable_iff there).mp (consistent.evictable _ np (placed.mapped np node found))
    exact (List.nodup_append.mp placed.once).2.2 np member np waiting rfl
  · intro idle
    have alive {key : Bytes} {np : Nat} (mapped : m.cacheMap key = some np) : m.cacheNodePool.find? np ≠ none := by
      obtain ⟨node,found,-⟩ := placed.stored key np mapped
      simp [found]
    refine ⟨placed.stored,?_,?_⟩
    · intro key np mapped
      exact List.count_eq_one_of_mem placed.once ((placed.linked np).mpr (alive mapped))
    · intro key np mapped
      have linked := (placed.linked np).mpr (alive mapped)
      rw [idle,List.append_nil] at linked
      exact (placed.evictable_iff (alive mapped)).mpr linked

/-! ## One call -/

/-- What a call leaves in the second list. -/
def waiting (m : AuthCacheManager keys) : Call → List Nat
  | .updateCacheNode key _ => (m.cacheMap key).elim m.cacheRequestTimeoutList (without m.cacheRequestTimeoutList)
  | .bindRequestId np _ =>
    if m.cacheNodePool.find? np = none then m.cacheRequestTimeoutList else toTail m.cacheRequestTimeoutList np
  | _ => m.cacheRequestTimeoutList

/-- A call is refused, or makes a node and ends the program, or is done. -/
inductive Outcome (m : AuthCacheManager keys) (e : Call) : Except Fault (AuthCacheManager keys × Answer) → Prop where
  | refused : Refused m e → Outcome m e (.error .refused)
  | created : Creates m e → Outcome m e (.error .undefined)
  | done {m' : AuthCacheManager keys} {answer : Answer} : ¬ Refused m e → ¬ Creates m e → Placed m' →
      m'.cacheRequestTimeoutList = waiting m e → Outcome m e (.ok (m',answer))

theorem Placed.outcome_acquireCacheNode (placed : Placed m) (key : Bytes) :
    Outcome m (.acquireCacheNode key) (m.call (.acquireCacheNode key)) := by
  simp only [AuthCacheManager.call]
  rcases acquireCacheNode_cases m key with ⟨np,mapped,result⟩ | ⟨absent,full,localAudit,result⟩ | ⟨absent,free,result⟩
  · rw [result]
    refine .done id ?_ placed rfl
    rintro ⟨absent,-⟩
    rw [mapped] at absent
    cases absent
  · rw [result]
    exact .done id (fun creates => creates.2 full) (placed.of_same rfl rfl rfl rfl) rfl
  · rw [result]
    exact .created ⟨absent,free⟩

theorem Placed.outcome_updateCacheNode (placed : Placed m) (key : Bytes) (dataSource : Option AuthCacheInfo) :
    Outcome m (.updateCacheNode key dataSource) (m.call (.updateCacheNode key dataSource)) := by
  simp only [AuthCacheManager.call,updateCacheNode]
  cases mapped : m.cacheMap key with
  | none => exact .done id id (placed.of_same rfl rfl rfl rfl) (by simp [waiting,mapped])
  | some np =>
    obtain ⟨node,there,-⟩ := placed.stored key np mapped
    have counted : Placed { m with
        localAudit := { m.localAudit with cacheUpdate := m.localAudit.cacheUpdate + 1 } } :=
      placed.of_same rfl rfl rfl rfl
    simp only [there]
    refine .done id id (counted.grabTimeout (by simp [there]) (fun _ => rfl) (fun _ => rfl)) ?_
    simp only [waiting,mapped]
    rfl

theorem not_refused_gone (gone : m.cacheNodePool.find? np = none) (requestId rn : Nat) :
    ¬ Refused m (.bindRequestId np requestId) ∧ ¬ Refused m (.appendRequestNode np rn) := by
  constructor <;>
  · rintro ⟨node,there,-⟩
    rw [gone] at there
    cases there

theorem Placed.outcome_bindRequestId (placed : Placed m) (np requestId : Nat) :
    Outcome m (.bindRequestId np requestId) (m.call (.bindRequestId np requestId)) := by
  simp only [AuthCacheManager.call]
  cases there : m.cacheNodePool.find? np with
  | none => exact .done (not_refused_gone there requestId 0).1 id placed (by simp [waiting,there])
  | some node =>
    simp only [reduceCtorEq,if_false,bindRequestId,there]
    by_cases free : node.pendingRequestId = 0
    · rw [if_neg (not_not_intro free)]
      refine .done ?_ id (placed.grabRequestTimeout (by simp [there]) (fun _ => rfl)) ?_
      · rintro ⟨node',found,asked⟩
        obtain rfl := Option.some.inj (there.symm.trans found)
        exact asked free
      · simp only [waiting,there,reduceCtorEq,if_false]
        rfl
    · rw [if_pos free]
      exact .refused ⟨node,there,free⟩

theorem Placed.outcome_appendRequestNode (placed : Placed m) (np rn : Nat) :
    Outcome m (.appendRequestNode np rn) (m.call (.appendRequestNode np rn)) := by
  simp only [AuthCacheManager.call]
  cases there : m.cacheNodePool.find? np with
  | none => exact .done (not_refused_gone there 0 rn).2 id placed rfl
  | some node =>
    simp only [reduceCtorEq,if_false,appendRequestNode,there]
    by_cases refused : node.pendingRequestId = 0 ∨ m.isLinked rn = true
    · rw [if_pos refused]
      exact .refused ⟨node,there,refused⟩
    · rw [if_neg refused]
      refine .done ?_ id (placed.append np rn) rfl
      rintro ⟨node',found,other⟩
      obtain rfl := Option.some.inj (there.symm.trans found)
      exact refused other

theorem Placed.outcome (placed : Placed m) (e : Call) : Outcome m e (m.call e) := by
  cases e with
  | tick serviceTicker => exact .done id id (placed.of_same rfl rfl rfl rfl) rfl
  | getAndResetLocalAudit => exact .done id id (placed.of_same rfl rfl rfl rfl) rfl
  | removeTimeoutCacheUpdateNodes timeoutMS => exact .done id id placed rfl
  | removeTimeoutCacheNodes timeoutMS =>
    obtain ⟨m',removed,placed',-,request⟩ := placed.removeExpired (m.serviceTicker - timeoutMS) rfl
    simp only [AuthCacheManager.call,removeTimeoutCacheNodes,removed,Except.map]
    exact .done id id placed' request
  | acquireCacheNode key => exact placed.outcome_acquireCacheNode key
  | updateCacheNode key dataSource => exact placed.outcome_updateCacheNode key dataSource
  | bindRequestId np requestId => exact placed.outcome_bindRequestId np requestId
  | appendRequestNode np rn => exact placed.outcome_appendRequestNode np rn

theorem waiting_eq_nil (e : Call) : waiting m e = [] ↔
    (∀ np requestId, e = .bindRequestId np requestId → m.cacheNodePool.find? np = none) ∧
    ∀ np ∈ m.cacheRequestTimeoutList, ∃ key dataSource,
      e = .updateCacheNode key dataSource ∧ m.cacheMap key = some np := by
  have other (same : waiting m e = m.cacheRequestTimeoutList) (apart : ∀ key dataSource, e ≠ .updateCacheNode key dataSource) :
      waiting m e = [] ↔ ∀ np ∈ m.cacheRequestTimeoutList, ∃ key dataSource,
        e = .updateCacheNode key dataSource ∧ m.cacheMap key = some np := by
    rw [same,List.eq_nil_iff_forall_not_mem]
    refine forall_congr' fun np => ⟨fun absent member => absurd member absent,fun update member => ?_⟩
    obtain ⟨key,dataSource,equal,-⟩ := update member
    exact apart key dataSource equal
  cases e with
  | tick | acquireCacheNode | appendRequestNode | removeTimeoutCacheNodes | removeTimeoutCacheUpdateNodes
  | getAndResetLocalAudit =>
    rw [other rfl (fun _ _ same => by cases same)]
    exact ⟨fun none => ⟨fun _ _ same => (by cases same),none⟩,fun both => both.2⟩
  | bindRequestId np requestId =>
    cases there : m.cacheNodePool.find? np with
    | none =>
      rw [other (if_pos there) (fun _ _ same => by cases same)]
      refine ⟨fun none => ⟨?_,none⟩,fun both => both.2⟩
      rintro _ _ ⟨⟩
      exact there
    | some node =>
      have bound : waiting m (.bindRequestId np requestId) ≠ [] := by simp [waiting,there,toTail]
      refine ⟨fun none => absurd none bound,fun both => ?_⟩
      exact absurd (there.symm.trans (both.1 np requestId rfl)) (by simp)
  | updateCacheNode key dataSource =>
    have mapped : waiting m (.updateCacheNode key dataSource) = [] ↔
        ∀ np ∈ m.cacheRequestTimeoutList, m.cacheMap key = some np := by
      cases mapped : m.cacheMap key with
      | none => simp [waiting,mapped,List.eq_nil_iff_forall_not_mem]
      | some np =>
        simp only [waiting,mapped,Option.elim,List.eq_nil_iff_forall_not_mem,mem_without,Option.some.injEq]
        refine forall_congr' fun other => ⟨fun absent member => ?_,fun same both => ?_⟩
        · by_contra apart
          exact absent ⟨member,Ne.symm apart⟩
        · exact both.2 (same both.1).symm
    rw [mapped]
    constructor
    · exact fun same => ⟨fun _ _ other => (by cases other),fun np member => ⟨key,dataSource,rfl,same np member⟩⟩
    · rintro ⟨-,updates⟩ np member
      obtain ⟨key',dataSource',same,mapped⟩ := updates np member
      cases same
      exact mapped

/-- What a call returns is always right, and what it leaves is if no node waits. -/
theorem Placed.contract_iff {e : Call} {answer : Answer} (placed : Placed m) (placed' : Placed m')
    (result : m.call e = .ok (m',answer)) : Contract m e m' answer ↔ m'.cacheRequestTimeoutList = [] := by
  refine ⟨fun contract => placed'.consistent_iff.mp contract.consistent,fun idle => ?_⟩
  refine ⟨placed'.consistent_iff.mpr idle,?_,?_⟩
  · rintro key rfl
    simp only [AuthCacheManager.call] at result
    rcases acquireCacheNode_cases m key with ⟨np,mapped,acquired⟩ | ⟨absent,full,localAudit,acquired⟩ | ⟨-,-,acquired⟩
    · rw [acquired] at result
      obtain ⟨rfl,rfl⟩ := Prod.mk.inj (Except.ok.inj result)
      obtain ⟨node,there,-⟩ := placed.stored key np mapped
      have nonzero := Storage.ne_zero_of_find? there
      exact ⟨np,rfl,by rw [if_neg nonzero,mapped],by simp [nonzero,mapped]⟩
    · rw [acquired] at result
      obtain ⟨rfl,rfl⟩ := Prod.mk.inj (Except.ok.inj result)
      exact ⟨0,rfl,absent,fun _ => ⟨absent,full⟩,fun _ => rfl⟩
    · rw [acquired] at result
      cases result
  · intro np _ gone key mapped
    obtain ⟨node,there,-⟩ := placed'.stored key np mapped
    rw [gone] at there
    cases there

theorem Creates.not_refused {e : Call} (creates : Creates m e) : ¬ Refused m e := by
  cases e with
  | acquireCacheNode => exact id
  | tick | updateCacheNode | bindRequestId | appendRequestNode | removeTimeoutCacheNodes
  | removeTimeoutCacheUpdateNodes | getAndResetLocalAudit => exact False.elim creates

/-- A call keeps the contract just if it breaks what is asserted of its arguments, or is harmless. -/
theorem Placed.kept_iff (placed : Placed m) (e : Call) : Kept (.ok m) e ↔ Sound (.ok m) e := by
  unfold Kept Sound
  have outcome := placed.outcome e
  generalize result : m.call e = answered at outcome
  cases outcome with
  | refused refused => simp only [result,refused,true_or]
  | created creates =>
    simp only [result,reduceCtorEq,creates.not_refused,false_or,false_iff]
    exact fun harmless => harmless.known creates
  | done allowed known placed' left =>
    simp only [result,allowed,false_or]
    rw [placed.contract_iff placed' result,left,waiting_eq_nil]
    exact ⟨fun both => ⟨known,both.1,both.2⟩,fun harmless => ⟨harmless.unbound,harmless.answered⟩⟩

/-! ## Any run -/

def Fine (c : Except Fault (AuthCacheManager keys)) : Prop := ∀ m, c = .ok m → Placed m

theorem Fine.step {c : Except Fault (AuthCacheManager keys)} (fine : Fine c) (e : Call) : Fine (step c e).1 := by
  intro m' next
  cases c with
  | error fault => cases next
  | ok m =>
    simp only [AuthCacheServer.step] at next
    have outcome := (fine m rfl).outcome e
    generalize m.call e = answered at outcome next
    cases outcome with
    | refused | created => cases next
    | done _ _ placed' _ =>
      cases next
      exact placed'

theorem Fine.kept_iff {c : Except Fault (AuthCacheManager keys)} (fine : Fine c) (e : Call) :
    Kept c e ↔ Sound c e := by
  cases c with
  | error fault => exact Iff.rfl
  | ok m => exact (fine m rfl).kept_iff e

theorem Fine.allowed_iff {c : Except Fault (AuthCacheManager keys)} (fine : Fine c) (log : List Answer)
    (calls : List Call) : (authCache keys).Allowed (fun c _ e => Kept c e) c log calls ↔
      (authCache keys).Allowed (fun c _ e => Sound c e) c log calls := by
  induction calls generalizing c log with
  | nil => exact Iff.rfl
  | cons e calls ih => exact and_congr (fine.kept_iff e) (ih (fine.step e) _)

/-- In every run, whichever nodes are there at first, every call keeps the contract if and only if each
is sound where it is made: it makes no node and binds none, and the one that waits at first is answered. -/
theorem auth_cache_iff (m : AuthCacheManager keys) (placed : Placed m) (calls : List Call) :
    (authCache keys).Allowed (fun c _ e => Kept c e) (.ok m) [] calls ↔
      (authCache keys).Allowed (fun c _ e => Sound c e) (.ok m) [] calls := by
  apply Fine.allowed_iff
  rintro _ ⟨⟩
  exact placed

/-! ## A node that is bound, and one that is made -/

/-- A manager with one node, made for `"a:b"` at the time 0. -/
def oneNode : AuthCacheManager .sequential :=
  ((AuthCacheManager.new .sequential 1 0).createCacheNode [97,58,98]).getD (.new .sequential 1 0)

theorem placed_oneNode : Placed oneNode := by
  have absent : (AuthCacheManager.new .sequential 1 0).cacheMap [97,58,98] = none := rfl
  exact (placed_new .sequential 1 0).createCacheNode absent rfl

theorem bound_node_not_kept :
    ¬ (authCache .sequential).Allowed (fun c _ e => Kept c e) (.ok oneNode) [] [.bindRequestId 1 7] := by
  rw [auth_cache_iff oneNode placed_oneNode]
  rintro ⟨⟨node,found,asked⟩ | harmless,-⟩
  · have made : oneNode.cacheNodePool.find? 1 = some { updateTimestamp := 0, key := [97,58,98] } := rfl
    obtain rfl := Option.some.inj (made.symm.trans found)
    exact asked rfl
  · exact absurd (harmless.unbound 1 7 rfl) (by decide)

/-- The first key that is asked for is added, and the end of the map is read. -/
theorem new_node_not_returned :
    ¬ ∀ (keys : KeySource) (capacity : Nat) (serviceTicker : UInt64) (calls : List Call),
      (authCache keys).Allowed (fun c _ e => Kept c e) (.ok (.new keys capacity serviceTicker)) [] calls := by
  intro always
  have kept := (always .sequential 1 0 [.acquireCacheNode [97,58,98]]).1
  exact absurd (show Fault.undefined = Fault.refused from kept) (by decide)

end MiniPP.AuthCacheServer
