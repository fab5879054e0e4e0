import Mathlib.Data.List.Perm.Basic
import MiniPP.Coalescing.Manager

/-! What the cache owes its users, read off the log: one answer a request, the stored result where
there is one, and no second query for a key while one is outstanding. -/
namespace MiniPP.Coalescing

variable {keys : KeySource} {κ γ δ : Type} [DecidableEq κ]

/-! ## Histories of a key -/

def trackQuery (key : κ) (waiting : Bool) : CacheAction κ γ δ → Bool
  | .makeAsyncQuery _ other accepted => if other = key ∧ accepted = true then true else waiting
  | .stored other _ => if other = key then false else waiting
  | _ => waiting

/-- A query was accepted, and no result was set for the key since. -/
def outstanding (log : List (CacheAction κ γ δ)) (key : κ) : Bool := log.foldl (trackQuery key) false

def trackResult (key : κ) (result : Option (Option δ)) : CacheAction κ γ δ → Option (Option δ)
  | .stored other data => if other = key then some data else result
  | _ => result

/-- The result that was set last. -/
def storedResult (log : List (CacheAction κ γ δ)) (key : κ) : Option (Option δ) :=
  log.foldl (trackResult key) none

/-! ## The contract -/

def posts : CacheAction κ γ δ → Option γ
  | .posted _ context => some context
  | _ => none

def answers : CacheAction κ γ δ → Option γ
  | .onResultData context _ => some context
  | _ => none

/-- The requests that wait in some node. -/
def pending (m : CacheManager keys κ γ δ) : List γ :=
  m.cacheNodePool.entries.flatMap (·.2.pendingRequestList)

/-- Each request is answered once or waits for a query that is outstanding. -/
structure Contract (m : CacheManager keys κ γ δ) (log : List (CacheAction κ γ δ)) : Prop where
  once : (log.filterMap posts).Perm (log.filterMap answers ++ pending m)
  waits : ∀ id node, m.cacheNodePool.find? id = some node → node.pendingRequestList ≠ [] →
    outstanding log node.key = true
  hits : ∀ before key context after data, log = before ++ .posted key context :: after →
    storedResult before key = some data → ∃ rest, after = .onResultData context data :: rest
  queries : Log.Always (fun before action => ∀ id key accepted,
    action = .makeAsyncQuery id key accepted → outstanding before key = false) log

/-- A request for a key without a node, while there is a node left. -/
def Servable (m : CacheManager keys κ γ δ) (_log : List (CacheAction κ γ δ)) : CacheEvent κ γ δ → Prop
  | .postAcquireCacheNodeRequest key _ _ =>
    m.cacheMap key = none ∧ m.cacheNodePool.entries.length < m.cacheNodePool.capacity
  | _ => True

/-! ## The nodes and the histories -/

/-- What is known of the nodes and of the two histories of their keys. -/
structure Good (m : CacheManager keys κ γ δ) (waiting : κ → Bool) (result : κ → Option (Option δ)) : Prop where
  runs : m.crashed = false
  mapped : ∀ id node, m.cacheNodePool.find? id = some node → m.cacheMap node.key = some id
  waits : ∀ id node, m.cacheNodePool.find? id = some node → node.pendingRequestList ≠ [] →
    waiting node.key = true
  unknown : ∀ key, m.cacheMap key = none → waiting key = false ∧ result key = none

section Steps

variable {m : CacheManager keys κ γ δ} {waiting : κ → Bool} {result : κ → Option (Option δ)}

omit [DecidableEq κ] in
theorem good_init (maxCacheNodeSize requestPoolSize : Nat) :
    Good (.init keys κ γ δ maxCacheNodeSize requestPoolSize) (fun _ => false) (fun _ => none) where
  runs := rfl
  mapped id node found := by cases found
  waits id node found := by cases found
  unknown key _ := ⟨rfl,rfl⟩

theorem good_insert (good : Good m waiting result) {key : κ} (new : m.cacheMap key = none) {id : Nat}
    {cacheNodePool : Storage keys (CacheNode κ γ δ)} (acquired : m.acquireNode key = some (id,cacheNodePool)) :
    Good (m.insert key id cacheNodePool) waiting result := by
  constructor
  case runs => exact good.runs
  case mapped =>
    intro id' node here
    rcases Storage.of_find?_acquire acquired here with ⟨rfl,rfl⟩ | ⟨-,here⟩
    · exact Function.update_self _ _ _
    · have old := good.mapped id' node here
      have apart : node.key ≠ key := fun same => by
        rw [same,new] at old
        cases old
      exact (Function.update_of_ne apart _ _).trans old
  case waits =>
    intro id' node here behind
    rcases Storage.of_find?_acquire acquired here with ⟨rfl,rfl⟩ | ⟨-,here⟩
    · exact absurd rfl behind
    · exact good.waits id' node here behind
  case unknown =>
    intro other absent
    refine good.unknown other ?_
    by_cases same : other = key
    · rw [same,new]
    · exact (Function.update_of_ne same _ _).symm.trans absent

omit [DecidableEq κ] in
/-- One node changes, and with it the histories of its key. -/
theorem good_modify (good : Good m waiting result) {id : Nat} {node : CacheNode κ γ δ}
    (here : m.cacheNodePool.find? id = some node) {f : CacheNode κ γ δ → CacheNode κ γ δ}
    (key : (f node).key = node.key) {waiting' : κ → Bool} {result' : κ → Option (Option δ)}
    (others : ∀ key, key ≠ node.key → waiting' key = waiting key ∧ result' key = result key)
    (waits : (f node).pendingRequestList ≠ [] → waiting' node.key = true) (inUse : Nat) :
    Good { m with
      cacheNodePool := m.cacheNodePool.modify id f
      cacheRequestsInUse := inUse } waiting' result' := by
  have mapped := good.mapped id node here
  constructor
  case runs => exact good.runs
  case mapped =>
    intro other node' found
    rcases Storage.of_find?_modify found with ⟨rfl,before,there,rfl⟩ | ⟨-,found⟩
    · obtain rfl := Option.some.inj (here.symm.trans there)
      rw [key]
      exact mapped
    · exact good.mapped other node' found
  case waits =>
    intro other node' found behind
    rcases Storage.of_find?_modify found with ⟨rfl,before,there,rfl⟩ | ⟨differs,found⟩
    · obtain rfl := Option.some.inj (here.symm.trans there)
      rw [key]
      exact waits behind
    · have apart : node'.key ≠ node.key := fun same => by
        have back := good.mapped other node' found
        rw [same,mapped] at back
        exact differs (Option.some.inj back).symm
      rw [(others node'.key apart).1]
      exact good.waits other node' found behind
  case unknown =>
    intro other absent
    have differs : other ≠ node.key := by
      rintro rfl
      rw [mapped] at absent
      cases absent
    obtain ⟨waits,results⟩ := others other differs
    rw [waits,results]
    exact good.unknown other absent

/-- A request waits, and its query was accepted. -/
theorem good_push (good : Good m waiting result) {id : Nat} {node : CacheNode κ γ δ}
    (here : m.cacheNodePool.find? id = some node) (context : γ) (inUse : Nat) : Good { m with
      cacheNodePool := m.cacheNodePool.modify id (fun node =>
        { node with pendingRequestList := node.pendingRequestList ++ [context] })
      cacheRequestsInUse := inUse } (Function.update waiting node.key true) result :=
  good_modify good here rfl (fun _ apart => ⟨Function.update_of_ne apart _ _,rfl⟩)
    (fun _ => Function.update_self _ _ _) inUse

/-- A result is set, and nobody waits any longer. -/
theorem good_result (good : Good m waiting result) {id : Nat} {node : CacheNode κ γ δ}
    (here : m.cacheNodePool.find? id = some node) (data : Option δ) :
    Good (m.popRequests id (fun node => { node with dataPtr := data, state := .result }) node)
      (Function.update waiting node.key false) (Function.update result node.key (some data)) :=
  good_modify good here rfl
    (fun _ apart => ⟨Function.update_of_ne apart _ _,Function.update_of_ne apart _ _⟩)
    (fun behind => absurd rfl behind) _

omit [DecidableEq κ] in
theorem good_release (good : Good m waiting result) {id : Nat} {node : CacheNode κ γ δ}
    (here : m.cacheNodePool.find? id = some node) :
    Good (m.popRequests id (fun node => node) node) waiting result :=
  good_modify good here rfl (fun _ _ => ⟨rfl,rfl⟩) (fun behind => absurd rfl behind) _

end Steps

/-! ## What an operation adds to the log -/

section Log

variable {log out front back : List (CacheAction κ γ δ)} {key : κ}

/-- The action changes neither history of a key. -/
def Inert (a : CacheAction κ γ δ) : Prop :=
  ∀ key waiting result, trackQuery key waiting a = waiting ∧ trackResult key result a = result

theorem inert_posted (key : κ) (context : γ) : Inert (.posted key context : CacheAction κ γ δ) :=
  fun _ _ _ => ⟨rfl,rfl⟩

theorem inert_onResultData (context : γ) (data : Option δ) :
    Inert (.onResultData context data : CacheAction κ γ δ) := fun _ _ _ => ⟨rfl,rfl⟩

theorem inert_onReleaseData (id : Nat) (data : δ) :
    Inert (.onReleaseData id data : CacheAction κ γ δ) := fun _ _ _ => ⟨rfl,rfl⟩

theorem inert_refused (id : Nat) (key : κ) :
    Inert (.makeAsyncQuery id key false : CacheAction κ γ δ) :=
  fun _ _ _ => ⟨if_neg (by simp),rfl⟩

theorem foldl_inert (inert : ∀ a ∈ out, Inert a) (key : κ) (waiting : Bool)
    (result : Option (Option δ)) :
    out.foldl (trackQuery key) waiting = waiting ∧ out.foldl (trackResult key) result = result := by
  induction out with
  | nil => exact ⟨rfl,rfl⟩
  | cons a out ih =>
    obtain ⟨first,rest⟩ := List.forall_mem_cons.mp inert
    obtain ⟨query,stored⟩ := first key waiting result
    rw [List.foldl_cons,List.foldl_cons,query,stored]
    exact ih rest

theorem histories_inert (log : List (CacheAction κ γ δ)) (inert : ∀ a ∈ out, Inert a) :
    outstanding (log ++ out) = outstanding log ∧ storedResult (log ++ out) = storedResult log := by
  constructor <;> funext key
  · rw [outstanding,List.foldl_append,(foldl_inert inert key _ none).1,outstanding]
  · rw [storedResult,List.foldl_append,(foldl_inert inert key false _).2,storedResult]

/-- A result is set, among actions that change nothing. -/
theorem histories_stored (log : List (CacheAction κ γ δ)) (key : κ)
    (before : ∀ a ∈ front, Inert a) (behind : ∀ a ∈ back, Inert a)
    (data : Option δ) :
    outstanding (log ++ (front ++ .stored key data :: back)) =
        Function.update (outstanding log) key false ∧
      storedResult (log ++ (front ++ .stored key data :: back)) =
        Function.update (storedResult log) key (some data) := by
  have cut : log ++ (front ++ .stored key data :: back) =
      log ++ front ++ [.stored key data] ++ back := by simp
  rw [cut,(histories_inert _ behind).1,(histories_inert _ behind).2]
  constructor <;> funext other
  · rw [outstanding,List.foldl_append,← outstanding,(histories_inert _ before).1,Function.update_apply]
    by_cases same : other = key
    · simp [trackQuery,same]
    · simp [trackQuery,same,Ne.symm same]
  · rw [storedResult,List.foldl_append,← storedResult,(histories_inert _ before).2,Function.update_apply]
    by_cases same : other = key
    · simp [trackResult,same]
    · simp [trackResult,same,Ne.symm same]

theorem histories_accepted (log : List (CacheAction κ γ δ)) (key : κ)
    (before : ∀ a ∈ front, Inert a) (id : Nat) :
    outstanding (log ++ (front ++ [.makeAsyncQuery id key true])) =
        Function.update (outstanding log) key true ∧
      storedResult (log ++ (front ++ [.makeAsyncQuery id key true])) = storedResult log := by
  rw [← List.append_assoc]
  constructor <;> funext other
  · rw [outstanding,List.foldl_append,← outstanding,(histories_inert _ before).1,Function.update_apply]
    by_cases same : other = key
    · simp [trackQuery,same]
    · simp [trackQuery,same,Ne.symm same]
  · rw [storedResult,List.foldl_append,← storedResult,(histories_inert _ before).2]
    rfl

/-- The answers of a result, or of a release. -/
def replies (waiting : List γ) (data : Option δ) : List (CacheAction κ γ δ) :=
  waiting.map (.onResultData · data)

def releases (id : Nat) (data : Option δ) : List (CacheAction κ γ δ) :=
  data.toList.map (.onReleaseData id)

theorem inert_replies (waiting : List γ) (data : Option δ) :
    ∀ a ∈ (replies waiting data : List (CacheAction κ γ δ)), Inert a := by
  intro a member
  obtain ⟨context,-,rfl⟩ := List.mem_map.mp member
  exact inert_onResultData context data

theorem inert_releases (id : Nat) (data : Option δ) :
    ∀ a ∈ (releases id data : List (CacheAction κ γ δ)), Inert a := by
  intro a member
  obtain ⟨old,-,rfl⟩ := List.mem_map.mp member
  exact inert_onReleaseData id old

omit [DecidableEq κ] in
theorem filterMap_replies (waiting : List γ) (data : Option δ) :
    (replies waiting data : List (CacheAction κ γ δ)).filterMap posts = [] ∧
      (replies waiting data : List (CacheAction κ γ δ)).filterMap answers = waiting := by
  constructor
  · exact List.filterMap_eq_nil_iff.mpr fun a member => by
      obtain ⟨context,-,rfl⟩ := List.mem_map.mp member
      rfl
  · rw [replies,List.filterMap_map]
    exact List.filterMap_some

omit [DecidableEq κ] in
theorem filterMap_releases (id : Nat) (data : Option δ) :
    (releases id data : List (CacheAction κ γ δ)).filterMap posts = [] ∧
      (releases id data : List (CacheAction κ γ δ)).filterMap answers = [] := by
  constructor <;>
    exact List.filterMap_eq_nil_iff.mpr fun a member => by
      obtain ⟨old,-,rfl⟩ := List.mem_map.mp member
      rfl

end Log

/-! ## The requests that wait -/

section Pending

variable {m : CacheManager keys κ γ δ} {id : Nat} {node : CacheNode κ γ δ}

omit [DecidableEq κ] in
theorem pending_perm (here : m.cacheNodePool.find? id = some node) :
    (pending m).Perm (node.pendingRequestList ++
      (m.cacheNodePool.release id).entries.flatMap (·.2.pendingRequestList)) :=
  (Storage.entries_perm here).flatMap_right _

omit [DecidableEq κ] in
theorem pending_modify (here : m.cacheNodePool.find? id = some node)
    (f : CacheNode κ γ δ → CacheNode κ γ δ) (inUse : Nat) :
    (pending { m with
      cacheNodePool := m.cacheNodePool.modify id f
      cacheRequestsInUse := inUse }).Perm ((f node).pendingRequestList ++
        (m.cacheNodePool.release id).entries.flatMap (·.2.pendingRequestList)) :=
  (Storage.modify_perm here f).flatMap_right _

end Pending

end MiniPP.Coalescing
