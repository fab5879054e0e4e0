import MiniPP.HashPool.Pool

/-! What the calls do to a pool in which every context is in exactly one of the three lists. -/
namespace MiniPP.HashPool

variable {sort : Pool.StdSort} {s s' : Pool}

/-! ## Loops over contexts -/

def connectionOf (contexts : Contexts) (p : Nat) : Option TcpConnection :=
  (contexts p).bind (·.connection)

theorem connectionOf_eq_some {contexts : Contexts} {p : Nat} {connection : TcpConnection} :
    connectionOf contexts p = some connection ↔
      ∃ context, contexts p = some context ∧ context.connection = some connection := by
  simp [connectionOf,Option.bind_eq_some_iff]

section ForEach

variable (body : ServerContext → TcpConnection → Option ServerContext × List Effect)

/-- The contexts after the loop. -/
def visited (servers : List Nat) (contexts : Contexts) : Contexts := fun p =>
  if p ∈ servers then
    (contexts p).bind (fun context => context.connection.bind (fun connection => (body context connection).1))
  else contexts p

/-- What the loop does to the connection of one context. -/
def effects (contexts : Contexts) (p : Nat) : List Effect :=
  ((contexts p).bind
    (fun context => context.connection.map (fun connection => (body context connection).2))).getD []

variable {body}

theorem visited_of_mem {servers : List Nat} {contexts : Contexts} {p : Nat} (member : p ∈ servers)
    {context : ServerContext} {connection : TcpConnection} (here : contexts p = some context)
    (connected : context.connection = some connection) :
    visited body servers contexts p = (body context connection).1 := by
  simp [visited,member,here,connected]

theorem visited_of_not_mem {servers : List Nat} {contexts : Contexts} {p : Nat}
    (other : p ∉ servers) : visited body servers contexts p = contexts p := if_neg other

theorem effects_eq {contexts : Contexts} {p : Nat} {context : ServerContext}
    {connection : TcpConnection} (here : contexts p = some context)
    (connected : context.connection = some connection) :
    effects body contexts p = (body context connection).2 := by
  simp [effects,here,connected]

theorem forEach_eq {servers : List Nat} {contexts : Contexts} (once : servers.Nodup)
    (connected : ∀ p ∈ servers, ∃ connection, connectionOf contexts p = some connection) :
    forEach body servers contexts =
      some (visited body servers contexts,servers.flatMap (effects body contexts)) := by
  induction servers generalizing contexts with
  | nil =>
    have same : visited body [] contexts = contexts := funext (fun p => visited_of_not_mem (by simp))
    rw [forEach,same,List.flatMap_nil]
  | cons p rest ih =>
    obtain ⟨new,once⟩ := List.nodup_cons.mp once
    obtain ⟨connection,has⟩ := connected p List.mem_cons_self
    obtain ⟨context,here,linked⟩ := connectionOf_eq_some.mp has
    have other (q : Nat) (member : q ∈ rest) (c : Option ServerContext) :
        Function.update contexts p c q = contexts q :=
      Function.update_of_ne (fun same : q = p => new (same ▸ member)) _ _
    have later : forEach body rest (Function.update contexts p (body context connection).1) = _ := ih once
      (fun q member => by
        rw [connectionOf,other q member]
        exact connected q (List.mem_cons_of_mem p member))
    have same : rest.flatMap (effects body (Function.update contexts p (body context connection).1)) =
        rest.flatMap (effects body contexts) := by
      rw [List.flatMap_def,List.flatMap_def]
      congr 1
      refine List.map_congr_left fun q member => ?_
      rw [effects,other q member,effects]
    have final : visited body rest (Function.update contexts p (body context connection).1) =
        visited body (p :: rest) contexts := by
      funext q
      by_cases first : q = p
      · rw [first,visited_of_not_mem new,Function.update_self,
          visited_of_mem List.mem_cons_self here linked]
      · simp only [visited,Function.update_of_ne first,List.mem_cons,first,false_or]
    rw [forEach,here,Option.bind_eq_bind,Option.bind_some,linked,Option.bind_eq_bind,Option.bind_some]
    dsimp only
    rw [later,Option.bind_eq_bind,Option.bind_some,same,final,List.flatMap_cons,effects_eq here linked]

end ForEach

theorem destroy_eq {servers : List Nat} (once : servers.Nodup)
    (connected : ∀ p ∈ servers, ∃ connection, connectionOf s.contexts p = some connection) :
    s.destroy servers = some ({ s with
      contexts := Pool.discard s.contexts servers
      closingServerList := s.closingServerList.filter (· ∉ servers)
      reconnectServerList := s.reconnectServerList.filter (· ∉ servers) },
      servers.flatMap (effects Pool.destroyServer s.contexts)) := by
  have gone : visited Pool.destroyServer servers s.contexts = Pool.discard s.contexts servers := by
    funext p
    by_cases member : p ∈ servers
    · obtain ⟨connection,has⟩ := connected p member
      obtain ⟨context,here,linked⟩ := connectionOf_eq_some.mp has
      rw [visited_of_mem member here linked,Pool.discard,if_pos member]
      rfl
    · rw [visited_of_not_mem member,Pool.discard,if_neg member]
  rw [Pool.destroy,forEach_eq once connected,gone]
  rfl

/-! ## The merge -/

theorem newServer_contexts (s : Pool) (d : ServerInfo) (p : Nat) :
    (s.newServer d).contexts p = if p = s.nextContext then some ⟨d,none,false⟩ else s.contexts p :=
  Function.update_apply _ _ _ _

theorem markDelete_contexts (s : Pool) (p q : Nat) :
    (s.markDelete p).contexts q = (s.contexts q).map (fun context =>
      if q = p then { context with deleteMark := true } else context) := by
  by_cases here : q = p
  · subst here
    simp [Pool.markDelete]
  · simp [Pool.markDelete,here]

/-- The new contexts, in the order they are allocated. -/
def fresh (next : Nat) (news : List ServerInfo) (p : Nat) : Option ServerContext :=
  if next ≤ p then (news[p - next]?).map (⟨·,none,false⟩) else none

theorem fresh_cons (next : Nat) (d : ServerInfo) (news : List ServerInfo) (p : Nat) :
    fresh next (d :: news) p = if p = next then some ⟨d,none,false⟩ else fresh (next + 1) news p := by
  unfold fresh
  by_cases here : p = next
  · rw [if_pos here,if_pos (Nat.le_of_eq here.symm),here,Nat.sub_self]
    rfl
  rw [if_neg here]
  by_cases later : next + 1 ≤ p
  · have index : p - next = (p - (next + 1)) + 1 := by omega
    rw [if_pos later,if_pos (Nat.le_of_succ_le later),index,List.getElem?_cons_succ]
  · rw [if_neg later,if_neg (by omega)]

theorem fresh_of_lt {next p : Nat} (below : p < next) (news : List ServerInfo) :
    fresh next news p = none := if_neg (Nat.not_le_of_lt below)

theorem newServers_eq (news : List ServerInfo) (s : Pool) :
    news.foldl Pool.newServer s = { s with
      contexts := fun p => (fresh s.nextContext news p).or (s.contexts p)
      nextContext := s.nextContext + news.length
      uninitializedServerList := s.uninitializedServerList ++
        List.range' s.nextContext news.length } := by
  induction news generalizing s with
  | nil => simp [fresh]
  | cons d news ih =>
    rw [List.foldl_cons,ih]
    refine Pool.ext rfl (funext fun p => ?_) ?_ rfl rfl ?_ rfl rfl rfl
    · change (fresh (s.nextContext + 1) news p).or ((s.newServer d).contexts p) =
        (fresh s.nextContext (d :: news) p).or (s.contexts p)
      rw [fresh_cons,newServer_contexts]
      by_cases here : p = s.nextContext
      · rw [if_pos here,if_pos here,here,fresh_of_lt (Nat.lt_succ_self _)]
        rfl
      · rw [if_neg here,if_neg here]
    · simp [Pool.newServer,Nat.add_assoc,Nat.add_comm 1]
    · simp [Pool.newServer,List.range'_succ]

theorem markDeletes_eq (deleted : List Nat) (s : Pool) :
    deleted.foldl Pool.markDelete s = { s with
      contexts := fun p => (s.contexts p).map (fun context =>
        if p ∈ deleted then { context with deleteMark := true } else context)
      deleteServerList := s.deleteServerList ++ deleted } := by
  induction deleted generalizing s with
  | nil => simp
  | cons p deleted ih =>
    rw [List.foldl_cons,ih]
    refine Pool.ext rfl (funext fun q => ?_) rfl rfl rfl rfl ?_ rfl rfl
    · simp only [markDelete_contexts,Option.map_map]
      congr 1
      funext context
      by_cases here : q = p <;> simp [here]
    · simp [Pool.markDelete]

/-- A context that is new and one that is old are apart. -/
theorem newServer_markDelete {p : Nat} (below : p < s.nextContext) (d : ServerInfo) :
    (s.newServer d).markDelete p = (s.markDelete p).newServer d := by
  have apart : p ≠ s.nextContext := Nat.ne_of_lt below
  refine Pool.ext rfl ?_ rfl rfl rfl rfl rfl rfl rfl
  simp only [Pool.newServer,Pool.markDelete,Function.update_of_ne apart]
  exact Function.update_comm apart.symm _ _ _

theorem newServer_markDeletes {deleted : List Nat} (below : ∀ p ∈ deleted, p < s.nextContext)
    (d : ServerInfo) :
    deleted.foldl Pool.markDelete (s.newServer d) = (deleted.foldl Pool.markDelete s).newServer d := by
  induction deleted generalizing s with
  | nil => rfl
  | cons p deleted ih =>
    obtain ⟨first,rest⟩ := List.forall_mem_cons.mp below
    have later := ih (s := s.markDelete p) rest
    rw [List.foldl_cons,newServer_markDelete first,later,List.foldl_cons]

def infoOf (contexts : Contexts) (p : Nat) : ServerInfo :=
  ((contexts p).map (·.toServerInfo)).getD ⟨0,.unspecified⟩

/-- The two loops are one pass over both lists; it changes nothing but what it logs in them. -/
theorem mergeLists_eq {fuel : Nat} {olds : List Nat} {news : List ServerInfo}
    (enough : olds.length + news.length < fuel) {info : Nat → ServerInfo}
    (known : ∀ p ∈ olds, (s.contexts p).map (·.toServerInfo) = some (info p))
    (below : ∀ p ∈ olds, p < s.nextContext) :
    ∃ kept deleted added,
      Reconciles (fun p => (info p).serverId) ServerInfo.serverId
        (fun p d => (info p).address = d.address) olds news kept deleted added ∧
      Pool.mergeLists fuel olds news s =
        some (added.foldl Pool.newServer (deleted.foldl Pool.markDelete s)) := by
  induction fuel generalizing olds news s with
  | zero => omega
  | succ fuel ih =>
    cases olds with
    | nil => exact ⟨[],[],news,.addRest news,rfl⟩
    | cons p olds =>
      cases news with
      | nil => exact ⟨[],p :: olds,[],.deleteRest _,rfl⟩
      | cons d news =>
        obtain ⟨first,rest⟩ := List.forall_mem_cons.mp known
        obtain ⟨firstBelow,restBelow⟩ := List.forall_mem_cons.mp below
        obtain ⟨old,here,same⟩ := Option.map_eq_some_iff.mp first
        simp only [List.length_cons] at enough
        have markedKnown : ∀ q ∈ olds, ((s.markDelete p).contexts q).map (·.toServerInfo) = some (info q) := by
          intro q member
          rw [← rest q member,markDelete_contexts,Option.map_map]
          congr 1
          funext context
          by_cases again : q = p <;> simp [again]
        have newKnown (s : Pool) (olds : List Nat)
            (known : ∀ q ∈ olds, (s.contexts q).map (·.toServerInfo) = some (info q))
            (below : ∀ q ∈ olds, q < s.nextContext) : ∀ q ∈ olds,
            ((s.newServer d).contexts q).map (·.toServerInfo) = some (info q) := by
          intro q member
          rw [newServer_contexts,if_neg (Nat.ne_of_lt (below q member))]
          exact known q member
        rw [Pool.mergeLists,here,Option.bind_eq_bind,Option.bind_some]
        have serverId : old.serverId = (info p).serverId := by rw [← same]
        have address : old.address = (info p).address := by rw [← same]
        rw [serverId,address]
        by_cases equal : (info p).serverId = d.serverId
        · rw [if_pos equal]
          by_cases differs : (info p).address ≠ d.address
          · rw [if_pos differs]
            obtain ⟨kept,deleted,added,pass,result⟩ := ih (s := (s.markDelete p).newServer d)
              (show olds.length + news.length < fuel by omega)
              (newKnown _ _ markedKnown restBelow) (fun q member => Nat.lt_succ_of_lt (restBelow q member))
            refine ⟨kept,p :: deleted,d :: added,.replace equal differs pass,?_⟩
            have old (q : Nat) (member : q ∈ deleted) : q < s.nextContext :=
              restBelow q (pass.olds_perm.symm.subset (List.mem_append_right kept member))
            rw [result,newServer_markDeletes (s := s.markDelete p) old]
            rfl
          · rw [if_neg differs]
            obtain ⟨kept,deleted,added,pass,result⟩ := ih (s := s)
              (show olds.length + news.length < fuel by omega) rest restBelow
            exact ⟨p :: kept,deleted,added,.keep equal (not_not.mp differs) pass,result⟩
        rw [if_neg equal]
        by_cases less : (info p).serverId < d.serverId
        · rw [if_pos less]
          obtain ⟨kept,deleted,added,pass,result⟩ := ih (s := s.markDelete p)
            (show olds.length + (d :: news).length < fuel by rw [List.length_cons]; omega) markedKnown restBelow
          exact ⟨kept,p :: deleted,added,.delete less pass,result⟩
        · rw [if_neg less]
          obtain ⟨kept,deleted,added,pass,result⟩ := ih (s := s.newServer d)
            (show (p :: olds).length + news.length < fuel by rw [List.length_cons]; omega) (newKnown s _ known below)
            (fun q member => Nat.lt_succ_of_lt (below q member))
          refine ⟨kept,deleted,d :: added,
            .add (lt_of_le_of_ne (Nat.le_of_not_lt less) (Ne.symm equal)) pass,?_⟩
          have old (q : Nat) (member : q ∈ deleted) : q < s.nextContext :=
            below q (pass.olds_perm.symm.subset (List.mem_append_right kept member))
          rw [result,newServer_markDeletes old]
          rfl

/-! ## New connections -/

/-- The pool when the uninitialized servers have their connections. -/
def attached (s : Pool) (servers : List Nat) : Pool :=
  { s with
    contexts := fun p => (s.contexts p).map (fun context =>
      if p ∈ servers then
        { context with connection := some ⟨s.nextConnection + servers.idxOf p,false⟩ }
      else context)
    nextConnection := s.nextConnection + servers.length
    reconnectServerList := s.reconnectServerList ++ servers }

theorem attached_nil (s : Pool) : attached s [] = s := by
  simp [attached]

theorem newConnections_eq {servers : List Nat} (once : servers.Nodup)
    (blank : ∀ p ∈ servers, ∃ context, s.contexts p = some context ∧ context.connection = none) :
    Pool.newConnections servers s = some (attached s servers) := by
  induction servers generalizing s with
  | nil => rw [attached_nil,Pool.newConnections]
  | cons p rest ih =>
    obtain ⟨new,once⟩ := List.nodup_cons.mp once
    obtain ⟨⟨context,here,null⟩,blank⟩ := List.forall_mem_cons.mp blank
    have first : s.newConnection p = some (attached s [p]) := by
      rw [Pool.newConnection,here,Option.bind_eq_bind,Option.bind_some,if_neg (by simp [null])]
      congr 1
      refine Pool.ext rfl (funext fun q => ?_) rfl rfl rfl rfl rfl rfl rfl
      by_cases again : q = p
      · subst again
        simp [attached,here]
      · simp [attached,again]
    have later := ih (s := attached s [p]) once (fun q member => by
      obtain ⟨context,here,null⟩ := blank q member
      have other : q ≠ p := fun same => new (same ▸ member)
      exact ⟨context,by simp [attached,here,other],null⟩)
    rw [Pool.newConnections,first,Option.bind_eq_bind,Option.bind_some,later]
    congr 1
    refine Pool.ext rfl (funext fun q => ?_) rfl ?_ rfl rfl rfl rfl ?_
    · simp only [attached,Option.map_map]
      congr 1
      funext context
      by_cases again : q = p
      · subst again
        simp [new]
      · have index : (p :: rest).idxOf q = rest.idxOf q + 1 := List.idxOf_cons_ne _ (Ne.symm again)
        by_cases member : q ∈ rest
        · simp [again,member,index,Nat.add_assoc,Nat.add_comm 1]
        · simp [again,member]
    · simp [attached,Nat.add_assoc,Nat.add_comm 1]
    · simp [attached]

/-! ## The call of the listener -/

/-- The pool when a connection was closed by its peer and its context waits for the next `Tick`. -/
def peerClosed (s : Pool) (p : Nat) (context : ServerContext) (connection : TcpConnection) : Pool :=
  { s with
    contexts := Function.update s.contexts p (some { context with connection := some connection })
    closingServerList := s.closingServerList ++ [p] }

theorem onPeerClose_eq {p : Nat} {isOpen : Bool} (result : s.onPeerClose p isOpen = some s') :
    ∃ context n, s.contexts p = some context ∧ context.connection = some n ∧
      p ∉ s.closingServerList ∧ s' = peerClosed s p context { n with isOpen } := by
  rw [Pool.onPeerClose] at result
  cases here : s.contexts p with
  | none => simp [here] at result
  | some context =>
    cases linked : context.connection with
    | none => simp [here,linked] at result
    | some n =>
      simp only [here,linked,Option.bind_eq_bind,Option.bind_some] at result
      split at result
      · cases result
      · rename_i apart
        exact ⟨context,n,rfl,linked,(not_or.mp apart).1,(Option.some.inj result).symm⟩

end MiniPP.HashPool
