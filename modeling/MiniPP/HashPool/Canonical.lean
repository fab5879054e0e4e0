import MiniPP.HashPool.Runs

/-! After an update of the list and the next `Tick`, the pool is what the list says, whatever it
was before: only the connections of the servers that stayed are the old ones. -/
namespace MiniPP.HashPool

variable {sort : Pool.StdSort} {s s' : Pool} {source : List ServerInfo}

def infos (s : Pool) : List ServerInfo := s.activeServerList.map (infoOf s.contexts)

/-- There is a `Tick` between any two updates, and one before the first if an update is pending. -/
def Spaced : Bool → List Event → Prop
  | _, [] => True
  | pending, .updateServerList _ :: events => pending = false ∧ Spaced true events
  | _, .tick _ _ :: events => Spaced false events
  | pending, .peerClose _ _ :: events => Spaced pending events
  | pending, .postMessage _ _ _ :: events => Spaced pending events
  | pending, .clean :: events => Spaced pending events

/-- What can happen while an update waits for the `Tick`. -/
def Event.Quiet : Event → Prop
  | .peerClose _ _ | .postMessage _ _ _ => True
  | _ => False

/-- The server is in the new list as it is. Of servers with one id, the first counts. -/
def Stays (s : Pool) (source : List ServerInfo) (p : Nat) : Prop :=
  s.activeServerList.find? (fun q => Pool.serverIdOf s.contexts q = Pool.serverIdOf s.contexts p) =
    some p ∧ infoOf s.contexts p ∈ source

/-- From the pool before the update, through the one before the `Tick`, to the one behind it. -/
structure Canonical (source : List ServerInfo) (s waiting s' : Pool) (out : List Effect) : Prop where
  exact : (infos s').Perm source
  sorted : (infos s').Pairwise (fun a b => a.serverId < b.serverId)
  kept : ∀ p ∈ s.activeServerList, Stays s source p → p ∈ s'.activeServerList ∧
    ∃ n m, connectionOf s.contexts p = some n ∧ connectionOf s'.contexts p = some m ∧
      m.number = n.number
  closed : ∀ p ∈ s.activeServerList, ¬ Stays s source p → ∃ n m,
    connectionOf s.contexts p = some n ∧ connectionOf waiting.contexts p = some m ∧
      m.number = n.number ∧ out.filter (·.number = n.number) =
        (if m.isOpen then [.clean n.number] else []) ++ [.delete n.number]

/-! ## Between the update and the Tick -/

/-- Nothing but the closing list and the state of connections differs. -/
structure Alike (s s' : Pool) : Prop where
  contexts : ∀ p, (s'.contexts p).map shape = (s.contexts p).map shape
  active : s'.activeServerList = s.activeServerList
  uninitialized : s'.uninitializedServerList = s.uninitializedServerList
  deleted : s'.deleteServerList = s.deleteServerList

theorem Alike.trans {s'' : Pool} (first : Alike s s') (second : Alike s' s'') : Alike s s'' where
  contexts p := (second.contexts p).trans (first.contexts p)
  active := second.active.trans first.active
  uninitialized := second.uninitialized.trans first.uninitialized
  deleted := second.deleted.trans first.deleted

theorem step_quiet (valid : Valid s) {e : Event} (quiet : e.Quiet) {out : List Effect}
    (result : step sort s e = some (s',out)) : Alike s s' ∧ ∀ k, .delete k ∉ out := by
  have steps := step_steps valid result
  cases e with
  | updateServerList source => exact quiet.elim
  | tick now opens => exact quiet.elim
  | clean => exact quiet.elim
  | peerClose p isOpen =>
    obtain ⟨_,closed,same⟩ := Option.map_eq_some_iff.mp result
    cases same
    obtain ⟨context,n,here,linked,-,rfl⟩ := onPeerClose_eq closed
    exact ⟨⟨peerClosed_shape here linked isOpen,rfl,rfl,rfl⟩,fun _ => List.not_mem_nil⟩
  | postMessage hash isConnected packet =>
    obtain ⟨_,posted,same⟩ := Option.map_eq_some_iff.mp result
    cases same
    refine ⟨⟨fun _ => rfl,rfl,rfl,rfl⟩,fun k member => ?_⟩
    exact (steps.deleted k member).2 (steps.deleted k member).1

theorem run_quiet (valid : Valid s) {events : List Event} (quiet : ∀ e ∈ events, e.Quiet)
    {log : List Effect} (result : run sort s events = some (s',log)) :
    Alike s s' ∧ ∀ k, .delete k ∉ log := by
  induction events generalizing s log with
  | nil =>
    cases result
    exact ⟨⟨fun _ => rfl,rfl,rfl,rfl⟩,fun _ => List.not_mem_nil⟩
  | cons e events ih =>
    obtain ⟨first,rest⟩ := List.forall_mem_cons.mp quiet
    obtain ⟨middle,out,later,here,behind,rfl⟩ := run_cons.mp result
    obtain ⟨alike,clear⟩ := step_quiet valid first here
    obtain ⟨alike',clear'⟩ := ih (step_steps valid here).valid rest behind
    refine ⟨alike.trans alike',fun k member => ?_⟩
    rcases List.mem_append.mp member with now | behind
    · exact clear k now
    · exact clear' k behind

/-- No update is pending where the next one is allowed. -/
theorem spaced_settled {pending : Bool} {events : List Event} {log : List Effect} (valid : Valid s)
    (settled : pending = false → s.uninitializedServerList = [] ∧ s.deleteServerList = [])
    (spaced : Spaced pending (events ++ [.updateServerList source]))
    (result : run sort s events = some (s',log)) :
    s'.uninitializedServerList = [] ∧ s'.deleteServerList = [] := by
  induction events generalizing s pending log with
  | nil =>
    cases result
    exact settled spaced.1
  | cons e events ih =>
    obtain ⟨middle,out,later,here,behind,rfl⟩ := run_cons.mp result
    have next := (step_steps valid here).valid
    cases e with
    | updateServerList other => exact ih next (fun h => by cases h) spaced.2 behind
    | tick now opens =>
      obtain ⟨_,_,ticked,ticks⟩ := tick_eq sort valid now opens
      rw [step,ticked] at here
      cases here
      exact ih next (fun _ => ⟨ticks.drained.1,ticks.drained.2.1⟩) spaced behind
    | peerClose p isOpen =>
      obtain ⟨alike,-⟩ := step_quiet valid (show Event.Quiet (.peerClose p isOpen) from trivial) here
      exact ih next (fun h => by rw [alike.uninitialized,alike.deleted]; exact settled h) spaced behind
    | postMessage hash isConnected packet =>
      obtain ⟨alike,-⟩ := step_quiet valid
        (show Event.Quiet (.postMessage hash isConnected packet) from trivial) here
      exact ih next (fun h => by rw [alike.uninitialized,alike.deleted]; exact settled h) spaced behind
    | clean =>
      rw [step,clean_eq valid] at here
      cases here
      exact ih next (fun _ => ⟨rfl,rfl⟩) spaced behind

theorem Alike.infoOf (alike : Alike s s') (p : Nat) :
    infoOf s'.contexts p = infoOf s.contexts p := by
  have parts := congrArg (fun c => (c.map (·.1)).getD ⟨0,.unspecified⟩) (alike.contexts p)
  simpa [HashPool.infoOf,Function.comp_def,shape] using parts

/-! ## What the update makes of the lists -/

/-- The list as the merge reads it. -/
theorem sorted_source (sort : Pool.StdSort) (distinct : (source.map (·.serverId)).Nodup) :
    ((sort ServerInfo.serverId).sort source).Pairwise (fun a b => a.serverId < b.serverId) := by
  have perm := (sort ServerInfo.serverId).perm source
  have apart : (((sort ServerInfo.serverId).sort source).map (·.serverId)).Nodup :=
    (perm.map _).nodup_iff.mpr distinct
  rw [List.Nodup,List.pairwise_map] at apart
  exact apart.imp₂ (fun _ _ ne le => lt_of_le_of_ne le ne) ((sort ServerInfo.serverId).ordered source)

theorem mem_kept_iff (valid : Valid s) (distinct : (source.map (·.serverId)).Nodup)
    {kept deleted : List Nat} {added : List ServerInfo}
    (pass : Merges sort s source kept deleted added) {p : Nat} : p ∈ kept ↔ Stays s source p := by
  have order : s.activeServerList.Pairwise (fun p q =>
      (infoOf s.contexts p).serverId ≤ (infoOf s.contexts q).serverId) := by
    simpa only [serverIdOf_eq] using valid.order
  rw [pass.mem_kept_iff order (sorted_source sort distinct),Stays]
  simp only [serverIdOf_eq]
  refine and_congr_right fun _ => ?_
  constructor
  · rintro ⟨d,member,serverId,address⟩
    have same : infoOf s.contexts p = d := by
      cases d
      cases info : infoOf s.contexts p
      simp_all
    rw [same]
    exact ((sort ServerInfo.serverId).perm source).mem_iff.mp member
  · intro member
    exact ⟨_,((sort ServerInfo.serverId).perm source).mem_iff.mpr member,rfl,rfl⟩

theorem Ticks.infoOf {opens : Nat → Bool} {out : List Effect} (valid : Valid s)
    (ticks : Ticks s opens s' out) {p : Nat} (member : p ∈ s'.activeServerList) :
    infoOf s'.contexts p = infoOf s.contexts p := by
  rcases List.mem_append.mp (ticks.active.mem_iff.mp member) with active | new
  · obtain ⟨n,has⟩ := valid.connected p (List.mem_append_left _ active)
    obtain ⟨context,here,linked⟩ := connectionOf_eq_some.mp has
    rw [infoOf_eq (ticks.contexts_active valid active here linked),infoOf_eq here]
  · obtain ⟨d,here⟩ := valid.blank p new
    rw [infoOf_eq (ticks.contexts_new valid new here),infoOf_eq here]

theorem merged_infos_new (kept deleted : List Nat) (added : List ServerInfo) :
    (List.range' s.nextContext added.length).map (infoOf (merged s kept deleted added).contexts) =
      added := by
  refine List.ext_getElem (by simp) fun i low high => ?_
  have inside : s.nextContext + i ∈ List.range' s.nextContext added.length :=
    List.mem_range'_1.mpr ⟨Nat.le_add_right _ _,Nat.add_lt_add_left high _⟩
  obtain ⟨d,found,here⟩ := @merged_new s kept deleted added _ inside
  rw [List.getElem_map,List.getElem_range',Nat.one_mul,infoOf_eq here]
  rw [Nat.add_sub_cancel_left,List.getElem?_eq_getElem high] at found
  exact (Option.some.inj found).symm

/-- The kept servers are in the list as they are. -/
theorem infos_kept {kept : List Nat} {matched : List ServerInfo}
    (pairs : List.Forall₂ (fun p d => (infoOf s.contexts p).serverId = d.serverId ∧
      (infoOf s.contexts p).address = d.address) kept matched) :
    kept.map (infoOf s.contexts) = matched := by
  induction pairs with
  | nil => rfl
  | @cons p d kept matched same _ ih =>
    obtain ⟨serverId,address⟩ := same
    rw [List.map_cons,ih]
    congr 1
    cases d
    cases info : infoOf s.contexts p
    simp_all

/-! ## What is done with a connection that is deleted -/

theorem flatMap_single {α β : Type*} {f : α → List β} {list : List α} (once : list.Nodup) {a : α}
    (member : a ∈ list) (others : ∀ b ∈ list, b ≠ a → f b = []) : list.flatMap f = f a := by
  obtain ⟨front,back,rfl⟩ := List.append_of_mem member
  have middle := List.nodup_middle.mp once
  have new := (List.nodup_cons.mp middle).1
  have before : front.flatMap f = [] := List.flatMap_eq_nil_iff.mpr fun b inside =>
    others b (List.mem_append_left _ inside) (fun same => new (List.mem_append_left _ (same ▸ inside)))
  have behind : back.flatMap f = [] := List.flatMap_eq_nil_iff.mpr fun b inside =>
    others b (List.mem_append_right _ (List.mem_cons_of_mem a inside))
      (fun same => new (List.mem_append_right _ (same ▸ inside)))
  rw [List.flatMap_append,List.flatMap_cons,before,behind,List.nil_append,List.append_nil]

/-- The loops of `Tick` are about the connection of the context they visit. -/
def Own (body : ServerContext → TcpConnection → Option ServerContext × List Effect) : Prop :=
  ∀ context connection, ∀ e ∈ (body context connection).2, e.number = connection.number

theorem own_destroyServer : Own Pool.destroyServer := by
  intro context connection e member
  rcases mem_destroyServer member with rfl | rfl
  · rfl
  · rfl

theorem own_cleanConnection : Own Pool.cleanConnection := by
  intro context connection e member
  rw [List.mem_singleton.mp member]
  rfl

theorem own_initConnection (opens : Nat → Bool) : Own (Pool.initConnection opens) := by
  intro context connection e member
  rw [List.mem_singleton.mp member]
  rfl

theorem filter_effects {body : ServerContext → TcpConnection → Option ServerContext × List Effect}
    (own : Own body) {contexts : Contexts} {p k : Nat}
    (other : ∀ n, connectionOf contexts p = some n → n.number ≠ k) :
    (effects body contexts p).filter (·.number = k) = [] := by
  rw [List.filter_eq_nil_iff]
  intro e member
  have only : e ∈ [p].flatMap (effects body contexts) := by rwa [List.flatMap_singleton]
  obtain ⟨q,inside,context,n,here,linked,effect⟩ := mem_effects only
  cases List.mem_singleton.mp inside
  have differs := other n (connectionOf_eq_some.mpr ⟨context,here,linked⟩)
  rw [own context n e effect]
  simpa using differs

theorem Ticks.log_deleted {opens : Nat → Bool} {out : List Effect} (valid : Valid s)
    (ticks : Ticks s opens s' out) {p : Nat} (gone : p ∈ s.deleteServerList) {m : TcpConnection}
    (has : connectionOf s.contexts p = some m) : out.filter (·.number = m.number) =
      (if m.isOpen then [.clean m.number] else []) ++ [.delete m.number] := by
  obtain ⟨context,here,linked⟩ := connectionOf_eq_some.mp has
  have others (q : Nat) (differs : q ≠ p) (n : TcpConnection)
      (holds : connectionOf s.contexts q = some n) : n.number ≠ m.number :=
    fun same => differs (valid.numbers q p n m holds has same)
  have kept {q : Nat} (member : q ∈ s.closingServerList.filter (· ∉ s.deleteServerList)) : q ≠ p := by
    rintro rfl
    simpa [gone] using (List.mem_filter.mp member).2
  have destroyed : (s.deleteServerList.flatMap (effects Pool.destroyServer s.contexts)).filter
      (·.number = m.number) = effects Pool.destroyServer s.contexts p := by
    rw [List.filter_flatMap,flatMap_single valid.deleted_nodup gone]
    · rw [effects_eq here linked,List.filter_eq_self]
      intro e member
      simpa using own_destroyServer context m e member
    · intro q _ differs
      exact filter_effects own_destroyServer (others q differs)
  have cleaned : ((s.closingServerList.filter (· ∉ s.deleteServerList)).flatMap
      (effects Pool.cleanConnection s.contexts)).filter (·.number = m.number) = [] := by
    rw [List.filter_flatMap,List.flatMap_eq_nil_iff]
    intro q member
    exact filter_effects own_cleanConnection (others q (kept member))
  have opened : ((renewed s).flatMap (effects (Pool.initConnection opens)
      (attached s s.uninitializedServerList).contexts)).filter (·.number = m.number) = [] := by
    rw [List.filter_flatMap,List.flatMap_eq_nil_iff]
    intro q member
    refine filter_effects (own_initConnection opens) fun n holds => ?_
    rw [attached_connectionOf] at holds
    by_cases new : q ∈ s.uninitializedServerList
    · obtain ⟨d,blank⟩ := valid.blank q new
      have below := valid.numbersBelow p m has
      rw [if_pos new,blank,Option.map_some] at holds
      cases holds
      dsimp only
      omega
    · rw [if_neg new] at holds
      exact others q (kept ((List.mem_append.mp member).resolve_left new)) n holds
  rw [ticks.log,List.filter_append,List.filter_append,destroyed,cleaned,opened,List.append_nil,
    List.append_nil,effects_eq here linked]
  rfl

/-! ## The update and the Tick together -/

section Refresh

variable {kept deleted : List Nat} {added : List ServerInfo} {waiting : Pool} {opens : Nat → Bool}
  {out : List Effect} (valid : Valid s) (distinct : (source.map (·.serverId)).Nodup)
  (pass : Merges sort s source kept deleted added)
  (alike : Alike (merged s kept deleted added) waiting) (still : Valid waiting)
  (ticks : Ticks waiting opens s' out)
include valid pass alike still ticks

theorem refreshed_infos : (infos s').Perm source := by
  obtain ⟨matched,pairs,perm⟩ := pass.news_perm
  have below (p : Nat) (member : p ∈ kept) : p < s.nextContext :=
    valid.below p (active_listed (pass.kept_sublist.subset member))
  have old : kept.map (infoOf (merged s kept deleted added).contexts) = kept.map (infoOf s.contexts) := by
    refine List.map_congr_left fun p member => ?_
    rw [infoOf,merged_old (below p member),infoOf]
    cases s.contexts p with
    | none => rfl
    | some context => by_cases inside : p ∈ deleted <;> simp [inside]
  have lists : waiting.activeServerList ++ waiting.uninitializedServerList =
      kept ++ List.range' s.nextContext added.length := by rw [alike.active,alike.uninitialized]; rfl
  have renamed : infos s' = s'.activeServerList.map (infoOf (merged s kept deleted added).contexts) := by
    refine List.map_congr_left fun p member => ?_
    rw [ticks.infoOf still member,alike.infoOf]
  rw [renamed]
  refine (ticks.active.map _).trans ?_
  rw [lists,List.map_append,merged_infos_new,old,infos_kept pairs]
  exact perm.symm.trans ((sort ServerInfo.serverId).perm source)

include distinct in
/-- The connection of a server that left is closed, if it has to be, and deleted. -/
theorem refreshed_canonical : Canonical source s waiting s' out := by
  have perm := refreshed_infos valid pass alike still ticks
  have number {p : Nat} {n : TcpConnection} (has : connectionOf s.contexts p = some n) :
      ∃ m, connectionOf waiting.contexts p = some m ∧ m.number = n.number := by
    have same := numberOf_shape (alike.contexts p)
    rw [merged_connectionOf valid,has] at same
    exact Option.map_eq_some_iff.mp same
  constructor
  case exact => exact perm
  case sorted =>
    have apart : ((infos s').map (·.serverId)).Nodup := (perm.map _).nodup_iff.mpr distinct
    rw [List.Nodup,List.pairwise_map] at apart
    have order : (infos s').Pairwise (fun a b => a.serverId ≤ b.serverId) := by
      rw [infos,List.pairwise_map]
      simpa only [serverIdOf_eq] using ticks.order
    exact apart.imp₂ (fun _ _ ne le => lt_of_le_of_ne le ne) order
  case kept =>
    intro p active stays
    have inKept := (mem_kept_iff valid distinct pass).mpr stays
    have waits : p ∈ waiting.activeServerList := by
      rw [alike.active]
      exact inKept
    obtain ⟨n,has⟩ := valid.connected p (List.mem_append_left _ active)
    obtain ⟨m,between,same⟩ := number has
    obtain ⟨context,here,linked⟩ := connectionOf_eq_some.mp between
    exact ⟨ticks.active.mem_iff.mpr (List.mem_append_left _ waits),n,
      ⟨m.number,if p ∈ waiting.closingServerList then opens m.number else m.isOpen⟩,has,
      connectionOf_eq_some.mpr ⟨_,ticks.contexts_active still waits here linked,rfl⟩,same⟩
  case closed =>
    intro p active leaves
    obtain ⟨n,has⟩ := valid.connected p (List.mem_append_left _ active)
    obtain ⟨m,between,same⟩ := number has
    have gone : p ∈ waiting.deleteServerList := by
      rw [alike.deleted]
      refine (List.mem_append.mp (pass.olds_perm.mem_iff.mp active)).resolve_left fun inKept => ?_
      exact leaves ((mem_kept_iff valid distinct pass).mp inKept)
    refine ⟨n,m,has,between,same,?_⟩
    rw [← same]
    exact ticks.log_deleted still gone between

end Refresh

/-- A run to the `Tick` behind an update with the list. -/
def Refreshed (sort : Pool.StdSort) (source : List ServerInfo) (s' : Pool) : Prop :=
  ∃ events s past updated between waiting middle now opens out,
    Spaced false (events ++ [.updateServerList source]) ∧
    run sort .empty events = some (s,past) ∧ s.updateServerList sort source = some updated ∧
    (∀ e ∈ between, e.Quiet) ∧ run sort updated between = some (waiting,middle) ∧
    waiting.tick sort now opens = some (s',out)

/-- The server that a hash is sent to. -/
def routed (s : Pool) (hash : Nat) : Option Nat := (s.route hash).map (Pool.serverIdOf s.contexts)

/-- No assertion fails in the update or in the `Tick` that follows, which leaves exactly the new
list. No connection is deleted twice, whatever comes later, and a hash chooses the same server
in every pool that was given the list. -/
def UpdatesCanonically (sort : Pool.StdSort) (source : List ServerInfo) (s : Pool)
    (past : List Effect) : Prop :=
  ∃ updated, s.updateServerList sort source = some updated ∧
    ∀ between waiting middle, (∀ e ∈ between, e.Quiet) →
      run sort updated between = some (waiting,middle) → ∀ now opens, ∃ s' out,
        waiting.tick sort now opens = some (s',out) ∧ Canonical source s waiting s' out ∧
        (∀ later s'' rest, run sort s' later = some (s'',rest) →
          ∀ p ∈ s.activeServerList, ¬ Stays s source p → ∀ n, connectionOf s.contexts p = some n →
            (past ++ (middle ++ (out ++ rest))).count (.delete n.number) = 1) ∧
        ∀ (sort' : Pool.StdSort) source' t, source'.Perm source → Refreshed sort' source' t →
          ∀ hash, routed s' hash = routed t hash

/-! ## Any run -/

theorem refresh_canonical {events between : List Event} {past middle out : List Effect}
    {updated waiting : Pool} {now : Nat} {opens : Nat → Bool}
    (spaced : Spaced false (events ++ [.updateServerList source]))
    (distinct : (source.map (·.serverId)).Nodup) (before : run sort .empty events = some (s,past))
    (update : s.updateServerList sort source = some updated) (quiet : ∀ e ∈ between, e.Quiet)
    (waits : run sort updated between = some (waiting,middle))
    (ticked : waiting.tick sort now opens = some (s',out)) : Canonical source s waiting s' out := by
  have valid := run_valid valid_empty before
  obtain ⟨settled,done⟩ := spaced_settled valid_empty (fun _ => ⟨rfl,rfl⟩) spaced before
  obtain ⟨kept,deleted,added,pass,result⟩ := updateServerList_eq sort valid settled done source
  rw [update] at result
  cases result
  have still := valid_merged valid settled done pass
  obtain ⟨alike,-⟩ := run_quiet still quiet waits
  have waited := run_valid still waits
  obtain ⟨_,_,same,ticks⟩ := tick_eq sort waited now opens
  rw [ticked] at same
  cases same
  exact refreshed_canonical valid distinct pass alike waited ticks

theorem routed_eq (s : Pool) (hash : Nat) :
    routed s hash = ((infos s)[hash % (infos s).length]?).map (·.serverId) := by
  rw [routed,Pool.route,infos,List.length_map,List.getElem?_map,Option.map_map]
  congr 1
  funext p
  exact serverIdOf_eq s.contexts p

theorem Canonical.routed {source' : List ServerInfo} {s₁ s₂ w₁ w₂ t₁ t₂ : Pool} {out₁ out₂ : List Effect}
    (one : Canonical source s₁ w₁ t₁ out₁) (other : Canonical source' s₂ w₂ t₂ out₂)
    (perm : source'.Perm source) (hash : Nat) : routed t₁ hash = routed t₂ hash := by
  have same : infos t₁ = infos t₂ := by
    refine List.Perm.eq_of_pairwise ?_ one.sorted other.sorted (one.exact.trans (perm.symm.trans other.exact.symm))
    intro a b _ _ less less'
    exact absurd (less.trans less') (lt_irrefl _)
  rw [routed_eq,routed_eq,same]

/-- For any run in which no two updates come without a `Tick` between them. -/
theorem update_canonical {events : List Event} {past : List Effect}
    (spaced : Spaced false (events ++ [.updateServerList source]))
    (distinct : (source.map (·.serverId)).Nodup)
    (before : run sort .empty events = some (s,past)) : UpdatesCanonically sort source s past := by
  have valid := run_valid valid_empty before
  obtain ⟨settled,done⟩ := spaced_settled valid_empty (fun _ => ⟨rfl,rfl⟩) spaced before
  obtain ⟨kept,deleted,added,pass,update⟩ := updateServerList_eq sort valid settled done source
  refine ⟨_,update,fun between waiting middle quiet waits now opens => ?_⟩
  have still := valid_merged valid settled done pass
  have waited := run_valid still waits
  obtain ⟨s',out,ticked,ticks⟩ := tick_eq sort waited now opens
  have canonical := refresh_canonical spaced distinct before update quiet waits ticked
  refine ⟨s',out,ticked,canonical,?_,?_⟩
  · intro later s'' rest afterwards p active leaves n has
    obtain ⟨n',m,has',between',number,log⟩ := canonical.closed p active leaves
    cases has.symm.trans has'
    have held : Holds waiting n.number := ⟨p,m,between',number⟩
    have steps := ticks.steps waited
    -- Before the `Tick` the connection is held, and behind it nothing is.
    have earlier : Effect.delete n.number ∉ past := run_undeleted before ⟨p,n,has,rfl⟩
    have quietly : Effect.delete n.number ∉ middle := (run_quiet still quiet waits).2 n.number
    have once : out.count (.delete n.number) = 1 := by
      have counted := List.count_filter (l := out) (p := fun e => e.number = n.number)
        (a := .delete n.number) (by simp [Effect.number])
      rw [← counted,log]
      cases m.isOpen <;> simp
    have dropped := steps.deleted n.number (List.count_pos_iff.mp (by omega))
    have gone := run_gone steps.valid dropped.2 ((waited.holds_below held).trans_le steps.grows) afterwards
    have never : Effect.delete n.number ∉ rest := fun member => gone _ member rfl
    rw [List.count_append,List.count_append,List.count_append,List.count_eq_zero.mpr earlier,
      List.count_eq_zero.mpr quietly,once,List.count_eq_zero.mpr never]
  · rintro sort' source' t perm ⟨events',s₂,past',updated',between',waiting',middle',now',opens',out',
      spaced',before',update',quiet',waits',ticked'⟩ hash
    have distinct' : (source'.map (·.serverId)).Nodup := (perm.map _).nodup_iff.mpr distinct
    exact canonical.routed (refresh_canonical spaced' distinct' before' update' quiet' waits' ticked') perm hash

/-! ## A concrete run -/

def stdSort : Pool.StdSort := fun key => .insertion key

def host (port : Nat) : NetAddress := ⟨.ipv4,[10,0,0,1],port⟩

def firstList : List ServerInfo := [⟨5,host 50⟩,⟨2,host 20⟩,⟨3,host 30⟩]

/-- One server leaves, one moves and one is new. -/
def nextList : List ServerInfo := [⟨4,host 40⟩,⟨2,host 20⟩,⟨3,host 31⟩]

def firstRun : List Event := [.updateServerList firstList,.tick 1 (fun _ => true)]

theorem update_canonical_moved : ∃ s past, run stdSort .empty firstRun = some (s,past) ∧
    infos s = [⟨2,host 20⟩,⟨3,host 30⟩,⟨5,host 50⟩] ∧ UpdatesCanonically stdSort nextList s past := by
  have spaced : Spaced false (firstRun ++ [.updateServerList nextList]) := ⟨rfl,rfl,trivial⟩
  exact ⟨_,_,rfl,by decide,update_canonical spaced (by decide) rfl⟩

end MiniPP.HashPool
