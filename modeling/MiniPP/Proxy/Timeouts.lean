import Mathlib.Data.List.Count
import MiniPP.Proxy.Guarantees
import MiniPP.Proxy.Lists

/-! How long a client may stay without an account. The list of accounts holds whoever has
not passed an authentication, in the order of acceptance; a tick cuts it off at the age
that is allowed. -/
namespace MiniPP.Proxy

variable {keys : KeySource}

/-- A verdict was delivered while the connection waited for one. -/
def Passed (c : Nat) (log : List ServerAction) : Prop :=
  ∃ before v request after, history c log = before ++ entries (.authResult (some v))
    [.removeAccountTimeout,.keepAlive,.postDeviceRequest request] ++ after

/-- The connections that an event accepts, with the time at which it does. -/
def watchAccepted (cfg : Config) (s : Server keys) (e : ServerEvent) (accepted : List (Nat × Nat)) :
    List (Nat × Nat) :=
  accepted ++ (s.step cfg e).2.filterMap (fun
    | .accepted c => some (c,s.ticker)
    | _ => none)

/-- The server with a record of when it accepted each connection. -/
def timedServer (cfg : Config) (keys : KeySource) :
    Machine (Server keys × List (Nat × Nat)) ServerEvent ServerAction :=
  (serverMachine cfg keys).withGhost [] (watchAccepted cfg)

/-- The clock never goes back. -/
def Clocked (s : Server keys × List (Nat × Nat)) (_ : List ServerAction) (e : ServerEvent) : Prop :=
  ∀ nowMS, e = .clientTick nowMS → s.1.ticker ≤ nowMS

structure AccountInvariant (s : Server keys) (accepted : List (Nat × Nat)) (log : List ServerAction) :
    Prop where
  lists : s.ListInvariant
  sorted : s.accountTimeoutList.Pairwise (fun a b => a.2 ≤ b.2)
  past : ∀ entry ∈ s.accountTimeoutList, entry ∈ accepted ∧ entry.2 ≤ s.ticker
  waiting : ∀ c, s.connectionPool.find? c ≠ none →
    Passed c log ∨ c ∈ s.accountTimeoutList.map Prod.fst
  issued : ∀ entry ∈ accepted, s.connectionPool.Issued entry.1
  once : (accepted.map Prod.fst).Nodup
  cleaned : ∀ c, log.count (.cleaned c) ≤ 1 ∧
    (s.connectionPool.find? c ≠ none ∨ ¬ s.connectionPool.Issued c → log.count (.cleaned c) = 0)

theorem Passed.append {c : Nat} {log : List ServerAction} (passed : Passed c log)
    (out : List ServerAction) : Passed c (log ++ out) := by
  obtain ⟨before,v,request,after,split⟩ := passed
  exact ⟨before,v,request,after ++ history c out,by rw [history_append,split,List.append_assoc]⟩

/-- What a sorted list keeps is not old enough. -/
theorem not_timedOut {list : List (Nat × Nat)} {limit : Nat}
    (sorted : list.Pairwise (fun a b => a.2 ≤ b.2)) {entry : Nat × Nat} (member : entry ∈ list)
    (left : entry.1 ∉ Server.timedOut list limit) : limit ≤ entry.2 := by
  induction list with
  | nil => simp at member
  | cons first rest ih =>
    obtain ⟨least,sorted⟩ := List.pairwise_cons.mp sorted
    by_cases old : first.2 < limit
    · have cut : Server.timedOut (first :: rest) limit = first.1 :: Server.timedOut rest limit := by
        simp [Server.timedOut,old]
      rw [cut,List.mem_cons,not_or] at left
      rcases List.mem_cons.mp member with rfl | later
      · exact absurd rfl left.1
      · exact ih sorted later left.2
    · rcases List.mem_cons.mp member with rfl | later
      · omega
      · have := least entry later
        omega

/-! ## Events -/

theorem deliver_uncleaned (cfg : Config) (s : Server keys) (c c' : Nat) (e : ConnEvent) :
    (s.deliver cfg c' e).2.count (.cleaned c) = 0 := by
  rw [List.count_eq_zero]
  intro member
  rcases Server.deliver_actions _ member with same | ⟨x,same⟩ | ⟨b,same⟩ <;> cases same

theorem deliver_accounts (cfg : Config) {s : Server keys} {c : Nat} {conn : ClientConnection}
    (found : s.connectionPool.find? c = some conn) (e : ConnEvent) :
    (s.deliver cfg c e).1.accountTimeoutList =
      if .removeAccountTimeout ∈ (handle cfg conn e).effects then dropEntry s.accountTimeoutList c
      else s.accountTimeoutList := by
  simp only [Server.deliver,found,Server.performAll_accounts]

theorem account_deliver {cfg : Config} {s : Server keys} {accepted : List (Nat × Nat)}
    {log : List ServerAction} (valid : AccountInvariant s accepted log) (c : Nat) (e : ConnEvent) :
    AccountInvariant (s.deliver cfg c e).1 accepted (log ++ (s.deliver cfg c e).2) := by
  cases found : s.connectionPool.find? c with
  | none =>
    have nothing : s.deliver cfg c e = (s,[]) := by simp [Server.deliver,found]
    rw [nothing]
    simpa using valid
  | some conn =>
    have pool := deliver_pool cfg s c e found
    have accounts := deliver_accounts cfg found e
    have live (other : Nat) : (s.deliver cfg c e).1.connectionPool.find? other ≠ none ↔
        s.connectionPool.find? other ≠ none := by
      rw [pool,Storage.find?_modify]
      by_cases same : other = c <;> simp [same,found]
    have part : (s.deliver cfg c e).1.accountTimeoutList.Sublist s.accountTimeoutList := by
      rw [accounts]
      split
      · exact List.filter_sublist
      · exact List.Sublist.refl _
    refine ⟨Server.deliver_lists valid.lists c e,valid.sorted.sublist part,?past,?waiting,?issued,
      valid.once,?cleaned⟩
    case past =>
      intro entry member
      rw [Server.deliver_ticker]
      exact valid.past entry (part.subset member)
    case waiting =>
      intro other known
      rcases valid.waiting other ((live other).mp known) with passed | listed
      · exact .inl (passed.append _)
      · by_cases removed : .removeAccountTimeout ∈ (handle cfg conn e).effects
        · by_cases same : other = c
          · obtain ⟨v,request,rfl,effects⟩ := removal_cause removed
            refine .inl ⟨history c log,v,request,[],?_⟩
            rw [same,history_append,history_deliver_own found,effects,List.append_nil]
          · rw [accounts,if_pos removed,map_dropEntry]
            exact .inr (mem_without.mpr ⟨listed,same⟩)
        · rw [accounts,if_neg removed]
          exact .inr listed
    case issued =>
      intro entry member
      rw [pool]
      exact valid.issued entry member
    case cleaned =>
      intro other
      rw [List.count_append,deliver_uncleaned,live,pool]
      exact valid.cleaned other

theorem account_newConnection {s : Server keys} {accepted : List (Nat × Nat)} {log : List ServerAction}
    (valid : AccountInvariant s accepted log) (remoteIp : Bytes) :
    AccountInvariant (s.onNewConnection remoteIp).1
      (accepted ++ (s.onNewConnection remoteIp).2.filterMap (fun
        | .accepted c => some (c,s.ticker)
        | _ => none)) (log ++ (s.onNewConnection remoteIp).2) := by
  have lists := Server.newConnection_lists valid.lists remoteIp
  cases acquired : s.connectionPool.acquire (fun id => { connectionId := id, remoteIp }) with
  | none =>
    have nothing : s.onNewConnection remoteIp = (s,[]) := by simp [Server.onNewConnection,acquired]
    rw [nothing]
    simpa using valid
  | some pair =>
    obtain ⟨id,pool⟩ := pair
    have born : s.onNewConnection remoteIp =
        ({ s with connectionPool := pool, accountTimeoutList := s.accountTimeoutList ++ [(id,s.ticker)] },
          [.accepted id]) := by
      simp [Server.onNewConnection,acquired]
    have fresh := (Storage.acquired_fresh acquired).2
    rw [born] at lists ⊢
    refine ⟨lists,?sorted,?past,?waiting,?issued,?once,?cleaned⟩
    case sorted =>
      refine List.pairwise_append.mpr ⟨valid.sorted,List.pairwise_singleton _ _,?_⟩
      intro entry member last newest
      obtain rfl : last = (id,s.ticker) := by simpa using newest
      exact (valid.past entry member).2
    case past =>
      intro entry member
      rcases List.mem_append.mp member with old | new
      · exact ⟨List.mem_append_left _ (valid.past entry old).1,(valid.past entry old).2⟩
      · obtain rfl : entry = (id,s.ticker) := by simpa using new
        exact ⟨by simp,Nat.le_refl _⟩
    case waiting =>
      intro c known
      rw [Storage.find?_acquire acquired] at known
      by_cases same : c = id
      · exact .inr (by simp [same])
      · rw [if_neg same] at known
        rcases valid.waiting c known with passed | listed
        · exact .inl (passed.append _)
        · exact .inr (by simp [same,listed])
    case issued =>
      intro entry member
      rw [Storage.issued_acquire acquired]
      rcases List.mem_append.mp member with old | new
      · exact .inr (valid.issued entry old)
      · obtain rfl : entry = (id,s.ticker) := by simpa using new
        exact .inl rfl
    case once =>
      rw [List.map_append]
      refine List.nodup_append.mpr ⟨valid.once,by simp,?_⟩
      rintro c old _ new rfl
      obtain rfl : c = id := by simpa using new
      obtain ⟨entry,member,rfl⟩ := List.mem_map.mp old
      exact fresh (valid.issued entry member)
    case cleaned =>
      intro c
      obtain ⟨once,none⟩ := valid.cleaned c
      have same : (log ++ [ServerAction.accepted id]).count (.cleaned c) = log.count (.cleaned c) := by
        simp [List.count_append]
      rw [same,Storage.issued_acquire acquired,Storage.find?_acquire acquired]
      refine ⟨once,?_⟩
      rintro (known | never)
      · by_cases here : c = id
        · exact none (.inr (here ▸ fresh))
        · exact none (.inl (by simpa [here] using known))
      · exact none (.inr (fun issued => never (.inr issued)))

/-- What a tick leaves is young, or has passed. -/
theorem account_tick {s : Server keys} {accepted : List (Nat × Nat)} {log : List ServerAction}
    (valid : AccountInvariant s accepted log) :
    AccountInvariant s.onTick.1 accepted (log ++ s.onTick.2) := by
  rw [Server.onTick_eq]
  have overdue := Server.overdue_linked valid.lists
  obtain ⟨pool,ticker,accounts,-,-,out⟩ := Server.cleanupAll_spec s s.overdue
  have part : (s.cleanupAll s.overdue).1.accountTimeoutList.Sublist s.accountTimeoutList := by
    rw [accounts]
    exact List.filter_sublist
  refine ⟨Server.cleanupAll_lists valid.lists _,valid.sorted.sublist part,?past,?waiting,?issued,
    valid.once,?cleaned⟩
  case past =>
    intro entry member
    rw [ticker]
    exact valid.past entry (part.subset member)
  case waiting =>
    intro c known
    rw [pool] at known
    split at known
    · exact absurd rfl known
    · rename_i stays
      rcases valid.waiting c known with passed | listed
      · exact .inl (passed.append _)
      · rw [accounts,Server.filter_cleaned]
        exact .inr (List.mem_filter.mpr ⟨listed,by simpa using stays⟩)
  case issued =>
    intro entry member
    exact (Server.issued_cleanupAll s _ _).mpr (valid.issued entry member)
  case cleaned =>
    intro c
    obtain ⟨once,none⟩ := valid.cleaned c
    have count : (s.overdue.map ServerAction.cleaned).count (.cleaned c) = s.overdue.count c :=
      List.count_map_of_injective _ _ (fun _ _ same => ServerAction.cleaned.inj same) c
    rw [List.count_append,out,count,pool,Server.issued_cleanupAll]
    by_cases late : c ∈ s.overdue
    · have before := none (.inl (overdue.live c late))
      have one : s.overdue.count c = 1 := List.count_eq_one_of_mem overdue.nodup late
      have issued : s.connectionPool.Issued c := by
        obtain ⟨conn,found⟩ := Option.ne_none_iff_exists'.mp (overdue.live c late)
        exact Storage.issued_of_find? found
      simp [before,one,late,issued]
    · have zero : s.overdue.count c = 0 := List.count_eq_zero.mpr late
      rw [zero,if_neg late]
      exact ⟨once,none⟩

/-! ## Runs -/

/-- Only a new connection is accepted. -/
theorem watchAccepted_old (cfg : Config) (s : Server keys) (accepted : List (Nat × Nat)) {e : ServerEvent}
    (old : ∀ remoteIp, e ≠ .newConnection remoteIp) : watchAccepted cfg s e accepted = accepted := by
  have none : ∀ c, .accepted c ∉ [] ++ (s.step cfg e).2 := by
    apply Server.step_induction (I := fun _ log => ∀ c, .accepted c ∉ log) [] e (by simp)
    · exact fun remoteIp same => absurd same (old remoteIp)
    · intro s log c received before _ other member
      rcases List.mem_append.mp member with earlier | now
      · exact before other earlier
      · rcases Server.deliver_actions _ now with same | ⟨x,same⟩ | ⟨b,same⟩ <;> cases same
    · simp
    · intro nowMS _ c
      rw [Server.onTick_eq,(Server.cleanupAll_spec _ _).2.2.2.2.2]
      simp
  unfold watchAccepted
  rw [List.filterMap_eq_nil_iff.mpr,List.append_nil]
  intro a member
  cases a with
  | accepted c => exact absurd member (by simpa using none c)
  | _ => rfl

theorem account_step {cfg : Config} {s : Server keys} {accepted : List (Nat × Nat)}
    {log : List ServerAction} (valid : AccountInvariant s accepted log) (e : ServerEvent)
    (clocked : Clocked (s,accepted) log e) :
    AccountInvariant (s.step cfg e).1 (watchAccepted cfg s e accepted) (log ++ (s.step cfg e).2) := by
  by_cases born : ∃ remoteIp, e = .newConnection remoteIp
  · obtain ⟨remoteIp,rfl⟩ := born
    by_cases aborted : s.aborted
    · simpa [watchAccepted,Server.step,aborted] using valid
    · simpa [watchAccepted,Server.step,aborted] using account_newConnection valid remoteIp
  · rw [watchAccepted_old cfg s accepted (fun remoteIp same => born ⟨remoteIp,same⟩)]
    apply Server.step_induction (I := fun s log => AccountInvariant s accepted log) log e valid
    · exact fun remoteIp same => absurd ⟨remoteIp,same⟩ born
    · exact fun s log c received before _ => account_deliver before c received
    · intro cache actions
      have count (c : Nat) : (log ++ actions.map ServerAction.auth).count (.cleaned c) =
          log.count (.cleaned c) := by
        have none : ServerAction.cleaned c ∉ actions.map ServerAction.auth := by simp
        rw [List.count_append,List.count_eq_zero.mpr none,Nat.add_zero]
      exact { valid with
        lists := valid.lists.mono (fun _ known => known) rfl rfl rfl
        waiting := fun c known => (valid.waiting c known).imp_left (Passed.append · _)
        cleaned := fun c => (count c).symm ▸ valid.cleaned c }
    · intro nowMS same
      have later := clocked nowMS same
      apply account_tick (s := { s with ticker := nowMS })
      exact { valid with
        lists := valid.lists.mono (fun _ known => known) rfl rfl rfl
        past := fun entry member =>
          ⟨(valid.past entry member).1,Nat.le_trans (valid.past entry member).2 later⟩ }

theorem account_invariant {cfg : Config} {s : Server keys} {accepted : List (Nat × Nat)}
    {log : List ServerAction} (reach : (timedServer cfg keys).Reach Clocked (s,accepted) log) :
    AccountInvariant s accepted log := by
  apply reach.invariant (I := fun s log => AccountInvariant s.1 s.2 log)
  · rintro ⟨s,accepted⟩ ⟨⟨ticker,connectionPoolSize,cachePoolSize,start⟩,blank⟩
    obtain rfl : s = .init keys ticker connectionPoolSize cachePoolSize := start
    obtain rfl : accepted = [] := blank
    refine ⟨Server.init_lists _ _ _,.nil,?_,?_,?_,.nil,?_⟩ <;> simp [Server.init]
  · rintro ⟨s,accepted⟩ log e _ clocked valid
    exact account_step valid e clocked

/-- In every run with a clock that does not go back, what a tick leaves in the pool has passed
an authentication, or was accepted no longer ago than the check may take; and no connection
is cleaned up twice. -/
theorem unauthenticated_bounded {cfg : Config} {s : Server keys} {accepted : List (Nat × Nat)}
    {log : List ServerAction} (reach : (timedServer cfg keys).Reach Clocked (s,accepted) log) :
    (s.aborted = false → ∀ nowMS, s.ticker ≤ nowMS → ∀ c,
      (s.step cfg (.clientTick nowMS)).1.connectionPool.find? c ≠ none →
        Passed c log ∨ ∃ t, (c,t) ∈ accepted ∧ nowMS ≤ t + maxAccountCheckTimeout) ∧
    (accepted.map Prod.fst).Nodup ∧ ∀ c, log.count (.cleaned c) ≤ 1 := by
  have valid := account_invariant reach
  refine ⟨?_,valid.once,fun c => (valid.cleaned c).1⟩
  intro running nowMS later c known
  have tick : s.step cfg (.clientTick nowMS) = { s with ticker := nowMS }.onTick := by
    simp [Server.step,running]
  rw [tick,Server.onTick_eq,(Server.cleanupAll_spec _ _).1] at known
  split at known
  · exact absurd rfl known
  · rename_i stays
    apply (valid.waiting c known).imp_right
    intro listed
    obtain ⟨entry,member,rfl⟩ := List.mem_map.mp listed
    refine ⟨entry.2,(valid.past entry member).1,?_⟩
    have young : sub64 nowMS maxAccountCheckTimeout ≤ entry.2 := by
      apply not_timedOut valid.sorted member
      intro cut
      apply stays
      simp only [Server.overdue,List.mem_append]
      exact .inl (.inl cut)
    unfold sub64 at young
    split at young <;> omega

/-- A client connects and says nothing. -/
theorem unauthenticated_bounded_silent :
    let run := (timedServer referenceConfig .sequential).run (.init .sequential 1000000 8 8,[])
      [.newConnection (ascii "1")]
    (run.1.1.step referenceConfig (.clientTick 1003000)).1.connectionPool.find? 1 ≠ none ∧
    (Passed 1 run.2 ∨ ∃ t, (1,t) ∈ run.1.2 ∧ 1003000 ≤ t + maxAccountCheckTimeout) ∧
    (run.1.1.step referenceConfig (.clientTick 1003001)).1.connectionPool.find? 1 = none := by
  have start : (timedServer referenceConfig .sequential).start (.init .sequential 1000000 8 8,[]) :=
    ⟨⟨_,_,_,rfl⟩,rfl⟩
  have clocked : (timedServer referenceConfig .sequential).Allowed Clocked
      (.init .sequential 1000000 8 8,[]) [] [.newConnection (ascii "1")] := ⟨by simp [Clocked],trivial⟩
  have reach := Machine.Reach.run (.start start) [.newConnection (ascii "1")] clocked
  refine ⟨by decide,?_,by decide⟩
  exact (unauthenticated_bounded reach).1 (by decide) 1003000 (by decide) 1 (by decide)

end MiniPP.Proxy
