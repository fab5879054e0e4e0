import MiniPP.Proxy.ServerSteps

/-! The lists that connections of the server are linked in: which ids they hold, what an
event does to them, and what a tick takes off them. -/
namespace MiniPP.Proxy

variable {keys : KeySource}

@[simp] theorem map_dropEntry (list : List (Nat × Nat)) (c : Nat) :
    (dropEntry list c).map Prod.fst = without (list.map Prod.fst) c := by
  simp [dropEntry,without,List.filter_map,Function.comp_def]

namespace Server

/-- Linked in the kill list or in the linger-kill list. -/
def Doomed (s : Server keys) (c : Nat) : Prop :=
  c ∈ s.killConnectionList ∨ c ∈ s.lingerKillConnectionList.map Prod.fst

/-- A list of live connections, each linked once. -/
structure Linked (pool : Storage keys ClientConnection) (ids : List Nat) : Prop where
  nodup : ids.Nodup
  live : ∀ c ∈ ids, pool.find? c ≠ none

structure ListInvariant (s : Server keys) : Prop where
  accounts : Linked s.connectionPool (s.accountTimeoutList.map Prod.fst)
  lingering : Linked s.connectionPool (s.lingerKillConnectionList.map Prod.fst)
  killed : Linked s.connectionPool s.killConnectionList

section Linked

variable {pool pool' : Storage keys ClientConnection} {ids : List Nat}

theorem Linked.mono (linked : Linked pool ids)
    (kept : ∀ c, pool.find? c ≠ none → pool'.find? c ≠ none) : Linked pool' ids :=
  ⟨linked.nodup,fun c member => kept c (linked.live c member)⟩

theorem Linked.sublist (linked : Linked pool ids) {part : List Nat} (sub : part.Sublist ids) :
    Linked pool part := ⟨linked.nodup.sublist sub,fun c member => linked.live c (sub.subset member)⟩

theorem Linked.without (linked : Linked pool ids) (c : Nat) : Linked pool (without ids c) :=
  linked.sublist List.filter_sublist

theorem Linked.toTail (linked : Linked pool ids) {c : Nat} (found : pool.find? c ≠ none) :
    Linked pool (toTail ids c) := by
  refine ⟨nodup_toTail linked.nodup c,?_⟩
  intro other member
  rcases mem_toTail.mp member with ⟨old,-⟩ | rfl
  · exact linked.live other old
  · exact found

end Linked

theorem ListInvariant.mono {s s' : Server keys} (lists : s.ListInvariant)
    (kept : ∀ c, s.connectionPool.find? c ≠ none → s'.connectionPool.find? c ≠ none)
    (accounts : s'.accountTimeoutList = s.accountTimeoutList)
    (lingering : s'.lingerKillConnectionList = s.lingerKillConnectionList)
    (killed : s'.killConnectionList = s.killConnectionList) : s'.ListInvariant :=
  ⟨accounts ▸ lists.accounts.mono kept,lingering ▸ lists.lingering.mono kept,
    killed ▸ lists.killed.mono kept⟩

/-! ## Effects -/

theorem perform_pool (s : Server keys) (c : Nat) (x : Effect) :
    (s.perform c x).1.connectionPool = s.connectionPool := (performed s c x).pool

@[simp] theorem perform_ticker (s : Server keys) (c : Nat) (x : Effect) :
    (s.perform c x).1.ticker = s.ticker := by cases x <;> rfl

/-- An effect keeps the lists, takes the connection off the accounts, or moves its kill node. -/
theorem perform_accounts (s : Server keys) (c : Nat) (x : Effect) :
    (s.perform c x).1.accountTimeoutList = if x = .removeAccountTimeout then
      dropEntry s.accountTimeoutList c else s.accountTimeoutList := by
  cases x <;> rfl

theorem perform_lists {s : Server keys} (lists : s.ListInvariant) {c : Nat}
    (found : s.connectionPool.find? c ≠ none) (x : Effect) : (s.perform c x).1.ListInvariant := by
  obtain ⟨accounts,lingering,killed⟩ := lists
  cases x with
  | kill =>
    refine ⟨accounts,?_,killed.toTail found⟩
    simpa [perform] using lingering.without c
  | lingerKill =>
    refine ⟨accounts,?_,killed.without c⟩
    simpa [perform,toTail] using lingering.toTail found
  | removeAccountTimeout =>
    refine ⟨?_,lingering,killed⟩
    simpa [perform] using accounts.without c
  | _ => exact ⟨accounts,lingering,killed⟩

/-- Two effects link a connection in a kill list, and none takes it off both. -/
theorem perform_doomed (s : Server keys) (c c' : Nat) (x : Effect) :
    (s.perform c x).1.Doomed c' ↔ s.Doomed c' ∨ c' = c ∧ (x = .kill ∨ x = .lingerKill) := by
  unfold Doomed
  cases x with
  | kill => grind [perform,map_dropEntry]
  | lingerKill => grind [perform,map_dropEntry]
  | _ => simp [perform]

/-! ## Lists of effects -/

@[simp] theorem performAll_ticker (s : Server keys) (c : Nat) (effects : List Effect) :
    (s.performAll c effects).1.ticker = s.ticker := by
  induction effects generalizing s with
  | nil => rfl
  | cons x rest ih => exact (ih _).trans (perform_ticker s c x)

theorem performAll_lists {s : Server keys} (lists : s.ListInvariant) {c : Nat}
    (found : s.connectionPool.find? c ≠ none) (effects : List Effect) :
    (s.performAll c effects).1.ListInvariant := by
  induction effects generalizing s with
  | nil => exact lists
  | cons x rest ih =>
    have still : (s.perform c x).1.connectionPool.find? c ≠ none := by
      rw [perform_pool]
      exact found
    exact ih (perform_lists lists found x) still

theorem performAll_accounts (s : Server keys) (c : Nat) (effects : List Effect) :
    (s.performAll c effects).1.accountTimeoutList = if .removeAccountTimeout ∈ effects then
      dropEntry s.accountTimeoutList c else s.accountTimeoutList := by
  induction effects generalizing s with
  | nil => simp [performAll]
  | cons x rest ih =>
    have again (list : List (Nat × Nat)) : dropEntry (dropEntry list c) c = dropEntry list c := by
      simp [dropEntry]
    simp only [performAll,ih,perform_accounts,List.mem_cons]
    by_cases first : x = .removeAccountTimeout
    · simp [first,again]
    · have apart : ¬ Effect.removeAccountTimeout = x := fun same => first same.symm
      simp [first,apart]

theorem performAll_doomed (s : Server keys) (c c' : Nat) (effects : List Effect) :
    (s.performAll c effects).1.Doomed c' ↔
      s.Doomed c' ∨ c' = c ∧ (.kill ∈ effects ∨ .lingerKill ∈ effects) := by
  induction effects generalizing s with
  | nil => simp [performAll]
  | cons x rest ih =>
    simp only [performAll,ih,perform_doomed,List.mem_cons,eq_comm (a := x)]
    grind

/-- Effects log nothing but themselves and what the auth cache does. -/
theorem performAll_actions (s : Server keys) (c : Nat) (effects : List Effect) :
    ∀ a ∈ (s.performAll c effects).2, (∃ x ∈ effects, a = .client c x) ∨ ∃ b, a = .auth b := by
  induction effects generalizing s with
  | nil => simp [performAll]
  | cons x rest ih =>
    intro a member
    rcases List.mem_append.mp member with first | later
    · cases x with
      | requestAuth key =>
        simp only [List.mem_cons,List.mem_map] at first
        rcases first with rfl | ⟨b,-,rfl⟩
        · exact .inl ⟨_,List.mem_cons_self,rfl⟩
        · exact .inr ⟨b,rfl⟩
      | _ =>
        obtain rfl : a = _ := List.mem_singleton.mp first
        exact .inl ⟨_,List.mem_cons_self,rfl⟩
    · rcases ih _ a later with ⟨y,inside,same⟩ | cache
      · exact .inl ⟨y,List.mem_cons_of_mem _ inside,same⟩
      · exact .inr cache

/-! ## Cleaning up -/

/-- What is left after some connections have been cleaned up. -/
theorem cleanupAll_spec (s : Server keys) (list : List Nat) :
    (∀ c, (s.cleanupAll list).1.connectionPool.find? c =
      if c ∈ list then none else s.connectionPool.find? c) ∧
    (s.cleanupAll list).1.ticker = s.ticker ∧
    (s.cleanupAll list).1.accountTimeoutList =
      s.accountTimeoutList.filter (fun entry => entry.1 ∉ list) ∧
    (s.cleanupAll list).1.lingerKillConnectionList =
      s.lingerKillConnectionList.filter (fun entry => entry.1 ∉ list) ∧
    (s.cleanupAll list).1.killConnectionList = s.killConnectionList.filter (fun c => c ∉ list) ∧
    (s.cleanupAll list).2 = list.map .cleaned := by
  induction list generalizing s with
  | nil => simp [cleanupAll]
  | cons id rest ih =>
    obtain ⟨pool,ticker,accounts,lingering,killed,out⟩ := ih (s.cleanupConnection id)
    simp only [cleanupAll]
    refine ⟨?_,ticker,?_,?_,?_,by rw [out]; rfl⟩
    · intro c
      rw [pool]
      simp only [cleanupConnection,Storage.find?_release,List.mem_cons]
      grind
    · rw [accounts]
      simp only [cleanupConnection,dropEntry,List.filter_filter]
      exact List.filter_congr (by grind)
    · rw [lingering]
      simp only [cleanupConnection,dropEntry,List.filter_filter]
      exact List.filter_congr (by grind)
    · rw [killed]
      simp only [cleanupConnection,without,List.filter_filter]
      exact List.filter_congr (by grind)

@[simp] theorem issued_cleanupAll (s : Server keys) (list : List Nat) (c : Nat) :
    (s.cleanupAll list).1.connectionPool.Issued c ↔ s.connectionPool.Issued c := by
  induction list generalizing s with
  | nil => rfl
  | cons id rest ih => exact ih (s.cleanupConnection id)

theorem filter_cleaned {list : List (Nat × Nat)} {gone : List Nat} :
    (list.filter (fun entry => entry.1 ∉ gone)).map Prod.fst =
      (list.map Prod.fst).filter (fun c => c ∉ gone) := by
  simp [List.filter_map,Function.comp_def]

theorem cleanupAll_lists {s : Server keys} (lists : s.ListInvariant) (list : List Nat) :
    (s.cleanupAll list).1.ListInvariant := by
  obtain ⟨pool,-,accounts,lingering,killed,-⟩ := cleanupAll_spec s list
  have kept {ids : List Nat} (linked : Linked s.connectionPool ids) :
      Linked (s.cleanupAll list).1.connectionPool (ids.filter (fun c => c ∉ list)) := by
    refine ⟨linked.nodup.sublist List.filter_sublist,?_⟩
    intro c member
    obtain ⟨inside,stays⟩ := List.mem_filter.mp member
    rw [pool,if_neg (by simpa using stays)]
    exact linked.live c inside
  refine ⟨?_,?_,?_⟩
  · rw [accounts,filter_cleaned]; exact kept lists.accounts
  · rw [lingering,filter_cleaned]; exact kept lists.lingering
  · rw [killed]; exact kept lists.killed

theorem Linked.timedOut {pool : Storage keys ClientConnection} {list : List (Nat × Nat)}
    (linked : Linked pool (list.map Prod.fst)) (limit : Nat) : Linked pool (timedOut list limit) :=
  linked.sublist ((List.takeWhile_sublist _).map Prod.fst)

/-- The connections that a tick cleans up, in order. -/
def overdue (s : Server keys) : List Nat :=
  let accounts := timedOut s.accountTimeoutList (sub64 s.ticker maxAccountCheckTimeout)
  let lingering := timedOut (s.cleanupAll accounts).1.lingerKillConnectionList
    (sub64 s.ticker maxConnectionLingerKillTimeout)
  accounts ++ lingering ++ ((s.cleanupAll accounts).1.cleanupAll lingering).1.killConnectionList

theorem cleanupAll_append (s : Server keys) (list more : List Nat) :
    s.cleanupAll (list ++ more) =
      (((s.cleanupAll list).1.cleanupAll more).1,
        (s.cleanupAll list).2 ++ ((s.cleanupAll list).1.cleanupAll more).2) := by
  induction list generalizing s with
  | nil => rfl
  | cons c rest ih => simp only [List.cons_append,cleanupAll,ih]

theorem onTick_eq (s : Server keys) : s.onTick = s.cleanupAll s.overdue := by
  have ticker : (s.cleanupAll (timedOut s.accountTimeoutList
      (sub64 s.ticker maxAccountCheckTimeout))).1.ticker = s.ticker := (cleanupAll_spec s _).2.1
  simp only [onTick,overdue,cleanupAll_append,ticker,List.append_assoc]

/-- A tick cleans up live connections, each once. -/
theorem overdue_linked {s : Server keys} (lists : s.ListInvariant) : Linked s.connectionPool s.overdue := by
  let accounts := timedOut s.accountTimeoutList (sub64 s.ticker maxAccountCheckTimeout)
  have first : Linked s.connectionPool accounts := lists.accounts.timedOut _
  obtain ⟨pool,-,-⟩ := cleanupAll_spec s accounts
  have lists' := cleanupAll_lists lists accounts
  have second := lists'.lingering.timedOut (sub64 s.ticker maxConnectionLingerKillTimeout)
  obtain ⟨pool',-,-⟩ := cleanupAll_spec (s.cleanupAll accounts).1
    (timedOut (s.cleanupAll accounts).1.lingerKillConnectionList
      (sub64 s.ticker maxConnectionLingerKillTimeout))
  have third := (cleanupAll_lists lists' (timedOut (s.cleanupAll accounts).1.lingerKillConnectionList
    (sub64 s.ticker maxConnectionLingerKillTimeout))).killed
  -- What is live after a cleanup is none of what was cleaned up.
  have live' (c : Nat) (found : (s.cleanupAll accounts).1.connectionPool.find? c ≠ none) :
      c ∉ accounts ∧ s.connectionPool.find? c ≠ none := by
    rw [pool] at found
    split at found
    · exact absurd rfl found
    · exact ⟨‹_›,found⟩
  refine ⟨?_,?_⟩
  · refine List.nodup_append.mpr ⟨List.nodup_append.mpr ⟨first.nodup,second.nodup,?_⟩,third.nodup,?_⟩
    · rintro c before _ after rfl
      exact (live' c (second.live c after)).1 before
    · rintro c before _ after rfl
      have found := third.live c after
      rw [pool'] at found
      split at found
      · exact found rfl
      · rename_i stays
        rcases List.mem_append.mp before with early | late
        · exact (live' c found).1 early
        · exact stays late
  · intro c member
    rcases List.mem_append.mp member with early | late
    · rcases List.mem_append.mp early with member | member
      · exact first.live c member
      · exact (live' c (second.live c member)).2
    · have found := third.live c late
      rw [pool'] at found
      split at found
      · exact absurd rfl found
      · exact (live' c found).2

/-! ## Events -/

/-- A delivery logs itself, its effects, and what the auth cache does. -/
theorem deliver_actions {cfg : Config} {s : Server keys} {c : Nat} {e : ConnEvent} :
    ∀ a ∈ (s.deliver cfg c e).2, a = .deliver c e ∨ (∃ x, a = .client c x) ∨ ∃ b, a = .auth b := by
  intro a member
  unfold deliver at member
  split at member
  · simp at member
  · rcases List.mem_cons.mp member with same | later
    · exact .inl same
    · rcases performAll_actions _ _ _ _ later with ⟨x,-,same⟩ | cache
      · exact .inr (.inl ⟨x,same⟩)
      · exact .inr (.inr cache)

/-- What a delivery links in a kill list is its own connection, if the callback kills it. -/
theorem deliver_doomed (cfg : Config) {s : Server keys} {c : Nat} {conn : ClientConnection}
    (found : s.connectionPool.find? c = some conn) (e : ConnEvent) (c' : Nat) :
    (s.deliver cfg c e).1.Doomed c' ↔ s.Doomed c' ∨
      c' = c ∧ (.kill ∈ (handle cfg conn e).effects ∨ .lingerKill ∈ (handle cfg conn e).effects) := by
  unfold deliver
  rw [found]
  exact performAll_doomed _ c c' _

theorem deliver_lists {cfg : Config} {s : Server keys} (lists : s.ListInvariant) (c : Nat)
    (e : ConnEvent) : (s.deliver cfg c e).1.ListInvariant := by
  unfold deliver
  split
  · exact lists
  · rename_i conn found
    have kept (other : Nat) (known : s.connectionPool.find? other ≠ none) :
        (s.connectionPool.modify c (fun _ => (handle cfg conn e).conn)).find? other ≠ none := by
      rw [Storage.find?_modify,found]
      split
      · simp
      · exact known
    let s' : Server keys := { s with
      connectionPool := s.connectionPool.modify c (fun _ => (handle cfg conn e).conn) }
    have lists' : s'.ListInvariant := lists.mono kept rfl rfl rfl
    exact performAll_lists lists' (kept c (by simp [found])) _

@[simp] theorem deliver_ticker (cfg : Config) (s : Server keys) (c : Nat) (e : ConnEvent) :
    (s.deliver cfg c e).1.ticker = s.ticker := by
  unfold deliver
  split
  · rfl
  · exact performAll_ticker _ c _

theorem newConnection_lists {s : Server keys} (lists : s.ListInvariant) (remoteIp : Bytes) :
    (s.onNewConnection remoteIp).1.ListInvariant := by
  unfold onNewConnection
  split
  · exact lists
  · rename_i id pool acquired
    have fresh := (Storage.acquired_fresh acquired).1
    have kept (c : Nat) (known : s.connectionPool.find? c ≠ none) : pool.find? c ≠ none := by
      rw [Storage.find?_acquire acquired]
      split
      · simp
      · exact known
    have here : pool.find? id ≠ none := by
      rw [Storage.find?_acquire acquired,if_pos rfl]
      simp
    have apart : id ∉ s.accountTimeoutList.map Prod.fst := fun member => lists.accounts.live id member fresh
    refine ⟨⟨?_,?_⟩,lists.lingering.mono kept,lists.killed.mono kept⟩
    · rw [List.map_append]
      refine List.nodup_append.mpr ⟨lists.accounts.nodup,by simp,?_⟩
      rintro other member _ last rfl
      obtain rfl : other = id := by simpa using last
      exact apart member
    · intro c member
      rw [List.map_append,List.mem_append] at member
      rcases member with old | new
      · exact kept c (lists.accounts.live c old)
      · obtain rfl : c = id := by simpa using new
        exact here

/-- A property of a server and its log survives an event if it survives what the event may
be made of: a birth, deliveries, moves of the auth cache, and a tick. -/
theorem step_induction {cfg : Config} {I : Server keys → List ServerAction → Prop} {s : Server keys}
    (log : List ServerAction) (e : ServerEvent) (before : I s log)
    (born : ∀ remoteIp, e = .newConnection remoteIp →
      I (s.onNewConnection remoteIp).1 (log ++ (s.onNewConnection remoteIp).2))
    (delivered : ∀ s log c received, I s log →
      e.target = some (c,received) ∨ (∃ result, received = .authResult result) →
      I (s.deliver cfg c received).1 (log ++ (s.deliver cfg c received).2))
    (cached : ∀ cache (actions : List AuthAction),
      I { s with authCacheManager := cache } (log ++ actions.map .auth))
    (ticked : ∀ nowMS, e = .clientTick nowMS →
      I { s with ticker := nowMS }.onTick.1 (log ++ { s with ticker := nowMS }.onTick.2)) :
    I (s.step cfg e).1 (log ++ (s.step cfg e).2) := by
  have results (s : Server keys) (log : List ServerAction) (actions : List AuthAction) (start : I s log) :
      I (s.deliverResults cfg actions).1 (log ++ (s.deliverResults cfg actions).2) := by
    induction actions generalizing s log with
    | nil => simpa [deliverResults] using start
    | cons a rest ih =>
      cases a with
      | result rid source verdict =>
        have first := delivered s log source (.authResult verdict) start (.inr ⟨verdict,rfl⟩)
        simpa [deliverResults] using ih _ _ first
      | _ => exact ih s log start
  cases target : e.target with
  | some pair =>
    obtain ⟨c,received⟩ := pair
    rcases step_target s target with step | step
    · rw [step]
      exact delivered s log c received before (.inl target)
    · rw [step]
      simpa using before
  | none =>
    by_cases aborted : s.aborted
    · simpa [step,aborted] using before
    · cases e with
      | newConnection remoteIp => simpa [step,aborted] using born remoteIp rfl
      | authPacket node resp => simpa [step,aborted] using cached _ _
      | authTick nowMS =>
        have first := cached (s.authCacheManager.onTick nowMS).1 (s.authCacheManager.onTick nowMS).2
        have second := results _ _ (s.authCacheManager.onTick nowMS).2 first
        simpa [step,aborted,authTick,List.append_assoc] using second
      | clientTick nowMS => simpa [step,aborted] using ticked nowMS rfl
      | _ => simp [ServerEvent.target] at target

theorem init_lists (ticker connectionPoolSize cachePoolSize : Nat) :
    (init keys ticker connectionPoolSize cachePoolSize).ListInvariant :=
  ⟨⟨.nil,by simp [init]⟩,⟨.nil,by simp [init]⟩,⟨.nil,by simp [init]⟩⟩

theorem step_lists {cfg : Config} {s : Server keys} (lists : s.ListInvariant) (e : ServerEvent) :
    (s.step cfg e).1.ListInvariant := by
  apply step_induction (I := fun s _ => s.ListInvariant) [] e lists
  · exact fun remoteIp _ => newConnection_lists lists remoteIp
  · exact fun s _ c received before _ => deliver_lists before c received
  · exact fun _ _ => lists.mono (fun _ known => known) rfl rfl rfl
  · intro nowMS _
    rw [onTick_eq]
    exact cleanupAll_lists (s := { s with ticker := nowMS })
      (lists.mono (fun _ known => known) rfl rfl rfl) _

end Server

/-- In every run the lists hold live connections, each once. -/
theorem lists_invariant {cfg : Config} {s : Server keys} {log : List ServerAction}
    {ok : Server keys → List ServerAction → ServerEvent → Prop}
    (reach : (serverMachine cfg keys).Reach ok s log) : s.ListInvariant := by
  apply reach.invariant (I := fun s _ => s.ListInvariant)
  · rintro _ ⟨ticker,connectionPoolSize,cachePoolSize,rfl⟩
    exact Server.init_lists ticker connectionPoolSize cachePoolSize
  · intro s log e _ _ lists
    exact Server.step_lists lists e

end MiniPP.Proxy
