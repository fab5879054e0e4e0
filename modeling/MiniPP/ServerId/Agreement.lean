import Mathlib.Data.List.Perm.Subperm
import MiniPP.ServerId.Clients
import MiniPP.ServerId.Release

/-! The center and the servers agree on the ids. Whoever loses connections, restarts or is late, a
server that has heard of the center on a connection that is still open has the id that the center
has for it, and nobody else has that. -/
namespace MiniPP.ServerId

open Fleet

variable {σ : Type} {keys : KeySource} {ids : ObjectIdManager σ} {s : Fleet σ keys} {log : List FleetAction}

/-! ## Connections -/

/-- The server is up, the center still has its connection, with this id, and nothing is on its way. -/
def Served (s : Fleet σ keys) (i serverId : Nat) : Prop :=
  ∃ p c, (s.hosts i).process = some p ∧ p.serverIdClient.connection = some c ∧ s.requests c = [] ∧
    s.responses c = [] ∧ s.center.connections.find? c = some serverId

/-- What a process does with the id it is told. -/
def Took (p : ServerProcess) (serverId : Nat) : Prop :=
  serverId ≠ 0 ∧ p.serverIdClient.localServerId = serverId ∧ p.registerServerClient.serverId = serverId

/-- On a connection there is a request, then an answer, and then nothing. -/
structure Linked (ids : ObjectIdManager σ) (s : Fleet σ keys) : Prop where
  valid : Valid ids s.center
  room : s.center.connections.entries.length ≤ s.center.connections.capacity
  asked : ∀ c q rest, s.requests c = q :: rest → rest = [] ∧ s.responses c = [] ∧
    ∀ g, s.center.connections.find? c = some g → g = 0
  answered : ∀ c r rest, s.responses c = r :: rest → rest = [] ∧ s.requests c = [] ∧
    ∀ g, s.center.connections.find? c = some g → g = r
  fresh : ∀ c, ¬ s.center.connections.Issued c → s.requests c = [] ∧ s.responses c = []
  issued : ∀ i p c, (s.hosts i).process = some p → p.serverIdClient.connection = some c →
    s.center.connections.Issued c
  single : ∀ i j p q c, (s.hosts i).process = some p → (s.hosts j).process = some q →
    p.serverIdClient.connection = some c → q.serverIdClient.connection = some c → i = j
  served : ∀ i p c g, (s.hosts i).process = some p → p.serverIdClient.connection = some c →
    s.requests c = [] → s.responses c = [] → s.center.connections.find? c = some g → Took p g

theorem linked_init (maxIdIndex : Nat) (files : Nat → Option Bytes) :
    Linked ids ({ center := .init ids keys maxIdIndex, hosts := fun i => { file := files i } } : Fleet σ keys) where
  valid := valid_init maxIdIndex
  room := Nat.zero_le _
  asked c q rest here := by cases here
  answered c r rest here := by cases here
  fresh c _ := ⟨rfl,rfl⟩
  issued i p c up := by cases up
  single i j p q c up := by cases up
  served i p c g up := by cases up

/-! ## Steps -/

theorem setHost_process (i j : Nat) (host : Host) :
    ((s.setHost i host).hosts j).process = if j = i then host.process else (s.hosts j).process := by
  unfold setHost
  by_cases same : j = i
  · rw [if_pos same,same]
    dsimp only
    rw [Function.update_self]
  · rw [if_neg same]
    dsimp only
    rw [Function.update_of_ne same]

/-- A server changes, but not what it has from its connection. -/
theorem Linked.setHost (linked : Linked ids s) {i : Nat} {host : Host}
    (keeps : ∀ p, host.process = some p → p.serverIdClient.connection = none ∨
      ∃ q, (s.hosts i).process = some q ∧ p.serverIdClient = q.serverIdClient ∧
        p.registerServerClient.serverId = q.registerServerClient.serverId) :
    Linked ids (s.setHost i host) := by
  -- whoever has a connection had it before, with the same id
  have before {j : Nat} {p : ServerProcess} {c : Nat} (up : ((s.setHost i host).hosts j).process = some p)
      (connected : p.serverIdClient.connection = some c) :
      ∃ q, (s.hosts j).process = some q ∧ p.serverIdClient = q.serverIdClient ∧
        p.registerServerClient.serverId = q.registerServerClient.serverId := by
    rw [setHost_process] at up
    split at up
    · next same =>
      subst same
      rcases keeps p up with nothing | found
      · rw [nothing] at connected
        cases connected
      · exact found
    · exact ⟨p,up,rfl,rfl⟩
  constructor
  case valid => exact linked.valid
  case room => exact linked.room
  case asked => exact linked.asked
  case answered => exact linked.answered
  case fresh => exact linked.fresh
  case issued =>
    intro j p c up connected
    obtain ⟨q,was,same,-⟩ := before up connected
    exact linked.issued j q c was (same ▸ connected)
  case single =>
    intro j k p q c up up' connected connected'
    obtain ⟨p',was,same,-⟩ := before up connected
    obtain ⟨q',was',same',-⟩ := before up' connected'
    exact linked.single j k p' q' c was was' (same ▸ connected) (same' ▸ connected')
  case served =>
    intro j p c g up connected quiet silent found
    obtain ⟨q,was,same,registered⟩ := before up connected
    obtain ⟨given,local_,id⟩ := linked.served j q c g was (same ▸ connected) quiet silent found
    exact ⟨given,by rw [same,local_],by rw [registered,id]⟩

/-- The center loses connections. -/
theorem Linked.lose (linked : Linked ids s) {center : ServerIdCenterService σ keys} (valid : Valid ids center)
    (room : center.connections.entries.length ≤ center.connections.capacity)
    (issued : center.connections.issued = s.center.connections.issued)
    (fewer : ∀ c g, center.connections.find? c = some g → s.center.connections.find? c = some g) :
    Linked ids { s with center } := by
  have same (c : Nat) : center.connections.Issued c ↔ s.center.connections.Issued c := by
    unfold Storage.Issued
    rw [issued]
  constructor
  case valid => exact valid
  case room => exact room
  case asked =>
    intro c q rest here
    obtain ⟨last,nothing,none⟩ := linked.asked c q rest here
    exact ⟨last,nothing,fun g found => none g (fewer c g found)⟩
  case answered =>
    intro c r rest here
    obtain ⟨last,nothing,told⟩ := linked.answered c r rest here
    exact ⟨last,nothing,fun g found => told g (fewer c g found)⟩
  case fresh => exact fun c absent => linked.fresh c (mt (same c).mpr absent)
  case issued => exact fun i p c up connected => (same c).mpr (linked.issued i p c up connected)
  case single => exact linked.single
  case served =>
    intro i p c g up connected quiet silent found
    exact linked.served i p c g up connected quiet silent (fewer c g found)

/-- A new connection, on which the server asks. -/
theorem Linked.connected (linked : Linked ids s) {i c : Nat} {p : ServerProcess} {connections : Storage keys Nat}
    (acquired : s.center.connections.acquire (fun _ => 0) = some (c,connections))
    (connected : p.serverIdClient.connection = some c) (file : Option Bytes) (q : Nat) :
    Linked ids { s.setHost i { file, process := some p } with
      center := { s.center with connections }, requests := Function.update s.requests c [q] } := by
  obtain ⟨-,new⟩ := Storage.acquired_fresh acquired
  obtain ⟨key,entries,-,capacity⟩ := Storage.acquire_spec acquired
  obtain ⟨-,silent⟩ := linked.fresh c new
  have issued := Storage.issued_acquire acquired
  have old {j c' : Nat} {p' : ServerProcess}
      (up : ((s.setHost i { file, process := some p }).hosts j).process = some p')
      (there : p'.serverIdClient.connection = some c') :
      (j = i ∧ p' = p ∧ c' = c) ∨ ((s.hosts j).process = some p' ∧ c' ≠ c) := by
    rw [setHost_process] at up
    split at up
    · next same =>
      obtain rfl := Option.some.inj up
      exact .inl ⟨same,rfl,Option.some.inj (there.symm.trans connected)⟩
    · refine .inr ⟨up,?_⟩
      rintro rfl
      exact new (linked.issued j p' c' up there)
  constructor
  case valid => exact valid_connected linked.valid acquired
  case room =>
    have more : s.center.connections.entries.length < s.center.connections.capacity := by
      by_contra full
      rw [Storage.acquire_eq_none.mpr (Nat.not_lt.mp full)] at acquired
      cases acquired
    dsimp only
    rw [entries,capacity]
    exact more
  case asked =>
    intro c' q' rest here
    dsimp only at here ⊢
    by_cases same : c' = c
    · subst same
      rw [Function.update_self] at here
      refine ⟨(List.cons.inj here).2.symm,silent,fun g found => ?_⟩
      rw [Storage.find?_acquire acquired,if_pos rfl] at found
      exact (Option.some.inj found).symm
    · rw [Function.update_of_ne same] at here
      obtain ⟨last,nothing,none⟩ := linked.asked c' q' rest here
      refine ⟨last,nothing,fun g found => none g ?_⟩
      rwa [Storage.find?_acquire acquired,if_neg same] at found
  case answered =>
    intro c' r rest here
    have same : c' ≠ c := by
      rintro rfl
      rw [show s.responses c' = r :: rest from here] at silent
      cases silent
    obtain ⟨last,nothing,told⟩ := linked.answered c' r rest here
    refine ⟨last,?_,fun g found => told g ?_⟩
    · dsimp only
      rwa [Function.update_of_ne same]
    · rwa [Storage.find?_acquire acquired,if_neg same] at found
  case fresh =>
    intro c' absent
    obtain ⟨same,before⟩ := not_or.mp (mt (issued c').mpr absent)
    dsimp only
    rw [Function.update_of_ne same]
    exact linked.fresh c' before
  case issued =>
    intro j p' c' up there
    rcases old up there with ⟨-,-,rfl⟩ | ⟨was,-⟩
    · exact (issued _).mpr (.inl rfl)
    · exact (issued c').mpr (.inr (linked.issued j p' c' was there))
  case single =>
    intro j k p' q' c' up up' there there'
    rcases old up there with ⟨rfl,-,rfl⟩ | ⟨was,apart⟩
    · rcases old up' there' with ⟨rfl,-,-⟩ | ⟨-,apart⟩
      · rfl
      · exact absurd rfl apart
    · rcases old up' there' with ⟨-,-,same⟩ | ⟨was',-⟩
      · exact absurd same apart
      · exact linked.single j k p' q' c' was was' there there'
  case served =>
    intro j p' c' g up there quiet nothing found
    dsimp only at quiet
    rcases old up there with ⟨-,-,rfl⟩ | ⟨was,apart⟩
    · rw [Function.update_self] at quiet
      cases quiet
    · rw [Function.update_of_ne apart] at quiet
      rw [Storage.find?_acquire acquired,if_neg apart] at found
      exact linked.served j p' c' g was there quiet nothing found

/-- The center takes a request from a connection that it has, and answers. -/
theorem Linked.reads (linked : Linked ids s) {c q g : Nat} {rest : List Nat}
    {serverIdManager : ServerIdManager σ} (here : s.requests c = q :: rest)
    (open_ : s.center.connections.find? c = some 0) (gained : Gained ids s.center.serverIdManager g serverIdManager) :
    Linked ids { s with
      center := { s.center with serverIdManager, connections := s.center.connections.modify c (fun _ => g) }
      requests := Function.update s.requests c rest
      responses := Function.update s.responses c (s.responses c ++ [g]) } := by
  obtain ⟨rfl,silent,-⟩ := linked.asked c q rest here
  have found (c' : Nat) : (s.center.connections.modify c (fun _ => g)).find? c' =
      if c' = c then some g else s.center.connections.find? c' := by
    rw [Storage.find?_modify,open_]
    rfl
  constructor
  case valid => exact valid_gained linked.valid open_ gained
  case room =>
    dsimp only
    rw [Storage.length_modify,Storage.capacity_modify]
    exact linked.room
  case asked =>
    intro c' q' rest' there
    dsimp only at there ⊢
    have apart : c' ≠ c := by
      rintro rfl
      rw [Function.update_self] at there
      cases there
    rw [Function.update_of_ne apart] at there ⊢
    obtain ⟨last,nothing,none⟩ := linked.asked c' q' rest' there
    refine ⟨last,nothing,fun g' has => none g' ?_⟩
    rwa [found,if_neg apart] at has
  case answered =>
    intro c' r rest' there
    dsimp only at there ⊢
    by_cases same : c' = c
    · subst same
      rw [Function.update_self,silent,List.nil_append] at there
      obtain ⟨rfl,rfl⟩ := List.cons.inj there
      refine ⟨rfl,Function.update_self ..,fun g' has => ?_⟩
      rw [found,if_pos rfl] at has
      exact (Option.some.inj has).symm
    · rw [Function.update_of_ne same] at there ⊢
      obtain ⟨last,nothing,told⟩ := linked.answered c' r rest' there
      refine ⟨last,nothing,fun g' has => told g' ?_⟩
      rwa [found,if_neg same] at has
  case fresh =>
    intro c' absent
    have absent' : ¬ s.center.connections.Issued c' := absent
    have apart : c' ≠ c := by
      rintro rfl
      exact absent' (Storage.issued_of_find? open_)
    dsimp only
    rw [Function.update_of_ne apart,Function.update_of_ne apart]
    exact linked.fresh c' absent'
  case issued => exact linked.issued
  case single => exact linked.single
  case served =>
    intro i p c' g' up connected quiet nothing has
    dsimp only at quiet nothing
    by_cases same : c' = c
    · subst same
      rw [Function.update_self,silent] at nothing
      cases nothing
    · rw [Function.update_of_ne same] at quiet nothing
      rw [found,if_neg same] at has
      exact linked.served i p c' g' up connected quiet nothing has

/-- A request is lost with its connection. -/
theorem Linked.dropped (linked : Linked ids s) {c : Nat} (closed : s.center.connections.find? c = none) :
    Linked ids { s with requests := Function.update s.requests c [] } := by
  constructor
  case valid => exact linked.valid
  case room => exact linked.room
  case asked =>
    intro c' q rest there
    dsimp only at there
    have apart : c' ≠ c := by
      rintro rfl
      rw [Function.update_self] at there
      cases there
    rw [Function.update_of_ne apart] at there
    exact linked.asked c' q rest there
  case answered =>
    intro c' r rest there
    obtain ⟨last,nothing,told⟩ := linked.answered c' r rest there
    refine ⟨last,?_,told⟩
    dsimp only
    by_cases same : c' = c
    · rw [same,Function.update_self]
    · rwa [Function.update_of_ne same]
  case fresh =>
    intro c' absent
    obtain ⟨quiet,nothing⟩ := linked.fresh c' absent
    refine ⟨?_,nothing⟩
    dsimp only
    by_cases same : c' = c
    · rw [same,Function.update_self]
    · rwa [Function.update_of_ne same]
  case issued => exact linked.issued
  case single => exact linked.single
  case served =>
    intro i p c' g up connected quiet nothing has
    have apart : c' ≠ c := by
      rintro rfl
      rw [closed] at has
      cases has
    dsimp only at quiet
    rw [Function.update_of_ne apart] at quiet
    exact linked.served i p c' g up connected quiet nothing has

/-- A server takes the answer, or it is gone. -/
theorem Linked.heard (linked : Linked ids s) {i c r : Nat} {rest : List Nat} {p : ServerProcess}
    (up : (s.hosts i).process = some p) (connected : p.serverIdClient.connection = some c)
    (here : s.responses c = r :: rest) (file : Option Bytes) {process : Option ServerProcess}
    (took : ∀ p', process = some p' → Took p' r ∧ p'.serverIdClient.connection = some c) :
    Linked ids ({ s with responses := Function.update s.responses c rest }.setHost i { file, process }) := by
  obtain ⟨rfl,quiet,told⟩ := linked.answered c r rest here
  have old {j c' : Nat} {p' : ServerProcess}
      (up' : (({ s with responses := Function.update s.responses c [] }.setHost i
        { file, process }).hosts j).process = some p')
      (there : p'.serverIdClient.connection = some c') :
      (j = i ∧ c' = c ∧ Took p' r) ∨ ((s.hosts j).process = some p' ∧ c' ≠ c) := by
    rw [setHost_process] at up'
    split at up'
    · next same =>
      obtain ⟨took',same'⟩ := took p' up'
      exact .inl ⟨same,Option.some.inj (there.symm.trans same'),took'⟩
    · next apart =>
      refine .inr ⟨up',?_⟩
      rintro rfl
      exact apart (linked.single j i p' p c' up' up there connected)
  constructor
  case valid => exact linked.valid
  case room => exact linked.room
  case asked =>
    intro c' q rest' there
    obtain ⟨last,nothing,none⟩ := linked.asked c' q rest' there
    refine ⟨last,?_,none⟩
    dsimp only [Fleet.setHost]
    by_cases same : c' = c
    · rw [same,Function.update_self]
    · rwa [Function.update_of_ne same]
  case answered =>
    intro c' r' rest' there
    dsimp only [Fleet.setHost] at there
    have apart : c' ≠ c := by
      rintro rfl
      rw [Function.update_self] at there
      cases there
    rw [Function.update_of_ne apart] at there
    exact linked.answered c' r' rest' there
  case fresh =>
    intro c' absent
    obtain ⟨none,nothing⟩ := linked.fresh c' absent
    refine ⟨none,?_⟩
    dsimp only [Fleet.setHost]
    by_cases same : c' = c
    · rw [same,Function.update_self]
    · rwa [Function.update_of_ne same]
  case issued =>
    intro j p' c' up' there
    rcases old up' there with ⟨-,rfl,-⟩ | ⟨was,-⟩
    · exact linked.issued i p c' up connected
    · exact linked.issued j p' c' was there
  case single =>
    intro j k p' q' c' up' up'' there there'
    rcases old up' there with ⟨rfl,rfl,-⟩ | ⟨was,apart⟩
    · rcases old up'' there' with ⟨rfl,-,-⟩ | ⟨-,apart⟩
      · rfl
      · exact absurd rfl apart
    · rcases old up'' there' with ⟨-,same,-⟩ | ⟨was',-⟩
      · exact absurd same apart
      · exact linked.single j k p' q' c' was was' there there'
  case served =>
    intro j p' c' g up' there none nothing has
    rcases old up' there with ⟨-,rfl,took'⟩ | ⟨was,apart⟩
    · rw [told g has]
      exact took'
    · dsimp only [Fleet.setHost] at nothing
      rw [Function.update_of_ne apart] at nothing
      exact linked.served j p' c' g was there none nothing has

/-! ## Runs -/

theorem onServerIdUpdated_took {p p' : ServerProcess} {newServerId : Nat} {posted : List Nat}
    (updated : p.onServerIdUpdated newServerId = some (p',posted)) :
    Took p' newServerId ∧ p'.serverIdClient.connection = p.serverIdClient.connection := by
  rw [ServerProcess.onServerIdUpdated] at updated
  split at updated
  · cases updated
  · next client posted' took =>
    obtain ⟨rfl,-⟩ := Prod.mk.inj (Option.some.inj updated)
    rw [RegisterServerClient.updateServerId] at took
    split at took
    · cases took
    · next given =>
      split at took
      · next same =>
        obtain ⟨rfl,-⟩ := Prod.mk.inj (Option.some.inj took)
        exact ⟨⟨given,rfl,same⟩,rfl⟩
      · obtain ⟨rfl,-⟩ := Prod.mk.inj (Option.some.inj took)
        exact ⟨⟨given,rfl,rfl⟩,rfl⟩

/-- Everything a step can do. -/
inductive Outcome (ids : ObjectIdManager σ) (s : Fleet σ keys) :
    FleetEvent → Fleet σ keys × List FleetAction → Prop where
  | idle {e : FleetEvent} (unasked : ∀ c drawn, e = .centerReads c drawn → s.requests c = []) :
      Outcome ids s e (s,[])
  | start {i : Nat} (down : (s.hosts i).process = none) : Outcome ids s (.start i)
      (s.setHost i { file := (s.hosts i).file,
                     process := some { serverIdClient := ⟨loadLocalServerId (s.hosts i).file,none⟩ } },[])
  | stop (i : Nat) : Outcome ids s (.stop i) (s.setHost i { file := (s.hosts i).file },[])
  | connect {i c : Nat} {p : ServerProcess} {connections : Storage keys Nat}
      (up : (s.hosts i).process = some p)
      (acquired : s.center.connections.acquire (fun _ => 0) = some (c,connections)) :
      Outcome ids s (.connect i) ({ s.setHost i { file := (s.hosts i).file, process := some { p with
            serverIdClient := { p.serverIdClient with connection := some c } } } with
          center := { s.center with connections }
          requests := Function.update s.requests c [p.serverIdClient.localServerId] },
        [.center (.accepted c),.asked i c p.serverIdClient.localServerId])
  | dropped {c q : Nat} {drawn : UInt32} (here : s.requests c = [q])
      (gone : s.center.connections.find? c = none) : Outcome ids s (.centerReads c drawn)
      ({ s with requests := Function.update s.requests c [] },[])
  | answered {c q g : Nat} {drawn : UInt32} {serverIdManager : ServerIdManager σ} (here : s.requests c = [q])
      (open_ : s.center.connections.find? c = some 0)
      (regained : s.center.serverIdManager.regainServerId ids drawn q.toUInt64.toNat = some (g,serverIdManager))
      (gained : Gained ids s.center.serverIdManager g serverIdManager) :
      Outcome ids s (.centerReads c drawn) ({ s with
          center := { s.center with serverIdManager, connections := s.center.connections.modify c (fun _ => g) }
          requests := Function.update s.requests c []
          responses := Function.update s.responses c (s.responses c ++ [g]) },
        [.center (.acquireServerIdResp c q.toUInt64.toNat g)])
  | close {c : Nat} {serverIdManager : ServerIdManager σ}
      (valid : Valid ids { s.center with serverIdManager, connections := s.center.connections.release c }) :
      Outcome ids s (.centerCloses c)
        ({ s with center := { s.center with serverIdManager, connections := s.center.connections.release c } },[])
  | restart : Outcome ids s .centerRestarts ({ s with center := restarted ids s.center },[])
  | took {i c r : Nat} {rest posted : List Nat} {p p' : ServerProcess} {written : Bool}
      (up : (s.hosts i).process = some p) (connected : p.serverIdClient.connection = some c)
      (here : s.responses c = r :: rest) (updated : p.onServerIdUpdated r = some (p',posted)) :
      Outcome ids s (.clientReads i written) ({ s with responses := Function.update s.responses c rest }.setHost i
          { file := if written then some (dumpLocalServerId r) else (s.hosts i).file, process := some p' },
        .updated i r :: posted.map (.registers i))
  | failed {i c r : Nat} {rest : List Nat} {p : ServerProcess} {written : Bool}
      (up : (s.hosts i).process = some p) (connected : p.serverIdClient.connection = some c)
      (here : s.responses c = r :: rest) (zero : r = 0) :
      Outcome ids s (.clientReads i written) ({ s with responses := Function.update s.responses c rest }.setHost i
          { file := if written then some (dumpLocalServerId r) else (s.hosts i).file },
        [.updated i r,.assertion i])
  | own {e : FleetEvent} {i : Nat} {p p' : ServerProcess} (unread : ∀ c drawn, e ≠ .centerReads c drawn)
      (up : (s.hosts i).process = some p)
      (connection : p'.serverIdClient.connection = none ∨ p'.serverIdClient = p.serverIdClient)
      (local_ : p'.serverIdClient.localServerId = p.serverIdClient.localServerId)
      (registered : p'.registerServerClient.serverId = p.registerServerClient.serverId) (posted : List Nat) :
      Outcome ids s e (s.setHost i { file := (s.hosts i).file, process := some p' },posted.map (.registers i))

theorem onServerIdUpdated_none {p : ServerProcess} {newServerId : Nat}
    (failed : p.onServerIdUpdated newServerId = none) : newServerId = 0 := by
  rw [ServerProcess.onServerIdUpdated] at failed
  split at failed
  · next none =>
    rw [RegisterServerClient.updateServerId] at none
    by_contra some_
    rw [if_neg some_] at none
    split at none <;> cases none
  · cases failed

theorem Linked.outcome (linked : Linked ids s) (e : FleetEvent) : Outcome ids s e (s.step ids e) := by
  have running : s.center.aborted = false := linked.valid.running
  have process {i : Nat} {act : Host → ServerProcess → Fleet σ keys × List FleetAction}
      (other : ∀ c drawn, e = .centerReads c drawn → s.requests c = [])
      (up : ∀ p, (s.hosts i).process = some p → Outcome ids s e (act (s.hosts i) p)) :
      Outcome ids s e (s.onProcess i act) := by
    rw [onProcess]
    split
    · exact .idle other
    · next p here => exact up p here
  cases e with
  | start i =>
    rw [step]
    split
    · exact .idle nofun
    · next down => exact .start down
  | stop i => exact .stop i
  | connect i =>
    rw [step]
    refine process nofun fun p up => ?_
    split
    · exact .idle nofun
    · cases acquired : s.center.connections.acquire (fun _ => 0) with
      | none =>
        have refused : s.center.step ids .clientConnected = (s.center,[]) := by
          simp [ServerIdCenterService.step,running,acquired]
        rw [Fleet.connect,refused]
        exact .idle nofun
      | some found =>
        have accepted : s.center.step ids .clientConnected =
            ({ s.center with connections := found.2 },[.accepted found.1]) := by
          simp [ServerIdCenterService.step,running,acquired]
        rw [Fleet.connect,accepted]
        exact .connect up acquired
  | centerReads c drawn =>
    cases here : s.requests c with
    | nil =>
      simp only [step,here]
      refine .idle fun c' _ same => ?_
      cases same
      exact here
    | cons q rest =>
      obtain ⟨rfl,silent,none⟩ := linked.asked c q rest here
      cases found : s.center.connections.find? c with
      | none =>
        have same : Function.update s.responses c (s.responses c ++ []) = s.responses := by
          rw [List.append_nil,Function.update_eq_self]
        have dropped : Outcome ids s (.centerReads c drawn) _ := .dropped here found
        simpa [step,here,ServerIdCenterService.step,running,found,answers,same] using dropped
      | some g0 =>
        obtain rfl := none g0 found
        obtain ⟨g,serverIdManager,regained,gained⟩ :=
          regainServerId_spec linked.valid.free drawn q.toUInt64.toNat
        have answered : Outcome ids s (.centerReads c drawn) _ := .answered here found regained gained
        simpa only [step,here,ServerIdCenterService.step,running,Bool.false_eq_true,if_false,found,
          ServerIdCenterService.onClientPacket,ne_eq,not_true_eq_false,regained,answers,List.filterMap_cons,
          List.filterMap_nil,List.map_cons,List.map_nil] using answered
  | centerCloses c =>
    rw [step,ServerIdCenterService.step,running]
    dsimp only
    cases found : s.center.connections.find? c with
    | none => exact .idle nofun
    | some g =>
      obtain ⟨serverIdManager,closed,valid⟩ := valid_closed linked.valid found
      simp only [closed]
      exact .close valid
  | centerRestarts => exact .restart
  | clientReads i written =>
    rw [step]
    refine process nofun fun p up => ?_
    split
    · exact .idle nofun
    · next c connected =>
      rw [Fleet.clientReads]
      split
      · exact .idle nofun
      · next r rest here =>
        dsimp only
        split
        · next failed => exact .failed up connected here (onServerIdUpdated_none failed)
        · next p' posted updated => exact .took up connected here updated
  | clientCloses i =>
    rw [step]
    refine process nofun fun p up => .own (by simp) up ?_ ?_ ?_ []
    · exact .inl rfl
    · rfl
    · rfl
  | registerConnected i =>
    rw [step]
    refine process nofun fun p up => .own (by simp) up ?_ ?_ ?_ _
    · exact .inr rfl
    · rfl
    · rfl
  | registerCloses i =>
    rw [step]
    refine process nofun fun p up => .own (by simp) up ?_ ?_ ?_ []
    · exact .inr rfl
    · rfl
    · rfl

theorem valid_restarted (center : ServerIdCenterService σ keys) : Valid ids (restarted ids center) where
  running := rfl
  free := by
    have start : Valid ids (.init ids keys 0) := valid_init 0
    exact start.free
  held c serverId found := by cases found
  single c c' serverId serverId' found := by cases found
  taken id _ taken := absurd rfl taken

theorem linked_step (linked : Linked ids s) (e : FleetEvent) : Linked ids (s.step ids e).1 := by
  have outcome := linked.outcome e
  generalize s.step ids e = result at outcome
  cases outcome with
  | idle => exact linked
  | start down =>
    refine linked.setHost fun p same => .inl ?_
    obtain rfl := Option.some.inj same
    rfl
  | stop i => exact linked.setHost fun p up => by cases up
  | connect up acquired => exact linked.connected acquired rfl _ _
  | dropped here gone => exact linked.dropped gone
  | answered here open_ regained gained => exact linked.reads here open_ gained
  | close valid =>
    refine linked.lose valid ?_ rfl fun c g found => (Storage.of_find?_release found).2
    exact (List.length_filter_le _ _).trans linked.room
  | restart => exact linked.lose (valid_restarted _) (Nat.zero_le _) rfl fun c g found => by cases found
  | took up connected here updated =>
    refine linked.heard up connected here _ fun p same => ?_
    obtain rfl := Option.some.inj same
    obtain ⟨took,kept⟩ := onServerIdUpdated_took updated
    exact ⟨took,kept.trans connected⟩
  | failed up connected here => exact linked.heard up connected here _ fun p gone => by cases gone
  | own unread up connection local_ registered =>
    refine linked.setHost fun p same => ?_
    obtain rfl := Option.some.inj same
    exact connection.imp id fun same => ⟨_,up,same,registered⟩

theorem linked_reach {ok : Fleet σ keys → List FleetAction → FleetEvent → Prop}
    (reach : (fleetMachine ids keys).Reach ok s log) : Linked ids s := by
  apply reach.invariant (I := fun s _ => Linked ids s)
  · rintro _ ⟨maxIdIndex,files,rfl⟩
    exact linked_init maxIdIndex files
  · intro s log e _ _ linked
    exact linked_step linked e

/-- In every run, whatever is lost or restarted: a server that has read the center's answer, on a
connection that the center still has, goes by the id that the center has for it and registers with
that, and no other such server has an id of the same index. -/
theorem servers_agree_with_center (reach : (fleetMachine ids keys).Reach Machine.anything s log) :
    (∀ i serverId, Served s i serverId → ∃ p, (s.hosts i).process = some p ∧ Took p serverId) ∧
      ∀ i j serverId serverId', Served s i serverId → Served s j serverId' →
        idIndex serverId = idIndex serverId' → i = j := by
  have linked := linked_reach reach
  have took {i serverId : Nat} (served : Served s i serverId) :
      ∃ p, (s.hosts i).process = some p ∧ Took p serverId := by
    obtain ⟨p,c,up,connected,quiet,silent,found⟩ := served
    exact ⟨p,up,linked.served i p c serverId up connected quiet silent found⟩
  refine ⟨fun i serverId served => took served,?_⟩
  intro i j serverId serverId' served served' index
  obtain ⟨-,-,given,-⟩ := took served
  obtain ⟨-,-,given',-⟩ := took served'
  obtain ⟨p,c,up,connected,-,-,found⟩ := served
  obtain ⟨q,c',up',connected',-,-,found'⟩ := served'
  obtain rfl := linked.valid.single c c' serverId serverId' found found' given given' index
  exact linked.single i j p q c up up' connected connected'

def oneServer : Fleet (List Nat) .sequential :=
  { center := .init hundredIds .sequential 8, hosts := fun _ => { file := none } }

theorem oneServer_start : (fleetMachine hundredIds .sequential).start oneServer := ⟨8,fun _ => none,rfl⟩

abbrev fleet (es : List FleetEvent) : Fleet (List Nat) .sequential × List FleetAction :=
  (fleetMachine hundredIds .sequential).run oneServer es

/-- A server comes up, asks for an id, and is given one. -/
def comesUp : List FleetEvent := [.start 1,.connect 1,.centerReads 1 7,.clientReads 1 true]

/-- It stops, and comes back when the center has noticed. -/
def comesBack : List FleetEvent := comesUp ++ [.stop 1,.centerCloses 1,.start 1,.connect 1]

/-- A second server comes up. The first one loses its connection and connects again before the center has
noticed, so it is given another id; then the center restarts, and both of them come back to it. -/
def reconnected : List FleetEvent :=
  comesUp ++ [.start 2,.connect 2,.centerReads 2 9,.clientReads 2 true,
    .clientCloses 1,.connect 1,.centerReads 3 11,.clientReads 1 true,.centerCloses 1,.centerRestarts,
    .clientCloses 2,.connect 2,.centerReads 4 13,.clientReads 2 true,
    .clientCloses 1,.connect 1,.centerReads 5 15,.clientReads 1 true]

def secondId : Nat := 43451216744913

def thirdId : Nat := 61043402797522

theorem served_reconnected :
    Served (fleet reconnected).1 1 thirdId ∧ Served (fleet reconnected).1 2 secondId :=
  ⟨⟨⟨⟨thirdId,some 5⟩,⟨thirdId,false⟩⟩,5,by decide +kernel,by decide +kernel,by decide +kernel,
      by decide +kernel,by decide +kernel⟩,
    ⟨⟨secondId,some 4⟩,⟨secondId,false⟩⟩,4,by decide +kernel,by decide +kernel,by decide +kernel,
      by decide +kernel,by decide +kernel⟩

theorem servers_agree_with_center_two :
    (∃ p, ((fleet reconnected).1.hosts 1).process = some p ∧ Took p thirdId) ∧
      (∃ p, ((fleet reconnected).1.hosts 2).process = some p ∧ Took p secondId) ∧
      idIndex thirdId ≠ idIndex secondId := by
  obtain ⟨first,second⟩ := served_reconnected
  obtain ⟨took,single⟩ := servers_agree_with_center (Machine.reach_run oneServer_start reconnected)
  refine ⟨took 1 thirdId first,took 2 secondId second,fun same => ?_⟩
  cases single 1 2 thirdId secondId first second same

/-! ## No id is missing -/

/-- An index is only refused if there is none. -/
def Complete (ids : ObjectIdManager σ) : Prop :=
  ∀ s, (∀ id, ids.Free s id → 1 ≤ id) → (ids.acquire s).1 = 0 → ∀ id, ¬ ids.Free s id

theorem acquireServerId_some (complete : Complete ids) {m m' : ServerIdManager σ} {drawn : UInt32}
    {serverId id : Nat} (slots : SlotsFree ids m) (free : ids.Free m.idManager id)
    (acquired : m.acquireServerId ids drawn = some (serverId,m')) : serverId ≠ 0 := by
  have found : ids.Free m.idManager (ids.acquire m.idManager).1 := by
    rcases ids.acquire_spec m.idManager with ⟨zero,-⟩ | ⟨found,-⟩
    · exact absurd free (complete _ (fun id free => ((slots id).mp free).1.1) zero id)
    · exact found
  obtain ⟨range,-⟩ := (slots _).mp found
  have some_ : (ids.acquire m.idManager).1 ≠ 0 := by omega
  unfold ServerIdManager.acquireServerId at acquired
  dsimp only at acquired
  rw [if_neg some_] at acquired
  obtain ⟨checkSum,sum⟩ := generateCheckSum_isSome range.1 (generateRandom_pos drawn)
  rw [sum] at acquired
  obtain ⟨index,-⟩ := packed_fields (Nat.lt_of_le_of_lt range.2 ids.small) (generateRandom_lt drawn)
    (generateCheckSum_lt sum)
  obtain ⟨rfl,-⟩ := Prod.mk.inj (Option.some.inj acquired)
  intro zero
  have none : idIndex 0 = 0 := by decide
  rw [zero,none] at index
  omega

theorem regainServerId_some (complete : Complete ids) {m m' : ServerIdManager σ} {drawn : UInt32}
    {previous serverId id : Nat} (slots : SlotsFree ids m) (free : ids.Free m.idManager id)
    (regained : m.regainServerId ids drawn previous = some (serverId,m')) : serverId ≠ 0 := by
  unfold ServerIdManager.regainServerId at regained
  dsimp only at regained
  split at regained
  · exact acquireServerId_some complete slots free regained
  split at regained
  · exact acquireServerId_some complete slots free regained
  split at regained
  · cases regained
  split at regained
  · exact acquireServerId_some complete slots free regained
  split at regained
  · exact acquireServerId_some complete slots free regained
  split at regained
  · next given _ _ _ _ _ _ _ =>
    obtain ⟨rfl,-⟩ := Prod.mk.inj (Option.some.inj regained)
    exact given
  · cases regained

/-- While a connection has no id, some index is free. -/
theorem exists_free {center : ServerIdCenterService σ keys} (valid : Valid ids center) {c : Nat}
    (bare : center.connections.find? c = some 0)
    (room : center.connections.entries.length ≤ ids.maxObjectId) : ∃ id, ids.Free center.serverIdManager.idManager id := by
  by_contra none
  have taken (id : Nat) : ∃ c', id ∈ List.range' 1 ids.maxObjectId →
      ∃ serverId, center.connections.find? c' = some serverId ∧ idIndex serverId = id := by
    by_cases range : id ∈ List.range' 1 ids.maxObjectId
    · have bounds : 1 ≤ id ∧ id ≤ ids.maxObjectId := by
        have inside := List.mem_range'_1.mp range
        omega
      obtain ⟨c',found⟩ := valid.taken id bounds.1 fun zero => none ⟨id,(valid.free id).mpr ⟨bounds,zero⟩⟩
      exact ⟨c',fun _ => found⟩
    · exact ⟨0,fun inside => absurd inside range⟩
  choose holder holds using taken
  -- one connection for each index, and none of them is the one without an id
  have once : ((List.range' 1 ids.maxObjectId).map holder).Nodup := by
    refine List.Nodup.map_on ?_ List.nodup_range'
    intro id range id' range' same
    obtain ⟨serverId,found,rfl⟩ := holds id range
    obtain ⟨serverId',found',rfl⟩ := holds id' range'
    rw [← same,found] at found'
    rw [Option.some.inj found']
  have sub : (List.range' 1 ids.maxObjectId).map holder ⊆ (center.connections.release c).entries.map Prod.fst := by
    intro c' member
    obtain ⟨id,range,rfl⟩ := List.mem_map.mp member
    obtain ⟨serverId,found,index⟩ := holds id range
    have apart : holder id ≠ c := by
      intro same
      rw [same,bare] at found
      obtain rfl := Option.some.inj found
      have zero : idIndex 0 = 0 := by decide
      have inside := (List.mem_range'_1.mp range).1
      omega
    have kept : (center.connections.release c).find? (holder id) = some serverId := by
      rw [Storage.find?_release,if_neg apart]
      exact found
    exact List.mem_map.mpr ⟨_,Storage.mem_of_find? kept,rfl⟩
  have few := (once.subperm sub).length_le
  rw [List.length_map,List.length_map,List.length_range'] at few
  have one := Storage.length_release bare
  omega

/-- The center has no more connections than indices. -/
structure Supplied (ids : ObjectIdManager σ) (s : Fleet σ keys) (log : List FleetAction) : Prop where
  linked : Linked ids s
  given : ∀ c r, r ∈ s.responses c → r ≠ 0
  silent : ∀ i, .assertion i ∉ log

theorem capacity_step (linked : Linked ids s) (e : FleetEvent) :
    (s.step ids e).1.center.connections.capacity = s.center.connections.capacity := by
  have outcome := linked.outcome e
  generalize s.step ids e = result at outcome
  cases outcome with
  | connect up acquired => exact (Storage.acquire_spec acquired).2.2.2
  | _ => rfl

theorem supplied_step (complete : Complete ids) (supplied : Supplied ids s log)
    (room : s.center.connections.capacity ≤ ids.maxObjectId) (e : FleetEvent) :
    Supplied ids (s.step ids e).1 (log ++ (s.step ids e).2) := by
  obtain ⟨linked,given,silent⟩ := supplied
  have after := linked_step linked e
  have outcome := linked.outcome e
  have quiet {out : List FleetAction} (none : ∀ i, .assertion i ∉ out) (i : Nat) : .assertion i ∉ log ++ out :=
    fun member => (List.mem_append.mp member).elim (silent i) (none i)
  generalize s.step ids e = result at outcome after ⊢
  cases outcome with
  | idle => exact ⟨after,given,quiet (by simp)⟩
  | start => exact ⟨after,given,quiet (by simp)⟩
  | stop => exact ⟨after,given,quiet (by simp)⟩
  | connect up acquired => exact ⟨after,given,quiet (by simp)⟩
  | dropped => exact ⟨after,given,quiet (by simp)⟩
  | @answered c q g drawn serverIdManager here open_ regained gained =>
    refine ⟨after,fun c' r member => ?_,quiet (by simp)⟩
    by_cases same : c' = c
    · subst same
      dsimp only at member
      rw [Function.update_self] at member
      rcases List.mem_append.mp member with old | new
      · exact given c' r old
      · obtain rfl := List.mem_singleton.mp new
        obtain ⟨id,free⟩ := exists_free linked.valid open_ (linked.room.trans room)
        exact regainServerId_some complete linked.valid.free free regained
    · dsimp only at member
      rw [Function.update_of_ne same] at member
      exact given c' r member
  | close => exact ⟨after,given,quiet (by simp)⟩
  | restart => exact ⟨after,given,quiet (by simp)⟩
  | @took i c r rest posted p p' written up connected here updated =>
    obtain ⟨rfl,-,-⟩ := linked.answered c r rest here
    refine ⟨after,fun c' r' member => ?_,quiet (by simp)⟩
    dsimp only [setHost] at member
    by_cases same : c' = c
    · rw [same,Function.update_self] at member
      cases member
    · rw [Function.update_of_ne same] at member
      exact given c' r' member
  | @failed i c r rest p written up connected here zero =>
    exact absurd zero (given c r (by rw [here]; exact List.mem_cons_self))
  | own => exact ⟨after,given,quiet (by simp)⟩

/-- As long as the center takes no more connections than it has indices, no server is told that there
is no id for it. -/
theorem no_server_without_id (complete : Complete ids) (reach : (fleetMachine ids keys).Reach Machine.anything s log)
    (room : s.center.connections.capacity ≤ ids.maxObjectId) : ∀ i, .assertion i ∉ log := by
  have kept : Linked ids s ∧ (s.center.connections.capacity ≤ ids.maxObjectId → Supplied ids s log) := by
    apply reach.invariant (I := fun s log =>
      Linked ids s ∧ (s.center.connections.capacity ≤ ids.maxObjectId → Supplied ids s log))
    · rintro _ ⟨maxIdIndex,files,rfl⟩
      exact ⟨linked_init maxIdIndex files,fun _ => ⟨linked_init maxIdIndex files,by simp,by simp⟩⟩
    · rintro s log e _ _ ⟨linked,supplied⟩
      refine ⟨linked_step linked e,fun room => ?_⟩
      have same : ((fleetMachine ids keys).step s e).1.center.connections.capacity =
          s.center.connections.capacity := capacity_step linked e
      rw [same] at room
      exact supplied_step complete (supplied room) room e
  exact (kept.2 room).silent

theorem complete_hundredIds : Complete hundredIds := by
  intro s positive zero id free
  cases s with
  | nil => cases free
  | cons first rest =>
    have pos : 1 ≤ first := positive first List.mem_cons_self
    have first_zero : first = 0 := zero
    omega

theorem no_server_without_id_two :
    .assertion 1 ∉ (fleet reconnected).2 ∧ .assertion 2 ∉ (fleet reconnected).2 := by
  have silent := no_server_without_id complete_hundredIds (Machine.reach_run oneServer_start reconnected)
    (by decide +kernel)
  exact ⟨silent 1,silent 2⟩

end MiniPP.ServerId
