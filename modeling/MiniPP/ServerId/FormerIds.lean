import MiniPP.ServerId.Agreement

/-! Servers keep their ids through lost connections and restarts, of their own and of the center,
unless the index was given to somebody else in between. -/
namespace MiniPP.ServerId

open Fleet

variable {σ : Type} {keys : KeySource} {ids : ObjectIdManager σ} {s : Fleet σ keys} {log : List FleetAction}

/-- The last id that a server was told. -/
def lastTold (i : Nat) (log : List FleetAction) : Option Nat :=
  (log.filterMap fun
    | .updated j serverId => if j = i then some serverId else none
    | _ => none).getLast?

/-- The file of a server can be written. -/
def Written (_ : Fleet σ keys) (_ : List FleetAction) : FleetEvent → Prop
  | .clientReads _ written => written = true
  | _ => True

/-- A number that the center would take for one of its ids. -/
structure Formed (ids : ObjectIdManager σ) (serverId : Nat) : Prop where
  word : serverId < 2^64
  index : 1 ≤ idIndex serverId ∧ idIndex serverId ≤ ids.maxObjectId
  random : 0 < idRandom serverId
  checkSum : generateCheckSum (idIndex serverId) (idRandom serverId) = some (idCheckSum serverId)

/-- What a server was told it goes by, and asks for, until it is told otherwise. Its file has it too. -/
structure Remembers (ids : ObjectIdManager σ) (s : Fleet σ keys) (log : List FleetAction) : Prop where
  linked : Linked ids s
  formed : ∀ c r, r ∈ s.responses c → r = 0 ∨ Formed ids r
  told : ∀ i t, lastTold i log = some t → t = 0 ∨ Formed ids t
  up : ∀ i p t, (s.hosts i).process = some p → lastTold i log = some t → p.serverIdClient.localServerId = t
  file : ∀ i t, lastTold i log = some t → loadLocalServerId (s.hosts i).file = t
  asks : ∀ i p c q, (s.hosts i).process = some p → p.serverIdClient.connection = some c →
    s.requests c = [q] → p.serverIdClient.localServerId = q

theorem lastTold_quiet (i : Nat) (log : List FleetAction) {out : List FleetAction}
    (quiet : ∀ j r, .updated j r ∉ out) : lastTold i (log ++ out) = lastTold i log := by
  have nothing : out.filterMap (fun
      | .updated j serverId => if j = i then some serverId else none
      | _ => none) = [] := by
    rw [List.filterMap_eq_nil_iff]
    intro a member
    cases a with
    | updated j r => exact absurd member (quiet j r)
    | _ => rfl
  rw [lastTold,List.filterMap_append,nothing,List.append_nil]
  rfl

theorem lastTold_updated (i j r : Nat) (log : List FleetAction) {out : List FleetAction}
    (quiet : ∀ j r, .updated j r ∉ out) :
    lastTold i (log ++ .updated j r :: out) = if j = i then some r else lastTold i log := by
  have split : log ++ .updated j r :: out = (log ++ [.updated j r]) ++ out := by simp
  rw [split,lastTold_quiet i _ quiet,lastTold,List.filterMap_append]
  by_cases same : j = i
  · simp [same]
  · simp [same,lastTold]

/-- The answer to a request is a number that the center takes for an id, if it is one. -/
theorem Formed.of_gained {m m' : ServerIdManager σ} {drawn : UInt32} {previous serverId : Nat}
    (word : previous < 2^64) (regained : m.regainServerId ids drawn previous = some (serverId,m'))
    (gained : Gained ids m serverId m') : serverId = 0 ∨ Formed ids serverId := by
  rcases gained.2 with ⟨zero,-⟩ | ⟨-,used,-⟩
  · exact .inl zero
  · exact .inr ⟨regainServerId_lt word regained,used.index,used.random,used.checkSum⟩

/-- A server changes, and is told nothing. -/
theorem Remembers.setHost (remembers : Remembers ids s log) {i : Nat} {host : Host} {out : List FleetAction}
    (quiet : ∀ j r, .updated j r ∉ out) (linked : Linked ids (s.setHost i host)) (same : host.file = (s.hosts i).file)
    (up : ∀ p t, host.process = some p → lastTold i log = some t → p.serverIdClient.localServerId = t)
    (asks : ∀ p c q, host.process = some p → p.serverIdClient.connection = some c → s.requests c = [q] →
      p.serverIdClient.localServerId = q) : Remembers ids (s.setHost i host) (log ++ out) where
  linked := linked
  formed := remembers.formed
  told j t last := by
    rw [lastTold_quiet j log quiet] at last
    exact remembers.told j t last
  up j p t here last := by
    rw [lastTold_quiet j log quiet] at last
    rw [setHost_process] at here
    split at here
    · next own =>
      subst own
      exact up p t here last
    · exact remembers.up j p t here last
  file j t last := by
    rw [lastTold_quiet j log quiet] at last
    dsimp only [Fleet.setHost]
    by_cases own : j = i
    · subst own
      rw [Function.update_self,same]
      exact remembers.file j t last
    · rw [Function.update_of_ne own]
      exact remembers.file j t last
  asks j p c q here connected asked := by
    rw [setHost_process] at here
    split at here
    · exact asks p c q here connected asked
    · exact remembers.asks j p c q here connected asked

/-- A server is told an id, and its file is written. -/
theorem Remembers.tell (remembers : Remembers ids s log) {i c r : Nat} {rest : List Nat} {out : List FleetAction}
    (quiet : ∀ j r, .updated j r ∉ out) (here : s.responses c = r :: rest) {process : Option ServerProcess}
    (linked : Linked ids ({ s with responses := Function.update s.responses c rest }.setHost i
      { file := some (dumpLocalServerId r), process }))
    (took : ∀ p, process = some p → p.serverIdClient.localServerId = r ∧ p.serverIdClient.connection = some c) :
    Remembers ids ({ s with responses := Function.update s.responses c rest }.setHost i
      { file := some (dumpLocalServerId r), process }) (log ++ .updated i r :: out) := by
  obtain ⟨rfl,quietly,-⟩ := remembers.linked.answered c r rest here
  have given := remembers.formed c r (by rw [here]; exact List.mem_cons_self)
  have word : r < 2^64 := by
    rcases given with rfl | formed
    · exact Nat.two_pow_pos 64
    · exact formed.word
  constructor
  case linked => exact linked
  case formed =>
    intro c' r' member
    dsimp only [Fleet.setHost] at member
    by_cases same : c' = c
    · rw [same,Function.update_self] at member
      cases member
    · rw [Function.update_of_ne same] at member
      exact remembers.formed c' r' member
  case told =>
    intro j t last
    rw [lastTold_updated j i r log quiet] at last
    split at last
    · obtain rfl := Option.some.inj last
      exact given
    · exact remembers.told j t last
  case up =>
    intro j p t here last
    rw [lastTold_updated j i r log quiet] at last
    rw [setHost_process] at here
    by_cases own : i = j
    · subst own
      rw [if_pos rfl] at last here
      rw [(took p here).1]
      exact Option.some.inj last
    · rw [if_neg own] at last
      rw [if_neg (Ne.symm own)] at here
      exact remembers.up j p t here last
  case file =>
    intro j t last
    rw [lastTold_updated j i r log quiet] at last
    dsimp only [Fleet.setHost]
    by_cases own : i = j
    · subst own
      rw [if_pos rfl] at last
      rw [Function.update_self,load_dump word]
      exact Option.some.inj last
    · rw [if_neg own] at last
      rw [Function.update_of_ne (Ne.symm own)]
      exact remembers.file j t last
  case asks =>
    intro j p c' q here connected asked
    rw [setHost_process] at here
    split at here
    · obtain ⟨-,own⟩ := took p here
      obtain rfl := Option.some.inj (own.symm.trans connected)
      rw [show s.requests c = [q] from asked] at quietly
      cases quietly
    · exact remembers.asks j p c' q here connected asked

/-- A server asks for the id that it has. -/
theorem Remembers.ask (remembers : Remembers ids s log) {i c : Nat} {p : ServerProcess}
    {connections : Storage keys Nat} (up : (s.hosts i).process = some p)
    (acquired : s.center.connections.acquire (fun _ => 0) = some (c,connections))
    (linked : Linked ids { s.setHost i { file := (s.hosts i).file, process := some { p with
        serverIdClient := { p.serverIdClient with connection := some c } } } with
      center := { s.center with connections }
      requests := Function.update s.requests c [p.serverIdClient.localServerId] }) :
    Remembers ids { s.setHost i { file := (s.hosts i).file, process := some { p with
        serverIdClient := { p.serverIdClient with connection := some c } } } with
      center := { s.center with connections }
      requests := Function.update s.requests c [p.serverIdClient.localServerId] }
      (log ++ [.center (.accepted c),.asked i c p.serverIdClient.localServerId]) := by
  obtain ⟨-,new⟩ := Storage.acquired_fresh acquired
  have quiet (j : Nat) : lastTold j (log ++ [.center (.accepted c),.asked i c p.serverIdClient.localServerId]) =
      lastTold j log := lastTold_quiet j log (by simp)
  constructor
  case linked => exact linked
  case formed => exact remembers.formed
  case told =>
    intro j t last
    rw [quiet] at last
    exact remembers.told j t last
  case up =>
    intro j q t here last
    rw [quiet] at last
    rw [setHost_process] at here
    split at here
    · next own =>
      subst own
      obtain rfl := Option.some.inj here
      exact remembers.up j p t up last
    · exact remembers.up j q t here last
  case file =>
    intro j t last
    rw [quiet] at last
    dsimp only [Fleet.setHost]
    by_cases own : j = i
    · subst own
      rw [Function.update_self]
      exact remembers.file j t last
    · rw [Function.update_of_ne own]
      exact remembers.file j t last
  case asks =>
    intro j q c' r here connected asked
    rw [setHost_process] at here
    dsimp only at asked
    split at here
    · next own =>
      subst own
      obtain rfl := Option.some.inj here
      obtain rfl := Option.some.inj connected
      rw [Function.update_self] at asked
      exact (List.cons.inj asked).1
    · have apart : c' ≠ c := by
        rintro rfl
        exact new (remembers.linked.issued j q c' here connected)
      rw [Function.update_of_ne apart] at asked
      exact remembers.asks j q c' r here connected asked

/-- Nothing happens to the servers. -/
theorem Remembers.elsewhere (remembers : Remembers ids s log) {s' : Fleet σ keys} {out : List FleetAction}
    (quiet : ∀ j r, .updated j r ∉ out) (linked : Linked ids s') (hosts : s'.hosts = s.hosts)
    (formed : ∀ c r, r ∈ s'.responses c → r = 0 ∨ Formed ids r)
    (fewer : ∀ c q, s'.requests c = [q] → s.requests c = [q]) : Remembers ids s' (log ++ out) where
  linked := linked
  formed := formed
  told j t last := remembers.told j t (by rwa [lastTold_quiet j log quiet] at last)
  up j p t here last := remembers.up j p t (hosts ▸ here) (by rwa [lastTold_quiet j log quiet] at last)
  file j t last := by
    rw [hosts]
    exact remembers.file j t (by rwa [lastTold_quiet j log quiet] at last)
  asks j p c q here connected asked := remembers.asks j p c q (hosts ▸ here) connected (fewer c q asked)

theorem remembers_step (remembers : Remembers ids s log) {e : FleetEvent} (written : Written s log e) :
    Remembers ids (s.step ids e).1 (log ++ (s.step ids e).2) := by
  have after := linked_step remembers.linked e
  have outcome := remembers.linked.outcome e
  generalize s.step ids e = result at outcome after ⊢
  cases outcome with
  | idle =>
    rw [List.append_nil]
    exact remembers
  | @start i down =>
    refine remembers.setHost (by simp) after rfl ?_ ?_
    · intro p t same last
      obtain rfl := Option.some.inj same
      exact remembers.file i t last
    · intro p c q same connected
      obtain rfl := Option.some.inj same
      cases connected
  | stop i => exact remembers.setHost (by simp) after rfl (fun p t up => by cases up) (fun p c q up => by cases up)
  | connect up acquired => exact remembers.ask up acquired after
  | @dropped c q drawn here gone =>
    refine remembers.elsewhere (by simp) after rfl remembers.formed fun c' q' asked => ?_
    dsimp only at asked
    by_cases same : c' = c
    · rw [same,Function.update_self] at asked
      cases asked
    · rwa [Function.update_of_ne same] at asked
  | @answered c q g drawn serverIdManager here open_ regained gained =>
    refine remembers.elsewhere (by simp) after rfl (fun c' r member => ?_) fun c' q' asked => ?_
    · dsimp only at member
      by_cases same : c' = c
      · subst same
        rw [Function.update_self] at member
        rcases List.mem_append.mp member with old | new
        · exact remembers.formed c' r old
        · obtain rfl := List.mem_singleton.mp new
          exact Formed.of_gained q.toUInt64.toNat_lt regained gained
      · rw [Function.update_of_ne same] at member
        exact remembers.formed c' r member
    · dsimp only at asked
      by_cases same : c' = c
      · rw [same,Function.update_self] at asked
        cases asked
      · rwa [Function.update_of_ne same] at asked
  | close => exact remembers.elsewhere (by simp) after rfl remembers.formed fun c q asked => asked
  | restart => exact remembers.elsewhere (by simp) after rfl remembers.formed fun c q asked => asked
  | took up connected here updated =>
    obtain rfl : _ = true := written
    rw [if_pos rfl] at after ⊢
    refine remembers.tell (by simp) here after fun p same => ?_
    obtain rfl := Option.some.inj same
    obtain ⟨⟨-,local_,-⟩,kept⟩ := onServerIdUpdated_took updated
    exact ⟨local_,kept.trans connected⟩
  | failed up connected here zero =>
    obtain rfl : _ = true := written
    rw [if_pos rfl] at after ⊢
    exact remembers.tell (by simp) here after fun p gone => by cases gone
  | @own _ i p p' unread up connection local_ =>
    refine remembers.setHost (by simp) after rfl ?_ ?_
    · intro q t same last
      obtain rfl := Option.some.inj same
      rw [local_]
      exact remembers.up i p t up last
    · intro q c r same connected asked
      obtain rfl := Option.some.inj same
      rcases connection with none | kept
      · rw [none] at connected
        cases connected
      · rw [local_]
        exact remembers.asks i p c r up (kept ▸ connected) asked

theorem remembers_reach (reach : (fleetMachine ids keys).Reach Written s log) : Remembers ids s log := by
  apply reach.invariant (I := Remembers ids)
  · rintro _ ⟨maxIdIndex,files,rfl⟩
    exact ⟨linked_init maxIdIndex files,by simp,by simp [lastTold],by simp,by simp [lastTold],by simp⟩
  · intro s log e _ written remembers
    exact remembers_step remembers written

/-- A slot is in use just if some connection has an id of its index. -/
theorem taken_iff {center : ServerIdCenterService σ keys} (valid : Valid ids center) {id : Nat} (pos : 1 ≤ id) :
    center.serverIdManager.randomPool (id - 1) ≠ 0 ↔
      ∃ c serverId, center.connections.find? c = some serverId ∧ idIndex serverId = id := by
  constructor
  · exact valid.taken id pos
  · rintro ⟨c,serverId,found,rfl⟩ zero
    have given : serverId ≠ 0 := by
      rintro rfl
      exact absurd pos (by decide)
    have used := valid.held c serverId found given
    have random := used.random
    rw [← used.slot,zero] at random
    exact absurd random (Nat.lt_irrefl 0)

theorem regained_iff {m m' : ServerIdManager σ} {drawn : UInt32} {previous g : Nat} (slots : SlotsFree ids m)
    (formed : Formed ids previous) (regained : m.regainServerId ids drawn previous = some (g,m')) :
    g = previous ↔ m.randomPool (idIndex previous - 1) = 0 := by
  constructor
  · rintro rfl
    obtain ⟨g',m'',result,-,⟨rfl,-⟩ | ⟨empty,-⟩⟩ := regainServerId_spec slots drawn g
    · obtain ⟨rfl,-⟩ := Prod.mk.inj (Option.some.inj (regained.symm.trans result))
      exact absurd formed.index.1 (by decide)
    · obtain ⟨rfl,-⟩ := Prod.mk.inj (Option.some.inj (regained.symm.trans result))
      exact empty
  · intro empty
    obtain ⟨m'',result⟩ := regain_of_regainable slots ⟨formed.index,formed.random,formed.checkSum,empty⟩ drawn
    exact (Prod.mk.inj (Option.some.inj (regained.symm.trans result))).1

/-- In every run in which the files can be written, through stops and restarts on both sides: a server
asks for the last id that it was told, and the center gives it that again just if no connection has
an id of the same index. -/
theorem former_id_regained (reach : (fleetMachine ids keys).Reach Written s log) {i c q t : Nat} {p : ServerProcess}
    (up : (s.hosts i).process = some p) (connected : p.serverIdClient.connection = some c)
    (asked : s.requests c = [q]) (told : lastTold i log = some t) (given : t ≠ 0)
    (open_ : s.center.connections.find? c ≠ none) (drawn : UInt32) :
    ∃ g, (s.step ids (.centerReads c drawn)).1.responses c = [g] ∧
      (g = t ↔ ∀ c' serverId, s.center.connections.find? c' = some serverId → idIndex serverId ≠ idIndex t) := by
  have remembers := remembers_reach reach
  have linked := remembers.linked
  have same : q = t := (remembers.asks i p c q up connected asked).symm.trans (remembers.up i p t up told)
  have formed : Formed ids t := (remembers.told i t told).resolve_left given
  obtain ⟨-,silent,-⟩ := linked.asked c q [] asked
  have outcome := linked.outcome (.centerReads c drawn)
  generalize s.step ids (.centerReads c drawn) = result at outcome
  cases outcome with
  | idle unasked =>
    rw [unasked c drawn rfl] at asked
    cases asked
  | dropped here gone => exact absurd gone open_
  | @answered _ q' g _ serverIdManager here bare regained gained =>
    obtain rfl : q' = t := (List.cons.inj (here.symm.trans asked)).1.trans same
    rw [UInt64.toNat_ofNat_of_lt' formed.word] at regained
    refine ⟨g,by simp [silent],?_⟩
    rw [regained_iff linked.valid.free formed regained]
    have taken := taken_iff linked.valid formed.index.1
    constructor
    · intro empty c' serverId found index
      exact taken.mpr ⟨c',serverId,found,index⟩ empty
    · intro nobody
      by_contra used
      obtain ⟨c',serverId,found,index⟩ := taken.mp used
      exact nobody c' serverId found index
  | own unread => exact absurd rfl (unread c drawn)

theorem former_id_regained_one :
    ∃ g, ((fleet comesBack).1.step hundredIds (.centerReads 2 9)).1.responses 2 = [g] ∧
      (g = firstId.toNat ↔ ∀ c serverId, (fleet comesBack).1.center.connections.find? c = some serverId →
        idIndex serverId ≠ idIndex firstId.toNat) := by
  have allowed : (fleetMachine hundredIds .sequential).Allowed Written oneServer [] comesBack :=
    ⟨trivial,trivial,trivial,rfl,trivial,trivial,trivial,trivial,trivial⟩
  have reach : (fleetMachine hundredIds .sequential).Reach Written (fleet comesBack).1 (fleet comesBack).2 := by
    simpa using Machine.Reach.run (.start oneServer_start) comesBack allowed
  have up : ((fleet comesBack).1.hosts 1).process = some ⟨⟨firstId.toNat,some 2⟩,{}⟩ := by decide +kernel
  exact former_id_regained reach up rfl (q := firstId.toNat) (by decide +kernel) (by decide +kernel)
    (by decide) (by decide +kernel) 9

end MiniPP.ServerId
