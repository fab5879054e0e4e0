import MiniPP.ConfigCenter.Challenge
import MiniPP.ConfigCenter.Runs

/-! Whatever datagrams come in, each challenge that is signed is answered, to its sender and with its
region, and the relay servers of the file take turns in the order of the file. -/
namespace MiniPP.ConfigCenter

open GeoIp Message ServerId RelayServerManager RoundRobin

variable {σ : Type} {ids : ObjectIdManagerMini σ} {m m' : RelayServerManager σ} {x : ChallengeLibrary}
  {fuel : Nat}

/-! ## The start -/

/-- The list and the allocated ids agree, and the slots outside the list are blank. -/
structure Occupied (ids : ObjectIdManagerMini σ) (m : RelayServerManager σ) : Prop where
  ids : ∀ id, ids.Allocated m.idManager id ↔ ∃ index ∈ m.relayServerListAll, id = index + 1
  blank : ∀ index, index ∉ m.relayServerListAll → m.relayServerPool index = .blank

theorem occupied_init (ids : ObjectIdManagerMini σ) : Occupied ids (.init ids) :=
  ⟨(good_init ids).ids,(good_init ids).blank⟩

/-- An id that stands for a slot of the pool. -/
def InPool (id : Nat) : Prop := id ≠ 0 ∧ id ≤ relayServerPoolSize

/-- No assertion fails, and a server whose id is in the pool is the last of the queue. -/
theorem Occupied.addServerInfo (occupied : Occupied ids m) {newInfo : RelayServerBase}
    (unset : newInfo.key = 0) (nowMS : Nat) :
    ∃ key m', m.addServerInfo ids newInfo nowMS = some (key,m') ∧ Occupied ids m' ∧
      (¬ InPool (ids.acquire m.idManager).1 ∧ servers m' = servers m ∨
        InPool (ids.acquire m.idManager).1 ∧ m'.idManager = (ids.acquire m.idManager).2 ∧
          servers m' = servers m ++ [{ newInfo with key }]) := by
  unfold RelayServerManager.addServerInfo
  rw [if_neg (not_not.mpr unset)]
  dsimp only
  rcases ids.acquire_spec m.idManager with ⟨zero,same⟩ | ⟨nonzero,free,allocated⟩
  · rw [if_pos zero]
    refine ⟨0,_,rfl,⟨fun id => (same id).trans (occupied.ids id),occupied.blank⟩,.inl ⟨?_,rfl⟩⟩
    exact fun pool => pool.1 zero
  · rw [if_neg nonzero]
    split
    · next large =>
      have own : ids.Allocated (ids.acquire m.idManager).2 (ids.acquire m.idManager).1 :=
        (allocated _).mpr (.inr rfl)
      have same (id : Nat) : ids.Allocated (ids.release (ids.acquire m.idManager).2
          (ids.acquire m.idManager).1) id ↔ ids.Allocated m.idManager id := by
        rw [ids.release_spec _ _ own,allocated]
        constructor
        · rintro ⟨old | new,other⟩
          · exact old
          · exact absurd new other
        · intro old
          refine ⟨.inl old,?_⟩
          rintro rfl
          exact free old
      refine ⟨0,_,rfl,⟨fun id => (same id).trans (occupied.ids id),occupied.blank⟩,.inl ⟨?_,rfl⟩⟩
      exact fun pool => absurd pool.2 (Nat.not_le.mpr large)
    · next small =>
      have first : (ids.acquire m.idManager).1 = (ids.acquire m.idManager).1 - 1 + 1 := by omega
      have unlisted : (ids.acquire m.idManager).1 - 1 ∉ m.relayServerListAll :=
        fun member => free ((occupied.ids _).mpr ⟨_,member,first⟩)
      have empty : (m.relayServerPool ((ids.acquire m.idManager).1 - 1)).key = 0 :=
        congrArg RelayServerBase.key (occupied.blank _ unlisted)
      rw [if_neg (not_not.mpr empty)]
      refine ⟨_,_,rfl,⟨fun id => ?_,fun index outside => ?_⟩,
        .inr ⟨⟨nonzero,Nat.not_lt.mp small⟩,rfl,servers_register unlisted _ _⟩⟩
      · rw [allocated,occupied.ids]
        simp only [List.mem_append,List.mem_singleton]
        constructor
        · rintro (⟨index,member,rfl⟩ | rfl)
          · exact ⟨index,.inl member,rfl⟩
          · exact ⟨_,.inr rfl,first⟩
        · rintro ⟨index,member | rfl,same⟩
          · exact .inl ⟨index,member,same⟩
          · exact .inr (same.trans first.symm)
      · obtain ⟨old,apart⟩ : index ∉ m.relayServerListAll ∧ index ≠ (ids.acquire m.idManager).1 - 1 := by
          simpa using outside
        exact (Function.update_of_ne apart _ _).trans (occupied.blank index old)

/-- The manager of ids after so many acquisitions. -/
def acquired (ids : ObjectIdManagerMini σ) : Nat → σ
  | 0 => ids.init
  | n + 1 => (ids.acquire (acquired ids n)).2

/-- The first ids are in the pool. -/
def Plenty (ids : ObjectIdManagerMini σ) (n : Nat) : Prop :=
  ∀ i < n, InPool (ids.acquire (acquired ids i)).1

theorem loaded_unset {lines : List Bytes} {forced : List RelayServerBase}
    (loaded : loadForcedRelayerServers x lines = some forced) : ∀ server ∈ forced, server.key = 0 := by
  induction lines generalizing forced with
  | nil =>
    obtain rfl := Option.some.inj loaded
    simp
  | cons line rest ih =>
    rw [loadForcedRelayerServers] at loaded
    split at loaded
    · exact ih loaded
    · split at loaded
      · exact ih loaded
      · split at loaded
        · cases loaded
        · dsimp only at loaded
          split at loaded
          · obtain ⟨later,found,rfl⟩ := Option.map_eq_some_iff.mp loaded
            intro server member
            rcases List.mem_cons.mp member with rfl | member
            · rfl
            · exact ih found server member
          · cases loaded

/-- The servers of the file stand in the queue in its order, and all of them if there are ids. -/
theorem addForcedRelayServers_queue (clock : Nat → UInt64) {forced : List RelayServerBase}
    (unset : ∀ server ∈ forced, server.key = 0) (i : Nat) (occupied : Occupied ids m) :
    ∃ m', addForcedRelayServers ids clock i forced m = some m' ∧
      ∃ added, (servers m').map addresses = (servers m).map addresses ++ added ∧
        added.Sublist (forced.map addresses) ∧
        ((m.idManager = acquired ids i ∧ Plenty ids (i + forced.length)) → added = forced.map addresses) := by
  induction forced generalizing m i with
  | nil => exact ⟨m,rfl,[],by simp,List.Sublist.slnil,fun _ => rfl⟩
  | cons server rest ih =>
    obtain ⟨key,m',result,occupied',outcome⟩ :=
      occupied.addServerInfo (unset server (by simp)) (clock i).toNat
    obtain ⟨m'',later,added,queue,sub,all⟩ :=
      ih (fun other member => unset other (by simp [member])) (i + 1) occupied'
    refine ⟨m'',by rw [addForcedRelayServers,result]; exact later,?_⟩
    rcases outcome with ⟨outside,same⟩ | ⟨inside,manager,same⟩
    · refine ⟨added,by rw [queue,same],sub.cons _,?_⟩
      rintro ⟨start,plenty⟩
      have pool := plenty i (by simp)
      rw [← start] at pool
      exact absurd pool outside
    · refine ⟨addresses server :: added,?_,sub.cons_cons _,?_⟩
      · rw [queue,same,List.map_append,List.append_assoc]
        rfl
      · rintro ⟨start,plenty⟩
        rw [all ⟨by rw [manager,start,acquired],fun j less => plenty j (by simp at less ⊢; omega)⟩]
        rfl

/-! ## The turns -/

/-- The relay servers that were named to devices. -/
def assignments (log : List Post) : List (NetAddress × NetAddress) :=
  (log.filter (fun p => p.channel == .challenge)).map (fun p => p.resp.relay)

theorem assignments_append (front back : List Post) :
    assignments (front ++ back) = assignments front ++ assignments back := by
  rw [assignments,List.filter_append,List.map_append]
  rfl

/-- The relay servers in the order of their turns. -/
def queueOf (c : Center σ) : List (NetAddress × NetAddress) := (servers c.relayServerManager).map addresses

/-- What a datagram does to the queue, if the process is still there. Where there is no server, the
device is sent nowhere. -/
inductive Assigns : List (NetAddress × NetAddress) → List (NetAddress × NetAddress) →
    List (NetAddress × NetAddress) → Prop where
  | idle (queue : List (NetAddress × NetAddress)) : Assigns queue [] queue
  | turn (first : NetAddress × NetAddress) (rest : List (NetAddress × NetAddress)) :
      Assigns (first :: rest) [first] (rest ++ [first])
  | nobody : Assigns [] [(.unspecified,.unspecified)] []

/-- Whose turn it is, and what becomes of the queue. -/
theorem queue_turn (c : Center σ) :
    (c.relayServerManager.getAnyRelayServer.1 = none ∧ queueOf c = [] ∧
      queueOf { c with relayServerManager := c.relayServerManager.getAnyRelayServer.2 } = []) ∨
    ∃ server rest, c.relayServerManager.getAnyRelayServer.1 = some server ∧
      queueOf c = addresses server :: rest ∧
      queueOf { c with relayServerManager := c.relayServerManager.getAnyRelayServer.2 } =
        rest ++ [addresses server] := by
  cases list : c.relayServerManager.relayServerListAll with
  | nil => exact .inl (by simp [queueOf,servers,getAnyRelayServer,list])
  | cons index rest =>
    refine .inr ⟨c.relayServerManager.relayServerPool index,
      (rest.map c.relayServerManager.relayServerPool).map addresses,?_⟩
    simp [queueOf,servers,getAnyRelayServer,list]

theorem challengeStep_assigns (x : ChallengeLibrary) (fuel : Nat) (c : Center σ) (d : Datagram) :
    challengeStep x fuel (some c) d = (none,[]) ∨
    ∃ c' out, challengeStep x fuel (some c) d = (some c',out) ∧
      Assigns (queueOf c) (assignments out) (queueOf c') := by
  have reacts := challengeStep_reacts x fuel c d
  generalize challengeStep x fuel (some c) d = result at reacts
  cases reacts with
  | ignored => exact .inr ⟨c,[],rfl,.idle _⟩
  | tested => exact .inr ⟨c,_,rfl,.idle _⟩
  | lost => exact .inl rfl
  | answered signed channel known =>
    refine .inr ⟨_,_,rfl,?_⟩
    rcases queue_turn c with ⟨none,before,after⟩ | ⟨server,rest,turn,before,after⟩
    · rw [before,after,none]
      simpa [assignments,response,channel,DeviceChallengeResp.relay] using Assigns.nobody
    · rw [before,after,turn]
      simpa [assignments,response,channel,DeviceChallengeResp.relay,addresses] using
        Assigns.turn (addresses server) rest

theorem run_gone (x : ChallengeLibrary) (fuel : Nat) (datagrams : List Datagram) :
    ((challengeMachine x fuel).run (none : Option (Center σ)) datagrams).2 = [] := by
  induction datagrams with
  | nil => rfl
  | cons d datagrams ih =>
    rw [Machine.run]
    exact ih

theorem run_assigns (x : ChallengeLibrary) (fuel : Nat) (c : Center σ) (datagrams : List Datagram) :
    ∃ queue, Path Assigns (queueOf c) (assignments ((challengeMachine x fuel).run (some c) datagrams).2)
      queue := by
  induction datagrams generalizing c with
  | nil => exact ⟨_,.nil _⟩
  | cons d datagrams ih =>
    rcases challengeStep_assigns x fuel c d with gone | ⟨c',out,next,assigns⟩
    · have step : (challengeMachine x fuel).step (some c) d = (none,[]) := gone
      rw [Machine.run,step]
      dsimp only
      rw [run_gone]
      exact ⟨_,.nil _⟩
    · have step : (challengeMachine x fuel).step (some c) d = (some c',out) := next
      rw [Machine.run,step]
      dsimp only
      rw [assignments_append]
      obtain ⟨queue,path⟩ := ih c'
      exact ⟨queue,.cons assigns path⟩

/-- The turns of a queue that nobody joins or leaves: the order it stands in, again and again. -/
theorem assigned_in_turn {queue queue' log : List (NetAddress × NetAddress)}
    (path : Path Assigns queue log queue') (i : Nat) {assigned : NetAddress × NetAddress}
    (here : log[i]? = some assigned) :
    assigned = queue.getD (i % queue.length) (.unspecified,.unspecified) := by
  by_cases empty : queue = []
  · subst empty
    have start : ([] : List (NetAddress × NetAddress)) = [] ∧
        ∀ assigned ∈ ([] : List (NetAddress × NetAddress)), assigned = (.unspecified,.unspecified) :=
      ⟨rfl,by simp⟩
    have nobody : queue' = [] ∧ ∀ assigned ∈ [] ++ log, assigned = (.unspecified,.unspecified) := by
      refine path.invariant
        (I := fun q log => q = [] ∧ ∀ assigned ∈ log, assigned = (.unspecified,.unspecified)) ?_ start
      rintro q out q' log assigns ⟨rfl,before⟩
      cases assigns with
      | idle => exact ⟨rfl,by simpa using before⟩
      | nobody =>
        refine ⟨rfl,fun assigned member => ?_⟩
        rcases List.mem_append.mp member with old | new
        · exact before assigned old
        · exact List.mem_singleton.mp new
    exact nobody.2 assigned (List.mem_of_getElem? here)
  · have start : Turned (fun _ => true) queue queue [] := by
      have turned : Turned (fun _ => true) (queue.filter fun _ => true) queue [] := turned_start queue
      rwa [List.filter_true] at turned
    have kept : queue' ≠ [] ∧ Turned (fun _ => true) queue queue' ([] ++ log) := by
      refine path.invariant (I := fun q log => q ≠ [] ∧ Turned (fun _ => true) queue q log) ?_ ⟨empty,start⟩
      rintro q out q' log assigns ⟨some_,turned⟩
      cases assigns with
      | idle => exact ⟨some_,by simpa using turned⟩
      | turn first rest => exact ⟨by simp,turned.next rfl⟩
      | nobody => exact absurd rfl some_
    have turn := kept.2.goes i assigned (by simpa using here)
    rw [List.getD_eq_getElem?_getD,turn,Option.getD_some]

/-- The relay servers of the file take turns, in the order of the file, whatever else comes in:
number `i` of the challenges that are answered is sent to number `i` of the servers, counted round
and round. All servers of the file have their turns as long as there are ids for them. -/
theorem relays_take_turns {lines : List Bytes} {forced : List RelayServerBase}
    (loaded : loadForcedRelayerServers x lines = some forced) {rows : RegionList} {file : Option Bytes}
    {ipDb : IpDb} (known : IpDb.init rows file = some ipDb) (clock : Nat → UInt64) (fuel : Nat)
    (datagrams : List Datagram) :
    ∃ c relays, Center.start x ids lines rows file clock = some c ∧
      relays.Sublist (forced.map addresses) ∧
      (Plenty ids forced.length → relays = forced.map addresses) ∧
      ∀ i assigned,
        (assignments ((challengeMachine x fuel).run (some c) datagrams).2)[i]? = some assigned →
          assigned = relays.getD (i % relays.length) (.unspecified,.unspecified) := by
  obtain ⟨m,added,relays,queue,sub,all⟩ :=
    addForcedRelayServers_queue clock (loaded_unset loaded) 0 (occupied_init ids)
  have nothing : (servers (RelayServerManager.init ids)).map addresses = [] := rfl
  rw [nothing,List.nil_append] at queue
  refine ⟨⟨m,ipDb⟩,relays,by simp [Center.start,loaded,known,added],sub,
    fun plenty => all ⟨rfl,by rwa [Nat.zero_add]⟩,?_⟩
  intro i assigned here
  obtain ⟨last,path⟩ := run_assigns x fuel ⟨m,ipDb⟩ datagrams
  have own : queueOf ⟨m,ipDb⟩ = relays := queue
  rw [own] at path
  exact assigned_in_turn path i here

def twoRelays : List Bytes := [ascii "# relays",ascii "10.0.0.1:70, 10.0.0.1:71",ascii "10.0.0.2:70, 10.0.0.2:71"]

def challengeData (timestamp : Nat) (sign : Bytes) : Bytes :=
  PacketLibrary.reference.writeMessage cmdDvCcChallenge 0 [.u32 1,.u64 timestamp,.string sign]

def somebody : NetAddress := ⟨.ipv4,[1,2,3,4],999⟩

/-- A challenge, a forged one, one on the channel for tests, and two more. -/
def fiveDatagrams : List Datagram :=
  let signed := challengeData 5 (ChallengeLibrary.reference.sign 5)
  [⟨.challenge,somebody,signed⟩,⟨.challenge,somebody,challengeData 5 [0]⟩,⟨.ipv6Test,somebody,signed⟩,
    ⟨.challenge,somebody,signed⟩,⟨.challenge,somebody,signed⟩]

def relayAt (number : UInt8) : RelayServerBase :=
  ⟨0,⟨.ipv4,[10,0,0,number],70⟩,⟨.ipv4,[10,0,0,number],71⟩,.unspecified⟩

theorem relays_take_turns_two :
    ∃ c relays, Center.start .reference (.ofList 4096) twoRelays smallRegions (some (smallFile 0))
        (fun _ => 7) = some c ∧
      relays.Sublist ([relayAt 1,relayAt 2].map addresses) ∧
      (Plenty (.ofList 4096) 2 → relays = [relayAt 1,relayAt 2].map addresses) ∧
      ∀ i assigned,
        (assignments ((challengeMachine .reference 32).run (some c) fiveDatagrams).2)[i]? = some assigned →
          assigned = relays.getD (i % relays.length) (.unspecified,.unspecified) := by
  have loaded : loadForcedRelayerServers .reference twoRelays = some [relayAt 1,relayAt 2] := by
    decide +kernel
  exact relays_take_turns loaded smallIpDb_loaded (fun _ => 7) 32 fiveDatagrams

/-! ## The answers -/

variable {t : Tables}

/-- The region of an address by the tables and the list of regions. -/
def Located (inet : Inet) (t : Tables) (rows : RegionList) (ip : Bytes) (region : GeoInfo) : Prop :=
  ∃ r, t.place (parseAddress inet ip) = some r ∧
    ((∃ i, LastLine rows (cString r.countryShort) (cString r.region) i ∧
        region = ⟨countryCodeToCountryId (cString r.countryShort),i,i⟩) ∨
      (∀ i, ¬ LastLine rows (cString r.countryShort) (cString r.region) i) ∧ region = ⟨0,0,0⟩)

/-- The response on the channel for challenges: one of the relay servers, with a key for the region of
the sender, if there is a relay server at all. -/
def Directed (x : ChallengeLibrary) (t : Tables) (rows : RegionList) (relays : List (NetAddress × NetAddress))
    (sender : NetAddress) (resp : DeviceChallengeResp) : Prop :=
  (relays = [] ∧ resp = { terminalAddress := x.ip sender }) ∨
  ∃ relay ∈ relays, ∃ region, Located x.inet t rows (x.ipToString sender) region ∧
    resp = {
      ctrlAddress := relay.1, dataAddress := relay.2
      checkKey := x.checkKey region, terminalAddress := x.ip sender }

/-- The post is the answer to the datagram: it goes to the sender, on the same channel, with the
address of the sender and, on the channel for challenges, with where to connect. -/
structure Answers (x : ChallengeLibrary) (t : Tables) (rows : RegionList) (relays : List (NetAddress × NetAddress))
    (d : Datagram) (p : Post) : Prop where
  channel : p.channel = d.channel
  remoteAddress : p.remoteAddress = d.remoteAddress
  tested : d.channel = .ipv6Test → p.resp = { terminalAddress := x.ip d.remoteAddress }
  directed : d.channel = .challenge → Directed x t rows relays d.remoteAddress p.resp

theorem getRegionByIp_located {rows : RegionList} {db : IpDb} {ip : Bytes} (sized : x.inet.Sized)
    (of : db.regions.Of rows) (holds : db.database.HoldsTables allColumns t) (letters : t.TwoLetters)
    (enough : 32 ≤ fuel) (covered : t.Covers (parseAddress x.inet ip)) :
    ∃ region, getRegionByIp x.inet db fuel ip = some region ∧ Located x.inet t rows ip region := by
  obtain ⟨r,info,placed,found,named⟩ := get_eq sized of holds letters enough covered
  refine ⟨info.getD ⟨0,0,0⟩,by simp [getRegionByIp,found],r,placed,?_⟩
  cases info with
  | none =>
    refine .inr ⟨fun i last => ?_,rfl⟩
    have here := (named _).mpr ⟨i,last,rfl⟩
    cases here
  | some g =>
    obtain ⟨i,last,rfl⟩ := (named g).mp rfl
    exact .inl ⟨i,last,rfl⟩

/-- The tables have the senders of the challenges that are signed. -/
def CoversSender (x : ChallengeLibrary) (t : Tables) (d : Datagram) : Prop :=
  d.channel = .challenge → authentic x d = true → t.Covers (parseAddress x.inet (x.ipToString d.remoteAddress))

/-- A datagram is answered, or it is not signed and nothing happens. The database stays, and so do the
relay servers, in some order. -/
theorem challengeStep_answers {rows : RegionList} {c : Center σ} (sized : x.inet.Sized)
    (of : c.ipDb.regions.Of rows) (holds : c.ipDb.database.HoldsTables allColumns t)
    (letters : t.TwoLetters) (enough : 32 ≤ fuel) {d : Datagram} (covered : CoversSender x t d)
    {relays : List (NetAddress × NetAddress)} (same : (queueOf c).Perm relays) :
    ∃ c' out, challengeStep x fuel (some c) d = (some c',out) ∧ c'.ipDb = c.ipDb ∧ (queueOf c').Perm relays ∧
      List.Forall₂ (Answers x t rows relays) ([d].filter (authentic x)) out := by
  have reacts := challengeStep_reacts x fuel c d
  generalize challengeStep x fuel (some c) d = result at reacts
  cases reacts with
  | ignored forged =>
    refine ⟨c,[],rfl,rfl,same,?_⟩
    rw [List.filter_cons_of_neg (Bool.eq_false_iff.mp forged)]
    exact .nil
  | tested signed channel =>
    refine ⟨c,_,rfl,rfl,same,?_⟩
    rw [List.filter_cons_of_pos signed]
    exact .cons ⟨channel.symm,rfl,fun _ => rfl,fun other => absurd (channel.symm.trans other) (by decide)⟩ .nil
  | lost signed channel wrong =>
    obtain ⟨region,found,-⟩ := getRegionByIp_located sized of holds letters enough (covered channel signed)
    rw [found] at wrong
    cases wrong
  | answered signed channel known =>
    obtain ⟨region,found,located⟩ :=
      getRegionByIp_located sized of holds letters enough (covered channel signed)
    obtain rfl := Option.some.inj (found.symm.trans known)
    rw [List.filter_cons_of_pos signed]
    have answers (directed : Directed x t rows relays d.remoteAddress
        (response x d c.relayServerManager.getAnyRelayServer.1 region)) :
        List.Forall₂ (Answers x t rows relays) (d :: [].filter (authentic x))
          [⟨.challenge,d.remoteAddress,response x d c.relayServerManager.getAnyRelayServer.1 region⟩] :=
      .cons ⟨channel.symm,rfl,fun other => absurd (channel.symm.trans other) (by decide),fun _ => directed⟩ .nil
    rcases queue_turn c with ⟨none,before,after⟩ | ⟨server,rest,turn,before,after⟩
    · rw [before] at same
      refine ⟨_,_,rfl,rfl,by rw [after]; exact same,answers (.inl ⟨List.nil_perm.mp same,?_⟩)⟩
      simp [response,channel,none]
    · rw [before] at same
      refine ⟨_,_,rfl,rfl,by rw [after]; exact (List.perm_append_singleton _ _).trans same,?_⟩
      refine answers (.inr ⟨addresses server,same.mem_iff.mp List.mem_cons_self,region,located,?_⟩)
      simp [response,channel,turn,addresses]

theorem run_answers {rows : RegionList} {c : Center σ} (sized : x.inet.Sized)
    (of : c.ipDb.regions.Of rows) (holds : c.ipDb.database.HoldsTables allColumns t)
    (letters : t.TwoLetters) (enough : 32 ≤ fuel) {datagrams : List Datagram}
    (covered : ∀ d ∈ datagrams, CoversSender x t d) {relays : List (NetAddress × NetAddress)}
    (same : (queueOf c).Perm relays) :
    List.Forall₂ (Answers x t rows relays) (datagrams.filter (authentic x))
      ((challengeMachine x fuel).run (some c) datagrams).2 := by
  induction datagrams generalizing c with
  | nil => exact .nil
  | cons d datagrams ih =>
    obtain ⟨c',out,next,kept,same',answers⟩ :=
      challengeStep_answers sized of holds letters enough (covered d (by simp)) same
    have step : (challengeMachine x fuel).step (some c) d = (some c',out) := next
    rw [← kept] at of holds
    rw [Machine.run,step,← List.singleton_append,List.filter_append]
    exact List.rel_append answers (ih of holds (fun other member => covered other (by simp [member])) same')

/-- What goes out is, one by one, the answers to the challenges that are signed: none of them stays
without an answer, and nothing else is answered. -/
theorem challenges_answered {lines : List Bytes} {rows : RegionList} {file : Option Bytes}
    {clock : Nat → UInt64} {c : Center σ} (started : Center.start x ids lines rows file clock = some c)
    (sized : x.inet.Sized) (holds : c.ipDb.database.HoldsTables allColumns t) (letters : t.TwoLetters)
    (enough : 32 ≤ fuel) {datagrams : List Datagram} (covered : ∀ d ∈ datagrams, CoversSender x t d) :
    List.Forall₂ (Answers x t rows (queueOf c)) (datagrams.filter (authentic x))
      ((challengeMachine x fuel).run (some c) datagrams).2 := by
  simp only [Center.start,Option.bind_eq_bind,Option.bind_eq_some_iff] at started
  obtain ⟨forced,-,ipDb,known,m,-,same⟩ := started
  obtain rfl := Option.some.inj same
  obtain ⟨regions,ofLines,rest⟩ := Option.bind_eq_some_iff.mp known
  obtain ⟨database,-,same⟩ := Option.bind_eq_some_iff.mp rest
  obtain rfl := Option.some.inj same
  exact run_answers sized (of_initKnownGeoInfoList ofLines) holds letters enough covered (.refl _)

def smallCenter : Center (List Nat) :=
  ⟨((addForcedRelayServers (.ofList 4096) (fun _ => 7) 0 [relayAt 1,relayAt 2]
    (.init (.ofList 4096))).getD (.init (.ofList 4096))),smallIpDb⟩

theorem smallCenter_started :
    Center.start .reference (.ofList 4096) twoRelays smallRegions (some (smallFile 0)) (fun _ => 7) =
      some smallCenter := by
  have loaded : loadForcedRelayerServers .reference twoRelays = some [relayAt 1,relayAt 2] := by
    decide +kernel
  simp only [Center.start,loaded,smallIpDb_loaded,Option.bind_eq_bind,Option.bind_some]
  rfl

theorem challenges_answered_five :
    List.Forall₂ (Answers .reference smallTables smallRegions (queueOf smallCenter))
      (fiveDatagrams.filter (authentic .reference))
      ((challengeMachine .reference 32).run (some smallCenter) fiveDatagrams).2 := by
  refine challenges_answered smallCenter_started oneAddress_sized smallIpDb_holds (by decide +kernel)
    (le_refl 32) ?_
  have senders : ∀ d ∈ fiveDatagrams, d.remoteAddress = somebody := by decide +kernel
  intro d member _ _
  rw [senders d member]
  have parsed : parseAddress oneAddress (ChallengeLibrary.reference.ipToString somebody) = .ipv4 16909060 := by
    decide +kernel
  exact Eq.mpr (congrArg smallTables.Covers parsed) trivial

example : assignments ((challengeMachine .reference 32).run (some smallCenter) fiveDatagrams).2 =
    [addresses (relayAt 1),addresses (relayAt 2),addresses (relayAt 1)] := by decide +kernel

end MiniPP.ConfigCenter
