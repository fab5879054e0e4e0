import MiniPP.Placement.Provenance
import MiniPP.Region.CheckKey

/-! The config center, and the system of relays, selector and proxy that devices get into with its
answers. Nothing runs between the two but the devices, which may come with any key. -/
namespace MiniPP.Region

open ConfigCenter GeoIp StateRelay

structure Config (σ : Type) where
  library : ChallengeLibrary
  ids : ObjectIdManagerMini σ
  /-- The file of the forced relay servers, the list of regions and the database of addresses. -/
  lines : List Bytes
  rows : RegionList
  file : Option Bytes
  clock : Nat → UInt64
  fuel : Nat
  placement : Placement.Config

/-- No center is one that has not started, or is gone. -/
structure System (σ : Type) (keys : KeySource) (relayKeys : Relay.Keys) where
  center : Option (Center σ)
  placement : Placement.System keys relayKeys

inductive Event where
  | challenge (d : Datagram)
  | placement (e : Placement.Event)

/-- The messages that devices are registered with, and under which id, are part of the record. -/
inductive Action where
  | answered (p : Post)
  | registered (i deviceId : Nat) (m : TR.InitDataStream)
  | placement (a : Placement.Action)
  deriving DecidableEq

def relayEvent : Placement.Event → Option (Nat × Relay.RelayEvent)
  | .network (.relay i e) => some (i,e)
  | _ => none

variable {σ : Type} {keys : KeySource} {relayKeys : Relay.Keys}

def registrations (cfg : Placement.Config) (s : Placement.System keys relayKeys) (e : Placement.Event) :
    List Action :=
  match relayEvent e with
  | some (i,e) => (Relay.registering (cfg.relays i) (s.network.relays i) e).toList.map
      (fun made => .registered i made.1 made.2)
  | none => []

def System.step (cfg : Config σ) (s : System σ keys relayKeys) : Event → System σ keys relayKeys × List Action
  | .challenge d =>
    let stepped := challengeStep cfg.library cfg.fuel s.center d
    ({ s with center := stepped.1 },stepped.2.map .answered)
  | .placement e =>
    let stepped := s.placement.step cfg.placement e
    ({ s with placement := stepped.1 },registrations cfg.placement s.placement e ++ stepped.2.map .placement)

def wholeMachine (cfg : Config σ) (keys : KeySource) (relayKeys : Relay.Keys) :
    Machine (System σ keys relayKeys) Event Action where
  start s := s.center = Center.start cfg.library cfg.ids cfg.lines cfg.rows cfg.file cfg.clock ∧
    (Placement.systemMachine cfg.placement keys relayKeys).start s.placement
  step s e := s.step cfg e

/-! ## Answers -/

/-- The key of an answer is blank, or made of the region of the address that asked. -/
def Keyed (cfg : Config σ) (p : Post) : Prop :=
  p.resp.checkKey = [] ∨ ∃ ipDb region, IpDb.init cfg.rows cfg.file = some ipDb ∧
    getRegionByIp cfg.library.inet ipDb cfg.fuel (cfg.library.ipToString p.remoteAddress) = some region ∧
      p.resp.checkKey = cfg.library.checkKey region

theorem challengeStep_keyed (cfg : Config σ) {center : Option (Center σ)}
    (own : ∀ c, center = some c → IpDb.init cfg.rows cfg.file = some c.ipDb) (d : Datagram) :
    (∀ c, (challengeStep cfg.library cfg.fuel center d).1 = some c →
        IpDb.init cfg.rows cfg.file = some c.ipDb) ∧
      ∀ p ∈ (challengeStep cfg.library cfg.fuel center d).2, Keyed cfg p := by
  cases center with
  | none => exact ⟨fun c gone => (nomatch gone),fun p member => nomatch member⟩
  | some c =>
    have same := own c rfl
    have reacts := challengeStep_reacts cfg.library cfg.fuel c d
    generalize challengeStep cfg.library cfg.fuel (some c) d = stepped at reacts ⊢
    cases reacts with
    | ignored => exact ⟨own,fun p member => nomatch member⟩
    | tested =>
      refine ⟨own,fun p member => .inl ?_⟩
      rw [List.mem_singleton.mp member]
    | lost => exact ⟨fun c gone => (nomatch gone),fun p member => nomatch member⟩
    | @answered signed channel region known =>
      refine ⟨fun c' next => ?_,fun p member => ?_⟩
      · obtain rfl := Option.some.inj next
        exact same
      · rw [List.mem_singleton.mp member]
        cases turn : c.relayServerManager.getAnyRelayServer.1 with
        | none => exact .inl (by simp [response])
        | some server => exact .inr ⟨c.ipDb,region,same,known,by simp [response,channel]⟩

theorem start_ipDb (cfg : Config σ) {c : Center σ}
    (started : Center.start cfg.library cfg.ids cfg.lines cfg.rows cfg.file cfg.clock = some c) :
    IpDb.init cfg.rows cfg.file = some c.ipDb := by
  simp only [Center.start,Option.bind_eq_bind,Option.bind_eq_some_iff] at started
  obtain ⟨forced,-,ipDb,known,m,-,same⟩ := started
  obtain rfl := Option.some.inj same
  exact known

/-- A region that the database answers with is one of the list. -/
theorem mem_of_get {inet : Inet} {db : IpDb} {fuel : Nat} {ip : Bytes} {region : GeoIp.GeoInfo}
    (answer : db.get inet fuel ip = .region (some region)) : region ∈ db.regions.knownGeoInfoList := by
  unfold IpDb.get at answer
  split at answer
  · dsimp only at answer
    split at answer
    · cases answer
    · split at answer
      · next info listed =>
        obtain rfl : info = region := by simpa using answer
        exact List.mem_of_getElem? listed
      · cases answer
  all_goals cases answer

theorem countryCodeToCountryId_lt (cc : Bytes) : countryCodeToCountryId cc < 2^32 := by
  unfold countryCodeToCountryId
  split
  · exact Nat.mod_lt _ (by decide)
  · decide

/-- The ids of a region fit in their types as long as the lines of the list can be counted so. -/
theorem typed_getRegionByIp {rows : RegionList} {file : Option Bytes} {ipDb : IpDb}
    (known : IpDb.init rows file = some ipDb) (few : rows.length ≤ 2^32) {inet : Inet} {fuel : Nat} {ip : Bytes}
    {region : GeoIp.GeoInfo} (found : getRegionByIp inet ipDb fuel ip = some region) : Typed region := by
  obtain ⟨regions,ofLines,rest⟩ := Option.bind_eq_some_iff.mp known
  obtain ⟨database,-,same⟩ := Option.bind_eq_some_iff.mp rest
  obtain rfl := Option.some.inj same
  have of := of_initKnownGeoInfoList ofLines
  rw [getRegionByIp] at found
  split at found
  · next info answer =>
    obtain rfl := Option.some.inj found
    cases info with
    | none => exact ⟨by decide,by decide,by decide⟩
    | some region =>
      have listed := mem_of_get answer
      rw [of.infos,List.mem_mapIdx] at listed
      obtain ⟨i,short,rfl⟩ := listed
      exact ⟨countryCodeToCountryId_lt _,by dsimp only [Option.getD]; omega,by dsimp only [Option.getD]; omega⟩
  · cases found

end MiniPP.Region
