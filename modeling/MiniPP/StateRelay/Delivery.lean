import MiniPP.StateRelay.Network

/-! Each program on the observer port reads the updates that are dispatched while it is connected,
all of them, once, and in one order for all. The updates of a relay are dispatched in the order it
posted them. -/
namespace MiniPP.StateRelay

open Message Broadcast

variable {keys : Relay.Keys} {ω δ α : Type} {cfg : Nat → Relay.Config} {x : PacketLibrary}
  {o : Observer ω δ α} {s s' : Network keys ω} {log out : List (Action α)}

/-! ## Packets -/

/-- A packet that is posted is read as the packet it is, and built again the same. -/
theorem reportPacket_read {r : Relay.DeviceInfoUpdate} (written : reportPacket x r ≠ []) :
    ∃ header payload, x.packet (message r).serializeMembers = some payload ∧
      Framing.front x.format.framing (reportPacket x r) = .packet header payload ∧
      header.commandId = cmdDeviceUpdate ∧
      buildPacket x cmdDeviceUpdate 0 payload = reportPacket x r := by
  cases packed : x.packet (message r).serializeMembers with
  | none => exact absurd (by simp [reportPacket,PacketLibrary.writeMessage,packed]) written
  | some payload =>
    obtain ⟨header,next,-,command,-⟩ := x.onePacket_writeMessage packed
      (show cmdDeviceUpdate < 2^32 by decide) (show 0 < 2^64 by decide)
    have room : ¬ x.wire.maxPacketSize < x.format.headerSize + payload.length := by
      rw [x.same_size]
      exact Nat.not_lt.mpr (x.packet_eq_some.mp packed).2
    refine ⟨header,payload,rfl,next,command,?_⟩
    rw [buildPacket,if_neg room]
    simp [reportPacket,PacketLibrary.writeMessage,packed]

/-! ## The log -/

def move : Action α → Option (Move Nat Bytes)
  | .connected _ c => some (.joined c)
  | .closed c => some (.left c)
  | .dispatched _ data => some (.published data)
  | .read _ c data => some (.taken c data)
  | _ => none

/-- The log, as the moves of the observer service. -/
def moves (log : List (Action α)) : List (Move Nat Bytes) := log.filterMap move

def postedOn (p : Nat) (log : List (Action α)) : List Bytes :=
  log.filterMap (fun | .posted _ p' data => if p' = p then some data else none | _ => none)

def dispatchedFrom (p : Nat) (log : List (Action α)) : List Bytes :=
  log.filterMap (fun | .dispatched p' data => if p' = p then some data else none | _ => none)

@[simp] theorem moves_append (log out : List (Action α)) : moves (log ++ out) = moves log ++ moves out :=
  List.filterMap_append

@[simp] theorem postedOn_append (p : Nat) (log out : List (Action α)) :
    postedOn p (log ++ out) = postedOn p log ++ postedOn p out := List.filterMap_append

@[simp] theorem dispatchedFrom_append (p : Nat) (log out : List (Action α)) :
    dispatchedFrom p (log ++ out) = dispatchedFrom p log ++ dispatchedFrom p out := List.filterMap_append

/-- Actions that neither the uplinks nor the observer service take part in. -/
def Apart (out : List (Action α)) : Prop :=
  ∀ a ∈ out, (∃ i b, a = .relay i b) ∨ ∃ j b, a = .observer j b

theorem Apart.moves (apart : Apart out) : moves out = [] := by
  apply List.filterMap_eq_nil_iff.mpr
  intro a member
  rcases apart a member with ⟨i,b,rfl⟩ | ⟨j,b,rfl⟩ <;> rfl

theorem Apart.postedOn (apart : Apart out) (p : Nat) : postedOn p out = [] := by
  apply List.filterMap_eq_nil_iff.mpr
  intro a member
  rcases apart a member with ⟨i,b,rfl⟩ | ⟨j,b,rfl⟩ <;> rfl

theorem Apart.dispatchedFrom (apart : Apart out) (p : Nat) : dispatchedFrom p out = [] := by
  apply List.filterMap_eq_nil_iff.mpr
  intro a member
  rcases apart a member with ⟨i,b,rfl⟩ | ⟨j,b,rfl⟩ <;> rfl

theorem Apart.not_mem (apart : Apart out) {a : Action α} (relay : ∀ i b, a ≠ .relay i b)
    (observer : ∀ j b, a ≠ .observer j b) : a ∉ out := by
  intro member
  rcases apart a member with ⟨i,b,same⟩ | ⟨j,b,same⟩
  · exact relay i b same
  · exact observer j b same

theorem apart_observer (j : Nat) (list : List α) : Apart (list.map (Action.observer j)) := by
  intro a member
  obtain ⟨b,-,rfl⟩ := List.mem_map.mp member
  exact .inr ⟨j,b,rfl⟩

theorem apart_relay (i : Nat) (list : List Relay.RelayAction) :
    Apart (list.map (Action.relay i) : List (Action α)) := by
  intro a member
  obtain ⟨b,-,rfl⟩ := List.mem_map.mp member
  exact .inl ⟨i,b,rfl⟩

/-! ## Delivery -/

/-- A relay reported this. -/
def Reported (x : PacketLibrary) (log : List (Action α)) (data : Bytes) : Prop :=
  ∃ i r, .relay i (.report r) ∈ log ∧ reportPacket x r = data ∧ data ≠ []

theorem Reported.later {data : Bytes} (reported : Reported x log data) (out : List (Action α)) :
    Reported x (log ++ out) data := by
  obtain ⟨i,r,member,same,written⟩ := reported
  exact ⟨i,r,List.mem_append_left out member,same,written⟩

structure Delivers (x : PacketLibrary) (s : Network keys ω) (log : List (Action α)) : Prop where
  hub : Faithful s.observerService (moves log)
  below : ∀ c ∈ s.observerService.members, c < s.nextConnection
  flow : ∀ p, dispatchedFrom p log ++ s.uplink p = postedOn p log
  reported : ∀ p, ∀ data ∈ postedOn p log, Reported x log data
  published : ∀ data ∈ published (moves log), ∃ p, data ∈ dispatchedFrom p log
  quiet : .assertion ∉ log

namespace Delivers

theorem uplink (delivers : Delivers x s log) {p : Nat} {data : Bytes} (member : data ∈ s.uplink p) :
    Reported x log data := by
  apply delivers.reported p
  rw [← delivers.flow p]
  exact List.mem_append_right _ member

theorem dispatched (delivers : Delivers x s log) {data : Bytes} (member : data ∈ Broadcast.published (moves log)) :
    Reported x log data := by
  obtain ⟨p,sent⟩ := delivers.published data member
  apply delivers.reported p
  rw [← delivers.flow p]
  exact List.mem_append_left _ sent

theorem channel (delivers : Delivers x s log) {c : Nat} {data : Bytes}
    (member : data ∈ s.observerService.channel c) : Reported x log data := by
  apply delivers.dispatched
  apply (heard_sublist c (moves log)).subset
  rw [← delivers.hub.exact c]
  exact List.mem_append_right _ member

/-- What a program has read was reported. -/
theorem read (delivers : Delivers x s log) {j c : Nat} {data : Bytes} (member : .read j c data ∈ log) :
    Reported x log data := by
  apply delivers.dispatched
  apply (heard_sublist c (moves log)).subset
  rw [← delivers.hub.exact c]
  apply List.mem_append_left
  apply List.mem_filterMap.mpr
  exact ⟨.taken c data,List.mem_filterMap.mpr ⟨_,member,rfl⟩,by simp⟩

theorem apart (delivers : Delivers x s log) (apart : Apart out) (service : s'.observerService = s.observerService)
    (uplink : s'.uplink = s.uplink) (next : s.nextConnection ≤ s'.nextConnection) :
    Delivers x s' (log ++ out) where
  hub := by
    rw [moves_append,apart.moves,List.append_nil,service]
    exact delivers.hub
  below := by
    rw [service]
    exact fun c member => (delivers.below c member).trans_le next
  flow p := by
    rw [dispatchedFrom_append,postedOn_append,apart.dispatchedFrom,apart.postedOn,List.append_nil,
      List.append_nil,uplink]
    exact delivers.flow p
  reported p data member := by
    rw [postedOn_append,apart.postedOn,List.append_nil] at member
    exact (delivers.reported p data member).later out
  published data member := by
    rw [moves_append,apart.moves,List.append_nil] at member
    obtain ⟨p,sent⟩ := delivers.published data member
    exact ⟨p,by simp [sent]⟩
  quiet := by
    have none : Action.assertion ∉ out := apart.not_mem (by simp) (by simp)
    simp [delivers.quiet,none]

theorem init (relays : Nat → Relay.DeviceRelayService keys) (observers : Nat → ω) :
    Delivers x ⟨relays,fun _ => none,fun _ => [],{},observers,fun _ => none,1⟩ ([] : List (Action α)) where
  hub := .init
  below := by simp
  flow p := rfl
  reported p data member := by cases member
  published data member := by cases member
  quiet := by simp

/-- A relay posts what it reported. -/
theorem post (delivers : Delivers x s log) (i p : Nat) {list : List Bytes}
    (known : ∀ data ∈ list, Reported x log data) :
    Delivers x { s with uplink := Function.update s.uplink p (s.uplink p ++ list) }
      (log ++ list.map (.posted i p)) where
  hub := by
    have none : moves (list.map (Action.posted i p) : List (Action α)) = [] := by simp [moves,move]
    rw [moves_append,none,List.append_nil]
    exact delivers.hub
  below := delivers.below
  flow q := by
    have before := delivers.flow q
    have none : dispatchedFrom q (list.map (Action.posted i p) : List (Action α)) = [] := by
      simp [dispatchedFrom]
    rw [dispatchedFrom_append,none,List.append_nil,postedOn_append,← before]
    by_cases here : q = p
    · subst here
      have all : postedOn q (list.map (Action.posted i q) : List (Action α)) = list := by
        simp [postedOn,List.filterMap_map]
      simp [all]
    · have none : postedOn q (list.map (Action.posted i p) : List (Action α)) = [] := by
        simp [postedOn,Ne.symm here]
      simp [none,Function.update_of_ne here]
  reported q data member := by
    rw [postedOn_append] at member
    rcases List.mem_append.mp member with old | new
    · exact (delivers.reported q data old).later _
    · obtain ⟨a,posted,shown⟩ := List.mem_filterMap.mp new
      obtain ⟨data',inside,rfl⟩ := List.mem_map.mp posted
      dsimp only at shown
      split at shown
      · obtain rfl := Option.some.inj shown
        exact (known data' inside).later _
      · cases shown
  published data member := by
    have none : moves (list.map (Action.posted i p) : List (Action α)) = [] := by simp [moves,move]
    rw [moves_append,none,List.append_nil] at member
    obtain ⟨q,sent⟩ := delivers.published data member
    exact ⟨q,by simp [sent]⟩
  quiet := by
    have none : Action.assertion ∉ (list.map (Action.posted i p) : List (Action α)) := by simp
    simp [delivers.quiet,none]

/-- The head of an uplink is dispatched. -/
theorem dispatch (delivers : Delivers x s log) {p : Nat} {data : Bytes} {rest : List Bytes}
    (next : s.uplink p = data :: rest) :
    Delivers x { s with
        uplink := Function.update s.uplink p rest
        observerService := s.observerService.publish data } (log ++ [.dispatched p data]) where
  hub := by
    rw [moves_append]
    exact delivers.hub.publish data
  below := delivers.below
  flow q := by
    have before := delivers.flow q
    have none : postedOn q [(.dispatched p data : Action α)] = [] := rfl
    rw [dispatchedFrom_append,postedOn_append,none,List.append_nil,← before]
    by_cases here : q = p
    · subst here
      have one : dispatchedFrom q [(.dispatched q data : Action α)] = [data] := by simp [dispatchedFrom]
      simp [one,next]
    · have none : dispatchedFrom q [(.dispatched p data : Action α)] = [] := by
        simp [dispatchedFrom,Ne.symm here]
      simp [none,Function.update_of_ne here]
  reported q other member := by
    have none : postedOn q [(.dispatched p data : Action α)] = [] := rfl
    rw [postedOn_append,none,List.append_nil] at member
    exact (delivers.reported q other member).later _
  published other member := by
    have one : Broadcast.published (moves [(.dispatched p data : Action α)]) = [data] := rfl
    rw [moves_append,published_append,one] at member
    rcases List.mem_append.mp member with old | new
    · obtain ⟨q,sent⟩ := delivers.published other old
      exact ⟨q,by simp [sent]⟩
    · obtain rfl := List.mem_singleton.mp new
      exact ⟨p,by simp [dispatchedFrom]⟩
  quiet := by simp [delivers.quiet]

/-- The observer service moves on, and nothing else. -/
theorem serve (delivers : Delivers x s log) {a : Action α} {m : Move Nat Bytes} (shown : move a = some m)
    (service : Faithful s'.observerService (moves log ++ [m]))
    (below : ∀ c ∈ s'.observerService.members, c < s'.nextConnection) (uplink : s'.uplink = s.uplink)
    (unpublished : Broadcast.published [m] = []) (unposted : ∀ p, postedOn p [a] = []) :
    Delivers x s' (log ++ [a]) where
  hub := by
    have one : moves [a] = [m] := by simp [moves,shown]
    rw [moves_append,one]
    exact service
  below := below
  flow p := by
    have undispatched : dispatchedFrom p [a] = [] := by
      cases a with
      | dispatched p' data =>
        obtain rfl := Option.some.inj shown
        cases unpublished
      | _ => rfl
    rw [dispatchedFrom_append,postedOn_append,undispatched,unposted,List.append_nil,List.append_nil,uplink]
    exact delivers.flow p
  reported p data member := by
    rw [postedOn_append,unposted,List.append_nil] at member
    exact (delivers.reported p data member).later _
  published data member := by
    have one : moves [a] = [m] := by simp [moves,shown]
    rw [moves_append,one,published_append,unpublished,List.append_nil] at member
    obtain ⟨p,sent⟩ := delivers.published data member
    exact ⟨p,by simp [sent]⟩
  quiet := by
    have loud : a ≠ .assertion := by
      rintro rfl
      cases shown
    simp [delivers.quiet,Ne.symm loud]

end Delivers

theorem posts_reported {i : Nat} {list : List Relay.RelayAction} {data : Bytes}
    (member : data ∈ Network.posts x list) :
    Reported x (log ++ list.map (.relay i)) data := by
  obtain ⟨inside,written⟩ := List.mem_filter.mp member
  obtain ⟨r,reported,same⟩ := List.mem_map.mp inside
  obtain ⟨a,out,shown⟩ := List.mem_filterMap.mp reported
  refine ⟨i,r,?_,same,by simpa using written⟩
  cases a with
  | report r' =>
    obtain rfl := Option.some.inj shown
    exact List.mem_append_right log (List.mem_map_of_mem out)
  | _ => cases shown

theorem delivers_step (delivers : Delivers x s log) (e : Event δ) :
    Delivers x (s.step cfg x o e).1 (log ++ (s.step cfg x o e).2) := by
  have still {s' : Network keys ω} (service : s'.observerService = s.observerService)
      (uplink : s'.uplink = s.uplink) (next : s.nextConnection ≤ s'.nextConnection) :
      Delivers x s' (log ++ []) := delivers.apart (by simp [Apart]) service uplink next
  cases e with
  | relay i e =>
    have stepped : Delivers x
        { s with relays := Function.update s.relays i ((s.relays i).step (cfg i) e).1 }
        (log ++ ((s.relays i).step (cfg i) e).2.map (Action.relay i)) :=
      delivers.apart (apart_relay i _) rfl rfl le_rfl
    simp only [Network.step,Network.post]
    cases s.reporters i with
    | none => simpa using stepped
    | some p =>
      rw [← List.append_assoc]
      exact stepped.post i p (fun data member => posts_reported member)
  | reporterConnects i =>
    simp only [Network.step]
    cases s.reporters i with
    | some p => exact still rfl rfl le_rfl
    | none => exact still rfl rfl (Nat.le_succ _)
  | reporterLeaves i => exact still rfl rfl le_rfl
  | producerReads p =>
    simp only [Network.step]
    cases next : s.uplink p with
    | nil => exact still rfl rfl le_rfl
    | cons data rest =>
      have head : data ∈ s.uplink p := by simp [next]
      obtain ⟨i,r,member,rfl,written⟩ := delivers.uplink head
      obtain ⟨header,payload,-,read,command,built⟩ := reportPacket_read written
      simp only [read,Network.onClientPacket,command,if_true,built,if_neg written,Network.dispatchData]
      exact delivers.dispatch next
  | observerConnects j =>
    simp only [Network.step]
    cases s.connections j with
    | some c => exact still rfl rfl le_rfl
    | none =>
      have outside : s.nextConnection ∉ s.observerService.members :=
        fun member => absurd (delivers.below _ member) (lt_irrefl _)
      refine delivers.serve rfl (delivers.hub.join outside) ?_ rfl rfl (fun _ => rfl)
      intro c member
      rcases List.mem_append.mp member with old | new
      · exact (delivers.below c old).trans (Nat.lt_succ_self _)
      · obtain rfl := List.mem_singleton.mp new
        exact Nat.lt_succ_self _
  | observerLeaves j => exact still rfl rfl le_rfl
  | observerCloses c =>
    refine delivers.serve rfl (delivers.hub.leave c) ?_ rfl rfl (fun _ => rfl)
    exact fun other member => delivers.below other (List.mem_of_mem_erase member)
  | observerReads j =>
    simp only [Network.step]
    cases s.connections j with
    | none => exact still rfl rfl le_rfl
    | some c =>
      dsimp only
      cases next : s.observerService.channel c with
      | nil => exact still rfl rfl le_rfl
      | cons data rest =>
        have taken : Delivers x { s with observerService := s.observerService.take c }
            (log ++ [.read j c data]) :=
          delivers.serve rfl (delivers.hub.take next) delivers.below rfl rfl (fun _ => rfl)
        dsimp only
        rw [List.append_cons]
        unfold Network.onServerPacket
        split
        · exact taken.apart (apart_observer j _) rfl rfl le_rfl
        · exact taken.apart (by simp [Apart]) rfl rfl le_rfl
  | observer j e => exact delivers.apart (apart_observer j _) rfl rfl le_rfl

theorem delivers_reach {ok : Network keys ω → List (Action α) → Event δ → Prop}
    (reach : (networkMachine cfg x o keys).Reach ok s log) : Delivers x s log := by
  apply reach.invariant (I := fun s log => Delivers x s log)
  · rintro _ ⟨relays,observers,-,-,rfl⟩
    exact .init relays observers
  · exact fun s log e _ _ delivers => delivers_step delivers e

/-- What was posted on a connection and not yet dispatched is on its way, in order, and so is what was
dispatched while a program was connected and not yet read by it. -/
theorem updates_delivered (reach : (networkMachine cfg x o keys).Reach Machine.anything s log) :
    (∀ p, dispatchedFrom p log ++ s.uplink p = postedOn p log) ∧
    (∀ c, took c (moves log) ++ s.observerService.channel c = heard c (moves log)) ∧
    .assertion ∉ log := by
  have delivers := delivers_reach reach
  exact ⟨delivers.flow,delivers.hub.exact,delivers.quiet⟩

theorem updates_delivered_registers :
    let small := smallMachine.run smallNetwork registers
    dispatchedFrom 1 small.2 ++ small.1.uplink 1 = postedOn 1 small.2 ∧
      took 2 (moves small.2) ++ small.1.observerService.channel 2 = heard 2 (moves small.2) :=
  have delivered := updates_delivered (Machine.reach_run smallNetwork_start registers)
  ⟨delivered.1 1,delivered.2.1 2⟩

end MiniPP.StateRelay
