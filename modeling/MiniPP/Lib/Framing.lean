import Mathlib.Data.List.Basic

/-! Packets with a header that tells their size, read from a stream that comes in pieces. The
reader takes what is complete and is shown the rest again. Where the stream is cut makes no
difference to what is read. -/
namespace MiniPP.Framing

/-- A header is read from the first `headerSize` symbols. The size of a packet counts its header. -/
structure Format (α η : Type*) where
  headerSize : Nat
  parse : List α → Option η
  size : η → Nat
  header_some : 0 < headerSize
  header_le : ∀ data header, parse data = some header → headerSize ≤ size header
  parse_append : ∀ data rest, headerSize ≤ data.length → parse (data ++ rest) = parse data

/-- What stands at the front of the data. -/
inductive Front (α η : Type*) where
  | invalid
  | incomplete
  | packet (header : η) (payload : List α)
  deriving DecidableEq, Repr

/-- What a handler makes of a packet. -/
structure Reaction (σ β : Type*) where
  state : σ
  out : List β
  accepted : Bool

/-- What one call of a reader does: `taken` is how much of the data it took, and no number if a
header was bad or a handler refused its packet. -/
structure Call (σ β : Type*) where
  state : σ
  out : List β
  taken : Option Nat

variable {α η σ β : Type*}

def front (f : Format α η) (data : List α) : Front α η :=
  if data.length < f.headerSize then .incomplete
  else
    match f.parse data with
    | none => .invalid
    | some header =>
      if data.length < f.size header then .incomplete
      else .packet header ((data.take (f.size header)).drop f.headerSize)

/-- The loop over the packets at the front of the data. -/
def consume (f : Format α η) (handle : σ → η → List α → Reaction σ β) : Nat → σ → List α → Call σ β
  | 0, s, _ => ⟨s,[],some 0⟩
  | fuel + 1, s, data =>
    match front f data with
    | .invalid => ⟨s,[],none⟩
    | .incomplete => ⟨s,[],some 0⟩
    | .packet header payload =>
      let reaction := handle s header payload
      if reaction.accepted then
        let later := consume f handle fuel reaction.state (data.drop (f.size header))
        ⟨later.state,reaction.out ++ later.out,later.taken.map (f.size header + ·)⟩
      else ⟨reaction.state,reaction.out,none⟩

/-! ## The whole stream at once -/

/-- The packets of a stream, and whether a bad header ends them. -/
def packets (f : Format α η) : Nat → List α → List (η × List α) × Bool
  | 0, _ => ([],false)
  | fuel + 1, data =>
    match front f data with
    | .invalid => ([],true)
    | .incomplete => ([],false)
    | .packet header payload =>
      let later := packets f fuel (data.drop (f.size header))
      ((header,payload) :: later.1,later.2)

/-- The handler on one packet after the other, up to the first that it refuses. -/
def handleAll (handle : σ → η → List α → Reaction σ β) : σ → List (η × List α) → Reaction σ β
  | s, [] => ⟨s,[],true⟩
  | s, (header,payload) :: rest =>
    let reaction := handle s header payload
    if reaction.accepted then
      let later := handleAll handle reaction.state rest
      ⟨later.state,reaction.out ++ later.out,later.accepted⟩
    else reaction

/-- Position `n` of the data stands behind a number of whole packets. -/
inductive Boundary (f : Format α η) : List α → Nat → Prop where
  | start (data : List α) : Boundary f data 0
  | packet {data payload : List α} {header : η} {n : Nat} (next : front f data = .packet header payload)
      (behind : Boundary f (data.drop (f.size header)) n) : Boundary f data (f.size header + n)

/-! ## Chunks -/

/-- A stream that was read in chunks: `held` is what is still to be presented again, and nothing
once a call has failed. -/
structure Fed (σ α β : Type*) where
  state : σ
  out : List β
  held : Option (List α)

/-- Each chunk is presented behind what the calls before it left. -/
def feed (read : σ → List α → Call σ β) : σ → List α → List (List α) → Fed σ α β
  | s, held, [] => ⟨s,[],some held⟩
  | s, held, chunk :: chunks =>
    let call := read s (held ++ chunk)
    match call.taken with
    | none => ⟨call.state,call.out,none⟩
    | some n =>
      let later := feed read call.state ((held ++ chunk).drop n) chunks
      ⟨later.state,call.out ++ later.out,later.held⟩

/-- What the loop of a receiver owes to the stream that it reads: it ends, does what one parse
of the data and its handler say, stops behind a packet unless it fails, and comes to the same
in whatever chunks the stream arrives. -/
structure ChunkInvariant (f : Format α η) (handle : σ → η → List α → Reaction σ β)
    (loop : Nat → σ → List α → Call σ β) : Prop where
  ends : ∀ fuel s data, data.length ≤ fuel → loop fuel s data = loop data.length s data
  parsed : ∀ s data,
    let call := loop data.length s data
    let all := handleAll handle s (packets f data.length data).1
    call.state = all.state ∧ call.out = all.out ∧
      (call.taken = none ↔ all.accepted = false ∨ (packets f data.length data).2 = true)
  stops : ∀ s data n, (loop data.length s data).taken = some n →
    n ≤ data.length ∧ Boundary f data n ∧ front f (data.drop n) = .incomplete
  chunks : ∀ s chunks,
    let whole := loop chunks.flatten.length s chunks.flatten
    let fed := feed (fun s data => loop data.length s data) s [] chunks
    fed.out = whole.out ∧ fed.state = whole.state ∧
      fed.held = whole.taken.map (fun n => chunks.flatten.drop n)

/-! ## One packet -/

section Front

variable {f : Format α η} {data : List α}

theorem front_nil (f : Format α η) : front f [] = .incomplete := if_pos f.header_some

theorem front_packet {header : η} {payload : List α} (next : front f data = .packet header payload) :
    0 < f.size header ∧ f.size header ≤ data.length := by
  unfold front at next
  split at next
  · cases next
  · split at next
    · cases next
    · rename_i header' parsed
      split at next
      · cases next
      · rename_i enough
        obtain ⟨rfl,-⟩ := Front.packet.inj next
        have := f.header_le data header' parsed
        have := f.header_some
        omega

/-- Induction along the packets of the data. -/
theorem packet_induction (f : Format α η) {motive : List α → Prop}
    (invalid : ∀ data, front f data = .invalid → motive data)
    (incomplete : ∀ data, front f data = .incomplete → motive data)
    (packet : ∀ data header payload, front f data = .packet header payload →
      motive (data.drop (f.size header)) → motive data) (data : List α) : motive data := by
  induction size : data.length using Nat.strongRecOn generalizing data with
  | _ length ih =>
    cases next : front f data with
    | invalid => exact invalid data next
    | incomplete => exact incomplete data next
    | packet header payload =>
      obtain ⟨positive,inside⟩ := front_packet next
      have shorter : (data.drop (f.size header)).length < length := by
        rw [List.length_drop]
        omega
      exact packet data header payload next (ih _ shorter _ rfl)

/-- A packet that is complete does not depend on what comes behind it, and a bad header neither. -/
theorem front_append (rest : List α) (complete : front f data ≠ .incomplete) :
    front f (data ++ rest) = front f data := by
  unfold front at complete ⊢
  split at complete
  · exact absurd rfl complete
  · rename_i long
    have enough : f.headerSize ≤ data.length := Nat.le_of_not_lt long
    have longer : ¬ (data ++ rest).length < f.headerSize := by
      rw [List.length_append]
      omega
    rw [if_neg longer,if_neg long,f.parse_append data rest enough]
    split
    · rfl
    · rename_i header parsed
      rw [parsed] at complete
      dsimp only at complete
      split at complete
      · exact absurd rfl complete
      · rename_i whole
        have longer' : ¬ (data ++ rest).length < f.size header := by
          rw [List.length_append]
          omega
        rw [if_neg longer',if_neg whole,List.take_append_of_le_length (by omega)]

end Front

/-! ## The loop -/

section Loop

variable (f : Format α η) (handle : σ → η → List α → Reaction σ β)

/-- Once there are as many turns as symbols, more of them change nothing: no packet is empty. -/
theorem consume_enough {fuel fuel' : Nat} {data : List α} (enough : data.length ≤ fuel)
    (enough' : data.length ≤ fuel') (s : σ) : consume f handle fuel s data = consume f handle fuel' s data := by
  induction fuel generalizing fuel' s data with
  | zero =>
    obtain rfl : data = [] := List.eq_nil_of_length_eq_zero (by omega)
    cases fuel' with
    | zero => rfl
    | succ fuel' => simp [consume,front_nil]
  | succ fuel ih =>
    cases fuel' with
    | zero =>
      obtain rfl : data = [] := List.eq_nil_of_length_eq_zero (by omega)
      simp [consume,front_nil]
    | succ fuel' =>
      cases next : front f data with
      | invalid => simp only [consume,next]
      | incomplete => simp only [consume,next]
      | packet header payload =>
        obtain ⟨positive,inside⟩ := front_packet next
        have behind : (data.drop (f.size header)).length ≤ fuel := by
          rw [List.length_drop]
          omega
        have behind' : (data.drop (f.size header)).length ≤ fuel' := by
          rw [List.length_drop]
          omega
        simp only [consume,next,ih behind behind']

/-- One call, with turns enough. -/
def read (s : σ) (data : List α) : Call σ β := consume f handle data.length s data

theorem read_invalid {data : List α} (next : front f data = .invalid) (s : σ) :
    read f handle s data = ⟨s,[],none⟩ := by
  unfold read
  cases data with
  | nil =>
    rw [front_nil] at next
    cases next
  | cons a data => simp only [List.length_cons,consume,next]

theorem read_incomplete {data : List α} (next : front f data = .incomplete) (s : σ) :
    read f handle s data = ⟨s,[],some 0⟩ := by
  unfold read
  cases data with
  | nil => rfl
  | cons a data => simp only [List.length_cons,consume,next]

theorem read_packet {data payload : List α} {header : η} (next : front f data = .packet header payload) (s : σ) :
    read f handle s data =
      let reaction := handle s header payload
      if reaction.accepted then
        let later := read f handle reaction.state (data.drop (f.size header))
        ⟨later.state,reaction.out ++ later.out,later.taken.map (f.size header + ·)⟩
      else ⟨reaction.state,reaction.out,none⟩ := by
  obtain ⟨positive,inside⟩ := front_packet next
  unfold read
  cases data with
  | nil =>
    rw [front_nil] at next
    cases next
  | cons a data =>
    have behind : ((a :: data).drop (f.size header)).length ≤ data.length := by
      rw [List.length_drop]
      simp only [List.length_cons] at *
      omega
    simp only [List.length_cons,consume,next,consume_enough f handle behind (Nat.le_refl _)]

/-- A call takes whole packets and stops at one that is not complete. -/
theorem read_stops (s : σ) (data : List α) {n : Nat} (taken : (read f handle s data).taken = some n) :
    n ≤ data.length ∧ Boundary f data n ∧ front f (data.drop n) = .incomplete := by
  induction data using packet_induction f generalizing s n with
  | invalid data next =>
    rw [read_invalid f handle next] at taken
    cases taken
  | incomplete data next =>
    rw [read_incomplete f handle next] at taken
    cases taken
    exact ⟨Nat.zero_le _,.start data,next⟩
  | packet data header payload next ih =>
    obtain ⟨positive,inside⟩ := front_packet next
    rw [read_packet f handle next] at taken
    dsimp only at taken
    split at taken
    · obtain ⟨m,later,rfl⟩ := Option.map_eq_some_iff.mp taken
      obtain ⟨bound,boundary,stop⟩ := ih _ later
      rw [List.length_drop] at bound
      refine ⟨by omega,.packet next boundary,?_⟩
      rw [← List.drop_drop]
      exact stop
    · cases taken

/-- Where a stream is cut makes no difference: the second call starts at what the first one left. -/
theorem read_append (s : σ) (data rest : List α) :
    read f handle s (data ++ rest) =
      let call := read f handle s data
      match call.taken with
      | none => call
      | some n =>
        let later := read f handle call.state (data.drop n ++ rest)
        ⟨later.state,call.out ++ later.out,later.taken.map (n + ·)⟩ := by
  induction data using packet_induction f generalizing s with
  | invalid data next =>
    have whole : front f (data ++ rest) = .invalid := by
      rw [front_append rest (by simp [next]),next]
    rw [read_invalid f handle next,read_invalid f handle whole]
  | incomplete data next =>
    rw [read_incomplete f handle next]
    simp
  | packet data header payload next ih =>
    obtain ⟨positive,inside⟩ := front_packet next
    have whole : front f (data ++ rest) = .packet header payload := by
      rw [front_append rest (by simp [next]),next]
    rw [read_packet f handle next,read_packet f handle whole,List.drop_append_of_le_length inside]
    dsimp only
    split
    · rename_i accepted
      rw [ih (handle s header payload).state]
      dsimp only
      cases taken : (read f handle (handle s header payload).state (data.drop (f.size header))).taken with
      | none => simp only [taken,Option.map_none]
      | some n =>
        simp only [Option.map_some,List.drop_drop,List.append_assoc,Option.map_map]
        congr 2
        funext m
        simp only [Function.comp_apply]
        omega
    · rfl

theorem feed_read (s : σ) (held : List α) (chunks : List (List α)) (short : front f held = .incomplete) :
    let whole := read f handle s (held ++ chunks.flatten)
    let fed := feed (read f handle) s held chunks
    fed.out = whole.out ∧ fed.state = whole.state ∧
      fed.held = whole.taken.map (fun n => (held ++ chunks.flatten).drop n) := by
  induction chunks generalizing s held with
  | nil =>
    simp only [List.flatten_nil,List.append_nil,read_incomplete f handle short,feed]
    exact ⟨trivial,trivial,rfl⟩
  | cons chunk chunks ih =>
    have cut := read_append f handle s (held ++ chunk) chunks.flatten
    simp only [List.flatten_cons,← List.append_assoc,feed] at cut ⊢
    cases taken : (read f handle s (held ++ chunk)).taken with
    | none =>
      rw [taken] at cut
      simp only [cut,taken]
      exact ⟨trivial,trivial,rfl⟩
    | some n =>
      obtain ⟨bound,-,stop⟩ := read_stops f handle s (held ++ chunk) taken
      obtain ⟨out,state,rest⟩ := ih (read f handle s (held ++ chunk)).state ((held ++ chunk).drop n) stop
      rw [taken] at cut
      simp only [cut,out,state,rest]
      refine ⟨trivial,trivial,?_⟩
      rw [Option.map_map]
      congr 1
      funext m
      rw [Function.comp_apply,← List.drop_drop,List.drop_append_of_le_length bound]

/-- The loop does what one parse and the handler say. -/
theorem consume_parsed (fuel : Nat) (s : σ) (data : List α) :
    let call := consume f handle fuel s data
    let all := handleAll handle s (packets f fuel data).1
    call.state = all.state ∧ call.out = all.out ∧
      (call.taken = none ↔ all.accepted = false ∨ (packets f fuel data).2 = true) := by
  induction fuel generalizing s data with
  | zero => simp [consume,packets,handleAll]
  | succ fuel ih =>
    cases next : front f data with
    | invalid => simp [consume,packets,next,handleAll]
    | incomplete => simp [consume,packets,next,handleAll]
    | packet header payload =>
      obtain ⟨state,out,taken⟩ := ih (handle s header payload).state (data.drop (f.size header))
      simp only [consume,packets,next,handleAll]
      cases accepted : (handle s header payload).accepted with
      | false => simp [accepted]
      | true =>
        simp only [if_true,state,out,Option.map_eq_none_iff]
        exact ⟨trivial,trivial,taken⟩

theorem chunkInvariant_consume : ChunkInvariant f handle (consume f handle) where
  ends _ s _ enough := consume_enough f handle enough (Nat.le_refl _) s
  parsed s data := consume_parsed f handle data.length s data
  stops s data _ taken := read_stops f handle s data taken
  chunks s chunks := feed_read f handle s [] chunks (front_nil f)

end Loop

/-- A loop of its own keeps the invariant if its turns are these. -/
theorem chunkInvariant_of_front {f : Format α η} {handle : σ → η → List α → Reaction σ β}
    {loop : Nat → σ → List α → Call σ β} (start : ∀ s data, loop 0 s data = ⟨s,[],some 0⟩)
    (turn : ∀ fuel s data, loop (fuel + 1) s data =
      match front f data with
      | .invalid => ⟨s,[],none⟩
      | .incomplete => ⟨s,[],some 0⟩
      | .packet header payload =>
        let reaction := handle s header payload
        if reaction.accepted then
          let later := loop fuel reaction.state (data.drop (f.size header))
          ⟨later.state,reaction.out ++ later.out,later.taken.map (f.size header + ·)⟩
        else ⟨reaction.state,reaction.out,none⟩) : ChunkInvariant f handle loop := by
  have same : loop = consume f handle := by
    funext fuel
    induction fuel with
    | zero =>
      funext s data
      exact start s data
    | succ fuel ih =>
      funext s data
      rw [turn,ih,consume]
  rw [same]
  exact chunkInvariant_consume f handle

/-- The same for turns that look at the front of the data by themselves. -/
theorem chunkInvariant_of_turns {f : Format α η} {handle : σ → η → List α → Reaction σ β}
    {loop : Nat → σ → List α → Call σ β} (start : ∀ s data, loop 0 s data = ⟨s,[],some 0⟩)
    (turn : ∀ fuel s data, loop (fuel + 1) s data =
      if data.length < f.headerSize then ⟨s,[],some 0⟩
      else
        match f.parse data with
        | none => ⟨s,[],none⟩
        | some header =>
          if data.length < f.size header then ⟨s,[],some 0⟩
          else
            let reaction := handle s header ((data.take (f.size header)).drop f.headerSize)
            if reaction.accepted then
              let later := loop fuel reaction.state (data.drop (f.size header))
              ⟨later.state,reaction.out ++ later.out,later.taken.map (f.size header + ·)⟩
            else ⟨reaction.state,reaction.out,none⟩) : ChunkInvariant f handle loop := by
  apply chunkInvariant_of_front start
  intro fuel s data
  rw [turn,front]
  split
  · rfl
  · split
    · rfl
    · split
      · rfl
      · rfl

end MiniPP.Framing
