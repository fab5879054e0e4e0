import MiniPP.Backend.Connection

/-! When a connection to the backend speaks for the application, and what its challenge was
answered with by then. -/
namespace MiniPP.Backend

variable {x : Library} {f : PacketFormat}

/-! ## What was heard -/

/-- A packet that answers a challenge with this error code. -/
def answers (x : Library) (commandId : Nat) (payload : Bytes) (errorCode : Nat) : Prop :=
  commandId = cmdBackendChallengeResp ∧
    BackendChallengeResp.deserialize x.messages payload = some ⟨errorCode⟩

instance (x : Library) (commandId : Nat) (payload : Bytes) (errorCode : Nat) :
    Decidable (answers x commandId payload errorCode) := inferInstanceAs (Decidable (_ ∧ _))

def hear (x : Library) (heard : Bool) : BackendAction → Bool
  | .connected => false
  | .received commandId _ payload => heard || decide (answers x commandId payload 0)
  | _ => heard

/-- An answer without an error has been received since the last `OnConnected`. -/
def Heard (x : Library) (log : List BackendAction) : Prop := log.foldl (hear x) false = true

/-- The application's data is posted, and its packets are handled, after an answer without an
error. The connection gets ready right upon one. -/
def Entitled (x : Library) (before : List BackendAction) : BackendAction → Prop
  | .posted _ | .backendPacket _ _ _ => Heard x before
  | .ready => ∃ commandId requestId payload,
    before.getLast? = some (.received commandId requestId payload) ∧ answers x commandId payload 0
  | _ => True

/-- Whatever the event makes the connection do, it is entitled to. -/
def Speaks (x : Library) (f : PacketFormat) (c : BackendConnection) (log : List BackendAction) (e : BackendEvent) :
    Prop :=
  Log.Always (fun before a => Entitled x (log ++ before) a) (c.step x f e).2

/-- The first packet that is not a keep-alive. -/
def firstPacket (f : PacketFormat) : Nat → Bytes → Option (PacketHeader × Bytes)
  | 0, _ => none
  | fuel + 1, data =>
    match Framing.front f.framing data with
    | .packet header payload =>
      if header.isKeepAlive then firstPacket f fuel (data.drop header.packetSize)
      else some (header,payload)
    | _ => none

/-- While a challenge is not answered, the data does not start with an answer that has an
error. -/
def Unrefused (x : Library) (f : PacketFormat) (c : BackendConnection) (_ : List BackendAction) :
    BackendEvent → Prop
  | .data data _ => c.state = .challenging → ∀ header payload errorCode,
    firstPacket f data.length data = some (header,payload) →
      answers x header.commandId payload errorCode → errorCode = 0
  | _ => True

/-! ## Steps -/

theorem heard_append {log out : List BackendAction} (heard : Heard x log)
    (quiet : .connected ∉ out) : Heard x (log ++ out) := by
  unfold Heard at *
  rw [List.foldl_append,heard]
  clear heard
  induction out with
  | nil => rfl
  | cons a out ih =>
    have same : hear x true a = true := by
      cases a with
      | connected => exact absurd List.mem_cons_self quiet
      | _ => simp [hear]
    rw [List.foldl_cons,same]
    exact ih (fun member => quiet (List.mem_cons_of_mem a member))

theorem heard_answer {log : List BackendAction} {commandId requestId : Nat} {payload : Bytes}
    (answer : answers x commandId payload 0) : Heard x (log ++ [.received commandId requestId payload]) := by
  simp [Heard,hear,answer]

/-- A connection is ready only after it has heard an answer. -/
def Bound (x : Library) (c : BackendConnection) (log : List BackendAction) : Prop :=
  c.state = .ready → Heard x log

/-- What a call did is entitled, and leaves the connection bound. -/
structure Sound (x : Library) (log : List BackendAction) (c : BackendConnection) (out : List BackendAction) :
    Prop where
  entitled : Log.Always (fun before a => Entitled x (log ++ before) a) out
  bound : Bound x c (log ++ out)

theorem Sound.nil {log : List BackendAction} {c : BackendConnection} (bound : Bound x c log) :
    Sound x log c [] :=
  ⟨Log.always_nil _,by simpa using bound⟩

theorem Sound.cons {log : List BackendAction} {c : BackendConnection} {a : BackendAction}
    {out : List BackendAction} (first : Entitled x log a) (rest : Sound x (log ++ [a]) c out) :
    Sound x log c (a :: out) := by
  obtain ⟨entitled,bound⟩ := rest
  refine ⟨Log.always_cons.mpr ⟨by simpa using first,?_⟩,?_⟩
  · simpa [List.append_assoc] using entitled
  · simpa [List.append_assoc] using bound

theorem Sound.append {log : List BackendAction} {c c' : BackendConnection} {out out' : List BackendAction}
    (first : Sound x log c out) (second : Sound x (log ++ out) c' out') : Sound x log c' (out ++ out') := by
  refine ⟨Log.always_append.mpr ⟨first.entitled,?_⟩,?_⟩
  · simpa [List.append_assoc] using second.entitled
  · simpa [List.append_assoc] using second.bound

/-- What neither speaks nor hears keeps a connection bound. -/
theorem Bound.later {log : List BackendAction} {c : BackendConnection} (bound : Bound x c log)
    {out : List BackendAction} (quiet : .connected ∉ out) : Bound x c (log ++ out) :=
  fun ready => heard_append (bound ready) quiet

theorem sound_posts {log : List BackendAction} {c : BackendConnection} (bound : Bound x c log)
    (posts : List Bytes) : Sound x log c (posts.flatMap c.postData) := by
  by_cases ready : c.state = .ready
  · induction posts generalizing log with
    | nil => exact .nil bound
    | cons data posts ih =>
      have posted : c.postData data = [.posted data] := if_pos ready
      rw [List.flatMap_cons,posted,List.singleton_append]
      exact .cons (bound ready) (ih (bound.later (by simp)))
  · have silent : posts.flatMap c.postData = [] := by simp [BackendConnection.postData,ready]
    rw [silent]
    exact .nil bound

/-- The packet that a connection which is not ready takes is the answer to its challenge. -/
theorem sound_packet {log : List BackendAction} {c : BackendConnection} (bound : Bound x c log)
    {commandId : Nat} (requestId : Nat) {payload : Bytes} (o : Override)
    (unrefused : c.state = .challenging → ∀ errorCode, answers x commandId payload errorCode → errorCode = 0) :
    Sound x log (c.onPacket x commandId requestId payload o).connection
      (c.onPacket x commandId requestId payload o).actions := by
  let received : BackendAction := .received commandId requestId payload
  have later : Bound x c (log ++ [received]) := bound.later (by simp [received])
  unfold BackendConnection.onPacket
  refine .cons trivial ?_
  change Sound x (log ++ [received]) _ _
  split
  · rename_i ready
    exact .cons (later ready) (sound_posts (later.later (by simp)) o.posts)
  · split
    · exact .nil later
    · rename_i command
      unfold BackendConnection.onCmdBackendChallengeResp
      split
      · exact .nil later
      · rename_i challenging
        split
        · exact .nil later
        · rename_i m decoded
          have answer : answers x commandId payload m.errorCode := ⟨not_not.mp command,decoded⟩
          obtain rfl : m = ⟨0⟩ := by
            cases m
            exact congrArg _ (unrefused (not_not.mp challenging) _ answer)
          refine .cons ⟨commandId,requestId,payload,by simp [received],answer⟩ ?_
          have heard : Heard x (log ++ [received]) := heard_answer answer
          exact sound_posts (fun _ => heard_append heard (by simp)) o.posts

/-- A packet is accepted only by a connection that is ready, or gets ready with it. -/
theorem accepted_ready {c : BackendConnection} {commandId requestId : Nat} {payload : Bytes} {o : Override}
    (accepted : (c.onPacket x commandId requestId payload o).accepted = true) :
    (c.onPacket x commandId requestId payload o).connection.state = .ready := by
  unfold BackendConnection.onPacket BackendConnection.onCmdBackendChallengeResp at accepted ⊢
  dsimp only at accepted ⊢
  split at accepted
  · rename_i ready
    rw [if_pos ready]
    exact ready
  · rename_i waiting
    rw [if_neg waiting]
    split at accepted
    · cases accepted
    · rename_i command
      rw [if_neg command]
      split at accepted
      · cases accepted
      · rename_i challenging
        rw [if_neg challenging]
        split at accepted
        · cases accepted
        · rfl

theorem sound_loop {fuel : Nat} {log : List BackendAction} {c : BackendConnection} (bound : Bound x c log)
    {data : Bytes} (overrides : List Override)
    (unrefused : c.state = .challenging → ∀ header payload errorCode,
      firstPacket f fuel data = some (header,payload) → answers x header.commandId payload errorCode →
        errorCode = 0) :
    Sound x log (BackendConnection.onDataLoop x f fuel c data overrides).connection
      (BackendConnection.onDataLoop x f fuel c data overrides).actions := by
  induction fuel generalizing log c data overrides with
  | zero => exact .nil bound
  | succ fuel ih =>
    simp only [BackendConnection.onDataLoop]
    cases next : Framing.front f.framing data with
    | invalid | incomplete => exact .nil bound
    | packet header payload =>
      simp only [firstPacket,next] at unrefused
      dsimp only
      by_cases alive : header.isKeepAlive = true
      · simp only [alive,if_true] at unrefused ⊢
        have touched : Bound x { c with lastKeepAliveTimestampMS := c.ticker } log := bound
        exact ih touched overrides unrefused
      · rw [if_neg alive] at unrefused ⊢
        have packet := sound_packet bound header.requestId (overrides.headD {})
          (fun challenging errorCode answer => unrefused challenging header payload errorCode rfl answer)
        by_cases accepted : (c.onPacket x header.commandId header.requestId payload
            (overrides.headD {})).accepted = true
        · rw [if_pos accepted]
          have ready := accepted_ready accepted
          refine packet.append (ih packet.bound overrides.tail ?_)
          intro challenging
          rw [ready] at challenging
          cases challenging
        · rw [if_neg accepted]
          exact packet

/-- What neither speaks nor gets ready is entitled. -/
theorem sound_quiet {log : List BackendAction} {c : BackendConnection} {out : List BackendAction}
    (quiet : ∀ a ∈ out, ∀ before, Entitled x before a) (bound : Bound x c (log ++ out)) : Sound x log c out :=
  ⟨Log.always_of_mem fun a member before => quiet a member (log ++ before),bound⟩

/-- What a tick does to the TCP connection. -/
def BackendAction.OfTick : BackendAction → Prop
  | .cleaned | .initialised _ | .requestKeepAlive => True
  | _ => False

theorem checkAndReconnect_quiet (c : BackendConnection) (initialised : Bool) :
    (∀ a ∈ (c.checkAndReconnect initialised).2, a.OfTick) ∧
      ((c.checkAndReconnect initialised).1.state = .ready → c.state = .ready) := by
  unfold BackendConnection.checkAndReconnect
  by_cases closing : c.state = .closing
  · simp only [closing,if_true]
    split
    · simp [BackendAction.OfTick]
    · cases initialised <;> simp [BackendAction.OfTick]
  · simp only [closing,if_false]
    split
    · rename_i setupReady
      split
      · simp
      · cases initialised <;> simp [BackendAction.OfTick,setupReady]
    · simp

theorem onTick_quiet (c : BackendConnection) (initialised : Bool) :
    (∀ a ∈ (c.onTick initialised).2, a.OfTick) ∧
      ((c.onTick initialised).1.state = .ready → c.state = .ready) := by
  unfold BackendConnection.onTick
  by_cases ready : c.state = .ready
  · rw [if_pos ready]
    refine ⟨?_,fun _ => ready⟩
    split
    · exact (checkAndReconnect_quiet _ initialised).1
    · split <;> simp [BackendAction.OfTick]
  · rw [if_neg ready]
    dsimp only
    obtain ⟨quiet,kept⟩ := checkAndReconnect_quiet (if (c.state = .connecting ∨ c.state = .connected ∨
      c.state = .challenging) ∧ minConnectionTimeoutMS ≤ sub64 c.ticker c.connectionStartTimestampMS then
        { c with state := .closing } else c) initialised
    refine ⟨quiet,fun after => ?_⟩
    have before := kept after
    split at before
    · cases before
    · exact before

theorem BackendAction.OfTick.entitled {a : BackendAction} (tick : a.OfTick) (before : List BackendAction) :
    Entitled x before a := by
  cases a with
  | cleaned | initialised _ | requestKeepAlive => trivial
  | _ => cases tick

theorem step_sound {log : List BackendAction} {c : BackendConnection} (bound : Bound x c log)
    {e : BackendEvent} (unrefused : Unrefused x f c log e) :
    Sound x log (c.step x f e).1 (c.step x f e).2 := by
  cases e with
  | tick nowMS initialised =>
    obtain ⟨quiet,kept⟩ := onTick_quiet { c with ticker := nowMS } initialised
    apply sound_quiet (fun a member => (quiet a member).entitled)
    intro ready
    apply heard_append (bound (kept ready))
    exact fun member => quiet _ member
  | connected timestampMS =>
    apply sound_quiet
    · simp [BackendConnection.step,BackendConnection.onConnected,Entitled]
    · intro ready
      cases ready
  | peerClose =>
    apply Sound.nil
    intro ready
    cases ready
  | data data overrides =>
    have looped := sound_loop bound overrides unrefused
    refine looped.append (.cons trivial (.nil ?_))
    exact looped.bound.later (by simp)
  | postData data =>
    have posted := sound_posts bound [data]
    rwa [List.flatMap_singleton] at posted
  | postMessage buffer =>
    simp only [BackendConnection.step,BackendConnection.postMessage]
    split
    · exact .nil bound
    · simpa using sound_posts bound [buffer]

/-! ## Answers that are taken for an acceptance -/

/-- Whatever the answer to the challenge says, the connection gets ready. -/
theorem packet_ready {c : BackendConnection} (challenging : c.state = .challenging) {commandId errorCode : Nat}
    (requestId : Nat) {payload : Bytes} (answer : answers x commandId payload errorCode) (o : Override) :
    ∃ rest, (c.onPacket x commandId requestId payload o).actions =
      .received commandId requestId payload :: .ready :: rest := by
  obtain ⟨rfl,decoded⟩ := answer
  simp [BackendConnection.onPacket,BackendConnection.onCmdBackendChallengeResp,challenging,decoded]

theorem loop_ready {fuel : Nat} {c : BackendConnection} (challenging : c.state = .challenging) {data : Bytes}
    (overrides : List Override) {header : PacketHeader} {payload : Bytes} {errorCode : Nat}
    (first : firstPacket f fuel data = some (header,payload))
    (answer : answers x header.commandId payload errorCode) :
    ∃ rest, (BackendConnection.onDataLoop x f fuel c data overrides).actions =
      .received header.commandId header.requestId payload :: .ready :: rest := by
  induction fuel generalizing c data overrides with
  | zero => cases first
  | succ fuel ih =>
    simp only [BackendConnection.onDataLoop]
    cases next : Framing.front f.framing data with
    | invalid | incomplete => simp [firstPacket,next] at first
    | packet header' payload' =>
      simp only [firstPacket,next] at first
      dsimp only
      by_cases alive : header'.isKeepAlive = true
      · rw [if_pos alive] at first ⊢
        exact ih (c := { c with lastKeepAliveTimestampMS := c.ticker }) challenging overrides first
      · rw [if_neg alive] at first ⊢
        obtain ⟨rfl,rfl⟩ := Prod.mk.inj (Option.some.inj first)
        obtain ⟨rest,actions⟩ := packet_ready challenging header'.requestId answer (overrides.headD {})
        split
        · exact ⟨rest ++ _,by rw [actions]; rfl⟩
        · exact ⟨rest,actions⟩

theorem speaks_iff_unrefused {c : BackendConnection} {log : List BackendAction} (bound : Bound x c log)
    (e : BackendEvent) : Speaks x f c log e ↔ Unrefused x f c log e := by
  constructor
  · intro speaks
    cases e with
    | data data overrides =>
      intro challenging header payload errorCode first answer
      obtain ⟨rest,actions⟩ := loop_ready challenging overrides first answer
      have split : (c.step x f (.data data overrides)).2 =
          [.received header.commandId header.requestId payload] ++ .ready :: (rest ++
            [.taken (BackendConnection.onDataLoop x f data.length c data overrides).size]) := by
        change (BackendConnection.onDataLoop x f data.length c data overrides).actions ++ _ = _
        rw [actions]
        rfl
      obtain ⟨commandId,requestId,payload',last,accepted⟩ := speaks _ _ _ split
      rw [List.getLast?_concat] at last
      obtain ⟨rfl,-,rfl⟩ := BackendAction.received.inj (Option.some.inj last)
      have same := accepted.2.symm.trans answer.2
      exact (BackendChallengeResp.mk.inj (Option.some.inj same)).symm
    | _ => trivial
  · exact fun unrefused => (step_sound bound unrefused).entitled

/-! ## Runs -/

theorem bound_run {c : BackendConnection} {log : List BackendAction}
    (reach : (backendMachine x f).Reach (Unrefused x f) c log) : Bound x c log := by
  refine reach.invariant (I := Bound x) ?_ (fun c log e _ unrefused bound => (step_sound bound unrefused).bound)
  rintro _ ⟨ticker,appKey,appSecret,rfl⟩ ready
  cases ready

/-- In a run the connection does only what it is entitled to just if no answer to its challenge
has an error. -/
theorem speaks_after_acceptance {c : BackendConnection} (start : (backendMachine x f).start c)
    (es : List BackendEvent) :
    (backendMachine x f).Allowed (Speaks x f) c [] es ↔ (backendMachine x f).Allowed (Unrefused x f) c [] es :=
  (Machine.allowed_iff (fun _ _ e reach => (speaks_iff_unrefused (bound_run reach) e).symm) (.start start)
    es).symm

/-- The packet that answers a challenge with this error code, of one byte. -/
def answerPacket (errorCode : UInt8) : Bytes :=
  [0,0,0,20,0,0,0x41,2,0,0,0,0,0,0,0,0,0,0,0,errorCode]

/-- The connection is made, and its challenge is answered. -/
def answered (errorCode : UInt8) : List BackendEvent :=
  [.tick 3000 true,.connected 3001,.data (answerPacket errorCode) []]

theorem speaks_after_acceptance_answered :
    (backendMachine .reference PacketLibrary.referenceFormat).Allowed (Speaks .reference PacketLibrary.referenceFormat)
      { appKey := ascii "key", appSecret := ascii "secret" } [] (answered 0 ++ [.postData [1]]) := by
  refine (speaks_after_acceptance ⟨_,_,_,rfl⟩ _).mpr ⟨trivial,trivial,?_,trivial,trivial⟩
  intro _ header payload errorCode first answer
  have packet : firstPacket PacketLibrary.referenceFormat 20 (answerPacket 0) = some (⟨20,0x4102,0,false,false⟩,[0,0,0,0]) := by decide
  obtain ⟨rfl,rfl⟩ := Prod.mk.inj (Option.some.inj (packet.symm.trans first))
  have decoded : BackendChallengeResp.deserialize .reference [0,0,0,0] = some ⟨0⟩ := by decide
  exact (BackendChallengeResp.mk.inj (Option.some.inj (decoded.symm.trans answer.2))).symm

/-- The backend refuses with error 5, and the connection is ready all the same. -/
theorem refusal_taken_for_acceptance :
    ¬ ∀ c es, (backendMachine .reference PacketLibrary.referenceFormat).start c →
      (backendMachine .reference PacketLibrary.referenceFormat).Allowed (Speaks .reference PacketLibrary.referenceFormat) c [] es := by
  intro always
  have allowed := always { appKey := ascii "key", appSecret := ascii "secret" } (answered 5) ⟨_,_,_,rfl⟩
  obtain ⟨-,-,speaks,-⟩ := allowed
  have unrefused := (speaks_iff_unrefused (fun ready => by cases ready) _).mp speaks
  have packet : firstPacket PacketLibrary.referenceFormat 20 (answerPacket 5) = some (⟨20,0x4102,0,false,false⟩,[0,0,0,5]) := by decide
  exact absurd (unrefused rfl _ _ 5 packet ⟨rfl,by decide⟩) (by decide)

end MiniPP.Backend
