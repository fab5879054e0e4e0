import MiniPP.Backend.Acceptance

/-! When the TCP connection under a connection to the backend is initialised and cleaned, and how
often it is tried. -/
namespace MiniPP.Backend

variable {x : Library} {f : PacketFormat}

/-! ## What the TCP connection goes through -/

def track (initialised : Bool) : BackendAction → Bool
  | .initialised accepted => initialised || accepted
  | .cleaned => false
  | _ => initialised

/-- `Init` has succeeded, and there was no `Clean` since. -/
def Initialised (log : List BackendAction) : Prop := log.foldl track false = true

instance (log : List BackendAction) : Decidable (Initialised log) := inferInstanceAs (Decidable (_ = true))

/-- `Init` is for a connection that is not initialised, and `Clean` for one that is. -/
def ProperUse (before : List BackendAction) : BackendAction → Prop
  | .initialised _ => ¬ Initialised before
  | .cleaned => Initialised before
  | _ => True

/-- From `Connecting` to `Closing`. -/
def Opened : ConnectionState → Prop
  | .connecting | .connected | .challenging | .ready | .closing => True
  | .unspecified | .setupReady => False

/-! ## Time -/

/-- The last tick, and the times at which a connection was tried. -/
structure Attempts where
  lastTick : Nat := 0
  times : List Nat := []

def tries : BackendAction → Bool
  | .initialised _ => true
  | _ => false

def watchAttempts (x : Library) (f : PacketFormat) (c : BackendConnection) (e : BackendEvent) (g : Attempts) :
    Attempts :=
  match e with
  | .tick nowMS _ => ⟨nowMS,if (c.step x f e).2.any tries then g.times ++ [nowMS] else g.times⟩
  | _ => g

/-- The machine, with a record of its attempts. -/
def attemptMachine (x : Library) (f : PacketFormat) : Machine (BackendConnection × Attempts) BackendEvent BackendAction :=
  (backendMachine x f).withGhost {} (watchAttempts x f)

/-- Time does not go back, and only a TCP connection that is initialised calls its listener. -/
def Delivered (s : BackendConnection × Attempts) (log : List BackendAction) : BackendEvent → Prop
  | .tick nowMS _ => s.2.lastTick ≤ nowMS
  | .connected _ | .peerClose | .data _ _ => Initialised log
  | .postData _ | .postMessage _ => True

instance (s : BackendConnection × Attempts) (log : List BackendAction) :
    (e : BackendEvent) → Decidable (Delivered s log e)
  | .tick nowMS _ => inferInstanceAs (Decidable (s.2.lastTick ≤ nowMS))
  | .connected _ | .peerClose | .data _ _ => inferInstanceAs (Decidable (Initialised log))
  | .postData _ | .postMessage _ => inferInstanceAs (Decidable True)

/-- Every two attempts are as far apart as they should be. -/
def Spaced (times : List Nat) : Prop := times.Pairwise (fun earlier later => earlier + minReconnectTimeoutMS ≤ later)

/-! ## Steps -/

/-- The TCP connection is left alone. -/
structure Calm (c c' : BackendConnection) (out : List BackendAction) : Prop where
  opened : Opened c'.state ↔ Opened c.state
  specified : c.state ≠ .unspecified → c'.state ≠ .unspecified
  start : c'.connectionStartTimestampMS = c.connectionStartTimestampMS
  quiet : ∀ a ∈ out, a ≠ .cleaned ∧ tries a = false

theorem Calm.refl (c : BackendConnection) : Calm c c [] := ⟨Iff.rfl,id,rfl,by simp⟩

theorem Calm.trans {c c' c'' : BackendConnection} {out rest : List BackendAction} (first : Calm c c' out)
    (second : Calm c' c'' rest) : Calm c c'' (out ++ rest) where
  opened := second.opened.trans first.opened
  specified known := second.specified (first.specified known)
  start := second.start.trans first.start
  quiet a member := (List.mem_append.mp member).elim (first.quiet a) (second.quiet a)

/-- What a tick does to the TCP connection. -/
inductive TickOutcome (c : BackendConnection) : BackendConnection → List BackendAction → Prop where
  | calm {c' : BackendConnection} {out : List BackendAction} : Calm c c' out → TickOutcome c c' out
  | closed {c' : BackendConnection} (opened : Opened c.state) (state : c'.state = .setupReady)
      (start : c'.connectionStartTimestampMS = c.connectionStartTimestampMS) :
      TickOutcome c c' [.cleaned]
  | tried {c' : BackendConnection} {cleaned : List BackendAction} (accepted : Bool)
      (before : Opened c.state ∧ cleaned = [.cleaned] ∨ c.state = .setupReady ∧ cleaned = [])
      (late : minReconnectTimeoutMS ≤ signedDiff c.ticker c.connectionStartTimestampMS)
      (state : c'.state = if accepted then .connecting else .setupReady)
      (start : c'.connectionStartTimestampMS = c.ticker) :
      TickOutcome c c' (cleaned ++ [.initialised accepted])

/-- The end of `OnTick`, for a connection that may just have been found to be over. -/
theorem checkAndReconnect_outcome (c : BackendConnection) (initialised : Bool) :
    TickOutcome c (c.checkAndReconnect initialised).1 (c.checkAndReconnect initialised).2 := by
  unfold BackendConnection.checkAndReconnect
  by_cases closing : c.state = .closing
  · have opened : Opened c.state := by
      rw [closing]
      trivial
    simp only [closing,if_true]
    split
    · exact .closed opened rfl rfl
    · rename_i late
      have late := not_lt.mp late
      cases initialised with
      | true => exact .tried true (.inl ⟨opened,rfl⟩) late rfl rfl
      | false => exact .tried false (.inl ⟨opened,rfl⟩) late rfl rfl
  · simp only [closing,if_false]
    split
    · rename_i ready
      split
      · exact .calm (.refl c)
      · rename_i late
        have late := not_lt.mp late
        cases initialised with
        | true => exact .tried true (.inr ⟨ready,rfl⟩) late rfl rfl
        | false => exact .tried false (.inr ⟨ready,rfl⟩) late ready rfl
    · exact .calm (.refl c)

/-- Once an opened connection is found to be over, the tick goes on as for one that is closing. -/
theorem TickOutcome.of_closing {c c' : BackendConnection} {out : List BackendAction} (opened : Opened c.state)
    (outcome : TickOutcome { c with state := .closing } c' out) : TickOutcome c c' out := by
  cases outcome with
  | calm calm =>
    exact .calm ⟨calm.opened.trans (iff_of_true trivial opened),fun _ => calm.specified (by simp),calm.start,
      calm.quiet⟩
  | closed _ state start => exact .closed opened state start
  | tried accepted before late state start =>
    obtain ⟨-,cleaned⟩ | ⟨ready,-⟩ := before
    · exact .tried accepted (.inl ⟨opened,cleaned⟩) late state start
    · cases ready

theorem onTick_outcome (c : BackendConnection) (initialised : Bool) :
    TickOutcome c (c.onTick initialised).1 (c.onTick initialised).2 := by
  unfold BackendConnection.onTick
  by_cases ready : c.state = .ready
  · have opened : Opened c.state := by
      rw [ready]
      trivial
    rw [if_pos ready]
    split
    · exact .of_closing opened (checkAndReconnect_outcome _ initialised)
    · split
      · exact .calm ⟨Iff.rfl,id,rfl,by simp [tries]⟩
      · exact .calm (.refl c)
  · rw [if_neg ready]
    dsimp only
    split
    · rename_i late
      have opened : Opened c.state := by
        obtain same | same | same := late.1
        all_goals
          rw [same]
          trivial
      exact .of_closing opened (checkAndReconnect_outcome _ initialised)
    · exact checkAndReconnect_outcome c initialised

/-! ## Data -/

theorem calm_posts {c c' : BackendConnection} {out : List BackendAction} (calm : Calm c c' out)
    (posts : List Bytes) : Calm c c' (out ++ posts.flatMap c'.postData) := by
  apply calm.trans
  refine ⟨Iff.rfl,id,rfl,?_⟩
  intro a member
  obtain ⟨data,-,posted⟩ := List.mem_flatMap.mp member
  unfold BackendConnection.postData at posted
  split at posted
  · obtain rfl := List.mem_singleton.mp posted
    exact ⟨by simp,rfl⟩
  · cases posted

theorem calm_packet (x : Library) (c : BackendConnection) (commandId requestId : Nat) (payload : Bytes) (o : Override) :
    Calm c (c.onPacket x commandId requestId payload o).connection
      (c.onPacket x commandId requestId payload o).actions := by
  let received : BackendAction := .received commandId requestId payload
  have heard : Calm c c [received] := ⟨Iff.rfl,id,rfl,by simp [received,tries]⟩
  unfold BackendConnection.onPacket
  split
  · have handed : Calm c c ([received] ++ [.backendPacket commandId requestId payload]) :=
      heard.trans ⟨Iff.rfl,id,rfl,by simp [tries]⟩
    exact calm_posts handed o.posts
  · split
    · exact heard
    · unfold BackendConnection.onCmdBackendChallengeResp
      split
      · exact heard
      · rename_i challenging
        have challenging := not_not.mp challenging
        split
        · exact heard
        · let c' : BackendConnection := { c with
            state := .ready
            lastRequestKeepAliveTimestampMS := c.ticker
            lastKeepAliveTimestampMS := c.ticker }
          have opened : Opened c.state := by
            rw [challenging]
            trivial
          have answered : Calm c c' ([received] ++ [.ready]) :=
            heard.trans ⟨iff_of_true trivial opened,fun _ => by simp [c'],rfl,by simp [tries]⟩
          exact calm_posts answered o.posts

theorem calm_loop (x : Library) (f : PacketFormat) (fuel : Nat) (c : BackendConnection) (data : Bytes)
    (overrides : List Override) :
    Calm c (BackendConnection.onDataLoop x f fuel c data overrides).connection
      (BackendConnection.onDataLoop x f fuel c data overrides).actions := by
  induction fuel generalizing c data overrides with
  | zero => exact .refl c
  | succ fuel ih =>
    simp only [BackendConnection.onDataLoop]
    split
    · exact .refl c
    · exact .refl c
    · rename_i header payload next
      split
      · have kept : Calm c { c with lastKeepAliveTimestampMS := c.ticker } [] := ⟨Iff.rfl,id,rfl,by simp⟩
        exact kept.trans (ih _ _ _)
      · have first := calm_packet x c header.commandId header.requestId payload (overrides.headD {})
        split
        · exact first.trans (ih _ _ _)
        · exact first

theorem calm_data (x : Library) (f : PacketFormat) (c : BackendConnection) (data : Bytes) (overrides : List Override) :
    Calm c (c.onData x f data overrides).1 (c.onData x f data overrides).2 :=
  (calm_loop x f data.length c data overrides).trans ⟨Iff.rfl,id,rfl,by simp [tries]⟩

/-! ## Logs -/

theorem initialised_quiet {log out : List BackendAction} (quiet : ∀ a ∈ out, a ≠ .cleaned ∧ tries a = false) :
    Initialised (log ++ out) ↔ Initialised log := by
  unfold Initialised
  rw [List.foldl_append]
  generalize log.foldl track false = before
  induction out with
  | nil => exact Iff.rfl
  | cons a out ih =>
    have same : track before a = before := by
      obtain ⟨kept,untried⟩ := quiet a List.mem_cons_self
      cases a with
      | cleaned => exact absurd rfl kept
      | initialised accepted => cases untried
      | _ => rfl
    rw [List.foldl_cons,same]
    exact ih (fun a member => quiet a (List.mem_cons_of_mem _ member))

theorem proper_quiet {before : List BackendAction} {a : BackendAction} (quiet : a ≠ .cleaned ∧ tries a = false) :
    ProperUse before a := by
  cases a with
  | cleaned => exact absurd rfl quiet.1
  | initialised accepted => cases quiet.2
  | _ => trivial

@[simp] theorem not_initialised_cleaned (log : List BackendAction) : ¬ Initialised (log ++ [.cleaned]) := by
  simp [Initialised,track]

theorem initialised_tried {log : List BackendAction} {accepted : Bool} (before : ¬ Initialised log) :
    Initialised (log ++ [.initialised accepted]) ↔ accepted = true := by
  unfold Initialised at *
  simp [track,before]

theorem opened_tried {accepted : Bool} {state : ConnectionState}
    (after : state = if accepted then .connecting else .setupReady) : Opened state ↔ accepted = true := by
  subst after
  cases accepted with
  | true => exact iff_of_true trivial rfl
  | false => exact iff_of_false id Bool.false_ne_true

/-! ## Runs -/

/-- The connection's last attempt is what it takes for the start of its connection. -/
structure Disciplined (s : BackendConnection × Attempts) (log : List BackendAction) : Prop where
  initialised : Initialised log ↔ Opened s.1.state
  specified : s.1.state ≠ .unspecified
  proper : Log.Always ProperUse log
  spaced : Spaced s.2.times
  latest : ∀ t ∈ s.2.times, t ≤ s.1.connectionStartTimestampMS
  past : s.1.connectionStartTimestampMS ≤ s.2.lastTick

/-- What leaves the TCP connection alone keeps the discipline. -/
theorem Disciplined.calm {s : BackendConnection × Attempts} {c : BackendConnection} {lastTick : Nat}
    {log out : List BackendAction} (kept : Disciplined s log) (calm : Calm s.1 c out)
    (later : s.2.lastTick ≤ lastTick) : Disciplined (c,⟨lastTick,s.2.times⟩) (log ++ out) where
  initialised := (initialised_quiet calm.quiet).trans (kept.initialised.trans calm.opened.symm)
  specified := calm.specified kept.specified
  proper := Log.always_append.mpr ⟨kept.proper,
    Log.always_of_mem (fun a member _ => proper_quiet (calm.quiet a member))⟩
  spaced := kept.spaced
  latest t member := by
    rw [calm.start]
    exact kept.latest t member
  past := by
    rw [calm.start]
    exact kept.past.trans later

theorem proper_cleaned {log : List BackendAction} (proper : Log.Always ProperUse log)
    (initialised : Initialised log) : Log.Always ProperUse (log ++ [.cleaned]) :=
  Log.always_append.mpr ⟨proper,Log.always_cons.mpr ⟨by simpa [ProperUse] using initialised,by simp⟩⟩

theorem proper_tried {log : List BackendAction} (proper : Log.Always ProperUse log)
    (closed : ¬ Initialised log) (accepted : Bool) : Log.Always ProperUse (log ++ [.initialised accepted]) :=
  Log.always_append.mpr ⟨proper,Log.always_cons.mpr ⟨by simpa [ProperUse] using closed,by simp⟩⟩

/-- As long as time does not go back, a signed difference is the time that has passed. -/
theorem apart_of_late {earlier later : Nat} (order : earlier ≤ later)
    (late : minReconnectTimeoutMS ≤ signedDiff later earlier) : earlier + minReconnectTimeoutMS ≤ later := by
  unfold signedDiff at late
  rw [sub64_of_le order] at late
  unfold minReconnectTimeoutMS at *
  split at late
  · omega
  · omega

/-- `c` is the connection once its ticker has been set. -/
theorem Disciplined.tick {s : BackendConnection × Attempts} {log out : List BackendAction} (kept : Disciplined s log)
    {c c' : BackendConnection} (later : s.2.lastTick ≤ c.ticker) (same : c = { s.1 with ticker := c.ticker })
    (outcome : TickOutcome c c' out) :
    Disciplined (c',⟨c.ticker,if out.any tries then s.2.times ++ [c.ticker] else s.2.times⟩) (log ++ out) := by
  have state_eq : c.state = s.1.state := by rw [same]
  have start_eq : c.connectionStartTimestampMS = s.1.connectionStartTimestampMS := by rw [same]
  have before_now : s.1.connectionStartTimestampMS ≤ c.ticker := kept.past.trans later
  cases outcome with
  | calm calm =>
    have none : out.any tries = false := by
      apply List.any_eq_false.mpr
      intro a member
      simp [(calm.quiet a member).2]
    have calm : Calm s.1 c' out := by
      obtain ⟨opened,specified,start,quiet⟩ := calm
      rw [state_eq] at opened specified
      exact ⟨opened,specified,start.trans start_eq,quiet⟩
    simp only [none,Bool.false_eq_true,if_false]
    exact kept.calm calm later
  | closed opened state start =>
    have initialised : Initialised log := by
      rw [kept.initialised,← state_eq]
      exact opened
    exact {
      initialised := iff_of_false (by simp) (by rw [state]; exact id)
      specified := by simp [state]
      proper := proper_cleaned kept.proper initialised
      spaced := kept.spaced
      latest := by
        rw [start,start_eq]
        exact kept.latest
      past := by
        rw [start,start_eq]
        exact before_now }
  | tried accepted before late state start =>
    rename_i cleaned
    have now : Log.Always ProperUse (log ++ cleaned) ∧ ¬ Initialised (log ++ cleaned) := by
      obtain ⟨opened,rfl⟩ | ⟨ready,rfl⟩ := before
      · rw [state_eq,← kept.initialised] at opened
        exact ⟨proper_cleaned kept.proper opened,by simp⟩
      · rw [List.append_nil,kept.initialised,← state_eq,ready]
        exact ⟨kept.proper,id⟩
    have some_ : (cleaned ++ [BackendAction.initialised accepted]).any tries = true := by simp [tries]
    rw [if_pos some_,← List.append_assoc]
    exact {
      initialised := (initialised_tried now.2).trans (opened_tried state).symm
      specified := by
        rw [state]
        cases accepted with
        | true => exact nofun
        | false => exact nofun
      proper := proper_tried now.1 now.2 accepted
      spaced := by
        apply List.pairwise_append.mpr
        refine ⟨kept.spaced,List.pairwise_singleton _ _,?_⟩
        intro earlier member now last
        obtain rfl := List.mem_singleton.mp last
        rw [start_eq] at late
        have apart := apart_of_late before_now late
        have := kept.latest earlier member
        omega
      latest := by
        intro t member
        rw [start]
        obtain old | new := List.mem_append.mp member
        · exact (kept.latest t old).trans before_now
        · exact (List.mem_singleton.mp new).le
      past := by rw [start] }

/-- What the TCP connection tells its listener leaves an opened connection opened. -/
theorem calm_of_opened {c c' : BackendConnection} {out : List BackendAction} (opened : Opened c.state)
    (opened' : Opened c'.state) (start : c'.connectionStartTimestampMS = c.connectionStartTimestampMS)
    (quiet : ∀ a ∈ out, a ≠ .cleaned ∧ tries a = false) : Calm c c' out where
  opened := iff_of_true opened' opened
  specified _ unspecified := by
    rw [unspecified] at opened'
    exact opened'
  start := start
  quiet := quiet

theorem disciplined {s : BackendConnection × Attempts} {log : List BackendAction}
    (reach : (attemptMachine x f).Reach Delivered s log) : Disciplined s log := by
  apply Machine.Reach.invariant ?_ ?_ reach
  · rintro ⟨c,g⟩ ⟨⟨ticker,appKey,appSecret,rfl⟩,rfl⟩
    exact {
      initialised := iff_of_false (by simp [Initialised]) id
      specified := nofun
      proper := Log.always_nil _
      spaced := List.Pairwise.nil
      latest := by simp
      past := Nat.le_refl _ }
  · intro s log e _ delivered kept
    cases e with
    | tick nowMS initialised =>
      exact kept.tick (c := { s.1 with ticker := nowMS }) delivered rfl (onTick_outcome _ initialised)
    | connected timestampMS =>
      have quiet : ∀ a ∈ (s.1.onConnected x timestampMS).2, a ≠ .cleaned ∧ tries a = false := by
        simp [BackendConnection.onConnected,tries]
      exact kept.calm (calm_of_opened (kept.initialised.mp delivered) trivial rfl quiet) le_rfl
    | peerClose =>
      have quiet : ∀ a ∈ ([] : List BackendAction), a ≠ .cleaned ∧ tries a = false := by simp
      exact kept.calm (calm_of_opened (kept.initialised.mp delivered) trivial rfl quiet) le_rfl
    | data data overrides => exact kept.calm (calm_data x f s.1 data overrides) le_rfl
    | postData data =>
      have calm : Calm s.1 s.1 (s.1.postData data) := by simpa using calm_posts (.refl s.1) [data]
      exact kept.calm calm le_rfl
    | postMessage buffer =>
      have calm : Calm s.1 s.1 (s.1.postMessage buffer) := by
        unfold BackendConnection.postMessage
        split
        · exact .refl s.1
        · simpa using calm_posts (.refl s.1) [buffer]
      exact kept.calm calm le_rfl

/-- In every run: the TCP connection is initialised exactly from `Connecting` to `Closing`, it is
initialised and cleaned in turn, and attempts are no closer than they may be. -/
theorem connection_discipline {s : BackendConnection × Attempts} {log : List BackendAction}
    (reach : (attemptMachine x f).Reach Delivered s log) :
    (Initialised log ↔ Opened s.1.state) ∧ Log.Always ProperUse log ∧ Spaced s.2.times :=
  have kept := disciplined reach
  ⟨kept.initialised,kept.proper,kept.spaced⟩

/-- The peer closes an accepted connection, and the next one is tried when it is time. -/
abbrev reconnection : List BackendEvent := answered 0 ++ [.peerClose,.tick 4000 true,.tick 6000 true]

abbrev unconnected : BackendConnection × Attempts := ({ appKey := ascii "key", appSecret := ascii "secret" },{})

theorem connection_discipline_reconnects :
    let r := (attemptMachine .reference PacketLibrary.referenceFormat).run unconnected reconnection
    r.1.2.times = [3000,6000] ∧
      (Initialised r.2 ↔ Opened r.1.1.state) ∧ Log.Always ProperUse r.2 ∧ Spaced r.1.2.times := by
  have start : (attemptMachine .reference PacketLibrary.referenceFormat).start unconnected := ⟨⟨_,_,_,rfl⟩,rfl⟩
  have allowed : (attemptMachine .reference PacketLibrary.referenceFormat).Allowed Delivered unconnected [] reconnection := by decide
  exact ⟨by decide,connection_discipline (Machine.Reach.run (.start start) reconnection allowed)⟩

end MiniPP.Backend
