import MiniPP.Proxy.ServerSteps

/-! Where the target of a connection request comes from: the message of a SOCKS5 client, or
the request line that an HTTP client opened its session with. -/
namespace MiniPP.Proxy

/-! ## Bytes of a line -/

theorem findByte_eq_some {byte : UInt8} {data : Bytes} {start i : Nat} :
    findByte byte data start = some i ↔
      start ≤ i ∧ data[i]? = some byte ∧ ∀ j, start ≤ j → j < i → data[j]? ≠ some byte := by
  unfold findByte
  simp only [Option.map_eq_some_iff,List.findIdx?_eq_some_iff_getElem,beq_iff_eq]
  constructor
  · rintro ⟨k,⟨bound,here,before⟩,rfl⟩
    rw [List.getElem_drop] at here
    refine ⟨Nat.le_add_left _ _,?_,?_⟩
    · rw [Nat.add_comm,← here]
      exact List.getElem?_eq_getElem _
    · intro j after earlier found
      have strict : j - start < k := by omega
      obtain ⟨inside,same⟩ := List.getElem?_eq_some_iff.mp found
      refine absurd ?_ (before (j - start) strict)
      rw [List.getElem_drop]
      simpa [Nat.add_sub_cancel' after] using same
  · rintro ⟨after,found,before⟩
    obtain ⟨inside,same⟩ := List.getElem?_eq_some_iff.mp found
    have bound : i - start < (data.drop start).length := by
      rw [List.length_drop]
      omega
    refine ⟨i - start,⟨bound,?_,?_⟩,by omega⟩
    · rw [List.getElem_drop]
      simpa [Nat.add_sub_cancel' after] using same
    · intro j earlier
      rw [List.getElem_drop]
      intro equal
      have inside' : start + j < data.length := by omega
      apply before (start + j) (Nat.le_add_right _ _) (by omega)
      rw [List.getElem?_eq_getElem inside',equal]

/-- The first byte of a line is the first byte of the text, and so on up to its end. -/
theorem findByte_take {byte : UInt8} {data : Bytes} {n start i : Nat}
    (found : findByte byte (data.take n) start = some i) : findByte byte data start = some i := by
  obtain ⟨after,here,before⟩ := findByte_eq_some.mp found
  have inside : i < n := by
    have := (List.getElem?_eq_some_iff.mp here).1
    rw [List.length_take] at this
    omega
  refine findByte_eq_some.mpr ⟨after,?_,?_⟩
  · rwa [List.getElem?_take_of_lt inside] at here
  · intro j later earlier
    have := before j later earlier
    rwa [List.getElem?_take_of_lt (by omega)] at this

theorem toLower_slash {b : UInt8} (same : toLower b = slash) : b = slash := by
  unfold toLower slash at same
  unfold slash
  split at same <;> grind

theorem startsWithCI_getElem {text data : Bytes} (starts : startsWithCI text data) {i : Nat} {t : UInt8}
    (inside : text[i]? = some t) : ∃ b, data[i]? = some b ∧ toLower b = toLower t := by
  simp only [startsWithCI,ge_iff_le,Bool.and_eq_true,decide_eq_true_eq,beq_iff_eq] at starts
  obtain ⟨long,same⟩ := starts
  have bound : i < text.length := (List.getElem?_eq_some_iff.mp inside).1
  have pointwise := congrArg (fun l => l[i]?) same
  simp only [List.getElem?_map,List.getElem?_take_of_lt bound,inside,Option.map_some,
    Option.map_eq_some_iff] at pointwise
  exact pointwise

/-! ## The host of an absolute URI -/

theorem uriTarget_length {range buffer : Bytes} (host : Bytes) (stops : slash ∈ range)
    (inside : range.length ≤ buffer.length) : host.length ≤ (uriTarget range buffer host).1.length := by
  induction range generalizing buffer host with
  | nil => cases stops
  | cons b range ih =>
    cases buffer with
    | nil => simp at inside
    | cons _ buffer =>
      unfold uriTarget
      split
      · exact Nat.le_refl _
      · split
        · exact Nat.le_refl _
        · rename_i other
          have later : slash ∈ range := by
            rcases List.mem_cons.mp stops with rfl | later
            · exact absurd rfl other
            · exact later
          have longer : (host ++ [b]).length ≤ (uriTarget range buffer (host ++ [b])).1.length :=
            ih _ later (by simpa using inside)
          rw [List.length_append] at longer
          omega

/-- A range that ends in a slash has no host if it starts with the end of one. -/
theorem uriTarget_eq_nil {b : UInt8} {range : Bytes} {buffer : Bytes} (stops : slash ∈ b :: range)
    (inside : (b :: range).length ≤ buffer.length) :
    (uriTarget (b :: range) buffer []).1 = [] ↔ b = colon ∨ b = slash := by
  cases buffer with
  | nil => simp at inside
  | cons _ buffer =>
    unfold uriTarget
    split
    · rename_i same
      simp [same]
    · split
      · rename_i same
        simp [same]
      · rename_i noColon noSlash
        have later : slash ∈ range := by
          rcases List.mem_cons.mp stops with rfl | later
          · exact absurd rfl noSlash
          · exact later
        have longer : [b].length ≤ (uriTarget range buffer [b]).1.length :=
          uriTarget_length [b] later (by simpa using inside)
        refine ⟨fun empty => ?_,fun stop => ?_⟩
        · rw [List.nil_append] at empty
          simp [empty] at longer
        · rcases stop with same | same
          · exact absurd same noColon
          · exact absurd same noSlash

/-- From `start` to the next slash of the line, there is no host if the authority is empty. -/
theorem uriTarget_range {data : Bytes} {n start path : Nat}
    (found : findByte slash (data.take n) start = some path) :
    (uriTarget (((data.take n).take (path + 1)).drop start) (data.drop start) []).1 = [] ↔
      (data.drop start).head? = some colon ∨ (data.drop start).head? = some slash := by
  obtain ⟨after,here,-⟩ := findByte_eq_some.mp found
  obtain ⟨inside,atPath⟩ := List.getElem?_eq_some_iff.mp here
  rw [List.length_take] at inside
  have shorter : ((data.take n).take (path + 1)).length = path + 1 := by
    rw [List.length_take,List.length_take]
    omega
  have bound : start < ((data.take n).take (path + 1)).length := by omega
  have starts : start < data.length := by omega
  have stops : slash ∈ ((data.take n).take (path + 1)).drop start := by
    apply List.mem_of_getElem? (i := path - start)
    rw [List.getElem?_drop,Nat.add_sub_cancel' after,List.getElem?_take_of_lt (Nat.lt_succ_self _)]
    exact here
  have long : (((data.take n).take (path + 1)).drop start).length ≤ (data.drop start).length := by
    rw [List.length_drop,List.length_drop]
    omega
  rw [List.drop_eq_getElem_cons bound] at stops long ⊢
  rw [uriTarget_eq_nil stops long,List.drop_eq_getElem_cons starts,List.head?_cons,
    Option.some.injEq,Option.some.injEq]
  simp only [List.getElem_take]

theorem not_https_of_http {url : Bytes} (http : startsWithCI (ascii "http://") url) :
    startsWithCI (ascii "https://") url = false := by
  rw [Bool.eq_false_iff]
  intro https
  obtain ⟨b,here,same⟩ := startsWithCI_getElem http (i := 4) (t := 58) (by decide)
  obtain ⟨b',here',same'⟩ := startsWithCI_getElem https (i := 4) (t := 115) (by decide)
  obtain rfl := Option.some.inj (here.symm.trans here')
  rw [same] at same'
  exact absurd same' (by decide)

theorem https_bytes : ascii "https://" = [104,116,116,112,115,58,47,47] := ascii_ofList _

/-- Behind "https://" the search of the path starts at the last slash of the scheme. -/
theorem https_path {data : Bytes} {n start last path : Nat}
    (https : startsWithCI (ascii "https://") (data.drop start))
    (blank : findByte space (data.take n) start = some last)
    (found : findByte slash (data.take n) (start + 7) = some path) : path = start + 7 := by
  have bytes (i : Nat) (t : UInt8) (inside : (ascii "https://")[i]? = some t) :
      ∃ b, data[start + i]? = some b ∧ toLower b = toLower t := by
    obtain ⟨b,here,same⟩ := startsWithCI_getElem https inside
    rw [List.getElem?_drop] at here
    exact ⟨b,here,same⟩
  obtain ⟨b,here,same⟩ := bytes 7 47 (by decide)
  obtain rfl : b = slash := toLower_slash (same.trans (by decide))
  obtain ⟨from_,there,-⟩ := findByte_eq_some.mp blank
  have inside := (List.getElem?_eq_some_iff.mp there).1
  rw [List.length_take] at inside
  rw [List.getElem?_take_of_lt (by omega)] at there
  -- The blank that ends the URL is none of the eight bytes of the scheme.
  have beyond : start + 7 < last := by
    by_contra within
    have index : last = start + (last - start) := by omega
    have short : last - start < 8 := by omega
    obtain ⟨t,text⟩ : ∃ t, (ascii "https://")[last - start]? = some t :=
      ⟨_,List.getElem?_eq_getElem (by rwa [https_bytes])⟩
    obtain ⟨b',here',same'⟩ := bytes (last - start) t text
    rw [← index,there] at here'
    obtain rfl := Option.some.inj here'
    have blanks : (ascii "https://").all (fun t => toLower space != toLower t) = true := by
      rw [https_bytes]
      decide
    have apart := List.all_eq_true.mp blanks t (List.mem_of_getElem? text)
    exact bne_iff_ne.mp apart same'
  obtain ⟨after,_,first⟩ := findByte_eq_some.mp found
  by_contra other
  apply first (start + 7) (Nat.le_refl _) (by omega)
  rw [List.getElem?_take_of_lt (by omega)]
  exact here

/-! ## The line that opens a session -/

def newConnection : ClientConnection := { connectionId := 0, remoteIp := [] }

/-- The phase that the first bytes of a client lead to, and the host that they name. -/
def openingPhase (data : Bytes) : Phase := (onChallenge newConnection data).conn.phase

def openingHost (data : Bytes) : Bytes := (onChallenge newConnection data).conn.http.targetHost

/-- A request that is no CONNECT and whose URL names no host: its authority is empty, or
begins with the colon of a port, or stands behind "https://". -/
def namelessUri (data : Bytes) : Bool :=
  data.getD 0 0 != 0x05 && !startsWithCI (ascii "CONNECT ") data &&
    match findByte space data 0 with
    | none => false
    | some blank =>
      let url := data.drop (blank + 1)
      let authority := if startsWithCI (ascii "http://") url then url.drop 7 else url
      startsWithCI (ascii "https://") url || authority.head? == some colon ||
        authority.head? == some slash

/-- A SOCKS5 request for a domain name without a byte. -/
def namelessDomain (data : Bytes) : Bool := data.getD 3 0 == 0x03 && data.getD 4 0 == 0

/-- The first callback looks at nothing but the bytes. -/
theorem challenge_opening {c : ClientConnection} (data : Bytes) (phase : c.phase = .unknown) :
    (onChallenge c data).conn.phase = openingPhase data ∧
      (openingPhase data = .httpRawChallenge ∨ openingPhase data = .httpNormalChallenge →
        (onChallenge c data).conn.http.targetHost = openingHost data) := by
  unfold openingPhase openingHost onChallenge onS5Challenge onHttpChallenge
  dsimp only
  split
  · simp [phase,newConnection]
  · split
    · split
      · simp [phase,newConnection]
      · split <;> simp [phase,newConnection]
    · split
      · simp [phase,newConnection]
      · simp [phase,newConnection]
      · split
        · split <;> simp [phase,newConnection]
        · split
          · simp [phase,newConnection]
          · split
            · simp [phase,newConnection]
            · split <;> simp [phase,newConnection]

/-- The host of an absolute URI is empty exactly if the URI names none. -/
theorem host_eq_nil {data : Bytes} {n blank last path : Nat}
    (first : findByte space (data.take n) 0 = some blank)
    (second : findByte space (data.take n) (blank + 1) = some last)
    (found : findByte slash (data.take n) (skipScheme data (blank + 1)).2 = some path)
    (socks : data.getD 0 0 ≠ 0x05) (connect : startsWithCI (ascii "CONNECT ") data = false) :
    (uriTarget (((data.take n).take (path + 1)).drop (skipScheme data (blank + 1)).1)
      (data.drop (skipScheme data (blank + 1)).1) []).1 = [] ↔ namelessUri data = true := by
  have nameless : namelessUri data = true ↔
      startsWithCI (ascii "https://") (data.drop (blank + 1)) = true ∨
        let authority := if startsWithCI (ascii "http://") (data.drop (blank + 1)) then
          (data.drop (blank + 1)).drop 7 else data.drop (blank + 1)
        authority.head? = some colon ∨ authority.head? = some slash := by
    have other : (data.getD 0 0 != 0x05) = true := bne_iff_ne.mpr socks
    simp only [namelessUri,other,connect,findByte_take first,Bool.not_false,Bool.and_self,
      Bool.true_and,Bool.or_eq_true,beq_iff_eq,or_assoc]
  rw [nameless]
  unfold skipScheme at found ⊢
  by_cases http : startsWithCI (ascii "http://") (data.drop (blank + 1))
  · simp only [http,if_true,List.drop_drop,not_https_of_http http] at found ⊢
    rw [uriTarget_range found]
    simp
  · by_cases https : startsWithCI (ascii "https://") (data.drop (blank + 1))
    · simp only [http,https,if_true,Bool.false_eq_true,if_false] at found ⊢
      obtain rfl := https_path https second found
      rw [List.drop_eq_nil_of_le (by rw [List.length_take]; omega)]
      simp [uriTarget]
    · simp only [http,https,Bool.false_eq_true,if_false,false_or] at found ⊢
      exact uriTarget_range found

/-- What an opening line leads to, and whether it names a host. -/
theorem openingPhase_cases (data : Bytes) :
    openingPhase data = .unknown ∨
    (openingPhase data = .s5WaitForAuthInfo ∧ namelessUri data = false) ∨
    (openingPhase data = .httpRawChallenge ∧ namelessUri data = false ∧ openingHost data ≠ []) ∨
    (openingPhase data = .httpNormalChallenge ∧ (openingHost data = [] ↔ namelessUri data = true)) := by
  unfold openingPhase openingHost onChallenge onS5Challenge onHttpChallenge
  dsimp only
  split
  · exact .inl rfl
  · split
    · rename_i socks
      split
      · exact .inl rfl
      · split
        · exact .inl rfl
        · exact .inr (.inl ⟨rfl,by simp only [namelessUri,socks,bne_self_eq_false,Bool.false_and]⟩)
    · rename_i socks
      split
      · exact .inl rfl
      · exact .inl rfl
      · rename_i lineLength _ _
        split
        · rename_i connect
          split
          · exact .inl rfl
          · rename_i host
            refine .inr (.inr (.inl ⟨rfl,by simp [namelessUri,connect],?_⟩))
            exact fun empty => host (List.length_eq_zero_iff.mpr empty)
        · rename_i connect
          split
          · exact .inl rfl
          · rename_i blank first
            split
            · exact .inl rfl
            · rename_i last second
              split
              · exact .inl rfl
              · rename_i path found
                refine .inr (.inr (.inr ⟨rfl,?_⟩))
                exact host_eq_nil first second found socks (Bool.eq_false_iff.mpr connect)

/-! ## The target on its way to the request -/

/-- The phase a session began with, until it opens its connection. -/
def Phase.entrance : Phase → Option Phase
  | .s5WaitForAuthInfo | .s5WaitForAccountExchange | .s5WaitForDeviceSelection
  | .s5WaitForConnectionRequest => some .s5WaitForAuthInfo
  | .httpRawChallenge | .httpRawWaitForAccountExchange | .httpRawWaitForDeviceSelection =>
    some .httpRawChallenge
  | .httpNormalChallenge | .httpNormalWaitForAccountExchange
  | .httpNormalWaitForDeviceSelection => some .httpNormalChallenge
  | _ => none

/-- A callback that opens no session keeps its kind and its host. -/
structure Kept (c c' : ClientConnection) : Prop where
  unknown : c'.phase = .unknown → c.phase = .unknown
  entrance : ∀ p, c'.phase.entrance = some p →
    c.phase.entrance = some p ∧ c'.http.targetHost = c.http.targetHost

theorem Kept.along {c c' : ClientConnection} (phase : c'.phase = c.phase)
    (host : c'.http.targetHost = c.http.targetHost) : Kept c c' :=
  ⟨fun unknown => phase ▸ unknown,fun _ entrance => ⟨phase ▸ entrance,host⟩⟩

theorem Kept.refl (c : ClientConnection) : Kept c c := .along rfl rfl

theorem Kept.on {c c' : ClientConnection} (p q : Phase) (source : c.phase = p) (target : c'.phase = q)
    (later : q ≠ .unknown) (same : q.entrance = p.entrance)
    (host : c'.http.targetHost = c.http.targetHost) : Kept c c' := by
  subst source target
  exact ⟨fun unknown => absurd unknown later,fun _ entrance => ⟨same ▸ entrance,host⟩⟩

theorem Kept.out {c c' : ClientConnection} (later : c'.phase ≠ .unknown)
    (none : c'.phase.entrance = none) : Kept c c' := by
  refine ⟨fun unknown => absurd unknown later,fun p entrance => ?_⟩
  rw [none] at entrance
  cases entrance

theorem kept_normalChallenge (cfg : Config) (c : ClientConnection) (data : Bytes)
    (phase : c.phase = .httpNormalChallenge) : Kept c (onHttpNormalChallenge cfg c data).conn := by
  have branch := normalChallenge_branch cfg c data
  generalize onHttpNormalChallenge cfg c data = reading at branch ⊢
  cases branch with
  | reads _ host | killed _ host | outOfBounds _ host | refused _ host => exact .along rfl host
  | requested http host =>
    exact .on .httpNormalChallenge .httpNormalWaitForAccountExchange phase rfl (by decide) rfl host

theorem kept_rawChallenge (cfg : Config) (c : ClientConnection) (data : Bytes)
    (phase : c.phase = .httpRawChallenge) : Kept c (onHttpRawChallenge cfg c data).conn := by
  have branch := rawChallenge_branch cfg c data
  generalize onHttpRawChallenge cfg c data = reading at branch ⊢
  cases branch with
  | reads | killed | refused => exact .refl c
  | requested => exact .on .httpRawChallenge .httpRawWaitForAccountExchange phase rfl (by decide) rfl rfl

theorem kept_s5ClientAuth (c : ClientConnection) (data : Bytes) (phase : c.phase = .s5WaitForAuthInfo) :
    Kept c (onS5ClientAuth c data).conn := by
  have branch := clientAuth_branch c data
  generalize onS5ClientAuth c data = reading at branch ⊢
  cases branch with
  | waits => exact .refl c
  | requested => exact .on .s5WaitForAuthInfo .s5WaitForAccountExchange phase rfl (by decide) rfl rfl
  | other => exact .refl c

/-- Opening the connection, or failing to, from a phase that opens one. -/
theorem kept_openRemote (cfg : Config) {c d : ClientConnection} (address : NetAddress) (hostname : Bytes)
    (phase : d.phase = c.phase) (host : d.http.targetHost = c.http.targetHost)
    (source : c.phase = .s5WaitForConnectionRequest ∨ c.phase = .httpRawWaitForDeviceSelection ∨
      c.phase = .httpNormalWaitForDeviceSelection) :
    Kept c (onOpenRemoteConnection cfg d address hostname).conn := by
  unfold onOpenRemoteConnection
  dsimp only
  split
  · rw [← phase] at source
    rcases source with source | source | source <;> exact .out (by simp [source]) (by simp [source,Phase.entrance])
  · exact .along phase host

theorem kept_s5ConnectionRequest (cfg : Config) (c : ClientConnection) (data : Bytes)
    (phase : c.phase = .s5WaitForConnectionRequest) : Kept c (onS5ConnectionRequest cfg c data).conn := by
  have branch := connectionRequest_branch cfg c data
  generalize onS5ConnectionRequest cfg c data = reading at branch ⊢
  cases branch with
  | waits | killed | declined => exact .refl c
  | opens => exact kept_openRemote cfg _ _ rfl rfl (.inl phase)

theorem kept_uploadData (cfg : Config) (c : ClientConnection) (data : Bytes) (ready : c.phase.Ready) :
    Kept c (onUploadData cfg c data).conn := by
  obtain ⟨-,phase,-⟩ := uploadData_spec cfg c data
  rcases ready with ready | ready | ready <;>
    exact .out (by simp [phase,ready]) (by simp [phase,ready,Phase.entrance])

theorem kept_data (cfg : Config) (c : ClientConnection) (data : Bytes) (known : c.phase ≠ .unknown) :
    Kept c (onData cfg c data).conn := by
  unfold onData
  split
  · exact absurd ‹_› known
  · exact kept_s5ClientAuth c data ‹_›
  · exact kept_s5ConnectionRequest cfg c data ‹_›
  · exact kept_uploadData cfg c data (.inl ‹_›)
  · exact kept_rawChallenge cfg c data ‹_›
  · exact kept_uploadData cfg c data (.inr (.inl ‹_›))
  · exact kept_normalChallenge cfg c data ‹_›
  · exact kept_uploadData cfg c data (.inr (.inr ‹_›))
  · exact .refl c

theorem kept_authFinished (failure : Bytes) (close : Effect) (p next : Phase) (c : ClientConnection)
    (result : Option AuthResult) (source : c.phase = p) (later : next ≠ .unknown)
    (same : next.entrance = p.entrance) : Kept c (onAuthFinished failure close next c result).conn := by
  cases result with
  | none => exact .refl c
  | some verdict => exact .on p next source rfl later same rfl

theorem kept_authResult (c : ClientConnection) (result : Option AuthResult) :
    Kept c (onAuthResult c result).conn := by
  unfold onAuthResult
  split
  · exact kept_authFinished _ _ .s5WaitForAccountExchange _ c result ‹_› (by decide) rfl
  · exact kept_authFinished _ _ .httpRawWaitForAccountExchange _ c result ‹_› (by decide) rfl
  · exact kept_authFinished _ _ .httpNormalWaitForAccountExchange _ c result ‹_› (by decide) rfl
  · exact .refl c

theorem kept_deviceSelected (cfg : Config) (c : ClientConnection) (result : AcquireDeviceResp) :
    Kept c (onDeviceSelected cfg c result).conn := by
  unfold onDeviceSelected
  split
  · split
    · exact .refl c
    · exact .on .s5WaitForDeviceSelection .s5WaitForConnectionRequest ‹_› rfl (by decide) rfl rfl
  · exact kept_openRemote cfg _ _ rfl rfl (.inr (.inl ‹_›))
  · exact kept_openRemote cfg _ _ rfl rfl (.inr (.inr ‹_›))
  · exact .refl c

theorem kept_relayState (cfg : Config) (c : ClientConnection) (n : PR.ConnectionStateNotify)
    (pendingWrites : Bool) : Kept c (onRelaySideConnectionStateChange cfg c n pendingWrites).conn := by
  unfold onRelaySideConnectionStateChange
  split
  · split
    · exact .out (by simp) rfl
    · exact .refl c
  · split
    · exact .out (by simp) rfl
    · exact .refl c
  · split
    · exact .out (by simp) rfl
    · exact .refl c
  · split
    · dsimp only
      let ready : ClientConnection := { c with
        readingSuspended := false
        relaySideConnectionId := n.relaySideConnectionId
        phase := .httpNormalReady }
      obtain ⟨-,phase,-⟩ := uploadData_spec cfg ready ready.http.rebuiltHttpHeader
      refine .out ?_ ?_
      · exact fun unknown => absurd (phase.symm.trans unknown) (by simp [ready])
      · exact congrArg Phase.entrance phase
    · exact .refl c
  · exact .refl c

theorem kept_relayDestroy (cfg : Config) (c : ClientConnection) (pendingWrites : Bool) :
    Kept c (onDestroyConnection cfg c pendingWrites).conn := by
  unfold onDestroyConnection
  split
  all_goals first
    | exact .refl c
    | exact .out (by simp) rfl

theorem kept_relayPush (cfg : Config) (c : ClientConnection) (payload : Bytes) (size : Nat) :
    Kept c (onRelaySidePushData cfg c payload size).conn := by
  unfold onRelaySidePushData tryUpdateDataTransferSize
  dsimp only
  split
  · exact .along rfl rfl
  · split <;> exact .along rfl rfl

theorem kept_peerClose (c : ClientConnection) : Kept c (onPeerClose c).conn := by
  unfold onPeerClose
  split
  · exact .out (by simp) rfl
  · exact .refl c

theorem handle_kept (cfg : Config) (c : ClientConnection) (e : ConnEvent)
    (known : ∀ data, e = .data data → c.phase ≠ .unknown) : Kept c (handle cfg c e).conn := by
  cases e with
  | data data => exact kept_data cfg c data (known data rfl)
  | peerClose => exact kept_peerClose c
  | authResult result => exact kept_authResult c result
  | deviceSelected result => exact kept_deviceSelected cfg c result
  | relayState n pendingWrites => exact kept_relayState cfg c n pendingWrites
  | relayDestroy pendingWrites => exact kept_relayDestroy cfg c pendingWrites
  | relayPush payload size => exact kept_relayPush cfg c payload size

/-! ## What a posted creation asks for -/

/-- A connection is asked for in answer to a SOCKS5 request, or to the device that an HTTP
client was given. -/
theorem create_source {cfg : Config} {c : ClientConnection} {e : ConnEvent} {server : Nat}
    {m : PR.CreateConnection}
    (posted : .postMessage server (.createConnection m) ∈ (handle cfg c e).effects) :
    (c.phase = .s5WaitForConnectionRequest ∧
      ∃ data offset, e = .data data ∧ s5Target data = .target m.targetAddress m.hostname offset) ∨
    ((c.phase = .httpRawWaitForDeviceSelection ∨ c.phase = .httpNormalWaitForDeviceSelection) ∧
      (∃ result, e = .deviceSelected result) ∧
      m.targetAddress = targetAddress cfg c.http ∧ m.hostname = c.http.targetHost) := by
  have opens {d : ClientConnection} {address : NetAddress} {hostname : Bytes}
      (inside : .postMessage server (.createConnection m) ∈
        (onOpenRemoteConnection cfg d address hostname).effects) :
      m.targetAddress = address ∧ m.hostname = hostname := by
    have branch := open_branch cfg d address hostname
    generalize onOpenRemoteConnection cfg d address hostname = act at branch inside
    cases branch with
    | opened phase m' known own target =>
      obtain ⟨-,rfl⟩ : _ ∧ m = m' := by simpa using inside
      exact target
    | gone => cases inside
  obtain ⟨-,-,-,⟨stage,data,rfl⟩ | ⟨stage,result,rfl⟩⟩ := (handle_move cfg c e).create posted
  · have phase : c.phase = .s5WaitForConnectionRequest := by
      cases phase : c.phase <;> simp_all [Phase.stage]
    refine .inl ⟨phase,data,?_⟩
    simp only [handle,onData,phase,onS5ConnectionRequest] at posted
    split at posted
    · simp at posted
    · split at posted
      · simp at posted
      · split at posted
        · simp at posted
        · split at posted
          · simp at posted
          · simp at posted
          · rename_i address domain offset target
            split at posted
            · simp at posted
            · obtain ⟨rfl,rfl⟩ := opens posted
              exact ⟨offset,rfl,target⟩
  · have phase : c.phase = .s5WaitForDeviceSelection ∨ c.phase = .httpRawWaitForDeviceSelection ∨
        c.phase = .httpNormalWaitForDeviceSelection := by
      cases phase : c.phase <;> simp_all [Phase.stage]
    simp only [handle,onDeviceSelected] at posted
    rcases phase with phase | phase
    · simp only [phase] at posted
      split at posted <;> simp at posted
    · obtain ⟨address,hostname⟩ : m.targetAddress = targetAddress cfg c.http ∧
          m.hostname = c.http.targetHost := by
        rcases phase with phase | phase <;> (simp only [phase] at posted; exact opens posted)
      exact .inr ⟨phase,⟨result,rfl⟩,address,hostname⟩

/-! ## Histories -/

/-- The bytes with which a client opens its session, if they do. -/
def Entry.opens : Entry → Option Bytes
  | .received (.data data) => if openingPhase data = .unknown then none else some data
  | _ => none

def openingData (h : List Entry) : Option Bytes := h.findSome? Entry.opens

theorem openingData_append (h out : List Entry) :
    openingData (h ++ out) = (openingData h).or (openingData out) := List.findSome?_append

theorem openingData_entries (e : ConnEvent) (out : List Effect) :
    openingData (entries e out) = Entry.opens (.received e) := by
  have none : openingData (out.map .did) = none := by
    refine List.findSome?_eq_none_iff.mpr (fun x member => ?_)
    obtain ⟨y,-,rfl⟩ := List.mem_map.mp member
    rfl
  rw [openingData,List.findSome?_cons]
  cases opens : Entry.opens (.received e) with
  | none => exact none
  | some data => rfl

/-- The client that a connection is asked for has named no target: its session began with a
request whose URL names no host, or it has just asked for a domain name without a byte. -/
def Nameless (before : List Entry) : Prop :=
  (∃ data, openingData before = some data ∧ namelessUri data = true) ∨
    ∃ old data, before = old ++ [.received (.data data)] ∧ namelessDomain data = true

/-- The last entry, if it is bytes that the client sent. -/
def lastData (h : List Entry) : Option Bytes :=
  match h.getLast? with
  | some (.received (.data data)) => some data
  | _ => none

theorem lastData_eq_some {h : List Entry} {data : Bytes} :
    lastData h = some data ↔ ∃ old, h = old ++ [.received (.data data)] := by
  unfold lastData
  constructor
  · intro last
    split at last
    · rename_i data' here
      obtain rfl := Option.some.inj last
      obtain ⟨old,rfl⟩ := List.getLast?_eq_some_iff.mp here
      exact ⟨old,rfl⟩
    · cases last
  · rintro ⟨old,rfl⟩
    simp

instance (before : List Entry) : Decidable (Nameless before) :=
  decidable_of_iff ((∃ data ∈ openingData before, namelessUri data = true) ∨
      ∃ data ∈ lastData before, namelessDomain data = true) <| by
    simp only [Option.mem_def,lastData_eq_some,Nameless]
    exact or_congr Iff.rfl ⟨fun ⟨data,⟨old,here⟩,empty⟩ => ⟨old,data,here,empty⟩,
      fun ⟨old,data,here,empty⟩ => ⟨data,⟨old,here⟩,empty⟩⟩

/-- Until it opens its connection, a session carries the host of the line that began it. -/
structure Targeted (c : ClientConnection) (h : List Entry) : Prop where
  unknown : c.phase = .unknown → openingData h = none
  known : ∀ p, c.phase.entrance = some p → ∃ data, openingData h = some data ∧
    openingPhase data = p ∧ (p ≠ .s5WaitForAuthInfo → c.http.targetHost = openingHost data)

theorem targeted_opening {cfg : Config} {c : ClientConnection} {h : List Entry} (valid : Targeted c h)
    (phase : c.phase = .unknown) (data : Bytes) :
    Targeted (handle cfg c (.data data)).conn (h ++ entries (.data data) (handle cfg c (.data data)).effects) := by
  obtain ⟨after,host⟩ := challenge_opening data phase
  have conn : (handle cfg c (.data data)).conn = (onChallenge c data).conn := by
    simp only [handle,onData,phase]
  have opened : openingData (h ++ entries (.data data) (handle cfg c (.data data)).effects) =
      Entry.opens (.received (.data data)) := by
    rw [openingData_append,valid.unknown phase,openingData_entries,Option.none_or]
  rw [conn]
  refine ⟨fun unknown => ?_,fun p entrance => ?_⟩
  · rw [opened]
    exact if_pos (after.symm.trans unknown)
  · rw [after] at entrance
    rw [opened]
    rcases openingPhase_cases data with here | ⟨here,-⟩ | ⟨here,-⟩ | ⟨here,-⟩
    · rw [here] at entrance
      cases entrance
    all_goals
      rw [here] at entrance
      cases entrance
      refine ⟨data,by simp [Entry.opens,here],here,fun http => ?_⟩
    · exact absurd rfl http
    · exact host (.inl here)
    · exact host (.inr here)

theorem targeted_step {cfg : Config} {c : ClientConnection} {h : List Entry} (valid : Targeted c h)
    (e : ConnEvent) : Targeted (handle cfg c e).conn (h ++ entries e (handle cfg c e).effects) := by
  by_cases opening : c.phase = .unknown ∧ ∃ data, e = .data data
  · obtain ⟨phase,data,rfl⟩ := opening
    exact targeted_opening valid phase data
  · have kept := handle_kept cfg c e (fun data same unknown => opening ⟨unknown,data,same⟩)
    refine ⟨fun unknown => ?_,fun p entrance => ?_⟩
    · have before := kept.unknown unknown
      rw [openingData_append,valid.unknown before,openingData_entries,Option.none_or]
      cases e with
      | data data => exact absurd ⟨before,data,rfl⟩ opening
      | _ => rfl
    · obtain ⟨before,host⟩ := kept.entrance p entrance
      obtain ⟨data,opened,phase,carried⟩ := valid.known p before
      refine ⟨data,?_,phase,fun http => host.trans (carried http)⟩
      rw [openingData_append,opened,Option.some_or]

/-! ## Whether the target will do -/

/-- An address is set if it has a type, and the empty text is no address. -/
structure Addresses (xel : Xel) : Prop where
  isSet_iff : ∀ a, xel.isSet a = true ↔ a.type ≠ .unspecified
  parse_nil : (xel.parseAddress []).type = .unspecified

theorem addresses_reference : Addresses .reference :=
  ⟨fun a => by simp [Xel.reference],rfl⟩

/-- What a relay needs to know of a target. -/
def Acceptable (xel : Xel) (m : PR.CreateConnection) : Prop :=
  xel.isSet m.targetAddress = true ∨ m.hostname ≠ []

theorem acceptable_socks {xel : Xel} (addresses : Addresses xel) {data : Bytes}
    {m : PR.CreateConnection} {offset : Nat}
    (target : s5Target data = .target m.targetAddress m.hostname offset) :
    Acceptable xel m ↔ namelessDomain data = false := by
  unfold Acceptable
  rw [addresses.isSet_iff]
  unfold s5Target at target
  dsimp only at target
  split at target
  · rename_i ipv4
    obtain ⟨address,-,-⟩ := S5Target.target.inj target
    have other : namelessDomain data = false := by
      simp only [namelessDomain,ipv4]
      rfl
    simp [← address,other]
  · split at target
    · rename_i domain
      split at target
      · cases target
      · rename_i long
        obtain ⟨address,hostname,-⟩ := S5Target.target.inj target
        have empty : m.hostname = [] ↔ data.getD 4 0 = 0 := by
          rw [← hostname,← List.length_eq_zero_iff,List.length_take,List.length_drop,
            Nat.min_eq_left (by omega)]
          exact UInt8.toNat_inj (b := 0)
        have named : namelessDomain data = (data.getD 4 0 == 0) := by
          simp only [namelessDomain,domain,beq_self_eq_true,Bool.true_and]
        rw [named,beq_eq_false_iff_ne,← address]
        simp only [ne_eq,not_true_eq_false,false_or,empty]
    · split at target
      · rename_i ipv6
        split at target
        · cases target
        · obtain ⟨address,-,-⟩ := S5Target.target.inj target
          have other : namelessDomain data = false := by
            simp only [namelessDomain,ipv6]
            rfl
          simp [← address,other]
      · cases target

theorem acceptable_http {cfg : Config} (addresses : Addresses cfg.xel) {http : Http}
    {m : PR.CreateConnection} (address : m.targetAddress = targetAddress cfg http)
    (hostname : m.hostname = http.targetHost) : Acceptable cfg.xel m ↔ http.targetHost ≠ [] := by
  unfold Acceptable
  rw [addresses.isSet_iff,address,hostname]
  refine ⟨?_,.inr⟩
  rintro (set | named)
  · intro empty
    apply set
    simpa [targetAddress,empty] using addresses.parse_nil
  · exact named

/-- A posted creation names its target exactly if its client did. -/
theorem acceptable_posted {cfg : Config} (addresses : Addresses cfg.xel) {c : ClientConnection}
    {h : List Entry} (valid : Targeted c h) {e : ConnEvent} {server : Nat} {m : PR.CreateConnection}
    (posted : .postMessage server (.createConnection m) ∈ (handle cfg c e).effects) :
    Acceptable cfg.xel m ↔ ¬ Nameless (h ++ [.received e]) := by
  rcases create_source posted with ⟨phase,data,offset,rfl,target⟩ |
    ⟨phase,⟨result,rfl⟩,address,hostname⟩
  · obtain ⟨first,opened,kind,-⟩ := valid.known .s5WaitForAuthInfo (by rw [phase]; rfl)
    have uri : namelessUri first = false := by
      rcases openingPhase_cases first with same | ⟨-,none⟩ | ⟨same,-⟩ | ⟨same,-⟩
      · rw [kind] at same; cases same
      · exact none
      · rw [kind] at same; cases same
      · rw [kind] at same; cases same
    rw [acceptable_socks addresses target]
    simp [Nameless,openingData_append,opened,uri]
  · rw [acceptable_http addresses address hostname]
    have last (old : List Entry) (data : Bytes) :
        h ++ [.received (.deviceSelected result)] ≠ old ++ [.received (.data data)] := by
      intro same
      simpa using (List.append_inj' same rfl).2
    rcases phase with phase | phase
    · obtain ⟨first,opened,kind,carried⟩ := valid.known .httpRawChallenge (by rw [phase]; rfl)
      rw [carried (by decide)]
      rcases openingPhase_cases first with same | ⟨same,-⟩ | ⟨-,uri,host⟩ | ⟨same,-⟩
      · rw [kind] at same; cases same
      · rw [kind] at same; cases same
      · simp [Nameless,openingData_append,opened,uri,host,last]
      · rw [kind] at same; cases same
    · obtain ⟨first,opened,kind,carried⟩ := valid.known .httpNormalChallenge (by rw [phase]; rfl)
      rw [carried (by decide)]
      rcases openingPhase_cases first with same | ⟨same,-⟩ | ⟨same,-⟩ | ⟨-,host⟩
      · rw [kind] at same; cases same
      · rw [kind] at same; cases same
      · rw [kind] at same; cases same
      · simp [Nameless,openingData_append,opened,host,last]

/-! ## Every run -/

theorem targeted_reach {cfg : Config} {c : ClientConnection} {h : List Entry}
    (reach : (connectionMachine cfg).Reach Machine.anything c h) : Targeted c h := by
  apply reach.invariant
  · rintro _ ⟨id,ip,rfl⟩
    refine ⟨fun _ => rfl,fun p entrance => ?_⟩
    cases entrance
  · intro c h e _ _ valid
    exact targeted_step valid e

/-- A posted creation will do exactly if the client had named a target. -/
def TargetSettled (xel : Xel) (before : List Entry) : Entry → Prop
  | .did (.postMessage _ (.createConnection m)) => Acceptable xel m ↔ ¬ Nameless before
  | _ => True

theorem targets_settled {cfg : Config} (addresses : Addresses cfg.xel) {c : ClientConnection}
    {h : List Entry} (reach : (connectionMachine cfg).Reach Machine.anything c h) :
    Log.Always (TargetSettled cfg.xel) h := by
  apply reach.invariant (I := fun _ h => Log.Always (TargetSettled cfg.xel) h)
  · exact fun _ _ => Log.always_nil _
  intro c h e reach _ settled
  change Log.Always _ (h ++ entries e (handle cfg c e).effects)
  rw [Log.always_append,Log.always_cons]
  refine ⟨settled,trivial,?_⟩
  intro before x after split
  cases x with
  | received => trivial
  | did x =>
    cases x with
    | postMessage server m =>
      cases m with
      | createConnection m =>
        have posted : .postMessage server (.createConnection m) ∈ (handle cfg c e).effects := by
          have member : Entry.did (.postMessage server (.createConnection m)) ∈
              (handle cfg c e).effects.map Entry.did := by
            rw [split]
            simp
          simpa using member
        -- The creation is all that its callback does.
        obtain ⟨alone,-⟩ := (handle_move cfg c e).create posted
        rw [alone] at split
        obtain rfl : before = [] := by
          cases before with
          | nil => rfl
          | cons y before => simp at split
        exact acceptable_posted addresses (targeted_reach reach) posted
      | _ => trivial
    | _ => trivial

/-- Besides creations, a relay is posted payloads and transferred sizes. -/
def Effect.Known : Effect → Prop
  | .postMessage _ (.createConnection _) | .postMessage _ (.postData _)
  | .postMessage _ (.notifyConnectionState _) => True
  | .postMessage _ _ => False
  | _ => True

theorem Effect.Quiet.known {x : Effect} (quiet : x.Quiet) : x.Known := by
  cases x with
  | postMessage server m => cases m <;> first | exact quiet.elim | trivial
  | _ => trivial

theorem Move.known {c c' : ClientConnection} {e : ConnEvent} {out : List Effect}
    (move : Move c e c' out) : ∀ x ∈ out, x.Known := by
  have pushed (pushes : ∀ x ∈ out, x.Quiet ∨ x.PushFor c') : ∀ x ∈ out, x.Known := by
    intro x member
    rcases pushes x member with quiet | ⟨_,_,rfl⟩
    · exact quiet.known
    · trivial
  cases move with
  | quiet frame relaySide stage silent waiting => exact fun x member => (silent x member).known
  | requested => simp [Effect.Known]
  | verified => simp [Effect.Known]
  | selected result frame source target silent => exact fun x member => (silent x member).known
  | opened => simp [Effect.Known]
  | established n pending frame source target state relaySide pushes => exact pushed pushes
  | uploaded frame source target relaySide pushes => exact pushed pushes

theorem posts_known {cfg : Config} {c : ClientConnection} {h : List Entry}
    (reach : (connectionMachine cfg).Reach Machine.anything c h) :
    ∀ x, .did x ∈ h → x.Known := by
  apply reach.invariant (I := fun _ h => ∀ x, .did x ∈ h → x.Known)
  · intro _ _ x member
    cases member
  intro c h e _ _ known x member
  rcases List.mem_append.mp member with old | new
  · exact known x old
  · have effect : x ∈ (handle cfg c e).effects := by
      simpa [connectionMachine] using new
    exact (handle_move cfg c e).known x effect

end MiniPP.Proxy
