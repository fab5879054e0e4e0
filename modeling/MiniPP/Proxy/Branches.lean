import MiniPP.Proxy.Callbacks

/-! The branches of the callbacks that read what a client sends, said once: what each leaves of
the connection and what it does. -/
namespace MiniPP.Proxy

/-! ## The opening of a session -/

inductive ChallengeBranch (c : ClientConnection) : Reading → Prop where
  | waits : ChallengeBranch c ⟨c,[],some 0⟩
  | killed (http : Http) (pass : http.authNamePass = c.http.authNamePass) :
      ChallengeBranch c ⟨{ c with http },[.kill],some 0⟩
  | matched (n : Nat) :
      ChallengeBranch c ⟨{ c with phase := .s5WaitForAuthInfo },[.postData [0x05,0x02]],some n⟩
  | unmatched (n : Nat) :
      ChallengeBranch c ⟨{ c with phase := .s5WaitForAuthInfo },[.postData [0x05,0xFF],.kill],some n⟩
  | connect (http : Http) (pass : http.authNamePass = c.http.authNamePass) (n : Nat) :
      ChallengeBranch c ⟨{ c with http, phase := .httpRawChallenge },[],some n⟩
  | forward (http : Http) (pass : http.authNamePass = c.http.authNamePass) (n : Nat) :
      ChallengeBranch c ⟨{ c with http, phase := .httpNormalChallenge },[],some n⟩

theorem challenge_branch (c : ClientConnection) (data : Bytes) : ChallengeBranch c (onChallenge c data) := by
  unfold onChallenge
  split
  · exact .waits
  · split
    · unfold onS5Challenge
      dsimp only
      split
      · exact .killed c.http rfl
      · split
        · exact .waits
        · split
          · exact .matched _
          · exact .unmatched _
    · unfold onHttpChallenge
      dsimp only
      split
      · exact .waits
      · exact .killed c.http rfl
      · split
        · split
          · exact .killed c.http rfl
          · apply ChallengeBranch.connect
            rfl
        · split
          · exact .killed c.http rfl
          · split
            · exact .killed _ rfl
            · split
              · exact .killed _ rfl
              · apply ChallengeBranch.forward
                rfl

inductive ClientAuthBranch (c : ClientConnection) : Reading → Prop where
  | waits : ClientAuthBranch c ⟨c,[],some 0⟩
  | requested (key : Bytes) (n : Nat) :
      ClientAuthBranch c ⟨{ c with phase := .s5WaitForAccountExchange },[.requestAuth key],some n⟩
  | other : ClientAuthBranch c ⟨c,[],none⟩

theorem clientAuth_branch (c : ClientConnection) (data : Bytes) : ClientAuthBranch c (onS5ClientAuth c data) := by
  unfold onS5ClientAuth
  dsimp only
  split
  · exact .waits
  · split
    · split
      · exact .waits
      · split
        · exact .waits
        · split
          · exact .requested _ _
          · exact .requested _ _
    · split
      · exact .requested _ _
      · exact .other

inductive ConnectionRequestBranch (cfg : Config) (c : ClientConnection) (data : Bytes) : Reading → Prop where
  | waits : ConnectionRequestBranch cfg c data ⟨c,[],some 0⟩
  | killed : ConnectionRequestBranch cfg c data ⟨c,[.kill],some 0⟩
  | declined (reply : Bytes) : ConnectionRequestBranch cfg c data ⟨c,[.postData reply,.lingerKill],some 0⟩
  | opens (address : NetAddress) (domain : Bytes) (offset : Nat)
      (target : s5Target data = .target address domain offset) :
      ConnectionRequestBranch cfg c data ⟨(onOpenRemoteConnection cfg c address domain).conn,
        (onOpenRemoteConnection cfg c address domain).effects,some data.length⟩

theorem connectionRequest_branch (cfg : Config) (c : ClientConnection) (data : Bytes) :
    ConnectionRequestBranch cfg c data (onS5ConnectionRequest cfg c data) := by
  unfold onS5ConnectionRequest
  dsimp only
  split
  · exact .waits
  · split
    · exact .killed
    · split
      · exact .killed
      · split
        · exact .waits
        · exact .killed
        · rename_i target
          split
          · exact .declined _
          · exact .opens _ _ _ target

/-- The connection is told to the relay, or there is no link to it. -/
inductive OpenBranch (cfg : Config) (c : ClientConnection) (address : NetAddress) (hostname : Bytes) :
    Act → Prop where
  | opened (phase : Phase) (m : PR.CreateConnection) (known : c.relayConnectionId ∈ cfg.relayServers)
      (own : m.proxySideConnectionId = c.connectionId)
      (target : m.targetAddress = address ∧ m.hostname = hostname) :
      OpenBranch cfg c address hostname
        ⟨{ c with phase },[.postMessage c.relayConnectionId (.createConnection m)]⟩
  | gone (unknown : c.relayConnectionId ∉ cfg.relayServers) : OpenBranch cfg c address hostname ⟨c,[]⟩

theorem open_branch (cfg : Config) (c : ClientConnection) (address : NetAddress) (hostname : Bytes) :
    OpenBranch cfg c address hostname (onOpenRemoteConnection cfg c address hostname) := by
  unfold onOpenRemoteConnection
  split
  · exact .opened _ _ ‹_› rfl ⟨rfl,rfl⟩
  · exact .gone ‹_›

/-! ## Header lines -/

inductive RawBranch (c : ClientConnection) : Reading → Prop where
  | reads (n : Option Nat) : RawBranch c ⟨c,[],n⟩
  | killed : RawBranch c ⟨c,[.kill],some 0⟩
  | refused : RawBranch c ⟨c,[.postData http407Response,.lingerKill],some 0⟩
  | requested (key : Bytes) (n : Nat) :
      RawBranch c ⟨{ c with readingSuspended := true, phase := .httpRawWaitForAccountExchange },
        [.requestAuth key],some n⟩

theorem rawLoop_branch (cfg : Config) (c : ClientConnection) (fuel : Nat) (view np : Bytes) (n : Nat) :
    RawBranch c (rawLoop cfg c fuel view np n) := by
  induction fuel generalizing view np n with
  | zero => exact .reads none
  | succ fuel ih =>
    unfold rawLoop
    split
    · split
      · exact .refused
      · exact .requested np _
    · exact .reads _
    · dsimp only
      split
      · split
        · exact .killed
        · exact ih _ _ _
      · exact ih _ _ _

theorem rawChallenge_branch (cfg : Config) (c : ClientConnection) (data : Bytes) :
    RawBranch c (onHttpRawChallenge cfg c data) := rawLoop_branch cfg c _ data [] 0

/-- Of the connection, the header lines change only the header's fields, and never the target. -/
inductive NormalBranch (c : ClientConnection) : Reading → Prop where
  | reads (http : Http) (host : http.targetHost = c.http.targetHost) (n : Option Nat) :
      NormalBranch c ⟨{ c with http },[],n⟩
  | killed (http : Http) (host : http.targetHost = c.http.targetHost) :
      NormalBranch c ⟨{ c with http },[.kill],some 0⟩
  | outOfBounds (http : Http) (host : http.targetHost = c.http.targetHost) :
      NormalBranch c ⟨{ c with http },[.readOutOfBounds],some 0⟩
  | refused (http : Http) (host : http.targetHost = c.http.targetHost) (n : Nat) :
      NormalBranch c ⟨{ c with http },[.postData http407Response,.lingerKill],some n⟩
  | requested (http : Http) (host : http.targetHost = c.http.targetHost) (key : Bytes) (n : Nat) :
      NormalBranch c ⟨{ c with http, readingSuspended := true, phase := .httpNormalWaitForAccountExchange },
        [.requestAuth key],some n⟩

theorem NormalBranch.after {c : ClientConnection} {http : Http} {reading : Reading}
    (branch : NormalBranch { c with http } reading) (same : http.targetHost = c.http.targetHost) :
    NormalBranch c reading := by
  cases branch with
  | reads last host n => exact .reads last (host.trans same) n
  | killed last host => exact .killed last (host.trans same)
  | outOfBounds last host => exact .outOfBounds last (host.trans same)
  | refused last host n => exact .refused last (host.trans same) n
  | requested last host key n => exact .requested last (host.trans same) key n

theorem processLine_host {cfg : Config} {http http' : Http} {lineEndIndex : Nat}
    (next : processLine cfg http lineEndIndex = .next http') : http'.targetHost = http.targetHost := by
  simp only [processLine] at next
  split at next
  · cases next; rfl
  · split at next
    · cases next; rfl
    · split at next
      · split at next
        · cases next
        · split at next
          · cases next; rfl
          · cases next
      · split at next <;> cases next <;> rfl

theorem normalLoop_branch (cfg : Config) (size fuel : Nat) (c : ClientConnection) (view : Bytes) (n : Nat) :
    NormalBranch c (normalLoop cfg size fuel c view n) := by
  induction fuel generalizing c view n with
  | zero => exact .reads c.http rfl none
  | succ fuel ih =>
    unfold normalLoop
    split
    · apply NormalBranch.reads
      rfl
    · split
      · dsimp only
        split
        · apply NormalBranch.refused
          rfl
        · apply NormalBranch.requested
          rfl
      · dsimp only
        split
        · apply NormalBranch.killed
          rfl
        · apply NormalBranch.outOfBounds
          rfl
        · rename_i http next
          have host := processLine_host next
          exact (ih _ _ _).after host

theorem normalChallenge_branch (cfg : Config) (c : ClientConnection) (data : Bytes) :
    NormalBranch c (onHttpNormalChallenge cfg c data) := normalLoop_branch cfg _ _ c data 0

/-! ## Uploads -/

/-- The totals grow and may be reported; nothing else of the connection changes. -/
inductive UpdateBranch (c : ClientConnection) : Act → Prop where
  | quiet (up down : Nat) :
      UpdateBranch c ⟨{ c with totalUploadDataSize := up, totalDumpedDataSize := down },[]⟩
  | reported (up down : Nat) (n : PR.ConnectionStateNotify) :
      UpdateBranch c
        ⟨{ c with
            totalUploadDataSize := up
            totalDumpedDataSize := down
            totalReportedUploadDataSize := up
            totalReportedDumpedDataSize := down },
          [.postMessage c.relayConnectionId (.notifyConnectionState n)]⟩
  | killed (up down : Nat) :
      UpdateBranch c ⟨{ c with totalUploadDataSize := up, totalDumpedDataSize := down },[.kill]⟩

theorem update_branch (cfg : Config) (c : ClientConnection) (up down : Nat) :
    UpdateBranch c (tryUpdateDataTransferSize cfg c up down) := by
  unfold tryUpdateDataTransferSize
  dsimp only
  split
  · exact .quiet _ _
  · split
    · exact .reported _ _ _
    · exact .killed _ _

/-- What an upload does: the payloads, the report of the totals, and a sign of life. -/
theorem uploadData_effect {cfg : Config} {c : ClientConnection} {data : Bytes} {x : Effect}
    (member : x ∈ (onUploadData cfg c data).effects) :
    (∃ payload, x = .postMessage c.relayConnectionId (.postData
      { proxySideConnectionId := c.connectionId
        relaySideConnectionId := c.relaySideConnectionId
        payload := payload })) ∨
      x ∈ (tryUpdateDataTransferSize cfg c data.length 0).effects ∨ x = .keepAlive := by
  unfold onUploadData at member
  split at member
  · rcases List.mem_append.mp member with before | last
    · rcases List.mem_append.mp before with push | report
      · obtain ⟨payload,-,rfl⟩ := List.mem_map.mp push
        exact .inl ⟨payload,rfl⟩
      · exact .inr (.inl report)
    · exact .inr (.inr (List.mem_singleton.mp last))
  · cases member

/-- Of the connection, an upload changes what counting it does. -/
theorem uploadData_conn (cfg : Config) (c : ClientConnection) (data : Bytes) :
    (onUploadData cfg c data).conn = c ∨
      (onUploadData cfg c data).conn = (tryUpdateDataTransferSize cfg c data.length 0).conn := by
  unfold onUploadData
  split
  · exact .inr rfl
  · exact .inl rfl

end MiniPP.Proxy
