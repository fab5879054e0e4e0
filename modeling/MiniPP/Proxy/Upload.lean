import MiniPP.Proxy.Conversation
import MiniPP.Proxy.Lists

/-! What a client uploads: the calls of the upload callbacks, and the packets that each of
them posts. -/
namespace MiniPP.Proxy

variable {cfg : Config} {keys : KeySource}

/-- The call of an upload callback that an event makes, for a connection and with data. The head
of a forwarded request is uploaded when its connection is established. -/
def uploadCall (c : ClientConnection) : ConnEvent → Option (ClientConnection × Bytes)
  | .data data => if c.phase.Ready then some (c,data) else none
  | .relayState n _ =>
    if c.phase = .httpNormalWaitForConnectionEstablish ∧ n.newState = stateEstablished then
      some ({ c with
        readingSuspended := false
        relaySideConnectionId := n.relaySideConnectionId
        phase := .httpNormalReady },c.http.rebuiltHttpHeader)
    else none
  | _ => none

/-- The packets of a call, with the relay server that they go to. -/
def uploadPackets (cfg : Config) (call : ClientConnection × Bytes) : List (Nat × PR.PushData) :=
  if call.1.relayConnectionId ∈ cfg.relayServers then
    (payloads call.2.length call.2).map (fun payload => (call.1.relayConnectionId,
      { proxySideConnectionId := call.1.connectionId
        relaySideConnectionId := call.1.relaySideConnectionId
        payload := payload }))
  else []

def Effect.packet : Effect → Option (Nat × PR.PushData)
  | .postMessage server (.postData m) => some (server,m)
  | _ => none

/-- The data packets among the effects of a callback. -/
def packets (out : List Effect) : List (Nat × PR.PushData) := out.filterMap Effect.packet

@[simp] theorem packets_nil : packets [] = [] := rfl

@[simp] theorem packets_append (out more : List Effect) :
    packets (out ++ more) = packets out ++ packets more := List.filterMap_append

theorem packets_eq_nil {out : List Effect} (none : ∀ x ∈ out, x.packet = none) : packets out = [] :=
  List.filterMap_eq_nil_iff.mpr none

theorem Effect.Quiet.packet {x : Effect} (quiet : x.Quiet) : x.packet = none := by
  cases x with
  | postMessage server m => cases m <;> first | exact quiet.elim | rfl
  | _ => rfl

/-- Moves that neither upload nor tell that a connection is established carry no data. -/
theorem Move.packets {c c' : ClientConnection} {e : ConnEvent} {out : List Effect}
    (move : Move c e c' out) (data : ∀ data, e = .data data → c.phase.stage ≠ .ready)
    (state : ∀ n pendingWrites, e ≠ .relayState n pendingWrites) : packets out = [] := by
  cases move with
  | quiet frame relaySide stage silent waiting =>
    exact packets_eq_nil (fun x member => (silent x member).packet)
  | requested => rfl
  | verified => rfl
  | selected result frame source target silent =>
    exact packets_eq_nil (fun x member => (silent x member).packet)
  | opened => rfl
  | established n pending => exact absurd rfl (state n pending)
  | uploaded frame source => exact absurd source (data _ rfl)

theorem packets_tryUpdate (c : ClientConnection) (up down : Nat) :
    packets (tryUpdateDataTransferSize cfg c up down).effects = [] :=
  packets_eq_nil (fun x member => ((tryUpdate_spec cfg c up down).2.2.2 x member).packet)

theorem packets_uploadData (c : ClientConnection) (data : Bytes) :
    packets (onUploadData cfg c data).effects = uploadPackets cfg (c,data) := by
  unfold onUploadData uploadPackets
  dsimp only
  split
  · rw [packets_append,packets_append,packets_tryUpdate,List.append_nil]
    simp [packets,List.filterMap_map,Function.comp_def,Effect.packet]
  · rfl

/-- Every data packet that a callback posts is one of an upload call. -/
theorem packets_handle (c : ClientConnection) (e : ConnEvent) :
    packets (handle cfg c e).effects = (uploadCall c e).toList.flatMap (uploadPackets cfg) := by
  have move := handle_move cfg c e
  cases e with
  | data data =>
    by_cases ready : c.phase.Ready
    · have uploads : (handle cfg c (.data data)).effects = (onUploadData cfg c data).effects := by
        rcases ready with phase | phase | phase <;> simp only [handle,onData,phase] <;> rfl
      rw [uploads,packets_uploadData]
      simp [uploadCall,ready]
    · rw [move.packets (fun _ _ stage => ready (c.phase.ready_iff.mpr stage)) (by simp)]
      simp [uploadCall,ready]
  | relayState n pendingWrites =>
    have other {phase : Phase} (here : c.phase = phase)
        (apart : phase ≠ .httpNormalWaitForConnectionEstablish) :
        uploadCall c (.relayState n pendingWrites) = none := by simp [uploadCall,here,apart]
    simp only [handle,onRelaySideConnectionStateChange]
    split
    · rename_i phase
      rw [other phase (by decide)]
      split <;> rfl
    · rename_i phase
      rw [other phase (by decide)]
      cases pendingWrites <;> split <;> rfl
    · rename_i phase
      rw [other phase (by decide)]
      split <;> rfl
    · rename_i phase
      split
      · rename_i established
        have call : uploadCall c (.relayState n pendingWrites) = some ({ c with
            readingSuspended := false
            relaySideConnectionId := n.relaySideConnectionId
            phase := .httpNormalReady },c.http.rebuiltHttpHeader) := by simp [uploadCall,phase,established]
        rw [call,Option.toList_some,List.flatMap_cons,List.flatMap_nil,List.append_nil]
        exact packets_uploadData _ _
      · rename_i waits
        simp [uploadCall,waits,packets,Effect.packet]
    · rename_i raw normal s5 last
      rw [other rfl last]
      rfl
  | peerClose | authResult result | deviceSelected result | relayDestroy pendingWrites
  | relayPush payload payloadSize => exact move.packets (by simp) (by simp)

theorem ne_nil_of_mem_payloads {fuel : Nat} {data payload : Bytes} (member : payload ∈ payloads fuel data) :
    payload ≠ [] := by
  induction fuel generalizing data with
  | zero => simp [payloads] at member
  | succ fuel ih =>
    simp only [payloads] at member
    split at member
    · simp at member
    · rename_i some_
      rcases List.mem_cons.mp member with rfl | later
      · simpa [PR.maxPayloadSize] using some_
      · exact ih later

theorem uploadCall_own {c : ClientConnection} {e : ConnEvent} {call : ClientConnection × Bytes}
    (calls : uploadCall c e = some call) : call.1.connectionId = c.connectionId := by
  unfold uploadCall at calls
  repeat' split at calls
  all_goals cases calls
  all_goals rfl

theorem uploadPackets_own {call : ClientConnection × Bytes} {packet : Nat × PR.PushData}
    (member : packet ∈ uploadPackets cfg call) :
    packet.2.proxySideConnectionId = call.1.connectionId := by
  unfold uploadPackets at member
  split at member
  · obtain ⟨payload,-,rfl⟩ := List.mem_map.mp member
    rfl
  · cases member

/-! ## Steps of the server -/

def ServerAction.packet : ServerAction → Option (Nat × PR.PushData)
  | .client _ x => x.packet
  | _ => none

/-- The data packets that the server posts. -/
def serverPackets (out : List ServerAction) : List (Nat × PR.PushData) :=
  out.filterMap ServerAction.packet

@[simp] theorem serverPackets_append (out more : List ServerAction) :
    serverPackets (out ++ more) = serverPackets out ++ serverPackets more := List.filterMap_append

@[simp] theorem serverPackets_auth (actions : List AuthAction) :
    serverPackets (actions.map .auth) = [] := by
  simp [serverPackets,List.filterMap_map,Function.comp_def,ServerAction.packet]

theorem performAll_packets (s : Server keys) (c : Nat) (effects : List Effect) :
    serverPackets (s.performAll c effects).2 = packets effects := by
  induction effects generalizing s with
  | nil => rfl
  | cons x rest ih =>
    have first : serverPackets (s.perform c x).2 = packets [x] := by
      cases x with
      | requestAuth userPass =>
        exact serverPackets_auth (s.authCacheManager.requestAuth c userPass).2
      | _ => rfl
    simp only [Server.performAll,serverPackets_append,first,ih]
    exact (packets_append [x] rest).symm

theorem deliver_packets {s : Server keys} {c : Nat} {conn : ClientConnection}
    (found : s.connectionPool.find? c = some conn) (e : ConnEvent) :
    serverPackets (s.deliver cfg c e).2 = (uploadCall conn e).toList.flatMap (uploadPackets cfg) := by
  rw [← packets_handle]
  unfold Server.deliver
  rw [found]
  exact performAll_packets _ c (handle cfg conn e).effects

/-- The calls of upload callbacks among what a step delivers to the connection. -/
def uploadCalls (c : Nat) (s : Server keys) (out : List ServerAction) : List (ClientConnection × Bytes) :=
  match s.connectionPool.find? c with
  | none => []
  | some conn => (received (history c out)).filterMap (uploadCall conn)

theorem uploadCalls_silent {c : Nat} {s : Server keys} {out : List ServerAction}
    (silent : ∀ e ∈ received (history c out), ∃ result, e = .authResult result) :
    uploadCalls c s out = [] := by
  unfold uploadCalls
  split
  · rfl
  · rw [List.filterMap_eq_nil_iff]
    intro e member
    obtain ⟨result,rfl⟩ := silent e member
    rfl

/-- The packets of a delivery that are under the id of client `c` are those of its calls. -/
theorem deliver_uploads {s : Server keys} {log : List ServerAction} (valid : ServerInvariant cfg s log)
    (c c' : Nat) (e : ConnEvent) :
    (serverPackets (s.deliver cfg c' e).2).filter (fun packet => packet.2.proxySideConnectionId = c) =
      (uploadCalls c s (s.deliver cfg c' e).2).flatMap (uploadPackets cfg) := by
  cases found : s.connectionPool.find? c' with
  | none =>
    have nothing : s.deliver cfg c' e = (s,[]) := by simp [Server.deliver,found]
    rw [nothing,uploadCalls_silent (by simp [received])]
    rfl
  | some conn =>
    have own {packet : Nat × PR.PushData} (member : packet ∈ serverPackets (s.deliver cfg c' e).2) :
        packet.2.proxySideConnectionId = c' := by
      rw [deliver_packets found,List.mem_flatMap] at member
      obtain ⟨call,calls,member⟩ := member
      rw [uploadPackets_own member,uploadCall_own (Option.mem_toList.mp calls)]
      exact (valid.live c' conn found).2
    by_cases same : c' = c
    · subst same
      have calls : uploadCalls c' s (s.deliver cfg c' e).2 = (uploadCall conn e).toList := by
        simp only [uploadCalls,found,history_deliver_own found,received_entries]
        cases call : uploadCall conn e <;> simp [call]
      rw [List.filter_eq_self.mpr (fun packet member => by simpa using own member),calls,
        deliver_packets found]
    · have calls : uploadCalls c s (s.deliver cfg c' e).2 = [] := by
        apply uploadCalls_silent
        rcases history_deliver_out cfg s c c' e with none | ⟨here,-⟩
        · simp [none,received]
        · exact absurd here.symm same
      rw [calls,List.filter_eq_nil_iff.mpr (fun packet member => by simpa [own member] using same)]
      rfl

/-- The packets that a step posts under the id of client `c` are those of its calls. -/
theorem step_uploads {s : Server keys} {log : List ServerAction} (valid : ServerInvariant cfg s log)
    (c : Nat) (e : ServerEvent) :
    (serverPackets (s.step cfg e).2).filter (fun packet => packet.2.proxySideConnectionId = c) =
      (uploadCalls c s (s.step cfg e).2).flatMap (uploadPackets cfg) := by
  cases target : e.target with
  | some pair =>
    rcases step_target s target with step | step
    · rw [step]
      exact deliver_uploads valid c pair.1 pair.2
    · rw [step,uploadCalls_silent (by simp [received])]
      rfl
  | none =>
    -- Without a target, only results of authentications are delivered.
    suffices silent : serverPackets ([] ++ (s.step cfg e).2) = [] ∧
        ∀ delivered ∈ received (history c ([] ++ (s.step cfg e).2)),
          ∃ result, delivered = .authResult result by
      obtain ⟨packets,received⟩ := silent
      rw [List.nil_append] at packets received
      rw [packets,uploadCalls_silent received]
      rfl
    refine Server.step_induction (I := fun _ log => serverPackets log = [] ∧
      ∀ delivered ∈ received (history c log), ∃ result, delivered = .authResult result) [] e
      ⟨rfl,by simp [received]⟩ ?_ ?_ ?_ ?_
    · intro remoteIp _
      unfold Server.onNewConnection
      split <;> simp [serverPackets,ServerAction.packet,received]
    · intro s log c' delivered before cause
      obtain ⟨result,rfl⟩ : ∃ result, delivered = .authResult result :=
        cause.resolve_left (by simp [target])
      obtain ⟨none,results⟩ := before
      refine ⟨?_,?_⟩
      · rw [serverPackets_append,none,List.nil_append]
        cases found : s.connectionPool.find? c' with
        | none => simp [Server.deliver,found,serverPackets]
        | some conn =>
          rw [deliver_packets found]
          rfl
      · rw [history_append,received,List.filterMap_append]
        intro ev member
        rcases List.mem_append.mp member with earlier | now
        · exact results ev earlier
        · rcases history_deliver_out cfg s c c' (.authResult result) with none | ⟨-,conn,-,out⟩
          · simp [none] at now
          · have one := received_entries (.authResult result) (handle cfg conn (.authResult result)).effects
            rw [out] at now
            rw [received] at one
            rw [one,List.mem_singleton] at now
            exact ⟨result,now⟩
    · intro cache actions
      simp [received]
    · intro nowMS _
      rw [Server.onTick_eq,(Server.cleanupAll_spec _ _).2.2.2.2.2]
      simp [serverPackets,ServerAction.packet,received,history,ServerAction.entry,List.filterMap_map,
        Function.comp_def]

end MiniPP.Proxy
