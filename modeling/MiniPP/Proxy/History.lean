import MiniPP.Proxy.Session

/-! The history of one client connection: what its callbacks received and did, in order,
from the acceptance on, for any sequence of events. -/
namespace MiniPP.Proxy

inductive Entry where
  | received (event : ConnEvent)
  | did (effect : Effect)
  deriving DecidableEq, Repr

abbrev entries (e : ConnEvent) (out : List Effect) : List Entry := .received e :: out.map .did

def connectionMachine (cfg : Config) : Machine ClientConnection ConnEvent Entry where
  start c := ∃ id ip, c = { connectionId := id, remoteIp := ip }
  step c e := ((handle cfg c e).conn,entries e (handle cfg c e).effects)

namespace Entry

def isRequestAuth : Entry → Bool
  | .did (.requestAuth _) => true
  | _ => false

def isCreateConnection : Entry → Bool
  | .did (.postMessage _ (.createConnection _)) => true
  | _ => false

/-- The events that end the wait of an opening connection. -/
def isEstablished : Entry → Bool
  | .received (.relayState n _) => n.newState == stateEstablished
  | _ => false

end Entry

def Verified (h : List Entry) : Prop := ∃ verdict, .received (.authResult (some verdict)) ∈ h

def DeviceSelected (h : List Entry) : Prop := ∃ result, .received (.deviceSelected result) ∈ h

/-- A connection was asked for, and no relay has answered that it is established. -/
def Opening (h : List Entry) : Prop :=
  ∃ old server m later, h = old ++ .did (.postMessage server (.createConnection m)) :: later ∧
    ∀ x ∈ later, x.isEstablished = false

/-- The first answer that the connection asked for is established gave it this id. -/
def EstablishedAs (relaySideConnectionId : Nat) (h : List Entry) : Prop :=
  ∃ old n pending later, h = old ++ .received (.relayState n pending) :: later ∧ Opening old ∧
    n.newState = stateEstablished ∧ n.relaySideConnectionId = relaySideConnectionId

/-- A verdict was just delivered, to a connection that had presented a key. -/
def JustVerified (h : List Entry) : Prop :=
  ∃ old verdict key, h = old ++ [.received (.authResult (some verdict)),.did .removeAccountTimeout,
    .did .keepAlive] ∧ .did (.requestAuth key) ∈ old

/-- What must have happened before an entry. -/
def Legal (before : List Entry) : Entry → Prop
  | .did (.postDeviceRequest _) => JustVerified before
  | .did (.postMessage _ (.createConnection _)) => Verified before ∧ DeviceSelected before
  | .did (.postMessage _ (.postData m)) => EstablishedAs m.relaySideConnectionId before
  | _ => True

/-- A request or message sent in the name of another connection would not be `Own`. -/
def Entry.Own (id : Nat) : Entry → Prop
  | .did (.postDeviceRequest r) => r.clientConnectionId = id
  | .did (.postMessage _ (.createConnection m)) => m.proxySideConnectionId = id
  | .did (.postMessage _ (.postData m)) => m.proxySideConnectionId = id
  | _ => True

/-- How often a connection in this stage may still ask for an authentication. -/
def Stage.authCredit : Stage → Nat
  | .greeting => 1
  | _ => 0

def Stage.openCredit : Stage → Nat
  | .greeting | .authenticating | .selecting | .requesting => 1
  | _ => 0

structure HistoryInvariant (c : ClientConnection) (h : List Entry) : Prop where
  own : ∀ x ∈ h, x.Own c.connectionId
  auths : h.countP Entry.isRequestAuth + c.phase.stage.authCredit ≤ 1
  opens : h.countP Entry.isCreateConnection + c.phase.stage.openCredit ≤ 1
  presented : c.phase.stage = .authenticating → ∃ key, .did (.requestAuth key) ∈ h
  verified : c.phase.stage = .selecting ∨ c.phase.stage = .requesting → Verified h
  selected : c.phase.stage = .requesting → DeviceSelected h
  opening : c.phase.stage = .opening → Opening h
  ready : c.phase.stage = .ready → EstablishedAs c.relaySideConnectionId h
  legal : Log.Always Legal h

/-! ## Histories only grow -/

theorem Verified.append {h : List Entry} (verified : Verified h) (out : List Entry) :
    Verified (h ++ out) := by
  obtain ⟨verdict,member⟩ := verified
  exact ⟨verdict,List.mem_append_left _ member⟩

theorem DeviceSelected.append {h : List Entry} (selected : DeviceSelected h) (out : List Entry) :
    DeviceSelected (h ++ out) := by
  obtain ⟨result,member⟩ := selected
  exact ⟨result,List.mem_append_left _ member⟩

theorem Opening.append {h : List Entry} (opening : Opening h) {out : List Entry}
    (none : ∀ x ∈ out, x.isEstablished = false) : Opening (h ++ out) := by
  obtain ⟨old,server,m,later,rfl,waiting⟩ := opening
  refine ⟨old,server,m,later ++ out,by simp,?_⟩
  intro x member
  rcases List.mem_append.mp member with member | member
  · exact waiting x member
  · exact none x member

theorem EstablishedAs.append {id : Nat} {h : List Entry} (established : EstablishedAs id h)
    (out : List Entry) : EstablishedAs id (h ++ out) := by
  obtain ⟨old,n,pending,later,rfl,rest⟩ := established
  exact ⟨old,n,pending,later ++ out,by simp,rest⟩

/-! ## What the entries of one event add -/

theorem legal_quiet {x : Effect} (quiet : x.Quiet) (before : List Entry) : Legal before (.did x) := by
  cases x with
  | postDeviceRequest => exact quiet.elim
  | postMessage server m => cases m <;> trivial
  | _ => trivial

theorem own_quiet {x : Effect} (quiet : x.Quiet) (id : Nat) : (Entry.did x).Own id := by
  cases x with
  | postDeviceRequest => exact quiet.elim
  | postMessage server m => cases m <;> trivial
  | _ => trivial

theorem own_push {x : Effect} {c : ClientConnection} (push : x.Quiet ∨ x.PushFor c) :
    (Entry.did x).Own c.connectionId := by
  rcases push with quiet | ⟨server,payload,rfl⟩
  · exact own_quiet quiet _
  · rfl

theorem legal_push {x : Effect} {c : ClientConnection} {before : List Entry}
    (push : x.Quiet ∨ x.PushFor c)
    (established : EstablishedAs c.relaySideConnectionId before) : Legal before (.did x) := by
  rcases push with quiet | ⟨server,payload,rfl⟩
  · exact legal_quiet quiet before
  · exact established

theorem count_push {c : ClientConnection} {out : List Effect}
    (pushes : ∀ x ∈ out, x.Quiet ∨ x.PushFor c) :
    (out.map Entry.did).countP Entry.isRequestAuth = 0 ∧
    (out.map Entry.did).countP Entry.isCreateConnection = 0 := by
  have neither (x : Effect) (push : x.Quiet ∨ x.PushFor c) :
      (Entry.did x).isRequestAuth = false ∧ (Entry.did x).isCreateConnection = false := by
    rcases push with quiet | ⟨server,payload,rfl⟩
    · cases x with
      | requestAuth => exact quiet.elim
      | postMessage server m => cases m <;> first | exact quiet.elim | exact ⟨rfl,rfl⟩
      | _ => exact ⟨rfl,rfl⟩
    · exact ⟨rfl,rfl⟩
  constructor
  all_goals
    rw [List.countP_eq_zero]
    intro y member
    obtain ⟨x,inside,rfl⟩ := List.mem_map.mp member
    simp [neither x (pushes x inside)]

theorem not_established_did (out : List Effect) : ∀ x ∈ out.map Entry.did, x.isEstablished = false := by
  intro y member
  obtain ⟨x,-,rfl⟩ := List.mem_map.mp member
  rfl

/-- The entry of an event constrains nothing by itself. -/
theorem legal_entries {h : List Entry} {e : ConnEvent} {out : List Effect} (old : Log.Always Legal h)
    (new : ∀ before x after, out = before ++ x :: after →
      Legal (h ++ .received e :: before.map .did) (.did x)) :
    Log.Always Legal (h ++ entries e out) := by
  rw [Log.always_append,Log.always_cons]
  refine ⟨old,by trivial,?_⟩
  intro before y after split
  obtain ⟨left,right,rfl,rfl,tail⟩ := List.map_eq_append_iff.mp split
  obtain ⟨x,rest,rfl,rfl,-⟩ := List.map_eq_cons_iff.mp tail
  exact new left x rest rfl

theorem count_entries (h : List Entry) (e : ConnEvent) (out : List Effect) :
    (h ++ entries e out).countP Entry.isRequestAuth =
      h.countP Entry.isRequestAuth + (out.map Entry.did).countP Entry.isRequestAuth ∧
    (h ++ entries e out).countP Entry.isCreateConnection =
      h.countP Entry.isCreateConnection + (out.map Entry.did).countP Entry.isCreateConnection := by
  simp [List.countP_append,Entry.isRequestAuth,Entry.isCreateConnection]

theorem own_entries {h : List Entry} {id : Nat} {e : ConnEvent} {out : List Effect}
    (old : ∀ x ∈ h, x.Own id) (new : ∀ x ∈ out, (Entry.did x).Own id) :
    ∀ x ∈ h ++ entries e out, x.Own id := by
  intro x member
  rcases List.mem_append.mp member with member | member
  · exact old x member
  · rcases List.mem_cons.mp member with rfl | member
    · trivial
    · obtain ⟨y,inside,rfl⟩ := List.mem_map.mp member
      exact new y inside

/-! ## The invariant -/

theorem history_start (id : Nat) (ip : Bytes) :
    HistoryInvariant { connectionId := id, remoteIp := ip } [] := by
  constructor <;> simp [Phase.stage,Stage.authCredit,Stage.openCredit]

/-- Moves that ask for nothing keep what is known of a stage, or give it up by closing. -/
theorem history_quiet {c c' : ClientConnection} {h : List Entry} {e : ConnEvent} {out : List Effect}
    (valid : HistoryInvariant c h) (frame : Frame c c')
    (relaySide : c'.relaySideConnectionId = c.relaySideConnectionId)
    (stage : c'.phase.stage = c.phase.stage ∨ c'.phase.stage = .closed)
    (silent : ∀ x ∈ out, x.Quiet)
    (waiting : c'.phase.stage = .opening →
      ∀ n pending, e = .relayState n pending → n.newState ≠ stateEstablished) :
    HistoryInvariant c' (h ++ entries e out) := by
  have none : ∀ x ∈ out, x.Quiet ∨ x.PushFor c := fun x member => .inl (silent x member)
  obtain ⟨auths,opens⟩ := count_entries h e out
  obtain ⟨noAuth,noOpen⟩ := count_push none
  have sameStage (s : Stage) (open_ : s ≠ .closed) (here : c'.phase.stage = s) : c.phase.stage = s := by
    rcases stage with same | closed
    · rw [← same,here]
    · exact absurd (here.symm.trans closed) open_
  have auth : c'.phase.stage.authCredit ≤ c.phase.stage.authCredit := by
    rcases stage with same | closed
    · exact Nat.le_of_eq (by rw [same])
    · rw [closed]; exact Nat.zero_le _
  have open_ : c'.phase.stage.openCredit ≤ c.phase.stage.openCredit := by
    rcases stage with same | closed
    · exact Nat.le_of_eq (by rw [same])
    · rw [closed]; exact Nat.zero_le _
  constructor
  · rw [frame.connectionId]
    exact own_entries valid.own (fun x member => own_quiet (silent x member) _)
  · have := valid.auths
    rw [auths]; omega
  · have := valid.opens
    rw [opens]; omega
  · intro here
    obtain ⟨key,member⟩ := valid.presented (sameStage _ (by simp) here)
    exact ⟨key,List.mem_append_left _ member⟩
  · intro here
    apply Verified.append
    rcases here with here | here
    · exact valid.verified (.inl (sameStage _ (by simp) here))
    · exact valid.verified (.inr (sameStage _ (by simp) here))
  · intro here
    exact (valid.selected (sameStage _ (by simp) here)).append _
  · intro here
    apply (valid.opening (sameStage _ (by simp) here)).append
    intro x member
    rcases List.mem_cons.mp member with rfl | member
    · cases e with
      | relayState n pending => simpa [Entry.isEstablished] using waiting here n pending rfl
      | _ => rfl
    · exact not_established_did out x member
  · intro here
    rw [relaySide]
    exact (valid.ready (sameStage _ (by simp) here)).append _
  · apply legal_entries valid.legal
    intro before x after split
    exact legal_quiet (silent x (by simp [split])) _

theorem history_requested {c c' : ClientConnection} {h : List Entry} {data key : Bytes}
    (valid : HistoryInvariant c h) (frame : Frame c c') (source : c.phase.stage = .greeting)
    (target : c'.phase.stage = .authenticating) :
    HistoryInvariant c' (h ++ entries (.data data) [.requestAuth key]) := by
  obtain ⟨auths,opens⟩ := count_entries h (.data data) [.requestAuth key]
  have oldAuths := valid.auths
  have oldOpens := valid.opens
  rw [source] at oldAuths oldOpens
  constructor
  · rw [frame.connectionId]
    exact own_entries valid.own (by simp [Entry.Own])
  · rw [auths,target]
    simpa [Stage.authCredit,Entry.isRequestAuth] using oldAuths
  · rw [opens,target]
    simpa [Stage.openCredit,Entry.isCreateConnection] using oldOpens
  · intro _
    exact ⟨key,by simp⟩
  · simp [target]
  · simp [target]
  · simp [target]
  · simp [target]
  · refine Log.always_append.mpr ⟨valid.legal,?_⟩
    simp [entries,Log.always_cons,Legal]

theorem history_verified {c c' : ClientConnection} {h : List Entry} (verdict : AuthResult)
    (request : DeviceRequest) (valid : HistoryInvariant c h) (frame : Frame c c')
    (source : c.phase.stage = .authenticating) (target : c'.phase.stage = .selecting)
    (own : request.clientConnectionId = c.connectionId) :
    HistoryInvariant c' (h ++ entries (.authResult (some verdict))
      [.removeAccountTimeout,.keepAlive,.postDeviceRequest request]) := by
  obtain ⟨auths,opens⟩ := count_entries h (.authResult (some verdict))
    [.removeAccountTimeout,.keepAlive,.postDeviceRequest request]
  obtain ⟨key,presented⟩ := valid.presented source
  have oldAuths := valid.auths
  have oldOpens := valid.opens
  rw [source] at oldAuths oldOpens
  constructor
  · rw [frame.connectionId]
    exact own_entries valid.own (by simp [Entry.Own,own])
  · rw [auths,target]
    simpa [Stage.authCredit,Entry.isRequestAuth] using oldAuths
  · rw [opens,target]
    simpa [Stage.openCredit,Entry.isCreateConnection] using oldOpens
  · simp [target]
  · intro _
    exact ⟨verdict,by simp⟩
  · simp [target]
  · simp [target]
  · simp [target]
  · refine Log.always_append.mpr ⟨valid.legal,?_⟩
    simp only [entries,List.map_cons,List.map_nil,Log.always_cons,Log.always_nil,and_true]
    refine ⟨trivial,trivial,trivial,?_⟩
    exact ⟨h,verdict,key,rfl,presented⟩

theorem history_selected {c c' : ClientConnection} {h : List Entry} {out : List Effect}
    (result : AcquireDeviceResp) (valid : HistoryInvariant c h) (frame : Frame c c')
    (source : c.phase.stage = .selecting) (target : c'.phase.stage = .requesting)
    (silent : ∀ x ∈ out, x.Quiet) :
    HistoryInvariant c' (h ++ entries (.deviceSelected result) out) := by
  have none : ∀ x ∈ out, x.Quiet ∨ x.PushFor c := fun x member => .inl (silent x member)
  obtain ⟨auths,opens⟩ := count_entries h (.deviceSelected result) out
  obtain ⟨noAuth,noOpen⟩ := count_push none
  have oldAuths := valid.auths
  have oldOpens := valid.opens
  rw [source] at oldAuths oldOpens
  constructor
  · rw [frame.connectionId]
    exact own_entries valid.own (fun x member => own_quiet (silent x member) _)
  · rw [auths,noAuth,target]
    exact oldAuths
  · rw [opens,noOpen,target]
    exact oldOpens
  · simp [target]
  · intro _
    exact (valid.verified (.inl source)).append _
  · intro _
    exact ⟨result,by simp⟩
  · simp [target]
  · simp [target]
  · apply legal_entries valid.legal
    intro before x after split
    exact legal_quiet (silent x (by simp [split])) _

theorem history_opened {c c' : ClientConnection} {h : List Entry} {e : ConnEvent} (server : Nat)
    (m : PR.CreateConnection) (valid : HistoryInvariant c h) (frame : Frame c c')
    (own : m.proxySideConnectionId = c.connectionId)
    (source : (c.phase.stage = .requesting ∧ ∃ data, e = .data data) ∨
      (c.phase.stage = .selecting ∧ ∃ result, e = .deviceSelected result))
    (target : c'.phase.stage = .opening) :
    HistoryInvariant c' (h ++ entries e [.postMessage server (.createConnection m)]) := by
  obtain ⟨auths,opens⟩ := count_entries h e [.postMessage server (.createConnection m)]
  have oldAuths := valid.auths
  have oldOpens := valid.opens
  have verified : Verified h := by
    rcases source with ⟨here,-⟩ | ⟨here,-⟩
    · exact valid.verified (.inr here)
    · exact valid.verified (.inl here)
  have selected : DeviceSelected (h ++ [.received e]) := by
    rcases source with ⟨here,-⟩ | ⟨-,result,rfl⟩
    · exact (valid.selected here).append _
    · exact ⟨result,by simp⟩
  have credit : c.phase.stage.openCredit = 1 := by
    rcases source with ⟨here,-⟩ | ⟨here,-⟩ <;> rw [here] <;> rfl
  rw [credit] at oldOpens
  constructor
  · rw [frame.connectionId]
    exact own_entries valid.own (by simp [Entry.Own,own])
  · rw [auths,target]
    simp only [Stage.authCredit]
    simp only [List.map_cons,List.map_nil,List.countP_singleton,Entry.isRequestAuth]
    simp
    omega
  · rw [opens,target]
    simpa [Stage.openCredit,Entry.isCreateConnection] using oldOpens
  · simp [target]
  · simp [target]
  · simp [target]
  · intro _
    exact ⟨h ++ [.received e],server,m,[],by simp,by simp⟩
  · simp [target]
  · refine Log.always_append.mpr ⟨valid.legal,?_⟩
    simp only [entries,List.map_cons,List.map_nil,Log.always_cons,Log.always_nil,and_true]
    exact ⟨trivial,verified.append _,selected⟩

/-- Payloads go out under the id that came with the first answer. -/
theorem history_pushes {c c' : ClientConnection} {h : List Entry} {e : ConnEvent}
    {out : List Effect} (valid : HistoryInvariant c h) (frame : Frame c c')
    (target : c'.phase.stage = .ready)
    (established : EstablishedAs c'.relaySideConnectionId (h ++ [.received e]))
    (pushes : ∀ x ∈ out, x.Quiet ∨ x.PushFor c') :
    HistoryInvariant c' (h ++ entries e out) := by
  obtain ⟨auths,opens⟩ := count_entries h e out
  obtain ⟨noAuth,noOpen⟩ := count_push pushes
  have oldAuths := valid.auths
  have oldOpens := valid.opens
  constructor
  · refine own_entries ?_ (fun x member => own_push (pushes x member))
    rw [frame.connectionId]
    exact valid.own
  · rw [auths,noAuth,target]
    simp only [Stage.authCredit]
    omega
  · rw [opens,noOpen,target]
    simp only [Stage.openCredit]
    omega
  · simp [target]
  · simp [target]
  · simp [target]
  · simp [target]
  · intro _
    simpa using established.append (out.map .did)
  · apply legal_entries valid.legal
    intro before x after split
    apply legal_push (pushes x (by simp [split]))
    simpa using established.append (before.map .did)

theorem history_move {c c' : ClientConnection} {h : List Entry} {e : ConnEvent} {out : List Effect}
    (valid : HistoryInvariant c h) (move : Move c e c' out) :
    HistoryInvariant c' (h ++ entries e out) := by
  cases move with
  | quiet frame relaySide stage silent waiting =>
    exact history_quiet valid frame relaySide stage silent waiting
  | requested key frame source target => exact history_requested valid frame source target
  | verified verdict request frame source target own =>
    exact history_verified verdict request valid frame source target own
  | selected result frame source target silent =>
    exact history_selected result valid frame source target silent
  | opened server m frame own source target =>
    exact history_opened server m valid frame own source target
  | established n pending frame source target state relaySide pushes =>
    refine history_pushes valid frame target ?_ pushes
    exact ⟨h,n,pending,[],rfl,valid.opening source,state,relaySide.symm⟩
  | uploaded frame source target relaySide pushes =>
    refine history_pushes valid frame target ?_ pushes
    rw [relaySide]
    exact (valid.ready source).append _

theorem Move.frame {c c' : ClientConnection} {e : ConnEvent} {out : List Effect}
    (move : Move c e c' out) : Frame c c' := by
  cases move <;> assumption

/-- Every history of a connection, whatever events made it. -/
theorem history_invariant {cfg : Config} {c : ClientConnection} {h : List Entry}
    (reach : (connectionMachine cfg).Reach Machine.anything c h) : HistoryInvariant c h := by
  apply reach.invariant
  · rintro _ ⟨id,ip,rfl⟩
    exact history_start id ip
  · intro c h e _ _ valid
    exact history_move valid (handle_move cfg c e)

end MiniPP.Proxy
