import MiniPP.Backend.Challenge
import MiniPP.Lib.Machine
import Mathlib.Logic.Function.Basic

/-! The pool of connections to backends. The credentials of a server and the state of its
handshake are one record, and both go when the connection closes. -/
namespace MiniPP.Backend

/-- `xBackendConnectionContext`. -/
structure BackendConnectionContext where
  appKey : Bytes := []
  appSecret : Bytes := []
  isChallengeReady : Bool := false
  deriving DecidableEq, Repr

/-- The context of each index of the client pool. -/
structure BackendConnectionPool where
  contextList : Nat → BackendConnectionContext := fun _ => {}

/-- `addServer` comes with what the client pool answers, and the other calls of the pool with
the id of their connection; `accepts` is what the override of `OnBackendPacket` returns. -/
inductive PoolEvent where
  | addServer (sid : Option Nat) (appKey appSecret : Bytes)
  | removeServer (connectionId : Nat)
  | serverConnected (sid timestampMS : Nat)
  | serverPacket (sid commandId requestId : Nat) (payload : Bytes) (accepts : Bool)
  | serverClose (sid : Nat)
  deriving DecidableEq, Repr

inductive PoolAction where
  | challenge (sid : Nat) (m : BackendChallenge)
  | backendPacket (sid commandId requestId : Nat) (payload : Bytes)
  | invalidPacket (sid : Nat)
  deriving DecidableEq, Repr

/-- `getIndex` is the index in an id of the client pool. -/
structure PoolLibrary extends Library where
  getIndex : Nat → Nat

namespace BackendConnectionPool

variable (x : PoolLibrary)

def context (p : BackendConnectionPool) (sid : Nat) : BackendConnectionContext :=
  p.contextList (x.getIndex sid)

def setContext (p : BackendConnectionPool) (sid : Nat) (ctx : BackendConnectionContext) :
    BackendConnectionPool :=
  ⟨Function.update p.contextList (x.getIndex sid) ctx⟩

def addServer (p : BackendConnectionPool) (sid : Option Nat) (appKey appSecret : Bytes) :
    BackendConnectionPool :=
  match sid with
  | none => p
  | some sid => p.setContext x sid { p.context x sid with appKey, appSecret }

def removeServer (p : BackendConnectionPool) (connectionId : Nat) : BackendConnectionPool :=
  p.setContext x connectionId {}

def onServerConnected (p : BackendConnectionPool) (sid timestampMS : Nat) : List PoolAction :=
  let ctx := p.context x sid
  [.challenge sid (.make x.toLibrary ctx.appKey ctx.appSecret timestampMS)]

def onCmdBackendChallengeResp (p : BackendConnectionPool) (sid : Nat) (payload : Bytes) :
    BackendConnectionPool × List PoolAction :=
  let ctx := p.context x sid
  if ctx.isChallengeReady then (p,[.invalidPacket sid])
  else
    match BackendChallengeResp.deserialize x.messages payload with
    | none => (p,[.invalidPacket sid])
    | some _ => (p.setContext x sid { ctx with isChallengeReady := true },[])

def onServerPacket (p : BackendConnectionPool) (sid commandId requestId : Nat) (payload : Bytes)
    (accepts : Bool) : BackendConnectionPool × List PoolAction :=
  if commandId = cmdBackendChallengeResp then p.onCmdBackendChallengeResp x sid payload
  else if (p.context x sid).isChallengeReady then
    (p,.backendPacket sid commandId requestId payload :: if accepts then [] else [.invalidPacket sid])
  else (p,[.invalidPacket sid])

def onServerClose (p : BackendConnectionPool) (sid : Nat) : BackendConnectionPool := p.setContext x sid {}

def step (p : BackendConnectionPool) : PoolEvent → BackendConnectionPool × List PoolAction
  | .addServer sid appKey appSecret => (p.addServer x sid appKey appSecret,[])
  | .removeServer connectionId => (p.removeServer x connectionId,[])
  | .serverConnected sid timestampMS => (p,p.onServerConnected x sid timestampMS)
  | .serverPacket sid commandId requestId payload accepts =>
    p.onServerPacket x sid commandId requestId payload accepts
  | .serverClose sid => (p.onServerClose x sid,[])

end BackendConnectionPool

def poolMachine (x : PoolLibrary) : Machine BackendConnectionPool PoolEvent PoolAction where
  start p := p = {}
  step p e := p.step x e

/-! ## What was given -/

/-- A server that was added and not removed. Its context is wiped by a close, and by the removal
of an id with its index. -/
structure Server where
  appKey : Bytes
  appSecret : Bytes
  connected : Bool := false
  answered : Bool := false
  wiped : Bool := false
  deriving DecidableEq, Repr

abbrev Servers := Nat → Option Server

variable (x : PoolLibrary)

/-- An answer to a challenge that can be read. -/
def isAnswer (commandId : Nat) (payload : Bytes) : Bool :=
  commandId = cmdBackendChallengeResp && (BackendChallengeResp.deserialize x.messages payload).isSome

def Servers.watch (_ : BackendConnectionPool) (e : PoolEvent) (servers : Servers) : Servers :=
  match e with
  | .addServer none _ _ => servers
  | .addServer (some sid) appKey appSecret => Function.update servers sid (some { appKey, appSecret })
  | .removeServer connectionId => fun sid =>
    if sid = connectionId then none
    else if x.getIndex sid = x.getIndex connectionId then
      (servers sid).map (fun server => { server with wiped := true })
    else servers sid
  | .serverConnected sid _ =>
    Function.update servers sid
      ((servers sid).map (fun server => { server with connected := true, answered := false }))
  | .serverPacket sid commandId _ payload _ =>
    if isAnswer x commandId payload then
      Function.update servers sid ((servers sid).map (fun server => { server with answered := true }))
    else servers
  | .serverClose sid =>
    Function.update servers sid
      ((servers sid).map (fun server => { server with connected := false, wiped := true }))

abbrev credentialMachine : Machine (BackendConnectionPool × Servers) PoolEvent PoolAction :=
  (poolMachine x).withGhost (fun _ => none) (Servers.watch x)

/-- How the client pool behaves: an id that it gives out has an index of its own, and its calls
are for servers that it has; a connection is made once before it closes, and only what is
connected gets packets. -/
def Regular (s : BackendConnectionPool × Servers) (_ : List PoolAction) : PoolEvent → Prop
  | .addServer none _ _ => True
  | .addServer (some sid) _ _ => ∀ other server, s.2 other = some server → x.getIndex other ≠ x.getIndex sid
  | .removeServer _ => True
  | .serverConnected sid _ => ∃ server, s.2 sid = some server ∧ server.connected = false
  | .serverPacket sid _ _ _ _ => ∃ server, s.2 sid = some server ∧ server.connected = true
  | .serverClose sid => s.2 sid ≠ none

/-- A challenge carries the server's key, and a value made with its secret; a packet is handled
after an answer on this connection. -/
def Backed (servers : Servers) : PoolAction → Prop
  | .challenge sid m => ∀ server, servers sid = some server →
    m.appKey = server.appKey ∧ m.challengeValue = m.generateChallengeString x.toLibrary server.appSecret
  | .backendPacket sid _ _ _ => ∀ server, servers sid = some server → server.answered = true
  | .invalidPacket _ => True

def Credited (s : BackendConnectionPool × Servers) (_ : List PoolAction) (e : PoolEvent) : Prop :=
  ∀ a ∈ (s.1.step x e).2, Backed x s.2 a

/-- The server's context has not been wiped, or what is left of it says the same. -/
def Unwiped (s : BackendConnectionPool × Servers) (_ : List PoolAction) : PoolEvent → Prop
  | .serverConnected sid timestampMS => ∀ server, s.2 sid = some server → server.wiped = true →
    server.appKey = [] ∧
      BackendChallenge.generateChallengeString x.toLibrary ⟨[],timestampMS,[]⟩ server.appSecret =
        BackendChallenge.generateChallengeString x.toLibrary ⟨[],timestampMS,[]⟩ []
  | _ => True

/-! ## What the contexts hold -/

variable {x}

theorem contextList_setContext (p : BackendConnectionPool) (sid : Nat) (ctx : BackendConnectionContext) (i : Nat) :
    (p.setContext x sid ctx).contextList i = if i = x.getIndex sid then ctx else p.contextList i :=
  Function.update_apply p.contextList (x.getIndex sid) ctx i

/-- A context has its server's credentials until it is wiped, and is ready on an answer only. -/
structure Server.Holds (server : Server) (ctx : BackendConnectionContext) : Prop where
  appKey : ctx.appKey = if server.wiped then [] else server.appKey
  appSecret : ctx.appSecret = if server.wiped then [] else server.appSecret
  ready : ctx.isChallengeReady = true → server.connected = true ∧ server.answered = true

structure Consistent (x : PoolLibrary) (p : BackendConnectionPool) (servers : Servers) : Prop where
  apart : ∀ sid sid' server server', servers sid = some server → servers sid' = some server' →
    x.getIndex sid = x.getIndex sid' → sid = sid'
  holds : ∀ sid server, servers sid = some server → server.Holds (p.context x sid)
  idle : ∀ i, (∀ sid server, servers sid = some server → x.getIndex sid ≠ i) →
    (p.contextList i).isChallengeReady = false

theorem setContext_self (p : BackendConnectionPool) (sid : Nat) : p.setContext x sid (p.context x sid) = p := by
  unfold BackendConnectionPool.setContext BackendConnectionPool.context
  rw [Function.update_eq_self]

theorem update_cases {servers : Servers} {sid other : Nat} {server server' : Server}
    (present : Function.update servers sid (some server') other = some server) :
    (other = sid ∧ server = server') ∨ (other ≠ sid ∧ servers other = some server) := by
  by_cases same : other = sid
  · subst same
    rw [Function.update_self] at present
    exact .inl ⟨rfl,(Option.some.inj present).symm⟩
  · rw [Function.update_of_ne same] at present
    exact .inr ⟨same,present⟩

/-- A server whose index is its own gets another context. -/
theorem consistent_set {p : BackendConnectionPool} {servers : Servers} (consistent : Consistent x p servers)
    {sid : Nat} (own : ∀ other server, servers other = some server → x.getIndex other = x.getIndex sid →
      other = sid) {server' : Server} {ctx : BackendConnectionContext} (holds : server'.Holds ctx) :
    Consistent x (p.setContext x sid ctx) (Function.update servers sid (some server')) := by
  refine ⟨?apart,?holds,?idle⟩
  case apart =>
    intro one other server server'' first second same
    rcases update_cases first with ⟨rfl,-⟩ | ⟨-,old⟩
    · rcases update_cases second with ⟨rfl,-⟩ | ⟨-,old'⟩
      · rfl
      · exact (own other _ old' same.symm).symm
    · rcases update_cases second with ⟨rfl,-⟩ | ⟨-,old'⟩
      · exact own one _ old same
      · exact consistent.apart one other _ _ old old' same
  case holds =>
    intro other server present
    rw [BackendConnectionPool.context,contextList_setContext]
    rcases update_cases present with ⟨rfl,rfl⟩ | ⟨different,present⟩
    · rw [if_pos rfl]
      exact holds
    · rw [if_neg (fun same => different (own other _ present same))]
      exact consistent.holds other server present
  case idle =>
    intro i free
    have elsewhere : x.getIndex sid ≠ i := free sid server' (Function.update_self _ _ _)
    rw [contextList_setContext,if_neg (Ne.symm elsewhere)]
    apply consistent.idle
    intro other server present here
    by_cases same : other = sid
    · exact elsewhere (same ▸ here)
    · exact free other server (by rw [Function.update_of_ne same]; exact present) here

/-- A server that is there is seen otherwise, and so is its context. -/
theorem consistent_update {p : BackendConnectionPool} {servers : Servers} (consistent : Consistent x p servers)
    {sid : Nat} {server server' : Server} (present : servers sid = some server) {ctx : BackendConnectionContext}
    (holds : server'.Holds ctx) :
    Consistent x (p.setContext x sid ctx) (Function.update servers sid (some server')) :=
  consistent_set consistent (fun other _ there same => consistent.apart other sid _ _ there present same) holds

theorem consistent_add {p : BackendConnectionPool} {servers : Servers} (consistent : Consistent x p servers)
    {sid : Nat} (own : ∀ other server, servers other = some server → x.getIndex other ≠ x.getIndex sid)
    (appKey appSecret : Bytes) :
    Consistent x (p.addServer x (some sid) appKey appSecret)
      (Function.update servers sid (some { appKey, appSecret })) := by
  have idle : (p.context x sid).isChallengeReady = false := consistent.idle _ own
  apply consistent_set consistent
  · exact fun other server present same => absurd same (own other server present)
  · exact ⟨rfl,rfl,fun ready => absurd (idle.symm.trans ready) (by simp)⟩

theorem consistent_remove {p : BackendConnectionPool} {servers : Servers} {e : PoolEvent}
    (consistent : Consistent x p servers) (connectionId : Nat) (same : e = .removeServer connectionId) :
    Consistent x (p.removeServer x connectionId) (servers.watch x p e) := by
  subst same
  have seen {sid : Nat} {server : Server}
      (present : servers.watch x p (.removeServer connectionId) sid = some server) :
      ∃ old, servers sid = some old ∧
        server = if x.getIndex sid = x.getIndex connectionId then { old with wiped := true } else old := by
    simp only [Servers.watch] at present
    split at present
    · cases present
    · split at present
      · rename_i here
        obtain ⟨old,there,rfl⟩ := Option.map_eq_some_iff.mp present
        exact ⟨old,there,by rw [if_pos here]⟩
      · rename_i elsewhere
        exact ⟨server,present,by rw [if_neg elsewhere]⟩
  refine ⟨?apart,?holds,?idle⟩
  case apart =>
    intro one other server server' first second same
    obtain ⟨_,first,-⟩ := seen first
    obtain ⟨_,second,-⟩ := seen second
    exact consistent.apart one other _ _ first second same
  case holds =>
    intro sid server present
    obtain ⟨old,there,rfl⟩ := seen present
    rw [BackendConnectionPool.context,BackendConnectionPool.removeServer,contextList_setContext]
    split
    · exact ⟨rfl,rfl,fun ready => by cases ready⟩
    · exact consistent.holds sid old there
  case idle =>
    intro i free
    rw [BackendConnectionPool.removeServer,contextList_setContext]
    split
    · rfl
    · rename_i elsewhere
      apply consistent.idle
      intro sid server present here
      have different : x.getIndex sid ≠ x.getIndex connectionId := here ▸ elsewhere
      have kept : servers.watch x p (.removeServer connectionId) sid = some server := by
        simp only [Servers.watch]
        rw [if_neg (fun same => different (congrArg _ same)),if_neg different]
        exact present
      exact free sid server kept here

theorem consistent_packet {p : BackendConnectionPool} {servers : Servers} (consistent : Consistent x p servers)
    {sid : Nat} {server : Server} (present : servers sid = some server) (connected : server.connected = true)
    (commandId requestId : Nat) (payload : Bytes) (accepts : Bool) :
    Consistent x (p.onServerPacket x sid commandId requestId payload accepts).1
      (servers.watch x p (.serverPacket sid commandId requestId payload accepts)) := by
  obtain ⟨appKey,appSecret,-⟩ := consistent.holds sid server present
  cases answer : isAnswer x commandId payload with
  | true =>
    obtain ⟨command,decodes⟩ : commandId = cmdBackendChallengeResp ∧
        (BackendChallengeResp.deserialize x.messages payload).isSome = true := by
      simpa [isAnswer] using answer
    obtain ⟨m,decoded⟩ := Option.isSome_iff_exists.mp decodes
    have watched : servers.watch x p (.serverPacket sid commandId requestId payload accepts) =
        Function.update servers sid (some { server with answered := true }) := by
      simp [Servers.watch,answer,present]
    rw [watched,BackendConnectionPool.onServerPacket,if_pos command,
      BackendConnectionPool.onCmdBackendChallengeResp]
    split
    · rw [← setContext_self (x := x) p sid]
      exact consistent_update consistent present ⟨appKey,appSecret,fun _ => ⟨connected,rfl⟩⟩
    · rw [decoded]
      exact consistent_update consistent present ⟨appKey,appSecret,fun _ => ⟨connected,rfl⟩⟩
  | false =>
    have watched : servers.watch x p (.serverPacket sid commandId requestId payload accepts) = servers := by
      simp [Servers.watch,answer]
    have kept : (p.onServerPacket x sid commandId requestId payload accepts).1 = p := by
      unfold BackendConnectionPool.onServerPacket BackendConnectionPool.onCmdBackendChallengeResp
      dsimp only
      split
      · rename_i command
        have unread : BackendChallengeResp.deserialize x.messages payload = none := by
          simpa [isAnswer,command] using answer
        rw [unread]
        split <;> rfl
      · split <;> rfl
    rw [watched,kept]
    exact consistent

theorem consistent_step {s : BackendConnectionPool × Servers} {log : List PoolAction}
    (consistent : Consistent x s.1 s.2) {e : PoolEvent} (regular : Regular x s log e) :
    Consistent x (s.1.step x e).1 (s.2.watch x s.1 e) := by
  obtain ⟨p,servers⟩ := s
  cases e with
  | addServer sid appKey appSecret =>
    cases sid with
    | none => exact consistent
    | some sid => exact consistent_add consistent regular appKey appSecret
  | removeServer connectionId => exact consistent_remove consistent connectionId rfl
  | serverConnected sid timestampMS =>
    obtain ⟨server,present,waiting⟩ := regular
    obtain ⟨appKey,appSecret,ready⟩ := consistent.holds sid server present
    have watched : servers.watch x p (.serverConnected sid timestampMS) =
        Function.update servers sid (some { server with connected := true, answered := false }) := by
      simp [Servers.watch,show servers sid = some server from present]
    change Consistent x p _
    rw [watched,← setContext_self (x := x) p sid]
    refine consistent_update consistent present ⟨appKey,appSecret,fun before => ?_⟩
    exact absurd (waiting.symm.trans (ready before).1) (by simp)
  | serverPacket sid commandId requestId payload accepts =>
    obtain ⟨server,present,connected⟩ := regular
    exact consistent_packet consistent present connected commandId requestId payload accepts
  | serverClose sid =>
    obtain ⟨server,present⟩ := Option.ne_none_iff_exists'.mp regular
    have watched : servers.watch x p (.serverClose sid) =
        Function.update servers sid (some { server with connected := false, wiped := true }) := by
      simp [Servers.watch,show servers sid = some server from present]
    change Consistent x (p.onServerClose x sid) _
    rw [watched]
    exact consistent_update consistent present ⟨rfl,rfl,fun ready => by cases ready⟩

theorem consistent_run {s : BackendConnectionPool × Servers} {log : List PoolAction}
    {ok : BackendConnectionPool × Servers → List PoolAction → PoolEvent → Prop}
    (regular : ∀ s log e, ok s log e → Regular x s log e)
    (reach : (credentialMachine x).Reach ok s log) : Consistent x s.1 s.2 := by
  refine reach.invariant (I := fun s _ => Consistent x s.1 s.2) ?_
    (fun s log e _ allowed consistent => consistent_step consistent (regular s log e allowed))
  rintro ⟨p,servers⟩ ⟨rfl,rfl⟩
  exact ⟨by simp,by simp,fun _ _ => rfl⟩

/-! ## Credentials -/

theorem credited_iff_unwiped {s : BackendConnectionPool × Servers} {log : List PoolAction}
    (consistent : Consistent x s.1 s.2) {e : PoolEvent} (regular : Regular x s log e) :
    Credited x s log e ↔ Unwiped x s log e := by
  obtain ⟨p,servers⟩ := s
  cases e with
  | serverConnected sid timestampMS =>
    obtain ⟨server,present,-⟩ := regular
    obtain ⟨appKey,appSecret,-⟩ := consistent.holds sid server present
    have sends : Credited x (p,servers) log (.serverConnected sid timestampMS) ↔
        (p.context x sid).appKey = server.appKey ∧
          BackendChallenge.generateChallengeString x.toLibrary ⟨(p.context x sid).appKey,timestampMS,[]⟩
            (p.context x sid).appSecret =
          BackendChallenge.generateChallengeString x.toLibrary ⟨(p.context x sid).appKey,timestampMS,[]⟩
            server.appSecret := by
      constructor
      · exact fun credited => credited _ (List.mem_singleton_self _) server present
      · intro right a member
        obtain rfl := List.mem_singleton.mp member
        intro other there
        obtain rfl := Option.some.inj (present.symm.trans there)
        exact right
    have asks : Unwiped x (p,servers) log (.serverConnected sid timestampMS) ↔
        (server.wiped = true → server.appKey = [] ∧
          BackendChallenge.generateChallengeString x.toLibrary ⟨[],timestampMS,[]⟩ server.appSecret =
            BackendChallenge.generateChallengeString x.toLibrary ⟨[],timestampMS,[]⟩ []) := by
      constructor
      · exact fun unwiped => unwiped server present
      · intro right other there
        obtain rfl := Option.some.inj (present.symm.trans there)
        exact right
    rw [sends,asks,appKey,appSecret]
    cases server.wiped with
    | true =>
      simp only [if_true,forall_const]
      exact and_congr eq_comm eq_comm
    | false => simp
  | serverPacket sid commandId requestId payload accepts =>
    refine iff_of_true ?_ trivial
    obtain ⟨server,present,-⟩ := regular
    obtain ⟨-,-,ready⟩ := consistent.holds sid server present
    have handled {a : PoolAction}
        (member : a ∈ (p.onServerPacket x sid commandId requestId payload accepts).2) :
        a = .invalidPacket sid ∨ a = .backendPacket sid commandId requestId payload ∧
          (p.context x sid).isChallengeReady = true := by
      unfold BackendConnectionPool.onServerPacket BackendConnectionPool.onCmdBackendChallengeResp at member
      dsimp only at member
      split at member
      · split at member
        · exact .inl (List.mem_singleton.mp member)
        · split at member
          · exact .inl (List.mem_singleton.mp member)
          · cases member
      · split at member
        · rename_i open_
          rcases List.mem_cons.mp member with rfl | refused
          · exact .inr ⟨rfl,open_⟩
          · left
            split at refused
            · cases refused
            · exact List.mem_singleton.mp refused
        · exact .inl (List.mem_singleton.mp member)
    intro a member
    rcases handled member with rfl | ⟨rfl,open_⟩
    · trivial
    · intro other there
      obtain rfl := Option.some.inj (present.symm.trans there)
      exact (ready open_).2
  | _ => exact iff_of_true (fun a member => by cases member) trivial

/-- In every regular run the challenges and the packets are the server's own just if each
connection is made with a context that has not been wiped, or would say the same. -/
theorem credentials_kept {s : BackendConnectionPool × Servers} (start : (credentialMachine x).start s)
    (es : List PoolEvent) (regular : (credentialMachine x).Allowed (Regular x) s [] es) :
    (credentialMachine x).Allowed (Credited x) s [] es ↔ (credentialMachine x).Allowed (Unwiped x) s [] es := by
  have both : (credentialMachine x).Allowed (fun s log e => Regular x s log e ∧ Credited x s log e) s [] es ↔
      (credentialMachine x).Allowed (fun s log e => Regular x s log e ∧ Unwiped x s log e) s [] es := by
    refine Machine.allowed_iff (fun s log e reach => and_congr_right fun regular => ?_) (.start start) es
    exact credited_iff_unwiped (consistent_run (fun _ _ _ allowed => allowed.1) reach) regular
  rw [Machine.allowed_and,Machine.allowed_and] at both
  exact and_congr_right_iff.mp both regular

/-- An id has its index in the lower half. -/
def PoolLibrary.reference : PoolLibrary := { Library.reference with getIndex := (· % 2^32) }

/-- Server 7 is added, and connected. -/
def firstConnection : List PoolEvent :=
  [.addServer (some 7) (ascii "key") (ascii "secret"),.serverConnected 7 1]

theorem nothing_added : (credentialMachine .reference).start ({},fun _ => none) := ⟨rfl,rfl⟩

theorem credentials_kept_first :
    (credentialMachine .reference).Allowed (Credited .reference) ({},fun _ => none) []
      (firstConnection ++ [.serverPacket 7 cmdBackendChallengeResp 0 [0,0,0,0] true,
        .serverPacket 7 0x4202 1 [] true]) := by
  refine (credentials_kept nothing_added _ ?regular).mpr ?unwiped
  case regular =>
    exact ⟨fun other server present => (by cases present),⟨_,rfl,rfl⟩,⟨_,rfl,rfl⟩,⟨_,rfl,rfl⟩,trivial⟩
  case unwiped =>
    refine ⟨trivial,?_,trivial,trivial,trivial⟩
    intro server present wiped
    obtain rfl := Option.some.inj present
    cases wiped

/-- The connection closes, and the next one is challenged with an empty key. -/
theorem reconnect_without_credentials :
    ¬ ∀ s es, (credentialMachine .reference).start s →
      (credentialMachine .reference).Allowed (Regular .reference) s [] es →
        (credentialMachine .reference).Allowed (Credited .reference) s [] es := by
  intro always
  let es : List PoolEvent := firstConnection ++ [.serverClose 7,.serverConnected 7 2]
  have regular : (credentialMachine .reference).Allowed (Regular .reference) ({},fun _ => none) [] es := by
    refine ⟨fun other server present => (by cases present),⟨_,rfl,rfl⟩,?_,⟨_,rfl,rfl⟩,trivial⟩
    exact fun gone => by cases gone
  obtain ⟨-,-,-,credited,-⟩ := always _ es nothing_added regular
  have key := (credited _ (List.mem_singleton_self _) _ rfl).1
  exact absurd key (by decide)

end MiniPP.Backend
