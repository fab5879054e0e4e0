import MiniPP.Packets
import MiniPP.Registry.Encoding
import MiniPP.Registry.Representation

/-! The download service down to the bytes that it posts. A response is kept in a buffer, and the
version that the buffer is said to hold is never set. -/
namespace MiniPP.Registry

variable {x : PacketLibrary} {grow : Nat → Nat}

/-! ## The service -/

/-- `response` is the part of the buffer that was written. -/
structure ResponseBuffer where
  version : Nat := 0
  response : Bytes := []
  deriving DecidableEq, Repr

/-- The download service, beside the manager of the lists. -/
structure ServerListServer where
  manager : InternalServerListManager
  buffers : ServerKind → ResponseBuffer := fun _ => {}

/-- `Cmd_DownloadAuthCacheServerListResp` and its two siblings. -/
def cmdDownloadResp : ServerKind → Nat
  | .authCache => 0x5302
  | .auditDevice => 0x5304
  | .auditAccount => 0x5306

def writeResp (x : PacketLibrary) (kind : ServerKind) (r : DownloadResp) : Bytes :=
  x.writeMessage (cmdDownloadResp kind) 0 r.serializeMembers

namespace ServerListServer

/-- The service, and the bytes that it posts. -/
def onDownload (x : PacketLibrary) (kind : ServerKind) (s : ServerListServer) (requested : Nat) :
    ServerListServer × Bytes :=
  let version := (s.manager.lists kind).version
  if requested = version then (s,writeResp x kind ⟨version,[]⟩)
  else
    let buffer :=
      if version ≠ (s.buffers kind).version then
        { s.buffers kind with response := writeResp x kind ⟨version,listed (s.manager.lists kind).versionedInfoList⟩ }
      else s.buffers kind
    ({ s with buffers := Function.update s.buffers kind buffer },buffer.response)

def onDownloadAuthCacheServerList (x : PacketLibrary) := onDownload x .authCache
def onDownloadAuditDeviceServerList (x : PacketLibrary) := onDownload x .auditDevice
def onDownloadAuditAccountServerList (x : PacketLibrary) := onDownload x .auditAccount

def onClientPacket (x : PacketLibrary) (s : ServerListServer) : ServerKind → Nat → ServerListServer × Bytes
  | .authCache => s.onDownloadAuthCacheServerList x
  | .auditDevice => s.onDownloadAuditDeviceServerList x
  | .auditAccount => s.onDownloadAuditAccountServerList x

end ServerListServer

inductive ServiceEvent where
  | list (e : ListEvent)
  | download (kind : ServerKind) (requested : Nat)
  deriving DecidableEq, Repr

def serviceMachine (x : PacketLibrary) (grow : Nat → Nat) : Machine ServerListServer ServiceEvent ListAction where
  start s := ∃ ticker versionTimestampMS, s = { manager := .init ticker versionTimestampMS }
  step s
    | .list e => ({ s with manager := (s.manager.step grow e).1 },(s.manager.step grow e).2)
    | .download kind requested => ((s.onClientPacket x kind requested).1,[])

/-- What a server registers with are values of their types. -/
def TypedService (_ : ServerListServer) (_ : List ListAction) : ServiceEvent → Prop
  | .list (.addServerInfo _ serverId serverAddress) =>
    serverId < 2^64 ∧ Message.Primitive.InRange .address serverAddress
  | _ => True

/-! ## What is to be answered -/

/-- The answer without a buffer. -/
def plainResp (l : ServerInfoList) (requested : Nat) : DownloadResp :=
  if requested = l.version then ⟨l.version,[]⟩ else ⟨l.version,listed l.versionedInfoList⟩

/-- The bytes posted are the plain answer, as one packet. -/
def AnswersPlainly (x : PacketLibrary) (kind : ServerKind) (s : ServerListServer) (requested : Nat) : Prop :=
  let posted := (s.onClientPacket x kind requested).2
  let plain := plainResp (s.manager.lists kind) requested
  posted = writeResp x kind plain ∧
    x.OnePacket (cmdDownloadResp kind) 0 (x.serialize plain.serializeMembers) posted

/-! ## The service in a run -/

/-- Nothing is in a buffer before a list of the kind is published. -/
structure Prepared (s : ServerListServer) : Prop where
  listable : ∀ kind, Listable (s.manager.lists kind)
  unset : ∀ kind, (s.buffers kind).version = 0
  blank : ∀ kind, (s.manager.lists kind).version = 0 → (s.buffers kind).response = []

theorem onClientPacket_eq (s : ServerListServer) (kind : ServerKind) (requested : Nat) :
    s.onClientPacket x kind requested = s.onDownload x kind requested := by
  cases kind <;> rfl

/-- The buffers hold what the messages of the service are written as. -/
def Holds (x : PacketLibrary) (service : DownloadServerService) (s : ServerListServer) : Prop :=
  ∀ kind, (s.buffers kind).version = (service.caches kind).version ∧
    (s.buffers kind).response = (service.caches kind).response.elim [] (writeResp x kind)

/-- The buffer of one kind is written, with what is said to hold. -/
theorem holds_update {service : DownloadServerService} {s : ServerListServer} (holds : Holds x service s)
    (kind : ServerKind) {cache : DownloadCache} {buffer : ResponseBuffer} (version : buffer.version = cache.version)
    (response : buffer.response = cache.response.elim [] (writeResp x kind)) :
    Holds x { service with caches := Function.update service.caches kind cache }
      { s with buffers := Function.update s.buffers kind buffer } := by
  intro other
  dsimp only
  by_cases here : other = kind
  · subst here
    rw [Function.update_self,Function.update_self]
    exact ⟨version,response⟩
  · rw [Function.update_of_ne here,Function.update_of_ne here]
    exact holds other

/-- The service on bytes does what the service on messages does. -/
theorem onClientPacket_refines {service : DownloadServerService} {s : ServerListServer}
    (holds : Holds x service s) (kind : ServerKind) (requested : Nat) :
    (s.onClientPacket x kind requested).2 =
        ((service.onClientPacket s.manager kind requested).2).elim [] (writeResp x kind) ∧
      Holds x (service.onClientPacket s.manager kind requested).1 (s.onClientPacket x kind requested).1 := by
  obtain ⟨version,response⟩ := holds kind
  have shared : service.onClientPacket s.manager kind requested =
      service.onDownload kind s.manager requested := by
    cases kind <;> rfl
  rw [onClientPacket_eq,shared]
  unfold ServerListServer.onDownload DownloadServerService.onDownload
  dsimp only
  split
  · exact ⟨rfl,holds⟩
  · rw [version]
    split
    · exact ⟨rfl,holds_update holds kind rfl rfl⟩
    · exact ⟨response,holds_update holds kind version response⟩

/-- Every list that is kept can be sent as a packet. -/
theorem packed {l : ServerInfoList} (listable : Listable l) (requested : Nat) :
    x.packet (plainResp l requested).serializeMembers =
      some (x.serialize (plainResp l requested).serializeMembers) := by
  obtain ⟨-,-,-,-,published,publishedRange⟩ := listable
  unfold plainResp
  split
  · exact DownloadResp.packet_eq x.toSizedFormat (Nat.zero_le _) (by simp)
  · apply DownloadResp.packet_eq x.toSizedFormat
    · exact (List.length_map _).trans_le published
    · exact fun s member => (inRange_listed publishedRange s member).2

theorem onePacket_plain {l : ServerInfoList} (listable : Listable l) (kind : ServerKind) (requested : Nat) :
    x.OnePacket (cmdDownloadResp kind) 0 (x.serialize (plainResp l requested).serializeMembers)
      (writeResp x kind (plainResp l requested)) := by
  apply x.onePacket_writeMessage (packed listable requested)
  · cases kind <;> decide
  · exact Nat.two_pow_pos 64

/-- A version that has been published is never 0 again, so the buffer is written anew. -/
theorem posted_eq {s : ServerListServer} (prepared : Prepared s) (kind : ServerKind) (requested : Nat) :
    (s.onClientPacket x kind requested).2 =
      if (s.manager.lists kind).version = 0 ∧ requested ≠ 0 then []
      else writeResp x kind (plainResp (s.manager.lists kind) requested) := by
  have unset := prepared.unset kind
  rw [onClientPacket_eq]
  unfold ServerListServer.onDownload plainResp
  dsimp only
  by_cases same : requested = (s.manager.lists kind).version
  · rw [if_pos same,if_pos same,if_neg]
    rintro ⟨zero,some_⟩
    exact some_ (same.trans zero)
  · rw [if_neg same,if_neg same]
    by_cases first : (s.manager.lists kind).version = 0
    · have asked : requested ≠ 0 := by
        rw [← first]
        exact same
      rw [if_neg (not_not.mpr (first.trans unset.symm)),if_pos ⟨first,asked⟩]
      exact prepared.blank kind first
    · have renewed : (s.manager.lists kind).version ≠ (s.buffers kind).version := by
        rw [unset]
        exact first
      rw [if_pos renewed,if_neg (fun both => first both.1)]

theorem prepared_update {s : ServerListServer} (prepared : Prepared s) (kind : ServerKind) {buffer : ResponseBuffer}
    (unset : buffer.version = 0) (blank : (s.manager.lists kind).version = 0 → buffer.response = []) :
    Prepared { s with buffers := Function.update s.buffers kind buffer } where
  listable := prepared.listable
  unset := (Function.forall_update_iff s.buffers (fun _ b => b.version = 0)).mpr
    ⟨unset,fun other _ => prepared.unset other⟩
  blank := (Function.forall_update_iff s.buffers
      (fun other b => (s.manager.lists other).version = 0 → b.response = [])).mpr
    ⟨blank,fun other _ => prepared.blank other⟩

theorem prepared_download {s : ServerListServer} (prepared : Prepared s) (kind : ServerKind) (requested : Nat) :
    Prepared (s.onClientPacket x kind requested).1 := by
  rw [onClientPacket_eq]
  unfold ServerListServer.onDownload
  dsimp only
  split
  · exact prepared
  · split
    · rename_i renewed
      apply prepared_update prepared kind
      · exact prepared.unset kind
      · intro first
        exact absurd (first.trans (prepared.unset kind).symm) renewed
    · exact prepared_update prepared kind (prepared.unset kind) (prepared.blank kind)

/-- A version that is 0 has been 0 before. -/
theorem version_unpublished {m : InternalServerListManager} {kind : ServerKind} {e : ListEvent}
    (first : ((m.step grow e).1.lists kind).version = 0) : (m.lists kind).version = 0 := by
  obtain ⟨same,-⟩ | next := m.step_versioned grow e kind
  · rw [← same]
    exact first
  · rw [next] at first
    exact absurd first (nextVersion_some _)

theorem prepared_run {s : ServerListServer} {log : List ListAction}
    (reach : (serviceMachine x grow).Reach TypedService s log) : Prepared s := by
  apply Machine.Reach.invariant (I := fun s _ => Prepared s) ?_ ?_ reach
  · rintro _ ⟨ticker,versionTimestampMS,rfl⟩
    exact ⟨listable_init ticker versionTimestampMS,fun _ => rfl,fun _ _ => rfl⟩
  · intro s log e _ typed prepared
    cases e with
    | list e =>
      refine ⟨listable_step prepared.listable ?_,prepared.unset,
        fun kind first => prepared.blank kind (version_unpublished first)⟩
      rintro kind serverId serverAddress rfl
      exact typed
    | download kind requested => exact prepared_download prepared kind requested

/-- In every run a download is answered as it would be without a buffer, unless nothing has been
published yet and the client has a version. -/
theorem download_response_plain {s : ServerListServer} {log : List ListAction}
    (reach : (serviceMachine x grow).Reach TypedService s log) (kind : ServerKind) (requested : Nat) :
    AnswersPlainly x kind s requested ↔ (s.manager.lists kind).version ≠ 0 ∨ requested = 0 := by
  have prepared := prepared_run reach
  have posted := posted_eq (x := x) prepared kind requested
  unfold AnswersPlainly
  dsimp only
  rw [posted]
  by_cases unpublished : (s.manager.lists kind).version = 0 ∧ requested ≠ 0
  · rw [if_pos unpublished]
    apply iff_of_false
    · rintro ⟨-,one⟩
      exact x.not_onePacket_nil _ _ _ one
    · rintro (published | fresh)
      · exact published unpublished.1
      · exact unpublished.2 fresh
  · rw [if_neg unpublished]
    exact iff_of_true ⟨rfl,onePacket_plain (prepared.listable kind) kind requested⟩
      (not_and_or.mp unpublished |>.imp_right not_not.mp)

/-- The list with a first server is published, and a client asks for it. -/
theorem download_response_plain_published :
    AnswersPlainly .reference .authCache ((serviceMachine .reference doubling).run { manager := .init 0 0 }
      [.list (.addServerInfo .authCache 5 .unspecified),.list (.tick 60001)]).1 0 := by
  have start : (serviceMachine .reference doubling).start { manager := .init 0 0 } := ⟨0,0,rfl⟩
  have typed : (serviceMachine .reference doubling).Allowed TypedService { manager := .init 0 0 } []
      [.list (.addServerInfo .authCache 5 .unspecified),.list (.tick 60001)] :=
    ⟨⟨by decide,rfl,by decide⟩,trivial,trivial⟩
  exact (download_response_plain (Machine.Reach.run (.start start) _ typed) .authCache 0).mpr (.inr rfl)

/-- A client that still has version 7 asks a server that was started anew, and gets no bytes. -/
theorem restarted_server_posts_nothing :
    ¬ ∀ s log, (serviceMachine .reference doubling).Reach TypedService s log → ∀ kind requested,
      AnswersPlainly .reference kind s requested := by
  intro always
  have start : (serviceMachine .reference doubling).start { manager := .init 0 0 } := ⟨0,0,rfl⟩
  obtain ⟨-,one⟩ := always _ _ (.start start) .authCache 7
  exact PacketLibrary.reference.not_onePacket_nil _ _ _ one

end MiniPP.Registry
