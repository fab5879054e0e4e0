import Mathlib.Data.List.TakeWhile
import Mathlib.Tactic.IntervalCases
import MiniPP.ServerId.Uniqueness
import MiniPP.Xel

/-! The servers that are given ids. A server asks the center on every new connection, with the id it
had, which it also keeps in a file. What the center and a server send is on its way until the other
side reads it, and either side may lose a connection before the other does. -/
namespace MiniPP.ServerId

/-! ## The file -/

/-- `strtoumax` of a C string, in base 10. -/
def strtoumax (text : Bytes) : Nat :=
  let body := (text.takeWhile (· ≠ 0)).dropWhile isSpace
  let saturated (value : Nat) (otherwise : Nat) := if 2^64 ≤ value then 2^64 - 1 else otherwise
  match body with
  | 45 :: rest => saturated (digits 0 rest) ((2^64 - digits 0 rest) % 2^64)
  | 43 :: rest => saturated (digits 0 rest) (digits 0 rest)
  | _ => saturated (digits 0 body) (digits 0 body)

/-- `LoadLocalServerId`. -/
def loadLocalServerId : Option Bytes → Nat
  | none => 0
  | some text => strtoumax text

/-- What `DumpLocalServerId` writes. -/
def dumpLocalServerId (localServerId : Nat) : Bytes := ascii (toString localServerId) ++ [lf]

/-! ## The clients of a server -/

/-- `xAD_RegisterServerClient` and its two siblings. -/
structure RegisterServerClient where
  serverId : Nat := 0
  isOpen : Bool := false
  deriving DecidableEq, Repr

namespace RegisterServerClient

/-- What is posted, with the id it is posted with. -/
def onServerConnected (r : RegisterServerClient) : RegisterServerClient × List Nat :=
  ({ r with isOpen := true },if r.serverId ≠ 0 then [r.serverId] else [])

/-- `none` is an assertion that fails. -/
def updateServerId (r : RegisterServerClient) (serverId : Nat) : Option (RegisterServerClient × List Nat) :=
  if serverId = 0 then none
  else if r.serverId = serverId then some (r,[])
  else some ({ r with serverId },if r.isOpen then [serverId] else [])

end RegisterServerClient

/-- `xServerIdClient`, and the key that the center has for its connection. -/
structure ServerIdClient where
  localServerId : Nat
  connection : Option Nat := none
  deriving DecidableEq, Repr

structure ServerProcess where
  serverIdClient : ServerIdClient
  registerServerClient : RegisterServerClient := {}
  deriving DecidableEq, Repr

/-- A server, which may be down, and its file. -/
structure Host where
  file : Option Bytes
  process : Option ServerProcess := none
  deriving DecidableEq, Repr

/-- `xServerIdClient::OnServerPacket` and `OnServerIdUpdated`. The file may not open for writing. The
process is gone where an assertion fails; else it goes on, with what it registers. -/
def ServerProcess.onServerIdUpdated (p : ServerProcess) (newServerId : Nat) :
    Option (ServerProcess × List Nat) :=
  match p.registerServerClient.updateServerId newServerId with
  | none => none
  | some (registerServerClient,posted) =>
    some ({ serverIdClient := { p.serverIdClient with localServerId := newServerId }
            registerServerClient },posted)

/-! ## The system -/

/-- `drawn` is what the random generator of the center draws, and `written` whether the file opens. -/
inductive FleetEvent where
  | start (i : Nat)
  | stop (i : Nat)
  | connect (i : Nat)
  | centerReads (c : Nat) (drawn : UInt32)
  | centerCloses (c : Nat)
  | centerRestarts
  | clientReads (i : Nat) (written : Bool)
  | clientCloses (i : Nat)
  | registerConnected (i : Nat)
  | registerCloses (i : Nat)
  deriving DecidableEq

inductive FleetAction where
  | center (a : CenterAction)
  | asked (i c previousServerId : Nat)
  | updated (i newServerId : Nat)
  | registers (i serverId : Nat)
  | assertion (i : Nat)
  deriving DecidableEq, Repr

/-- What is on its way is listed by the keys of the connections. -/
structure Fleet (σ : Type) (keys : KeySource) where
  center : ServerIdCenterService σ keys
  hosts : Nat → Host
  requests : Nat → List Nat := fun _ => []
  responses : Nat → List Nat := fun _ => []

namespace Fleet

variable {σ : Type} {keys : KeySource}

def setHost (s : Fleet σ keys) (i : Nat) (host : Host) : Fleet σ keys :=
  { s with hosts := Function.update s.hosts i host }

/-- All connections are gone, and no later one has a key of theirs. -/
def restarted (ids : ObjectIdManager σ) (center : ServerIdCenterService σ keys) :
    ServerIdCenterService σ keys where
  serverIdManager := .init ids
  connections := ⟨center.connections.capacity,center.connections.issued,[],by simp,by simp⟩

/-- The answers among what the center does. -/
def answers (actions : List CenterAction) : List Nat :=
  actions.filterMap fun
    | .acquireServerIdResp _ _ newServerId => some newServerId
    | _ => none

def connect (ids : ObjectIdManager σ) (s : Fleet σ keys) (i : Nat) (host : Host) (p : ServerProcess) :
    Fleet σ keys × List FleetAction :=
  match s.center.step ids .clientConnected with
  | (center,[.accepted c]) =>
    let previousServerId := p.serverIdClient.localServerId
    let client := { p.serverIdClient with connection := some c }
    ({ s.setHost i { host with process := some { p with serverIdClient := client } } with
        center, requests := Function.update s.requests c [previousServerId] },
      [.center (.accepted c),.asked i c previousServerId])
  | (center,actions) => ({ s with center },actions.map .center)

def clientReads (s : Fleet σ keys) (i : Nat) (written : Bool) (host : Host) (p : ServerProcess) (c : Nat) :
    Fleet σ keys × List FleetAction :=
  match s.responses c with
  | [] => (s,[])
  | newServerId :: rest =>
    let s := { s with responses := Function.update s.responses c rest }
    let file := if written then some (dumpLocalServerId newServerId) else host.file
    match p.onServerIdUpdated newServerId with
    | none => (s.setHost i { file },[.updated i newServerId,.assertion i])
    | some (p',posted) =>
      (s.setHost i { file, process := some p' },.updated i newServerId :: posted.map (.registers i))

/-- What a process that is up does with an event of its own. -/
def onProcess (s : Fleet σ keys) (i : Nat)
    (act : Host → ServerProcess → Fleet σ keys × List FleetAction) : Fleet σ keys × List FleetAction :=
  match (s.hosts i).process with
  | none => (s,[])
  | some p => act (s.hosts i) p

def step (ids : ObjectIdManager σ) (s : Fleet σ keys) : FleetEvent → Fleet σ keys × List FleetAction
  | .start i =>
    match (s.hosts i).process with
    | some _ => (s,[])
    | none =>
      let file := (s.hosts i).file
      (s.setHost i { file, process := some { serverIdClient := ⟨loadLocalServerId file,none⟩ } },[])
  | .stop i => (s.setHost i { file := (s.hosts i).file },[])
  | .connect i => s.onProcess i fun host p =>
    match p.serverIdClient.connection with
    | some _ => (s,[])
    | none => s.connect ids i host p
  | .centerReads c drawn =>
    match s.requests c with
    | [] => (s,[])
    | previousServerId :: rest =>
      let (center,actions) :=
        s.center.step ids (.clientPacket c (.acquireServerId (some previousServerId.toUInt64)) drawn)
      ({ s with
          center, requests := Function.update s.requests c rest
          responses := Function.update s.responses c (s.responses c ++ answers actions) },
        actions.map .center)
  | .centerCloses c =>
    let (center,actions) := s.center.step ids (.clientClose c)
    ({ s with center },actions.map .center)
  | .centerRestarts => ({ s with center := restarted ids s.center },[])
  | .clientReads i written => s.onProcess i fun host p =>
    match p.serverIdClient.connection with
    | none => (s,[])
    | some c => s.clientReads i written host p c
  | .clientCloses i => s.onProcess i fun host p =>
    let client := { p.serverIdClient with connection := none }
    (s.setHost i { host with process := some { p with serverIdClient := client } },[])
  | .registerConnected i => s.onProcess i fun host p =>
    let (client,posted) := p.registerServerClient.onServerConnected
    (s.setHost i { host with process := some { p with registerServerClient := client } },
      posted.map (.registers i))
  | .registerCloses i => s.onProcess i fun host p =>
    let client := { p.registerServerClient with isOpen := false }
    (s.setHost i { host with process := some { p with registerServerClient := client } },[])

end Fleet

/-- The center has just started, and no server is up. -/
def fleetMachine {σ : Type} (ids : ObjectIdManager σ) (keys : KeySource) :
    Machine (Fleet σ keys) FleetEvent FleetAction where
  start s := ∃ maxIdIndex, ∃ files : Nat → Option Bytes, s = { center := .init ids keys maxIdIndex, hosts := fun i => { file := files i } }
  step s e := s.step ids e

/-! ## The round trip -/

theorem isDigit_digitChar {d : Nat} (small : d < 10) :
    isDigit (Nat.digitChar d).toNat.toUInt8 = true ∧ (Nat.digitChar d).toNat.toUInt8.toNat - 48 = d := by
  interval_cases d <;> decide

theorem digits_append (acc : Nat) {front : Bytes} (all : ∀ b ∈ front, isDigit b = true) (rest : Bytes) :
    digits acc (front ++ rest) = digits (digits acc front) rest := by
  induction front generalizing acc with
  | nil => rfl
  | cons b front ih =>
    have first : isDigit b = true := all b (by simp)
    simp only [List.cons_append,digits,first,if_true]
    exact ih _ (fun other member => all other (by simp [member]))

/-- The digits of a number are read back. -/
theorem digits_toDigits (n : Nat) :
    (∀ b ∈ (Nat.toDigits 10 n).map (fun c => c.toNat.toUInt8), isDigit b = true) ∧
      digits 0 ((Nat.toDigits 10 n).map (fun c => c.toNat.toUInt8)) = n := by
  induction n using Nat.strongRecOn with
  | ind n ih =>
    by_cases small : n < 10
    · obtain ⟨digit,value⟩ := isDigit_digitChar small
      rw [Nat.toDigits_of_lt_base small,List.map_singleton]
      refine ⟨fun b member => ?_,?_⟩
      · obtain rfl := List.mem_singleton.mp member
        exact digit
      · rw [digits,if_pos digit,digits,value,Nat.zero_mul,Nat.zero_add]
    · obtain ⟨digit,value⟩ := isDigit_digitChar (Nat.mod_lt n (show 0 < 10 by decide))
      obtain ⟨all,front⟩ := ih (n / 10) (by omega)
      rw [Nat.toDigits_of_base_le (by decide) (Nat.not_lt.mp small),List.map_append]
      constructor
      · intro b member
        rcases List.mem_append.mp member with old | last
        · exact all b old
        · obtain rfl := List.mem_singleton.mp last
          exact digit
      · rw [digits_append 0 all,front,List.map_singleton,digits,if_pos digit,digits,value]
        omega

/-- A digit neither ends a string nor stands before a number. -/
theorem not_blank {b : UInt8} (digit : isDigit b = true) :
    b ≠ 0 ∧ isSpace b = false ∧ b ≠ 45 ∧ b ≠ 43 := by
  have range : 48 ≤ b ∧ b ≤ 57 := by simpa [isDigit] using digit
  have apart {low : UInt8} (less : low < 48) : b ≠ low := by
    rintro rfl
    exact absurd range.1 (UInt8.not_le.mpr less)
  have beyond : ¬ b ≤ 13 := UInt8.not_le.mpr (UInt8.lt_of_lt_of_le (by decide) range.1)
  refine ⟨apart (by decide),?_,apart (by decide),apart (by decide)⟩
  simp [isSpace,apart (show (32 : UInt8) < 48 by decide),beyond]

/-- What was written to the file is loaded again. -/
theorem load_dump {localServerId : Nat} (word : localServerId < 2^64) :
    loadLocalServerId (some (dumpLocalServerId localServerId)) = localServerId := by
  obtain ⟨all,value⟩ := digits_toDigits localServerId
  have text : dumpLocalServerId localServerId =
      (Nat.toDigits 10 localServerId).map (fun c => c.toNat.toUInt8) ++ [lf] := by
    rw [dumpLocalServerId,Nat.toString_eq_ofList_toDigits,ascii_ofList]
  rw [loadLocalServerId,text]
  generalize (Nat.toDigits 10 localServerId).map (fun c => c.toNat.toUInt8) = front at all value
  have whole : (front ++ [lf]).takeWhile (· ≠ 0) = front ++ [lf] := by
    rw [List.takeWhile_eq_self_iff]
    intro b member
    rcases List.mem_append.mp member with old | last
    · simpa using (not_blank (all b old)).1
    · obtain rfl := List.mem_singleton.mp last
      decide
  have rest : digits 0 (front ++ [lf]) = localServerId := by
    rw [digits_append 0 all,value]
    rfl
  rw [strtoumax,whole]
  cases front with
  | nil =>
    have zero : localServerId = 0 := value.symm
    subst zero
    rfl
  | cons b front =>
    obtain ⟨-,blank,minus,plus⟩ := not_blank (all b (by simp))
    rw [List.cons_append] at rest ⊢
    rw [List.dropWhile_cons_of_neg (by simp [blank])]
    dsimp only
    split
    · next same => exact absurd (List.cons.inj same).1 minus
    · next same => exact absurd (List.cons.inj same).1 plus
    · rw [rest,if_neg (by omega)]

end MiniPP.ServerId
