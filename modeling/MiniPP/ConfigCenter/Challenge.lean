import MiniPP.Backend.Challenge
import MiniPP.ConfigCenter.Registration
import MiniPP.GeoIp.Regions
import MiniPP.Packets

/-! The config center tells a device where to connect: a challenge that comes in a datagram is
answered with a relay server and with the region of the address that it came from. The relay
servers are those of a file that is read at the start. -/
namespace MiniPP.ConfigCenter

open GeoIp Message ServerId RelayServerManager RoundRobin

/-! ## Messages -/

/-- `xCC_DeviceChallenge`. -/
structure DeviceChallenge where
  appVersion : Nat
  timestamp : Nat
  sign : Bytes
  deriving DecidableEq, Repr

def DeviceChallenge.deserializeMembers (x : MessageFormat) : Reads DeviceChallenge := do
  return { appVersion := ← x.read .u32, timestamp := ← x.read .u64, sign := ← x.read .string }

/-- `xCC_DeviceChallengeResp`. -/
structure DeviceChallengeResp where
  ctrlAddress : NetAddress := .unspecified
  dataAddress : NetAddress := .unspecified
  checkKey : Bytes := []
  terminalAddress : NetAddress := .unspecified
  useOldVersion : Bool := false
  enableSpeedControl : Bool := false
  deriving DecidableEq, Repr

def DeviceChallengeResp.serializeMembers (m : DeviceChallengeResp) : List Field :=
  [.address m.ctrlAddress,.address m.dataAddress,.string m.checkKey,.address m.terminalAddress,
    .bool m.useOldVersion,.bool m.enableSpeedControl]

def cmdDvCcChallenge : Nat := 0x7001
def cmdDvCcChallengeResp : Nat := 0x7002

/-- What is used of the library here. `header` is what `Deserialize` leaves in a header, whether it
takes it or not, and `leftBehind` what it leaves in a request that it does not take. -/
structure ChallengeLibrary extends PacketLibrary where
  xel : Xel
  trim : Bytes → Bytes
  md5 : Bytes → Bytes
  strToHex : Bytes → Bytes
  w4 : Nat → Bytes
  ip : NetAddress → NetAddress
  ipToString : NetAddress → Bytes
  inet : Inet
  header : Bytes → PacketHeader
  leftBehind : Bytes → DeviceChallenge

namespace ChallengeLibrary

variable (x : ChallengeLibrary)

/-- The request after `Deserialize`, whose result decides nothing. -/
def request (payload : Bytes) : DeviceChallenge :=
  (x.decode (DeviceChallenge.deserializeMembers x.toMessageFormat) payload).getD (x.leftBehind payload)

/-- What a request has to be signed with. -/
def sign (timestamp : Nat) : Bytes := x.strToHex (x.md5 (ascii "TLMPP1" ++ ascii (toString timestamp)))

def checkKey (region : GeoInfo) : Bytes :=
  ascii "TLMPP-FOR-TEST:" ++
    x.strToHex (x.w4 region.countryId ++ x.w4 region.stateId ++ x.w4 region.cityId)

end ChallengeLibrary

/-! ## The forced relay servers -/

/-- `LoadForcedRelayerServers`: `none` is an assertion that fails, or a line without a second word,
where the code reads on. -/
def loadForcedRelayerServers (x : ChallengeLibrary) : List Bytes → Option (List RelayServerBase)
  | [] => some []
  | line :: rest =>
    let words := (x.xel.split line (ascii ",")).map x.trim
    match words with
    | [] => loadForcedRelayerServers x rest
    | first :: others =>
      if first.head? = some 35 then loadForcedRelayerServers x rest
      else match others with
        | [] => none
        | second :: _ =>
          let ctrlAddress := x.xel.parseAddress first
          let dataAddress := x.xel.parseAddress second
          if x.xel.isSet ctrlAddress = true ∧ ctrlAddress.port ≠ 0 ∧
              x.xel.isSet dataAddress = true ∧ dataAddress.port ≠ 0 then
            (loadForcedRelayerServers x rest).map (⟨0,ctrlAddress,dataAddress,.unspecified⟩ :: ·)
          else none

variable {σ : Type}

/-- The loop of `main` over the forced relay servers. Number `i` is added at the time `clock i`. -/
def addForcedRelayServers (ids : ObjectIdManagerMini σ) (clock : Nat → UInt64) :
    Nat → List RelayServerBase → RelayServerManager σ → Option (RelayServerManager σ)
  | _, [], m => some m
  | i, server :: rest, m =>
    match m.addServerInfo ids server (clock i).toNat with
    | none => none
    | some (_,m') => addForcedRelayServers ids clock (i + 1) rest m'

/-! ## The config center -/

structure Center (σ : Type) where
  relayServerManager : RelayServerManager σ
  ipDb : IpDb

/-- `main` up to its loop: the file of the forced relay servers, the list of regions and the
database of addresses. -/
def Center.start (x : ChallengeLibrary) (ids : ObjectIdManagerMini σ) (lines : List Bytes)
    (rows : RegionList) (file : Option Bytes) (clock : Nat → UInt64) : Option (Center σ) := do
  let forceRelayServerList ← loadForcedRelayerServers x lines
  let ipDb ← IpDb.init rows file
  let relayServerManager ← addForcedRelayServers ids clock 0 forceRelayServerList (.init ids)
  return { relayServerManager, ipDb }

inductive DeviceChannel where
  | challenge | ipv6Test
  deriving DecidableEq, Repr

structure Datagram where
  channel : DeviceChannel
  remoteAddress : NetAddress
  data : Bytes
  deriving DecidableEq, Repr

/-- `WriteMessage` and `PostData` of a response. -/
structure Post where
  channel : DeviceChannel
  remoteAddress : NetAddress
  resp : DeviceChallengeResp
  deriving DecidableEq, Repr

/-- What goes out. -/
def Post.data (x : ChallengeLibrary) (p : Post) : Bytes :=
  x.writeMessage cmdDvCcChallengeResp 0 p.resp.serializeMembers

/-- `OnData` of either reactor: the payload that `OnTerminalChallenge` is called with, if it is. -/
def onData (x : ChallengeLibrary) (data : Bytes) : Option Bytes :=
  if data.length < x.format.headerSize then none
  else
    let header := x.header data
    if header.packetSize ≠ data.length then none
    else if header.commandId = cmdDvCcChallenge then some (data.drop x.format.headerSize)
    else none

/-- `xIpv6TestChennelReactor::OnTerminalChallenge`. -/
def ipv6TestOnTerminalChallenge (x : ChallengeLibrary) (remoteAddress : NetAddress) (payload : Bytes) :
    List Post :=
  let request := x.request payload
  if request.sign ≠ x.sign request.timestamp then []
  else [⟨.ipv6Test,remoteAddress,{ terminalAddress := x.ip remoteAddress }⟩]

/-- `xChallengeChennelReactor::OnTerminalChallenge`. Nothing is left where the search in the
database goes wrong. -/
def challengeOnTerminalChallenge (x : ChallengeLibrary) (fuel : Nat) (c : Center σ)
    (remoteAddress : NetAddress) (payload : Bytes) : Option (Center σ) × List Post :=
  let request := x.request payload
  if request.sign ≠ x.sign request.timestamp then (some c,[])
  else match getRegionByIp x.inet c.ipDb fuel (x.ipToString remoteAddress) with
    | none => (none,[])
    | some region =>
      let (relayServer,relayServerManager) := c.relayServerManager.getAnyRelayServer
      let resp : DeviceChallengeResp := { terminalAddress := x.ip remoteAddress }
      let resp := match relayServer with
        | none => resp
        | some server => { resp with
            ctrlAddress := server.ctrlAddress, dataAddress := server.dataAddress
            checkKey := x.checkKey region }
      (some { c with relayServerManager },[⟨.challenge,remoteAddress,resp⟩])

def challengeStep (x : ChallengeLibrary) (fuel : Nat) :
    Option (Center σ) → Datagram → Option (Center σ) × List Post
  | none, _ => (none,[])
  | some c, d =>
    match onData x d.data, d.channel with
    | none, _ => (some c,[])
    | some payload, .ipv6Test => (some c,ipv6TestOnTerminalChallenge x d.remoteAddress payload)
    | some payload, .challenge => challengeOnTerminalChallenge x fuel c d.remoteAddress payload

/-- The loop of `main`, from a process that has started. -/
def challengeMachine (x : ChallengeLibrary) (fuel : Nat) : Machine (Option (Center σ)) Datagram Post where
  start s := s ≠ none
  step := challengeStep x fuel

/-! ## What is answered -/

/-- A datagram with a challenge that is signed. -/
def authentic (x : ChallengeLibrary) (d : Datagram) : Bool :=
  match onData x d.data with
  | none => false
  | some payload => (x.request payload).sign == x.sign (x.request payload).timestamp

/-- The relay server that a response names, by its two addresses. -/
def DeviceChallengeResp.relay (m : DeviceChallengeResp) : NetAddress × NetAddress :=
  (m.ctrlAddress,m.dataAddress)

/-- The addresses of a registered server. -/
def addresses (server : RelayServerBase) : NetAddress × NetAddress := (server.ctrlAddress,server.dataAddress)

/-- The response to a challenge on either channel, for a server whose turn it is and a region. -/
def response (x : ChallengeLibrary) (d : Datagram) (turn : Option RelayServerBase) (region : GeoInfo) :
    DeviceChallengeResp :=
  match d.channel, turn with
  | .challenge, some server => {
      ctrlAddress := server.ctrlAddress, dataAddress := server.dataAddress
      checkKey := x.checkKey region, terminalAddress := x.ip d.remoteAddress }
  | _, _ => { terminalAddress := x.ip d.remoteAddress }

/-- What can happen to a datagram. -/
inductive Reacts (x : ChallengeLibrary) (fuel : Nat) (c : Center σ) (d : Datagram) :
    Option (Center σ) × List Post → Prop where
  | ignored (forged : authentic x d = false) : Reacts x fuel c d (some c,[])
  | tested (signed : authentic x d = true) (channel : d.channel = .ipv6Test) :
      Reacts x fuel c d (some c,[⟨.ipv6Test,d.remoteAddress,{ terminalAddress := x.ip d.remoteAddress }⟩])
  | lost (signed : authentic x d = true) (channel : d.channel = .challenge)
      (wrong : getRegionByIp x.inet c.ipDb fuel (x.ipToString d.remoteAddress) = none) :
      Reacts x fuel c d (none,[])
  | answered (signed : authentic x d = true) (channel : d.channel = .challenge) {region : GeoInfo}
      (known : getRegionByIp x.inet c.ipDb fuel (x.ipToString d.remoteAddress) = some region) :
      Reacts x fuel c d (some { c with relayServerManager := c.relayServerManager.getAnyRelayServer.2 },
        [⟨.challenge,d.remoteAddress,response x d c.relayServerManager.getAnyRelayServer.1 region⟩])

theorem challengeStep_reacts (x : ChallengeLibrary) (fuel : Nat) (c : Center σ) (d : Datagram) :
    Reacts x fuel c d (challengeStep x fuel (some c) d) := by
  obtain ⟨channel,remoteAddress,data⟩ := d
  cases handed : onData x data with
  | none =>
    have forged : authentic x ⟨channel,remoteAddress,data⟩ = false := by simp [authentic,handed]
    simp only [challengeStep,handed]
    exact .ignored forged
  | some payload =>
    have signed_iff : authentic x ⟨channel,remoteAddress,data⟩ = true ↔
        (x.request payload).sign = x.sign (x.request payload).timestamp := by simp [authentic,handed]
    by_cases signed : (x.request payload).sign = x.sign (x.request payload).timestamp
    · cases channel with
      | ipv6Test =>
        simp only [challengeStep,handed,ipv6TestOnTerminalChallenge,if_neg (not_not.mpr signed)]
        exact .tested (signed_iff.mpr signed) rfl
      | challenge =>
        simp only [challengeStep,handed,challengeOnTerminalChallenge,if_neg (not_not.mpr signed)]
        cases known : getRegionByIp x.inet c.ipDb fuel (x.ipToString remoteAddress) with
        | none => exact .lost (signed_iff.mpr signed) rfl known
        | some region =>
          have answered := Reacts.answered (d := ⟨.challenge,remoteAddress,data⟩) (c := c)
            (signed_iff.mpr signed) rfl known
          cases turn : c.relayServerManager.getAnyRelayServer.1 with
          | none => simpa [response,turn] using answered
          | some server => simpa [response,turn] using answered
    · have forged : authentic x ⟨channel,remoteAddress,data⟩ = false := by
        rw [Bool.eq_false_iff]
        exact mt signed_iff.mp signed
      cases channel with
      | ipv6Test =>
        simp only [challengeStep,handed,ipv6TestOnTerminalChallenge,if_pos signed]
        exact .ignored forged
      | challenge =>
        simp only [challengeStep,handed,challengeOnTerminalChallenge,if_pos signed]
        exact .ignored forged

/-! ## A reading of the library, for concrete runs -/

/-- An IPv4 address and its port. -/
def parseIpv4 (text : Bytes) : NetAddress :=
  match splitBytes (ascii ":") [] text with
  | [host,port] => ⟨.ipv4,(splitBytes (ascii ".") [] host).map (fun n => (digits 0 n).toUInt8),digits 0 port⟩
  | _ => .unspecified

def ChallengeLibrary.reference : ChallengeLibrary where
  toPacketLibrary := .reference
  xel := { Xel.reference with parseAddress := parseIpv4 }
  trim text := (text.dropWhile isSpace).reverse.dropWhile isSpace |>.reverse
  md5 := Backend.Md5.sum
  strToHex := Backend.hexLower
  w4 := Codec.toBigEndian 4
  ip a := { a with port := 0 }
  ipToString a := List.intercalate (ascii ".") (a.bytes.map (fun b => ascii (toString b.toNat)))
  inet := oneAddress
  header data := (PacketLibrary.referenceFormat.parse data).getD ⟨0,0,0,false,false⟩
  leftBehind _ := ⟨0,0,[]⟩

end MiniPP.ConfigCenter
