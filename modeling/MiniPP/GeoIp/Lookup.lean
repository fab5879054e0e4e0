import MiniPP.GeoIp.Image
import MiniPP.Lib.WordSearch

/-! How an address is looked up: it is parsed, the index says between which rows to search, and the
rows are searched for the one that has the address between its start and the start of the next. -/
namespace MiniPP.GeoIp

open WordSearch

/-! ## Addresses -/

/-- `inet_pton`, for either family: the number of an IPv4 address, and the bytes of an IPv6 one. -/
structure Inet where
  ipv4 : Bytes → Option Nat
  ipv6 : Bytes → Option Bytes

inductive IpContainer where
  | ipv4 (number : Nat)
  | ipv6 (bytes : Bytes)
  | invalid
  deriving DecidableEq, Repr

/-- The number of four bytes of an IPv6 address. -/
def embedded (bytes : Bytes) (start : Nat) : Nat :=
  ofBytes (bytes.getD (start + 3) 0) (bytes.getD (start + 2) 0) (bytes.getD (start + 1) 0) (bytes.getD start 0)

/-- What an IPv6 address stands for: an IPv4 address in it, a 6to4 or a Teredo address, or itself. -/
def ofIpv6 (bytes : Bytes) : IpContainer :=
  if bytes.take 12 = List.replicate 10 0 ++ [255,255] then .ipv4 (embedded bytes 12)
  else if bytes.take 2 = [32,2] then .ipv4 (embedded bytes 2)
  else if bytes.take 4 = [32,1,0,0] then .ipv4 (words - 1 - embedded bytes 12)
  else .ipv6 bytes

/-- `IP2Location_parse_address`. -/
def parseAddress (inet : Inet) (ip : Bytes) : IpContainer :=
  match inet.ipv4 ip with
  | some number => .ipv4 number
  | none =>
    match inet.ipv6 ip with
    | some bytes => ofIpv6 bytes
    | none => .invalid

/-- `ipv6_compare`. -/
def ipv6Compare : Bytes → Bytes → Int
  | a :: as, b :: bs => if a > b then 1 else if a < b then -1 else ipv6Compare as bs
  | _, _ => 0

/-! ## Rows -/

/-- Where the rows of a family stand, how far apart, and how long their starts are. -/
structure Layout where
  baseAddress : Nat
  columnOffset : Nat
  startSize : Nat

def Database.layout4 (d : Database) : Layout := ⟨d.handler.ipv4DatabaseAddress,d.handler.databaseColumn * 4,4⟩
def Database.layout6 (d : Database) : Layout :=
  ⟨d.handler.ipv6DatabaseAddress,d.handler.databaseColumn * 4 + 12,16⟩

def Layout.rowOffset (l : Layout) (row : Nat) : Nat := (l.baseAddress + row * l.columnOffset) % words

/-- A turn of the search for an IPv4 address. -/
def ipv4Probe (d : Database) (ipNumber mid : Nat) : Option Side := do
  let ipFrom ← read32Row d.image 0 (d.layout4.rowOffset mid)
  let ipTo ← read32Row d.image d.layout4.columnOffset (d.layout4.rowOffset mid)
  return sideOf ipFrom ipTo ipNumber

/-- A turn of the search for an IPv6 address. -/
def ipv6Probe (d : Database) (ipNumber : Bytes) (mid : Nat) : Option Side := do
  let ipFrom ← read128Row d.image 0 (d.layout6.rowOffset mid)
  let ipTo ← read128Row d.image d.layout6.columnOffset (d.layout6.rowOffset mid)
  return (if ipv6Compare ipNumber ipFrom ≥ 0 ∧ ipv6Compare ipNumber ipTo < 0 then .here
    else if ipv6Compare ipNumber ipFrom < 0 then .before else .behind)

/-! ## Lookups -/

/-- `null` is an address that was not found, `outside` a read outside the file, and `running` a
search that is not over. -/
inductive Lookup where
  | record (r : Record)
  | null
  | outside
  | running
  deriving DecidableEq, Repr

def Lookup.ofRecord : Option Record → Lookup
  | some r => .record r
  | none => .outside

/-- The rows to search, from the index of a family; without an index, all. -/
def searchWindow (image : Bytes) (indexBaseAddress bucket count : Nat) : Option (Nat × Nat) :=
  if indexBaseAddress = 0 then some (0,count)
  else do
    let indexpos := (indexBaseAddress + bucket * 8) % words
    let low ← read32Row image 0 indexpos
    let high ← read32Row image 4 indexpos
    return (low,high)

/-- The search and the record of the row that it ends at. -/
def searchRows (d : Database) (l : Layout) (mode : Nat) (probe : Nat → Option Side) (fuel : Nat)
    (window : Option (Nat × Nat)) : Lookup :=
  match window with
  | none => .outside
  | some (low,high) =>
    match search words probe fuel low high with
    | .found mid => .ofRecord (readRecord d mode (l.rowOffset mid + l.startSize))
    | .absent => .null
    | .unreadable _ => .outside
    | .running => .running

/-- `IP2Location_get_ipv4_record`. The last address is looked up as the one before it. -/
def getIpv4Record (d : Database) (mode fuel ipv4 : Nat) : Lookup :=
  let ipNumber := if ipv4 = words - 1 then ipv4 - 1 else ipv4
  searchRows d d.layout4 mode (ipv4Probe d ipNumber) fuel
    (searchWindow d.image d.handler.ipv4IndexBaseAddress (ipNumber / 2^16) d.handler.ipv4DatabaseCount)

/-- `IP2Location_get_ipv6_record`. -/
def getIpv6Record (d : Database) (mode fuel : Nat) (ipNumber : Bytes) : Lookup :=
  if d.handler.ipv6DatabaseCount = 0 then .null
  else
    let bucket := (ipNumber.getD 0 0).toNat * 256 + (ipNumber.getD 1 0).toNat
    searchRows d d.layout6 mode (ipv6Probe d ipNumber) fuel
      (searchWindow d.image d.handler.ipv6IndexBaseAddress bucket d.handler.ipv6DatabaseCount)

/-- `IP2Location_get_record`. -/
def getRecord (inet : Inet) (d : Database) (mode fuel : Nat) (ip : Bytes) : Lookup :=
  match parseAddress inet ip with
  | .ipv4 number => getIpv4Record d mode fuel number
  | .ipv6 bytes =>
    if d.handler.ipv6DatabaseCount = 0 then .record (badRecord ipv6AddressMissingInIpv4Bin)
    else getIpv6Record d mode fuel bytes
  | .invalid => .record (badRecord invalidIpAddress)

/-- `IP2Location_get_all`. -/
def getAll (inet : Inet) (d : Database) (fuel : Nat) (ip : Bytes) : Lookup :=
  getRecord inet d allColumns fuel ip

end MiniPP.GeoIp
