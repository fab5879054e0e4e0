import MiniPP.Xel

/-! The database of the places of addresses, as the vendored library reads it. The header comes
from the file; after that the whole file is in memory, and everything is read there. Positions are
32-bit words that wrap around, and `none` is a read outside the file or outside a table. -/
namespace MiniPP.GeoIp

/-- The values of `uint32_t`. -/
def words : Nat := 2^32

/-! ## Bytes of the file -/

/-- `cache_shm[address]`. -/
def byteAt (image : Bytes) (address : Nat) : Option UInt8 := image[address % words]?

/-- `IP2Location_read8_row`; positions count from 1. -/
def read8Row (image : Bytes) (position memOffset : Nat) : Option UInt8 :=
  byteAt image (memOffset + position + words - 1)

/-- The value of four bytes, the least first. -/
def ofBytes (byte1 byte2 byte3 byte4 : UInt8) : Nat :=
  byte4.toNat * 2^24 + byte3.toNat * 2^16 + byte2.toNat * 2^8 + byte1.toNat

/-- `IP2Location_read32_row`. -/
def read32Row (image : Bytes) (position memOffset : Nat) : Option Nat := do
  let byte1 ← byteAt image (memOffset + position + words - 1)
  let byte2 ← byteAt image (memOffset + position)
  let byte3 ← byteAt image (memOffset + position + 1)
  let byte4 ← byteAt image (memOffset + position + 2)
  return ofBytes byte1 byte2 byte3 byte4

/-- `IP2Location_read128_row`: the last byte of the row is the first of the address. -/
def read128Row (image : Bytes) (position memOffset : Nat) : Option Bytes :=
  (List.range 16).mapM (fun i => read8Row image (position + (15 - i)) memOffset)

/-- `size` bytes that stand together. -/
def slice (image : Bytes) (start size : Nat) : Option Bytes :=
  (List.range size).mapM (fun i => image[start + i]?)

/-- `IP2Location_read_string`; positions count from 0. -/
def readString (image : Bytes) (position : Nat) : Option Bytes := do
  let size ← byteAt image position
  slice image ((position + 1) % words) size.toNat

/-- The four bytes of `IP2Location_read_float_row`. -/
def readFloatRow (image : Bytes) (position memOffset : Nat) : Option Bytes :=
  slice image ((memOffset + position + words - 1) % words) 4

/-! ## The header -/

/-- What is read of an `IP2Location`. -/
structure Handler where
  databaseType : Nat
  databaseColumn : Nat
  databaseYear : Nat
  ipv4DatabaseCount : Nat
  ipv4DatabaseAddress : Nat
  ipv6DatabaseCount : Nat
  ipv6DatabaseAddress : Nat
  ipv4IndexBaseAddress : Nat
  ipv6IndexBaseAddress : Nat
  productCode : Nat
  deriving DecidableEq, Repr

def Handler.zero : Handler := ⟨0,0,0,0,0,0,0,0,0,0⟩

def headerSize : Nat := 64

def header8 (file : Bytes) (position : Nat) : Nat := (file.getD position 0).toNat

def header32 (file : Bytes) (position : Nat) : Nat :=
  ofBytes (file.getD position 0) (file.getD (position + 1) 0) (file.getD (position + 2) 0)
    (file.getD (position + 3) 0)

/-- `IP2Location_initialize`. That a file is too short is not noticed. -/
def initializeHandler (file : Bytes) : Handler :=
  if file.length < headerSize then .zero
  else {
    databaseType := header8 file 0
    databaseColumn := header8 file 1
    databaseYear := header8 file 2
    ipv4DatabaseCount := header32 file 5
    ipv4DatabaseAddress := header32 file 9
    ipv6DatabaseCount := header32 file 13
    ipv6DatabaseAddress := header32 file 17
    ipv4IndexBaseAddress := header32 file 21
    ipv6IndexBaseAddress := header32 file 25
    productCode := header8 file 29 }

/-- A database that is open and in memory. -/
structure Database where
  image : Bytes
  handler : Handler
  deriving DecidableEq

/-- `IP2Location_open`, then `IP2Location_set_lookup_mode` with the memory cache: an empty file
cannot be loaded. `none` is a file that cannot be opened. -/
def Database.openFile (file : Option Bytes) : Option Database :=
  match file with
  | none => none
  | some image =>
    let handler := initializeHandler image
    if handler.productCode = 1 ∨ (handler.databaseYear ≤ 20 ∧ handler.productCode = 0) then
      if image = [] then none else some ⟨image,handler⟩
    else none

/-! ## Records -/

/-- `IP2LocationRecord`. Numbers are kept as the bytes they are made of; `none` is 0. -/
structure Record where
  countryShort : Bytes
  countryLong : Bytes
  region : Bytes
  city : Bytes
  isp : Bytes
  latitude : Option Bytes
  longitude : Option Bytes
  domain : Bytes
  zipcode : Bytes
  timezone : Bytes
  netspeed : Bytes
  iddcode : Bytes
  areacode : Bytes
  weatherstationcode : Bytes
  weatherstationname : Bytes
  mcc : Bytes
  mnc : Bytes
  mobilebrand : Bytes
  elevation : Option Bytes
  usagetype : Bytes
  addressType : Bytes
  category : Bytes
  deriving DecidableEq, Repr

def notSupported : Bytes :=
  ascii "This parameter is unavailable for selected data file. Please upgrade the data file."
def invalidIpAddress : Bytes := ascii "INVALID IP ADDRESS"
def ipv6AddressMissingInIpv4Bin : Bytes := ascii "IPV6 ADDRESS MISSING IN IPV4 BIN"

/-- `IP2Location_bad_record`. -/
def badRecord (message : Bytes) : Record where
  countryShort := message
  countryLong := message
  region := message
  city := message
  isp := message
  latitude := none
  longitude := none
  domain := message
  zipcode := message
  timezone := message
  netspeed := message
  iddcode := message
  areacode := message
  weatherstationcode := message
  weatherstationname := message
  mcc := message
  mnc := message
  mobilebrand := message
  elevation := none
  usagetype := message
  addressType := message
  category := message

/-- The bit of a field in a mode, and where the field stands in a row, by the type of the database;
0 if it has none. -/
structure Column where
  mask : Nat
  positions : List Nat

def countryPosition := [0,2,2,2,2,2,2,2,2,2,2,2,2,2,2,2,2,2,2,2,2,2,2,2,2,2]
def countryShortColumn : Column := ⟨0x1,countryPosition⟩
def countryLongColumn : Column := ⟨0x2,countryPosition⟩
def regionColumn : Column := ⟨0x4,[0,0,0,3,3,3,3,3,3,3,3,3,3,3,3,3,3,3,3,3,3,3,3,3,3,3]⟩
def cityColumn : Column := ⟨0x8,[0,0,0,4,4,4,4,4,4,4,4,4,4,4,4,4,4,4,4,4,4,4,4,4,4,4]⟩
def ispColumn : Column := ⟨0x10,[0,0,3,0,5,0,7,5,7,0,8,0,9,0,9,0,9,0,9,7,9,0,9,7,9,9]⟩
def latitudeColumn : Column := ⟨0x20,[0,0,0,0,0,5,5,0,5,5,5,5,5,5,5,5,5,5,5,5,5,5,5,5,5,5]⟩
def longitudeColumn : Column := ⟨0x40,[0,0,0,0,0,6,6,0,6,6,6,6,6,6,6,6,6,6,6,6,6,6,6,6,6,6]⟩
def domainColumn : Column := ⟨0x80,[0,0,0,0,0,0,0,6,8,0,9,0,10,0,10,0,10,0,10,8,10,0,10,8,10,10]⟩
def zipcodeColumn : Column := ⟨0x100,[0,0,0,0,0,0,0,0,0,7,7,7,7,0,7,7,7,0,7,0,7,7,7,0,7,7]⟩
def timezoneColumn : Column := ⟨0x200,[0,0,0,0,0,0,0,0,0,0,0,8,8,7,8,8,8,7,8,0,8,8,8,0,8,8]⟩
def netspeedColumn : Column := ⟨0x400,[0,0,0,0,0,0,0,0,0,0,0,0,0,8,11,0,11,8,11,0,11,0,11,0,11,11]⟩
def iddcodeColumn : Column := ⟨0x800,[0,0,0,0,0,0,0,0,0,0,0,0,0,0,0,9,12,0,12,0,12,9,12,0,12,12]⟩
def areacodeColumn : Column := ⟨0x1000,[0,0,0,0,0,0,0,0,0,0,0,0,0,0,0,10,13,0,13,0,13,10,13,0,13,13]⟩
def weatherstationcodeColumn : Column :=
  ⟨0x2000,[0,0,0,0,0,0,0,0,0,0,0,0,0,0,0,0,0,9,14,0,14,0,14,0,14,14]⟩
def weatherstationnameColumn : Column :=
  ⟨0x4000,[0,0,0,0,0,0,0,0,0,0,0,0,0,0,0,0,0,10,15,0,15,0,15,0,15,15]⟩
def mccColumn : Column := ⟨0x8000,[0,0,0,0,0,0,0,0,0,0,0,0,0,0,0,0,0,0,0,9,16,0,16,9,16,16]⟩
def mncColumn : Column := ⟨0x10000,[0,0,0,0,0,0,0,0,0,0,0,0,0,0,0,0,0,0,0,10,17,0,17,10,17,17]⟩
def mobilebrandColumn : Column := ⟨0x20000,[0,0,0,0,0,0,0,0,0,0,0,0,0,0,0,0,0,0,0,11,18,0,18,11,18,18]⟩
def elevationColumn : Column := ⟨0x40000,[0,0,0,0,0,0,0,0,0,0,0,0,0,0,0,0,0,0,0,0,0,11,19,0,19,19]⟩
def usagetypeColumn : Column := ⟨0x80000,[0,0,0,0,0,0,0,0,0,0,0,0,0,0,0,0,0,0,0,0,0,0,0,12,20,20]⟩
def addressTypeColumn : Column := ⟨0x81000,[0,0,0,0,0,0,0,0,0,0,0,0,0,0,0,0,0,0,0,0,0,0,0,0,0,21]⟩
def categoryColumn : Column := ⟨0x82000,[0,0,0,0,0,0,0,0,0,0,0,0,0,0,0,0,0,0,0,0,0,0,0,0,0,22]⟩

/-- `ALL`. -/
def allColumns : Nat := 0xFFFFF

/-- Where a field stands behind the start of its row, if the mode and the database have it. The
table is not looked into for a field that the mode has not. -/
def Column.place (column : Column) (h : Handler) (mode : Nat) : Option (Option Nat) :=
  if mode &&& column.mask = 0 then some none
  else (column.positions[h.databaseType]?).map (fun position =>
    if position = 0 then none else some (4 * (position - 2)))

/-- A field that is a string; `skip` is added to the position of its text. -/
def Column.readText (column : Column) (skip : Nat) (d : Database) (mode memOffset : Nat) : Option Bytes := do
  match ← column.place d.handler mode with
  | none => return notSupported
  | some place =>
    let position ← read32Row d.image place memOffset
    readString d.image ((position + skip) % words)

/-- A field that stands in the row itself. -/
def Column.readNumber (column : Column) (d : Database) (mode memOffset : Nat) : Option (Option Bytes) := do
  match ← column.place d.handler mode with
  | none => return none
  | some place => (readFloatRow d.image place memOffset).map some

/-- A field that is a number written as a string. -/
def Column.readNumeral (column : Column) (d : Database) (mode memOffset : Nat) : Option (Option Bytes) := do
  match ← column.place d.handler mode with
  | none => return none
  | some place =>
    let position ← read32Row d.image place memOffset
    (readString d.image position).map some

/-- `IP2Location_read_record`, on the row whose fields begin at `memOffset`. -/
def readRecord (d : Database) (mode memOffset : Nat) : Option Record := do
  let countryShort ← countryShortColumn.readText 0 d mode memOffset
  let countryLong ← countryLongColumn.readText 3 d mode memOffset
  let region ← regionColumn.readText 0 d mode memOffset
  let city ← cityColumn.readText 0 d mode memOffset
  let isp ← ispColumn.readText 0 d mode memOffset
  let latitude ← latitudeColumn.readNumber d mode memOffset
  let longitude ← longitudeColumn.readNumber d mode memOffset
  let domain ← domainColumn.readText 0 d mode memOffset
  let zipcode ← zipcodeColumn.readText 0 d mode memOffset
  let timezone ← timezoneColumn.readText 0 d mode memOffset
  let netspeed ← netspeedColumn.readText 0 d mode memOffset
  let iddcode ← iddcodeColumn.readText 0 d mode memOffset
  let areacode ← areacodeColumn.readText 0 d mode memOffset
  let weatherstationcode ← weatherstationcodeColumn.readText 0 d mode memOffset
  let weatherstationname ← weatherstationnameColumn.readText 0 d mode memOffset
  let mcc ← mccColumn.readText 0 d mode memOffset
  let mnc ← mncColumn.readText 0 d mode memOffset
  let mobilebrand ← mobilebrandColumn.readText 0 d mode memOffset
  let elevation ← elevationColumn.readNumeral d mode memOffset
  let usagetype ← usagetypeColumn.readText 0 d mode memOffset
  let addressType ← addressTypeColumn.readText 0 d mode memOffset
  let category ← categoryColumn.readText 0 d mode memOffset
  return {
    countryShort, countryLong, region, city, isp, latitude, longitude, domain, zipcode, timezone
    netspeed, iddcode, areacode, weatherstationcode, weatherstationname, mcc, mnc, mobilebrand
    elevation, usagetype, addressType, category }

end MiniPP.GeoIp
