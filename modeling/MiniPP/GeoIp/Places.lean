import MiniPP.GeoIp.Lookup
import MiniPP.Lib.Codec

/-! What a database is for: a table of ranges of addresses, each with a record. A file that holds a
table answers every address with the record of the range that has it, with and without an index. -/
namespace MiniPP.GeoIp

open WordSearch

/-! ## Files that hold a table -/

/-- The rows of a family stand one after the other, and the place behind the last one says where
it stops. `readStart` reads the start of a row. -/
structure Holds (d : Database) (l : Layout) (readStart : Nat → Nat → Option Nat) (mode : Nat)
    (rows : List (Nat × Record)) (stop : Nat) : Prop where
  starts : ∀ i row, rows[i]? = some row → readStart 0 (l.rowOffset i) = some row.1
  stops : readStart 0 (l.rowOffset rows.length) = some stop
  records : ∀ i row, rows[i]? = some row →
    readRecord d mode (l.rowOffset i + l.startSize) = some row.2
  sorted : rows.Pairwise (fun a b => a.1 ≤ b.1)
  bounded : ∀ row ∈ rows, row.1 ≤ stop
  first : ∃ r, rows[0]? = some (0,r)
  small : 2 * rows.length < words

/-- Wherever a value is, its row is between the rows that the index names. -/
def Indexed (rows : List (Nat × Record)) (stop : Nat) (window : Nat → Option (Nat × Nat)) : Prop :=
  ∀ value < stop, ∃ low high, window value = some (low,high) ∧ high ≤ rows.length ∧
    ∀ i, Cell (WordSearch.starts rows stop) i value → low ≤ i ∧ i ≤ high

/-- `IP2Location_read128_row`, as a number. -/
def read128Number (image : Bytes) (position memOffset : Nat) : Option Nat :=
  (read128Row image position memOffset).map Codec.ofBigEndian

/-- The file holds a table of the IPv4 addresses, whose last range stops before the last address. -/
structure Holds4 (d : Database) (mode : Nat) (rows : List (Nat × Record)) : Prop where
  holds : Holds d d.layout4 (read32Row d.image) mode rows (words - 1)
  count : d.handler.ipv4DatabaseCount = rows.length
  index : d.handler.ipv4IndexBaseAddress = 0 ∨ Indexed rows (words - 1) (fun value =>
    searchWindow d.image d.handler.ipv4IndexBaseAddress (value / 2^16) d.handler.ipv4DatabaseCount)

/-- The file holds a table of the IPv6 addresses up to `stop`. -/
structure Holds6 (d : Database) (mode : Nat) (rows : List (Nat × Record)) (stop : Nat) : Prop where
  holds : Holds d d.layout6 (read128Number d.image) mode rows stop
  count : d.handler.ipv6DatabaseCount = rows.length
  index : d.handler.ipv6IndexBaseAddress = 0 ∨ Indexed rows stop (fun value =>
    searchWindow d.image d.handler.ipv6IndexBaseAddress (value / 2^112) d.handler.ipv6DatabaseCount)

/-! ## Reading at wrapped positions -/

theorem byteAt_congr (image : Bytes) {a b : Nat} (same : a % words = b % words) :
    byteAt image a = byteAt image b := by rw [byteAt,byteAt,same]

theorem rowOffset_succ (l : Layout) (row : Nat) :
    l.rowOffset (row + 1) = (l.rowOffset row + l.columnOffset) % words := by
  rw [Layout.rowOffset,Layout.rowOffset,Nat.mod_add_mod,Nat.succ_mul,Nat.add_assoc]

/-- The start of the next row is read where the row's end is. -/
theorem read32Row_next (image : Bytes) (l : Layout) (row : Nat) :
    read32Row image l.columnOffset (l.rowOffset row) = read32Row image 0 (l.rowOffset (row + 1)) := by
  have moved (more : Nat) : byteAt image (l.rowOffset row + l.columnOffset + more) =
      byteAt image (l.rowOffset (row + 1) + 0 + more) := by
    apply byteAt_congr
    rw [rowOffset_succ,Nat.add_zero,Nat.mod_add_mod]
  have back : byteAt image (l.rowOffset row + l.columnOffset + words - 1) =
      byteAt image (l.rowOffset (row + 1) + 0 + words - 1) := by
    rw [Nat.add_sub_assoc (by decide : 1 ≤ words),Nat.add_sub_assoc (by decide : 1 ≤ words)]
    exact moved (words - 1)
  have here : byteAt image (l.rowOffset row + l.columnOffset) = byteAt image (l.rowOffset (row + 1) + 0) :=
    moved 0
  rw [read32Row,read32Row,back,here,moved 1,moved 2]

theorem read128Row_next (image : Bytes) (l : Layout) (row : Nat) :
    read128Row image l.columnOffset (l.rowOffset row) = read128Row image 0 (l.rowOffset (row + 1)) := by
  have moved (i : Nat) : read8Row image (l.columnOffset + (15 - i)) (l.rowOffset row) =
      read8Row image (0 + (15 - i)) (l.rowOffset (row + 1)) := by
    rw [read8Row,read8Row]
    apply byteAt_congr
    rw [rowOffset_succ]
    generalize l.rowOffset row = offset
    simp only [words]
    omega
  simp only [read128Row,moved]

theorem length_mapM {α β : Type} {f : α → Option β} {list : List α} {out : List β}
    (mapped : list.mapM f = some out) : out.length = list.length := by
  induction list generalizing out with
  | nil =>
    obtain rfl : [] = out := by simpa using mapped
    rfl
  | cons a list ih =>
    simp only [List.mapM_cons,Option.bind_eq_bind,Option.bind_eq_some_iff,Option.pure_def,
      Option.some.injEq] at mapped
    obtain ⟨b,-,rest,tail,rfl⟩ := mapped
    rw [List.length_cons,List.length_cons,ih tail]

theorem length_read128Row {image : Bytes} {position memOffset : Nat} {bytes : Bytes}
    (read : read128Row image position memOffset = some bytes) : bytes.length = 16 := by
  rw [length_mapM read,List.length_range]

/-! ## IPv6 addresses as numbers -/

theorem foldl_digits (data : Bytes) (acc : Nat) :
    data.foldl (fun acc b => acc * 256 + b.toNat) acc = acc * 256^data.length + Codec.ofBigEndian data := by
  induction data generalizing acc with
  | nil => simp [Codec.ofBigEndian]
  | cons b data ih =>
    rw [Codec.ofBigEndian,List.foldl_cons,List.foldl_cons,ih,ih (0 * 256 + b.toNat),List.length_cons]
    ring

theorem ofBigEndian_cons (b : UInt8) (data : Bytes) :
    Codec.ofBigEndian (b :: data) = b.toNat * 256^data.length + Codec.ofBigEndian data := by
  rw [Codec.ofBigEndian,List.foldl_cons,Nat.zero_mul,Nat.zero_add]
  exact foldl_digits data b.toNat

theorem ofBigEndian_lt (data : Bytes) : Codec.ofBigEndian data < 256^data.length := by
  induction data with
  | nil => simp [Codec.ofBigEndian]
  | cons b data ih =>
    have digit : b.toNat ≤ 255 := by have := b.toNat_lt; omega
    have power : 256^(data.length + 1) = 255 * 256^data.length + 256^data.length := by ring
    have top : b.toNat * 256^data.length ≤ 255 * 256^data.length := Nat.mul_le_mul_right _ digit
    rw [ofBigEndian_cons,List.length_cons]
    omega

/-- The comparison byte by byte is that of the numbers. -/
theorem ipv6Compare_lt {a b : Bytes} (same : a.length = b.length) :
    ipv6Compare a b < 0 ↔ Codec.ofBigEndian a < Codec.ofBigEndian b := by
  induction a generalizing b with
  | nil =>
    obtain rfl : b = [] := List.eq_nil_of_length_eq_zero same.symm
    simp [ipv6Compare]
  | cons x a ih =>
    cases b with
    | nil => cases same
    | cons y b =>
      have lengths : a.length = b.length := by simpa using same
      have left := ofBigEndian_lt a
      have right := ofBigEndian_lt b
      rw [ipv6Compare,ofBigEndian_cons,ofBigEndian_cons,lengths]
      rw [lengths] at left
      rcases Nat.lt_trichotomy x.toNat y.toNat with less | equal | more
      · have smaller : x < y := UInt8.lt_iff_toNat_lt.mpr less
        have order : ¬ x > y := by
          rw [gt_iff_lt,UInt8.lt_iff_toNat_lt]
          omega
        have gap : (x.toNat + 1) * 256^b.length ≤ y.toNat * 256^b.length := Nat.mul_le_mul_right _ less
        rw [Nat.succ_mul] at gap
        rw [if_neg order,if_pos smaller]
        constructor
        · intro _
          omega
        · intro _
          decide
      · obtain rfl : x = y := UInt8.toNat_inj.mp equal
        have order : ¬ x < x := by
          rw [UInt8.lt_iff_toNat_lt]
          omega
        have rest : (if x > x then 1 else if x < x then -1 else ipv6Compare a b) = ipv6Compare a b := by
          rw [if_neg (show ¬ x > x from order),if_neg order]
        rw [rest,ih lengths]
        omega
      · have larger : x > y := UInt8.lt_iff_toNat_lt.mpr more
        have gap : (y.toNat + 1) * 256^b.length ≤ x.toNat * 256^b.length := Nat.mul_le_mul_right _ more
        rw [Nat.succ_mul] at gap
        rw [if_pos larger]
        constructor
        · intro negative
          exact absurd negative (by decide)
        · intro _
          omega

/-! ## The row that a search ends at -/

section Search

variable {d : Database} {l : Layout} {readStart : Nat → Nat → Option Nat} {mode fuel : Nat}
  {rows : List (Nat × Record)} {stop value : Nat}

theorem Holds.boundary (holds : Holds d l readStart mode rows stop) {i : Nat} (small : i ≤ rows.length) :
    readStart 0 (l.rowOffset i) = some (WordSearch.starts rows stop i) := by
  rcases Nat.lt_or_eq_of_le small with below | rfl
  · have present := List.getElem?_eq_getElem below
    rw [starts_of_row present]
    exact holds.starts i _ present
  · rw [starts_length]
    exact holds.stops

/-- If the window has the row of the value, the search ends there, and its record is read. -/
theorem Holds.searchRows_eq (holds : Holds d l readStart mode rows stop) (inside : value < stop)
    {probe : Nat → Option Side} {low high : Nat}
    (probed : ∀ i < rows.length, probe i =
      some (sideOf (WordSearch.starts rows stop i) (WordSearch.starts rows stop (i + 1)) value))
    (bounded : high ≤ rows.length)
    (window : ∀ i, Cell (WordSearch.starts rows stop) i value → low ≤ i ∧ i ≤ high) (enough : 32 ≤ fuel) :
    ∃ r, lastFrom rows value = some r ∧ searchRows d l mode probe fuel (some (low,high)) = .record r := by
  obtain ⟨r,head⟩ := holds.first
  have zero : WordSearch.starts rows stop 0 ≤ value := by
    rw [starts_of_row head]
    exact Nat.zero_le value
  have last : value < WordSearch.starts rows stop rows.length := by rwa [starts_length]
  obtain ⟨index,below,cell⟩ := cell_exists rows.length zero last
  have present := List.getElem?_eq_getElem below
  have leads := leads_of_ascends (ascends_starts holds.sorted holds.bounded) below cell probed
  obtain ⟨first,final⟩ := window index cell
  have small := holds.small
  have turns : (2 : Nat)^32 ≤ 2^fuel := Nat.pow_le_pow_right (by omega) enough
  have found : search words probe fuel low high = .found index := by
    apply leads.search_found small first final bounded
    simp only [words] at small
    omega
  refine ⟨rows[index].2,lastFrom_of_cell holds.sorted present cell,?_⟩
  simp only [searchRows,found,holds.records index _ present,Lookup.ofRecord]

/-- All rows are searched, or those that the index names. -/
theorem exists_window {indexBaseAddress bucket count : Nat}
    (counted : count = rows.length)
    (index : indexBaseAddress = 0 ∨ ∃ low high,
      searchWindow d.image indexBaseAddress bucket count = some (low,high) ∧ high ≤ rows.length ∧
        ∀ i, Cell (WordSearch.starts rows stop) i value → low ≤ i ∧ i ≤ high)
    (inside : value < stop) :
    ∃ low high, searchWindow d.image indexBaseAddress bucket count = some (low,high) ∧
      high ≤ rows.length ∧ ∀ i, Cell (WordSearch.starts rows stop) i value → low ≤ i ∧ i ≤ high := by
  rcases index with none_ | indexed
  · refine ⟨0,count,by rw [searchWindow,if_pos none_],counted.le,fun i cell => ⟨Nat.zero_le i,?_⟩⟩
    by_contra beyond
    have passed : stop ≤ WordSearch.starts rows stop i := by
      rw [WordSearch.starts,List.getElem?_eq_none (by omega),Option.elim_none]
    exact absurd (passed.trans cell.1) (Nat.not_le.mpr inside)
  · exact indexed

end Search

/-! ## IPv4 -/

section Ipv4

variable {d : Database} {mode fuel : Nat} {rows : List (Nat × Record)}

theorem Holds4.probed (holds : Holds4 d mode rows) (value : Nat) {i : Nat} (below : i < rows.length) :
    ipv4Probe d value i = some (sideOf (WordSearch.starts rows (words - 1) i)
      (WordSearch.starts rows (words - 1) (i + 1)) value) := by
  have start := holds.holds.boundary (i := i) below.le
  have next := holds.holds.boundary (i := i + 1) below
  rw [ipv4Probe,read32Row_next,start,next]
  rfl

/-- The number that is looked up for an address. -/
def ipNumber4 (number : Nat) : Nat := min number (words - 2)

/-- An address has the record of the range it is in. -/
theorem getIpv4Record_eq (holds : Holds4 d mode rows) (enough : 32 ≤ fuel) {number : Nat}
    (address : number < words) :
    ∃ r, lastFrom rows (ipNumber4 number) = some r ∧ getIpv4Record d mode fuel number = .record r := by
  have clamped : (if number = words - 1 then number - 1 else number) = ipNumber4 number := by
    by_cases last : number = words - 1
    · rw [if_pos last,last]
      decide
    · rw [if_neg last,ipNumber4,Nat.min_eq_left]
      omega
  have inside : ipNumber4 number < words - 1 := by
    simp only [ipNumber4,words]
    omega
  obtain ⟨low,high,window,bounded,has⟩ := exists_window holds.count
    (holds.index.imp_right (fun indexed => indexed (ipNumber4 number) inside)) inside
  obtain ⟨r,found,searched⟩ := holds.holds.searchRows_eq inside
    (fun i below => holds.probed (ipNumber4 number) below) bounded has enough
  refine ⟨r,found,?_⟩
  rw [getIpv4Record]
  simp only [clamped,window]
  exact searched

def Database.withoutIndex4 (d : Database) : Database :=
  { d with handler := { d.handler with ipv4IndexBaseAddress := 0 } }

theorem Holds4.withoutIndex (holds : Holds4 d mode rows) : Holds4 d.withoutIndex4 mode rows where
  holds := {
    starts := holds.holds.starts
    stops := holds.holds.stops
    records := holds.holds.records
    sorted := holds.holds.sorted
    bounded := holds.holds.bounded
    first := holds.holds.first
    small := holds.holds.small }
  count := holds.count
  index := .inl rfl

end Ipv4

/-! ## IPv6 -/

section Ipv6

variable {d : Database} {mode fuel : Nat} {rows : List (Nat × Record)} {stop : Nat}

theorem Holds6.probed (holds : Holds6 d mode rows stop) {bytes : Bytes} (long : bytes.length = 16)
    {i : Nat} (below : i < rows.length) :
    ipv6Probe d bytes i = some (sideOf (WordSearch.starts rows stop i)
      (WordSearch.starts rows stop (i + 1)) (Codec.ofBigEndian bytes)) := by
  obtain ⟨ipFrom,start,from_⟩ := Option.map_eq_some_iff.mp (holds.holds.boundary (i := i) below.le)
  obtain ⟨ipTo,next,to_⟩ := Option.map_eq_some_iff.mp (holds.holds.boundary (i := i + 1) below)
  have before := ipv6Compare_lt (long.trans (length_read128Row start).symm)
  have until_ := ipv6Compare_lt (long.trans (length_read128Row next).symm)
  rw [from_] at before
  rw [to_] at until_
  have behind : ipv6Compare bytes ipFrom ≥ 0 ↔ WordSearch.starts rows stop i ≤ Codec.ofBigEndian bytes := by
    rw [ge_iff_le,← Int.not_lt,before,Nat.not_lt]
  rw [ipv6Probe,read128Row_next,start,next]
  simp only [Option.bind_eq_bind,Option.bind_some,Option.pure_def,sideOf,before,behind,until_]

/-- The first two bytes are the number's highest 16 bits. -/
theorem bucket6 {bytes : Bytes} (long : bytes.length = 16) :
    (bytes.getD 0 0).toNat * 256 + (bytes.getD 1 0).toNat = Codec.ofBigEndian bytes / 2^112 := by
  match bytes,long with
  | a :: b :: rest, long =>
    have size : rest.length = 14 := by simpa using long
    have low := ofBigEndian_lt rest
    rw [size] at low
    rw [ofBigEndian_cons,ofBigEndian_cons,List.length_cons,size]
    simp only [List.getD_cons_zero,List.getD_cons_succ]
    omega

/-- An address up to the end of the table has the record of the range it is in. -/
theorem getIpv6Record_eq (holds : Holds6 d mode rows stop) (enough : 32 ≤ fuel) {bytes : Bytes}
    (long : bytes.length = 16) (inside : Codec.ofBigEndian bytes < stop) :
    ∃ r, lastFrom rows (Codec.ofBigEndian bytes) = some r ∧
      getIpv6Record d mode fuel bytes = .record r := by
  obtain ⟨low,high,window,bounded,has⟩ := exists_window holds.count
    (holds.index.imp_right (fun indexed => indexed (Codec.ofBigEndian bytes) inside)) inside
  obtain ⟨r,found,searched⟩ := holds.holds.searchRows_eq inside
    (fun i below => holds.probed long below) bounded has enough
  obtain ⟨_,head⟩ := holds.holds.first
  have some_ : d.handler.ipv6DatabaseCount ≠ 0 := by
    have := (List.getElem?_eq_some_iff.mp head).1
    rw [holds.count]
    omega
  refine ⟨r,found,?_⟩
  rw [getIpv6Record,if_neg some_]
  simp only [bucket6 long,window]
  exact searched

def Database.withoutIndex6 (d : Database) : Database :=
  { d with handler := { d.handler with ipv6IndexBaseAddress := 0 } }

theorem Holds6.withoutIndex (holds : Holds6 d mode rows stop) : Holds6 d.withoutIndex6 mode rows stop where
  holds := {
    starts := holds.holds.starts
    stops := holds.holds.stops
    records := holds.holds.records
    sorted := holds.holds.sorted
    bounded := holds.holds.bounded
    first := holds.holds.first
    small := holds.holds.small }
  count := holds.count
  index := .inl rfl

end Ipv6

/-! ## Any address -/

/-- What `inet_pton` gives: 32 bits, and 16 bytes. -/
structure Inet.Sized (inet : Inet) : Prop where
  ipv4 : ∀ ip number, inet.ipv4 ip = some number → number < words
  ipv6 : ∀ ip bytes, inet.ipv6 ip = some bytes → bytes.length = 16

theorem ofBytes_lt (byte1 byte2 byte3 byte4 : UInt8) : ofBytes byte1 byte2 byte3 byte4 < words := by
  have h1 := byte1.toNat_lt
  have h2 := byte2.toNat_lt
  have h3 := byte3.toNat_lt
  have h4 := byte4.toNat_lt
  simp only [ofBytes,words]
  omega

theorem parseAddress_ipv4 {inet : Inet} (sized : inet.Sized) {ip : Bytes} {number : Nat}
    (parsed : parseAddress inet ip = .ipv4 number) : number < words := by
  rw [parseAddress] at parsed
  split at parsed
  · next found =>
    obtain rfl := IpContainer.ipv4.inj parsed
    exact sized.ipv4 ip _ found
  · split at parsed
    · rw [ofIpv6] at parsed
      split_ifs at parsed
      · obtain rfl := IpContainer.ipv4.inj parsed
        exact ofBytes_lt _ _ _ _
      · obtain rfl := IpContainer.ipv4.inj parsed
        exact ofBytes_lt _ _ _ _
      · obtain rfl := IpContainer.ipv4.inj parsed
        exact (Nat.sub_le _ _).trans_lt (by decide)
    · cases parsed

theorem parseAddress_ipv6 {inet : Inet} (sized : inet.Sized) {ip bytes : Bytes}
    (parsed : parseAddress inet ip = .ipv6 bytes) : bytes.length = 16 := by
  rw [parseAddress] at parsed
  split at parsed
  · cases parsed
  · split at parsed
    · next found =>
      rw [ofIpv6] at parsed
      split_ifs at parsed
      obtain rfl := IpContainer.ipv6.inj parsed
      exact sized.ipv6 ip _ found
    · cases parsed

/-- The tables of both families; a file without IPv6 has no rows for it. -/
structure Tables where
  rows4 : List (Nat × Record)
  rows6 : List (Nat × Record)
  stop6 : Nat

def Database.HoldsTables (d : Database) (mode : Nat) (t : Tables) : Prop :=
  Holds4 d mode t.rows4 ∧
    ((t.rows6 = [] ∧ d.handler.ipv6DatabaseCount = 0) ∨ Holds6 d mode t.rows6 t.stop6)

/-- The address is before the end of the table. -/
def Tables.Covers (t : Tables) : IpContainer → Prop
  | .ipv6 bytes => t.rows6 = [] ∨ Codec.ofBigEndian bytes < t.stop6
  | _ => True

/-- The record of an address, by the tables alone. -/
def Tables.place (t : Tables) : IpContainer → Option Record
  | .ipv4 number => lastFrom t.rows4 (ipNumber4 number)
  | .ipv6 bytes =>
    if t.rows6 = [] then some (badRecord ipv6AddressMissingInIpv4Bin)
    else lastFrom t.rows6 (Codec.ofBigEndian bytes)
  | .invalid => some (badRecord invalidIpAddress)

variable {inet : Inet} {d : Database} {t : Tables} {mode fuel : Nat} {ip : Bytes}

theorem getRecord_eq_place (sized : inet.Sized) (holds : d.HoldsTables mode t) (enough : 32 ≤ fuel)
    (covered : t.Covers (parseAddress inet ip)) :
    ∃ r, t.place (parseAddress inet ip) = some r ∧ getRecord inet d mode fuel ip = .record r := by
  obtain ⟨holds4,holds6⟩ := holds
  rw [getRecord]
  cases parsed : parseAddress inet ip with
  | ipv4 number => exact getIpv4Record_eq holds4 enough (parseAddress_ipv4 sized parsed)
  | ipv6 bytes =>
    rw [parsed] at covered
    have long := parseAddress_ipv6 sized parsed
    rcases holds6 with ⟨empty,zero⟩ | holds6
    · exact ⟨_,if_pos empty,if_pos zero⟩
    · obtain ⟨_,head⟩ := holds6.holds.first
      have some_ : t.rows6 ≠ [] := by
        intro empty
        rw [empty] at head
        cases head
      have counted : d.handler.ipv6DatabaseCount ≠ 0 := by
        rw [holds6.count]
        exact fun zero => some_ (List.eq_nil_of_length_eq_zero zero)
      obtain ⟨r,found,answered⟩ := getIpv6Record_eq holds6 enough long (covered.resolve_left some_)
      exact ⟨r,(if_neg some_).trans found,(if_neg counted).trans answered⟩
  | invalid => exact ⟨_,rfl,rfl⟩

/-- An address that the tables cover is answered with the record that they have for it, after at most
32 rows were read, and nothing outside the file is read. -/
theorem getAll_placed (sized : inet.Sized) (holds : d.HoldsTables allColumns t) (enough : 32 ≤ fuel)
    (covered : t.Covers (parseAddress inet ip)) :
    ∃ r, t.place (parseAddress inet ip) = some r ∧ getAll inet d fuel ip = .record r :=
  getRecord_eq_place sized holds enough covered

/-! ## A small database -/

/-- Two ranges with a country, a region and a city. Its header is at 0, its rows are at 64, its
texts at 100, and whatever is behind them at 118. -/
def smallFile (indexBaseAddress : UInt8) : Bytes :=
  [3,4,20,1,1,2,0,0,0,65,0,0,0,0,0,0,0,0,0,0,0,indexBaseAddress,0,0,0,0,0,0,0,1] ++ List.replicate 34 0 ++
  [0,0,0,0,100,0,0,0,105,0,0,0,107,0,0,0] ++ [0,0,0,1,109,0,0,0,114,0,0,0,116,0,0,0] ++ [255,255,255,255] ++
  [2,85,83,1,85,1,65,1,66] ++ [2,67,65,1,67,1,68,1,69]

def placeRecord (countryShort countryLong region city : Bytes) : Record :=
  { badRecord notSupported with countryShort, countryLong, region, city }

def smallTables : Tables where
  rows4 := [(0,placeRecord [85,83] [85] [65] [66]),(2^24,placeRecord [67,65] [67] [68] [69])]
  rows6 := []
  stop6 := 0

def smallDatabase (indexBaseAddress : UInt8) (rest : Bytes) : Database where
  image := smallFile indexBaseAddress ++ rest
  handler := ⟨3,4,20,2,65,0,0,indexBaseAddress.toNat,0,1⟩

def oneAddress : Inet where
  ipv4 ip := if ip = ascii "1.2.3.4" then some 16909060 else none
  ipv6 _ := none

theorem oneAddress_sized : oneAddress.Sized where
  ipv4 ip number parsed := by
    obtain ⟨-,same⟩ := Option.ite_none_right_eq_some.mp parsed
    obtain rfl := Option.some.inj same
    decide
  ipv6 ip bytes parsed := by cases parsed

/-- The reads that a search in the two ranges needs. -/
def ReadsSmall (d : Database) : Prop :=
  read32Row d.image 0 (d.layout4.rowOffset 0) = some 0 ∧
  read32Row d.image 0 (d.layout4.rowOffset 1) = some (2^24) ∧
  read32Row d.image 0 (d.layout4.rowOffset 2) = some (words - 1) ∧
  readRecord d allColumns (d.layout4.rowOffset 0 + 4) = some (placeRecord [85,83] [85] [65] [66]) ∧
  readRecord d allColumns (d.layout4.rowOffset 1 + 4) = some (placeRecord [67,65] [67] [68] [69])

instance (d : Database) : Decidable (ReadsSmall d) := inferInstanceAs (Decidable (_ ∧ _))

theorem ReadsSmall.holds {d : Database} (reads : ReadsSmall d) :
    Holds d d.layout4 (read32Row d.image) allColumns smallTables.rows4 (words - 1) where
  starts i row present := by
    match i with
    | 0 => obtain rfl := Option.some.inj present; exact reads.1
    | 1 => obtain rfl := Option.some.inj present; exact reads.2.1
    | _ + 2 => cases present
  stops := reads.2.2.1
  records i row present := by
    match i with
    | 0 => obtain rfl := Option.some.inj present; exact reads.2.2.2.1
    | 1 => obtain rfl := Option.some.inj present; exact reads.2.2.2.2
    | _ + 2 => cases present
  sorted := by simp [smallTables]
  bounded := by decide
  first := ⟨_,rfl⟩
  small := by decide

theorem smallDatabase_holds : (smallDatabase 0 []).HoldsTables allColumns smallTables :=
  ⟨⟨ReadsSmall.holds (by decide +kernel),rfl,.inl rfl⟩,.inl ⟨rfl,rfl⟩⟩

theorem getAll_placed_small :
    ∃ r, smallTables.place (.ipv4 16909060) = some r ∧
      getAll oneAddress (smallDatabase 0 []) 32 (ascii "1.2.3.4") = .record r :=
  getAll_placed oneAddress_sized smallDatabase_holds (le_refl 32)
    (show smallTables.Covers (parseAddress oneAddress (ascii "1.2.3.4")) from trivial)

/-! ## The index -/

def Database.withoutIndex (d : Database) : Database :=
  { d with handler := { d.handler with ipv4IndexBaseAddress := 0, ipv6IndexBaseAddress := 0 } }

theorem HoldsTables.withoutIndex (holds : d.HoldsTables mode t) : d.withoutIndex.HoldsTables mode t :=
  ⟨⟨⟨holds.1.holds.starts,holds.1.holds.stops,holds.1.holds.records,holds.1.holds.sorted,
      holds.1.holds.bounded,holds.1.holds.first,holds.1.holds.small⟩,holds.1.count,.inl rfl⟩,
    holds.2.imp id (fun six => ⟨⟨six.holds.starts,six.holds.stops,six.holds.records,six.holds.sorted,
      six.holds.bounded,six.holds.first,six.holds.small⟩,six.count,.inl rfl⟩)⟩

/-- The index does not change what is found for an address that the tables cover. -/
theorem index_transparent (sized : inet.Sized) (holds : d.HoldsTables mode t) (enough : 32 ≤ fuel)
    (covered : t.Covers (parseAddress inet ip)) :
    getRecord inet d mode fuel ip = getRecord inet d.withoutIndex mode fuel ip := by
  obtain ⟨r,placed,found⟩ := getRecord_eq_place sized holds enough covered
  obtain ⟨r',placed',found'⟩ := getRecord_eq_place sized (HoldsTables.withoutIndex holds) enough covered
  obtain rfl := Option.some.inj (placed.symm.trans placed')
  rw [found,found']

/-- An index that names all rows for every bucket. -/
def fullIndex : Bytes := (List.range (2^16 * 8)).map (fun i => if i % 8 = 4 then 2 else 0)

theorem byteAt_fullIndex {i : Nat} (small : i < 2^16 * 8) :
    byteAt (smallDatabase 119 fullIndex).image (118 + i) = some (if i % 8 = 4 then 2 else 0) := by
  have size : (smallFile 119).length = 118 := by decide
  have plain : (118 + i) % words = 118 + i := Nat.mod_eq_of_lt (by simp only [words]; omega)
  rw [byteAt,plain,smallDatabase,List.getElem?_append_right (by omega),size,Nat.add_sub_cancel_left,
    fullIndex,List.getElem?_map,List.getElem?_range small]
  rfl

theorem fullIndex_window {bucket : Nat} (small : bucket < 2^16) :
    searchWindow (smallDatabase 119 fullIndex).image 119 bucket 2 = some (0,2) := by
  have here : (119 + bucket * 8) % words = 119 + bucket * 8 := Nat.mod_eq_of_lt (by simp only [words]; omega)
  have entry (j : Nat) (inside : j < 8) : byteAt (smallDatabase 119 fullIndex).image (118 + bucket * 8 + j) =
      some (if j = 4 then 2 else 0) := by
    rw [Nat.add_assoc,byteAt_fullIndex (by omega),Nat.mul_add_mod_self_right,Nat.mod_eq_of_lt inside]
  have wrapped (j : Nat) (inside : j < 8) :
      byteAt (smallDatabase 119 fullIndex).image (119 + bucket * 8 + j + words - 1) =
        some (if j = 4 then 2 else 0) := by
    rw [← entry j inside]
    apply byteAt_congr
    rw [show 119 + bucket * 8 + j + words - 1 = 118 + bucket * 8 + j + words by omega,Nat.add_mod_right]
  have low : read32Row (smallDatabase 119 fullIndex).image 0 (119 + bucket * 8) = some 0 := by
    rw [read32Row,wrapped 0 (by omega),
      show 119 + bucket * 8 + 0 = 118 + bucket * 8 + 1 by omega,
      show 118 + bucket * 8 + 1 + 1 = 118 + bucket * 8 + 2 by omega,
      show 118 + bucket * 8 + 1 + 2 = 118 + bucket * 8 + 3 by omega,
      entry 1 (by omega),entry 2 (by omega),entry 3 (by omega)]
    rfl
  have high : read32Row (smallDatabase 119 fullIndex).image 4 (119 + bucket * 8) = some 2 := by
    rw [read32Row,wrapped 4 (by omega),
      show 119 + bucket * 8 + 4 = 118 + bucket * 8 + 5 by omega,
      show 118 + bucket * 8 + 5 + 1 = 118 + bucket * 8 + 6 by omega,
      show 118 + bucket * 8 + 5 + 2 = 118 + bucket * 8 + 7 by omega,
      entry 5 (by omega),entry 6 (by omega),entry 7 (by omega)]
    rfl
  rw [searchWindow,if_neg (by decide)]
  simp only [here,low,high]
  rfl

theorem index_transparent_small :
    getRecord oneAddress (smallDatabase 119 fullIndex) allColumns 32 (ascii "1.2.3.4") =
      getRecord oneAddress (smallDatabase 119 fullIndex).withoutIndex allColumns 32 (ascii "1.2.3.4") := by
  have holds : (smallDatabase 119 fullIndex).HoldsTables allColumns smallTables := by
    refine ⟨⟨ReadsSmall.holds (by decide +kernel),rfl,.inr ?_⟩,.inl ⟨rfl,rfl⟩⟩
    intro value below
    have bucket : value / 2^16 < 2^16 := by simp only [words] at below; omega
    refine ⟨0,2,fullIndex_window bucket,le_refl 2,fun i cell => ⟨Nat.zero_le i,?_⟩⟩
    by_contra beyond
    have passed : words - 1 ≤ WordSearch.starts smallTables.rows4 (words - 1) i := by
      rw [WordSearch.starts,List.getElem?_eq_none (by simp only [smallTables,List.length_cons,List.length_nil]; omega),
        Option.elim_none]
    exact absurd (passed.trans cell.1) (Nat.not_le.mpr below)
  exact index_transparent oneAddress_sized holds (le_refl 32) trivial

end MiniPP.GeoIp
