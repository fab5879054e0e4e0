import Mathlib.Data.List.TakeWhile
import MiniPP.GeoIp.Places

/-! The region of an address: the list of the known regions, read once from a file, and the place
that the database gives for the address, matched by the names of its country and its state. -/
namespace MiniPP.GeoIp

open WordSearch

/-- `xGeoInfo`. -/
structure GeoInfo where
  countryId : Nat
  stateId : Nat
  cityId : Nat
  deriving DecidableEq, Repr

/-- A string as far as a C string of it goes. -/
def cString (text : Bytes) : Bytes := text.takeWhile (· ≠ 0)

/-- A `char`, which has a sign, as a `uint32_t`. -/
def charWord (c : UInt8) : Nat := if c < 128 then c.toNat else words - 256 + c.toNat

/-- `CountryCodeToCountryId`. -/
def countryCodeToCountryId (cc : Bytes) : Nat :=
  match cString cc with
  | [a,b] => (charWord a * 2^8 + charWord b) % words
  | _ => 0

/-- `MakeCombinedStateName`. -/
def makeCombinedStateName (countryName stateName : Bytes) : Bytes := countryName ++ [58] ++ stateName

/-! ## The list of regions -/

/-- The columns `COUNTRY_ALPHA2_CODE` and `REGION_NAME` of the file. -/
abbrev RegionList := List (Bytes × Bytes)

/-- The known regions; `cityIdToReginInfoMap` is given by its keys. -/
structure KnownRegions where
  knownGeoInfoList : List GeoInfo
  cityIdToReginInfoMap : List Nat
  stateNameToRegionIdMap : Bytes → Option Nat

def KnownRegions.empty : KnownRegions := ⟨[],[],fun _ => none⟩

/-- A turn of the loop, for line `i`. -/
def KnownRegions.addLine (k : KnownRegions) (i : Nat) (line : Bytes × Bytes) : KnownRegions :=
  let countryId := countryCodeToCountryId line.1
  if countryId = 0 then k
  else {
    knownGeoInfoList := k.knownGeoInfoList ++ [⟨countryId,i,i⟩]
    cityIdToReginInfoMap := if i ∈ k.cityIdToReginInfoMap then k.cityIdToReginInfoMap
      else i :: k.cityIdToReginInfoMap
    stateNameToRegionIdMap := Function.update k.stateNameToRegionIdMap
      (makeCombinedStateName line.1 line.2) (some i) }

def KnownRegions.addLines (k : KnownRegions) (i : Nat) : RegionList → KnownRegions
  | [] => k
  | line :: rest => (k.addLine i line).addLines (i + 1) rest

/-- `InitKnownGeoInfoList`; `none` is an assertion that fails. The last assertion, that there are no
more names than rows, cannot fail before the others. -/
def initKnownGeoInfoList (rows : RegionList) : Option KnownRegions :=
  let k := KnownRegions.empty.addLines 0 rows
  if rows.length = k.knownGeoInfoList.length ∧ rows.length = k.cityIdToReginInfoMap.length then some k
  else none

/-! ## The database of regions -/

/-- `xIpDb`, after `Init`. -/
structure IpDb where
  regions : KnownRegions
  database : Database

/-- `xIpDb::Init`. -/
def IpDb.init (rows : RegionList) (file : Option Bytes) : Option IpDb := do
  let regions ← initKnownGeoInfoList rows
  let database ← Database.openFile file
  return ⟨regions,database⟩

/-- What `xIpDb::Get` ends with: an answer, or the end of the program in a bad read or in an
assertion, or nothing while the search goes on. -/
inductive Answer where
  | region (info : Option GeoInfo)
  | outside
  | running
  deriving DecidableEq, Repr

/-- `xIpDb::Get`. A record always has a country. -/
def IpDb.get (inet : Inet) (db : IpDb) (fuel : Nat) (ip : Bytes) : Answer :=
  match getAll inet db.database fuel ip with
  | .record r =>
    let combinedStateName := makeCombinedStateName (cString r.countryShort) (cString r.region)
    match db.regions.stateNameToRegionIdMap combinedStateName with
    | none => .region none
    | some index =>
      match db.regions.knownGeoInfoList[index]? with
      | some info => .region (some info)
      | none => .outside
  | .null => .region none
  | .outside => .outside
  | .running => .running

/-- `xCC_IpLocationManager::GetRegionByIp`: the blank region where there is none. -/
def getRegionByIp (inet : Inet) (db : IpDb) (fuel : Nat) (ip : Bytes) : Option GeoInfo :=
  match db.get inet fuel ip with
  | .region info => some (info.getD ⟨0,0,0⟩)
  | _ => none

/-! ## The lines and the maps -/

/-- The maps are those of the lines: each has its region under its number, and a name leads to the
last line that has it. -/
structure KnownRegions.Of (k : KnownRegions) (rows : RegionList) : Prop where
  codes : ∀ line ∈ rows, countryCodeToCountryId line.1 ≠ 0
  infos : k.knownGeoInfoList = rows.mapIdx (fun i line => ⟨countryCodeToCountryId line.1,i,i⟩)
  names : ∀ name i, k.stateNameToRegionIdMap name = some i ↔
    (∃ line, rows[i]? = some line ∧ makeCombinedStateName line.1 line.2 = name) ∧
      ∀ j line, i < j → rows[j]? = some line → makeCombinedStateName line.1 line.2 ≠ name

theorem of_empty : KnownRegions.empty.Of [] where
  codes line member := by cases member
  infos := rfl
  names name i := by simp [KnownRegions.empty]

theorem length_addLines_le (k : KnownRegions) (i : Nat) (rows : RegionList) :
    (k.addLines i rows).knownGeoInfoList.length ≤ k.knownGeoInfoList.length + rows.length := by
  induction rows generalizing k i with
  | nil => exact Nat.le_refl _
  | cons line rows ih =>
    have step : (k.addLine i line).knownGeoInfoList.length ≤ k.knownGeoInfoList.length + 1 := by
      rw [KnownRegions.addLine]
      split
      · omega
      · simp
    have rest := ih (k.addLine i line) (i + 1)
    rw [KnownRegions.addLines,List.length_cons]
    omega

theorem KnownRegions.Of.addLine {k : KnownRegions} {rows : RegionList} (of : k.Of rows)
    {line : Bytes × Bytes} (valid : countryCodeToCountryId line.1 ≠ 0) :
    (k.addLine rows.length line).Of (rows ++ [line]) where
  codes other member := by
    rcases List.mem_append.mp member with old | new
    · exact of.codes other old
    · obtain rfl := List.mem_singleton.mp new
      exact valid
  infos := by
    simp only [KnownRegions.addLine,if_neg valid,of.infos,List.mapIdx_append,List.mapIdx_cons,
      List.mapIdx_nil,Nat.zero_add]
  names name i := by
    simp only [KnownRegions.addLine,if_neg valid]
    by_cases same : name = makeCombinedStateName line.1 line.2
    · subst same
      rw [Function.update_self]
      constructor
      · intro here
        obtain rfl := Option.some.inj here
        refine ⟨⟨line,by simp,rfl⟩,fun j other more present => ?_⟩
        rw [List.getElem?_eq_none (by simp; omega)] at present
        cases present
      · rintro ⟨⟨other,present,-⟩,last⟩
        have bound := (List.getElem?_eq_some_iff.mp present).1
        rw [List.length_append,List.length_singleton] at bound
        rcases Nat.lt_or_ge i rows.length with less | least
        · exact absurd rfl (last rows.length line less (by simp))
        · have : i = rows.length := by omega
          rw [this]
    · rw [Function.update_of_ne same,of.names name i]
      constructor
      · rintro ⟨⟨other,present,named⟩,last⟩
        refine ⟨⟨other,?_,named⟩,fun j later more there => ?_⟩
        · rw [List.getElem?_append_left (List.getElem?_eq_some_iff.mp present).1]
          exact present
        · rcases Nat.lt_or_ge j rows.length with less | least
          · rw [List.getElem?_append_left less] at there
            exact last j later more there
          · rw [List.getElem?_append_right least] at there
            obtain rfl : line = later := by
              have := List.mem_of_getElem? there
              exact (List.mem_singleton.mp this).symm
            exact fun equal => same equal.symm
      · rintro ⟨⟨other,present,named⟩,last⟩
        have before : i < rows.length := by
          by_contra beyond
          rw [List.getElem?_append_right (Nat.not_lt.mp beyond)] at present
          obtain rfl := List.mem_singleton.mp (List.mem_of_getElem? present)
          exact same named.symm
        rw [List.getElem?_append_left before] at present
        refine ⟨⟨other,present,named⟩,fun j later more there => ?_⟩
        apply last j later more
        rw [List.getElem?_append_left (List.getElem?_eq_some_iff.mp there).1]
        exact there

/-- As many regions as lines are known only if every line has one. -/
theorem of_addLines {k : KnownRegions} {rows rest : RegionList} (of : k.Of rows)
    (all : rows.length + rest.length ≤ (k.addLines rows.length rest).knownGeoInfoList.length) :
    (k.addLines rows.length rest).Of (rows ++ rest) := by
  induction rest generalizing k rows with
  | nil => simpa [KnownRegions.addLines] using of
  | cons line rest ih =>
    have known : k.knownGeoInfoList.length = rows.length := by rw [of.infos,List.length_mapIdx]
    have bound := length_addLines_le (k.addLine rows.length line) (rows.length + 1) rest
    rw [KnownRegions.addLines,List.length_cons] at all
    have valid : countryCodeToCountryId line.1 ≠ 0 := by
      intro zero
      rw [KnownRegions.addLine] at all bound
      simp only [zero,if_true] at all bound
      omega
    have next : ((k.addLine rows.length line).addLines (rows ++ [line]).length rest).Of
        ((rows ++ [line]) ++ rest) :=
      ih (of.addLine valid) (by simpa [Nat.add_assoc,Nat.add_comm 1] using all)
    simpa [KnownRegions.addLines] using next

theorem of_initKnownGeoInfoList {rows : RegionList} {k : KnownRegions}
    (init : initKnownGeoInfoList rows = some k) : k.Of rows := by
  rw [initKnownGeoInfoList] at init
  split at init
  · next counted =>
    obtain rfl := Option.some.inj init
    have of : (KnownRegions.empty.addLines 0 rows).Of ([] ++ rows) :=
      of_addLines of_empty (by simpa using counted.1.le)
    simpa using of
  · cases init

/-! ## Names -/

theorem cString_noZero (text : Bytes) : 0 ∉ cString text := by
  intro member
  exact absurd (List.mem_takeWhile_imp member) (by decide)

theorem cString_eq {text : Bytes} (plain : 0 ∉ text) : cString text = text := by
  rw [cString,List.takeWhile_eq_self_iff]
  intro b member
  have other : b ≠ 0 := fun zero => plain (zero ▸ member)
  simpa using other

/-- A country of the list has a code of two characters, and nothing behind them but what a C string
does not see. -/
theorem code_length {cc : Bytes} (valid : countryCodeToCountryId cc ≠ 0) : (cString cc).length = 2 := by
  rw [countryCodeToCountryId] at valid
  split at valid
  · next two => rw [two]; rfl
  · exact absurd rfl valid

/-- No other name is the name of a line: the country of one is its first two characters. -/
theorem combined_eq {line : Bytes × Bytes} (valid : countryCodeToCountryId line.1 ≠ 0)
    {country state : Bytes} (plain : 0 ∉ makeCombinedStateName country state)
    (short : country.length = 2 ∨ ∃ c rest, country.drop 2 = c :: rest ∧ c ≠ 58) :
    makeCombinedStateName line.1 line.2 = makeCombinedStateName country state ↔
      line = (country,state) := by
  constructor
  · intro same
    have plain' : 0 ∉ line.1 := by
      intro zero
      apply plain
      rw [← same,makeCombinedStateName]
      simp [zero]
    have two := code_length valid
    rw [cString_eq plain'] at two
    rw [makeCombinedStateName,makeCombinedStateName,List.append_assoc,List.append_assoc] at same
    rcases short with short | ⟨c,rest,third,other⟩
    · obtain ⟨first,second⟩ := List.append_inj same (two.trans short.symm)
      exact Prod.ext first (List.cons.inj second).2
    · have tails := congrArg (List.drop 2) same
      have longer : 2 ≤ country.length := by
        by_contra less
        rw [List.drop_eq_nil_of_le (by omega)] at third
        cases third
      rw [List.drop_append_of_le_length two.ge,List.drop_append_of_le_length longer,third,
        List.drop_eq_nil_of_le two.le] at tails
      exact absurd (List.cons.inj tails).1.symm other
  · rintro rfl
    rfl

/-! ## The region of an address -/

/-- The last line of the list with this country and this state. -/
def LastLine (rows : RegionList) (country state : Bytes) (i : Nat) : Prop :=
  rows[i]? = some (country,state) ∧ ∀ j, i < j → rows[j]? ≠ some (country,state)

/-- Every range has a country of two characters. -/
def Tables.TwoLetters (t : Tables) : Prop :=
  ∀ row ∈ t.rows4 ++ t.rows6, (cString row.2.countryShort).length = 2

instance (t : Tables) : Decidable t.TwoLetters := inferInstanceAs (Decidable (∀ _ ∈ _, _))

variable {inet : Inet} {t : Tables} {ip : Bytes} {fuel : Nat}

theorem place_short (letters : t.TwoLetters) {address : IpContainer} {r : Record}
    (placed : t.place address = some r) :
    (cString r.countryShort).length = 2 ∨ ∃ c rest, (cString r.countryShort).drop 2 = c :: rest ∧ c ≠ 58 := by
  have of_row {rows : List (Nat × Record)} {value : Nat} (sub : ∀ row ∈ rows, row ∈ t.rows4 ++ t.rows6)
      (found : lastFrom rows value = some r) : (cString r.countryShort).length = 2 := by
    obtain ⟨row,member,rfl⟩ := mem_of_lastFrom found
    exact letters row (sub row member)
  cases address with
  | ipv4 number => exact .inl (of_row (fun row member => List.mem_append_left _ member) placed)
  | ipv6 bytes =>
    rw [Tables.place] at placed
    split at placed
    · obtain rfl := Option.some.inj placed
      exact .inr ⟨86,ascii "6 ADDRESS MISSING IN IPV4 BIN",by decide,by decide⟩
    · exact .inl (of_row (fun row member => List.mem_append_right _ member) placed)
  | invalid =>
    obtain rfl := Option.some.inj placed
    exact .inr ⟨86,ascii "ALID IP ADDRESS",by decide,by decide⟩

/-- The region under a name of the maps, by the lines. -/
theorem KnownRegions.Of.lookup {k : KnownRegions} {rows : RegionList} (of : k.Of rows)
    {country state : Bytes} (plain : 0 ∉ makeCombinedStateName country state)
    (short : country.length = 2 ∨ ∃ c rest, country.drop 2 = c :: rest ∧ c ≠ 58) (i : Nat) :
    k.stateNameToRegionIdMap (makeCombinedStateName country state) = some i ↔
      LastLine rows country state i := by
  have named {j : Nat} {line : Bytes × Bytes} (present : rows[j]? = some line) :
      makeCombinedStateName line.1 line.2 = makeCombinedStateName country state ↔ line = (country,state) :=
    combined_eq (of.codes line (List.mem_of_getElem? present)) plain short
  rw [of.names]
  constructor
  · rintro ⟨⟨line,present,same⟩,last⟩
    obtain rfl := (named present).mp same
    exact ⟨present,fun j later there => last j _ later there rfl⟩
  · rintro ⟨present,last⟩
    refine ⟨⟨_,present,rfl⟩,fun j line later there same => ?_⟩
    obtain rfl := (named there).mp same
    exact last j later there

theorem KnownRegions.Of.info {k : KnownRegions} {rows : RegionList} (of : k.Of rows) {i : Nat}
    {line : Bytes × Bytes} (present : rows[i]? = some line) :
    k.knownGeoInfoList[i]? = some ⟨countryCodeToCountryId line.1,i,i⟩ := by
  rw [of.infos,List.getElem?_mapIdx,present,Option.map_some]

/-- The region of an address is that of the last line with the country and the state of the range
that has the address. -/
theorem get_eq {rows : RegionList} {db : IpDb} (sized : inet.Sized) (of : db.regions.Of rows)
    (holds : db.database.HoldsTables allColumns t) (letters : t.TwoLetters) (enough : 32 ≤ fuel)
    (covered : t.Covers (parseAddress inet ip)) :
    ∃ r info, t.place (parseAddress inet ip) = some r ∧ db.get inet fuel ip = .region info ∧
      ∀ g, info = some g ↔ ∃ i, LastLine rows (cString r.countryShort) (cString r.region) i ∧
        g = ⟨countryCodeToCountryId (cString r.countryShort),i,i⟩ := by
  obtain ⟨r,placed,found⟩ := getRecord_eq_place sized holds enough covered
  have plain : 0 ∉ makeCombinedStateName (cString r.countryShort) (cString r.region) := by
    simp only [makeCombinedStateName,List.mem_append,List.mem_singleton,not_or]
    exact ⟨⟨cString_noZero _,by decide⟩,cString_noZero _⟩
  have lookup := of.lookup plain (place_short letters placed)
  refine ⟨r,(db.regions.stateNameToRegionIdMap
    (makeCombinedStateName (cString r.countryShort) (cString r.region))).map (fun i =>
      ⟨countryCodeToCountryId (cString r.countryShort),i,i⟩),placed,?_,?_⟩
  · rw [IpDb.get,getAll,found]
    dsimp only
    cases named : db.regions.stateNameToRegionIdMap
        (makeCombinedStateName (cString r.countryShort) (cString r.region)) with
    | none => rfl
    | some i =>
      have info := of.info ((lookup i).mp named).1
      simp only [info,Option.map_some]
  · intro g
    rw [Option.map_eq_some_iff]
    constructor
    · rintro ⟨i,named,rfl⟩
      exact ⟨i,(lookup i).mp named,rfl⟩
    · rintro ⟨i,last,rfl⟩
      exact ⟨i,(lookup i).mpr last,rfl⟩

/-- Once the list of regions and the database are loaded, every address that the tables cover is
answered: with the region of the last line that names the country and the state of its range, and
without one only if no line does. -/
theorem region_of_address {rows : RegionList} {file : Option Bytes} {db : IpDb}
    (loaded : IpDb.init rows file = some db) (sized : inet.Sized)
    (holds : db.database.HoldsTables allColumns t) (letters : t.TwoLetters) (enough : 32 ≤ fuel)
    (covered : t.Covers (parseAddress inet ip)) :
    ∃ r info, t.place (parseAddress inet ip) = some r ∧ db.get inet fuel ip = .region info ∧
      ∀ g, info = some g ↔ ∃ i, LastLine rows (cString r.countryShort) (cString r.region) i ∧
        g = ⟨countryCodeToCountryId (cString r.countryShort),i,i⟩ := by
  obtain ⟨regions,known,rest⟩ := Option.bind_eq_some_iff.mp loaded
  obtain ⟨database,-,same⟩ := Option.bind_eq_some_iff.mp rest
  obtain rfl := Option.some.inj same
  exact get_eq sized (of_initKnownGeoInfoList known) holds letters enough covered

def smallRegions : RegionList := [([85,83],[65]),([67,65],[68]),([85,83],[65])]

def smallIpDb : IpDb where
  regions := KnownRegions.empty.addLines 0 smallRegions
  database := ⟨smallFile 0,initializeHandler (smallFile 0)⟩

theorem smallIpDb_loaded : IpDb.init smallRegions (some (smallFile 0)) = some smallIpDb := by
  have known : initKnownGeoInfoList smallRegions = some smallIpDb.regions := by
    rw [initKnownGeoInfoList]
    exact if_pos (by decide)
  have opened : Database.openFile (some (smallFile 0)) = some smallIpDb.database := by decide +kernel
  rw [IpDb.init,known,opened]
  rfl

theorem smallIpDb_holds : smallIpDb.database.HoldsTables allColumns smallTables :=
  ⟨⟨ReadsSmall.holds (by decide +kernel),by decide +kernel,.inl (by decide +kernel)⟩,
    .inl ⟨rfl,by decide +kernel⟩⟩

theorem region_of_address_small :
    ∃ r info, smallTables.place (.ipv4 16909060) = some r ∧
      smallIpDb.get oneAddress 32 (ascii "1.2.3.4") = .region info ∧
      ∀ g, info = some g ↔ ∃ i, LastLine smallRegions (cString r.countryShort) (cString r.region) i ∧
        g = ⟨countryCodeToCountryId (cString r.countryShort),i,i⟩ :=
  region_of_address smallIpDb_loaded oneAddress_sized smallIpDb_holds (by decide +kernel) (le_refl 32)
    (show smallTables.Covers (parseAddress oneAddress (ascii "1.2.3.4")) from trivial)

example : smallIpDb.get oneAddress 32 (ascii "1.2.3.4") = .region (some ⟨17217,1,1⟩) := by decide +kernel

end MiniPP.GeoIp
