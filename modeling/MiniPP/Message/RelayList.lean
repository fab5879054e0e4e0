import MiniPP.Message.Members

/-! The list of the relays, which a proxy-access server downloads page by page. -/
namespace MiniPP.Message

/-- `xCC_PA_RelayServerInfo`. -/
structure RelayServerInfo where
  runtimeServerId : Nat
  sourcePoolId : Nat
  exportProxyAddress : NetAddress
  deriving DecidableEq, Repr

def RelayServerInfo.members (s : RelayServerInfo) : List Field :=
  [.u32 s.runtimeServerId,.u16 s.sourcePoolId,.address s.exportProxyAddress]

def RelayServerInfo.reads (x : MessageFormat) : Reads RelayServerInfo := do
  return { runtimeServerId := ← x.read .u32, sourcePoolId := ← x.read .u16
           exportProxyAddress := ← x.read .address }

/-! ## The page that is written -/

/-- `xCC_PA_DownloadRelayServerListRespWriter`. -/
structure DownloadRelayServerListRespWriter where
  version : Nat
  startIndex : Nat
  totalServerList : List RelayServerInfo
  deriving DecidableEq, Repr

namespace DownloadRelayServerListRespWriter

def maxServerInfoCountPerDownload : Nat := 100

variable (m : DownloadRelayServerListRespWriter)

def total : Nat := m.totalServerList.length % 2^32

def endIndex : Nat := min ((m.startIndex + maxServerInfoCountPerDownload) % 2^32) m.total

/-- The difference of two 32-bit integers. -/
def count : Nat := (m.endIndex + 2^32 - m.startIndex) % 2^32

/-- From the start index up to the end index. -/
def page : List RelayServerInfo :=
  (m.totalServerList.drop m.startIndex).take (m.endIndex - m.startIndex)

/-- `none` is a failed assertion. -/
def serializeMembers : Option (List Field) :=
  if m.startIndex < m.total then
    some (.u32 m.version :: .u32 m.total :: .u32 m.startIndex :: .u32 m.count ::
      m.page.flatMap RelayServerInfo.members)
  else none

end DownloadRelayServerListRespWriter

/-! ## The page that is read -/

/-- `xCC_PA_DownloadRelayServerListRespReader`. -/
structure DownloadRelayServerListRespReader where
  version : Nat
  total : Nat
  startIndex : Nat
  count : Nat
  localServerList : List RelayServerInfo
  deriving DecidableEq, Repr

namespace DownloadRelayServerListRespReader

def deserializeMembers (x : MessageFormat) : Reads DownloadRelayServerListRespReader := do
  let version ← x.read .u32
  let total ← x.read .u32
  let startIndex ← x.read .u32
  let count ← x.read .u32
  return { version, total, startIndex, count
           localServerList := ← Format.times (RelayServerInfo.reads x) count }

def getNextStartIndex (r : DownloadRelayServerListRespReader) : Nat := (r.startIndex + r.count) % 2^32

end DownloadRelayServerListRespReader

/-- Asks for pages until the next one would start behind the list. `none` is a failed
assertion, a page that does not fit or cannot be read, or the end of the fuel. -/
def downloadPages (x : MessageFormat) (version : Nat) (list : List RelayServerInfo) :
    Nat → Nat → Option (List DownloadRelayServerListRespReader)
  | 0, _ => none
  | fuel + 1, startIndex => do
    let ms ← DownloadRelayServerListRespWriter.serializeMembers ⟨version,startIndex,list⟩
    let data ← x.packet ms
    let (r,_) ← (DownloadRelayServerListRespReader.deserializeMembers x).run data
    if r.getNextStartIndex = r.total then return [r]
    else return r :: (← downloadPages x version list fuel r.getNextStartIndex)

/-! ## One page -/

theorem RelayServerInfo.delivers (x : MessageFormat) (s : RelayServerInfo) :
    x.Delivers (RelayServerInfo.reads x) s.members s := by
  repeat apply Format.Delivers.next
  exact .pure s

theorem RelayServerInfo.size (x : SizedFormat) {s : RelayServerInfo}
    (inRange : MessageFormat.InRange s.members) : (x.serialize s.members).length ≤ 30 := by
  have runtimeServerId := x.length_u32 s.runtimeServerId
  have sourcePoolId := x.u16_size s.sourcePoolId
  have address := x.address_size s.exportProxyAddress
    (inRange (.address s.exportProxyAddress) (by simp [members]))
  simp only [members,Format.serialize_cons,Format.serialize_nil,Format.write,List.length_append,
    List.length_nil]
  omega

namespace DownloadRelayServerListRespWriter

variable {m : DownloadRelayServerListRespWriter}

theorem total_eq (small : m.totalServerList.length < 2^32 - 100) :
    m.total = m.totalServerList.length :=
  Nat.mod_eq_of_lt (by omega)

theorem endIndex_eq (small : m.totalServerList.length < 2^32 - 100)
    (inside : m.startIndex < m.totalServerList.length) :
    m.endIndex = min (m.startIndex + 100) m.totalServerList.length := by
  have next : (m.startIndex + maxServerInfoCountPerDownload) % 2^32 = m.startIndex + 100 :=
    Nat.mod_eq_of_lt (show m.startIndex + 100 < 2^32 by omega)
  rw [endIndex,next,total_eq small]

theorem count_eq (small : m.totalServerList.length < 2^32 - 100)
    (inside : m.startIndex < m.totalServerList.length) :
    m.count = min 100 (m.totalServerList.length - m.startIndex) := by
  rw [count,endIndex_eq small inside]
  omega

theorem page_eq (small : m.totalServerList.length < 2^32 - 100)
    (inside : m.startIndex < m.totalServerList.length) :
    m.page = (m.totalServerList.drop m.startIndex).take m.count := by
  have length : m.endIndex - m.startIndex = m.count := by
    rw [count_eq small inside,endIndex_eq small inside]
    omega
  rw [page,length]

theorem length_page (small : m.totalServerList.length < 2^32 - 100)
    (inside : m.startIndex < m.totalServerList.length) : m.page.length = m.count := by
  rw [page_eq small inside,List.length_take,List.length_drop,count_eq small inside]
  omega

/-- The message that the page is read as. -/
def received (m : DownloadRelayServerListRespWriter) : DownloadRelayServerListRespReader :=
  ⟨m.version,m.total,m.startIndex,m.count,m.page⟩

theorem mem_page {s : RelayServerInfo} (member : s ∈ m.page) : s ∈ m.totalServerList :=
  List.mem_of_mem_drop (List.mem_of_mem_take member)

theorem delivers (x : MessageFormat) (length : m.page.length = m.count) :
    x.Delivers (DownloadRelayServerListRespReader.deserializeMembers x)
      (.u32 m.version :: .u32 m.total :: .u32 m.startIndex :: .u32 m.count ::
        m.page.flatMap RelayServerInfo.members) m.received := by
  iterate 4 apply Format.Delivers.next
  rw [← length,← List.append_nil (m.page.flatMap RelayServerInfo.members)]
  have list := Format.Delivers.times (RelayServerInfo.delivers x) m.page
  have same : m.received = ⟨m.version,m.total,m.startIndex,m.page.length,m.page⟩ := by
    rw [received,length]
  rw [same]
  exact list.bind (.pure _)

/-- A page that starts inside the list is sent, and is read as it is; up to a hundred servers
fit in a packet. -/
theorem sent (x : SizedFormat) (small : m.totalServerList.length < 2^32 - 100)
    (inside : m.startIndex < m.totalServerList.length) (version : m.version < 2^32)
    (inRange : ∀ s ∈ m.totalServerList, MessageFormat.InRange s.members) :
    ∃ ms data, m.serializeMembers = some ms ∧ x.packet ms = some data ∧
      (DownloadRelayServerListRespReader.deserializeMembers x.toMessageFormat).run data =
        some (m.received,[]) := by
  have total := total_eq small
  have count := count_eq small inside
  have length := length_page small inside
  have pageRange : ∀ s ∈ m.page, MessageFormat.InRange s.members :=
    fun s member => inRange s (mem_page member)
  let ms : List Field := .u32 m.version :: .u32 m.total :: .u32 m.startIndex :: .u32 m.count ::
    m.page.flatMap RelayServerInfo.members
  have serialized : m.serializeMembers = some ms := by
    unfold serializeMembers
    rw [if_pos (by rw [total]; exact inside)]
  have fieldsRange : MessageFormat.InRange ms := by
    have startIndex : m.startIndex < 2^32 := by omega
    have totalBound : m.total < 2^32 := by omega
    have countBound : m.count < 2^32 := by omega
    intro f member
    simp only [ms,List.mem_cons,List.mem_flatMap] at member
    rcases member with rfl | rfl | rfl | rfl | ⟨s,listed,member⟩
    · exact version
    · exact totalBound
    · exact startIndex
    · exact countBound
    · exact pageRange s listed f member
  have fits : x.wire.packetHeaderSize + (x.serialize ms).length ≤ x.wire.maxPacketSize := by
    have list : (x.serialize (m.page.flatMap RelayServerInfo.members)).length ≤ 30 * m.page.length :=
      x.length_serialize_flatMap (fun s member => RelayServerInfo.size x (pageRange s member))
    have room := x.wire.payload_room
    have header := x.wire.header_some
    have payload : PR.maxPayloadSize = 4096 := rfl
    simp only [ms,Format.serialize_cons,Format.write,List.length_append,x.length_u32]
    omega
  have packet : x.packet ms = some (x.serialize ms) := if_pos fits
  exact ⟨ms,_,serialized,packet,x.delivered (delivers _ length) fieldsRange packet⟩

end DownloadRelayServerListRespWriter

/-! ## All pages -/

variable (x : SizedFormat) {version : Nat} {list : List RelayServerInfo}

/-- One page, as it is received. -/
theorem page_received (small : list.length < 2^32 - 100) (version_lt : version < 2^32)
    (inRange : ∀ s ∈ list, MessageFormat.InRange s.members) {startIndex : Nat}
    (inside : startIndex < list.length) :
    ∃ ms data r, DownloadRelayServerListRespWriter.serializeMembers ⟨version,startIndex,list⟩ = some ms ∧
      x.packet ms = some data ∧
      (DownloadRelayServerListRespReader.deserializeMembers x.toMessageFormat).run data = some (r,[]) ∧
      r.total = list.length ∧ r.localServerList = (list.drop startIndex).take 100 ∧
      r.getNextStartIndex = min (startIndex + 100) list.length := by
  let m : DownloadRelayServerListRespWriter := ⟨version,startIndex,list⟩
  obtain ⟨ms,data,serialized,packet,read⟩ := m.sent x small inside version_lt inRange
  have count : m.count = min 100 (list.length - startIndex) :=
    DownloadRelayServerListRespWriter.count_eq small inside
  have next : m.received.getNextStartIndex = startIndex + m.count :=
    Nat.mod_eq_of_lt (show startIndex + m.count < 2^32 by omega)
  have page : m.page = (list.drop startIndex).take m.count :=
    DownloadRelayServerListRespWriter.page_eq small inside
  refine ⟨ms,data,m.received,serialized,packet,read,
    DownloadRelayServerListRespWriter.total_eq small,?_,?_⟩
  · change m.page = _
    rw [page,count,← List.length_drop,← List.take_take,List.take_length]
  · rw [next,count]
    omega

/-- From an index inside the list, the pages that follow are the rest of the list. -/
theorem pages_from (small : list.length < 2^32 - 100) (version_lt : version < 2^32)
    (inRange : ∀ s ∈ list, MessageFormat.InRange s.members) {fuel startIndex : Nat}
    (inside : startIndex < list.length) (enough : (list.length - startIndex + 99) / 100 ≤ fuel) :
    ∃ pages, downloadPages x.toMessageFormat version list fuel startIndex = some pages ∧
      pages.length = (list.length - startIndex + 99) / 100 ∧
      pages.flatMap (·.localServerList) = list.drop startIndex := by
  induction fuel generalizing startIndex with
  | zero => omega
  | succ fuel ih =>
    obtain ⟨ms,data,r,serialized,packet,read,total,page,next⟩ :=
      page_received x small version_lt inRange inside
    simp only [downloadPages,serialized,packet,read,bind,Option.bind_some]
    by_cases last : r.getNextStartIndex = r.total
    · have whole : (list.drop startIndex).take 100 = list.drop startIndex := by
        apply List.take_of_length_le
        rw [List.length_drop]
        omega
      rw [if_pos last]
      refine ⟨[r],rfl,?_,?_⟩
      · rw [List.length_singleton]
        omega
      · rw [List.flatMap_singleton,page,whole]
    · have full : r.getNextStartIndex = startIndex + 100 := by omega
      obtain ⟨pages,downloaded,length,concatenated⟩ :=
        ih (show r.getNextStartIndex < list.length by omega) (by omega)
      rw [if_neg last,downloaded]
      refine ⟨r :: pages,rfl,?_,?_⟩
      · rw [List.length_cons,length]
        omega
      · rw [List.flatMap_cons,concatenated,page,full,← List.drop_drop,List.take_append_drop]

/-- The download ends, without a failed assertion, after as many pages as the list needs, and
the pages are the list. -/
theorem relay_list_downloaded (some_ : 0 < list.length) (small : list.length < 2^32 - 100)
    (version_lt : version < 2^32) (inRange : ∀ s ∈ list, MessageFormat.InRange s.members) {fuel : Nat}
    (enough : (list.length + 99) / 100 ≤ fuel) :
    ∃ pages, downloadPages x.toMessageFormat version list fuel 0 = some pages ∧
      pages.length = (list.length + 99) / 100 ∧ pages.flatMap (·.localServerList) = list := by
  simpa using pages_from x small version_lt inRange some_ (by simpa using enough)

/-- Two full pages and a short one, of relays that all differ. -/
def manyRelays : List RelayServerInfo := (List.range 250).map (fun n => ⟨n,1,.unspecified⟩)

theorem relay_list_downloaded_many :
    ∃ pages, downloadPages .reference 3 manyRelays 3 0 = some pages ∧
      pages.length = 3 ∧ pages.flatMap (·.localServerList) = manyRelays := by
  have length : manyRelays.length = 250 := by rw [manyRelays,List.length_map,List.length_range]
  have inRange : ∀ s ∈ manyRelays, MessageFormat.InRange s.members := by
    intro s member
    obtain ⟨n,inside,rfl⟩ := List.mem_map.mp member
    have small : n < 250 := List.mem_range.mp inside
    refine List.forall_mem_cons.mpr ⟨?_,List.forall_mem_cons.mpr ⟨?_,List.forall_mem_singleton.mpr ?_⟩⟩
    · exact small.trans (by decide)
    · exact (by decide : 1 < 2^16)
    · exact ⟨rfl,(by decide : 0 < 2^16)⟩
  have downloaded : ∃ pages, downloadPages .reference 3 manyRelays 3 0 = some pages ∧
      pages.length = (manyRelays.length + 99) / 100 ∧ pages.flatMap (·.localServerList) = manyRelays :=
    relay_list_downloaded .reference (by rw [length]; decide) (by rw [length]; decide) (by decide) inRange
      (by rw [length])
  rw [length] at downloaded
  exact downloaded

end MiniPP.Message
