import MiniPP.Lib.ExpiryQueue
import MiniPP.Lib.Machine
import MiniPP.Message.Internal
import MiniPP.Message.Reports

/-! The observer of devices. Whether a device is new is read from a field that is copied out of the
packet, so that the table stays right just as long as no device without a name comes twice. -/
namespace MiniPP.Observer

open Message PP

/-- `xODI_DeviceInfo`, less the counters that nothing reads. -/
structure DeviceInfo where
  deviceUuid : Bytes
  onlineTimestampMS : Nat
  lastKeepAliveTimestampMS : Nat
  version : Nat
  primaryIpv4Address : NetAddress
  primaryIpv6Address : NetAddress
  supportUdpChannel : Bool
  supportDnsRequests : Bool
  speedLimitEnabled : Bool
  deriving DecidableEq, Repr

/-- What `operator[]` of the map makes. -/
def DeviceInfo.blank : DeviceInfo := ⟨[],0,0,0,.unspecified,.unspecified,false,false,false⟩

/-- A node of the list is the device of that key of the map. -/
structure ODI where
  deviceMap : Bytes → Option DeviceInfo
  deviceTimeoutList : List Bytes

def ODI.empty : ODI := ⟨fun _ => none,[]⟩

inductive Action where
  | post (msgKey : Bytes) (req : ReportDeviceInfoSingle)
  | assertion
  | linkedTwice
  deriving DecidableEq, Repr

/-- The members of the report that are not set are zero. -/
def postDeviceInfo (globalTicker : Nat) (dp : DeviceInfo) (online : Bool) : Action :=
  .post dp.deviceUuid
    { localAuditTimestampMS := globalTicker
      deviceInfo :=
        { version := dp.version, channelId := 0, deviceUuid := dp.deviceUuid
          relayServerRuntimeId := 0, relayServerSideDeviceId := 0
          primaryIpv4Address := dp.primaryIpv4Address
          primaryIpv6Address := dp.primaryIpv6Address
          countryId := 0, stateId := 0, cityId := 0
          isOffline := !online, supportUdpChannel := dp.supportUdpChannel
          supportDnsRequests := dp.supportDnsRequests
          speedLimitEnabled := dp.speedLimitEnabled
          totalOnlineTimeMS := sub64 globalTicker dp.onlineTimestampMS
          totalNewConnectionsSinceLastPost := 0, totalClosedConnectionSinceLastPost := 0
          totalNewUdpChannelSinceLastPost := 0, totalClosedUdpChannelSinceLastPost := 0
          totalDnsRequestSinceLastPost := 0
          totalUploadSizeSinceOnline := 0, totalDownloadSizeSinceOnline := 0
          currentConnectionCount := 0, currentUdpChannelCount := 0
          maxConnectionCount := 0, maxUdpChannelCount := 0 } }

/-- A new object into which the payload is read. -/
def blankUpdate : DeviceInfoUpdate :=
  ⟨[],0,0,0,.unspecified,.unspecified,0,0,0,0,false,false,false,false⟩

def deserialize (x : MessageFormat) (payload : Bytes) : Option DeviceInfoUpdate :=
  ((DeviceInfoUpdate.deserializeMembers x blankUpdate).run payload).map Prod.fst

/-- A node may only be added if it is in no list. -/
def addTail (list : List Bytes) (node : Bytes) : Option (List Bytes) :=
  if node ∈ list then none else some (list ++ [node])

def grabTail (list : List Bytes) (node : Bytes) : List Bytes := list.erase node ++ [node]

namespace ODI

/-- Erasing a device takes it out of the list. There is no table any more where an assertion has
failed, or a node is linked twice. -/
def onDeviceUpdate (o : ODI) (nowMS globalTicker : Nat) :
    Option DeviceInfoUpdate → Option ODI × List Action
  | none => (some o,[])
  | some pp =>
    if pp.isOffline then
      match o.deviceMap pp.deviceUuid with
      | none => (some o,[])
      | some di =>
        (some ⟨Function.update o.deviceMap pp.deviceUuid none,o.deviceTimeoutList.erase pp.deviceUuid⟩,
          [postDeviceInfo globalTicker di false])
    else
      let di := (o.deviceMap pp.deviceUuid).getD .blank
      if di.deviceUuid = [] then
        if di.onlineTimestampMS ≠ 0 then (none,[.assertion])
        else
          let di : DeviceInfo :=
            { di with
              deviceUuid := pp.deviceUuid, onlineTimestampMS := nowMS
              version := pp.version, primaryIpv4Address := pp.primaryIpv4Address
              primaryIpv6Address := pp.primaryIpv6Address
              supportUdpChannel := pp.supportUdpChannel
              supportDnsRequests := pp.supportDnsRequests
              speedLimitEnabled := pp.speedLimitEnabled }
          let posted := postDeviceInfo globalTicker di true
          match addTail o.deviceTimeoutList pp.deviceUuid with
          | none => (none,[posted,.linkedTwice])
          | some list =>
            (some ⟨Function.update o.deviceMap pp.deviceUuid
                (some { di with lastKeepAliveTimestampMS := nowMS }),list⟩,[posted])
      else
        (some ⟨Function.update o.deviceMap pp.deviceUuid
            (some { di with lastKeepAliveTimestampMS := nowMS }),
            grabTail o.deviceTimeoutList pp.deviceUuid⟩,
          [postDeviceInfo globalTicker di true])

end ODI

/-! ## Runs -/

/-- A packet, with the time since the one before and the ticker of the main loop. -/
structure Update where
  elapsedMS : Nat
  globalTicker : Nat
  payload : Bytes
  deriving DecidableEq, Repr

/-- The clock is the library's, and never goes back. -/
structure Observed where
  tickTimeMS : Nat
  odi : Option ODI

def step (x : MessageFormat) (c : Observed) (e : Update) : Observed × List Action :=
  let nowMS := c.tickTimeMS + e.elapsedMS
  match c.odi with
  | none => (⟨nowMS,none⟩,[])
  | some o =>
    let result := o.onDeviceUpdate nowMS e.globalTicker (deserialize x e.payload)
    (⟨nowMS,result.1⟩,result.2)

/-- When each device came online first since it was offline last. -/
def watch (x : MessageFormat) (c : Observed) (e : Update) (onlineSince : Bytes → Option Nat) :
    Bytes → Option Nat :=
  match deserialize x e.payload with
  | none => onlineSince
  | some pp =>
    Function.update onlineSince pp.deviceUuid
      (if pp.isOffline then none
        else some ((onlineSince pp.deviceUuid).getD (c.tickTimeMS + e.elapsedMS)))

def observer (x : MessageFormat) : Machine Observed Update Action where
  start c := c.odi = some .empty
  step := step x

abbrev History := Observed × (Bytes → Option Nat)

def observerHistory (x : MessageFormat) : Machine History Update Action :=
  (observer x).withGhost (fun _ => none) (watch x)

def History.first (clock : Nat) : History := (⟨clock,some .empty⟩,fun _ => none)

/-! ## The contract -/

structure ODI.Consistent (o : ODI) (onlineSince : Bytes → Option Nat) : Prop where
  once : o.deviceTimeoutList.Nodup
  linked : ∀ uuid, uuid ∈ o.deviceTimeoutList ↔ o.deviceMap uuid ≠ none
  ordered : o.deviceTimeoutList.Pairwise (fun a b => ∀ da db, o.deviceMap a = some da →
    o.deviceMap b = some db → da.lastKeepAliveTimestampMS ≤ db.lastKeepAliveTimestampMS)
  online : ∀ uuid, (o.deviceMap uuid).map DeviceInfo.onlineTimestampMS = onlineSince uuid

/-- There is a table, and it is right. -/
def Right (c : History) (_ : List Action) : Prop := ∃ o, c.1.odi = some o ∧ o.Consistent c.2

/-- A device without a name does not come while one is there. -/
def Sound (x : MessageFormat) (c : History) (e : Update) : Prop :=
  ∀ o pp, c.1.odi = some o → deserialize x e.payload = some pp → pp.isOffline = false →
    pp.deviceUuid = [] → o.deviceMap [] = none

/-! ## The table as a queue of keys that expire -/

def ODI.queue (o : ODI) (clock : Nat) : ExpiryQueue Bytes where
  clock := clock
  stamps uuid := (o.deviceMap uuid).map DeviceInfo.lastKeepAliveTimestampMS
  queue := o.deviceTimeoutList

structure Good (clock : Nat) (onlineSince : Bytes → Option Nat) (o : ODI) : Prop where
  sound : (o.queue clock).Sound
  own : ∀ uuid di, o.deviceMap uuid = some di → di.deviceUuid = uuid
  online : ∀ uuid, (o.deviceMap uuid).map DeviceInfo.onlineTimestampMS = onlineSince uuid

variable {x : MessageFormat} {clock nowMS : Nat} {onlineSince : Bytes → Option Nat} {o : ODI}
  {pp : DeviceInfoUpdate}

theorem good_empty (clock : Nat) : Good clock (fun _ => none) .empty where
  sound := ExpiryQueue.sound_empty clock
  own := by simp [ODI.empty]
  online _ := rfl

theorem Good.consistent (good : Good clock onlineSince o) : o.Consistent onlineSince where
  once := good.sound.once
  linked uuid := by simpa [ODI.queue] using good.sound.linked uuid
  ordered := by
    apply good.sound.order.imp
    intro a b older da db foundA foundB
    exact older _ _ (by simp [ODI.queue,foundA]) (by simp [ODI.queue,foundB])
  online := good.online

/-! ## One packet -/

theorem queue_drop (o : ODI) (clock : Nat) (uuid : Bytes) :
    ODI.queue ⟨Function.update o.deviceMap uuid none,o.deviceTimeoutList.erase uuid⟩ clock =
      (o.queue clock).drop uuid := by
  apply ExpiryQueue.ext
  case clock => rfl
  case queue => rfl
  case stamps =>
    funext other
    by_cases same : other = uuid
    · simp [ODI.queue,ExpiryQueue.drop,same]
    · simp [ODI.queue,ExpiryQueue.drop,same]

theorem queue_touch (o : ODI) {clock : Nat} (uuid : Bytes) {di : DeviceInfo}
    (now : di.lastKeepAliveTimestampMS = clock) :
    ODI.queue ⟨Function.update o.deviceMap uuid (some di),grabTail o.deviceTimeoutList uuid⟩ clock =
      (o.queue clock).touch uuid := by
  apply ExpiryQueue.ext
  case clock => rfl
  case queue => rfl
  case stamps =>
    funext other
    by_cases same : other = uuid
    · simp [ODI.queue,ExpiryQueue.touch,same,now]
    · simp [ODI.queue,ExpiryQueue.touch,same]

theorem onDeviceUpdate_offline (o : ODI) (nowMS globalTicker : Nat) (offline : pp.isOffline = true)
    (absent : o.deviceMap pp.deviceUuid = none → pp.deviceUuid ∉ o.deviceTimeoutList) :
    (o.onDeviceUpdate nowMS globalTicker (some pp)).1 =
      some ⟨Function.update o.deviceMap pp.deviceUuid none,o.deviceTimeoutList.erase pp.deviceUuid⟩ := by
  simp only [ODI.onDeviceUpdate,if_pos offline]
  cases found : o.deviceMap pp.deviceUuid with
  | none =>
    have same : Function.update o.deviceMap pp.deviceUuid none = o.deviceMap := by
      rw [← found,Function.update_eq_self]
    rw [same,List.erase_of_not_mem (absent found)]
  | some di => rfl

/-- A device that comes online gets the present time as its last; it keeps the time it came online
if it was. -/
theorem onDeviceUpdate_online (good : Good clock onlineSince o) (nowMS globalTicker : Nat) (online : pp.isOffline = false)
    (sound : pp.deviceUuid = [] → o.deviceMap [] = none) :
    ∃ di : DeviceInfo, (o.onDeviceUpdate nowMS globalTicker (some pp)).1 =
        some ⟨Function.update o.deviceMap pp.deviceUuid (some di),grabTail o.deviceTimeoutList pp.deviceUuid⟩ ∧
      di.deviceUuid = pp.deviceUuid ∧ di.lastKeepAliveTimestampMS = nowMS ∧
      di.onlineTimestampMS =
        ((o.deviceMap pp.deviceUuid).map DeviceInfo.onlineTimestampMS).getD nowMS := by
  simp only [ODI.onDeviceUpdate,if_neg (ne_true_of_eq_false online)]
  cases found : o.deviceMap pp.deviceUuid with
  | none =>
    have unlinked : pp.deviceUuid ∉ o.deviceTimeoutList := by
      rw [good.consistent.linked]
      exact fun linked => linked found
    have added : addTail o.deviceTimeoutList pp.deviceUuid =
        some (grabTail o.deviceTimeoutList pp.deviceUuid) := by
      rw [addTail,if_neg unlinked,grabTail,List.erase_of_not_mem unlinked]
    simp only [Option.getD_none,DeviceInfo.blank,ne_eq,not_true_eq_false,if_true,if_false,added]
    exact ⟨_,rfl,rfl,rfl,rfl⟩
  | some di =>
    have own := good.own _ _ found
    have named : ¬ di.deviceUuid = [] := by
      intro unnamed
      rw [own] at unnamed
      rw [unnamed,sound unnamed] at found
      cases found
    simp only [Option.getD_some,if_neg named]
    exact ⟨_,rfl,own,rfl,rfl⟩

/-- Either the time the device came online is noted, and the assertion fails, or it is linked again. -/
theorem onDeviceUpdate_again (good : Good clock onlineSince o) (nowMS globalTicker : Nat) (online : pp.isOffline = false)
    (unnamed : pp.deviceUuid = []) (there : o.deviceMap [] ≠ none) :
    (o.onDeviceUpdate nowMS globalTicker (some pp)).1 = none := by
  obtain ⟨di,found⟩ := Option.ne_none_iff_exists'.mp there
  have own := good.own _ _ found
  have linked : [] ∈ o.deviceTimeoutList := (good.consistent.linked []).mpr there
  simp only [ODI.onDeviceUpdate,if_neg (ne_true_of_eq_false online),unnamed,found,Option.getD_some,if_pos own]
  split
  · rfl
  · simp [addTail,linked]

/-! ## What a packet leaves -/

theorem Good.later (good : Good clock onlineSince o) (later : clock ≤ nowMS) : Good nowMS onlineSince o where
  sound := good.sound.later later
  own := good.own
  online := good.online

theorem Good.drop (good : Good clock onlineSince o) (uuid : Bytes) :
    Good clock (Function.update onlineSince uuid none)
      ⟨Function.update o.deviceMap uuid none,o.deviceTimeoutList.erase uuid⟩ where
  sound := by
    rw [queue_drop]
    exact good.sound.drop uuid
  own other di found := by
    by_cases same : other = uuid
    · simp [same] at found
    · exact good.own other di (by simpa [same] using found)
  online other := by
    by_cases same : other = uuid
    · simp [same]
    · simpa [same] using good.online other

theorem Good.touch (good : Good clock onlineSince o) {uuid : Bytes} {di : DeviceInfo}
    (own : di.deviceUuid = uuid) (now : di.lastKeepAliveTimestampMS = clock)
    (kept : di.onlineTimestampMS = ((o.deviceMap uuid).map DeviceInfo.onlineTimestampMS).getD clock) :
    Good clock (Function.update onlineSince uuid (some ((onlineSince uuid).getD clock)))
      ⟨Function.update o.deviceMap uuid (some di),grabTail o.deviceTimeoutList uuid⟩ where
  sound := by
    rw [queue_touch o uuid now]
    exact good.sound.touch uuid
  own other di' found := by
    by_cases same : other = uuid
    · subst same
      obtain rfl := Option.some.inj ((Function.update_self other _ _).symm.trans found)
      exact own
    · exact good.own other di' (by simpa [same] using found)
  online other := by
    by_cases same : other = uuid
    · subst same
      simp [kept,good.online]
    · simpa [same] using good.online other

/-- A sound packet keeps the table right. -/
theorem step_sound (good : Good clock onlineSince o) {e : Update}
    (sound : Sound x (⟨clock,some o⟩,onlineSince) e) :
    ∃ o', (step x ⟨clock,some o⟩ e).1 = ⟨clock + e.elapsedMS,some o'⟩ ∧
      Good (clock + e.elapsedMS) (watch x ⟨clock,some o⟩ e onlineSince) o' := by
  have good : Good (clock + e.elapsedMS) onlineSince o := good.later (Nat.le_add_right _ _)
  cases arrived : deserialize x e.payload with
  | none =>
    refine ⟨o,?_,?_⟩
    · simp only [step,arrived]
      rfl
    · simpa only [watch,arrived] using good
  | some pp =>
    simp only [step,watch,arrived,Observed.mk.injEq,true_and]
    cases online : pp.isOffline with
    | true =>
      refine ⟨_,onDeviceUpdate_offline o _ _ online ?_,good.drop pp.deviceUuid⟩
      exact fun absent linked => (good.consistent.linked _).mp linked absent
    | false =>
      obtain ⟨di,result,own,now,kept⟩ := onDeviceUpdate_online good _ e.globalTicker online
        (sound o pp rfl arrived online)
      exact ⟨_,result,good.touch own now kept⟩

/-- Any other packet ends the table. -/
theorem step_unsound (good : Good clock onlineSince o) {e : Update}
    (unsound : ¬ Sound x (⟨clock,some o⟩,onlineSince) e) : (step x ⟨clock,some o⟩ e).1.odi = none := by
  simp only [Sound,not_forall] at unsound
  obtain ⟨o',pp,same,arrived,online,unnamed,there⟩ := unsound
  obtain rfl := Option.some.inj same
  simp only [step,arrived]
  exact onDeviceUpdate_again good _ _ online unnamed there

/-! ## Any run -/

/-- There is a table, and it is good. -/
def Fine (c : History) (_ : List Action) : Prop := ∃ o, c.1.odi = some o ∧ Good c.1.tickTimeMS c.2 o

/-- In every run the table is right after each packet, if and only if no device without a name
comes online again before it went offline. -/
theorem observed_table_iff (x : MessageFormat) (clock : Nat) (updates : List Update) :
    (observerHistory x).Stays Right (.first clock) [] updates ↔
      (observerHistory x).Allowed (fun c _ e => Sound x c e) (.first clock) [] updates := by
  apply Machine.stays_iff_allowed (I := Fine)
  case holds =>
    rintro c log ⟨o,live,good⟩
    exact ⟨o,live,good.consistent⟩
  case keeps =>
    rintro ⟨⟨clock,odi⟩,onlineSince⟩ - e ⟨o,rfl,good⟩ sound
    obtain ⟨o',result,good'⟩ := step_sound good sound
    have next : ((observerHistory x).step (⟨clock,some o⟩,onlineSince) e).1 =
        (⟨clock + e.elapsedMS,some o'⟩,watch x ⟨clock,some o⟩ e onlineSince) := Prod.ext result rfl
    rw [next]
    exact ⟨o',rfl,good'⟩
  case loses =>
    rintro ⟨⟨clock,odi⟩,onlineSince⟩ - e ⟨o,rfl,good⟩ unsound ⟨o',live,-⟩
    exact absurd ((step_unsound good unsound).symm.trans live) (by simp)
  case first => exact ⟨.empty,rfl,good_empty clock⟩

/-! ## A device without a name -/

def nameless : DeviceInfoUpdate :=
  ⟨[],1,1,1,⟨.ipv4,[10,0,0,1],70⟩,.unspecified,0,1,1,1,false,false,false,false⟩

/-- It comes online, and says so again a second later. -/
def namelessTwice : List Update :=
  [⟨1000,0,MessageFormat.reference.serialize nameless.serializeMembers⟩,
    ⟨1000,0,MessageFormat.reference.serialize nameless.serializeMembers⟩]

/-- The assertion that a new device has not been online yet fails. -/
theorem nameless_device_asserted :
    (¬ ∀ (x : MessageFormat) (clock : Nat) (updates : List Update),
      (observerHistory x).Stays Right (.first clock) [] updates) ∧
    ((observer .reference).run ⟨0,some .empty⟩ namelessTwice).2.getLast? = some .assertion := by
  have stopped : ((observerHistory .reference).run (.first 0) namelessTwice).1.1.odi.isNone = true := by
    decide
  constructor
  · intro always
    obtain ⟨o,live,-⟩ := always .reference 0 namelessTwice namelessTwice [] (List.append_nil _).symm
    rw [live] at stopped
    cases stopped
  · decide

end MiniPP.Observer
