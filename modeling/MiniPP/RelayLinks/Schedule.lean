import MiniPP.Lib.ExpiryQueue
import MiniPP.RelayLinks.Invariant
import Mathlib.Data.List.Pairwise

/-! The schedule of the links. A scan stops at the first link that is not due, so that it misses a link
behind one; answers, which do not count as requests, put links there. -/
namespace MiniPP.RelayLinks

open Backend (signedDiff)
open RelayConnectionManager

variable {keys : KeySource} {m : RelayConnectionManager keys} {past : List LinkAction} {a b rcp : Nat}

/-! ## The order of the idle list -/

/-- Of two links, the one that was put to the tail last, or the one that the other was put in front of.
The last entry of the log comes first. -/
def Behind : List LinkAction → Nat → Nat → Prop
  | [], _, _ => False
  | .added rcp :: past, a, b => rcp = b ∨ (rcp ≠ a ∧ Behind past a b)
  | .requested rcp :: past, a, b => rcp = a ∨ (rcp ≠ b ∧ Behind past a b)
  | .answered rcp :: past, a, b => rcp = a ∨ (rcp ≠ b ∧ Behind past a b)
  | .freed rcp :: past, a, b => rcp = a ∨ (rcp ≠ b ∧ Behind past a b)
  | .init _ _ _ _ :: past, a, b => Behind past a b
  | .requestKeepAlive _ :: past, a, b => Behind past a b
  | .retired _ :: past, a, b => Behind past a b

/-- The link that an entry puts to the tail. -/
def putLast : LinkAction → Option Nat
  | .requested rcp | .answered rcp | .freed rcp => some rcp
  | _ => none

theorem behind_putLast {entry : LinkAction} (put : putLast entry = some rcp) :
    Behind (entry :: past) a b ↔ rcp = a ∨ (rcp ≠ b ∧ Behind past a b) := by
  cases entry with
  | requested other | answered other | freed other =>
    obtain rfl := Option.some.inj put
    exact Iff.rfl
  | added | init | requestKeepAlive | retired => cases put

theorem Behind.asymm (apart : a ≠ b) (behind : Behind past a b) : ¬ Behind past b a := by
  induction past with
  | nil => exact False.elim behind
  | cons entry past ih =>
    cases entry with
    | init | requestKeepAlive | retired => exact ih behind
    | added other =>
      rcases behind with rfl | ⟨first,before⟩
      · rintro (same | ⟨other,-⟩)
        · exact apart same.symm
        · exact other rfl
      · rintro (same | ⟨-,after⟩)
        · exact first same
        · exact ih before after
    | requested other | answered other | freed other =>
      rcases behind with rfl | ⟨second,before⟩
      · rintro (same | ⟨other,-⟩)
        · exact apart same
        · exact other rfl
      · rintro (same | ⟨-,after⟩)
        · exact second same
        · exact ih before after

/-- The list is in the order in which its links were placed. -/
def InOrder (past : List LinkAction) (list : List Nat) : Prop :=
  list.Pairwise (fun front back => Behind past back front)

theorem InOrder.putLast {list : List Nat} (order : InOrder past list) {entry : LinkAction}
    (put : RelayLinks.putLast entry = some rcp) : InOrder (entry :: past) (toTail list rcp) := by
  apply pairwise_toTail order
  · intro a b front back before
    exact (behind_putLast put).mpr (.inr ⟨Ne.symm front,before⟩)
  · exact fun a _ _ => (behind_putLast put).mpr (.inl rfl)

theorem InOrder.added {list : List Nat} (order : InOrder past list) (new : rcp ∉ list) :
    InOrder (.added rcp :: past) (rcp :: list) := by
  apply List.pairwise_cons.mpr
  refine ⟨fun other _ => .inl rfl,?_⟩
  apply order.imp_of_mem
  intro a b _ memberB before
  exact .inr ⟨fun same => new (same ▸ memberB),before⟩

theorem InOrder.addedAll {list links : List Nat} (order : InOrder past list) (once : links.Nodup)
    (new : ∀ rcp ∈ links, rcp ∉ list) :
    InOrder ((links.map LinkAction.added).reverse ++ past) (links.reverse ++ list) := by
  induction links generalizing past list with
  | nil => exact order
  | cons rcp links ih =>
    obtain ⟨apart,once⟩ := List.nodup_cons.mp once
    have first := order.added (new rcp (by simp))
    have rest := ih first once (by
      intro other member
      rw [List.mem_cons,not_or]
      exact ⟨fun same => apart (same ▸ member),new other (by simp [member])⟩)
    simpa [List.append_assoc] using rest

/-- Entries that place nothing. -/
def Skipped (entries : List LinkAction) : Prop :=
  ∀ entry ∈ entries, putLast entry = none ∧ ∀ rcp, entry ≠ .added rcp

theorem behind_skip {entries : List LinkAction} (skipped : Skipped entries) :
    Behind (entries ++ past) a b ↔ Behind past a b := by
  induction entries with
  | nil => rfl
  | cons entry entries ih =>
    have rest := ih (fun other member => skipped other (by simp [member]))
    obtain ⟨last,first⟩ := skipped entry (by simp)
    cases entry with
    | init | requestKeepAlive | retired => exact rest
    | added other => exact absurd rfl (first other)
    | requested | answered | freed => cases last

theorem InOrder.skip {list : List Nat} (order : InOrder past list) {entries : List LinkAction}
    (skipped : Skipped entries) : InOrder (entries ++ past) list := order.imp (fun before => (behind_skip skipped).mpr before)

/-- Of a list in order, what passes comes first just if nothing that passes was placed behind what
does not. -/
theorem InOrder.pairwise_iff {list : List Nat} (order : InOrder past list) {p : Nat → Bool} :
    list.Pairwise (fun front back => p back = true → p front = true) ↔
      ∀ a ∈ list, ∀ b ∈ list, p a = true → p b = false → ¬ Behind past a b := by
  constructor
  · intro first a memberA b memberB passes fails behind
    have apart : a ≠ b := fun same => by
      rw [same,fails] at passes
      cases passes
    -- one of the two comes first
    let R (x y : Nat) : Prop :=
      (Behind past y x ∧ (p y = true → p x = true)) ∨ (Behind past x y ∧ (p x = true → p y = true))
    have symm : Std.Symm R := ⟨fun x y => Or.symm⟩
    have both : list.Pairwise R := (order.and first).imp .inl
    rcases both.forall memberA memberB apart with ⟨before,-⟩ | ⟨-,implies⟩
    · exact behind.asymm apart before
    · rw [implies passes] at fails
      cases fails
  · intro none
    apply order.imp_of_mem
    intro front back memberFront memberBack behind passes
    by_contra fails
    exact none back memberBack front memberFront passes (Bool.eq_false_of_not_eq_true fails) behind

/-! ## What is freed -/

def lastRequest (m : RelayConnectionManager keys) (rcp : Nat) : Nat :=
  (m.connections rcp).lastKeepAliveRequestTimestampMS

theorem idleList_freeAll (list : List Nat) (m : RelayConnectionManager keys) :
    (list.foldl freeKilled m).idleList = list.foldl toTail m.idleList := by
  induction list generalizing m with
  | nil => rfl
  | cons rcp list ih => exact ih (m.freeKilled rcp)

theorem lastRequest_freeKilled (m : RelayConnectionManager keys) (killed rcp : Nat) :
    lastRequest (m.freeKilled killed) rcp = if rcp = killed then m.ticker else lastRequest m rcp := by
  by_cases same : rcp = killed
  · simp [lastRequest,freeKilled,cleanConnection,RelayConnectionManager.modify,release,same]
  · simp [lastRequest,freeKilled,cleanConnection,RelayConnectionManager.modify,release,same]

theorem lastRequest_freeAll (list : List Nat) (m : RelayConnectionManager keys) (rcp : Nat) :
    lastRequest (list.foldl freeKilled m) rcp = if rcp ∈ list then m.ticker else lastRequest m rcp := by
  induction list generalizing m with
  | nil => rfl
  | cons killed list ih =>
    have rest := ih (m.freeKilled killed)
    rw [List.foldl_cons,rest,lastRequest_freeKilled]
    have ticker : (m.freeKilled killed).ticker = m.ticker := rfl
    by_cases later : rcp ∈ list
    · simp [later,ticker]
    · by_cases same : rcp = killed
      · simp [same,ticker]
      · simp [later,same]

theorem mem_foldl_toTail {list idle : List Nat} :
    rcp ∈ list.foldl toTail idle ↔ rcp ∈ idle ∨ rcp ∈ list := by
  induction list generalizing idle with
  | nil => simp
  | cons killed list ih =>
    rw [List.foldl_cons,ih,mem_toTail,List.mem_cons]
    by_cases same : rcp = killed
    · simp [same]
    · simp [same]

theorem length_foldl_toTail_le (list idle : List Nat) :
    (list.foldl toTail idle).length ≤ idle.length + list.length := by
  induction list generalizing idle with
  | nil => simp
  | cons killed list ih =>
    have first : (toTail idle killed).length ≤ idle.length + 1 := by
      rw [toTail,List.length_append,List.length_singleton]
      exact Nat.succ_le_succ (List.length_filter_le _ _)
    calc ((killed :: list).foldl toTail idle).length ≤ (toTail idle killed).length + list.length := ih _
      _ ≤ idle.length + (killed :: list).length := by
        rw [List.length_cons]
        omega

/-- The log of the freed links, last entry first. -/
def freedPast (m : RelayConnectionManager keys) (list : List Nat) : List LinkAction :=
  (list.flatMap (fun rcp => [LinkAction.retired (m.connections rcp).connectionId,.freed rcp])).reverse

theorem InOrder.freed {idle list : List Nat} (order : InOrder past idle) (m : RelayConnectionManager keys) :
    InOrder (freedPast m list ++ past) (list.foldl toTail idle) := by
  induction list generalizing past idle with
  | nil => exact order
  | cons rcp list ih =>
    have skipped : InOrder (.retired (m.connections rcp).connectionId :: past) idle := order
    have first : InOrder (.freed rcp :: .retired (m.connections rcp).connectionId :: past) (toTail idle rcp) :=
      skipped.putLast rfl
    simpa [freedPast,List.append_assoc] using ih first

/-- A link that was not killed is behind another just if it was. -/
theorem behind_freed {list : List Nat} (alive : a ∉ list) :
    Behind (freedPast m list ++ past) a b ↔ b ∉ list ∧ Behind past a b := by
  induction list generalizing past with
  | nil => simp [freedPast]
  | cons rcp list ih =>
    rw [List.mem_cons,not_or] at alive
    have split : freedPast m (rcp :: list) ++ past =
        freedPast m list ++ (.freed rcp :: .retired (m.connections rcp).connectionId :: past) := by
      simp [freedPast,List.append_assoc]
    rw [split,ih alive.2,List.mem_cons,not_or,behind_putLast rfl]
    have apart : rcp ≠ a := Ne.symm alive.1
    simp only [apart,false_or]
    constructor
    · rintro ⟨other,first,behind⟩
      exact ⟨⟨Ne.symm first,other⟩,behind⟩
    · rintro ⟨⟨first,other⟩,behind⟩
      exact ⟨other,Ne.symm first,behind⟩

theorem idleList_freed (m : RelayConnectionManager keys) (nowMS : Nat) :
    (m.freed nowMS).idleList = (m.killList.foldl toTail m.idleList).filter
      (fun rcp => decide (groupPtr rcp ∉ m.killGroupList)) := by
  have groups := (foldl_freeKilled m.killList { m with ticker := nowMS }).2.2.1
  have freed := (freed_doFreeKillGroupList { m with ticker := nowMS }.doFreeKillList.1).idleList
  simp only [doFreeKillList,groups,idleList_freeAll] at freed
  exact freed

theorem lastRequest_freed (m : RelayConnectionManager keys) (nowMS : Nat) (alive : groupPtr rcp ∉ m.killGroupList) :
    lastRequest (m.freed nowMS) rcp = if rcp ∈ m.killList then nowMS else lastRequest m rcp := by
  have groups := (foldl_freeKilled m.killList { m with ticker := nowMS }).2.2.1
  have freed := (freed_doFreeKillGroupList { m with ticker := nowMS }.doFreeKillList.1).requested rcp
    (by simpa only [doFreeKillList,groups] using alive)
  exact freed.trans (lastRequest_freeAll m.killList { m with ticker := nowMS } rcp)

/-! ## The scan -/

section Scan

variable {nowMS : Nat} {refused temp : List Nat}

theorem lastRequest_modify (m : RelayConnectionManager keys) (changed rcp : Nat)
    (change : RelayConnection → RelayConnection) : lastRequest (m.modify changed change) rcp =
      if rcp = changed then (change (m.connections changed)).lastKeepAliveRequestTimestampMS
      else lastRequest m rcp := by
  by_cases same : rcp = changed
  · simp [lastRequest,RelayConnectionManager.modify,same]
  · simp [lastRequest,RelayConnectionManager.modify,same]

theorem lastRequest_reconnect (m : RelayConnectionManager keys) (refused : List Nat) (connected rcp : Nat) :
    lastRequest (m.reconnect refused connected) rcp = lastRequest m rcp := by
  rw [reconnect,lastRequest_modify]
  split
  · rename_i same
    exact same ▸ (frame_acquire m connected).requested connected
  · exact (frame_acquire m connected).requested rcp

/-- A link that is visited is asked now and put back, or it is killed. -/
theorem visit_cases (m : RelayConnectionManager keys) (nowMS : Nat) (refused : List Nat) (rcp : Nat) :
    (∃ m' entries, m.visit nowMS refused rcp = (m',true,entries ++ [.requested rcp]) ∧ Skipped entries ∧
      m'.idleList = m.idleList ∧ lastRequest m' rcp = nowMS ∧
      ∀ other, other ≠ rcp → lastRequest m' other = lastRequest m other) ∨
    m.visit nowMS refused rcp = (m.deferKillConnection rcp,false,[]) := by
  have asked (m : RelayConnectionManager keys) : lastRequest (m.requestedAt nowMS rcp) rcp = nowMS := by
    rw [requestedAt,lastRequest_modify,if_pos rfl]
  have others (m : RelayConnectionManager keys) (other : Nat) (apart : other ≠ rcp) :
      lastRequest (m.requestedAt nowMS rcp) other = lastRequest m other := by
    rw [requestedAt,lastRequest_modify,if_neg apart]
  unfold visit
  dsimp only
  split
  · refine .inl ⟨_,_,rfl,?_,(frame_acquire m rcp).idleList,asked _,fun other apart => ?_⟩
    · intro entry member
      cases target : m.groups (groupPtr rcp) with
      | none => simp [target] at member
      | some target =>
        obtain rfl : entry = .init rcp _ _ _ := by simpa [target] using member
        exact ⟨rfl,fun _ same => by cases same⟩
    · rw [others _ other apart,lastRequest_reconnect]
  · split
    · exact .inr rfl
    · refine .inl ⟨_,[.requestKeepAlive rcp],rfl,?_,rfl,asked _,others m⟩
      intro entry member
      obtain rfl := List.mem_singleton.mp member
      exact ⟨rfl,fun _ same => by cases same⟩

theorem isDue_true {nowMS : Nat} : m.isDue nowMS rcp = true ↔ Due nowMS (lastRequest m rcp) := decide_eq_true_iff

theorem isDue_false {nowMS : Nat} : m.isDue nowMS rcp = false ↔ ¬ Due nowMS (lastRequest m rcp) :=
  decide_eq_false_iff_not

theorem isDue_eq {m' : RelayConnectionManager keys} (same : lastRequest m' rcp = lastRequest m rcp) (nowMS : Nat) :
    m'.isDue nowMS rcp = m.isDue nowMS rcp := by
  unfold RelayConnectionManager.isDue
  rw [show (m'.connections rcp).lastKeepAliveRequestTimestampMS =
    (m.connections rcp).lastKeepAliveRequestTimestampMS from same]

/-- What a visit leaves of the other links, and of the list without the visited one. -/
theorem visit_rest {rest : List Nat} (once : (rcp :: rest).Nodup) (nowMS : Nat) (refused : List Nat) :
    let visited := { m with idleList := rest }.visit nowMS refused rcp
    visited.1.idleList = rest ∧ (∀ other, other ≠ rcp → lastRequest visited.1 other = lastRequest m other) ∧
      (visited.2.1 = true → lastRequest visited.1 rcp = nowMS) := by
  have behind : rcp ∉ rest := (List.nodup_cons.mp once).1
  rcases visit_cases { m with idleList := rest } nowMS refused rcp with
    ⟨m',entries,result,-,idle,asked,others⟩ | result
  · rw [result]
    exact ⟨idle,others,fun _ => asked⟩
  · rw [result]
    exact ⟨without_absent behind,fun _ _ => rfl,fun back => by cases back⟩

/-- With checks enough, the scan takes off the links that are due at the head. -/
theorem scan_spec {checks : Nat} (once : m.idleList.Nodup) (apart : ∀ rcp ∈ m.idleList, rcp ∉ temp)
    (asked : ∀ rcp ∈ temp, lastRequest m rcp = nowMS) (enough : m.idleList.length ≤ checks) :
    let result := scan nowMS refused checks m temp
    result.1.idleList = m.idleList.dropWhile (m.isDue nowMS) ∧
      (∀ rcp ∈ result.1.idleList, lastRequest result.1 rcp = lastRequest m rcp) ∧
      ∀ rcp ∈ result.2.1, lastRequest result.1 rcp = nowMS := by
  induction checks generalizing m temp with
  | zero =>
    have none : m.idleList = [] := List.length_eq_zero_iff.mp (Nat.le_zero.mp enough)
    exact ⟨by simp [scan,none],fun _ _ => rfl,asked⟩
  | succ checks ih =>
    unfold scan
    split
    · rename_i none
      exact ⟨by simp [none],fun _ _ => rfl,asked⟩
    · rename_i rcp rest head
      rw [head] at once
      split
      · rename_i due
        obtain ⟨idle,others,back⟩ := visit_rest (m := m) once nowMS refused
        have behind : rcp ∉ rest := (List.nodup_cons.mp once).1
        have same : ∀ other ∈ rest, lastRequest ({ m with idleList := rest }.visit nowMS refused rcp).1 other =
            lastRequest m other := fun other member => others other (fun equal => behind (equal ▸ member))
        generalize { m with idleList := rest }.visit nowMS refused rcp = visited at *
        obtain ⟨m',back?,out⟩ := visited
        dsimp only at *
        have off : rcp ∉ temp := apart rcp (by simp [head])
        have dropped : m.idleList.dropWhile (m.isDue nowMS) = rest.dropWhile (m'.isDue nowMS) := by
          rw [head,List.dropWhile_cons_of_pos due]
          exact dropWhile_congr fun other member => (isDue_eq (same other member) nowMS).symm
        have once' : m'.idleList.Nodup := idle ▸ (List.nodup_cons.mp once).2
        have apart' : ∀ other ∈ m'.idleList, other ∉ if back? then temp ++ [rcp] else temp := by
          intro other member
          rw [idle] at member
          have before : other ∉ temp := apart other (by simp [head,member])
          have first : other ≠ rcp := fun equal => behind (equal ▸ member)
          split <;> simp [before,first]
        have asked' : ∀ other ∈ if back? then temp ++ [rcp] else temp, lastRequest m' other = nowMS := by
          have before : ∀ other ∈ temp, lastRequest m' other = nowMS := fun other member =>
            (others other (fun equal => off (equal ▸ member))).trans (asked other member)
          intro other member
          split at member
          · rcases List.mem_append.mp member with member | last
            · exact before other member
            · obtain rfl := List.mem_singleton.mp last
              exact back ‹_›
          · exact before other member
        have enough' : m'.idleList.length ≤ checks := by
          rw [head,List.length_cons] at enough
          rw [idle]
          exact Nat.le_of_succ_le_succ enough
        obtain ⟨left,kept,put⟩ := ih once' apart' asked' enough'
        rw [idle] at left
        refine ⟨left.trans dropped.symm,fun other member => ?_,put⟩
        refine (kept other member).trans (same other ?_)
        rw [left] at member
        exact (List.dropWhile_sublist _).subset member
      · rename_i idle
        rw [head,List.dropWhile_cons_of_neg idle]
        exact ⟨head,fun _ _ => rfl,asked⟩

/-- The scan puts the links it asks behind all others, as it logs. -/
theorem InOrder.scan (placed : Placed temp m) (order : InOrder past (m.idleList ++ temp)) (nowMS : Nat)
    (refused : List Nat) (checks : Nat) :
    let result := RelayConnectionManager.scan nowMS refused checks m temp
    InOrder (result.2.2.reverse ++ past) (result.1.idleList ++ result.2.1) := by
  induction checks generalizing m temp past with
  | zero => exact order
  | succ checks ih =>
    unfold RelayConnectionManager.scan
    split
    · exact order
    · rename_i rcp rest head
      split
      · have visited := placed.visit head nowMS refused
        have once : ((rcp :: rest) ++ temp).Nodup := (List.nodup_append.mp (head ▸ placed.once)).1
        have behind : rcp ∉ rest ++ temp := (List.nodup_cons.mp once).1
        rw [head] at order
        rcases visit_cases { m with idleList := rest } nowMS refused rcp with
          ⟨m',entries,result,skipped,idle,-,-⟩ | result
        · rw [result] at visited ⊢
          dsimp only at visited ⊢
          have moved : toTail (rcp :: rest ++ temp) rcp = m'.idleList ++ (temp ++ [rcp]) := by
            rw [toTail,List.cons_append,without_head behind,idle,List.append_assoc]
          have asked : InOrder (.requested rcp :: (entries.reverse ++ past)) (m'.idleList ++ (temp ++ [rcp])) := by
            rw [← moved]
            exact (order.skip (fun entry member => skipped entry (List.mem_reverse.mp member))).putLast rfl
          simpa [List.append_assoc] using ih visited asked
        · rw [result] at visited ⊢
          dsimp only at visited ⊢
          have killed : InOrder past (without rest rcp ++ temp) := by
            refine List.Pairwise.sublist ?_ order
            refine List.Sublist.append ?_ (List.Sublist.refl temp)
            exact (List.filter_sublist).trans (List.sublist_cons_self rcp rest)
          exact ih visited killed
      · exact order

end Scan

/-! ## Runs -/

theorem InOrder.tick (placed : Placed [] m) (order : InOrder past m.idleList) (nowMS : Nat) (refused : List Nat) :
    InOrder ((m.tick nowMS refused).2.reverse ++ past) (m.tick nowMS refused).1.idleList := by
  have freed : InOrder (freedPast m m.killList ++ past) (m.freed nowMS).idleList := by
    rw [idleList_freed]
    exact (order.freed m).sublist List.filter_sublist
  have scanned := InOrder.scan (placed.freed nowMS) (by rwa [List.append_nil]) (m.freed nowMS).ticker refused
    maxReconnectOrKeepAliveCheckCount
  unfold RelayConnectionManager.tick doReconnectAndKeepAlive
  generalize RelayConnectionManager.scan (m.freed nowMS).ticker refused maxReconnectOrKeepAliveCheckCount
    (m.freed nowMS) [] = result at *
  simpa [freedPast,doFreeKillList,List.append_assoc] using scanned

theorem InOrder.addRelayGroup (placed : Placed [] m) (order : InOrder past m.idleList) (runtimeServerId : Nat)
    (target : TargetAddress) : InOrder ((m.addRelayGroup runtimeServerId target).2.reverse ++ past)
      (m.addRelayGroup runtimeServerId target).1.idleList := by
  have new : ∀ rcp ∈ connectionsOf m.allocated, rcp ∉ m.idleList := by
    intro rcp member listed
    have there := (placed.linked rcp).mp (by simp [listed])
    rw [mem_connectionsOf.mp member] at there
    exact Nat.lt_irrefl _ (placed.bounded _ there)
  have once := nodup_connectionsOf m.allocated
  unfold RelayConnectionManager.addRelayGroup
  split
  · exact order.addedAll once new
  · rename_i gp _
    split
    · exact order
    · have retired : InOrder (((connectionsOf gp).map
          (fun rcp => LinkAction.retired (m.connections rcp).connectionId)).reverse ++ past) m.idleList := by
        apply order.skip
        intro entry member
        obtain ⟨rcp,-,rfl⟩ := List.mem_map.mp (List.mem_reverse.mp member)
        exact ⟨rfl,fun _ same => by cases same⟩
      rw [List.reverse_append,List.append_assoc]
      exact retired.addedAll once new

theorem InOrder.step (placed : Placed [] m) (order : InOrder past m.idleList) (e : LinkEvent) :
    InOrder ((RelayLinks.step m e).2.reverse ++ past) (RelayLinks.step m e).1.idleList := by
  cases e with
  | addRelayGroup runtimeServerId target => exact InOrder.addRelayGroup placed order runtimeServerId target
  | tick nowMS refused => exact InOrder.tick placed order nowMS refused
  | connected rcp =>
    simp only [RelayLinks.step]
    split
    · exact order.putLast rfl
    · exact order
  | dispatch packet =>
    simp only [RelayLinks.step]
    split
    · cases packet with
      | keepAlive rcp => exact order.putLast rfl
      | packet => exact order
    · exact order
  | peerClose rcp stillOpen =>
    simp only [RelayLinks.step]
    split
    · exact order.sublist List.filter_sublist
    · exact order

theorem schedule_reach {log : List LinkAction} (reach : (linkMachine keys).Reach Machine.anything m log) :
    Placed [] m ∧ InOrder log.reverse m.idleList := by
  apply reach.invariant (I := fun m log => Placed [] m ∧ InOrder log.reverse m.idleList)
  · rintro m ⟨ticker,rfl⟩
    exact ⟨placed_init keys ticker,List.Pairwise.nil⟩
  · rintro m log e - - ⟨placed,order⟩
    refine ⟨placed_step placed e,?_⟩
    rw [List.reverse_append]
    exact InOrder.step placed order e

/-! ## The clock -/

/-- The ticks of the library's clock do not go back, and stay within its signed half. -/
def Clocked : Nat → List LinkEvent → Prop
  | _, [] => True
  | ticker, .tick nowMS _ :: events => ticker ≤ nowMS ∧ nowMS < 2^63 ∧ Clocked nowMS events
  | ticker, _ :: events => Clocked ticker events

/-- No link was asked later than at a time. -/
def AskedBy (nowMS : Nat) (m : RelayConnectionManager keys) : Prop :=
  ∀ rcp, m.groups (groupPtr rcp) ≠ none → lastRequest m rcp ≤ nowMS

theorem AskedBy.later {nowMS later : Nat} (asked : AskedBy nowMS m) (order : nowMS ≤ later) : AskedBy later m :=
  fun rcp there => (asked rcp there).trans order

theorem groups_freed (m : RelayConnectionManager keys) (nowMS gp : Nat) :
    (m.freed nowMS).groups gp = if gp ∈ m.killGroupList then none else m.groups gp := by
  obtain ⟨-,-,killGroupList,groups⟩ := foldl_freeKilled m.killList { m with ticker := nowMS }
  have freed := (freed_doFreeKillGroupList { m with ticker := nowMS }.doFreeKillList.1).groups gp
  simp only [doFreeKillList,killGroupList,groups] at freed
  exact freed

theorem ticker_tick (m : RelayConnectionManager keys) (nowMS : Nat) (refused : List Nat) :
    (m.tick nowMS refused).1.ticker = nowMS := by
  unfold RelayConnectionManager.tick doReconnectAndKeepAlive
  exact (beside_scan _ _ refused _ []).ticker.trans (ticker_freed m nowMS)

theorem AskedBy.freed {nowMS : Nat} (asked : AskedBy nowMS m) : AskedBy nowMS (m.freed nowMS) := by
  intro rcp there
  have alive : groupPtr rcp ∉ m.killGroupList := by
    intro gone
    apply there
    rw [groups_freed,if_pos gone]
  rw [groups_freed,if_neg alive] at there
  rw [lastRequest_freed m nowMS alive]
  split
  · exact Nat.le_refl nowMS
  · exact asked rcp there

theorem AskedBy.visit {nowMS : Nat} (asked : AskedBy nowMS m) (refused : List Nat) (rcp : Nat) :
    AskedBy nowMS (m.visit nowMS refused rcp).1 := by
  intro other there
  rw [(beside_visit m nowMS refused rcp).groups] at there
  rcases visit_cases m nowMS refused rcp with ⟨m',entries,result,-,-,now,others⟩ | result
  · rw [result]
    by_cases same : other = rcp
    · rw [same,now]
    · rw [others other same]
      exact asked other there
  · rw [result]
    exact asked other there

theorem AskedBy.scan {nowMS : Nat} (asked : AskedBy nowMS m) (refused temp : List Nat) (checks : Nat) :
    AskedBy nowMS (RelayConnectionManager.scan nowMS refused checks m temp).1 := by
  induction checks generalizing m temp with
  | zero => exact asked
  | succ checks ih =>
    unfold RelayConnectionManager.scan
    split
    · exact asked
    · rename_i rcp rest head
      split
      · have popped : AskedBy nowMS { m with idleList := rest } := asked
        exact ih (popped.visit refused rcp) _
      · exact asked

theorem AskedBy.tick {nowMS : Nat} (asked : AskedBy nowMS m) (refused : List Nat) :
    AskedBy nowMS (m.tick nowMS refused).1 := by
  have scanned := asked.freed.scan refused [] maxReconnectOrKeepAliveCheckCount
  unfold RelayConnectionManager.tick doReconnectAndKeepAlive
  rw [ticker_freed]
  exact scanned

theorem AskedBy.addRelayGroup {nowMS : Nat} (asked : AskedBy nowMS m) (runtimeServerId : Nat)
    (target : TargetAddress) : AskedBy nowMS (m.addRelayGroup runtimeServerId target).1 := by
  have new (m : RelayConnectionManager keys) (asked : AskedBy nowMS m) :
      AskedBy nowMS (m.newGroup runtimeServerId target) := by
    intro rcp there
    by_cases same : groupPtr rcp = m.allocated
    · simp [lastRequest,newGroup,blank,same]
    · have before : m.groups (groupPtr rcp) ≠ none := by simpa [newGroup,blank,same] using there
      simpa [lastRequest,newGroup,blank,same] using asked rcp before
  unfold RelayConnectionManager.addRelayGroup
  split
  · exact new m asked
  · split
    · exact asked
    · exact new _ asked

theorem AskedBy.modify {nowMS : Nat} (asked : AskedBy nowMS m) (changed : Nat)
    {change : RelayConnection → RelayConnection}
    (same : ∀ rc, (change rc).lastKeepAliveRequestTimestampMS = rc.lastKeepAliveRequestTimestampMS) :
    AskedBy nowMS (m.modify changed change) := by
  intro rcp there
  rw [lastRequest_modify]
  split
  · rename_i here
    rw [same,← here]
    exact asked rcp there
  · exact asked rcp there

theorem AskedBy.keepAlive {nowMS : Nat} (asked : AskedBy nowMS m) (rcp : Nat) : AskedBy nowMS (m.keepAlive rcp) := by
  have answered : AskedBy nowMS (m.modify rcp (fun rc => { rc with lastKeepAliveResponseTimestampMS := m.ticker })) :=
    asked.modify rcp (fun _ => rfl)
  exact answered

theorem AskedBy.onPeerClose {nowMS : Nat} (asked : AskedBy nowMS m) (rcp : Nat) (stillOpen : Bool) :
    AskedBy nowMS (m.onPeerClose rcp stillOpen) := by
  have closed : AskedBy nowMS (m.modify rcp (fun rc => { rc with isOpen := stillOpen, calledBack := false })) :=
    asked.modify rcp (fun _ => rfl)
  exact closed

/-- The clock and the links it stamps, before an event and after it. -/
theorem clocked_step {e : LinkEvent} {events : List LinkEvent} (clock : Clocked m.ticker (e :: events))
    (asked : AskedBy m.ticker m) :
    Clocked (RelayLinks.step m e).1.ticker events ∧
      AskedBy (RelayLinks.step m e).1.ticker (RelayLinks.step m e).1 := by
  cases e with
  | addRelayGroup runtimeServerId target =>
    have same : (m.addRelayGroup runtimeServerId target).1.ticker = m.ticker := by
      unfold RelayConnectionManager.addRelayGroup
      split
      · rfl
      · split <;> rfl
    change Clocked (m.addRelayGroup runtimeServerId target).1.ticker events ∧ AskedBy _ _
    rw [same]
    exact ⟨clock,same ▸ asked.addRelayGroup runtimeServerId target⟩
  | tick nowMS refused =>
    obtain ⟨order,-,rest⟩ := clock
    have now : (m.tick nowMS refused).1.ticker = nowMS := ticker_tick m nowMS refused
    change Clocked (m.tick nowMS refused).1.ticker events ∧ AskedBy (m.tick nowMS refused).1.ticker _
    rw [now]
    exact ⟨rest,(asked.later order).tick refused⟩
  | connected rcp =>
    simp only [RelayLinks.step]
    split
    · exact ⟨clock,asked.keepAlive rcp⟩
    · exact ⟨clock,asked⟩
  | dispatch packet =>
    simp only [RelayLinks.step]
    split
    · cases packet with
      | keepAlive rcp => exact ⟨clock,asked.keepAlive rcp⟩
      | packet => exact ⟨clock,asked⟩
    · exact ⟨clock,asked⟩
  | peerClose rcp stillOpen =>
    simp only [RelayLinks.step]
    split
    · exact ⟨clock,asked.onPeerClose rcp stillOpen⟩
    · exact ⟨clock,asked⟩

theorem clocked_run {front back : List LinkEvent} (clock : Clocked m.ticker (front ++ back))
    (asked : AskedBy m.ticker m) : Clocked ((linkMachine keys).run m front).1.ticker back ∧
      AskedBy ((linkMachine keys).run m front).1.ticker ((linkMachine keys).run m front).1 := by
  induction front generalizing m with
  | nil => exact ⟨clock,asked⟩
  | cons e front ih =>
    obtain ⟨rest,later⟩ := clocked_step clock asked
    exact ih rest later

/-! ## One tick -/

/-- Every link is on one of the two lists. -/
def linkCount (m : RelayConnectionManager keys) : Nat := m.idleList.length + m.killList.length

/-- No link of the idle list is due. -/
def Scheduled (m : RelayConnectionManager keys) (nowMS : Nat) : Prop :=
  ∀ rcp ∈ m.idleList, ¬ Due nowMS (lastRequest m rcp)

/-- No link that is due was answered or connected after a link that is not due was asked, or answered,
last; links whose group is given up do not count. -/
def InTime (m : RelayConnectionManager keys) (log : List LinkAction) (nowMS : Nat) : Prop :=
  ∀ a ∈ m.idleList, ∀ b ∈ m.idleList, groupPtr a ∉ m.killGroupList → groupPtr b ∉ m.killGroupList →
    Due nowMS (lastRequest m a) → ¬ Due nowMS (lastRequest m b) → ¬ Behind log.reverse a b

theorem not_due_now (nowMS : Nat) : ¬ Due nowMS nowMS := by
  unfold Due signedDiff
  rw [sub64_of_le (Nat.le_refl nowMS),Nat.sub_self]
  decide

/-- As long as time does not go back, a link is due when the timeout has passed. -/
theorem due_iff {nowMS timestampMS : Nat} (order : timestampMS ≤ nowMS) (clock : nowMS < 2^63) :
    Due nowMS timestampMS ↔ timestampMS + 60000 ≤ nowMS := by
  unfold Due signedDiff reconnectOrKeepAliveTimeout
  rw [sub64_of_le order,if_pos (Nat.lt_of_le_of_lt (Nat.sub_le _ _) clock)]
  omega

/-- The links that are not due were asked less than the timeout ago. -/
theorem scheduled_iff {nowMS : Nat} (placed : Placed [] m) (asked : AskedBy nowMS m) (clock : nowMS < 2^63) :
    Scheduled m nowMS ↔ ∀ rcp ∈ m.idleList, nowMS < lastRequest m rcp + reconnectOrKeepAliveTimeout.toNat := by
  refine forall_congr' fun rcp => forall_congr' fun idle => ?_
  have there : m.groups (groupPtr rcp) ≠ none := (placed.linked rcp).mp (by simp [idle])
  rw [due_iff (asked rcp there) clock,Nat.not_le]
  rfl

theorem InOrder.freedTick {log : List LinkAction} (order : InOrder log.reverse m.idleList) (nowMS : Nat) :
    InOrder (freedPast m m.killList ++ log.reverse) (m.freed nowMS).idleList := by
  rw [idleList_freed]
  exact (order.freed m).sublist List.filter_sublist

theorem mem_freed {nowMS : Nat} : rcp ∈ (m.freed nowMS).idleList ↔
    (rcp ∈ m.idleList ∨ rcp ∈ m.killList) ∧ groupPtr rcp ∉ m.killGroupList := by
  rw [idleList_freed,List.mem_filter,mem_foldl_toTail,decide_eq_true_iff]

/-- What the freed links make of the order does not count: they were asked now, and are last. -/
theorem inTime_freed {log : List LinkAction} (placed : Placed [] m) (nowMS : Nat) :
    (∀ a ∈ (m.freed nowMS).idleList, ∀ b ∈ (m.freed nowMS).idleList, (m.freed nowMS).isDue nowMS a = true →
      (m.freed nowMS).isDue nowMS b = false → ¬ Behind (freedPast m m.killList ++ log.reverse) a b) ↔
    InTime m log nowMS := by
  have apart {rcp : Nat} (idle : rcp ∈ m.idleList) : rcp ∉ m.killList := by
    have once := placed.once
    rw [List.append_nil] at once
    exact fun killed => (List.nodup_append.mp once).2.2 rcp idle rcp killed rfl
  have last {rcp : Nat} (alive : groupPtr rcp ∉ m.killGroupList) (spared : rcp ∉ m.killList) :
      lastRequest (m.freed nowMS) rcp = lastRequest m rcp := by
    rw [lastRequest_freed m nowMS alive,if_neg spared]
  constructor
  · intro freed a idleA b idleB aliveA aliveB due notDue behind
    refine freed a (mem_freed.mpr ⟨.inl idleA,aliveA⟩) b (mem_freed.mpr ⟨.inl idleB,aliveB⟩) ?_ ?_
      ((behind_freed (apart idleA)).mpr ⟨apart idleB,behind⟩)
    · rwa [isDue_true,last aliveA (apart idleA)]
    · rwa [isDue_false,last aliveB (apart idleB)]
  · intro inTime a memberA b memberB due notDue behind
    obtain ⟨placeA,aliveA⟩ := mem_freed.mp memberA
    obtain ⟨placeB,aliveB⟩ := mem_freed.mp memberB
    rw [isDue_true] at due
    rw [isDue_false] at notDue
    have sparedA : a ∉ m.killList := by
      intro killed
      rw [lastRequest_freed m nowMS aliveA,if_pos killed] at due
      exact not_due_now nowMS due
    obtain ⟨sparedB,behind⟩ := (behind_freed sparedA).mp behind
    rw [last aliveA sparedA] at due
    rw [last aliveB sparedB] at notDue
    exact inTime a (placeA.resolve_right sparedA) b (placeB.resolve_right sparedB) aliveA aliveB due notDue behind

theorem tick_scheduled_iff {log : List LinkAction} (placed : Placed [] m) (order : InOrder log.reverse m.idleList)
    (few : linkCount m ≤ maxReconnectOrKeepAliveCheckCount) (nowMS : Nat) (refused : List Nat) :
    Scheduled (m.tick nowMS refused).1 nowMS ↔ InTime m log nowMS := by
  have once : (m.freed nowMS).idleList.Nodup := by
    have once := (placed.freed nowMS).once
    rw [List.append_assoc] at once
    exact (List.nodup_append.mp once).1
  have enough : (m.freed nowMS).idleList.length ≤ maxReconnectOrKeepAliveCheckCount := by
    rw [idleList_freed]
    exact (List.length_filter_le _ _).trans ((length_foldl_toTail_le m.killList m.idleList).trans few)
  have spec := @scan_spec keys (m.freed nowMS) nowMS refused [] _ once (by simp) (by simp) enough
  have clear : Scheduled (m.tick nowMS refused).1 nowMS ↔
      ∀ rcp ∈ (m.freed nowMS).idleList.dropWhile ((m.freed nowMS).isDue nowMS),
        (m.freed nowMS).isDue nowMS rcp = false := by
    unfold RelayConnectionManager.tick doReconnectAndKeepAlive
    rw [ticker_freed]
    generalize RelayConnectionManager.scan nowMS refused maxReconnectOrKeepAliveCheckCount (m.freed nowMS) [] =
      result at *
    obtain ⟨left,kept,put⟩ := spec
    rw [← left]
    constructor
    · intro scheduled rcp member
      have notDue : ¬ Due nowMS (lastRequest result.1 rcp) := scheduled rcp (List.mem_append_left _ member)
      rwa [isDue_false,← kept rcp member]
    · intro idle rcp member
      change ¬ Due nowMS (lastRequest result.1 rcp)
      rcases List.mem_append.mp member with member | asked
      · rw [kept rcp member,← isDue_false]
        exact idle rcp member
      · rw [put rcp asked]
        exact not_due_now nowMS
  rw [clear,dropWhile_clear_iff,(order.freedTick nowMS).pairwise_iff,inTime_freed placed]

/-! ## Any run -/

theorem linkMachine_tick (m : RelayConnectionManager keys) (front : List LinkEvent) (nowMS : Nat) (refused : List Nat) :
    ((linkMachine keys).run m (front ++ [.tick nowMS refused])).1 =
      (((linkMachine keys).run m front).1.tick nowMS refused).1 := by
  rw [Machine.run_append]
  rfl

/-- In every run with no more links than a scan looks at, no tick leaves a link that is due, if and only
if at every tick the answers were in time. While the clock does not go back, a link that is not due was
asked less than the timeout ago. -/
theorem keep_alive_schedule_iff (keys : KeySource) (ticker : Nat) (events : List LinkEvent)
    (few : (linkMachine keys).Stays (fun m _ => linkCount m ≤ maxReconnectOrKeepAliveCheckCount)
      (init keys ticker) [] events) :
    ((∀ front nowMS refused back, events = front ++ .tick nowMS refused :: back →
      Scheduled ((linkMachine keys).run (init keys ticker) (front ++ [.tick nowMS refused])).1 nowMS) ↔
    (∀ front nowMS refused back, events = front ++ .tick nowMS refused :: back →
      InTime ((linkMachine keys).run (init keys ticker) front).1
        ((linkMachine keys).run (init keys ticker) front).2 nowMS)) ∧
    (Clocked ticker events → ∀ front nowMS refused back, events = front ++ .tick nowMS refused :: back →
      let m := ((linkMachine keys).run (init keys ticker) (front ++ [.tick nowMS refused])).1
      Scheduled m nowMS ↔
        ∀ rcp ∈ m.idleList, nowMS < lastRequest m rcp + reconnectOrKeepAliveTimeout.toNat) := by
  constructor
  · refine forall_congr' fun front => forall_congr' fun nowMS => forall_congr' fun refused =>
      forall_congr' fun back => forall_congr' fun split => ?_
    have reach := (linkMachine keys).reach_run (s := init keys ticker) ⟨ticker,rfl⟩ front
    obtain ⟨placed,order⟩ := schedule_reach reach
    rw [linkMachine_tick]
    exact tick_scheduled_iff placed order (few front _ split) nowMS refused
  · intro clock front nowMS refused back split
    have reach := (linkMachine keys).reach_run (s := init keys ticker) ⟨ticker,rfl⟩ (front ++ [.tick nowMS refused])
    have first : AskedBy ticker (init keys ticker) := fun _ there => absurd rfl there
    rw [split] at clock
    obtain ⟨⟨order,below,-⟩,asked⟩ := clocked_run clock first
    refine scheduled_iff (schedule_reach reach).1 ?_ below
    rw [linkMachine_tick]
    exact (asked.later order).tick refused

/-! ## An answer at the wrong time -/

def nearRelay : TargetAddress := ⟨⟨.ipv4,[10,0,0,3],7000⟩,by decide,by decide⟩
def farRelay : TargetAddress := ⟨⟨.ipv4,[10,0,0,2],7000⟩,by decide,by decide⟩

/-- The links of a second relay are connected ten seconds after those of the first, and then a link of
the first relay answers. -/
def lateAnswer : List LinkEvent :=
  [.addRelayGroup 1 nearRelay,.tick 100000 [],.addRelayGroup 2 farRelay,.tick 110000 [],
    .dispatch (.keepAlive 0),.tick 160000 []]

theorem lateAnswer_few : (linkMachine .sequential).Stays
    (fun m _ => linkCount m ≤ maxReconnectOrKeepAliveCheckCount) (init .sequential 0) [] lateAnswer := by
  simp only [lateAnswer,Machine.stays_cons,Machine.stays_nil]
  refine ⟨?_,?_,?_,?_,?_,?_,?_⟩ <;> decide

theorem lateAnswer_split : lateAnswer = lateAnswer.take 5 ++ .tick 160000 [] :: [] := rfl

theorem lateAnswer_clocked : Clocked 0 lateAnswer := by
  simp [lateAnswer,Clocked]

/-- A minute after it was connected the link that answered is due, and still is when the tick has passed. -/
theorem lateAnswer_missed :
    let m := ((linkMachine .sequential).run (init .sequential 0) (lateAnswer.take 5 ++ [.tick 160000 []])).1
    0 ∈ m.idleList ∧ lastRequest m 0 = 100000 := by
  decide

theorem lateAnswer_not_inTime :
    ¬ ∀ front nowMS refused back, lateAnswer = front ++ .tick nowMS refused :: back →
      InTime ((linkMachine .sequential).run (init .sequential 0) front).1
        ((linkMachine .sequential).run (init .sequential 0) front).2 nowMS := by
  intro inTime
  have spec := keep_alive_schedule_iff .sequential 0 lateAnswer lateAnswer_few
  have scheduled := spec.1.mpr inTime _ _ _ _ lateAnswer_split
  obtain ⟨idle,last⟩ := lateAnswer_missed
  have asked := (spec.2 lateAnswer_clocked _ _ _ _ lateAnswer_split).mp scheduled 0 idle
  rw [last] at asked
  exact absurd asked (by decide)

theorem answered_link_missed :
    ¬ ∀ (keys : KeySource) (ticker : Nat) (events : List LinkEvent), Clocked ticker events →
      (linkMachine keys).Stays (fun m _ => linkCount m ≤ maxReconnectOrKeepAliveCheckCount)
        (init keys ticker) [] events →
      ∀ front nowMS refused back, events = front ++ .tick nowMS refused :: back →
        let m := ((linkMachine keys).run (init keys ticker) (front ++ [.tick nowMS refused])).1
        ∀ rcp ∈ m.idleList, nowMS < lastRequest m rcp + reconnectOrKeepAliveTimeout.toNat := by
  intro always
  obtain ⟨idle,last⟩ := lateAnswer_missed
  have asked := always .sequential 0 lateAnswer lateAnswer_clocked lateAnswer_few _ _ _ _ lateAnswer_split 0 idle
  rw [last] at asked
  exact absurd asked (by decide)

end MiniPP.RelayLinks
