import MiniPP.Registry.ServerList
import Mathlib.Data.List.Induction

/-! Whether the list that is handed out catches up with the live one. Only an addition marks
a list dirty, so a removal is published with the next addition, or never. -/
namespace MiniPP.Registry

variable {grow : Nat → Nat}

/-- The time of a change of the live list of this kind. -/
def ListAction.changedAt (kind : ServerKind) : ListAction → Option Nat
  | .added kind' _ timestampMS | .removed kind' _ timestampMS =>
    if kind' = kind then some timestampMS else none
  | .published _ _ _ => none

/-- What has been done since the list of this kind was published last. -/
def sincePublished (kind : ServerKind) (log : List ListAction) : List ListAction :=
  log.foldl (fun since a =>
    match a with
    | .published kind' _ _ => if kind' = kind then [] else since
    | _ => since ++ [a]) []

def AddedSince (kind : ServerKind) (log : List ListAction) : Prop :=
  ∃ serverId timestampMS, .added kind serverId timestampMS ∈ sincePublished kind log

def RemovedSince (kind : ServerKind) (log : List ListAction) : Prop :=
  ∃ serverId timestampMS, .removed kind serverId timestampMS ∈ sincePublished kind log

/-- No change of the live list for more than the timeout. -/
def Quiet (kind : ServerKind) (nowMS : Nat) (log : List ListAction) : Prop :=
  ∀ a ∈ log, ∀ timestampMS ∈ a.changedAt kind, timestampMS + upgradeVersionTimeoutMS < nowMS

instance (kind : ServerKind) (nowMS : Nat) (log : List ListAction) : Decidable (Quiet kind nowMS log) :=
  inferInstanceAs (Decidable (∀ a ∈ log, ∀ timestampMS ∈ a.changedAt kind, _))

/-- The clock does not go back. -/
def Clocked (m : InternalServerListManager) (_ : List ListAction) : ListEvent → Prop
  | .tick nowMS => m.ticker ≤ nowMS
  | _ => True

theorem sincePublished_append (kind : ServerKind) (log : List ListAction) (a : ListAction) :
    sincePublished kind (log ++ [a]) =
      match a with
      | .published kind' _ _ => if kind' = kind then [] else sincePublished kind log
      | _ => sincePublished kind log ++ [a] := by
  unfold sincePublished
  rw [List.foldl_append]
  cases a <;> rfl

theorem addedSince_added (kind kind' : ServerKind) (log : List ListAction) (serverId timestampMS : Nat) :
    AddedSince kind (log ++ [.added kind' serverId timestampMS]) ↔ kind' = kind ∨ AddedSince kind log := by
  simp only [AddedSince,sincePublished_append,List.mem_append,List.mem_singleton,ListAction.added.injEq]
  grind

theorem addedSince_removed (kind kind' : ServerKind) (log : List ListAction) (serverId timestampMS : Nat) :
    AddedSince kind (log ++ [.removed kind' serverId timestampMS]) ↔ AddedSince kind log := by
  simp [AddedSince,sincePublished_append]

theorem removedSince_added (kind kind' : ServerKind) (log : List ListAction) (serverId timestampMS : Nat) :
    RemovedSince kind (log ++ [.added kind' serverId timestampMS]) ↔ RemovedSince kind log := by
  simp [RemovedSince,sincePublished_append]

theorem removedSince_removed (kind kind' : ServerKind) (log : List ListAction) (serverId timestampMS : Nat) :
    RemovedSince kind (log ++ [.removed kind' serverId timestampMS]) ↔ kind' = kind ∨ RemovedSince kind log := by
  simp only [RemovedSince,sincePublished_append,List.mem_append,List.mem_singleton,ListAction.removed.injEq]
  grind

/-- A tick that publishes the list starts anew; one that does not adds nothing that counts. -/
theorem sincePublished_published (kind : ServerKind) (log : List ListAction) {out : List ListAction}
    (published : ∀ a ∈ out, ∃ kind version list, a = .published kind version list) :
    ((∃ version list, .published kind version list ∈ out) → sincePublished kind (log ++ out) = []) ∧
    ((∀ version list, .published kind version list ∉ out) →
      sincePublished kind (log ++ out) = sincePublished kind log) := by
  induction out using List.reverseRecOn with
  | nil => simp
  | append_singleton out a ih =>
    obtain ⟨kind',version,list,rfl⟩ := published a (by simp)
    obtain ⟨renewed,kept⟩ := ih (fun a member => published a (List.mem_append_left _ member))
    rw [← List.append_assoc,sincePublished_append]
    dsimp only
    by_cases same : kind' = kind
    · subst same
      rw [if_pos rfl]
      exact ⟨fun _ => rfl,fun none => absurd (List.mem_append_right out (List.mem_singleton_self _))
        (none version list)⟩
    · rw [if_neg same]
      refine ⟨?_,fun none => kept (fun version list member =>
        none version list (List.mem_append_left _ member))⟩
      rintro ⟨version',list',member⟩
      rcases List.mem_append.mp member with old | new
      · exact renewed ⟨version',list',old⟩
      · cases List.mem_singleton.mp new
        exact absurd rfl same

/-! ## The invariant -/

/-- How the live list of a kind stands to the list that is handed out. -/
structure Tracked (kind : ServerKind) (m : InternalServerListManager) (log : List ListAction) : Prop where
  dirty : (m.lists kind).dirty = true ↔ AddedSince kind log
  kept : ¬ AddedSince kind log → ¬ RemovedSince kind log →
    (m.lists kind).infoList.items = (m.lists kind).versionedInfoList
  shrunk : ¬ AddedSince kind log → RemovedSince kind log →
    (m.lists kind).infoList.items.length < (m.lists kind).versionedInfoList.length
  stamp : (m.lists kind).dirty = true →
    ∃ serverId, .added kind serverId (m.lists kind).versionTimestampMS ∈ log
  clock : (m.lists kind).versionTimestampMS ≤ m.ticker

theorem tracked_init (kind : ServerKind) {ticker versionTimestampMS : Nat}
    (earlier : versionTimestampMS ≤ ticker) : Tracked kind (.init ticker versionTimestampMS) [] where
  dirty := by simp [InternalServerListManager.init,AddedSince,sincePublished]
  kept _ _ := rfl
  shrunk _ removed := by simp [RemovedSince,sincePublished] at removed
  stamp dirty := by simp [InternalServerListManager.init] at dirty
  clock := earlier

theorem tracked_added {kind kind' : ServerKind} {m m' : InternalServerListManager} {log : List ListAction}
    (valid : Tracked kind m log) {serverId : Nat} {serverAddress : NetAddress} {pointer : Pointer}
    (added : m.addServerInfo grow kind' serverId serverAddress = some (m',pointer)) :
    Tracked kind m' (log ++ [.added kind' serverId m.ticker]) := by
  obtain ⟨infoList,-,-,rfl⟩ := InternalServerListManager.addServerInfo_spec added
  by_cases same : kind = kind'
  · subst same
    have now : AddedSince kind (log ++ [.added kind serverId m.ticker]) :=
      (addedSince_added kind kind log serverId m.ticker).mpr (.inl rfl)
    refine ⟨?_,fun none => absurd now none,fun none => absurd now none,?_,?_⟩
    · simp [now]
    · intro _
      exact ⟨serverId,by simp⟩
    · simp
  · have since : AddedSince kind (log ++ [.added kind' serverId m.ticker]) ↔ AddedSince kind log := by
      rw [addedSince_added]
      simp [Ne.symm same]
    have gone : RemovedSince kind (log ++ [.added kind' serverId m.ticker]) ↔ RemovedSince kind log :=
      removedSince_added kind kind' log serverId m.ticker
    refine ⟨?_,?_,?_,?_,?_⟩
    · simpa [same,since] using valid.dirty
    · simpa [same,since,gone] using valid.kept
    · simpa [same,since,gone] using valid.shrunk
    · intro dirty
      simp only [InternalServerListManager.lists_setList,same,if_false] at dirty ⊢
      obtain ⟨serverId',old⟩ := valid.stamp dirty
      exact ⟨serverId',List.mem_append_left _ old⟩
    · simpa [same] using valid.clock

theorem tracked_removed {kind : ServerKind} {m : InternalServerListManager} {log : List ListAction}
    (valid : Tracked kind m log) (kind' : ServerKind) (serverId : Nat) :
    Tracked kind (m.removeServerInfo kind' serverId).1 (log ++ (m.removeServerInfo kind' serverId).2) := by
  rcases m.removeServerInfo_spec kind' serverId with ⟨-,same⟩ | ⟨i,found,same⟩
  · rw [same,List.append_nil]
    exact valid
  rw [same]
  have since : AddedSince kind (log ++ [.removed kind' serverId m.ticker]) ↔ AddedSince kind log :=
    addedSince_removed kind kind' log serverId m.ticker
  by_cases here : kind = kind'
  · subst here
    have gone : RemovedSince kind (log ++ [.removed kind serverId m.ticker]) :=
      (removedSince_removed kind kind log serverId m.ticker).mpr (.inl rfl)
    obtain ⟨-,info,there,-⟩ := ServerInfoList.position?_eq_some.mp found
    have inside := (List.getElem?_eq_some_iff.mp there).1
    have shorter := List.length_eraseIdx_of_lt inside
    refine ⟨?_,fun _ none => absurd gone none,?_,?_,?_⟩
    · simpa [since] using valid.dirty
    · intro none _
      rw [since] at none
      simp only [InternalServerListManager.lists_setList,if_true,GrowArray.items_erase]
      by_cases before : RemovedSince kind log
      · have := valid.shrunk none before
        omega
      · rw [← valid.kept none before]
        omega
    · intro dirty
      simp only [InternalServerListManager.lists_setList,if_true] at dirty ⊢
      obtain ⟨serverId',old⟩ := valid.stamp dirty
      exact ⟨serverId',List.mem_append_left _ old⟩
    · simpa using valid.clock
  · have gone : RemovedSince kind (log ++ [.removed kind' serverId m.ticker]) ↔ RemovedSince kind log := by
      rw [removedSince_removed]
      simp [Ne.symm here]
    refine ⟨?_,?_,?_,?_,?_⟩
    · simpa [here,since] using valid.dirty
    · simpa [here,since,gone] using valid.kept
    · simpa [here,since,gone] using valid.shrunk
    · intro dirty
      simp only [InternalServerListManager.lists_setList,here,if_false] at dirty ⊢
      obtain ⟨serverId',old⟩ := valid.stamp dirty
      exact ⟨serverId',List.mem_append_left _ old⟩
    · simpa [here] using valid.clock

/-- A list that is published starts anew. -/
theorem tracked_upgraded {kind : ServerKind} {m : InternalServerListManager} {log : List ListAction}
    {nowMS : Nat} (due : ((m.lists kind).onTick nowMS).2 = true)
    (anew : sincePublished kind (log ++ (m.onTick nowMS).2) = []) :
    Tracked kind (m.onTick nowMS).1 (log ++ (m.onTick nowMS).2) := by
  have list := ServerInfoList.onTick_due due
  refine ⟨?_,?_,?_,?_,?_⟩
  · simp [InternalServerListManager.onTick_lists,list,AddedSince,anew]
  · intro _ _
    rw [InternalServerListManager.onTick_lists,list]
  · intro _ removed
    simp [RemovedSince,anew] at removed
  · intro dirty
    rw [InternalServerListManager.onTick_lists,list] at dirty
    cases dirty
  · rw [InternalServerListManager.onTick_lists,list,InternalServerListManager.onTick_ticker]

/-- One that is not stays as it is. -/
theorem tracked_early {kind : ServerKind} {m : InternalServerListManager} {log : List ListAction}
    (valid : Tracked kind m log) {nowMS : Nat} (later : m.ticker ≤ nowMS)
    (early : ((m.lists kind).onTick nowMS).2 ≠ true)
    (same : sincePublished kind (log ++ (m.onTick nowMS).2) = sincePublished kind log) :
    Tracked kind (m.onTick nowMS).1 (log ++ (m.onTick nowMS).2) := by
  have list := ServerInfoList.onTick_early early
  refine ⟨?_,?_,?_,?_,?_⟩
  · rw [InternalServerListManager.onTick_lists,list,AddedSince,same]
    exact valid.dirty
  · rw [InternalServerListManager.onTick_lists,list,AddedSince,RemovedSince,same]
    exact valid.kept
  · rw [InternalServerListManager.onTick_lists,list,AddedSince,RemovedSince,same]
    exact valid.shrunk
  · intro dirty
    rw [InternalServerListManager.onTick_lists,list] at dirty ⊢
    obtain ⟨serverId,old⟩ := valid.stamp dirty
    exact ⟨serverId,List.mem_append_left _ old⟩
  · rw [InternalServerListManager.onTick_lists,list,InternalServerListManager.onTick_ticker]
    exact Nat.le_trans valid.clock later

theorem tracked_tick {kind : ServerKind} {m : InternalServerListManager} {log : List ListAction}
    (valid : Tracked kind m log) {nowMS : Nat} (later : m.ticker ≤ nowMS) :
    Tracked kind (m.onTick nowMS).1 (log ++ (m.onTick nowMS).2) := by
  have published : ∀ a ∈ (m.onTick nowMS).2, ∃ kind version list, a = .published kind version list := by
    intro a member
    obtain ⟨kind,-,rfl⟩ := InternalServerListManager.mem_onTick.mp member
    exact ⟨kind,_,_,rfl⟩
  obtain ⟨renewed,kept⟩ := sincePublished_published kind log published
  by_cases due : ((m.lists kind).onTick nowMS).2 = true
  · exact tracked_upgraded due (renewed ⟨_,_,InternalServerListManager.mem_onTick.mpr ⟨kind,due,rfl⟩⟩)
  · refine tracked_early valid later due (kept (fun version list member => due ?_))
    exact InternalServerListManager.due_of_published member

theorem tracked_reach {m : InternalServerListManager} {log : List ListAction}
    (reach : (managerMachine grow).Reach Clocked m log) (kind : ServerKind) : Tracked kind m log := by
  apply reach.invariant (I := fun m log => Tracked kind m log)
  · rintro _ ⟨ticker,versionTimestampMS,earlier,rfl⟩
    exact tracked_init kind earlier
  intro m log e _ clocked valid
  change Tracked kind (m.step grow e).1 (log ++ (m.step grow e).2)
  cases e with
  | addServerInfo kind' serverId serverAddress =>
    simp only [InternalServerListManager.step]
    cases added : m.addServerInfo grow kind' serverId serverAddress with
    | none => simpa using valid
    | some pair =>
      obtain ⟨m',pointer⟩ := pair
      exact tracked_added valid added
  | removeServerInfo kind' serverId => exact tracked_removed valid kind' serverId
  | tick nowMS => exact tracked_tick valid clocked

/-! ## Convergence -/

/-- In every run: once a list has been quiet for more than the timeout, a tick makes the list
that is handed out equal to the live one, if and only if since it was published last an entry
has been added to it or none has left it. -/
theorem published_list_converges {m : InternalServerListManager} {log : List ListAction}
    (reach : (managerMachine grow).Reach Clocked m log) (kind : ServerKind) {nowMS : Nat}
    (clock : m.ticker ≤ nowMS) (quiet : Quiet kind nowMS log) :
    ((m.onTick nowMS).1.lists kind).versionedInfoList =
        ((m.onTick nowMS).1.lists kind).infoList.items ↔
      (AddedSince kind log ∨ ¬ RemovedSince kind log) := by
  have valid := tracked_reach reach kind
  rw [InternalServerListManager.onTick_lists]
  by_cases added : AddedSince kind log
  · have dirty := valid.dirty.mpr added
    obtain ⟨serverId,member⟩ := valid.stamp dirty
    have late := quiet _ member (m.lists kind).versionTimestampMS (by simp [ListAction.changedAt])
    have earlier := Nat.le_trans valid.clock clock
    have due : upgradeVersionTimeoutMS < sub64 nowMS (m.lists kind).versionTimestampMS := by
      rw [sub64_of_le earlier]
      omega
    simp [ServerInfoList.onTick,dirty,due,added]
  · have clean : (m.lists kind).dirty = false := by
      rw [← Bool.not_eq_true,valid.dirty]
      exact added
    have list : ((m.lists kind).onTick nowMS).1 = m.lists kind := by simp [ServerInfoList.onTick,clean]
    rw [list]
    refine ⟨fun same => .inr (fun removed => ?_),fun settled => ?_⟩
    · have shorter := valid.shrunk added removed
      rw [same] at shorter
      exact absurd shorter (Nat.lt_irrefl _)
    · rcases settled with now | none
      · exact absurd now added
      · exact (valid.kept added none).symm

/-! ## A server comes and goes -/

/-- The growth of libstdc++. -/
def doubling (capacity : Nat) : Nat := if capacity = 0 then 1 else 2 * capacity

def comes : List ListEvent := [.addServerInfo .authCache 5 .unspecified]

def comesAndGoes : List ListEvent := comes ++ [.tick 60001,.removeServerInfo .authCache 5]

abbrev managed (es : List ListEvent) : InternalServerListManager × List ListAction :=
  (managerMachine doubling).run (.init 0 0) es

theorem managed_reach (es : List ListEvent)
    (clocked : (managerMachine doubling).Allowed Clocked (.init 0 0) [] es) :
    (managerMachine doubling).Reach Clocked (managed es).1 (managed es).2 := by
  have start : (managerMachine doubling).start (.init 0 0) := ⟨0,0,Nat.le_refl _,rfl⟩
  simpa using Machine.Reach.run (.start start) es clocked

theorem published_list_converges_comes :
    (((managed comes).1.onTick 60001).1.lists .authCache).versionedInfoList =
      (((managed comes).1.onTick 60001).1.lists .authCache).infoList.items := by
  have reach := managed_reach comes ⟨trivial,trivial⟩
  have quiet : Quiet .authCache 60001 (managed comes).2 := by decide
  exact (published_list_converges reach .authCache (by decide) quiet).mpr (.inl ⟨5,0,by decide⟩)

/-- A server that left remains in the list that is handed out. -/
theorem removed_server_stays_published :
    ∃ (m : InternalServerListManager) (log : List ListAction),
      (managerMachine doubling).Reach Clocked m log ∧ Quiet .authCache 200000 log ∧
        m.ticker ≤ 200000 ∧
        ((m.onTick 200000).1.lists .authCache).infoList.items = [] ∧
        ((m.onTick 200000).1.lists .authCache).versionedInfoList ≠ [] := by
  have reach := managed_reach comesAndGoes ⟨trivial,Nat.zero_le _,trivial,trivial⟩
  exact ⟨_,_,reach,by decide,by decide,by decide,by decide⟩

end MiniPP.Registry
