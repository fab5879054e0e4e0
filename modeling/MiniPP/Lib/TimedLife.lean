import MiniPP.Lib.Machine
import MiniPP.Lib.TimedPool

/-! The lives of the members of a timed pool: every member is on exactly one list, the lists
that time out are sorted by when their members were last touched, and a tick leaves none
that has not been touched for too long. -/
namespace MiniPP

namespace TimedPool

variable {keys : KeySource} {α : Type}

def stamp (p : TimedPool keys α) (id : Nat) : Nat :=
  ((p.members.find? id).map Timed.timestamp).getD 0

def listed (p : TimedPool keys α) : List Nat := p.newcomers ++ p.idle ++ p.doomed

/-- The member was touched no later. -/
def Older (p : TimedPool keys α) (id other : Nat) : Prop := p.stamp id ≤ p.stamp other

structure Valid (p : TimedPool keys α) : Prop where
  nodup : p.listed.Nodup
  live : ∀ id, id ∈ p.listed ↔ p.members.find? id ≠ none
  marked : ∀ id, p.marked id = true ↔ id ∈ p.doomed
  past : ∀ id, p.stamp id ≤ p.ticker
  newcomers : p.newcomers.Pairwise p.Older
  idle : p.idle.Pairwise p.Older

@[simp] theorem mem_listed {p : TimedPool keys α} {id : Nat} :
    id ∈ p.listed ↔ id ∈ p.newcomers ∨ id ∈ p.idle ∨ id ∈ p.doomed := by
  simp [listed]

theorem get?_ne_none {p : TimedPool keys α} {id : Nat} :
    p.get? id ≠ none ↔ p.members.find? id ≠ none := by
  simp [get?]

/-- A member is on one list, once. -/
theorem Valid.once {p : TimedPool keys α} (valid : p.Valid) {id : Nat} (known : p.get? id ≠ none) :
    p.newcomers.count id + p.idle.count id + p.doomed.count id = 1 := by
  have member := (valid.live id).mpr (get?_ne_none.mp known)
  have one := List.count_eq_one_of_mem valid.nodup member
  rwa [listed,List.count_append,List.count_append] at one

theorem valid_init (ticker capacity : Nat) : (init keys α ticker capacity).Valid := by
  refine ⟨.nil,?_,?_,?_,.nil,.nil⟩ <;> simp [init,listed,marked,stamp]

theorem valid_setTicker {p : TimedPool keys α} (valid : p.Valid) {nowMS : Nat}
    (later : p.ticker ≤ nowMS) : (p.setTicker nowMS).Valid :=
  { valid with past := fun id => Nat.le_trans (valid.past id) later }

/-! ## Acceptance -/

/-- A new member comes last of the newcomers, touched at the present time. -/
theorem accept_spec {p p' : TimedPool keys α} {value : α} {id : Nat}
    (accepted : p.accept value = some (id,p')) :
    p'.ticker = p.ticker ∧ p'.newcomers = p.newcomers ++ [id] ∧ p'.idle = p.idle ∧
      p'.doomed = p.doomed ∧ p.members.find? id = none ∧ ∀ other, p'.members.find? other =
        if other = id then some { value, timestamp := p.ticker } else p.members.find? other := by
  obtain ⟨⟨key,members⟩,acquired,same⟩ := Option.map_eq_some_iff.mp accepted
  obtain ⟨rfl,rfl⟩ := Prod.mk.inj same
  exact ⟨rfl,rfl,rfl,rfl,(Storage.acquired_fresh acquired).1,Storage.find?_acquire acquired⟩

theorem stamp_accept {p p' : TimedPool keys α} {value : α} {id : Nat}
    (accepted : p.accept value = some (id,p')) (other : Nat) :
    p'.stamp other = if other = id then p.ticker else p.stamp other := by
  obtain ⟨-,-,-,-,-,members⟩ := accept_spec accepted
  simp only [stamp,members]
  split <;> rfl

theorem valid_accept {p p' : TimedPool keys α} {value : α} {id : Nat} (valid : p.Valid)
    (accepted : p.accept value = some (id,p')) : p'.Valid := by
  obtain ⟨ticker,newcomers,idle,doomed,fresh,members⟩ := accept_spec accepted
  have stamps := stamp_accept accepted
  have absent : id ∉ p.listed := fun member => (valid.live id).mp member fresh
  have apart {other : Nat} (member : other ∈ p.listed) : other ≠ id := fun same => absent (same ▸ member)
  have kept {list : List Nat} (part : ∀ other ∈ list, other ∈ p.listed)
      (sorted : list.Pairwise p.Older) : list.Pairwise p'.Older := by
    apply sorted.imp_of_mem
    intro first second inFirst inSecond older
    simp only [Older,stamps,apart (part _ inFirst),apart (part _ inSecond),if_false]
    exact older
  have perm : p'.listed.Perm (id :: p.listed) := by
    simp only [listed,newcomers,idle,doomed,List.append_assoc]
    exact List.perm_middle
  refine ⟨?_,?_,?_,?_,?_,?_⟩
  · exact perm.nodup_iff.mpr (List.nodup_cons.mpr ⟨absent,valid.nodup⟩)
  · intro other
    rw [perm.mem_iff,List.mem_cons,members,valid.live]
    by_cases same : other = id <;> simp [same]
  · intro other
    rw [doomed,← valid.marked]
    simp only [marked,members]
    by_cases same : other = id
    · subst same
      simp [fresh]
    · simp [same]
  · intro other
    rw [stamps,ticker]
    split
    · exact Nat.le_refl _
    · exact valid.past other
  · rw [newcomers]
    refine List.pairwise_append.mpr ⟨kept (by simp +contextual) valid.newcomers,
      List.pairwise_singleton _ _,?_⟩
    intro other member last newest
    obtain rfl : last = id := by simpa using newest
    have known : other ∈ p.listed := by simp [member]
    simp only [Older,stamps,apart known,if_false,if_true]
    exact valid.past other
  · rw [idle]
    exact kept (by simp +contextual) valid.idle

/-! ## Values -/

theorem find?_setValue (p : TimedPool keys α) (id other : Nat) (f : α → α) :
    (p.modify id f).members.find? other =
      if other = id then (p.members.find? id).map (fun m => { m with value := f m.value })
      else p.members.find? other := Storage.find?_modify _ _ _ _

@[simp] theorem stamp_modify (p : TimedPool keys α) (id other : Nat) (f : α → α) :
    (p.modify id f).stamp other = p.stamp other := by
  unfold stamp
  rw [TimedPool.modify,Storage.map_find?_modify]
  exact fun _ => rfl

@[simp] theorem marked_modify (p : TimedPool keys α) (id other : Nat) (f : α → α) :
    (p.modify id f).marked other = p.marked other := by
  simp only [marked,find?_setValue]
  split
  · rename_i same
    subst same
    cases p.members.find? other <;> rfl
  · rfl

theorem valid_modify {p : TimedPool keys α} (valid : p.Valid) (id : Nat) (f : α → α) :
    (p.modify id f).Valid := by
  have live (other : Nat) : (p.modify id f).members.find? other ≠ none ↔
      p.members.find? other ≠ none := by
    rw [← get?_ne_none,← get?_ne_none,get?_modify]
    split
    · rename_i same
      simp [same]
    · rfl
  have older : (p.modify id f).Older = p.Older := by
    funext first second
    simp [Older]
  refine ⟨valid.nodup,?_,?_,?_,older ▸ valid.newcomers,older ▸ valid.idle⟩
  · exact fun other => (valid.live other).trans (live other).symm
  · exact fun other => (marked_modify p id other f) ▸ valid.marked other
  · exact fun other => (stamp_modify p id other f) ▸ valid.past other

/-! ## Moves -/

theorem nodup_cons_without {list : List Nat} (nodup : list.Nodup) (id : Nat) :
    (id :: without list id).Nodup := by
  refine List.nodup_cons.mpr ⟨by simp,nodup.sublist List.filter_sublist⟩

theorem find?_retime (p : TimedPool keys α) (id other : Nat) (f : Timed α → Timed α) :
    (p.members.modify id f).find? other = none ↔ p.members.find? other = none := by
  rw [Storage.find?_modify]
  split
  · rename_i same
    simp [same]
  · rfl

/-- Putting a member elsewhere on the lists changes neither who is on them nor how often. -/
theorem Valid.relisted {p p' : TimedPool keys α} (valid : p.Valid) {id : Nat}
    (known : p.members.find? id ≠ none) (perm : p'.listed.Perm (id :: without p.listed id))
    {f : Timed α → Timed α} (members : p'.members = p.members.modify id f) :
    p'.listed.Nodup ∧ ∀ other, other ∈ p'.listed ↔ p'.members.find? other ≠ none := by
  constructor
  · exact perm.nodup_iff.mpr (nodup_cons_without valid.nodup id)
  · intro other
    rw [perm.mem_iff,List.mem_cons,mem_without,valid.live,members]
    simp only [ne_eq,find?_retime]
    by_cases same : other = id
    · simp [same,known]
    · simp [same]

/-- A member that is not given up comes last of the idle ones, touched at the present time. -/
theorem keepAlive_spec {p : TimedPool keys α} {id : Nat} (unmarked : p.marked id = false) :
    (p.keepAlive id).ticker = p.ticker ∧ (p.keepAlive id).newcomers = without p.newcomers id ∧
      (p.keepAlive id).idle = toTail p.idle id ∧ (p.keepAlive id).doomed = without p.doomed id ∧
      (p.keepAlive id).members = p.members.modify id (fun m => { m with timestamp := p.ticker }) := by
  simp [keepAlive,unmarked,unlink,toTail]

theorem stamp_keepAlive {p : TimedPool keys α} {id : Nat} (unmarked : p.marked id = false)
    (known : p.members.find? id ≠ none) (other : Nat) :
    (p.keepAlive id).stamp other = if other = id then p.ticker else p.stamp other := by
  obtain ⟨-,-,-,-,members⟩ := keepAlive_spec unmarked
  simp only [stamp,members,Storage.find?_modify]
  split
  · cases found : p.members.find? id with
    | none => exact absurd found known
    | some m => rfl
  · rfl

theorem valid_keepAlive {p : TimedPool keys α} (valid : p.Valid) {id : Nat}
    (known : p.members.find? id ≠ none) : (p.keepAlive id).Valid := by
  cases unmarked : p.marked id with
  | true => simpa [keepAlive,unmarked] using valid
  | false =>
    obtain ⟨ticker,newcomers,idle,doomed,members⟩ := keepAlive_spec unmarked
    have stamps := stamp_keepAlive unmarked known
    have kept {list : List Nat} (sorted : list.Pairwise p.Older) :
        (without list id).Pairwise (p.keepAlive id).Older := by
      apply (sorted.sublist List.filter_sublist).imp_of_mem
      intro first second inFirst inSecond older
      simp only [Older,stamps,(mem_without.mp inFirst).2,(mem_without.mp inSecond).2,if_false]
      exact older
    have perm : (p.keepAlive id).listed.Perm (id :: without p.listed id) := by
      simp only [listed,newcomers,idle,doomed,toTail,without,List.filter_append,List.append_assoc]
      exact (List.perm_middle.append_left _).trans List.perm_middle
    obtain ⟨nodup,live⟩ := valid.relisted known perm members
    refine ⟨nodup,live,?_,?_,?_,?_⟩
    · intro other
      have same : (p.keepAlive id).marked other = p.marked other := by
        simp only [marked,members,Storage.find?_modify]
        split
        · rename_i here
          subst here
          cases p.members.find? other <;> rfl
        · rfl
      rw [same,doomed,mem_without,valid.marked]
      refine ⟨fun member => ⟨member,?_⟩,And.left⟩
      rintro rfl
      rw [(valid.marked other).mpr member] at unmarked
      cases unmarked
    · intro other
      rw [stamps,ticker]
      split
      · exact Nat.le_refl _
      · exact valid.past other
    · rw [newcomers]
      exact kept valid.newcomers
    · rw [idle]
      refine List.pairwise_append.mpr ⟨kept valid.idle,List.pairwise_singleton _ _,?_⟩
      intro other member last newest
      obtain rfl : last = id := by simpa using newest
      simp only [Older,stamps,(mem_without.mp member).2,if_false,if_true]
      exact valid.past other

/-- A member that is not given up yet comes last of those that are. -/
theorem giveUp_spec {p : TimedPool keys α} {id : Nat} (unmarked : p.marked id = false) :
    (p.giveUp id).ticker = p.ticker ∧ (p.giveUp id).newcomers = without p.newcomers id ∧
      (p.giveUp id).idle = without p.idle id ∧ (p.giveUp id).doomed = toTail p.doomed id ∧
      (p.giveUp id).members = p.members.modify id (fun m => { m with marked := true }) := by
  simp [giveUp,unmarked,unlink,toTail]

@[simp] theorem stamp_giveUp (p : TimedPool keys α) (id other : Nat) :
    (p.giveUp id).stamp other = p.stamp other := by
  cases unmarked : p.marked id with
  | true => simp [giveUp,unmarked]
  | false =>
    obtain ⟨-,-,-,-,members⟩ := giveUp_spec unmarked
    rw [stamp,members,Storage.map_find?_modify,stamp]
    exact fun _ => rfl

theorem valid_giveUp {p : TimedPool keys α} (valid : p.Valid) {id : Nat}
    (known : p.members.find? id ≠ none) : (p.giveUp id).Valid := by
  cases unmarked : p.marked id with
  | true => simpa [giveUp,unmarked] using valid
  | false =>
    obtain ⟨ticker,newcomers,idle,doomed,members⟩ := giveUp_spec unmarked
    have older : (p.giveUp id).Older = p.Older := by
      funext first second
      simp [Older]
    have perm : (p.giveUp id).listed.Perm (id :: without p.listed id) := by
      simp only [listed,newcomers,idle,doomed,toTail,without,List.filter_append]
      rw [← List.append_assoc]
      exact List.perm_append_singleton _ _
    obtain ⟨nodup,live⟩ := valid.relisted known perm members
    refine ⟨nodup,live,?_,?_,?_,?_⟩
    · intro other
      rw [doomed,mem_toTail,← valid.marked]
      simp only [marked,members,Storage.find?_modify]
      by_cases same : other = id
      · obtain ⟨m,found⟩ := Option.ne_none_iff_exists'.mp known
        simp [same,found]
      · simp [same]
    · intro other
      rw [stamp_giveUp,ticker]
      exact valid.past other
    · rw [newcomers,older]
      exact valid.newcomers.sublist List.filter_sublist
    · rw [idle,older]
      exact valid.idle.sublist List.filter_sublist

/-! ## Destruction -/

theorem destroyAll_spec (p : TimedPool keys α) (list : List Nat) :
    (p.destroyAll list).ticker = p.ticker ∧
    (p.destroyAll list).newcomers = p.newcomers.filter (fun id => id ∉ list) ∧
    (p.destroyAll list).idle = p.idle.filter (fun id => id ∉ list) ∧
    (p.destroyAll list).doomed = p.doomed.filter (fun id => id ∉ list) ∧
    ∀ other, (p.destroyAll list).members.find? other =
      if other ∈ list then none else p.members.find? other := by
  induction list generalizing p with
  | nil => simp [destroyAll]
  | cons id rest ih =>
    obtain ⟨ticker,newcomers,idle,doomed,members⟩ := ih (p.destroy id)
    have twice (list : List Nat) : (without list id).filter (fun other => other ∉ rest) =
        list.filter (fun other => other ∉ id :: rest) := by
      rw [without,List.filter_filter]
      exact List.filter_congr (by grind)
    simp only [destroyAll]
    refine ⟨ticker,?_,?_,?_,?_⟩
    · rw [newcomers]; exact twice _
    · rw [idle]; exact twice _
    · rw [doomed]; exact twice _
    · intro other
      rw [members]
      simp only [destroy,Storage.find?_release,List.mem_cons]
      grind

theorem valid_destroyAll {p : TimedPool keys α} (valid : p.Valid) (list : List Nat) :
    (p.destroyAll list).Valid := by
  obtain ⟨ticker,newcomers,idle,doomed,members⟩ := destroyAll_spec p list
  have stays {id : Nat} (left : id ∉ list) : (p.destroyAll list).stamp id = p.stamp id := by
    simp [stamp,members,left]
  have kept {ids : List Nat} (sorted : ids.Pairwise p.Older) :
      (ids.filter (fun id => id ∉ list)).Pairwise (p.destroyAll list).Older := by
    apply (sorted.sublist List.filter_sublist).imp_of_mem
    intro first second inFirst inSecond older
    have left : first ∉ list := by simpa using (List.mem_filter.mp inFirst).2
    have right : second ∉ list := by simpa using (List.mem_filter.mp inSecond).2
    rw [Older,stays left,stays right]
    exact older
  have listed' : (p.destroyAll list).listed = p.listed.filter (fun id => id ∉ list) := by
    simp only [listed,newcomers,idle,doomed,List.filter_append]
  refine ⟨?_,?_,?_,?_,newcomers ▸ kept valid.newcomers,idle ▸ kept valid.idle⟩
  · rw [listed']
    exact valid.nodup.sublist List.filter_sublist
  · intro other
    rw [listed',List.mem_filter,valid.live,members]
    by_cases gone : other ∈ list <;> simp [gone]
  · intro other
    rw [doomed,List.mem_filter,← valid.marked]
    simp only [marked,members]
    by_cases gone : other ∈ list <;> simp [gone]
  · intro other
    rw [ticker]
    by_cases gone : other ∈ list
    · simp [stamp,members,gone]
    · rw [stays gone]
      exact valid.past other

/-- What a sorted list keeps was touched after the limit. -/
theorem not_timedOut {p : TimedPool keys α} {list : List Nat} {limit id : Nat}
    (sorted : list.Pairwise p.Older) (live : ∀ other ∈ list, p.members.find? other ≠ none)
    (member : id ∈ list) (left : id ∉ p.timedOut list limit) : limit < p.stamp id := by
  induction list with
  | nil => simp at member
  | cons first rest ih =>
    obtain ⟨least,sorted⟩ := List.pairwise_cons.mp sorted
    obtain ⟨m,found⟩ := Option.ne_none_iff_exists'.mp (live first List.mem_cons_self)
    have decided : p.untouched limit first = decide (p.stamp first ≤ limit) := by
      simp [untouched,stamp,found]
    unfold timedOut at left ih
    by_cases old : p.stamp first ≤ limit
    · rw [List.takeWhile_cons_of_pos (by simpa [decided] using old),List.mem_cons,not_or] at left
      rcases List.mem_cons.mp member with rfl | later
      · exact absurd rfl left.1
      · exact ih sorted (fun other inside => live other (List.mem_cons_of_mem _ inside)) later left.2
    · rcases List.mem_cons.mp member with rfl | later
      · omega
      · have : p.stamp first ≤ p.stamp id := least id later
        omega

/-- A tick destroys members, each once. -/
theorem expired_members {p : TimedPool keys α} (valid : p.Valid) (newcomerLimit idleLimit : Nat) :
    (p.expired newcomerLimit idleLimit).Nodup ∧
      ∀ id ∈ p.expired newcomerLimit idleLimit, p.members.find? id ≠ none := by
  have newcomers : (p.timedOut p.newcomers newcomerLimit).Sublist p.newcomers := List.takeWhile_sublist _
  have idle : (p.timedOut p.idle idleLimit).Sublist p.idle := List.takeWhile_sublist _
  have part : (p.expired newcomerLimit idleLimit).Sublist (p.doomed ++ p.newcomers ++ p.idle) :=
    ((List.Sublist.refl _).append newcomers).append idle
  have perm : (p.doomed ++ p.newcomers ++ p.idle).Perm p.listed := by
    rw [List.append_assoc]
    exact List.perm_append_comm
  refine ⟨(perm.nodup_iff.mpr valid.nodup).sublist part,?_⟩
  intro id member
  exact (valid.live id).mp (perm.mem_iff.mp (part.subset member))

/-- A tick leaves the members touched after the limits, and none that was given up. -/
theorem left_by_tick {p : TimedPool keys α} (valid : p.Valid) {newcomerLimit idleLimit id : Nat}
    (known : (p.destroyAll (p.expired newcomerLimit idleLimit)).get? id ≠ none) :
    (id ∈ p.newcomers ∧ newcomerLimit < p.stamp id) ∨ (id ∈ p.idle ∧ idleLimit < p.stamp id) := by
  rw [get?_destroyAll] at known
  split at known
  · exact absurd rfl known
  · rename_i stays
    simp only [expired,List.mem_append,not_or] at stays
    obtain ⟨⟨kept,newcomer⟩,idle⟩ := stays
    have live (other : Nat) (member : other ∈ p.listed) := (valid.live other).mp member
    rcases mem_listed.mp ((valid.live id).mpr (get?_ne_none.mp known)) with member | member | member
    · exact .inl ⟨member,not_timedOut valid.newcomers (fun other inside => live other (by simp [inside]))
        member newcomer⟩
    · exact .inr ⟨member,not_timedOut valid.idle (fun other inside => live other (by simp [inside]))
        member idle⟩
    · exact absurd member kept

end TimedPool

end MiniPP
