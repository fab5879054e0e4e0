import Mathlib.Data.List.Induction
import Mathlib.Data.List.Nodup
import Mathlib.Logic.Function.Basic

/-! A hub with a channel to each of its members. What is published goes to all who are members at
the time, to one after the other, and each takes what is for it in the order it was sent. -/
namespace MiniPP.Broadcast

structure Hub (ι μ : Type*) where
  members : List ι := []
  /-- What was sent to each and not taken yet. -/
  channel : ι → List μ := fun _ => []

inductive Move (ι μ : Type*) where
  | joined (c : ι)
  | left (c : ι)
  | published (m : μ)
  | taken (c : ι) (m : μ)
  deriving DecidableEq

variable {ι μ : Type*} [DecidableEq ι]

/-! ## What a member should see -/

/-- Whether `c` is a member, and what was published while it was. -/
def attend (c : ι) : Bool × List μ → Move ι μ → Bool × List μ
  | (present,heard), .joined c' => (present || c' == c,heard)
  | (present,heard), .left c' => (present && c' != c,heard)
  | (present,heard), .published m => (present,if present then heard ++ [m] else heard)
  | (present,heard), .taken _ _ => (present,heard)

def attended (c : ι) (log : List (Move ι μ)) : Bool × List μ := log.foldl (attend c) (false,[])

def present (c : ι) (log : List (Move ι μ)) : Bool := (attended c log).1

/-- What was published while `c` was a member. -/
def heard (c : ι) (log : List (Move ι μ)) : List μ := (attended c log).2

/-- What `c` has taken. -/
def took (c : ι) (log : List (Move ι μ)) : List μ :=
  log.filterMap (fun | .taken c' m => if c' = c then some m else none | _ => none)

def published (log : List (Move ι μ)) : List μ :=
  log.filterMap (fun | .published m => some m | _ => none)

theorem attended_append (c : ι) (log : List (Move ι μ)) (move : Move ι μ) :
    attended c (log ++ [move]) = attend c (attended c log) move := by
  simp [attended,List.foldl_append]

section Moves

variable (c c' : ι) (m : μ) (log out : List (Move ι μ))

@[simp] theorem present_joined : present c (log ++ [.joined c']) = (present c log || c' == c) := by
  rw [present,attended_append]
  rfl

@[simp] theorem present_left : present c (log ++ [.left c']) = (present c log && c' != c) := by
  rw [present,attended_append]
  rfl

@[simp] theorem present_published : present c (log ++ [.published m]) = present c log := by
  rw [present,attended_append]
  rfl

@[simp] theorem present_taken : present c (log ++ [.taken c' m]) = present c log := by
  rw [present,attended_append]
  rfl

@[simp] theorem heard_joined : heard c (log ++ [.joined c']) = heard c log := by
  rw [heard,attended_append]
  rfl

@[simp] theorem heard_left : heard c (log ++ [.left c']) = heard c log := by
  rw [heard,attended_append]
  rfl

theorem heard_published : heard c (log ++ [.published m]) =
    if present c log then heard c log ++ [m] else heard c log := by
  rw [heard,attended_append]
  rfl

@[simp] theorem heard_taken : heard c (log ++ [.taken c' m]) = heard c log := by
  rw [heard,attended_append]
  rfl

@[simp] theorem took_append : took c (log ++ out) = took c log ++ took c out := List.filterMap_append

@[simp] theorem took_joined : took c [(.joined c' : Move ι μ)] = [] := rfl

@[simp] theorem took_left : took c [(.left c' : Move ι μ)] = [] := rfl

@[simp] theorem took_published : took c [(.published m : Move ι μ)] = [] := rfl

theorem took_taken : took c [.taken c' m] = if c' = c then [m] else [] := by
  by_cases same : c' = c <;> simp [took,same]

end Moves

omit [DecidableEq ι] in
@[simp] theorem published_append (log out : List (Move ι μ)) :
    published (log ++ out) = published log ++ published out := List.filterMap_append

/-- A member hears a part of what is published, in its order. -/
theorem heard_sublist (c : ι) (log : List (Move ι μ)) : (heard c log).Sublist (published log) := by
  induction log using List.reverseRecOn with
  | nil => exact .slnil
  | append_singleton log move ih =>
    rw [published_append]
    cases move with
    | joined c' | left c' | taken c' m => simpa [published] using ih
    | published m =>
      have last : published [(.published m : Move ι μ)] = [m] := rfl
      rw [last,heard_published]
      split
      · exact ih.append_right [m]
      · exact ih.trans (List.sublist_append_left _ [m])

/-! ## The hub -/

namespace Hub

def join (h : Hub ι μ) (c : ι) : Hub ι μ := { h with members := h.members ++ [c] }

def leave (h : Hub ι μ) (c : ι) : Hub ι μ := { h with members := h.members.erase c }

def send (m : μ) (channel : ι → List μ) (c : ι) : ι → List μ :=
  Function.update channel c (channel c ++ [m])

def publish (h : Hub ι μ) (m : μ) : Hub ι μ :=
  { h with channel := h.members.foldl (send m) h.channel }

/-- The oldest message for `c` is taken; there is one. -/
def take (h : Hub ι μ) (c : ι) : Hub ι μ :=
  { h with channel := Function.update h.channel c (h.channel c).tail }

/-- A member whose name occurs once gets the message once. -/
theorem foldl_send (m : μ) {members : List ι} (distinct : members.Nodup) (channel : ι → List μ) (c : ι) :
    members.foldl (send m) channel c = if c ∈ members then channel c ++ [m] else channel c := by
  induction members generalizing channel with
  | nil => simp
  | cons first rest ih =>
    obtain ⟨absent,distinct⟩ := List.nodup_cons.mp distinct
    rw [List.foldl_cons,ih distinct]
    by_cases same : c = first
    · subst same
      simp [send,absent]
    · simp [send,same]

end Hub

/-- The members are those that the moves so far leave, and what a member took and what is on its way
to it is what was published while it was a member. -/
structure Faithful (h : Hub ι μ) (log : List (Move ι μ)) : Prop where
  distinct : h.members.Nodup
  member : ∀ c, c ∈ h.members ↔ present c log = true
  exact : ∀ c, took c log ++ h.channel c = heard c log

namespace Faithful

variable {h : Hub ι μ} {log : List (Move ι μ)}

theorem init : Faithful ({} : Hub ι μ) [] where
  distinct := .nil
  member c := by simp [present,attended]
  exact c := by simp [took,heard,attended]

theorem join (faithful : Faithful h log) {c : ι} (outside : c ∉ h.members) :
    Faithful (h.join c) (log ++ [.joined c]) where
  distinct := by
    have apart : h.members.Disjoint [c] := by simpa using outside
    exact faithful.distinct.append (List.nodup_singleton c) apart
  member other := by
    have same : c = other ↔ other = c := eq_comm
    simp [Hub.join,faithful.member,same]
  exact other := by simpa [Hub.join] using faithful.exact other

theorem leave (faithful : Faithful h log) (c : ι) : Faithful (h.leave c) (log ++ [.left c]) where
  distinct := faithful.distinct.erase c
  member other := by
    have stays : other ∈ h.members.erase c ↔ other ≠ c ∧ other ∈ h.members :=
      faithful.distinct.mem_erase_iff
    have same : c = other ↔ other = c := eq_comm
    rw [Hub.leave,stays,faithful.member,present_left,Bool.and_eq_true,bne_iff_ne,ne_eq,ne_eq,same,and_comm]
  exact other := by simpa [Hub.leave] using faithful.exact other

theorem publish (faithful : Faithful h log) (m : μ) :
    Faithful (h.publish m) (log ++ [.published m]) where
  distinct := faithful.distinct
  member other := by simpa [Hub.publish] using faithful.member other
  exact c := by
    have sent : (h.publish m).channel c = if c ∈ h.members then h.channel c ++ [m] else h.channel c :=
      Hub.foldl_send m faithful.distinct h.channel c
    have inside := faithful.member c
    rw [took_append,took_published,List.append_nil,sent,heard_published]
    by_cases here : c ∈ h.members
    · rw [if_pos here,if_pos (inside.mp here),← List.append_assoc,faithful.exact c]
    · rw [if_neg here,if_neg (mt inside.mpr here),faithful.exact c]

theorem take (faithful : Faithful h log) {c : ι} {m : μ} {rest : List μ} (next : h.channel c = m :: rest) :
    Faithful (h.take c) (log ++ [.taken c m]) where
  distinct := faithful.distinct
  member other := by simpa [Hub.take] using faithful.member other
  exact other := by
    have before := faithful.exact other
    rw [took_append,took_taken,heard_taken,Hub.take]
    by_cases same : other = c
    · subst same
      simpa [next] using before
    · simpa [same,Ne.symm same] using before

end Faithful

end MiniPP.Broadcast
