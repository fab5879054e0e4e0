import Mathlib.Data.List.Rotate
import MiniPP.Lib.Machine

/-! Queues whose members take turns. Members may come and go in between: the turns of those that
stay are the order they stand in, over and over again. -/
namespace MiniPP.RoundRobin

variable {α : Type*}

/-- The head has its turn and goes to the tail, a new member stands at the tail, or some members
leave. A turn is logged. -/
inductive Turn : List α → List α → List α → Prop where
  | turn (x : α) (rest : List α) : Turn (x :: rest) [x] (rest ++ [x])
  | join {queue : List α} {x : α} (new : x ∉ queue) : Turn queue [] (queue ++ [x])
  | leave (queue : List α) (stays : α → Bool) : Turn queue [] (queue.filter stays)

theorem Turn.idle (queue : List α) : Turn queue [] queue := by
  have none := Turn.leave queue (fun _ => true)
  rwa [List.filter_true] at none

/-- The turns go round the circle again and again. -/
def GoesRound (circle turns : List α) : Prop :=
  ∀ i x, turns[i]? = some x → circle[i % circle.length]? = some x

theorem goesRound_nil (circle : List α) : GoesRound circle [] := by
  intro i x here
  cases here

theorem GoesRound.append_singleton {circle turns : List α} (goes : GoesRound circle turns) {x : α}
    (next : circle[turns.length % circle.length]? = some x) : GoesRound circle (turns ++ [x]) := by
  intro i y here
  rcases Nat.lt_trichotomy i turns.length with earlier | rfl | later
  · rw [List.getElem?_append_left earlier] at here
    exact goes i y here
  · rw [List.getElem?_concat_length] at here
    cases here
    exact next
  · have outside : (turns ++ [x])[i]? = none := by
      apply List.getElem?_eq_none
      rw [List.length_append,List.length_singleton]
      exact later
    rw [outside] at here
    cases here

/-- The circle has been turned once for every turn that was taken. -/
structure Turned (stays : α → Bool) (circle queue turns : List α) : Prop where
  goes : GoesRound circle (turns.filter stays)
  queue : queue.filter stays = circle.rotate (turns.filter stays).length

variable {stays : α → Bool} {circle queue queue' turns out : List α}

theorem turned_start (queue : List α) : Turned stays (queue.filter stays) queue [] where
  goes := goesRound_nil _
  queue := (List.rotate_zero _).symm

/-- The member whose turn it is stands where the circle has come to. -/
theorem Turned.next {x : α} {rest : List α} (turned : Turned stays circle (x :: rest) turns)
    (own : stays x = true) : Turned stays circle (rest ++ [x]) (turns ++ [x]) := by
  have front : x :: rest.filter stays = circle.rotate (turns.filter stays).length := by
    rw [← turned.queue,List.filter_cons_of_pos own]
  have one : [x].filter stays = [x] := by simp [own]
  have some : 0 < circle.length := by
    rw [← List.length_rotate circle (turns.filter stays).length,← front]
    exact Nat.succ_pos _
  constructor
  · rw [List.filter_append,one]
    refine turned.goes.append_singleton ?_
    have head := congrArg (fun list => list[0]?) front
    rw [List.getElem?_rotate some,Nat.zero_add] at head
    exact head.symm
  · rw [List.filter_append,List.filter_append,one,List.length_append,List.length_singleton,
      ← List.rotate_rotate,← front,List.rotate_cons_succ,List.rotate_zero]

theorem Turned.other {x : α} {rest : List α} (turned : Turned stays circle (x :: rest) turns)
    (own : stays x = false) : Turned stays circle (rest ++ [x]) (turns ++ [x]) := by
  have none : [x].filter stays = [] := by simp [own]
  have same : (x :: rest).filter stays = rest.filter stays := by simp [own]
  constructor
  · rw [List.filter_append,none,List.append_nil]
    exact turned.goes
  · rw [List.filter_append,List.filter_append,none,List.append_nil,List.append_nil,← same]
    exact turned.queue

/-- Nobody who stays comes or leaves. -/
theorem Turned.step (turned : Turned stays circle queue turns) (step : Turn queue out queue')
    (before : ∀ x, stays x = true → x ∈ queue) (after : ∀ x, stays x = true → x ∈ queue') :
    Turned stays circle queue' (turns ++ out) := by
  cases step with
  | turn x rest =>
    cases own : stays x with
    | true => exact turned.next own
    | false => exact turned.other own
  | @join _ x new =>
    have stranger : stays x = false := Bool.eq_false_iff.mpr (fun own => new (before x own))
    have same : (queue ++ [x]).filter stays = queue.filter stays := by simp [stranger]
    rw [List.append_nil]
    exact ⟨turned.goes,same.trans turned.queue⟩
  | leave _ p =>
    have same : (queue.filter p).filter stays = queue.filter stays := by
      rw [List.filter_filter]
      apply List.filter_congr
      intro x _
      cases own : stays x with
      | false => rfl
      | true => exact (List.mem_filter.mp (after x own)).2
    rw [List.append_nil]
    exact ⟨turned.goes,same.trans turned.queue⟩

/-- The members that stay in every queue of a path have their turns in the order of the first. -/
theorem goesRound_path
    (path : Path (fun queue out queue' => Turn queue out queue' ∧ ∀ x, stays x = true → x ∈ queue')
      queue turns queue') (before : ∀ x, stays x = true → x ∈ queue) :
    GoesRound (queue.filter stays) (turns.filter stays) := by
  have start : Turned stays (queue.filter stays) queue [] ∧ ∀ x, stays x = true → x ∈ queue :=
    ⟨turned_start queue,before⟩
  have kept := path.invariant
    (I := fun q past => Turned stays (queue.filter stays) q past ∧ ∀ x, stays x = true → x ∈ q)
    (by
      rintro q out q' past ⟨step,after⟩ ⟨turned,here⟩
      exact ⟨turned.step step here after,after⟩) start
  exact kept.1.goes

end MiniPP.RoundRobin
