import MiniPP.Lib.ExpiryQueue
import MiniPP.Lib.Machine
import MiniPP.Lib.Storage
import MiniPP.Xel

/-! Ids that stand for the requests of others. A request that is passed on gets a new id, and the
answer to it redeems the id for the request's source, unless it has timed out. -/
namespace MiniPP.RequestId

structure RequestSource where
  sourceConnectionId : Nat
  sourceRequestId : Nat
  deriving DecidableEq, Repr

structure RequestPair where
  requestStartTimestampMS : Nat
  requestPairId : Nat
  source : RequestSource
  deriving DecidableEq, Repr

/-- A released pair leaves the queue. -/
structure RequestIdPool (keys : KeySource) where
  ticker : Nat
  timeoutMS : Nat
  requestPairPool : Storage keys RequestPair
  requestPairTimeoutQueue : List Nat

namespace RequestIdPool

variable {keys : KeySource}

def init (keys : KeySource) (ticker poolSize timeoutMS : Nat) : RequestIdPool keys :=
  ⟨ticker,timeoutMS,.empty keys _ poolSize,[]⟩

def acquire (p : RequestIdPool keys) (source : RequestSource) : Nat × RequestIdPool keys :=
  match p.requestPairPool.acquire (fun id => ⟨p.ticker,id,source⟩) with
  | none => (0,p)
  | some (id,requestPairPool) =>
    (id,{ p with
      requestPairPool
      requestPairTimeoutQueue := p.requestPairTimeoutQueue ++ [id] })

def release (p : RequestIdPool keys) (id : Nat) : RequestIdPool keys :=
  { p with
    requestPairPool := p.requestPairPool.release id
    requestPairTimeoutQueue := p.requestPairTimeoutQueue.erase id }

/-- The source, where the result is true. -/
def checkAndRelease (p : RequestIdPool keys) (id : Nat) : Option RequestSource × RequestIdPool keys :=
  match p.requestPairPool.find? id with
  | none => (none,p)
  | some pair => (some pair.source,p.release id)

def timedOut (p : RequestIdPool keys) (limit id : Nat) : Bool :=
  (p.requestPairPool.find? id).any (fun pair => pair.requestStartTimestampMS < limit)

/-- The pairs that are popped, one after the other. -/
def releaseNodes (p : RequestIdPool keys) : List Nat → RequestIdPool keys
  | [] => p
  | id :: rest =>
    match p.requestPairPool.find? id with
    | none => releaseNodes p rest
    | some pair => releaseNodes (p.release pair.requestPairId) rest

def releaseTimeoutNodes (p : RequestIdPool keys) : RequestIdPool keys :=
  let limit := sub64 p.ticker p.timeoutMS
  let popped := p.requestPairTimeoutQueue.takeWhile (p.timedOut limit)
  { p with
    requestPairTimeoutQueue := p.requestPairTimeoutQueue.dropWhile (p.timedOut limit) }.releaseNodes popped

def tick (p : RequestIdPool keys) (nowMS : Nat) : RequestIdPool keys :=
  { p with ticker := nowMS }.releaseTimeoutNodes

end RequestIdPool

inductive PoolEvent where
  | acquire (source : RequestSource)
  | checkAndRelease (id : Nat)
  | tick (nowMS : Nat)
  deriving DecidableEq, Repr

/-- `acquired` has the ticker at the time of the call. -/
inductive PoolAction where
  | acquired (id timestampMS : Nat) (source : RequestSource)
  | exhausted
  | redeemed (id : Nat) (source : RequestSource)
  | refused (id : Nat)
  deriving DecidableEq, Repr

variable {keys : KeySource}

def RequestIdPool.step (p : RequestIdPool keys) : PoolEvent → RequestIdPool keys × List PoolAction
  | .acquire source =>
    let (id,p') := p.acquire source
    (p',if id = 0 then [.exhausted] else [.acquired id p.ticker source])
  | .checkAndRelease id =>
    match p.checkAndRelease id with
    | (none,p') => (p',[.refused id])
    | (some source,p') => (p',[.redeemed id source])
  | .tick nowMS => (p.tick nowMS,[])

def poolMachine (keys : KeySource) : Machine (RequestIdPool keys) PoolEvent PoolAction where
  start p := ∃ ticker poolSize timeoutMS, p = .init keys ticker poolSize timeoutMS
  step := RequestIdPool.step

/-- Ticks come with epoch milliseconds, which do not go back, and which the timeout does not go
beyond. -/
def Ticking (p : RequestIdPool keys) (_ : List PoolAction) : PoolEvent → Prop
  | .tick nowMS => p.ticker ≤ nowMS ∧ p.timeoutMS ≤ nowMS
  | _ => True

/-! ## What the ids stand for -/

def grant (id : Nat) (granted : Option (Nat × RequestSource)) : PoolAction → Option (Nat × RequestSource)
  | .acquired id' timestampMS source => if id' = id then some (timestampMS,source) else granted
  | .redeemed id' _ => if id' = id then none else granted
  | .exhausted | .refused _ => granted

/-- When and for which source the id was returned, if it was not released since. -/
def granted (id : Nat) (log : List PoolAction) : Option (Nat × RequestSource) :=
  log.foldl (grant id) none

theorem granted_append (id : Nat) (log : List PoolAction) (a : PoolAction) :
    granted id (log ++ [a]) = grant id (granted id log) a := by
  unfold granted
  rw [List.foldl_append]
  rfl

def RequestIdPool.queue (p : RequestIdPool keys) : ExpiryQueue Nat where
  clock := p.ticker
  stamps id := (p.requestPairPool.find? id).map RequestPair.requestStartTimestampMS
  queue := p.requestPairTimeoutQueue

def deadline (timeoutMS : Nat) : ExpiryQueue.Deadline where
  late now t := t + timeoutMS < now
  downward now s t before late := by
    simp only [decide_eq_true_eq] at late ⊢
    omega
  monotone now later t before late := by
    simp only [decide_eq_true_eq] at late ⊢
    omega
  present now := by simp

theorem queue_acquire {p : RequestIdPool keys} (sound : p.queue.Sound) {source : RequestSource} {id : Nat}
    {requestPairPool : Storage keys RequestPair}
    (acquired : p.requestPairPool.acquire (fun id => ⟨p.ticker,id,source⟩) = some (id,requestPairPool)) :
    (p.acquire source).2.queue = p.queue.touch id := by
  have fresh : p.queue.stamps id = none := by
    simp [RequestIdPool.queue,(Storage.acquired_fresh acquired).1]
  have absent : id ∉ p.requestPairTimeoutQueue := fun member => (sound.linked id).mp member fresh
  simp only [RequestIdPool.acquire,acquired]
  refine ExpiryQueue.ext rfl ?_ ?_
  · funext other
    simp only [RequestIdPool.queue,ExpiryQueue.touch,Storage.find?_acquire acquired,Function.update_apply]
    exact apply_ite (Option.map RequestPair.requestStartTimestampMS) _ _ _
  · simp only [RequestIdPool.queue,ExpiryQueue.touch,List.erase_of_not_mem absent]

theorem queue_release (p : RequestIdPool keys) (id : Nat) : (p.release id).queue = p.queue.drop id := by
  refine ExpiryQueue.ext rfl ?_ rfl
  funext other
  simp only [RequestIdPool.queue,RequestIdPool.release,ExpiryQueue.drop,Storage.find?_release,
    Function.update_apply]
  split <;> rfl

/-- What the loop over the popped pairs leaves. -/
theorem releaseNodes_spec {p : RequestIdPool keys} {popped : List Nat}
    (named : ∀ id pair, p.requestPairPool.find? id = some pair → pair.requestPairId = id)
    (once : popped.Nodup) (known : ∀ id ∈ popped, p.requestPairPool.find? id ≠ none)
    (off : ∀ id ∈ popped, id ∉ p.requestPairTimeoutQueue) :
    (p.releaseNodes popped).ticker = p.ticker ∧ (p.releaseNodes popped).timeoutMS = p.timeoutMS ∧
      (p.releaseNodes popped).requestPairTimeoutQueue = p.requestPairTimeoutQueue ∧
      (∀ other, (p.releaseNodes popped).requestPairPool.find? other =
        if other ∈ popped then none else p.requestPairPool.find? other) ∧
      ∀ other, (p.releaseNodes popped).requestPairPool.Issued other ↔ p.requestPairPool.Issued other := by
  induction popped generalizing p with
  | nil => exact ⟨rfl,rfl,rfl,fun _ => by simp [RequestIdPool.releaseNodes],fun _ => Iff.rfl⟩
  | cons first rest ih =>
    obtain ⟨absent,once⟩ := List.nodup_cons.mp once
    obtain ⟨pair,stored⟩ := Option.ne_none_iff_exists'.mp (known first List.mem_cons_self)
    have own := named first pair stored
    have queue : (p.release first).requestPairTimeoutQueue = p.requestPairTimeoutQueue :=
      List.erase_of_not_mem (off first List.mem_cons_self)
    have turn : p.releaseNodes (first :: rest) = (p.release first).releaseNodes rest := by
      simp only [RequestIdPool.releaseNodes,stored,own]
    have found (other : Nat) : (p.release first).requestPairPool.find? other =
        if other = first then none else p.requestPairPool.find? other := Storage.find?_release _ first other
    have named' : ∀ id pair, (p.release first).requestPairPool.find? id = some pair →
        pair.requestPairId = id := by
      intro other pair here
      rw [found] at here
      split at here
      · cases here
      · exact named other pair here
    have known' : ∀ id ∈ rest, (p.release first).requestPairPool.find? id ≠ none := by
      intro other later
      rw [found,if_neg (fun same : other = first => absent (same ▸ later))]
      exact known other (List.mem_cons_of_mem _ later)
    have off' : ∀ id ∈ rest, id ∉ (p.release first).requestPairTimeoutQueue := by
      intro other later
      rw [queue]
      exact off other (List.mem_cons_of_mem _ later)
    obtain ⟨clock,timeout,left,map,issued⟩ := ih named' once known' off'
    rw [turn]
    refine ⟨clock,timeout,left.trans queue,?_,issued⟩
    intro other
    rw [map,found]
    by_cases later : other ∈ rest
    · simp [later]
    · simp [later]

theorem timedOut_eq {p : RequestIdPool keys} {nowMS : Nat} (epoch : p.timeoutMS ≤ nowMS) (id : Nat) :
    p.timedOut (sub64 nowMS p.timeoutMS) id =
      (p.queue.stamps id).any ((deadline p.timeoutMS).late nowMS) := by
  rw [sub64_of_le epoch]
  simp only [RequestIdPool.timedOut,RequestIdPool.queue]
  cases p.requestPairPool.find? id with
  | none => rfl
  | some pair =>
    have same : pair.requestStartTimestampMS < nowMS - p.timeoutMS ↔
        pair.requestStartTimestampMS + p.timeoutMS < nowMS := by omega
    exact decide_eq_decide.mpr same

/-- A tick expires the queue, and nothing else. -/
theorem tick_spec {p : RequestIdPool keys} (sound : p.queue.Sound)
    (named : ∀ id pair, p.requestPairPool.find? id = some pair → pair.requestPairId = id)
    {nowMS : Nat} (epoch : p.timeoutMS ≤ nowMS) :
    (p.tick nowMS).queue = p.queue.expire nowMS ((deadline p.timeoutMS).late nowMS) ∧
      (p.tick nowMS).timeoutMS = p.timeoutMS ∧
      (∀ id pair, (p.tick nowMS).requestPairPool.find? id = some pair →
        p.requestPairPool.find? id = some pair) ∧
      ∀ id, (p.tick nowMS).requestPairPool.Issued id ↔ p.requestPairPool.Issued id := by
  let popped := p.requestPairTimeoutQueue.takeWhile (p.timedOut (sub64 nowMS p.timeoutMS))
  let rest := p.requestPairTimeoutQueue.dropWhile (p.timedOut (sub64 nowMS p.timeoutMS))
  have late : p.timedOut (sub64 nowMS p.timeoutMS) =
      fun id => (p.queue.stamps id).any ((deadline p.timeoutMS).late nowMS) :=
    funext (timedOut_eq epoch)
  have lapsed : popped = p.queue.lapsed ((deadline p.timeoutMS).late nowMS) := by
    simp only [popped,late]
    rfl
  have left : rest = (p.queue.expire nowMS ((deadline p.timeoutMS).late nowMS)).queue := by
    simp only [rest,late]
    rfl
  have poppedOnce : popped.Nodup := lapsed ▸ sound.lapsed_nodup _
  have known : ∀ id ∈ popped, p.requestPairPool.find? id ≠ none := by
    intro id member none
    rw [lapsed] at member
    exact sound.lapsed_linked member (by simp [RequestIdPool.queue,none])
  have off : ∀ id ∈ popped, id ∉ rest := by
    intro id member
    rw [left]
    exact sound.lapsed_unlinked nowMS (lapsed ▸ member)
  obtain ⟨clock,timeout,queue,map,issued⟩ := releaseNodes_spec
    (p := { p with ticker := nowMS, requestPairTimeoutQueue := rest }) named poppedOnce known off
  refine ⟨?_,timeout,?_,issued⟩
  · refine ExpiryQueue.ext clock ?_ (queue.trans left)
    funext id
    have found : (p.tick nowMS).requestPairPool.find? id =
        if id ∈ popped then none else p.requestPairPool.find? id := map id
    rw [lapsed] at found
    change ((p.tick nowMS).requestPairPool.find? id).map RequestPair.requestStartTimestampMS =
      if id ∈ p.queue.lapsed ((deadline p.timeoutMS).late nowMS) then none
      else (p.requestPairPool.find? id).map RequestPair.requestStartTimestampMS
    rw [found]
    exact apply_ite (Option.map RequestPair.requestStartTimestampMS) _ none _
  · intro id pair here
    have found : (p.tick nowMS).requestPairPool.find? id =
        if id ∈ popped then none else p.requestPairPool.find? id := map id
    rw [found] at here
    split at here
    · cases here
    · exact here

end MiniPP.RequestId
