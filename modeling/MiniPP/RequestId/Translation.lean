import MiniPP.RequestId.Pool

/-! What an answer gets for its id, in every run of the pool. -/
namespace MiniPP.RequestId

variable {keys : KeySource} {p : RequestIdPool keys} {log : List PoolAction}

def PoolAction.acquires (id : Nat) : PoolAction → Bool
  | .acquired id' _ _ => id' == id
  | _ => false

def PoolAction.redeems (id : Nat) : PoolAction → Bool
  | .redeemed id' _ => id' == id
  | _ => false

/-- The calls that returned the id, and those that redeemed it. -/
def acquisitions (id : Nat) (log : List PoolAction) : Nat := log.countP (PoolAction.acquires id)

def redemptions (id : Nat) (log : List PoolAction) : Nat := log.countP (PoolAction.redeems id)

@[simp] theorem acquisitions_append (id : Nat) (log : List PoolAction) (a : PoolAction) :
    acquisitions id (log ++ [a]) = acquisitions id log + (a.acquires id).toNat := by
  unfold acquisitions
  cases holds : a.acquires id <;> simp [holds]

@[simp] theorem redemptions_append (id : Nat) (log : List PoolAction) (a : PoolAction) :
    redemptions id (log ++ [a]) = redemptions id log + (a.redeems id).toNat := by
  unfold redemptions
  cases holds : a.redeems id <;> simp [holds]

/-- What the log says of one id. -/
structure Lawful (issued : Prop) (id : Nat) (log : List PoolAction) : Prop where
  fresh : ¬ issued → granted id log = none ∧ acquisitions id log = 0 ∧ redemptions id log = 0
  once : acquisitions id log ≤ 1
  redeemed : redemptions id log + (granted id log).toList.length ≤ 1
  acquired : ∀ t source, granted id log = some (t,source) → .acquired id t source ∈ log
  own : ∀ source, .redeemed id source ∈ log → ∃ t, .acquired id t source ∈ log

/-- The pairs that are stored are those that are granted and not late. -/
structure Translates (p : RequestIdPool keys) (log : List PoolAction) : Prop where
  sound : p.queue.Sound
  exactly : ExpiryQueue.Exact (deadline p.timeoutMS) p.queue (fun id => (granted id log).map Prod.fst)
  named : ∀ id pair, p.requestPairPool.find? id = some pair → pair.requestPairId = id
  grants : ∀ id pair, p.requestPairPool.find? id = some pair →
    granted id log = some (pair.requestStartTimestampMS,pair.source)
  lawful : ∀ id, Lawful (p.requestPairPool.Issued id) id log

theorem translates_init (ticker poolSize timeoutMS : Nat) :
    Translates (RequestIdPool.init keys ticker poolSize timeoutMS) [] := by
  refine ⟨ExpiryQueue.sound_empty ticker,ExpiryQueue.exact_empty _ ticker,?_,?_,?_⟩
  · intro id pair stored
    cases stored
  · intro id pair stored
    cases stored
  · intro id
    constructor <;> simp [granted,acquisitions,redemptions]

/-- An action that neither returns the id nor redeems it. -/
theorem Lawful.other {issued : Prop} {id : Nat} (lawful : Lawful issued id log) {a : PoolAction}
    (acquires : a.acquires id = false) (redeems : a.redeems id = false) {issued' : Prop} (kept : issued → issued') :
    granted id (log ++ [a]) = granted id log ∧ Lawful issued' id (log ++ [a]) := by
  have same : granted id (log ++ [a]) = granted id log := by
    rw [granted_append]
    cases a with
    | acquired other t source => exact if_neg (by simpa [PoolAction.acquires] using acquires)
    | redeemed other source => exact if_neg (by simpa [PoolAction.redeems] using redeems)
    | exhausted => rfl
    | refused other => rfl
  refine ⟨same,?_,?_,?_,?_,?_⟩
  · intro fresh
    rw [same,acquisitions_append,redemptions_append,acquires,redeems]
    exact lawful.fresh (fun before => fresh (kept before))
  · rw [acquisitions_append,acquires]
    exact lawful.once
  · rw [same,redemptions_append,redeems]
    exact lawful.redeemed
  · intro t source grant
    rw [same] at grant
    exact List.mem_append_left _ (lawful.acquired t source grant)
  · intro source member
    rcases List.mem_append.mp member with before | now
    · obtain ⟨t,acquired⟩ := lawful.own source before
      exact ⟨t,List.mem_append_left _ acquired⟩
    · rw [List.mem_singleton] at now
      simp [← now,PoolAction.redeems] at redeems

/-- The id is returned for the first time. -/
theorem Lawful.acquire {id : Nat} {issued issued' : Prop} (lawful : Lawful issued id log) (fresh : ¬ issued)
    (given : issued') (t : Nat) (source : RequestSource) :
    Lawful issued' id (log ++ [.acquired id t source]) := by
  obtain ⟨none,unacquired,unredeemed⟩ := lawful.fresh fresh
  have now : granted id (log ++ [.acquired id t source]) = some (t,source) := by
    rw [granted_append]
    exact if_pos rfl
  refine ⟨fun other => absurd given other,?_,?_,?_,?_⟩
  · simp [unacquired,PoolAction.acquires]
  · simp [unredeemed,now,PoolAction.redeems]
  · intro t' source' grant
    rw [now] at grant
    obtain ⟨rfl,rfl⟩ := Prod.mk.inj (Option.some.inj grant)
    exact List.mem_append_right _ (List.mem_singleton.mpr rfl)
  · intro source' member
    rcases List.mem_append.mp member with before | now
    · obtain ⟨t',acquired⟩ := lawful.own source' before
      exact ⟨t',List.mem_append_left _ acquired⟩
    · cases List.mem_singleton.mp now

/-- The id is redeemed for what it was granted for. -/
theorem Lawful.redeem {id : Nat} {issued : Prop} (lawful : Lawful issued id log) (given : issued) {t : Nat}
    {source : RequestSource} (grant : granted id log = some (t,source)) :
    Lawful issued id (log ++ [.redeemed id source]) := by
  have none : granted id (log ++ [.redeemed id source]) = none := by
    rw [granted_append]
    exact if_pos rfl
  have before := lawful.redeemed
  rw [grant] at before
  refine ⟨fun other => absurd given other,?_,?_,?_,?_⟩
  · rw [acquisitions_append]
    exact lawful.once
  · simp [none,PoolAction.redeems]
    simpa using before
  · intro t' source' later
    rw [none] at later
    cases later
  · intro source' member
    rcases List.mem_append.mp member with before | now
    · obtain ⟨t',acquired⟩ := lawful.own source' before
      exact ⟨t',List.mem_append_left _ acquired⟩
    · obtain ⟨-,rfl⟩ := PoolAction.redeemed.inj (List.mem_singleton.mp now)
      exact ⟨t,List.mem_append_left _ (lawful.acquired t source' grant)⟩

/-! ## Steps -/

/-- An action that concerns no id. -/
theorem Translates.logged (translates : Translates p log) {a : PoolAction}
    (acquires : ∀ id, a.acquires id = false) (redeems : ∀ id, a.redeems id = false) :
    Translates p (log ++ [a]) := by
  have same (id : Nat) : granted id (log ++ [a]) = granted id log ∧
      Lawful (p.requestPairPool.Issued id) id (log ++ [a]) :=
    (translates.lawful id).other (acquires id) (redeems id) (fun given => given)
  refine ⟨translates.sound,?_,translates.named,?_,fun id => (same id).2⟩
  · intro id
    dsimp only
    rw [(same id).1]
    exact translates.exactly id
  · intro id pair stored
    rw [(same id).1]
    exact translates.grants id pair stored

theorem Translates.acquire (translates : Translates p log) (source : RequestSource) {id : Nat}
    {requestPairPool : Storage keys RequestPair}
    (acquired : p.requestPairPool.acquire (fun id => ⟨p.ticker,id,source⟩) = some (id,requestPairPool)) :
    Translates (p.acquire source).2 (log ++ [.acquired id p.ticker source]) := by
  have queue := queue_acquire translates.sound acquired
  have pool : (p.acquire source).2.requestPairPool = requestPairPool := by
    simp only [RequestIdPool.acquire,acquired]
  have timeout : (p.acquire source).2.timeoutMS = p.timeoutMS := by
    simp only [RequestIdPool.acquire,acquired]
  have found (other : Nat) := Storage.find?_acquire acquired other
  have issued (other : Nat) := Storage.issued_acquire acquired other
  obtain ⟨-,fresh⟩ := Storage.acquired_fresh acquired
  have others {other : Nat} (apart : other ≠ id) : granted other (log ++ [.acquired id p.ticker source]) =
      granted other log ∧ Lawful ((p.acquire source).2.requestPairPool.Issued other) other
        (log ++ [.acquired id p.ticker source]) := by
    apply (translates.lawful other).other
    · simpa [PoolAction.acquires] using Ne.symm apart
    · rfl
    · intro given
      rw [pool,issued]
      exact .inr given
  have now : granted id (log ++ [.acquired id p.ticker source]) = some (p.ticker,source) := by
    rw [granted_append]
    exact if_pos rfl
  refine ⟨?_,?_,?_,?_,?_⟩
  · rw [queue]
    exact translates.sound.touch id
  · have touched : (fun other => (granted other (log ++ [.acquired id p.ticker source])).map Prod.fst) =
        Function.update (fun other => (granted other log).map Prod.fst) id (some p.queue.clock) := by
      funext other
      by_cases same : other = id
      · subst same
        rw [now,Function.update_self]
        rfl
      · rw [(others same).1,Function.update_of_ne same]
    rw [queue,timeout,touched]
    exact translates.exactly.touch id
  · intro other pair stored
    rw [pool,found] at stored
    split at stored
    · rename_i same
      rw [← Option.some.inj stored,same]
    · exact translates.named other pair stored
  · intro other pair stored
    rw [pool,found] at stored
    split at stored
    · rename_i same
      rw [← Option.some.inj stored,same,now]
    · rename_i apart
      rw [(others apart).1]
      exact translates.grants other pair stored
  · intro other
    by_cases same : other = id
    · subst same
      apply (translates.lawful other).acquire fresh
      rw [pool,issued]
      exact .inl rfl
    · exact (others same).2

theorem Translates.redeem (translates : Translates p log) {id : Nat} {pair : RequestPair}
    (stored : p.requestPairPool.find? id = some pair) :
    Translates (p.release id) (log ++ [.redeemed id pair.source]) := by
  have grant := translates.grants id pair stored
  have found (other : Nat) : (p.release id).requestPairPool.find? other =
      if other = id then none else p.requestPairPool.find? other := Storage.find?_release _ id other
  have others {other : Nat} (apart : other ≠ id) : granted other (log ++ [.redeemed id pair.source]) =
      granted other log ∧ Lawful ((p.release id).requestPairPool.Issued other) other
        (log ++ [.redeemed id pair.source]) := by
    apply (translates.lawful other).other
    · rfl
    · simpa [PoolAction.redeems] using Ne.symm apart
    · exact fun given => given
  have now : granted id (log ++ [.redeemed id pair.source]) = none := by
    rw [granted_append]
    exact if_pos rfl
  refine ⟨?_,?_,?_,?_,?_⟩
  · rw [queue_release]
    exact translates.sound.drop id
  · have dropped : (fun other => (granted other (log ++ [.redeemed id pair.source])).map Prod.fst) =
        Function.update (fun other => (granted other log).map Prod.fst) id none := by
      funext other
      by_cases same : other = id
      · subst same
        rw [now,Function.update_self]
        rfl
      · rw [(others same).1,Function.update_of_ne same]
    rw [queue_release,dropped]
    exact translates.exactly.drop id
  · intro other pair' here
    rw [found] at here
    split at here
    · cases here
    · exact translates.named other pair' here
  · intro other pair' here
    rw [found] at here
    split at here
    · cases here
    · rename_i apart
      rw [(others apart).1]
      exact translates.grants other pair' here
  · intro other
    by_cases same : other = id
    · subst same
      exact (translates.lawful other).redeem (Storage.issued_of_find? stored) grant
    · exact (others same).2

theorem Translates.tick (translates : Translates p log) {nowMS : Nat} (later : p.ticker ≤ nowMS)
    (epoch : p.timeoutMS ≤ nowMS) : Translates (p.tick nowMS) log := by
  obtain ⟨queue,timeout,kept,issued⟩ := tick_spec translates.sound translates.named epoch
  refine ⟨?_,?_,?_,?_,?_⟩
  · rw [queue]
    exact translates.sound.expire ((deadline p.timeoutMS).downward nowMS) later
  · rw [queue,timeout]
    exact translates.exactly.expire translates.sound later
  · exact fun id pair here => translates.named id pair (kept id pair here)
  · exact fun id pair here => translates.grants id pair (kept id pair here)
  · intro id
    have lawful := translates.lawful id
    rw [← issued] at lawful
    exact lawful

theorem translates_step (translates : Translates p log) {e : PoolEvent} (ticking : Ticking p log e) :
    Translates (p.step e).1 (log ++ (p.step e).2) := by
  cases e with
  | acquire source =>
    cases acquired : p.requestPairPool.acquire (fun id => ⟨p.ticker,id,source⟩) with
    | none =>
      simp only [RequestIdPool.step,RequestIdPool.acquire,acquired,if_true]
      exact translates.logged (fun _ => rfl) (fun _ => rfl)
    | some given =>
      obtain ⟨id,requestPairPool⟩ := given
      have nonzero : id ≠ 0 := by
        rw [(Storage.acquire_spec acquired).1]
        exact Storage.nextKey_ne_zero _
      have after := translates.acquire source acquired
      simp only [RequestIdPool.acquire,acquired] at after
      simp only [RequestIdPool.step,RequestIdPool.acquire,acquired,if_neg nonzero]
      exact after
  | checkAndRelease id =>
    cases stored : p.requestPairPool.find? id with
    | none =>
      simp only [RequestIdPool.step,RequestIdPool.checkAndRelease,stored]
      exact translates.logged (fun _ => rfl) (fun _ => rfl)
    | some pair =>
      simp only [RequestIdPool.step,RequestIdPool.checkAndRelease,stored]
      exact translates.redeem stored
  | tick nowMS =>
    simp only [RequestIdPool.step,List.append_nil]
    exact translates.tick ticking.1 ticking.2

theorem translates_reach (reach : (poolMachine keys).Reach Ticking p log) : Translates p log := by
  apply Machine.Reach.invariant (I := Translates) ?_ ?_ reach
  · rintro _ ⟨ticker,poolSize,timeoutMS,rfl⟩
    exact translates_init ticker poolSize timeoutMS
  · exact fun p log e _ ticking translates => translates_step translates ticking

/-- In every run: an id is redeemed for a source just if it was returned for it, has not been
released since and is not older than the timeout; each id is returned at most once, redeemed at
most once, and for no other source than its own. -/
theorem request_ids_translated (reach : (poolMachine keys).Reach Ticking p log) (id : Nat) :
    (∀ source, (p.checkAndRelease id).1 = some source ↔
      ∃ t, granted id log = some (t,source) ∧ p.ticker - t ≤ p.timeoutMS) ∧
    acquisitions id log ≤ 1 ∧ redemptions id log ≤ 1 ∧
    (∀ t source, granted id log = some (t,source) → .acquired id t source ∈ log) ∧
    ∀ source, .redeemed id source ∈ log → ∃ t, .acquired id t source ∈ log := by
  have translates := translates_reach reach
  have lawful := translates.lawful id
  refine ⟨?_,lawful.once,Nat.le_trans (Nat.le_add_right _ _) lawful.redeemed,lawful.acquired,lawful.own⟩
  intro source
  have stamps (t : Nat) := translates.exactly.stamps_iff (k := id) (t := t)
  constructor
  · intro redeemed
    cases stored : p.requestPairPool.find? id with
    | none => simp [RequestIdPool.checkAndRelease,stored] at redeemed
    | some pair =>
      simp only [RequestIdPool.checkAndRelease,stored,Option.some.injEq] at redeemed
      subst redeemed
      have young := ((stamps pair.requestStartTimestampMS).mp (by simp [RequestIdPool.queue,stored])).2
      have inTime : ¬ pair.requestStartTimestampMS + p.timeoutMS < p.ticker := of_decide_eq_false young
      exact ⟨pair.requestStartTimestampMS,translates.grants id pair stored,by omega⟩
  · rintro ⟨t,grant,young⟩
    have inTime : ¬ t + p.timeoutMS < p.ticker := by omega
    have stamped := (stamps t).mpr ⟨by simp [grant],decide_eq_false inTime⟩
    obtain ⟨pair,stored,-⟩ := Option.map_eq_some_iff.mp stamped
    have same := translates.grants id pair stored
    rw [grant] at same
    obtain ⟨-,rfl⟩ := Prod.mk.inj (Option.some.inj same)
    simp [RequestIdPool.checkAndRelease,stored]

/-! ## Two requests -/

/-- The first request is answered too late. -/
def answered : List PoolEvent :=
  [.tick 5000,.acquire ⟨7,70⟩,.tick 5600,.acquire ⟨8,80⟩,.tick 6200,.checkAndRelease 1]

abbrev answeredPool : RequestIdPool .sequential × List PoolAction :=
  (poolMachine .sequential).run (.init .sequential 0 16 1000) answered

/-- The second one is still in time. -/
theorem request_ids_translated_answered :
    answeredPool.2.getLast? = some (.refused 1) ∧ (answeredPool.1.checkAndRelease 2).1 = some ⟨8,80⟩ := by
  have start : (poolMachine .sequential).start (.init .sequential 0 16 1000) := ⟨0,16,1000,rfl⟩
  have ticking : (poolMachine .sequential).Allowed Ticking (.init .sequential 0 16 1000) [] answered := by
    refine ⟨?_,trivial,?_,trivial,?_,trivial,trivial⟩
    · exact ⟨by decide,by decide⟩
    · exact ⟨by decide,by decide⟩
    · exact ⟨by decide,by decide⟩
  have translated := request_ids_translated (Machine.Reach.run (.start start) answered ticking) 2
  exact ⟨by decide,(translated.1 ⟨8,80⟩).mpr ⟨5600,by decide,by decide⟩⟩

end MiniPP.RequestId
