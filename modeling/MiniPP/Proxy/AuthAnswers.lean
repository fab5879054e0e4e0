import MiniPP.Proxy.AuthTable

/-! What the log of an auth table says: each accepted request is answered at most once and
is held until then, and a verdict goes back to a reply for the request's own key. -/
namespace MiniPP.Proxy

open Function (update)

namespace AuthAction

def isAccepted (rid : Nat) : AuthAction → Bool
  | .requestAuth _ _ _ (some other) => other == rid
  | _ => false

def isAnswer (rid : Nat) : AuthAction → Bool
  | .result other _ _ => other == rid
  | _ => false

end AuthAction

/-- How often a request id was given out, and how often it was answered. -/
def accepted (rid : Nat) (log : List AuthAction) : Nat := log.countP (AuthAction.isAccepted rid)

def answers (rid : Nat) (log : List AuthAction) : Nat := log.countP (AuthAction.isAnswer rid)

@[simp] theorem accepted_append (rid : Nat) (log out : List AuthAction) :
    accepted rid (log ++ out) = accepted rid log + accepted rid out := List.countP_append

@[simp] theorem answers_append (rid : Nat) (log out : List AuthAction) :
    answers rid (log ++ out) = answers rid log + answers rid out := List.countP_append

/-- The auth service gave this verdict when it was asked about the key. -/
def Verdict (key : Bytes) (v : AuthResult) (log : List AuthAction) : Prop :=
  ∃ id resp, [.query id key,.reply id resp].Sublist log ∧ v = AuthTable.verdict resp

theorem Verdict.append {key : Bytes} {v : AuthResult} {log : List AuthAction}
    (given : Verdict key v log) (out : List AuthAction) : Verdict key v (log ++ out) := by
  obtain ⟨id,resp,order,same⟩ := given
  exact ⟨id,resp,order.trans (List.sublist_append_left log out),same⟩

/-- An answer goes to the source of an accepted request, with no verdict or one for its key. -/
def Answerable (before : List AuthAction) : AuthAction → Prop
  | .result rid source v => ∃ key timestamp,
      .requestAuth source key timestamp (some rid) ∈ before ∧
        ∀ given, v = some given → Verdict key given before
  | _ => True

namespace AuthTable

structure Recorded (t : AuthTable) (log : List AuthAction) : Prop where
  requested : ∀ rid r, t.request rid = some r → ∃ key,
    .requestAuth r.requestSourceId key r.requestTimestamp (some rid) ∈ log ∧
      ∀ node, t.node r.cacheNodeId = some node → node.userPass = key
  balance : ∀ rid, accepted rid log = answers rid log + if (t.request rid).isSome then 1 else 0
  unused : ∀ rid, ¬ t.requestIds rid → accepted rid log = 0
  once : ∀ rid, accepted rid log ≤ 1
  asked : ∀ id node, t.node id = some node → .query id node.userPass ∈ log
  verdicts : ∀ id node, t.node id = some node → node.result.ready = true →
    Verdict node.userPass node.result log
  answerable : Log.Always Answerable log

/-- Steps that give out no request and answer none. -/
theorem recorded_silent {t t' : AuthTable} {log out : List AuthAction} (recorded : Recorded t log)
    (noRequest : ∀ rid, accepted rid out = 0) (noAnswer : ∀ rid, answers rid out = 0)
    (legal : ∀ x ∈ out, ∀ before, Answerable before x)
    (request : t'.request = t.request) (requestIds : t'.requestIds = t.requestIds)
    (nodes : ∀ id node', t'.node id = some node' → ∃ node, t.node id = some node ∧
      node.userPass = node'.userPass ∧ (node'.result.ready = true →
        (node.result.ready = true ∧ node.result = node'.result) ∨
          Verdict node'.userPass node'.result (log ++ out))) :
    Recorded t' (log ++ out) := by
  constructor
  · intro rid r found
    rw [request] at found
    obtain ⟨key,member,own⟩ := recorded.requested rid r found
    refine ⟨key,List.mem_append_left _ member,?_⟩
    intro node' live
    obtain ⟨node,old,same,-⟩ := nodes _ node' live
    rw [← same]
    exact own node old
  · intro rid
    have := recorded.balance rid
    simp only [accepted_append,answers_append,noRequest,noAnswer,request]
    omega
  · intro rid fresh
    rw [requestIds] at fresh
    simp [noRequest,recorded.unused rid fresh]
  · intro rid
    have := recorded.once rid
    simpa [noRequest] using this
  · intro id node' live
    obtain ⟨node,old,same,-⟩ := nodes id node' live
    rw [← same]
    exact List.mem_append_left _ (recorded.asked id node old)
  · intro id node' live ready
    obtain ⟨node,old,same,answer⟩ := nodes id node' live
    rcases answer ready with ⟨before,result⟩ | new
    · have := recorded.verdicts id node old before
      rw [same,result] at this
      exact this.append out
    · exact new
  · refine Log.always_append.mpr ⟨recorded.answerable,?_⟩
    exact Log.always_of_mem (fun x member before => legal x member _)

/-- A request that is given out fresh is balanced by being held. -/
theorem balance_given {t : AuthTable} {log : List AuthAction} (recorded : Recorded t log)
    (linked : Linked t) {rid : Nat} (fresh : ¬ t.requestIds rid) (source timestamp : Nat) (key : Bytes)
    (out : List AuthAction) (quiet : ∀ other, accepted other out = 0 ∧ answers other out = 0)
    (r : AuthRequestNode) (other : Nat) :
    let log' := log ++ .requestAuth source key timestamp (some rid) :: out
    accepted other log' = answers other log' +
        (if (update t.request rid (some r) other).isSome then 1 else 0) ∧ accepted other log' ≤ 1 := by
  have balance := recorded.balance other
  have once := recorded.once other
  have none := recorded.unused rid fresh
  have count : accepted other (.requestAuth source key timestamp (some rid) :: out) =
      if other = rid then 1 else 0 := by
    have := (quiet other).1
    unfold accepted at this ⊢
    rw [List.countP_cons,this]
    by_cases same : other = rid
    · simp [AuthAction.isAccepted,same]
    · simp [AuthAction.isAccepted,same,Ne.symm same]
  have count' : answers other (.requestAuth source key timestamp (some rid) :: out) = 0 := by
    have := (quiet other).2
    unfold answers at this ⊢
    rw [List.countP_cons,this]
    simp [AuthAction.isAnswer]
  simp only [accepted_append,answers_append,count,count',Function.update_apply]
  by_cases same : other = rid
  · subst same
    have free := linked.no_request fresh
    simp only [if_true,Option.isSome_some]
    rw [free] at balance
    simp at balance
    omega
  · simp only [if_neg same]
    omega

theorem recorded_unplaced {t : AuthTable} {log : List AuthAction} (recorded : Recorded t log)
    (linked : Linked t) (source rid : Nat) (key : Bytes) (fresh : ¬ t.requestIds rid) :
    Recorded (t.unplace source rid)
      (log ++ [.requestAuth source key t.now (some rid)]) := by
  have given := balance_given recorded linked fresh source t.now key [] (by simp [accepted,answers])
    { requestTimestamp := t.now, requestSourceId := source }
  constructor
  · intro other r found
    rcases of_update_some found with ⟨same,rfl⟩ | ⟨-,old⟩
    · refine ⟨key,by simp [same],?_⟩
      intro node live
      exact absurd live (by simp [unplace,linked.zero])
    · obtain ⟨key',member,own⟩ := recorded.requested other r old
      exact ⟨key',List.mem_append_left _ member,own⟩
  · exact fun other => (given other).1
  · intro other unused
    have apart : other ≠ rid ∧ ¬ t.requestIds other := by simpa [unplace] using unused
    have old := recorded.unused other apart.2
    have : accepted other [.requestAuth source key t.now (some rid)] = 0 := by
      simp [accepted,AuthAction.isAccepted,Ne.symm apart.1]
    simp [old,this]
  · exact fun other => (given other).2
  · intro id node live
    exact List.mem_append_left _ (recorded.asked id node live)
  · intro id node live ready
    exact (recorded.verdicts id node live ready).append _
  · refine Log.always_append.mpr ⟨recorded.answerable,?_⟩
    exact Log.always_of_mem (by simp [Answerable])

theorem recorded_placed {t : AuthTable} {log : List AuthAction} (recorded : Recorded t log)
    (linked : Linked t) (source rid id : Nat) (key : Bytes) (node : AuthCacheNode)
    (fresh : ¬ t.requestIds rid) (found : t.NodeFor key id node) :
    Recorded (t.place source rid id node key)
      (log ++ .requestAuth source key t.now (some rid) ::
        if node.lastUpdateTimestampMS ≤ t.reconfirm then [.query id key] else []) := by
  have quiet (other : Nat) (renew : Prop) [Decidable renew] :
      accepted other (if renew then [.query id key] else []) = 0 ∧
        answers other (if renew then [.query id key] else []) = 0 := by
    split <;> simp [accepted,answers,AuthAction.isAccepted,AuthAction.isAnswer]
  have given := balance_given recorded linked fresh source t.now key _
    (fun other => quiet other (node.lastUpdateTimestampMS ≤ t.reconfirm))
    { requestTimestamp := t.now, requestSourceId := source, cacheNodeId := id }
  have own := found.userPass linked
  constructor
  · intro other r here
    rcases place_request here with ⟨same,rfl⟩ | ⟨-,before⟩
    · refine ⟨key,by simp [same],?_⟩
      intro node' live
      rcases place_node live with ⟨-,rfl⟩ | ⟨apart,-⟩
      · exact own
      · exact absurd rfl apart
    · obtain ⟨key',member,keyed⟩ := recorded.requested other r before
      refine ⟨key',List.mem_append_left _ member,?_⟩
      intro node' live
      rcases place_node live with ⟨there,rfl⟩ | ⟨-,old⟩
      · rcases found with ⟨old,-⟩ | ⟨fresh',nonzero,-⟩
        · exact keyed node (there ▸ old)
        · exact absurd there (linked.not_named fresh' nonzero before)
      · exact keyed node' old
  · exact fun other => (given other).1
  · intro other unused
    have apart : other ≠ rid ∧ ¬ t.requestIds other := by simpa [place] using unused
    have old := recorded.unused other apart.2
    have none := (quiet other (node.lastUpdateTimestampMS ≤ t.reconfirm)).1
    have : accepted other (.requestAuth source key t.now (some rid) ::
        if node.lastUpdateTimestampMS ≤ t.reconfirm then [.query id key] else []) = 0 := by
      unfold accepted at none ⊢
      rw [List.countP_cons,none]
      simp [AuthAction.isAccepted,Ne.symm apart.1]
    simp [old,this]
  · exact fun other => (given other).2
  · intro id' node' live
    rcases place_node live with ⟨rfl,rfl⟩ | ⟨-,old⟩
    · rcases found with ⟨old,-⟩ | ⟨-,-,-,rfl⟩
      · exact List.mem_append_left _ (recorded.asked id' node old)
      · simp [joined]
    · exact List.mem_append_left _ (recorded.asked id' node' old)
  · intro id' node' live ready
    rcases place_node live with ⟨rfl,rfl⟩ | ⟨-,old⟩
    · rcases found with ⟨old,-⟩ | ⟨-,-,-,rfl⟩
      · exact (recorded.verdicts id' node old ready).append _
      · cases ready
    · exact (recorded.verdicts id' node' old ready).append _
  · refine Log.always_append.mpr ⟨recorded.answerable,?_⟩
    apply Log.always_of_mem
    intro x member before
    split at member <;> simp at member <;> grind [Answerable]

/-- The answer is the verdict of the node that the request names, if it still exists. -/
theorem recorded_dispatched {t : AuthTable} {log : List AuthAction} (recorded : Recorded t log)
    (linked : Linked t) (rid : Nat) (r : AuthRequestNode) (found : t.request rid = some r)
    (ready : rid ∈ t.dispatch) :
    Recorded { t with
      request := update t.request rid none
      dispatch := without t.dispatch rid }
      (log ++ [.result rid r.requestSourceId ((t.node r.cacheNodeId).map AuthCacheNode.result)]) := by
  obtain ⟨key,member,own⟩ := recorded.requested rid r found
  have noRequest (other : Nat) (v : Option AuthResult) :
      accepted other [.result rid r.requestSourceId v] = 0 := by
    simp [accepted,AuthAction.isAccepted]
  constructor
  · intro other r' here
    obtain ⟨key',member',own'⟩ := recorded.requested other r' (of_update_none here).2
    exact ⟨key',List.mem_append_left _ member',own'⟩
  · intro other
    have balance := recorded.balance other
    have answer (v : Option AuthResult) :
        answers other [.result rid r.requestSourceId v] = if other = rid then 1 else 0 := by
      by_cases same : other = rid
      · simp [answers,AuthAction.isAnswer,same]
      · simp [answers,AuthAction.isAnswer,same,Ne.symm same]
    simp only [accepted_append,answers_append,noRequest,answer,Function.update_apply]
    by_cases same : other = rid
    · rw [same,found] at balance
      simp only [same,if_true]
      simpa using balance
    · simp only [if_neg same]
      omega
  · intro other fresh
    simp [noRequest,recorded.unused other fresh]
  · intro other
    have := recorded.once other
    simpa [noRequest] using this
  · intro id node live
    exact List.mem_append_left _ (recorded.asked id node live)
  · intro id node live answer
    exact (recorded.verdicts id node live answer).append _
  · refine Log.always_append.mpr ⟨recorded.answerable,?_⟩
    simp only [Log.always_cons,Log.always_nil,and_true,List.append_nil]
    refine ⟨key,r.requestTimestamp,member,?_⟩
    intro given same
    obtain ⟨node,live,rfl⟩ := Option.map_eq_some_iff.mp same
    obtain ⟨r',again,answered⟩ := linked.dispatched rid ready
    rw [found] at again
    obtain rfl := Option.some.inj again
    have := recorded.verdicts _ node live (answered node live)
    rw [own node live] at this
    exact this

/-- A step that may drop nodes, but changes none that it keeps. -/
theorem recorded_kept {t t' : AuthTable} {log out : List AuthAction} (recorded : Recorded t log)
    (noRequest : ∀ rid, accepted rid out = 0) (noAnswer : ∀ rid, answers rid out = 0)
    (legal : ∀ x ∈ out, ∀ before, Answerable before x) (request : t'.request = t.request)
    (requestIds : t'.requestIds = t.requestIds)
    (nodes : ∀ id node, t'.node id = some node → t.node id = some node) :
    Recorded t' (log ++ out) := by
  apply recorded_silent recorded noRequest noAnswer legal request requestIds
  intro id node live
  exact ⟨node,nodes id node live,rfl,fun ready => .inl ⟨ready,rfl⟩⟩

theorem recorded_answered {t : AuthTable} {log : List AuthAction} (recorded : Recorded t log)
    (id : Nat) (resp : QueryAuthCacheResp) (node : AuthCacheNode) (found : t.node id = some node) :
    Recorded (t.answer id resp node)
      (log ++ [.reply id resp]) := by
  have asked := recorded.asked id node found
  refine recorded_silent recorded ?_ ?_ ?_ rfl rfl ?_
  · simp [accepted,AuthAction.isAccepted]
  · simp [answers,AuthAction.isAnswer]
  · simp [Answerable]
  · intro id' node' live
    rcases answer_node live with ⟨rfl,rfl⟩ | ⟨-,old⟩
    · refine ⟨node,found,rfl,fun _ => .inr ⟨id',resp,?_,rfl⟩⟩
      exact (List.singleton_sublist.mpr asked).append (List.Sublist.refl [AuthAction.reply id' resp])
    · exact ⟨node',old,rfl,fun ready => .inl ⟨ready,rfl⟩⟩

theorem recorded_step {t t' : AuthTable} {log out : List AuthAction} (recorded : Recorded t log)
    (linked : Linked t) (step : Step t out t') : Recorded t' (log ++ out) := by
  cases step with
  | refused source key =>
    refine recorded_kept recorded ?_ ?_ ?_ rfl rfl (fun _ _ live => live)
    all_goals simp [accepted,answers,AuthAction.isAccepted,AuthAction.isAnswer,Answerable]
  | unplaced source rid key fresh => exact recorded_unplaced recorded linked source rid key fresh
  | placed source rid id key node fresh found =>
    exact recorded_placed recorded linked source rid id key node fresh found
  | ignored id resp gone =>
    refine recorded_kept recorded ?_ ?_ ?_ rfl rfl (fun _ _ live => live)
    all_goals simp [accepted,answers,AuthAction.isAccepted,AuthAction.isAnswer,Answerable]
  | answered id resp node found => exact recorded_answered recorded id resp node found
  | expired turn =>
    obtain ⟨id,node,found,-,rfl,rfl⟩ := turn
    refine recorded_kept recorded ?_ ?_ ?_ rfl rfl (fun _ _ live => (drop_node id node live).2)
    all_goals simp [accepted,answers]
  | evicted turn =>
    obtain ⟨id,node,found,-,rfl,rfl⟩ := turn
    refine recorded_kept recorded ?_ ?_ ?_ rfl rfl (fun _ _ live => (drop_node id node live).2)
    all_goals split
    all_goals simp [accepted,answers,AuthAction.isAccepted,AuthAction.isAnswer,Answerable]
  | dispatched turn =>
    obtain ⟨rid,r,found,listed,rfl,rfl⟩ := turn
    exact recorded_dispatched recorded linked rid r found listed
  | tick now =>
    refine recorded_kept recorded ?_ ?_ ?_ rfl rfl (fun _ _ live => live)
    all_goals simp [accepted,answers]

end AuthTable

end MiniPP.Proxy
