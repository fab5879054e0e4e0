import MiniPP.ConfigCenter.Registration

/-! Every run of the registry keeps its contract if and only if no server gets the key 0 and the id
of a free slot is not released. -/
namespace MiniPP.ConfigCenter

open ServerId RelayServerManager RoundRobin

variable {σ : Type} {ids : ObjectIdManagerMini σ} {m m' : RelayServerManager σ}

/-! ## One event -/

theorem step_inadmissible {e : RelayEvent} (inadmissible : ¬ Admissible e) :
    step ids (some m) e = (none,[.assertion]) := by
  cases e with
  | addServerInfo newInfo nowMS =>
    have refused : m.addServerInfo ids newInfo nowMS.toNat = none := if_pos inadmissible
    simp [step,refused]
  | removeServerInfoByKey key => exact absurd trivial inadmissible
  | getAnyRelayServer => exact absurd trivial inadmissible

theorem Serves.refused_or_valid {queue queue' : List RelayServerBase} {newInfo : RelayServerBase} {nowMS : UInt64}
    {key : Nat} (serves : Serves queue (.addServerInfo newInfo nowMS) [.added key] queue') :
    queue' = queue ∨ key ≠ 0 := by
  cases serves with
  | refused => exact .inl rfl
  | added valid => exact .inr valid

/-- A server that is registered under the key 0 is neither added nor turned away. -/
theorem step_addServerInfo (good : Good ids m) {newInfo : RelayServerBase} (unset : newInfo.key = 0)
    (nowMS : UInt64) (log : List RelayAction) :
    ∃ m' out, step ids (some m) (.addServerInfo newInfo nowMS) = (some m',out) ∧
      (Sound ids (some m) log (.addServerInfo newInfo nowMS) → Good ids m') ∧
      (Serves (servers m) (.addServerInfo newInfo nowMS) out (servers m') ↔
        Sound ids (some m) log (.addServerInfo newInfo nowMS)) := by
  rcases addServerInfo_cases good unset nowMS.toNat with
    ⟨idManager,refused,beyond,same⟩ | ⟨index,idManager,taken,added⟩
  · refine ⟨_,_,by rw [step,refused],fun _ => good.of_ids same,fun _ _ one => absurd one beyond,fun _ => ?_⟩
    exact .refused
  · have valid : Sound ids (some m) log (.addServerInfo newInfo nowMS) ↔
        make64 (low32 nowMS.toNat) index ≠ 0 := by
      rw [Ne,make64_eq_zero]
      constructor
      · rintro sound ⟨early,rfl⟩
        exact sound unset taken.first early
      · intro nonzero _ one early
        exact nonzero ⟨early,Nat.succ.inj (taken.first.symm.trans one)⟩
    refine ⟨_,_,by rw [step,added],fun sound => ?_,?_⟩
    · exact good_register good taken (taken.key _) (valid.mp sound)
    · rw [servers_register taken.free,valid]
      constructor
      · intro serves zero
        rcases serves.refused_or_valid with same | nonzero
        · simp at same
        · exact nonzero zero
      · intro nonzero
        exact .added nonzero (good.key_new taken.free (taken.key _))

theorem serves_removed {queue : List RelayServerBase} {key : UInt64}
    (foreign : ∀ server ∈ queue, server.key ≠ key.toNat) :
    Serves queue (.removeServerInfoByKey key) [] queue := by
  have others : queue.filter (fun server => server.key != key.toNat) = queue :=
    List.filter_eq_self.mpr (fun server member => bne_iff_ne.mpr (foreign server member))
  have removed : Serves queue (.removeServerInfoByKey key) [] _ := .removed
  rwa [others] at removed

theorem step_removeServerInfoByKey (good : Good ids m) (key : UInt64) (log : List RelayAction) :
    Serves (servers m) (.removeServerInfoByKey key) [] (servers (m.removeServerInfoByKey ids key.toNat)) ∧
      (Sound ids (some m) log (.removeServerInfoByKey key) → Good ids (m.removeServerInfoByKey ids key.toNat)) ∧
      (((∀ server ∈ servers m, server.key ≠ key.toNat) →
          Unchanged ids m (m.removeServerInfoByKey ids key.toNat)) ↔
        Sound ids (some m) log (.removeServerInfoByKey key)) := by
  have zero_iff : key.toNat = 0 ↔ key = 0 := UInt64.toNat_inj (b := 0)
  rcases removeServerInfoByKey_cases good key.toNat with
    ⟨foreign,⟨used,same⟩ | ⟨zero,free,released⟩⟩ | ⟨index,listed,own,removed⟩
  · rw [same]
    refine ⟨serves_removed foreign,fun _ => good,fun _ zero free => ?_,fun _ _ => ⟨rfl,rfl,fun id => Iff.rfl⟩⟩
    exact absurd (used (zero_iff.mpr zero)) free
  · rw [released]
    refine ⟨serves_removed foreign,fun sound => ?_,fun unchanged _ _ => (unchanged foreign).ids,
      fun sound _ => ⟨rfl,rfl,sound (zero_iff.mp zero) free⟩⟩
    exact good.of_ids (sound (zero_iff.mp zero) free)
  · rw [removed]
    have valid := good.valid index listed
    refine ⟨?_,fun _ => good_unregister good listed,fun _ zero => ?_,fun _ foreign => ?_⟩
    · rw [servers_unregister good listed,own]
      exact .removed
    · exact absurd (own.trans (zero_iff.mpr zero)) valid
    · exact absurd own (foreign _ (List.mem_map_of_mem listed))

theorem step_getAnyRelayServer (good : Good ids m) :
    ∃ m' out, step ids (some m) .getAnyRelayServer = (some m',out) ∧ Good ids m' ∧
      Serves (servers m) .getAnyRelayServer out (servers m') := by
  cases list : m.relayServerListAll with
  | nil =>
    have nobody : servers m = [] := by rw [servers,list,List.map_nil]
    refine ⟨m,[.selected none],by simp [step,getAnyRelayServer,list],good,?_⟩
    rw [nobody]
    exact .nobody
  | cons index rest =>
    have turned : (rest ++ [index]).Perm m.relayServerListAll := by
      rw [list]
      exact List.perm_append_singleton index rest
    have queue : servers m = m.relayServerPool index :: rest.map m.relayServerPool := by
      rw [servers,list,List.map_cons]
    refine ⟨_,_,by rw [step,getAnyRelayServer,list],?_,?_⟩
    · constructor
      case once => exact turned.nodup_iff.mpr good.once
      case small => exact fun other member => good.small other (turned.mem_iff.mp member)
      case own => exact fun other member => good.own other (turned.mem_iff.mp member)
      case valid => exact fun other member => good.valid other (turned.mem_iff.mp member)
      case blank => exact fun other free => good.blank other (mt turned.mem_iff.mpr free)
      case ids =>
        intro id
        simp only [good.ids,turned.mem_iff]
    · rw [queue,servers,List.map_append]
      exact .turn

/-- The next state, if there is one, is good, and the event was served. -/
theorem step_sound (good : Good ids m) {log : List RelayAction} {e : RelayEvent} (admissible : Admissible e)
    (sound : Sound ids (some m) log e) : ∃ m' out, step ids (some m) e = (some m',out) ∧ Good ids m' ∧
      Serves (servers m) e out (servers m') := by
  cases e with
  | addServerInfo newInfo nowMS =>
    obtain ⟨m',out,result,keeps,serves⟩ := step_addServerInfo good admissible nowMS log
    exact ⟨m',out,result,keeps sound,serves.mpr sound⟩
  | removeServerInfoByKey key =>
    obtain ⟨serves,keeps,-⟩ := step_removeServerInfoByKey good key log
    exact ⟨_,[],rfl,keeps sound,serves⟩
  | getAnyRelayServer => exact step_getAnyRelayServer good

theorem Serves.turn_queue {queue queue' : List RelayServerBase} {e : RelayEvent} {out : List RelayAction}
    (serves : Serves queue e out queue') : Turn queue (selections out) queue' := by
  cases serves with
  | refused => exact .idle _
  | added valid new => exact .join (fun member => new _ member rfl)
  | removed => exact .leave _ _
  | nobody => exact .idle _
  | turn => exact .turn _ _

/-! ## Any run -/

/-- Nothing is said of a process that is gone. -/
def Fine (ids : ObjectIdManagerMini σ) : Option (RelayServerManager σ) → Prop
  | none => True
  | some m => Good ids m

theorem fine_step {s : Option (RelayServerManager σ)} (fine : Fine ids s) {log : List RelayAction}
    {e : RelayEvent} (sound : Sound ids s log e) : Fine ids (step ids s e).1 := by
  cases s with
  | none => trivial
  | some m =>
    by_cases admissible : Admissible e
    · obtain ⟨m',out,result,good,-⟩ := step_sound fine admissible sound
      rw [result]
      exact good
    · rw [step_inadmissible admissible]
      trivial

theorem fine_run {s : Option (RelayServerManager σ)} (fine : Fine ids s) {log : List RelayAction}
    {events : List RelayEvent} (allowed : (relayMachine ids).Allowed (Sound ids) s log events) :
    Fine ids ((relayMachine ids).run s events).1 := by
  induction events generalizing s log with
  | nil => exact fine
  | cons e events ih => exact ih (fine_step fine allowed.1) allowed.2

theorem run_none (ids : ObjectIdManagerMini σ) (events : List RelayEvent) :
    (relayMachine ids).run none events = (none,[]) := by
  induction events with
  | nil => rfl
  | cons e events ih =>
    rw [Machine.run]
    simp only [relayMachine,step] at ih ⊢
    rw [ih]
    rfl

theorem selections_append (front back : List RelayAction) :
    selections (front ++ back) = selections front ++ selections back := List.filterMap_append

/-- The servers that are registered all the while are in every queue on the way. -/
theorem path_run {stays : RelayServerBase → Bool} (good : Good ids m) {log : List RelayAction}
    {stretch : List RelayEvent} (allowed : (relayMachine ids).Allowed (Sound ids) (some m) log stretch)
    (registered : ∀ part rest m', stretch = part ++ rest → ((relayMachine ids).run (some m) part).1 = some m' →
      ∀ server, stays server = true → server ∈ servers m') :
    ∃ queue, Path (fun queue out queue' => Turn queue out queue' ∧
      ∀ server, stays server = true → server ∈ queue') (servers m)
      (selections ((relayMachine ids).run (some m) stretch).2) queue := by
  induction stretch generalizing m log with
  | nil => exact ⟨_,.nil _⟩
  | cons e stretch ih =>
    by_cases admissible : Admissible e
    · obtain ⟨m',out,result,good',serves⟩ := step_sound good admissible allowed.1
      have next : (relayMachine ids).step (some m) e = (some m',out) := result
      have rest := allowed.2
      rw [next] at rest
      obtain ⟨queue,path⟩ := ih good' rest (by
        intro part back m'' split reached
        apply registered (e :: part) back m'' (by rw [split,List.cons_append])
        rw [Machine.run,next]
        exact reached)
      refine ⟨queue,?_⟩
      rw [Machine.run,next]
      dsimp only
      rw [selections_append]
      refine .cons ⟨serves.turn_queue,?_⟩ path
      apply registered [e] stretch m' rfl
      rw [Machine.run,next]
      rfl
    · have gone : (relayMachine ids).step (some m) e = (none,[.assertion]) := step_inadmissible admissible
      refine ⟨servers m,?_⟩
      rw [Machine.run,gone,run_none]
      exact .nil _

/-- What comes next in a run that keeps the contract is sound. -/
theorem Kept.sound_next {events front back : List RelayEvent} {e : RelayEvent} (kept : Kept ids events)
    (good : Good ids m) (split : events = front ++ e :: back)
    (reached : ((relayMachine ids).run (some (.init ids)) front).1 = some m) (log : List RelayAction) :
    Sound ids (some m) log e := by
  cases e with
  | addServerInfo newInfo nowMS =>
    intro unset
    obtain ⟨m',out,result,-,sound⟩ := step_addServerInfo good unset nowMS log
    obtain ⟨m'',out',result',serves⟩ := kept.serves front _ back m split reached unset
    cases result.symm.trans result'
    exact sound.mp serves unset
  | removeServerInfoByKey key =>
    exact (step_removeServerInfoByKey good key log).2.2.mp (kept.removes front key back m split reached)
  | getAnyRelayServer => trivial

/-- Every run keeps the contract if and only if each of its events is sound. -/
theorem relay_registry_iff {σ : Type} (ids : ObjectIdManagerMini σ) (events : List RelayEvent) :
    Kept ids events ↔ (relayMachine ids).Allowed (Sound ids) (some (.init ids)) [] events := by
  have start : Fine ids (some (.init ids)) := good_init ids
  constructor
  · intro kept
    apply Machine.allowed_of_prefixes
    intro front e back split before
    have fine := fine_run start before
    cases reached : ((relayMachine ids).run (some (.init ids)) front).1 with
    | none => trivial
    | some m =>
      rw [reached] at fine
      exact kept.sound_next fine split reached _
  · intro allowed
    have good {front back : List RelayEvent} {m : RelayServerManager σ} (split : events = front ++ back)
        (reached : ((relayMachine ids).run (some (.init ids)) front).1 = some m) : Good ids m := by
      rw [split,Machine.allowed_append] at allowed
      have fine := fine_run start allowed.1
      rwa [reached] at fine
    have later {front back : List RelayEvent} {m : RelayServerManager σ} (split : events = front ++ back)
        (reached : ((relayMachine ids).run (some (.init ids)) front).1 = some m) :
        ∃ log, (relayMachine ids).Allowed (Sound ids) (some m) log back := by
      rw [split,Machine.allowed_append,reached] at allowed
      exact ⟨_,allowed.2⟩
    constructor
    case consistent =>
      intro front back m split reached
      exact (good split reached).consistent
    case serves =>
      intro front e back m split reached admissible
      obtain ⟨log,sound,-⟩ := later split reached
      obtain ⟨m',out,result,-,serves⟩ := step_sound (good split reached) admissible sound
      exact ⟨m',out,result,serves⟩
    case removes =>
      intro front key back m split reached
      obtain ⟨log,sound,-⟩ := later split reached
      exact (step_removeServerInfoByKey (good split reached) key log).2.2.mpr sound
    case turns =>
      intro front stretch back m stays split reached registered
      obtain ⟨log,sound⟩ := later split reached
      obtain ⟨queue,path⟩ := path_run (good split reached) ((Machine.allowed_append _ _).mp sound).1 registered
      exact goesRound_path path (registered [] stretch m rfl rfl)

/-! ## The key 0 -/

def relay : RelayServerBase := ⟨0,⟨.ipv4,[10,0,0,1],70⟩,⟨.ipv4,[10,0,0,1],71⟩,.unspecified⟩

/-- The low half of the time, 411 times 2 to the 32, is 0. -/
def earlyServer : List RelayEvent := [.addServerInfo relay 1765231558656,.getAnyRelayServer]

/-- The first server gets the key 0, and its turn. -/
theorem registered_without_key : ¬ Kept (.ofList 4096) earlyServer ∧
    ((relayMachine (.ofList 4096)).run (some (.init (.ofList 4096))) earlyServer).2 =
      [.added 0,.selected (some relay)] := by
  constructor
  · intro kept
    obtain ⟨m',out,result,serves⟩ := kept.serves [] _ _ _ rfl rfl rfl
    cases result
    rcases serves.refused_or_valid with same | valid
    · cases same
    · exact valid rfl
  · rfl

end MiniPP.ConfigCenter
