import MiniPP.ServerId.Agreement

/-! What the servers register with. A server goes by no other id than one that the center gave it, on a
connection that the server had asked on. -/
namespace MiniPP.ServerId

open Fleet

variable {σ : Type} {keys : KeySource} {ids : ObjectIdManager σ} {s : Fleet σ keys} {log : List FleetAction}

/-- The client that a server registers with. That of a server that is down has nothing. -/
def Fleet.registerServerClient (s : Fleet σ keys) (i : Nat) : RegisterServerClient :=
  match (s.hosts i).process with
  | none => {}
  | some p => p.registerServerClient

theorem registerServerClient_up {i : Nat} {p : ServerProcess} (up : (s.hosts i).process = some p) :
    s.registerServerClient i = p.registerServerClient := by
  rw [registerServerClient,up]

theorem registerServerClient_setHost (i : Nat) (host : Host) :
    (s.setHost i host).registerServerClient = Function.update s.registerServerClient i
      (match host.process with | none => {} | some p => p.registerServerClient) := by
  funext j
  rw [registerServerClient,setHost_process]
  by_cases same : j = i
  · subst same
    rw [if_pos rfl,Function.update_self]
  · rw [if_neg same,Function.update_of_ne same]
    rfl

/-! ## What is posted -/

/-- What a step does to the clients that register, and what they post. -/
inductive Registering (s : Fleet σ keys) : FleetEvent → Fleet σ keys × List FleetAction → Prop where
  | kept {e : FleetEvent} {s' : Fleet σ keys} {out : List FleetAction}
      (same : s'.registerServerClient = s.registerServerClient)
      (quiet : ∀ i serverId, .registers i serverId ∉ out) : Registering s e (s',out)
  | closed {e : FleetEvent} {s' : Fleet σ keys} {out : List FleetAction} (i : Nat) {r : RegisterServerClient}
      (closed : r.isOpen = false) (changed : s'.registerServerClient = Function.update s.registerServerClient i r)
      (quiet : ∀ i serverId, .registers i serverId ∉ out) : Registering s e (s',out)
  | updated {e : FleetEvent} {s' : Fleet σ keys} {i serverId : Nat} {r : RegisterServerClient} {posted : List Nat}
      (updated : (s.registerServerClient i).updateServerId serverId = some (r,posted))
      (changed : s'.registerServerClient = Function.update s.registerServerClient i r) :
      Registering s e (s',.updated i serverId :: posted.map (.registers i))
  | connected {s' : Fleet σ keys} {i : Nat}
      (changed : s'.registerServerClient =
        Function.update s.registerServerClient i (s.registerServerClient i).onServerConnected.1) :
      Registering s (.registerConnected i)
        (s',(s.registerServerClient i).onServerConnected.2.map (.registers i))

/-- The client of one server is as it was. -/
theorem Registering.same {e : FleetEvent} {i : Nat} {host : Host} {out : List FleetAction}
    (same : (match host.process with | none => {} | some p => p.registerServerClient) = s.registerServerClient i)
    (quiet : ∀ i serverId, .registers i serverId ∉ out) : Registering s e (s.setHost i host,out) := by
  refine .kept ?_ quiet
  rw [registerServerClient_setHost,same,Function.update_eq_self]

theorem step_registering (s : Fleet σ keys) (e : FleetEvent) : Registering s e (s.step ids e) := by
  have idle : Registering s e (s,[]) := .kept rfl (by simp)
  have process {i : Nat} {act : Host → ServerProcess → Fleet σ keys × List FleetAction}
      (up : ∀ p, (s.hosts i).process = some p → Registering s e (act (s.hosts i) p)) :
      Registering s e (s.onProcess i act) := by
    rw [onProcess]
    split
    · exact idle
    · next p here => exact up p here
  have center {out : List CenterAction} (i serverId : Nat) :
      .registers i serverId ∉ out.map FleetAction.center := by simp
  cases e with
  | start i =>
    rw [step]
    split
    · exact idle
    · next down =>
      refine .same ?_ (by simp)
      rw [registerServerClient,down]
  | stop i =>
    refine .closed i rfl (registerServerClient_setHost i _) (by simp)
  | connect i =>
    rw [step]
    refine process fun p up => ?_
    split
    · exact idle
    · rw [Fleet.connect]
      split
      · next center c _ =>
        refine .kept ?_ (by simp)
        have same : (s.setHost i { file := (s.hosts i).file, process := some { p with
            serverIdClient := { p.serverIdClient with connection := some c } } }).registerServerClient =
              s.registerServerClient := by
          rw [registerServerClient_setHost,← registerServerClient_up up,Function.update_eq_self]
        exact same
      · exact .kept rfl center
  | centerReads c drawn =>
    rw [step]
    split
    · exact idle
    · exact .kept rfl center
  | centerCloses c => exact .kept rfl center
  | centerRestarts => exact .kept rfl (by simp)
  | clientReads i written =>
    rw [step]
    refine process fun p up => ?_
    split
    · exact idle
    · rw [Fleet.clientReads]
      split
      · exact idle
      · next newServerId rest here =>
        dsimp only
        split
        · exact .closed i rfl (registerServerClient_setHost i _) (by simp)
        · next p' posted updated =>
          rw [ServerProcess.onServerIdUpdated] at updated
          split at updated
          · cases updated
          · next r posted' taken =>
            obtain ⟨rfl,rfl⟩ := Prod.mk.inj (Option.some.inj updated)
            refine .updated (r := r) ?_ (registerServerClient_setHost i _)
            rw [registerServerClient_up up,taken]
  | clientCloses i =>
    rw [step]
    refine process fun p up => .same ?_ (by simp)
    rw [registerServerClient_up up]
  | registerConnected i =>
    rw [step]
    refine process fun p up => ?_
    rw [← registerServerClient_up up]
    exact .connected (registerServerClient_setHost i _)
  | registerCloses i =>
    rw [step]
    exact process fun p up => .closed i rfl (registerServerClient_setHost i _) (by simp)

theorem updateServerId_spec {r r' : RegisterServerClient} {serverId : Nat} {posted : List Nat}
    (updated : r.updateServerId serverId = some (r',posted)) :
    r'.isOpen = r.isOpen ∧ ∀ id ∈ posted, r'.isOpen = true ∧ r'.serverId = id ∧ id ≠ 0 := by
  rw [RegisterServerClient.updateServerId] at updated
  split at updated
  · cases updated
  · next given =>
    split at updated
    · obtain ⟨rfl,rfl⟩ := Prod.mk.inj (Option.some.inj updated)
      exact ⟨rfl,by simp⟩
    · obtain ⟨rfl,rfl⟩ := Prod.mk.inj (Option.some.inj updated)
      refine ⟨rfl,fun id member => ?_⟩
      split at member
      · next isOpen =>
        obtain rfl := List.mem_singleton.mp member
        exact ⟨isOpen,rfl,given⟩
      · cases member

/-- A server posts the id that it goes by. -/
theorem registers_step {e : FleetEvent} {i serverId : Nat} (posted : .registers i serverId ∈ (s.step ids e).2) :
    ((s.step ids e).1.registerServerClient i).isOpen = true ∧
      ((s.step ids e).1.registerServerClient i).serverId = serverId ∧ serverId ≠ 0 := by
  have registering : Registering s e (s.step ids e) := step_registering s e
  generalize s.step ids e = result at posted registering ⊢
  cases registering with
  | kept same quiet => exact absurd posted (quiet i serverId)
  | closed j closed changed quiet => exact absurd posted (quiet i serverId)
  | updated updated changed =>
    rcases List.mem_cons.mp posted with other | member
    · cases other
    · obtain ⟨id,inside,same⟩ := List.mem_map.mp member
      obtain ⟨rfl,rfl⟩ := FleetAction.registers.inj same
      rw [changed,Function.update_self]
      exact (updateServerId_spec updated).2 id inside
  | connected changed =>
    obtain ⟨id,inside,same⟩ := List.mem_map.mp posted
    obtain ⟨rfl,rfl⟩ := FleetAction.registers.inj same
    rw [changed,Function.update_self]
    rw [RegisterServerClient.onServerConnected] at inside
    split at inside
    · next given =>
      obtain rfl := List.mem_singleton.mp inside
      exact ⟨rfl,rfl,given⟩
    · cases inside

/-- A connection to the registry is open only after the server has connected. -/
theorem isOpen_step {e : FleetEvent} {i : Nat}
    (isOpen : ((s.step ids e).1.registerServerClient i).isOpen = true) :
    (s.registerServerClient i).isOpen = true ∨ e = .registerConnected i := by
  have registering : Registering s e (s.step ids e) := step_registering s e
  generalize s.step ids e = result at isOpen registering
  cases registering with
  | kept same quiet => exact .inl (same ▸ isOpen)
  | @closed _ _ _ j r closed changed quiet =>
    rw [changed] at isOpen
    by_cases same : i = j
    · rw [same,Function.update_self,closed] at isOpen
      cases isOpen
    · rw [Function.update_of_ne same] at isOpen
      exact .inl isOpen
  | @updated _ _ j serverId r posted updated changed =>
    rw [changed] at isOpen
    by_cases same : i = j
    · subst same
      rw [Function.update_self,(updateServerId_spec updated).1] at isOpen
      exact .inl isOpen
    · rw [Function.update_of_ne same] at isOpen
      exact .inl isOpen
  | @connected _ j changed =>
    by_cases same : i = j
    · exact .inr (same ▸ rfl)
    · rw [changed,Function.update_of_ne same] at isOpen
      exact .inl isOpen

/-! ## Where an id is from -/

/-- The center gave the server this id, on a connection that the server had asked on. -/
def Given (log : List FleetAction) (i serverId : Nat) : Prop :=
  ∃ c asked previousServerId, .asked i c asked ∈ log ∧
    .center (.acquireServerIdResp c previousServerId serverId) ∈ log

theorem Given.later {i serverId : Nat} (given : Given log i serverId) (out : List FleetAction) :
    Given (log ++ out) i serverId := by
  obtain ⟨c,asked,previous,here,answered⟩ := given
  exact ⟨c,asked,previous,List.mem_append_left _ here,List.mem_append_left _ answered⟩

structure Gives (s : Fleet σ keys) (log : List FleetAction) : Prop where
  asked : ∀ i p c, (s.hosts i).process = some p → p.serverIdClient.connection = some c →
    ∃ q, .asked i c q ∈ log
  answered : ∀ c r, r ∈ s.responses c → ∃ q, .center (.acquireServerIdResp c q r) ∈ log
  goesBy : ∀ i, (s.registerServerClient i).serverId ≠ 0 → Given log i (s.registerServerClient i).serverId

/-- One server changes, and what is new of it is in the log. -/
theorem Gives.change (gives : Gives s log) {s' : Fleet σ keys} {i : Nat} {host : Host} {out : List FleetAction}
    (hosts : s'.hosts = Function.update s.hosts i host)
    (answered : ∀ c r, r ∈ s'.responses c → r ∈ s.responses c)
    (asked : ∀ p c, host.process = some p → p.serverIdClient.connection = some c → ∃ q, .asked i c q ∈ log ++ out)
    (goesBy : ∀ p, host.process = some p → p.registerServerClient.serverId ≠ 0 →
      Given (log ++ out) i p.registerServerClient.serverId) : Gives s' (log ++ out) where
  asked j p c up connected := by
    rw [hosts] at up
    by_cases same : j = i
    · subst same
      rw [Function.update_self] at up
      exact asked p c up connected
    · rw [Function.update_of_ne same] at up
      obtain ⟨q,here⟩ := gives.asked j p c up connected
      exact ⟨q,List.mem_append_left _ here⟩
  answered c r member := by
    obtain ⟨q,here⟩ := gives.answered c r (answered c r member)
    exact ⟨q,List.mem_append_left _ here⟩
  goesBy j some_ := by
    have client : s'.registerServerClient = (s.setHost i host).registerServerClient := by
      funext k
      rw [registerServerClient,hosts]
      rfl
    rw [client,registerServerClient_setHost] at some_ ⊢
    by_cases same : j = i
    · subst same
      rw [Function.update_self] at some_ ⊢
      split at some_
      · exact absurd rfl some_
      · next p up => exact goesBy p up some_
    · rw [Function.update_of_ne same] at some_ ⊢
      exact (gives.goesBy j some_).later out

/-- No server changes, and the center answers nothing. -/
theorem Gives.later (gives : Gives s log) {s' : Fleet σ keys} {out : List FleetAction} (hosts : s'.hosts = s.hosts)
    (answered : ∀ c r, r ∈ s'.responses c → ∃ q, .center (.acquireServerIdResp c q r) ∈ log ++ out) :
    Gives s' (log ++ out) where
  asked i p c up connected := by
    rw [hosts] at up
    obtain ⟨q,here⟩ := gives.asked i p c up connected
    exact ⟨q,List.mem_append_left _ here⟩
  answered := answered
  goesBy i some_ := by
    have same : s'.registerServerClient i = s.registerServerClient i := by
      rw [registerServerClient,registerServerClient,hosts]
    rw [same] at some_ ⊢
    exact (gives.goesBy i some_).later out

theorem gives_step (linked : Linked ids s) (gives : Gives s log) (e : FleetEvent) :
    Gives (s.step ids e).1 (log ++ (s.step ids e).2) := by
  have outcome := linked.outcome e
  generalize s.step ids e = result at outcome
  have before {out : List FleetAction} (c r : Nat) (member : r ∈ s.responses c) :
      ∃ q, .center (.acquireServerIdResp c q r) ∈ log ++ out := by
    obtain ⟨q,here⟩ := gives.answered c r member
    exact ⟨q,List.mem_append_left _ here⟩
  have unread {c' : Nat} {rest : List Nat} {r' : Nat} (here : s.responses c' = r' :: rest) (c r : Nat)
      (member : r ∈ Function.update s.responses c' rest c) : r ∈ s.responses c := by
    by_cases same : c = c'
    · subst same
      rw [Function.update_self] at member
      rw [here]
      exact List.mem_cons_of_mem _ member
    · rwa [Function.update_of_ne same] at member
  cases outcome with
  | idle => exact gives.later rfl before
  | start down =>
    refine gives.change rfl (fun c r member => member) (fun p c same connected => ?_) fun p same some_ => ?_
    · obtain rfl := Option.some.inj same
      cases connected
    · obtain rfl := Option.some.inj same
      exact absurd rfl some_
  | stop i => exact gives.change rfl (fun c r member => member) nofun nofun
  | @connect i c p connections up acquired =>
    refine gives.change rfl (fun c r member => member) (fun p' c' same connected => ?_) fun p' same some_ => ?_
    · obtain rfl := Option.some.inj same
      obtain rfl := Option.some.inj connected
      exact ⟨p.serverIdClient.localServerId,List.mem_append_right _ (by simp)⟩
    · obtain rfl := Option.some.inj same
      have known : s.registerServerClient i = p.registerServerClient := registerServerClient_up up
      rw [← known] at some_ ⊢
      exact (gives.goesBy i some_).later _
  | dropped here gone => exact gives.later rfl before
  | @answered c q g drawn serverIdManager here open_ regained gained =>
    refine gives.later rfl fun c' r member => ?_
    dsimp only at member
    by_cases same : c' = c
    · subst same
      rw [Function.update_self] at member
      rcases List.mem_append.mp member with old | new
      · exact before c' r old
      · obtain rfl := List.mem_singleton.mp new
        exact ⟨_,List.mem_append_right _ (List.mem_singleton.mpr rfl)⟩
    · rw [Function.update_of_ne same] at member
      exact before c' r member
  | close valid => exact gives.later rfl before
  | restart => exact gives.later rfl before
  | @took i c r rest posted p p' written up connected here updated =>
    obtain ⟨⟨-,-,goesBy⟩,kept⟩ := onServerIdUpdated_took updated
    obtain ⟨asked,first⟩ := gives.asked i p c up connected
    obtain ⟨q,answer⟩ := gives.answered c r (by rw [here]; exact List.mem_cons_self)
    refine gives.change rfl (unread here) (fun p'' c' same connected' => ?_) fun p'' same _ => ?_
    · obtain rfl := Option.some.inj same
      rw [kept,connected] at connected'
      obtain rfl := Option.some.inj connected'
      exact ⟨asked,List.mem_append_left _ first⟩
    · obtain rfl := Option.some.inj same
      rw [goesBy]
      have given : Given log i r := ⟨c,asked,q,first,answer⟩
      exact given.later _
  | failed up connected here zero => exact gives.change rfl (unread here) nofun nofun
  | @own e i p p' unread up connection local_ registered posted =>
    refine gives.change rfl (fun c r member => member) (fun p'' c same connected => ?_) fun p'' same some_ => ?_
    · obtain rfl := Option.some.inj same
      rcases connection with nothing | equal
      · rw [nothing] at connected
        cases connected
      · obtain ⟨q,here⟩ := gives.asked i p c up (equal ▸ connected)
        exact ⟨q,List.mem_append_left _ here⟩
    · obtain rfl := Option.some.inj same
      rw [registered,← registerServerClient_up up] at some_ ⊢
      exact (gives.goesBy i some_).later _

theorem gives_init (center : ServerIdCenterService σ keys) (files : Nat → Option Bytes) :
    Gives ({ center, hosts := fun i => { file := files i } } : Fleet σ keys) [] where
  asked i p c up := by cases up
  answered c r member := by cases member
  goesBy i some_ := absurd rfl some_

end MiniPP.ServerId
