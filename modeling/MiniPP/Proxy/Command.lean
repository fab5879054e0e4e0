import MiniPP.Proxy.ConnectRequest

/-! The command byte of a SOCKS5 connection request. Only command 1 asks for a TCP
connection; the others are to be refused. -/
namespace MiniPP.Proxy

variable {cfg : Config}

/-- What `OnS5ConnectionRequest` comes to on some input. -/
inductive S5Outcome where
  | wait
  | kill
  | refuse (reply : Bytes)
  | openRemote (address : NetAddress) (domain : Bytes)
  deriving DecidableEq, Repr

def s5Outcome (data : Bytes) : S5Outcome :=
  if data.length < 10 then .wait
  else if data.length ≥ 6 + 256 then .kill
  else if data.getD 0 0 ≠ 0x05 ∨ data.getD 2 0 ≠ 0x00 then .kill
  else
    match s5Target data with
    | .incomplete => .wait
    | .invalid => .kill
    | .target address domain offset =>
      if data.getD 1 0 ≠ 0x01 ∧ data.getD 3 0 ≠ 0x03 ∧ data.getD 3 0 ≠ 0x04 then
        .refuse ([0x05,0x01,0x00] ++ (data.drop 3).take (offset - 3))
      else .openRemote address domain

/-- `OnOpenRemoteConnection` is called in one of the cases. -/
theorem onS5ConnectionRequest_outcome (c : ClientConnection) (data : Bytes) :
    onS5ConnectionRequest cfg c data =
      match s5Outcome data with
      | .wait => ⟨c,[],some 0⟩
      | .kill => ⟨c,[.kill],some 0⟩
      | .refuse reply => ⟨c,[.postData reply,.lingerKill],some 0⟩
      | .openRemote address domain =>
        let opened := onOpenRemoteConnection cfg c address domain
        ⟨opened.conn,opened.effects,some data.length⟩ := by
  unfold onS5ConnectionRequest s5Outcome
  split
  · rfl
  · split
    · rfl
    · split
      · rfl
      · cases s5Target data with
        | incomplete => rfl
        | invalid => rfl
        | target address domain offset =>
          dsimp only
          split <;> rfl

/-- The bytes of a request with such an address, as far as they tell. -/
def requestSize (data : Bytes) : Option Nat :=
  match data.getD 3 0 with
  | 0x01 => some 10
  | 0x03 => some (7 + (data.getD 4 0).toNat)
  | 0x04 => some 22
  | _ => none

/-- A request of the specification, with any command, is there to its last byte. -/
def WholeRequest (data : Bytes) : Prop :=
  data.getD 0 0 = 0x05 ∧ data.getD 2 0 = 0x00 ∧ 4 ≤ data.length ∧
    ∃ size, requestSize data = some size ∧ size ≤ data.length

/-- A reply of version 5 whose status is not success. -/
def FailureReply (reply : Bytes) : Prop := reply.getD 0 0 = 0x05 ∧ reply.getD 1 0 ≠ 0x00

/-- No connection is opened, and a whole request is answered. -/
def Declined (cfg : Config) (c : ClientConnection) (data : Bytes) : Prop :=
  (∀ address domain, s5Outcome data ≠ .openRemote address domain) ∧
    (WholeRequest data → ∃ reply, FailureReply reply ∧
      onS5ConnectionRequest cfg c data = ⟨c,[.postData reply,.lingerKill],some 0⟩)

/-- What is no whole request is not answered, and opens nothing. -/
theorem outcome_partial {data : Bytes} (part : ¬ WholeRequest data) :
    s5Outcome data = .wait ∨ s5Outcome data = .kill := by
  unfold s5Outcome
  split
  · exact .inl rfl
  · split
    · exact .inr rfl
    · split
      · exact .inr rfl
      · rename_i enough _ header
        rw [not_or,not_not,not_not] at header
        have absent (size : Nat) (known : requestSize data = some size) : data.length < size := by
          by_contra long
          exact part ⟨header.1,header.2,by omega,size,known,by omega⟩
        unfold requestSize at absent
        unfold s5Target
        split at absent
        · have short := absent 10 rfl
          omega
        · rename_i type
          have short := absent _ rfl
          simp only [type]
          rw [if_neg (by decide),if_pos trivial,if_pos (by omega)]
          exact .inl rfl
        · rename_i type
          have short := absent 22 rfl
          simp only [type]
          rw [if_neg (by decide),if_neg (by decide),if_pos trivial,if_pos short]
          exact .inl rfl
        · rename_i ipv4 domain ipv6
          dsimp only
          rw [if_neg ipv4,if_neg domain,if_neg ipv6]
          exact .inr rfl

/-- Only requests with an IPv4 address are refused, if the bytes are few enough. -/
theorem outcome_whole {data : Bytes} (whole : WholeRequest data) (other : data.getD 1 0 ≠ 0x01) :
    (∃ reply, s5Outcome data = .refuse reply) ↔ data.getD 3 0 = 0x01 ∧ data.length < 6 + 256 := by
  obtain ⟨version,reserved,-,size,known,long⟩ := whole
  constructor
  · rintro ⟨reply,refused⟩
    unfold s5Outcome at refused
    split at refused
    · cases refused
    · split at refused
      · cases refused
      · rename_i few
        split at refused
        · cases refused
        · split at refused
          · cases refused
          · cases refused
          · split at refused
            · rename_i command
              refine ⟨?_,by omega⟩
              unfold requestSize at known
              split at known
              · assumption
              · rename_i type
                exact absurd type command.2.1
              · rename_i type
                exact absurd type command.2.2
              · cases known
            · cases refused
  · rintro ⟨type,few⟩
    have ten : 10 ≤ data.length := by
      simp only [requestSize,type,Option.some.injEq] at known
      omega
    unfold s5Outcome
    rw [if_neg (by omega),if_neg (by omega),if_neg (by simp only [version,reserved]; decide),
      s5Target_ipv4 type]
    dsimp only
    rw [if_pos ⟨other,by rw [type]; decide,by rw [type]; decide⟩]
    exact ⟨_,rfl⟩

/-- The reply of a refusal. -/
theorem outcome_reply {data reply : Bytes} (refused : s5Outcome data = .refuse reply) :
    FailureReply reply := by
  unfold s5Outcome at refused
  repeat' split at refused
  all_goals cases refused
  exact ⟨rfl,by simp⟩

/-- A command other than CONNECT is declined just when its request is not whole yet, or has an
IPv4 address and less than 262 bytes have come. -/
theorem other_command_declined (cfg : Config) (c : ClientConnection) (data : Bytes)
    (other : data.getD 1 0 ≠ 0x01) :
    Declined cfg c data ↔
      (WholeRequest data → data.getD 3 0 = 0x01 ∧ data.length < 6 + 256) := by
  constructor
  · rintro ⟨-,answered⟩ whole
    obtain ⟨reply,-,same⟩ := answered whole
    rw [← outcome_whole whole other]
    rw [onS5ConnectionRequest_outcome] at same
    cases outcome : s5Outcome data with
    | wait => simp [outcome] at same
    | kill => simp [outcome] at same
    | refuse reply => exact ⟨reply,rfl⟩
    | openRemote address domain =>
      -- An opened request is consumed, and is not empty.
      have consumed := congrArg Reading.consumed same
      simp only [outcome,Option.some.injEq] at consumed
      have four := whole.2.2.1
      omega
  · intro ipv4
    by_cases whole : WholeRequest data
    · obtain ⟨reply,refused⟩ := (outcome_whole whole other).mpr (ipv4 whole)
      refine ⟨by simp [refused],fun _ => ⟨reply,outcome_reply refused,?_⟩⟩
      rw [onS5ConnectionRequest_outcome,refused]
    · refine ⟨fun address domain => ?_,fun now => absurd now whole⟩
      rcases outcome_partial whole with outcome | outcome <;> simp [outcome]

/-- A client that has logged in and got a device. -/
def requesting : ClientConnection :=
  { connectionId := 1, remoteIp := [], phase := .s5WaitForConnectionRequest, relayConnectionId := 9 }

/-- BIND for 1.2.3.4 port 80. -/
theorem other_command_declined_bind :
    Declined referenceConfig requesting [0x05,0x02,0x00,0x01,1,2,3,4,0,80] :=
  (other_command_declined referenceConfig requesting [0x05,0x02,0x00,0x01,1,2,3,4,0,80]
    (by decide)).mpr (fun _ => by decide)

/-- BIND for port 80 of the host `hos`. -/
def bindRequest : Bytes := [0x05,0x02,0x00,0x03,3] ++ ascii "hos" ++ [0,80]

/-- It is connected to. -/
theorem bind_opens : bindRequest.getD 1 0 ≠ 0x01 ∧ WholeRequest bindRequest ∧
    ¬ Declined referenceConfig requesting bindRequest := by
  refine ⟨by decide,⟨rfl,rfl,by decide,10,rfl,by decide⟩,fun declined => ?_⟩
  exact declined.1 ⟨.unspecified,[],80⟩ (ascii "hos") (by decide)

end MiniPP.Proxy
