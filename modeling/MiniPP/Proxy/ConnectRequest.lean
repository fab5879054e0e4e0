import MiniPP.Proxy.Conversation

/-! The SOCKS5 connection request as its specification has it, and what
`OnS5ConnectionRequest` makes of one that is whole, cut short, or followed by more bytes. -/
namespace MiniPP.Proxy

variable {cfg : Config}

/-! ## Requests -/

/-- Where a client asks to be connected to: the three address types of the specification. -/
inductive S5Host where
  | ipv4 (address : Bytes) (size : address.length = 4)
  | domain (name : Bytes) (named : name ≠ []) (bound : name.length ≤ 255)
  | ipv6 (address : Bytes) (size : address.length = 16)

/-- A CONNECT request: version 5, command 1, and nothing reserved. -/
structure S5Request where
  host : S5Host
  port : Nat
  port_bound : port < 2^16

namespace S5Request

def portBytes (r : S5Request) : Bytes := [(r.port / 256).toUInt8,r.port.toUInt8]

/-- The address type and the address. -/
def hostBytes (r : S5Request) : Bytes :=
  match r.host with
  | .ipv4 address _ => 0x01 :: address
  | .domain name _ _ => 0x03 :: name.length.toUInt8 :: name
  | .ipv6 address _ => 0x04 :: address

def encode (r : S5Request) : Bytes := [0x05,0x01,0x00] ++ r.hostBytes ++ r.portBytes

/-- What `OnOpenRemoteConnection` is to be called with. -/
def address (r : S5Request) : NetAddress :=
  match r.host with
  | .ipv4 address _ => ⟨.ipv4,address,r.port⟩
  | .domain _ _ _ => ⟨.unspecified,[],r.port⟩
  | .ipv6 address _ => ⟨.ipv6,address,r.port⟩

def domain (r : S5Request) : Bytes :=
  match r.host with
  | .domain name _ _ => name
  | _ => []

/-- The names that the bounds on the size of a request let through. -/
def Usual (r : S5Request) : Prop :=
  match r.host with
  | .domain name _ _ => 3 ≤ name.length ∧ name.length ≤ 254
  | _ => True

theorem length_encode (r : S5Request) : r.encode.length =
    match r.host with
    | .ipv4 _ _ => 10
    | .domain name _ _ => 7 + name.length
    | .ipv6 _ _ => 22 := by
  unfold encode hostBytes portBytes
  cases r.host with
  | ipv4 address size => simp [size]
  | domain name _ _ => simp; omega
  | ipv6 address size => simp [size]

/-- The bounds are those of `Usual`, and no request is longer than the specification allows. -/
theorem usual_iff (r : S5Request) : r.Usual ↔ 10 ≤ r.encode.length ∧ r.encode.length < 6 + 256 := by
  rw [length_encode]
  unfold Usual
  cases r.host with
  | ipv4 _ _ => simp
  | domain name _ _ => dsimp only; omega
  | ipv6 _ _ => simp

theorem length_encode_pos (r : S5Request) : 0 < r.encode.length := by simp [encode]

theorem length_encode_le (r : S5Request) : r.encode.length ≤ 6 + 256 := by
  rw [length_encode]
  cases r.host with
  | ipv4 _ _ => simp
  | domain name _ bound => dsimp only; omega
  | ipv6 _ _ => simp

end S5Request

/-! ## Reading a port and an address -/

theorem portAt_append (front : Bytes) (r : S5Request) (rest : Bytes) :
    portAt (front ++ (r.portBytes ++ rest)) front.length = r.port := by
  have bound := r.port_bound
  have high : (r.port / 256).toUInt8.toNat = r.port / 256 % 256 := UInt8.toNat_ofNat'
  have low : r.port.toUInt8.toNat = r.port % 256 := UInt8.toNat_ofNat'
  simp only [portAt,S5Request.portBytes,List.getD_eq_getElem?_getD,List.getElem?_append_right,
    Nat.le_refl,Nat.le_add_right,Nat.sub_self,Nat.add_sub_cancel_left,List.cons_append,
    List.getElem?_cons_zero,List.getElem?_cons_succ,Option.getD_some]
  rw [high,low]
  omega

theorem s5Target_domain {data : Bytes} (type : data.getD 3 0 = 0x03) :
    s5Target data =
      if data.length < 4 + 1 + (data.getD 4 0).toNat + 2 then .incomplete
      else .target ⟨.unspecified,[],portAt data (5 + (data.getD 4 0).toNat)⟩
        ((data.drop 5).take (data.getD 4 0).toNat) (5 + (data.getD 4 0).toNat + 2) := by
  unfold s5Target
  dsimp only
  rw [if_neg (by rw [type]; decide),if_pos type]

theorem s5Target_ipv6 {data : Bytes} (type : data.getD 3 0 = 0x04) :
    s5Target data =
      if data.length < 4 + 16 + 2 then .incomplete
      else .target ⟨.ipv6,(data.drop 4).take 16,portAt data 20⟩ [] 22 := by
  unfold s5Target
  dsimp only
  rw [if_neg (by rw [type]; decide),if_neg (by rw [type]; decide),if_pos type]

/-- A whole request is read to its end, whatever follows. -/
theorem s5Target_encode (r : S5Request) (rest : Bytes) :
    s5Target (r.encode ++ rest) = .target r.address r.domain r.encode.length := by
  have size := r.length_encode
  have long : r.encode.length ≤ (r.encode ++ rest).length := by simp
  unfold S5Request.address S5Request.domain
  cases host : r.host with
  | ipv4 address four =>
    have data : r.encode ++ rest = (0x05 :: 0x01 :: 0x00 :: 0x01 :: address) ++ (r.portBytes ++ rest) := by
      simp [S5Request.encode,S5Request.hostBytes,host]
    have port := portAt_append (0x05 :: 0x01 :: 0x00 :: 0x01 :: address) r rest
    rw [show (0x05 :: 0x01 :: 0x00 :: 0x01 :: address : Bytes).length = 8 by simp [four]] at port
    simp only [host] at size
    rw [size,data,s5Target_ipv4 rfl,port]
    simp [four]
  | domain name named bound =>
    have data : r.encode ++ rest =
        (0x05 :: 0x01 :: 0x00 :: 0x03 :: name.length.toUInt8 :: name) ++ (r.portBytes ++ rest) := by
      simp [S5Request.encode,S5Request.hostBytes,host]
    have digit : name.length.toUInt8.toNat = name.length := by
      have digit : name.length.toUInt8.toNat = name.length % 256 := UInt8.toNat_ofNat'
      omega
    have length : ((r.encode ++ rest).getD 4 0).toNat = name.length := by rw [data]; exact digit
    have port := portAt_append (0x05 :: 0x01 :: 0x00 :: 0x03 :: name.length.toUInt8 :: name) r rest
    rw [show (0x05 :: 0x01 :: 0x00 :: 0x03 :: name.length.toUInt8 :: name : Bytes).length = 5 + name.length by
      simp; omega,← data] at port
    simp only [host] at size
    rw [s5Target_domain (by rw [data]; rfl),length,if_neg (by omega),port,size,data]
    simp
    omega
  | ipv6 address sixteen =>
    have data : r.encode ++ rest = (0x05 :: 0x01 :: 0x00 :: 0x04 :: address) ++ (r.portBytes ++ rest) := by
      simp [S5Request.encode,S5Request.hostBytes,host]
    have port := portAt_append (0x05 :: 0x01 :: 0x00 :: 0x04 :: address) r rest
    rw [show (0x05 :: 0x01 :: 0x00 :: 0x04 :: address : Bytes).length = 20 by simp [sixteen],← data] at port
    simp only [host] at size
    rw [s5Target_ipv6 (by rw [data]; rfl),if_neg (by omega),port,size,data]
    simp [sixteen]

/-! ## What the handler does -/

/-- The target is opened, once, and just the request is consumed. -/
def Exact (cfg : Config) (c : ClientConnection) (r : S5Request) (rest : Bytes) : Prop :=
  let opened := onOpenRemoteConnection cfg c r.address r.domain
  onS5ConnectionRequest cfg c (r.encode ++ rest) = ⟨opened.conn,opened.effects,some r.encode.length⟩

/-- Nothing happens before the request is whole. -/
def Patient (cfg : Config) (c : ClientConnection) (r : S5Request) : Prop :=
  ∀ data, data <+: r.encode → data ≠ r.encode → onS5ConnectionRequest cfg c data = ⟨c,[],some 0⟩

/-- The bytes that open a request and all that follows it. -/
theorem encode_head (r : S5Request) (rest : Bytes) :
    (r.encode ++ rest).getD 0 0 = 0x05 ∧ (r.encode ++ rest).getD 1 0 = 0x01 ∧
      (r.encode ++ rest).getD 2 0 = 0x00 := by
  simp [S5Request.encode]

/-- Any whole request of a moderate size is opened, and all the bytes are consumed. -/
theorem request_opens (c : ClientConnection) (r : S5Request) {rest : Bytes}
    (enough : 10 ≤ (r.encode ++ rest).length) (bounded : (r.encode ++ rest).length < 6 + 256) :
    onS5ConnectionRequest cfg c (r.encode ++ rest) =
      let opened := onOpenRemoteConnection cfg c r.address r.domain
      ⟨opened.conn,opened.effects,some (r.encode ++ rest).length⟩ := by
  obtain ⟨version,operation,reserved⟩ := encode_head r rest
  unfold onS5ConnectionRequest
  rw [if_neg (by omega),if_neg (by omega),if_neg (by simp only [version,reserved]; decide),s5Target_encode]
  dsimp only
  rw [if_neg (fun other => other.1 operation)]

/-- A request that is not consumed is not answered exactly. -/
theorem not_exact (c : ClientConnection) (r : S5Request) {rest : Bytes}
    (unread : (onS5ConnectionRequest cfg c (r.encode ++ rest)).consumed = some 0) : ¬ Exact cfg c r rest := by
  intro same
  have pos := r.length_encode_pos
  rw [same] at unread
  have zero := Option.some.inj unread
  omega

theorem exact_iff (c : ClientConnection) (r : S5Request) (rest : Bytes) :
    Exact cfg c r rest ↔ rest = [] ∧ r.Usual := by
  have size : (r.encode ++ rest).length = r.encode.length + rest.length := List.length_append
  rw [r.usual_iff]
  by_cases enough : 10 ≤ (r.encode ++ rest).length
  · by_cases bounded : (r.encode ++ rest).length < 6 + 256
    · unfold Exact
      rw [request_opens c r enough bounded]
      simp only [Reading.mk.injEq,true_and,Option.some.injEq]
      constructor
      · intro same
        have none : rest = [] := List.length_eq_zero_iff.mp (by omega)
        subst none
        exact ⟨rfl,by omega,by omega⟩
      · rintro ⟨rfl,-⟩
        simp
    · refine iff_of_false (not_exact c r ?_) ?_
      · unfold onS5ConnectionRequest
        rw [if_neg (by omega),if_pos (by omega)]
      · rintro ⟨rfl,-,small⟩
        simp only [List.append_nil] at bounded
        exact bounded small
  · refine iff_of_false (not_exact c r ?_) ?_
    · unfold onS5ConnectionRequest
      rw [if_pos (by omega)]
    · rintro ⟨rfl,large,-⟩
      simp only [List.append_nil] at enough
      exact enough large

theorem getD_front {data whole : Bytes} (front : data <+: whole) {i : Nat} (inside : i < data.length) :
    data.getD i 0 = whole.getD i 0 := by
  obtain ⟨tail,rfl⟩ := front
  simp only [List.getD_eq_getElem?_getD,List.getElem?_append_left inside]

/-- What a request cut short is read as. -/
theorem s5Target_short (r : S5Request) {data : Bytes} (front : data <+: r.encode)
    (short : data.length < r.encode.length) (enough : 10 ≤ data.length) : s5Target data = .incomplete := by
  have size := r.length_encode
  have type := getD_front front (i := 3) (by omega)
  cases host : r.host with
  | ipv4 address four =>
    simp only [host] at size
    omega
  | domain name named bound =>
    simp only [host] at size
    have length : (data.getD 4 0).toNat = name.length := by
      have digit : name.length.toUInt8.toNat = name.length % 256 := UInt8.toNat_ofNat'
      rw [getD_front front (by omega)]
      simp only [S5Request.encode,S5Request.hostBytes,host,List.cons_append,List.nil_append,
        List.getD_cons_succ,List.getD_cons_zero]
      omega
    rw [s5Target_domain (by rw [type]; simp [S5Request.encode,S5Request.hostBytes,host]),length,
      if_pos (by omega)]
  | ipv6 address sixteen =>
    simp only [host] at size
    rw [s5Target_ipv6 (by rw [type]; simp [S5Request.encode,S5Request.hostBytes,host]),if_pos (by omega)]

theorem patient (c : ClientConnection) (r : S5Request) : Patient cfg c r := by
  intro data front other
  have le := front.length_le
  have short : data.length < r.encode.length := by
    refine Nat.lt_of_le_of_ne le fun same => other (front.eq_of_length same)
  have most := r.length_encode_le
  unfold onS5ConnectionRequest
  by_cases enough : data.length < 10
  · rw [if_pos enough]
  · have version : data.getD 0 0 = 0x05 := by
      rw [getD_front front (by omega)]
      rfl
    have reserved : data.getD 2 0 = 0x00 := by
      rw [getD_front front (by omega)]
      rfl
    rw [if_neg enough,if_neg (by omega),if_neg (by simp only [version,reserved]; decide),
      s5Target_short r front short (by omega)]

/-- A request is parsed exactly just when it comes alone and its name is neither shorter nor
longer than the bounds on the whole request allow; one that is not whole yet is left alone. -/
theorem connect_request_exact (c : ClientConnection) (r : S5Request) (rest : Bytes) :
    Exact cfg c r rest ∧ Patient cfg c r ↔ rest = [] ∧ r.Usual :=
  (and_iff_left (patient c r)).trans (exact_iff c r rest)

/-- Port 80 of a host whose name has two letters. -/
def shortRequest : S5Request := ⟨.domain (ascii "ai") (by decide) (by decide),80,by decide⟩

example : shortRequest.encode = [0x05,0x01,0x00,0x03,2,97,105,0,80] := by decide

/-- The whole request is taken for the beginning of one. -/
theorem short_name_not_opened :
    ¬ ∀ (cfg : Config) (c : ClientConnection) (r : S5Request) (rest : Bytes),
      Exact cfg c r rest ∧ Patient cfg c r := by
  intro always
  obtain ⟨exact,-⟩ := always referenceConfig { connectionId := 1, remoteIp := [] } shortRequest []
  exact absurd (congrArg Reading.consumed exact) (by decide)

end MiniPP.Proxy
