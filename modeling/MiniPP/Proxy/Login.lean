import MiniPP.Lib.Buffer
import MiniPP.Proxy.ConnectRequest
import MiniPP.Proxy.NormalSegmentation

/-! The SOCKS5 greeting and the user/password message, with every access to the receive
buffer: nothing but received bytes is read, and the byte that is overwritten to make the
key belongs to a message that is complete. -/
namespace MiniPP.Proxy

open Access (next skip offset size overwrite slice)

variable {cfg : Config}

/-! ## The handlers on a buffer -/

/-- `OnS5Challenge`, access by access. -/
def onS5ChallengeIn (c : ClientConnection) : Access UInt8 Reading := do
  skip 1
  let nm ← next
  let dataSize ← size
  if nm.toNat = 0 then return ⟨c,[.kill],some 0⟩
  else if dataSize < 2 + nm.toNat then return ⟨c,[],some 0⟩
  else
    let userPassSupport ← Access.fold (fun found method => found || method == 0x02) nm.toNat false
    return ⟨{ c with phase := .s5WaitForAuthInfo },
      if userPassSupport then [.postData [0x05,0x02]] else [.postData [0x05,0xFF],.kill],
      some (2 + nm.toNat)⟩

/-- `OnChallenge`. A request line is left to `onHttpChallenge`. -/
def onChallengeIn (c : ClientConnection) : Access UInt8 Reading := do
  let dataSize ← size
  if dataSize < 3 then return ⟨c,[],some 0⟩
  else
    let version ← Access.get 0
    if version = 0x05 then onS5ChallengeIn c
    else
      let data ← slice 0 dataSize
      return onHttpChallenge c data

/-- The last lines of `OnS5ClientAuth`. -/
def requestAuthIn (c : ClientConnection) (np : Bytes) : Access UInt8 Reading := do
  let consumed ← offset
  return ⟨{ c with phase := .s5WaitForAccountExchange },[.requestAuth np],some consumed⟩

/-- The separator is written over the length of the password, and the key cut out. -/
def joinKeyIn (c : ClientConnection) (keyStart nameLen passLen : Nat) : Access UInt8 Reading := do
  let behind ← offset
  overwrite (behind - 1) colon
  skip passLen
  if nameLen ≠ 0 ∨ passLen ≠ 0 then
    let key ← slice keyStart (nameLen + passLen + 1)
    requestAuthIn c key
  else requestAuthIn c c.remoteIp

/-- The branch of version 1. -/
def userPassIn (c : ClientConnection) (dataSize : Nat) : Access UInt8 Reading := do
  let nameLen ← next
  if dataSize < 3 + nameLen.toNat then return ⟨c,[],some 0⟩
  else
    let keyStart ← offset
    skip nameLen.toNat
    let passLen ← next
    if dataSize < 3 + nameLen.toNat + passLen.toNat then return ⟨c,[],some 0⟩
    else joinKeyIn c keyStart nameLen.toNat passLen.toNat

/-- `OnS5ClientAuth`, access by access. -/
def onS5ClientAuthIn (c : ClientConnection) : Access UInt8 Reading := do
  let dataSize ← size
  if dataSize < 3 then return ⟨c,[],some 0⟩
  else
    let ver ← next
    if ver = 0x01 then userPassIn c dataSize
    else if ver = 0x00 then requestAuthIn c c.remoteIp
    else return ⟨c,[],none⟩

/-! ## No access outside -/

theorem foldl_contains (methods : Bytes) (found : Bool) :
    methods.foldl (fun found method => found || method == 0x02) found =
      (found || methods.contains 0x02) := by
  induction methods generalizing found with
  | nil => simp
  | cons method methods ih => rw [List.foldl_cons,ih,List.contains_cons,Bool.or_assoc,BEq.comm]

theorem getElem?_eq_getD (data : Bytes) {i : Nat} (inside : i < data.length) :
    data[i]? = some (data.getD i 0) := by
  simp [List.getD_eq_getElem?_getD,List.getElem?_eq_getElem inside]

theorem onS5ChallengeIn_on (c : ClientConnection) {data : Bytes} (enough : 3 ≤ data.length) :
    (onS5ChallengeIn c).on data = some (onS5Challenge c data,data) := by
  have second := getElem?_eq_getD data (i := 1) (by omega)
  unfold onS5ChallengeIn onS5Challenge
  dsimp only
  split
  · rename_i none
    refine Access.on_eq (b := ⟨data,2⟩) ?_
    rw [Access.bind_runs (m := skip 1) rfl,Access.bind_runs (Access.next_runs second),
      Access.bind_runs (m := size) rfl,if_pos none]
    rfl
  · rename_i some_
    split
    · rename_i short
      refine Access.on_eq (b := ⟨data,2⟩) ?_
      rw [Access.bind_runs (m := skip 1) rfl,Access.bind_runs (Access.next_runs second),
        Access.bind_runs (m := size) rfl,if_neg some_,if_pos short]
      rfl
    · rename_i long
      have inside : 2 + (data.getD 1 0).toNat ≤ data.length := by omega
      refine Access.on_eq (b := ⟨data,2 + (data.getD 1 0).toNat⟩) ?_
      rw [Access.bind_runs (m := skip 1) rfl,Access.bind_runs (Access.next_runs second),
        Access.bind_runs (m := size) rfl,if_neg some_,if_neg long,
        Access.bind_runs (Access.fold_runs _ _ false inside),foldl_contains,Bool.false_or]
      rfl

theorem onChallengeIn_on (c : ClientConnection) (data : Bytes) :
    (onChallengeIn c).on data = some (onChallenge c data,data) := by
  unfold onChallenge
  split
  · rename_i short
    refine Access.on_eq (b := ⟨data,0⟩) ?_
    rw [onChallengeIn,Access.bind_runs (m := size) rfl,if_pos short]
    rfl
  · rename_i long
    have first := getElem?_eq_getD data (i := 0) (by omega)
    have runs : onChallengeIn c ⟨data,0⟩ =
        (if data.getD 0 0 = 0x05 then onS5ChallengeIn c
          else do
            let bytes ← slice 0 data.length
            return onHttpChallenge c bytes) ⟨data,0⟩ := by
      rw [onChallengeIn,Access.bind_runs (m := size) rfl,if_neg long,
        Access.bind_runs (Access.get_runs first)]
    split
    · rename_i socks
      rw [if_pos socks] at runs
      rw [← onS5ChallengeIn_on c (Nat.not_lt.mp long),Access.on,runs]
      rfl
    · rename_i other
      rw [if_neg other] at runs
      refine Access.on_eq (b := ⟨data,0⟩) ?_
      have whole : 0 + data.length ≤ data.length := by omega
      rw [runs,Access.bind_runs (Access.slice_runs whole),List.drop_zero,List.take_length]
      rfl

/-- A whole message of the username/password subnegotiation stands at the beginning. -/
def WholeLogin (data : Bytes) : Prop :=
  3 ≤ data.length ∧ data.getD 0 0 = 0x01 ∧ 3 + (data.getD 1 0).toNat ≤ data.length ∧
    3 + (data.getD 1 0).toNat + (data.getD (2 + (data.getD 1 0).toNat) 0).toNat ≤ data.length

instance (data : Bytes) : Decidable (WholeLogin data) := inferInstanceAs (Decidable (_ ∧ _))

/-- What the buffer holds after the call. -/
def joined (data : Bytes) : Bytes :=
  if WholeLogin data then data.set (2 + (data.getD 1 0).toNat) colon else data

/-- The bytes of the key, once the length of the password is overwritten. -/
theorem key_slice {data : Bytes} {name pass : Nat} (inside : 3 + name + pass ≤ data.length) :
    ((data.set (2 + name) colon).drop 2).take (name + pass + 1) =
      (data.drop 2).take name ++ colon :: (data.drop (3 + name)).take pass := by
  apply List.ext_getElem?
  intro i
  have size : ((data.drop 2).take name).length = name := by
    rw [List.length_take,List.length_drop]; omega
  rw [List.getElem?_take,List.getElem?_drop,List.getElem?_append,size]
  by_cases before : i < name
  · rw [if_pos before,if_pos (by omega),List.getElem?_set_ne (by omega),List.getElem?_take,
      if_pos before,List.getElem?_drop]
  · rw [if_neg before]
    by_cases here : i = name
    · subst here
      rw [if_pos (by omega),List.getElem?_set_self (by omega),Nat.sub_self,List.getElem?_cons_zero]
    · obtain ⟨k,rfl⟩ := Nat.exists_eq_add_of_lt (Nat.lt_of_le_of_ne (Nat.not_lt.mp before) (Ne.symm here))
      rw [show name + k + 1 - name = k + 1 by omega,List.getElem?_cons_succ,List.getElem?_take,
        List.getElem?_drop,List.getElem?_set_ne (by omega)]
      by_cases last : k < pass
      · rw [if_pos (by omega),if_pos last]
        congr 1
        omega
      · rw [if_neg (by omega),if_neg last]

theorem joinKeyIn_runs (c : ClientConnection) {data : Bytes} {name pass : Nat}
    (inside : 3 + name + pass ≤ data.length) :
    joinKeyIn c 2 name pass ⟨data,2 + name + 1⟩ = some
      (⟨{ c with phase := .s5WaitForAccountExchange },[.requestAuth
          (if name ≠ 0 ∨ pass ≠ 0 then
            (data.drop 2).take name ++ colon :: (data.drop (3 + name)).take pass
          else c.remoteIp)],some (3 + name + pass)⟩,
        ⟨data.set (2 + name) colon,3 + name + pass⟩) := by
  have written : overwrite (2 + name + 1 - 1) colon ⟨data,2 + name + 1⟩ =
      some ((),⟨data.set (2 + name) colon,2 + name + 1⟩) :=
    Access.overwrite_runs (b := ⟨data,2 + name + 1⟩) (by dsimp only; omega) colon
  have end_ : 2 + name + 1 + pass = 3 + name + pass := by omega
  rw [joinKeyIn,Access.bind_runs (m := offset) rfl,Access.bind_runs written,
    Access.bind_runs (m := skip pass) rfl]
  by_cases some_ : name ≠ 0 ∨ pass ≠ 0
  · have bound : 2 + (name + pass + 1) ≤ (data.set (2 + name) colon).length := by
      rw [List.length_set]; omega
    rw [if_pos some_,if_pos some_,Access.bind_runs (Access.slice_runs bound),key_slice inside,← end_]
    rfl
  · rw [if_neg some_,if_neg some_,← end_]
    rfl

theorem userPassIn_runs (c : ClientConnection) {data : Bytes} (enough : 3 ≤ data.length)
    (ver : data.getD 0 0 = 0x01) :
    ∃ b : Buffer UInt8, b.data = joined data ∧
      userPassIn c data.length ⟨data,1⟩ = some (onS5ClientAuth c data,b) := by
  have second := getElem?_eq_getD data (i := 1) (by omega)
  have untouched (part : ¬ WholeLogin data) : data = joined data := (if_neg part).symm
  rw [userPassIn,Access.bind_runs (Access.next_runs second)]
  simp only [onS5ClientAuth,if_neg (Nat.not_lt.mpr enough),if_pos ver]
  by_cases cut : data.length < 3 + (data.getD 1 0).toNat
  · rw [if_pos cut,if_pos cut]
    exact ⟨_,untouched (fun whole => absurd whole.2.2.1 (by omega)),rfl⟩
  · have third := getElem?_eq_getD data (i := 2 + (data.getD 1 0).toNat) (by omega)
    rw [if_neg cut,if_neg cut,Access.bind_runs (m := offset) rfl,Access.bind_runs (m := skip _) rfl,
      Access.bind_runs (Access.next_runs third)]
    by_cases missing : data.length < 3 + (data.getD 1 0).toNat +
        (data.getD (2 + (data.getD 1 0).toNat) 0).toNat
    · rw [if_pos missing,if_pos missing]
      exact ⟨_,untouched (fun whole => absurd whole.2.2.2 (by omega)),rfl⟩
    · have whole : WholeLogin data := ⟨enough,ver,by omega,by omega⟩
      have same : data.set (2 + (data.getD 1 0).toNat) colon = joined data := (if_pos whole).symm
      rw [if_neg missing,if_neg missing]
      have runs := joinKeyIn_runs c (Nat.not_lt.mp missing)
      refine ⟨⟨_,3 + (data.getD 1 0).toNat + (data.getD (2 + (data.getD 1 0).toNat) 0).toNat⟩,same,
        runs.trans ?_⟩
      split <;> rfl

/-- The login reads received bytes only, and the buffer is as it was until it is complete. -/
theorem onS5ClientAuthIn_on (c : ClientConnection) (data : Bytes) :
    (onS5ClientAuthIn c).on data = some (onS5ClientAuth c data,joined data) := by
  have untouched (part : ¬ WholeLogin data) : joined data = data := if_neg part
  by_cases short : data.length < 3
  · rw [untouched (fun whole => absurd whole.1 (by omega)),onS5ClientAuth,if_pos short]
    refine Access.on_eq (b := ⟨data,0⟩) ?_
    rw [onS5ClientAuthIn,Access.bind_runs (m := size) rfl,if_pos short]
    rfl
  · have first := getElem?_eq_getD data (i := 0) (by omega)
    by_cases ver : data.getD 0 0 = 0x01
    · obtain ⟨b,same,runs⟩ := userPassIn_runs c (Nat.not_lt.mp short) ver
      rw [← same]
      apply Access.on_eq
      rw [onS5ClientAuthIn,Access.bind_runs (m := size) rfl,if_neg short,
        Access.bind_runs (Access.next_runs first),if_pos ver]
      exact runs
    · rw [untouched (fun whole => ver whole.2.1)]
      simp only [onS5ClientAuth,if_neg short,if_neg ver]
      refine Access.on_eq (b := ⟨data,1⟩) ?_
      rw [onS5ClientAuthIn,Access.bind_runs (m := size) rfl,if_neg short,
        Access.bind_runs (Access.next_runs first),if_neg ver]
      split <;> rfl

/-! ## Messages -/

/-- The methods that a client offers. -/
structure S5Greeting where
  methods : Bytes
  some_ : methods ≠ []
  bound : methods.length ≤ 255

namespace S5Greeting

def encode (g : S5Greeting) : Bytes := 0x05 :: g.methods.length.toUInt8 :: g.methods

/-- Method 2 is the only one that is taken. -/
def answer (g : S5Greeting) : List Effect :=
  if 0x02 ∈ g.methods then [.postData [0x05,0x02]] else [.postData [0x05,0xFF],.kill]

theorem length_encode (g : S5Greeting) : g.encode.length = 2 + g.methods.length := by
  simp only [encode,List.length_cons]
  omega

theorem count (g : S5Greeting) : g.methods.length.toUInt8.toNat = g.methods.length := by
  have digit : g.methods.length.toUInt8.toNat = g.methods.length % 256 := UInt8.toNat_ofNat'
  have bound := g.bound
  omega

end S5Greeting

/-- The message of the username/password subnegotiation. -/
structure S5Login where
  user : Bytes
  password : Bytes
  user_bound : user.length ≤ 255
  password_bound : password.length ≤ 255

namespace S5Login

def encode (l : S5Login) : Bytes :=
  0x01 :: l.user.length.toUInt8 :: (l.user ++ l.password.length.toUInt8 :: l.password)

/-- Neither a user nor a password. -/
def Anonymous (l : S5Login) : Prop := l.user = [] ∧ l.password = []

instance (l : S5Login) : Decidable l.Anonymous := inferInstanceAs (Decidable (_ ∧ _))

/-- The key that the client of this address is known by. -/
def key (l : S5Login) (ip : Bytes) : Bytes :=
  if l.Anonymous then ip else l.user ++ colon :: l.password

theorem length_encode (l : S5Login) :
    l.encode.length = 3 + l.user.length + l.password.length := by
  simp only [encode,List.length_cons,List.length_append]
  omega

theorem userCount (l : S5Login) : l.user.length.toUInt8.toNat = l.user.length := by
  have digit : l.user.length.toUInt8.toNat = l.user.length % 256 := UInt8.toNat_ofNat'
  have bound := l.user_bound
  omega

theorem passwordCount (l : S5Login) : l.password.length.toUInt8.toNat = l.password.length := by
  have digit : l.password.length.toUInt8.toNat = l.password.length % 256 := UInt8.toNat_ofNat'
  have bound := l.password_bound
  omega

theorem encode_password (l : S5Login) (rest : Bytes) :
    (l.encode ++ rest).getD (2 + l.user.length) 0 = l.password.length.toUInt8 := by
  have split : l.encode ++ rest = (0x01 :: l.user.length.toUInt8 :: l.user) ++
      l.password.length.toUInt8 :: (l.password ++ rest) := by simp [encode]
  have size : (0x01 :: l.user.length.toUInt8 :: l.user : Bytes).length = 2 + l.user.length := by
    simp only [List.length_cons]; omega
  rw [split,List.getD_eq_getElem?_getD,List.getElem?_append_right (Nat.le_of_eq size),size,Nat.sub_self]
  rfl

end S5Login

/-- A message cut short is shorter. -/
theorem length_lt_of_front {data whole : Bytes} (front : data <+: whole) (part : data ≠ whole) :
    data.length < whole.length :=
  Nat.lt_of_le_of_ne front.length_le (fun same => part (front.eq_of_length same))

theorem greeting_waits (c : ClientConnection) (g : S5Greeting) {data : Bytes}
    (front : data <+: g.encode) (part : data ≠ g.encode) : onChallenge c data = ⟨c,[],some 0⟩ := by
  have short := length_lt_of_front front part
  rw [g.length_encode] at short
  unfold onChallenge
  split
  · rfl
  · rename_i enough
    have version : data.getD 0 0 = 0x05 := getD_front front (by omega)
    have count : (data.getD 1 0).toNat = g.methods.length := by
      rw [getD_front front (by omega)]
      exact g.count
    have some_ := List.length_pos_iff.mpr g.some_
    rw [if_pos version]
    simp only [onS5Challenge,count]
    rw [if_neg (by omega),if_pos short]

theorem greeting_ends (c : ClientConnection) (g : S5Greeting) (rest : Bytes) :
    onChallenge c (g.encode ++ rest) =
      ⟨{ c with phase := .s5WaitForAuthInfo },g.answer,some g.encode.length⟩ := by
  have some_ := List.length_pos_iff.mpr g.some_
  have size : (g.encode ++ rest).length = 2 + g.methods.length + rest.length := by
    rw [List.length_append,g.length_encode]
  have count : ((g.encode ++ rest).getD 1 0).toNat = g.methods.length := g.count
  have methods : ((g.encode ++ rest).drop 2).take g.methods.length = g.methods := by
    simp [S5Greeting.encode]
  have version : (g.encode ++ rest).getD 0 0 = 0x05 := rfl
  unfold onChallenge
  rw [if_neg (by omega),if_pos version]
  simp only [onS5Challenge,count]
  rw [if_neg (by omega),if_neg (by omega),methods,g.length_encode,S5Greeting.answer]
  simp

theorem login_waits (c : ClientConnection) (l : S5Login) {data : Bytes} (front : data <+: l.encode)
    (part : data ≠ l.encode) : onS5ClientAuth c data = ⟨c,[],some 0⟩ ∧ joined data = data := by
  have short := length_lt_of_front front part
  rw [l.length_encode] at short
  by_cases few : data.length < 3
  · exact ⟨by rw [onS5ClientAuth,if_pos few],if_neg (fun whole => by have := whole.1; omega)⟩
  · have version : data.getD 0 0 = 0x01 := getD_front front (by omega)
    have user : (data.getD 1 0).toNat = l.user.length := by
      rw [getD_front front (by omega)]
      exact l.userCount
    have password (inside : 2 + l.user.length < data.length) :
        (data.getD (2 + l.user.length) 0).toNat = l.password.length := by
      have here := l.encode_password []
      rw [List.append_nil] at here
      rw [getD_front front inside,here]
      exact l.passwordCount
    constructor
    · simp only [onS5ClientAuth,if_neg few,if_pos version,user]
      split
      · rfl
      · rename_i long
        rw [password (by omega),if_pos short]
    · apply if_neg
      rintro ⟨-,-,long,all⟩
      rw [user] at long all
      rw [password (by omega)] at all
      omega

theorem login_ends (c : ClientConnection) (l : S5Login) (rest : Bytes) :
    onS5ClientAuth c (l.encode ++ rest) =
      ⟨{ c with phase := .s5WaitForAccountExchange },[.requestAuth (l.key c.remoteIp)],
        some l.encode.length⟩ ∧
    joined (l.encode ++ rest) = l.encode.set (2 + l.user.length) colon ++ rest := by
  have size : (l.encode ++ rest).length = 3 + l.user.length + l.password.length + rest.length := by
    rw [List.length_append,l.length_encode]
  have version : (l.encode ++ rest).getD 0 0 = 0x01 := rfl
  have user : ((l.encode ++ rest).getD 1 0).toNat = l.user.length := l.userCount
  have password : ((l.encode ++ rest).getD (2 + l.user.length) 0).toNat = l.password.length := by
    rw [l.encode_password]
    exact l.passwordCount
  constructor
  · have name : ((l.encode ++ rest).drop 2).take l.user.length = l.user := by simp [S5Login.encode]
    have pass : ((l.encode ++ rest).drop (3 + l.user.length)).take l.password.length = l.password := by
      have split : l.encode ++ rest = (0x01 :: l.user.length.toUInt8 :: (l.user ++
          [l.password.length.toUInt8])) ++ (l.password ++ rest) := by simp [S5Login.encode]
      rw [split,List.drop_left' (by simp; omega),List.take_left]
    simp only [onS5ClientAuth,version,user,password,if_true,name,pass]
    rw [if_neg (by omega),if_neg (by omega),if_neg (by omega),S5Login.key,l.length_encode]
    by_cases none : l.Anonymous
    · rw [if_pos none,if_neg (by simp [none.1,none.2])]
    · have some_ : l.user.length ≠ 0 ∨ l.password.length ≠ 0 := by
        simp only [ne_eq,List.length_eq_zero_iff]
        exact not_and_or.mp none
      rw [if_neg none,if_pos some_]
  · have whole : WholeLogin (l.encode ++ rest) :=
      ⟨by omega,version,by rw [user]; omega,by rw [user,password]; omega⟩
    rw [joined,if_pos whole,user,List.set_append_left _ _ (by rw [l.length_encode]; omega)]

/-! ## Pieces of a message -/

/-- A message that the connection waits for, and takes as a whole. -/
structure Awaited (cfg : Config) (c c' : ClientConnection) (message : Bytes) (out : List Effect) :
    Prop where
  reading : c.readingSuspended = false
  filled : message ≠ []
  waits : ∀ data, data <+: message → data ≠ message → onData cfg c data = ⟨c,[],some 0⟩
  ends : ∀ rest, onData cfg c (message ++ rest) = ⟨c',out,some message.length⟩

section Pieces

variable {c c' : ClientConnection} {message : Bytes} {out : List Effect}

theorem receive_part (awaited : Awaited cfg c c' message out) {seen chunk : Bytes}
    (front : seen ++ chunk <+: message) (part : seen ++ chunk ≠ message) :
    receive cfg ⟨c,seen,[],false⟩ chunk = ⟨c,seen ++ chunk,[],false⟩ := by
  by_cases empty : chunk = []
  · rw [empty,receive,if_pos rfl,List.append_nil]
  · have present : seen ++ chunk ≠ [] := by simp [empty]
    have waits := awaited.waits _ front part
    rw [receive_eq _ empty,drain,pump_stop present awaited.reading rfl (by simp only [waits])]
    simp only [waits,List.append_nil]

/-- The piece that completes the message. -/
theorem receive_last (awaited : Awaited cfg c c' message out) {seen chunk view : Bytes}
    (short : seen.length < message.length) (whole : seen ++ chunk = message ++ view) :
    receive cfg ⟨c,seen,[],false⟩ chunk = drain cfg ⟨c',view,out,false⟩ := by
  obtain ⟨n,size⟩ := Nat.exists_eq_succ_of_ne_zero (Nat.ne_zero_of_lt short)
  have filled : chunk ≠ [] := by
    rintro rfl
    have length := congrArg List.length whole
    rw [List.append_nil,List.length_append] at length
    omega
  have ends := awaited.ends view
  have present : seen ++ chunk ≠ [] := by simp [filled]
  rw [receive_eq _ filled,drain_call cfg present awaited.reading rfl (n := n)
    (by simp only [whole,ends,size])]
  simp only [whole,ends,List.nil_append]
  rw [← Nat.succ_eq_add_one,← size,List.drop_left]

theorem feed_part (awaited : Awaited cfg c c' message out) {chunks : List Bytes}
    (front : chunks.flatten <+: message) (part : chunks.flatten ≠ message) :
    feed cfg ⟨c,[],[],false⟩ chunks = ⟨c,chunks.flatten,[],false⟩ := by
  induction chunks using List.reverseRecOn with
  | nil => rfl
  | append_singleton chunks chunk ih =>
    rw [List.flatten_append,List.flatten_singleton] at front part ⊢
    have earlier : chunks.flatten <+: message := (List.prefix_append _ _).trans front
    have unfinished : chunks.flatten ≠ message := by
      intro whole
      obtain ⟨rest,same⟩ := front
      rw [whole] at part same
      have none := congrArg List.length same
      simp only [List.length_append] at none
      exact part (by rw [List.length_eq_zero_iff.mp (show chunk.length = 0 by omega),List.append_nil])
    rw [feed_append,ih earlier unfinished]
    exact receive_part awaited front part

/-- One of the pieces completes the message, and what it has more is what comes next. -/
theorem feed_message (awaited : Awaited cfg c c' message out) {chunks : List Bytes} (seen : Bytes)
    {rest : Bytes} (short : seen.length < message.length)
    (whole : seen ++ chunks.flatten = message ++ rest) :
    ∃ before chunk after view, chunks = before ++ chunk :: after ∧
      (seen ++ before.flatten).length < message.length ∧
      seen ++ before.flatten ++ chunk = message ++ view ∧
      feed cfg ⟨c,seen,[],false⟩ (before ++ [chunk]) = drain cfg ⟨c',view,out,false⟩ := by
  induction chunks generalizing seen with
  | nil =>
    have length := congrArg List.length whole
    rw [List.flatten_nil,List.append_nil,List.length_append] at length
    omega
  | cons chunk chunks ih =>
    rw [List.flatten_cons,← List.append_assoc] at whole
    by_cases done : message.length ≤ (seen ++ chunk).length
    · obtain ⟨view,same⟩ := List.prefix_of_prefix_length_le (List.prefix_append message rest)
        (whole ▸ List.prefix_append (seen ++ chunk) chunks.flatten) done
      refine ⟨[],chunk,chunks,view,rfl,by simpa using short,by simpa using same.symm,?_⟩
      exact receive_last awaited short same.symm
    · obtain ⟨before,last,after,view,rfl,part,complete,stream⟩ := ih _ (Nat.not_le.mp done) whole
      refine ⟨chunk :: before,last,after,view,rfl,by simpa using part,by simpa using complete,?_⟩
      have front : seen ++ chunk <+: message := List.prefix_of_prefix_length_le
        (whole ▸ List.prefix_append _ _) (List.prefix_append message rest) (Nat.le_of_not_le done)
      have unfinished : seen ++ chunk ≠ message := fun same => done (Nat.le_of_eq (congrArg List.length same.symm))
      rw [← stream,← receive_part awaited front unfinished]
      rfl

end Pieces

/-- A message is parsed by accesses to received bytes alone: nothing happens and nothing is
written before it is complete, then just its bytes are consumed, however it is cut. -/
structure Parsed (cfg : Config) (handler : Access UInt8 Reading) (c c' : ClientConnection)
    (message : Bytes) (out : List Effect) : Prop where
  waits : ∀ data, data <+: message → data ≠ message → handler.on data = some (⟨c,[],some 0⟩,data)
  ends : ∀ rest, ∃ spent, spent.length = message.length ∧
    handler.on (message ++ rest) = some (⟨c',out,some message.length⟩,spent ++ rest)
  parts : ∀ chunks : List Bytes, chunks.flatten <+: message → chunks.flatten ≠ message →
    feed cfg ⟨c,[],[],false⟩ chunks = ⟨c,chunks.flatten,[],false⟩
  pieces : ∀ (chunks : List Bytes) rest, chunks.flatten = message ++ rest →
    ∃ before chunk after view, chunks = before ++ chunk :: after ∧
      before.flatten.length < message.length ∧ before.flatten ++ chunk = message ++ view ∧
      feed cfg ⟨c,[],[],false⟩ (before ++ [chunk]) = drain cfg ⟨c',view,out,false⟩

theorem Awaited.parsed {c c' : ClientConnection} {message : Bytes} {out : List Effect}
    (awaited : Awaited cfg c c' message out) (handler : Access UInt8 Reading) (after : Bytes → Bytes)
    (inside : ∀ data, handler.on data = some (onData cfg c data,after data))
    (unwritten : ∀ data, data <+: message → data ≠ message → after data = data)
    (written : ∀ rest, ∃ spent, spent.length = message.length ∧ after (message ++ rest) = spent ++ rest) :
    Parsed cfg handler c c' message out where
  waits data front part := by rw [inside,awaited.waits data front part,unwritten data front part]
  ends rest := by
    obtain ⟨spent,size,same⟩ := written rest
    exact ⟨spent,size,by rw [inside,awaited.ends rest,same]⟩
  parts chunks front part := feed_part awaited front part
  pieces chunks rest whole := by
    obtain ⟨before,chunk,after,view,split,short,complete,stream⟩ :=
      feed_message awaited [] (List.length_pos_iff.mpr awaited.filled) whole
    exact ⟨before,chunk,after,view,split,by simpa using short,by simpa using complete,stream⟩

/-! ## After the login -/

/-- Bytes that come before the verdict ask for nothing. -/
theorem pump_keys (cfg : Config) {s : Stream} (phase : s.conn.phase = .s5WaitForAccountExchange) (fuel : Nat) :
    (pump cfg fuel s).conn = s.conn ∧
      (pump cfg fuel s).effects.filterMap Effect.key = s.effects.filterMap Effect.key := by
  cases fuel with
  | zero => exact ⟨rfl,rfl⟩
  | succ fuel =>
    have handled : onData cfg s.conn s.pending = ⟨s.conn,[.kill],some 0⟩ := by
      simp only [onData,phase]
    by_cases stopped : s.pending = [] ∨ s.conn.readingSuspended = true ∨ s.invalid = true
    · rw [pump,if_pos stopped]
      exact ⟨rfl,rfl⟩
    · simp only [not_or,Bool.not_eq_true] at stopped
      rw [pump_stop stopped.1 stopped.2.1 stopped.2.2 (by rw [handled]),handled]
      exact ⟨rfl,by simp [List.filterMap_append,Effect.key]⟩

theorem feed_keys {s : Stream} (phase : s.conn.phase = .s5WaitForAccountExchange) (chunks : List Bytes) :
    (feed cfg s chunks).effects.filterMap Effect.key = s.effects.filterMap Effect.key := by
  induction chunks generalizing s with
  | nil => rfl
  | cons chunk chunks ih =>
    have same : (receive cfg s chunk).conn = s.conn ∧
        (receive cfg s chunk).effects.filterMap Effect.key = s.effects.filterMap Effect.key := by
      unfold receive
      split
      · exact ⟨rfl,rfl⟩
      · exact pump_keys cfg (s := { s with pending := s.pending ++ chunk }) phase _
    exact (ih (by rw [same.1]; exact phase)).trans same.2

theorem login_awaited (cfg : Config) {c : ClientConnection} (reading : c.readingSuspended = false)
    (phase : c.phase = .s5WaitForAuthInfo) (l : S5Login) :
    Awaited cfg c { c with phase := .s5WaitForAccountExchange } l.encode
      [.requestAuth (l.key c.remoteIp)] where
  reading := reading
  filled := by simp [S5Login.encode]
  waits data front part := by
    simp only [onData,phase]
    exact (login_waits c l front part).1
  ends rest := by
    simp only [onData,phase]
    exact (login_ends c l rest).1

theorem greeting_awaited {c : ClientConnection} (reading : c.readingSuspended = false)
    (phase : c.phase = .unknown) (g : S5Greeting) :
    Awaited cfg c { c with phase := .s5WaitForAuthInfo } g.encode g.answer where
  reading := reading
  filled := by simp [S5Greeting.encode]
  waits data front part := by
    simp only [onData,phase]
    exact greeting_waits c g front part
  ends rest := by
    simp only [onData,phase]
    exact greeting_ends c g rest

/-- The greeting and the login are parsed so, and the login asks for one authentication
whatever follows it. -/
theorem s5_messages_parsed (cfg : Config) (c : ClientConnection) (reading : c.readingSuspended = false) :
    (c.phase = .unknown → ∀ g : S5Greeting,
      Parsed cfg (onChallengeIn c) c { c with phase := .s5WaitForAuthInfo } g.encode g.answer) ∧
    (c.phase = .s5WaitForAuthInfo → ∀ l : S5Login,
      Parsed cfg (onS5ClientAuthIn c) c { c with phase := .s5WaitForAccountExchange } l.encode
        [.requestAuth (l.key c.remoteIp)] ∧
      ∀ (chunks : List Bytes) rest, chunks.flatten = l.encode ++ rest →
        (feed cfg ⟨c,[],[],false⟩ chunks).effects.filterMap Effect.key = [l.key c.remoteIp]) := by
  constructor
  · intro phase g
    refine (greeting_awaited reading phase g).parsed _ id (fun data => ?_)
      (fun _ _ _ => rfl) (fun rest => ⟨g.encode,rfl,rfl⟩)
    simp only [onData,phase]
    exact onChallengeIn_on c data
  · intro phase l
    have awaited := login_awaited cfg reading phase l
    have parsed := awaited.parsed (onS5ClientAuthIn c) joined
      (fun data => by
        simp only [onData,phase]
        exact onS5ClientAuthIn_on c data)
      (fun data front part => (login_waits c l front part).2)
      (fun rest => ⟨l.encode.set (2 + l.user.length) colon,List.length_set,(login_ends c l rest).2⟩)
    refine ⟨parsed,fun chunks rest whole => ?_⟩
    obtain ⟨before,chunk,after,view,rfl,-,-,stream⟩ := parsed.pieces chunks rest whole
    have asked := pump_keys cfg (s := ⟨{ c with phase := .s5WaitForAccountExchange },view,
      [.requestAuth (l.key c.remoteIp)],false⟩) rfl (view.length + 1)
    rw [List.append_cons,feed_append,stream]
    exact (feed_keys (by rw [drain,asked.1]) after).trans asked.2

/-- The greeting of a client that can log in, and its login as `u` with password `p`. -/
theorem s5_messages_parsed_login :
    (feed referenceConfig ⟨{ connectionId := 1, remoteIp := [], phase := .s5WaitForAuthInfo },[],[],false⟩
      [[0x01,0x01,117],[0x01],[112,0x05]]).effects.filterMap Effect.key = [ascii "u:p"] :=
  ((s5_messages_parsed referenceConfig { connectionId := 1, remoteIp := [], phase := .s5WaitForAuthInfo }
    rfl).2 rfl ⟨[117],[112],by decide,by decide⟩).2 _ [0x05] rfl

end MiniPP.Proxy
