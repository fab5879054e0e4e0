import MiniPP.Proxy.AuthCache
import MiniPP.Proxy.Login

/-! Which clients share a key of the auth cache. A key is a user and a password with a colon
between them, either of which may have colons of its own. -/
namespace MiniPP.Proxy

/-- The login makes the client ask with this key. -/
def Asks (c : ClientConnection) (l : S5Login) (key : Bytes) : Prop :=
  (onS5ClientAuth c l.encode).effects = [.requestAuth key]

theorem asks_iff (c : ClientConnection) (l : S5Login) (key : Bytes) :
    Asks c l key ↔ l.key c.remoteIp = key := by
  have ends := (login_ends c l []).1
  rw [List.append_nil] at ends
  simp [Asks,ends]

theorem key_named {l : S5Login} (named : ¬ l.Anonymous) (ip : Bytes) :
    l.key ip = l.user ++ colon :: l.password := if_neg named

/-- What an accepted key is made of fits into the fields of a login. -/
theorem length_valid {user password : Bytes}
    (valid : AuthCacheManager.validUserPass (user ++ colon :: password) = true) :
    (user ++ colon :: password).length ≤ 255 := by
  unfold AuthCacheManager.validUserPass at valid
  split at valid
  · cases valid
  · simp only [Bool.and_eq_true,decide_eq_true_eq] at valid
    omega

/-- No login with another user or password leads to the same key. -/
def Unambiguous (l : S5Login) : Prop :=
  ∀ (c c' : ClientConnection) (l' : S5Login) (key : Bytes), ¬ l'.Anonymous →
    (l'.user,l'.password) ≠ (l.user,l.password) → Asks c l key → ¬ Asks c' l' key

/-- No user and password lead to the key of the clients with this address that name neither. -/
def Reserved (ip : Bytes) : Prop :=
  ∀ (c c' : ClientConnection) (a l : S5Login) (key : Bytes), c.remoteIp = ip → a.Anonymous →
    ¬ l.Anonymous → Asks c a key → ¬ Asks c' l key

/-- Another split of the key is another login. -/
theorem ambiguous_of_split {l : S5Login} (named : ¬ l.Anonymous) {user password : Bytes}
    (size : (user ++ colon :: password).length ≤ 255)
    (some_ : ¬ (user = [] ∧ password = [])) (apart : user.length ≠ l.user.length)
    (same : user ++ colon :: password = l.user ++ colon :: l.password) : ¬ Unambiguous l := by
  intro alone
  rw [List.length_append,List.length_cons] at size
  let other : S5Login := ⟨user,password,by omega,by omega⟩
  let c : ClientConnection := { connectionId := 0, remoteIp := [] }
  have pairs : (other.user,other.password) ≠ (l.user,l.password) := fun pair =>
    apart (congrArg (fun p : Bytes × Bytes => p.1.length) pair)
  have key : Asks c other (l.key []) := by
    rw [asks_iff,key_named (l := other) some_,key_named named]
    exact same
  exact alone c c other (l.key []) some_ pairs ((asks_iff c l _).mpr rfl) key

theorem unambiguous_iff {l : S5Login} (named : ¬ l.Anonymous)
    (valid : AuthCacheManager.validUserPass (l.user ++ colon :: l.password) = true) :
    Unambiguous l ↔ colon ∉ l.user ∧ colon ∉ l.password := by
  have size := length_valid valid
  constructor
  · intro alone
    constructor
    · intro inside
      obtain ⟨user,rest,split⟩ := List.append_of_mem inside
      have same : user ++ colon :: (rest ++ colon :: l.password) = l.user ++ colon :: l.password := by
        simp [split]
      refine ambiguous_of_split named (by rw [same]; exact size) (by simp) ?_ same alone
      rw [split,List.length_append,List.length_cons]
      omega
    · intro inside
      obtain ⟨front,password,split⟩ := List.append_of_mem inside
      have same : (l.user ++ colon :: front) ++ colon :: password = l.user ++ colon :: l.password := by
        simp [split]
      refine ambiguous_of_split named (by rw [same]; exact size) (by simp) ?_ same alone
      rw [List.length_append,List.length_cons]
      omega
  · rintro ⟨user,password⟩ c c' l' key named' apart asks asks'
    rw [asks_iff,key_named named] at asks
    rw [asks_iff,key_named named',← asks] at asks'
    obtain ⟨sameUser,-,samePassword⟩ := (List.append_cons_inj_of_notMem user password).mp asks'.symm
    exact apart (by rw [sameUser,samePassword])

theorem reserved_iff {ip : Bytes} (low : 2 ≤ ip.length) (high : ip.length ≤ 255) :
    Reserved ip ↔ colon ∉ ip := by
  constructor
  · intro alone inside
    obtain ⟨user,password,split⟩ := List.append_of_mem inside
    rw [split,List.length_append,List.length_cons] at low high
    let other : S5Login := ⟨user,password,by omega,by omega⟩
    let nobody : S5Login := ⟨[],[],Nat.zero_le _,Nat.zero_le _⟩
    let c : ClientConnection := { connectionId := 0, remoteIp := ip }
    have named : ¬ other.Anonymous := by
      rintro ⟨none,none'⟩
      have sizes : user.length = 0 ∧ password.length = 0 :=
        ⟨List.length_eq_zero_iff.mpr none,List.length_eq_zero_iff.mpr none'⟩
      omega
    refine alone c c nobody other ip rfl ⟨rfl,rfl⟩ named ((asks_iff c nobody ip).mpr rfl) ?_
    rw [asks_iff,key_named named]
    exact split.symm
  · intro free c c' a l key address anonymous named asks asks'
    rw [asks_iff,S5Login.key,if_pos anonymous,address] at asks
    rw [asks_iff,key_named named,← asks] at asks'
    exact free (by rw [← asks']; simp)

/-- An accepted key belongs to one login just when neither its user nor its password has a colon;
the key of the clients that name neither is only theirs just when the text of their address,
which has from 2 to 255 bytes, has no colon. -/
theorem credential_keys (l : S5Login) (ip : Bytes) :
    (¬ l.Anonymous → AuthCacheManager.validUserPass (l.user ++ colon :: l.password) = true →
      (Unambiguous l ↔ colon ∉ l.user ∧ colon ∉ l.password)) ∧
    (2 ≤ ip.length → ip.length ≤ 255 → (Reserved ip ↔ colon ∉ ip)) :=
  ⟨unambiguous_iff,reserved_iff⟩

/-- User `u` with password `p`, and a client at 127.0.0.1. -/
theorem credential_keys_plain :
    Unambiguous ⟨[117],[112],by decide,by decide⟩ ∧ Reserved (ascii "127.0.0.1") :=
  ⟨((credential_keys ⟨[117],[112],by decide,by decide⟩ []).1 (by decide) (by decide)).mpr (by decide),
    ((credential_keys ⟨[117],[112],by decide,by decide⟩ (ascii "127.0.0.1")).2
      (by decide) (by decide)).mpr (by decide)⟩

/-- User `a:b` with password `c`. -/
def colonLogin : S5Login := ⟨ascii "a:b",ascii "c",by decide,by decide⟩

/-- User `a` with password `b:c`. -/
def shiftedLogin : S5Login := ⟨ascii "a",ascii "b:c",by decide,by decide⟩

/-- The two have the same key, which is accepted, and a client at ::1 has the key of a user. -/
theorem logins_share_key :
    colonLogin.key [] = shiftedLogin.key [] ∧
    AuthCacheManager.validUserPass (colonLogin.key []) = true ∧
    ¬ Unambiguous colonLogin ∧ ¬ Reserved (ascii "::1") := by
  refine ⟨by decide,by decide,fun alone => ?_,fun alone => ?_⟩
  · exact ((unambiguous_iff (by decide) (by decide)).mp alone).1 (by decide)
  · exact (reserved_iff (by decide) (by decide)).mp alone (by decide)

end MiniPP.Proxy
