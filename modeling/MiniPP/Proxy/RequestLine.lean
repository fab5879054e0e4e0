import MiniPP.Proxy.NormalSegmentation

/-! The request line of an HTTP proxy client: CONNECT with an authority, or a method with an
absolute URI, and what `OnHttpChallenge` takes from it. -/
namespace MiniPP.Proxy

variable {cfg : Config}

/-! ## Texts -/

/-- A decimal numeral of any length. -/
def IsNumeral (text : Bytes) : Prop := text ≠ [] ∧ ∀ b ∈ text, isDigit b = true

instance (text : Bytes) : Decidable (IsNumeral text) :=
  decidable_of_iff (text ≠ [] ∧ text.all isDigit = true) (by rw [IsNumeral,List.all_eq_true])

def numeralValue (text : Bytes) : Nat := digits 0 text

theorem digits_until (acc : Nat) {text : Bytes} (all : ∀ b ∈ text, isDigit b = true) {stop : UInt8}
    (other : isDigit stop = false) (rest : Bytes) :
    digits acc (text ++ stop :: rest) = digits acc text := by
  induction text generalizing acc with
  | nil => simp [digits,other]
  | cons b text ih =>
    have first : isDigit b = true := all b (by simp)
    simp only [List.cons_append,digits,first,if_true]
    exact ih _ (fun b member => all b (by simp [member]))

/-- A numeral is cut to the largest `long`, and then to 16 bits. -/
theorem atoiPort_numeral {text : Bytes} (numeral : IsNumeral text) {stop : UInt8}
    (other : isDigit stop = false) (rest : Bytes) :
    atoiPort (text ++ stop :: rest) = min (numeralValue text) (2^63 - 1) % 2^16 := by
  obtain ⟨b,tail,rfl⟩ := List.exists_cons_of_ne_nil numeral.1
  have first : isDigit b = true := numeral.2 b (by simp)
  have whole := digits_until 0 numeral.2 other rest
  have bounds : 48 ≤ b ∧ b ≤ 57 := by simpa [isDigit] using first
  have visible : isSpace b = false := by
    unfold isSpace
    grind
  have minus : b ≠ 45 := by grind
  have plus : b ≠ 43 := by grind
  simp only [List.cons_append] at whole ⊢
  simp only [atoiPort,List.dropWhile_cons,visible,Bool.false_eq_true,if_false]
  split
  · rename_i same
    exact absurd (List.cons.inj same).1 minus
  · rename_i same
    exact absurd (List.cons.inj same).1 plus
  · rw [whole,numeralValue]

theorem atoiPort_slash (rest : Bytes) : atoiPort (slash :: rest) = 0 := rfl

/-- The numerals of a port keep their value. -/
theorem port_exact {value : Nat} (bound : value ≤ 65535) : min value (2^63 - 1) % 2^16 = value := by
  omega

theorem startsWithCI_word {text word : Bytes} (same : word.map toLower = text.map toLower) (rest : Bytes) :
    startsWithCI text (word ++ rest) = true := by
  have size : word.length = text.length := by simpa using congrArg List.length same
  have long : text.length ≤ (word ++ rest).length := by
    rw [List.length_append]; omega
  simp only [startsWithCI,ge_iff_le,long,decide_true,Bool.true_and,beq_iff_eq]
  rw [← size,List.take_left,same]

theorem findByte_append {byte : UInt8} {middle : Bytes} (absent : byte ∉ middle) (front rest : Bytes) :
    findByte byte (front ++ (middle ++ byte :: rest)) front.length =
      some (front.length + middle.length) := by
  refine findByte_eq_some.mpr ⟨Nat.le_add_right _ _,?_,?_⟩
  · rw [List.getElem?_append_right (Nat.le_add_right _ _),Nat.add_sub_cancel_left,
      List.getElem?_append_right (Nat.le_refl _),Nat.sub_self]
    rfl
  · intro j after before found
    rw [List.getElem?_append_right after,List.getElem?_append_left (by omega)] at found
    exact absent (List.mem_of_getElem? found)

theorem findByte_absent {byte : UInt8} {rest : Bytes} (absent : byte ∉ rest) (front : Bytes) :
    findByte byte (front ++ rest) front.length = none := by
  cases found : findByte byte (front ++ rest) front.length with
  | none => rfl
  | some i =>
    obtain ⟨after,here,-⟩ := findByte_eq_some.mp found
    rw [List.getElem?_append_right after] at here
    exact absurd (List.mem_of_getElem? here) absent

/-! ## CONNECT -/

theorem connectTarget_colon {host : Bytes} (plain : colon ∉ host ∧ space ∉ host) (line buffer acc : Bytes) :
    connectTarget (host ++ colon :: line) (host ++ colon :: buffer) acc =
      (acc ++ host,atoiPort buffer) := by
  induction host generalizing acc with
  | nil => simp [connectTarget]
  | cons b host ih =>
    obtain ⟨noColon,noSpace⟩ := plain
    simp only [List.mem_cons,not_or] at noColon noSpace
    simp only [List.cons_append,connectTarget,if_neg (Ne.symm noColon.1),if_neg (Ne.symm noSpace.1)]
    rw [ih ⟨noColon.2,noSpace.2⟩,List.append_assoc]
    rfl

/-- A line that names CONNECT, up to the first colon behind it. -/
theorem onHttpChallenge_connect (c : ClientConnection) {word host tail : Bytes}
    (named : word.map toLower = ascii "connect ") (plain : colon ∉ host ∧ space ∉ host) (some_ : host ≠ [])
    (free : Lines.Free cr lf (word ++ (host ++ colon :: tail))) (rest : Bytes) :
    onHttpChallenge c (word ++ (host ++ colon :: tail) ++ cr :: lf :: rest) =
      ⟨{ c with
          http := { c.http with
            targetHost := host
            targetPort := atoiPort (tail ++ cr :: lf :: rest) }
          phase := .httpRawChallenge },[],some ((word ++ (host ++ colon :: tail)).length + 2)⟩ := by
  have eight : word.length = 8 := by simpa [ascii] using congrArg List.length named
  have ends : findCrlf (word ++ (host ++ colon :: tail) ++ cr :: lf :: rest) =
      some (word ++ (host ++ colon :: tail)).length := by
    rw [findCrlf_eq,Lines.find_append cr_ne_lf free]
  obtain ⟨k,length⟩ : ∃ k, (word ++ (host ++ colon :: tail)).length = k + 1 :=
    ⟨(word ++ (host ++ colon :: tail)).length - 1,by rw [List.length_append]; omega⟩
  have starts : startsWithCI (ascii "CONNECT ") (word ++ (host ++ colon :: tail) ++ cr :: lf :: rest) = true := by
    rw [List.append_assoc]
    exact startsWithCI_word (named.trans (by decide)) _
  have line : ((word ++ (host ++ colon :: tail) ++ cr :: lf :: rest).take (k + 1)).drop 8 =
      host ++ colon :: tail := by
    rw [← length,List.take_left,List.drop_left' eight]
  have buffer : (word ++ (host ++ colon :: tail) ++ cr :: lf :: rest).drop 8 =
      host ++ colon :: (tail ++ cr :: lf :: rest) := by
    rw [List.append_assoc,List.drop_left' eight]
    simp
  have filled : ¬ host.length = 0 := fun none => some_ (List.length_eq_zero_iff.mp none)
  simp only [onHttpChallenge,ends]
  rw [length]
  simp only [starts,if_true,line,buffer,connectTarget_colon plain,List.nil_append,filled,if_false]

/-- A host by its name or its IPv4 address, or by its IPv6 address in brackets. -/
inductive ConnectHost where
  | name (text : Bytes) (some_ : text ≠ []) (plain : colon ∉ text ∧ space ∉ text)
  | ipv6 (text : Bytes) (colons : colon ∈ text) (plain : space ∉ text)

namespace ConnectHost

def text : ConnectHost → Bytes
  | .name text _ _ => text
  | .ipv6 text _ _ => 91 :: (text ++ [93])

/-- An address literal is recognised without its brackets, or perhaps with them. -/
def Denoted (host : ConnectHost) (target : Bytes) : Prop :=
  match host with
  | .name text _ _ => target = text
  | .ipv6 text _ _ => target = text ∨ target = 91 :: (text ++ [93])

def isIpv6 : ConnectHost → Bool
  | .name _ _ _ => false
  | .ipv6 _ _ _ => true

end ConnectHost

def connectLine (host : ConnectHost) (port version : Bytes) : Bytes :=
  ascii "CONNECT " ++ (host.text ++ colon :: (port ++ space :: version))

/-- A CONNECT line with its authority and a numeral for the port. -/
structure ConnectLine where
  host : ConnectHost
  port : Bytes
  version : Bytes
  numeral : IsNumeral port
  free : Lines.Free cr lf (connectLine host port version)

namespace ConnectLine

def line (l : ConnectLine) : Bytes := connectLine l.host l.port l.version

def InRange (l : ConnectLine) : Prop := 1 ≤ numeralValue l.port ∧ numeralValue l.port ≤ 65535

instance (l : ConnectLine) : Decidable l.InRange := inferInstanceAs (Decidable (_ ∧ _))

/-- Every request that a connection with this target host and port may post later on is for the
host and the port of the line. -/
def Opens (cfg : Config) (l : ConnectLine) (http : Http) : Prop :=
  ∀ c result server (m : PR.CreateConnection), c.phase = .httpRawWaitForDeviceSelection →
    c.http.targetHost = http.targetHost → c.http.targetPort = http.targetPort →
    .postMessage server (.createConnection m) ∈ (onDeviceSelected cfg c result).effects →
    l.host.Denoted m.hostname ∧ m.hostnamePort = numeralValue l.port ∧
      m.targetAddress = { cfg.xel.parseAddress m.hostname with port := numeralValue l.port }

/-- The target is the denoted one, if the port is one; else the line is rejected. -/
def Understood (cfg : Config) (l : ConnectLine) (reading : Reading) : Prop :=
  if l.InRange then
    reading.effects = [] ∧ reading.conn.phase = .httpRawChallenge ∧
      l.host.Denoted reading.conn.http.targetHost ∧
      reading.conn.http.targetPort = numeralValue l.port ∧ l.Opens cfg reading.conn.http
  else reading.effects = [.kill]

end ConnectLine

/-- What a device selection opens. -/
theorem selected_target {c : ClientConnection} {result : AcquireDeviceResp} {server : Nat}
    {m : PR.CreateConnection} (phase : c.phase = .httpRawWaitForDeviceSelection)
    (posted : .postMessage server (.createConnection m) ∈ (onDeviceSelected cfg c result).effects) :
    m.hostname = c.http.targetHost ∧ m.hostnamePort = c.http.targetPort ∧
      m.targetAddress = { cfg.xel.parseAddress c.http.targetHost with port := c.http.targetPort } := by
  simp only [onDeviceSelected,phase,onOpenRemoteConnection] at posted
  split at posted
  · simp only [List.mem_singleton,Effect.postMessage.injEq,PR.Message.createConnection.injEq] at posted
    obtain ⟨-,rfl⟩ := posted
    exact ⟨rfl,rfl,rfl⟩
  · cases posted

theorem connect_word : (ascii "CONNECT ").map toLower = ascii "connect " := by decide

/-- A bracketed address is cut at its first colon, and the line is accepted. -/
theorem connect_ipv6 (c : ClientConnection) (l : ConnectLine) (rest : Bytes) {text : Bytes}
    (colons : colon ∈ text) (plain : space ∉ text) (host : l.host = .ipv6 text colons plain) :
    (onHttpChallenge c (l.line ++ cr :: lf :: rest)).effects = [] ∧
      colon ∉ (onHttpChallenge c (l.line ++ cr :: lf :: rest)).conn.http.targetHost := by
  obtain ⟨front,more,rfl,first⟩ := List.eq_append_cons_of_mem colons
  have split : l.line = ascii "CONNECT " ++
      ((91 :: front) ++ colon :: (more ++ 93 :: colon :: (l.port ++ space :: l.version))) := by
    simp [ConnectLine.line,connectLine,host,ConnectHost.text]
  have free := l.free
  rw [show connectLine l.host l.port l.version = _ from split] at free
  have bare : colon ∉ (91 :: front) ∧ space ∉ (91 :: front) := by
    constructor
    · simp only [List.mem_cons,not_or]
      exact ⟨by decide,first⟩
    · simp only [List.mem_cons,not_or]
      exact ⟨by decide,fun inside => plain (by simp [inside])⟩
  rw [split,onHttpChallenge_connect c connect_word bare (by simp) free rest]
  exact ⟨rfl,bare.1⟩

/-- A CONNECT line is understood just when its host is no bracketed IPv6 address and its port is
in range. -/
theorem connect_understood (cfg : Config) (c : ClientConnection) (l : ConnectLine) (rest : Bytes) :
    l.Understood cfg (onHttpChallenge c (l.line ++ cr :: lf :: rest)) ↔
      l.host.isIpv6 = false ∧ l.InRange := by
  cases host : l.host with
  | name text some_ plain =>
    have split : l.line = ascii "CONNECT " ++ (text ++ colon :: (l.port ++ space :: l.version)) := by
      simp [ConnectLine.line,connectLine,host,ConnectHost.text]
    have free := l.free
    rw [show connectLine l.host l.port l.version = _ from split] at free
    have number := atoiPort_numeral l.numeral (by decide : isDigit space = false)
      (l.version ++ cr :: lf :: rest)
    rw [split,onHttpChallenge_connect c connect_word plain some_ free rest,List.append_assoc,
      List.cons_append,number]
    simp only [ConnectHost.isIpv6,true_and]
    unfold ConnectLine.Understood
    by_cases range : l.InRange
    · have exact_ := port_exact range.2
      rw [if_pos range,exact_]
      refine iff_of_true ⟨rfl,rfl,?_,rfl,?_⟩ range
      · simp only [host,ConnectHost.Denoted]
      · intro c' result server m phase sameHost samePort posted
        obtain ⟨hostname,port,address⟩ := selected_target phase posted
        rw [hostname,port,address,sameHost,samePort]
        exact ⟨by simp only [host,ConnectHost.Denoted],rfl,rfl⟩
    · rw [if_neg range]
      exact iff_of_false (by simp) range
  | ipv6 text colons plain =>
    obtain ⟨accepted,cut⟩ := connect_ipv6 c l rest colons plain host
    refine iff_of_false (fun understood => ?_) (by simp [ConnectHost.isIpv6])
    unfold ConnectLine.Understood at understood
    split at understood
    · have denoted := understood.2.2.1
      simp only [host,ConnectHost.Denoted] at denoted
      rcases denoted with same | same
      · exact cut (by rw [same]; exact colons)
      · exact cut (by rw [same]; simp [colons])
    · rw [accepted] at understood
      cases understood

/-- `CONNECT [::1]:443 HTTP/1.1`. -/
def bracketedLine : ConnectLine where
  host := .ipv6 (ascii "::1") (by decide) (by decide)
  port := ascii "443"
  version := ascii "HTTP/1.1"
  numeral := by decide
  free := by decide

/-- `CONNECT h:65616 HTTP/1.1`. -/
def largePortLine : ConnectLine where
  host := .name (ascii "h") (by decide) (by decide)
  port := ascii "65616"
  version := ascii "HTTP/1.1"
  numeral := by decide
  free := by decide

/-- The host of the one is taken to be a bracket, and the port of the other to be 80. -/
theorem connect_misunderstood :
    ¬ (∀ (cfg : Config) (c : ClientConnection) (l : ConnectLine) (rest : Bytes),
      l.Understood cfg (onHttpChallenge c (l.line ++ cr :: lf :: rest))) ∧
    (onHttpChallenge newConnection (bracketedLine.line ++ crlf)).conn.http.targetHost = ascii "[" ∧
    (onHttpChallenge newConnection (largePortLine.line ++ crlf)).conn.http.targetPort = 80 := by
  refine ⟨fun always => ?_,by decide,by decide⟩
  have understood := always referenceConfig newConnection largePortLine []
  unfold ConnectLine.Understood at understood
  rw [if_neg (by decide)] at understood
  exact absurd understood (by decide)

/-! ## Absolute URIs -/

theorem uriTarget_plain {host : Bytes} (plain : colon ∉ host ∧ slash ∉ host) (range buffer acc : Bytes) :
    uriTarget (host ++ range) (host ++ buffer) acc = uriTarget range buffer (acc ++ host) := by
  induction host generalizing acc with
  | nil => simp
  | cons b host ih =>
    obtain ⟨noColon,noSlash⟩ := plain
    simp only [List.mem_cons,not_or] at noColon noSlash
    simp only [List.cons_append,uriTarget,if_neg (Ne.symm noColon.1),if_neg (Ne.symm noSlash.1)]
    rw [ih ⟨noColon.2,noSlash.2⟩,List.append_assoc]
    rfl

theorem uriTarget_colon {host : Bytes} (plain : colon ∉ host ∧ slash ∉ host) (range buffer : Bytes) :
    uriTarget (host ++ colon :: range) (host ++ colon :: buffer) [] = (host,atoiPort buffer) := by
  rw [uriTarget_plain plain]
  rfl

theorem uriTarget_slash {host : Bytes} (plain : colon ∉ host ∧ slash ∉ host) (range buffer : Bytes) :
    uriTarget (host ++ slash :: range) (host ++ slash :: buffer) [] = (host,80) := by
  rw [uriTarget_plain plain]
  rfl

/-- What stands behind the scheme: host, port, path, and the version. -/
def uriTail (host : Bytes) (port : Option Bytes) (path version : Bytes) : Bytes :=
  host ++ ((port.elim [] (colon :: ·)) ++ (path ++ space :: version))

def uriLine (method scheme host : Bytes) (port : Option Bytes) (path version : Bytes) : Bytes :=
  (method ++ space :: (scheme ++ ascii "://")) ++ uriTail host port path version

/-- A request line with an absolute URI of scheme http or https. -/
structure UriLine where
  method : Bytes
  scheme : Bytes
  host : Bytes
  port : Option Bytes
  path : Bytes
  version : Bytes
  token : space ∉ method
  schemed : scheme.map toLower = ascii "http" ∨ scheme.map toLower = ascii "https"
  plain : (colon ∉ host ∧ slash ∉ host) ∧ space ∉ host
  numeral : ∀ text ∈ port, IsNumeral text ∧ 1 ≤ numeralValue text ∧ numeralValue text ≤ 65535
  rooted : (path = [] ∨ path.head? = some slash) ∧ space ∉ path
  free : Lines.Free cr lf (uriLine method scheme host port path version)

namespace UriLine

def line (l : UriLine) : Bytes := uriLine l.method l.scheme l.host l.port l.path l.version

def tail (l : UriLine) : Bytes := uriTail l.host l.port l.path l.version

/-- The port of the URI, or that of the protocol. -/
def portValue (l : UriLine) : Nat := l.port.elim 80 numeralValue

/-- The line is rejected, or its parts are where they belong. -/
def Understood (l : UriLine) (c : ClientConnection) (reading : Reading) : Prop :=
  reading.effects = [.kill] ∨
    reading.conn.http.targetHost = l.host ∧ reading.conn.http.targetPort = l.portValue ∧
    ∃ path, path.head? = some slash ∧ (l.path ≠ [] → path = l.path) ∧
      reading.conn.http.rebuiltHttpHeader = c.http.rebuiltHttpHeader ++
        (l.method ++ space :: (path ++ space :: (l.version ++ crlf)))

theorem port_pos (l : UriLine) : 0 < l.portValue := by
  unfold portValue
  cases port : l.port with
  | none => simp
  | some text => exact (l.numeral text port).2.1

end UriLine

/-- The bytes of the scheme that the searches skip. -/
theorem skipScheme_http {scheme : Bytes} (http : scheme.map toLower = ascii "http") (front rest : Bytes) :
    skipScheme (front ++ (scheme ++ ascii "://" ++ rest)) front.length =
      (front.length + 7,front.length + 7) := by
  have starts : startsWithCI (ascii "http://") (scheme ++ ascii "://" ++ rest) = true := by
    refine startsWithCI_word ?_ rest
    rw [List.map_append,http]
    decide
  rw [skipScheme,List.drop_left,if_pos starts]

theorem skipScheme_https {scheme : Bytes} (https : scheme.map toLower = ascii "https") (front rest : Bytes) :
    skipScheme (front ++ (scheme ++ ascii "://" ++ rest)) front.length =
      (front.length + 8,front.length + 7) := by
  have starts : startsWithCI (ascii "https://") (scheme ++ ascii "://" ++ rest) = true := by
    refine startsWithCI_word ?_ rest
    rw [List.map_append,https]
    decide
  have other : startsWithCI (ascii "http://") (scheme ++ ascii "://" ++ rest) = false := by
    rw [Bool.eq_false_iff]
    intro http
    rw [not_https_of_http http] at starts
    cases starts
  rw [skipScheme,List.drop_left,other,if_neg Bool.false_ne_true,if_pos starts]

section Uri

variable (c : ClientConnection) (l : UriLine) (rest : Bytes)

theorem uri_findCrlf : findCrlf (l.line ++ cr :: lf :: rest) = some l.line.length := by
  have free : Lines.Free cr lf l.line := l.free
  rw [findCrlf_eq,Lines.find_append cr_ne_lf free]

theorem uri_split : l.line = l.method ++ space :: (l.scheme ++ ascii "://" ++ l.tail) := by
  simp [UriLine.line,uriLine,UriLine.tail]

/-- A line of CONNECT is cut behind the scheme. -/
theorem uri_connect (connect : l.method.map toLower = ascii "connect") :
    (onHttpChallenge c (l.line ++ cr :: lf :: rest)).effects = [] ∧
      (onHttpChallenge c (l.line ++ cr :: lf :: rest)).conn.http.targetPort = 0 := by
  have split : l.line = (l.method ++ [space]) ++ (l.scheme ++ colon :: (slash :: slash :: l.tail)) := by
    rw [uri_split]
    simp [ascii,colon,slash]
  have free := l.free
  rw [show uriLine l.method l.scheme l.host l.port l.path l.version = _ from split] at free
  have word : (l.method ++ [space]).map toLower = ascii "connect " := by
    rw [List.map_append,connect]
    decide
  -- No byte of a scheme is a colon or a blank.
  have lower (b : UInt8) (foreign : b ∉ ascii "https") (same : toLower b = b) : b ∉ l.scheme := by
    intro inside
    have image := List.mem_map_of_mem (f := toLower) inside
    rw [same] at image
    rcases l.schemed with http | https
    · rw [http] at image
      exact foreign (List.mem_of_mem_take (i := 4) (show b ∈ (ascii "https").take 4 from by
        simpa [ascii] using image))
    · rw [https] at image
      exact foreign image
  have filled : l.scheme ≠ [] := by
    intro none
    rcases l.schemed with http | https
    · rw [none] at http
      exact absurd http (by decide)
    · rw [none] at https
      exact absurd https (by decide)
  rw [split,onHttpChallenge_connect c word ⟨lower colon (by decide) (by decide),
    lower space (by decide) (by decide)⟩ filled free rest]
  exact ⟨rfl,atoiPort_slash _⟩

theorem toLower_space {b : UInt8} (same : toLower b = space) : b = space := by
  unfold toLower space at same
  unfold space
  split at same <;> grind

/-- Other methods are not taken for CONNECT. -/
theorem uri_not_connect (other : l.method.map toLower ≠ ascii "connect") :
    startsWithCI (ascii "CONNECT ") (l.line ++ cr :: lf :: rest) = false := by
  rw [Bool.eq_false_iff]
  intro starts
  have bytes (i : Nat) (t : UInt8) (inside : (ascii "CONNECT ")[i]? = some t) :=
    startsWithCI_getElem starts inside
  rw [uri_split,List.append_assoc,List.cons_append] at bytes starts
  rcases Nat.lt_trichotomy l.method.length 7 with short | seven | long
  · -- The blank would be one of the letters.
    obtain ⟨t,text⟩ : ∃ t, (ascii "CONNECT ")[l.method.length]? = some t :=
      ⟨_,List.getElem?_eq_getElem (Nat.lt_of_lt_of_le short (by decide))⟩
    obtain ⟨b,here,same⟩ := bytes l.method.length t text
    rw [List.getElem?_append_right (Nat.le_refl _),Nat.sub_self,List.getElem?_cons_zero,
      Option.some.injEq] at here
    have letters : ((ascii "CONNECT ").take 7).all (fun t => toLower space != toLower t) = true := by decide
    have early : ((ascii "CONNECT ").take 7)[l.method.length]? = some t := by
      rw [List.getElem?_take_of_lt short]
      exact text
    have letter := List.all_eq_true.mp letters t (List.mem_of_getElem? early)
    exact bne_iff_ne.mp letter (by rw [here]; exact same)
  · simp only [startsWithCI,ge_iff_le,Bool.and_eq_true,decide_eq_true_eq,beq_iff_eq] at starts
    have taken (later : Bytes) : (l.method ++ space :: later).take (ascii "CONNECT ").length =
        l.method ++ [space] := by
      rw [List.append_cons]
      exact List.take_left' (by rw [List.length_append,seven]; decide)
    have word := starts.2
    rw [taken,connect_word] at word
    rw [List.map_append,show ascii "connect " = ascii "connect" ++ [space] from by decide] at word
    exact other (List.append_inj_left' word (by decide))
  · obtain ⟨b,here,same⟩ := bytes 7 space (by decide)
    rw [List.getElem?_append_left long] at here
    obtain rfl := toLower_space (same.trans (by decide))
    exact l.token (List.mem_of_getElem? here)

/-- What becomes of a line that does not name CONNECT. -/
theorem uri_other (other : l.method.map toLower ≠ ascii "connect") {near far : Nat}
    (scheme : skipScheme (l.line ++ cr :: lf :: rest) (l.method.length + 1) = (near,far)) :
    onHttpChallenge c (l.line ++ cr :: lf :: rest) =
      match findByte slash l.line far with
      | none =>
        ⟨{ c with http := { c.http with
          rebuiltHttpHeader := c.http.rebuiltHttpHeader ++ (l.method ++ [space]) } },[.kill],some 0⟩
      | some path =>
        let target := uriTarget ((l.line.take (path + 1)).drop near)
          ((l.line ++ cr :: lf :: rest).drop near) []
        ⟨{ c with
            http := { c.http with
              targetHost := target.1
              targetPort := target.2
              rebuiltHttpHeader := c.http.rebuiltHttpHeader ++ (l.method ++ [space]) ++
                (l.line ++ crlf).drop path }
            phase := .httpNormalChallenge },[],some (l.line.length + 2)⟩ := by
  have starts := uri_not_connect l rest other
  have first : findByte space l.line 0 = some l.method.length := by
    have found := findByte_append l.token [] (l.scheme ++ ascii "://" ++ l.tail)
    rw [List.nil_append,← uri_split,List.length_nil,Nat.zero_add] at found
    exact found
  have second : ∃ last, findByte space l.line (l.method.length + 1) = some last := by
    have blank : space ∈ l.tail := by simp [UriLine.tail,uriTail]
    cases found : findByte space l.line (l.method.length + 1) with
    | some last => exact ⟨last,rfl⟩
    | none =>
      obtain ⟨front,more,split,absent⟩ := List.eq_append_cons_of_mem
        (show space ∈ l.scheme ++ ascii "://" ++ l.tail from List.mem_append_right _ blank)
      have line : l.line = (l.method ++ [space]) ++ (front ++ space :: more) := by
        rw [uri_split,split]; simp
      have there := findByte_append absent (l.method ++ [space]) more
      rw [← line,List.length_append,List.length_singleton,found] at there
      cases there
  obtain ⟨last,second⟩ := second
  have front : l.line.take (l.method.length + 1) = l.method ++ [space] := by
    have line : l.line = (l.method ++ [space]) ++ (l.scheme ++ ascii "://" ++ l.tail) := by
      rw [uri_split]; simp
    rw [line]
    exact List.take_left' (by simp)
  have whole : (l.line ++ cr :: lf :: rest).take (l.line.length + 2) = l.line ++ crlf := by
    rw [List.take_append,List.take_of_length_le (Nat.le_add_right _ 2),Nat.add_sub_cancel_left]
    rfl
  have line : (l.line ++ cr :: lf :: rest).take l.line.length = l.line := List.take_left
  obtain ⟨k,length⟩ : ∃ k, l.line.length = k + 1 :=
    Nat.exists_eq_succ_of_ne_zero (by rw [uri_split]; simp)
  simp only [onHttpChallenge,uri_findCrlf]
  rw [length] at whole line ⊢
  cases found : findByte slash l.line far with
  | none =>
    simp only [starts,Bool.false_eq_true,if_false,line,first,second,front,scheme,found]
  | some path =>
    simp only [starts,Bool.false_eq_true,if_false,line,first,second,front,scheme,found,whole]

/-- Behind "https://" there is neither a host nor a port. -/
theorem uri_https (other : l.method.map toLower ≠ ascii "connect")
    (https : l.scheme.map toLower = ascii "https") :
    (onHttpChallenge c (l.line ++ cr :: lf :: rest)).effects = [] ∧
      (onHttpChallenge c (l.line ++ cr :: lf :: rest)).conn.http.targetPort = 0 := by
  have five : l.scheme.length = 5 := by simpa [ascii] using congrArg List.length https
  have skip : skipScheme (l.line ++ cr :: lf :: rest) (l.method.length + 1) =
      (l.method.length + 1 + 8,l.method.length + 1 + 7) := by
    have skip := skipScheme_https https (l.method ++ [space]) (l.tail ++ cr :: lf :: rest)
    rw [List.length_append,List.length_singleton] at skip
    rw [uri_split,← skip]
    simp
  have found : findByte slash l.line (l.method.length + 1 + 7) = some (l.method.length + 1 + 7) := by
    have found := findByte_append (List.not_mem_nil (a := slash))
      (l.method ++ space :: (l.scheme ++ ascii ":/")) l.tail
    have line : l.line = (l.method ++ space :: (l.scheme ++ ascii ":/")) ++ ([] ++ slash :: l.tail) := by
      rw [uri_split]
      simp [ascii,slash]
    have size : (l.method ++ space :: (l.scheme ++ ascii ":/")).length = l.method.length + 1 + 7 := by
      simp only [List.length_append,List.length_cons,five,show (ascii ":/").length = 2 from rfl]
    rw [← line,size] at found
    exact found
  have none : (l.line.take (l.method.length + 1 + 7 + 1)).drop (l.method.length + 1 + 8) = [] := by
    apply List.drop_eq_nil_of_le
    rw [List.length_take]
    omega
  rw [uri_other c l rest other skip,found]
  simp only [none,uriTarget,and_self]

/-- What stands between the host and the path. -/
def UriLine.authority : Bytes := l.host ++ l.port.elim [] (colon :: ·)

/-- Of a line with scheme http, the path is looked for behind the scheme. -/
theorem uri_http (other : l.method.map toLower ≠ ascii "connect") (http : l.scheme.map toLower = ascii "http") :
    (slash ∉ l.tail → (onHttpChallenge c (l.line ++ cr :: lf :: rest)).effects = [.kill]) ∧
    ∀ front late, l.tail = front ++ slash :: late → slash ∉ front →
      let target := uriTarget (front ++ [slash]) (l.tail ++ cr :: lf :: rest) []
      onHttpChallenge c (l.line ++ cr :: lf :: rest) =
        ⟨{ c with
            http := { c.http with
              targetHost := target.1
              targetPort := target.2
              rebuiltHttpHeader := c.http.rebuiltHttpHeader ++ (l.method ++ [space]) ++
                (slash :: late ++ crlf) }
            phase := .httpNormalChallenge },[],some (l.line.length + 2)⟩ := by
  have four : l.scheme.length = 4 := by simpa [ascii] using congrArg List.length http
  have line : l.line = (l.method ++ space :: (l.scheme ++ ascii "://")) ++ l.tail := rfl
  have size : (l.method ++ space :: (l.scheme ++ ascii "://")).length = l.method.length + 1 + 7 := by
    simp only [List.length_append,List.length_cons,four,show (ascii "://").length = 3 from rfl]
  have skip : skipScheme (l.line ++ cr :: lf :: rest) (l.method.length + 1) =
      (l.method.length + 1 + 7,l.method.length + 1 + 7) := by
    have skip := skipScheme_http http (l.method ++ [space]) (l.tail ++ cr :: lf :: rest)
    rw [List.length_append,List.length_singleton] at skip
    rw [uri_split,← skip]
    simp
  rw [uri_other c l rest other skip]
  constructor
  · intro absent
    have none := findByte_absent absent (l.method ++ space :: (l.scheme ++ ascii "://"))
    rw [← line,size] at none
    simp only [none]
  · intro front late split absent
    have found := findByte_append absent (l.method ++ space :: (l.scheme ++ ascii "://")) late
    rw [← split,← line,size] at found
    have range : (l.line.take (l.method.length + 1 + 7 + front.length + 1)).drop (l.method.length + 1 + 7) =
        front ++ [slash] := by
      rw [line,split,← size,Nat.add_assoc,List.take_length_add_append,List.drop_left,
        List.append_cons]
      exact List.take_left' (by simp)
    have buffer : (l.line ++ cr :: lf :: rest).drop (l.method.length + 1 + 7) =
        l.tail ++ cr :: lf :: rest := by
      rw [line,List.append_assoc,← size,List.drop_left]
    have left : (l.line ++ crlf).drop (l.method.length + 1 + 7 + front.length) =
        slash :: late ++ crlf := by
      rw [line,split,← size,← List.drop_drop,List.append_assoc,List.drop_left,List.append_assoc,
        List.drop_left]
    simp only [found,range,buffer,left]

theorem not_understood {reading : Reading} (accepted : reading.effects = [])
    (portless : reading.conn.http.targetPort = 0) : ¬ l.Understood c reading := by
  rintro (killed | ⟨-,port,-⟩)
  · rw [accepted] at killed
    cases killed
  · have pos := l.port_pos
    omega

theorem authority_plain : slash ∉ l.authority := by
  unfold UriLine.authority
  intro inside
  rcases List.mem_append.mp inside with host | port
  · exact l.plain.1.2 host
  · cases named : l.port with
    | none => simp [named] at port
    | some text =>
      rw [named] at port
      rcases List.mem_cons.mp port with colon | digit
      · exact absurd colon (by decide)
      · exact absurd ((l.numeral text named).1.2 slash digit) (by decide)

/-- The host and the port are read up to the path. -/
theorem authority_target (range buffer : Bytes) :
    uriTarget (l.authority ++ slash :: range) (l.authority ++ slash :: buffer) [] = (l.host,l.portValue) := by
  unfold UriLine.authority UriLine.portValue
  cases named : l.port with
  | none =>
    simp only [Option.elim_none,List.append_nil]
    exact uriTarget_slash l.plain.1 range buffer
  | some text =>
    obtain ⟨numeral,-,bound⟩ := l.numeral text named
    simp only [Option.elim_some,List.append_assoc,List.cons_append]
    rw [uriTarget_colon l.plain.1,atoiPort_numeral numeral (by decide),port_exact bound]

theorem tail_eq : l.tail = l.authority ++ (l.path ++ space :: l.version) := by
  simp [UriLine.tail,uriTail,UriLine.authority]

/-- With a path, all parts are found. -/
theorem uri_path (other : l.method.map toLower ≠ ascii "connect") (http : l.scheme.map toLower = ascii "http")
    (some_ : l.path ≠ []) : l.Understood c (onHttpChallenge c (l.line ++ cr :: lf :: rest)) := by
  obtain ⟨b,path,named⟩ := List.exists_cons_of_ne_nil some_
  have root : b = slash := by
    rcases l.rooted.1 with none | root
    · exact absurd none some_
    · rw [named] at root
      exact Option.some.inj root
  subst root
  have split : l.tail = l.authority ++ slash :: (path ++ space :: l.version) := by
    rw [tail_eq,named]
    rfl
  have handled := (uri_http c l rest other http).2 _ _ split (authority_plain l)
  have target : uriTarget (l.authority ++ [slash]) (l.tail ++ cr :: lf :: rest) [] = (l.host,l.portValue) := by
    rw [split,List.append_assoc,List.cons_append]
    exact authority_target l [] _
  simp only [target] at handled
  rw [handled]
  refine .inr ⟨rfl,rfl,l.path,by rw [named]; rfl,fun _ => rfl,?_⟩
  simp [named]

/-- Without one, it is looked for in the version. -/
theorem uri_no_path (other : l.method.map toLower ≠ ascii "connect")
    (http : l.scheme.map toLower = ascii "http") (none : l.path = []) :
    l.Understood c (onHttpChallenge c (l.line ++ cr :: lf :: rest)) ↔ slash ∉ l.version := by
  have tail : l.tail = l.authority ++ space :: l.version := by
    rw [tail_eq,none]
    rfl
  have first : slash ∉ l.authority ++ [space] := by
    simp only [List.mem_append,List.mem_singleton,not_or]
    exact ⟨authority_plain l,by decide⟩
  obtain ⟨rejected,handled⟩ := uri_http c l rest other http
  by_cases inside : slash ∈ l.version
  · refine iff_of_false ?_ (not_not_intro inside)
    obtain ⟨front,late,version,absent⟩ := List.eq_append_cons_of_mem inside
    have split : l.tail = (l.authority ++ space :: front) ++ slash :: late := by
      rw [tail,version]
      simp
    have stop : slash ∉ l.authority ++ space :: front := by
      rw [List.append_cons]
      exact fun member => (List.mem_append.mp member).elim first absent
    have handled := handled _ _ split stop
    rintro (killed | ⟨host,-,path,root,-,rebuilt⟩)
    · rw [handled] at killed
      cases killed
    · rw [handled] at host rebuilt
      -- The rebuilt line is too short to have a path and the version.
      have length := congrArg List.length rebuilt
      have some_ : path ≠ [] := by
        rintro rfl
        cases root
      have pos := List.length_pos_iff.mpr some_
      simp only [version,List.length_append,List.length_cons,List.length_nil] at length
      omega
  · refine iff_of_true (.inl (rejected ?_)) inside
    rw [tail,List.append_cons]
    exact fun member => (List.mem_append.mp member).elim first inside

/-- A request line with an absolute URI is rejected or understood just when its method is not
CONNECT, its scheme is http, and it has a path or a version without a slash. -/
theorem uri_understood :
    l.Understood c (onHttpChallenge c (l.line ++ cr :: lf :: rest)) ↔
      l.method.map toLower ≠ ascii "connect" ∧ l.scheme.map toLower = ascii "http" ∧
        (l.path ≠ [] ∨ slash ∉ l.version) := by
  by_cases connect : l.method.map toLower = ascii "connect"
  · obtain ⟨accepted,port⟩ := uri_connect c l rest connect
    exact iff_of_false (not_understood c l accepted port) (fun other => other.1 connect)
  · rcases l.schemed with http | https
    · by_cases none : l.path = []
      · rw [uri_no_path c l rest connect http none]
        simp [connect,http,none]
      · exact iff_of_true (uri_path c l rest connect http none) ⟨connect,http,.inl none⟩
    · obtain ⟨accepted,port⟩ := uri_https c l rest connect https
      refine iff_of_false (not_understood c l accepted port) (fun other => ?_)
      rw [https] at other
      exact absurd other.2.1 (by decide)

end Uri

/-- `GET https://h/ HTTP/1.1`. -/
def httpsLine : UriLine where
  method := ascii "GET"
  scheme := ascii "https"
  host := ascii "h"
  port := none
  path := ascii "/"
  version := ascii "HTTP/1.1"
  token := by decide
  schemed := .inr (by decide)
  plain := by decide
  numeral := by simp
  rooted := ⟨.inr (by decide),by decide⟩
  free := by decide

/-- `GET http://h HTTP/1.1`. -/
def pathlessLine : UriLine where
  method := ascii "GET"
  scheme := ascii "http"
  host := ascii "h"
  port := none
  path := []
  version := ascii "HTTP/1.1"
  token := by decide
  schemed := .inl (by decide)
  plain := by decide
  numeral := by simp
  rooted := ⟨.inl rfl,by decide⟩
  free := by decide

/-- The one has no host and port 0, and the host of the other goes on into the version. -/
theorem uri_misunderstood :
    ¬ httpsLine.Understood newConnection (onHttpChallenge newConnection (httpsLine.line ++ crlf)) ∧
    (onHttpChallenge newConnection (httpsLine.line ++ crlf)).conn.http.targetPort = 0 ∧
    ¬ pathlessLine.Understood newConnection (onHttpChallenge newConnection (pathlessLine.line ++ crlf)) ∧
    (onHttpChallenge newConnection (pathlessLine.line ++ crlf)).conn.http.targetHost = ascii "h HTTP" := by
  refine ⟨?_,by decide,?_,by decide⟩
  · exact not_understood newConnection httpsLine (by decide) (by decide)
  · rintro (killed | ⟨host,-⟩)
    · exact absurd killed (by decide)
    · exact absurd host (by decide)

end MiniPP.Proxy
