import Mathlib.Data.List.Perm.Basic
import MiniPP.Proxy.NormalSegmentation
import MiniPP.Proxy.Upload

/-! The header that is forwarded. `OnHttpNormalChallenge` drops, replaces or copies each line
by the text it starts with, which has a blank behind the colon and something behind that. -/
namespace MiniPP.Proxy

variable {cfg : Config}

/-! ## Kinds of lines -/

/-- The bytes before the first colon are this name, in any case. -/
def hasName (name line : Bytes) : Bool := startsWithCI (name ++ [colon]) line

def isProxyConnection (line : Bytes) : Bool :=
  18 < line.length && startsWithCI (ascii "Proxy-Connection: ") line

def isConnection (line : Bytes) : Bool := 12 < line.length && startsWithCI (ascii "Connection: ") line

/-- A line that the handler does not copy. -/
def isRecognised (line : Bytes) : Bool := isProxyConnection line || isConnection line || isCredentials line

/-- A line that is not to be forwarded as it is. -/
def isHop (line : Bytes) : Bool :=
  hasName (ascii "Proxy-Connection") line || hasName (ascii "Connection") line ||
    hasName (ascii "Proxy-Authorization") line

def connectionClose : Bytes := ascii "Connection: close"

/-- What the handler makes of a line. -/
def rewritten (line : Bytes) : List Bytes :=
  if isProxyConnection line then []
  else if isConnection line then [connectionClose]
  else if isCredentials line then []
  else [line]

theorem startsWithCI_left {text data : Bytes} (more : Bytes) (starts : startsWithCI (text ++ more) data = true) :
    startsWithCI text data = true := by
  simp only [startsWithCI,ge_iff_le,Bool.and_eq_true,decide_eq_true_eq,beq_iff_eq,List.length_append,
    List.map_append] at starts ⊢
  obtain ⟨long,same⟩ := starts
  refine ⟨by omega,?_⟩
  have front := congrArg (List.take text.length) same
  rwa [List.map_take,List.take_take,Nat.min_eq_left (Nat.le_add_right _ _),← List.map_take,
    List.take_left' (List.length_map ..)] at front

theorem hasName_proxyConnection {line : Bytes} (named : isProxyConnection line = true) :
    hasName (ascii "Proxy-Connection") line = true := by
  simp only [isProxyConnection,Bool.and_eq_true] at named
  exact startsWithCI_left [space] named.2

theorem hasName_connection {line : Bytes} (named : isConnection line = true) :
    hasName (ascii "Connection") line = true := by
  simp only [isConnection,Bool.and_eq_true] at named
  exact startsWithCI_left [space] named.2

theorem hasName_credentials {line : Bytes} (named : isCredentials line = true) :
    hasName (ascii "Proxy-Authorization") line = true :=
  startsWithCI_left [space] (isCredentials_iff.mp named).2

theorem isHop_of_recognised {line : Bytes} (recognised : isRecognised line = true) : isHop line = true := by
  simp only [isRecognised,Bool.or_eq_true] at recognised
  simp only [isHop,Bool.or_eq_true]
  rcases recognised with (proxy | plain) | credentials
  · exact .inl (.inl (hasName_proxyConnection proxy))
  · exact .inl (.inr (hasName_connection plain))
  · exact .inr (hasName_credentials credentials)

/-- No line has two of the names. -/
theorem hasName_differ {name other line : Bytes} {i : Nat} {t u : UInt8}
    (named : hasName name line = true) (here : (name ++ [colon])[i]? = some t)
    (there : (other ++ [colon])[i]? = some u) (apart : toLower t ≠ toLower u) :
    hasName other line = false := startsWithCI_differ named here there apart

theorem not_isConnection {line : Bytes} (other : hasName (ascii "Connection") line = false) :
    isConnection line = false := by
  by_contra named
  rw [hasName_connection (by simpa using named)] at other
  cases other

theorem isConnection_iff {line : Bytes} (recognised : isRecognised line = true) :
    isConnection line = hasName (ascii "Connection") line := by
  simp only [isRecognised,Bool.or_eq_true] at recognised
  rcases recognised with (proxy | plain) | credentials
  · have other : hasName (ascii "Connection") line = false :=
      hasName_differ (i := 0) (t := 80) (u := 67) (hasName_proxyConnection proxy) (by decide) (by decide)
        (by decide)
    rw [other,not_isConnection other]
  · rw [plain,hasName_connection plain]
  · have other : hasName (ascii "Connection") line = false :=
      hasName_differ (i := 0) (t := 80) (u := 67) (hasName_credentials credentials) (by decide) (by decide)
        (by decide)
    rw [other,not_isConnection other]

theorem rewritten_copied {line : Bytes} (other : isRecognised line = false) : rewritten line = [line] := by
  simp only [isRecognised,Bool.or_eq_false_iff] at other
  simp only [rewritten,other,Bool.false_eq_true,if_false]

/-- The three kinds, and the rest. -/
theorem rewritten_hop {line : Bytes} (recognised : isRecognised line = true) :
    rewritten line = if hasName (ascii "Connection") line then [connectionClose] else [] := by
  rw [← isConnection_iff recognised]
  cases proxy : isProxyConnection line with
  | true =>
    have other : isConnection line = false := by
      rw [isConnection_iff recognised]
      exact hasName_differ (i := 0) (t := 80) (u := 67) (hasName_proxyConnection proxy) (by decide)
        (by decide) (by decide)
    simp [rewritten,proxy,other]
  | false =>
    cases plain : isConnection line with
    | true => simp [rewritten,proxy,plain]
    | false =>
      have credentials : isCredentials line = true := by simpa [isRecognised,proxy,plain] using recognised
      simp [rewritten,proxy,plain,credentials]

/-! ## A header in one call -/

theorem processLine_rebuilt {http http' : Http} {line : Bytes} {n : Nat}
    (next : processLine cfg { http with httpHeaderLine := line } n = .next http') :
    http'.rebuiltHttpHeader = http.rebuiltHttpHeader ++ Lines.join cr lf (rewritten line) := by
  have close : ascii "Connection: close\r\n" = Lines.join cr lf [connectionClose] := by decide
  unfold processLine at next
  unfold rewritten isProxyConnection isConnection isCredentials
  dsimp only at next
  split at next
  · rename_i proxy
    obtain rfl := LineVerdict.next.inj next
    rw [if_pos proxy,Lines.join_nil,List.append_nil]
  · rename_i proxy
    rw [if_neg proxy]
    split at next
    · rename_i plain
      obtain rfl := LineVerdict.next.inj next
      rw [if_pos plain,close]
    · rename_i plain
      rw [if_neg plain]
      split at next
      · rename_i credentials
        rw [if_pos credentials,Lines.join_nil,List.append_nil]
        repeat' split at next
        all_goals cases next
        rfl
      · rename_i credentials
        rw [if_neg credentials,Lines.join_cons,Lines.join_nil]
        split at next
        all_goals
          obtain rfl := LineVerdict.next.inj next
          exact List.append_assoc _ _ _

/-- Header lines, up to the blank one. -/
structure HeaderBlock where
  lines : List Bytes
  fields : ∀ line ∈ lines, line ≠ [] ∧ Lines.Free cr lf line

def HeaderBlock.bytes (block : HeaderBlock) : Bytes := Lines.join cr lf block.lines ++ crlf

theorem normalLines_plain (cfg : Config) (size : Nat) (tail : Bytes) {c : ClientConnection}
    (clear : c.http.httpHeaderLine = []) {lines : List Bytes} (plain : ∀ line ∈ lines, Plain line)
    (more : List Bytes) (n : Nat) :
    ∃ http, http.httpHeaderLine = [] ∧
      http.rebuiltHttpHeader = c.http.rebuiltHttpHeader ++ Lines.join cr lf (lines.flatMap rewritten) ∧
      http.authNamePass = lines.foldl (nextCredentials cfg) c.http.authNamePass ∧
      normalLines cfg size tail c (lines ++ more) n =
        normalLines cfg size tail { c with http } more (n + (Lines.join cr lf lines).length) := by
  induction lines generalizing c n with
  | nil => exact ⟨c.http,clear,by simp,rfl,rfl⟩
  | cons line lines ih =>
    obtain ⟨filled,formed⟩ := plain line (by simp)
    obtain ⟨http,handled,same,pass⟩ := absorbed cfg clear formed
    rw [clear,List.nil_append] at handled
    have rebuilt := processLine_rebuilt handled
    obtain ⟨last,empty,whole,key,later⟩ := ih (c := { c with http := { http with httpHeaderLine := [] } })
      rfl (fun other member => plain other (by simp [member])) (n + (line.length + 2))
    refine ⟨last,empty,?_,?_,?_⟩
    · rw [whole,rebuilt,List.flatMap_cons,Lines.join_append,List.append_assoc]
    · rw [List.foldl_cons,← pass,← same]
      exact key
    · have total : n + (line.length + 2) + (Lines.join cr lf lines).length =
          n + (Lines.join cr lf (line :: lines)).length := by
        rw [Lines.join_cons,Lines.length_line]
        omega
      rw [List.cons_append,normalLines,if_neg (fun both => filled both.1)]
      simp only [clear,List.nil_append,handled]
      exact later.trans (by rw [total])

/-- A line that is refused stops the handler. -/
theorem normalLines_malformed (cfg : Config) (size : Nat) (tail : Bytes) {c : ClientConnection}
    (clear : c.http.httpHeaderLine = []) {lines : List Bytes} (plain : ∀ line ∈ lines, Plain line)
    {bad : Bytes} (filled : bad ≠ []) (malformed : isMalformed bad = true) (more : List Bytes) (n : Nat) :
    (normalLines cfg size tail c (lines ++ bad :: more) n).consumed = some 0 := by
  obtain ⟨http,empty,-,-,step⟩ := normalLines_plain cfg size tail clear plain (bad :: more) n
  have named : isCredentials bad = true := by
    simp only [isMalformed,Bool.and_eq_true] at malformed
    exact malformed.1
  rw [step,normalLines,if_neg (fun both => filled both.1)]
  simp only [empty,List.nil_append,processLine_credentials named,malformed,if_true]

theorem block_split (block : HeaderBlock) (rest : Bytes) : ∃ lines tail,
    Lines.Split cr lf (block.bytes ++ rest) (block.lines ++ [] :: lines) tail := by
  obtain ⟨lines,tail,split⟩ := Lines.exists_split (x := cr) (y := lf) rest
  refine ⟨lines,tail,?_,?_,split.unfinished⟩
  · rw [HeaderBlock.bytes,List.append_assoc,split.bytes,Lines.join_append,Lines.join_cons]
    simp [crlf]
  · intro line member
    rcases List.mem_append.mp member with field | later
    · exact (block.fields line field).2
    · rcases List.mem_cons.mp later with rfl | later
      · exact Lines.free_nil
      · exact split.free line later

/-- The header is read to its end. -/
def Finished (cfg : Config) (c : ClientConnection) (block : HeaderBlock) (rest : Bytes) : Prop :=
  (onHttpNormalChallenge cfg c (block.bytes ++ rest)).consumed = some block.bytes.length

theorem finished_rebuilt {c : ClientConnection} (clear : c.http.httpHeaderLine = []) {block : HeaderBlock}
    {rest : Bytes} (finished : Finished cfg c block rest) :
    (onHttpNormalChallenge cfg c (block.bytes ++ rest)).conn.http.rebuiltHttpHeader =
      c.http.rebuiltHttpHeader ++ Lines.join cr lf (block.lines.flatMap rewritten) ++ crlf := by
  obtain ⟨lines,tail,split⟩ := block_split block rest
  unfold Finished onHttpNormalChallenge at finished
  unfold onHttpNormalChallenge
  rw [normalLoop_lines cfg _ c split 0 (Nat.lt_succ_self _)] at finished ⊢
  rcases plain_or_bad (fun line member => (block.fields line member).1) with plain | ⟨pre,bad,more,same,plain,filled,malformed⟩
  · obtain ⟨http,empty,rebuilt,-,step⟩ := normalLines_plain cfg (block.bytes ++ rest).length tail clear plain
      ([] :: lines) 0
    rw [step,normalLines,if_pos ⟨rfl,empty⟩]
    dsimp only
    split <;> rw [← rebuilt]
  · rw [same,List.append_assoc,List.cons_append,
      normalLines_malformed cfg _ tail clear plain filled malformed] at finished
    have size : 0 < block.bytes.length := by simp [HeaderBlock.bytes,crlf]
    have zero := Option.some.inj finished
    omega

/-! ## The specified header -/

/-- The lines that are not hop-by-hop, and one line that closes the connection among them. -/
def Specified (c : ClientConnection) (block : HeaderBlock) (reading : Reading) : Prop :=
  ∃ before after, before ++ after = block.lines.filter (fun line => !isHop line) ∧
    reading.conn.http.rebuiltHttpHeader = c.http.rebuiltHttpHeader ++
      Lines.join cr lf (before ++ connectionClose :: after) ++ crlf

theorem connectionClose_free : Lines.Free cr lf connectionClose := by decide

theorem rewritten_free {line : Bytes} (free : Lines.Free cr lf line) :
    ∀ other ∈ rewritten line, Lines.Free cr lf other := by
  intro other member
  unfold rewritten at member
  repeat' split at member
  · cases member
  · rw [List.mem_singleton.mp member]
    exact connectionClose_free
  · cases member
  · rw [List.mem_singleton.mp member]
    exact free

theorem join_injective {lines lines' : List Bytes} (free : ∀ line ∈ lines, Lines.Free cr lf line)
    (free' : ∀ line ∈ lines', Lines.Free cr lf line)
    (same : Lines.join cr lf lines = Lines.join cr lf lines') : lines = lines' := by
  have split : Lines.Split cr lf (Lines.join cr lf lines) lines [] := ⟨by simp,free,Lines.free_nil⟩
  have split' : Lines.Split cr lf (Lines.join cr lf lines) lines' [] :=
    ⟨by rw [same]; simp,free',Lines.free_nil⟩
  exact (split.unique cr_ne_lf split').1

/-- The recognised connection lines, each replaced, the hop-by-hop lines that are not recognised,
and the others. -/
theorem rewritten_perm (lines : List Bytes) :
    (lines.flatMap rewritten).Perm
      ((lines.filter (fun line => isRecognised line && hasName (ascii "Connection") line)).map
          (fun _ => connectionClose) ++
        lines.filter (fun line => isHop line && !isRecognised line) ++
        lines.filter (fun line => !isHop line)) := by
  induction lines with
  | nil => exact .nil
  | cons line lines ih =>
    rw [List.flatMap_cons]
    cases recognised : isRecognised line with
    | true =>
      have hop := isHop_of_recognised recognised
      rw [rewritten_hop recognised]
      cases named : hasName (ascii "Connection") line with
      | true => simpa [recognised,hop,named] using ih
      | false => simpa [recognised,hop,named] using ih
    | false =>
      rw [rewritten_copied recognised]
      cases hop : isHop line with
      | true =>
        simp only [List.filter_cons,recognised,hop,Bool.false_and,Bool.not_false,Bool.and_true,
          Bool.not_true,if_true,Bool.false_eq_true,if_false,List.append_assoc,List.cons_append]
        rw [List.append_assoc] at ih
        exact (ih.cons line).trans List.perm_middle.symm
      | false =>
        simp only [List.filter_cons,recognised,hop,Bool.false_and,Bool.not_false,if_true,
          Bool.false_eq_true,if_false,List.singleton_append]
        exact (ih.cons line).trans List.perm_middle.symm

/-- Of the lines with the three names, all are recognised, and one is a connection line. -/
def Rewritable (lines : List Bytes) : Prop :=
  (∀ line ∈ lines, isHop line = true → isRecognised line = true) ∧
    lines.countP (hasName (ascii "Connection")) = 1

theorem hop_of_connection {line : Bytes} (named : hasName (ascii "Connection") line = true) :
    isHop line = true := by
  simp [isHop,named]

/-- Without connection lines, what is recognised is dropped. -/
theorem rewritten_filter {lines : List Bytes} (recognised : ∀ line ∈ lines, isHop line = true → isRecognised line = true)
    (none : lines.countP (hasName (ascii "Connection")) = 0) :
    lines.flatMap rewritten = lines.filter (fun line => !isHop line) := by
  induction lines with
  | nil => rfl
  | cons line lines ih =>
    rw [List.countP_eq_zero] at none
    have other : hasName (ascii "Connection") line = false := by simpa using none line (by simp)
    have rest := ih (fun line member => recognised line (by simp [member]))
      (List.countP_eq_zero.mpr (fun line member => none line (by simp [member])))
    rw [List.flatMap_cons,rest]
    cases hop : isHop line with
    | true =>
      rw [rewritten_hop (recognised line (by simp) hop),other]
      simp [hop]
    | false =>
      have copied : isRecognised line = false := by
        rw [Bool.eq_false_iff]
        intro recognised
        rw [isHop_of_recognised recognised] at hop
        cases hop
      rw [rewritten_copied copied]
      simp [hop]

theorem rewritable_iff (lines : List Bytes) :
    (∃ before after, before ++ after = lines.filter (fun line => !isHop line) ∧
      lines.flatMap rewritten = before ++ connectionClose :: after) ↔ Rewritable lines := by
  constructor
  · rintro ⟨before,after,same,bytes⟩
    have perm := rewritten_perm lines
    rw [bytes] at perm
    have cancelled := List.perm_middle.symm.trans perm
    rw [same,← List.singleton_append,List.perm_append_right_iff,List.singleton_perm] at cancelled
    rcases List.append_eq_singleton_iff.mp cancelled.symm with ⟨-,unrecognised⟩ | ⟨one,none⟩
    · -- The line that closes the connection would be copied, but it is recognised.
      have member : connectionClose ∈ lines.filter (fun line => isHop line && !isRecognised line) := by
        simp [unrecognised]
      have foreign := (List.mem_filter.mp member).2
      exact absurd foreign (by decide)
    · have all : ∀ line ∈ lines, isHop line = true → isRecognised line = true := by
        intro line member hop
        have kept := List.filter_eq_nil_iff.mp none line member
        simpa [hop] using kept
      refine ⟨all,?_⟩
      have length := congrArg List.length one
      rw [List.length_map,← List.countP_eq_length_filter] at length
      rw [← List.length_singleton (a := connectionClose),← length]
      refine List.countP_congr (fun line member => ?_)
      constructor
      · intro named
        simp [named,all line member (hop_of_connection named)]
      · intro both
        exact (Bool.and_eq_true_iff.mp both).2
  · rintro ⟨recognised,one⟩
    obtain ⟨line,member,named⟩ := List.countP_pos_iff.mp (Nat.lt_of_lt_of_eq Nat.zero_lt_one one.symm)
    obtain ⟨pre,post,rfl⟩ := List.append_of_mem member
    rw [List.countP_append,List.countP_cons_of_pos named] at one
    have hop := hop_of_connection named
    have front := rewritten_filter (fun other field => recognised other (by simp [field]))
      (show pre.countP (hasName (ascii "Connection")) = 0 by omega)
    have back := rewritten_filter (fun other field => recognised other (by simp [field]))
      (show post.countP (hasName (ascii "Connection")) = 0 by omega)
    refine ⟨pre.filter (fun line => !isHop line),post.filter (fun line => !isHop line),?_,?_⟩
    · simp [List.filter_append,hop]
    · rw [List.flatMap_append,List.flatMap_cons,front,back,
        rewritten_hop (recognised line (by simp) hop),named]
      rfl

theorem specified_lines {c : ClientConnection} (clear : c.http.httpHeaderLine = []) {block : HeaderBlock}
    {rest : Bytes} (finished : Finished cfg c block rest) :
    Specified c block (onHttpNormalChallenge cfg c (block.bytes ++ rest)) ↔
      ∃ before after, before ++ after = block.lines.filter (fun line => !isHop line) ∧
        block.lines.flatMap rewritten = before ++ connectionClose :: after := by
  unfold Specified
  rw [finished_rebuilt clear finished]
  have kept (before after : List Bytes)
      (same : before ++ after = block.lines.filter (fun line => !isHop line)) :
      ∀ line ∈ before ++ connectionClose :: after, Lines.Free cr lf line := by
    intro line member
    have origin : line ∈ before ++ after ∨ line = connectionClose := by
      simp only [List.mem_append,List.mem_cons] at member ⊢
      tauto
    rcases origin with field | rfl
    · rw [same] at field
      exact (block.fields line (List.mem_filter.mp field).1).2
    · exact connectionClose_free
  have free : ∀ line ∈ block.lines.flatMap rewritten, Lines.Free cr lf line := by
    intro line member
    obtain ⟨origin,field,member⟩ := List.mem_flatMap.mp member
    exact rewritten_free (block.fields origin field).2 line member
  constructor
  · rintro ⟨before,after,same,bytes⟩
    refine ⟨before,after,same,join_injective free (kept before after same) ?_⟩
    exact List.append_cancel_left (List.append_cancel_right bytes)
  · rintro ⟨before,after,same,lines⟩
    exact ⟨before,after,same,by rw [lines]⟩

/-- The header that is read to its end is the specified one just when each line with one of the
three names has the recognised form, and just one is a connection line. -/
theorem header_specified (cfg : Config) (c : ClientConnection) (clear : c.http.httpHeaderLine = [])
    (block : HeaderBlock) (rest : Bytes) (finished : Finished cfg c block rest) :
    Specified c block (onHttpNormalChallenge cfg c (block.bytes ++ rest)) ↔ Rewritable block.lines :=
  (specified_lines clear finished).trans (rewritable_iff block.lines)

/-- A forward-mode connection that reads header lines. -/
def readingHeader : ClientConnection :=
  { connectionId := 1, remoteIp := [], phase := .httpNormalChallenge }

/-- A header with one connection line. -/
def keepAliveHeader : HeaderBlock := ⟨[ascii "Host: h",ascii "Connection: keep-alive"],by decide⟩

theorem header_specified_closing : Specified readingHeader keepAliveHeader
    (onHttpNormalChallenge referenceConfig readingHeader (keepAliveHeader.bytes ++ [])) :=
  (header_specified referenceConfig readingHeader rfl keepAliveHeader []
    (by unfold Finished; decide +kernel)).mpr ⟨by decide,by decide⟩

/-- A header without a connection line. -/
def plainHeader : HeaderBlock := ⟨[ascii "Host: h"],by decide⟩

/-- Nothing tells the origin to close. -/
theorem connection_not_closed : Finished referenceConfig readingHeader plainHeader [] ∧
    ¬ Specified readingHeader plainHeader
      (onHttpNormalChallenge referenceConfig readingHeader (plainHeader.bytes ++ [])) := by
  have finished : Finished referenceConfig readingHeader plainHeader [] := by
    unfold Finished
    decide +kernel
  refine ⟨finished,fun specified => ?_⟩
  have one := ((specified_lines rfl finished).trans (rewritable_iff plainHeader.lines)).mp specified
  exact absurd one.2 (by decide)

/-- What goes to the target once the connection is established is the rebuilt header. -/
theorem header_forwarded {c : ClientConnection} {n : PR.ConnectionStateNotify}
    (phase : c.phase = .httpNormalWaitForConnectionEstablish) (established : n.newState = stateEstablished)
    (known : c.relayConnectionId ∈ cfg.relayServers) (pendingWrites : Bool) :
    (packets (handle cfg c (.relayState n pendingWrites)).effects).flatMap (fun packet => packet.2.payload) =
      c.http.rebuiltHttpHeader := by
  rw [packets_handle]
  simp only [uploadCall,phase,established,and_self,if_true,Option.toList_some,List.flatMap_cons,
    List.flatMap_nil,List.append_nil,uploadPackets,if_pos known]
  rw [List.flatMap_map]
  exact List.flatMap_id.trans (flatten_payloads _ _ (Nat.le_refl _))

end MiniPP.Proxy
