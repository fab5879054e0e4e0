import MiniPP.Proxy.Connection

/-! What a client may send before its connection is established: the SOCKS5 greeting,
login and connection request, and the request line and header of an HTTP proxy client. -/
namespace MiniPP.Proxy

def http407Response : Bytes := ascii
  "HTTP/1.1 407 Proxy Authentication Required\r\nProxy-Authenticate: Basic realm=Restricted\r\nConnection: close\r\n\r\n"

/-- `find("\r\n")`. -/
def findCrlf : Bytes → Option Nat
  | [] => none
  | [_] => none
  | a :: b :: rest => if a = cr ∧ b = lf then some 0 else (findCrlf (b :: rest)).map (· + 1)

def crlf : Bytes := [cr,lf]

/-- `find(byte, start)`. -/
def findByte (byte : UInt8) (data : Bytes) (start : Nat) : Option Nat :=
  ((data.drop start).findIdx? (· == byte)).map (· + start)

/-- A big-endian port at `offset`. -/
def portAt (data : Bytes) (offset : Nat) : Nat :=
  (data.getD offset 0).toNat * 256 + (data.getD (offset + 1) 0).toNat

/-! ## SOCKS5 -/

def onS5Challenge (c : ClientConnection) (data : Bytes) : Reading :=
  let nm := (data.getD 1 0).toNat
  if nm = 0 then ⟨c,[.kill],some 0⟩
  else if data.length < 2 + nm then ⟨c,[],some 0⟩
  else
    let userPassSupport := ((data.drop 2).take nm).contains 0x02
    ⟨{ c with phase := .s5WaitForAuthInfo },
      if userPassSupport then [.postData [0x05,0x02]] else [.postData [0x05,0xFF],.kill],
      some (2 + nm)⟩

/-- The key is cut from the message itself, with the password length overwritten. -/
def onS5ClientAuth (c : ClientConnection) (data : Bytes) : Reading :=
  if data.length < 3 then ⟨c,[],some 0⟩
  else
    let request (np : Bytes) (offset : Nat) : Reading :=
      ⟨{ c with phase := .s5WaitForAccountExchange },[.requestAuth np],some offset⟩
    let ver := data.getD 0 0
    if ver = 0x01 then
      let nameLen := (data.getD 1 0).toNat
      if data.length < 3 + nameLen then ⟨c,[],some 0⟩
      else
        let passLen := (data.getD (2 + nameLen) 0).toNat
        if data.length < 3 + nameLen + passLen then ⟨c,[],some 0⟩
        else if nameLen ≠ 0 ∨ passLen ≠ 0 then
          request ((data.drop 2).take nameLen ++ colon :: (data.drop (3 + nameLen)).take passLen)
            (3 + nameLen + passLen)
        else request c.remoteIp (3 + nameLen + passLen)
    else if ver = 0x00 then request c.remoteIp 1
    else ⟨c,[],none⟩

def onOpenRemoteConnection (cfg : Config) (c : ClientConnection) (address : NetAddress)
    (hostname : Bytes) : Act :=
  if c.relayConnectionId ∈ cfg.relayServers then
    let req : PR.CreateConnection :=
      { relaySideDeviceId := c.relaySideDeviceId
        proxySideConnectionId := c.connectionId
        targetAddress := address
        hostname := hostname
        hostnamePort := address.port }
    let phase := match c.phase with
      | .s5WaitForConnectionRequest => .s5WaitForConnectionEstablish
      | .httpRawWaitForDeviceSelection => .httpRawWaitForConnectionEstablish
      | .httpNormalWaitForDeviceSelection => .httpNormalWaitForConnectionEstablish
      | other => other
    ⟨{ c with phase },[.postMessage c.relayConnectionId (.createConnection req)]⟩
  else ⟨c,[]⟩

/-- The address part of a connection request: what it names and where it ends. -/
inductive S5Target where
  | incomplete
  | invalid
  | target (address : NetAddress) (domain : Bytes) (offset : Nat)
  deriving DecidableEq, Repr

def s5Target (data : Bytes) : S5Target :=
  let addrType := data.getD 3 0
  if addrType = 0x01 then
    .target ⟨.ipv4,(data.drop 4).take 4,portAt data 8⟩ [] 10
  else if addrType = 0x03 then
    let length := (data.getD 4 0).toNat
    if data.length < 4 + 1 + length + 2 then .incomplete
    else .target ⟨.unspecified,[],portAt data (5 + length)⟩ ((data.drop 5).take length) (5 + length + 2)
  else if addrType = 0x04 then
    if data.length < 4 + 16 + 2 then .incomplete
    else .target ⟨.ipv6,(data.drop 4).take 16,portAt data 20⟩ [] 22
  else .invalid

def onS5ConnectionRequest (cfg : Config) (c : ClientConnection) (data : Bytes) : Reading :=
  if data.length < 10 then ⟨c,[],some 0⟩
  else if data.length ≥ 6 + 256 then ⟨c,[.kill],some 0⟩
  else if data.getD 0 0 ≠ 0x05 ∨ data.getD 2 0 ≠ 0x00 then ⟨c,[.kill],some 0⟩
  else
    match s5Target data with
    | .incomplete => ⟨c,[],some 0⟩
    | .invalid => ⟨c,[.kill],some 0⟩
    | .target address domain offset =>
      let operation := data.getD 1 0
      let addrType := data.getD 3 0
      if operation ≠ 0x01 ∧ addrType ≠ 0x03 ∧ addrType ≠ 0x04 then
        ⟨c,[.postData ([0x05,0x01,0x00] ++ (data.drop 3).take (offset - 3)),.lingerKill],some 0⟩
      else
        let opened := onOpenRemoteConnection cfg c address domain
        ⟨opened.conn,opened.effects,some data.length⟩

/-! ## HTTP request line -/

/-- The loop over `[Curr, LineEnd)` of a CONNECT line: everything before the first colon or
blank is the host. The port is read from the colon on, past the line if nothing stops it. -/
def connectTarget (line buffer host : Bytes) : Bytes × Nat :=
  match line, buffer with
  | b :: line, _ :: buffer =>
    if b = colon then (host,atoiPort buffer)
    else if b = space then (host,80)
    else connectTarget line buffer (host ++ [b])
  | _, _ => ([],0)

/-- The loop over `[URLStart, PathStart]` of an absolute URI; it stays without a host when
the range is empty. -/
def uriTarget (range buffer host : Bytes) : Bytes × Nat :=
  match range, buffer with
  | b :: range, _ :: buffer =>
    if b = colon then (host,atoiPort buffer)
    else if b = slash then (host,80)
    else uriTarget range buffer (host ++ [b])
  | _, _ => ([],0)

/-- Where the scheme ends, for the host loop and for the search of the path. The two
differ by one byte after "https://". -/
def skipScheme (buffer : Bytes) (start : Nat) : Nat × Nat :=
  if startsWithCI (ascii "http://") (buffer.drop start) then (start + 7,start + 7)
  else if startsWithCI (ascii "https://") (buffer.drop start) then (start + 8,start + 7)
  else (start,start)

def onHttpChallenge (c : ClientConnection) (data : Bytes) : Reading :=
  match findCrlf data with
  | none => ⟨c,[],some 0⟩
  | some 0 => ⟨c,[.kill],some 0⟩
  | some lineLength =>
    let line := data.take lineLength
    if startsWithCI (ascii "CONNECT ") data then
      let (host,port) := connectTarget (line.drop 8) (data.drop 8) []
      if host.length = 0 then ⟨c,[.kill],some 0⟩
      else
        ⟨{ c with
            http := { c.http with targetHost := host, targetPort := port }
            phase := .httpRawChallenge },[],some (lineLength + 2)⟩
    else
      match findByte space line 0 with
      | none => ⟨c,[.kill],some 0⟩
      | some blank =>
        let urlStartIndex := blank + 1
        let c := { c with http := { c.http with
          rebuiltHttpHeader := c.http.rebuiltHttpHeader ++ line.take urlStartIndex } }
        match findByte space line urlStartIndex with
        | none => ⟨c,[.kill],some 0⟩
        | some _ =>
          let (urlStart,searchStart) := skipScheme data urlStartIndex
          match findByte slash line searchStart with
          | none => ⟨c,[.kill],some 0⟩
          | some pathStartIndex =>
            let (host,port) := uriTarget ((line.take (pathStartIndex + 1)).drop urlStart)
              (data.drop urlStart) []
            ⟨{ c with
                http := { c.http with
                  targetHost := host
                  targetPort := port
                  rebuiltHttpHeader := c.http.rebuiltHttpHeader ++
                    (data.take (lineLength + 2)).drop pathStartIndex }
                phase := .httpNormalChallenge },[],some (lineLength + 2)⟩

def onChallenge (c : ClientConnection) (data : Bytes) : Reading :=
  if data.length < 3 then ⟨c,[],some 0⟩
  else if data.getD 0 0 = 0x05 then onS5Challenge c data
  else onHttpChallenge c data

/-! ## HTTP header -/

def proxyAuthorization : Bytes := ascii "Proxy-Authorization: "

/-- One turn of the loop of `OnHttpRawChallenge` a line, on the bytes that are left. The
credentials found so far live in this call only. Out of fuel is the line after the loop. -/
def rawLoop (cfg : Config) (c : ClientConnection) : Nat → Bytes → Bytes → Nat → Reading
  | 0, _, _, _ => ⟨c,[],none⟩
  | fuel + 1, headerView, authNamePass, consumedSize =>
    match findCrlf headerView with
    | some 0 =>
      if authNamePass = [] then ⟨c,[.postData http407Response,.lingerKill],some 0⟩
      else
        ⟨{ c with readingSuspended := true, phase := .httpRawWaitForAccountExchange },
          [.requestAuth authNamePass],some (consumedSize + 2)⟩
    | none => ⟨c,[],some consumedSize⟩
    | some lineEndIndex =>
      let lineLength := lineEndIndex + 2
      let rest := headerView.drop lineLength
      if 21 < lineEndIndex && startsWithCI proxyAuthorization headerView then
        let authStart := headerView.drop 21
        let authLength := lineEndIndex - 21
        if authLength < 6 && !startsWithCI (ascii "Basic ") authStart then ⟨c,[.kill],some 0⟩
        else
          rawLoop cfg c fuel rest (cfg.xel.base64Decode ((authStart.drop 6).take (sub64 authLength 6)))
            (consumedSize + lineLength)
      else rawLoop cfg c fuel rest authNamePass (consumedSize + lineLength)

def onHttpRawChallenge (cfg : Config) (c : ClientConnection) (data : Bytes) : Reading :=
  rawLoop cfg c (data.length + 1) data [] 0

/-- What `OnHttpNormalChallenge` does with the complete line in `HttpHeaderLine`.
`lineEndIndex` counts only the bytes of the line that came in the present chunk. -/
inductive LineVerdict where
  | next (http : Http)
  | invalid
  | outOfBounds
  deriving DecidableEq, Repr

def processLine (cfg : Config) (http : Http) (lineEndIndex : Nat) : LineVerdict :=
  let line := http.httpHeaderLine
  if 18 < line.length && startsWithCI (ascii "Proxy-Connection: ") line then .next http
  else if 12 < line.length && startsWithCI (ascii "Connection: ") line then
    .next { http with rebuiltHttpHeader := http.rebuiltHttpHeader ++ ascii "Connection: close\r\n" }
  else if 21 < line.length && startsWithCI proxyAuthorization line then
    let authStart := line.drop 21
    let authLength := sub64 lineEndIndex 21
    if authLength < 6 && !startsWithCI (ascii "Basic ") authStart then .invalid
    else
      let base64Size := sub64 authLength 6
      -- `HttpHeaderLine` ends with a zero byte that may be read too.
      if base64Size ≤ (authStart.drop 6).length + 1 then
        .next { http with authNamePass :=
          cfg.xel.base64Decode (((authStart ++ [0]).drop 6).take base64Size) }
      else .outOfBounds
  else if 16 < line.length && startsWithCI (ascii "Content-Length: ") line then
    .next { http with
      contentLengthLeft := atollSize (line.drop 16)
      rebuiltHttpHeader := http.rebuiltHttpHeader ++ line ++ crlf }
  else .next { http with rebuiltHttpHeader := http.rebuiltHttpHeader ++ line ++ crlf }

def normalLoop (cfg : Config) (size : Nat) : Nat → ClientConnection → Bytes → Nat → Reading
  | 0, c, _, _ => ⟨c,[],none⟩
  | fuel + 1, c, dataView, consumedSize =>
    match findCrlf dataView with
    | none =>
      ⟨{ c with http := { c.http with httpHeaderLine := c.http.httpHeaderLine ++ dataView } },[],
        some size⟩
    | some lineEndIndex =>
      if lineEndIndex = 0 ∧ c.http.httpHeaderLine = [] then
        let c := { c with http := { c.http with
          rebuiltHttpHeader := c.http.rebuiltHttpHeader ++ crlf } }
        if c.http.authNamePass = [] then
          ⟨c,[.postData http407Response,.lingerKill],some (consumedSize + 2)⟩
        else
          ⟨{ c with readingSuspended := true, phase := .httpNormalWaitForAccountExchange },
            [.requestAuth c.http.authNamePass],some (consumedSize + 2)⟩
      else
        let http := { c.http with
          httpHeaderLine := c.http.httpHeaderLine ++ dataView.take lineEndIndex }
        match processLine cfg http lineEndIndex with
        | .invalid => ⟨{ c with http },[.kill],some 0⟩
        | .outOfBounds => ⟨{ c with http },[.readOutOfBounds],some 0⟩
        | .next http =>
          normalLoop cfg size fuel { c with http := { http with httpHeaderLine := [] } }
            (dataView.drop (lineEndIndex + 2)) (consumedSize + (lineEndIndex + 2))

def onHttpNormalChallenge (cfg : Config) (c : ClientConnection) (data : Bytes) : Reading :=
  normalLoop cfg data.length (data.length + 1) c data 0

end MiniPP.Proxy
