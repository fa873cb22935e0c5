import TimedRelease.Http
import TimedRelease.Text.Blank
import TimedRelease.Url

/-!
# HTTP messages

How a post is put into bytes for a connection of its own, and what the bytes that
come back are as a reply.  The body of a reply comes in chunks, has an announced
length, or ends with the connection.
-/

namespace TimedRelease.Http

/-! ## Requests -/

/-- Where a post goes: to a host and a port, and to a path there. -/
structure Target where
  host : String
  port : UInt16
  path : String
  deriving DecidableEq, Repr

/-- The port unless the address names one. -/
def defaultPort : UInt16 := 80

/-- A character that is not written in a path as it is. -/
def isEscaped (c : Char) : Bool :=
  c.toNat ≤ 0x20 || 0x7F ≤ c.toNat || "\"<>`\x7b\x7d".toList.contains c

/-- A byte behind a percent sign. -/
def escapedByte (byte : UInt8) : List Char :=
  ['%', (Nat.digitChar (byte.toNat / 16)).toUpper, (Nat.digitChar (byte.toNat % 16)).toUpper]

/-- A path as it is written. -/
def escaped (path : List Char) : List Char :=
  path.flatMap fun c =>
    if isEscaped c then (String.singleton c).toUTF8.toList.flatMap escapedByte else [c]

/-- The path behind host and port, up to a fragment. -/
def pathOf (rest : List Char) : List Char :=
  match rest.takeWhile (· != '#') with
  | '/' :: path => '/' :: escaped path
  | path => '/' :: escaped path

/-- The target of an address that is plain HTTP. -/
def Target.ofUrl? (url : String) : Option Target :=
  match Url.fault? url, Url.splitScheme? (Url.significant url.toList) with
  | none, some (['h', 't', 't', 'p'], rest) =>
    let text := rest.dropWhile (Url.isSlash .network)
    let authority := Url.authority .network text
    let (host, port) := Url.splitPort false (Url.splitUser authority).2
    let number := match port with
      | some (c :: digits) => UInt16.ofNat (Text.valueOf 10 (c :: digits))
      | _ => defaultPort
    some ⟨String.ofList host, number, String.ofList (pathOf (text.drop authority.length))⟩
  | _, _ => none

/-- The host as it is looked up, without the brackets of a numeric one. -/
def Target.lookupName (target : Target) : String :=
  String.ofList (target.host.toList.filter fun c => c != '[' && c != ']')

/-- The head of a request and its body. -/
def Post.message (post : Post) (target : Target) : String :=
  String.intercalate "\r\n" [
    "POST " ++ target.path ++ " HTTP/1.1",
    "Host: " ++ target.host ++ ":" ++ Text.decimalText target.port.toNat,
    "Content-Type: application/json",
    "Content-Length: " ++ Text.decimalText post.body.utf8ByteSize,
    "Connection: close",
    "",
    post.body]

/-! ## Replies -/

/-- Splits off the lines up to the first empty one. -/
def splitHead (done : List UInt8) : List UInt8 → Option (List UInt8 × List UInt8)
  | 13 :: 10 :: 13 :: 10 :: rest => some (done.reverse, rest)
  | byte :: rest => splitHead (byte :: done) rest
  | [] => none

/-- Splits off the first line. -/
def splitLine (done : List UInt8) : List UInt8 → Option (List UInt8 × List UInt8)
  | 13 :: 10 :: rest => some (done.reverse, rest)
  | byte :: rest => splitLine (byte :: done) rest
  | [] => none

/-- The lines of a head. -/
def linesOf (done : List Char) : List UInt8 → List (List Char)
  | [] => [done.reverse]
  | 13 :: 10 :: rest => done.reverse :: linesOf [] rest
  | byte :: rest => linesOf (Char.ofNat byte.toNat :: done) rest

/-- The status in the first line of a head. -/
def statusOf? (line : List Char) : Option Nat :=
  match Text.words line with
  | version :: status :: _ =>
    if "HTTP/1.".toList.isPrefixOf version then Text.readDecimal? status else none
  | _ => none

/-- The value of a field of a head, in small letters. -/
def fieldValue? (name : String) (lines : List (List Char)) : Option (List Char) :=
  lines.findSome? fun line =>
    if (line.takeWhile (· != ':')).map Char.toLower = name.toList then
      some ((Text.trim (line.dropWhile (· != ':')).tail).map Char.toLower)
    else none

/-- Joins chunks, of which there are at most so many. -/
def joinChunks : Nat → List UInt8 → Option (List UInt8)
  | 0, _ => none
  | most + 1, bytes =>
    match splitLine [] bytes with
    | none => none
    | some (line, rest) =>
      let digits := (line.map fun byte => Char.ofNat byte.toNat).takeWhile Text.isHexDigit
      match Text.readHex? digits with
      | none => none
      | some 0 => some []
      | some size =>
        if rest.length < size + 2 then none
        else (joinChunks most (rest.drop (size + 2))).map (rest.take size ++ ·)

/-- The body behind a head, if it is whole. -/
def bodyOf? (fields : List (List Char)) (bytes : List UInt8) : Option (List UInt8) :=
  if fieldValue? "transfer-encoding" fields = some "chunked".toList then
    joinChunks bytes.length bytes
  else
    match (fieldValue? "content-length" fields).bind Text.readDecimal? with
    | some length => if bytes.length < length then none else some (bytes.take length)
    | none => some bytes

/-- The text of a body; if it is no text, its bytes beyond ASCII are replaced. -/
def textOf (body : List UInt8) : String :=
  match String.fromUTF8? ⟨body.toArray⟩ with
  | some text => text
  | none =>
    String.ofList (body.map fun byte =>
      if byte < 128 then Char.ofNat byte.toNat else Char.ofNat 0xFFFD)

/-- The reply that came as bytes. -/
def Reply.ofBytes (bytes : List UInt8) : Reply :=
  match splitHead [] bytes with
  | none => .unreachable "connection closed before message completed"
  | some (head, rest) =>
    match linesOf [] head with
    | [] => .unreachable "invalid HTTP version parsed"
    | first :: fields =>
      match statusOf? first with
      | none => .unreachable "invalid HTTP version parsed"
      | some status =>
        match bodyOf? fields rest with
        | some body => .complete status (textOf body)
        | none => .broken status "error decoding response body"

end TimedRelease.Http
