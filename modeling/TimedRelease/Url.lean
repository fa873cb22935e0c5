import TimedRelease.Text.Numeral

/-!
# Addresses on the web

Whether a text is an absolute URL, and if it is none, the first thing that is
wrong with it.  White space around the text, and tabs and ends of lines inside it,
do not count.  What follows host and port is never wrong.
-/

namespace TimedRelease

/-- Why a text is no absolute URL. -/
inductive UrlFault where
  | noScheme
  | emptyHost
  | invalidPort
  /-- The host holds a character that no name of a host holds. -/
  | invalidName
  /-- The host of a scheme without rules of its own holds a delimiter. -/
  | invalidCharacter
  | invalidIpv4
  | invalidIpv6
  deriving DecidableEq, Repr

/-- The wording of a fault. -/
def UrlFault.message : UrlFault → String
  | .noScheme => "relative URL without a base"
  | .emptyHost => "empty host"
  | .invalidPort => "invalid port number"
  | .invalidName => "invalid international domain name"
  | .invalidCharacter => "invalid domain character"
  | .invalidIpv4 => "invalid IPv4 address"
  | .invalidIpv6 => "invalid IPv6 address"

namespace Url

/-- A character that does not count at the ends of the text. -/
def isPadding (c : Char) : Bool := c.toNat ≤ 0x20

/-- A character that does not count anywhere. -/
def isIgnored (c : Char) : Bool := c = '\t' || c = '\n' || c = '\r'

/-- The characters that count. -/
def significant (text : List Char) : List Char :=
  let trimmed := ((text.dropWhile isPadding).reverse.dropWhile isPadding).reverse
  trimmed.filter fun c => !isIgnored c

/-- A character of the name of a scheme after its first. -/
def isSchemeChar (c : Char) : Bool :=
  c.isAlphanum || c = '+' || c = '-' || c = '.'

/-- Splits off the scheme, in small letters. -/
def splitScheme? : List Char → Option (List Char × List Char)
  | [] => none
  | c :: rest =>
    if c.isAlpha then
      match rest.dropWhile isSchemeChar with
      | ':' :: after => some ((c :: rest.takeWhile isSchemeChar).map Char.toLower, after)
      | _ => none
    else none

/-- The kinds of schemes, which differ in their rules for hosts. -/
inductive SchemeKind where
  /-- Schemes that need a host. -/
  | network
  | file
  | other
  deriving DecidableEq, Repr

/-- The schemes that need a host. -/
def networkSchemes : List String := ["http", "https", "ws", "wss", "ftp"]

/-- The kind of a scheme. -/
def kindOf (scheme : List Char) : SchemeKind :=
  let name := String.ofList scheme
  if networkSchemes.contains name then .network else if name = "file" then .file else .other

/-- A slash, in either direction where the scheme takes both for one. -/
def isSlash (kind : SchemeKind) (c : Char) : Bool :=
  c = '/' || (c = '\\' && kind != .other)

/-- A character that ends the part of host and port. -/
def endsAuthority (kind : SchemeKind) (c : Char) : Bool :=
  isSlash kind c || c = '?' || c = '#'

/-! ## Numeric hosts -/

/-- The number that a part of a numeric host stands for, in base eight, ten or sixteen. -/
def partValue? : List Char → Option Nat
  | [] => none
  | '0' :: 'x' :: digits | '0' :: 'X' :: digits =>
    if digits.all Text.isHexDigit then some (Text.valueOf 16 digits) else none
  | '0' :: c :: rest =>
    if (c :: rest).all (fun c => '0' ≤ c && c ≤ '7') then some (Text.valueOf 8 (c :: rest))
    else none
  | digits => if digits.all Text.isDecimalDigit then some (Text.valueOf 10 digits) else none

/-- The parts of a host between points, without an empty one at its end. -/
def hostParts (host : List Char) : List (List Char) :=
  let parts := host.splitOn '.'
  if parts.getLast? = some [] then parts.dropLast else parts

/-- The last part of the host is a number, so that the host has to be an address. -/
def endsInNumber (host : List Char) : Bool :=
  match (hostParts host).getLast? with
  | none => false
  | some part => (!part.isEmpty && part.all Text.isDecimalDigit) || (partValue? part).isSome

/-- Numbers are the parts of an address: each but the last is one byte. -/
def isAddress (numbers : List Nat) : Bool :=
  match numbers.getLast? with
  | none => false
  | some last =>
    numbers.length ≤ 4 && last < Nat.pow 256 (5 - numbers.length) && numbers.dropLast.all (· < 256)

/-- The host is an address of four bytes. -/
def isIpv4 (host : List Char) : Bool :=
  match (hostParts host).mapM partValue? with
  | some numbers => isAddress numbers
  | none => false

/-- A number of one byte in base ten, without leading zeros. -/
def isByte (digits : List Char) : Bool :=
  match Text.readDecimal? digits with
  | some n => n < 256 && digits = Text.decimal n
  | none => false

/-- Four bytes with points between them. -/
def isDottedQuad (text : List Char) : Bool :=
  let parts := text.splitOn '.'
  parts.length == 4 && parts.all isByte

/-- A piece of an address of sixteen bytes. -/
def isPiece (piece : List Char) : Bool :=
  Text.isHexNumeral piece && piece.length ≤ 4

/-- How many pieces a list stands for, if each is one; four bytes with points may
stand for the last two. -/
def pieceCount? (quadAllowed : Bool) : List (List Char) → Option Nat
  | [] => some 0
  | [last] =>
    if isPiece last then some 1 else if quadAllowed && isDottedQuad last then some 2 else none
  | piece :: rest =>
    if isPiece piece then (pieceCount? quadAllowed rest).map (· + 1) else none

/-- The pieces between colons. -/
def pieces (text : List Char) : List (List Char) :=
  if text.isEmpty then [] else text.splitOn ':'

/-- The text around the first pair of colons, if there is one. -/
def splitPair? : List Char → Option (List Char × List Char)
  | ':' :: ':' :: rest => some ([], rest)
  | c :: rest => (splitPair? rest).map fun (before, after) => (c :: before, after)
  | [] => none

/-- The text is an address of sixteen bytes. -/
def isIpv6 (text : List Char) : Bool :=
  match splitPair? text with
  | none => pieceCount? true (pieces text) == some 8
  | some (before, after) =>
    match pieceCount? false (pieces before), pieceCount? true (pieces after) with
    | some left, some right => left + right ≤ 7
    | _, _ => false

/-- What is wrong with a host between brackets. -/
def bracketFault? (host : List Char) : Option UrlFault :=
  if host.getLast? = some ']' && isIpv6 (host.drop 1).dropLast then none
  else some .invalidIpv6

/-! ## Named hosts -/

/-- The bytes of a text, a percent sign and two digits standing for one byte. -/
def percentDecoded : List Char → List UInt8
  | '%' :: high :: low :: rest =>
    if Text.isHexDigit high && Text.isHexDigit low then
      UInt8.ofNat (16 * Text.digitValue high + Text.digitValue low) :: percentDecoded rest
    else 0x25 :: percentDecoded (high :: low :: rest)
  | c :: rest => (String.singleton c).toUTF8.toList ++ percentDecoded rest
  | [] => []

/-- A character that no name of a host holds. -/
def isDenied (c : Char) : Bool :=
  c.toNat ≤ 0x20 || c.toNat = 0x7F || "%#/:<>?@[\\]^|".toList.contains c

/-- What is wrong with the name of a host. -/
def nameFault? (name : List Char) : Option UrlFault :=
  if name.any isDenied then some .invalidName
  else if name.isEmpty then some .emptyHost
  else if endsInNumber name && !isIpv4 name then some .invalidIpv4
  else none

/-- What is wrong with a host of a scheme with rules of its own. -/
def hostFault? (host : List Char) : Option UrlFault :=
  match host with
  | '[' :: _ => bracketFault? host
  | _ =>
    match String.fromUTF8? ⟨(percentDecoded host).toArray⟩ with
    | some name => nameFault? name.toList
    | none => some .invalidName

/-- A delimiter, which no host holds under any scheme. -/
def isDelimiter (c : Char) : Bool :=
  c.toNat = 0 || c = ' ' || "#/:<>?@[\\]^|".toList.contains c

/-- What is wrong with a host of any other scheme. -/
def opaqueFault? (host : List Char) : Option UrlFault :=
  match host with
  | '[' :: _ => bracketFault? host
  | _ => if host.any isDelimiter then some .invalidCharacter else none

/-! ## Authorities -/

/-- The part of the text up to the path: user, host and port. -/
def authority (kind : SchemeKind) (text : List Char) : List Char :=
  text.takeWhile fun c => !endsAuthority kind c

/-- Splits what names the user, up to the last sign `@`, off host and port. -/
def splitUser (text : List Char) : Option (List Char) × List Char :=
  match text.reverse.dropWhile (· != '@') with
  | [] => (none, text)
  | _ :: user => (some user.reverse, (text.reverse.takeWhile (· != '@')).reverse)

/-- Splits the host off a port: the first colon outside of brackets divides them. -/
def splitPort (inBrackets : Bool) : List Char → List Char × Option (List Char)
  | [] => ([], none)
  | c :: rest =>
    if c = ':' && !inBrackets then ([], some rest)
    else
      let (host, port) := splitPort (if c = '[' then true else inBrackets && c != ']') rest
      (c :: host, port)

/-- What is wrong with a port. -/
def portFault? (port : List Char) : Option UrlFault :=
  if port.all Text.isDecimalDigit && Text.valueOf 10 port < 65536 then none
  else some .invalidPort

/-- A user is named, or a password given. -/
def namesUser (user : List Char) : Bool :=
  match user with
  | [] => false
  | ':' :: password => !password.isEmpty
  | _ => true

/-- What is wrong with host and port under a scheme that needs a host. -/
def networkFault? (text : List Char) : Option UrlFault :=
  let (host, port) := splitPort false (splitUser text).2
  if host.isEmpty then some .emptyHost
  else
    match hostFault? host with
    | some fault => some fault
    | none => port.bind portFault?

/-- What is wrong with host and port under any other scheme, where the host may be empty. -/
def otherFault? (text : List Char) : Option UrlFault :=
  let (user, rest) := splitUser text
  let (host, port) := splitPort false rest
  if host.isEmpty && (port.isSome || (user.any fun user => user.isEmpty && rest.isEmpty) ||
      user.any namesUser) then some .emptyHost
  else
    match opaqueFault? host with
    | some fault => some fault
    | none => port.bind portFault?

/-- The letter of a drive, as it may stand in place of a host. -/
def isDrive : List Char → Bool
  | [letter, mark] => letter.isAlpha && (mark = ':' || mark = '|')
  | _ => false

/-- What is wrong with what follows the scheme of files. -/
def fileFault? : List Char → Option UrlFault
  | first :: second :: rest =>
    if isSlash .file first && isSlash .file second then
      let host := authority .file rest
      if host.isEmpty || isDrive host then none else hostFault? host
    else none
  | _ => none

/-- What is wrong with what follows a scheme. -/
def restFault? (kind : SchemeKind) (text : List Char) : Option UrlFault :=
  match kind with
  | .network => networkFault? (authority .network (text.dropWhile (isSlash .network)))
  | .file => fileFault? text
  | .other =>
    match text with
    | '/' :: '/' :: rest => otherFault? (authority .other rest)
    | _ => none

/-- What is wrong with a text that has to be an absolute URL. -/
def fault? (text : String) : Option UrlFault :=
  match splitScheme? (significant text.toList) with
  | none => some .noScheme
  | some (scheme, rest) => restFault? (kindOf scheme) rest

end Url

end TimedRelease
