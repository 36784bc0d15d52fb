import ObjectRelay.Delivery.Host
import ObjectRelay.Text.Blank
import ObjectRelay.Text.Quoted
/-!
# Endpoints

An endpoint is written as a web address.  Reading it follows the rules of browsers, not
those of files: blanks at the ends and line ends anywhere do not count, a backslash is a
slash, and dots in the path are worked out before anything is sent.
-/
namespace ObjectRelay

inductive EndpointFault where
  | relative
  | host (fault : HostFault)
  /-- What follows the host's colon is no number of 16 bits. -/
  | number
  /-- The address is fine, but batches cannot be posted to it. -/
  | unsupportedScheme (scheme : String)
deriving DecidableEq, Repr

def EndpointFault.message : EndpointFault → String
  | relative => "relative URL without a base"
  | host fault => fault.message
  | number => "invalid port number"
  | unsupportedScheme scheme => "unsupported scheme " ++ scheme

structure UserInfo where
  name : List Char := []
  password : List Char := []
deriving DecidableEq, Repr

structure Endpoint where
  scheme : String
  user : UserInfo
  /-- The host, and the number behind its colon, as they are written. -/
  authority : String
  /-- The path, encoded; it begins with a slash. -/
  path : List UInt8
  /-- The query, encoded. -/
  query : List UInt8
deriving DecidableEq

namespace Endpoint

/-- The text without blanks at its ends and line ends within. -/
def cleaned (s : String) : List Char :=
  (trimBy (· ≤ ' ') s.toList).filter fun c => c != '\t' && c != '\n' && c != '\r'

/-- The scheme in lower case and what follows its colon. -/
def cutScheme? (s : List Char) : Option (String × List Char) :=
  let scheme := s.takeWhile fun c => c.isAlphanum || c == '+' || c == '-' || c == '.'
  if !s.head?.any Char.isAlpha then none
  else match s.drop scheme.length with
    | ':' :: rest => some (String.ofList (scheme.map Char.toLower), rest)
    | _ => none

/-! ## Authorities -/

/-- What comes before the last `@` of an authority, if it has one, and what comes after. -/
def cutUser (authority : List Char) : Option (List Char) × List Char :=
  let host := (authority.reverse.takeWhile (· != '@')).reverse
  if host.length == authority.length then (none, host)
  else (some (authority.take (authority.length - host.length - 1)), host)

/-- The name and the password, parted by the first colon. -/
def userInfo (written : List Char) : UserInfo where
  name := written.takeWhile (· != ':')
  password := (written.dropWhile (· != ':')).drop 1

def isAnonymous (user : UserInfo) : Bool := user.name.isEmpty && user.password.isEmpty

/-- The host, which ends at the first colon outside brackets, and the rest. -/
def cutHost (isInside : Bool) : List Char → List Char × List Char
  | [] => ([], [])
  | c :: rest =>
    if c == ':' && !isInside then ([], c :: rest)
    else
      let (host, after) := cutHost (c == '[' || (isInside && c != ']')) rest
      (c :: host, after)

/-- Whether these can follow the colon behind a host: a number of 16 bits, or nothing. -/
def isHostNumber (digits : List Char) : Bool :=
  digits.all Char.isDigit && ((String.ofList digits).toNat?.getD 0) < UInt16.size

/-- Checks what follows the host. -/
def checkHostNumber : List Char → Except EndpointFault Unit
  | ':' :: digits =>
    if isHostNumber (digits.takeWhile (· != '\\')) then .ok () else .error .number
  | _ => .ok ()

/-- Checks the authority of an address whose host is looked up. -/
def checkAuthority (host rest : List Char) : Except EndpointFault Unit :=
  if host.isEmpty then .error (.host .empty)
  else do
    (Host.check host).mapError .host
    checkHostNumber rest

/-- Checks the authority of an address of another kind: it may be empty, unless a user
or a number is given. -/
def checkOpaqueAuthority (user? : Option (List Char)) (host rest : List Char) (isLast : Bool) :
    Except EndpointFault Unit :=
  let user := userInfo (user?.getD [])
  if user? == some [] && host.isEmpty && rest.isEmpty && !isLast then .error (.host .empty)
  else do
    (Host.checkOpaque host).mapError .host
    if host.isEmpty && (!rest.isEmpty || !isAnonymous user) then .error (.host .empty)
    else checkHostNumber rest

/-! ## Paths and queries -/

def isQueryByte (b : UInt8) : Bool :=
  0x20 < b && b < 0x7F && !([0x22, 0x23, 0x27, 0x3C, 0x3E].contains b)

def isPathByte (b : UInt8) : Bool :=
  0x20 < b && b < 0x7F && !([0x22, 0x23, 0x3C, 0x3E, 0x3F, 0x60, 0x7B, 0x7D].contains b)

/-- How many dots a segment stands for, `none` for any other segment. -/
def dots? : List Char → Option Nat
  | [] => some 0
  | '.' :: rest => (dots? rest).map (· + 1)
  | '%' :: '2' :: 'e' :: rest | '%' :: '2' :: 'E' :: rest => (dots? rest).map (· + 1)
  | _ => none

/-- The segments of a path with the dots worked out, `above` being those before, last
first. -/
def resolveDots (above : List (List Char)) : List (List Char) → List (List Char)
  | [] => above.reverse
  | segment :: rest =>
    let isLast := rest.isEmpty
    match dots? segment with
    | some 1 => resolveDots (if isLast then [] :: above else above) rest
    | some 2 => resolveDots (if isLast then [] :: above.tail else above.tail) rest
    | _ => resolveDots (segment :: above) rest

def pathOf (written : List Char) : List UInt8 :=
  let slashed := written.map fun c => if c == '\\' then '/' else c
  let segments := resolveDots [] (piecesBy '/' (slashed.drop 1))
  segments.flatMap fun s => 0x2F :: Percent.encode isPathByte (Utf8.encodeChars s)

/-! ## Reading -/

/-- Whether the host of an address with the scheme is looked up. -/
def isWebScheme (scheme : String) : Bool := ["http", "https", "ws", "wss", "ftp"].contains scheme

/-- Reads an address behind the slashes of a web scheme. -/
def readWeb (scheme : String) (s : List Char) : Except EndpointFault Endpoint :=
  let s := s.dropWhile fun c => c == '/' || c == '\\'
  let isEnd (c : Char) : Bool := c == '/' || c == '\\' || c == '?' || c == '#'
  let authority := s.takeWhile (!isEnd ·)
  let rest := (s.drop authority.length).takeWhile (· != '#')
  let (user?, place) := cutUser authority
  let (host, number) := cutHost false place
  let path := rest.takeWhile (· != '?')
  do
    checkAuthority host number
    if scheme != "http" && scheme != "https" then .error (.unsupportedScheme scheme)
    else return {
      scheme
      user := userInfo (user?.getD [])
      authority := String.ofList place
      path := pathOf path
      query := Percent.encode isQueryByte (Utf8.encodeChars ((rest.drop path.length).drop 1)) }

/-- Reads an address of any other scheme, which is no endpoint for one reason or another. -/
def refuseOther (scheme : String) (s : List Char) : EndpointFault :=
  match s with
  | '/' :: '/' :: s =>
    let authority := s.takeWhile fun c => c != '/' && c != '?' && c != '#'
    let (user?, place) := cutUser authority
    let (host, number) := cutHost false place
    match checkOpaqueAuthority user? host number (s.length == authority.length) with
    | .error fault => fault
    | .ok () => .unsupportedScheme scheme
  | _ => .unsupportedScheme scheme

/-- Reads an address of the file scheme, whose host may be left out. -/
def refuseFile (s : List Char) : EndpointFault :=
  match s.map fun c => if c == '\\' then '/' else c with
  | '/' :: '/' :: s =>
    let host := s.takeWhile fun c => c != '/' && c != '?' && c != '#'
    let isDrive := match host with
      | [letter, mark] => letter.isAlpha && (mark == ':' || mark == '|')
      | _ => false
    if host.isEmpty || isDrive then .unsupportedScheme "file"
    else match Host.check host with
      | .error fault => .host fault
      | .ok () => .unsupportedScheme "file"
  | _ => .unsupportedScheme "file"

def parse (s : String) : Except EndpointFault Endpoint :=
  match cutScheme? (cleaned s) with
  | none => .error .relative
  | some (scheme, rest) =>
    if isWebScheme scheme then readWeb scheme rest
    else if scheme == "file" then .error (refuseFile rest)
    else .error (refuseOther scheme rest)

/-! ## Targets -/

/-- The target of a request: the path, the query of the endpoint, and what is posted. -/
def target (e : Endpoint) (contentType key : String) : List UInt8 :=
  let given := if e.query.isEmpty then [] else e.query ++ [0x26]
  e.path ++ 0x3F :: given ++ Utf8.encode "content-type=" ++ Percent.formEncode contentType ++
    Utf8.encode "&key=" ++ Percent.formEncode key

end Endpoint

end ObjectRelay
