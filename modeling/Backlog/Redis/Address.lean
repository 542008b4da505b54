import Backlog.Config.Basic
import Backlog.Redis.Ipv6
import Backlog.Redis.Reply

/-!
Where to dial. The configured host and port are read together as the authority of a URL, so a host
text can also hold a user, a path, a query and more; the configured password and database win over
any in it.
-/

namespace Backlog.Redis

inductive Host where
  | name (text : String)
  | ipv6 (pieces : List Nat)
deriving DecidableEq, Repr

/-- The versions of the protocol. In the second a client logs in with AUTH, in the third with
HELLO. -/
inductive Protocol where
  | resp2
  | resp3
deriving DecidableEq, Repr

/-- How bytes reach a peer. -/
inductive Transport where
  | plain
  /-- Whether the peer's certificate is checked. -/
  | tls (verified : Bool)
deriving DecidableEq, Repr

structure Dial where
  host : Host
  port : UInt16
  tls : Bool
  /-- Whether the peer's certificate is checked. -/
  verified : Bool
  user : Option String
  password : Option String
  database : UInt32
  protocol : Protocol
deriving DecidableEq, Repr

def Dial.transport (d : Dial) : Transport := if d.tls then .tls d.verified else .plain

inductive AddressFault where
  | unreadable
  | noHost
  | badFragment
  | badDatabase
  | badUser
  | badPassword
  | badProtocol (value : String)
deriving DecidableEq, Repr

namespace AddressFault

def reason : AddressFault → String
  | unreadable => "Redis URL did not parse"
  | noHost => "Missing hostname"
  | badFragment => "only #insecure is supported as URL fragment"
  | badDatabase => "Invalid database number"
  | badUser => "Username is not valid UTF-8 string"
  | badPassword => "Password is not valid UTF-8 string"
  | badProtocol _ => "Invalid protocol version"

def detail? : AddressFault → Option String
  | badProtocol value => some value
  | _ => none

def message (f : AddressFault) : String :=
  "invalid address: " ++ ServerError.described f.reason "InvalidClientConfig" f.detail?

end AddressFault

namespace Address

/-- Tabs and line breaks count for nothing anywhere in a URL. -/
def isIgnored (c : Char) : Bool := c = '\t' || c = '\n' || c = '\r'

/-- What ends the authority. -/
def isDelimiter (c : Char) : Bool := c = '/' || c = '?' || c = '#'

/-- The user information, which ends at the last at sign of the authority, and what follows it. -/
def splitUserInfo (cs : List Char) : Option (List Char) × List Char :=
  let authority := cs.takeWhile fun c => !isDelimiter c
  let after := (authority.reverse.takeWhile (· != '@')).length
  if after = authority.length then (none, cs)
  else (some (authority.take (authority.length - after - 1)), cs.drop (authority.length - after))

/-- The text of a host, up to a colon outside brackets or the end of the authority. -/
def splitHost (inside : Bool) : List Char → List Char × List Char
  | [] => ([], [])
  | c :: cs =>
    if isDelimiter c || (c == ':' && !inside) then ([], c :: cs)
    else
      let p := splitHost (if c = '[' then true else if c = ']' then false else inside) cs
      (c :: p.1, p.2)

/-- A character that no host name holds. -/
def isForbidden (c : Char) : Bool :=
  ['\x00', '\t', '\n', '\r', ' ', '#', '/', ':', '<', '>', '?', '@', '[', '\\', ']', '^',
    '|'].contains c

def hexUpper (n : Nat) : Char := (Nat.digitChar n).toUpper

/-- Controls and characters beyond ASCII stand as bytes behind percent signs. -/
def percentEncoded (c : Char) : List Char :=
  if 32 ≤ c.toNat ∧ c.toNat < 127 then [c]
  else (String.utf8EncodeChar c).flatMap fun b =>
    ['%', hexUpper (b.toNat / 16), hexUpper (b.toNat % 16)]

def percentDecoded : List UInt8 → List UInt8
  | 37 :: a :: b :: rest =>
    match hexDigit? (Char.ofNat a.toNat), hexDigit? (Char.ofNat b.toNat) with
    | some x, some y => UInt8.ofNat (x * 16 + y) :: percentDecoded rest
    | _, _ => 37 :: percentDecoded (a :: b :: rest)
  | b :: rest => b :: percentDecoded rest
  | [] => []

/-- A host, or none if the text is empty. -/
def host? (cs : List Char) : Except AddressFault (Option Host) :=
  match cs with
  | [] => .ok none
  | '[' :: rest =>
    if rest.getLast? = some ']' then
      match Ipv6.read? rest.dropLast with
      | some pieces => .ok (some (.ipv6 pieces))
      | none => .error .unreadable
    else .error .unreadable
  | _ =>
    if cs.any isForbidden then .error .unreadable
    else .ok (some (.name (String.ofList (cs.flatMap percentEncoded))))

/-- The digits after a colon, if there are any, and what follows them. -/
def port? (cs : List Char) : Except AddressFault (Option Nat × List Char) :=
  match cs with
  | ':' :: rest =>
    let after := rest.dropWhile Char.isDigit
    if after.head?.any fun c => !(isDelimiter c || c == '\\') then .error .unreadable
    else
      match rest.takeWhile Char.isDigit with
      | [] => .ok (none, after)
      | ds =>
        match Numeral.scan 65535 0 ds with
        | .ok n => .ok (some n, after)
        | .error _ => .error .unreadable
  | _ => .ok (none, cs)

/-- A segment of a path with its leading dots written as dots. -/
def plainDots (segment : List Char) : List Char :=
  match segment with
  | '%' :: '2' :: c :: rest =>
    if c = 'e' ∨ c = 'E' then '.' :: plainDots rest else '%' :: '2' :: c :: rest
  | '.' :: rest => '.' :: plainDots rest
  | other => other

/-- The segments that count, the last one first. -/
def resolve (segments : List (List Char)) : List (List Char) :=
  segments.foldl (fun seen s =>
    if plainDots s = ['.'] then seen
    else if plainDots s = ['.', '.'] then seen.drop 1
    else s :: seen) []

def trimSlashes (cs : List Char) : List Char :=
  ((cs.dropWhile (· == '/')).reverse.dropWhile (· == '/')).reverse

/-- A path is empty or a database number, whatever slashes stand around it. -/
def pathFits (path : List Char) : Bool :=
  let text := trimSlashes (['/'].intercalate (resolve (path.splitOn '/')).reverse)
  text.isEmpty || (Numeral.readSigned? text).isSome

def fragment? (cs : List Char) : Option (List Char) :=
  match cs.dropWhile (· != '#') with
  | [] => none
  | _ :: fragment => some fragment

def decoded? (cs : List Char) : Option String :=
  Utf8.decode? (percentDecoded (Utf8.encode (String.ofList cs)))

/-- What stands behind the first question mark, up to a fragment. -/
def query (cs : List Char) : List Char :=
  ((cs.takeWhile (· != '#')).dropWhile (· != '?')).drop 1

/-- A name or a value in a query, in which a plus sign is a space. -/
def formText (cs : List Char) : String :=
  let spaced := cs.map fun c => if c = '+' then ' ' else c
  Utf8.decodeLenient (percentDecoded (Utf8.encode (String.ofList spaced)))

/-- The names and values of a query. -/
def pairs (query : List Char) : List (String × String) :=
  ((query.splitOn '&').filter (· != [])).map fun piece =>
    (formText (piece.takeWhile (· != '=')), formText ((piece.dropWhile (· != '=')).drop 1))

/-- The protocol that a query asks for; of several values the last one counts. -/
def protocol? (query : List Char) : Except AddressFault Protocol :=
  match (pairs query).reverse.lookup "protocol" with
  | none => .ok .resp2
  | some value =>
    if value = "2" ∨ value = "resp2" then .ok .resp2
    else if value = "3" ∨ value = "resp3" then .ok .resp3
    else .error (.badProtocol value)

/-- The authority and what follows it, read in the order user information, host, port. -/
structure Parts where
  user : List Char
  password : List Char
  host : Option Host
  port : Option Nat
  rest : List Char

def parts (cs : List Char) : Except AddressFault Parts := do
  let (info, rest) := splitUserInfo cs
  if info = some [] ∧ rest.head?.any isDelimiter then throw .unreadable
  let info := info.getD []
  let user := info.takeWhile (· != ':')
  let password := (info.dropWhile (· != ':')).drop 1
  let (text, rest) := splitHost false rest
  let host ← host? text
  if host = none ∧ rest.head? = some ':' then throw .unreadable
  let (port, rest) ← port? rest
  if host = none ∧ (user ≠ [] ∨ password ≠ []) then throw .unreadable
  return ⟨user, password, host, port, rest⟩

def defaultPort : Nat := 6379

/-- The faults after the first are looked for in the order host, fragment, path, user, password,
query. -/
def dial (c : StoreConfig) : Except AddressFault Dial := do
  let p ← parts (c.endpoint.toList.filter fun ch => !isIgnored ch)
  let some host := p.host | throw .noHost
  let fragment := fragment? p.rest
  if c.tls ∧ fragment.any (· != "insecure".toList) then throw .badFragment
  if !pathFits (p.rest.takeWhile fun ch => ch != '?' && ch != '#') then throw .badDatabase
  let user ← if p.user = [] then pure none else
    match decoded? p.user with
    | some u => pure (some u)
    | none => throw .badUser
  if (decoded? p.password).isNone then throw .badPassword
  let protocol ← protocol? (query p.rest)
  return {
    host := host
    port := UInt16.ofNat (p.port.getD defaultPort)
    tls := c.tls
    verified := fragment.isNone
    user := user
    password := c.password
    database := c.database
    protocol := protocol }

end Address

end Backlog.Redis
