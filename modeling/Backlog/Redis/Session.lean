import Backlog.Invocation
import Backlog.Redis.Address
import Backlog.Redis.Link

/-!
A session with a Redis server: dial, log in, choose the database, check that the server is alive,
and then ask for lengths in rounds.
-/

namespace Backlog.Redis

/-- Why no bytes can be exchanged with a peer. -/
inductive TransportFault where
  | unreachable
  | noHandshake
deriving DecidableEq, Repr

def TransportFault.message : TransportFault → String
  | unreachable => "Connection refused (os error 111)"
  | noHandshake => "tls handshake eof"

/-- Who is met where, over which transport. -/
abbrev Network := Host → UInt16 → Transport → Except TransportFault Peer

inductive ConnectFault where
  | address (cause : AddressFault)
  | transport (cause : TransportFault)
  | link (cause : Refusal)
  | notGreeted (cause : ServerError)
  | notAuthenticated
  | notAccepted
  | notSelected (detail : Option String)
  | notAlive (cause : Refusal)

namespace ConnectFault

/-- A server from before the third protocol does not know the command. -/
def greetingMessage (e : ServerError) : String :=
  if "unknown command `HELLO`".toList.isPrefixOf (e.detail.getD "").toList then
    "Redis Server doesn't support HELLO command therefore resp3 cannot be used" ++
      "- RESP3NotSupported"
  else e.message

def message : ConnectFault → String
  | address cause => cause.message
  | transport cause => cause.message
  | link cause => cause.message
  | notGreeted cause => greetingMessage cause
  | notAuthenticated => "Password authentication failed- AuthenticationFailed"
  | notAccepted =>
    "Redis server refused to authenticate, returns Ok() != Value::Okay- ResponseError"
  | notSelected detail =>
    ServerError.described "Redis server refused to switch database" "ResponseError" detail
  | notAlive cause => "PING failed: " ++ cause.message

end ConnectFault

/-- A peer and the link to it. -/
structure Session where
  peer : Peer
  link : Link

/-- A session that did not come about, and what the peer had received by then. -/
structure Unopened where
  fault : ConnectFault
  received : List Command

namespace Session

def exchange (s : Session) (cs : List Command) : List Outcome × Session :=
  let (os, link) := s.link.exchange s.peer cs
  (os, { s with link := link })

def abandon (s : Session) (f : ConnectFault) : Except Unopened Session :=
  .error ⟨f, s.link.received⟩

/-- The choice of the database, if it is not the first. -/
def selection (database : UInt32) : List Command :=
  if database = 0 then [] else [.select database]

/-- What the client says of itself. -/
def introduction : List Command := [.setInfo "LIB-NAME", .setInfo "LIB-VER"]

/-- How to log in. In the second protocol that is left out if there is no password. -/
def loginCommand? (d : Dial) (user : Option String) : Option Command :=
  match d.protocol with
  | .resp2 => d.password.map (.auth user)
  | .resp3 => some (.hello (d.password.map fun password => (user.getD "default", password)))

def loginCommands (d : Dial) (user : Option String) : List Command :=
  (loginCommand? d user).toList ++ (selection d.database ++ introduction)

/-- All replies, or the first that did not come. -/
def replies : List Outcome → Except ConnectFault (List Reply)
  | [] => .ok []
  | .ok r :: rest => (replies rest).map (r :: ·)
  | .error cause :: _ => .error (.link cause)

inductive Verdict where
  | passed
  | withoutUser
  | failed (cause : ConnectFault)

/-- Whether a phrase stands somewhere in a text. -/
def mentions (phrase : List Char) : List Char → Bool
  | [] => phrase.isEmpty
  | c :: cs => phrase.isPrefixOf (c :: cs) || mentions phrase cs

/-- A server from before there were users complains about the number of arguments. -/
def isArityComplaint (e : ServerError) : Bool :=
  mentions "wrong number of arguments for 'auth' command".toList (e.detail.getD "").toList

/-- Any answer but an error will do for the choice of the database, and any at all for what the
client says of itself. -/
def judgeSelect (database : UInt32) : List Reply → Verdict
  | .error e :: _ => if database = 0 then .passed else .failed (.notSelected e.detail)
  | _ => .passed

/-- The answer to AUTH is judged first, and only if it passes the others. -/
def judgeAuth (database : UInt32) : List Reply → Verdict
  | [] => .passed
  | .okay :: rs => judgeSelect database rs
  | .error e :: _ => if isArityComplaint e then .withoutUser else .failed .notAuthenticated
  | _ :: _ => .failed .notAccepted

/-- Any answer to HELLO but an error will do. -/
def judgeHello (database : UInt32) : List Reply → Verdict
  | [] => .passed
  | .error e :: _ => .failed (.notGreeted e)
  | _ :: rs => judgeSelect database rs

def judge (d : Dial) (rs : List Reply) : Verdict :=
  match d.protocol, d.password with
  | .resp2, none => judgeSelect d.database rs
  | .resp2, some _ => judgeAuth d.database rs
  | .resp3, _ => judgeHello d.database rs

/-- A second complaint about the number of arguments is let pass. -/
def loginWithoutUser (s : Session) (d : Dial) : Except Unopened Session :=
  let (os, s) := s.exchange (loginCommands d none)
  match replies os with
  | .error f => s.abandon f
  | .ok rs =>
    match judge d rs with
    | .failed f => s.abandon f
    | .passed => .ok s
    | .withoutUser => .ok s

def login (s : Session) (d : Dial) : Except Unopened Session :=
  let (os, s) := s.exchange (loginCommands d d.user)
  match replies os with
  | .error f => s.abandon f
  | .ok rs =>
    match judge d rs with
    | .failed f => s.abandon f
    | .passed => .ok s
    | .withoutUser => s.loginWithoutUser d

/-- The first outcome of an exchange, as a text. -/
def aliveText : List Outcome → Except Refusal String
  | [] => .error .closed
  | .error cause :: _ => .error cause
  | .ok r :: _ => r.toText

def checkAlive (s : Session) : Except Unopened Session :=
  let (os, s) := s.exchange [.ping]
  match aliveText os with
  | .ok _ => .ok s
  | .error cause => s.abandon (.notAlive cause)

def handshake (s : Session) (d : Dial) : Except Unopened Session := do
  let s ← s.login d
  s.checkAlive

/-- The handshake is the same over every transport. -/
def connect (net : Network) (c : StoreConfig) : Except Unopened Session :=
  match Address.dial c with
  | .error cause => .error ⟨.address cause, []⟩
  | .ok d =>
    match net d.host d.port d.transport with
    | .error cause => .error ⟨.transport cause, []⟩
    | .ok peer => handshake ⟨peer, .fresh⟩ d

def toLength (key : String) : Outcome → Except Fault UInt64
  | .error cause => .error (.read key cause.message)
  | .ok r =>
    match r.toLength with
    | .ok n => .ok n
    | .error cause => .error (.read key cause.message)

/-- One round of questions, which comes back as a whole. -/
def lengths (s : Session) (keys : List String) : List (Except Fault UInt64) × Session :=
  let (os, s) := s.exchange (keys.map .llen)
  (List.zipWith toLength keys os, s)

/-- Answers that are there at the next wake. -/
def timed (results : List (Except Fault UInt64)) : List (Timed (Except Fault UInt64)) :=
  results.map fun r => ⟨some 0, r⟩

def readAll (s : Session) (queues : List Queue) (clock : Clock) :
    Joined Fault Reading × Session :=
  let (results, s) := s.lengths (queues.map Queue.key)
  (Invocation.readAll queues (timed results) clock, s)

def readRounds (queues : List Queue) (clock : Clock) :
    Nat → Session → List (Joined Fault Reading) × Session
  | 0, s => ([], s)
  | n + 1, s =>
    let (joined, s) := s.readAll queues clock
    let (rest, s) := readRounds queues clock n s
    (joined :: rest, s)

end Session

def connectFault (c : StoreConfig) (f : ConnectFault) : Fault :=
  .connection c.endpoint f.message

/-- The visit to a server that answered, one round of it, and the commands that reached it. -/
def openVisit (s : Session) (keys : List String) : Visit × List Command :=
  let (results, s) := s.lengths keys
  ({ connect := ⟨some 0, .ok ()⟩
     read := fun i key => ⟨some 0, results.getD i (.error (.read key Refusal.closed.message))⟩
     disconnect := none }, s.link.received)

/-- The visit with what is noted of its connection. -/
def remarked (c : StoreConfig) (visit : Visit) : Visit :=
  { visit with
    opened := [.opened c.endpoint c.database c.tls]
    closed := fun held => [.closed c.endpoint held] }

def closedVisit (fault : Fault) : Visit where
  connect := ⟨some 0, .error fault⟩
  read _ _ := ⟨some 0, .error fault⟩
  disconnect := none

def visit (net : Network) (c : Config) : Visit × List Command :=
  match Session.connect net c.store with
  | .error u => (closedVisit (connectFault c.store u.fault), u.received)
  | .ok s =>
    let (visit, received) := openVisit s (c.queues.map Queue.key)
    (remarked c.store visit, received)

def store (net : Network) : Store := fun c => (visit net c).1

end Backlog.Redis
