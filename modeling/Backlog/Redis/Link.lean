import Backlog.Redis.Conversion

/-!
A link to a peer: commands go out in batches, and each is answered in turn until the peer hangs up
or one of its answers cannot be read.
-/

namespace Backlog.Redis

inductive Command where
  | auth (user : Option String) (password : String)
  /-- A login of the third protocol, with a user and a password if there is one. -/
  | hello (login : Option (String × String))
  | select (database : UInt32)
  /-- What the client says of itself, apart from the value. -/
  | setInfo (item : String)
  | ping
  | llen (key : String)
deriving DecidableEq, Repr

namespace Command

def words : Command → List String
  | auth none password => ["AUTH", password]
  | auth (some user) password => ["AUTH", user, password]
  | hello none => ["HELLO", "3"]
  | hello (some (user, password)) => ["HELLO", "3", "AUTH", user, password]
  | select database => ["SELECT", Numeral.text database.toNat]
  | setInfo item => ["CLIENT", "SETINFO", item]
  | ping => ["PING"]
  | llen key => ["LLEN", key]

/-- Commands of one kind are answered from one list of turns; lengths have one for each key. -/
def sameKind : Command → Command → Bool
  | auth .., auth .. => true
  | hello _, hello _ => true
  | select _, select _ => true
  | setInfo _, setInfo _ => true
  | ping, ping => true
  | llen a, llen b => a = b
  | _, _ => false

end Command

/-- What a peer does when a command reaches it. -/
inductive Turn where
  | answer (bytes : List UInt8)
  | hangUp
deriving DecidableEq, Repr

/-- A peer by the turns it takes, counted from zero for each kind of command. -/
structure Peer where
  auth : Nat → Turn
  hello : Nat → Turn
  select : Nat → Turn
  setInfo : Nat → Turn
  ping : Nat → Turn
  llen : String → Nat → Turn

/-- What a peer does with a command after those received before. -/
def Peer.turn (p : Peer) (received : List Command) (c : Command) : Turn :=
  let n := received.countP c.sameKind
  match c with
  | .auth .. => p.auth n
  | .hello _ => p.hello n
  | .select _ => p.select n
  | .setInfo _ => p.setInfo n
  | .ping => p.ping n
  | .llen key => p.llen key n

/-- One end of a conversation: what the peer has received, whether it still listens, and whether its
answers can still be read. -/
structure Link where
  received : List Command
  listening : Bool
  legible : Bool
deriving DecidableEq, Repr

abbrev Outcome := Except Refusal Reply

namespace Link

def fresh : Link := ⟨[], true, true⟩

def send (p : Peer) (l : Link) (c : Command) : Outcome × Link :=
  if !l.listening then (.error .closed, l)
  else
    let heard := { l with received := l.received ++ [c] }
    match p.turn l.received c with
    | .hangUp => (.error .closed, { heard with listening := false })
    | .answer bytes =>
      if !l.legible then (.error .closed, heard)
      else
        match Resp.read bytes with
        | .ok reply => (.ok reply, heard)
        | .error .malformed => (.error .garbled, { heard with legible := false })
        | .error .incomplete => (.error .closed, { heard with legible := false })

def sendEach (p : Peer) : Link → List Command → List Outcome × Link
  | l, [] => ([], l)
  | l, c :: cs =>
    let (o, l) := send p l c
    let (os, l) := sendEach p l cs
    (o :: os, l)

/-- All commands go out before an answer is looked at; a link that has become illegible is closed
after that. -/
def exchange (p : Peer) (l : Link) (cs : List Command) : List Outcome × Link :=
  let (os, l) := sendEach p l cs
  (os, { l with listening := l.listening && l.legible })

end Link

end Backlog.Redis
