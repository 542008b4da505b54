import Backlog.Number.Literal
import Backlog.Redis.Reply
import Backlog.Text.Blank

/-!
The wire form of replies: a mark, a line, and for strings and collections what the line announces.
-/

namespace Backlog.Redis.Resp

/-- More bytes are needed, or none could help. -/
inductive Trouble where
  | incomplete
  | malformed
deriving DecidableEq, Repr

abbrev Decoder (α : Type) := List UInt8 → Except Trouble (α × List UInt8)

def splitLine? : List UInt8 → Option (List UInt8 × List UInt8)
  | [] => none
  | 13 :: 10 :: rest => some ([], rest)
  | b :: rest => (splitLine? rest).map fun p => (b :: p.1, p.2)

/-- Text up to the end of a line, which is a carriage return with a line feed. -/
def line : Decoder String := fun bytes =>
  match splitLine? bytes with
  | none => .error .incomplete
  | some (text, rest) =>
    match Utf8.decode? text with
    | none => .error .malformed
    | some s => .ok (s, rest)

/-- A line that has to be of a form. -/
def lineOf {α : Type} (read : List Char → Option α) : Decoder α := fun bytes => do
  let (s, rest) ← line bytes
  match read s.toList with
  | some a => return (a, rest)
  | none => throw .malformed

def signed (cs : List Char) : Option Int64 := Numeral.readSigned? (Text.trim cs)

def truth : List Char → Option Bool
  | ['t'] => some true
  | ['f'] => some false
  | _ => none

def lineEnd (bytes : List UInt8) : Except Trouble (List UInt8) :=
  match bytes with
  | 13 :: 10 :: rest => .ok rest
  | [13] => .error .incomplete
  | [] => .error .incomplete
  | _ => .error .malformed

/-- So many bytes and the end of a line. -/
def block (size : Nat) : Decoder (List UInt8) := fun bytes =>
  if bytes.length < size then .error .incomplete
  else do
    let rest ← lineEnd (bytes.drop size)
    return (bytes.take size, rest)

/-- A block of text whose size stands in a line of its own. -/
def textBlock : Decoder String := fun bytes => do
  let (size, rest) ← lineOf signed bytes
  if size < 0 then throw .malformed
  let (text, rest) ← block size.toInt.toNat rest
  match Utf8.decode? text with
  | some s => return (s, rest)
  | none => throw .malformed

def bulk : Decoder Reply := fun bytes => do
  let (size, rest) ← lineOf signed bytes
  if size < 0 then return (.nil, rest)
  let (text, rest) ← block size.toInt.toNat rest
  return (.bulk text, rest)

/-- A format and a text, with a colon between them. -/
def verbatim : Decoder Reply := fun bytes => do
  let (s, rest) ← textBlock bytes
  match s.toList.dropWhile (· != ':') with
  | [] => throw .malformed
  | _ :: text =>
    return (.verbatim (String.ofList (s.toList.takeWhile (· != ':'))) (String.ofList text), rest)

def simple : Decoder Reply := fun bytes => do
  let (s, rest) ← line bytes
  return (if s = "OK" then .okay else .simple s, rest)

/-- The same form so many times. -/
def times {α : Type} (item : Decoder α) : Nat → Decoder (List α)
  | 0, bytes => .ok ([], bytes)
  | n + 1, bytes => do
    let (a, rest) ← item bytes
    let (as, rest) ← times item n rest
    return (a :: as, rest)

def pair {α : Type} (item : Decoder α) : Decoder (α × α) := fun bytes => do
  let (a, rest) ← item bytes
  let (b, rest) ← item rest
  return ((a, b), rest)

/-- What follows the mark of a value without parts. -/
def scalar (mark : UInt8) : Decoder Reply := fun bytes =>
  if mark = '+'.toUInt8 then simple bytes
  else if mark = ':'.toUInt8 then (lineOf signed bytes).map fun p => (.int p.1, p.2)
  else if mark = '$'.toUInt8 then bulk bytes
  else if mark = '-'.toUInt8 then
    (line bytes).map fun p => (.error (.ofLine p.1.toList), p.2)
  else if mark = '_'.toUInt8 then (line bytes).map fun p => (.nil, p.2)
  else if mark = ','.toUInt8 then
    (lineOf (fun cs => Double.read? (Text.trim cs)) bytes).map fun p => (.double p.1, p.2)
  else if mark = '#'.toUInt8 then (lineOf truth bytes).map fun p => (.boolean p.1, p.2)
  else if mark = '!'.toUInt8 then
    (textBlock bytes).map fun p => (.error (.ofLine p.1.toList), p.2)
  else if mark = '='.toUInt8 then verbatim bytes
  else if mark = '('.toUInt8 then (lineOf Numeral.integer? bytes).map fun p => (.bigNumber p.1, p.2)
  else .error .malformed

/-- A collection of negative size is nil. -/
def collection (item : Decoder Reply) (make : List Reply → Reply) : Decoder Reply := fun bytes => do
  let (size, rest) ← lineOf signed bytes
  if size < 0 then return (.nil, rest)
  let (items, rest) ← times item size.toInt.toNat rest
  return (make items, rest)

def entries (item : Decoder Reply) : Decoder (List (Reply × Reply)) := fun bytes => do
  let (size, rest) ← lineOf signed bytes
  if size < 0 then throw .malformed
  times (pair item) size.toInt.toNat rest

/-- A value with at most so many collections inside one another. Attributes before a value are
dropped. -/
def value : Nat → Decoder Reply
  | _, [] => .error .incomplete
  | 0, mark :: bytes => scalar mark bytes
  | depth + 1, mark :: bytes =>
    if mark = '*'.toUInt8 then collection (value depth) .array bytes
    else if mark = '~'.toUInt8 then collection (value depth) .set bytes
    else if mark = '%'.toUInt8 then
      (entries (value depth) bytes).map fun p => (.map p.1, p.2)
    else if mark = '|'.toUInt8 then do
      let (_, rest) ← entries (value depth) bytes
      value depth rest
    else scalar mark bytes

def maxDepth : Nat := 100

/-- Messages that the server pushes on its own account are no replies. -/
def reply : Nat → List UInt8 → Except Trouble Reply
  | 0, _ => .error .incomplete
  | fuel + 1, bytes =>
    match bytes with
    | [] => .error .incomplete
    | mark :: rest =>
      if mark = '>'.toUInt8 then do
        let (_, rest) ← collection (value maxDepth) .array rest
        reply fuel rest
      else (value maxDepth (mark :: rest)).map Prod.fst

/-- The first reply in the bytes that answer a command. -/
def read (bytes : List UInt8) : Except Trouble Reply := reply (bytes.length + 1) bytes

end Backlog.Redis.Resp
