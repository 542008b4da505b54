import Backlog.Json.Basic
import Backlog.Number.Hex
import Backlog.Text.Utf8

/-!
JSON texts as values. Every refusal has a cause and a place, counted in lines and in bytes of the
line up to and with the byte that was one too many.
-/

namespace Backlog.Json

inductive Cause where
  | endInValue
  | endInList
  | endInObject
  | endInString
  | noColon
  | noListSeparator
  | noObjectSeparator
  | noWord
  | noValue
  | badEscape
  | badNumber
  | rawControl
  | noKey
  | loneSurrogate
  | brokenPair
  | trailingComma
  | trailingText
  | tooDeep
deriving DecidableEq, Repr

namespace Cause

def message : Cause → String
  | endInValue => "EOF while parsing a value"
  | endInList => "EOF while parsing a list"
  | endInObject => "EOF while parsing an object"
  | endInString => "EOF while parsing a string"
  | noColon => "expected \x60:\x60"
  | noListSeparator => "expected \x60,\x60 or \x60]\x60"
  | noObjectSeparator => "expected \x60,\x60 or \x60\x7d\x60"
  | noWord => "expected ident"
  | noValue => "expected value"
  | badEscape => "invalid escape"
  | badNumber => "invalid number"
  | rawControl => "control character (\\u0000-\\u001F) found while parsing a string"
  | noKey => "key must be a string"
  | loneSurrogate => "lone leading surrogate in hex escape"
  | brokenPair => "unexpected end of hex escape"
  | trailingComma => "trailing comma"
  | trailingText => "trailing characters"
  | tooDeep => "recursion limit exceeded"

end Cause

/-- Where a reader stopped, as the number of bytes it left. -/
structure Stop where
  cause : Cause
  left : Nat
deriving DecidableEq, Repr

abbrev Parser (α : Type) := List Char → Except Stop (α × List Char)

def byteLength (cs : List Char) : Nat := cs.foldl (fun n c => n + c.utf8Size) 0

/-- A stop at the first byte of what is left, which counts as read, or at the end. -/
def stop {α : Type} (cause : Cause) (cs : List Char) : Except Stop α :=
  .error ⟨cause, byteLength cs - 1⟩

def isSpace (c : Char) : Bool := c = ' ' || c = '\n' || c = '\t' || c = '\r'

def skip (cs : List Char) : List Char := cs.dropWhile isSpace

def word : List Char → List Char → Except Stop (List Char)
  | [], cs => .ok cs
  | _ :: _, [] => stop .endInValue []
  | e :: es, c :: cs => if c = e then word es cs else stop .noWord (c :: cs)

/-! Numbers -/

/-- A run of digits that must not be empty. -/
def digits (cs : List Char) : Except Stop (List Char × List Char) :=
  match cs with
  | [] => stop .endInValue []
  | c :: _ =>
    if c.isDigit then .ok (cs.takeWhile Char.isDigit, cs.dropWhile Char.isDigit)
    else stop .badNumber cs

/-- Digits without a leading zero before others. -/
def wholePart (cs : List Char) : Except Stop (List Char × List Char) :=
  match cs with
  | '0' :: c :: rest => if c.isDigit then stop .badNumber (c :: rest) else .ok (['0'], c :: rest)
  | _ => digits cs

def fractionPart (cs : List Char) : Except Stop (List Char × List Char) :=
  match cs with
  | '.' :: rest => (digits rest).map fun p => ('.' :: p.1, p.2)
  | _ => .ok ([], cs)

def exponentPart (cs : List Char) : Except Stop (List Char × List Char) :=
  match cs with
  | c :: rest =>
    if c = 'e' ∨ c = 'E' then
      match rest with
      | s :: more =>
        if s = '+' ∨ s = '-' then (digits more).map fun p => (c :: s :: p.1, p.2)
        else (digits rest).map fun p => (c :: p.1, p.2)
      | [] => stop .endInValue []
    else .ok ([], cs)
  | [] => .ok ([], [])

def signPart (cs : List Char) : List Char × List Char :=
  match cs with
  | '-' :: rest => (['-'], rest)
  | _ => ([], cs)

def numberLiteral : Parser (List Char) := fun cs => do
  let (whole, cs') ← wholePart (signPart cs).2
  let (fraction, cs') ← fractionPart cs'
  let (exponent, cs') ← exponentPart cs'
  return ((signPart cs).1 ++ whole ++ fraction ++ exponent, cs')

/-! Strings -/

def hexUnit? (a b c d : Char) : Option Nat := do
  let a ← hexDigit? a
  let b ← hexDigit? b
  let c ← hexDigit? c
  let d ← hexDigit? d
  return ((a * 16 + b) * 16 + c) * 16 + d

/-- A unit is four bytes, whatever characters they belong to. -/
def stopInUnit {α : Type} (cs : List Char) : Except Stop α :=
  if byteLength cs < 4 then .error ⟨.endInString, 0⟩ else .error ⟨.badEscape, byteLength cs - 4⟩

def simpleEscape? : Char → Option Char
  | '"' => some '"'
  | '\\' => some '\\'
  | '/' => some '/'
  | 'b' => some '\x08'
  | 'f' => some '\x0c'
  | 'n' => some '\n'
  | 'r' => some '\r'
  | 't' => some '\t'
  | _ => none

def isTrailing (unit : Nat) : Bool := decide (0xdc00 ≤ unit) && decide (unit ≤ 0xdfff)

def isLeading (unit : Nat) : Bool := decide (0xd800 ≤ unit) && decide (unit ≤ 0xdbff)

def pairValue (leading trailing : Nat) : Char :=
  Char.ofNat (0x10000 + (leading - 0xd800) * 0x400 + (trailing - 0xdc00))

/-- The characters of a string up to its closing quote. -/
def stringBody : Parser (List Char)
  | [] => stop .endInString []
  | '"' :: rest => .ok ([], rest)
  | '\\' :: 'u' :: a :: b :: c :: d :: rest =>
    match hexUnit? a b c d with
    | none => stopInUnit (a :: b :: c :: d :: rest)
    | some unit =>
      if isTrailing unit then .error ⟨.loneSurrogate, byteLength rest⟩
      else if isLeading unit then
        match rest with
        | '\\' :: 'u' :: e :: f :: g :: h :: rest =>
          match hexUnit? e f g h with
          | none => stopInUnit (e :: f :: g :: h :: rest)
          | some second =>
            if isTrailing second then
              (stringBody rest).map fun p => (pairValue unit second :: p.1, p.2)
            else .error ⟨.loneSurrogate, byteLength rest⟩
        | '\\' :: 'u' :: short => stopInUnit short
        | '\\' :: [] => stop .endInString []
        | '\\' :: other => stop .brokenPair other
        | [] => stop .endInString []
        | other => stop .brokenPair other
      else (stringBody rest).map fun p => (Char.ofNat unit :: p.1, p.2)
  | '\\' :: 'u' :: short => stopInUnit short
  | '\\' :: c :: rest =>
    match simpleEscape? c with
    | some e => (stringBody rest).map fun p => (e :: p.1, p.2)
    | none => stop .badEscape (c :: rest)
  | '\\' :: [] => stop .endInString []
  | c :: rest =>
    if c.toNat < 32 then stop .rawControl (c :: rest)
    else (stringBody rest).map fun p => (c :: p.1, p.2)

/-! Values -/

def scalar (cs : List Char) : Except Stop (Json × List Char) :=
  match cs with
  | [] => stop .endInValue []
  | 'n' :: rest => (word ['u', 'l', 'l'] rest).map fun r => (.null, r)
  | 't' :: rest => (word ['r', 'u', 'e'] rest).map fun r => (.bool true, r)
  | 'f' :: rest => (word ['a', 'l', 's', 'e'] rest).map fun r => (.bool false, r)
  | '"' :: rest => (stringBody rest).map fun p => (.string (String.ofList p.1), p.2)
  | c :: rest =>
    if c = '-' ∨ c.isDigit then
      (numberLiteral (c :: rest)).map fun p => (.number (String.ofList p.1), p.2)
    else stop .noValue (c :: rest)

/-- The items after one, each with its comma, and the closing bracket. -/
def moreItems (item : Parser Json) : Nat → Parser (List Json)
  | 0, _ => stop .endInList []
  | fuel + 1, cs =>
    match skip cs with
    | [] => stop .endInList []
    | ']' :: rest => .ok ([], rest)
    | ',' :: rest =>
      match skip rest with
      | [] => stop .endInValue []
      | ']' :: more => stop .trailingComma (']' :: more)
      | more => do
        let (j, rest) ← item more
        let (js, rest) ← moreItems item fuel rest
        return (j :: js, rest)
    | other => stop .noListSeparator other

def items (item : Parser Json) (cs : List Char) : Except Stop (List Json × List Char) :=
  match skip cs with
  | [] => stop .endInList []
  | ']' :: rest => .ok ([], rest)
  | more => do
    let (j, rest) ← item more
    let (js, rest) ← moreItems item rest.length rest
    return (j :: js, rest)

/-- A name, a colon and a value, where a quote stands first. -/
def member (item : Parser Json) (cs : List Char) :
    Except Stop ((String × Json) × List Char) := do
  let (name, rest) ← stringBody (cs.drop 1)
  match skip rest with
  | [] => stop .endInObject []
  | ':' :: rest =>
    let (j, rest) ← item rest
    return ((String.ofList name, j), rest)
  | other => stop .noColon other

def moreMembers (item : Parser Json) : Nat → Parser (List (String × Json))
  | 0, _ => stop .endInObject []
  | fuel + 1, cs =>
    match skip cs with
    | [] => stop .endInObject []
    | '\x7d' :: rest => .ok ([], rest)
    | ',' :: rest =>
      match skip rest with
      | [] => stop .endInValue []
      | '"' :: more => do
        let (m, rest) ← member item ('"' :: more)
        let (ms, rest) ← moreMembers item fuel rest
        return (m :: ms, rest)
      | '\x7d' :: more => stop .trailingComma ('\x7d' :: more)
      | other => stop .noKey other
    | other => stop .noObjectSeparator other

def members (item : Parser Json) (cs : List Char) :
    Except Stop (List (String × Json) × List Char) :=
  match skip cs with
  | [] => stop .endInObject []
  | '\x7d' :: rest => .ok ([], rest)
  | '"' :: more => do
    let (m, rest) ← member item ('"' :: more)
    let (ms, rest) ← moreMembers item rest.length rest
    return (m :: ms, rest)
  | other => stop .noKey other

/-- A value in which at most so many brackets are open at once. -/
def value : Nat → Parser Json
  | 0, cs =>
    match skip cs with
    | '[' :: rest => stop .tooDeep ('[' :: rest)
    | '\x7b' :: rest => stop .tooDeep ('\x7b' :: rest)
    | other => scalar other
  | depth + 1, cs =>
    match skip cs with
    | '[' :: rest => (items (value depth) rest).map fun p => (.array p.1, p.2)
    | '\x7b' :: rest => (members (value depth) rest).map fun p => (.object p.1, p.2)
    | other => scalar other

def maxDepth : Nat := 127

def readAll (cs : List Char) : Except Stop Json := do
  let (j, rest) ← value maxDepth cs
  match skip rest with
  | [] => return j
  | other => stop .trailingText other

structure ReadFault where
  cause : Cause
  line : Nat
  column : Nat
deriving DecidableEq, Repr

/-- The line of the last byte read and its place there; a line break begins a line with none. -/
def ReadFault.ofStop (s : String) (stop : Stop) : ReadFault :=
  let bytes := Utf8.encode s
  let consumed := bytes.take (bytes.length - stop.left)
  { cause := stop.cause
    line := 1 + consumed.count 10
    column := (consumed.reverse.takeWhile (· != 10)).length }

def ReadFault.message (f : ReadFault) : String :=
  f.cause.message ++ " at line " ++ Numeral.text f.line ++ " column " ++ Numeral.text f.column

def read (s : String) : Except ReadFault Json :=
  match readAll s.toList with
  | .ok j => .ok j
  | .error stop => .error (.ofStop s stop)

end Backlog.Json
