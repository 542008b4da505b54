/-!
Whole numbers in decimal digits, read against a limit. Digits are judged from left to right, so a
text that is both too large and no number is named for whichever shows first.
-/

namespace Backlog.Numeral

inductive Fault where
  | notDigit
  | tooLarge
deriving DecidableEq, Repr

def digitValue (c : Char) : Nat := c.toNat - '0'.toNat

def scan (limit : Nat) : Nat → List Char → Except Fault Nat
  | seen, [] => .ok seen
  | seen, c :: cs =>
    if c.isDigit then
      if limit < 10 * seen + digitValue c then .error .tooLarge
      else scan limit (10 * seen + digitValue c) cs
    else .error .notDigit

/-- The digits of an unsigned numeral: one plus sign is dropped if anything follows it. -/
def unsigned : List Char → List Char
  | '+' :: c :: cs => c :: cs
  | cs => cs

def read (limit : Nat) (cs : List Char) : Except Fault Nat :=
  match unsigned cs with
  | [] => .error .notDigit
  | c :: rest => scan limit 0 (c :: rest)

/-- A signed 64-bit numeral. -/
def readSigned? (cs : List Char) : Option Int64 :=
  match cs with
  | '-' :: c :: rest =>
    ((scan 9223372036854775808 0 (c :: rest)).toOption).map fun n => Int64.ofInt (-n)
  | _ => ((read 9223372036854775807 cs).toOption).map fun n => Int64.ofInt n

/-- Whether a text begins with a minus sign, and the text without its sign. -/
def splitSign (cs : List Char) : Bool × List Char :=
  match cs with
  | '-' :: rest => (true, rest)
  | '+' :: rest => (false, rest)
  | _ => (false, cs)

/-- A whole number of any size: a sign or none, and digits. -/
def integer? (cs : List Char) : Option Int :=
  let (negative, ds) := splitSign cs
  if ds.isEmpty || !ds.all Char.isDigit then none
  else
    let n := Nat.ofDigitChars 10 ds 0
    some (if negative then -n else n)

def write (n : Nat) : List Char := Nat.toDigits 10 n

def text (n : Nat) : String := String.ofList (write n)

end Backlog.Numeral
