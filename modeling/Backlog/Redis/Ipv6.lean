import Backlog.Number.Hex
import Backlog.Number.Numeral

/-!
The text form of IPv6 addresses: eight pieces of up to four hexadecimal digits, of which one run may
be left out, and the last two may be written as an IPv4 address.
-/

namespace Backlog.Redis.Ipv6

def piece? (cs : List Char) : Option Nat :=
  if cs.isEmpty || decide (4 < cs.length) then none
  else (cs.mapM hexDigit?).map fun ds => ds.foldl (fun n d => n * 16 + d) 0

/-- A number up to 255 without a leading zero. -/
def octet? (cs : List Char) : Option Nat :=
  match cs with
  | [] => none
  | '0' :: _ :: _ => none
  | _ => if cs.all Char.isDigit then (Numeral.scan 255 0 cs).toOption else none

def dotted? (cs : List Char) : Option (List Nat) := do
  match ← (cs.splitOn '.').mapM octet? with
  | [a, b, c, d] => return [a * 256 + b, c * 256 + d]
  | _ => none

/-- Pieces between colons, the last of which may be dotted if nothing else follows. -/
def pieces? (dottedEnd : Bool) : List (List Char) → Option (List Nat)
  | [] => some []
  | [last] =>
    if dottedEnd && last.contains '.' then dotted? last else (piece? last).map fun p => [p]
  | p :: rest => do
    let p ← piece? p
    let ps ← pieces? dottedEnd rest
    return p :: ps

def run? (dottedEnd : Bool) (cs : List Char) : Option (List Nat) :=
  if cs.isEmpty then some [] else pieces? dottedEnd (cs.splitOn ':')

/-- What stands before the first double colon and after it. -/
def splitGap : List Char → List Char × Option (List Char)
  | [] => ([], none)
  | ':' :: ':' :: rest => ([], some rest)
  | c :: rest =>
    let p := splitGap rest
    (c :: p.1, p.2)

def read? (cs : List Char) : Option (List Nat) :=
  match splitGap cs with
  | (all, none) => do
    let ps ← run? true all
    if ps.length = 8 then some ps else none
  | (before, some after) => do
    let left ← run? false before
    let right ← run? true after
    if left.length + right.length ≤ 7 then
      some (left ++ List.replicate (8 - left.length - right.length) 0 ++ right)
    else none

end Backlog.Redis.Ipv6
