import Backlog.Number.Double

/-!
Decimal literals and the doubles nearest to them: digits with or without a point among them, an
exponent, a sign, and the words for infinity and for no number, in letters of either case.
-/

namespace Backlog.Double

def isMark (c : Char) : Bool := c = 'e' || c = 'E'

/-- The digits before and after the point, if there are any. -/
def mantissa? (cs : List Char) : Option (List Char × List Char) :=
  let parts := match cs.dropWhile Char.isDigit with
    | [] => some (cs, [])
    | c :: fraction => if c = '.' then some (cs.takeWhile Char.isDigit, fraction) else none
  parts.filter fun p => p.2.all Char.isDigit && !(p.1.isEmpty && p.2.isEmpty)

def number? (negative : Bool) (cs : List Char) : Option Double := do
  let (whole, fraction) ← mantissa? (cs.takeWhile fun c => !isMark c)
  let exponent ← match cs.dropWhile fun c => !isMark c with
    | [] => some 0
    | _ :: ds => Numeral.integer? ds
  return ofDecimal negative (Nat.ofDigitChars 10 (whole ++ fraction) 0)
    (exponent - fraction.length)

def read? (cs : List Char) : Option Double :=
  let (negative, rest) := Numeral.splitSign cs
  let word := String.ofList (rest.map Char.toLower)
  if word = "inf" ∨ word = "infinity" then some (.infinite negative)
  else if word = "nan" then some .nan
  else number? negative rest

end Backlog.Double
