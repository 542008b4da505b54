import Backlog.Number.Numeral

/-!
Double-precision numbers as exact values. A finite double is a sign and a whole number of units of
`2 ^ -1074`, the smallest positive double; rounding goes to the nearest, and a tie to the even
significand.
-/

namespace Backlog

/-- `significand * 2 ^ shift` units, with as small a shift as 53 binary digits allow. -/
def CanonicalParts (significand shift : Nat) : Prop :=
  significand < 9007199254740992 ∧ shift ≤ 2045 ∧ (shift = 0 ∨ 4503599627370496 ≤ significand)

instance (significand shift : Nat) : Decidable (CanonicalParts significand shift) :=
  inferInstanceAs (Decidable (_ ∧ _ ∧ _))

structure Magnitude where
  significand : Nat
  shift : Nat
  canonical : CanonicalParts significand shift
deriving DecidableEq

inductive Double where
  | finite (negative : Bool) (magnitude : Magnitude)
  | infinite (negative : Bool)
  | nan
deriving DecidableEq

namespace Double

/-- The whole number nearest to `num / den`; a half goes to the even neighbour. -/
def halfEven (num den : Nat) : Nat :=
  let q := num / den
  let r := num % den
  if 2 * r < den then q
  else if den < 2 * r then q + 1
  else if q % 2 = 0 then q else q + 1

/-- A significand of 54 binary digits can only be `2 ^ 53`, which has one shift more to give. -/
def ofParts (negative : Bool) (significand shift : Nat) : Double :=
  if h : CanonicalParts significand shift then .finite negative ⟨significand, shift, h⟩
  else if h : CanonicalParts (significand / 2) (shift + 1) then
    .finite negative ⟨significand / 2, shift + 1, h⟩
  else .infinite negative

/-- The double nearest to `num / den` units. -/
def nearest (negative : Bool) (num den : Nat) : Double :=
  let shift := Nat.log2 (num / den) - 52
  ofParts negative (halfEven num (den <<< shift)) shift

def zero (negative : Bool) : Double := nearest negative 0 1

def ofNat (n : Nat) : Double := nearest false (n <<< 1074) 1

/-- The double nearest to `digits * 10 ^ exponent`. Beyond four hundred places on either side the
answer is known without the power. -/
def ofDecimal (negative : Bool) (digits : Nat) (exponent : Int) : Double :=
  if digits = 0 then zero negative
  else if 400 < exponent then .infinite negative
  else if exponent < -400 - (Numeral.write digits).length then zero negative
  else nearest negative ((digits * Nat.pow 10 exponent.toNat) <<< 1074)
    (Nat.pow 10 (-exponent).toNat)

/-- The part before the point, held between `0` and `limit`. -/
def truncated (limit : Nat) : Double → Nat
  | .finite true _ => 0
  | .finite false m => Nat.min ((m.significand <<< m.shift) >>> 1074) limit
  | .infinite negative => if negative then 0 else limit
  | .nan => 0

end Double

end Backlog
