import Backlog.Number.Shortest

/-!
Decimals as text: positional while the leading digit stands in a given range of places, with a
point in any case, and scientific beyond it.
-/

namespace Backlog.Decimal

/-- Which places of the leading digit are written positionally, and whether a positive exponent
carries a sign. -/
structure Layout where
  lowest : Int
  highest : Int
  plusSign : Bool

namespace Layout

/-- Numbers in data: from `0.00001` to below `10 ^ 16` without an exponent. -/
def data : Layout where
  lowest := -5
  highest := 15
  plusSign := true

/-- Numbers in diagnostic texts: from `0.0001` to below `10 ^ 16` without an exponent. -/
def diagnostic : Layout where
  lowest := -4
  highest := 15
  plusSign := false

end Layout

def positional (ds : List Char) (exponent : Int) : List Char :=
  if 0 ≤ exponent then ds ++ List.replicate exponent.toNat '0' ++ ['.', '0']
  else
    let places := (-exponent).toNat
    if places < ds.length then ds.take (ds.length - places) ++ '.' :: ds.drop (ds.length - places)
    else '0' :: '.' :: List.replicate (places - ds.length) '0' ++ ds

def scientific (l : Layout) (ds : List Char) (lead : Int) : List Char :=
  let sign := if lead < 0 then ['-'] else if l.plusSign then ['+'] else []
  let fraction := match ds.tail with
    | [] => []
    | rest => '.' :: rest
  ds.take 1 ++ fraction ++ 'e' :: sign ++ Numeral.write lead.natAbs

def write (l : Layout) (d : Decimal) : List Char :=
  let ds := Numeral.write d.digits
  let lead := d.exponent + ds.length - 1
  if l.lowest ≤ lead ∧ lead ≤ l.highest then positional ds d.exponent
  else scientific l ds lead

end Backlog.Decimal

namespace Backlog.Double

def writeFinite (l : Decimal.Layout) (negative : Bool) (m : Magnitude) : List Char :=
  (if negative then ['-'] else []) ++ m.shortest.write l

def inspect : Double → String
  | .finite negative m => String.ofList (writeFinite .diagnostic negative m)
  | .infinite negative => if negative then "-inf" else "inf"
  | .nan => "NaN"

end Backlog.Double
