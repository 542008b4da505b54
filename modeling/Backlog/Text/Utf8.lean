/-!
UTF-8 by a machine that takes one byte at a time. Bytes that begin no character, and characters that
break off, each count as one fault; a strict reader has none and a lenient one writes U+FFFD for
each.
-/

namespace Backlog.Utf8

/-- A character begun: how many bytes it still needs, which bytes may come next, and its value so
far. Only the byte after the first has a range of its own. -/
structure Begun where
  needed : Nat
  low : UInt8
  high : UInt8
  value : Nat

inductive Lead where
  | whole (c : Char)
  | begun (b : Begun)
  | fault

/-- What a byte means where a character starts. -/
def lead (b : UInt8) : Lead :=
  let n := b.toNat
  if n < 0x80 then .whole (Char.ofNat n)
  else if n < 0xc2 then .fault
  else if n < 0xe0 then .begun ⟨1, 0x80, 0xbf, n - 0xc0⟩
  else if n < 0xf0 then
    .begun ⟨2, if n = 0xe0 then 0xa0 else 0x80, if n = 0xed then 0x9f else 0xbf, n - 0xe0⟩
  else if n < 0xf5 then
    .begun ⟨3, if n = 0xf0 then 0x90 else 0x80, if n = 0xf4 then 0x8f else 0xbf, n - 0xf0⟩
  else .fault

def Begun.accepts (p : Begun) (b : UInt8) : Bool := decide (p.low ≤ b) && decide (b ≤ p.high)

def Begun.push (p : Begun) (b : UInt8) : Lead :=
  let value := p.value * 64 + (b.toNat - 0x80)
  if p.needed = 1 then .whole (Char.ofNat value) else .begun ⟨p.needed - 1, 0x80, 0xbf, value⟩

mutual

/-- The characters of a byte sequence, `none` for each fault. -/
def parts : List UInt8 → List (Option Char)
  | [] => []
  | b :: bs =>
    match lead b with
    | .whole c => some c :: parts bs
    | .begun p => partsAfter p bs
    | .fault => none :: parts bs

def partsAfter (p : Begun) : List UInt8 → List (Option Char)
  | [] => [none]
  | b :: bs =>
    if p.accepts b then
      match p.push b with
      | .whole c => some c :: parts bs
      | .begun q => partsAfter q bs
      | .fault => none :: parts bs
    else
      none ::
        match lead b with
        | .whole c => some c :: parts bs
        | .begun q => partsAfter q bs
        | .fault => none :: parts bs

end

def decode? (bytes : List UInt8) : Option String :=
  ((parts bytes).mapM id).map String.ofList

def decodeLenient (bytes : List UInt8) : String :=
  String.ofList ((parts bytes).map fun c => c.getD '\ufffd')

def encode (s : String) : List UInt8 := s.toList.flatMap String.utf8EncodeChar

end Backlog.Utf8
