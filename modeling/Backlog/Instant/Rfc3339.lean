import Backlog.Instant.Basic
import Backlog.Number.Numeral

/-!
Moments as RFC 3339 text in universal time. The fraction has no, three, six or nine digits,
whichever is the fewest that lose nothing; a year outside four digits carries its sign. A leap
second is written as the second that follows, which is the sixtieth at the end of a minute.
-/

namespace Backlog.Instant

def padded (width n : Nat) : List Char :=
  let ds := Numeral.write n
  List.replicate (width - ds.length) '0' ++ ds

def yearText (year : Int) : List Char :=
  if 0 ≤ year ∧ year ≤ 9999 then padded 4 year.toNat
  else (if year < 0 then '-' else '+') :: padded 4 year.natAbs

def fractionText (nanos : Nat) : List Char :=
  if nanos = 0 then []
  else if nanos % 1000000 = 0 then '.' :: padded 3 (nanos / 1000000)
  else if nanos % 1000 = 0 then '.' :: padded 6 (nanos / 1000)
  else '.' :: padded 9 nanos

def rfc3339 (t : Instant) : List Char :=
  let d := t.date
  let s := t.secondOfDay
  let leap := t.nanos / 1000000000
  yearText d.year ++ '-' :: padded 2 d.month ++ '-' :: padded 2 d.day ++
    'T' :: padded 2 (s / 3600) ++ ':' :: padded 2 (s / 60 % 60) ++
    ':' :: padded 2 (s % 60 + leap) ++ fractionText (t.nanos % 1000000000) ++ ['Z']

end Backlog.Instant
