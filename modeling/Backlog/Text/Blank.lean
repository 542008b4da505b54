import Backlog.Text.CharSet

/-! White space, and texts without it at either end. -/

namespace Backlog.Text

/-- The Unicode property White_Space. -/
def blank : CharSet where
  ranges := [(0x09, 0x0d), (0x20, 0x20), (0x85, 0x85), (0xa0, 0xa0), (0x1680, 0x1680),
    (0x2000, 0x200a), (0x2028, 0x2029), (0x202f, 0x202f), (0x205f, 0x205f), (0x3000, 0x3000)]

def isBlank (c : Char) : Bool := blank.contains c

def trimEnd (cs : List Char) : List Char := (cs.reverse.dropWhile isBlank).reverse

def trim (cs : List Char) : List Char := trimEnd (cs.dropWhile isBlank)

def trimmed (s : String) : String := String.ofList (trim s.toList)

def trimmedEnd (s : String) : String := String.ofList (trimEnd s.toList)

/-- A text of white space alone, the empty text included. -/
def allBlank (s : String) : Bool := s.toList.all isBlank

end Backlog.Text
