import Backlog.Json.Basic

/-!
JSON values as text. One printer serves every layout: a layout says what is written between the
brackets and separators, and nothing else depends on it.
-/

namespace Backlog.Json

/-- What is written where a text may be broken, at some depth, and between name and value. -/
structure Layout where
  lineBreak : Nat → List Char
  colon : List Char

namespace Layout

def compact : Layout where
  lineBreak _ := []
  colon := [':']

/-- One item a line, two spaces deeper for every open bracket. -/
def indented : Layout where
  lineBreak depth := '\n' :: List.replicate (2 * depth) ' '
  colon := [':', ' ']

end Layout

/-- Quotes, backslashes and the controls below the space are escaped; all else stands as it is. -/
def escapedChar (c : Char) : List Char :=
  match c with
  | '"' => ['\\', '"']
  | '\\' => ['\\', '\\']
  | '\x08' => ['\\', 'b']
  | '\x0c' => ['\\', 'f']
  | '\n' => ['\\', 'n']
  | '\r' => ['\\', 'r']
  | '\t' => ['\\', 't']
  | c =>
    if c.toNat < 32 then
      ['\\', 'u', '0', '0', Nat.digitChar (c.toNat / 16), Nat.digitChar (c.toNat % 16)]
    else [c]

def writeString (s : String) : List Char :=
  '"' :: s.toList.flatMap escapedChar ++ ['"']

mutual

def write (l : Layout) (depth : Nat) : Json → List Char
  | .null => ['n', 'u', 'l', 'l']
  | .bool true => ['t', 'r', 'u', 'e']
  | .bool false => ['f', 'a', 'l', 's', 'e']
  | .number literal => literal.toList
  | .string s => writeString s
  | .array [] => ['[', ']']
  | .array (j :: js) =>
    '[' :: (l.lineBreak (depth + 1) ++ (write l (depth + 1) j ++ writeItems l depth js))
  | .object [] => ['\x7b', '\x7d']
  | .object ((name, j) :: ms) =>
    '\x7b' :: (l.lineBreak (depth + 1) ++ (writeString name ++ (l.colon ++
      (write l (depth + 1) j ++ writeMembers l depth ms))))

/-- The items after the first, and the closing bracket. -/
def writeItems (l : Layout) (depth : Nat) : List Json → List Char
  | [] => l.lineBreak depth ++ [']']
  | j :: js =>
    ',' :: (l.lineBreak (depth + 1) ++ (write l (depth + 1) j ++ writeItems l depth js))

def writeMembers (l : Layout) (depth : Nat) : List (String × Json) → List Char
  | [] => l.lineBreak depth ++ ['\x7d']
  | (name, j) :: ms =>
    ',' :: (l.lineBreak (depth + 1) ++ (writeString name ++ (l.colon ++
      (write l (depth + 1) j ++ writeMembers l depth ms))))

end

def text (j : Json) : String := String.ofList (write .compact 0 j)

def indentedText (j : Json) : String := String.ofList (write .indented 0 j)

end Backlog.Json
