import Backlog.Text.Quoted

/-! The diagnostic text of a value: names, quoted texts, calls, records and lists. -/

namespace Backlog.Inspect

def text (s : String) : String := Text.quoted s

def list (items : List String) : String := "[" ++ ", ".intercalate items ++ "]"

def call (name : String) (arguments : List String) : String :=
  name ++ "(" ++ ", ".intercalate arguments ++ ")"

def record (name : String) (fields : List (String × String)) : String :=
  name ++ " \x7b " ++ ", ".intercalate (fields.map fun f => f.1 ++ ": " ++ f.2) ++ " \x7d"

def option : Option String → String
  | none => "None"
  | some t => call "Some" [t]

def bool (b : Bool) : String := if b then "true" else "false"

def nat (n : Nat) : String := String.ofList (Nat.toDigits 10 n)

/-- A time in the largest unit of which it has one, without zeros at the end of a fraction. -/
def milliseconds (ms : Nat) : String :=
  if ms = 0 then "0ns"
  else if ms < 1000 then nat ms ++ "ms"
  else
    let digits := (Nat.toDigits 10 (1000 + ms % 1000)).drop 1
    match digits.reverse.dropWhile (· == '0') with
    | [] => nat (ms / 1000) ++ "s"
    | d :: ds => nat (ms / 1000) ++ "." ++ String.ofList (d :: ds).reverse ++ "s"

end Backlog.Inspect
