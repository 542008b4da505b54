import Backlog.Number.Numeral

/-!
The values of the JSON data format. A number is kept as its literal, so that no digit is lost, and
the members of an object keep their order and may repeat a name.
-/

namespace Backlog

inductive Json where
  | null
  | bool (value : Bool)
  | number (literal : String)
  | string (text : String)
  | array (items : List Json)
  | object (members : List (String × Json))
deriving Repr, Inhabited

namespace Json

def nat (n : Nat) : Json := .number (Numeral.text n)

def ofOption {α : Type} (encode : α → Json) : Option α → Json
  | none => .null
  | some a => encode a

def member? (name : String) : Json → Option Json
  | .object members => members.lookup name
  | _ => none

end Json

end Backlog
