import Backlog.Redis.Resp

/-! Replies as lengths and as texts, and what is said of a reply that is neither. -/

namespace Backlog.Redis

/-- Why a command has no answer that can be used. -/
inductive Refusal where
  | server (cause : ServerError)
  | incompatible (complaint : String) (reply : Reply)
  | lengthNotText
  | textNotText
  | garbled
  | closed

namespace Refusal

def message : Refusal → String
  | server cause => cause.message
  | incompatible complaint reply =>
    "Response was of incompatible type - TypeError: \"" ++ complaint ++ "\" (response was " ++
      reply.inspect ++ ")"
  | lengthNotText => "Invalid UTF-8- TypeError"
  | textNotText => "Cannot convert from UTF-8- TypeError"
  | garbled => "parse error"
  | closed => "broken pipe"

end Refusal

namespace Reply

def maxLength : Nat := 18446744073709551615

/-- A length in digits. -/
def lengthOfText (r : Reply) (s : String) : Except Refusal UInt64 :=
  match Numeral.read maxLength s.toList with
  | .ok n => .ok (UInt64.ofNat n)
  | .error _ => .error (.incompatible "Could not convert from string." r)

/-- A reply as a length. A negative integer stands for the length with the same 64 bits, and of a
double the part before the point counts, as far as it is a length. -/
def toLength (r : Reply) : Except Refusal UInt64 :=
  match r.error? with
  | some cause => .error (.server cause)
  | none =>
    match r with
    | .int n => .ok n.toUInt64
    | .simple s => lengthOfText r s
    | .bulk bytes =>
      match Utf8.decode? bytes with
      | some s => lengthOfText r s
      | none => .error .lengthNotText
    | .double d => .ok (UInt64.ofNat (d.truncated maxLength))
    | _ => .error (.incompatible "Response type not convertible to numeric." r)

/-- A reply as a text. -/
def toText (r : Reply) : Except Refusal String :=
  match r.error? with
  | some cause => .error (.server cause)
  | none =>
    match r with
    | .int n => .ok (inspectInt n.toInt)
    | .simple s => .ok s
    | .okay => .ok "OK"
    | .verbatim _ s => .ok s
    | .double d => .ok d.inspect
    | .bulk bytes =>
      match Utf8.decode? bytes with
      | some s => .ok s
      | none => .error .textNotText
    | _ => .error (.incompatible "Response type not string compatible." r)

end Reply

end Backlog.Redis
