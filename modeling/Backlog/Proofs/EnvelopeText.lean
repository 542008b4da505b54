import Backlog.Proofs.Report

/-!
# The text of an envelope

An envelope is JSON whose body is JSON again, inside a string. Both layers are read back whatever
the message and the keys are, so the text keeps the message and every key with its length, in order
and as often as it occurs. It keeps nothing else: not the metrics, and not when a length was read.
-/

namespace Backlog

/-- The whole number that a value stands for, digit by digit. -/
def Json.integer? : Json → Option Int
  | .number literal => Numeral.integer? literal.toList
  | _ => none

lemma Json.integer?_nat (n : Nat) : (Json.nat n).integer? = some (n : Int) := by
  rw [nat, integer?, Numeral.text, String.toList_ofList, Numeral.integer?_write]

namespace Summary

/-- What a summary tells of its queues. -/
def lengths (s : Summary) : List (String × UInt64) :=
  s.readings.map fun r => (r.queue.key, r.length)

/-- The member that tells a length. -/
def member (entry : String × UInt64) : String × Json := (memberName entry.1, .nat entry.2.toNat)

lemma member_injective : Function.Injective member := by
  rintro ⟨key, n⟩ ⟨key', n'⟩ h
  obtain ⟨hname, hvalue⟩ := Prod.mk.inj h
  have hint := congrArg Json.integer? hvalue
  rw [Json.integer?_nat, Json.integer?_nat, Option.some.injEq, Int.natCast_inj] at hint
  exact Prod.ext (memberName_injective hname) (UInt64.toNat_inj.mp hint)

lemma toJson_eq (s : Summary) :
    s.toJson = .object (("message", .string s.message) :: s.lengths.map member) := by
  rw [toJson, lengths, List.map_map]
  rfl

/-- The object of a summary keeps its message and its lengths, and nothing else. -/
theorem toJson_eq_iff {s s' : Summary} :
    s.toJson = s'.toJson ↔ s.message = s'.message ∧ s.lengths = s'.lengths := by
  rw [toJson_eq, toJson_eq]
  constructor
  · intro h
    obtain ⟨hmessage, hmembers⟩ := List.cons.inj (Json.object.inj h)
    exact ⟨Json.string.inj (Prod.mk.inj hmessage).2,
      List.map_injective_iff.mpr member_injective hmembers⟩
  · rintro ⟨hmessage, hlengths⟩
    rw [hmessage, hlengths]

end Summary

namespace Envelope

/-- An envelope is read back with its body as a text, whatever is in it. -/
theorem read_text (e : Envelope) : Json.read e.toJson.text =
    .ok (.object [("statusCode", .nat e.status), ("body", .string e.body)]) := by
  apply Json.read_text
  apply Json.Fits.object
  rintro m (_ | ⟨_, _ | ⟨_, hm⟩⟩)
  · exact Json.fits_nat _ e.status
  · exact Json.Fits.string _ e.body
  · cases hm

/-- Equal texts have equal bodies, and these the same object. -/
lemma ofSummary_text_eq_iff {s s' : Summary} :
    (ofSummary s).toJson.text = (ofSummary s').toJson.text ↔ s.toJson = s'.toJson := by
  constructor
  · intro h
    have hread := read_text (ofSummary s)
    rw [h, read_text] at hread
    have hbody : (ofSummary s').body = (ofSummary s).body := by
      simp only [Except.ok.injEq, Json.object.injEq, List.cons.injEq, Prod.mk.injEq,
        Json.string.injEq] at hread
      exact hread.2.1.2
    have hsummary := Summary.read_body s
    rw [← hbody, Summary.read_body] at hsummary
    exact (Except.ok.inj hsummary).symm
  · intro h
    simp only [toJson, ofSummary, h]

end Envelope

/-- The envelope of any summary is decoded to its status and its body, and the body to the message
and one exact length for each reading, in order. Two summaries have the same envelope text if and
only if they have the same message and the same keys with the same lengths in the same order. -/
theorem envelope_loses_nothing (s : Summary) :
    let e := Envelope.ofSummary s
    e.status = 200 ∧ e.summary = s ∧
    Json.read e.toJson.text =
      .ok (.object [("statusCode", .nat 200), ("body", .string e.body)]) ∧
    (∃ values : List Json,
      Json.read e.body = .ok (.object (("message", .string s.message) ::
        List.zip (s.readings.map fun r => r.queue.key ++ "QueueLength") values)) ∧
      values.map Json.integer? = s.readings.map fun r => some (r.length.toNat : Int)) ∧
    ∀ s' : Summary, (Envelope.ofSummary s').toJson.text = e.toJson.text ↔
      s'.message = s.message ∧
      (s'.readings.map fun r => (r.queue.key, r.length)) =
        s.readings.map fun r => (r.queue.key, r.length) := by
  refine ⟨rfl, rfl, Envelope.read_text _, ?_, ?_⟩
  · refine ⟨s.readings.map fun r => .nat r.length.toNat, ?_, ?_⟩
    · rw [List.zip, List.zipWith_map, List.zipWith_self]
      exact Summary.read_body s
    · simp only [List.map_map, Function.comp_def, Json.integer?_nat]
  · exact fun s' => Envelope.ofSummary_text_eq_iff.trans Summary.toJson_eq_iff

end Backlog
