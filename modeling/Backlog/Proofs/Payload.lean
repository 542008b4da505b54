import Backlog.Metric.Batch
import Backlog.Proofs.DecimalText
import Backlog.Proofs.JsonText
import Backlog.Proofs.Timestamps
import Backlog.Publisher

/-!
# The payload of a batch

A batch whose values are finite is decoded from its JSON text, member by member: the text is read
back as the value it was written from, the literal of each number as the double, each timestamp as
the moment that was written. A moment with a leap second that is not due is written as the second
that follows, and apart from that no two such batches share a text. What is not finite has no
literal and is written as null, and that is the only way for null to come into a payload.
-/

namespace Backlog

namespace Json

def text? : Json → Option String
  | .string text => some text
  | _ => none

def items? : Json → Option (List Json)
  | .array items => some items
  | _ => none

/-- Null stands somewhere in the value. -/
inductive HoldsNull : Json → Prop where
  | null : HoldsNull .null
  | item {js : List Json} {j : Json} (hmem : j ∈ js) (h : HoldsNull j) : HoldsNull (.array js)
  | member {ms : List (String × Json)} {m : String × Json} (hmem : m ∈ ms) (h : HoldsNull m.2) :
      HoldsNull (.object ms)

@[simp] lemma holdsNull_null : HoldsNull .null := .null

@[simp] lemma not_holdsNull_string (text : String) : ¬HoldsNull (.string text) := nofun

@[simp] lemma not_holdsNull_number (literal : String) : ¬HoldsNull (.number literal) := nofun

@[simp] lemma holdsNull_array {js : List Json} : HoldsNull (.array js) ↔ ∃ j ∈ js, HoldsNull j := by
  constructor
  · rintro (_ | ⟨hmem, h⟩)
    exact ⟨_, hmem, h⟩
  · rintro ⟨j, hmem, h⟩
    exact .item hmem h

@[simp] lemma holdsNull_object {ms : List (String × Json)} :
    HoldsNull (.object ms) ↔ ∃ m ∈ ms, HoldsNull m.2 := by
  constructor
  · rintro (_ | _ | ⟨hmem, h⟩)
    exact ⟨_, hmem, h⟩
  · rintro ⟨m, hmem, h⟩
    exact .member hmem h

end Json

/-- What is decoded item by item is decoded as a whole. -/
lemma mapM_decode {α β γ : Type} {encode : α → β} {decode : β → Option γ} {f : α → γ} {as : List α}
    (h : ∀ a ∈ as, decode (encode a) = some (f a)) :
    (as.map encode).mapM decode = some (as.map f) := by
  induction as with
  | nil => rfl
  | cons a as ih =>
    rw [List.forall_mem_cons] at h
    simp [List.mapM_cons, h.1, ih h.2]

/-! ### Values -/

namespace Double

def ofJson? : Json → Option Double
  | .number literal => read? literal.toList
  | _ => none

lemma ofJson?_toJson {d : Double} (h : d.IsFinite) : ofJson? d.toJson = some d := by
  cases d with
  | finite negative m => rw [toJson, ofJson?, String.toList_ofList, read?_writeFinite]
  | infinite negative => cases h
  | nan => cases h

lemma fits_toJson (depth : Nat) (d : Double) : Json.Fits depth d.toJson := by
  cases d with
  | finite negative m =>
    apply Json.Fits.number
    rw [String.toList_ofList]
    exact numberText_writeFinite negative m
  | infinite negative => exact Json.Fits.null depth
  | nan => exact Json.Fits.null depth

lemma holdsNull_toJson {d : Double} : d.toJson.HoldsNull ↔ ¬d.IsFinite := by
  cases d <;> simp [toJson, IsFinite]

lemma mul_two_pow_lt {n a b c : Nat} (h : n < 2 ^ a) (hc : a + b ≤ c) : n * 2 ^ b < 2 ^ c :=
  calc n * 2 ^ b < 2 ^ a * 2 ^ b := Nat.mul_lt_mul_of_pos_right h (Nat.two_pow_pos b)
    _ = 2 ^ (a + b) := (Nat.pow_add 2 a b).symm
    _ ≤ 2 ^ c := Nat.pow_le_pow_right (by omega) hc

/-- A count of 64 bits is far below the largest double. -/
lemma ofNat_isFinite {n : Nat} (h : n < 2 ^ 64) : (ofNat n).IsFinite := by
  apply nearest_isFinite
  rw [shiftLeft_units, unitsInOne, Nat.mul_one]
  exact mul_two_pow_lt h (by omega)

end Double

/-! ### The parts of a batch -/

namespace MetricUnit

def ofName? (name : String) : Option MetricUnit := if name = count.name then some count else none

lemma ofName?_name (u : MetricUnit) : ofName? u.name = some u := by
  cases u
  rfl

end MetricUnit

namespace Dimension

def ofJson? (j : Json) : Option Dimension := do
  let name ← (← j.member? "name").text?
  let value ← (← j.member? "value").text?
  return ⟨name, value⟩

lemma ofJson?_toJson (d : Dimension) : ofJson? d.toJson = some d := rfl

lemma fits_toJson (depth : Nat) (d : Dimension) : Json.Fits (depth + 1) d.toJson := by
  apply Json.Fits.object
  rintro m (_ | ⟨_, _ | ⟨_, hm⟩⟩)
  · exact Json.Fits.string depth d.name
  · exact Json.Fits.string depth d.value
  · cases hm

lemma not_holdsNull (d : Dimension) : ¬d.toJson.HoldsNull := by
  simp [toJson]

end Dimension

namespace Datum

def ofJson? (j : Json) : Option Datum := do
  let metric ← (← j.member? "metric_name").text?
  let dimensions ← (← (← j.member? "dimensions").items?).mapM Dimension.ofJson?
  let value ← Double.ofJson? (← j.member? "value")
  let timestamp ← Instant.read? (← (← j.member? "timestamp").text?).toList
  let unit ← MetricUnit.ofName? (← (← j.member? "unit").text?)
  return ⟨metric, dimensions, value, timestamp, unit⟩

/-- The datum with its moment as it is written. -/
def written (d : Datum) : Datum := { d with timestamp := d.timestamp.written }

lemma written_of_timely {d : Datum} (h : d.timestamp.Timely) : d.written = d := by
  rw [written, Instant.written_of_timely h]

lemma ofJson?_toJson {d : Datum} (h : d.value.IsFinite) : ofJson? d.toJson = some d.written := by
  have hdimensions : (d.dimensions.map Dimension.toJson).mapM Dimension.ofJson? =
      some (d.dimensions.map id) := mapM_decode fun e _ => e.ofJson?_toJson
  simp [ofJson?, toJson, Json.member?, Json.text?, Json.items?, List.lookup_cons, hdimensions,
    Double.ofJson?_toJson h, Instant.read?_rfc3339, MetricUnit.ofName?_name, written]

lemma fits_toJson (depth : Nat) (d : Datum) : Json.Fits (depth + 3) d.toJson := by
  apply Json.Fits.object
  rintro m (_ | ⟨_, _ | ⟨_, _ | ⟨_, _ | ⟨_, _ | ⟨_, hm⟩⟩⟩⟩⟩)
  · exact Json.Fits.string _ d.metric
  · apply Json.Fits.array
    intro j hj
    obtain ⟨e, _, rfl⟩ := List.mem_map.mp hj
    exact e.fits_toJson depth
  · exact d.value.fits_toJson _
  · exact Json.Fits.string _ _
  · exact Json.Fits.string _ _
  · cases hm

lemma holdsNull_toJson {d : Datum} : d.toJson.HoldsNull ↔ ¬d.value.IsFinite := by
  simp [toJson, Dimension.not_holdsNull, Double.holdsNull_toJson]

end Datum

namespace Batch

/-- Every value that the batch reports is finite. -/
def Finite (b : Batch) : Prop := ∀ d ∈ b.data, d.value.IsFinite

instance (b : Batch) : Decidable b.Finite :=
  inferInstanceAs (Decidable (∀ d ∈ b.data, d.value.IsFinite))

/-- No datum has a leap second that is not due. -/
def Timely (b : Batch) : Prop := ∀ d ∈ b.data, d.timestamp.Timely

instance (b : Batch) : Decidable b.Timely :=
  inferInstanceAs (Decidable (∀ d ∈ b.data, d.timestamp.Timely))

/-- The batch with its moments as they are written. -/
def written (b : Batch) : Batch := { b with data := b.data.map Datum.written }

def ofJson? (j : Json) : Option Batch := do
  let metricNamespace ← (← j.member? "namespace").text?
  let data ← (← (← j.member? "data").items?).mapM Datum.ofJson?
  return ⟨metricNamespace, data⟩

/-- The batch that a payload is the text of. -/
def read? (payload : String) : Option Batch := do ofJson? (← (Json.read payload).toOption)

variable {b : Batch}

lemma written_of_timely (h : b.Timely) : b.written = b := by
  rw [written, List.map_congr_left fun d hd => Datum.written_of_timely (h d hd), List.map_id']

lemma ofJson?_toJson (h : b.Finite) : ofJson? b.toJson = some b.written := by
  have hdata : (b.data.map Datum.toJson).mapM Datum.ofJson? = some (b.data.map Datum.written) :=
    mapM_decode fun d hd => Datum.ofJson?_toJson (h d hd)
  simp [ofJson?, toJson, Json.member?, Json.text?, Json.items?, List.lookup_cons, hdata, written]

lemma fits_toJson (depth : Nat) (b : Batch) : Json.Fits (depth + 5) b.toJson := by
  apply Json.Fits.object
  rintro m (_ | ⟨_, _ | ⟨_, hm⟩⟩)
  · exact Json.Fits.string _ b.metricNamespace
  · apply Json.Fits.array
    intro j hj
    obtain ⟨d, _, rfl⟩ := List.mem_map.mp hj
    exact d.fits_toJson depth
  · cases hm

/-- The payload of any batch is read back as the value that it was written from. -/
theorem read_payload (b : Batch) : Json.read b.toJson.text = .ok b.toJson :=
  Json.read_text (b.fits_toJson 122)

/-- Null comes from values that are not finite, and from nothing else. -/
theorem holdsNull_toJson : b.toJson.HoldsNull ↔ ¬b.Finite := by
  simp [toJson, Finite, Datum.holdsNull_toJson]

lemma read?_text (h : b.Finite) : read? b.toJson.text = some b.written := by
  rw [read?, read_payload]
  exact ofJson?_toJson h

/-- What a dry run logs of a batch is the text of its value. -/
lemma payload_of_dryRun {metricNamespace payload : String} {points : Nat}
    (h : .logged metricNamespace points payload ∈ (Publisher.dryRun b).effects) :
    payload = b.toJson.text := by
  unfold Publisher.dryRun at h
  split at h
  · cases h
  · exact (Effect.logged.inj (List.mem_singleton.mp h)).2.2

end Batch

end Backlog
