import Backlog.Proofs.Exchange
import Backlog.Proofs.Numerals
import Backlog.Proofs.Rounding
import Mathlib.Algebra.Order.Field.Rat
import Mathlib.Data.List.Forall2
import Mathlib.Data.Nat.Cast.Order.Field

/-!
# Lengths and the numbers that replies denote

A reply denotes a number if it is one or spells one. A length that is told for a key is the number
that a reply of the peer denotes, with two exceptions: a negative integer is told as the length with
the same bits, and a double that is no length is told as the nearest length towards zero, or as zero
if there is none. No length is told for any other reply.
-/

namespace Backlog

namespace Double

/-- The number that a finite double is. -/
def value (negative : Bool) (m : Magnitude) : ℚ :=
  (if negative then -1 else 1) * ((m.significand * 2 ^ m.shift : Nat) / unitsInOne)

end Double

namespace Redis

namespace Reply

/-- The number that a reply is or spells. -/
inductive Denotes : Reply → ℚ → Prop where
  | int (v : Int64) : Denotes (.int v) v.toInt
  | simple {text : String} {n : Nat} (h : Numeral.Denotes text.toList n) : Denotes (.simple text) n
  | bulk {bytes : List UInt8} {text : String} {n : Nat} (htext : Utf8.decode? bytes = some text)
      (h : Numeral.Denotes text.toList n) : Denotes (.bulk bytes) n
  | double (negative : Bool) (m : Magnitude) :
      Denotes (.double (.finite negative m)) (Double.value negative m)
  | bigNumber (v : Int) : Denotes (.bigNumber v) v

/-- A reply that denotes no length, and the length that it is taken for. -/
inductive Misread : Reply → UInt64 → Prop where
  | wrapped {v : Int64} {n : UInt64} (hv : v.toInt < 0) (hn : (n.toNat : ℤ) = v.toInt + 2 ^ 64) :
      Misread (.int v) n
  | below {m : Magnitude} (h : Double.value true m < 0) : Misread (.double (.finite true m)) 0
  | between {m : Magnitude} {n : UInt64} (hlow : n.toNat < Double.value false m)
      (hhigh : Double.value false m < n.toNat + 1) : Misread (.double (.finite false m)) n
  | above {m : Magnitude} (h : 2 ^ 64 ≤ Double.value false m) :
      Misread (.double (.finite false m)) 18446744073709551615
  | infinite (negative : Bool) :
      Misread (.double (.infinite negative)) (if negative then 0 else 18446744073709551615)
  | nan : Misread (.double .nan) 0

variable {r : Reply} {n : UInt64}

/-! ### Integers -/

lemma toNat_toUInt64 (v : Int64) :
    (v.toUInt64.toNat : ℤ) = if v.toInt < 0 then v.toInt + 2 ^ 64 else v.toInt := by
  have hint : v.toInt = v.toBitVec.toInt := rfl
  have hnat : v.toUInt64.toNat = v.toBitVec.toNat := rfl
  have hlt := v.toBitVec.isLt
  rw [hint, hnat, BitVec.toInt_eq_toNat_cond]
  split <;> omega

lemma int_told (v : Int64) :
    (Reply.int v).Denotes v.toUInt64.toNat ∨ (Reply.int v).Misread v.toUInt64 := by
  have hbits := toNat_toUInt64 v
  by_cases hv : v.toInt < 0
  · rw [if_pos hv] at hbits
    exact Or.inr (.wrapped hv hbits)
  · rw [if_neg hv] at hbits
    left
    have hcast : (v.toUInt64.toNat : ℚ) = v.toInt := by
      rw [← hbits, Int.cast_natCast]
    rw [hcast]
    exact .int v

/-! ### Texts -/

lemma toNat_le_maxLength (n : UInt64) : n.toNat ≤ maxLength := Nat.le_of_lt_succ n.toNat_lt

lemma lengthOfText_eq_ok_iff {text : String} :
    lengthOfText r text = .ok n ↔ Numeral.Denotes text.toList n.toNat := by
  constructor
  · intro h
    rw [lengthOfText] at h
    split at h
    · next k hread =>
      obtain ⟨hdenotes, hle⟩ := Numeral.read_eq_ok_iff.mp hread
      obtain rfl := Except.ok.inj h
      rwa [UInt64.toNat_ofNat_of_lt' (Nat.lt_succ_of_le hle)]
    · cases h
  · intro h
    have hread := Numeral.read_eq_ok_iff.mpr ⟨h, toNat_le_maxLength n⟩
    rw [lengthOfText, hread]
    simp

/-! ### Doubles -/

/-- The whole units of a double that is not negative. -/
def units (m : Magnitude) : Nat := m.significand * 2 ^ m.shift

lemma value_eq (m : Magnitude) : Double.value false m = (units m : ℚ) / Double.unitsInOne := by
  rw [Double.value, if_neg (by decide), one_mul, units]

lemma value_negative (m : Magnitude) : Double.value true m = -Double.value false m := by
  rw [Double.value, Double.value, if_pos rfl, if_neg (by decide), one_mul, neg_one_mul]

lemma value_nonneg (m : Magnitude) : 0 ≤ Double.value false m := by
  rw [value_eq]
  exact div_nonneg (Nat.cast_nonneg _) (Nat.cast_nonneg _)

lemma truncated_eq (limit : Nat) (m : Magnitude) :
    (Double.finite false m).truncated limit = min (units m / Double.unitsInOne) limit := by
  rw [Double.truncated, Double.shiftRight_units, Double.shiftLeft_eq_mul_pow]
  rfl

/-- A double lies between the whole numbers of its truncation and the next. -/
lemma value_between (m : Magnitude) :
    ((units m / Double.unitsInOne : Nat) : ℚ) ≤ Double.value false m ∧
      Double.value false m < (units m / Double.unitsInOne : Nat) + 1 := by
  have hunits := Double.unitsInOne_pos
  have hpos : (0 : ℚ) < Double.unitsInOne := Nat.cast_pos.mpr hunits
  rw [value_eq]
  constructor
  · exact Nat.cast_div_le
  · rw [div_lt_iff₀ hpos]
    have hlt := Nat.lt_mul_div_succ (units m) hunits
    rw [Nat.mul_comm] at hlt
    exact_mod_cast hlt

lemma whole_eq {m : Magnitude} {k : Nat} (hlow : (k : ℚ) ≤ Double.value false m)
    (hhigh : Double.value false m < k + 1) : units m / Double.unitsInOne = k := by
  obtain ⟨hlow', hhigh'⟩ := value_between m
  have hless : units m / Double.unitsInOne < k + 1 := by exact_mod_cast hlow'.trans_lt hhigh
  have hmore : k < units m / Double.unitsInOne + 1 := by exact_mod_cast hlow.trans_lt hhigh'
  omega

lemma positive_told (m : Magnitude)
    (hn : n.toNat = min (units m / Double.unitsInOne) maxLength) :
    (Reply.double (.finite false m)).Denotes n.toNat ∨
      (Reply.double (.finite false m)).Misread n := by
  obtain ⟨hlow, hhigh⟩ := value_between m
  by_cases hlarge : units m / Double.unitsInOne ≤ maxLength
  · rw [Nat.min_eq_left hlarge] at hn
    rw [← hn] at hlow hhigh
    rcases eq_or_lt_of_le hlow with heq | hlt
    · left
      rw [heq]
      exact .double false m
    · exact Or.inr (.between hlt hhigh)
  · right
    rw [Nat.min_eq_right (Nat.le_of_not_le hlarge)] at hn
    obtain rfl : n = 18446744073709551615 := UInt64.toNat_inj.mp hn
    apply Misread.above
    refine le_trans ?_ hlow
    have hle : 2 ^ 64 ≤ units m / Double.unitsInOne := Nat.lt_of_not_le hlarge
    exact_mod_cast hle

lemma negative_told (m : Magnitude) : (Reply.double (.finite true m)).Denotes (0 : UInt64).toNat ∨
    (Reply.double (.finite true m)).Misread 0 := by
  rcases eq_or_lt_of_le (value_nonneg m) with hzero | hpos
  · left
    have hvalue : Double.value true m = ((0 : UInt64).toNat : ℚ) := by
      rw [value_negative, ← hzero]
      simp
    rw [← hvalue]
    exact .double true m
  · right
    apply Misread.below
    rw [value_negative]
    exact neg_neg_of_pos hpos

lemma double_told (d : Double) :
    (Reply.double d).Denotes (UInt64.ofNat (d.truncated maxLength)).toNat ∨
      (Reply.double d).Misread (UInt64.ofNat (d.truncated maxLength)) := by
  cases d with
  | finite negative m =>
    cases negative with
    | false =>
      apply positive_told
      rw [truncated_eq]
      exact UInt64.toNat_ofNat_of_lt' (Nat.lt_succ_of_le (Nat.min_le_right _ _))
    | true => exact negative_told m
  | infinite negative =>
    right
    cases negative with
    | false => exact .infinite false
    | true => exact .infinite true
  | nan => exact Or.inr .nan

/-! ### Replies of any kind -/

/-- Only a number that a reply denotes is told, or what it is misread as. -/
theorem denotes_or_misread (h : r.toLength = .ok n) : r.Denotes n.toNat ∨ r.Misread n := by
  unfold toLength at h
  split at h
  · cases h
  · cases r with
    | int v =>
      obtain rfl := Except.ok.inj h
      exact int_told v
    | double d =>
      obtain rfl := Except.ok.inj h
      exact double_told d
    | simple text => exact Or.inl (.simple (lengthOfText_eq_ok_iff.mp h))
    | bulk bytes =>
      dsimp only at h
      split at h
      · next text htext => exact Or.inl (.bulk htext (lengthOfText_eq_ok_iff.mp h))
      · cases h
    | _ => cases h

/-- A reply denotes one number at most. -/
lemma Denotes.unique {a b : ℚ} (ha : r.Denotes a) (hb : r.Denotes b) : a = b := by
  cases ha with
  | int v =>
    cases hb
    rfl
  | simple h =>
    cases hb with
    | simple h' => rw [h.unique h']
  | bulk htext h =>
    cases hb with
    | bulk htext' h' =>
      obtain rfl := Option.some.inj (htext.symm.trans htext')
      rw [h.unique h']
  | double negative m =>
    cases hb
    rfl
  | bigNumber v =>
    cases hb
    rfl

/-- A reply that is misread denotes no length. -/
lemma Misread.not_denotes (h : r.Misread n) {k : Nat} (hk : k < 2 ^ 64) : ¬r.Denotes k := by
  intro hdenotes
  cases h with
  | @wrapped v _ hv hn =>
    have hvalue : (k : ℤ) = v.toInt := by exact_mod_cast hdenotes.unique (.int v)
    omega
  | below h =>
    have hvalue := hdenotes.unique (.double true _)
    rw [← hvalue] at h
    exact absurd h (not_lt.mpr (Nat.cast_nonneg k))
  | between hlow hhigh =>
    have hvalue := hdenotes.unique (.double false _)
    rw [← hvalue] at hlow hhigh
    have hlow' : n.toNat < k := by exact_mod_cast hlow
    have hhigh' : k < n.toNat + 1 := by exact_mod_cast hhigh
    omega
  | above h =>
    have hvalue := hdenotes.unique (.double false _)
    rw [← hvalue] at h
    have hle : 2 ^ 64 ≤ k := by exact_mod_cast h
    omega
  | infinite negative => cases hdenotes
  | nan => cases hdenotes

lemma toLength_positive (m : Magnitude) : (Reply.double (.finite false m)).toLength =
    .ok (UInt64.ofNat (min (units m / Double.unitsInOne) maxLength)) := by
  rw [← truncated_eq]
  rfl

/-- What is misread is told. -/
lemma Misread.told (h : r.Misread n) : r.toLength = .ok n := by
  cases h with
  | @wrapped v _ hv hn =>
    have hbits := toNat_toUInt64 v
    rw [if_pos hv, ← hn] at hbits
    have heq : v.toUInt64 = n := UInt64.toNat_inj.mp (by omega)
    rw [← heq]
    rfl
  | below h => rfl
  | @between m _ hlow hhigh =>
    rw [toLength_positive, whole_eq hlow.le hhigh, Nat.min_eq_left (toNat_le_maxLength n),
      UInt64.ofNat_toNat]
  | @above m h =>
    have hle : 2 ^ 64 < units m / Double.unitsInOne + 1 := by
      exact_mod_cast h.trans_lt (value_between m).2
    have hmax : maxLength ≤ units m / Double.unitsInOne := by
      rw [maxLength]
      omega
    rw [toLength_positive, Nat.min_eq_right hmax]
    rfl
  | infinite negative => cases negative <;> rfl
  | nan => rfl

/-- A length that a reply denotes is told, but numbers that are marked as big are refused. -/
lemma Denotes.told {a : ℚ} (h : r.Denotes a) (ha : a = n.toNat) :
    r.toLength = .ok n ∨ ∃ v, r = .bigNumber v := by
  cases h with
  | int v =>
    have hv : v.toInt = n.toNat := by exact_mod_cast ha
    have hbits := toNat_toUInt64 v
    rw [if_neg (by omega), hv] at hbits
    have heq : v.toUInt64 = n := UInt64.toNat_inj.mp (by omega)
    left
    rw [← heq]
    rfl
  | simple h =>
    rw [Nat.cast_inj.mp ha] at h
    exact Or.inl (lengthOfText_eq_ok_iff.mpr h)
  | bulk htext h =>
    rw [Nat.cast_inj.mp ha] at h
    left
    simp only [toLength, error?, htext]
    exact lengthOfText_eq_ok_iff.mpr h
  | double negative m =>
    left
    cases negative with
    | false =>
      have hwhole := whole_eq ha.ge (by rw [ha]; exact lt_add_one _)
      rw [toLength_positive, hwhole, Nat.min_eq_left (toNat_le_maxLength n), UInt64.ofNat_toNat]
    | true =>
      have hle : (n.toNat : ℚ) ≤ 0 := by
        rw [← ha, value_negative]
        exact neg_nonpos_of_nonneg (value_nonneg m)
      have hzero : n.toNat = 0 := by
        have : n.toNat ≤ 0 := by exact_mod_cast hle
        omega
      obtain rfl : n = 0 := UInt64.toNat_inj.mp hzero
      rfl
  | bigNumber v => exact Or.inr ⟨v, rfl⟩

end Reply

/-! ### Questions about lengths -/

/-- A fault of the read of the key, or the number that the reply denotes. -/
inductive Honest (key : String) : Outcome → Except Fault UInt64 → Prop where
  | refused (o : Outcome) (reason : String) : Honest key o (.error (.read key reason))
  | denoted {r : Reply} {n : UInt64} (h : r.Denotes n.toNat) : Honest key (.ok r) (.ok n)

/-- What comes of a question about a key, by what came back. -/
structure Reported (key : String) (o : Outcome) (result : Except Fault UInt64) : Prop where
  /-- It is honest exactly if the reply is not misread. -/
  honest : Honest key o result ↔ ¬∃ r n, o = .ok r ∧ r.Misread n
  /-- A reply that is misread denotes no length, and yet one is told. -/
  invented : ∀ r n, o = .ok r → r.Misread n →
    result = .ok n ∧ ∀ k : Nat, k < 2 ^ 64 → ¬r.Denotes k
  /-- A length that is denoted is told, but numbers that are marked as big are refused. -/
  kept : ∀ r (n : UInt64), o = .ok r → r.Denotes n.toNat → result = .ok n ∨ ∃ v, r = .bigNumber v

namespace Session

lemma honest_toLength {key : String} {o : Outcome} (h : ¬∃ r n, o = .ok r ∧ r.Misread n) :
    Honest key o (toLength key o) := by
  cases o with
  | error cause => exact .refused _ cause.message
  | ok r =>
    cases hlength : r.toLength with
    | error cause =>
      simp only [toLength, hlength]
      exact .refused _ cause.message
    | ok n =>
      simp only [toLength, hlength]
      rcases Reply.denotes_or_misread hlength with hdenotes | hmisread
      · exact .denoted hdenotes
      · exact absurd ⟨r, n, rfl, hmisread⟩ h

lemma reported_toLength (key : String) (o : Outcome) : Reported key o (toLength key o) := by
  have hinvented : ∀ r n, o = .ok r → r.Misread n →
      toLength key o = .ok n ∧ ∀ k : Nat, k < 2 ^ 64 → ¬r.Denotes k := by
    rintro r n rfl h
    refine ⟨?_, fun k hk => h.not_denotes hk⟩
    simp only [toLength, h.told]
  refine ⟨⟨?_, honest_toLength⟩, hinvented, ?_⟩
  · rintro hhonest ⟨r, n, rfl, h⟩
    obtain ⟨htold, hnot⟩ := hinvented r n rfl h
    rw [htold] at hhonest
    cases hhonest with
    | denoted hdenotes => exact hnot _ n.toNat_lt hdenotes
  · rintro r n rfl h
    rcases h.told rfl with htold | hbig
    · left
      simp only [toLength, htold]
    · exact Or.inr hbig

lemma forall₂_reported (keys : List String) (os : List Outcome) :
    List.Forall₂ (fun question result => Reported question.1 question.2 result) (keys.zip os)
      (List.zipWith toLength keys os) := by
  induction keys generalizing os with
  | nil => exact .nil
  | cons key keys ih =>
    cases os with
    | nil => exact .nil
    | cons o os => exact .cons (reported_toLength key o) (ih os)

/-- Every question about a key ends in a fault of its read, or in the length that the reply denotes,
unless the reply is misread. The negative integers and the doubles that are no lengths are misread,
and these without exception. -/
theorem lengths_reported (s : Session) (keys : List String) :
    (s.exchange (keys.map .llen)).1.length = keys.length ∧
    List.Forall₂ (fun question result => Reported question.1 question.2 result)
      (keys.zip (s.exchange (keys.map .llen)).1) (s.lengths keys).1 := by
  constructor
  · rw [exchange_length, List.length_map]
  · exact forall₂_reported keys _

/-- A peer that gives one answer to every question about a length. -/
def answeringLengths (answer : String) : Peer :=
  { obliging with llen := fun _ _ => .answer (Utf8.encode answer) }

lemma minus_one_misread : (Reply.int (-1)).Misread 18446744073709551615 :=
  .wrapped (by decide) (by decide)

/-- A server that answers with a negative integer is reported to hold the longest of all queues. -/
theorem minus_one_told_as_length :
    ((exchange ⟨answeringLengths ":-1\r\n", .fresh⟩ [.llen "urls"]).1 = [.ok (.int (-1))]) ∧
    (lengths ⟨answeringLengths ":-1\r\n", .fresh⟩ ["urls"]).1 = [.ok 18446744073709551615] ∧
    ¬Honest "urls" (.ok (.int (-1))) (.ok 18446744073709551615) := by
  refine ⟨rfl, rfl, fun h => ?_⟩
  cases h with
  | denoted hdenotes => exact minus_one_misread.not_denotes (by decide) hdenotes

end Session

end Redis

end Backlog
