import Backlog.Text.Utf8
import Mathlib.Tactic.Common

/-!
# UTF-8 read and written

The strict reader accepts the encodings of texts and nothing else: overlong forms, surrogates,
values beyond the last code point, stray and missing bytes are all faults. The core is a fact about
one character: the bytes that begin and complete it are those of its encoding.
-/

namespace Backlog.Utf8

/-- What a character has become after some of its bytes, and the bytes that are still to come. -/
def Lead.Completes : Lead → List UInt8 → Char → Prop
  | .whole d, bs, c => bs = [] ∧ d = c
  | .begun _, [], _ => False
  | .begun p, b :: bs, c => p.accepts b = true ∧ (p.push b).Completes bs c
  | .fault, _, _ => False

/-- Bytes that make up one character. -/
def Spells : List UInt8 → Char → Prop
  | [], _ => False
  | b :: bs, c => (lead b).Completes bs c

lemma exists_split_cons {P Q : List UInt8 → Prop} (hnil : ¬P []) (b : UInt8) (bs : List UInt8) :
    (∃ first rest, b :: bs = first ++ rest ∧ P first ∧ Q rest) ↔
      ∃ more rest, bs = more ++ rest ∧ P (b :: more) ∧ Q rest := by
  constructor
  · rintro ⟨first, rest, hsplit, hfirst, hrest⟩
    cases first with
    | nil => exact absurd hfirst hnil
    | cons d more =>
      obtain ⟨rfl, rfl⟩ := List.cons.inj hsplit
      exact ⟨more, rest, rfl, hfirst, hrest⟩
  · rintro ⟨more, rest, rfl, hfirst, hrest⟩
    exact ⟨b :: more, rest, rfl, hfirst, hrest⟩

/-- What the reader makes of the bytes after a lead. -/
def partsFrom (l : Lead) (bytes : List UInt8) : List (Option Char) :=
  match l with
  | .whole c => some c :: parts bytes
  | .begun p => partsAfter p bytes
  | .fault => none :: parts bytes

lemma parts_cons (b : UInt8) (bs : List UInt8) : parts (b :: bs) = partsFrom (lead b) bs := by
  rw [parts]
  rfl

lemma partsFrom_begun_of_accepts {p : Begun} {b : UInt8} (h : p.accepts b = true)
    (bs : List UInt8) : partsFrom (.begun p) (b :: bs) = partsFrom (p.push b) bs := by
  rw [partsFrom, partsAfter, if_pos h]
  rfl

lemma partsFrom_eq_some_cons_iff {l : Lead} {bytes : List UInt8} {c : Char}
    {tail : List (Option Char)} : partsFrom l bytes = some c :: tail ↔
      ∃ first rest, bytes = first ++ rest ∧ l.Completes first c ∧ parts rest = tail := by
  induction bytes generalizing l with
  | nil =>
    cases l with
    | whole d => simp [partsFrom, Lead.Completes, eq_comm]
    | begun p => simp [partsFrom, partsAfter, Lead.Completes]
    | fault => simp [partsFrom, Lead.Completes]
  | cons b bs ih =>
    cases l with
    | whole d => simp [partsFrom, Lead.Completes, and_assoc]
    | begun p =>
      rw [exists_split_cons (by simp [Lead.Completes])]
      by_cases haccepts : p.accepts b = true
      · rw [partsFrom_begun_of_accepts haccepts, ih]
        simp only [Lead.Completes, haccepts, true_and]
      · simp [partsFrom, partsAfter, Lead.Completes, haccepts]
    | fault => simp [partsFrom, Lead.Completes]

/-- The reader finds a character exactly where bytes that spell it come first. -/
lemma parts_eq_some_cons_iff {bytes : List UInt8} {c : Char} {tail : List (Option Char)} :
    parts bytes = some c :: tail ↔
      ∃ first rest, bytes = first ++ rest ∧ Spells first c ∧ parts rest = tail := by
  cases bytes with
  | nil =>
    rw [parts]
    simp [Spells]
  | cons b bs =>
    rw [parts_cons, partsFrom_eq_some_cons_iff, exists_split_cons (by simp [Spells])]
    rfl

/-! ### One character -/

lemma accepts_iff {p : Begun} {b : UInt8} :
    p.accepts b = true ↔ p.low.toNat ≤ b.toNat ∧ b.toNat ≤ p.high.toNat := by
  rw [Begun.accepts, Bool.and_eq_true, decide_eq_true_eq, decide_eq_true_eq, UInt8.le_iff_toNat_le,
    UInt8.le_iff_toNat_le]

lemma completes_last_iff {value : Nat} {bs : List UInt8} {c : Char} :
    (Lead.begun ⟨1, 0x80, 0xbf, value⟩).Completes bs c ↔
      ∃ b, bs = [b] ∧ 0x80 ≤ b.toNat ∧ b.toNat ≤ 0xbf ∧
        Char.ofNat (value * 64 + (b.toNat - 0x80)) = c := by
  cases bs with
  | nil => simp [Lead.Completes]
  | cons b rest =>
    have hpush : (Begun.mk 1 0x80 0xbf value).push b =
        .whole (Char.ofNat (value * 64 + (b.toNat - 0x80))) := by
      simp [Begun.push]
    rw [Lead.Completes, accepts_iff, hpush]
    simp only [Lead.Completes, List.cons.injEq]
    constructor
    · rintro ⟨⟨hlow, hhigh⟩, rfl, hc⟩
      exact ⟨b, ⟨rfl, rfl⟩, hlow, hhigh, hc⟩
    · rintro ⟨_, ⟨rfl, rfl⟩, hlow, hhigh, hc⟩
      exact ⟨⟨hlow, hhigh⟩, rfl, hc⟩

lemma completes_more_iff {n : Nat} {low high : UInt8} {value : Nat} {bs : List UInt8} {c : Char} :
    (Lead.begun ⟨n + 2, low, high, value⟩).Completes bs c ↔
      ∃ b rest, bs = b :: rest ∧ low.toNat ≤ b.toNat ∧ b.toNat ≤ high.toNat ∧
        (Lead.begun ⟨n + 1, 0x80, 0xbf, value * 64 + (b.toNat - 0x80)⟩).Completes rest c := by
  cases bs with
  | nil => simp [Lead.Completes]
  | cons b rest =>
    have hpush : (Begun.mk (n + 2) low high value).push b =
        .begun ⟨n + 1, 0x80, 0xbf, value * 64 + (b.toNat - 0x80)⟩ := by
      simp [Begun.push]
    rw [Lead.Completes, accepts_iff, hpush]
    simp only [List.cons.injEq]
    constructor
    · rintro ⟨⟨hlow, hhigh⟩, hrest⟩
      exact ⟨b, rest, ⟨rfl, rfl⟩, hlow, hhigh, hrest⟩
    · rintro ⟨_, _, ⟨rfl, rfl⟩, hlow, hhigh, hrest⟩
      exact ⟨⟨hlow, hhigh⟩, hrest⟩

lemma lead_one {b : UInt8} (h : b.toNat < 0x80) : lead b = .whole (Char.ofNat b.toNat) := by
  simp [lead, h]

lemma lead_two {b : UInt8} (h : 0xc2 ≤ b.toNat) (h' : b.toNat < 0xe0) :
    lead b = .begun ⟨1, 0x80, 0xbf, b.toNat - 0xc0⟩ := by
  have h₁ : ¬b.toNat < 0x80 := by omega
  have h₂ : ¬b.toNat < 0xc2 := by omega
  simp only [lead, h₁, h₂, h', if_true, if_false]

/-- The second byte of three: lower would write a value in too many bytes, higher a surrogate. -/
lemma lead_three {b : UInt8} (h : 0xe0 ≤ b.toNat) (h' : b.toNat < 0xf0) :
    ∃ low high : UInt8, lead b = .begun ⟨2, low, high, b.toNat - 0xe0⟩ ∧
      (low.toNat = if b.toNat = 0xe0 then 0xa0 else 0x80) ∧
      (high.toNat = if b.toNat = 0xed then 0x9f else 0xbf) := by
  have h₁ : ¬b.toNat < 0x80 := by omega
  have h₂ : ¬b.toNat < 0xc2 := by omega
  have h₃ : ¬b.toNat < 0xe0 := by omega
  simp only [lead, h₁, h₂, h₃, h', if_true, if_false]
  exact ⟨_, _, rfl, by split <;> rfl, by split <;> rfl⟩

/-- The second byte of four: higher would write a value that is no code point. -/
lemma lead_four {b : UInt8} (h : 0xf0 ≤ b.toNat) (h' : b.toNat < 0xf5) :
    ∃ low high : UInt8, lead b = .begun ⟨3, low, high, b.toNat - 0xf0⟩ ∧
      (low.toNat = if b.toNat = 0xf0 then 0x90 else 0x80) ∧
      (high.toNat = if b.toNat = 0xf4 then 0x8f else 0xbf) := by
  have h₁ : ¬b.toNat < 0x80 := by omega
  have h₂ : ¬b.toNat < 0xc2 := by omega
  have h₃ : ¬b.toNat < 0xe0 := by omega
  have h₄ : ¬b.toNat < 0xf0 := by omega
  simp only [lead, h₁, h₂, h₃, h₄, h', if_true, if_false]
  exact ⟨_, _, rfl, by split <;> rfl, by split <;> rfl⟩

lemma lead_none {b : UInt8} (h : 0x80 ≤ b.toNat) (h' : b.toNat < 0xc2 ∨ 0xf5 ≤ b.toNat) :
    lead b = .fault := by
  have h₁ : ¬b.toNat < 0x80 := by omega
  by_cases h₂ : b.toNat < 0xc2
  · simp only [lead, h₁, h₂, if_true, if_false]
  · have h₃ : ¬b.toNat < 0xe0 := by omega
    have h₄ : ¬b.toNat < 0xf0 := by omega
    have h₅ : ¬b.toNat < 0xf5 := by omega
    simp only [lead, h₁, h₂, h₃, h₄, h₅, if_false]

/-- The encoding of a code point, by its number. -/
lemma utf8EncodeChar_ofNat {n : Nat} (h : n.isValidChar) :
    String.utf8EncodeChar (Char.ofNat n) =
      if n ≤ 0x7f then [UInt8.ofNat n]
      else if n ≤ 0x7ff then [UInt8.ofNat (n / 64 % 32 + 0xc0), UInt8.ofNat (n % 64 + 0x80)]
      else if n ≤ 0xffff then
        [UInt8.ofNat (n / 4096 % 16 + 0xe0), UInt8.ofNat (n / 64 % 64 + 0x80),
          UInt8.ofNat (n % 64 + 0x80)]
      else
        [UInt8.ofNat (n / 262144 % 8 + 0xf0), UInt8.ofNat (n / 4096 % 64 + 0x80),
          UInt8.ofNat (n / 64 % 64 + 0x80), UInt8.ofNat (n % 64 + 0x80)] := by
  have hv : (Char.ofNat n).val.toNat = n := by
    rw [Char.ofNat, dif_pos h]
    rfl
  rw [String.utf8EncodeChar, hv]

lemma eq_ofNat {n : Nat} {b : UInt8} (h : b.toNat = n) : b = UInt8.ofNat n := by
  rw [← h, UInt8.ofNat_toNat]

section Scalars

variable {b b₁ b₂ b₃ : UInt8}

lemma encode_two (h : 0xc2 ≤ b.toNat) (h' : b.toNat < 0xe0)
    (h₁ : 0x80 ≤ b₁.toNat ∧ b₁.toNat ≤ 0xbf) :
    [b, b₁] = String.utf8EncodeChar
      (Char.ofNat ((b.toNat - 0xc0) * 64 + (b₁.toNat - 0x80))) := by
  rw [utf8EncodeChar_ofNat (Or.inl (by omega)), if_neg (by omega), if_pos (by omega),
    ← eq_ofNat (b := b) (by omega), ← eq_ofNat (b := b₁) (by omega)]

lemma encode_three (h : 0xe0 ≤ b.toNat) (h' : b.toNat < 0xf0)
    (h₁ : 0x80 ≤ b₁.toNat ∧ b₁.toNat ≤ 0xbf) (hlow : b.toNat = 0xe0 → 0xa0 ≤ b₁.toNat)
    (hhigh : b.toNat = 0xed → b₁.toNat ≤ 0x9f) (h₂ : 0x80 ≤ b₂.toNat ∧ b₂.toNat ≤ 0xbf) :
    [b, b₁, b₂] = String.utf8EncodeChar
      (Char.ofNat (((b.toNat - 0xe0) * 64 + (b₁.toNat - 0x80)) * 64 + (b₂.toNat - 0x80))) := by
  rw [utf8EncodeChar_ofNat (by unfold Nat.isValidChar; omega), if_neg (by omega),
    if_neg (by omega), if_pos (by omega), ← eq_ofNat (b := b) (by omega),
    ← eq_ofNat (b := b₁) (by omega), ← eq_ofNat (b := b₂) (by omega)]

lemma encode_four (h : 0xf0 ≤ b.toNat) (h' : b.toNat < 0xf5)
    (h₁ : 0x80 ≤ b₁.toNat ∧ b₁.toNat ≤ 0xbf) (hlow : b.toNat = 0xf0 → 0x90 ≤ b₁.toNat)
    (hhigh : b.toNat = 0xf4 → b₁.toNat ≤ 0x8f) (h₂ : 0x80 ≤ b₂.toNat ∧ b₂.toNat ≤ 0xbf)
    (h₃ : 0x80 ≤ b₃.toNat ∧ b₃.toNat ≤ 0xbf) :
    [b, b₁, b₂, b₃] = String.utf8EncodeChar
      (Char.ofNat ((((b.toNat - 0xf0) * 64 + (b₁.toNat - 0x80)) * 64 + (b₂.toNat - 0x80)) * 64 +
        (b₃.toNat - 0x80))) := by
  rw [utf8EncodeChar_ofNat (by unfold Nat.isValidChar; omega), if_neg (by omega),
    if_neg (by omega), if_neg (by omega), ← eq_ofNat (b := b) (by omega),
    ← eq_ofNat (b := b₁) (by omega), ← eq_ofNat (b := b₂) (by omega),
    ← eq_ofNat (b := b₃) (by omega)]

end Scalars

theorem eq_encode_of_spells {bytes : List UInt8} {c : Char} (h : Spells bytes c) :
    bytes = String.utf8EncodeChar c := by
  cases bytes with
  | nil => exact h.elim
  | cons b bs =>
    rw [Spells] at h
    by_cases hone : b.toNat < 0x80
    · rw [lead_one hone, Lead.Completes] at h
      obtain ⟨rfl, rfl⟩ := h
      rw [utf8EncodeChar_ofNat (Or.inl (by omega)), if_pos (by omega), ← eq_ofNat rfl]
    by_cases htwo : 0xc2 ≤ b.toNat ∧ b.toNat < 0xe0
    · rw [lead_two htwo.1 htwo.2, completes_last_iff] at h
      obtain ⟨b₁, rfl, hlow, hhigh, rfl⟩ := h
      exact encode_two htwo.1 htwo.2 ⟨hlow, hhigh⟩
    by_cases hthree : 0xe0 ≤ b.toNat ∧ b.toNat < 0xf0
    · obtain ⟨low, high, hlead, hlow, hhigh⟩ := lead_three hthree.1 hthree.2
      rw [hlead, completes_more_iff] at h
      obtain ⟨b₁, rest, rfl, hlow₁, hhigh₁, h⟩ := h
      rw [completes_last_iff] at h
      obtain ⟨b₂, rfl, hlow₂, hhigh₂, rfl⟩ := h
      exact encode_three hthree.1 hthree.2 (by grind) (by grind) (by grind) ⟨hlow₂, hhigh₂⟩
    by_cases hfour : 0xf0 ≤ b.toNat ∧ b.toNat < 0xf5
    · obtain ⟨low, high, hlead, hlow, hhigh⟩ := lead_four hfour.1 hfour.2
      rw [hlead, completes_more_iff] at h
      obtain ⟨b₁, rest, rfl, hlow₁, hhigh₁, h⟩ := h
      rw [completes_more_iff] at h
      obtain ⟨b₂, rest, rfl, hlow₂, hhigh₂, h⟩ := h
      rw [completes_last_iff] at h
      obtain ⟨b₃, rfl, hlow₃, hhigh₃, rfl⟩ := h
      exact encode_four hfour.1 hfour.2 (by grind) (by grind) (by grind) ⟨hlow₂, hhigh₂⟩
        ⟨hlow₃, hhigh₃⟩
    · rw [lead_none (by omega) (by omega), Lead.Completes] at h
      exact h.elim

lemma toNat_ofNat_of_lt {n : Nat} (h : n < 256) : (UInt8.ofNat n).toNat = n := by
  rw [UInt8.toNat_ofNat', Nat.mod_eq_of_lt h]

lemma ofNat_eq_of_toNat {n : Nat} {c : Char} (h : n = c.toNat) : Char.ofNat n = c := by
  rw [h, Char.ofNat_toNat]

theorem spells_encode (c : Char) : Spells (String.utf8EncodeChar c) c := by
  have hvalid : c.toNat < 0xd800 ∨ 0xdfff < c.toNat ∧ c.toNat < 0x110000 := c.valid
  have hc := utf8EncodeChar_ofNat (n := c.toNat) c.valid
  rw [Char.ofNat_toNat] at hc
  have hlast := toNat_ofNat_of_lt (n := c.toNat % 64 + 0x80) (by omega)
  have hmiddle := toNat_ofNat_of_lt (n := c.toNat / 64 % 64 + 0x80) (by omega)
  rw [hc]
  by_cases hone : c.toNat ≤ 0x7f
  · have hb := toNat_ofNat_of_lt (n := c.toNat) (by omega)
    rw [if_pos hone, Spells, lead_one (by omega), hb, Char.ofNat_toNat]
    exact ⟨rfl, rfl⟩
  rw [if_neg hone]
  by_cases htwo : c.toNat ≤ 0x7ff
  · have hb := toNat_ofNat_of_lt (n := c.toNat / 64 % 32 + 0xc0) (by omega)
    rw [if_pos htwo, Spells, lead_two (by omega) (by omega), completes_last_iff]
    exact ⟨_, rfl, by omega, by omega, ofNat_eq_of_toNat (by omega)⟩
  rw [if_neg htwo]
  by_cases hthree : c.toNat ≤ 0xffff
  · have hb := toNat_ofNat_of_lt (n := c.toNat / 4096 % 16 + 0xe0) (by omega)
    rw [if_pos hthree, Spells]
    generalize UInt8.ofNat (c.toNat / 4096 % 16 + 0xe0) = b at hb ⊢
    obtain ⟨low, high, hlead, hlow, hhigh⟩ := lead_three (b := b) (by omega) (by omega)
    rw [hlead, completes_more_iff]
    refine ⟨_, _, rfl, ?_, ?_, ?_⟩
    · split at hlow <;> omega
    · split at hhigh <;> omega
    · rw [completes_last_iff]
      exact ⟨_, rfl, by omega, by omega, ofNat_eq_of_toNat (by omega)⟩
  · have hb := toNat_ofNat_of_lt (n := c.toNat / 262144 % 8 + 0xf0) (by omega)
    have hb₁ := toNat_ofNat_of_lt (n := c.toNat / 4096 % 64 + 0x80) (by omega)
    rw [if_neg hthree, Spells]
    generalize UInt8.ofNat (c.toNat / 262144 % 8 + 0xf0) = b at hb ⊢
    obtain ⟨low, high, hlead, hlow, hhigh⟩ := lead_four (b := b) (by omega) (by omega)
    rw [hlead, completes_more_iff]
    refine ⟨_, _, rfl, ?_, ?_, ?_⟩
    · split at hlow <;> omega
    · split at hhigh <;> omega
    · rw [completes_more_iff]
      refine ⟨_, _, rfl, ?_, ?_, ?_⟩
      · change 0x80 ≤ _
        omega
      · change _ ≤ 0xbf
        omega
      · rw [completes_last_iff]
        exact ⟨_, rfl, by omega, by omega, ofNat_eq_of_toNat (by omega)⟩

theorem spells_iff {bytes : List UInt8} {c : Char} :
    Spells bytes c ↔ bytes = String.utf8EncodeChar c := by
  constructor
  · exact eq_encode_of_spells
  · rintro rfl
    exact spells_encode c

/-! ### Texts -/

lemma partsFrom_ne_nil (l : Lead) (bytes : List UInt8) : partsFrom l bytes ≠ [] := by
  induction bytes generalizing l with
  | nil => cases l <;> simp [partsFrom, partsAfter]
  | cons b bs ih =>
    cases l with
    | whole c => simp [partsFrom]
    | begun p =>
      by_cases haccepts : p.accepts b = true
      · rw [partsFrom_begun_of_accepts haccepts]
        exact ih _
      · simp [partsFrom, partsAfter, haccepts]
    | fault => simp [partsFrom]

lemma parts_eq_nil_iff {bytes : List UInt8} : parts bytes = [] ↔ bytes = [] := by
  cases bytes with
  | nil => simp [parts]
  | cons b bs =>
    rw [parts_cons]
    simp [partsFrom_ne_nil]

theorem parts_eq_map_some_iff {bytes : List UInt8} {cs : List Char} :
    parts bytes = cs.map some ↔ bytes = cs.flatMap String.utf8EncodeChar := by
  induction cs generalizing bytes with
  | nil => exact parts_eq_nil_iff
  | cons c rest ih =>
    rw [List.map_cons, parts_eq_some_cons_iff, List.flatMap_cons]
    constructor
    · rintro ⟨first, more, rfl, hfirst, hmore⟩
      rw [spells_iff.mp hfirst, ih.mp hmore]
    · rintro rfl
      exact ⟨_, _, rfl, spells_iff.mpr rfl, ih.mpr rfl⟩

lemma mapM_id_eq_some_iff {parts : List (Option Char)} {cs : List Char} :
    parts.mapM id = some cs ↔ parts = cs.map some := by
  induction parts generalizing cs with
  | nil => cases cs <;> simp
  | cons part rest ih =>
    cases part with
    | none => cases cs <;> simp
    | some c => cases cs <;> simp [Option.bind_eq_some_iff, ih, and_left_comm]

/-- The strict reader gives a text back exactly if it is given the encoding of that text. -/
theorem decode?_eq_some_iff {bytes : List UInt8} {s : String} :
    decode? bytes = some s ↔ bytes = encode s := by
  rw [decode?, Option.map_eq_some_iff]
  constructor
  · rintro ⟨cs, hcs, rfl⟩
    rw [mapM_id_eq_some_iff, parts_eq_map_some_iff] at hcs
    rw [encode, String.toList_ofList, hcs]
  · rintro rfl
    refine ⟨s.toList, ?_, String.ofList_toList⟩
    rw [mapM_id_eq_some_iff, parts_eq_map_some_iff, encode]

lemma decode?_encode (s : String) : decode? (encode s) = some s := decode?_eq_some_iff.mpr rfl

end Backlog.Utf8
