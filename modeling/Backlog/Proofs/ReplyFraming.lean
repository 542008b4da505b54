import Backlog.Redis.Resp
import Mathlib.Tactic.Common

/-!
# Replies frame themselves

How many bytes a reply takes is decided by those bytes: whatever follows them on the wire is left as
it is. So replies sent one after the other are read back one by one, wherever the reading stops in
between.
-/

namespace Backlog.Redis.Resp

/-- Reading is decided by the bytes it takes. More bytes behind them stay unread. -/
def Framed {α : Type} (read : Decoder α) : Prop :=
  ∀ bytes a rest more, read bytes = .ok (a, rest) → read (bytes ++ more) = .ok (a, rest ++ more)

section Combinators

variable {α β : Type}

lemma framed_pure (a : α) : Framed (fun bytes => .ok (a, bytes)) := by
  intro bytes b rest more h
  obtain ⟨rfl, rfl⟩ := Prod.mk.inj (Except.ok.inj h)
  rfl

lemma framed_throw (t : Trouble) : Framed (fun _ => .error t : Decoder α) := by
  intro bytes a rest more h
  cases h

lemma Framed.bind {read : Decoder α} {further : α × List UInt8 → Except Trouble (β × List UInt8)}
    (hread : Framed read) (hfurther : ∀ a, Framed fun rest => further (a, rest)) :
    Framed fun bytes => read bytes >>= further := by
  intro bytes b rest more h
  dsimp only at h ⊢
  cases hfirst : read bytes with
  | error t =>
    rw [hfirst] at h
    cases h
  | ok p =>
    rw [hfirst] at h
    rw [hread bytes p.1 p.2 more hfirst]
    exact hfurther p.1 p.2 b rest more h

lemma Framed.map {read : Decoder α} (hread : Framed read) (f : α → β) :
    Framed fun bytes => (read bytes).map fun p => (f p.1, p.2) := by
  intro bytes b rest more h
  dsimp only at h ⊢
  cases hfirst : read bytes with
  | error t =>
    rw [hfirst] at h
    cases h
  | ok p =>
    rw [hfirst] at h
    obtain ⟨rfl, rfl⟩ := Prod.mk.inj (Except.ok.inj h)
    rw [hread bytes p.1 p.2 more hfirst]
    rfl

/-- So many of one form, one after the other. -/
lemma framed_times {item : Decoder α} (hitem : Framed item) (n : Nat) : Framed (times item n) := by
  induction n with
  | zero => exact framed_pure []
  | succ n ih =>
    have hstep : times item (n + 1) = fun bytes => item bytes >>= fun p =>
        times item n p.2 >>= fun q => .ok (p.1 :: q.1, q.2) := rfl
    rw [hstep]
    apply hitem.bind
    intro a
    dsimp only
    apply ih.bind
    intro as
    exact framed_pure (a :: as)

lemma framed_pair {item : Decoder α} (hitem : Framed item) : Framed (pair item) := by
  unfold pair
  apply hitem.bind
  intro a
  apply hitem.bind
  intro b
  exact framed_pure (a, b)

end Combinators

/-! ### Lines and blocks -/

lemma splitLine?_cons {b : UInt8} {bytes : List UInt8}
    (h : ∀ rest, b = 13 → bytes = 10 :: rest → False) :
    splitLine? (b :: bytes) = (splitLine? bytes).map fun p => (b :: p.1, p.2) := by
  rw [splitLine?]
  exact h

lemma splitLine?_append {bytes text rest : List UInt8} (more : List UInt8)
    (h : splitLine? bytes = some (text, rest)) :
    splitLine? (bytes ++ more) = some (text, rest ++ more) := by
  induction bytes using splitLine?.induct generalizing text with
  | case1 => cases h
  | case2 rest' =>
    obtain ⟨rfl, rfl⟩ := Prod.mk.inj (Option.some.inj h)
    rfl
  | case3 b bytes hend ih =>
    rw [splitLine?_cons hend] at h
    obtain ⟨p, hp, hpair⟩ := Option.map_eq_some_iff.mp h
    obtain ⟨rfl, rfl⟩ := Prod.mk.inj hpair
    -- The line goes on, so what is added does not complete a line end here.
    have hmore : ∀ rest', b = 13 → bytes ++ more = 10 :: rest' → False := by
      intro rest' hb hbytes
      cases bytes with
      | nil => cases hp
      | cons b' bytes' =>
        obtain ⟨rfl, _⟩ := List.cons.inj hbytes
        exact hend bytes' hb rfl
    rw [List.cons_append, splitLine?_cons hmore, ih hp]
    rfl

lemma framed_line : Framed line := by
  intro bytes s rest more h
  unfold line at h ⊢
  cases hsplit : splitLine? bytes with
  | none =>
    rw [hsplit] at h
    cases h
  | some p =>
    rw [hsplit] at h
    rw [splitLine?_append more hsplit]
    dsimp only at h ⊢
    split at h
    · cases h
    · next s' hs =>
      obtain ⟨rfl, rfl⟩ := Prod.mk.inj (Except.ok.inj h)
      rfl

lemma framed_lineOf {α : Type} (read : List Char → Option α) : Framed (lineOf read) := by
  unfold lineOf
  apply framed_line.bind
  intro s
  dsimp only
  split
  · exact framed_pure _
  · exact framed_throw _

lemma lineEnd_append {bytes rest : List UInt8} (more : List UInt8)
    (h : lineEnd bytes = .ok rest) : lineEnd (bytes ++ more) = .ok (rest ++ more) := by
  unfold lineEnd at h
  split at h
  · obtain rfl := Except.ok.inj h
    rfl
  all_goals cases h

lemma framed_block (size : Nat) : Framed (block size) := by
  intro bytes text rest more h
  unfold block at h ⊢
  split at h
  · cases h
  · next henough =>
    have hsize : size ≤ bytes.length := by omega
    have hmore : ¬(bytes ++ more).length < size := by
      rw [List.length_append]
      omega
    rw [if_neg hmore, List.drop_append_of_le_length hsize, List.take_append_of_le_length hsize]
    cases hend : lineEnd (bytes.drop size) with
    | error t =>
      rw [hend] at h
      cases h
    | ok after =>
      rw [hend] at h
      obtain ⟨rfl, rfl⟩ := Prod.mk.inj (Except.ok.inj h)
      rw [lineEnd_append more hend]
      rfl

lemma framed_textBlock : Framed textBlock := by
  unfold textBlock
  apply (framed_lineOf signed).bind
  intro size
  dsimp only
  split_ifs
  · exact framed_throw _
  · apply (framed_block _).bind
    intro text
    dsimp only
    split
    · exact framed_pure _
    · exact framed_throw _

/-! ### Values -/

lemma framed_bulk : Framed bulk := by
  unfold bulk
  apply (framed_lineOf signed).bind
  intro size
  dsimp only
  split_ifs
  · exact framed_pure _
  · apply (framed_block _).bind
    intro text
    exact framed_pure (Reply.bulk text)

lemma framed_verbatim : Framed verbatim := by
  unfold verbatim
  apply framed_textBlock.bind
  intro s
  dsimp only
  split
  · exact framed_throw _
  · exact framed_pure _

lemma framed_simple : Framed simple := by
  unfold simple
  apply framed_line.bind
  intro s
  exact framed_pure _

lemma framed_scalar (mark : UInt8) : Framed (scalar mark) := by
  unfold scalar
  split_ifs
  · exact framed_simple
  · exact (framed_lineOf signed).map Reply.int
  · exact framed_bulk
  · exact framed_line.map fun s => Reply.error (.ofLine s.toList)
  · exact framed_line.map fun _ => Reply.nil
  · exact (framed_lineOf _).map Reply.double
  · exact (framed_lineOf truth).map Reply.boolean
  · exact framed_textBlock.map fun s => Reply.error (.ofLine s.toList)
  · exact framed_verbatim
  · exact (framed_lineOf Numeral.integer?).map Reply.bigNumber
  · exact framed_throw .malformed

lemma framed_collection {item : Decoder Reply} (hitem : Framed item)
    (make : List Reply → Reply) : Framed (collection item make) := by
  unfold collection
  apply (framed_lineOf signed).bind
  intro size
  dsimp only
  split_ifs
  · exact framed_pure _
  · apply (framed_times hitem _).bind
    intro items
    exact framed_pure (make items)

lemma framed_entries {item : Decoder Reply} (hitem : Framed item) : Framed (entries item) := by
  unfold entries
  apply (framed_lineOf signed).bind
  intro size
  dsimp only
  split_ifs
  · exact framed_throw _
  · exact framed_times (framed_pair hitem) _

/-- A value, with all that is inside it, frames itself. The induction is on how deep collections may
go, since each of them frames itself if its parts do. -/
theorem framed_value (depth : Nat) : Framed (value depth) := by
  induction depth with
  | zero =>
    intro bytes r rest more h
    cases bytes with
    | nil => cases h
    | cons mark bytes => exact framed_scalar mark bytes r rest more h
  | succ depth ih =>
    intro bytes r rest more h
    cases bytes with
    | nil => cases h
    | cons mark bytes =>
      have hparts : Framed (value (depth + 1) <| mark :: ·) := by
        unfold value
        dsimp only
        split_ifs
        · exact framed_collection ih .array
        · exact framed_collection ih .set
        · exact (framed_entries ih).map Reply.map
        · apply (framed_entries ih).bind
          intro attributes
          exact ih
        · exact framed_scalar mark
      exact hparts bytes r rest more h

/-- What is pushed without being asked for is no value. -/
lemma value_push (bytes : List UInt8) :
    value maxDepth ('>'.toUInt8 :: bytes) = .error .malformed := rfl

lemma read_of_value {bytes rest : List UInt8} {r : Reply}
    (h : value maxDepth bytes = .ok (r, rest)) : read bytes = .ok r := by
  cases bytes with
  | nil => cases h
  | cons mark bytes =>
    rw [read, reply]
    split
    · next hmark =>
      rw [hmark, value_push] at h
      cases h
    · rw [h]
      rfl

end Backlog.Redis.Resp
