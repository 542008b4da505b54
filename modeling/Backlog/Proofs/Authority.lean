import Backlog.Proofs.Numerals
import Backlog.Redis.Address
import Mathlib.Data.List.Infix
import Mathlib.Data.List.TakeWhile

/-!
# What an address is read from

The parts of an address are cut out of a text that ends in a colon and digits. What is cut off at
the back either is nothing or still has that end, and a path with that end is no database number;
so, unless a question mark or a number sign hides the end, the host is all that stands before it.
-/

namespace Backlog.Redis

/-! ### Characters of an IPv6 text -/

namespace Ipv6

/-- The characters of which IPv6 texts are made. -/
def OfLiteral (c : Char) : Prop := (hexDigit? c).isSome = true ∨ c = ':' ∨ c = '.'

lemma mem_intercalate {sep c : Char} {parts : List (List Char)}
    (h : c ∈ [sep].intercalate parts) : c = sep ∨ ∃ part ∈ parts, c ∈ part := by
  induction parts with
  | nil => simp [List.intercalate] at h
  | cons part rest ih =>
    cases rest with
    | nil =>
      have hc : c ∈ part := by simpa [List.intercalate] using h
      exact Or.inr ⟨part, by simp, hc⟩
    | cons next rest =>
      have hc : c ∈ part ∨ c = sep ∨ c ∈ [sep].intercalate (next :: rest) := by
        simpa [List.intercalate] using h
      rcases hc with hc | hc | hc
      · exact Or.inr ⟨part, by simp, hc⟩
      · exact Or.inl hc
      · rcases ih hc with heq | ⟨p, hp, hcp⟩
        · exact Or.inl heq
        · exact Or.inr ⟨p, List.mem_cons_of_mem _ hp, hcp⟩

lemma mem_splitOn (sep : Char) {c : Char} {cs : List Char} (h : c ∈ cs) :
    c = sep ∨ ∃ part ∈ cs.splitOn sep, c ∈ part := by
  have hjoin : [sep].intercalate (cs.splitOn sep) = cs := List.intercalate_splitOn sep
  rw [← hjoin] at h
  exact mem_intercalate h

lemma mapM_some {α β : Type} {f : α → Option β} {as : List α} {bs : List β}
    (h : as.mapM f = some bs) : ∀ a ∈ as, (f a).isSome = true := by
  induction as generalizing bs with
  | nil => simp
  | cons a rest ih =>
    rw [List.mapM_cons] at h
    cases ha : f a with
    | none => simp [ha] at h
    | some b =>
      cases hrest : rest.mapM f with
      | none => simp [ha, hrest] at h
      | some bs' =>
        rw [List.forall_mem_cons]
        exact ⟨by simp [ha], ih hrest⟩

lemma ofLiteral_of_isDigit {c : Char} (h : c.isDigit = true) : OfLiteral c := by
  simp [OfLiteral, hexDigit?, h]

lemma ofLiteral_of_piece {cs : List Char} {n : Nat} (h : piece? cs = some n) :
    ∀ c ∈ cs, OfLiteral c := by
  unfold piece? at h
  split at h
  · cases h
  · obtain ⟨ds, hds, _⟩ := Option.map_eq_some_iff.mp h
    exact fun c hc => Or.inl (mapM_some hds c hc)

lemma isDigit_of_octet {cs : List Char} {n : Nat} (h : octet? cs = some n) :
    ∀ c ∈ cs, c.isDigit = true := by
  unfold octet? at h
  split at h
  · cases h
  · cases h
  · split at h
    · next hall => exact List.all_eq_true.mp hall
    · cases h

lemma ofLiteral_of_dotted {cs : List Char} {ps : List Nat} (h : dotted? cs = some ps) :
    ∀ c ∈ cs, OfLiteral c := by
  intro c hc
  cases hoctets : (cs.splitOn '.').mapM octet? with
  | none => simp [dotted?, hoctets] at h
  | some octets =>
    rcases mem_splitOn '.' hc with rfl | ⟨part, hpart, hcp⟩
    · exact Or.inr (Or.inr rfl)
    · obtain ⟨n, hn⟩ := Option.isSome_iff_exists.mp (mapM_some hoctets part hpart)
      exact ofLiteral_of_isDigit (isDigit_of_octet hn c hcp)

lemma ofLiteral_of_pieces {dottedEnd : Bool} {parts : List (List Char)} {ps : List Nat}
    (h : pieces? dottedEnd parts = some ps) : ∀ part ∈ parts, ∀ c ∈ part, OfLiteral c := by
  induction parts generalizing ps with
  | nil => simp
  | cons part rest ih =>
    cases rest with
    | nil =>
      rw [List.forall_mem_singleton]
      rw [pieces?] at h
      split at h
      · exact ofLiteral_of_dotted h
      · obtain ⟨n, hn, _⟩ := Option.map_eq_some_iff.mp h
        exact ofLiteral_of_piece hn
    | cons next rest =>
      rw [pieces?] at h
      cases hpart : piece? part with
      | none => simp [hpart] at h
      | some n =>
        cases hrest : pieces? dottedEnd (next :: rest) with
        | none => simp [hpart, hrest] at h
        | some ns =>
          rw [List.forall_mem_cons]
          exact ⟨ofLiteral_of_piece hpart, ih hrest⟩
      simp

lemma ofLiteral_of_run {dottedEnd : Bool} {cs : List Char} {ps : List Nat}
    (h : run? dottedEnd cs = some ps) : ∀ c ∈ cs, OfLiteral c := by
  intro c hc
  unfold run? at h
  split at h
  · next hempty =>
    rw [List.isEmpty_iff.mp hempty] at hc
    cases hc
  · rcases mem_splitOn ':' hc with rfl | ⟨part, hpart, hcp⟩
    · exact Or.inr (Or.inl rfl)
    · exact ofLiteral_of_pieces h part hpart c hcp

lemma mem_splitGap {c : Char} {cs : List Char} (h : c ∈ cs) :
    c = ':' ∨ c ∈ (splitGap cs).1 ∨ ∃ after, (splitGap cs).2 = some after ∧ c ∈ after := by
  induction cs using splitGap.induct with
  | case1 => cases h
  | case2 rest =>
    rcases List.mem_cons.mp h with rfl | h
    · exact Or.inl rfl
    · rcases List.mem_cons.mp h with rfl | h
      · exact Or.inl rfl
      · exact Or.inr (Or.inr ⟨rest, rfl, h⟩)
  | case3 d rest hgap ih =>
    rw [splitGap]
    · rcases List.mem_cons.mp h with rfl | h
      · exact Or.inr (Or.inl (by simp))
      · rcases ih h with heq | hbefore | hafter
        · exact Or.inl heq
        · exact Or.inr (Or.inl (List.mem_cons_of_mem _ hbefore))
        · exact Or.inr (Or.inr hafter)
    · exact hgap

theorem ofLiteral_of_read {cs : List Char} {ps : List Nat} (h : read? cs = some ps) :
    ∀ c ∈ cs, OfLiteral c := by
  intro c hc
  have hgap := mem_splitGap hc
  unfold read? at h
  split at h
  · next all heq =>
    rw [heq] at hgap
    cases hall : run? true all with
    | none => simp [hall] at h
    | some ps =>
      rcases hgap with rfl | hmem | ⟨after, hnone, _⟩
      · exact Or.inr (Or.inl rfl)
      · exact ofLiteral_of_run hall c hmem
      · cases hnone
  · next before after heq =>
    rw [heq] at hgap
    cases hleft : run? false before with
    | none => simp [hleft] at h
    | some left =>
      cases hright : run? true after with
      | none => simp [hleft, hright] at h
      | some right =>
        rcases hgap with rfl | hmem | ⟨_, hsome, hmem⟩
        · exact Or.inr (Or.inl rfl)
        · exact ofLiteral_of_run hleft c hmem
        · obtain rfl := Option.some.inj hsome
          exact ofLiteral_of_run hright c hmem

end Ipv6

namespace Address

/-! ### The path -/

lemma mem_dropWhile {p : Char → Bool} {c : Char} {cs : List Char} (h : c ∈ cs) (hc : p c = false) :
    c ∈ cs.dropWhile p := by
  rw [← List.takeWhile_append_dropWhile (p := p) (l := cs)] at h
  rcases List.mem_append.mp h with htake | hdrop
  · have := List.mem_takeWhile_imp htake
    rw [hc] at this
    cases this
  · exact hdrop

lemma mem_trimSlashes {c : Char} {cs : List Char} (h : c ∈ cs) (hc : c ≠ '/') :
    c ∈ trimSlashes cs := by
  have hslash : (c == '/') = false := by simpa using hc
  have hfront := mem_dropWhile (p := (· == '/')) h hslash
  have hback := mem_dropWhile (p := (· == '/')) (List.mem_reverse.mpr hfront) hslash
  exact List.mem_reverse.mpr hback

/-- The last segment takes in all that stands behind the last slash. -/
lemma splitOn_append {tail : List Char} (htail : '/' ∉ tail) (front : List Char) :
    ∃ init last, (front ++ tail).splitOn '/' = init ++ [last ++ tail] := by
  induction front with
  | nil =>
    refine ⟨[], [], List.splitOnP_eq_singleton ?_⟩
    intro c hc
    simpa using fun heq : c = '/' => htail (heq ▸ hc)
  | cons c rest ih =>
    obtain ⟨init, last, hsplit⟩ := ih
    have hcons : (c :: (rest ++ tail)).splitOn '/' =
        if (c == '/') = true then [] :: (rest ++ tail).splitOn '/'
        else ((rest ++ tail).splitOn '/').modifyHead (List.cons c) :=
      List.splitOnP_cons_eq_if_modifyHead c (rest ++ tail)
    rw [List.cons_append, hcons, hsplit]
    by_cases hc : (c == '/') = true
    · exact ⟨[] :: init, last, by rw [if_pos hc, List.cons_append]⟩
    · rw [if_neg hc]
      cases init with
      | nil => exact ⟨[], c :: last, rfl⟩
      | cons first init => exact ⟨(c :: first) :: init, last, rfl⟩

lemma mem_plainDots {c : Char} {segment : List Char} (h : c ∈ segment) (hc : c ≠ '.')
    (hescape : c ∉ ['%', '2', 'e', 'E']) : c ∈ plainDots segment := by
  induction segment using plainDots.induct with
  | case1 d rest hd ih =>
    rw [plainDots, if_pos hd]
    have hrest : c ∈ rest := by
      rcases hd with rfl | rfl <;> simp_all
    exact List.mem_cons_of_mem _ (ih hrest)
  | case2 d rest hd =>
    rw [plainDots, if_neg hd]
    exact h
  | case3 rest ih =>
    rw [plainDots]
    have hrest : c ∈ rest := by simpa [hc] using h
    exact List.mem_cons_of_mem _ (ih hrest)
  | case4 segment h1 h2 =>
    rw [plainDots]
    · exact h
    · exact h1
    · exact h2

lemma resolve_concat {init : List (List Char)} {segment : List Char} (h : ':' ∈ segment) :
    resolve (init ++ [segment]) = segment :: resolve init := by
  have hmem : ':' ∈ plainDots segment := mem_plainDots h (by decide) (by decide)
  have hone : plainDots segment ≠ ['.'] := fun heq => by simp [heq] at hmem
  have htwo : plainDots segment ≠ ['.', '.'] := fun heq => by simp [heq] at hmem
  simp [resolve, List.foldl_append, hone, htwo]

lemma isDigit_or_sign_of_readSigned {cs : List Char} (h : (Numeral.readSigned? cs).isSome = true) :
    ∀ c ∈ cs, c.isDigit = true ∨ c = '-' ∨ c = '+' := by
  unfold Numeral.readSigned? at h
  split at h
  · next d rest =>
    rw [Option.isSome_map] at h
    cases hscan : Numeral.scan 9223372036854775808 0 (d :: rest) with
    | error f => simp [hscan, Except.toOption] at h
    | ok n =>
      have hdigits := ((Numeral.scan_eq_ok_iff (Nat.zero_le _)).mp hscan).1
      intro c hc
      rcases List.mem_cons.mp hc with rfl | hc
      · exact Or.inr (Or.inl rfl)
      · exact Or.inl (hdigits c hc)
  · rw [Option.isSome_map] at h
    cases hread : Numeral.read 9223372036854775807 cs with
    | error f => simp [hread, Except.toOption] at h
    | ok n =>
      obtain ⟨⟨ds, hcs, _, hdigits, _⟩, _⟩ := Numeral.read_eq_ok_iff.mp hread
      intro c hc
      rcases hcs with rfl | rfl
      · exact Or.inl (hdigits c hc)
      · rcases List.mem_cons.mp hc with rfl | hc
        · exact Or.inr (Or.inr rfl)
        · exact Or.inl (hdigits c hc)

/-- A path whose last segment has a colon in it is no database number. -/
theorem pathFits_eq_false {front tail : List Char} (hslash : '/' ∉ tail) (hcolon : ':' ∈ tail) :
    pathFits (front ++ tail) = false := by
  obtain ⟨init, last, hsplit⟩ := splitOn_append hslash front
  have hlast : ':' ∈ last ++ tail := List.mem_append_right last hcolon
  have hjoined : ':' ∈ ['/'].intercalate (resolve ((front ++ tail).splitOn '/')).reverse := by
    rw [hsplit, resolve_concat hlast, List.reverse_cons]
    generalize (resolve init).reverse = before
    induction before with
    | nil => simpa [List.intercalate] using hlast
    | cons segment rest ih =>
      cases rest <;> simp_all [List.intercalate]
  have htext := mem_trimSlashes hjoined (by decide)
  rw [pathFits, Bool.or_eq_false_iff]
  constructor
  · exact List.isEmpty_eq_false_iff.mpr (List.ne_nil_of_mem htext)
  · rw [Bool.eq_false_iff]
    intro hnumber
    rcases isDigit_or_sign_of_readSigned hnumber ':' htext with h | h | h <;> cases h

/-! ### User information -/

lemma splitUserInfo_of_not_mem {cs : List Char} (h : '@' ∉ cs) : splitUserInfo cs = (none, cs) := by
  have hauthority : ∀ c ∈ (cs.takeWhile fun c => !isDelimiter c).reverse, (c != '@') = true := by
    intro c hc
    have hmem := (List.takeWhile_prefix _).subset (List.mem_reverse.mp hc)
    simpa using fun heq : c = '@' => h (heq ▸ hmem)
  simp only [splitUserInfo]
  rw [List.takeWhile_eq_self_iff.mpr hauthority, List.length_reverse, if_pos rfl]

lemma split_at_last_at (cs : List Char) :
    (cs.reverse.takeWhile (· != '@')).length = cs.length ∨
      ∃ front, cs = front ++ '@' :: (cs.reverse.takeWhile (· != '@')).reverse := by
  have happend := List.takeWhile_append_dropWhile (p := (· != '@')) (l := cs.reverse)
  have hhead := List.head?_dropWhile_not (· != '@') cs.reverse
  cases hfront : cs.reverse.dropWhile (· != '@') with
  | nil =>
    rw [hfront, List.append_nil] at happend
    exact Or.inl (by rw [happend, List.length_reverse])
  | cons c front =>
    rw [hfront] at hhead happend
    obtain rfl : c = '@' := by simpa using hhead
    refine Or.inr ⟨front.reverse, ?_⟩
    have := congrArg List.reverse happend
    simpa using this.symm

/-- What follows the user information follows an at sign. -/
theorem splitUserInfo_cut (cs : List Char) :
    splitUserInfo cs = (none, cs) ∨
      ∃ info rest, splitUserInfo cs = (some info, rest) ∧ cs = info ++ '@' :: rest := by
  simp only [splitUserInfo]
  have hcs := List.takeWhile_append_dropWhile (p := fun c => !isDelimiter c) (l := cs)
  generalize (cs.takeWhile fun c => !isDelimiter c) = authority at hcs
  generalize (cs.dropWhile fun c => !isDelimiter c) = beyond at hcs
  rcases split_at_last_at authority with hlen | ⟨front, hfront⟩
  · exact Or.inl (if_pos hlen)
  · generalize authority.reverse.takeWhile (· != '@') = back at hfront
    have hlength : authority.length = front.length + 1 + back.length := by
      have := congrArg List.length hfront
      simp only [List.length_append, List.length_cons, List.length_reverse] at this
      omega
    have htake : authority.take (authority.length - back.length - 1) = front := by
      rw [show authority.length - back.length - 1 = front.length by omega, hfront]
      exact List.take_left
    have happend : cs = (front ++ ['@']) ++ (back.reverse ++ beyond) := by
      rw [← hcs, hfront]
      simp
    have hdrop : cs.drop (authority.length - back.length) = back.reverse ++ beyond := by
      rw [show authority.length - back.length = (front ++ ['@']).length by
        rw [List.length_append, List.length_singleton]; omega, happend]
      exact List.drop_left
    rw [if_neg (by omega), htake, hdrop]
    exact Or.inr ⟨front, _, rfl, by rw [happend]; simp⟩

/-! ### Host and port -/

lemma splitHost_append (inside : Bool) (cs : List Char) :
    (splitHost inside cs).1 ++ (splitHost inside cs).2 = cs := by
  induction cs generalizing inside with
  | nil => rfl
  | cons c rest ih =>
    rw [splitHost]
    split
    · rfl
    · simp only [List.cons_append, ih]

lemma splitHost_rest (inside : Bool) (cs : List Char) : (splitHost inside cs).2 = [] ∨
    ∃ c rest, (splitHost inside cs).2 = c :: rest ∧ (c = ':' ∨ isDelimiter c = true) := by
  induction cs generalizing inside with
  | nil => exact Or.inl rfl
  | cons c rest ih =>
    rw [splitHost]
    split
    · next hstop =>
      refine Or.inr ⟨c, rest, rfl, ?_⟩
      rw [Bool.or_eq_true, Bool.and_eq_true, beq_iff_eq] at hstop
      exact hstop.symm.imp_left And.left
    · exact ih _

/-- Outside of brackets a text without colons is a host up to the next colon. -/
lemma splitHost_name {cs : List Char} (h : ∀ c ∈ cs, isForbidden c = false) (rest : List Char) :
    splitHost false (cs ++ ':' :: rest) = (cs, ':' :: rest) := by
  induction cs with
  | nil => rw [List.nil_append, splitHost, if_pos (by simp)]
  | cons c cs ih =>
    rw [List.forall_mem_cons] at h
    have hdelimiter : isDelimiter c = false := by
      rw [Bool.eq_false_iff]
      intro hc
      have : c = '/' ∨ c = '?' ∨ c = '#' := by simpa [isDelimiter, or_assoc] using hc
      rcases this with rfl | rfl | rfl <;> cases h.1
    have hcolon : c ≠ ':' := fun heq => by rw [heq] at h; cases h.1
    have hopen : c ≠ '[' := fun heq => by rw [heq] at h; cases h.1
    rw [List.cons_append, splitHost, if_neg (by simp [hdelimiter, hcolon]), if_neg hopen, ite_self,
      ih h.2]

lemma splitHost_inside {inner : List Char} (h : ∀ c ∈ inner, isDelimiter c = false ∧ c ≠ ']')
    (rest : List Char) :
    splitHost true (inner ++ ']' :: ':' :: rest) = (inner ++ [']'], ':' :: rest) := by
  induction inner with
  | nil => simp [splitHost, isDelimiter]
  | cons c cs ih =>
    rw [List.forall_mem_cons] at h
    rw [List.cons_append, splitHost, if_neg (by simp [h.1.1]), if_neg h.1.2, ite_self, ih h.2,
      List.cons_append]

/-- Brackets hide the colons in them. -/
lemma splitHost_literal {inner : List Char} (h : ∀ c ∈ inner, isDelimiter c = false ∧ c ≠ ']')
    (rest : List Char) : splitHost false (('[' :: (inner ++ [']'])) ++ ':' :: rest) =
      ('[' :: (inner ++ [']']), ':' :: rest) := by
  have happend : ('[' :: (inner ++ [']'])) ++ ':' :: rest =
      '[' :: (inner ++ ']' :: ':' :: rest) := by simp
  rw [happend, splitHost, if_neg (by simp [isDelimiter]), if_pos rfl, splitHost_inside h]

lemma host?_literal {inner : List Char} {pieces : List Nat} (h : Ipv6.read? inner = some pieces) :
    host? ('[' :: (inner ++ [']'])) = .ok (some (.ipv6 pieces)) := by
  simp [host?, h]

/-- What is accepted as a host is a literal in brackets or holds nothing that is forbidden. -/
lemma host?_eq_ok {cs : List Char} {h : Host} (hok : host? cs = .ok (some h)) :
    (∃ inner pieces, cs = '[' :: (inner ++ [']']) ∧ Ipv6.read? inner = some pieces ∧
        h = .ipv6 pieces) ∨
      (cs ≠ [] ∧ (∀ c ∈ cs, isForbidden c = false) ∧
        h = .name (String.ofList (cs.flatMap percentEncoded))) := by
  unfold host? at hok
  split at hok
  · cases hok
  · next rest =>
    split at hok
    · next hlast =>
      have hinner : rest = rest.dropLast ++ [']'] :=
        (List.dropLast_append_getLast? ']' hlast).symm
      split at hok
      · next pieces hread =>
        obtain rfl := Option.some.inj (Except.ok.inj hok)
        exact Or.inl ⟨rest.dropLast, pieces, congrArg _ hinner, hread, rfl⟩
      · cases hok
    · cases hok
  · next hne hbracket =>
    split at hok
    · cases hok
    · next hforbidden =>
      obtain rfl := Option.some.inj (Except.ok.inj hok)
      rw [Bool.not_eq_true, List.any_eq_false] at hforbidden
      exact Or.inr ⟨hne, fun c hc => by simpa using hforbidden c hc, rfl⟩

lemma port?_of_digits {ds : List Char} {n : Nat} (hdigits : ∀ c ∈ ds, c.isDigit = true)
    (hne : ds ≠ []) (hscan : Numeral.scan 65535 0 ds = .ok n) :
    port? (':' :: ds) = .ok (some n, []) := by
  have htake : ds.takeWhile Char.isDigit = ds := List.takeWhile_eq_self_iff.mpr hdigits
  have hdrop : ds.dropWhile Char.isDigit = [] := List.dropWhile_eq_nil_iff.mpr hdigits
  obtain ⟨d, rest, rfl⟩ := List.exists_cons_of_ne_nil hne
  simp [port?, htake, hdrop, hscan]

/-- Behind a colon and digits nothing follows but a delimiter. -/
lemma port?_eq_ok {cs after : List Char} {port : Option Nat} (hok : port? cs = .ok (port, after)) :
    (cs.head? ≠ some ':' ∧ after = cs) ∨
      ∃ rest, cs = ':' :: rest ∧ after = rest.dropWhile Char.isDigit ∧
        (after.head?.any fun c => !(isDelimiter c || c == '\\')) = false := by
  unfold port? at hok
  split at hok
  · next rest =>
    refine Or.inr ⟨rest, rfl, ?_⟩
    dsimp only at hok
    split at hok
    · cases hok
    · next hafter =>
      rw [Bool.not_eq_true] at hafter
      split at hok
      · obtain ⟨_, rfl⟩ := Prod.mk.inj (Except.ok.inj hok)
        exact ⟨rfl, hafter⟩
      · split at hok
        · obtain ⟨_, rfl⟩ := Prod.mk.inj (Except.ok.inj hok)
          exact ⟨rfl, hafter⟩
        · cases hok
  · next hcolon =>
    obtain ⟨_, rfl⟩ := Prod.mk.inj (Except.ok.inj hok)
    refine Or.inl ⟨?_, rfl⟩
    intro hhead
    cases cs with
    | nil => cases hhead
    | cons c rest => exact hcolon rest (by rw [Option.some.inj hhead])

/-! ### The end of the text -/

/-- The end of the text that is read: a colon and the digits of the configured port. -/
structure Ends (tail : List Char) (n : Nat) : Prop where
  form : ∃ ds, tail = ':' :: ds ∧ ds ≠ [] ∧ (∀ c ∈ ds, c.isDigit = true) ∧
    Numeral.scan 65535 0 ds = .ok n

variable {front tail text rest after : List Char} {n : Nat}

/-- What is cut off at the back is longer than the end if it holds anything else. -/
lemma Ends.suffix (htail : Ends tail n) (hsuffix : rest <:+ front ++ tail) {c : Char}
    (hc : c ∈ rest) (hcolon : c ≠ ':') (hdigit : c.isDigit = false) :
    ∃ before, rest = before ++ tail := by
  obtain ⟨ds, rfl, _, hdigits, _⟩ := htail.form
  rcases List.suffix_or_suffix_of_suffix hsuffix (List.suffix_append front (':' :: ds)) with h | h
  · rcases List.mem_cons.mp (h.subset hc) with heq | hmem
    · exact absurd heq hcolon
    · rw [hdigits c hmem] at hdigit
      cases hdigit
  · obtain ⟨before, hbefore⟩ := h
    exact ⟨before, hbefore.symm⟩

lemma Ends.not_mem (htail : Ends tail n) {c : Char} (hcolon : c ≠ ':')
    (hdigit : c.isDigit = false) : c ∉ tail := by
  obtain ⟨ds, rfl, _, hdigits, _⟩ := htail.form
  intro hc
  rcases List.mem_cons.mp hc with heq | hmem
  · exact hcolon heq
  · rw [hdigits c hmem] at hdigit
    cases hdigit

lemma Ends.colon_mem (htail : Ends tail n) : ':' ∈ tail := by
  obtain ⟨ds, rfl, _⟩ := htail.form
  exact List.mem_cons_self

/-- No host takes in the end of the text. -/
lemma Ends.not_host (htail : Ends tail n) (h : Host) : host? (front ++ tail) ≠ .ok (some h) := by
  intro hok
  rcases host?_eq_ok hok with ⟨inner, pieces, heq, _⟩ | ⟨_, hplain, _⟩
  · obtain ⟨ds, rfl, hne, hdigits, _⟩ := htail.form
    have hlast := congrArg List.getLast? heq
    rw [List.getLast?_append, List.getLast?_cons_of_ne_nil hne, List.getLast?_eq_some_getLast hne,
      ← List.cons_append, List.getLast?_concat] at hlast
    have hbracket : ds.getLast hne = ']' := Option.some.inj hlast
    have := hdigits _ (List.getLast_mem hne)
    rw [hbracket] at this
    cases this
  · have := hplain ':' (List.mem_append_right front htail.colon_mem)
    cases this

lemma last_colon {a b r ds : List Char} (h : a ++ ':' :: r = b ++ ':' :: ds) (hr : ':' ∉ r)
    (hds : ':' ∉ ds) : a = b ∧ r = ds := by
  have hr' : (':' :: r) <:+ b ++ ':' :: ds := h ▸ List.suffix_append a (':' :: r)
  have heq : (':' :: r) = ':' :: ds := by
    rcases List.suffix_or_suffix_of_suffix hr' (List.suffix_append b (':' :: ds)) with hs | hs
    · rcases List.suffix_cons_iff.mp hs with heq | hin
      · exact heq
      · exact absurd (hin.subset List.mem_cons_self) hds
    · rcases List.suffix_cons_iff.mp hs with heq | hin
      · exact heq.symm
      · exact absurd (hin.subset List.mem_cons_self) hr
  rw [heq] at h
  exact ⟨List.append_cancel_right h, (List.cons.inj heq).2⟩

/-- Unless a question mark or a number sign cuts the end off, the host is all that stands before it,
and the port is the one that stands in it. -/
theorem Ends.host_and_port (htail : Ends tail n)
    (hfront : ∀ c ∈ front, c ≠ '?' ∧ c ≠ '#') {h : Host} {port : Option Nat}
    (hhost : host? (splitHost false (front ++ tail)).1 = .ok (some h))
    (hport : port? (splitHost false (front ++ tail)).2 = .ok (port, after))
    (hpath : pathFits (after.takeWhile fun c => c != '?' && c != '#') = true) :
    host? front = .ok (some h) ∧ port = some n := by
  obtain ⟨ds, htailEq, hne, hdigits, hscan⟩ := htail.form
  have happend := splitHost_append false (front ++ tail)
  have hrest := splitHost_rest false (front ++ tail)
  generalize (splitHost false (front ++ tail)).1 = text at *
  generalize (splitHost false (front ++ tail)).2 = rest at *
  -- Whatever follows the port would be a path that ends as the text does.
  have hclosed : ∀ c, c ∈ after → c ≠ ':' → c.isDigit = false →
      after <:+ front ++ tail → False := by
    intro c hc hcolon hdigit hsuffix
    obtain ⟨before, hbefore⟩ := htail.suffix hsuffix hc hcolon hdigit
    have hplain : ∀ d ∈ after, (d != '?' && d != '#') = true := by
      intro d hd
      rcases List.mem_append.mp (hsuffix.subset hd) with hd | hd
      · simpa using hfront d hd
      · have hquestion : d ≠ '?' := fun heq =>
          htail.not_mem (by decide) (by decide) (heq ▸ hd)
        have hnumber : d ≠ '#' := fun heq =>
          htail.not_mem (by decide) (by decide) (heq ▸ hd)
        simp [hquestion, hnumber]
    rw [List.takeWhile_eq_self_iff.mpr hplain, hbefore,
      pathFits_eq_false (htail.not_mem (by decide) (by decide)) htail.colon_mem] at hpath
    cases hpath
  have hsuffix : rest <:+ front ++ tail := happend ▸ List.suffix_append text rest
  rcases port?_eq_ok hport with ⟨hcolon, rfl⟩ | ⟨r, rfl, hafter, hhead⟩
  · rcases hrest with rfl | ⟨c, r, rfl, hc⟩
    · rw [List.append_nil] at happend
      rw [happend] at hhost
      exact absurd hhost (htail.not_host h)
    · have hdelimiter : isDelimiter c = true := by
        rcases hc with rfl | hc
        · exact absurd rfl hcolon
        · exact hc
      have hnot : c ≠ ':' := fun heq => hcolon (congrArg some heq)
      have hdigit : c.isDigit = false := by
        have : c = '/' ∨ c = '?' ∨ c = '#' := by simpa [isDelimiter, or_assoc] using hdelimiter
        rcases this with rfl | rfl | rfl <;> rfl
      exact (hclosed c List.mem_cons_self hnot hdigit hsuffix).elim
  · cases after with
    | cons c beyond =>
      have hc : c = '/' ∨ c = '?' ∨ c = '#' ∨ c = '\\' := by
        simpa [isDelimiter, or_assoc, Classical.or_iff_not_imp_left] using hhead
      have hsuffix' : (c :: beyond) <:+ front ++ tail := by
        rw [hafter]
        exact (List.dropWhile_suffix _).trans ((List.suffix_cons ':' r).trans hsuffix)
      exfalso
      rcases hc with rfl | rfl | rfl | rfl <;>
        exact hclosed _ List.mem_cons_self (by decide) (by decide) hsuffix'
    | nil =>
      have hall : ∀ c ∈ r, c.isDigit = true := List.dropWhile_eq_nil_iff.mp hafter.symm
      have hr : ':' ∉ r := fun hmem => by cases hall ':' hmem
      have hds : ':' ∉ ds := fun hmem => by cases hdigits ':' hmem
      rw [htailEq] at happend
      obtain ⟨rfl, rfl⟩ := last_colon happend hr hds
      have hread := port?_of_digits hdigits hne hscan
      rw [hport] at hread
      exact ⟨hhost, (Prod.mk.inj (Except.ok.inj hread)).1⟩

end Address

end Backlog.Redis
