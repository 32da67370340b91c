/-
TelemetryControl.Proofs.Json.Token — how far a token goes.

The reader takes a number, a text between quotes or a word off the front of
some octets, and says what is left. What it took is a text of its own: put
in front of other octets, it is read as the same token, and these are left. A
number alone has no closing mark, so what follows it must be nothing that it
would go on with (`exists_numeral_text`); a quote or a last letter ends the
others for good (`exists_quoted_text`, `afterWord_eq_some_iff`).
-/
import TelemetryControl.Proofs.Json.Numeral
import TelemetryControl.Proofs.Json.Quoted
import Mathlib.Data.List.TakeWhile

namespace TelemetryControl.Json

open TelemetryControl.Text (octet digit?)

/-! ## 1. Space -/

/-- Nothing but space between tokens. -/
def Blank (bs : List UInt8) : Prop := ∀ b ∈ bs, isSpace b = true

instance (bs : List UInt8) : Decidable (Blank bs) :=
  inferInstanceAs (Decidable (∀ b ∈ bs, isSpace b = true))

theorem skipSpace_cons {b : UInt8} (h : isSpace b = false) (rest : List UInt8) :
    skipSpace (b :: rest) = b :: rest := by
  simp [skipSpace, h]

theorem IsDelimiter.skipSpace {c : UInt8} (h : IsDelimiter c) (rest : List UInt8) :
    skipSpace (c :: rest) = c :: rest := by
  rcases h with rfl | rfl | rfl <;> exact skipSpace_cons (by decide) rest

theorem skipSpace_append {blank : List UInt8} (h : Blank blank) (bs : List UInt8) :
    skipSpace (blank ++ bs) = skipSpace bs := by
  induction blank with
  | nil => rfl
  | cons b rest ih =>
    have space : isSpace b = true := h b List.mem_cons_self
    have others := ih (fun c hc => h c (List.mem_cons_of_mem b hc))
    rw [List.cons_append, skipSpace, List.dropWhile_cons_of_pos space]
    exact others

theorem skipSpace_blank_cons {blank : List UInt8} (h : Blank blank) {b : UInt8}
    (notSpace : isSpace b = false) (rest : List UInt8) :
    skipSpace (blank ++ b :: rest) = b :: rest := by
  rw [skipSpace_append h, skipSpace_cons notSpace]

/-- What is skipped is space, and what is not skipped starts with something else. -/
theorem exists_blank_of_skipSpace {bs : List UInt8} {b : UInt8} {rest : List UInt8}
    (h : skipSpace bs = b :: rest) :
    ∃ blank, Blank blank ∧ isSpace b = false ∧ bs = blank ++ b :: rest := by
  refine ⟨bs.takeWhile isSpace, fun c hc => List.mem_takeWhile_imp hc, ?_, ?_⟩
  · have first := List.head?_dropWhile_not isSpace bs
    rw [skipSpace] at h
    simpa [h] using first
  · rw [← h, skipSpace, List.takeWhile_append_dropWhile]

theorem skipSpace_eq_nil_iff {bs : List UInt8} : skipSpace bs = [] ↔ Blank bs :=
  List.dropWhile_eq_nil_iff

/-! ## 2. Numbers -/

theorem stops_blank_cons {blank : List UInt8} (h : Blank blank) {b : UInt8}
    (ends : IsDelimiter b) (rest : List UInt8) : Stops (blank ++ b :: rest) := by
  cases blank with
  | nil => exact ends.stops_cons rest
  | cons c more =>
    intro d hd
    obtain rfl : c = d := by simpa using hd
    have space := h c List.mem_cons_self
    simp only [isSpace, Bool.or_eq_true, beq_iff_eq] at space
    rcases space with ((rfl | rfl) | rfl) | rfl <;> decide

theorem stops_blank {blank : List UInt8} (h : Blank blank) : Stops blank := by
  cases blank with
  | nil => exact stops_nil
  | cons c more =>
    have front := stops_blank_cons h (.inl rfl : IsDelimiter (octet ',')) []
    simpa [Stops] using front

theorem exists_digits_text {bs rest : List UInt8} {ds : List Nat} (h : digits bs = (ds, rest)) :
    ∃ text, bs = text ++ rest ∧ (ds ≠ [] → text ≠ []) ∧
      ∀ tail, (∀ b ∈ tail.head?, digit? b = none) → digits (text ++ tail) = (ds, tail) := by
  fun_induction digits bs generalizing ds rest with
  | case1 =>
    obtain ⟨rfl, rfl⟩ := Prod.mk.inj h
    refine ⟨[], rfl, fun none => absurd rfl none, fun tail stop => ?_⟩
    cases tail with
    | nil => rfl
    | cons b more => simp [digits, stop b rfl]
  | case2 b others d digit es r read ih =>
    obtain ⟨rfl, rfl⟩ := Prod.mk.inj h
    obtain ⟨text, rfl, -, again⟩ := ih read
    refine ⟨b :: text, rfl, by simp, fun tail stop => ?_⟩
    rw [List.cons_append, digits, digit]
    simp only [again tail stop]
  | case3 b others none =>
    obtain ⟨rfl, rfl⟩ := Prod.mk.inj h
    refine ⟨[], rfl, fun empty => absurd rfl empty, fun tail stop => ?_⟩
    cases tail with
    | nil => rfl
    | cons b more => simp [digits, stop b rfl]

/-- Digits that can stand in front of a point: there are some, and a zero stands
alone. -/
def IsWhole (ds : List Nat) : Prop := ds ≠ [] ∧ ∀ d more, ds ≠ 0 :: d :: more

theorem wholePart_eq_some_iff {bs rest : List UInt8} {ds : List Nat} :
    wholePart bs = some (ds, rest) ↔ digits bs = (ds, rest) ∧ IsWhole ds := by
  unfold wholePart IsWhole
  split
  · next read => simp +contextual [read]
  · next d more r read =>
    rw [read]
    refine iff_of_false (by simp) (fun found => ?_)
    exact found.2.2 d more (Prod.mk.inj found.1).1.symm
  · next es r nonempty alone read =>
    rw [read, Option.some_inj, Prod.mk.injEq]
    constructor
    · rintro ⟨rfl, rfl⟩
      exact ⟨⟨rfl, rfl⟩, nonempty, alone⟩
    · exact fun h => h.1

theorem exists_wholePart_text {bs rest : List UInt8} {ds : List Nat}
    (h : wholePart bs = some (ds, rest)) :
    ∃ text, bs = text ++ rest ∧ text ≠ [] ∧
      ∀ tail, (∀ b ∈ tail.head?, digit? b = none) → wholePart (text ++ tail) = some (ds, tail) := by
  obtain ⟨read, whole⟩ := wholePart_eq_some_iff.mp h
  obtain ⟨text, split, nonempty, again⟩ := exists_digits_text read
  exact ⟨text, split, nonempty whole.1,
    fun tail stop => wholePart_eq_some_iff.mpr ⟨again tail stop, whole⟩⟩

theorem fractionPart_point {bs rest : List UInt8} {ds : List Nat} :
    fractionPart (octet '.' :: bs) = some (ds, rest) ↔ digits bs = (ds, rest) ∧ ds ≠ [] := by
  rw [fractionPart, if_pos rfl]
  split
  · next read => simp +contextual [read]
  · next es r nonempty read =>
    rw [read, Option.some_inj, Prod.mk.injEq]
    constructor
    · rintro ⟨rfl, rfl⟩
      exact ⟨⟨rfl, rfl⟩, nonempty⟩
    · exact fun h => h.1

theorem fractionPart_of_head {bs : List UInt8} (h : ∀ b ∈ bs.head?, b ≠ octet '.') :
    fractionPart bs = some ([], bs) := by
  cases bs with
  | nil => rfl
  | cons b rest => rw [fractionPart, if_neg (h b rfl)]

theorem exists_fractionPart_text {bs rest : List UInt8} {ds : List Nat}
    (h : fractionPart bs = some (ds, rest)) :
    ∃ text, bs = text ++ rest ∧ (∀ b ∈ text.head?, b = octet '.') ∧
      ∀ tail, (∀ b ∈ tail.head?, digit? b = none ∧ b ≠ octet '.') →
        fractionPart (text ++ tail) = some (ds, tail) := by
  by_cases point : ∃ more, bs = octet '.' :: more
  · obtain ⟨more, rfl⟩ := point
    obtain ⟨read, nonempty⟩ := fractionPart_point.mp h
    obtain ⟨text, rfl, -, again⟩ := exists_digits_text read
    refine ⟨octet '.' :: text, rfl, by simp, fun tail stop => ?_⟩
    exact fractionPart_point.mpr ⟨again tail (fun b hb => (stop b hb).1), nonempty⟩
  · have noPoint : ∀ b ∈ bs.head?, b ≠ octet '.' := by
      rintro b hb rfl
      cases bs with
      | nil => cases hb
      | cons c more => exact point ⟨more, by rw [Option.some.inj hb]⟩
    rw [fractionPart_of_head noPoint, Option.some_inj] at h
    obtain ⟨rfl, rfl⟩ := Prod.mk.inj h
    exact ⟨[], rfl, by simp, fun tail stop => fractionPart_of_head (fun b hb => (stop b hb).2)⟩

/-- The sign of an exponent, if it has one, and what follows. -/
def exponentSign : List UInt8 → Bool × List UInt8
  | [] => (false, [])
  | s :: rest =>
    if s = octet '-' then (true, rest)
    else if s = octet '+' then (false, rest)
    else (false, s :: rest)

theorem exponentPart_letter {b : UInt8} (letter : b = octet 'e' ∨ b = octet 'E')
    {bs rest : List UInt8} {e : Option Int} :
    exponentPart (b :: bs) = some (e, rest) ↔
      ∃ ds, digits (exponentSign bs).2 = (ds, rest) ∧ ds ≠ [] ∧
        e = some (if (exponentSign bs).1 then -(Numeral.ofDigits ds : Int)
          else (Numeral.ofDigits ds : Int)) := by
  cases bs with
  | nil => simp [exponentPart, exponentSign, letter, digits]
  | cons s more =>
    simp only [exponentPart, exponentSign, if_pos letter]
    split_ifs
    all_goals
      split
      · next read => simp +contextual [read]
      · next es r nonempty read =>
        rw [read, Option.some_inj, Prod.mk.injEq]
        constructor
        · rintro ⟨rfl, rfl⟩
          exact ⟨es, rfl, nonempty, rfl⟩
        · rintro ⟨ds, same, -, rfl⟩
          obtain ⟨rfl, rfl⟩ := Prod.mk.inj same
          exact ⟨rfl, rfl⟩

theorem exponentPart_of_head {bs : List UInt8}
    (h : ∀ b ∈ bs.head?, ¬ (b = octet 'e' ∨ b = octet 'E')) :
    exponentPart bs = some (none, bs) := by
  cases bs with
  | nil => rfl
  | cons b rest => simp only [exponentPart, if_neg (h b rfl)]

/-- Whether there is a sign is seen from the octet in front. -/
theorem exists_exponentSign_text (bs : List UInt8) :
    ∃ sign, bs = sign ++ (exponentSign bs).2 ∧ ∀ text rest, text ≠ [] →
      (exponentSign bs).2 = text ++ rest → ∀ tail,
        exponentSign (sign ++ (text ++ tail)) = ((exponentSign bs).1, text ++ tail) := by
  cases bs with
  | nil =>
    exact ⟨[], rfl, fun text rest nonempty split =>
      absurd (List.append_eq_nil_iff.mp split.symm).1 nonempty⟩
  | cons s more =>
    by_cases minus : s = octet '-'
    · subst minus
      exact ⟨[octet '-'], rfl, fun text rest _ _ tail => rfl⟩
    · by_cases plus : s = octet '+'
      · subst plus
        exact ⟨[octet '+'], rfl, fun text rest _ _ tail => rfl⟩
      · have none (others : List UInt8) : exponentSign (s :: others) = (false, s :: others) := by
          simp only [exponentSign, minus, plus, if_false]
        refine ⟨[], by rw [none]; rfl, fun text rest nonempty split tail => ?_⟩
        rw [none] at split ⊢
        obtain ⟨c, others, rfl⟩ := List.exists_cons_of_ne_nil nonempty
        obtain ⟨rfl, -⟩ := List.cons.inj split
        exact none (others ++ tail)

theorem exists_exponentPart_text {bs rest : List UInt8} {e : Option Int}
    (h : exponentPart bs = some (e, rest)) :
    ∃ text, bs = text ++ rest ∧ (∀ b ∈ text.head?, b = octet 'e' ∨ b = octet 'E') ∧
      ∀ tail, Stops tail → exponentPart (text ++ tail) = some (e, tail) := by
  by_cases letter : ∃ b more, bs = b :: more ∧ (b = octet 'e' ∨ b = octet 'E')
  · obtain ⟨b, more, rfl, letter⟩ := letter
    obtain ⟨ds, read, nonempty, rfl⟩ := (exponentPart_letter letter).mp h
    obtain ⟨text, split, filled, again⟩ := exists_digits_text read
    obtain ⟨sign, shape, signed⟩ := exists_exponentSign_text more
    have sameSign := signed text rest (filled nonempty) split
    refine ⟨b :: (sign ++ text), by rw [shape, split]; simp, by simpa using letter,
      fun tail stop => ?_⟩
    rw [List.cons_append, List.append_assoc]
    refine (exponentPart_letter letter).mpr ⟨ds, ?_, nonempty, ?_⟩
    · rw [sameSign]
      exact again tail (fun c hc => (stop c hc).1.1)
    · rw [sameSign]
  · have noLetter : ∀ b ∈ bs.head?, ¬ (b = octet 'e' ∨ b = octet 'E') := by
      intro b hb isLetter
      cases bs with
      | nil => cases hb
      | cons c more => exact letter ⟨b, more, by rw [Option.some.inj hb], isLetter⟩
    rw [exponentPart_of_head noLetter, Option.some_inj] at h
    obtain ⟨rfl, rfl⟩ := Prod.mk.inj h
    exact ⟨[], rfl, by simp, fun tail stop => exponentPart_of_head (fun b hb => (stop b hb).2)⟩

/-- The parts of a number behind its sign. -/
def unsigned (negative : Bool) (bs : List UInt8) : Option (Numeral × List UInt8) := do
  let (whole, bs) ← wholePart bs
  let (fraction, bs) ← fractionPart bs
  let (exponent, bs) ← exponentPart bs
  return (⟨negative, whole, fraction, exponent⟩, bs)

theorem numeral_minus (bs : List UInt8) : numeral (octet '-' :: bs) = unsigned true bs := by
  simp only [numeral, if_true, unsigned]

theorem numeral_of_head {bs : List UInt8} (h : ∀ b ∈ bs.head?, b ≠ octet '-') :
    numeral bs = unsigned false bs := by
  cases bs with
  | nil => rfl
  | cons b rest => simp only [numeral, if_neg (h b rfl), unsigned]

theorem unsigned_eq_some_iff {negative : Bool} {bs rest : List UInt8} {n : Numeral} :
    unsigned negative bs = some (n, rest) ↔
      ∃ bs₁ bs₂, n.negative = negative ∧ wholePart bs = some (n.whole, bs₁) ∧
        fractionPart bs₁ = some (n.fraction, bs₂) ∧
        exponentPart bs₂ = some (n.exponent, rest) := by
  unfold unsigned
  constructor
  · intro h
    simp only [Option.bind_eq_bind, Option.bind_eq_some_iff, Option.pure_def, Option.some_inj,
      Prod.mk.injEq] at h
    obtain ⟨⟨whole, bs₁⟩, first, ⟨fraction, bs₂⟩, second, ⟨exponent, bs₃⟩, third, rfl, rfl⟩ := h
    exact ⟨bs₁, bs₂, rfl, first, second, third⟩
  · rintro ⟨bs₁, bs₂, rfl, first, second, third⟩
    simp [first, second, third]

theorem exists_unsigned_text {negative : Bool} {bs rest : List UInt8} {n : Numeral}
    (h : unsigned negative bs = some (n, rest)) :
    ∃ text, bs = text ++ rest ∧ text ≠ [] ∧
      ∀ tail, Stops tail → unsigned negative (text ++ tail) = some (n, tail) := by
  obtain ⟨bs₁, bs₂, sign, first, second, third⟩ := unsigned_eq_some_iff.mp h
  obtain ⟨whole, rfl, filled, wholeAgain⟩ := exists_wholePart_text first
  obtain ⟨fraction, rfl, point, fractionAgain⟩ := exists_fractionPart_text second
  obtain ⟨exponent, rfl, letter, exponentAgain⟩ := exists_exponentPart_text third
  refine ⟨whole ++ (fraction ++ exponent), by simp, by simp [filled], fun tail stop => ?_⟩
  have stopFraction : ∀ b ∈ (exponent ++ tail).head?, digit? b = none ∧ b ≠ octet '.' := by
    intro b hb
    cases exponent with
    | nil => exact (stop b hb).1
    | cons c more =>
      rcases letter b hb with rfl | rfl <;> decide
  have stopWhole : ∀ b ∈ (fraction ++ (exponent ++ tail)).head?, digit? b = none := by
    intro b hb
    cases fraction with
    | nil => exact (stopFraction b hb).1
    | cons c more =>
      obtain rfl := point b hb
      decide
  refine unsigned_eq_some_iff.mpr ⟨fraction ++ (exponent ++ tail), exponent ++ tail, sign, ?_,
    fractionAgain _ stopFraction, exponentAgain tail stop⟩
  rw [List.append_assoc, List.append_assoc]
  exact wholeAgain _ stopWhole

/-- A number starts with a digit or a minus. -/
theorem numeral_cons_eq_none {b : UInt8} (noDigit : digit? b = none) (noMinus : b ≠ octet '-')
    (tail : List UInt8) : numeral (b :: tail) = none := by
  rw [numeral_of_head (by simpa using noMinus)]
  simp [unsigned, wholePart, digits, noDigit]

/-- A number is read again where no number goes on. -/
theorem exists_numeral_text {bs rest : List UInt8} {n : Numeral}
    (h : numeral bs = some (n, rest)) :
    ∃ text, bs = text ++ rest ∧ text ≠ [] ∧
      ∀ tail, Stops tail → numeral (text ++ tail) = some (n, tail) := by
  by_cases minus : ∃ more, bs = octet '-' :: more
  · obtain ⟨more, rfl⟩ := minus
    rw [numeral_minus] at h
    obtain ⟨text, rfl, -, again⟩ := exists_unsigned_text h
    refine ⟨octet '-' :: text, rfl, by simp, fun tail stop => ?_⟩
    rw [List.cons_append, numeral_minus, again tail stop]
  · have noMinus : ∀ b ∈ bs.head?, b ≠ octet '-' := by
      rintro b hb rfl
      cases bs with
      | nil => cases hb
      | cons c more => exact minus ⟨more, by rw [Option.some.inj hb]⟩
    rw [numeral_of_head noMinus] at h
    obtain ⟨text, rfl, filled, again⟩ := exists_unsigned_text h
    refine ⟨text, rfl, filled, fun tail stop => ?_⟩
    obtain ⟨c, more, rfl⟩ := List.exists_cons_of_ne_nil filled
    rw [numeral_of_head (fun b hb => noMinus b (by simpa using hb)), again tail stop]

/-! ## 3. Texts and words -/

/-- Four digits of a code, read. -/
theorem quoted_code {h₁ h₂ h₃ h₄ : UInt8} {d₁ d₂ d₃ d₄ : Nat} (first : hexOctet? h₁ = some d₁)
    (second : hexOctet? h₂ = some d₂) (third : hexOctet? h₃ = some d₃)
    (fourth : hexOctet? h₄ = some d₄) (tail : List UInt8) :
    quoted (octet '\\' :: octet 'u' :: h₁ :: h₂ :: h₃ :: h₄ :: tail) =
      (quoted tail).map
        (fun r => (.unit (4096 * d₁ + 256 * d₂ + 16 * d₃ + d₄) :: r.1, r.2)) := by
  have notQuote : octet '\\' ≠ octet '"' := by decide
  rw [quoted.eq_def]
  simp only [notQuote, if_false, if_true, first, second, third, fourth]

/-- A closing quote ends a text for good. -/
theorem exists_quoted_text {bs rest : List UInt8} {ps : List Piece}
    (h : quoted bs = some (ps, rest)) :
    ∃ text, bs = text ++ rest ∧ ∀ tail, quoted (text ++ tail) = some (ps, tail) := by
  fun_induction quoted bs generalizing ps with
  | case2 others =>
    obtain ⟨rfl, rfl⟩ := Prod.mk.inj (Option.some.inj h)
    exact ⟨[octet '"'], rfl, fun tail => by rw [List.singleton_append, quoted.eq_def]; rfl⟩
  | case4 h₁ h₂ h₃ h₄ others d₁ d₂ d₃ d₄ fourth third second first _ ih =>
    obtain ⟨⟨qs, r⟩, read, same⟩ := Option.map_eq_some_iff.mp h
    obtain ⟨rfl, rfl⟩ := Prod.mk.inj same
    obtain ⟨text, rfl, again⟩ := ih read
    refine ⟨octet '\\' :: octet 'u' :: h₁ :: h₂ :: h₃ :: h₄ :: text, rfl, fun tail => ?_⟩
    simp only [List.cons_append]
    rw [quoted_code first second third fourth, again tail, Option.map_some]
  | case7 e others notCode c letter _ ih =>
    obtain ⟨⟨qs, r⟩, read, same⟩ := Option.map_eq_some_iff.mp h
    obtain ⟨rfl, rfl⟩ := Prod.mk.inj same
    obtain ⟨text, rfl, again⟩ := ih read
    refine ⟨octet '\\' :: e :: text, rfl, fun tail => ?_⟩
    exact ((Spells.letter letter notCode).read (text ++ tail)).trans (by rw [again tail]; rfl)
  | case10 b others notQuote notEscape notControl ih =>
    obtain ⟨⟨qs, r⟩, read, same⟩ := Option.map_eq_some_iff.mp h
    obtain ⟨rfl, rfl⟩ := Prod.mk.inj same
    obtain ⟨text, rfl, again⟩ := ih read
    refine ⟨b :: text, rfl, fun tail => ?_⟩
    exact ((Spells.plain notQuote notEscape notControl).read (text ++ tail)).trans
      (by rw [again tail]; rfl)
  | _ => cases h

theorem afterWord_eq_some_iff {word : String} {bs rest : List UInt8} :
    afterWord word bs = some rest ↔ bs = Text.octets word ++ rest := by
  unfold afterWord
  dsimp only
  constructor
  · intro h
    split at h
    · next front =>
      obtain ⟨after, rfl⟩ := List.isPrefixOf_iff_prefix.mp front
      rw [List.drop_left, Option.some_inj] at h
      rw [h]
    · cases h
  · rintro rfl
    simp

end TelemetryControl.Json
