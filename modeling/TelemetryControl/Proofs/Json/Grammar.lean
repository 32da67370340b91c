/-
TelemetryControl.Proofs.Json.Grammar — the texts that are read as values.

The reader goes through a value once, from the left, and knows no more of what
follows than the octet it stops at. So what it takes for a value is a text of
its own: wherever that stands, the same value is read from it (`ReadAs`). The
fuel is no more than a bound, since twice the number of octets is always enough.

`Written` is the grammar, one rule for each kind of value. Both directions are
shown of it: what is written so is read (`Written.readAs`), and what is read,
of values, items and members at once by induction on the fuel, is written so
(`takesTexts`). Together they describe the reader without its fuel and its rest
of octets: a value of many parts is read from the texts of the parts
(`parse?_iff_written`).
-/
import TelemetryControl.Proofs.Json.Token
import Mathlib.Data.List.DropRight

namespace TelemetryControl.Json

open TelemetryControl.Text (octet octets digit?)

/-! ## 1. One step by the first octet -/

@[simp] theorem skipSpace_skipSpace (bs : List UInt8) : skipSpace (skipSpace bs) = skipSpace bs :=
  List.dropWhile_idempotent isSpace bs

theorem value_skipSpace (fuel : Nat) (bs : List UInt8) :
    value fuel (skipSpace bs) = value fuel bs := by
  cases fuel with
  | zero => rw [value, value]
  | succ fuel => rw [value, value, skipSpace_skipSpace]

theorem items_skipSpace (fuel : Nat) (bs : List UInt8) :
    items fuel (skipSpace bs) = items fuel bs := by
  cases fuel with
  | zero => rw [items, items]
  | succ fuel => rw [items, items, value_skipSpace]

theorem members_skipSpace (fuel : Nat) (bs : List UInt8) :
    members fuel (skipSpace bs) = members fuel bs := by
  cases fuel with
  | zero => rw [members, members]
  | succ fuel => rw [members, members, skipSpace_skipSpace]

/-- The octet is no space and starts no value but a number. -/
def StartsNumber (b : UInt8) : Prop :=
  isSpace b = false ∧ b ≠ octet '"' ∧ b ≠ octet '\x7b' ∧ b ≠ octet '[' ∧ b ≠ octet 't' ∧
    b ≠ octet 'f' ∧ b ≠ octet 'n'

instance (b : UInt8) : Decidable (StartsNumber b) :=
  inferInstanceAs (Decidable (_ ∧ _))

section Step

variable (fuel : Nat) (tail : List UInt8)

theorem value_quote : value (fuel + 1) (octet '"' :: tail) =
    (quoted tail).map (fun r => (.string (Piece.text? r.1), r.2)) := by
  rw [value, skipSpace_cons (by decide)]
  simp only [if_true]

theorem value_true :
    value (fuel + 1) (octet 't' :: tail) = (afterWord "rue" tail).map (fun r => (.bool true, r)) := by
  rw [value, skipSpace_cons (by decide)]
  simp +decide only [if_false, if_true]

theorem value_false :
    value (fuel + 1) (octet 'f' :: tail) =
      (afterWord "alse" tail).map (fun r => (.bool false, r)) := by
  rw [value, skipSpace_cons (by decide)]
  simp +decide only [if_false, if_true]

theorem value_null :
    value (fuel + 1) (octet 'n' :: tail) = (afterWord "ull" tail).map (fun r => (.null, r)) := by
  rw [value, skipSpace_cons (by decide)]
  simp +decide only [if_false, if_true]

theorem value_number {b : UInt8} (h : StartsNumber b) :
    value (fuel + 1) (b :: tail) =
      (numeral (b :: tail)).map (fun r => (.number r.1, r.2)) := by
  obtain ⟨notSpace, quote, brace, bracket, t, f, n⟩ := h
  rw [value, skipSpace_cons notSpace]
  simp only [quote, brace, bracket, t, f, n, if_false]

/-- Behind a bracket the next octet tells whether the array has items. -/
theorem value_bracket :
    value (fuel + 1) (octet '[' :: tail) = (skipSpace tail).head?.bind fun c =>
      if c = octet ']' then some (.array [], (skipSpace tail).tail)
      else (items fuel tail).map (fun r => (.array r.1, r.2)) := by
  rw [value, skipSpace_cons (by decide), ← items_skipSpace]
  simp +decide only [if_false, if_true]
  cases skipSpace tail <;> rfl

/-- Behind a brace the next octet tells whether the object has members. -/
theorem value_brace :
    value (fuel + 1) (octet '\x7b' :: tail) = (skipSpace tail).head?.bind fun c =>
      if c = octet '\x7d' then some (.object [], (skipSpace tail).tail)
      else (members fuel tail).map (fun r => (.object r.1, r.2)) := by
  rw [value, skipSpace_cons (by decide), ← members_skipSpace]
  simp +decide only [if_false, if_true]
  cases skipSpace tail <;> rfl

end Step

theorem startsNumber_of_numeral {b : UInt8} {tail : List UInt8} {r : Numeral × List UInt8}
    (h : numeral (b :: tail) = some r) : StartsNumber b := by
  have other {c : UInt8} (noDigit : digit? c = none) (noMinus : c ≠ octet '-') : b ≠ c := by
    rintro rfl
    rw [numeral_cons_eq_none noDigit noMinus] at h
    cases h
  refine ⟨?space, other (by decide) (by decide), other (by decide) (by decide),
    other (by decide) (by decide), other (by decide) (by decide), other (by decide) (by decide),
    other (by decide) (by decide)⟩
  simp only [isSpace, Bool.or_eq_false_iff, beq_eq_false_iff_ne]
  exact ⟨⟨⟨other (by decide) (by decide), other (by decide) (by decide)⟩,
    other (by decide) (by decide)⟩, other (by decide) (by decide)⟩

/-! ## 2. Texts of their own -/

/-- Wherever some octets stand, a reader takes them for `a` and stops behind them, if
no number goes on there. It needs fuel for twice their number. -/
def ReadAs {α : Type} (read : Nat → List UInt8 → Option (α × List UInt8)) (text : List UInt8)
    (a : α) : Prop :=
  ∀ fuel tail, 2 * text.length ≤ fuel → Stops tail → read fuel (text ++ tail) = some (a, tail)

/-- It is enough to look at the step that takes the first octet. -/
theorem ReadAs.of_cons {α : Type} {read : Nat → List UInt8 → Option (α × List UInt8)}
    {rest : List UInt8} {b : UInt8} {a : α}
    (step : ∀ fuel tail, 2 * rest.length < fuel → Stops tail →
      read (fuel + 1) (b :: (rest ++ tail)) = some (a, tail)) : ReadAs read (b :: rest) a := by
  intro fuel tail enough stops
  rw [List.length_cons] at enough
  obtain ⟨more, rfl⟩ := Nat.exists_eq_succ_of_ne_zero (n := fuel) (by omega)
  exact step more tail (by omega) stops

theorem value_append_of_blank {blank : List UInt8} (h : Blank blank) (fuel : Nat)
    (bs : List UInt8) : value fuel (blank ++ bs) = value fuel bs := by
  rw [← value_skipSpace, skipSpace_append h, value_skipSpace]

/-- A value and the space around it. -/
def ValueText (text : List UInt8) (v : Json) : Prop :=
  ∃ front core behind, text = front ++ (core ++ behind) ∧ Blank front ∧ Blank behind ∧
    ReadAs value core v

theorem ReadAs.valueText {text : List UInt8} {v : Json} (h : ReadAs value text v) :
    ValueText text v :=
  ⟨[], text, [], by simp, List.forall_mem_nil _, List.forall_mem_nil _, h⟩

/-- More space around a value makes no difference. -/
theorem ValueText.spaced {front text behind : List UInt8} {v : Json} (before : Blank front)
    (after : Blank behind) (h : ValueText text v) : ValueText (front ++ (text ++ behind)) v := by
  obtain ⟨first, core, last, rfl, space, spaceBehind, read⟩ := h
  exact ⟨front ++ first, core, last ++ behind, by simp, List.forall_mem_append.mpr ⟨before, space⟩,
    List.forall_mem_append.mpr ⟨spaceBehind, after⟩, read⟩

/-- What ends a value is what the reader finds behind it and the space that follows. -/
theorem ValueText.exists_read {text : List UInt8} {v : Json} (h : ValueText text v) :
    ∃ blank, Blank blank ∧ ∀ fuel c rest, 2 * text.length ≤ fuel → IsDelimiter c →
      value fuel (text ++ c :: rest) = some (v, blank ++ c :: rest) := by
  obtain ⟨front, core, behind, rfl, before, after, read⟩ := h
  refine ⟨behind, after, fun fuel c rest enough ends => ?_⟩
  rw [List.length_append, List.length_append] at enough
  rw [List.append_assoc, List.append_assoc, value_append_of_blank before]
  exact read fuel _ (by omega) (stops_blank_cons after ends rest)

/-! ## 3. Pieces between marks -/

/-- Pieces with commas between them, each of them written as `P` says. -/
inductive Separated {τ : Type} (P : τ → List UInt8 → Prop) : List τ → List UInt8 → Prop where
  | last {t : τ} {only : List UInt8} (written : P t only) : Separated P [t] only
  | more {t : τ} {ts : List τ} {first rest : List UInt8} (written : P t first)
      (further : Separated P ts rest) : Separated P (t :: ts) (first ++ octet ',' :: rest)

/-- Pieces from an opening mark to a closing one. -/
inductive Enclosed {τ : Type} (P : τ → List UInt8 → Prop) (opening closing : UInt8) :
    List τ → List UInt8 → Prop where
  | empty {blank : List UInt8} (space : Blank blank) :
      Enclosed P opening closing [] (opening :: (blank ++ [closing]))
  | pieces {ts : List τ} {body : List UInt8} (written : Separated P ts body) :
      Enclosed P opening closing ts (opening :: (body ++ [closing]))

section Pieces

variable {τ α : Type} {P : τ → List UInt8 → Prop} {Q : τ → α → Prop} {closing : UInt8}
  {read : Nat → List UInt8 → Option (List α × List UInt8)}

/-- A reader takes one piece, and what ends it tells what comes next. -/
def TakesPiece (P : τ → List UInt8 → Prop) (Q : τ → α → Prop) (closing : UInt8)
    (read : Nat → List UInt8 → Option (List α × List UInt8)) : Prop :=
  ∀ t a piece, P t piece → Q t a → ∀ fuel c rest, 2 * piece.length ≤ fuel → IsDelimiter c →
    read (fuel + 1) (piece ++ c :: rest) =
      if c = octet ',' then (read fuel rest).map (fun r => (a :: r.1, r.2))
      else if c = closing then some ([a], rest)
      else none

/-- Pieces are read one after the other. Each takes one step beside those of its
value, and the comma before the next one pays for it. -/
theorem TakesPiece.separated (takes : TakesPiece P Q closing read) (ends : IsDelimiter closing)
    (noComma : closing ≠ octet ',') {ts : List τ} {body : List UInt8} {as : List α}
    (written : Separated P ts body) (hold : List.Forall₂ Q ts as) (fuel : Nat)
    (tail : List UInt8) (enough : 2 * body.length < fuel) :
    read fuel (body ++ closing :: tail) = some (as, tail) := by
  induction written generalizing as fuel with
  | last written =>
    obtain ⟨more, rfl⟩ := Nat.exists_eq_succ_of_ne_zero (Nat.ne_zero_of_lt enough)
    cases hold with
    | cons first none =>
      cases none
      rw [takes _ _ _ written first more closing tail (Nat.le_of_lt_succ enough) ends,
        if_neg noComma, if_pos rfl]
  | more written _ ih =>
    obtain ⟨more, rfl⟩ := Nat.exists_eq_succ_of_ne_zero (Nat.ne_zero_of_lt enough)
    rw [List.length_append, List.length_cons] at enough
    cases hold with
    | cons first others =>
      rw [List.append_assoc, List.cons_append,
        takes _ _ _ written first more (octet ',') _ (by omega) (.inl rfl), if_pos rfl,
        ih others more (by omega)]
      rfl

/-- What the reader of values does behind an opening mark. -/
def Opens (opening closing : UInt8) (read : Nat → List UInt8 → Option (List α × List UInt8))
    (make : List α → Json) : Prop :=
  ∀ fuel tail, value (fuel + 1) (opening :: tail) = (skipSpace tail).head?.bind fun c =>
    if c = closing then some (make [], (skipSpace tail).tail)
    else (read fuel tail).map (fun r => (make r.1, r.2))

theorem Enclosed.readAs {opening : UInt8} {make : List α → Json}
    (opens : Opens opening closing read make) (takes : TakesPiece P Q closing read)
    (ends : IsDelimiter closing) (noComma : closing ≠ octet ',')
    (starts : ∀ {fuel bs r}, read fuel bs = some r →
      ∃ c rest, skipSpace bs = c :: rest ∧ c ≠ closing)
    {ts : List τ} {core : List UInt8} {as : List α} (written : Enclosed P opening closing ts core)
    (hold : List.Forall₂ Q ts as) : ReadAs value core (make as) := by
  cases written with
  | @empty blank space =>
    cases hold
    refine .of_cons fun fuel tail _ _ => ?_
    rw [opens, List.append_assoc, List.singleton_append, skipSpace_append space, ends.skipSpace]
    simp only [List.head?_cons, Option.bind_some, if_true, List.tail_cons]
  | @pieces _ body written =>
    refine .of_cons fun fuel tail enough _ => ?_
    rw [List.length_append, List.length_singleton] at enough
    have all := takes.separated ends noComma written hold fuel tail (by omega)
    obtain ⟨c, rest, start, more⟩ := starts all
    rw [opens, List.append_assoc, List.singleton_append, start, all]
    simp only [List.head?_cons, Option.bind_some, more, if_false, Option.map_some]

/-- What is read behind an opening mark ends with the closing one. -/
theorem exists_enclosed {opening : UInt8} {make : List α → Json}
    (opens : Opens opening closing read make) {fuel : Nat} {inside rest : List UInt8} {v : Json}
    (pieces : ∀ {as}, read fuel inside = some (as, rest) → ∃ ts body,
      inside = body ++ closing :: rest ∧ Separated P ts body ∧ List.Forall₂ Q ts as)
    (h : value (fuel + 1) (opening :: inside) = some (v, rest)) :
    ∃ ts core as, opening :: inside = core ++ rest ∧ v = make as ∧
      Enclosed P opening closing ts core ∧ List.Forall₂ Q ts as := by
  rw [opens] at h
  obtain ⟨c, start, taken⟩ := Option.bind_eq_some_iff.mp h
  split_ifs at taken with close
  · subst close
    obtain ⟨rfl, rfl⟩ := Prod.mk.inj (Option.some.inj taken)
    obtain ⟨behind, split⟩ := List.head?_eq_some_iff.mp start
    obtain ⟨blank, space, -, rfl⟩ := exists_blank_of_skipSpace split
    exact ⟨[], _, [], by simp [split], rfl, .empty space, .nil⟩
  · obtain ⟨⟨as, r⟩, all, same⟩ := Option.map_eq_some_iff.mp taken
    obtain ⟨rfl, rfl⟩ := Prod.mk.inj same
    obtain ⟨ts, body, rfl, written, hold⟩ := pieces all
    exact ⟨ts, _, as, by simp, rfl, .pieces written, hold⟩

/-- One piece in front of those that are written already, or the only one. -/
theorem exists_separated_cons {t : τ} {a : α} {as : List α}
    {bs piece behind rest : List UInt8} {c : UInt8} (split : bs = piece ++ c :: behind)
    (written : P t piece) (holds : Q t a)
    (next : (c = octet ',' ∧ ∃ others, as = a :: others ∧ ∃ ts body,
          behind = body ++ closing :: rest ∧ Separated P ts body ∧ List.Forall₂ Q ts others) ∨
        (c = closing ∧ behind = rest ∧ as = [a])) :
    ∃ ts body, bs = body ++ closing :: rest ∧ Separated P ts body ∧
      List.Forall₂ Q ts as := by
  subst split
  rcases next with ⟨rfl, others, rfl, ts, body, rfl, further, hold⟩ | ⟨rfl, rfl, rfl⟩
  · exact ⟨t :: ts, _, by simp, .more written further, .cons holds hold⟩
  · exact ⟨[t], piece, rfl, .last written, .cons holds .nil⟩

end Pieces

/-- One member: a name between quotes, a colon, and the text of a value. -/
inductive MemberText : Option String × List UInt8 → List UInt8 → Prop where
  | mk {blank key between front behind : List UInt8} {ps : List Piece} (text : List UInt8)
      (start : Blank blank) (name : quoted key = some (ps, [])) (middle : Blank between)
      (before : Blank front) (after : Blank behind) :
      MemberText (Piece.text? ps, text) (blank ++ octet '"' ::
        (key ++ (between ++ octet ':' :: (front ++ (text ++ behind)))))

/-- All that stands behind the colon may be taken for the text of the value. -/
theorem MemberText.of_colon {blank key between : List UInt8} {ps : List Piece}
    (text : List UInt8) (start : Blank blank) (name : quoted key = some (ps, []))
    (middle : Blank between) :
    MemberText (Piece.text? ps, text)
      (blank ++ octet '"' :: (key ++ (between ++ octet ':' :: text))) := by
  have none : Blank [] := List.forall_mem_nil _
  simpa using MemberText.mk text start name middle none none

/-- A member whose name is a text. -/
theorem MemberText.of_text (name : String) (blank key between front text behind : List UInt8)
    (named : (quoted key).map (fun r => (Piece.text? r.1, r.2)) = some (some name, []))
    (space : Blank blank ∧ Blank between ∧ Blank front ∧ Blank behind) :
    MemberText (some name, text) (blank ++ octet '"' ::
      (key ++ (between ++ octet ':' :: (front ++ (text ++ behind))))) := by
  obtain ⟨⟨ps, rest⟩, read, same⟩ := Option.map_eq_some_iff.mp named
  obtain ⟨spelled, rfl⟩ := Prod.mk.inj same
  rw [← spelled]
  exact .mk text space.1 read space.2.1 space.2.2.1 space.2.2.2

/-- An array from bracket to bracket, with the texts of its items. -/
def Bracketed : List (List UInt8) → List UInt8 → Prop :=
  Enclosed Eq (octet '[') (octet ']')

/-- An object from brace to brace, with the names and texts of its members. -/
def Braced : List (Option String × List UInt8) → List UInt8 → Prop :=
  Enclosed MemberText (octet '\x7b') (octet '\x7d')

/-- A member has the name that is written, and the value. -/
def Holds (Part : List UInt8 → Json → Prop) (t : Option String × List UInt8)
    (m : Option String × Json) : Prop :=
  t.1 = m.1 ∧ Part t.2 m.2

theorem items_takesPiece : TakesPiece Eq ValueText (octet ']') items := by
  rintro text v _ rfl read fuel c rest enough ends
  obtain ⟨behind, blank, valueRead⟩ := read.exists_read
  rw [items, valueRead fuel c rest enough ends]
  dsimp only
  rw [skipSpace_append blank, ends.skipSpace]

theorem members_takesPiece : TakesPiece MemberText (Holds ValueText) (octet '\x7d') members := by
  rintro _ ⟨_, v⟩ _ ⟨text, start, named, middle, before, after⟩ ⟨rfl, read⟩ fuel c rest enough ends
  rename_i blank key between front behind ps
  obtain ⟨left, space, valueRead⟩ := (read.spaced before after).exists_read
  obtain ⟨whole, split, again⟩ := exists_quoted_text named
  obtain rfl : key = whole := by simpa using split
  simp only [List.length_append, List.length_cons] at enough
  have value := valueRead fuel c rest (by simp only [List.length_append]; omega) ends
  simp only [List.append_assoc, List.cons_append] at value ⊢
  rw [members, skipSpace_blank_cons start (by decide)]
  simp only [if_true, again]
  rw [skipSpace_blank_cons middle (by decide)]
  simp only [if_true, value]
  rw [skipSpace_append space, ends.skipSpace]

/-! ## 4. What is written is read -/

/-- The text of a value, from its first octet to its last. Of its parts it is asked
that `Part` holds of their texts. -/
inductive Written (Part : List UInt8 → Json → Prop) : List UInt8 → Json → Prop where
  | null : Written Part (octets "null") .null
  | true : Written Part (octets "true") (.bool .true)
  | false : Written Part (octets "false") (.bool .false)
  | number {text : List UInt8} {n : Numeral} (read : numeral text = some (n, [])) :
      Written Part text (.number n)
  | string {text : List UInt8} {ps : List Piece} (read : quoted text = some (ps, [])) :
      Written Part (octet '"' :: text) (.string (Piece.text? ps))
  | array {texts : List (List UInt8)} {core : List UInt8} {vs : List Json}
      (written : Bracketed texts core) (parts : List.Forall₂ Part texts vs) :
      Written Part core (.array vs)
  | object {texts : List (Option String × List UInt8)} {core : List UInt8}
      {ms : List (Option String × Json)} (written : Braced texts core)
      (parts : List.Forall₂ (Holds Part) texts ms) : Written Part core (.object ms)

/-- A word is known by its first letter. -/
theorem readAs_word {b : UInt8} {text word : String} {v : Json}
    (split : octets text = b :: octets word) (own : ∀ fuel tail, value (fuel + 1) (b :: tail) =
      (afterWord word tail).map (fun r => (v, r))) : ReadAs value (octets text) v := by
  rw [split]
  refine .of_cons fun fuel tail _ _ => ?_
  rw [own, afterWord_eq_some_iff.mpr rfl]
  rfl

theorem ReadAs.number {text : List UInt8} {n : Numeral} (h : numeral text = some (n, [])) :
    ReadAs value text (.number n) := by
  obtain ⟨whole, split, filled, again⟩ := exists_numeral_text h
  obtain rfl : text = whole := by simpa using split
  obtain ⟨b, more, rfl⟩ := List.exists_cons_of_ne_nil filled
  refine .of_cons fun fuel tail _ stops => ?_
  rw [value_number fuel _ (startsNumber_of_numeral h), ← List.cons_append, again tail stops]
  rfl

theorem ReadAs.string {text : List UInt8} {ps : List Piece} (h : quoted text = some (ps, [])) :
    ReadAs value (octet '"' :: text) (.string (Piece.text? ps)) := by
  obtain ⟨whole, split, again⟩ := exists_quoted_text h
  obtain rfl : text = whole := by simpa using split
  refine .of_cons fun fuel tail _ _ => ?_
  rw [value_quote, again tail]
  rfl

/-- The octet starts no value. -/
def StartsNone (b : UInt8) : Prop :=
  StartsNumber b ∧ digit? b = none ∧ b ≠ octet '-'

instance (b : UInt8) : Decidable (StartsNone b) :=
  inferInstanceAs (Decidable (_ ∧ _))

theorem exists_start_of_value {fuel : Nat} {bs : List UInt8} {r : Json × List UInt8}
    (h : value fuel bs = some r) : ∃ c rest, skipSpace bs = c :: rest ∧ ¬ StartsNone c := by
  cases fuel with
  | zero =>
    rw [value] at h
    cases h
  | succ fuel =>
    rw [← value_skipSpace] at h
    cases start : skipSpace bs with
    | nil =>
      rw [start, value] at h
      cases h
    | cons c rest =>
      refine ⟨c, rest, rfl, ?_⟩
      rintro ⟨number, noDigit, noMinus⟩
      rw [start, value_number fuel rest number, numeral_cons_eq_none noDigit noMinus] at h
      cases h

/-- No item starts with a closing bracket, so there is no taking it for the end. -/
theorem exists_start_of_items {fuel : Nat} {bs : List UInt8} {r : List Json × List UInt8}
    (h : items fuel bs = some r) : ∃ c rest, skipSpace bs = c :: rest ∧ c ≠ octet ']' := by
  cases fuel with
  | zero =>
    rw [items] at h
    cases h
  | succ fuel =>
    rw [items] at h
    split at h
    · cases h
    · next read =>
      obtain ⟨c, rest, start, starts⟩ := exists_start_of_value read
      refine ⟨c, rest, start, ?_⟩
      rintro rfl
      exact starts (by decide)

theorem exists_start_of_members {fuel : Nat} {bs : List UInt8}
    {r : List (Option String × Json) × List UInt8} (h : members fuel bs = some r) :
    ∃ c rest, skipSpace bs = c :: rest ∧ c ≠ octet '\x7d' := by
  cases fuel with
  | zero =>
    rw [members] at h
    cases h
  | succ fuel =>
    rw [members] at h
    split at h
    · cases h
    · next q inside start =>
      split_ifs at h with quote
      exact ⟨q, inside, start, by rw [quote]; decide⟩

theorem Written.readAs {core : List UInt8} {v : Json} (h : Written ValueText core v) :
    ReadAs value core v := by
  cases h with
  | null => exact readAs_word (by decide +kernel) value_null
  | true => exact readAs_word (by decide +kernel) value_true
  | false => exact readAs_word (by decide +kernel) value_false
  | number read => exact .number read
  | string read => exact .string read
  | array written parts =>
    exact written.readAs value_bracket items_takesPiece (.inr (.inl rfl)) (by decide)
      exists_start_of_items parts
  | object written parts =>
    exact written.readAs value_brace members_takesPiece (.inr (.inr rfl)) (by decide)
      exists_start_of_members parts

/-! ## 5. What is read is written -/

/-- With so much fuel, whatever is read is written by the grammar. -/
structure TakesTexts (fuel : Nat) : Prop where
  value : ∀ {bs rest : List UInt8} {v : Json}, value fuel bs = some (v, rest) →
    ∃ blank core, bs = blank ++ (core ++ rest) ∧ Blank blank ∧ Written ValueText core v
  items : ∀ {bs rest : List UInt8} {vs : List Json}, items fuel bs = some (vs, rest) →
    ∃ texts body, bs = body ++ octet ']' :: rest ∧ Separated Eq texts body ∧
      List.Forall₂ ValueText texts vs
  members : ∀ {bs rest : List UInt8} {ms : List (Option String × Json)},
    members fuel bs = some (ms, rest) → ∃ texts body, bs = body ++ octet '\x7d' :: rest ∧
      Separated MemberText texts body ∧ List.Forall₂ (Holds ValueText) texts ms

/-- What one step into the members of an object does. -/
theorem exists_of_members_succ {fuel : Nat} {bs rest : List UInt8}
    {ms : List (Option String × Json)} (h : members (fuel + 1) bs = some (ms, rest)) :
    ∃ blank key between after ps v left c behind,
      bs = blank ++ octet '"' :: (key ++ (between ++ octet ':' :: after)) ∧
      Blank blank ∧ quoted key = some (ps, []) ∧ Blank between ∧
      value fuel after = some (v, left) ∧ skipSpace left = c :: behind ∧
      ((c = octet ',' ∧ ∃ others, members fuel behind = some (others, rest) ∧
          ms = (Piece.text? ps, v) :: others) ∨
        (c = octet '\x7d' ∧ behind = rest ∧ ms = [(Piece.text? ps, v)])) := by
  rw [members] at h
  split at h
  · cases h
  · next q inside start =>
    obtain ⟨blank, space, -, rfl⟩ := exists_blank_of_skipSpace start
    split_ifs at h with isQuote
    subst isQuote
    split at h
    · cases h
    · next ps afterKey named =>
      obtain ⟨key, rfl, again⟩ := exists_quoted_text named
      have name : quoted key = some (ps, []) := by simpa using again []
      split at h
      · cases h
      · next colon after middle =>
        obtain ⟨between, spaceBetween, -, rfl⟩ := exists_blank_of_skipSpace middle
        split_ifs at h with isColon
        subst isColon
        split at h
        · cases h
        · next v left read =>
          split at h
          · cases h
          · next c behind ends =>
            refine ⟨blank, key, between, after, ps, v, left, c, behind, rfl, space, name,
              spaceBetween, read, ends, ?_⟩
            split_ifs at h with isComma isBrace
            · obtain ⟨⟨others, r⟩, further, same⟩ := Option.map_eq_some_iff.mp h
              obtain ⟨rfl, rfl⟩ := Prod.mk.inj same
              exact .inl ⟨isComma, others, further, rfl⟩
            · obtain ⟨rfl, rfl⟩ := Prod.mk.inj (Option.some.inj h)
              exact .inr ⟨isBrace, rfl, rfl⟩

section Steps

variable {fuel : Nat} (takes : TakesTexts fuel) {bs rest : List UInt8}

include takes

/-- The octets of a value, the space around it, and what ends it. -/
theorem exists_valueText {left behind : List UInt8} {v : Json} {c : UInt8}
    (read : value fuel bs = some (v, left)) (ends : skipSpace left = c :: behind) :
    ∃ text, bs = text ++ c :: behind ∧ ValueText text v := by
  obtain ⟨front, core, rfl, before, written⟩ := takes.value read
  obtain ⟨blank, after, -, rfl⟩ := exists_blank_of_skipSpace ends
  exact ⟨front ++ (core ++ blank), by simp, written.readAs.valueText.spaced before after⟩

theorem exists_items_text {vs : List Json} (h : items (fuel + 1) bs = some (vs, rest)) :
    ∃ texts body, bs = body ++ octet ']' :: rest ∧ Separated Eq texts body ∧
      List.Forall₂ ValueText texts vs := by
  rw [items] at h
  split at h
  · cases h
  · next v left read =>
    split at h
    · cases h
    · next c behind ends =>
      obtain ⟨text, split, valueText⟩ := exists_valueText takes read ends
      refine exists_separated_cons split rfl valueText ?_
      split_ifs at h with isComma isBracket
      · obtain ⟨⟨others, r⟩, further, same⟩ := Option.map_eq_some_iff.mp h
        obtain ⟨rfl, rfl⟩ := Prod.mk.inj same
        exact .inl ⟨isComma, others, rfl, takes.items further⟩
      · obtain ⟨rfl, rfl⟩ := Prod.mk.inj (Option.some.inj h)
        exact .inr ⟨isBracket, rfl, rfl⟩

theorem exists_members_text {ms : List (Option String × Json)}
    (h : members (fuel + 1) bs = some (ms, rest)) :
    ∃ texts body, bs = body ++ octet '\x7d' :: rest ∧ Separated MemberText texts body ∧
      List.Forall₂ (Holds ValueText) texts ms := by
  obtain ⟨blank, key, between, after, ps, v, left, c, behind, rfl, space, name, spaceBetween,
    read, ends, next⟩ := exists_of_members_succ h
  obtain ⟨text, rfl, valueText⟩ := exists_valueText takes read ends
  have first := MemberText.of_colon text space name spaceBetween
  have holds : Holds ValueText (Piece.text? ps, text) (Piece.text? ps, v) := ⟨rfl, valueText⟩
  have split : blank ++ octet '"' :: (key ++ (between ++ octet ':' :: (text ++ c :: behind))) =
      (blank ++ octet '"' :: (key ++ (between ++ octet ':' :: text))) ++ c :: behind := by simp
  refine exists_separated_cons split first holds ?_
  rcases next with ⟨isComma, others, further, same⟩ | last
  · exact .inl ⟨isComma, others, same, takes.members further⟩
  · exact .inr last

/-- Space in front aside, the first octet tells which kind of value it is. -/
theorem exists_value_written {b : UInt8} {v : Json} (notSpace : isSpace b = false)
    (h : value (fuel + 1) (b :: bs) = some (v, rest)) :
    ∃ core, b :: bs = core ++ rest ∧ Written ValueText core v := by
  by_cases brace : b = octet '\x7b'
  · subst brace
    obtain ⟨texts, core, ms, split, rfl, written, parts⟩ :=
      exists_enclosed value_brace takes.members h
    exact ⟨core, split, .object written parts⟩
  by_cases bracket : b = octet '['
  · subst bracket
    obtain ⟨texts, core, vs, split, rfl, written, parts⟩ :=
      exists_enclosed value_bracket takes.items h
    exact ⟨core, split, .array written parts⟩
  by_cases quote : b = octet '"'
  · subst quote
    rw [value_quote] at h
    obtain ⟨⟨ps, r⟩, read, same⟩ := Option.map_eq_some_iff.mp h
    obtain ⟨rfl, rfl⟩ := Prod.mk.inj same
    obtain ⟨text, rfl, again⟩ := exists_quoted_text read
    exact ⟨octet '"' :: text, rfl, .string (by simpa using again [])⟩
  have word {text word : String} {u : Json} (split : octets text = b :: octets word)
      (written : Written ValueText (octets text) u)
      (own : ∀ fuel tail, value (fuel + 1) (b :: tail) =
        (afterWord word tail).map (fun r => (u, r))) :
      ∃ core, b :: bs = core ++ rest ∧ Written ValueText core v := by
    rw [own] at h
    obtain ⟨r, read, same⟩ := Option.map_eq_some_iff.mp h
    obtain ⟨rfl, rfl⟩ := Prod.mk.inj same
    exact ⟨octets text, by rw [afterWord_eq_some_iff.mp read, split, List.cons_append], written⟩
  by_cases isTrue : b = octet 't'
  · subst isTrue
    exact word (by decide +kernel) .true value_true
  by_cases isFalse : b = octet 'f'
  · subst isFalse
    exact word (by decide +kernel) .false value_false
  by_cases isNull : b = octet 'n'
  · subst isNull
    exact word (by decide +kernel) .null value_null
  rw [value_number fuel bs ⟨notSpace, quote, brace, bracket, isTrue, isFalse, isNull⟩] at h
  obtain ⟨⟨n, r⟩, read, same⟩ := Option.map_eq_some_iff.mp h
  obtain ⟨rfl, rfl⟩ := Prod.mk.inj same
  obtain ⟨text, split, -, again⟩ := exists_numeral_text read
  exact ⟨text, split, .number (by simpa using again [] stops_nil)⟩

theorem exists_written {v : Json} (h : value (fuel + 1) bs = some (v, rest)) :
    ∃ blank core, bs = blank ++ (core ++ rest) ∧ Blank blank ∧ Written ValueText core v := by
  cases start : skipSpace bs with
  | nil =>
    rw [← value_skipSpace, start, value] at h
    cases h
  | cons b inside =>
    obtain ⟨blank, space, notSpace, rfl⟩ := exists_blank_of_skipSpace start
    rw [value_append_of_blank space] at h
    obtain ⟨core, split, written⟩ := exists_value_written takes notSpace h
    exact ⟨blank, core, by rw [split], space, written⟩

end Steps

/-- **Whatever the reader takes off the front of some octets is a text of its own.** -/
theorem takesTexts (fuel : Nat) : TakesTexts fuel := by
  induction fuel with
  | zero =>
    refine ⟨fun h => ?_, fun h => ?_, fun h => ?_⟩
    · rw [value] at h
      cases h
    · rw [items] at h
      cases h
    · rw [members] at h
      cases h
  | succ fuel ih => exact ⟨exists_written ih, exists_items_text ih, exists_members_text ih⟩

/-! ## 6. Whole texts -/

theorem exists_written_of_parse? {text : List UInt8} {v : Json} (h : parse? text = some v) :
    ∃ front core behind, text = front ++ (core ++ behind) ∧ Blank front ∧ Blank behind ∧
      Written ValueText core v := by
  unfold parse? at h
  split at h
  · next u rest read =>
    split_ifs at h with blank
    obtain rfl := Option.some.inj h
    obtain ⟨front, core, split, before, written⟩ := (takesTexts _).value read
    rw [List.isEmpty_iff, skipSpace_eq_nil_iff] at blank
    exact ⟨front, core, rest, split, before, blank, written⟩
  · cases h

/-- A text is read alone as it is read inside another value. -/
theorem parse?_eq_some_iff {text : List UInt8} {v : Json} :
    parse? text = some v ↔ ValueText text v := by
  constructor
  · intro h
    obtain ⟨front, core, behind, split, before, after, written⟩ := exists_written_of_parse? h
    exact ⟨front, core, behind, split, before, after, written.readAs⟩
  · rintro ⟨front, core, behind, rfl, before, after, read⟩
    have found := read (2 * (front ++ (core ++ behind)).length + 2) behind
      (by rw [List.length_append, List.length_append]; omega) (stops_blank after)
    rw [parse?, value_append_of_blank before, found]
    simp [skipSpace_eq_nil_iff.mpr after]

/-- **The grammar.** The texts that are read as a value are those that are written as
one, with space around them, from texts that are read as its parts. -/
theorem parse?_iff_written {text : List UInt8} {v : Json} :
    parse? text = some v ↔
      ∃ front core behind, text = front ++ (core ++ behind) ∧ Blank front ∧ Blank behind ∧
        Written (fun t u => parse? t = some u) core v := by
  have part : (fun t u => parse? t = some u) = ValueText := by
    funext t u
    exact propext parse?_eq_some_iff
  rw [part]
  constructor
  · exact exists_written_of_parse?
  · rintro ⟨front, core, behind, split, before, after, written⟩
    exact parse?_eq_some_iff.mpr ⟨front, core, behind, split, before, after, written.readAs⟩

/-- No value starts with a space of any kind. -/
theorem not_all_isAsciiSpace {text : List UInt8} {v : Json} (h : parse? text = some v) :
    text.all Text.isAsciiSpace = false := by
  unfold parse? at h
  split at h
  · next read =>
    obtain ⟨c, rest, start, starts⟩ := exists_start_of_value read
    obtain ⟨blank, -, notSpace, rfl⟩ := exists_blank_of_skipSpace start
    suffices notAscii : Text.isAsciiSpace c = false by simp [notAscii]
    by_contra space
    -- The one space that is not passed over is the form feed.
    obtain rfl : c = 0x0C := by
      simp only [isSpace, Text.isAsciiSpace, Bool.or_eq_false_iff, beq_eq_false_iff_ne]
        at notSpace space
      tauto
    exact starts (by decide)
  · cases h

end TelemetryControl.Json
