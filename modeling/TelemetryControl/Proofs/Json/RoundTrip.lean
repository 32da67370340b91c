/-
TelemetryControl.Proofs.Json.RoundTrip — JSON values, read back.

Two things can keep a written value from being read back: a numeral that is
not well formed, and a text that is none. Without these (`Readable`) the
octets written for a value are read as that value (`parse?_text`).

What is shown by induction on the value is that its octets follow the rule of the
grammar for it (`Readable.written`); the grammar says that such octets are read.
-/
import TelemetryControl.Proofs.Json.Grammar

namespace TelemetryControl.Json

open TelemetryControl.Text (octet octets encode)

/-- The values whose texts are texts and whose numerals are well formed. -/
inductive Readable : Json → Prop where
  | null : Readable .null
  | bool (b : Bool) : Readable (.bool b)
  | number {n : Numeral} : n.WellFormed → Readable (.number n)
  | str (s : String) : Readable (.str s)
  | array {vs : List Json} : (∀ v ∈ vs, Readable v) → Readable (.array vs)
  | record {ms : List (String × Json)} : (∀ m ∈ ms, Readable m.2) → Readable (.record ms)

/-! ## 1. Pieces between marks -/

section Pieces

variable {τ σ : Type} {P : σ → List UInt8 → Prop} {name : τ → σ} {chars : τ → List Char}

theorem encode_commas (p q : List Char) (rest : List (List Char)) :
    encode (commas (p :: q :: rest)) = encode p ++ octet ',' :: encode (commas (q :: rest)) := by
  rw [commas, Text.encode_append, Text.encode_ascii_cons (by decide)]
  simp

theorem separated_encode (written : ∀ t, P (name t) (encode (chars t))) (t : τ) (ts : List τ) :
    Separated P ((t :: ts).map name) (encode (commas ((t :: ts).map chars))) := by
  induction ts generalizing t with
  | nil => exact .last (written t)
  | cons u rest ih =>
    simp only [List.map_cons, encode_commas]
    exact .more (written t) (ih u)

theorem enclosed_encode (written : ∀ t, P (name t) (encode (chars t))) {opening closing : Char}
    (first : opening.toNat < 0x80) (last : closing.toNat < 0x80) (ts : List τ) :
    Enclosed P (octet opening) (octet closing) (ts.map name)
      (encode (opening :: commas (ts.map chars) ++ [closing])) := by
  have close : encode [closing] = [octet closing] := Text.encode_ascii_cons last []
  rw [List.cons_append, Text.encode_ascii_cons first, Text.encode_append, close]
  cases ts with
  | nil => exact .empty (List.forall_mem_nil _)
  | cons t rest => exact .pieces (separated_encode written t rest)

end Pieces

/-! ## 2. Arrays and objects -/

theorem itemChars_eq (vs : List Json) : itemChars vs = vs.map chars := by
  induction vs with
  | nil => rfl
  | cons v rest ih => rw [itemChars, ih, List.map_cons]

theorem bracketed_encode (vs : List Json) :
    Bracketed (vs.map (fun v => encode v.chars)) (encode (chars (.array vs))) := by
  rw [chars, itemChars_eq]
  exact enclosed_encode (fun v => rfl) (by decide) (by decide) vs

/-- The text of a member. -/
def memberText (m : String × Json) : List Char := quote m.1 ++ ':' :: chars m.2

theorem memberChars_eq (ms : List (String × Json)) :
    memberChars (ms.map (fun m => (some m.1, m.2))) = ms.map memberText := by
  induction ms with
  | nil => rfl
  | cons m rest ih =>
    rw [List.map_cons, memberChars, ih, List.map_cons]
    rfl

/-- A member is written as a name between quotes, a colon and a value. -/
theorem memberText_encode (m : String × Json) :
    MemberText (some m.1, encode m.2.chars) (encode (memberText m)) := by
  obtain ⟨key, ps, written, name, read⟩ := quoted_quote m.1
  have named : quoted key = some (ps, []) := by simpa using read []
  have none : Blank [] := List.forall_mem_nil _
  rw [memberText, Text.encode_append, written, Text.encode_ascii_cons (by decide),
    List.cons_append, ← name]
  exact .of_colon _ none named none

theorem braced_encode (ms : List (String × Json)) :
    Braced (ms.map (fun m => (some m.1, encode m.2.chars))) (encode (record ms).chars) := by
  rw [record, chars, memberChars_eq]
  exact enclosed_encode memberText_encode (by decide) (by decide) ms

/-! ## 3. Values -/

theorem written_str (s : String) : Written ValueText (encode (str s).chars) (str s) := by
  obtain ⟨text, ps, written, spelled, read⟩ := quoted_quote s
  have closed : quoted text = some (ps, []) := by simpa using read []
  rw [str, chars, Option.getD_some, written, ← spelled]
  exact .string closed

/-- The octets of a readable value follow the grammar. -/
theorem Readable.written {v : Json} (h : v.Readable) : Written ValueText (encode v.chars) v := by
  induction h with
  | null =>
    rw [chars, ← Text.octets_eq]
    exact .null
  | bool b =>
    cases b with
    | false =>
      rw [chars, ← Text.octets_eq]
      exact .false
    | true =>
      rw [chars, ← Text.octets_eq]
      exact .true
  | @number n wellFormed =>
    have read := numeral_encode wellFormed stops_nil
    rw [List.append_nil] at read
    rw [chars]
    exact .number read
  | str s => exact written_str s
  | array _ ih =>
    refine .array (bracketed_encode _) ?_
    rw [List.forall₂_map_left_iff, List.forall₂_same]
    exact fun v hv => (ih v hv).readAs.valueText
  | record _ ih =>
    refine .object (braced_encode _) ?_
    rw [List.forall₂_map_left_iff, List.forall₂_map_right_iff, List.forall₂_same]
    exact fun m hm => ⟨rfl, (ih m hm).readAs.valueText⟩

/-- **The octets of a readable value spell that value.** -/
theorem parse?_text {v : Json} (h : v.Readable) : parse? (octets v.text) = some v := by
  rw [text, Text.octets_ofList]
  exact parse?_eq_some_iff.mpr h.written.readAs.valueText

end TelemetryControl.Json
