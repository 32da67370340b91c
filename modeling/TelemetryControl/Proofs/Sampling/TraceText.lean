/-
TelemetryControl.Proofs.Sampling.TraceText — identifiers as texts and back.

A text spells an identifier if it is 32 hexadecimal digits and nothing else
(`SpellsId`). Reading looks at the octets first, which comes to the same as
looking at the characters, and only then takes the digits for a number. That
cannot fail any more: there are digits, no sign is among them, and 32 of them
stay below `2 ^ 128` (`SpellsId.ofHex_eq`).

The main result is `parse_spells_exactly`: what is read is what is spelt, and
both ways round nothing but the case of letters is lost.
-/
import TelemetryControl.Proofs.Sampling.Threshold
import TelemetryControl.Proofs.Text.Hex

namespace TelemetryControl.TraceId

open Text (IsHexDigit hexValue hexDigits)

/-! ## 1. Texts that spell an identifier -/

/-- A text is 32 hexadecimal digits, letters in either case. -/
structure SpellsId (text : String) : Prop where
  length : text.toList.length = 32
  digits : ∀ c ∈ text.toList, IsHexDigit c

theorem spellsId_iff {text : String} :
    SpellsId text ↔ text.toList.length = 32 ∧ ∀ c ∈ text.toList, IsHexDigit c :=
  ⟨fun h => ⟨h.length, h.digits⟩, fun h => ⟨h.1, h.2⟩⟩

instance (text : String) : Decidable (SpellsId text) :=
  have : Decidable (∀ c ∈ text.toList, IsHexDigit c) := List.decidableBAll _ _
  decidable_of_iff _ spellsId_iff.symm

/-- It makes no difference that octets are counted and not characters. -/
theorem octets_spell_iff {text : String} :
    ((Text.octets text).length = 32 ∧ (Text.octets text).all Text.isHexOctet = true) ↔
      SpellsId text := by
  rw [Text.octets_eq, Text.all_isHexOctet_iff, spellsId_iff, and_congr_left_iff]
  intro digits
  rw [Text.length_encode_of_ascii (fun c member => (digits c member).lt)]

namespace SpellsId

variable {text : String}

theorem hexValue_lt (h : SpellsId text) : hexValue text.toList < count := by
  have below := Text.hexValue_lt h.digits
  rwa [h.length] at below

/-- **The digits are always read as a number.** -/
theorem ofHex_eq (h : SpellsId text) :
    Unsigned.ofHex count text.toList = .ok (hexValue text.toList) := by
  refine Text.ofHex_of_digits (fun none => ?_) h.digits h.hexValue_lt
  have length := h.length
  rw [none] at length
  cases length

theorem parse_eq (h : SpellsId text) : parse text = .ok (ofNat (hexValue text.toList)) := by
  simp only [parse, if_pos (octets_spell_iff.mpr h), h.ofHex_eq]

theorem toNat_ofNat (h : SpellsId text) :
    (ofNat (hexValue text.toList)).value.toNat = hexValue text.toList :=
  Nat.mod_eq_of_lt h.hexValue_lt

end SpellsId

theorem parse_of_not_spellsId {text : String} (h : ¬ SpellsId text) :
    parse text = .error (.parse ("invalid trace id: " ++ text)) := by
  simp only [parse, if_neg (fun looked => h (octets_spell_iff.mp looked))]

/-! ## 2. What is read -/

/-- The number that 64 bits stand for in two's complement. -/
def signed (bits : Nat) : Int :=
  if bits < 2 ^ 63 then bits else bits - 2 ^ 64

theorem toInt_randomPart_eq_signed (t : TraceId) :
    t.randomPart.toInt = signed (t.value.toNat % 2 ^ 64) := by
  rw [toInt_randomPart, signed, Int.bmod]
  split <;> split <;> omega

namespace SpellsId

variable {text : String}

theorem text_ofNat (h : SpellsId text) :
    (ofNat (hexValue text.toList)).text = Text.lower text := by
  rw [TraceId.text, h.toNat_ofNat, ← h.length, Text.hexDigits_hexValue h.digits]
  rfl

theorem toInt_randomPart_ofNat (h : SpellsId text) :
    (ofNat (hexValue text.toList)).randomPart.toInt = signed (hexValue (text.toList.drop 16)) := by
  have lower : (text.toList.drop 16).length = 16 := by
    rw [List.length_drop, h.length]
  have small : hexValue (text.toList.drop 16) < 2 ^ 64 := by
    have digits : ∀ c ∈ text.toList.drop 16, IsHexDigit c := fun c member =>
      h.digits c (List.mem_of_mem_drop member)
    have below := Text.hexValue_lt digits
    rwa [lower] at below
  have halves : hexValue text.toList =
      hexValue (text.toList.take 16) * 2 ^ 64 + hexValue (text.toList.drop 16) := by
    have value := Text.hexValue_append (text.toList.take 16) (text.toList.drop 16)
    rwa [List.take_append_drop, lower] at value
  rw [toInt_randomPart_eq_signed, h.toNat_ofNat, halves, Nat.mul_add_mod_self_right,
    Nat.mod_eq_of_lt small]

end SpellsId

/-! ## 3. What is written -/

theorem spellsId_text (t : TraceId) : SpellsId t.text where
  length := by rw [text, String.toList_ofList, Text.length_hexDigits]
  digits := fun c member => by
    rw [text, String.toList_ofList] at member
    exact Text.isHexDigit_of_mem_hexDigits member

/-- An identifier is read from its own text. -/
theorem parse_text (t : TraceId) : parse t.text = .ok t := by
  have value : hexValue t.text.toList = t.value.toNat := by
    rw [text, String.toList_ofList, Text.hexValue_hexDigits]
    exact Nat.mod_eq_of_lt t.value.isLt
  rw [(spellsId_text t).parse_eq, value, ofNat, BitVec.ofNat_toNat, BitVec.setWidth_eq]

/-! ## 4. Sixteen octets -/

theorem lt_of_mem_map_toNat (bs : List UInt8) : ∀ d ∈ bs.map UInt8.toNat, d < 256 := by
  intro d member
  obtain ⟨b, -, rfl⟩ := List.mem_map.mp member
  exact b.toNat_lt

theorem toNat_ofOctets {bs : List UInt8} (sixteen : bs.length = 16) :
    (ofOctets bs).value.toNat = Places.value 256 (bs.map UInt8.toNat) := by
  have number : bs.foldl (fun n b => 256 * n + b.toNat) 0 =
      Places.value 256 (bs.map UInt8.toNat) := by
    rw [← Places.foldl_eq, List.foldl_map]
  have below : Places.value 256 (bs.map UInt8.toNat) < 256 ^ 16 := by
    have small := Places.value_lt (by decide) (lt_of_mem_map_toNat bs)
    rwa [List.length_map, sixteen] at small
  rw [ofOctets, number]
  exact Nat.mod_eq_of_lt below

/-- **Sixteen octets and an identifier are the same thing.** -/
theorem octets_ofOctets {bs : List UInt8} (sixteen : bs.length = 16) :
    (ofOctets bs).octets = bs := by
  refine List.ext_getElem (by simp [octets, sixteen]) (fun i _ inside => ?_)
  have place : ((bs.drop (i + 1)).map UInt8.toNat).length = 15 - i := by
    rw [List.length_map, List.length_drop]
    omega
  have split : bs.map UInt8.toNat =
      (bs.take i).map UInt8.toNat ++ bs[i].toNat :: (bs.drop (i + 1)).map UInt8.toNat := by
    rw [← List.map_cons, List.getElem_cons_drop, ← List.map_append, List.take_append_drop]
  have found : Places.value 256 ((bs.take i).map UInt8.toNat ++
      bs[i].toNat :: (bs.drop (i + 1)).map UInt8.toNat) /
        256 ^ ((bs.drop (i + 1)).map UInt8.toNat).length % 256 = bs[i].toNat :=
    Places.value_div_mod (by decide) bs[i].toNat_lt (lt_of_mem_map_toNat _)
  rw [← split, place, ← toNat_ofOctets sixteen] at found
  simpa [octets, ← UInt8.toNat_inj] using found

/-! ## 5. Both ways round -/

/-- **An identifier is read from its 32 digits and from nothing else.** A text that
spells one is read whatever its digits are, for the number of them always
fits; the identifier is written as the same digits in lower case, and its
random part is the last sixteen of them in two's complement. Any other text is
named in the fault. And sixteen octets come back from the text of their
identifier. -/
theorem parse_spells_exactly (text : String) (bs : List UInt8) :
    (SpellsId text →
      Unsigned.ofHex count text.toList = .ok (hexValue text.toList) ∧
      ∃ t, parse text = .ok t ∧ t.text = Text.lower text ∧
        t.randomPart.toInt = signed (hexValue (text.toList.drop 16))) ∧
    (¬ SpellsId text → parse text = .error (.parse ("invalid trace id: " ++ text))) ∧
    (bs.length = 16 → (parse (ofOctets bs).text).map octets = .ok bs) := by
  refine ⟨?spelt, parse_of_not_spellsId, ?octets⟩
  case spelt =>
    intro spelt
    exact ⟨spelt.ofHex_eq, _, spelt.parse_eq, spelt.text_ofNat, spelt.toInt_randomPart_ofNat⟩
  case octets =>
    intro sixteen
    rw [parse_text, Except.map, octets_ofOctets sixteen]

/-- The least random part there is, in capitals; a text of 32 octets that has only half
as many characters; and octets that start with zeros. -/
theorem parse_spells_exactly_at_the_edges :
    let least := "ABCDEF00000000008000000000000000"
    let accents := "éééééééééééééééé"
    let bs : List UInt8 := [0, 0, 0, 0, 0, 0, 0, 0, 0, 0, 0, 0, 0, 0, 1, 255]
    (SpellsId least ∧ ∃ t, parse least = .ok t ∧ t.text = "abcdef00000000008000000000000000" ∧
      t.randomPart.toInt = -2 ^ 63) ∧
    ((Text.octets accents).length = 32 ∧
      parse accents = .error (.parse ("invalid trace id: " ++ accents))) ∧
    (parse (ofOctets bs).text).map octets = .ok bs := by
  intro least accents bs
  have spelt : SpellsId least := by decide +kernel
  have notSpelt : ¬ SpellsId accents := by decide +kernel
  obtain ⟨-, t, read, written, part⟩ := (parse_spells_exactly least bs).1 spelt
  have lower : Text.lower least = "abcdef00000000008000000000000000" := by decide +kernel
  have value : signed (hexValue (least.toList.drop 16)) = -2 ^ 63 := by decide +kernel
  refine ⟨⟨spelt, t, read, written.trans lower, part.trans value⟩, ⟨?counted, ?refused⟩, ?octets⟩
  case counted => decide +kernel
  case refused => exact (parse_spells_exactly accents bs).2.1 notSpelt
  case octets => exact (parse_spells_exactly least bs).2.2 rfl

end TelemetryControl.TraceId
