/-
TelemetryControl.Proofs.Text.Percent — percent escapes read back.

An escape is read as the octet it was written for, whatever follows
(`decode_escape`), and an octet that is no percent sign is read as itself. So
once the percent sign is among the characters that are escaped, a text is read
back whole (`decode_encode`). Nothing that is escaped stands in what is written,
the percent sign apart, unless it is a letter or a digit
(`notMem_encode`).
-/
import TelemetryControl.Proofs.Text.Octets
import TelemetryControl.Text.Percent

namespace TelemetryControl.Text.Percent

open TelemetryControl.Text (octet octets)

/-! ## 1. One octet -/

@[simp] theorem decode_nil : decode [] = [] := by
  rw [decode.eq_def]

theorem decode_cons_of_ne {b : UInt8} (plain : b ≠ octet '%') (rest : List UInt8) :
    decode (b :: rest) = b :: decode rest := by
  rw [decode.eq_def]
  simp only [if_neg plain]

/-- The upper-case digit of a value below sixteen. -/
def digitChar (d : Nat) : Char :=
  (hexChar d).toUpper

theorem digitChar_spec {d : Nat} (small : d < 16) :
    (digitChar d).toNat < 0x80 ∧ (digitChar d).isAlphanum = true ∧
      digit? (octet (digitChar d)) = some d := by
  have all : ∀ e ∈ List.range 16, (digitChar e).toNat < 0x80 ∧
      (digitChar e).isAlphanum = true ∧ digit? (octet (digitChar e)) = some e := by decide
  exact all d (List.mem_range.mpr small)

theorem escape_eq (b : UInt8) :
    escape b = ['%', digitChar (b.toNat / 16 % 16), digitChar (b.toNat % 16)] := rfl

/-- An escape stands for its octet, whatever follows. -/
theorem decode_escape (b : UInt8) (rest : List UInt8) :
    decode (Text.encode (escape b) ++ rest) = b :: decode rest := by
  obtain ⟨asciiHigh, -, high⟩ := digitChar_spec (Nat.mod_lt (b.toNat / 16) (by decide))
  obtain ⟨asciiLow, -, low⟩ := digitChar_spec (Nat.mod_lt b.toNat (by decide))
  have below : b.toNat < 256 := b.toNat_lt
  have value : 16 * (b.toNat / 16 % 16) + b.toNat % 16 = b.toNat := by omega
  rw [escape_eq, Text.encode_ascii_cons (by decide), Text.encode_ascii_cons asciiHigh,
    Text.encode_ascii_cons asciiLow, Text.encode_nil]
  simp only [List.cons_append, List.nil_append]
  rw [decode.eq_def]
  simp only [if_true, high, low, value, Nat.toUInt8_eq, UInt8.ofNat_toNat]

theorem decode_escapes (bs rest : List UInt8) :
    decode (Text.encode (bs.flatMap escape) ++ rest) = bs ++ decode rest := by
  induction bs with
  | nil => rfl
  | cons b bs ih =>
    rw [List.flatMap_cons, Text.encode_append, List.append_assoc, decode_escape, ih,
      List.cons_append]

/-! ## 2. Texts -/

variable {special : Char → Bool}

theorem encode_cons (special : Char → Bool) (c : Char) (cs : List Char) :
    encode special (c :: cs) =
      (if special c || 0x7F ≤ c.toNat then (String.utf8EncodeChar c).flatMap escape else [c]) ++
        encode special cs := by
  have one : octets (String.singleton c) = String.utf8EncodeChar c := by
    rw [Text.octets_eq, String.toList_singleton, Text.encode_cons, Text.encode_nil,
      List.append_nil]
  rw [encode, List.flatMap_cons, one, encode]

/-- **A text is read back from its escapes.** -/
theorem decode_encode (percent : special '%' = true) (cs : List Char) :
    decode (Text.encode (encode special cs)) = Text.encode cs := by
  induction cs with
  | nil => exact decode_nil
  | cons c cs ih =>
    rw [encode_cons, Text.encode_append, Text.encode_cons]
    split
    · rw [decode_escapes, ih]
    · next plain =>
      simp only [Bool.or_eq_true, decide_eq_true_eq, not_or, Nat.not_le] at plain
      have ascii : c.toNat < 0x80 := Nat.lt_succ_of_lt plain.2
      have notPercent : octet c ≠ octet '%' := fun same => by
        obtain rfl := Text.eq_of_octet_eq ascii (by decide) same
        exact plain.1 percent
      rw [Text.encode_cons, Text.encode_nil, List.append_nil, Text.utf8EncodeChar_of_ascii ascii,
        List.singleton_append, decode_cons_of_ne notPercent, ih, List.singleton_append]

theorem mem_escape {b : UInt8} {c : Char} (member : c ∈ escape b) :
    c = '%' ∨ c.isAlphanum = true := by
  rw [escape_eq] at member
  simp only [List.mem_cons, List.not_mem_nil, or_false] at member
  rcases member with rfl | rfl | rfl
  · exact .inl rfl
  · exact .inr (digitChar_spec (Nat.mod_lt _ (by decide))).2.1
  · exact .inr (digitChar_spec (Nat.mod_lt _ (by decide))).2.1

/-- A mark that is escaped does not stand in what is written. -/
theorem notMem_encode {mark : Char} (escaped : special mark = true) (notPercent : mark ≠ '%')
    (notAlphanum : mark.isAlphanum = false) (cs : List Char) : mark ∉ encode special cs := by
  induction cs with
  | nil => exact List.not_mem_nil
  | cons c cs ih =>
    rw [encode_cons, List.mem_append, not_or]
    refine ⟨fun member => ?_, ih⟩
    split at member
    · obtain ⟨b, -, inEscape⟩ := List.mem_flatMap.mp member
      rcases mem_escape inEscape with rfl | alphanum
      · exact notPercent rfl
      · rw [notAlphanum] at alphanum
        cases alphanum
    · next plain =>
      obtain rfl := List.mem_singleton.mp member
      simp [escaped] at plain

theorem encode_ne_nil {cs : List Char} (given : cs ≠ []) : encode special cs ≠ [] := by
  cases cs with
  | nil => exact absurd rfl given
  | cons c cs =>
    rw [encode_cons]
    split
    · obtain ⟨b, bs, spelt⟩ := List.exists_cons_of_ne_nil (String.utf8EncodeChar_ne_nil (c := c))
      simp [spelt, escape_eq]
    · simp

end TelemetryControl.Text.Percent
