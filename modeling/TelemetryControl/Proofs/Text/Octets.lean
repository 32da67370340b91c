/-
TelemetryControl.Proofs.Text.Octets — texts as octets and back.

The octets of a text are those of its characters in order (`octets_eq`), and
they spell that text again (`ofOctets?_octets`). An ASCII character is one
octet, of its own number (`utf8EncodeChar_of_ascii`), and all octets of any
other character lie above these (`le_of_mem_utf8EncodeChar`), so that a reader
which looks for ASCII octets never mistakes a part of another character for
one. A text whose octets all have a property of ASCII octets is therefore
ASCII (`forall_mem_encode_iff`, `forall_mem_octets_lt_iff`).
-/
import TelemetryControl.Text.Ascii
import Mathlib.Data.List.Basic

namespace TelemetryControl.Text

/-! ## 1. Octets in order -/

/-- The octets of some characters in UTF-8. -/
def encode (cs : List Char) : List UInt8 :=
  cs.flatMap String.utf8EncodeChar

@[simp] theorem encode_nil : encode [] = [] := rfl

@[simp] theorem encode_append (cs ds : List Char) : encode (cs ++ ds) = encode cs ++ encode ds :=
  List.flatMap_append

theorem encode_cons (c : Char) (cs : List Char) :
    encode (c :: cs) = String.utf8EncodeChar c ++ encode cs := rfl

/-- The loop of `ByteArray.toList` collects octets from a place onwards. -/
theorem toList_loop (bs : ByteArray) (i : Nat) (collected : List UInt8) :
    ByteArray.toList.loop bs i collected = collected.reverse ++ bs.data.toList.drop i := by
  rw [ByteArray.toList.loop.eq_1]
  split
  · next inside =>
    have rest : bs.data.toList.drop i = bs.get! i :: bs.data.toList.drop (i + 1) := by
      rw [List.drop_eq_getElem_cons (by simpa using inside)]
      simp [ByteArray.get!, inside]
    rw [toList_loop bs (i + 1), rest]
    simp
  · next outside =>
    rw [List.drop_eq_nil_of_le (by simpa using Nat.le_of_not_lt outside), List.append_nil]
termination_by bs.size - i

theorem byteArray_toList (bs : ByteArray) : bs.toList = bs.data.toList := by
  rw [ByteArray.toList.eq_1, toList_loop]
  rfl

/-- The octets of a text are those of its characters. -/
theorem octets_eq (s : String) : octets s = encode s.toList := by
  have characters : s.toByteArray = s.toList.utf8Encode := by
    rw [← String.toByteArray_ofList, String.ofList_toList]
  rw [octets, byteArray_toList]
  show s.toByteArray.data.toList = _
  rw [characters]
  exact List.toList_data_toByteArray

@[simp] theorem octets_ofList (cs : List Char) : octets (String.ofList cs) = encode cs := by
  rw [octets_eq, String.toList_ofList]

/-- **Octets of a text spell that text.** -/
theorem ofOctets?_octets (s : String) : ofOctets? (octets s) = some s := by
  have same : (⟨(octets s).toArray⟩ : ByteArray) = s.toByteArray := by
    rw [octets, byteArray_toList]
    rfl
  rw [ofOctets?, same, String.fromUTF8?, dif_pos s.isValidUTF8]
  rfl

/-- A text is spelt by its own octets alone. -/
theorem ofOctets?_eq_some_iff {bs : List UInt8} {s : String} :
    ofOctets? bs = some s ↔ bs = octets s := by
  constructor
  · intro spelt
    rw [ofOctets?, String.fromUTF8?] at spelt
    split at spelt
    · obtain rfl := Option.some.inj spelt
      rw [octets, byteArray_toList]
      rfl
    · cases spelt
  · rintro rfl
    exact ofOctets?_octets s

theorem ofOctets?_encode (cs : List Char) : ofOctets? (encode cs) = some (String.ofList cs) := by
  rw [← octets_ofList, ofOctets?_octets]

/-! ## 2. ASCII and other characters -/

theorem utf8EncodeChar_of_ascii {c : Char} (h : c.toNat < 0x80) :
    String.utf8EncodeChar c = [octet c] := by
  have small : c.val.toNat ≤ 127 := Nat.le_of_lt_succ h
  rw [String.utf8EncodeChar.eq_1, if_pos small]
  rfl

theorem encode_ascii_cons {c : Char} (h : c.toNat < 0x80) (cs : List Char) :
    encode (c :: cs) = octet c :: encode cs := by
  rw [encode_cons, utf8EncodeChar_of_ascii h, List.singleton_append]

theorem length_encode_of_ascii {cs : List Char} (ascii : ∀ c ∈ cs, c.toNat < 0x80) :
    (encode cs).length = cs.length := by
  induction cs with
  | nil => rfl
  | cons c rest ih =>
    rw [encode_ascii_cons (ascii c List.mem_cons_self), List.length_cons, List.length_cons,
      ih (fun d member => ascii d (List.mem_cons_of_mem _ member))]

theorem toNat_octet {c : Char} (h : c.toNat < 0x80) : (octet c).toNat = c.toNat := by
  have small : c.toNat < 2 ^ 8 := Nat.lt_trans h (by decide)
  simpa [octet] using Nat.mod_eq_of_lt small

/-- ASCII characters are told apart by their octets. -/
theorem eq_of_octet_eq {c d : Char} (hc : c.toNat < 0x80) (hd : d.toNat < 0x80)
    (h : octet c = octet d) : c = d := by
  rw [← Char.toNat_inj, ← toNat_octet hc, ← toNat_octet hd, h]

/-- Octets of a character beyond ASCII are not ASCII. -/
theorem le_of_mem_utf8EncodeChar {c : Char} (h : ¬ c.toNat < 0x80) {b : UInt8}
    (mem : b ∈ String.utf8EncodeChar c) : 0x80 ≤ b := by
  have large : ¬ c.val.toNat ≤ 127 := fun small => h (Nat.lt_succ_of_le small)
  rw [String.utf8EncodeChar.eq_1, if_neg large] at mem
  rw [UInt8.le_iff_toNat_le]
  split at mem
  · simp only [List.mem_cons, List.not_mem_nil, or_false] at mem
    rcases mem with rfl | rfl <;> simp <;> omega
  · split at mem
    · simp only [List.mem_cons, List.not_mem_nil, or_false] at mem
      rcases mem with rfl | rfl | rfl <;> simp <;> omega
    · simp only [List.mem_cons, List.not_mem_nil, or_false] at mem
      rcases mem with rfl | rfl | rfl | rfl <;> simp <;> omega

/-- What only ASCII octets have, all octets of a text have exactly if all its
characters are ASCII and have it. -/
theorem forall_mem_encode_iff {p : UInt8 → Prop} (ascii : ∀ b, p b → b < 0x80) {cs : List Char} :
    (∀ b ∈ encode cs, p b) ↔ ∀ c ∈ cs, c.toNat < 0x80 ∧ p (octet c) := by
  have one (c : Char) : (∀ b ∈ String.utf8EncodeChar c, p b) ↔ c.toNat < 0x80 ∧ p (octet c) := by
    by_cases small : c.toNat < 0x80
    · rw [utf8EncodeChar_of_ascii small]
      simp [small]
    · -- A character beyond ASCII has octets, and none of them is ASCII.
      obtain ⟨b, bs, spelt⟩ := List.exists_cons_of_ne_nil (String.utf8EncodeChar_ne_nil (c := c))
      have member : b ∈ String.utf8EncodeChar c := spelt ▸ List.mem_cons_self
      refine iff_of_false (fun all => ?_) (fun h => small h.1)
      have below := UInt8.lt_iff_toNat_lt.mp (ascii b (all b member))
      exact Nat.not_lt.mpr (UInt8.le_iff_toNat_le.mp (le_of_mem_utf8EncodeChar small member)) below
  induction cs with
  | nil => simp
  | cons c cs ih =>
    rw [encode_cons, List.forall_mem_append, one, List.forall_mem_cons]
    exact and_congr_right' ih

/-- A text of ASCII characters only. -/
def IsAscii (s : String) : Prop :=
  ∀ c ∈ s.toList, c.toNat < 0x80

instance (s : String) : Decidable (IsAscii s) :=
  List.decidableBAll (fun c : Char => c.toNat < 0x80) s.toList

/-- A text has octets of ASCII only if and only if it is ASCII. -/
theorem forall_mem_octets_lt_iff {s : String} : (∀ b ∈ octets s, b < 0x80) ↔ IsAscii s := by
  rw [octets_eq, forall_mem_encode_iff (fun _ => id)]
  refine forall₂_congr fun c _ => and_iff_left_of_imp fun small => ?_
  rwa [UInt8.lt_iff_toNat_lt, toNat_octet small]

end TelemetryControl.Text
