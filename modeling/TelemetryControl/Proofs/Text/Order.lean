/-
TelemetryControl.Proofs.Text.Order — texts in order, by characters and by octets.

Tables keep their names in the order of texts, which goes by characters. In UTF-8
it goes by octets just as well (`lt_iff_octets_lt`): the lesser of two
characters has the lesser octet where the two first differ, and neither is the
beginning of the other.
-/
import TelemetryControl.Proofs.Text.Octets

namespace TelemetryControl.Text

/-- The octets of the lesser character come first, whatever follows. -/
theorem utf8EncodeChar_append_lt {c d : Char} (less : c < d) (u v : List UInt8) :
    String.utf8EncodeChar c ++ u < String.utf8EncodeChar d ++ v := by
  have less : c.val.toNat < d.val.toNat := less
  have bound : d.val.toNat < 0x110000 := by
    have valid : d.val.toNat.isValidChar := d.valid
    unfold Nat.isValidChar at valid
    omega
  rw [String.utf8EncodeChar.eq_1, String.utf8EncodeChar.eq_1]
  generalize c.val.toNat = n at less
  generalize d.val.toNat = m at less bound
  have twice (k : Nat) : k / 4096 = k / 64 / 64 := by omega
  have thrice (k : Nat) : k / 262144 = k / 64 / 64 / 64 := by omega
  -- One case for each pair of lengths; in each the octets are digits of the numbers.
  repeat' split
  all_goals
    simp only [List.cons_append, List.nil_append, List.cons_lt_cons_iff, UInt8.lt_iff_toNat_lt,
      ← UInt8.toNat_inj, UInt8.toNat_ofNat', twice, thrice]
    omega

theorem encode_lt_encode {cs ds : List Char} (less : cs < ds) : encode cs < encode ds := by
  induction less with
  | nil =>
    obtain ⟨b, bs, spelt⟩ := List.exists_cons_of_ne_nil String.utf8EncodeChar_ne_nil
    rw [encode_cons, spelt]
    exact List.nil_lt_cons b _
  | cons _ ih => exact List.append_left_lt ih
  | rel less => exact utf8EncodeChar_append_lt less _ _

/-- **Texts are ordered by their octets.** -/
theorem lt_iff_octets_lt (s t : String) : s < t ↔ octets s < octets t := by
  have mono {s t : String} (less : s < t) : octets s < octets t := by
    rw [octets_eq, octets_eq]
    exact encode_lt_encode (String.lt_iff.mp less)
  constructor
  · exact mono
  · intro less
    by_contra notLess
    by_cases greater : t < s
    · exact List.lt_asymm less (mono greater)
    · obtain rfl : s = t := String.le_antisymm greater notLess
      exact List.lt_irrefl _ less

theorem le_iff_octets_le (s t : String) : s ≤ t ↔ octets s ≤ octets t :=
  not_congr (lt_iff_octets_lt t s)

end TelemetryControl.Text
