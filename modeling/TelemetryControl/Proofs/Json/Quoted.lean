/-
TelemetryControl.Proofs.Json.Quoted — texts between quotes, read back.

The writer escapes a text character by character and the reader takes it in
piece by piece. `Spells` ties what is written to the octets it stands for,
through the pieces between, and holds for parts put one after the other. So
it is enough to look at one character (`exists_spells_escape`), and the text
between quotes is read back whole (`quoted_quote`).
-/
import TelemetryControl.Json.Reader
import TelemetryControl.Proofs.Text.Octets

namespace TelemetryControl.Json

open TelemetryControl.Text (octet octets encode)

/-- Some octets between quotes are read as some pieces, and these stand for the
octets of a text. -/
structure Spells (written : List UInt8) (ps : List Piece) (spelled : List UInt8) : Prop where
  read : ∀ tail, quoted (written ++ tail) = (quoted tail).map (fun r => (ps ++ r.1, r.2))
  stand : ∀ rest, Piece.octets? (ps ++ rest) = (Piece.octets? rest).map (spelled ++ ·)

namespace Spells

theorem nil : Spells [] [] [] where
  read := fun tail => by simp
  stand := fun rest => by simp

theorem append {w w' : List UInt8} {ps ps' : List Piece} {bs bs' : List UInt8}
    (h : Spells w ps bs) (h' : Spells w' ps' bs') : Spells (w ++ w') (ps ++ ps') (bs ++ bs') where
  read := fun tail => by
    rw [List.append_assoc, h.read, h'.read, Option.map_map]
    simp [Function.comp_def]
  stand := fun rest => by
    rw [List.append_assoc, h.stand, h'.stand, Option.map_map]
    simp [Function.comp_def]

/-- An octet that is nothing special between quotes stands for itself. -/
theorem plain {b : UInt8} (notQuote : b ≠ octet '"') (notEscape : b ≠ octet '\\')
    (notControl : ¬ b < 0x20) : Spells [b] [.raw b] [b] where
  read := fun tail => by
    rw [List.singleton_append, quoted.eq_def]
    simp only [notQuote, notEscape, notControl, if_false, List.singleton_append]
  stand := fun rest => rfl

theorem plains {bs : List UInt8}
    (h : ∀ b ∈ bs, b ≠ octet '"' ∧ b ≠ octet '\\' ∧ ¬ b < 0x20) : Spells bs (bs.map .raw) bs := by
  induction bs with
  | nil => exact nil
  | cons b rest ih =>
    obtain ⟨notQuote, notEscape, notControl⟩ := h b List.mem_cons_self
    exact (plain notQuote notEscape notControl).append
      (ih (fun b hb => h b (List.mem_cons_of_mem _ hb)))

/-- A letter after a backslash stands for one octet. -/
theorem letter {e b : UInt8} (h : letterEscape? e = some b) (notCode : e ≠ octet 'u') :
    Spells [octet '\\', e] [.raw b] [b] where
  read := fun tail => by
    have notQuote : octet '\\' ≠ octet '"' := by decide
    rw [List.cons_append, List.singleton_append, quoted.eq_def]
    simp only [h, notCode, notQuote, if_false, if_true, List.singleton_append]
  stand := fun rest => rfl

end Spells

/-! ## 2. One character -/

theorem hexOctet?_hexChar {d : Nat} (h : d < 16) : hexOctet? (octet (Text.hexChar d)) = some d := by
  have all : ∀ e ∈ List.range 16, hexOctet? (octet (Text.hexChar e)) = some e := by decide
  exact all d (List.mem_range.mpr h)

theorem encode_hexChar {d : Nat} (h : d < 16) :
    String.utf8EncodeChar (Text.hexChar d) = [octet (Text.hexChar d)] := by
  have all : ∀ e ∈ List.range 16, (Text.hexChar e).toNat < 0x80 := by decide
  exact Text.utf8EncodeChar_of_ascii (all d (List.mem_range.mpr h))

theorem encode_hexDigits (n : Nat) :
    encode (Text.hexDigits 4 n) =
      [n / 16 / 16 / 16 % 16, n / 16 / 16 % 16, n / 16 % 16, n % 16].map
        (fun d => octet (Text.hexChar d)) := by
  have digit (d : Nat) : String.utf8EncodeChar (Text.hexChar (d % 16)) =
      [octet (Text.hexChar (d % 16))] := encode_hexChar (Nat.mod_lt d (by decide))
  simp [Text.hexDigits, encode, digit]

/-- Four digits after a backslash and a `u` stand for a code point. -/
theorem Spells.code {c : Char} (h : c.toNat < 0x20) :
    Spells (encode (['\\', 'u'] ++ Text.hexDigits 4 c.toNat)) [.unit c.toNat]
      (String.utf8EncodeChar c) where
  read := fun tail => by
    have notQuote : octet '\\' ≠ octet '"' := by decide
    have digit (d : Nat) : hexOctet? (octet (Text.hexChar (d % 16))) = some (d % 16) :=
      hexOctet?_hexChar (Nat.mod_lt d (by decide))
    have value : 4096 * (c.toNat / 16 / 16 / 16 % 16) + 256 * (c.toNat / 16 / 16 % 16) +
        16 * (c.toNat / 16 % 16) + c.toNat % 16 = c.toNat := by omega
    have start : encode ['\\', 'u'] = [octet '\\', octet 'u'] := by decide
    rw [Text.encode_append, start, encode_hexDigits, List.map_cons, List.map_cons, List.map_cons,
      List.map_singleton]
    simp only [List.cons_append, List.nil_append]
    rw [quoted.eq_def]
    simp only [notQuote, if_false, if_true, digit, value]
  stand := fun rest => by
    have notLow : ¬ (0xDC00 ≤ c.toNat ∧ c.toNat ≤ 0xDFFF) := by omega
    have notHigh : ¬ (0xD800 ≤ c.toNat ∧ c.toNat ≤ 0xDBFF) := by omega
    rw [List.singleton_append, Piece.octets?.eq_def]
    simp only [notLow, notHigh, if_false, Piece.encode, Char.ofNat_toNat]
    rw [Text.octets_eq]
    simp [encode]

/-- The letter that a character is escaped with stands for it. -/
theorem Spells.escapeLetter {c l : Char} (ascii : c.toNat < 0x80) (asciiLetter : l.toNat < 0x80)
    (h : letterEscape? (octet l) = some (octet c)) (notCode : octet l ≠ octet 'u') :
    Spells (encode ['\\', l]) [.raw (octet c)] (String.utf8EncodeChar c) := by
  have written : encode ['\\', l] = [octet '\\', octet l] := by
    rw [Text.encode_cons, Text.encode_cons, Text.utf8EncodeChar_of_ascii asciiLetter]
    rfl
  rw [written, Text.utf8EncodeChar_of_ascii ascii]
  exact Spells.letter h notCode

/-- A character that is not escaped has no octet that would be read as something
else. -/
theorem Spells.unescaped {c : Char} (notQuote : c ≠ '"') (notBackslash : c ≠ '\\')
    (notControl : ¬ c.toNat < 0x20) :
    Spells (encode [c]) ((String.utf8EncodeChar c).map .raw) (String.utf8EncodeChar c) := by
  have single : encode [c] = String.utf8EncodeChar c := by simp [encode]
  rw [single]
  apply Spells.plains
  intro b hb
  by_cases ascii : c.toNat < 0x80
  · rw [Text.utf8EncodeChar_of_ascii ascii, List.mem_singleton] at hb
    subst hb
    refine ⟨fun e => notQuote ?_, fun e => notBackslash ?_, fun e => notControl ?_⟩
    · exact Text.eq_of_octet_eq ascii (by decide) e
    · exact Text.eq_of_octet_eq ascii (by decide) e
    · rw [UInt8.lt_iff_toNat_lt, Text.toNat_octet ascii] at e
      exact e
  · have beyond := Text.le_of_mem_utf8EncodeChar ascii hb
    refine ⟨?_, ?_, ?_⟩
    · rintro rfl
      exact absurd beyond (by decide)
    · rintro rfl
      exact absurd beyond (by decide)
    · exact UInt8.not_lt.mpr (UInt8.le_trans (by decide) beyond)

/-- However a character is written, it is read back. -/
theorem exists_spells_escape (c : Char) :
    ∃ ps, Spells (encode (escape c)) ps (String.utf8EncodeChar c) := by
  -- The escapes with a letter of their own come first.
  have named {d l : Char} (same : c = d) (h : d.toNat < 0x80 ∧ l.toNat < 0x80 ∧
      letterEscape? (octet l) = some (octet d) ∧ octet l ≠ octet 'u') :
      ∃ ps, Spells (encode ['\\', l]) ps (String.utf8EncodeChar c) := by
    subst same
    exact ⟨_, .escapeLetter h.1 h.2.1 h.2.2.1 h.2.2.2⟩
  unfold escape
  split_ifs with quote backslash backspace formFeed lineFeed carriage tab control
  · exact named quote (by decide)
  · exact named backslash (by decide)
  · exact named (d := '\x08') (Char.toNat_inj.mp backspace) (by decide)
  · exact named (d := '\x0C') (Char.toNat_inj.mp formFeed) (by decide)
  · exact named lineFeed (by decide)
  · exact named carriage (by decide)
  · exact named tab (by decide)
  · exact ⟨_, .code control⟩
  · exact ⟨_, .unescaped quote backslash control⟩

/-! ## 3. Whole texts -/

theorem exists_spells (cs : List Char) :
    ∃ ps, Spells (encode (cs.flatMap escape)) ps (encode cs) := by
  induction cs with
  | nil => exact ⟨[], .nil⟩
  | cons c rest ih =>
    obtain ⟨ps, first⟩ := exists_spells_escape c
    obtain ⟨qs, others⟩ := ih
    refine ⟨ps ++ qs, ?_⟩
    rw [List.flatMap_cons, Text.encode_append]
    exact first.append others

/-- **A text between quotes is read back**, up to its closing quote and no
further. -/
theorem quoted_quote (s : String) :
    ∃ written ps, encode (quote s) = octet '"' :: written ∧ Piece.text? ps = some s ∧
      ∀ tail, quoted (written ++ tail) = some (ps, tail) := by
  obtain ⟨ps, spells⟩ := exists_spells s.toList
  refine ⟨encode (s.toList.flatMap escape) ++ [octet '"'], ps, ?written, ?text, ?read⟩
  case written =>
    have mark : String.utf8EncodeChar '"' = [octet '"'] := by decide
    simp [quote, Text.encode_cons, mark]
  case text =>
    have octets := spells.stand []
    rw [List.append_nil] at octets
    simp [Piece.text?, octets, Piece.octets?, Text.ofOctets?_encode]
  case read =>
    intro tail
    have closed : quoted (octet '"' :: tail) = some ([], tail) := by
      rw [quoted.eq_def]
      rfl
    rw [List.append_assoc, spells.read, List.singleton_append, closed]
    simp

end TelemetryControl.Json
