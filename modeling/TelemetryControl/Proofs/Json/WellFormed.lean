/-
TelemetryControl.Proofs.Json.WellFormed — well-formed texts and objects.

A text is well-formed if it follows the grammar all the way down (`WellFormed`). That
is said without the reader of values and its fuel, and the reader takes such texts
and no others (`isSome_parse?_iff`).

For a reader of payloads the members of an object matter, each with its name and its
text (`IsObject`). What is read as an object is one, and what is read of it is what
is read from the texts of its members alone (`parse?_record_iff`).
-/
import TelemetryControl.Proofs.Json.Grammar

namespace TelemetryControl.Json

open TelemetryControl.Text (octet octets)

/-! ## 1. Well-formed texts -/

/-- A text that follows the grammar all the way down, with space around it and
around its parts. -/
inductive WellFormed : List UInt8 → Prop where
  | null : WellFormed (octets "null")
  | true : WellFormed (octets "true")
  | false : WellFormed (octets "false")
  | number {text : List UInt8} {n : Numeral} (read : numeral text = some (n, [])) :
      WellFormed text
  | string {text : List UInt8} {ps : List Piece} (read : quoted text = some (ps, [])) :
      WellFormed (octet '"' :: text)
  | array {texts : List (List UInt8)} {core : List UInt8} (written : Bracketed texts core)
      (parts : ∀ t ∈ texts, WellFormed t) : WellFormed core
  | object {texts : List (Option String × List UInt8)} {core : List UInt8}
      (written : Braced texts core) (parts : ∀ t ∈ texts, WellFormed t.2) : WellFormed core
  | spaced {front core behind : List UInt8} (before : Blank front) (after : Blank behind)
      (inside : WellFormed core) : WellFormed (front ++ (core ++ behind))

theorem exists_forall₂_iff {α β : Type} {R : α → β → Prop} {l : List α} :
    (∃ m, List.Forall₂ R l m) ↔ ∀ a ∈ l, ∃ b, R a b := by
  induction l with
  | nil => simp
  | cons a rest ih =>
    rw [List.forall_mem_cons, ← ih]
    constructor
    · rintro ⟨_, _ | ⟨first, others⟩⟩
      exact ⟨⟨_, first⟩, _, others⟩
    · rintro ⟨⟨b, first⟩, m, others⟩
      exact ⟨b :: m, .cons first others⟩

theorem Separated.exists_piece {τ : Type} {P : τ → List UInt8 → Prop} {ts : List τ}
    {body : List UInt8} (written : Separated P ts body) {t : τ} (ht : t ∈ ts) :
    ∃ piece, P t piece ∧ piece.length ≤ body.length := by
  induction written with
  | last written =>
    obtain rfl := List.mem_singleton.mp ht
    exact ⟨_, written, le_rfl⟩
  | more written _ ih =>
    rcases List.mem_cons.mp ht with rfl | later
    · exact ⟨_, written, by simp⟩
    · obtain ⟨piece, found, short⟩ := ih later
      refine ⟨piece, found, ?_⟩
      rw [List.length_append, List.length_cons]
      omega

/-- What is enclosed is shorter than the whole. -/
theorem Enclosed.exists_piece {τ : Type} {P : τ → List UInt8 → Prop} {opening closing : UInt8}
    {ts : List τ} {core : List UInt8} (written : Enclosed P opening closing ts core) {t : τ}
    (ht : t ∈ ts) : ∃ piece, P t piece ∧ piece.length < core.length := by
  cases written with
  | empty => cases ht
  | pieces written =>
    obtain ⟨piece, found, short⟩ := written.exists_piece ht
    refine ⟨piece, found, ?_⟩
    rw [List.length_cons, List.length_append]
    omega

theorem MemberText.length_lt {t : Option String × List UInt8} {member : List UInt8}
    (h : MemberText t member) : t.2.length < member.length := by
  cases h
  simp only [List.length_append, List.length_cons]
  omega

theorem wellFormed_of_parse? {text : List UInt8} {v : Json} (h : parse? text = some v) :
    WellFormed text := by
  -- The texts of the parts are shorter.
  induction len : text.length using Nat.strong_induction_on generalizing text v with
  | _ n ih =>
    obtain ⟨front, core, behind, rfl, before, after, written⟩ := parse?_iff_written.mp h
    rw [List.length_append, List.length_append] at len
    refine .spaced before after ?_
    cases written with
    | null => exact .null
    | true => exact .true
    | false => exact .false
    | number read => exact .number read
    | string read => exact .string read
    | array written parts =>
      refine .array written (fun t ht => ?_)
      obtain ⟨u, read⟩ := exists_forall₂_iff.mp ⟨_, parts⟩ t ht
      obtain ⟨_, rfl, shorter⟩ := written.exists_piece ht
      exact ih _ (by omega) read rfl
    | object written parts =>
      refine .object written (fun t ht => ?_)
      obtain ⟨m, -, read⟩ := exists_forall₂_iff.mp ⟨_, parts⟩ t ht
      obtain ⟨member, found, shorter⟩ := written.exists_piece ht
      have inside := found.length_lt
      exact ih _ (by omega) read rfl

/-- **What is read is what is well-formed**, neither less nor more. -/
theorem isSome_parse?_iff {text : List UInt8} : (parse? text).isSome ↔ WellFormed text := by
  constructor
  · intro h
    obtain ⟨v, read⟩ := Option.isSome_iff_exists.mp h
    exact wellFormed_of_parse? read
  · intro h
    have alone {core : List UInt8} {v : Json} (written : Written ValueText core v) :
        (parse? core).isSome := by
      rw [parse?_eq_some_iff.mpr written.readAs.valueText]
      rfl
    induction h with
    | null => exact alone .null
    | true => exact alone .true
    | false => exact alone .false
    | number read => exact alone (.number read)
    | string read => exact alone (.string read)
    | @array texts core written _ ih =>
      obtain ⟨vs, parts⟩ : ∃ vs, List.Forall₂ ValueText texts vs :=
        exists_forall₂_iff.mpr fun t ht => by
          obtain ⟨v, read⟩ := Option.isSome_iff_exists.mp (ih t ht)
          exact ⟨v, parse?_eq_some_iff.mp read⟩
      exact alone (.array written parts)
    | @object texts core written _ ih =>
      obtain ⟨ms, parts⟩ : ∃ ms, List.Forall₂ (Holds ValueText) texts ms :=
        exists_forall₂_iff.mpr fun t ht => by
          obtain ⟨v, read⟩ := Option.isSome_iff_exists.mp (ih t ht)
          exact ⟨(t.1, v), rfl, parse?_eq_some_iff.mp read⟩
      exact alone (.object written parts)
    | spaced before after _ ih =>
      obtain ⟨v, read⟩ := Option.isSome_iff_exists.mp ih
      rw [parse?_eq_some_iff.mpr ((parse?_eq_some_iff.mp read).spaced before after)]
      rfl

instance (text : List UInt8) : Decidable (WellFormed text) :=
  decidable_of_iff _ isSome_parse?_iff

/-! ## 2. Objects -/

/-- A well-formed object with space around it: names that are texts, each with the
well-formed text of a value. -/
structure IsObject (members : List (String × List UInt8)) (payload : List UInt8) : Prop where
  written : ∃ front core behind, payload = front ++ (core ++ behind) ∧ Blank front ∧
    Blank behind ∧ Braced (members.map (fun m => (some m.1, m.2))) core
  values : ∀ m ∈ members, WellFormed m.2

/-- Members that hold for those of an object have names that are texts. -/
theorem exists_names_of_holds {Part : List UInt8 → Json → Prop}
    {texts : List (Option String × List UInt8)} {ms : List (String × Json)}
    (hold : List.Forall₂ (Holds Part) texts (ms.map (fun m => (some m.1, m.2)))) :
    ∃ named : List (String × List UInt8), texts = named.map (fun t => (some t.1, t.2)) ∧
      List.Forall₂ (fun t m => t.1 = m.1 ∧ Part t.2 m.2) named ms := by
  induction ms generalizing texts with
  | nil =>
    cases hold
    exact ⟨[], rfl, .nil⟩
  | cons m rest ih =>
    cases hold with
    | @cons t _ others _ first further =>
      obtain ⟨name, text⟩ := t
      obtain ⟨rfl, part⟩ := first
      obtain ⟨named, rfl, found⟩ := ih further
      exact ⟨(m.1, text) :: named, rfl, .cons ⟨rfl, part⟩ found⟩

/-- **The objects that are read are those that are written.** -/
theorem parse?_record_iff {payload : List UInt8} {ms : List (String × Json)} :
    parse? payload = some (.record ms) ↔
      ∃ members, IsObject members payload ∧
        List.Forall₂ (fun t m => t.1 = m.1 ∧ parse? t.2 = some m.2) members ms := by
  rw [parse?_iff_written]
  constructor
  · rintro ⟨front, core, behind, split, before, after, written⟩
    cases written with
    | object written parts =>
      obtain ⟨named, rfl, found⟩ := exists_names_of_holds parts
      refine ⟨named, ⟨⟨front, core, behind, split, before, after, written⟩, ?_⟩, found⟩
      intro t ht
      obtain ⟨m, -, read⟩ := exists_forall₂_iff.mp ⟨ms, found⟩ t ht
      exact wellFormed_of_parse? read
  · rintro ⟨members, ⟨⟨front, core, behind, split, before, after, written⟩, -⟩, found⟩
    refine ⟨front, core, behind, split, before, after, .object written ?_⟩
    rw [List.forall₂_map_left_iff, List.forall₂_map_right_iff]
    exact found.imp fun t m same => ⟨congrArg some same.1, same.2⟩

/-- The reader finds the values of the members. -/
theorem IsObject.exists_parse?_eq {members : List (String × List UInt8)} {payload : List UInt8}
    (h : IsObject members payload) :
    ∃ ms : List (String × Json),
      List.Forall₂ (fun t m => t.1 = m.1 ∧ parse? t.2 = some m.2) members ms ∧
      parse? payload = some (.record ms) := by
  obtain ⟨ms, found⟩ : ∃ ms : List (String × Json),
      List.Forall₂ (fun t m => t.1 = m.1 ∧ parse? t.2 = some m.2) members ms :=
    exists_forall₂_iff.mpr fun t ht => by
      obtain ⟨v, read⟩ := Option.isSome_iff_exists.mp (isSome_parse?_iff.mpr (h.values t ht))
      exact ⟨(t.1, v), rfl, read⟩
  exact ⟨ms, found, parse?_record_iff.mpr ⟨members, h, found⟩⟩

end TelemetryControl.Json
