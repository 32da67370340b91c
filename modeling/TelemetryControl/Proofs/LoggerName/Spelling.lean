/-
TelemetryControl.Proofs.LoggerName.Spelling — what a configured name means.

A configured name means the logger that is left of it without the blanks at its
ends, and the word ROOT in any case means the root. What a name means has no
blanks at its ends and is not spelt ROOT any more, so it means itself
(`normalize_normalize`).

A table whose keys all mean themselves has nothing under a spelling of ROOT. So
a logger is resolved on it the same whether its name is taken for what it
means or as it is written, as long as no blanks are at its ends
(`effective_normalize`).
-/
import TelemetryControl.Overrides
import TelemetryControl.Proofs.LoggerName.Walk
import Mathlib.Data.List.DropRight

namespace TelemetryControl

namespace Text

/-! ## 1. Blanks at the ends -/

/-- A text has no blanks at its two ends. -/
structure Unpadded (s : String) : Prop where
  front : ∀ c ∈ s.toList.head?, isBlank c = false
  back : ∀ c ∈ s.toList.getLast?, isBlank c = false

theorem unpadded_iff {s : String} :
    Unpadded s ↔ (∀ c ∈ s.toList.head?, isBlank c = false) ∧
      ∀ c ∈ s.toList.getLast?, isBlank c = false :=
  ⟨fun h => ⟨h.front, h.back⟩, fun h => ⟨h.1, h.2⟩⟩

instance (s : String) : Decidable (Unpadded s) :=
  have : Decidable (∀ c ∈ s.toList.head?, isBlank c = false) := Option.decidableForallMem _
  have : Decidable (∀ c ∈ s.toList.getLast?, isBlank c = false) := Option.decidableForallMem _
  decidable_of_iff _ unpadded_iff.symm

theorem dropWhile_of_head? {p : Char → Bool} {cs : List Char}
    (front : ∀ c ∈ cs.head?, p c = false) :
    cs.dropWhile p = cs := by
  cases cs with
  | nil => rfl
  | cons c rest => rw [List.dropWhile_cons_of_neg (by simp [front c rfl])]

/-- Trimming keeps a text without blanks at its ends. -/
theorem trim_of_unpadded {s : String} (h : Unpadded s) : trim s = s := by
  have back : ∀ c ∈ s.toList.reverse.head?, isBlank c = false := by
    rw [List.head?_reverse]
    exact h.back
  rw [trim, trimChars, dropWhile_of_head? h.front, dropWhile_of_head? back, List.reverse_reverse,
    String.ofList_toList]

theorem eq_false_of_mem_head?_dropWhile {p : Char → Bool} {cs : List Char} :
    ∀ c ∈ (cs.dropWhile p).head?, p c = false := by
  intro c first
  have notDropped := List.head?_dropWhile_not p cs
  rwa [Option.mem_def.mp first] at notDropped

/-- Trimming leaves no blanks at the ends. -/
theorem unpadded_trim (s : String) : Unpadded (trim s) where
  front := fun c first => by
    rw [trim, String.toList_ofList, trimChars, List.head?_reverse] at first
    -- What is dropped at the back leaves the first character alone.
    obtain ⟨dropped, split⟩ :=
      List.dropWhile_suffix (l := (s.toList.dropWhile isBlank).reverse) isBlank
    have kept : (s.toList.dropWhile isBlank).reverse.getLast? = some c := by
      rw [← split, List.getLast?_append, first, Option.some_or]
    rw [List.getLast?_reverse] at kept
    exact eq_false_of_mem_head?_dropWhile c kept
  back := fun c last => by
    rw [trim, String.toList_ofList, trimChars, List.getLast?_reverse] at last
    exact eq_false_of_mem_head?_dropWhile c last

end Text

namespace LoggerName

/-! ## 2. What names mean -/

/-- A name is the word ROOT in some case. -/
def SpellsRoot (name : String) : Prop :=
  Text.sameLetters name "ROOT" = true

instance (name : String) : Decidable (SpellsRoot name) :=
  inferInstanceAs (Decidable (Text.sameLetters name "ROOT" = true))

theorem normalize_eq_ite (name : String) :
    normalize name = if SpellsRoot (Text.trim name) then root else Text.trim name := rfl

theorem normalize_of_unpadded {name : String} (h : Text.Unpadded name) :
    normalize name = if SpellsRoot name then root else name := by
  rw [normalize_eq_ite, Text.trim_of_unpadded h]

theorem unpadded_normalize (name : String) : Text.Unpadded (normalize name) := by
  rw [normalize_eq_ite]
  split
  · decide
  · exact Text.unpadded_trim name

theorem not_spellsRoot_normalize (name : String) : ¬ SpellsRoot (normalize name) := by
  rw [normalize_eq_ite]
  split
  · decide
  · assumption

/-- **What a name means, means itself.** -/
@[simp] theorem normalize_normalize (name : String) :
    normalize (normalize name) = normalize name := by
  rw [normalize_of_unpadded (unpadded_normalize name), if_neg (not_spellsRoot_normalize name)]

/-- A spelling of ROOT is a name without dots, and not yet the name of the root. -/
theorem SpellsRoot.undotted {name : String} (h : SpellsRoot name) :
    '.' ∉ name.toList ∧ name ≠ root := by
  have letters : name.toList.map Char.toLower = ['r', 'o', 'o', 't'] := by
    simpa [SpellsRoot, Text.sameLetters, Text.lowerChars] using h
  constructor
  · intro dot
    have lower : '.' ∈ ['r', 'o', 'o', 't'] := letters ▸ List.mem_map_of_mem dot
    exact absurd lower (by decide)
  · rintro rfl
    cases letters

/-! ## 3. Tables of names that mean themselves -/

/-- **A logger is resolved alike by its name and by what its name means**, when all keys
of the table mean themselves. -/
theorem effective_normalize {table : NameTable Severity}
    (keys : ∀ key q, table.get? key = some q → normalize key = key) {name : String}
    (unpadded : Text.Unpadded name) :
    Overrides.effective table (normalize name) = Overrides.effective table name := by
  rw [normalize_of_unpadded unpadded]
  split
  · next spelt =>
    -- The walk from the spelling finds nothing there, and then is at the root.
    obtain ⟨undotted, notRoot⟩ := spelt.undotted
    have absent : table.get? name = none := by
      cases found : table.get? name with
      | none => rfl
      | some q =>
        have itself := keys name q found
        rw [normalize_of_unpadded unpadded, if_pos spelt] at itself
        exact absurd itself.symm notRoot
    rw [Overrides.effective, Overrides.effective, resolve_of_undotted _ undotted, absent,
      if_neg notRoot, Option.none_or, resolve, walk_root]
    simp
  · rfl

end LoggerName

end TelemetryControl
