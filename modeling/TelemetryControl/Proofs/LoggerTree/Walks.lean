/-
TelemetryControl.Proofs.LoggerTree.Walks — two walks over one tree.

The level in force for a logger and the override in force for it are each found
by climbing from its name, dot by dot. The two climbs differ in what they do
when no dot is left (`Climbs`): the tree then takes the level of the root, and a
resolution looks the root up, but not a second time.

On the levels of a tree this difference cannot be seen. Whatever is done to a
tree, its root keeps a level and every logger is known together with those
that enclose it (`Grown`), so both climbs find the same level
(`climbs_agree`), and the level that a root without one would have is never used.
-/
import TelemetryControl.Proofs.LoggerName.Resolution
import TelemetryControl.Proofs.Registry.Baseline

namespace TelemetryControl

/-! ## 1. Climbing -/

namespace LoggerName

/-- The answer is found by climbing: it is the value of the name itself, or else the
answer for what stands before the last dot, and `top` says what it is where
no dot is left. -/
structure Climbs {α : Type} (find top answer : String → Option α) : Prop where
  cut : ∀ up rest, '.' ∉ rest.toList →
    answer (up ++ "." ++ rest) = (find (up ++ "." ++ rest)).or (answer up)
  undotted : ∀ name, '.' ∉ name.toList → answer name = (find name).or (top name)

/-- A resolution looks the root up in the end, unless the climb ended there. -/
theorem climbs_resolve {α : Type} (find : String → Option α) :
    Climbs find (fun name => if name = root then none else find root) (resolve find) where
  cut := fun up _ last => resolve_cut find up last
  undotted := fun _ undotted => resolve_of_undotted find undotted

end LoggerName

namespace LoggerTree

open LoggerName (Climbs)

/-- A tree takes the level of its root in the end. -/
theorem climbs_effective (t : LoggerTree) :
    Climbs t.ownLevel? (fun _ => some t.rootLevel) (fun name => some (t.effective name)) where
  cut := fun up rest last => by
    simp only [effective, LoggerName.lineage_cut up last, List.findSome?_cons]
    cases t.ownLevel? (up ++ "." ++ rest) <;> rfl
  undotted := fun name undotted => by
    simp only [effective, LoggerName.lineage_of_undotted undotted, List.findSome?_cons]
    cases t.ownLevel? name <;> rfl

/-! ## 2. What all trees have in common -/

/-- The root has a level, and with a logger those that enclose it are known. -/
structure Grown (t : LoggerTree) : Prop where
  rooted : t.Rooted
  enclosed : ∀ up rest, (t.native? (up ++ "." ++ rest)).isSome = true →
    (t.native? up).isSome = true

theorem grown_new (root : Severity) : (new root).Grown where
  rooted := rooted_new root
  enclosed := fun up rest known => by
    have below : up ++ "." ++ rest ≠ LoggerName.root := fun same => by
      have dot : '.' ∈ (up ++ "." ++ rest).toList := by simp
      rw [same] at dot
      cases dot
    rw [native?_new, if_neg below] at known
    cases known

theorem Grown.register {t : LoggerTree} (h : t.Grown) (name : String) (level : Option Severity) :
    (t.register name level).Grown where
  rooted := h.rooted.register name level
  enclosed := fun up rest known => by
    rw [isSome_native?_register, LoggerName.mem_lineage_iff] at known ⊢
    rcases known with known | same | ⟨further, same⟩
    · exact .inl (h.enclosed up rest known)
    · exact .inr (.inr ⟨rest, same.symm⟩)
    · -- What encloses an enclosing logger encloses the logger.
      refine .inr (.inr ⟨rest ++ "." ++ further, ?_⟩)
      rw [same]
      simp [String.append_assoc]

/-- Where no logger becomes known or unknown, the enclosing ones stay known. -/
theorem Grown.of_isSome_native?_eq {t u : LoggerTree} (h : t.Grown) (rooted : u.Rooted)
    (same : ∀ name, (u.native? name).isSome = (t.native? name).isSome) : u.Grown where
  rooted := rooted
  enclosed := fun up rest known => by
    rw [same] at known ⊢
    exact h.enclosed up rest known

/-- Every edit keeps what trees have in common. -/
theorem Grown.edit {t : LoggerTree} (h : t.Grown) (e : Edit) : (t.edit e).Grown := by
  cases e with
  | register name level => exact h.register name level
  | setNative name level =>
    exact h.of_isSome_native?_eq (h.rooted.setNative name level)
      (fun other => t.isSome_native?_setNative name other level)
  | apply registry snapshot =>
    exact h.of_isSome_native?_eq (h.rooted.apply registry snapshot)
      (fun other => registry.isSome_native?_apply t snapshot other)

theorem grown_built (root : Severity) (edits : List Edit) : (built root edits).Grown :=
  List.foldlRecOn edits _ (grown_new root) (fun _ h e _ => h.edit e)

theorem built_append (root : Severity) (edits more : List Edit) :
    built root (edits ++ more) = more.foldl edit (built root edits) := by
  simp [built]

/-- No run of edits makes a logger unknown. -/
theorem isSome_native?_built_append {root : Severity} {edits : List Edit} {name : String}
    (known : ((built root edits).native? name).isSome = true) (more : List Edit) :
    ((built root (edits ++ more)).native? name).isSome = true := by
  rw [built_append]
  exact List.foldlRecOn (motive := fun t : LoggerTree => (t.native? name).isSome = true)
    more _ known (fun _ known e _ => isSome_native?_edit known e)

/-! ## 3. One level, however it is looked for -/

/-- **Both walks find the same level.** In every tree there can be, the root has a
level, a logger is known together with all that enclose it, and none ever
becomes unknown. The level in force is found by climbing to the level of the
root, a resolution climbs alike and looks the root up at most once, and on
the levels of the tree the resolution always finds something, namely the level
in force, for names that are known and for those that are not. So the level
given for the root is always one that it has. -/
theorem climbs_agree (root : Severity) (edits : List Edit) :
    let t := built root edits
    (∃ s, t.native? LoggerName.root = some (some s) ∧ t.rootLevel = s) ∧
    (∀ up rest, (t.native? (up ++ "." ++ rest)).isSome = true → (t.native? up).isSome = true) ∧
    (∀ name, (t.native? name).isSome = true →
      ∀ more, ((built root (edits ++ more)).native? name).isSome = true) ∧
    Climbs t.ownLevel? (fun _ => some t.rootLevel) (fun name => some (t.effective name)) ∧
    Climbs t.ownLevel?
      (fun name => if name = LoggerName.root then none else t.ownLevel? LoggerName.root)
      (LoggerName.resolve t.ownLevel?) ∧
    ∀ name, LoggerName.resolve t.ownLevel? name = some (t.effective name) := by
  intro t
  have grown : t.Grown := grown_built root edits
  obtain ⟨s, level⟩ := grown.rooted
  have given : t.rootLevel = s := by
    rw [rootLevel, ownLevel?_of_native? level, Option.getD_some]
  exact ⟨⟨s, level, given⟩, grown.enclosed, fun _ known more =>
    isSome_native?_built_append known more, t.climbs_effective, LoggerName.climbs_resolve _,
    grown.rooted.resolve_ownLevel?⟩

/-- An override of the root is given and taken back, and somebody tries to take the
level of the root away; the names have dots where no other name would. -/
theorem climbs_agree_after_restore :
    let first := [.register ".a..b" (some .warn), .setNative LoggerName.root none]
    let r := Registry.create (built .info first)
    let s : Snapshot := ⟨[⟨" root", "TRACE"⟩, ⟨".a.", "ERROR"⟩], [], none, none⟩
    let edits := first ++ [.apply r s, .apply (r.apply (built .info first) s).registry .empty]
    (((built .info edits).native? ".a..b").isSome = true ∧
      (built .info (first ++ [.apply r s])).effective "b" = .trace ∧
      (built .info edits).effective "b" = .info) ∧
    ((built .info edits).native? ".a.").isSome = true ∧
    ((built .info (edits ++ [.setNative ".a..b" none])).native? ".a..b").isSome = true ∧
    ∀ name, LoggerName.resolve (built .info edits).ownLevel? name =
      some ((built .info edits).effective name) := by
  intro first r s edits
  have known : ((built .info edits).native? ".a..b").isSome = true := by decide
  have overridden : (built .info (first ++ [.apply r s])).effective "b" = .trace := by decide
  have restored : (built .info edits).effective "b" = .info := by decide
  obtain ⟨-, enclosed, kept, -, -, agree⟩ := climbs_agree .info edits
  exact ⟨⟨known, overridden, restored⟩, enclosed ".a." "b" known, kept ".a..b" known _, agree⟩

end LoggerTree

end TelemetryControl
