/-
TelemetryControl.Proofs.LoggerName.Walk — the walk seen from an ancestor.

Whatever is resolved for a logger is resolved along its walk. What makes
inheritance work is that the walk of a name further up is the rest of the
walk from there on (`walk_of_split`): once nothing before that name decides,
the logger and the name further up have the same answer. The first step of a walk
cuts the name before its last dot (`walk_cut`), and a name without dots has
the root for its next and last step (`walk_of_undotted`).
-/
import TelemetryControl.LoggerName
import Mathlib.Data.List.Basic

namespace TelemetryControl.LoggerName

/-! ## 1. Ancestors of ancestors -/

/-- The heads of a head are the heads before it. -/
theorem heads_of_split {cs h : List Char} {before after : List (List Char)}
    (split : heads cs = before ++ h :: after) : heads h = before := by
  induction cs generalizing h before after with
  | nil => simp [heads] at split
  | cons c rest ih =>
    -- A head of the longer name is a head of the rest with `c` in front, the
    -- empty head before a leading dot apart.
    have inner : ∀ {before' after'}, (heads rest).map (c :: ·) = before' ++ h :: after' →
        ∃ h' before'', h = c :: h' ∧ before' = before''.map (c :: ·) ∧ heads h' = before'' := by
      intro before' after' hmap
      obtain ⟨shorter, longer, hrest, hshorter, hlonger⟩ := List.map_eq_append_iff.mp hmap
      obtain ⟨h', longer', hcons, rfl, -⟩ := List.map_eq_cons_iff.mp hlonger
      subst hcons
      exact ⟨h', shorter, rfl, hshorter.symm, ih hrest⟩
    simp only [heads] at split
    by_cases dot : c = '.'
    · rw [if_pos dot] at split
      cases before with
      | nil =>
        obtain ⟨rfl, -⟩ := List.cons.inj split
        rfl
      | cons first before =>
        obtain ⟨rfl, hmap⟩ := List.cons.inj split
        obtain ⟨h', before', rfl, rfl, hh⟩ := inner hmap
        simp [heads, dot, hh]
    · rw [if_neg dot] at split
      obtain ⟨h', before', rfl, rfl, hh⟩ := inner split
      simp [heads, dot, hh]

theorem ancestors_of_split {name ancestor : String} {before after : List String}
    (split : ancestors name = before ++ ancestor :: after) : ancestors ancestor = after := by
  obtain ⟨longer, shorter, hheads, -, hshorter⟩ := List.map_eq_append_iff.mp split
  obtain ⟨h, rest, rfl, rfl, rfl⟩ := List.map_eq_cons_iff.mp hshorter
  have ascending : heads name.toList = rest.reverse ++ h :: longer.reverse := by
    rw [← List.reverse_reverse (heads name.toList), hheads]
    simp
  simp [ancestors, heads_of_split ascending]

/-- The lineage of an enclosing logger is the rest of the lineage. -/
theorem lineage_of_split {name ancestor : String} {before after : List String}
    (split : lineage name = before ++ ancestor :: after) : lineage ancestor = ancestor :: after := by
  cases before with
  | nil =>
    obtain ⟨rfl, rest⟩ := List.cons.inj split
    rw [← rest, lineage]
  | cons first before =>
    obtain ⟨-, rest⟩ := List.cons.inj split
    rw [lineage, ancestors_of_split rest]

/-! ## 2. The walk -/

theorem walk_root : walk root = [root] := rfl

/-- The walk of a name on the walk is the rest of the walk. -/
theorem walk_of_split {name ancestor : String} {before after : List String}
    (split : walk name = before ++ ancestor :: after) : walk ancestor = ancestor :: after := by
  simp only [walk] at split
  split at split
  · next ends =>
    have line := lineage_of_split split
    have last : (lineage ancestor).getLast? = some root := by
      rw [split, List.getLast?_append_cons] at ends
      rw [line, ends]
    rw [walk, if_pos last, line]
  · next ends =>
    rcases List.eq_nil_or_concat after with rfl | ⟨after, last, rfl⟩
    · -- The name is the root that was added at the end.
      obtain ⟨-, added⟩ := List.append_inj' split rfl
      obtain ⟨rfl, -⟩ := List.cons.inj added
      exact walk_root
    · have added : lineage name ++ [root] = (before ++ ancestor :: after) ++ [last] := by
        simpa using split
      obtain ⟨hline, hlast⟩ := List.append_inj' added rfl
      obtain ⟨rfl, -⟩ := List.cons.inj hlast
      have line := lineage_of_split hline
      have open_ : ¬ (lineage ancestor).getLast? = some root := by
        rwa [hline, List.getLast?_append_cons, ← line] at ends
      rw [walk, if_neg open_, line, List.cons_append, List.concat_eq_append]

/-! ## 3. One step of the walk -/

theorem heads_append_dot (up rest : List Char) :
    heads (up ++ '.' :: rest) = heads up ++ up :: (heads rest).map (fun h => up ++ '.' :: h) := by
  induction up with
  | nil => simp [heads]
  | cons c up ih => by_cases dot : c = '.' <;> simp [heads, dot, ih]

theorem heads_of_undotted {cs : List Char} (undotted : '.' ∉ cs) : heads cs = [] := by
  induction cs with
  | nil => rfl
  | cons c rest ih =>
    obtain ⟨other, undotted⟩ := List.ne_and_not_mem_of_not_mem_cons undotted
    simp [heads, ih undotted, Ne.symm other]

theorem lineage_cut (up : String) {rest : String} (last : '.' ∉ rest.toList) :
    lineage (up ++ "." ++ rest) = (up ++ "." ++ rest) :: lineage up := by
  have dotted : (up ++ "." ++ rest).toList = up.toList ++ '.' :: rest.toList := by simp
  simp [lineage, ancestors, dotted, heads_append_dot, heads_of_undotted last]

theorem lineage_of_undotted {name : String} (undotted : '.' ∉ name.toList) :
    lineage name = [name] := by
  simp [lineage, ancestors, heads_of_undotted undotted]

/-- After a name the walk goes on with what stands before its last dot. -/
theorem walk_cut (up : String) {rest : String} (last : '.' ∉ rest.toList) :
    walk (up ++ "." ++ rest) = (up ++ "." ++ rest) :: walk up := by
  have ends : ((up ++ "." ++ rest) :: lineage up).getLast? = (lineage up).getLast? := by
    rw [lineage, List.getLast?_cons_cons]
  simp only [walk, lineage_cut up last, ends]
  split <;> rfl

/-- Where no dot is left the walk goes to the root, unless it is there. -/
theorem walk_of_undotted {name : String} (undotted : '.' ∉ name.toList) :
    walk name = if name = root then [root] else [name, root] := by
  by_cases top : name = root
  · rw [if_pos top, top, walk_root]
  · simp [walk, lineage_of_undotted undotted, top]

/-! ## 4. Resolving -/

variable {α : Type} {find other : String → Option α}

/-- The first name on the walk with a value decides. -/
theorem resolve_of_split {name decisive : String} {before after : List String} {value : α}
    (split : walk name = before ++ decisive :: after) (silent : ∀ n ∈ before, find n = none)
    (found : find decisive = some value) : resolve find name = some value := by
  rw [resolve, split, List.findSome?_append, List.findSome?_eq_none_iff.mpr silent]
  simp [found]

/-- A value that was resolved is that of the first name on the walk that has one. -/
theorem exists_split_of_resolve {name : String} {value : α} (h : resolve find name = some value) :
    ∃ before decisive after, walk name = before ++ decisive :: after ∧
      find decisive = some value ∧ ∀ n ∈ before, find n = none :=
  List.findSome?_eq_some_iff.mp h

/-- A logger has the answer of a name on its walk when nothing before it decides. -/
theorem resolve_eq_of_split {name ancestor : String} {before after : List String}
    (split : walk name = before ++ ancestor :: after) (silent : ∀ n ∈ before, find n = none) :
    resolve find name = resolve find ancestor := by
  rw [resolve, resolve, split, walk_of_split split, List.findSome?_append,
    List.findSome?_eq_none_iff.mpr silent, Option.none_or]

theorem resolve_cut (find : String → Option α) (up : String) {rest : String}
    (last : '.' ∉ rest.toList) :
    resolve find (up ++ "." ++ rest) = (find (up ++ "." ++ rest)).or (resolve find up) := by
  rw [resolve, walk_cut up last, List.findSome?_cons]
  cases find (up ++ "." ++ rest) <;> rfl

theorem resolve_of_undotted (find : String → Option α) {name : String}
    (undotted : '.' ∉ name.toList) :
    resolve find name = (find name).or (if name = root then none else find root) := by
  rw [resolve, walk_of_undotted undotted]
  by_cases top : name = root
  · simp [top]
  · cases value : find name <;> simp [top, value]

/-- Only the names on the walk count. -/
theorem resolve_congr {name : String} (same : ∀ n ∈ walk name, find n = other n) :
    resolve find name = resolve other name := by
  unfold resolve
  generalize walk name = line at same
  induction line with
  | nil => rfl
  | cons n rest ih =>
    rw [List.findSome?_cons, List.findSome?_cons, same n List.mem_cons_self,
      ih (fun m hm => same m (List.mem_cons_of_mem _ hm))]

end TelemetryControl.LoggerName
