/-
TelemetryControl.Proofs.LoggerName.Target — modules as loggers.

A module writes its path with two colons between segments, and its logger has
a dot in each of these places (`ofTarget_target`). Segments hold neither
colons nor dots, so each dot of the name parts two segments. Cutting the name at
its dots therefore goes through the modules that enclose it, one after the other
(`walk_ofTarget`), and the path can be read off the name again
(`eq_of_ofTarget_eq`).

What else may stand in a target, no pair of colons is left of it
(`colons_not_infix_dotted`): pairs are taken from the left, and a colon that
is left over has none behind it.

The main result is `module_governs_submodules`.
-/
import TelemetryControl.Proofs.LoggerName.Resolution
import Mathlib.Data.List.Infix

namespace TelemetryControl.LoggerName

/-! ## 1. Dots for colons -/

theorem dotted_cons_of_ne {c : Char} (other : c ≠ ':') (rest : List Char) :
    dotted (c :: rest) = c :: dotted rest := by
  cases rest with
  | nil => rfl
  | cons d rest => rw [dotted, if_neg (fun both => other both.1)]

theorem dotted_append {cs : List Char} (noColon : ':' ∉ cs) (rest : List Char) :
    dotted (cs ++ rest) = cs ++ dotted rest := by
  induction cs with
  | nil => rfl
  | cons c cs ih =>
    obtain ⟨other, noColon⟩ := List.ne_and_not_mem_of_not_mem_cons noColon
    rw [List.cons_append, dotted_cons_of_ne other.symm, ih noColon, List.cons_append]

theorem dotted_of_notMem {cs : List Char} (noColon : ':' ∉ cs) : dotted cs = cs := by
  have whole := dotted_append noColon []
  rwa [List.append_nil, dotted, List.append_nil] at whole

theorem dotted_colons (rest : List Char) : dotted (':' :: ':' :: rest) = '.' :: dotted rest :=
  rfl

/-- A colon in front was there before. -/
theorem eq_colon_of_dotted {d : Char} {rest more : List Char}
    (front : dotted (d :: rest) = ':' :: more) : d = ':' := by
  by_contra other
  rw [dotted_cons_of_ne other] at front
  exact other (List.cons.inj front).1

/-- **No pair of colons is left.** -/
theorem colons_not_infix_dotted (cs : List Char) : ¬ [':', ':'] <:+: dotted cs := by
  fun_induction dotted cs with
  | case1 => simp
  | case2 c => simp [List.infix_cons_iff]
  | case3 c d rest pair ih =>
    rintro found
    rcases List.infix_cons_iff.mp found with starts | inside
    · obtain ⟨dot, -⟩ := List.cons_prefix_cons.mp starts
      exact absurd dot (by decide)
    · exact ih inside
  | case4 c d rest notPair ih =>
    intro found
    rcases List.infix_cons_iff.mp found with starts | inside
    · -- The second colon of the pair would have stood behind the first one before.
      obtain ⟨rfl, more, front⟩ := List.cons_prefix_cons.mp starts
      exact notPair ⟨rfl, eq_colon_of_dotted front.symm⟩
    · exact ih inside

/-! ## 2. Paths of modules -/

/-- A segment of a path: at least one character, and neither colons nor dots. -/
structure IsSegment (s : String) : Prop where
  nonempty : s ≠ ""
  noColon : ':' ∉ s.toList
  noDot : '.' ∉ s.toList

/-- The path of a module: at least one segment. -/
structure IsPath (segments : List String) : Prop where
  nonempty : segments ≠ []
  each : ∀ s ∈ segments, IsSegment s

theorem isSegment_iff {s : String} :
    IsSegment s ↔ s ≠ "" ∧ ':' ∉ s.toList ∧ '.' ∉ s.toList :=
  ⟨fun h => ⟨h.nonempty, h.noColon, h.noDot⟩, fun h => ⟨h.1, h.2.1, h.2.2⟩⟩

instance (s : String) : Decidable (IsSegment s) :=
  decidable_of_iff _ isSegment_iff.symm

theorem isPath_iff {segments : List String} :
    IsPath segments ↔ segments ≠ [] ∧ ∀ s ∈ segments, IsSegment s :=
  ⟨fun h => ⟨h.nonempty, h.each⟩, fun h => ⟨h.1, h.2⟩⟩

instance (segments : List String) : Decidable (IsPath segments) :=
  decidable_of_iff _ isPath_iff.symm

/-- The target of a module, by the segments of its path. -/
def target (segments : List String) : String :=
  "::".intercalate segments

/-- The modules that enclose a module, itself the first and the outermost the last:
the beginnings of its path. -/
def enclosing (segments : List String) : List (List String) :=
  segments.inits.tail.reverse

theorem enclosing_concat (segments : List String) (s : String) :
    enclosing (segments ++ [s]) = (segments ++ [s]) :: enclosing segments := by
  have longer : (segments ++ [s]).inits = segments.inits ++ [segments ++ [s]] := by
    simp [List.inits_append]
  rw [enclosing, longer, List.tail_append_of_ne_nil (by cases segments <;> simp),
    List.reverse_concat, enclosing]

theorem IsPath.of_concat {segments : List String} {s : String} (h : IsPath (segments ++ [s]))
    (more : segments ≠ []) : IsPath segments where
  nonempty := more
  each := fun s' member => h.each s' (List.mem_append_left _ member)

/-- Every module that encloses a module has a path. -/
theorem IsPath.of_mem_enclosing {segments m : List String} (h : IsPath segments)
    (member : m ∈ enclosing segments) : IsPath m := by
  induction segments using List.reverseRecOn with
  | nil => exact absurd rfl h.nonempty
  | append_singleton segments s ih =>
    rw [enclosing_concat, List.mem_cons] at member
    rcases member with rfl | member
    · exact h
    · have more : segments ≠ [] := by
        rintro rfl
        cases member
      exact ih (h.of_concat more) member

/-! ## 3. The logger of a module -/

theorem ofTarget_target {segments : List String} (h : ∀ s ∈ segments, IsSegment s) :
    ofTarget (target segments) = ".".intercalate segments := by
  have same : dotted (target segments).toList = (".".intercalate segments).toList := by
    induction segments with
    | nil => rfl
    | cons s rest ih =>
      have noColon := (h s List.mem_cons_self).noColon
      have tail := ih (fun s' member => h s' (List.mem_cons_of_mem _ member))
      cases rest with
      | nil => simpa [target] using dotted_of_notMem noColon
      | cons s' rest =>
        have colons : (target (s :: s' :: rest)).toList =
            s.toList ++ ':' :: ':' :: (target (s' :: rest)).toList := by
          simp [target, String.intercalate_cons_cons]
        rw [colons, dotted_append noColon, dotted_colons, tail]
        simp [String.intercalate_cons_cons]
  rw [ofTarget, same, String.ofList_toList]

/-- Cutting the name of a module at its dots goes through the modules that enclose
it. -/
theorem walk_intercalate {segments : List String} (h : IsPath segments) :
    walk (".".intercalate segments) =
      (enclosing segments).map (".".intercalate ·) ++ [root] := by
  induction segments using List.reverseRecOn with
  | nil => exact absurd rfl h.nonempty
  | append_singleton segments s ih =>
    have last : IsSegment s := h.each s (by simp)
    rw [enclosing_concat, List.map_cons, List.cons_append]
    by_cases more : segments = []
    · subst more
      have below : s ≠ root := last.nonempty
      rw [List.nil_append, String.intercalate_singleton, walk_of_undotted last.noDot, if_neg below]
      rfl
    · rw [String.intercalate_append_of_ne_nil more (List.cons_ne_nil _ _),
        String.intercalate_singleton, walk_cut _ last.noDot, ih (h.of_concat more)]

theorem walk_ofTarget {segments : List String} (h : IsPath segments) :
    walk (ofTarget (target segments)) =
      (enclosing segments).map (fun m => ofTarget (target m)) ++ [root] := by
  rw [ofTarget_target h.each, walk_intercalate h]
  congr 1
  exact List.map_congr_left fun m member => (ofTarget_target (h.of_mem_enclosing member).each).symm

/-- The path of a module can be read off its logger. -/
theorem splitOn_ofTarget {segments : List String} (h : IsPath segments) :
    (ofTarget (target segments)).toList.splitOn '.' = segments.map String.toList := by
  rw [ofTarget_target h.each, String.toList_intercalate]
  refine List.splitOn_intercalate '.' (fun cs member => ?_) (by simpa using h.nonempty)
  obtain ⟨s, inside, rfl⟩ := List.mem_map.mp member
  exact (h.each s inside).noDot

theorem eq_of_ofTarget_eq {segments others : List String} (h : IsPath segments)
    (h' : IsPath others) (same : ofTarget (target segments) = ofTarget (target others)) :
    segments = others := by
  refine List.map_injective_iff.mpr (fun _ _ => String.toList_inj.mp) ?_
  rw [← splitOn_ofTarget h, ← splitOn_ofTarget h', same]

/-! ## 4. Overrides along the path -/

theorem upTo_of_silent {α : Type} {find : String → Option α} {line : List String}
    (silent : ∀ n ∈ line, find n = none) : asked.upTo find line = line := by
  induction line with
  | nil => rfl
  | cons n rest ih =>
    rw [asked.upTo, silent n List.mem_cons_self,
      ih (fun m member => silent m (List.mem_cons_of_mem _ member))]
    rfl

/-- **A module governs its submodules.** The logger of a module has the segments of
its path with a dot between neighbours. As long as none of them has a value,
the loggers of the modules that enclose it are asked for one after the other,
the module itself first and the outermost last, and then the root; and the
first that has a value decides. Modules with different paths have different
loggers. In whatever is made from a target no pair of colons is left. -/
theorem module_governs_submodules {α : Type} (find : String → Option α) {segments : List String}
    (path : IsPath segments) :
    let loggers := (enclosing segments).map (fun m => ofTarget (target m)) ++ [root]
    ofTarget (target segments) = ".".intercalate segments ∧
    ((∀ n ∈ loggers, find n = none) → asked find (ofTarget (target segments)) = loggers) ∧
    resolve find (ofTarget (target segments)) = loggers.findSome? find ∧
    (∀ others, IsPath others → others ≠ segments →
      ofTarget (target others) ≠ ofTarget (target segments)) ∧
    ∀ text, ¬ [':', ':'] <:+: (ofTarget text).toList := by
  intro loggers
  have line : walk (ofTarget (target segments)) = loggers := walk_ofTarget path
  refine ⟨ofTarget_target path.each, ?asked, ?decided, ?distinct, ?colons⟩
  case asked =>
    intro silent
    rw [asked, line, upTo_of_silent silent]
  case decided => rw [resolve, line]
  case distinct =>
    intro others path' different same
    exact different (eq_of_ofTarget_eq path' path same)
  case colons =>
    intro text
    rw [ofTarget, String.toList_ofList]
    exact colons_not_infix_dotted text.toList

/-- A path of three segments, of which only the outermost has a value, beside another
one that begins with the same letters; and a run of five colons. -/
theorem module_governs_submodules_two_levels_down :
    let find := fun n => if n = "shop" then some Severity.trace else none
    (IsPath ["shop", "cart", "item"] ∧ IsPath ["shop", "cartitem"]) ∧
    ofTarget "shop::cart::item" = "shop.cart.item" ∧
    asked (fun _ => (none : Option Severity)) (ofTarget "shop::cart::item") =
      ["shop.cart.item", "shop.cart", "shop", ""] ∧
    resolve find (ofTarget "shop::cart::item") = some .trace ∧
    ofTarget "shop::cartitem" ≠ ofTarget "shop::cart::item" ∧
    ¬ [':', ':'] <:+: (ofTarget "a:::::b").toList := by
  intro find
  have item : IsPath ["shop", "cart", "item"] := by decide
  have cartitem : IsPath ["shop", "cartitem"] := by decide
  have spelt : target ["shop", "cart", "item"] = "shop::cart::item" := by decide +kernel
  have spelt' : target ["shop", "cartitem"] = "shop::cartitem" := by decide +kernel
  have loggers : (enclosing ["shop", "cart", "item"]).map (fun m => ofTarget (target m)) ++ [root] =
      ["shop.cart.item", "shop.cart", "shop", ""] := by decide +kernel
  obtain ⟨-, unheard, -⟩ := module_governs_submodules (fun _ => (none : Option Severity)) item
  obtain ⟨named, -, decided, distinct, clean⟩ := module_governs_submodules find item
  rw [spelt] at named unheard decided distinct
  rw [loggers] at unheard decided
  exact ⟨⟨item, cartitem⟩, named, unheard (fun _ _ => rfl), decided,
    spelt' ▸ distinct _ cartitem (by decide), clean _⟩

end TelemetryControl.LoggerName
