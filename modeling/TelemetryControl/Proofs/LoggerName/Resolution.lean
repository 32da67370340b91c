/-
TelemetryControl.Proofs.LoggerName.Resolution — the most specific name decides.

The walk of a logger is made by cutting its name at dots. Here it is described
without any cutting: the names on it are the logger itself, every name that
the logger continues after a dot, and the root (`mem_walk_iff`), and each is
shorter than the one before (`walk_shortens`). So "the first on the walk" and
"the longest of those that govern" are the same name, and no name is ever
taken for an ancestor because its text happens to be a prefix.

The main result is `longest_governing_key_decides`, of the override tables and
of the names that a resolution asks for.
-/
import TelemetryControl.Overrides
import TelemetryControl.Proofs.LoggerName.Walk
import TelemetryControl.Proofs.NameTable

namespace TelemetryControl.LoggerName

/-- A name governs a logger when it is the logger's own, when the logger's name
goes on after it with a dot, or when it is the root. -/
def Governs (key name : String) : Prop :=
  key = name ∨ (∃ rest, name = key ++ "." ++ rest) ∨ key = root

/-! ## 1. What stands before a dot -/

theorem mem_heads_iff {cs h : List Char} : h ∈ heads cs ↔ ∃ rest, cs = h ++ '.' :: rest := by
  induction cs generalizing h with
  | nil => simp [heads]
  | cons c more ih =>
    -- A dot further on is met by a head that starts with `c`.
    have further : h ∈ (heads more).map (c :: ·) ↔
        ∃ h', h = c :: h' ∧ ∃ rest, more = h' ++ '.' :: rest := by
      simp only [List.mem_map, ih]
      constructor
      · rintro ⟨h', split, rfl⟩
        exact ⟨h', rfl, split⟩
      · rintro ⟨h', rfl, split⟩
        exact ⟨h', split, rfl⟩
    have cases : h ∈ heads (c :: more) ↔ (c = '.' ∧ h = []) ∨ h ∈ (heads more).map (c :: ·) := by
      by_cases dot : c = '.' <;> simp [heads, dot]
    rw [cases, further]
    cases h with
    | nil => simp
    | cons d h => simp [eq_comm]

/-- Of two heads the later one is longer. -/
theorem heads_lengthen (cs : List Char) :
    (heads cs).Pairwise (fun h h' => h.length < h'.length) := by
  induction cs with
  | nil => exact List.Pairwise.nil
  | cons c more ih =>
    have longer : ((heads more).map (c :: ·)).Pairwise (fun h h' => h.length < h'.length) :=
      List.pairwise_map.mpr (ih.imp (fun less => by simpa using less))
    simp only [heads]
    split
    · refine List.pairwise_cons.mpr ⟨fun h member => ?_, longer⟩
      obtain ⟨h', -, rfl⟩ := List.mem_map.mp member
      simp
    · exact longer

theorem mem_ancestors_iff {key name : String} :
    key ∈ ancestors name ↔ ∃ rest, name = key ++ "." ++ rest := by
  have cut : key ∈ ancestors name ↔ key.toList ∈ heads name.toList := by
    simp only [ancestors, List.mem_map, List.mem_reverse]
    constructor
    · rintro ⟨h, member, rfl⟩
      rwa [String.toList_ofList]
    · intro member
      exact ⟨key.toList, member, String.ofList_toList⟩
  rw [cut, mem_heads_iff]
  constructor
  · rintro ⟨rest, split⟩
    refine ⟨String.ofList rest, String.toList_inj.mp ?_⟩
    simp [split]
  · rintro ⟨rest, rfl⟩
    exact ⟨rest.toList, by simp⟩

theorem mem_lineage_iff {key name : String} :
    key ∈ lineage name ↔ key = name ∨ ∃ rest, name = key ++ "." ++ rest := by
  rw [lineage, List.mem_cons, mem_ancestors_iff]

theorem ancestors_shorten (name : String) :
    (ancestors name).Pairwise (fun a b => b.length < a.length) := by
  refine List.pairwise_map.mpr (List.pairwise_reverse.mpr ?_)
  exact (heads_lengthen name.toList).imp (fun less => by simpa using less)

/-! ## 2. The walk without cutting -/

/-- Every name of a lineage is shorter than the one before. -/
theorem lineage_shortens (name : String) :
    (lineage name).Pairwise (fun a b => b.length < a.length) := by
  refine List.pairwise_cons.mpr ⟨fun a member => ?_, ancestors_shorten name⟩
  obtain ⟨rest, rfl⟩ := mem_ancestors_iff.mp member
  simp only [String.length_append]
  have dot : ".".length = 1 := rfl
  omega

/-- Nothing is shorter than the root. -/
theorem getLast?_of_root_mem {line : List String}
    (shortens : line.Pairwise (fun a b => b.length < a.length)) (reached : root ∈ line) :
    line.getLast? = some root := by
  obtain ⟨before, after, rfl⟩ := List.append_of_mem reached
  cases after with
  | nil => rw [List.getLast?_concat]
  | cons next after =>
    obtain ⟨-, fromRoot, -⟩ := List.pairwise_append.mp shortens
    have below := (List.pairwise_cons.mp fromRoot).1 next List.mem_cons_self
    exact absurd below (Nat.not_lt_zero _)

/-- Every name on the walk is shorter than the one before. -/
theorem walk_shortens (name : String) :
    (walk name).Pairwise (fun a b => b.length < a.length) := by
  simp only [walk]
  split
  · exact lineage_shortens name
  · next notReached =>
    refine List.pairwise_append.mpr ⟨lineage_shortens name, List.pairwise_singleton _ _, ?_⟩
    intro a member b isRoot
    obtain rfl := List.mem_singleton.mp isRoot
    -- A name without characters would be the root, and the lineage would end there.
    refine Nat.pos_of_ne_zero fun empty => notReached ?_
    have same : a = root := String.toList_inj.mp (List.length_eq_zero_iff.mp (by simpa using empty))
    exact getLast?_of_root_mem (lineage_shortens name) (same ▸ member)

/-- The walk ends at the root. -/
theorem getLast?_walk (name : String) : (walk name).getLast? = some root := by
  simp only [walk]
  split
  · assumption
  · exact List.getLast?_concat

theorem mem_walk_iff {key name : String} : key ∈ walk name ↔ Governs key name := by
  have ends : root ∈ walk name := List.mem_of_getLast? (getLast?_walk name)
  have walked : key ∈ walk name ↔ key ∈ lineage name ∨ key = root := by
    constructor
    · simp only [walk]
      split
      · exact .inl
      · simp
    · rintro (member | rfl)
      · simp only [walk]
        split
        · exact member
        · exact List.mem_append_left _ member
      · exact ends
  rw [walked, mem_lineage_iff, or_assoc, Governs]

instance (key name : String) : Decidable (Governs key name) :=
  decidable_of_iff (key ∈ walk name) mem_walk_iff

/-- Being a part of the text in front is not enough. -/
example : Governs "a" "a.b" ∧ ¬ Governs "a.b" "a.bc" := by decide

/-- What comes before a name on the walk is what governs and is longer. -/
theorem mem_before_iff {name key k : String} {before after : List String}
    (split : walk name = before ++ key :: after) :
    k ∈ before ↔ Governs k name ∧ key.length < k.length := by
  have shortens := walk_shortens name
  rw [split] at shortens
  obtain ⟨-, fromKey, longer⟩ := List.pairwise_append.mp shortens
  obtain ⟨shorter, -⟩ := List.pairwise_cons.mp fromKey
  rw [← mem_walk_iff, split, List.mem_append, List.mem_cons]
  constructor
  · intro earlier
    exact ⟨.inl earlier, longer k earlier key List.mem_cons_self⟩
  · rintro ⟨earlier | rfl | later, less⟩
    · exact earlier
    · exact absurd less (Nat.lt_irrefl _)
    · exact absurd less (Nat.lt_asymm (shorter k later))

/-! ## 3. Asking along the walk -/

section Asking

variable {α : Type} {find : String → Option α}

theorem upTo_sublist (line : List String) : (asked.upTo find line).Sublist line := by
  induction line with
  | nil => exact List.Sublist.refl []
  | cons n rest ih =>
    simp only [asked.upTo]
    split
    · exact (List.nil_sublist rest).cons_cons n
    · exact ih.cons_cons n

/-- Asking stops at the first name that has a value: a name is asked when no
longer one has. -/
theorem mem_upTo_iff {line : List String} {key : String}
    (shortens : line.Pairwise (fun a b => b.length < a.length)) :
    key ∈ asked.upTo find line ↔
      key ∈ line ∧ ∀ k ∈ line, key.length < k.length → find k = none := by
  induction line with
  | nil => simp [asked.upTo]
  | cons n rest ih =>
    obtain ⟨below, shortens⟩ := List.pairwise_cons.mp shortens
    have longest : ∀ k ∈ n :: rest, ¬ n.length < k.length := by
      intro k member longer
      rcases List.mem_cons.mp member with rfl | member
      · exact Nat.lt_irrefl _ longer
      · exact Nat.lt_asymm (below k member) longer
    simp only [asked.upTo]
    split
    · next present =>
      constructor
      · intro member
        obtain rfl := List.mem_singleton.mp member
        exact ⟨List.mem_cons_self, fun k there longer => absurd longer (longest k there)⟩
      · rintro ⟨member, silent⟩
        rcases List.mem_cons.mp member with rfl | member
        · exact List.mem_singleton_self key
        · rw [silent n List.mem_cons_self (below key member)] at present
          exact absurd present Bool.false_ne_true
    · next absent =>
      have missing : find n = none := by simpa using absent
      rw [List.mem_cons, ih shortens, List.mem_cons]
      constructor
      · rintro (rfl | ⟨member, silent⟩)
        · exact ⟨.inl rfl, fun k there longer => absurd longer (longest k there)⟩
        · refine ⟨.inr member, fun k there longer => ?_⟩
          rcases List.mem_cons.mp there with rfl | there
          · exact missing
          · exact silent k there longer
      · rintro ⟨rfl | member, silent⟩
        · exact .inl rfl
        · exact .inr ⟨member, fun k there => silent k (List.mem_cons_of_mem _ there)⟩

/-- The answer is what the last name that was asked has. -/
theorem findSome?_eq_bind_getLast?_upTo (line : List String) :
    line.findSome? find = (asked.upTo find line).getLast?.bind find := by
  induction line with
  | nil => rfl
  | cons n rest ih =>
    simp only [asked.upTo, List.findSome?_cons]
    split
    · next v found => simp [found]
    · next absent =>
      rw [if_neg (by simp [absent]), List.getLast?_cons, ih]
      cases (asked.upTo find rest).getLast? with
      | none => simp [absent]
      | some last => rfl

theorem asked_shortens (find : String → Option α) (name : String) :
    (asked find name).Pairwise (fun a b => b.length < a.length) :=
  (walk_shortens name).sublist (upTo_sublist (walk name))

theorem mem_asked_iff {key name : String} :
    key ∈ asked find name ↔
      Governs key name ∧ ∀ k, Governs k name → key.length < k.length → find k = none := by
  simp only [asked, mem_upTo_iff (walk_shortens name), mem_walk_iff]

theorem resolve_eq_bind_getLast?_asked (find : String → Option α) (name : String) :
    resolve find name = (asked find name).getLast?.bind find :=
  findSome?_eq_bind_getLast?_upTo (walk name)

theorem resolve_eq_some_iff {name : String} {value : α} :
    resolve find name = some value ↔
      ∃ key, find key = some value ∧ Governs key name ∧
        ∀ k, Governs k name → key.length < k.length → find k = none := by
  constructor
  · intro resolved
    obtain ⟨before, key, after, split, found, silent⟩ := exists_split_of_resolve resolved
    have governs : Governs key name := mem_walk_iff.mp (by simp [split])
    exact ⟨key, found, governs, fun k other longer =>
      silent k ((mem_before_iff split).mpr ⟨other, longer⟩)⟩
  · rintro ⟨key, found, governs, silent⟩
    obtain ⟨before, after, split⟩ := List.append_of_mem (mem_walk_iff.mpr governs)
    refine resolve_of_split split (fun k earlier => ?_) found
    obtain ⟨other, longer⟩ := (mem_before_iff split).mp earlier
    exact silent k other longer

theorem resolve_eq_none_iff {name : String} :
    resolve find name = none ↔ ∀ key, Governs key name → find key = none := by
  simp only [resolve, List.findSome?_eq_none_iff, mem_walk_iff]

end Asking

/-! ## 4. Override tables -/

/-- **The longest key that governs a logger decides for it.** An override table
gives a logger the severity of the longest of its keys that is the logger's
name, that the name continues with a dot, or that is the root; without such a
key it gives nothing. Whatever is looked up, a resolution asks for the names
that govern, each shorter than the one before, so none twice and the root
last, and it asks no further once a name has a value. -/
theorem longest_governing_key_decides {α : Type} (table : NameTable Severity)
    (find : String → Option α) (name : String) :
    (∀ s, Overrides.effective table name = some s ↔
      ∃ key, table.get? key = some s ∧ Governs key name ∧
        ∀ k, table.contains k = true → Governs k name → k.length ≤ key.length) ∧
    (Overrides.effective table name = none ↔
      ∀ key, Governs key name → table.contains key = false) ∧
    (asked find name).Pairwise (fun a b => b.length < a.length) ∧
    (root ∈ asked find name → (asked find name).getLast? = some root) ∧
    (∀ key, key ∈ asked find name ↔
      Governs key name ∧ ∀ k, Governs k name → key.length < k.length → find k = none) ∧
    resolve find name = (asked find name).getLast?.bind find := by
  refine ⟨fun s => ?decided, ?undecided, asked_shortens find name,
    getLast?_of_root_mem (asked_shortens find name), fun key => mem_asked_iff,
    resolve_eq_bind_getLast?_asked find name⟩
  case decided =>
    have longest : ∀ key : String,
        (∀ k, Governs k name → key.length < k.length → table.get? k = none) ↔
          ∀ k, table.contains k = true → Governs k name → k.length ≤ key.length := by
      intro key
      simp only [← NameTable.contains_eq_false_iff]
      refine forall_congr' fun k => ?_
      rw [← Nat.not_lt]
      cases table.contains k <;> simp
    rw [Overrides.effective, resolve_eq_some_iff]
    simp only [longest]
  case undecided =>
    simp only [Overrides.effective, resolve_eq_none_iff, NameTable.contains_eq_false_iff]

/-- A doubled dot is cut twice. -/
example :
    asked (fun n => if n = "a" then some Severity.warn else none) "a..bc.d" =
      ["a..bc.d", "a..bc", "a.", "a"] := by decide

end TelemetryControl.LoggerName
