/-
TelemetryControl.Proofs.NameTable — what a table answers after it was built.

Every table of the library is built by `insert`, `insertIfNew` and `ofList`,
and is only ever asked for the value of a name. Each lemma here says what
`get?` finds after one of these operations, so that no later proof looks at
the pairs of a table again.
-/
import TelemetryControl.NameTable
import Mathlib.Data.Finset.Card
import Mathlib.Data.List.Induction

namespace TelemetryControl.NameTable

variable {α : Type}

/-! ## 1. Single operations -/

theorem contains_iff (t : NameTable α) (name : String) :
    t.contains name = true ↔ ∃ value, t.get? name = some value := by
  simp [contains, Option.isSome_iff_exists]

theorem contains_eq_false_iff (t : NameTable α) (name : String) :
    t.contains name = false ↔ t.get? name = none := by
  simp [contains]

/-- A value that is only filled in never hides the one that was there. -/
@[simp] theorem get?_insertIfNew (t : NameTable α) (name other : String) (value : α) :
    (t.insertIfNew name value).get? other =
      (t.get? other).or (if name = other then some value else none) := by
  unfold insertIfNew
  split
  · next known =>
    by_cases same : name = other
    · subst same
      obtain ⟨v, hv⟩ := (contains_iff t name).mp known
      simp [hv]
    · simp [same]
  · next unknown =>
    rw [Bool.not_eq_true, contains_eq_false_iff] at unknown
    by_cases same : name = other
    · subst same
      simp [unknown]
    · simp [same]

/-- Nor does filling in a value for several names, one after the other. -/
theorem get?_foldl_insertIfNew (names : List String) (t : NameTable α) (other : String)
    (value : α) : (names.foldl (fun t n => t.insertIfNew n value) t).get? other =
      (t.get? other).or (if other ∈ names then some value else none) := by
  induction names generalizing t with
  | nil => simp
  | cons n rest ih =>
    rw [List.foldl_cons, ih, get?_insertIfNew, Option.or_assoc]
    by_cases same : n = other
    · simp [same]
    · have apart : ¬ other = n := fun h => same h.symm
      simp [same, apart]

/-- The names of a table are those that have a value. -/
theorem mem_names_iff (t : NameTable α) (name : String) :
    name ∈ t.names ↔ t.contains name = true := by
  rw [contains_iff]
  constructor
  · intro h
    obtain ⟨⟨k, v⟩, hp, rfl⟩ := List.mem_map.mp h
    exact ⟨v, (mem_entries_iff t k v).mp hp⟩
  · rintro ⟨v, hv⟩
    exact List.mem_map.mpr ⟨(name, v), (mem_entries_iff t name v).mpr hv, rfl⟩

theorem nodup_names (t : NameTable α) : t.names.Nodup := by
  refine List.pairwise_map.mpr (t.ascending.imp ?_)
  intro a b less same
  rw [same] at less
  exact String.lt_irrefl _ less

/-- A table has as many names as it has pairs. -/
theorem size_eq_card (t : NameTable α) : t.size = t.names.toFinset.card := by
  rw [List.toFinset_card_of_nodup t.nodup_names, names, List.length_map, size]

/-! ## 2. Tables of lists -/

@[simp] theorem ofList_nil : ofList ([] : List (String × α)) = empty := rfl

@[simp] theorem ofList_concat (l : List (String × α)) (p : String × α) :
    ofList (l ++ [p]) = (ofList l).insert p.1 p.2 := by
  simp [ofList]

/-- A table of a list knows the names that are paired in it. -/
theorem contains_ofList_iff (l : List (String × α)) (name : String) :
    (ofList l).contains name = true ↔ name ∈ l.map Prod.fst := by
  induction l using List.reverseRecOn with
  | nil => simp [contains]
  | append_singleton l p ih =>
    by_cases same : p.1 = name
    · simp [contains, same]
    · have other : ¬ name = p.1 := fun h => same h.symm
      simp only [contains] at ih
      simp [contains, same, other, ih]

/-- The table of a list has as many names as the list has different ones. -/
theorem size_ofList (l : List (String × α)) :
    (ofList l).size = (l.map Prod.fst).toFinset.card := by
  rw [size_eq_card]
  congr 1
  ext name
  rw [List.mem_toFinset, List.mem_toFinset, mem_names_iff, contains_ofList_iff]

/-- The values that a list of pairs has for a name, in their order. -/
def valuesOf (name : String) (l : List (String × α)) : List α :=
  (l.filter (fun p => p.1 = name)).map Prod.snd

theorem valuesOf_cons (name : String) (p : String × α) (rest : List (String × α)) :
    valuesOf name (p :: rest) =
      if p.1 = name then p.2 :: valuesOf name rest else valuesOf name rest := by
  by_cases same : p.1 = name <;> simp [valuesOf, same]

/-- The last value that a list has for a name is the one that its table keeps. -/
theorem get?_ofList (l : List (String × α)) (name : String) :
    (ofList l).get? name = (valuesOf name l).getLast? := by
  induction l using List.reverseRecOn with
  | nil => rfl
  | append_singleton l p ih =>
    by_cases same : p.1 = name
    · simp [valuesOf, same]
    · simpa [valuesOf, same] using ih

theorem lookup_append (name : String) (l m : List (String × α)) :
    lookup name (l ++ m) = (lookup name l).or (lookup name m) := by
  induction l with
  | nil => rfl
  | cons p rest ih =>
    by_cases same : p.1 = name <;> simp [lookup, same, ih]

/-- In ascending pairs no later one hides an earlier one. -/
theorem get?_ofList_of_ascending {l : List (String × α)} (h : l.Pairwise (fun a b => a.1 < b.1))
    (name : String) : (ofList l).get? name = lookup name l := by
  induction l using List.reverseRecOn with
  | nil => rfl
  | append_singleton l p ih =>
    obtain ⟨front, -, below⟩ := List.pairwise_append.mp h
    rw [ofList_concat, get?_insert, ih front, lookup_append]
    by_cases same : p.1 = name
    · have unknown : lookup name l = none := by
        refine Option.eq_none_iff_forall_ne_some.mpr (fun value found => ?_)
        have less := below _ ((lookup_eq_some_iff front name value).mp found) p List.mem_cons_self
        exact String.lt_irrefl name (same ▸ less)
      simp [unknown, lookup, same]
    · simp [lookup, same]

/-- The last of ascending pairs is the one with the greatest name. -/
theorem getLast?_eq_some_iff_of_ascending {l : List (String × α)}
    (h : l.Pairwise (fun a b => a.1 < b.1)) (p : String × α) :
    l.getLast? = some p ↔ p ∈ l ∧ ∀ q ∈ l, q.1 ≤ p.1 := by
  constructor
  · intro last
    obtain ⟨front, rfl⟩ := List.getLast?_eq_some_iff.mp last
    obtain ⟨-, -, below⟩ := List.pairwise_append.mp h
    refine ⟨List.mem_concat_self, fun q member => ?_⟩
    rcases List.mem_append.mp member with earlier | itself
    · exact Std.le_of_lt (below q earlier p List.mem_cons_self)
    · obtain rfl := List.mem_singleton.mp itself
      exact String.le_refl q.1
  · rintro ⟨member, greatest⟩
    obtain ⟨front, back, rfl⟩ := List.append_of_mem member
    obtain ⟨-, fromHere, -⟩ := List.pairwise_append.mp h
    cases back with
    | nil => exact List.getLast?_concat
    | cons q back =>
      have above := (List.pairwise_cons.mp fromHere).1 q List.mem_cons_self
      exact absurd above (greatest q (by simp))

/-- A table whose names are spelt anew: of the names that come to one spelling the
greatest gives its value. -/
theorem get?_ofList_respelt {β : Type} (t : NameTable α) (spell : String → String) (f : α → β)
    (name : String) (value : β) :
    (ofList (t.toList.map (fun p => (spell p.1, f p.2)))).get? name = some value ↔
      ∃ key a, t.get? key = some a ∧ spell key = name ∧ f a = value ∧
        ∀ other, t.contains other = true → spell other = name → other ≤ key := by
  have ascending : (t.toList.filter (fun p => spell p.1 = name)).Pairwise (fun a b => a.1 < b.1) :=
    t.ascending.filter _
  have values : valuesOf name (t.toList.map (fun p => (spell p.1, f p.2))) =
      (t.toList.filter (fun p => spell p.1 = name)).map (fun p => f p.2) := by
    rw [valuesOf, List.filter_map, List.map_map]
    rfl
  have listed (key : String) (a : α) : (key, a) ∈ t.toList.filter (fun p => spell p.1 = name) ↔
      t.get? key = some a ∧ spell key = name := by
    rw [List.mem_filter, toList, mem_entries_iff, decide_eq_true_eq]
  rw [get?_ofList, values, List.getLast?_map, Option.map_eq_some_iff]
  simp only [getLast?_eq_some_iff_of_ascending ascending, Prod.exists, Prod.forall, listed,
    contains_iff]
  constructor
  · rintro ⟨key, a, ⟨⟨found, meant⟩, greatest⟩, rfl⟩
    exact ⟨key, a, found, meant, rfl,
      fun other ⟨b, found'⟩ meant' => greatest other b ⟨found', meant'⟩⟩
  · rintro ⟨key, a, found, meant, rfl, greatest⟩
    exact ⟨key, a, ⟨⟨found, meant⟩, fun other b there => greatest other ⟨b, there.1⟩ there.2⟩, rfl⟩

/-- The pairs of a table make up that table. -/
theorem ofList_toList (t : NameTable α) : ofList t.toList = t :=
  ext_get? (get?_ofList_of_ascending t.ascending)

/-- The table of a function on some names. -/
theorem get?_ofList_map (f : String → α) (names : List String) (name : String) :
    (ofList (names.map (fun n => (n, f n)))).get? name =
      if name ∈ names then some (f name) else none := by
  induction names using List.reverseRecOn with
  | nil => simp
  | append_singleton names last ih =>
    rw [List.map_append, List.map_singleton, ofList_concat, get?_insert, ih]
    by_cases same : last = name
    · simp [same]
    · have other : ¬ name = last := fun h => same h.symm
      simp [same, other]

end TelemetryControl.NameTable
