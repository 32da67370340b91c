/-
TelemetryControl.NameTable — finite maps from names to values.

Logger levels, overrides, baselines and services are all maps keyed by a
name. A table is a list of pairs kept strictly ascending by name, the order
in which tables are shown, so two tables with the same entries are equal
and `ext` turns equality of tables into equality of look-ups.
-/

namespace TelemetryControl

/-- A map from names to values, held in ascending order of the names. -/
structure NameTable (α : Type) where
  /-- The pairs of the table. -/
  entries : List (String × α)
  /-- Names ascend strictly, so none occurs twice. -/
  ascending : entries.Pairwise (fun a b => a.1 < b.1)

namespace NameTable

variable {α : Type}

instance [Repr α] : Repr (NameTable α) where
  reprPrec t p := reprPrec t.entries p

instance [DecidableEq α] : DecidableEq (NameTable α) := fun s t =>
  if h : s.entries = t.entries then
    isTrue (by cases s; cases t; cases h; rfl)
  else
    isFalse (fun e => h (e ▸ rfl))

/-! ## 1. Pairs in order -/

/-- The value paired with a name. -/
def lookup (name : String) : List (String × α) → Option α
  | [] => none
  | (k, v) :: rest => if k = name then some v else lookup name rest

/-- Puts a pair at its place, over any pair of the same name. -/
def place (name : String) (value : α) : List (String × α) → List (String × α)
  | [] => [(name, value)]
  | (k, v) :: rest =>
    if name < k then (name, value) :: (k, v) :: rest
    else if name = k then (name, value) :: rest
    else (k, v) :: place name value rest

theorem mem_place {name : String} {value : α} {l : List (String × α)} {p : String × α}
    (h : p ∈ place name value l) : p = (name, value) ∨ p ∈ l := by
  induction l with
  | nil => simpa [place] using h
  | cons q rest ih =>
    obtain ⟨k, v⟩ := q
    simp only [place] at h
    split at h
    · simpa using h
    · split at h
      · rcases List.mem_cons.mp h with h | h
        · exact .inl h
        · exact .inr (List.mem_cons_of_mem _ h)
      · rcases List.mem_cons.mp h with h | h
        · exact .inr (h ▸ List.mem_cons_self)
        · rcases ih h with h | h
          · exact .inl h
          · exact .inr (List.mem_cons_of_mem _ h)

theorem place_ascending (name : String) (value : α) {l : List (String × α)}
    (h : l.Pairwise (fun a b => a.1 < b.1)) :
    (place name value l).Pairwise (fun a b => a.1 < b.1) := by
  induction l with
  | nil => simp [place]
  | cons q rest ih =>
    obtain ⟨k, v⟩ := q
    have hk := List.pairwise_cons.mp h
    simp only [place]
    split
    · rename_i hlt
      refine List.pairwise_cons.mpr ⟨fun p hp => ?_, h⟩
      rcases List.mem_cons.mp hp with rfl | hp
      · exact hlt
      · exact String.lt_trans hlt (hk.1 p hp)
    · split
      · rename_i heq
        subst heq
        exact List.pairwise_cons.mpr ⟨hk.1, hk.2⟩
      · rename_i hlt hne
        refine List.pairwise_cons.mpr ⟨fun p hp => ?_, ih hk.2⟩
        rcases mem_place hp with rfl | hp
        · exact Std.lt_of_le_of_ne hlt (Ne.symm hne)
        · exact hk.1 p hp

/-! ## 2. Operations -/

/-- The table with no names. -/
def empty : NameTable α := ⟨[], List.Pairwise.nil⟩

instance : Inhabited (NameTable α) := ⟨empty⟩

instance : EmptyCollection (NameTable α) := ⟨empty⟩

/-- The value of a name. -/
def get? (t : NameTable α) (name : String) : Option α :=
  lookup name t.entries

/-- Whether a name is in the table. -/
def contains (t : NameTable α) (name : String) : Bool :=
  (t.get? name).isSome

/-- Gives a name a value, in place of the one it had. -/
def insert (t : NameTable α) (name : String) (value : α) : NameTable α :=
  ⟨place name value t.entries, place_ascending name value t.ascending⟩

/-- Gives a name a value unless it has one. -/
def insertIfNew (t : NameTable α) (name : String) (value : α) : NameTable α :=
  if t.contains name then t else t.insert name value

/-- Takes a name out of the table. -/
def erase (t : NameTable α) (name : String) : NameTable α :=
  ⟨t.entries.filter (fun p => p.1 != name), t.ascending.filter _⟩

/-- The table of a list of pairs, the last pair of a name counting. -/
def ofList (l : List (String × α)) : NameTable α :=
  l.foldl (fun t p => t.insert p.1 p.2) empty

/-- The pairs in ascending order of the names. -/
def toList (t : NameTable α) : List (String × α) := t.entries

/-- The names in ascending order. -/
def names (t : NameTable α) : List String := t.entries.map (·.1)

/-- How many names the table has. -/
def size (t : NameTable α) : Nat := t.entries.length

/-! ## 3. Look-ups -/

theorem lookup_place (name other : String) (value : α) {l : List (String × α)}
    (h : l.Pairwise (fun a b => a.1 < b.1)) :
    lookup other (place name value l) = if name = other then some value else lookup other l := by
  induction l with
  | nil => simp [place, lookup]
  | cons q rest ih =>
    obtain ⟨k, v⟩ := q
    have hk := List.pairwise_cons.mp h
    simp only [place]
    split
    · by_cases e : name = other <;> simp [lookup, e]
    · split
      · rename_i heq
        subst heq
        by_cases e : name = other <;> simp [lookup, e]
      · rename_i hlt hne
        by_cases e : k = other
        · subst e
          simp [lookup, hne]
        · simp [lookup, e, ih hk.2]

@[simp] theorem get?_empty (name : String) : (empty : NameTable α).get? name = none := rfl

@[simp] theorem get?_insert (t : NameTable α) (name other : String) (value : α) :
    (t.insert name value).get? other = if name = other then some value else t.get? other :=
  lookup_place name other value t.ascending

/-- In an ascending list a pair is found under its own name. -/
theorem lookup_eq_some_iff {l : List (String × α)} (h : l.Pairwise (fun a b => a.1 < b.1))
    (name : String) (value : α) : lookup name l = some value ↔ (name, value) ∈ l := by
  induction l with
  | nil => simp [lookup]
  | cons q rest ih =>
    obtain ⟨k, v⟩ := q
    have hk := List.pairwise_cons.mp h
    by_cases e : k = name
    · subst e
      simp only [lookup, if_true, List.mem_cons, Prod.mk.injEq, true_and]
      constructor
      · intro hv
        exact .inl (Option.some.inj hv).symm
      · rintro (hv | hv)
        · rw [hv]
        · exact absurd (hk.1 _ hv) (String.lt_irrefl k)
    · have : ¬ name = k := fun h => e h.symm
      simp [lookup, e, this, ih hk.2]

theorem mem_entries_iff (t : NameTable α) (name : String) (value : α) :
    (name, value) ∈ t.entries ↔ t.get? name = some value :=
  (lookup_eq_some_iff t.ascending name value).symm

/-- Ascending lists with the same look-ups are equal. -/
theorem entries_ext {l m : List (String × α)} (hl : l.Pairwise (fun a b => a.1 < b.1))
    (hm : m.Pairwise (fun a b => a.1 < b.1)) (h : ∀ name, lookup name l = lookup name m) :
    l = m := by
  have sub : ∀ p, p ∈ l ↔ p ∈ m := fun p => by
    rw [← lookup_eq_some_iff hl, ← lookup_eq_some_iff hm, h]
  induction l generalizing m with
  | nil =>
    cases m with
    | nil => rfl
    | cons q _ => exact absurd ((sub q).mpr List.mem_cons_self) List.not_mem_nil
  | cons p rest ih =>
    cases m with
    | nil => exact absurd ((sub p).mp List.mem_cons_self) List.not_mem_nil
    | cons q more =>
      have hp := List.pairwise_cons.mp hl
      have hq := List.pairwise_cons.mp hm
      have first : p = q := by
        rcases List.mem_cons.mp ((sub p).mp List.mem_cons_self) with e | inMore
        · exact e
        · rcases List.mem_cons.mp ((sub q).mpr List.mem_cons_self) with e | inRest
          · exact e.symm
          · exact absurd (hp.1 q inRest) (String.lt_asymm (hq.1 p inMore))
      subst first
      have tails : ∀ r, r ∈ rest ↔ r ∈ more := fun r => by
        constructor
        · intro hr
          rcases List.mem_cons.mp ((sub r).mp (List.mem_cons_of_mem _ hr)) with e | hr'
          · exact absurd (e ▸ hp.1 r hr) (String.lt_irrefl _)
          · exact hr'
        · intro hr
          rcases List.mem_cons.mp ((sub r).mpr (List.mem_cons_of_mem _ hr)) with e | hr'
          · exact absurd (e ▸ hq.1 r hr) (String.lt_irrefl _)
          · exact hr'
      congr 1
      refine ih hp.2 hq.2 (fun name => ?_) tails
      cases found : lookup name rest with
      | some v =>
        exact ((lookup_eq_some_iff hq.2 name v).mpr
          ((tails _).mp ((lookup_eq_some_iff hp.2 name v).mp found))).symm
      | none =>
        cases other : lookup name more with
        | none => rfl
        | some v =>
          have := (lookup_eq_some_iff hp.2 name v).mpr
            ((tails _).mpr ((lookup_eq_some_iff hq.2 name v).mp other))
          rw [found] at this
          exact absurd this (by simp)

/-- Tables are equal when every name has the same value in both. -/
theorem ext_get? {s t : NameTable α} (h : ∀ name, s.get? name = t.get? name) : s = t := by
  have := entries_ext s.ascending t.ascending h
  cases s; cases t; cases this; rfl

end NameTable

end TelemetryControl
