/-!
Finite tables by name. A table lists its entries in strictly increasing order of their names, so
two tables that answer every lookup alike are the same table.
-/
namespace FeatureFlags

universe u v

namespace Entries

variable {α : Type u} {β : Type v}

/-- Every name is below all names after it. -/
def Ordered (entries : List (String × α)) : Prop :=
  entries.Pairwise (fun first second => first.1 < second.1)

instance (entries : List (String × α)) : Decidable (Ordered entries) :=
  inferInstanceAs (Decidable (entries.Pairwise (fun first second => first.1 < second.1)))

def get? (name : String) : List (String × α) → Option α
  | [] => none
  | (n, value) :: rest => if name = n then some value else get? name rest

def insert (name : String) (value : α) : List (String × α) → List (String × α)
  | [] => [(name, value)]
  | (n, old) :: rest =>
      if name < n then (name, value) :: (n, old) :: rest
      else if name = n then (name, value) :: rest
      else (n, old) :: insert name value rest

/-- The last entry of a name stands. -/
def ofList (entries : List (String × α)) : List (String × α) :=
  entries.foldl (fun table entry => insert entry.1 entry.2 table) []

/-- Binding a name changes no other. -/
theorem get?_insert (entries : List (String × α)) (name other : String) (value : α) :
    get? other (insert name value entries) =
      if other = name then some value else get? other entries := by
  induction entries with
  | nil => simp [insert, get?]
  | cons head rest ih =>
    obtain ⟨n, old⟩ := head
    unfold insert
    split
    · simp [get?]
    · split
      · next h => subst h; by_cases h' : other = name <;> simp [get?, h']
      · next hlt hne =>
        simp only [get?, ih]
        by_cases h' : other = n
        · subst h'
          simp [Ne.symm hne]
        · simp [h']

theorem mem_insert {entries : List (String × α)} {name : String} {value : α}
    {entry : String × α} (h : entry ∈ insert name value entries) :
    entry = (name, value) ∨ entry ∈ entries := by
  induction entries with
  | nil => simpa [insert] using h
  | cons head rest ih =>
    obtain ⟨n, old⟩ := head
    unfold insert at h
    split at h
    · simpa using h
    · split at h
      · rcases List.mem_cons.1 h with h | h
        · exact .inl h
        · exact .inr (List.mem_cons_of_mem _ h)
      · rcases List.mem_cons.1 h with h | h
        · exact .inr (h ▸ List.mem_cons_self)
        · rcases ih h with h | h
          · exact .inl h
          · exact .inr (List.mem_cons_of_mem _ h)

theorem insert_ordered {entries : List (String × α)} (ordered : Ordered entries)
    (name : String) (value : α) : Ordered (insert name value entries) := by
  induction entries with
  | nil => simp [insert, Ordered]
  | cons head rest ih =>
    obtain ⟨n, old⟩ := head
    have ⟨above, tail⟩ := List.pairwise_cons.1 ordered
    unfold insert
    split
    · next hlt =>
      refine List.pairwise_cons.2 ⟨fun entry mem => ?_, ordered⟩
      rcases List.mem_cons.1 mem with rfl | mem
      · exact hlt
      · exact String.lt_trans hlt (above entry mem)
    · split
      · next heq => subst heq; exact List.pairwise_cons.2 ⟨above, tail⟩
      · next hlt hne =>
        refine List.pairwise_cons.2 ⟨fun entry mem => ?_, ih tail⟩
        rcases mem_insert mem with rfl | mem
        · rcases String.le_total n name with hle | hle
          · exact Decidable.byContradiction fun hnot =>
              hne (String.le_antisymm (String.not_lt.1 hnot) hle)
          · exact absurd (String.le_antisymm hle (String.not_lt.1 hlt)) hne
        · exact above entry mem

theorem ofList_ordered (entries : List (String × α)) : Ordered (ofList entries) := by
  suffices h : ∀ table : List (String × α), Ordered table →
      Ordered (entries.foldl (fun table entry => insert entry.1 entry.2 table) table) from
    h [] List.Pairwise.nil
  induction entries with
  | nil => exact fun _ ordered => ordered
  | cons entry rest ih => exact fun _ ordered => ih _ (insert_ordered ordered entry.1 entry.2)

theorem get?_eq_none_of_forall_lt {entries : List (String × α)} {name : String}
    (above : ∀ entry ∈ entries, name < entry.1) : get? name entries = none := by
  induction entries with
  | nil => rfl
  | cons head rest ih =>
    have hne : name ≠ head.1 := fun h =>
      String.lt_irrefl name (by simpa [← h] using above head List.mem_cons_self)
    simp [get?, hne, ih fun entry mem => above entry (List.mem_cons_of_mem _ mem)]

/-- In a table in order every entry is found by its name. -/
theorem get?_of_mem {entries : List (String × α)} (ordered : Ordered entries) {name : String}
    {value : α} (mem : (name, value) ∈ entries) : get? name entries = some value := by
  induction entries with
  | nil => simp at mem
  | cons head rest ih =>
    obtain ⟨n, old⟩ := head
    have ⟨above, tail⟩ := List.pairwise_cons.1 ordered
    rcases List.mem_cons.1 mem with h | h
    · cases h; simp [get?]
    · have hlt : n < name := above _ h
      have hne : name ≠ n := fun heq => String.lt_irrefl n (heq ▸ hlt)
      simp [get?, hne, ih tail h]

/-- Entries in order are a table as they stand. -/
theorem get?_ofList {entries : List (String × α)} (ordered : Ordered entries) (name : String) :
    get? name (ofList entries) = get? name entries := by
  suffices h : ∀ table : List (String × α),
      get? name (entries.foldl (fun table entry => insert entry.1 entry.2 table) table) =
        (get? name entries).or (get? name table) from
    (h []).trans (Option.or_none)
  induction entries with
  | nil => exact fun _ => rfl
  | cons head rest ih =>
    obtain ⟨n, value⟩ := head
    have ⟨above, tail⟩ := List.pairwise_cons.1 ordered
    intro table
    rw [List.foldl_cons, ih tail, get?_insert, get?]
    by_cases h : name = n
    · subst h
      simp [get?_eq_none_of_forall_lt above]
    · simp [h]

theorem filterMap_ordered {entries : List (String × α)} (ordered : Ordered entries)
    (f : α → Option β) :
    Ordered (entries.filterMap fun entry => (f entry.2).map (entry.1, ·)) := by
  refine List.Pairwise.filterMap _ (fun first second hlt found hfound found' hfound' => ?_) ordered
  obtain ⟨_, _, rfl⟩ := Option.map_eq_some_iff.1 hfound
  obtain ⟨_, _, rfl⟩ := Option.map_eq_some_iff.1 hfound'
  exact hlt

theorem get?_filterMap {entries : List (String × α)} (ordered : Ordered entries)
    (f : α → Option β) (name : String) :
    get? name (entries.filterMap fun entry => (f entry.2).map (entry.1, ·)) =
      (get? name entries).bind f := by
  induction entries with
  | nil => rfl
  | cons head rest ih =>
    obtain ⟨n, value⟩ := head
    have ⟨above, tail⟩ := List.pairwise_cons.1 ordered
    have hrest := ih tail
    by_cases h : name = n
    · subst h
      rw [get?_eq_none_of_forall_lt above] at hrest
      cases hvalue : f value <;> simp [get?, hvalue, hrest]
    · cases hvalue : f value <;> simp [get?, hvalue, h, hrest]

theorem mem_of_get? {entries : List (String × α)} {name : String} {value : α}
    (h : get? name entries = some value) : (name, value) ∈ entries := by
  induction entries with
  | nil => simp [get?] at h
  | cons head rest ih =>
    obtain ⟨n, old⟩ := head
    unfold get? at h
    split at h
    · next heq => cases h; exact heq ▸ List.mem_cons_self
    · exact List.mem_cons_of_mem _ (ih h)

theorem ext {first second : List (String × α)} (ordered₁ : Ordered first)
    (ordered₂ : Ordered second) (same : ∀ name, get? name first = get? name second) :
    first = second := by
  induction first generalizing second with
  | nil =>
    cases second with
    | nil => rfl
    | cons head rest => simpa [get?] using same head.1
  | cons head rest ih =>
    obtain ⟨n, value⟩ := head
    cases second with
    | nil => simpa [get?] using same n
    | cons head' rest' =>
      obtain ⟨n', value'⟩ := head'
      have ⟨above, tail⟩ := List.pairwise_cons.1 ordered₁
      have ⟨above', tail'⟩ := List.pairwise_cons.1 ordered₂
      have names : n = n' := by
        refine Decidable.byContradiction fun hne => ?_
        rcases String.le_total n n' with hle | hle
        · have hlt : n < n' := Decidable.byContradiction fun h =>
            hne (String.le_antisymm hle (String.not_lt.1 h))
          have hnone : get? n rest' = none := get?_eq_none_of_forall_lt fun entry mem =>
            String.lt_trans hlt (above' entry mem)
          simpa [get?, hne, hnone] using same n
        · have hlt : n' < n := Decidable.byContradiction fun h =>
            hne (String.le_antisymm (String.not_lt.1 h) hle)
          have hnone : get? n' rest = none := get?_eq_none_of_forall_lt fun entry mem =>
            String.lt_trans hlt (above entry mem)
          simpa [get?, Ne.symm hne, hnone] using same n'
      subst names
      have values : value = value' := by simpa [get?] using same n
      subst values
      congr 1
      refine ih tail tail' fun name => ?_
      by_cases h : name = n
      · subst h
        rw [get?_eq_none_of_forall_lt above, get?_eq_none_of_forall_lt above']
      · simpa [get?, h] using same name

end Entries

structure Keyed (α : Type u) where
  entries : List (String × α)
  ordered : Entries.Ordered entries
  deriving DecidableEq

namespace Keyed

variable {α : Type u} {β : Type v}

def empty : Keyed α := ⟨[], List.Pairwise.nil⟩

instance : EmptyCollection (Keyed α) := ⟨empty⟩

instance : Inhabited (Keyed α) := ⟨empty⟩

def get? (table : Keyed α) (name : String) : Option α := Entries.get? name table.entries

def insert (table : Keyed α) (name : String) (value : α) : Keyed α :=
  ⟨Entries.insert name value table.entries, Entries.insert_ordered table.ordered name value⟩

/-- The last entry of a name stands. -/
def ofList (entries : List (String × α)) : Keyed α :=
  ⟨Entries.ofList entries, Entries.ofList_ordered entries⟩

def toList (table : Keyed α) : List (String × α) := table.entries

def size (table : Keyed α) : Nat := table.entries.length

def map (f : α → β) (table : Keyed α) : Keyed β :=
  ⟨table.entries.map (fun entry => (entry.1, f entry.2)), by
    simpa [Entries.Ordered, List.pairwise_map] using table.ordered⟩

def filterMap (f : α → Option β) (table : Keyed α) : Keyed β :=
  ofList (table.entries.filterMap (fun entry => (f entry.2).map (entry.1, ·)))

@[simp] theorem get?_empty (name : String) : (empty : Keyed α).get? name = none := rfl

@[simp] theorem get?_insert (table : Keyed α) (name other : String) (value : α) :
    (table.insert name value).get? other = if other = name then some value else table.get? other :=
  Entries.get?_insert table.entries name other value

@[simp] theorem get?_map (f : α → β) (table : Keyed α) (name : String) :
    (table.map f).get? name = (table.get? name).map f := by
  obtain ⟨entries, ordered⟩ := table
  simp only [get?, map]
  clear ordered
  induction entries with
  | nil => rfl
  | cons entry rest ih =>
    simp only [List.map_cons, Entries.get?]
    split
    · rfl
    · exact ih

@[simp] theorem get?_filterMap (f : α → Option β) (table : Keyed α) (name : String) :
    (table.filterMap f).get? name = (table.get? name).bind f := by
  have ordered := Entries.filterMap_ordered table.ordered f
  exact (Entries.get?_ofList ordered name).trans (Entries.get?_filterMap table.ordered f name)

theorem get?_eq_some_iff {table : Keyed α} {name : String} {value : α} :
    table.get? name = some value ↔ (name, value) ∈ table.toList :=
  ⟨Entries.mem_of_get?, Entries.get?_of_mem table.ordered⟩

/-- A table is what its lookups are. -/
theorem ext_get? {first second : Keyed α} (same : ∀ name, first.get? name = second.get? name) :
    first = second := by
  obtain ⟨entries₁, ordered₁⟩ := first
  obtain ⟨entries₂, ordered₂⟩ := second
  have : entries₁ = entries₂ := Entries.ext ordered₁ ordered₂ same
  subst this
  rfl

end Keyed

end FeatureFlags
