import FeatureFlags.Proofs.WriteHistory

/-!
What a history of whole datasets and single writes leaves in the store. A whole dataset begins every
key anew, with the entry it has for it; the writes after that compete with the entry and with each
other. A deletion therefore stands until a higher version comes, or another whole dataset.
-/
namespace FeatureFlags

namespace Store

inductive Operation where
  | init (data : Dataset)
  | upsert (write : Write)

def perform (store : Store) : Operation → Store
  | .init data => store.init data
  | .upsert w => store.write w

def performAll (store : Store) (history : List Operation) : Store := history.foldl perform store

/-- The last whole dataset of a history. -/
def lastInit? (history : List Operation) : Option Dataset :=
  history.foldl (fun last operation =>
    match operation with
    | .init data => some data
    | .upsert _ => last) none

/-- The writes after the last whole dataset, or all writes if there is none. -/
def writesSince (history : List Operation) : List Write :=
  history.foldl (fun writes operation =>
    match operation with
    | .init _ => []
    | .upsert w => writes ++ [w]) []

/-- The descriptors that compete for a key: the entry of the last whole dataset, and what was
written to the key since. -/
def offeredTo (kind : Kind) (key : String) (history : List Operation) : List Descriptor :=
  ((lastInit? history).bind (·.find? kind key)).toList ++ writtenTo kind key (writesSince history)

/-- A store that has the last whole dataset, if there is one, and nothing else. -/
def ofLast : Option Dataset → Store
  | some data => ⟨data, true⟩
  | none => {}

/-- Only the last whole dataset is there at first. -/
theorem find?_ofLast (last : Option Dataset) (kind : Kind) (key : String) :
    (ofLast last).data.find? kind key = last.bind (·.find? kind key) := by
  cases last with
  | none => cases kind <;> rfl
  | some data => rfl

theorem lastInit?_eq_none_iff (history : List Operation) :
    lastInit? history = none ↔ ∀ data, Operation.init data ∉ history := by
  induction history using List.reverseRecOn with
  | nil => simp [lastInit?]
  | append_singleton earlier operation ih =>
    cases operation with
    | init data =>
      simp only [lastInit?, List.foldl_append, List.foldl_cons, List.foldl_nil, reduceCtorEq,
        false_iff, not_forall, not_not]
      exact ⟨data, List.mem_append_right _ (List.mem_singleton.mpr rfl)⟩
    | upsert w =>
      have hlast : lastInit? (earlier ++ [.upsert w]) = lastInit? earlier := List.foldl_append
      simp [hlast, ih]

/-- What was before the last whole dataset does not count. -/
theorem performAll_eq_writeAll (history : List Operation) :
    ({} : Store).performAll history =
      (ofLast (lastInit? history)).writeAll (writesSince history) := by
  induction history using List.reverseRecOn with
  | nil => rfl
  | append_singleton earlier operation ih =>
    have hlast : ({} : Store).performAll (earlier ++ [operation]) =
        (({} : Store).performAll earlier).perform operation := List.foldl_append
    rw [hlast, ih]
    cases operation with
    | init data =>
      simp [perform, init, lastInit?, writesSince, ofLast, writeAll]
    | upsert w =>
      simp [perform, lastInit?, writesSince, writeAll]

variable {store : Store} {kind : Kind} {key : String} {descriptor : Descriptor}

/-- A write counts if it is of a higher version than what is stored, and otherwise changes
nothing. -/
theorem upsert_cases (store : Store) (kind : Kind) (key : String) (descriptor : Descriptor) :
    ((store.upsert kind key descriptor).2 = true ∧
        ∀ old, store.data.find? kind key = some old → old.version < descriptor.version) ∨
      (store.upsert kind key descriptor = (store, false) ∧
        ∃ old, store.data.find? kind key = some old ∧ descriptor.version ≤ old.version) := by
  unfold upsert Dataset.upsert
  cases store.data.find? kind key with
  | none => exact Or.inl ⟨rfl, fun old hold => by cases hold⟩
  | some old =>
    by_cases hhigher : old.version < descriptor.version
    · refine Or.inl ⟨by simp [hhigher], fun other hother => ?_⟩
      cases hother
      exact hhigher
    · exact Or.inr ⟨by simp [hhigher], old, rfl, Nat.le_of_not_lt hhigher⟩

/-- Where the first of the highest version is stored, a write has to be higher than all that were
offered. -/
theorem upsert_snd_eq_true_iff {offered : List Descriptor}
    (hstands : Descriptor.Stands offered (store.data.find? kind key)) :
    (store.upsert kind key descriptor).2 = true ↔ ∀ d ∈ offered, d.version < descriptor.version := by
  rcases upsert_cases store kind key descriptor with ⟨happlied, hhigher⟩ | ⟨hrefused, old, hold, hle⟩
  · refine iff_of_true happlied fun d hd => ?_
    cases hstored : store.data.find? kind key with
    | none =>
      have hnothing : offered = [] := by rwa [hstored] at hstands
      simp [hnothing] at hd
    | some old =>
      rw [hstored] at hstands
      exact Nat.lt_of_le_of_lt (hstands.version_le hd) (hhigher old hstored)
  · refine iff_of_false (by simp [hrefused]) fun hall => ?_
    rw [hold] at hstands
    exact Nat.not_lt_of_le hle (hall old hstands.mem)

/-- An item can be read if its descriptor is no tombstone. -/
theorem get?_eq_some_iff (store : Store) (kind : Kind) (key : String) (item : Item) :
    store.get? kind key = some item ↔
      ∃ version, store.data.find? kind key = some ⟨version, some item⟩ := by
  unfold get? Dataset.item?
  constructor
  · intro h
    obtain ⟨⟨version, _⟩, hfound, rfl⟩ := Option.bind_eq_some_iff.mp h
    exact ⟨version, hfound⟩
  · rintro ⟨version, hfound⟩
    simp [hfound]

theorem get?_all (store : Store) (kind : Kind) (key : String) :
    (store.all kind).get? key = store.get? kind key := Dataset.get?_items _ _ _

/-- What is stored under a key is never replaced by a lower version. -/
theorem version_le_of_writeAll {old : Descriptor} (hold : store.data.find? kind key = some old)
    (later : List Write) :
    ∃ d, (store.writeAll later).data.find? kind key = some d ∧ old.version ≤ d.version := by
  have hstands := stands_writeAll store later kind key
  have hmem : old ∈ (store.data.find? kind key).toList ++ writtenTo kind key later :=
    List.mem_append_left _ (by simp [hold])
  cases hstored : (store.writeAll later).data.find? kind key with
  | none =>
    rw [hstored] at hstands
    have hnothing : (store.data.find? kind key).toList ++ writtenTo kind key later = [] := hstands
    simp [hnothing] at hmem
  | some d =>
    rw [hstored] at hstands
    exact ⟨d, rfl, hstands.version_le hmem⟩

/-- What a version replaced, it replaced for good: no write that is as low as it counts later. -/
theorem write_of_version_le {old : Descriptor} (hold : store.data.find? kind key = some old)
    (later : List Write) (hlow : descriptor.version ≤ old.version) :
    (store.writeAll later).write ⟨kind, key, descriptor⟩ = store.writeAll later := by
  obtain ⟨d, hd, hversion⟩ := version_le_of_writeAll hold later
  rcases upsert_cases (store.writeAll later) kind key descriptor with ⟨-, hhigher⟩ | ⟨hrefused, -⟩
  · have hlower := hhigher d hd
    omega
  · exact congrArg Prod.fst hrefused

/-- As long as nothing of a higher version comes, what is stored stays. -/
theorem find?_writeAll_of_version_le {old : Descriptor}
    (hold : store.data.find? kind key = some old) {later : List Write}
    (hlow : ∀ w ∈ later, w.kind = kind → w.key = key → w.descriptor.version ≤ old.version) :
    (store.writeAll later).data.find? kind key = some old := by
  have hstands := stands_writeAll store later kind key
  obtain ⟨d, hd, -⟩ := version_le_of_writeAll hold later
  rw [hold, hd] at hstands
  rw [hd]
  congr 1
  refine Descriptor.Stands.eq_head hstands ?_
  rcases List.mem_append.mp hstands.mem with hmem | hmem
  · exact Nat.le_of_eq (congrArg _ (List.mem_singleton.mp hmem))
  · exact hlow _ (mem_writtenTo.mp hmem) rfl rfl

/-- The history of a key decides what is stored under it, what a further write does, and what is
live; a deletion is not undone by versions that are not higher. -/
theorem history_decides (history : List Operation) (kind : Kind) (key : String) :
    let store := ({} : Store).performAll history
    let offered := offeredTo kind key history
    Descriptor.Stands offered (store.data.find? kind key) ∧
      (∀ descriptor, (store.upsert kind key descriptor).2 = true ↔
        ∀ d ∈ offered, d.version < descriptor.version) ∧
      (∀ item, store.get? kind key = some item ↔
        ∃ version, store.data.find? kind key = some ⟨version, some item⟩) ∧
      (store.all kind).get? key = store.get? kind key ∧
      store.snapshot.item? kind key = store.get? kind key ∧
      (∀ version, store.data.find? kind key = some (.tombstone version) →
        (∀ later descriptor, descriptor.version ≤ version →
          (store.writeAll later).write ⟨kind, key, descriptor⟩ = store.writeAll later) ∧
        ∀ later : List Write,
          (∀ w ∈ later, w.kind = kind → w.key = key → w.descriptor.version ≤ version) →
          (store.writeAll later).get? kind key = none) ∧
      (store.initialized = true ↔ ∃ data, .init data ∈ history) := by
  intro store offered
  -- Up to the last whole dataset the history is forgotten, and the rest is a list of writes.
  have hstore : store = (ofLast (lastInit? history)).writeAll (writesSince history) :=
    performAll_eq_writeAll history
  have hstands : Descriptor.Stands offered (store.data.find? kind key) := by
    have h := stands_writeAll (ofLast (lastInit? history)) (writesSince history) kind key
    rwa [find?_ofLast, ← hstore] at h
  refine ⟨hstands, fun descriptor => upsert_snd_eq_true_iff hstands, get?_eq_some_iff store kind key,
    get?_all store kind key, rfl, ?_, ?_⟩
  · intro version hdeleted
    refine ⟨fun later descriptor hlow => write_of_version_le hdeleted later hlow,
      fun later hlow => ?_⟩
    have hstill := find?_writeAll_of_version_le hdeleted hlow
    simp [get?, Dataset.item?, hstill, Descriptor.tombstone]
  · rw [hstore, initialized_writeAll]
    have hnone := lastInit?_eq_none_iff history
    cases hlast : lastInit? history with
    | none => simpa [ofLast] using hnone.mp hlast
    | some data => simpa [ofLast, hlast] using hnone

def untilDeleted : List Operation :=
  let definitions : Definitions := { flags := .ofList [("a", { key := "a", version := 1 })] }
  [.upsert (flagWrite 5), .init (.ofDefinitions definitions), .upsert (flagWrite 2), .upsert deletion]

/-- The second version comes again and the third one late, and the flag stays deleted. -/
theorem deletion_stands :
    let store := ({} : Store).performAll untilDeleted
    let late := [flagWrite 2, flagWrite 3]
    store.data.find? .flags "a" = some (.tombstone 3) ∧
      (∀ w ∈ late, w.kind = .flags → w.key = "a" → w.descriptor.version ≤ 3) ∧
      (store.upsert .flags "a" (flagWrite 3).descriptor).2 = false ∧
      (store.writeAll late).get? .flags "a" = none := by
  intro store late
  obtain ⟨-, happlied, -, -, -, hdeletion, -⟩ := history_decides untilDeleted .flags "a"
  have hdeleted : store.data.find? .flags "a" = some (.tombstone 3) := rfl
  have hlate : ∀ w ∈ late, w.kind = .flags → w.key = "a" → w.descriptor.version ≤ 3 := by
    intro w hw _ _
    simp only [late, List.mem_cons, List.not_mem_nil, or_false] at hw
    rcases hw with rfl | rfl <;> decide
  have hoffered : .tombstone 3 ∈ offeredTo .flags "a" untilDeleted := by
    simp [offeredTo, untilDeleted, lastInit?, writesSince, writtenTo, deletion, flagWrite]
  refine ⟨hdeleted, hlate, ?_, (hdeletion 3 hdeleted).2 late hlate⟩
  rw [← Bool.not_eq_true, happlied]
  exact fun hall => absurd (hall _ hoffered) (by decide)

end Store

end FeatureFlags
