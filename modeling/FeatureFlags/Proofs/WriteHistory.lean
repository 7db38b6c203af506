import FeatureFlags.Store
import Mathlib.Data.List.Induction
import Mathlib.Data.Nat.Notation

/-!
What a history of writes leaves in the store. The descriptors written under a key compete by their
versions, tombstones like any others, and what was stored before counts as the earliest of them: the
first of the highest version stands. So neither the order of the writes nor their repetition matters,
as long as a version of a key stands for one descriptor.
-/
namespace FeatureFlags

structure Write where
  kind : Kind
  key : String
  descriptor : Descriptor

namespace Descriptor

/-- Of descriptors in the order of their coming, the first of the highest version stands. -/
def Stands (offered : List Descriptor) : Option Descriptor → Prop
  | none => offered = []
  | some d => ∃ before after, offered = before ++ d :: after ∧
      (∀ e ∈ before, e.version < d.version) ∧ ∀ e ∈ after, e.version ≤ d.version

/-- What is stored after a write; a version that is as high keeps its place. -/
def keep (stored : Option Descriptor) (written : Descriptor) : Descriptor :=
  match stored with
  | some old => if old.version < written.version then written else old
  | none => written

variable {offered : List Descriptor} {stored : Option Descriptor} {d e : Descriptor}

theorem Stands.mem (h : Stands offered (some d)) : d ∈ offered := by
  obtain ⟨before, after, rfl, -, -⟩ := h
  exact List.mem_append_right before List.mem_cons_self

/-- No version that was offered is higher than the one that stands. -/
theorem Stands.version_le (h : Stands offered (some d)) (he : e ∈ offered) :
    e.version ≤ d.version := by
  obtain ⟨before, after, rfl, hbefore, hafter⟩ := h
  rcases List.mem_append.mp he with he | he
  · exact Nat.le_of_lt (hbefore e he)
  · rcases List.mem_cons.mp he with rfl | he
    · exact Nat.le_refl _
    · exact hafter e he

/-- The earliest stands unless another is of a higher version. -/
theorem Stands.eq_head {rest : List Descriptor} (h : Stands (e :: rest) (some d))
    (hversion : d.version ≤ e.version) : d = e := by
  obtain ⟨before, after, hsplit, hbefore, -⟩ := h
  cases before with
  | nil => exact (List.cons.inj hsplit).1.symm
  | cons first before =>
    obtain ⟨rfl, -⟩ := List.cons.inj hsplit
    have hlower : e.version < d.version := hbefore e List.mem_cons_self
    omega

/-- After one more write the first of the highest version still stands. -/
theorem Stands.concat (h : Stands offered stored) (written : Descriptor) :
    Stands (offered ++ [written]) (some (keep stored written)) := by
  cases stored with
  | none =>
    have hnothing : offered = [] := h
    subst hnothing
    refine ⟨[], [], rfl, ?_, ?_⟩ <;> exact fun e he => absurd he List.not_mem_nil
  | some old =>
    by_cases hhigher : old.version < written.version
    · rw [keep, if_pos hhigher]
      refine ⟨offered, [], rfl, fun e he => ?_, fun e he => absurd he List.not_mem_nil⟩
      exact Nat.lt_of_le_of_lt (h.version_le he) hhigher
    · rw [keep, if_neg hhigher]
      obtain ⟨before, after, rfl, hbefore, hafter⟩ := h
      refine ⟨before, after ++ [written], by simp, hbefore, fun e he => ?_⟩
      rcases List.mem_append.mp he with he | he
      · exact hafter e he
      · rw [List.mem_singleton.mp he]
        exact Nat.le_of_not_lt hhigher

/-- Over the same start, what is written decides as a set. -/
theorem Stands.unique {start stored' : Option Descriptor} {written written' : List Descriptor}
    (h : Stands (start.toList ++ written) stored) (h' : Stands (start.toList ++ written') stored')
    (hsame : ∀ d, d ∈ written ↔ d ∈ written')
    (hagree : ∀ d ∈ written, ∀ e ∈ written, d.version = e.version → d = e) : stored = stored' := by
  have hoffered : ∀ d, d ∈ start.toList ++ written ↔ d ∈ start.toList ++ written' := by
    intro d
    rw [List.mem_append, List.mem_append, hsame d]
  cases stored with
  | none =>
    cases stored' with
    | none => rfl
    | some d =>
      have hnothing : start.toList ++ written = [] := h
      have hmem := (hoffered d).mpr h'.mem
      rw [hnothing] at hmem
      exact absurd hmem List.not_mem_nil
  | some d =>
    cases stored' with
    | none =>
      have hnothing : start.toList ++ written' = [] := h'
      have hmem := (hoffered d).mp h.mem
      rw [hnothing] at hmem
      exact absurd hmem List.not_mem_nil
    | some d' =>
      have hversion : d.version = d'.version :=
        Nat.le_antisymm (h'.version_le ((hoffered d).mp h.mem))
          (h.version_le ((hoffered d').mpr h'.mem))
      congr 1
      -- What was there before holds its place in both or in neither.
      by_cases hstart : ∃ old, start = some old ∧ d.version ≤ old.version
      · obtain ⟨old, rfl, hold⟩ := hstart
        have hfirst : d = old := Stands.eq_head h hold
        have hsecond : d' = old := Stands.eq_head h' (hversion ▸ hold)
        rw [hfirst, hsecond]
      · have hwritten : ∀ {e : Descriptor} {list : List Descriptor}, e ∈ start.toList ++ list →
            e.version = d.version → e ∈ list := by
          intro e list he heq
          rcases List.mem_append.mp he with hold | hnew
          · exact absurd ⟨e, Option.mem_toList.mp hold, Nat.le_of_eq heq.symm⟩ hstart
          · exact hnew
        have hd : d ∈ written := hwritten h.mem rfl
        have hd' : d' ∈ written := (hsame d').mpr (hwritten h'.mem hversion.symm)
        exact hagree d hd d' hd' hversion

end Descriptor

namespace Store

def write (store : Store) (w : Write) : Store := (store.upsert w.kind w.key w.descriptor).1

def writeAll (store : Store) (writes : List Write) : Store := writes.foldl write store

def writtenTo (kind : Kind) (key : String) (writes : List Write) : List Descriptor :=
  (writes.filter fun w => w.kind = kind ∧ w.key = key).map (·.descriptor)

variable {store : Store} {kind : Kind} {key : String} {writes : List Write}

theorem mem_writtenTo {d : Descriptor} : d ∈ writtenTo kind key writes ↔ ⟨kind, key, d⟩ ∈ writes := by
  simp only [writtenTo, List.mem_map, List.mem_filter, decide_eq_true_eq]
  constructor
  · rintro ⟨⟨kind', key', d'⟩, ⟨hmem, rfl, rfl⟩, rfl⟩
    exact hmem
  · intro hmem
    exact ⟨⟨kind, key, d⟩, ⟨hmem, rfl, rfl⟩, rfl⟩

/-- A write touches its own key only. -/
theorem find?_write (w : Write) : (store.write w).data.find? kind key =
    if kind = w.kind ∧ key = w.key then
      some (Descriptor.keep (store.data.find? w.kind w.key) w.descriptor)
    else store.data.find? kind key := by
  unfold write upsert Dataset.upsert Descriptor.keep
  cases hold : store.data.find? w.kind w.key with
  | none => exact Dataset.find?_insert _ _ _ _ _ _
  | some old =>
    dsimp only
    by_cases hhigher : old.version < w.descriptor.version
    · rw [if_pos hhigher, if_pos hhigher]
      exact Dataset.find?_insert _ _ _ _ _ _
    · rw [if_neg hhigher, if_neg hhigher]
      split
      · next hhere =>
        obtain ⟨rfl, rfl⟩ := hhere
        exact hold
      · rfl

@[simp] theorem initialized_write (w : Write) : (store.write w).initialized = store.initialized := rfl

@[simp] theorem initialized_writeAll : (store.writeAll writes).initialized = store.initialized := by
  induction writes generalizing store with
  | nil => rfl
  | cons w rest ih => exact ih

/-- Under every key there stands what the history of the key decides. -/
theorem stands_writeAll (store : Store) (writes : List Write) (kind : Kind) (key : String) :
    Descriptor.Stands ((store.data.find? kind key).toList ++ writtenTo kind key writes)
      ((store.writeAll writes).data.find? kind key) := by
  induction writes using List.reverseRecOn with
  | nil =>
    change Descriptor.Stands ((store.data.find? kind key).toList ++ []) (store.data.find? kind key)
    cases store.data.find? kind key with
    | none => rfl
    | some d =>
      refine ⟨[], [], rfl, ?_, ?_⟩ <;> exact fun e he => absurd he List.not_mem_nil
  | append_singleton writes w ih =>
    have hlast : store.writeAll (writes ++ [w]) = (store.writeAll writes).write w :=
      List.foldl_append
    rw [hlast, find?_write]
    by_cases hhere : kind = w.kind ∧ key = w.key
    · obtain ⟨rfl, rfl⟩ := hhere
      have hwritten : writtenTo w.kind w.key (writes ++ [w]) =
          writtenTo w.kind w.key writes ++ [w.descriptor] := by
        simp [writtenTo]
      rw [if_pos ⟨rfl, rfl⟩, hwritten, ← List.append_assoc]
      exact ih.concat w.descriptor
    · have hwritten : writtenTo kind key (writes ++ [w]) = writtenTo kind key writes := by
        have helse : ¬ (w.kind = kind ∧ w.key = key) := fun h => hhere ⟨h.1.symm, h.2.symm⟩
        simp [writtenTo, helse]
      rw [if_neg hhere, hwritten]
      exact ih

/-- Stores that take the same writes, in any order and with any repetition, come to hold the same. -/
theorem writes_converge (store : Store) {first second : List Write}
    (hsame : ∀ w, w ∈ first ↔ w ∈ second)
    (hagree : ∀ w ∈ first, ∀ w' ∈ first, w.kind = w'.kind → w.key = w'.key →
      w.descriptor.version = w'.descriptor.version → w.descriptor = w'.descriptor) :
    store.writeAll first = store.writeAll second := by
  have hdata : (store.writeAll first).data = (store.writeAll second).data := by
    apply Dataset.ext_find?
    intro kind key
    refine (stands_writeAll store first kind key).unique (stands_writeAll store second kind key) ?_ ?_
    · intro d
      rw [mem_writtenTo, mem_writtenTo]
      exact hsame _
    · intro d hd e he hversion
      exact hagree _ (mem_writtenTo.mp hd) _ (mem_writtenTo.mp he) rfl rfl hversion
  have hinitialized :
      (store.writeAll first).initialized = (store.writeAll second).initialized := by
    rw [initialized_writeAll, initialized_writeAll]
  calc store.writeAll first = ⟨(store.writeAll first).data, (store.writeAll first).initialized⟩ := rfl
    _ = ⟨(store.writeAll second).data, (store.writeAll second).initialized⟩ := by
      rw [hdata, hinitialized]
    _ = store.writeAll second := rfl

def flagWrite (version : ℕ) : Write := ⟨.flags, "a", .ofItem (.flag { key := "a", version })⟩

def deletion : Write := ⟨.flags, "a", .tombstone 3⟩

/-- The deletion stands, whether the versions before it come in order or after it and twice. -/
theorem deletion_converges :
    let store : Store := ({} : Store).writeAll [flagWrite 1]
    let first := [flagWrite 1, flagWrite 2, deletion]
    let second := [deletion, flagWrite 2, flagWrite 1, deletion]
    (∀ w, w ∈ first ↔ w ∈ second) ∧
      (∀ w ∈ first, ∀ w' ∈ first, w.kind = w'.kind → w.key = w'.key →
        w.descriptor.version = w'.descriptor.version → w.descriptor = w'.descriptor) ∧
      store.writeAll first = store.writeAll second ∧
      (store.writeAll second).data.find? .flags "a" = some (.tombstone 3) := by
  intro store first second
  have hsame : ∀ w, w ∈ first ↔ w ∈ second := by
    intro w
    simp only [first, second, List.mem_cons, List.not_mem_nil, or_false]
    tauto
  have hagree : ∀ w ∈ first, ∀ w' ∈ first, w.kind = w'.kind → w.key = w'.key →
      w.descriptor.version = w'.descriptor.version → w.descriptor = w'.descriptor := by
    intro w hw w' hw' _ _ hversion
    simp only [first, List.mem_cons, List.not_mem_nil, or_false] at hw hw'
    rcases hw with rfl | rfl | rfl <;> rcases hw' with rfl | rfl | rfl <;>
      first | rfl | exact absurd hversion (by decide)
  exact ⟨hsame, hagree, store.writes_converge hsame hagree, rfl⟩

end Store

end FeatureFlags
