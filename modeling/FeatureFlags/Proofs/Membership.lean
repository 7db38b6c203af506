import FeatureFlags.Proofs.Verdicts
import Mathlib.Data.List.Perm.Subperm

/-!
Telling the members of a segment, and so choosing what a flag serves, always comes to an end. Each
segment that is entered is one more key that is open, and there are no more keys than live segments.
What comes out depends on the open segments alone, and all that is left behind is what was hashed.
-/
namespace FeatureFlags

namespace Evaluation

variable {α β : Type}

def Settled (m : Evaluation α) (opened : List String) : Prop :=
  ∃ answer texts, Settles m opened answer texts

variable {opened : List String}

theorem settled_pure (answer : α) : Settled (pure answer) opened := ⟨answer, gives_pure answer⟩

theorem Settled.bind {m : Evaluation α} {f : α → Evaluation β} (hm : Settled m opened)
    (hf : ∀ answer, Settled (f answer) opened) : Settled (m >>= f) opened := by
  obtain ⟨first, hfirst⟩ := hm
  obtain ⟨second, hsecond⟩ := hf first
  exact ⟨second, Gives.bind hfirst hsecond⟩

/-- What is put together from settled steps is settled. -/
theorem settled_isLogical (opened : List String) : IsLogical fun _ m _ => Settled m opened :=
  ⟨settled_pure, Settled.bind⟩

end Evaluation

open Evaluation

variable {setting : Setting} {opened : List String}

theorem Setting.settled_bucket (key salt : String) (bucketBy : Option String) :
    Settled (setting.bucket key salt bucketBy) opened := ⟨_, Setting.bucket_gives key salt bucketBy⟩

/-- A segment that is settled has the members that evaluation tells. -/
theorem Segment.gives_belongs {depth : ℕ} {segment : Segment}
    (h : Settled (segment.contains setting depth) opened) :
    Gives (segment.contains setting depth) opened (segment.belongs setting depth opened) := by
  obtain ⟨answer, hgives⟩ := h
  rw [belongs_eq hgives]
  exact hgives

/-- How many of the keys are not open. -/
def closedCount (keys opened : List String) : ℕ := (keys.filter (· ∉ opened)).length

theorem closedCount_le (keys opened : List String) : closedCount keys opened ≤ keys.length :=
  List.length_filter_le _ keys

/-- Opening a segment leaves fewer that are not open. -/
theorem closedCount_cons_lt {keys : List String} {key : String} (hmem : key ∈ keys)
    (hclosed : key ∉ opened) : closedCount keys (key :: opened) < closedCount keys opened := by
  have hfilter : keys.filter (· ∉ key :: opened) =
      (keys.filter (· ∉ opened)).filter (· ≠ key) := by
    rw [List.filter_filter]
    congr
    funext other
    simp [not_or]
  have hkey : key ∈ keys.filter (· ∉ opened) := List.mem_filter.mpr ⟨hmem, by simpa using hclosed⟩
  unfold closedCount
  rw [hfilter]
  exact List.length_filter_lt_length_iff_exists.mpr ⟨key, hkey, by simp⟩

theorem closedCount_add_length_le {keys : List String} (hnodup : opened.Nodup)
    (hsub : opened ⊆ keys) : closedCount keys opened + opened.length ≤ keys.length := by
  have hopen : opened.length ≤ (keys.filter (· ∈ opened)).length :=
    (hnodup.subperm fun key hkey => List.mem_filter.mpr ⟨hsub hkey, by simpa using hkey⟩).length_le
  have hsplit := List.length_eq_length_filter_add (l := keys) fun key => decide (key ∈ opened)
  unfold closedCount
  simp only [decide_not]
  omega

/-- The depth suffices if it exceeds the number of keys that are not open yet. -/
theorem Segment.settled_contains_of_closedCount_lt {keys : List String}
    (hkeys : ∀ key segment, setting.catalog.segment? key = some segment → segment.key ∈ keys)
    (depth : ℕ) {segment : Segment} (hmem : segment.key ∈ keys)
    (hdepth : closedCount keys opened < depth) :
    Settled (segment.contains setting depth) opened := by
  induction depth generalizing opened segment with
  | zero => exact absurd hdepth (Nat.not_lt_zero _)
  | succ depth ih =>
    by_cases hopen : segment.key ∈ opened
    · exact ⟨_, contains_gives_of_open hopen⟩
    · -- One more key is open inside, so one less depth is needed there.
      have hfewer := closedCount_cons_lt hmem hopen
      have hinside : ∀ key other, setting.catalog.segment? key = some other →
          Settled (other.contains setting depth) (segment.key :: opened) :=
        fun key other hother => ih (hkeys key other hother) (by omega)
      exact ⟨_, contains_gives hopen fun key other hother =>
        gives_belongs (hinside key other hother)⟩

/-- With depth for the segments that are not open, membership is always settled: each step opens one
more. -/
theorem Segment.settled_contains {keys : List String}
    (hkeys : ∀ key segment, setting.catalog.segment? key = some segment → segment.key ∈ keys)
    (depth : ℕ) {segment : Segment} (hmem : segment.key ∈ keys) (hnodup : opened.Nodup)
    (hsub : opened ⊆ keys) (hdepth : keys.length < depth + opened.length) :
    Settled (segment.contains setting depth) opened := by
  have hclosed := closedCount_add_length_le hnodup hsub
  exact settled_contains_of_closedCount_lt hkeys depth hmem (by omega)

section

variable {keys : List String} {depth : ℕ} (hkeys : ∀ key segment,
  setting.catalog.segment? key = some segment → segment.key ∈ keys) (hdepth : keys.length < depth)

include hkeys hdepth

/-- Whatever is open, every segment that is found is told. -/
theorem Segment.settled_contains_of_found (key : String) (segment : Segment)
    (hfound : setting.catalog.segment? key = some segment) :
    Settled (segment.contains setting depth) opened :=
  settled_contains_of_closedCount_lt hkeys depth (hkeys key segment hfound)
    (Nat.lt_of_le_of_lt (closedCount_le keys opened) hdepth)

theorem Flag.settled_serveMet (flag : Flag) : Settled (flag.serveMet setting depth) opened := by
  have hagree : setting.AgreeOn setting fun _ => True := setting.agreeOn_recording setting.recording
  exact Flag.serveMet_related (settled_isLogical opened) hagree Setting.settled_bucket depth depth
    trivial fun key _ => Segment.settled_contains_of_found hkeys hdepth key

end

end FeatureFlags
