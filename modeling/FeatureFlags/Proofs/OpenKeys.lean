import FeatureFlags.Proofs.Cycles

/-!
What is open after a call. Telling the members of a segment, and telling whether a clause matches,
leave the same segments and flags open as before and find no prerequisite open, in every catalog and
from every trail. Evaluating a flag that is not open does so too where flags are stored under their
own keys, whether or not a prerequisite is missing, fails or is found open on the way. So nothing
that is looked at later takes for open what is not.
-/
namespace FeatureFlags

open Evaluation

/-- The same segments and the same flags are open. -/
structure Trail.SameOpen (t u : Trail) : Prop where
  openSegments : u.openSegments = t.openSegments
  openFlags : u.openFlags = t.openFlags

/-- What only hashes opens nothing. -/
theorem Evaluation.OnlyHashes.sameOpen {α : Type} {m : Evaluation α} (hm : OnlyHashes m)
    {t u : Trail} {answer : α} (h : m t = some (answer, u)) : t.SameOpen u ∧ u.cycle = t.cycle := by
  obtain ⟨texts, rfl⟩ := hm h
  exact ⟨⟨rfl, rfl⟩, rfl⟩

namespace Dataset

variable {data : Dataset} {bucketer : Bucketer} {subject : Subject} {recording : Bool}

/-- Whatever is open besides, a flag that is not open is evaluated to an end. -/
theorem exists_evaluate_from (hself : data.catalog.SelfKeyed) {flag : Flag} {t : Trail}
    (hclosed : flag.key ∉ t.openFlags) : ∃ depth detail u,
      flag.evaluate (data.setting bucketer subject recording) depth t = some (detail, u) := by
  have hkeys : ∀ key other, data.catalog.flag? key = some other →
      other.key ∈ flag.key :: data.liveFlags.map Flag.key :=
    fun key other hfound => List.mem_cons_of_mem _ (List.mem_map_of_mem (mem_liveFlags hfound))
  exact ⟨_, Flag.exists_evaluate hself data.catalog_within hkeys List.mem_cons_self hclosed le_rfl⟩

/-- Whenever a call about a segment or a clause returns, the same keys are open and no prerequisite
was found open. With flags under their own keys, the evaluation of a flag that is not open returns,
and whenever it does the same keys are open. -/
theorem same_keys_open_after :
    (∀ (setting : Setting) (depth : ℕ) (segment : Segment) (t u : Trail) (answer : Bool),
      segment.contains setting depth t = some (answer, u) → t.SameOpen u ∧ u.cycle = t.cycle) ∧
    (∀ (setting : Setting) (depth : ℕ) (clause : Clause) (t u : Trail) (answer : Bool),
      clause.applies setting (Segment.contains setting depth) t = some (answer, u) →
        t.SameOpen u ∧ u.cycle = t.cycle) ∧
    ∀ (data : Dataset) (bucketer : Bucketer) (subject : Subject) (recording : Bool) (flag : Flag)
      (t : Trail), data.catalog.SelfKeyed → flag.key ∉ t.openFlags →
        (∃ depth detail u,
          flag.evaluate (data.setting bucketer subject recording) depth t = some (detail, u)) ∧
        ∀ depth detail u,
          flag.evaluate (data.setting bucketer subject recording) depth t = some (detail, u) →
            t.SameOpen u := by
  refine ⟨fun setting depth segment t u answer h => ?_, fun setting depth clause t u answer h => ?_,
    fun data bucketer subject recording flag t hself hclosed => ⟨?_, fun depth detail u h => ?_⟩⟩
  · exact (segment.contains_onlyHashes depth).sameOpen h
  · exact (clause.applies_onlyHashes fun segment => segment.contains_onlyHashes depth).sameOpen h
  · exact exists_evaluate_from hself hclosed
  · obtain ⟨hflags, hsegments⟩ := Flag.evaluate_frame hself hclosed h
    exact ⟨hsegments, hflags⟩

/-- The way from `a` leads back to `a`, so every prerequisite on it fails; what was open before is
open after it, and nothing else. -/
theorem eachOther_same_keys_open :
    let before : Trail := { openFlags := ["c"], openSegments := ["beta"] }
    eachOther.catalog.SelfKeyed ∧ "a" ∉ before.openFlags ∧
      ∃ detail after, (requiring "a" "b").evaluate
          (eachOther.setting Murmur3.bucketer { key := "alice" } true) 3 before =
        some (detail, after) ∧ after.cycle = true ∧ before.SameOpen after := by
  intro before
  have hclosed : (requiring "a" "b").key ∉ before.openFlags := by decide
  obtain ⟨-, hleft⟩ := same_keys_open_after.2.2 eachOther Murmur3.bucketer { key := "alice" } true
    (requiring "a" "b") before eachOther_selfKeyed hclosed
  exact ⟨eachOther_selfKeyed, hclosed, _, _, rfl, rfl, hleft 3 _ _ rfl⟩

end Dataset

end FeatureFlags
