import FeatureFlags.Proofs.Simulation

/-!
What is left behind of telling the members of a segment, and of serving a flag whose prerequisites
are met: nothing but the texts that were hashed for it. A segment that is opened on the way is
closed again, whatever was open before and whichever way the answer is come to.
-/
namespace FeatureFlags

namespace Evaluation

variable {α β : Type}

/-- Where there is an answer, the trail is as it was, but for texts that were hashed. -/
def OnlyHashes (m : Evaluation α) : Prop :=
  ∀ ⦃t : Trail⦄ ⦃answer : α⦄ ⦃u : Trail⦄, m t = some (answer, u) →
    ∃ texts, u = { t with hashed := t.hashed ++ texts }

theorem onlyHashes_pure (answer : α) : OnlyHashes (pure answer) := by
  intro t a u h
  cases h
  exact ⟨[], by rw [List.append_nil]⟩

/-- Two steps that only hash do so together. -/
theorem OnlyHashes.bind {m : Evaluation α} {f : α → Evaluation β} (hm : OnlyHashes m)
    (hf : ∀ answer, OnlyHashes (f answer)) : OnlyHashes (m >>= f) := by
  intro t answer u h
  obtain ⟨middle, between, hfirst, hsecond⟩ := bind_eq_some_iff.mp h
  obtain ⟨texts, rfl⟩ := hm hfirst
  obtain ⟨texts', rfl⟩ := hf middle hsecond
  exact ⟨texts ++ texts', by rw [List.append_assoc]⟩

/-- So whatever is put together from such steps only hashes. -/
theorem onlyHashes_isLogical : IsLogical fun _ m _ => OnlyHashes m :=
  ⟨onlyHashes_pure, OnlyHashes.bind⟩

theorem OnlyHashes.anyM {ι : Type} {p : ι → Evaluation Bool} {list : List ι}
    (h : ∀ i ∈ list, OnlyHashes (p i)) : OnlyHashes (list.anyM p) :=
  onlyHashes_isLogical.anyM p p h

theorem OnlyHashes.looking {f : Trail → Evaluation α} (hf : ∀ t, OnlyHashes (f t)) :
    OnlyHashes (get >>= f) :=
  fun t _ _ h => hf t h

/-- What was opened stands first again in the end, so it is what is closed. -/
theorem OnlyHashes.within {m : Evaluation α} (hm : OnlyHashes m) (key : String) :
    OnlyHashes do
      modify fun trail => { trail with openSegments := key :: trail.openSegments }
      let answer ← m
      modify fun trail => { trail with openSegments := trail.openSegments.erase key }
      return answer := by
  intro t answer u h
  obtain ⟨_, entered, hentered, hrest⟩ := bind_eq_some_iff.mp h
  cases hentered
  obtain ⟨inside, between, hinside, hlast⟩ := bind_eq_some_iff.mp hrest
  obtain ⟨texts, rfl⟩ := hm hinside
  cases hlast
  exact ⟨texts, by dsimp only; rw [List.erase_cons_head]⟩

end Evaluation

open Evaluation

variable {setting : Setting}

theorem Setting.bucket_onlyHashes (key salt : String) (bucketBy : Option String) :
    OnlyHashes (setting.bucket key salt bucketBy) := by
  unfold Setting.bucket
  cases setting.subject.bucketText? key salt bucketBy with
  | none => exact onlyHashes_pure 0.0
  | some text =>
    intro t answer u h
    cases h
    exact ⟨[text], rfl⟩

theorem Clause.applies_onlyHashes {member : Segment → Evaluation Bool}
    (hmember : ∀ segment, OnlyHashes (member segment)) (clause : Clause) :
    OnlyHashes (clause.applies setting member) := by
  by_cases hop : clause.op = .segmentMatch
  · simp only [Clause.applies, hop]
    refine OnlyHashes.bind (OnlyHashes.anyM fun value _ => ?_) fun _ => onlyHashes_pure _
    cases value.string?.bind setting.catalog.segment? with
    | none => exact onlyHashes_pure false
    | some segment => exact hmember segment
  · rw [Clause.applies_of_ne hop]
    exact onlyHashes_pure _

/-- Whether a subject is a member is found out without leaving a segment open. -/
theorem Segment.contains_onlyHashes (depth : ℕ) (segment : Segment) :
    OnlyHashes (segment.contains setting depth) := by
  have hagree : setting.AgreeOn setting fun _ => True := setting.agreeOn_recording setting.recording
  induction depth generalizing segment with
  | zero =>
    intro t answer u h
    cases h
  | succ depth ih =>
    unfold Segment.contains
    split
    · exact onlyHashes_pure true
    split
    · exact onlyHashes_pure false
    refine OnlyHashes.looking fun trail => ?_
    split
    · exact onlyHashes_pure false
    have hrules : OnlyHashes
        (segment.rules.anyM (Rule.applies setting (contains setting depth) segment)) :=
      OnlyHashes.anyM fun rule hrule =>
        Rule.applies_related onlyHashes_isLogical hagree Setting.bucket_onlyHashes trivial
          (contains setting depth) (contains setting depth) (fun _ _ other _ => ih other) hrule
    exact hrules.within segment.key

theorem Flag.serveMet_onlyHashes (depth : ℕ) (flag : Flag) :
    OnlyHashes (flag.serveMet setting depth) :=
  have hagree : setting.AgreeOn setting fun _ => True := setting.agreeOn_recording setting.recording
  Flag.serveMet_related onlyHashes_isLogical hagree Setting.bucket_onlyHashes depth depth trivial
    fun _ _ segment _ => segment.contains_onlyHashes depth

end FeatureFlags
