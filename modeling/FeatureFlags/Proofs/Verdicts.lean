import FeatureFlags.Proofs.Simulation

/-!
What buckets, clauses, rules and segments come to, said without a trail. Which segments have the
subject as a member is left open: evaluation tells it with the segments on the way open, and other
accounts of membership tell it in other ways. Apart from its verdict an evaluation of these leaves
nothing behind but the texts that it hashed.
-/
namespace FeatureFlags

namespace Evaluation

variable {α β ι : Type} {opened : List String}

/-- As long as these segments are open there is this answer, and these texts are hashed for it. -/
def Settles (m : Evaluation α) (opened : List String) (answer : α) (texts : List String) : Prop :=
  ∀ t : Trail, t.openSegments = opened →
    m t = some (answer, { t with hashed := t.hashed ++ texts })

/-- As long as these segments are open there is this answer, whatever is hashed for it. -/
def Gives (m : Evaluation α) (opened : List String) (answer : α) : Prop :=
  ∃ texts, Settles m opened answer texts

theorem gives_pure (answer : α) : Gives (pure answer) opened answer :=
  ⟨[], fun t _ => by rw [List.append_nil]; rfl⟩

/-- Given the answer of the first step, that of both is the answer of the second. -/
theorem Gives.bind {m : Evaluation α} {f : α → Evaluation β} {first : α} {second : β}
    (hm : Gives m opened first) (hf : Gives (f first) opened second) :
    Gives (m >>= f) opened second := by
  obtain ⟨texts, hfirst⟩ := hm
  obtain ⟨texts', hsecond⟩ := hf
  refine ⟨texts ++ texts', fun t ht => ?_⟩
  rw [bind_apply, hfirst t ht, Option.bind_some, ← List.append_assoc]
  exact hsecond _ ht

variable {p : ι → Evaluation Bool} {q : ι → Bool} {list : List ι}

theorem gives_anyM (h : ∀ i ∈ list, Gives (p i) opened (q i)) :
    Gives (list.anyM p) opened (list.any q) := by
  induction list with
  | nil => exact gives_pure false
  | cons head rest ih =>
    have hrest := ih fun i hi => h i (List.mem_cons_of_mem head hi)
    rw [List.anyM_cons, List.any_cons]
    refine (h head List.mem_cons_self).bind ?_
    cases q head with
    | true => exact gives_pure true
    | false => exact hrest

theorem gives_allM (h : ∀ i ∈ list, Gives (p i) opened (q i)) :
    Gives (list.allM p) opened (list.all q) := by
  induction list with
  | nil => exact gives_pure true
  | cons head rest ih =>
    have hrest := ih fun i hi => h i (List.mem_cons_of_mem head hi)
    rw [List.allM_cons, List.all_cons]
    refine (h head List.mem_cons_self).bind ?_
    cases q head with
    | true => exact hrest
    | false => exact gives_pure false

theorem gives_findM? (h : ∀ i ∈ list, Gives (p i) opened (q i)) :
    Gives (list.findM? p) opened (list.find? q) := by
  induction list with
  | nil => exact gives_pure none
  | cons head rest ih =>
    have hrest := ih fun i hi => h i (List.mem_cons_of_mem head hi)
    rw [findM?_cons, List.find?_cons]
    refine (h head List.mem_cons_self).bind ?_
    cases q head with
    | true => exact gives_pure (some head)
    | false => exact hrest

end Evaluation

open Evaluation

/-- The bucket of the subject; without a text to hash it is the first. -/
def Setting.place (setting : Setting) (key salt : String) (bucketBy : Option String) : Float :=
  match setting.subject.bucketText? key salt bucketBy with
  | none => 0.0
  | some text => setting.bucketer text

/-- A segment that is listed and found is enough, unless the clause is negated. -/
def Clause.verdict (setting : Setting) (member : Segment → Bool) (clause : Clause) : Bool :=
  match clause.op with
  | .segmentMatch =>
      (clause.values.any fun value => (value.string?.bind setting.catalog.segment?).any member)
        != clause.negate
  | _ => clause.describes setting.subject

/-- All clauses have to match, and the bucket has to be within the weight, if there is one. -/
def Segment.Rule.verdict (setting : Setting) (member : Segment → Bool) (segment : Segment)
    (rule : Segment.Rule) : Bool :=
  rule.clauses.all (Clause.verdict setting member) && rule.weight.all fun weight =>
    Rule.admits (setting.place segment.key segment.salt rule.bucketBy) weight

/-- Included keys are members, else excluded keys are not, else a rule has to take the subject in. -/
def Segment.verdict (setting : Setting) (member : Segment → Bool) (segment : Segment) : Bool :=
  segment.included.contains setting.subject.key ||
    (!segment.excluded.contains setting.subject.key &&
      segment.rules.any (Rule.verdict setting member segment))

variable {setting : Setting} {opened : List String}

theorem Clause.verdict_of_ne {clause : Clause} {member : Segment → Bool}
    (hop : clause.op ≠ .segmentMatch) :
    clause.verdict setting member = clause.describes setting.subject := by
  unfold Clause.verdict
  split
  · next h => exact absurd h hop
  · rfl

theorem Setting.bucket_gives (key salt : String) (bucketBy : Option String) :
    Gives (setting.bucket key salt bucketBy) opened (setting.place key salt bucketBy) := by
  unfold Setting.bucket Setting.place
  cases setting.subject.bucketText? key salt bucketBy with
  | none => exact gives_pure 0.0
  | some text => exact ⟨[text], fun t _ => rfl⟩

section

variable {member : Segment → Evaluation Bool} {isMember : Segment → Bool}
  (hmember : ∀ key segment, setting.catalog.segment? key = some segment →
    Gives (member segment) opened (isMember segment))

include hmember

/-- Evaluation of a clause comes to its verdict. -/
theorem Clause.applies_gives (clause : Clause) :
    Gives (clause.applies setting member) opened (clause.verdict setting isMember) := by
  by_cases hop : clause.op = .segmentMatch
  · simp only [Clause.applies, Clause.verdict, hop]
    refine Gives.bind (gives_anyM fun value _ => ?_) (gives_pure _)
    cases hfound : value.string?.bind setting.catalog.segment? with
    | none => exact gives_pure false
    | some segment =>
      obtain ⟨key, -, hsegment⟩ := Option.bind_eq_some_iff.mp hfound
      exact hmember key segment hsegment
  · rw [Clause.applies_of_ne hop, Clause.verdict_of_ne hop]
    exact gives_pure _

/-- So does evaluation of a rule of a segment. -/
theorem Segment.Rule.applies_gives (segment : Segment) (rule : Segment.Rule) :
    Gives (rule.applies setting member segment) opened
      (rule.verdict setting isMember segment) := by
  unfold Segment.Rule.applies Segment.Rule.verdict
  refine Gives.bind (gives_allM fun clause _ => Clause.applies_gives hmember clause) ?_
  cases rule.clauses.all (Clause.verdict setting isMember) with
  | false => exact gives_pure false
  | true =>
    cases rule.weight with
    | none => exact gives_pure true
    | some weight => exact (Setting.bucket_gives _ _ _).bind (gives_pure _)

end

namespace Segment

variable {depth : ℕ} {segment : Segment}

def belongs (setting : Setting) (depth : ℕ) (opened : List String) (segment : Segment) : Bool :=
  (segment.contains setting depth { openSegments := opened }).map Prod.fst == some true

theorem belongs_eq {answer : Bool} (h : Gives (segment.contains setting depth) opened answer) :
    segment.belongs setting depth opened = answer := by
  obtain ⟨texts, hsettles⟩ := h
  unfold belongs
  rw [hsettles _ rfl]
  cases answer <;> rfl

/-- A segment that is open has no members but those that it includes. -/
theorem contains_gives_of_open (hopen : segment.key ∈ opened) :
    Gives (segment.contains setting (depth + 1)) opened
      (segment.included.contains setting.subject.key) := by
  unfold contains
  cases segment.included.contains setting.subject.key with
  | true => exact gives_pure true
  | false =>
    cases segment.excluded.contains setting.subject.key with
    | true => exact gives_pure false
    | false =>
      refine ⟨[], fun t ht => ?_⟩
      change (ite (t.openSegments.contains segment.key = true) _ _ : Evaluation Bool) t = _
      rw [if_pos (List.contains_iff_mem.mpr (ht ▸ hopen)), List.append_nil]
      rfl

/-- Inside a segment that is not open, it is open as well. -/
theorem contains_gives {isMember : Segment → Bool} (hclosed : segment.key ∉ opened)
    (hinside : ∀ key other, setting.catalog.segment? key = some other →
      Gives (other.contains setting depth) (segment.key :: opened) (isMember other)) :
    Gives (segment.contains setting (depth + 1)) opened (segment.verdict setting isMember) := by
  unfold contains verdict
  cases segment.included.contains setting.subject.key with
  | true => exact gives_pure true
  | false =>
    cases segment.excluded.contains setting.subject.key with
    | true => exact gives_pure false
    | false =>
      have hrules : Gives (segment.rules.anyM (Rule.applies setting (contains setting depth) segment))
          (segment.key :: opened) (segment.rules.any (Rule.verdict setting isMember segment)) :=
        gives_anyM fun rule _ => Rule.applies_gives hinside segment rule
      obtain ⟨texts, hfound⟩ := hrules
      refine ⟨texts, fun t ht => ?_⟩
      change (ite (t.openSegments.contains segment.key = true) _ _ : Evaluation Bool) t = _
      rw [if_neg (by rw [List.contains_iff_mem, ht]; exact hclosed)]
      have hrun := hfound { t with openSegments := segment.key :: t.openSegments }
        (congrArg (segment.key :: ·) ht)
      change ((segment.rules.anyM _ : Evaluation Bool)
        { t with openSegments := segment.key :: t.openSegments }).bind _ = _
      rw [hrun]
      change some (segment.rules.any _, { t with
        openSegments := (segment.key :: t.openSegments).erase segment.key
        hashed := t.hashed ++ texts }) = _
      rw [List.erase_cons_head]
      rfl

end Segment

end FeatureFlags
