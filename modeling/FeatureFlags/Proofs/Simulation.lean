import FeatureFlags.Proofs.References
import Mathlib.Data.Nat.Notation

/-!
Two evaluations that go the same way. The settings agree on all items that are come to. A relation
between trails that every single step keeps is kept then by the evaluation of a segment or of a flag
as a whole, and the answers are the same. Two such relations matter: equality, for a greater depth or
for a setting that differs elsewhere; and having the same keys open, in whatever order, for an
evaluation that starts on another way or does not record.
-/
namespace FeatureFlags

namespace Evaluation

variable {α β ι : Type} {R : Trail → Trail → Prop}

/-- Where the first has an answer the second has the same, and it leaves a related trail. -/
def Simulates (R : Trail → Trail → Prop) (first second : Evaluation α) : Prop :=
  ∀ ⦃t t' : Trail⦄ ⦃answer : α⦄ ⦃u : Trail⦄, R t t' → first t = some (answer, u) →
    ∃ u', second t' = some (answer, u') ∧ R u u'

theorem bind_apply (m : Evaluation α) (f : α → Evaluation β) (trail : Trail) :
    (m >>= f) trail = (m trail).bind fun result => f result.1 result.2 := rfl

/-- Two steps have an answer if the first has one from which the second has. -/
theorem bind_eq_some_iff {m : Evaluation α} {f : α → Evaluation β} {trail : Trail}
    {result : β × Trail} :
    (m >>= f) trail = some result ↔
      ∃ answer between, m trail = some (answer, between) ∧ f answer between = some result := by
  rw [bind_apply]
  constructor
  · intro h
    obtain ⟨⟨answer, between⟩, hm, hf⟩ := Option.bind_eq_some_iff.mp h
    exact ⟨answer, between, hm, hf⟩
  · rintro ⟨answer, between, hm, hf⟩
    exact Option.bind_eq_some_iff.mpr ⟨(answer, between), hm, hf⟩

theorem Simulates.eq_some {first second : Evaluation α} (h : Simulates Eq first second) {t : Trail}
    {result : α × Trail} (hrun : first t = some result) : second t = some result := by
  obtain ⟨u, hresult, rfl⟩ := h rfl hrun
  exact hresult

theorem simulates_lift_none (second : Evaluation α) :
    Simulates R (StateT.lift none : Evaluation α) second := by
  intro t t' answer u _ h
  cases h

theorem simulates_pure (answer : α) :
    Simulates R (pure answer : Evaluation α) (pure answer) := by
  intro t t' a u hR h
  cases h
  exact ⟨t', rfl, hR⟩

/-- Simulation is kept by putting steps together. -/
theorem Simulates.bind {m m' : Evaluation α} {f f' : α → Evaluation β} (hm : Simulates R m m')
    (hf : ∀ answer, Simulates R (f answer) (f' answer)) : Simulates R (m >>= f) (m' >>= f') := by
  intro t t' answer u hR h
  obtain ⟨middle, between, hfirst, hsecond⟩ := bind_eq_some_iff.mp h
  obtain ⟨between', hfirst', hbetween⟩ := hm hR hfirst
  obtain ⟨u', hsecond', hu⟩ := hf middle hbetween hsecond
  exact ⟨u', bind_eq_some_iff.mpr ⟨middle, between', hfirst', hsecond'⟩, hu⟩

theorem simulates_modify {f f' : Trail → Trail} (h : ∀ t t', R t t' → R (f t) (f' t')) :
    Simulates R (modify f : Evaluation Unit) (modify f') := by
  intro t t' answer u hR heq
  cases heq
  exact ⟨f' t', rfl, h t t' hR⟩

/-- Of a trail that is read, only what related trails agree on may decide. -/
theorem simulates_get {f f' : Trail → Evaluation α}
    (h : ∀ t t', R t t' → Simulates R (f t) (f' t')) :
    Simulates R (get >>= f) (get >>= f') :=
  fun t t' _ _ hR heq => h t t' hR hR heq

theorem findM?_cons (p : ι → Evaluation Bool) (head : ι) (rest : List ι) :
    (head :: rest).findM? p =
      (p head >>= fun found => if found then pure (some head) else rest.findM? p) := by
  rw [List.findM?]
  congr
  funext found
  cases found <;> rfl

/-- A relation of evaluations that those keep which are put together from related ones. -/
structure IsLogical (Rel : (α : Type) → Evaluation α → Evaluation α → Prop) : Prop where
  pure : ∀ {α : Type} (answer : α), Rel α (Pure.pure answer) (Pure.pure answer)
  bind : ∀ {α β : Type} {m m' : Evaluation α} {f f' : α → Evaluation β}, Rel α m m' →
    (∀ answer, Rel β (f answer) (f' answer)) → Rel β (m >>= f) (m' >>= f')

/-- So it is kept by all that evaluation is made of. -/
theorem simulates_isLogical (R : Trail → Trail → Prop) : IsLogical fun _ => Simulates R :=
  ⟨simulates_pure, Simulates.bind⟩

namespace IsLogical

variable {Rel : (α : Type) → Evaluation α → Evaluation α → Prop} (hRel : IsLogical Rel)
  (p p' : ι → Evaluation Bool) {list : List ι}

include hRel

theorem anyM (h : ∀ i ∈ list, Rel Bool (p i) (p' i)) : Rel Bool (list.anyM p) (list.anyM p') := by
  induction list with
  | nil => exact hRel.pure false
  | cons head rest ih =>
    rw [List.anyM_cons, List.anyM_cons]
    refine hRel.bind (h head List.mem_cons_self) fun found => ?_
    cases found with
    | true => exact hRel.pure true
    | false => exact ih fun i hi => h i (List.mem_cons_of_mem head hi)

theorem allM (h : ∀ i ∈ list, Rel Bool (p i) (p' i)) : Rel Bool (list.allM p) (list.allM p') := by
  induction list with
  | nil => exact hRel.pure true
  | cons head rest ih =>
    rw [List.allM_cons, List.allM_cons]
    refine hRel.bind (h head List.mem_cons_self) fun holds => ?_
    cases holds with
    | true => exact ih fun i hi => h i (List.mem_cons_of_mem head hi)
    | false => exact hRel.pure false

/-- What is found is one of the list. -/
theorem bind_findM? {β : Type} {f f' : Option ι → Evaluation β}
    (h : ∀ i ∈ list, Rel Bool (p i) (p' i)) (hsome : ∀ i ∈ list, Rel β (f (some i)) (f' (some i)))
    (hnone : Rel β (f none) (f' none)) : Rel β (list.findM? p >>= f) (list.findM? p' >>= f') := by
  induction list with
  | nil => exact hnone
  | cons head rest ih =>
    rw [findM?_cons, findM?_cons, bind_assoc, bind_assoc]
    refine hRel.bind (h head List.mem_cons_self) fun found => ?_
    cases found with
    | true => exact hsome head List.mem_cons_self
    | false =>
      exact ih (fun i hi => h i (List.mem_cons_of_mem head hi))
        (fun i hi => hsome i (List.mem_cons_of_mem head hi))

theorem findM? (h : ∀ i ∈ list, Rel Bool (p i) (p' i)) :
    Rel (Option ι) (list.findM? p) (list.findM? p') := by
  rw [← bind_pure (list.findM? p), ← bind_pure (list.findM? p')]
  exact hRel.bind_findM? p p' h (fun i _ => hRel.pure (some i)) (hRel.pure none)

end IsLogical

end Evaluation

namespace Flag

def serveMet (setting : Setting) (depth : ℕ) (flag : Flag) : Evaluation (Detail Json) :=
  match flag.targetFor? setting.subject.key with
  | some target => return flag.serveVariation target.variation .targetMatch
  | none => do
      match ← flag.matchingRule setting (Segment.contains setting depth) with
      | some (rule, index) => flag.serve setting rule.serve (.ruleMatch index rule.id)
      | none => flag.serve setting flag.fallthrough .fallthrough

theorem evaluate_succ (setting : Setting) (depth : ℕ) (flag : Flag) :
    flag.evaluate setting (depth + 1) =
      if !flag.on then pure (flag.serveOff .off)
      else flag.failedPrerequisite setting (evaluate setting depth) >>= fun failed =>
        match failed with
        | some required => pure (flag.serveOff (.prerequisiteFailed required.key))
        | none => flag.serveMet setting depth := rfl

end Flag

theorem Clause.applies_of_ne {setting : Setting} {member : Segment → Evaluation Bool}
    {clause : Clause} (hop : clause.op ≠ .segmentMatch) :
    clause.applies setting member = pure (clause.describes setting.subject) := by
  unfold Clause.applies
  split
  · next h => exact absurd h hop
  · rfl

section

open Evaluation

variable {first second : Setting} {items : Item → Prop}
  {Rel : (α : Type) → Evaluation α → Evaluation α → Prop} (hRel : IsLogical Rel)
  (hagree : first.AgreeOn second items)

include hRel hagree

/-- Only segments that the catalog finds matter. -/
theorem Clause.applies_related {item : Item} (hitem : items item)
    (member member' : Segment → Evaluation Bool)
    (hmember : ∀ key ∈ item.segmentKeys, ∀ segment, first.catalog.segment? key = some segment →
      Rel Bool (member segment) (member' segment)) {clause : Clause}
    (hclause : clause ∈ item.clauses) :
    Rel Bool (clause.applies first member) (clause.applies second member') := by
  by_cases hop : clause.op = .segmentMatch
  · simp only [Clause.applies, hop]
    refine hRel.bind (hRel.anyM _ _ fun value hvalue => ?_) fun _ => hRel.pure _
    cases hkey : value.string? with
    | none => exact hRel.pure false
    | some key =>
      have hmem : key ∈ item.segmentKeys :=
        List.mem_flatMap.mpr ⟨clause, hclause, Clause.mem_segmentKeys hop hvalue hkey⟩
      rw [Option.bind_some, Option.bind_some, ← hagree.segment hitem key hmem]
      cases hfound : first.catalog.segment? key with
      | none => exact hRel.pure false
      | some segment => exact hmember key hmem segment hfound
  · rw [Clause.applies_of_ne hop, Clause.applies_of_ne hop, hagree.describes_eq hitem hclause]
    exact hRel.pure _

variable (hbucket : ∀ key salt bucketBy, Rel Float (first.bucket key salt bucketBy)
  (first.bucket key salt bucketBy))

include hbucket

theorem Segment.Rule.applies_related {segment : Segment} (hsegment : items (.segment segment))
    (member member' : Segment → Evaluation Bool)
    (hmember : ∀ key ∈ (Item.segment segment).segmentKeys, ∀ other,
      first.catalog.segment? key = some other → Rel Bool (member other) (member' other))
    {rule : Segment.Rule} (hrule : rule ∈ segment.rules) :
    Rel Bool (rule.applies first member segment) (rule.applies second member' segment) := by
  unfold Segment.Rule.applies
  refine hRel.bind (hRel.allM _ _ fun clause hclause => Clause.applies_related hRel hagree hsegment
    _ _ hmember (Item.mem_clauses_of_segment hrule hclause)) fun holds => ?_
  split
  · cases rule.weight with
    | none => exact hRel.pure true
    | some weight =>
      dsimp only
      rw [← hagree.bucket_eq hsegment (List.mem_map_of_mem hrule)]
      exact hRel.bind (hbucket _ _ _) fun _ => hRel.pure _
  · exact hRel.pure false

theorem Flag.serve_related {flag : Flag} (hflag : items (.flag flag)) {choice : Choice}
    (hchoice : choice ∈ flag.choices) (reason : Reason) :
    Rel (Detail Json) (flag.serve first choice reason) (flag.serve second choice reason) := by
  unfold Flag.serve
  refine hRel.bind ?_ fun index => ?_
  · cases choice with
    | variation index => exact hRel.pure _
    | rollout shares =>
      have hbucketBy : shares.bucketBy ∈ (Item.flag flag).bucketBys := List.mem_map_of_mem hchoice
      dsimp only [Flag.choose]
      rw [← hagree.bucket_eq hflag hbucketBy]
      exact hRel.bind (hbucket _ _ _) fun _ => hRel.pure _
    | malformed written => exact hRel.pure _
  · cases index with
    | none => exact hRel.pure _
    | some index => exact hRel.pure _

theorem Flag.serveMet_related (depth depth' : ℕ) {flag : Flag} (hflag : items (.flag flag))
    (hmember : ∀ key ∈ (Item.flag flag).segmentKeys, ∀ segment,
      first.catalog.segment? key = some segment →
        Rel Bool (segment.contains first depth) (segment.contains second depth')) :
    Rel (Detail Json) (flag.serveMet first depth) (flag.serveMet second depth') := by
  unfold Flag.serveMet
  rw [← hagree.key]
  split
  · exact hRel.pure _
  · have hrules : ∀ rule ∈ flag.rules.zipIdx, rule.1 ∈ flag.rules :=
      fun rule hrule => List.fst_mem_of_mem_zipIdx hrule
    refine hRel.bind_findM? _ _ (fun rule hrule => hRel.allM _ _ fun clause hclause => ?_)
      (fun rule hrule => ?_) ?_
    · exact Clause.applies_related hRel hagree hflag _ _ hmember
        (Item.mem_clauses_of_flag (hrules rule hrule) hclause)
    · have hchoice : rule.1.serve ∈ flag.choices :=
        List.mem_cons_of_mem _ (List.mem_map_of_mem (hrules rule hrule))
      exact Flag.serve_related hRel hagree hbucket hflag hchoice _
    · exact Flag.serve_related hRel hagree hbucket hflag List.mem_cons_self _

end

def Trail.noting (t : Trail) (recording : Bool) (record : PrerequisiteRecord) : Trail :=
  if recording then { t with records := t.records ++ [record] } else t

/-- A relation that tells apart neither what is looked at in a trail nor what is done to it; the
settings may differ in whether they record. -/
structure Trail.IsCongruence (recording recording' : Bool) (R : Trail → Trail → Prop) : Prop where
  openFlags : ∀ {t t' : Trail}, R t t' → ∀ key, t.openFlags.contains key = t'.openFlags.contains key
  openSegments : ∀ {t t' : Trail}, R t t' → t.openSegments = t'.openSegments
  cycle : ∀ {t t' : Trail}, R t t' → t.cycle = t'.cycle
  hash : ∀ {t t' : Trail}, R t t' → ∀ text,
    R { t with hashed := t.hashed ++ [text] } { t' with hashed := t'.hashed ++ [text] }
  enterSegment : ∀ {t t' : Trail}, R t t' → ∀ key,
    R { t with openSegments := key :: t.openSegments }
      { t' with openSegments := key :: t'.openSegments }
  leaveSegment : ∀ {t t' : Trail}, R t t' → ∀ key,
    R { t with openSegments := t.openSegments.erase key }
      { t' with openSegments := t'.openSegments.erase key }
  enterFlag : ∀ {t t' : Trail}, R t t' → ∀ key,
    R { t with openFlags := t.openFlags.insert key } { t' with openFlags := t'.openFlags.insert key }
  leaveFlag : ∀ {t t' : Trail}, R t t' → ∀ key,
    R { t with openFlags := t.openFlags.erase key } { t' with openFlags := t'.openFlags.erase key }
  mark : ∀ {t t' : Trail}, R t t' → R { t with cycle := true } { t' with cycle := true }
  record : ∀ {t t' : Trail}, R t t' → ∀ record,
    R (t.noting recording record) (t'.noting recording' record)

theorem Flag.prerequisiteMet_apply (setting : Setting) (evaluate : Flag → Evaluation (Detail Json))
    (flag : Flag) (required : Prerequisite) (t : Trail) :
    flag.prerequisiteMet setting evaluate required t =
      if t.openFlags.contains required.key then some (false, { t with cycle := true })
      else
        match setting.catalog.flag? required.key with
        | none => some (false, t)
        | some other => (evaluate other t).bind fun result =>
            some (!result.2.cycle && result.1.variationIndex == some required.variation,
              result.2.noting setting.recording ⟨other, flag.key, result.1⟩) := by
  unfold Flag.prerequisiteMet
  change (ite (t.openFlags.contains required.key = true) _ _ : Evaluation Bool) t = _
  by_cases hopen : t.openFlags.contains required.key = true
  · rw [if_pos hopen, if_pos hopen]
    rfl
  · rw [if_neg hopen, if_neg hopen]
    cases setting.catalog.flag? required.key with
    | none => rfl
    | some other =>
      dsimp only
      rw [Evaluation.bind_apply]
      congr
      funext result
      change (ite (setting.recording = true) _ _ : Evaluation Bool) result.2 = _
      unfold Trail.noting
      split <;> rfl

section

open Evaluation

variable {first second : Setting} {items : Item → Prop} {R : Trail → Trail → Prop}
  (hR : Trail.IsCongruence first.recording second.recording R)

include hR

theorem Setting.bucket_simulates (key salt : String) (bucketBy : Option String) :
    Simulates R (first.bucket key salt bucketBy) (first.bucket key salt bucketBy) := by
  unfold Setting.bucket
  cases first.subject.bucketText? key salt bucketBy with
  | none => exact simulates_pure 0.0
  | some text =>
    exact (simulates_modify fun t t' h => hR.hash h text).bind fun _ => simulates_pure _

theorem Flag.prerequisiteMet_simulates {evaluate evaluate' : Flag → Evaluation (Detail Json)}
    (flag : Flag) {required : Prerequisite}
    (hsame : first.catalog.flag? required.key = second.catalog.flag? required.key)
    (h : ∀ other, first.catalog.flag? required.key = some other →
      Simulates R (evaluate other) (evaluate' other)) :
    Simulates R (flag.prerequisiteMet first evaluate required)
      (flag.prerequisiteMet second evaluate' required) := by
  intro t t' answer u h' heq
  rw [prerequisiteMet_apply, hR.openFlags h'] at heq
  rw [prerequisiteMet_apply]
  by_cases hopen : t'.openFlags.contains required.key = true
  · rw [if_pos hopen] at heq ⊢
    cases heq
    exact ⟨_, rfl, hR.mark h'⟩
  · rw [if_neg hopen] at heq ⊢
    rw [← hsame]
    cases hother : first.catalog.flag? required.key with
    | none =>
      rw [hother] at heq
      cases heq
      exact ⟨t', rfl, h'⟩
    | some other =>
      rw [hother] at heq
      obtain ⟨⟨detail, between⟩, hfirst, hlast⟩ := Option.bind_eq_some_iff.mp heq
      obtain ⟨between', hfirst', hbetween⟩ := h other hother h' hfirst
      cases hlast
      refine ⟨between'.noting second.recording ⟨other, flag.key, detail⟩, ?_,
        hR.record hbetween _⟩
      simp only [hfirst', hR.cycle hbetween, Option.bind_some]

variable (hagree : first.AgreeOn second items) (hclosed : first.catalog.Closed items)

include hagree hclosed

theorem Segment.contains_simulates {depth depth' : ℕ} (hle : depth ≤ depth') {segment : Segment}
    (hsegment : items (.segment segment)) :
    Simulates R (segment.contains first depth) (segment.contains second depth') := by
  induction depth generalizing depth' segment with
  | zero => exact simulates_lift_none _
  | succ depth ih =>
    obtain ⟨depth', rfl⟩ : ∃ n, depth' = n + 1 := ⟨depth' - 1, by omega⟩
    unfold Segment.contains
    rw [← hagree.key]
    split
    · exact simulates_pure true
    · split
      · exact simulates_pure false
      · refine simulates_get fun t t' h => ?_
        rw [hR.openSegments h]
        split
        · exact simulates_pure false
        · refine (simulates_modify fun t t' h => hR.enterSegment h segment.key).bind fun _ => ?_
          refine Simulates.bind ((simulates_isLogical R).anyM _ _ fun rule hrule => ?_)
            fun found => ?_
          · exact Segment.Rule.applies_related (simulates_isLogical R) hagree
              (Setting.bucket_simulates hR) hsegment _ _
              (fun key hkey other hother => ih (by omega) (hclosed.segment hsegment hkey hother))
              hrule
          · exact (simulates_modify fun t t' h => hR.leaveSegment h segment.key).bind
              fun _ => simulates_pure found

theorem Flag.serveMet_simulates {depth depth' : ℕ} (hle : depth ≤ depth') {flag : Flag}
    (hflag : items (.flag flag)) :
    Simulates R (flag.serveMet first depth) (flag.serveMet second depth') :=
  Flag.serveMet_related (simulates_isLogical R) hagree (Setting.bucket_simulates hR) depth depth'
    hflag fun _ hkey _ hfound =>
      Segment.contains_simulates hR hagree hclosed hle (hclosed.segment hflag hkey hfound)

theorem Flag.failedPrerequisite_simulates {evaluate evaluate' : Flag → Evaluation (Detail Json)}
    (h : ∀ flag, items (.flag flag) → Simulates R (evaluate flag) (evaluate' flag)) {flag : Flag}
    (hflag : items (.flag flag)) :
    Simulates R (flag.failedPrerequisite first evaluate)
      (flag.failedPrerequisite second evaluate') := by
  unfold Flag.failedPrerequisite
  split
  · exact simulates_pure none
  · refine (simulates_modify fun t t' h => hR.enterFlag h flag.key).bind fun _ => ?_
    refine Simulates.bind ((simulates_isLogical R).findM? _ _ fun required hrequired => ?_)
      fun failed => ?_
    · have hkey : required.key ∈ (Item.flag flag).flagKeys := List.mem_map_of_mem hrequired
      exact (Flag.prerequisiteMet_simulates hR flag (hagree.flag hflag _ hkey) fun other hother =>
        h other (hclosed.flag hflag hkey hother)).bind fun _ => simulates_pure _
    · exact (simulates_modify fun t t' h => hR.leaveFlag h flag.key).bind
        fun _ => simulates_pure failed

/-- With as much depth or more, and the same found of what it refers to, evaluation finds the same. -/
theorem Flag.evaluate_simulates {depth depth' : ℕ} (hle : depth ≤ depth') {flag : Flag}
    (hflag : items (.flag flag)) :
    Simulates R (flag.evaluate first depth) (flag.evaluate second depth') := by
  induction depth generalizing depth' flag with
  | zero => exact simulates_lift_none _
  | succ depth ih =>
    obtain ⟨depth', rfl⟩ : ∃ n, depth' = n + 1 := ⟨depth' - 1, by omega⟩
    rw [Flag.evaluate_succ, Flag.evaluate_succ]
    split
    · exact simulates_pure _
    · refine (Flag.failedPrerequisite_simulates hR hagree hclosed (fun f hf => ih (by omega) hf)
        hflag).bind fun failed => ?_
      cases failed with
      | some required => exact simulates_pure _
      | none => exact Flag.serveMet_simulates hR hagree hclosed (by omega) hflag

end

theorem Trail.isCongruence_eq (recording : Bool) : IsCongruence recording recording Eq where
  openFlags h _ := by rw [h]
  openSegments h := by rw [h]
  cycle h := by rw [h]
  hash h _ := by rw [h]
  enterSegment h _ := by rw [h]
  leaveSegment h _ := by rw [h]
  enterFlag h _ := by rw [h]
  leaveFlag h _ := by rw [h]
  mark h := by rw [h]
  record h _ := by rw [h]

/-- The same flags are open, in whatever order, and the rest that evaluation looks at is the same. -/
structure Trail.Alike (t t' : Trail) : Prop where
  openFlags : t.openFlags.Perm t'.openFlags
  openSegments : t.openSegments = t'.openSegments
  cycle : t.cycle = t'.cycle

theorem Trail.Alike.refl (t : Trail) : t.Alike t := ⟨.refl _, rfl, rfl⟩

theorem Trail.Alike.symm {t t' : Trail} (h : t.Alike t') : t'.Alike t :=
  ⟨h.openFlags.symm, h.openSegments.symm, h.cycle.symm⟩

theorem Trail.noting_alike (t : Trail) (recording : Bool) (record : PrerequisiteRecord) :
    (t.noting recording record).Alike t := by
  unfold noting
  split <;> exact ⟨.refl _, rfl, rfl⟩

/-- Evaluation does not look at the order in which flags were opened, nor at records. -/
theorem Trail.isCongruence_alike (recording recording' : Bool) :
    IsCongruence recording recording' Alike where
  openFlags h key := by
    rw [Bool.eq_iff_iff, List.contains_iff_mem, List.contains_iff_mem]
    exact h.openFlags.mem_iff
  openSegments h := h.openSegments
  cycle h := h.cycle
  hash h _ := ⟨h.openFlags, h.openSegments, h.cycle⟩
  enterSegment h key := ⟨h.openFlags, congrArg (key :: ·) h.openSegments, h.cycle⟩
  leaveSegment h key := ⟨h.openFlags, congrArg (·.erase key) h.openSegments, h.cycle⟩
  enterFlag h key := ⟨h.openFlags.insert key, h.openSegments, h.cycle⟩
  leaveFlag h key := ⟨h.openFlags.erase key, h.openSegments, h.cycle⟩
  mark h := ⟨h.openFlags, h.openSegments, rfl⟩
  record {t t'} h r := by
    have hleft := t.noting_alike recording r
    have hright := t'.noting_alike recording' r
    exact ⟨hleft.openFlags.trans (h.openFlags.trans hright.openFlags.symm),
      hleft.openSegments.trans (h.openSegments.trans hright.openSegments.symm),
      hleft.cycle.trans (h.cycle.trans hright.cycle.symm)⟩

theorem Flag.serveMet_deeper {setting : Setting} {depth depth' : ℕ} (hle : depth ≤ depth')
    (flag : Flag) :
    Evaluation.Simulates Eq (flag.serveMet setting depth) (flag.serveMet setting depth') :=
  Flag.serveMet_simulates (Trail.isCongruence_eq setting.recording) (setting.agreeOn_recording _)
    setting.catalog.closed_true hle trivial

theorem Flag.evaluate_deeper {setting : Setting} {depth depth' : ℕ} (hle : depth ≤ depth')
    (flag : Flag) :
    Evaluation.Simulates Eq (flag.evaluate setting depth) (flag.evaluate setting depth') :=
  Flag.evaluate_simulates (Trail.isCongruence_eq setting.recording) (setting.agreeOn_recording _)
    setting.catalog.closed_true hle trivial

/-- An answer within a depth is the answer within every larger one. -/
theorem Flag.evaluate_mono {setting : Setting} {depth depth' : ℕ} (hle : depth ≤ depth')
    {flag : Flag} {t : Trail} {result : Detail Json × Trail}
    (h : flag.evaluate setting depth t = some result) :
    flag.evaluate setting depth' t = some result := (flag.evaluate_deeper hle).eq_some h

theorem Flag.evaluate_of_alike {setting : Setting} (recording : Bool) {depth depth' : ℕ}
    (hle : depth ≤ depth') {flag : Flag} {t t' u : Trail} {detail : Detail Json} (halike : t.Alike t')
    (h : flag.evaluate setting depth t = some (detail, u)) :
    ∃ u', flag.evaluate { setting with recording } depth' t' = some (detail, u') ∧ u.Alike u' :=
  Flag.evaluate_simulates (Trail.isCongruence_alike setting.recording recording)
    (setting.agreeOn_recording recording) setting.catalog.closed_true hle trivial halike h

end FeatureFlags
