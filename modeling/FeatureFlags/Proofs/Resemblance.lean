import FeatureFlags.Proofs.Growth
import FeatureFlags.Proofs.Simulation

/-!
Flags that differ only in how their malformed choices were written. A malformed choice serves nothing,
whatever it was written as, so such flags are evaluated alike: in catalogs that find flags of this kind
and the same segments, every evaluation has the same outcome but for what the flags in its records
were written as.
-/
namespace FeatureFlags

/-- The same choice, but for how a malformed one was written. -/
inductive Choice.Resembles : Choice → Choice → Prop
  | refl (choice : Choice) : Resembles choice choice
  | malformed (first second : Json) : Resembles (.malformed first) (.malformed second)

structure Flag.Rule.Resembles (rule other : Flag.Rule) : Prop where
  rest : other = { rule with serve := other.serve }
  serve : rule.serve.Resembles other.serve

structure Flag.Resembles (flag other : Flag) : Prop where
  rest : other = { flag with rules := other.rules, fallthrough := other.fallthrough }
  rules : List.Forall₂ Flag.Rule.Resembles flag.rules other.rules
  fallthrough : flag.fallthrough.Resembles other.fallthrough

theorem Choice.Resembles.symm {choice other : Choice} (h : choice.Resembles other) :
    other.Resembles choice := by
  cases h with
  | refl => exact .refl _
  | malformed first second => exact .malformed second first

namespace Flag

theorem Rule.Resembles.refl (rule : Flag.Rule) : rule.Resembles rule := ⟨rfl, .refl _⟩

theorem Rule.Resembles.symm {rule other : Flag.Rule} (h : rule.Resembles other) :
    other.Resembles rule := by
  obtain ⟨id, clauses, serve, trackEvents⟩ := rule
  obtain ⟨hrest, hserve⟩ := h
  exact ⟨by rw [hrest], hserve.symm⟩

namespace Resembles

theorem refl (flag : Flag) : flag.Resembles flag :=
  ⟨rfl, List.forall₂_same.mpr fun rule _ => Rule.Resembles.refl rule, .refl _⟩

variable {flag other : Flag} (h : flag.Resembles other)

include h

theorem symm : other.Resembles flag := by
  obtain ⟨hrest, hrules, hfallthrough⟩ := h
  refine ⟨by rw [hrest], hrules.flip.imp fun rule other hrule => hrule.symm, hfallthrough.symm⟩

theorem key : other.key = flag.key := by rw [h.rest]

theorem version : other.version = flag.version := by rw [h.rest]

theorem on : other.on = flag.on := by rw [h.rest]

theorem prerequisites : other.prerequisites = flag.prerequisites := by rw [h.rest]

theorem salt : other.salt = flag.salt := by rw [h.rest]

theorem targets : other.targets = flag.targets := by rw [h.rest]

theorem offVariation : other.offVariation = flag.offVariation := by rw [h.rest]

theorem variations : other.variations = flag.variations := by rw [h.rest]

theorem deleted : other.deleted = flag.deleted := by rw [h.rest]

theorem serveVariation (index : Nat) (reason : Reason) :
    other.serveVariation index reason = flag.serveVariation index reason := by
  unfold Flag.serveVariation
  rw [h.variations]

theorem serveOff (reason : Reason) : other.serveOff reason = flag.serveOff reason := by
  unfold Flag.serveOff
  rw [h.offVariation]
  cases flag.offVariation with
  | none => rfl
  | some index => exact h.serveVariation index reason

end Resembles

end Flag

structure PrerequisiteRecord.Resembles (record other : PrerequisiteRecord) : Prop where
  flag : record.flag.Resembles other.flag
  prerequisiteOf : record.prerequisiteOf = other.prerequisiteOf
  detail : record.detail = other.detail

theorem PrerequisiteRecord.Resembles.refl (record : PrerequisiteRecord) : record.Resembles record :=
  ⟨.refl _, rfl, rfl⟩

structure Trail.Resembles (t t' : Trail) : Prop where
  openFlags : t.openFlags = t'.openFlags
  openSegments : t.openSegments = t'.openSegments
  cycle : t.cycle = t'.cycle
  records : List.Forall₂ PrerequisiteRecord.Resembles t.records t'.records
  hashed : t.hashed = t'.hashed

theorem Trail.Resembles.noting {t t' : Trail} (h : t.Resembles t') (recording : Bool)
    {record other : PrerequisiteRecord} (hrecord : record.Resembles other) :
    (t.noting recording record).Resembles (t'.noting recording other) := by
  unfold Trail.noting
  split
  · refine ⟨h.openFlags, h.openSegments, h.cycle, ?_, h.hashed⟩
    exact List.rel_append h.records (.cons hrecord .nil)
  · exact h

/-- Evaluation does not look at what differs between such trails. -/
theorem Trail.isCongruence_resembles (recording : Bool) :
    IsCongruence recording recording Resembles where
  openFlags h key := by rw [h.openFlags]
  openSegments h := h.openSegments
  cycle h := h.cycle
  hash h text := ⟨h.openFlags, h.openSegments, h.cycle, h.records, congrArg (· ++ [text]) h.hashed⟩
  enterSegment h key :=
    ⟨h.openFlags, congrArg (key :: ·) h.openSegments, h.cycle, h.records, h.hashed⟩
  leaveSegment h key :=
    ⟨h.openFlags, congrArg (·.erase key) h.openSegments, h.cycle, h.records, h.hashed⟩
  enterFlag h key := ⟨congrArg (·.insert key) h.openFlags, h.openSegments, h.cycle, h.records, h.hashed⟩
  leaveFlag h key := ⟨congrArg (·.erase key) h.openFlags, h.openSegments, h.cycle, h.records, h.hashed⟩
  mark h := ⟨h.openFlags, h.openSegments, rfl, h.records, h.hashed⟩
  record h record := h.noting _ (.refl record)

/-- The same segments are found, and flags of this kind under the same keys. -/
structure Catalog.Resembles (catalog other : Catalog) : Prop where
  flag : ∀ key, Option.Rel Flag.Resembles (catalog.flag? key) (other.flag? key)
  segment : catalog.segment? = other.segment?

theorem Catalog.Resembles.symm {catalog other : Catalog} (h : catalog.Resembles other) :
    other.Resembles catalog where
  flag key := by
    have hflag := h.flag key
    generalize catalog.flag? key = found at hflag ⊢
    generalize other.flag? key = found' at hflag ⊢
    cases hflag with
    | none => exact .none
    | some hflag => exact .some hflag.symm
  segment := h.segment.symm

def Item.IsSegment (item : Item) : Prop := ∃ segment, item = .segment segment

theorem Catalog.closed_isSegment (catalog : Catalog) : catalog.Closed Item.IsSegment where
  flag := by
    rintro _ key other ⟨segment, rfl⟩ hkey
    exact absurd hkey List.not_mem_nil
  segment _ _ _ := ⟨_, rfl⟩

theorem Setting.agreeOn_isSegment {setting : Setting} {catalog : Catalog}
    (h : setting.catalog.Resembles catalog) :
    setting.AgreeOn { setting with catalog } Item.IsSegment where
  bucketer := rfl
  key := rfl
  secondary := rfl
  value _ _ _ := rfl
  flag := by
    rintro _ ⟨segment, rfl⟩ key hkey
    exact absurd hkey List.not_mem_nil
  segment _ key _ := congrFun h.segment key

open Evaluation

section

variable {ι κ β : Type} {R : Trail → Trail → Prop} {Q : ι → κ → Prop} {p : ι → Evaluation Bool}
  {p' : κ → Evaluation Bool} {f : Option ι → Evaluation β} {f' : Option κ → Evaluation β}

/-- What goes on with what is found, in lists that go together. -/
theorem Evaluation.simulates_bind_findM? (hp : ∀ i k, Q i k → Simulates R (p i) (p' k))
    (hsome : ∀ i k, Q i k → Simulates R (f (some i)) (f' (some k)))
    (hnone : Simulates R (f none) (f' none)) {list : List ι} {list' : List κ}
    (h : List.Forall₂ Q list list') :
    Simulates R (list.findM? p >>= f) (list'.findM? p' >>= f') := by
  induction h with
  | nil => exact hnone
  | cons hhead _ ih =>
    rw [findM?_cons, findM?_cons, bind_assoc, bind_assoc]
    refine (hp _ _ hhead).bind fun found => ?_
    cases found with
    | true => exact hsome _ _ hhead
    | false => exact ih

theorem forall₂_zipIdx {list : List ι} {list' : List κ} (h : List.Forall₂ Q list list')
    (start : Nat) :
    List.Forall₂ (fun entry entry' => Q entry.1 entry'.1 ∧ entry.2 = entry'.2)
      (list.zipIdx start) (list'.zipIdx start) := by
  induction h generalizing start with
  | nil => exact .nil
  | cons hhead _ ih => exact .cons ⟨hhead, rfl⟩ (ih (start + 1))

end

section

variable {setting : Setting} {catalog : Catalog}

/-- A rule of this kind has the same clauses. -/
theorem Flag.Rule.Resembles.matches (hcatalog : setting.catalog.Resembles catalog)
    {rule other : Flag.Rule} (h : rule.Resembles other) (depth : ℕ) :
    Simulates Trail.Resembles
      (rule.clauses.allM (Clause.applies setting (Segment.contains setting depth)))
      (other.clauses.allM (Clause.applies { setting with catalog }
        (Segment.contains { setting with catalog } depth))) := by
  let second : Setting := { setting with catalog }
  have hR : Trail.IsCongruence setting.recording second.recording Trail.Resembles :=
    Trail.isCongruence_resembles setting.recording
  have hagree : setting.AgreeOn second Item.IsSegment := Setting.agreeOn_isSegment hcatalog
  have hclosed := setting.catalog.closed_isSegment
  have hclauses : other.clauses = rule.clauses := by rw [h.rest]
  -- The clauses are seen as those of a segment, since only segments are the same in both catalogs.
  let bearer : Segment := { key := "", rules := [{ clauses := rule.clauses }] }
  rw [hclauses]
  refine (simulates_isLogical _).allM _ _ fun clause hclause => ?_
  refine Clause.applies_related (simulates_isLogical _) hagree ⟨bearer, rfl⟩ _ _
    (fun key _ segment _ => ?_) (Item.mem_clauses_of_segment List.mem_cons_self hclause)
  exact Segment.contains_simulates hR hagree hclosed (Nat.le_refl depth) ⟨segment, rfl⟩

namespace Flag.Resembles

variable {flag other : Flag} (h : flag.Resembles other)

include h

/-- Choices that resemble each other are served alike: a malformed one is malformed however it is
written. -/
theorem serve {choice choice' : Choice} (hchoice : choice.Resembles choice') (reason : Reason) :
    Simulates Trail.Resembles (flag.serve setting choice reason)
      (other.serve { setting with catalog } choice' reason) := by
  have hR := Trail.isCongruence_resembles setting.recording
  unfold Flag.serve
  refine Simulates.bind ?_ fun index => ?_
  · cases hchoice with
    | malformed => exact simulates_pure none
    | refl choice =>
      cases choice with
      | variation index => exact simulates_pure _
      | rollout shares =>
        dsimp only [Flag.choose]
        rw [h.key, h.salt]
        exact (Setting.bucket_simulates hR flag.key flag.salt shares.bucketBy).bind fun _ =>
          simulates_pure _
      | malformed written => exact simulates_pure none
  · cases index with
    | none => exact simulates_pure _
    | some index =>
      dsimp only
      rw [h.serveVariation]
      exact simulates_pure _

variable (hcatalog : setting.catalog.Resembles catalog)

include hcatalog

theorem serveMet (depth : ℕ) :
    Simulates Trail.Resembles (flag.serveMet setting depth)
      (other.serveMet { setting with catalog } depth) := by
  have htarget : other.targetFor? setting.subject.key = flag.targetFor? setting.subject.key := by
    unfold Flag.targetFor?
    rw [h.targets]
  unfold Flag.serveMet
  rw [htarget]
  cases flag.targetFor? setting.subject.key with
  | some target =>
    dsimp only
    rw [h.serveVariation]
    exact simulates_pure _
  | none =>
    refine simulates_bind_findM? (fun rule rule' hrule => hrule.1.matches hcatalog depth)
      (fun rule rule' hrule => ?_) (h.serve h.fallthrough _) (forall₂_zipIdx h.rules 0)
    obtain ⟨rule, index⟩ := rule
    obtain ⟨rule', index'⟩ := rule'
    obtain ⟨hrule, rfl⟩ : rule.Resembles rule' ∧ index = index' := hrule
    have hid : rule'.id = rule.id := by rw [hrule.rest]
    dsimp only
    rw [hid]
    exact h.serve hrule.serve _

/-- A prerequisite is looked for in catalogs of this kind. -/
theorem prerequisiteMet {evaluate evaluate' : Flag → Evaluation (Detail Json)}
    (hevaluate : ∀ flag other, flag.Resembles other →
      Simulates Trail.Resembles (evaluate flag) (evaluate' other)) (required : Prerequisite) :
    Simulates Trail.Resembles (flag.prerequisiteMet setting evaluate required)
      (other.prerequisiteMet { setting with catalog } evaluate' required) := by
  intro t t' answer u htrail hrun
  rw [prerequisiteMet_apply] at hrun ⊢
  rw [← htrail.openFlags]
  by_cases hopen : t.openFlags.contains required.key = true
  · rw [if_pos hopen] at hrun ⊢
    cases hrun
    exact ⟨_, rfl, rfl, htrail.openSegments, rfl, htrail.records, htrail.hashed⟩
  · rw [if_neg hopen] at hrun ⊢
    have hfound := hcatalog.flag required.key
    dsimp only
    generalize setting.catalog.flag? required.key = found at hfound hrun
    generalize catalog.flag? required.key = found' at hfound
    cases hfound with
    | none =>
      cases hrun
      exact ⟨t', rfl, htrail⟩
    | @some required' other' hrequired =>
      obtain ⟨⟨detail, between⟩, hfirst, hlast⟩ := Option.bind_eq_some_iff.mp hrun
      obtain ⟨between', hfirst', hbetween⟩ := hevaluate _ _ hrequired htrail hfirst
      cases hlast
      refine ⟨between'.noting setting.recording ⟨other', other.key, detail⟩, ?_,
        hbetween.noting setting.recording ⟨hrequired, h.key.symm, rfl⟩⟩
      simp only [hfirst', hbetween.cycle, Option.bind_some]

/-- Prerequisites are gone through alike, since flags under the same keys resemble each other. -/
theorem failedPrerequisite {evaluate evaluate' : Flag → Evaluation (Detail Json)}
    (hevaluate : ∀ flag other, flag.Resembles other →
      Simulates Trail.Resembles (evaluate flag) (evaluate' other)) :
    Simulates Trail.Resembles (flag.failedPrerequisite setting evaluate)
      (other.failedPrerequisite { setting with catalog } evaluate') := by
  have hR := Trail.isCongruence_resembles setting.recording
  unfold Flag.failedPrerequisite
  rw [h.prerequisites]
  split
  · exact simulates_pure none
  · refine (simulates_modify fun t t' htrail => ?_).bind fun _ => ?_
    · rw [h.key]
      exact hR.enterFlag htrail flag.key
    · refine Simulates.bind ((simulates_isLogical _).findM? _ _ fun required _ => ?_)
        fun failed => ?_
      · exact (h.prerequisiteMet hcatalog hevaluate required).bind fun _ => simulates_pure _
      · refine (simulates_modify fun t t' htrail => ?_).bind fun _ => simulates_pure failed
        rw [h.key]
        exact hR.leaveFlag htrail flag.key

/-- Flags that resemble each other evaluate alike, with records that do. -/
theorem evaluate (depth : ℕ) :
    Simulates Trail.Resembles (flag.evaluate setting depth)
      (other.evaluate { setting with catalog } depth) := by
  induction depth generalizing flag other with
  | zero => exact simulates_lift_none _
  | succ depth ih =>
    rw [evaluate_succ, evaluate_succ, h.on]
    split
    · rw [h.serveOff]
      exact simulates_pure _
    · refine (h.failedPrerequisite hcatalog fun flag other hflag => ih hflag).bind fun failed => ?_
      cases failed with
      | some required =>
        dsimp only
        rw [h.serveOff]
        exact simulates_pure _
      | none => exact h.serveMet hcatalog depth

end Flag.Resembles

end

structure Outcome.Resembles (outcome other : Outcome) : Prop where
  detail : outcome.detail = other.detail
  records : List.Forall₂ PrerequisiteRecord.Resembles outcome.records other.records
  hashed : outcome.hashed = other.hashed

variable {setting : Setting} {catalog : Catalog} {flag other : Flag}

theorem Setting.exists_outcome_resembles (hcatalog : setting.catalog.Resembles catalog)
    (h : flag.Resembles other) {depth : ℕ} {outcome : Outcome}
    (houtcome : setting.outcome? depth flag = some outcome) :
    ∃ outcome', Setting.outcome? { setting with catalog } depth other = some outcome' ∧
      outcome.Resembles outcome' := by
  obtain ⟨⟨detail, t⟩, hrun, rfl⟩ := Option.map_eq_some_iff.mp houtcome
  have hstart : Trail.Resembles {} {} := ⟨rfl, rfl, rfl, .nil, rfl⟩
  obtain ⟨t', hrun', ht⟩ := h.evaluate hcatalog depth hstart hrun
  exact ⟨⟨detail, t'.records, t'.hashed⟩, Option.map_eq_some_iff.mpr ⟨(detail, t'), hrun', rfl⟩,
    rfl, ht.records, ht.hashed⟩

/-- Neither flag is evaluated further than the other. -/
theorem Setting.outcome?_resembles (hcatalog : setting.catalog.Resembles catalog)
    (h : flag.Resembles other) (depth : ℕ) :
    Option.Rel Outcome.Resembles (setting.outcome? depth flag)
      (Setting.outcome? { setting with catalog } depth other) := by
  cases houtcome : setting.outcome? depth flag with
  | some outcome =>
    obtain ⟨outcome', houtcome', houtcome⟩ := exists_outcome_resembles hcatalog h houtcome
    rw [houtcome']
    exact .some houtcome
  | none =>
    cases houtcome' : Setting.outcome? { setting with catalog } depth other with
    | none => exact .none
    | some outcome =>
      have hback : Catalog.Resembles ({ setting with catalog } : Setting).catalog setting.catalog :=
        hcatalog.symm
      obtain ⟨outcome', hfound, -⟩ := exists_outcome_resembles hback h.symm houtcome'
      cases houtcome.symm.trans hfound

end FeatureFlags
