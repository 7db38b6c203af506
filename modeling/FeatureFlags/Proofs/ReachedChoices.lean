import FeatureFlags.Proofs.Choices
import FeatureFlags.Proofs.FlagRuns

/-!
Whom a malformed choice concerns. An evaluation comes to a choice without a look at any other, or it has
its detail before. So what a malformed choice is written as makes no difference to those that do not
reach it, and those that do are told that the flag is malformed, as they are only if the flag
serves a variation that it does not have.
-/
namespace FeatureFlags

open Evaluation

namespace Rollout

theorem exists_pickFrom (bucket sum : Float) {entries : List WeightedVariation} (h : entries ≠ []) :
    ∃ weighted ∈ entries, pickFrom bucket sum entries = some weighted.variation := by
  induction entries generalizing sum with
  | nil => exact absurd rfl h
  | cons weighted rest ih =>
    cases rest with
    | nil => exact ⟨weighted, List.mem_cons_self, rfl⟩
    | cons next rest =>
      unfold pickFrom
      dsimp only
      split
      · exact ⟨weighted, List.mem_cons_self, rfl⟩
      · obtain ⟨picked, hmem, hpicked⟩ := ih (sum + share weighted.weight) (List.cons_ne_nil _ _)
        exact ⟨picked, List.mem_cons_of_mem _ hmem, hpicked⟩

end Rollout

namespace Evaluation

theorem eq_isLogical : IsLogical fun _ m m' => m = m' :=
  ⟨fun _ => rfl, fun hm hf => by rw [hm, funext hf]⟩

/-- To find an entry by a part of it is to find that part. -/
theorem findM?_zipIdx_map {ι κ : Type} (part : ι → κ) (p : κ → Evaluation Bool) (list : List ι)
    (start : ℕ) :
    ((list.map part).zipIdx start).findM? (fun entry => p entry.1) =
      (list.zipIdx start).findM? (fun entry => p (part entry.1)) >>= fun found =>
        pure (found.map fun entry => (part entry.1, entry.2)) := by
  induction list generalizing start with
  | nil => rfl
  | cons head rest ih =>
    rw [List.map_cons, List.zipIdx_cons, List.zipIdx_cons, findM?_cons, findM?_cons, bind_assoc, ih]
    congr
    funext found
    cases found <;> rfl

end Evaluation

namespace Flag

variable {setting : Setting} {depth : ℕ} {flag other : Flag} {t u : Trail} {detail : Detail Json}

/-- What an evaluation comes to: a detail that no choice has a part in, or a choice. -/
inductive Stop where
  | settled (detail : Detail Json)
  | rule (index : Nat)
  | fallthrough

/-- How far an evaluation goes without looking at a choice, once the prerequisites are met. -/
def comesToMet (setting : Setting) (depth : ℕ) (flag : Flag) : Evaluation Stop :=
  match flag.targetFor? setting.subject.key with
  | some target => return .settled (flag.serveVariation target.variation .targetMatch)
  | none => do
      let matched ← (flag.rules.map Flag.Rule.clauses).zipIdx.findM? fun clauses =>
        clauses.1.allM (Clause.applies setting (Segment.contains setting depth))
      match matched with
      | some (_, index) => return .rule index
      | none => return .fallthrough

/-- How far an evaluation goes without looking at a choice. -/
def comesTo (setting : Setting) : ℕ → Flag → Evaluation Stop
  | 0, _ => StateT.lift none
  | depth + 1, flag =>
      if !flag.on then pure (.settled (flag.serveOff .off))
      else flag.failedPrerequisite setting (evaluate setting depth) >>= fun failed =>
        match failed with
        | some required => pure (.settled (flag.serveOff (.prerequisiteFailed required.key)))
        | none => flag.comesToMet setting depth

def choiceAt? (flag : Flag) : Stop → Option Choice
  | .settled _ => none
  | .rule index => (flag.rules[index]?).map (·.serve)
  | .fallthrough => some flag.fallthrough

def serveAt (setting : Setting) (flag : Flag) : Stop → Evaluation (Detail Json)
  | .settled detail => return detail
  | .rule index =>
      match flag.rules[index]? with
      | some rule => flag.serve setting rule.serve (.ruleMatch index rule.id)
      | none => StateT.lift none
  | .fallthrough => flag.serve setting flag.fallthrough .fallthrough

theorem serveMet_eq_comesToMet (setting : Setting) (depth : ℕ) (flag : Flag) :
    flag.serveMet setting depth = flag.comesToMet setting depth >>= flag.serveAt setting := by
  unfold serveMet comesToMet
  cases flag.targetFor? setting.subject.key with
  | some target => rfl
  | none =>
    dsimp only
    rw [findM?_zipIdx_map Flag.Rule.clauses fun clauses =>
      clauses.allM (Clause.applies setting (Segment.contains setting depth)), bind_assoc, bind_assoc]
    refine eq_isLogical.bind_findM? _ _ (fun _ _ => rfl) (fun entry hentry => ?_) rfl
    have hrule := List.mem_zipIdx_iff_getElem?.mp hentry
    simp only [pure_bind, Option.map_some, serveAt, hrule]

/-- Evaluation goes as far as it does without looking at a choice, and then serves what it came to. -/
theorem evaluate_eq_comesTo (setting : Setting) (depth : ℕ) (flag : Flag) :
    flag.evaluate setting depth = flag.comesTo setting depth >>= flag.serveAt setting := by
  cases depth with
  | zero => rfl
  | succ depth =>
    rw [evaluate_succ, comesTo]
    split
    · rfl
    rw [bind_assoc]
    congr
    funext failed
    cases failed with
    | some required => rfl
    | none => exact flag.serveMet_eq_comesToMet setting depth

theorem comesTo_of_evaluate (h : flag.evaluate setting depth t = some (detail, u)) :
    ∃ stop v, flag.comesTo setting depth t = some (stop, v) ∧
      flag.serveAt setting stop v = some (detail, u) := by
  rw [evaluate_eq_comesTo] at h
  exact bind_eq_some_iff.mp h

theorem rel_getElem? {α β : Type} {R : α → β → Prop} {list : List α} {list' : List β}
    (h : List.Forall₂ R list list') (index : ℕ) : Option.Rel R list[index]? list'[index]? := by
  induction h generalizing index with
  | nil => exact .none
  | cons hhead _ ih =>
    cases index with
    | zero => exact .some hhead
    | succ index => exact ih index

namespace SameButChoices

theorem clauses_eq (h : flag.SameButChoices other) :
    other.rules.map Flag.Rule.clauses = flag.rules.map Flag.Rule.clauses := by
  have hclauses : List.Forall₂ Eq (flag.rules.map Flag.Rule.clauses)
      (other.rules.map Flag.Rule.clauses) := by
    rw [List.forall₂_map_left_iff, List.forall₂_map_right_iff]
    exact h.rules.imp fun rule rule' hrule => by rw [hrule]
  rw [List.forall₂_eq_eq_eq] at hclauses
  exact hclauses.symm

/-- How far that is does not depend on the choices of the flag. -/
theorem comesTo_eq (h : flag.SameButChoices other) :
    other.comesTo setting depth = flag.comesTo setting depth := by
  have hclauses := h.clauses_eq
  cases depth with
  | zero => rfl
  | succ depth =>
    rw [h.rest, comesTo, comesTo, comesToMet, comesToMet]
    dsimp only
    rw [hclauses]
    rfl

theorem serve_eq (h : flag.SameButChoices other) (choice : Choice) (reason : Reason) :
    other.serve setting choice reason = flag.serve setting choice reason := by
  rw [h.rest]
  rfl

/-- What is served depends on the one choice that was come to. -/
theorem serveAt_eq (h : flag.SameButChoices other) {stop : Stop}
    (hchoice : other.choiceAt? stop = flag.choiceAt? stop) :
    other.serveAt setting stop = flag.serveAt setting stop := by
  cases stop with
  | settled detail => rfl
  | rule index =>
    have hrule := rel_getElem? h.rules index
    rw [choiceAt?, choiceAt?] at hchoice
    rw [serveAt, serveAt]
    generalize flag.rules[index]? = found at hchoice hrule ⊢
    generalize other.rules[index]? = found' at hchoice hrule ⊢
    cases hrule with
    | none => rfl
    | @some rule rule' hsame =>
      have hserve : rule'.serve = rule.serve := Option.some.inj hchoice
      have hrule : rule' = rule := by rw [hsame, hserve]
      rw [hrule]
      exact h.serve_eq _ _
  | fallthrough =>
    have hfallthrough : other.fallthrough = flag.fallthrough := Option.some.inj hchoice
    rw [serveAt, serveAt, hfallthrough]
    exact h.serve_eq _ _

/-- A choice that is not reached makes no difference. -/
theorem evaluate_eq (h : flag.SameButChoices other)
    (hchoice : ∀ stop v, flag.comesTo setting depth t = some (stop, v) →
      other.choiceAt? stop = flag.choiceAt? stop) :
    other.evaluate setting depth t = flag.evaluate setting depth t := by
  rw [evaluate_eq_comesTo, evaluate_eq_comesTo, h.comesTo_eq, bind_apply, bind_apply]
  refine Option.bind_congr fun ⟨stop, v⟩ hstop => ?_
  rw [h.serveAt_eq (hchoice stop v hstop)]

end SameButChoices

/-- The evaluation comes to a choice that is malformed. -/
def ReachesMalformed (setting : Setting) (depth : ℕ) (flag : Flag) (t : Trail) : Prop :=
  ∃ stop v kept, flag.comesTo setting depth t = some (stop, v) ∧
    flag.choiceAt? stop = some (.malformed kept)

theorem serveAt_malformed {stop : Stop} {kept : Json}
    (h : flag.choiceAt? stop = some (.malformed kept)) :
    flag.serveAt setting stop t = some (.failed .malformedFlag, t) := by
  cases stop with
  | settled detail => cases h
  | rule index =>
    obtain ⟨rule, hrule, hserve⟩ := Option.map_eq_some_iff.mp h
    rw [serveAt, hrule]
    dsimp only
    rw [hserve]
    rfl
  | fallthrough =>
    have hfallthrough : flag.fallthrough = .malformed kept := Option.some.inj h
    rw [serveAt, hfallthrough]
    rfl

/-- A flag that comes to a malformed choice is malformed for the subject. -/
theorem ReachesMalformed.evaluate_eq (hreaches : flag.ReachesMalformed setting depth t)
    (h : flag.evaluate setting depth t = some (detail, u)) : detail = .failed .malformedFlag := by
  obtain ⟨stop, v, kept, hstop, hchoice⟩ := hreaches
  rw [evaluate_eq_comesTo, bind_apply, hstop, Option.bind_some, serveAt_malformed hchoice] at h
  cases h
  rfl

/-- A choice of variations that the flag has, as far as it can be understood. -/
def Has (flag : Flag) : Choice → Prop
  | .variation index => index < flag.variations.length
  | .rollout shares => shares.variations ≠ [] ∧
      ∀ weighted ∈ shares.variations, weighted.variation < flag.variations.length
  | .malformed _ => True

/-- The flag has the variations that it names. -/
structure Complete (flag : Flag) : Prop where
  offVariation : ∀ index ∈ flag.offVariation, index < flag.variations.length
  targets : ∀ target ∈ flag.targets, target.variation < flag.variations.length
  choices : ∀ choice ∈ flag.choices, flag.Has choice

section

variable (hcomplete : flag.Complete)

theorem serveVariation_reason {index : Nat} (h : index < flag.variations.length) (reason : Reason) :
    (flag.serveVariation index reason).reason = reason := by
  unfold serveVariation
  rw [List.getElem?_eq_getElem h]

include hcomplete

theorem serveOff_reason (reason : Reason) : (flag.serveOff reason).reason = reason := by
  unfold serveOff
  cases hindex : flag.offVariation with
  | none => rfl
  | some index => exact serveVariation_reason (hcomplete.offVariation index hindex) reason

/-- A choice that can be understood, of variations that are there, keeps the reason. -/
theorem serve_reason {choice : Choice} (hchoice : choice ∈ flag.choices)
    (hkept : ∀ kept, choice ≠ .malformed kept) {reason : Reason}
    (h : flag.serve setting choice reason t = some (detail, u)) : detail.reason = reason := by
  have hhas := hcomplete.choices choice hchoice
  cases choice with
  | variation index =>
    cases h
    exact serveVariation_reason hhas reason
  | rollout shares =>
    obtain ⟨hentries, hall⟩ := hhas
    obtain ⟨index, between, hchoose, hserve⟩ := bind_eq_some_iff.mp h
    obtain ⟨bucket, after, -, hpick⟩ := bind_eq_some_iff.mp hchoose
    obtain ⟨weighted, hmem, hpicked⟩ := Rollout.exists_pickFrom bucket 0 hentries
    have hindex : index = some weighted.variation := by
      cases hpick
      exact hpicked
    subst hindex
    cases hserve
    exact serveVariation_reason (hall weighted hmem) reason
  | malformed kept => exact absurd rfl (hkept kept)

/-- What is settled without a choice is no error. -/
theorem settled_reason {v : Trail} (h : flag.comesTo setting depth t = some (.settled detail, v)) :
    ∀ error, detail.reason ≠ .error error := by
  cases depth with
  | zero => cases h
  | succ depth =>
    rw [comesTo] at h
    split at h
    · cases h
      rw [serveOff_reason hcomplete]
      exact fun _ => Reason.noConfusion
    obtain ⟨failed, between, -, h⟩ := bind_eq_some_iff.mp h
    cases failed with
    | some required =>
      cases h
      rw [serveOff_reason hcomplete]
      exact fun _ => Reason.noConfusion
    | none =>
      dsimp only [comesToMet] at h
      cases htarget : flag.targetFor? setting.subject.key with
      | some target =>
        rw [htarget] at h
        cases h
        rw [serveVariation_reason (hcomplete.targets target (List.mem_of_find?_eq_some htarget))]
        exact fun _ => Reason.noConfusion
      | none =>
        rw [htarget] at h
        obtain ⟨matched, after, -, h⟩ := bind_eq_some_iff.mp h
        cases matched <;> cases h

/-- A flag that has the variations it names is malformed for none but those that reach a choice that is. -/
theorem reachesMalformed_of_evaluate (h : flag.evaluate setting depth t = some (detail, u))
    (hreason : detail.reason = .error .malformedFlag) : flag.ReachesMalformed setting depth t := by
  obtain ⟨stop, v, hstop, hserve⟩ := comesTo_of_evaluate h
  by_contra hnot
  have hkept : ∀ choice, flag.choiceAt? stop = some choice → ∀ kept, choice ≠ .malformed kept := by
    rintro choice hchoice kept rfl
    exact hnot ⟨stop, v, kept, hstop, hchoice⟩
  cases stop with
  | settled settled =>
    cases hserve
    exact settled_reason hcomplete hstop _ hreason
  | rule index =>
    rw [serveAt] at hserve
    cases hrule : flag.rules[index]? with
    | none =>
      rw [hrule] at hserve
      cases hserve
    | some rule =>
      rw [hrule] at hserve
      have hmem : rule.serve ∈ flag.choices :=
        List.mem_cons_of_mem _ (List.mem_map_of_mem (List.mem_of_getElem? hrule))
      have hserved := serve_reason hcomplete hmem
        (hkept rule.serve (by rw [choiceAt?, hrule]; rfl)) hserve
      rw [hserved] at hreason
      cases hreason
  | fallthrough =>
    have hserved := serve_reason hcomplete List.mem_cons_self (hkept flag.fallthrough rfl) hserve
    rw [hserved] at hreason
    cases hreason

end

end Flag

namespace Choice

/-- Every value is a choice, by what members it has; a flag is read the same whatever stands in the
place of its choices; and a malformed one concerns those that reach it, and no others. -/
theorem malformed_concerns_reached :
    (∀ (room : ℕ) (json : Json), json.Within room →
      (Document.ofJson json).toJson? room = some json ∧ (Document.ofJson json).Unique) ∧
    (∀ (room : ℕ) (document : Document) (json : Json), document.toJson? room = some json →
      document.Unique →
        ∃ choice, decoder room document = some choice ∧ Sorts room document json choice) ∧
    Flag.recast.OverlookedBy Flag.decoder Flag.SameButChoices ∧
    ∀ (setting : Setting) (depth : ℕ) (flag : Flag) (t : Trail),
      (∀ detail u, flag.evaluate setting depth t = some (detail, u) →
        (flag.ReachesMalformed setting depth t → detail = .failed .malformedFlag) ∧
        (flag.Complete → detail.reason = .error .malformedFlag →
          flag.ReachesMalformed setting depth t)) ∧
      ∀ other, flag.SameButChoices other →
        (∀ stop v, flag.comesTo setting depth t = some (stop, v) →
          other.choiceAt? stop = flag.choiceAt? stop) →
        other.evaluate setting depth t = flag.evaluate setting depth t := by
  refine ⟨fun room json h => ⟨Document.toJson?_ofJson h, Document.unique_ofJson h⟩,
    fun room document json => decoder_sorts, Flag.recast_overlooked, fun setting depth flag t => ?_⟩
  refine ⟨fun detail u h => ⟨fun hreaches => hreaches.evaluate_eq h, fun hcomplete =>
    Flag.reachesMalformed_of_evaluate hcomplete h⟩, fun other hother => hother.evaluate_eq⟩

def odd : Document := .object [(some "variation", .number (some (.int (-1))))]

def oddValue : Json := .object [("variation", .int (-1))]

def bannerMembers : List (String × Document) :=
  [("key", .string (some "banner")), ("on", .bool true),
    ("targets", .array [.object [(some "values", .array [.string (some "alice")]),
      (some "variation", .number (some (.int 0)))]]),
    ("variations", .array [.string (some "blue")])]

/-- Serves its only variation to `alice`, and to the others it is up to the choice. -/
def banner (choice : Choice) : Flag where
  key := "banner"
  on := true
  targets := [⟨["alice"], 0⟩]
  fallthrough := choice
  variations := [.string "blue"]

def bannerFor (key : String) : Setting :=
  ⟨Dataset.empty.catalog, { key }, Murmur3.bucketer, true⟩

theorem banner_recast : Flag.recast 127 (.object (bannerMembers.map Growth.written))
    (.object ((bannerMembers ++ [("fallthrough", odd)]).map Growth.written)) := by
  refine .object ⟨by decide, by decide, ?_, ?_⟩
  · exact .cons ⟨rfl, rfl⟩ (.cons ⟨rfl, rfl⟩ (.cons ⟨rfl, rfl⟩ (.cons ⟨rfl, rfl⟩ .nil)))
  · intro member hmem _
    simp only [bannerMembers, List.cons_append, List.nil_append, List.mem_cons, List.not_mem_nil,
      or_false] at hmem
    rcases hmem with rfl | rfl | rfl | rfl | rfl | rfl | rfl | rfl | rfl <;> rfl

/-- The odd choice is kept as it is, and it is no reason not to read the flag. It makes the flag
malformed for `bob`, and no difference to `alice`. -/
theorem odd_concerns_bob :
    decoder 127 odd = some (.malformed oddValue) ∧
      (∃ flag, Flag.decoder 127 (.object ((bannerMembers ++ [("fallthrough", odd)]).map
          Growth.written)) = some flag ∧ (banner (.malformed .null)).SameButChoices flag) ∧
      (∀ detail u, (banner (.malformed oddValue)).evaluate (bannerFor "bob") 1 {} = some (detail, u) →
        detail = .failed .malformedFlag) ∧
      (banner (.malformed oddValue)).evaluate (bannerFor "alice") 1 {} =
        (banner (.variation 0)).evaluate (bannerFor "alice") 1 {} := by
  obtain ⟨-, hsorts, hflags, hevaluation⟩ := malformed_concerns_reached
  refine ⟨?_, ?_, fun detail u hrun => ?_, ?_⟩
  · obtain ⟨choice, hchoice, hsorted⟩ := hsorts 127 odd oddValue rfl (List.pairwise_singleton _ _)
    rw [hchoice, (hsorted.malformed oddValue).mpr ⟨?_, ?_, rfl⟩]
    · rintro index ⟨hmember, -⟩
      cases hmember
    · rintro shares ⟨member, hmember, -⟩
      cases hmember
  · have hread := hflags banner_recast
    rw [show Flag.decoder 127 (.object (bannerMembers.map Growth.written)) =
      some (banner (.malformed .null)) from rfl] at hread
    exact exists_of_rel_some hread
  · exact ((hevaluation _ _ _ _).1 detail u hrun).1 ⟨.fallthrough, {}, oddValue, rfl, rfl⟩
  · refine (hevaluation _ _ _ _).2 _ ⟨rfl, .nil⟩ fun stop v hstop => ?_
    cases hstop
    rfl

end Choice

end FeatureFlags
