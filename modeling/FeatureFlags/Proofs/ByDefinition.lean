import FeatureFlags.Proofs.Cycles

/-!
Evaluation by the definition of a flag. The definition goes from a flag to what it requires and keeps
no account of the way there, so it has no value for a flag that leads into a circle. For a flag from
which no circle is reached, evaluation comes to the value that the definition has.
-/
namespace FeatureFlags

open Evaluation Relation

namespace Flag

/-- Without a variation to serve, or with one that the flag does not have, the flag is malformed. -/
def served (flag : Flag) (index : Option Nat) (reason : Reason) : Detail Json :=
  match index.bind (flag.variations[·]?) with
  | some value => ⟨some value, index, reason⟩
  | none => ⟨none, none, .error .malformedFlag⟩

/-- A flag may have no off variation, and then it has no value while it is off. -/
def servedOff (flag : Flag) (reason : Reason) : Detail Json :=
  match flag.offVariation with
  | some index => flag.served (some index) reason
  | none => ⟨none, none, reason⟩

def resolved (setting : Setting) (flag : Flag) : Choice → Option Nat
  | .variation index => some index
  | .rollout shares => shares.pick (setting.place flag.key flag.salt shares.bucketBy)
  | .malformed _ => none

/-- The first target that lists the subject decides, else the first rule all of whose clauses match,
else the fallthrough. -/
def servedOn (setting : Setting) (member : Segment → Bool) (flag : Flag) : Detail Json :=
  match flag.targets.find? fun target => target.values.contains setting.subject.key with
  | some target => flag.served (some target.variation) .targetMatch
  | none =>
      match flag.rules.zipIdx.find? fun rule => rule.1.clauses.all (Clause.verdict setting member) with
      | some (rule, index) =>
          flag.served (flag.resolved setting rule.serve) (.ruleMatch index rule.id)
      | none => flag.served (flag.resolved setting flag.fallthrough) .fallthrough

/-- The first prerequisite that is missing, or whose flag does not have the variation that is
required of it, makes the flag count as off. -/
def byDefinition (setting : Setting) (member : Segment → Bool) (flag : Flag) :
    Option (Detail Json) := do
  if flag.on then
    let failed ← flag.prerequisites.findM? fun required => do
      match setting.catalog.flag? required.key with
      | none => return true
      | some other =>
          let detail ← other |>.byDefinition setting member
          return detail.variationIndex != some required.variation
    match failed with
    | some required => return flag.servedOff (.prerequisiteFailed required.key)
    | none => return flag.servedOn setting member
  else return flag.servedOff .off
partial_fixpoint

variable {setting : Setting} {room depth : ℕ} {flag : Flag} {detail : Detail Json}

theorem serveVariation_eq (flag : Flag) (index : Nat) (reason : Reason) :
    flag.serveVariation index reason = flag.served (some index) reason := by
  unfold serveVariation served
  rw [Option.bind_some]
  cases flag.variations[index]? with
  | none => rfl
  | some value => rfl

theorem serveOff_eq (flag : Flag) (reason : Reason) :
    flag.serveOff reason = flag.servedOff reason := by
  unfold serveOff servedOff
  cases flag.offVariation with
  | none => rfl
  | some index => exact flag.serveVariation_eq index reason

/-- The variation that a choice comes to depends on nothing that was evaluated before. -/
theorem choose_gives (flag : Flag) (choice : Choice) (opened : List String) :
    Gives (flag.choose setting choice) opened (flag.resolved setting choice) := by
  cases choice with
  | variation index => exact gives_pure _
  | rollout shares => exact (Setting.bucket_gives _ _ _).bind (gives_pure _)
  | malformed written => exact gives_pure _

theorem serve_gives (flag : Flag) (choice : Choice) (reason : Reason) (opened : List String) :
    Gives (flag.serve setting choice reason) opened
      (flag.served (flag.resolved setting choice) reason) := by
  unfold serve
  refine (flag.choose_gives choice opened).bind ?_
  cases flag.resolved setting choice with
  | none => exact gives_pure _
  | some index =>
    rw [← flag.serveVariation_eq index reason]
    exact gives_pure _

/-- Once the prerequisites are met, a flag serves what its definition says, given who the members of
segments are. -/
theorem serveMet_gives {member : Segment → Bool} {opened : List String}
    (hmember : ∀ key segment, setting.catalog.segment? key = some segment →
      Gives (segment.contains setting depth) opened (member segment)) (flag : Flag) :
    Gives (flag.serveMet setting depth) opened (flag.servedOn setting member) := by
  unfold serveMet servedOn targetFor? matchingRule
  cases flag.targets.find? fun target => target.values.contains setting.subject.key with
  | some target =>
    dsimp only
    rw [← flag.serveVariation_eq target.variation .targetMatch]
    exact gives_pure _
  | none =>
    have hrules : Gives (flag.rules.zipIdx.findM? fun rule => rule.1.clauses.allM
        (Clause.applies setting (Segment.contains setting depth))) opened
        (flag.rules.zipIdx.find? fun rule => rule.1.clauses.all (Clause.verdict setting member)) :=
      gives_findM? fun rule _ => gives_allM fun clause _ => Clause.applies_gives hmember clause
    refine hrules.bind ?_
    cases flag.rules.zipIdx.find? fun rule => rule.1.clauses.all (Clause.verdict setting member) with
    | none => exact flag.serve_gives _ _ opened
    | some rule => exact flag.serve_gives _ _ opened

/-- What is served depends on the segments only by the members that evaluation tells. -/
theorem ruled_eq (hroom : setting.catalog.Within room) (flag : Flag) :
    flag.ruled setting room = some (flag.servedOn setting (Segment.belongs setting room [])) := by
  obtain ⟨keys, hkeys, hlength⟩ := hroom
  have hmember : ∀ key segment, setting.catalog.segment? key = some segment →
      Gives (segment.contains setting room) [] (segment.belongs setting room []) :=
    fun key segment hfound =>
      Segment.gives_belongs (Segment.settled_contains_of_found hkeys hlength key segment hfound)
  obtain ⟨texts, hsettles⟩ := flag.serveMet_gives hmember
  unfold ruled
  rw [hsettles {} rfl]
  rfl

theorem findM?_of_plainlyUnmet? {serves : Flag → Option (Detail Json)} {member : Segment → Bool}
    (hserves : ∀ other detail, serves other = some detail →
      other.byDefinition setting member = some detail) {required : List Prerequisite}
    {out : Option Prerequisite} (h : plainlyUnmet? setting serves required = some out) :
    (required.findM? fun required => do
      match setting.catalog.flag? required.key with
      | none => return true
      | some other =>
          let detail ← byDefinition setting member other
          return detail.variationIndex != some required.variation) = some out := by
  induction required with
  | nil => exact h
  | cons required rest ih =>
    obtain ⟨met, hmet, hrest⟩ := Option.bind_eq_some_iff.mp h
    unfold plainlyMet? at hmet
    rw [List.findM?]
    cases hother : setting.catalog.flag? required.key with
    | none =>
      rw [hother] at hmet
      cases hmet
      exact hrest
    | some other =>
      rw [hother] at hmet
      obtain ⟨detail, hdetail, rfl⟩ := Option.map_eq_some_iff.mp hmet
      dsimp only
      rw [hserves other detail hdetail]
      by_cases hindex : detail.variationIndex = some required.variation
      · rw [if_pos (by simpa using hindex)] at hrest
        simp only [hindex, bne_self_eq_false, Option.pure_def, Option.bind_eq_bind,
          Option.bind_some]
        exact ih hrest
      · rw [if_neg (by simpa using hindex)] at hrest
        have hdiffers : (detail.variationIndex != some required.variation) = true := by
          simpa using hindex
        simp only [hdiffers, Option.pure_def, Option.bind_eq_bind, Option.bind_some]
        exact hrest

/-- What a flag serves plainly is what its definition says. -/
theorem byDefinition_of_plain? (hroom : setting.catalog.Within room)
    (h : flag.plain? setting room depth = some detail) :
    flag.byDefinition setting (Segment.belongs setting room []) = some detail := by
  induction depth generalizing flag detail with
  | zero => cases h
  | succ depth ih =>
    unfold plain? at h
    rw [byDefinition]
    cases hon : flag.on with
    | false =>
      rw [hon] at h
      cases h
      rw [serveOff_eq]
      rfl
    | true =>
      rw [if_pos hon] at h
      obtain ⟨out, hout, hserve⟩ := Option.bind_eq_some_iff.mp h
      rw [if_pos rfl]
      refine Option.bind_eq_some_iff.mpr ⟨out, findM?_of_plainlyUnmet? (fun _ _ => ih) hout, ?_⟩
      cases out with
      | none =>
        dsimp only at hserve
        rw [ruled_eq hroom] at hserve
        exact hserve
      | some required =>
        cases hserve
        rw [serveOff_eq]
        rfl

end Flag

namespace Catalog

def Requires (catalog : Catalog) (flag other : Flag) : Prop :=
  ∃ required ∈ flag.prerequisites, catalog.flag? required.key = some other

def ReachesCircle (catalog : Catalog) (flag : Flag) : Prop :=
  ∃ other, ReflTransGen catalog.Requires flag other ∧ TransGen catalog.Requires other other

variable {catalog : Catalog} {flag : Flag}

/-- No circle is reached from a flag if all flags require only flags of lower rank. -/
theorem not_reachesCircle_of_rank (rank : Flag → ℕ)
    (hrank : ∀ key flag, catalog.flag? key = some flag → ∀ other, catalog.Requires flag other →
      rank other < rank flag)
    {key : String} (hlive : catalog.flag? key = some flag) : ¬ catalog.ReachesCircle flag := by
  have hlower : ∀ {first last : Flag}, TransGen catalog.Requires first last →
      ∀ key, catalog.flag? key = some first → rank last < rank first := by
    intro first last hpath
    induction hpath using TransGen.head_induction_on with
    | single hstep => exact fun key hfirst => hrank key _ hfirst _ hstep
    | head hstep _ ih =>
      intro key hfirst
      have hnext := hrank key _ hfirst _ hstep
      obtain ⟨required, -, hother⟩ := hstep
      exact Nat.lt_trans (ih required.key hother) hnext
  rintro ⟨other, hreach, hcircle⟩
  obtain ⟨key', hfound⟩ : ∃ key', catalog.flag? key' = some other := by
    rcases ReflTransGen.cases_tail hreach with rfl | ⟨before, -, required, -, hother⟩
    · exact ⟨key, hlive⟩
    · exact ⟨required.key, hother⟩
  exact Nat.lt_irrefl _ (hlower hcircle key' hfound)

end Catalog

theorem Flag.Leads.requires {setting : Setting} {room : ℕ} {flag other : Flag}
    (h : flag.Leads setting room other) : setting.catalog.Requires flag other := by
  obtain ⟨required, ⟨-, before, after, hsplit, -⟩, hother⟩ := h
  refine ⟨required, ?_, hother⟩
  rw [hsplit]
  exact List.mem_append_right before List.mem_cons_self

namespace Dataset

/-- What the definition of a flag says, with the members of segments that evaluation tells. -/
def byDefinition (data : Dataset) (bucketer : Bucketer) (subject : Subject) (recording : Bool)
    (flag : Flag) : Option (Detail Json) :=
  flag.byDefinition (data.setting bucketer subject recording)
    (Segment.belongs (data.setting bucketer subject recording) (data.segments.size + 1) [])

/-- Where no circle is reached, evaluation comes to what the definition of the flag says. -/
theorem evaluation_by_definition (data : Dataset) (bucketer : Bucketer) (subject : Subject)
    (recording : Bool) (hself : data.catalog.SelfKeyed) {key : String} {flag : Flag}
    (hlive : data.flag? key = some flag) (hfree : ¬ data.catalog.ReachesCircle flag) :
    ∃ outcome, data.evaluate? bucketer subject flag recording = some outcome ∧
      data.byDefinition bucketer subject recording flag = some outcome.detail := by
  obtain ⟨detail, u, hrun⟩ := exists_evaluate_depth bucketer subject recording hself hlive
  have hroom := data.catalog_within
  have hcycle : u.cycle = false := by
    by_contra htrue
    rw [Bool.not_eq_false] at htrue
    obtain ⟨route, v, hrepeats⟩ :=
      Flag.exists_repeats hroom hself Trail.On.start List.not_mem_nil hrun htrue
    have hfound : data.catalog.flag? flag.key = some flag := by
      rw [hself key flag hlive]
      exact hlive
    obtain ⟨other, hreach, hcircle⟩ :=
      hrepeats.leads_into_circle hroom hself (Flag.Reached.start hfound)
    exact hfree ⟨other, hreach.lift id fun _ _ => Flag.Leads.requires,
      hcircle.lift id fun _ _ => Flag.Leads.requires⟩
  obtain ⟨⟨depth, hplain⟩, -⟩ := Flag.evaluate_plain hroom rfl hrun hcycle
  refine ⟨⟨detail, u.records, u.hashed⟩, ?_, Flag.byDefinition_of_plain? hroom hplain⟩
  change (flag.evaluate (data.setting bucketer subject recording) data.depth {}).map _ = _
  rw [hrun]
  rfl

def shop : Flag where
  key := "shop"
  offVariation := some 1
  variations := [.bool true, .bool false]

def requiringShop (key : String) (others : List Prerequisite) : Flag where
  key := key
  on := true
  prerequisites := others ++ [⟨"shop", 1⟩]
  offVariation := some 1
  fallthrough := .variation 0
  variations := [.bool true, .bool false]

/-- The bundle requires the shop and the price, which requires the shop as well. -/
def bundled : Dataset where
  flags := (((∅ : Keyed Descriptor).insert "bundle"
    (.ofItem (.flag (requiringShop "bundle" [⟨"price", 0⟩])))).insert "price"
    (.ofItem (.flag (requiringShop "price" [])))).insert "shop" (.ofItem (.flag shop))

/-- There are only these three flags. -/
theorem bundled_flag {key : String} {flag : Flag} (h : bundled.flag? key = some flag) :
    (key = "bundle" ∧ flag = requiringShop "bundle" [⟨"price", 0⟩]) ∨
      (key = "price" ∧ flag = requiringShop "price" []) ∨ (key = "shop" ∧ flag = shop) := by
  obtain ⟨descriptor, hmem, hflag⟩ := find_live_iff.mp h
  change (key, descriptor) ∈ [("bundle", Descriptor.ofItem (.flag (requiringShop "bundle"
    [⟨"price", 0⟩]))), ("price", Descriptor.ofItem (.flag (requiringShop "price" []))),
    ("shop", Descriptor.ofItem (.flag shop))] at hmem
  simp only [List.mem_cons, List.not_mem_nil, or_false] at hmem
  rcases hmem with heq | heq | heq <;> cases heq <;> cases hflag
  · exact .inl ⟨rfl, rfl⟩
  · exact .inr (.inl ⟨rfl, rfl⟩)
  · exact .inr (.inr ⟨rfl, rfl⟩)

/-- The shop is come to twice, and the second time is not a circle. -/
theorem bundled_by_definition :
    bundled.catalog.SelfKeyed ∧
      bundled.flag? "bundle" = some (requiringShop "bundle" [⟨"price", 0⟩]) ∧
      ¬ bundled.catalog.ReachesCircle (requiringShop "bundle" [⟨"price", 0⟩]) ∧
      bundled.byDefinition Murmur3.bucketer { key := "alice" } true
        (requiringShop "bundle" [⟨"price", 0⟩]) = some ⟨some (.bool true), some 0, .fallthrough⟩ := by
  have hself : bundled.catalog.SelfKeyed := by
    intro key flag hfound
    rcases bundled_flag hfound with ⟨rfl, rfl⟩ | ⟨rfl, rfl⟩ | ⟨rfl, rfl⟩ <;> rfl
  have hlive : bundled.flag? "bundle" = some (requiringShop "bundle" [⟨"price", 0⟩]) := rfl
  have hfound : bundled.catalog.flag? "bundle" = some (requiringShop "bundle" [⟨"price", 0⟩]) := rfl
  have hrank : ∀ key flag, bundled.catalog.flag? key = some flag → ∀ other,
      bundled.catalog.Requires flag other →
      other.prerequisites.length < flag.prerequisites.length := by
    rintro key flag hfound other ⟨required, hrequired, hother⟩
    rcases bundled_flag hfound with ⟨rfl, rfl⟩ | ⟨rfl, rfl⟩ | ⟨rfl, rfl⟩
    · rcases List.mem_pair.mp hrequired with rfl | rfl <;> cases hother <;> decide
    · rw [List.mem_singleton.mp hrequired] at hother
      cases hother
      decide
    · exact absurd hrequired List.not_mem_nil
  have hfree := Catalog.not_reachesCircle_of_rank (fun flag => flag.prerequisites.length) hrank
    hfound
  obtain ⟨outcome, houtcome, hdefinition⟩ :=
    evaluation_by_definition bundled Murmur3.bucketer { key := "alice" } true hself hlive hfree
  refine ⟨hself, hlive, hfree, hdefinition.trans (congrArg some ?_)⟩
  cases houtcome
  rfl

end Dataset

end FeatureFlags
