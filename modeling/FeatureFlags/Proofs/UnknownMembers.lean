import FeatureFlags.Proofs.Resemblance

/-!
What the records of a dataset make of members that they do not know. Most records pass over them. The
members of a rule that are not its own make up its choice, and a choice that is malformed keeps what it
was written as; so flags come out alike, and not the same.
-/
namespace FeatureFlags

open Growth

namespace WeightedVariation

def growth : Growth := Record ["variation", "weight"] fun _ => unchanged

theorem overlooked : growth.OverlookedBy decoder Eq := overlookedBy_flatRecord fun _ _ => rfl

theorem spelled : Spelled growth := spelled_record fun _ => spelled_unchanged

end WeightedVariation

namespace Rollout

def inner : String → Growth
  | "variations" => Items WeightedVariation.growth
  | _ => unchanged

def growth : Growth := Record ["variations", "bucketBy"] inner

theorem overlooked : growth.OverlookedBy decoder Eq := by
  refine overlookedBy_record (fun _ => rfl) (fun _ _ => rfl) fun members grown h => ?_
  refine rel_bind_eq (h.required_eq "variations" WeightedVariation.overlooked.items_eq) fun _ => ?_
  exact rel_bind_eq (h.optional_eq "bucketBy" overlookedBy_plain) fun _ => .some rfl

theorem spelled : Spelled growth := by
  refine spelled_record fun name => ?_
  unfold inner
  split
  · exact WeightedVariation.spelled.items
  · exact spelled_unchanged

end Rollout

namespace Choice

def memberNames : List String := ["variation", "rollout"]

def inner : String → Growth
  | "rollout" => Rollout.growth
  | _ => unchanged

def growth : Growth := Object memberNames inner

theorem spelled : Spelled growth := by
  refine spelled_object fun name => ?_
  unfold inner
  split
  · exact Rollout.spelled
  · exact spelled_unchanged

/-- A member is the same with unknown ones beside it. -/
theorem member?_eq {α : Type} {decoder : Decoder α} {room : Nat}
    {given grown : List (String × Document)} (h : Gains memberNames inner room given grown)
    (name : String) (hname : name ∈ memberNames) (hmember : (inner name).OverlookedBy decoder Eq) :
    member? name decoder (room + 1) (.object (given.map written)) =
      member? name decoder (room + 1) (.object (grown.map written)) := by
  simp only [member?, ofObject?_written, Option.bind_eq_bind, Option.bind_some]
  refine rel_eq_iff.mp (rel_bind (h.known? (List.cons_subset.mpr ⟨hname, List.nil_subset _⟩)) ?_)
  exact fun members grown hmembers => hmembers.required name hmember

theorem overlooked : growth.OverlookedBy decoder Resembles := by
  intro room document grown hgrowth
  have hspelled := spelled hgrowth
  cases hgrowth with
  | unchanged => exact rel_refl .refl _
  | members hgains =>
    have hindex : unchanged.OverlookedBy Decoder.word64 Eq := overlookedBy_unchanged fun _ => rfl
    have hvariation := member?_eq hgains "variation" (by decide) hindex
    have hrollout := member?_eq hgains "rollout" (by decide) Rollout.overlooked
    unfold decoder
    rw [hvariation, hrollout]
    refine rel_bind hspelled fun first second _ => ?_
    split
    · exact .some (.refl _)
    · split
      · exact .some (.refl _)
      · exact .some (.malformed first second)

end Choice

namespace Prerequisite

def growth : Growth := Record ["key", "variation"] fun _ => unchanged

theorem overlooked : growth.OverlookedBy decoder Eq := overlookedBy_flatRecord fun _ _ => rfl

end Prerequisite

namespace Target

def growth : Growth := Record ["values", "variation"] fun _ => unchanged

theorem overlooked : growth.OverlookedBy decoder Eq := overlookedBy_flatRecord fun _ _ => rfl

end Target

namespace Clause

def growth : Growth := Record ["attribute", "op", "values", "negate"] fun _ => unchanged

theorem overlooked : growth.OverlookedBy decoder Eq := overlookedBy_flatRecord fun _ _ => rfl

end Clause

namespace Flag.Rule

def inner : String → Growth
  | "clauses" => Items Clause.growth
  | name => Choice.inner name

def growth : Growth := Object (memberNames ++ Choice.memberNames) inner

theorem inner_eq_of_other {name : String} (h : memberNames.contains name = false) :
    inner name = Choice.inner name := by
  unfold inner
  split
  · exact absurd h (by decide)
  · rfl

theorem overlooked : growth.OverlookedBy decoder Resembles := by
  intro room document grown hgrowth
  cases hgrowth with
  | unchanged => exact rel_refl Resembles.refl _
  | @members room given grown hgains =>
    -- Without the rule's own members, the others grow as those of a choice do.
    have hothers : Gains Choice.memberNames Choice.inner room
        (given.filter (!memberNames.contains ·.1)) (grown.filter (!memberNames.contains ·.1)) := by
      refine (hgains.filter (!memberNames.contains ·)).mono (List.subset_append_right _ _) ?_
      intro member hmem
      exact inner_eq_of_other (Bool.not_eq_true' _ |>.mp (List.mem_filter.mp hmem).2)
    unfold decoder
    simp only [ofObject?_written, Option.bind_eq_bind, Option.bind_some]
    refine rel_bind (hgains.known? (List.subset_append_left _ _)) fun members grown h => ?_
    refine rel_bind_eq (h.defaulted_eq "id" overlookedBy_plain) fun _ => ?_
    refine rel_bind_eq (h.defaulted_eq "clauses" Clause.overlooked.items_eq) fun _ => ?_
    refine rel_bind (Choice.overlooked (.members hothers)) fun _ _ hserve => ?_
    exact rel_bind_eq (h.defaulted_eq "trackEvents" overlookedBy_plain) fun _ => .some ⟨rfl, hserve⟩

end Flag.Rule

namespace Flag

def inner : String → Growth
  | "prerequisites" => Items Prerequisite.growth
  | "targets" => Items Target.growth
  | "rules" => Items Flag.Rule.growth
  | "fallthrough" => Choice.growth
  | _ => unchanged

def growth : Growth := Record memberNames inner

theorem overlooked : growth.OverlookedBy decoder Resembles := by
  refine overlookedBy_record Resembles.refl (fun _ _ => rfl) fun members grown h => ?_
  refine rel_bind_eq (h.required_eq "key" overlookedBy_plain) fun _ => ?_
  refine rel_bind_eq (h.defaulted_eq "version" overlookedBy_plain) fun _ => ?_
  refine rel_bind_eq (h.defaulted_eq "on" overlookedBy_plain) fun _ => ?_
  refine rel_bind_eq (h.defaulted_eq "prerequisites" Prerequisite.overlooked.items_eq) fun _ => ?_
  refine rel_bind_eq (h.defaulted_eq "salt" overlookedBy_plain) fun _ => ?_
  refine rel_bind_eq (h.defaulted_eq "targets" Target.overlooked.items_eq) fun _ => ?_
  refine rel_bind (h.defaulted "rules" (Rule.overlooked.items Rule.Resembles.refl) .nil)
    fun _ _ hrules => ?_
  refine rel_bind (h.defaulted "fallthrough" Choice.overlooked (.refl _)) fun _ _ hfallthrough => ?_
  refine rel_bind_eq (h.optional_eq "offVariation" overlookedBy_plain) fun _ => ?_
  refine rel_bind_eq (h.defaulted_eq "variations" overlookedBy_plain) fun _ => ?_
  refine rel_bind_eq (h.defaulted_eq "trackEvents" overlookedBy_plain) fun _ => ?_
  refine rel_bind_eq (h.optional_eq "debugEventsUntilDate" overlookedBy_plain) fun _ => ?_
  refine rel_bind_eq (h.defaulted_eq "deleted" overlookedBy_plain) fun _ => ?_
  exact .some ⟨rfl, hrules, hfallthrough⟩

end Flag

namespace Segment

def Rule.inner : String → Growth
  | "clauses" => Items Clause.growth
  | _ => unchanged

def Rule.growth : Growth := Record ["id", "clauses", "weight", "bucketBy"] inner

theorem Rule.overlooked : growth.OverlookedBy decoder Eq := by
  refine overlookedBy_record (fun _ => rfl) (fun _ _ => rfl) fun members grown h => ?_
  refine rel_bind_eq (h.defaulted_eq "id" overlookedBy_plain) fun _ => ?_
  refine rel_bind_eq (h.defaulted_eq "clauses" Clause.overlooked.items_eq) fun _ => ?_
  refine rel_bind_eq (h.optional_eq "weight" overlookedBy_plain) fun _ => ?_
  exact rel_bind_eq (h.optional_eq "bucketBy" overlookedBy_plain) fun _ => .some rfl

def inner : String → Growth
  | "rules" => Items Rule.growth
  | _ => unchanged

def growth : Growth := Record memberNames inner

theorem overlooked : growth.OverlookedBy decoder Eq := by
  refine overlookedBy_record (fun _ => rfl) (fun _ _ => rfl) fun members grown h => ?_
  refine rel_bind_eq (h.required_eq "key" overlookedBy_plain) fun _ => ?_
  refine rel_bind_eq (h.defaulted_eq "version" overlookedBy_plain) fun _ => ?_
  refine rel_bind_eq (h.defaulted_eq "included" overlookedBy_plain) fun _ => ?_
  refine rel_bind_eq (h.defaulted_eq "excluded" overlookedBy_plain) fun _ => ?_
  refine rel_bind_eq (h.defaulted_eq "salt" overlookedBy_plain) fun _ => ?_
  refine rel_bind_eq (h.defaulted_eq "rules" Rule.overlooked.items_eq) fun _ => ?_
  exact rel_bind_eq (h.defaulted_eq "deleted" overlookedBy_plain) fun _ => .some rfl

end Segment

structure Definitions.Resembles (definitions other : Definitions) : Prop where
  flags : definitions.flags.Related Flag.Resembles other.flags
  segments : other.segments = definitions.segments

namespace Definitions

theorem Resembles.refl (definitions : Definitions) : definitions.Resembles definitions :=
  ⟨Keyed.related_refl Flag.Resembles.refl _, rfl⟩

def inner : String → Growth
  | "flags" => Table Flag.growth
  | "segments" => Table Segment.growth
  | _ => unchanged

/-- What an all-data document becomes when members are added to it, to its flags and segments and to
the records inside them. -/
def growth : Growth := Record ["flags", "segments"] inner

theorem overlooked : growth.OverlookedBy decoder Resembles := by
  refine overlookedBy_record Resembles.refl (fun _ _ => rfl) fun members grown h => ?_
  refine rel_bind (h.defaulted "flags" (Flag.overlooked.table Flag.Resembles.refl) .nil)
    fun _ _ hflags => ?_
  refine rel_bind (h.defaulted "segments" (Segment.overlooked.table fun _ => rfl) .nil)
    fun _ _ hsegments => ?_
  exact .some ⟨hflags, hsegments.eq.symm⟩

end Definitions

inductive Item.Resembles : Item → Item → Prop
  | flag {flag other : Flag} : flag.Resembles other → Resembles (.flag flag) (.flag other)
  | segment (segment : Segment) : Resembles (.segment segment) (.segment segment)

namespace Item.Resembles

theorem refl : ∀ item : Item, item.Resembles item
  | .flag f => .flag (.refl f)
  | .segment s => .segment s

theorem version {item other : Item} (h : item.Resembles other) : other.version = item.version := by
  cases h with
  | flag h => exact h.version
  | segment => rfl

theorem isDeleted {item other : Item} (h : item.Resembles other) :
    other.isDeleted = item.isDeleted := by
  cases h with
  | flag h => exact h.deleted
  | segment => rfl

end Item.Resembles

/-- The same version, and both deleted or both flags of this kind. -/
structure Descriptor.Resembles (descriptor other : Descriptor) : Prop where
  version : other.version = descriptor.version
  item : Option.Rel Item.Resembles descriptor.item other.item

def Descriptor.status (descriptor : Descriptor) : Nat × Bool :=
  (descriptor.version, descriptor.item.isNone)

theorem Descriptor.resembles_refl (descriptor : Descriptor) : descriptor.Resembles descriptor :=
  ⟨rfl, rel_refl Item.Resembles.refl _⟩

theorem Descriptor.Resembles.status {descriptor other : Descriptor} (h : descriptor.Resembles other) :
    other.status = descriptor.status := by
  obtain ⟨version, item⟩ := descriptor
  obtain ⟨version', item'⟩ := other
  obtain ⟨rfl, hitem⟩ := h
  cases hitem <;> rfl

theorem Item.Resembles.descriptor {item other : Item} (h : item.Resembles other) :
    (Descriptor.ofItem item).Resembles (.ofItem other) := by
  unfold Descriptor.ofItem
  rw [h.isDeleted, h.version]
  split
  · exact ⟨rfl, .none⟩
  · exact ⟨rfl, .some h⟩

structure Dataset.Resembles (data other : Dataset) : Prop where
  flags : data.flags.Related Descriptor.Resembles other.flags
  segments : other.segments = data.segments

namespace Dataset

/-- Definitions that resemble each other are stored as datasets that do. -/
theorem resembles_ofDefinitions {definitions other : Definitions} (h : definitions.Resembles other) :
    (ofDefinitions definitions).Resembles (ofDefinitions other) where
  flags := h.flags.map fun _ _ hflag => (Item.Resembles.flag hflag).descriptor
  segments := by
    unfold ofDefinitions
    rw [h.segments]

namespace Resembles

variable {data other : Dataset} (h : data.Resembles other)

include h

theorem find? (kind : Kind) (key : String) :
    Option.Rel Descriptor.Resembles (data.find? kind key) (other.find? kind key) := by
  cases kind with
  | flags => exact h.flags.get? key
  | segments =>
    unfold Dataset.find? entries
    rw [h.segments]
    exact rel_refl Descriptor.resembles_refl _

/-- Every key has the same version, and is deleted or not, in both. -/
theorem status (kind : Kind) (key : String) :
    (other.find? kind key).map Descriptor.status = (data.find? kind key).map Descriptor.status := by
  have hfound := rel_map (h.find? kind key) fun _ _ hdescriptor => hdescriptor.status.symm
  exact (rel_eq_iff.mp hfound).symm

theorem flag? (key : String) :
    Option.Rel Flag.Resembles (data.flag? key) (other.flag? key) := by
  refine rel_bind (rel_bind (h.find? .flags key) fun _ _ hdescriptor => hdescriptor.item) ?_
  rintro _ _ (hflag | segment)
  · exact .some hflag
  · exact .none

theorem catalog : data.catalog.Resembles other.catalog where
  flag := h.flag?
  segment := by
    funext key
    unfold Dataset.catalog segment? item? Dataset.find? entries
    rw [h.segments]

/-- Both datasets have the same depth. -/
theorem depth : other.depth = data.depth := by
  unfold Dataset.depth
  rw [h.segments, h.flags.size_eq]

/-- Flags of this kind are evaluated alike. -/
theorem evaluate? {flag flag' : Flag} (hflag : flag.Resembles flag') (bucketer : Bucketer)
    (subject : Subject) (recording : Bool) :
    Option.Rel Outcome.Resembles (data.evaluate? bucketer subject flag recording)
      (other.evaluate? bucketer subject flag' recording) := by
  let setting : Setting := ⟨data.catalog, subject, bucketer, recording⟩
  have hcatalog : setting.catalog.Resembles other.catalog := h.catalog
  unfold Dataset.evaluate?
  rw [h.depth]
  exact Setting.outcome?_resembles hcatalog hflag data.depth

end Resembles

/-- Members with names that are not known, and with values that read as JSON in the room left for them,
make no difference: the document still decodes, to the same keys, versions and deletions, and a flag
that is not deleted comes to the same outcomes, with records of the same flags but for how their
malformed choices were written. -/
theorem unknown_members_overlooked {document grown : Document} {definitions : Definitions}
    (hgrowth : Definitions.growth Document.maxDepth document grown)
    (hread : Definitions.decoder.run? document = some definitions) :
    ∃ definitions', Definitions.decoder.run? grown = some definitions' ∧
      (∀ kind key, ((ofDefinitions definitions').find? kind key).map Descriptor.status =
        ((ofDefinitions definitions).find? kind key).map Descriptor.status) ∧
      ∀ key flag, (ofDefinitions definitions).flag? key = some flag →
        ∃ flag', (ofDefinitions definitions').flag? key = some flag' ∧
          ∀ bucketer subject recording, Option.Rel Outcome.Resembles
            ((ofDefinitions definitions).evaluate? bucketer subject flag recording)
            ((ofDefinitions definitions').evaluate? bucketer subject flag' recording) := by
  have hread' := Definitions.overlooked hgrowth
  rw [show Definitions.decoder Document.maxDepth document = some definitions from hread] at hread'
  obtain ⟨definitions', hgrown, hdefinitions⟩ := exists_of_rel_some hread'
  have hdata := resembles_ofDefinitions hdefinitions
  refine ⟨definitions', hgrown, hdata.status, fun key flag hlive => ?_⟩
  obtain ⟨flag', hlive', hflag⟩ := exists_of_rel_some (hlive ▸ hdata.flag? key)
  exact ⟨flag', hlive', hdata.evaluate? hflag⟩

section

variable (more : List (String × Document))

def extended (members : List (String × Document)) : Document :=
  .object ((members ++ more).map written)

def fullShare : Document :=
  extended more [("variation", .number (some (.int 1))), ("weight", .number (some (.int 100000)))]

def rolloutRule : Document :=
  extended more [("rollout", extended more [("variations", .array [fullShare more])])]

def launchFlag : Document :=
  extended more [("key", .string (some "launch")), ("on", .bool true),
    ("rules", .array [rolloutRule more]), ("fallthrough", extended more []),
    ("variations", .array [.bool false, .bool true])]

def launchDocument : Document :=
  extended more [("flags", .object [(some "launch", launchFlag more)])]

end

def launch : Flag where
  key := "launch"
  on := true
  rules := [{ serve := .rollout { variations := [⟨1, 100000⟩] } }]
  fallthrough := .malformed (.object ∅)
  variations := [.bool false, .bool true]

def launchDefinitions : Definitions := { flags := .ofList [("launch", launch)] }

def note : String × Document := ("note", .array [.null])

/-- A note is added to the flag. -/
theorem launch_growth :
    Definitions.growth Document.maxDepth (launchDocument []) (launchDocument [note]) := by
  have hnote {known : List String} {inner : String → Growth} {room : ℕ} (h : "note" ∉ known) :
      Gains known inner (room + 1) [] [note] := .gain h rfl .nil
  have hshare : WeightedVariation.growth 120 (fullShare []) (fullShare [note]) :=
    .object (.members (.grow ⟨rfl, rfl⟩ (.grow ⟨rfl, rfl⟩ (hnote (by decide)))))
  have hrule : Flag.Rule.growth 123 (rolloutRule []) (rolloutRule [note]) := by
    refine .members (.grow ⟨rfl, Record.object (.members (.grow ⟨rfl, ?_⟩ ?_))⟩ ?_)
    · exact Items.items (.cons hshare .nil)
    · exact hnote (by decide)
    · exact hnote (by decide)
  have hlaunch : Flag.growth 125 (launchFlag []) (launchFlag [note]) := by
    refine .object (.members (.grow ⟨rfl, rfl⟩ (.grow ⟨rfl, rfl⟩ (.grow ⟨rfl, ?_⟩ (.grow ⟨rfl, ?_⟩
      (.grow ⟨rfl, rfl⟩ ?_))))))
    · exact Items.items (.cons hrule .nil)
    · exact Object.members (hnote (by decide))
    · exact hnote (by decide)
  refine .object (.members (.grow ⟨rfl, ?_⟩ ?_))
  · exact Table.members (.cons ⟨rfl, hlaunch⟩ .nil)
  · exact hnote (by decide)

theorem launch_noted : Definitions.decoder.run? (launchDocument []) = some launchDefinitions ∧
    ∃ definitions', Definitions.decoder.run? (launchDocument [note]) = some definitions' ∧
      (∀ kind key, ((ofDefinitions definitions').find? kind key).map Descriptor.status =
        ((ofDefinitions launchDefinitions).find? kind key).map Descriptor.status) ∧
      ∀ key flag, (ofDefinitions launchDefinitions).flag? key = some flag →
        ∃ flag', (ofDefinitions definitions').flag? key = some flag' ∧
          ∀ bucketer subject recording, Option.Rel Outcome.Resembles
            ((ofDefinitions launchDefinitions).evaluate? bucketer subject flag recording)
            ((ofDefinitions definitions').evaluate? bucketer subject flag' recording) :=
  ⟨rfl, unknown_members_overlooked launch_growth rfl⟩

end Dataset

end FeatureFlags
