import FeatureFlags.Flag
import FeatureFlags.Proofs.Growth

/-!
What a choice is read as. Any value of JSON is a choice: a variation if it gives an index, or else a
rollout if it gives shares, or else it is malformed and kept as it is. So a flag is read, or not,
whatever stands in the place of its choices, and apart from these it is read the same.
-/
namespace FeatureFlags

open Growth

/-- A value of JSON in which at most `room` arrays and objects stand inside one another: each name is
there once in an object, and the members are told in order. -/
inductive Json.Within : ℕ → Json → Prop
  | null {room : ℕ} : Within room .null
  | bool {room : ℕ} (value : Bool) : Within room (.bool value)
  | int {room : ℕ} (value : Int) : Within room (.int value)
  | float {room : ℕ} (value : Float) : Within room (.float value)
  | string {room : ℕ} (value : String) : Within room (.string value)
  | array {room : ℕ} {items : List Json} :
      (∀ item ∈ items, Within room item) → Within (room + 1) (.array items)
  | object {room : ℕ} {members : List (String × Json)} : Entries.Ordered members →
      (∀ member ∈ members, Within room member.2) → Within (room + 1) (.object members)

theorem Entries.ofList_of_ordered {α : Type} {entries : List (String × α)} (h : Ordered entries) :
    ofList entries = entries := ext (ofList_ordered entries) h (get?_ofList h)

namespace Document

def member? (name : String) : Document → Option Document
  | .object members => (members.find? (·.1 == some name)).map (·.2)
  | _ => none

/-- No name is there twice in an object. -/
def Unique : Document → Prop
  | .object members => (members.map (·.1)).Nodup
  | _ => True

theorem itemsToJson?_ofItems {room : ℕ} {items : List Json}
    (h : ∀ item ∈ items, (ofJson item).toJson? room = some item) :
    itemsToJson? room (ofItems items) = some items := by
  induction items with
  | nil => rfl
  | cons item rest ih =>
    obtain ⟨hitem, hrest⟩ := List.forall_mem_cons.mp h
    rw [ofItems, itemsToJson?, hitem, ih hrest]
    rfl

theorem membersToJson?_ofMembers {room : ℕ} {members : List (String × Json)}
    (h : ∀ member ∈ members, (ofJson member.2).toJson? room = some member.2) :
    membersToJson? room (ofMembers members) = some members := by
  induction members with
  | nil => rfl
  | cons member rest ih =>
    obtain ⟨hmember, hrest⟩ := List.forall_mem_cons.mp h
    rw [ofMembers, membersToJson?, hmember, ih hrest]
    rfl

/-- What a value is written as reads as the value. -/
theorem toJson?_ofJson {room : ℕ} {json : Json} (h : json.Within room) :
    (ofJson json).toJson? room = some json := by
  induction h with
  | null | bool | int | float | string => rfl
  | array _ ih =>
    rw [ofJson, toJson?, itemsToJson?_ofItems ih]
    rfl
  | object hordered _ ih =>
    rw [ofJson, toJson?, membersToJson?_ofMembers ih, Option.map_some, Json.ofMembers,
      Entries.ofList_of_ordered hordered]

theorem map_fst_ofMembers (members : List (String × Json)) :
    (ofMembers members).map (·.1) = members.map (some ·.1) := by
  induction members with
  | nil => rfl
  | cons member rest ih => rw [ofMembers, List.map_cons, List.map_cons, ih]

theorem unique_ofJson {room : ℕ} {json : Json} (h : json.Within room) : (ofJson json).Unique := by
  cases h with
  | null | bool | int | float | string | array => trivial
  | object hordered _ =>
    change ((ofMembers _).map (·.1)).Nodup
    rw [map_fst_ofMembers]
    refine List.pairwise_map.mpr (hordered.imp fun {member other} hlt heq => ?_)
    rw [Option.some.inj heq] at hlt
    exact String.lt_irrefl _ hlt

/-- The names of an object that reads as JSON spell text, and its members read as JSON. -/
theorem exists_written {room : ℕ} {members : List (Option String × Document)}
    (h : (membersToJson? room members).isSome) :
    ∃ given : List (String × Document), members = given.map written ∧
      ∀ member ∈ given, (member.2.toJson? room).isSome := by
  induction members with
  | nil => exact ⟨[], rfl, fun _ hmem => absurd hmem List.not_mem_nil⟩
  | cons member rest ih =>
    obtain ⟨name, value⟩ := member
    obtain ⟨all, hall⟩ := Option.isSome_iff_exists.mp h
    obtain ⟨name, rfl, hall⟩ := Option.bind_eq_some_iff.mp hall
    obtain ⟨json, hjson, hall⟩ := Option.bind_eq_some_iff.mp hall
    obtain ⟨others, hothers, -⟩ := Option.bind_eq_some_iff.mp hall
    obtain ⟨given, rfl, hgiven⟩ := ih (by rw [hothers]; rfl)
    refine ⟨(name, value) :: given, rfl, List.forall_mem_cons.mpr ⟨?_, hgiven⟩⟩
    rw [hjson]
    rfl

theorem isSome_membersToJson? {room : ℕ} {given : List (String × Document)}
    (h : ∀ member ∈ given, (member.2.toJson? room).isSome) :
    (membersToJson? room (given.map written)).isSome := by
  induction given with
  | nil => rfl
  | cons member rest ih =>
    obtain ⟨hmember, hrest⟩ := List.forall_mem_cons.mp h
    obtain ⟨json, hjson⟩ := Option.isSome_iff_exists.mp hmember
    obtain ⟨others, hothers⟩ := Option.isSome_iff_exists.mp (ih hrest)
    change ((member.2.toJson? room).bind fun value =>
      (membersToJson? room (rest.map written)).bind _).isSome
    rw [hjson, hothers]
    rfl

end Document

section

variable {given : List (String × Document)} {name : String}

/-- A selection of members by their names has the same member of a name that is selected. -/
theorem find?_filter_name (p : String → Bool) (hname : p name = true) :
    (given.filter (p ·.1)).find? (·.1 == name) = given.find? (·.1 == name) := by
  rw [List.find?_filter]
  congr
  funext member
  by_cases heq : member.1 = name
  · simp [heq, hname]
  · simp [heq]

theorem nodup_filter_names (p : String → Bool) (h : (given.map Prod.fst).Nodup) :
    ((given.filter (p ·.1)).map Prod.fst).Nodup :=
  h.sublist (List.filter_sublist.map Prod.fst)

theorem Members.known?_of_nodup (names : List String) (room : ℕ) (h : (given.map Prod.fst).Nodup) :
    known? names ⟨given, room⟩ = some ⟨given.filter (names.contains ·.1), room⟩ :=
  if_pos (nodup_filter_names names.contains h)

end

theorem Decoder.word64_eq_some_iff {room : ℕ} {document : Document} {n : Nat} :
    word64 room document = some n ↔ document = .number (some (.int n)) ∧ n < 1 <<< 64 := by
  unfold word64 natBelow
  rw [Option.map_eq_some_iff]
  constructor
  · rintro ⟨value, hvalue, rfl⟩
    unfold intBetween at hvalue
    split at hvalue
    · split at hvalue
      · next hrange =>
        cases hvalue
        obtain ⟨hlow, hhigh⟩ := hrange
        rw [Int.toNat_of_nonneg hlow]
        exact ⟨rfl, by omega⟩
      · cases hvalue
    · cases hvalue
  · rintro ⟨rfl, hlt⟩
    exact ⟨n, if_pos ⟨Int.natCast_nonneg n, by omega⟩, Int.toNat_natCast n⟩

namespace Choice

variable {room : ℕ} {document : Document} {json : Json}

theorem member?_object {α : Type} (decoder : Decoder α) (name : String)
    {given : List (String × Document)} (h : (given.map Prod.fst).Nodup) :
    member? name decoder (room + 1) (.object (given.map written)) =
      ((Document.object (given.map written)).member? name).bind (decoder room) := by
  have hsame : ((given.map written).find? (·.1 == some name)).map (·.2) =
      (given.find? (·.1 == name)).map (·.2) := by
    rw [List.find?_map, Option.map_map]
    rfl
  simp only [member?, ofObject?_written, Option.bind_eq_bind, Option.bind_some,
    Members.known?_of_nodup [name] room h, Members.required, Members.find?, Document.member?]
  rw [hsame, find?_filter_name [name].contains (by simp)]

/-- Of a value the members are read that it has, if it has any. -/
theorem member?_of_value {α : Type} (decoder : Decoder α) (name : String)
    (hvalue : document.toJson? room = some json) (hunique : document.Unique) :
    member? name decoder room document = (document.member? name).bind (decoder (room - 1)) := by
  cases document with
  | null | bool | number | string | array => cases room <;> rfl
  | object members =>
    cases room with
    | zero => cases hvalue
    | succ room =>
      obtain ⟨values, hvalues, -⟩ := Option.map_eq_some_iff.mp hvalue
      obtain ⟨given, rfl, -⟩ := Document.exists_written (by rw [hvalues]; rfl)
      have hnames : ((given.map Prod.fst).map some).Nodup := by
        rw [Document.Unique, List.map_map] at hunique
        rw [List.map_map]
        exact hunique
      exact member?_object decoder name
        (List.Pairwise.of_map some (fun _ _ hne heq => hne (congrArg some heq)) hnames)

/-- The document is an object whose member `variation` is this integer, which is an index. -/
def GivesIndex (document : Document) (index : Nat) : Prop :=
  document.member? "variation" = some (.number (some (.int index))) ∧ index < 1 <<< 64

/-- The document is an object whose member `rollout` reads as these shares. -/
def GivesShares (room : ℕ) (document : Document) (shares : Rollout) : Prop :=
  ∃ member, document.member? "rollout" = some member ∧
    Rollout.decoder (room - 1) member = some shares

/-- Which choice a document is that writes a value. -/
structure Sorts (room : ℕ) (document : Document) (json : Json) (choice : Choice) : Prop where
  variation : ∀ index, choice = .variation index ↔ GivesIndex document index
  rollout : ∀ shares, choice = .rollout shares ↔
    (∀ index, ¬ GivesIndex document index) ∧ GivesShares room document shares
  malformed : ∀ kept, choice = .malformed kept ↔
    (∀ index, ¬ GivesIndex document index) ∧ (∀ shares, ¬ GivesShares room document shares) ∧
      kept = json

theorem givesIndex_iff (hvalue : document.toJson? room = some json) (hunique : document.Unique)
    {index : Nat} :
    GivesIndex document index ↔ member? "variation" .word64 room document = some index := by
  rw [member?_of_value _ _ hvalue hunique, Option.bind_eq_some_iff]
  constructor
  · rintro ⟨hmember, hlt⟩
    exact ⟨_, hmember, Decoder.word64_eq_some_iff.mpr ⟨rfl, hlt⟩⟩
  · rintro ⟨member, hmember, hread⟩
    obtain ⟨rfl, hlt⟩ := Decoder.word64_eq_some_iff.mp hread
    exact ⟨hmember, hlt⟩

theorem givesShares_iff (hvalue : document.toJson? room = some json) (hunique : document.Unique)
    {shares : Rollout} :
    GivesShares room document shares ↔
      member? "rollout" Rollout.decoder room document = some shares := by
  rw [member?_of_value _ _ hvalue hunique, Option.bind_eq_some_iff]
  rfl

/-- Every value is a choice, and which one it is does not depend on anything but these members. -/
theorem decoder_sorts (hvalue : document.toJson? room = some json) (hunique : document.Unique) :
    ∃ choice, decoder room document = some choice ∧ Sorts room document json choice := by
  have hindex : ∀ index, GivesIndex document index ↔ _ := fun _ => givesIndex_iff hvalue hunique
  have hshares : ∀ shares, GivesShares room document shares ↔ _ :=
    fun _ => givesShares_iff hvalue hunique
  unfold decoder
  rw [hvalue, Option.bind_eq_bind, Option.bind_some]
  cases hvariation : member? "variation" Decoder.word64 room document with
  | some index =>
    refine ⟨.variation index, rfl, ⟨fun other => ?_, fun shares => ?_, fun kept => ?_⟩⟩
    · rw [hindex, hvariation, variation.injEq, Option.some.injEq]
    · have hgives : GivesIndex document index := (hindex index).mpr hvariation
      exact ⟨Choice.noConfusion, fun h => absurd hgives (h.1 index)⟩
    · have hgives : GivesIndex document index := (hindex index).mpr hvariation
      exact ⟨Choice.noConfusion, fun h => absurd hgives (h.1 index)⟩
  | none =>
    have hnone : ∀ index, ¬ GivesIndex document index := by
      intro index hgives
      rw [hindex, hvariation] at hgives
      cases hgives
    cases hrollout : member? "rollout" Rollout.decoder room document with
    | some shares =>
      refine ⟨.rollout shares, rfl, ⟨fun index => ?_, fun other => ?_, fun kept => ?_⟩⟩
      · exact ⟨Choice.noConfusion, fun h => absurd h (hnone index)⟩
      · rw [hshares, hrollout, rollout.injEq, Option.some.injEq]
        exact ⟨fun h => ⟨hnone, h⟩, And.right⟩
      · have hgives : GivesShares room document shares := (hshares shares).mpr hrollout
        exact ⟨Choice.noConfusion, fun h => absurd hgives (h.2.1 shares)⟩
    | none =>
      have hnone' : ∀ shares, ¬ GivesShares room document shares := by
        intro shares hgives
        rw [hshares, hrollout] at hgives
        cases hgives
      refine ⟨.malformed json, rfl, ⟨fun index => ?_, fun shares => ?_, fun kept => ?_⟩⟩
      · exact ⟨Choice.noConfusion, fun h => absurd h (hnone index)⟩
      · exact ⟨Choice.noConfusion, fun h => absurd h.2 (hnone' shares)⟩
      · rw [malformed.injEq]
        exact ⟨fun h => ⟨hnone, hnone', h.symm⟩, fun h => h.2.2.symm⟩

/-- Whatever reads as JSON is a choice. -/
theorem isSome_decoder (h : (document.toJson? room).isSome) : (decoder room document).isSome := by
  obtain ⟨json, hjson⟩ := Option.isSome_iff_exists.mp h
  unfold decoder
  rw [hjson, Option.bind_eq_bind, Option.bind_some]
  split
  · rfl
  · split <;> rfl

end Choice

namespace Growth

/-- The same members, but for those of free names: they may be there or not, with any values. -/
structure SameBut (free : String → Bool) (inner : String → Growth) (room : ℕ)
    (given other : List (String × Document)) : Prop where
  unique : (given.map Prod.fst).Nodup
  unique' : (other.map Prod.fst).Nodup
  same : List.Forall₂ (SameMember inner room) (given.filter (!free ·.1)) (other.filter (!free ·.1))
  reads : ∀ member ∈ given ++ other, free member.1 = true → (member.2.toJson? room).isSome

/-- A record with the same members but for those of free names. -/
inductive Recast (free : String → Bool) (names : List String) (inner : String → Growth) : Growth
  | unchanged (room document) : Recast free names inner room document document
  | object {room given other} : SameBut free inner room given other →
      Recast free names inner (room + 1) (.object (given.map written)) (.object (other.map written))
  | array {room given other} : SameBut free inner room given other →
      given.map Prod.fst <+: names → other.map Prod.fst <+: names →
      Recast free names inner (room + 1) (.array (given.map Prod.snd)) (.array (other.map Prod.snd))

variable {α : Type} {free : String → Bool} {names : List String} {inner : String → Growth} {room : ℕ}
  {given other : List (String × Document)} {decoder : Decoder α} {R : α → α → Prop} {name : String}

theorem rel_of_isSome {x y : Option α} (hx : x.isSome) (hy : y.isSome) :
    Option.Rel (fun _ _ => True) x y := by
  obtain ⟨a, rfl⟩ := Option.isSome_iff_exists.mp hx
  obtain ⟨b, rfl⟩ := Option.isSome_iff_exists.mp hy
  exact .some trivial

namespace SameBut

theorem filter (h : SameBut free inner room given other) (p : String → Bool) :
    SameBut free inner room (given.filter (p ·.1)) (other.filter (p ·.1)) where
  unique := nodup_filter_names p h.unique
  unique' := nodup_filter_names p h.unique'
  same := by
    rw [List.filter_comm, List.filter_comm (l := other)]
    refine List.rel_filter (fun member grown hmember => ?_) h.same
    change p member.1 = true ↔ p grown.1 = true
    rw [hmember.1]
  reads member hmem hfree := by
    rw [← List.filter_append] at hmem
    exact h.reads member (List.mem_filter.mp hmem).1 hfree

/-- Without the free members. -/
theorem grown (h : SameBut free inner room given other) :
    Members.Grown inner ⟨given.filter (!free ·.1), room⟩ ⟨other.filter (!free ·.1), room⟩ :=
  ⟨rfl, h.same⟩

theorem find?_bound (hname : free name = false) :
    Members.find? ⟨given.filter (!free ·.1), room⟩ name = Members.find? ⟨given, room⟩ name := by
  unfold Members.find?
  rw [find?_filter_name (!free ·) (by rw [hname]; rfl)]

theorem required_eq (h : SameBut free inner room given other) (name : String)
    (hname : free name = false) (hmember : (inner name).OverlookedBy decoder Eq) :
    Members.required ⟨given, room⟩ name decoder = Members.required ⟨other, room⟩ name decoder := by
  have hsame := h.grown.required_eq name hmember
  unfold Members.required at hsame ⊢
  rw [find?_bound hname, find?_bound hname] at hsame
  exact hsame

theorem defaulted (h : SameBut free inner room given other) (name : String)
    (hname : free name = false) {default : α} (hmember : (inner name).OverlookedBy decoder R)
    (hdefault : R default default) :
    Option.Rel R (Members.defaulted ⟨given, room⟩ name default decoder)
      (Members.defaulted ⟨other, room⟩ name default decoder) := by
  have hsame := h.grown.defaulted name hmember hdefault
  unfold Members.defaulted at hsame ⊢
  rw [find?_bound hname, find?_bound hname] at hsame
  exact hsame

theorem defaulted_eq (h : SameBut free inner room given other) (name : String)
    (hname : free name = false) {default : α} (hmember : (inner name).OverlookedBy decoder Eq) :
    Members.defaulted ⟨given, room⟩ name default decoder =
      Members.defaulted ⟨other, room⟩ name default decoder :=
  rel_eq_iff.mp (h.defaulted name hname hmember rfl)

theorem optional_eq (h : SameBut free inner room given other) (name : String)
    (hname : free name = false) (hmember : (inner name).OverlookedBy decoder.optional Eq) :
    Members.optional ⟨given, room⟩ name decoder = Members.optional ⟨other, room⟩ name decoder :=
  h.defaulted_eq name hname hmember

/-- A free member is read if everything is that reads as JSON. -/
theorem defaulted_free (h : SameBut free inner room given other) (name : String)
    (hname : free name = true) (default : α)
    (hdecoder : ∀ document : Document, (document.toJson? room).isSome →
      (decoder room document).isSome) :
    Option.Rel (fun _ _ => True) (Members.defaulted ⟨given, room⟩ name default decoder)
      (Members.defaulted ⟨other, room⟩ name default decoder) := by
  have hread (list : List (String × Document)) (hlist : ∀ member ∈ list, member ∈ given ++ other) :
      (Members.defaulted ⟨list, room⟩ name default decoder).isSome := by
    unfold Members.defaulted
    split
    · next document hfound =>
      obtain ⟨member, hmember, rfl⟩ := Option.map_eq_some_iff.mp hfound
      have hnamed : (member.1 == name) = true := by
        exact List.find?_some (p := fun entry : String × Document => entry.1 == name) hmember
      refine hdecoder member.2 (h.reads member (hlist member ?_) ?_)
      · exact List.mem_of_find?_eq_some hmember
      · rw [beq_iff_eq.mp hnamed]
        exact hname
    · rfl
  exact rel_of_isSome (hread given fun _ => List.mem_append_left other)
    (hread other fun _ => List.mem_append_right given)

end SameBut

/-- A record overlooks its free members if it does once its members are read. -/
theorem overlookedBy_recast {build : Members → Option α} (hrefl : ∀ a, R a a)
    (hdecoder : ∀ room document, decoder room document = (Members.read? names room document).bind build)
    (hbuild : ∀ room given other, SameBut free inner room given other →
      Option.Rel R (build ⟨given, room⟩) (build ⟨other, room⟩)) :
    (Recast free names inner).OverlookedBy decoder R := by
  intro room document other hrecast
  rw [hdecoder, hdecoder]
  cases hrecast with
  | unchanged => exact rel_refl hrefl _
  | object hsame =>
    simp only [Members.read?, ofObject?_written, Option.bind_some,
      Members.known?_of_nodup names _ hsame.unique, Members.known?_of_nodup names _ hsame.unique']
    exact hbuild _ _ _ (hsame.filter names.contains)
  | @array room given other hsame hgiven hother =>
    have hlength (list : List (String × Document)) (hlist : list.map Prod.fst <+: names) :
        (list.map Prod.snd).length ≤ names.length := by
      rw [List.length_map, ← List.length_map (f := Prod.fst)]
      exact hlist.length_le
    simp only [Members.read?]
    rw [if_pos (hlength given hgiven), if_pos (hlength other hother), zip_given hgiven,
      zip_given hother]
    exact hbuild _ _ _ hsame

end Growth

namespace Flag

/-- The same rule, but for its choice. -/
def Rule.SameButServe (rule other : Flag.Rule) : Prop := other = { rule with serve := other.serve }

theorem Rule.SameButServe.refl (rule : Flag.Rule) : rule.SameButServe rule := rfl

structure SameButChoices (flag other : Flag) : Prop where
  rest : other = { flag with rules := other.rules, fallthrough := other.fallthrough }
  rules : List.Forall₂ Rule.SameButServe flag.rules other.rules

theorem SameButChoices.refl (flag : Flag) : flag.SameButChoices flag :=
  ⟨rfl, List.forall₂_same.mpr fun rule _ => Rule.SameButServe.refl rule⟩

def Rule.recast : Growth := Recast (!memberNames.contains ·) [] fun _ => unchanged

def recastMember : String → Growth
  | "rules" => Items Rule.recast
  | _ => unchanged

/-- What becomes of a flag if its fallthrough is another one, or none, and so are the members of its
rules that are not their own. -/
def recast : Growth := Recast (· == "fallthrough") memberNames recastMember

theorem Rule.recast_overlooked : recast.OverlookedBy decoder SameButServe := by
  intro room document other hrecast
  cases hrecast with
  | unchanged => exact rel_refl SameButServe.refl _
  | array => exact .none
  | @object room given other hsame =>
    have hown : given.filter (memberNames.contains ·.1) = other.filter (memberNames.contains ·.1) := by
      have hgrown := hsame.grown.eq_of_unchanged
      simp only [Bool.not_not, Members.mk.injEq, and_true] at hgrown
      exact hgrown
    -- What is left besides the rule's own members is an object of members that read as JSON.
    have hserve (list : List (String × Document))
        (hlist : ∀ member ∈ list, member ∈ given ++ other) :
        (Choice.decoder (room + 1) (.object ((list.filter (!memberNames.contains ·.1)).map
          written))).isSome := by
      refine Choice.isSome_decoder ?_
      rw [Document.toJson?, Option.isSome_map]
      refine Document.isSome_membersToJson? fun member hmem => ?_
      obtain ⟨hmem, hfree⟩ := List.mem_filter.mp hmem
      exact hsame.reads member (hlist member hmem) hfree
    unfold decoder
    simp only [ofObject?_written, Option.bind_eq_bind, Option.bind_some,
      Members.known?_of_nodup memberNames _ hsame.unique,
      Members.known?_of_nodup memberNames _ hsame.unique', hown]
    refine rel_bind_eq rfl fun id => rel_bind_eq rfl fun clauses => ?_
    refine rel_bind (rel_of_isSome (hserve given fun _ => List.mem_append_left other)
      (hserve other fun _ => List.mem_append_right given)) fun _ _ _ => ?_
    exact rel_bind_eq rfl fun trackEvents => .some rfl

/-- Whether a flag is read, and what it is read as apart from its choices, does not depend on what stands
in the place of these. -/
theorem recast_overlooked : recast.OverlookedBy decoder SameButChoices := by
  refine overlookedBy_recast SameButChoices.refl (fun _ _ => rfl) fun room given other h => ?_
  refine rel_bind_eq (h.required_eq "key" rfl overlookedBy_plain) fun _ => ?_
  refine rel_bind_eq (h.defaulted_eq "version" rfl overlookedBy_plain) fun _ => ?_
  refine rel_bind_eq (h.defaulted_eq "on" rfl overlookedBy_plain) fun _ => ?_
  refine rel_bind_eq (h.defaulted_eq "prerequisites" rfl overlookedBy_plain) fun _ => ?_
  refine rel_bind_eq (h.defaulted_eq "salt" rfl overlookedBy_plain) fun _ => ?_
  refine rel_bind_eq (h.defaulted_eq "targets" rfl overlookedBy_plain) fun _ => ?_
  refine rel_bind (h.defaulted "rules" rfl (Rule.recast_overlooked.items Rule.SameButServe.refl) .nil)
    fun _ _ hrules => ?_
  refine rel_bind (h.defaulted_free "fallthrough" rfl _ fun _ => Choice.isSome_decoder)
    fun _ _ _ => ?_
  refine rel_bind_eq (h.optional_eq "offVariation" rfl overlookedBy_plain) fun _ => ?_
  refine rel_bind_eq (h.defaulted_eq "variations" rfl overlookedBy_plain) fun _ => ?_
  refine rel_bind_eq (h.defaulted_eq "trackEvents" rfl overlookedBy_plain) fun _ => ?_
  refine rel_bind_eq (h.optional_eq "debugEventsUntilDate" rfl overlookedBy_plain) fun _ => ?_
  refine rel_bind_eq (h.defaulted_eq "deleted" rfl overlookedBy_plain) fun _ => ?_
  exact .some ⟨rfl, hrules⟩

end Flag

end FeatureFlags
