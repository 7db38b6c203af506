import FeatureFlags.Json.Record
import Mathlib.Data.List.Forall2

/-!
Documents that members were added to. A record passes over the members that it does not know, so it may
have more of them, and so may the records inside it. What a document may become in this way goes along
with how it is read: a growth says it for a document, and a decoder overlooks a growth if it reads what
was there before and what is there afterwards alike. The members that are added have to read as JSON,
since a choice keeps what it does not understand.
-/
namespace FeatureFlags

/-- What documents become where so many arrays and objects may stand inside one another. -/
abbrev Growth := Nat → Document → Document → Prop

section

variable {α α' β β' ι κ : Type}

theorem rel_refl {R : α → α → Prop} (hrefl : ∀ a, R a a) (x : Option α) : Option.Rel R x x := by
  cases x with
  | none => exact .none
  | some a => exact .some (hrefl a)

theorem rel_eq_iff {x y : Option α} : Option.Rel Eq x y ↔ x = y := by
  constructor
  · rintro (⟨rfl⟩ | -) <;> rfl
  · rintro rfl
    exact rel_refl (fun _ => rfl) x

theorem exists_of_rel_some {R : α → β → Prop} {a : α} {y : Option β} (h : Option.Rel R (some a) y) :
    ∃ b, y = some b ∧ R a b := by
  cases h with
  | some hR => exact ⟨_, rfl, hR⟩

/-- Related values go on to related ones where the steps relate them. -/
theorem rel_bind {R : α → α' → Prop} {S : β → β' → Prop} {x : Option α} {x' : Option α'}
    {f : α → Option β} {f' : α' → Option β'} (h : Option.Rel R x x')
    (hf : ∀ a a', R a a' → Option.Rel S (f a) (f' a')) : Option.Rel S (x.bind f) (x'.bind f') := by
  cases h with
  | none => exact .none
  | some hR => exact hf _ _ hR

theorem rel_bind_eq {S : β → β' → Prop} {x x' : Option α} {f : α → Option β} {f' : α → Option β'}
    (h : x = x') (hf : ∀ a, Option.Rel S (f a) (f' a)) : Option.Rel S (x.bind f) (x'.bind f') :=
  rel_bind (rel_eq_iff.mpr h) fun a _ ha => ha ▸ hf a

theorem rel_map {R : α → α' → Prop} {S : β → β' → Prop} {x : Option α} {x' : Option α'}
    {f : α → β} {f' : α' → β'} (h : Option.Rel R x x') (hf : ∀ a a', R a a' → S (f a) (f' a')) :
    Option.Rel S (x.map f) (x'.map f') := by
  cases h with
  | none => exact .none
  | some hR => exact .some (hf _ _ hR)

theorem rel_mapM {R : ι → κ → Prop} {S : α → β → Prop} {f : ι → Option α} {f' : κ → Option β}
    (hf : ∀ i k, R i k → Option.Rel S (f i) (f' k)) {list : List ι} {list' : List κ}
    (h : List.Forall₂ R list list') :
    Option.Rel (List.Forall₂ S) (list.mapM f) (list'.mapM f') := by
  induction h with
  | nil => exact .some .nil
  | cons hhead _ ih =>
    rw [List.mapM_cons, List.mapM_cons]
    exact rel_bind (hf _ _ hhead) fun _ _ hfirst =>
      rel_bind ih fun _ _ hrest => .some (.cons hfirst hrest)

end

def Entries.Related {α β : Type} (R : α → β → Prop) :
    List (String × α) → List (String × β) → Prop :=
  List.Forall₂ fun entry other => entry.1 = other.1 ∧ R entry.2 other.2

def Keyed.Related {α β : Type} (R : α → β → Prop) (table : Keyed α) (other : Keyed β) : Prop :=
  Entries.Related R table.toList other.toList

section

variable {α β α' β' : Type} {R : α → β → Prop} {S : α' → β' → Prop}
  {entries : List (String × α)} {others : List (String × β)}

namespace Entries

/-- Tables stay related when related values are bound to a name. -/
theorem Related.insert (h : Related R entries others) (name : String) {value : α} {value' : β}
    (hvalue : R value value') :
    Related R (Entries.insert name value entries) (Entries.insert name value' others) := by
  induction h with
  | nil => exact .cons ⟨rfl, hvalue⟩ .nil
  | @cons entry other _ _ hentry hrest ih =>
    obtain ⟨n, old⟩ := entry
    obtain ⟨n', old'⟩ := other
    obtain ⟨rfl, hold⟩ : n = n' ∧ R old old' := hentry
    unfold Entries.insert
    split
    · exact .cons ⟨rfl, hvalue⟩ (.cons ⟨rfl, hold⟩ hrest)
    · split
      · exact .cons ⟨rfl, hvalue⟩ hrest
      · exact .cons ⟨rfl, hold⟩ ih

theorem Related.get? (h : Related R entries others) (name : String) :
    Option.Rel R (Entries.get? name entries) (Entries.get? name others) := by
  induction h with
  | nil => exact .none
  | cons hentry _ ih =>
    unfold Entries.get?
    rw [hentry.1]
    split
    · exact .some hentry.2
    · exact ih

end Entries

namespace Keyed

/-- Tables made of related entries are related. -/
theorem related_ofList (h : Entries.Related R entries others) :
    (ofList entries).Related R (ofList others) := by
  suffices hfold : ∀ table table', Entries.Related R table table' → Entries.Related R
      (entries.foldl (fun table entry => Entries.insert entry.1 entry.2 table) table)
      (others.foldl (fun table entry => Entries.insert entry.1 entry.2 table) table') from
    hfold [] [] .nil
  induction h with
  | nil => exact fun _ _ htable => htable
  | @cons entry other _ _ hentry _ ih =>
    intro table table' htable
    rw [List.foldl_cons, List.foldl_cons, ← hentry.1]
    exact ih _ _ (htable.insert entry.1 hentry.2)

theorem Related.get? {table : Keyed α} {other : Keyed β} (h : table.Related R other)
    (name : String) : Option.Rel R (table.get? name) (other.get? name) :=
  Entries.Related.get? h name

theorem Related.size_eq {table : Keyed α} {other : Keyed β} (h : table.Related R other) :
    table.size = other.size := h.length_eq

theorem Related.map {table : Keyed α} {other : Keyed β} {f : α → α'} {g : β → β'}
    (h : table.Related R other) (hmap : ∀ a b, R a b → S (f a) (g b)) :
    (table.map f).Related S (other.map g) := by
  change List.Forall₂ _ (table.entries.map _) (other.entries.map _)
  rw [List.forall₂_map_left_iff, List.forall₂_map_right_iff]
  exact h.imp fun _ _ hentry => ⟨hentry.1, hmap _ _ hentry.2⟩

end Keyed

theorem Keyed.related_refl {R : α → α → Prop} (hrefl : ∀ a, R a a) (table : Keyed α) :
    table.Related R table := List.forall₂_same.mpr fun entry _ => ⟨rfl, hrefl entry.2⟩

theorem Keyed.Related.eq {table other : Keyed α} (h : table.Related Eq other) : table = other :=
  Keyed.ext_get? fun name => rel_eq_iff.mp (h.get? name)

end

namespace Growth

def unchanged : Growth := fun _ document grown => document = grown

def written : String × Document → Option String × Document := fun (name, value) => (some name, value)

def SameMember (inner : String → Growth) (room : Nat) (member grown : String × Document) : Prop :=
  member.1 = grown.1 ∧ inner member.1 room member.2 grown.2

/-- Members grow by their names, and there may be more of them with names that are not known. -/
inductive Gains (known : List String) (inner : String → Growth) (room : Nat) :
    List (String × Document) → List (String × Document) → Prop
  | nil : Gains known inner room [] []
  | grow {member grown rest more} : SameMember inner room member grown →
      Gains known inner room rest more → Gains known inner room (member :: rest) (grown :: more)
  | gain {name value rest more} : name ∉ known → (Document.toJson? room value).isSome →
      Gains known inner room rest more → Gains known inner room rest ((name, value) :: more)

/-- An object may have more members. -/
inductive Object (known : List String) (inner : String → Growth) : Growth
  | unchanged (room document) : Object known inner room document document
  | members {room given grown} : Gains known inner room given grown →
      Object known inner (room + 1) (.object (given.map written)) (.object (grown.map written))

/-- A record that is written as an array has no room for more members, but what is inside it may
have. -/
inductive Record (names : List String) (inner : String → Growth) : Growth
  | object {room document grown} : Object names inner room document grown →
      Record names inner room document grown
  | array {room given grown} : List.Forall₂ (SameMember inner room) given grown →
      given.map Prod.fst <+: names →
      Record names inner (room + 1) (.array (given.map Prod.snd)) (.array (grown.map Prod.snd))

inductive Items (inner : Growth) : Growth
  | unchanged (room document) : Items inner room document document
  | items {room items grown} : List.Forall₂ (inner room) items grown →
      Items inner (room + 1) (.array items) (.array grown)

inductive Table (inner : Growth) : Growth
  | unchanged (room document) : Table inner room document document
  | members {room members grown} :
      List.Forall₂ (fun member grown => member.1 = grown.1 ∧ inner room member.2 grown.2)
        members grown →
      Table inner (room + 1) (.object members) (.object grown)

def OverlookedBy {α : Type} (growth : Growth) (decoder : Decoder α) (R : α → α → Prop) : Prop :=
  ∀ ⦃room document grown⦄, growth room document grown →
    Option.Rel R (decoder room document) (decoder room grown)

section

variable {α : Type} {inner growth : Growth} {decoder : Decoder α} {R : α → α → Prop}

theorem overlookedBy_unchanged (hrefl : ∀ a, R a a) : unchanged.OverlookedBy decoder R := by
  rintro room document _ rfl
  exact rel_refl hrefl _

theorem overlookedBy_plain : unchanged.OverlookedBy decoder Eq := overlookedBy_unchanged fun _ => rfl

/-- Lists are read alike if their items are. -/
theorem OverlookedBy.items (h : inner.OverlookedBy decoder R) (hrefl : ∀ a, R a a) :
    (Items inner).OverlookedBy decoder.list (List.Forall₂ R) := by
  intro room document grown hgrowth
  cases hgrowth with
  | unchanged => exact rel_refl (fun list => List.forall₂_same.mpr fun a _ => hrefl a) _
  | items hitems => exact rel_mapM (fun _ _ hitem => h hitem) hitems

theorem OverlookedBy.items_eq (h : inner.OverlookedBy decoder Eq) :
    (Items inner).OverlookedBy decoder.list Eq := by
  intro room document grown hgrowth
  have hlists := h.items (fun _ => rfl) hgrowth
  rw [List.forall₂_eq_eq_eq] at hlists
  exact hlists

/-- Of a repeated name the last value stands, in both. -/
theorem OverlookedBy.table (h : inner.OverlookedBy decoder R) (hrefl : ∀ a, R a a) :
    (Table inner).OverlookedBy decoder.table (Keyed.Related R) := by
  intro room document grown hgrowth
  cases hgrowth with
  | unchanged => exact rel_refl (Keyed.related_refl hrefl) _
  | members hmembers =>
    refine rel_map (rel_mapM (fun member grown hmember => ?_) hmembers)
      fun _ _ hentries => Keyed.related_ofList hentries
    unfold Decoder.entry
    rw [hmember.1]
    exact rel_bind (rel_refl (fun _ => rfl) _) fun name name' hname =>
      rel_bind (h hmember.2) fun value value' hvalue => .some ⟨hname, hvalue⟩

end

section

variable {known names : List String} {inner : String → Growth} {room : Nat}
  {given grown : List (String × Document)}

theorem ofObject?_written (room : Nat) (given : List (String × Document)) :
    Members.ofObject? (room + 1) (.object (given.map written)) = some ⟨given, room⟩ := by
  have hentries : (given.map written).mapM
      (Decoder.entry (fun _ document => some document) room) = some given := by
    induction given with
    | nil => rfl
    | cons member rest ih =>
      rw [List.map_cons, List.mapM_cons, ih]
      rfl
  simp only [Members.ofObject?]
  rw [hentries]
  rfl

theorem zip_given (h : given.map Prod.fst <+: names) : names.zip (given.map Prod.snd) = given := by
  obtain ⟨rest, rfl⟩ := h
  induction given with
  | nil => simp
  | cons member others ih => simp [ih]

theorem map_fst_eq (h : List.Forall₂ (SameMember inner room) given grown) :
    given.map Prod.fst = grown.map Prod.fst := by
  induction h with
  | nil => rfl
  | cons hmember _ ih => rw [List.map_cons, List.map_cons, hmember.1, ih]

theorem rel_find? (h : List.Forall₂ (SameMember inner room) given grown) (name : String) :
    Option.Rel (inner name room) ((given.find? (·.1 == name)).map (·.2))
      ((grown.find? (·.1 == name)).map (·.2)) := by
  induction h with
  | nil => exact .none
  | @cons member other rest more hmember _ ih =>
    obtain ⟨hname, hvalue⟩ := hmember
    rw [List.find?_cons, List.find?_cons, ← hname]
    by_cases heq : member.1 = name
    · subst heq
      rw [beq_self_eq_true]
      exact .some hvalue
    · rw [beq_eq_false_iff_ne.mpr heq]
      exact ih

theorem Gains.filter (h : Gains known inner room given grown) (p : String → Bool) :
    Gains known inner room (given.filter (p ·.1)) (grown.filter (p ·.1)) := by
  induction h with
  | nil => exact .nil
  | @grow member grown rest more hmember _ ih =>
    rw [List.filter_cons, List.filter_cons, ← hmember.1]
    split
    · exact .grow hmember ih
    · exact ih
  | gain hname hvalue _ ih =>
    rw [List.filter_cons]
    split
    · exact .gain hname hvalue ih
    · exact ih

/-- With fewer names known, as long as the members there are grow alike. -/
theorem Gains.mono {known' : List String} {inner' : String → Growth}
    (h : Gains known inner room given grown) (hknown : known' ⊆ known)
    (hinner : ∀ member ∈ given, inner member.1 = inner' member.1) :
    Gains known' inner' room given grown := by
  induction h with
  | nil => exact .nil
  | @grow member _ _ _ hmember _ ih =>
    refine .grow ⟨hmember.1, ?_⟩ (ih fun other hmem => hinner other (List.mem_cons_of_mem _ hmem))
    exact hinner member List.mem_cons_self ▸ hmember.2
  | gain hname hvalue _ ih => exact .gain (fun hmem => hname (hknown hmem)) hvalue (ih hinner)

/-- Among known names nothing is added. -/
theorem Gains.forall₂ (h : Gains known inner room given grown)
    (hknown : ∀ member ∈ grown, member.1 ∈ known) :
    List.Forall₂ (SameMember inner room) given grown := by
  induction h with
  | nil => exact .nil
  | grow hmember _ ih =>
    exact .cons hmember (ih fun member hmem => hknown member (List.mem_cons_of_mem _ hmem))
  | gain hname _ _ _ => exact absurd (hknown _ List.mem_cons_self) hname

end

end Growth

open Growth

/-- The members that were read of a record that has grown. -/
structure Members.Grown (inner : String → Growth) (members grown : Members) : Prop where
  room : members.room = grown.room
  given : List.Forall₂ (SameMember inner members.room) members.given grown.given

namespace Members

section

variable {α : Type} {inner : String → Growth} {members grown : Members}
  {decoder : Decoder α} {R : α → α → Prop}

theorem Grown.find? (h : members.Grown inner grown) (name : String) :
    Option.Rel (inner name members.room) (members.find? name) (grown.find? name) :=
  rel_find? h.given name

/-- A member that has to be there reads alike in what has grown. -/
theorem Grown.required (h : members.Grown inner grown) (name : String)
    (hmember : (inner name).OverlookedBy decoder R) :
    Option.Rel R (members.required name decoder) (grown.required name decoder) := by
  unfold Members.required
  rw [← h.room]
  exact rel_bind (h.find? name) fun _ _ hvalue => hmember hvalue

/-- So does one that has a default. -/
theorem Grown.defaulted (h : members.Grown inner grown) (name : String) {default : α}
    (hmember : (inner name).OverlookedBy decoder R) (hdefault : R default default) :
    Option.Rel R (members.defaulted name default decoder) (grown.defaulted name default decoder) := by
  have hfound := h.find? name
  unfold Members.defaulted
  rw [← h.room]
  generalize members.find? name = found at hfound
  generalize grown.find? name = found' at hfound
  cases hfound with
  | none => exact .some hdefault
  | some hvalue => exact hmember hvalue

/-- A member that reads the same. -/
theorem Grown.required_eq (h : members.Grown inner grown) (name : String)
    (hmember : (inner name).OverlookedBy decoder Eq) :
    members.required name decoder = grown.required name decoder :=
  rel_eq_iff.mp (h.required name hmember)

theorem Grown.defaulted_eq (h : members.Grown inner grown) (name : String) {default : α}
    (hmember : (inner name).OverlookedBy decoder Eq) :
    members.defaulted name default decoder = grown.defaulted name default decoder :=
  rel_eq_iff.mp (h.defaulted name hmember rfl)

theorem Grown.optional_eq (h : members.Grown inner grown) (name : String)
    (hmember : (inner name).OverlookedBy decoder.optional Eq) :
    members.optional name decoder = grown.optional name decoder := h.defaulted_eq name hmember

theorem Grown.eq_of_unchanged (h : members.Grown (fun _ => unchanged) grown) : members = grown := by
  obtain ⟨given, room⟩ := members
  obtain ⟨grown, room'⟩ := grown
  obtain ⟨rfl, hgiven⟩ := h
  have hsame : List.Forall₂ Eq given grown :=
    hgiven.imp fun member other hmember => Prod.ext hmember.1 hmember.2
  rw [List.forall₂_eq_eq_eq] at hsame
  rw [hsame]

end

end Members

namespace Growth

section

variable {α : Type} {known names : List String} {inner : String → Growth} {room : Nat}
  {given grown : List (String × Document)}

/-- New members with unknown names are passed over. -/
theorem Gains.known? (h : Gains known inner room given grown) (hnames : names ⊆ known) :
    Option.Rel (Members.Grown inner) (Members.known? names ⟨given, room⟩)
      (Members.known? names ⟨grown, room⟩) := by
  have hsame := (h.filter names.contains).forall₂ fun member hmem =>
    hnames (List.contains_iff_mem.mp (List.mem_filter.mp hmem).2)
  unfold Members.known?
  dsimp only
  rw [map_fst_eq hsame]
  split
  · exact .some ⟨rfl, hsame⟩
  · exact .none

/-- A record overlooks a growth if it does once its members are read. -/
theorem overlookedBy_record {decoder : Decoder α} {R : α → α → Prop} {build : Members → Option α}
    (hrefl : ∀ a, R a a)
    (hdecoder : ∀ room document, decoder room document = (Members.read? names room document).bind build)
    (hbuild : ∀ members grown, members.Grown inner grown → Option.Rel R (build members) (build grown)) :
    (Record names inner).OverlookedBy decoder R := by
  intro room document grown hgrowth
  cases hgrowth with
  | object hobject =>
    cases hobject with
    | unchanged => exact rel_refl hrefl _
    | members hgains =>
      rw [hdecoder, hdecoder]
      simp only [Members.read?, ofObject?_written, Option.bind_some]
      exact rel_bind (hgains.known? (List.Subset.refl names)) hbuild
  | @array room given grown hsame hnames =>
    have hlength : (given.map Prod.snd).length = (grown.map Prod.snd).length := by
      rw [List.length_map, List.length_map, hsame.length_eq]
    rw [hdecoder, hdecoder]
    simp only [Members.read?]
    rw [zip_given hnames, zip_given (map_fst_eq hsame ▸ hnames), hlength]
    split
    · exact hbuild _ _ ⟨rfl, hsame⟩
    · exact .none

/-- Of a record of simple members nothing is left to be told apart. -/
theorem overlookedBy_flatRecord {decoder : Decoder α} {build : Members → Option α}
    (hdecoder : ∀ room document,
      decoder room document = (Members.read? names room document).bind build) :
    (Record names fun _ => unchanged).OverlookedBy decoder Eq :=
  overlookedBy_record (fun _ => rfl) hdecoder fun _ _ hmembers =>
    hmembers.eq_of_unchanged ▸ rel_refl (fun _ => rfl) _

end

def Spelled (growth : Growth) : Prop :=
  growth.OverlookedBy Document.toJson? fun _ _ => True

section

variable {known names : List String} {inner : String → Growth} {room : Nat}

theorem spelled_unchanged : Spelled unchanged := overlookedBy_unchanged fun _ => trivial

theorem spelled_items {items grown : List Document}
    (h : List.Forall₂ (fun item grown => Option.Rel (fun _ _ => True) (item.toJson? room)
      (grown.toJson? room)) items grown) :
    Option.Rel (fun _ _ => True) (Document.toJson? (room + 1) (.array items))
      (Document.toJson? (room + 1) (.array grown)) := by
  suffices hitems : Option.Rel (fun _ _ => True) (Document.itemsToJson? room items)
      (Document.itemsToJson? room grown) from rel_map hitems fun _ _ _ => trivial
  induction h with
  | nil => exact .some trivial
  | cons hitem _ ih =>
    exact rel_bind hitem fun _ _ _ => rel_bind ih fun _ _ _ => .some trivial

theorem Gains.spelled {given grown : List (String × Document)}
    (h : Gains known inner room given grown) (hinner : ∀ name, Spelled (inner name)) :
    Option.Rel (fun _ _ => True) (Document.membersToJson? room (given.map written))
      (Document.membersToJson? room (grown.map written)) := by
  induction h with
  | nil => exact .some trivial
  | @grow member grown _ _ hmember _ ih =>
    exact rel_bind (hinner member.1 hmember.2) fun _ _ _ => rel_bind ih fun _ _ _ => .some trivial
  | @gain name value rest more _ hvalue _ ih =>
    -- What is added reads as JSON, so it is up to the others whether all of them do.
    obtain ⟨json, hjson⟩ := Option.isSome_iff_exists.mp hvalue
    have hmore : Document.membersToJson? room (((name, value) :: more).map written) =
        (Document.membersToJson? room (more.map written)).map ((name, json) :: ·) := by
      change (Document.toJson? room value).bind _ = _
      rw [hjson, Option.map_eq_bind]
      rfl
    have hrest : (Document.membersToJson? room (rest.map written)).map id =
        Document.membersToJson? room (rest.map written) := Option.map_id_apply
    rw [hmore, ← hrest]
    exact rel_map ih fun _ _ _ => trivial

/-- An object that has grown still reads as JSON if the values in it do. -/
theorem spelled_object (hinner : ∀ name, Spelled (inner name)) : Spelled (Object known inner) := by
  intro room document grown hgrowth
  cases hgrowth with
  | unchanged => exact rel_refl (fun _ => trivial) _
  | members hgains => exact rel_map (hgains.spelled hinner) fun _ _ _ => trivial

theorem spelled_record (hinner : ∀ name, Spelled (inner name)) : Spelled (Record names inner) := by
  intro room document grown hgrowth
  cases hgrowth with
  | object hobject => exact spelled_object hinner hobject
  | array hsame _ =>
    refine spelled_items ?_
    rw [List.forall₂_map_left_iff, List.forall₂_map_right_iff]
    exact hsame.imp fun member other hmember => hinner member.1 hmember.2

theorem Spelled.items {inner : Growth} (hinner : Spelled inner) : Spelled (Items inner) := by
  intro room document grown hgrowth
  cases hgrowth with
  | unchanged => exact rel_refl (fun _ => trivial) _
  | items hitems => exact spelled_items (hitems.imp fun _ _ hitem => hinner hitem)

end

end Growth

end FeatureFlags
