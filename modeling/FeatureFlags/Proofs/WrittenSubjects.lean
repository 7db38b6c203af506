import FeatureFlags.Proofs.Choices
import FeatureFlags.Proofs.Doubles
import FeatureFlags.Subject

/-!
Subjects that are written as JSON and read back. Reading an attribute tries one kind of value after
another, but each kind is written in a form that no other kind has, except that a number which is not
finite is written as null. So what comes back is the subject itself, exactly if its numbers are finite
and there is room for its arrays: a value at hand has room for all of them, a text for as many as may
stand inside one another.
-/
namespace FeatureFlags

namespace Attribute

/-- A value made of texts, finite numbers, truth values, nulls and arrays of these. -/
inductive IsFinite : Attribute → Prop
  | string (text : String) : IsFinite (.string text)
  | number {value : Float} (h : value.isFinite = true) : IsFinite (.number value)
  | boolean (value : Bool) : IsFinite (.boolean value)
  | array {items : List Attribute} (h : ∀ item ∈ items, IsFinite item) : IsFinite (.array items)
  | null : IsFinite .null

mutual

def depth : Attribute → ℕ
  | .array items => itemsDepth items + 1
  | .string _ | .number _ | .boolean _ | .null => 0

def itemsDepth : List Attribute → ℕ
  | [] => 0
  | item :: rest => max (depth item) (itemsDepth rest)

end

mutual

/-- What a value is once it is written: a number that is not finite is null. -/
def written : Attribute → Attribute
  | .string text => .string text
  | .number value => if value.isFinite then .number value else .null
  | .boolean value => .boolean value
  | .array items => .array (writtenItems items)
  | .null => .null

def writtenItems : List Attribute → List Attribute
  | [] => []
  | item :: rest => written item :: writtenItems rest

end

mutual

/-- Every kind of value is read as itself. -/
theorem ofJson?_toJson : ∀ value : Attribute, ofJson? value.toJson = some value.written
  | .string text => rfl
  | .number value => by
    rw [toJson, Json.ofFloat, written]
    split
    · rfl
    · rfl
  | .boolean value => rfl
  | .array items => by
    rw [toJson, ofJson?, ofItems?_itemsToJson items]
    rfl
  | .null => rfl

theorem ofItems?_itemsToJson : ∀ items : List Attribute,
    ofItems? (itemsToJson items) = some (writtenItems items)
  | [] => rfl
  | item :: rest => by
    rw [itemsToJson, ofItems?, ofJson?_toJson item, ofItems?_itemsToJson rest]
    rfl

end

mutual

/-- A written value is read where there is room for its arrays. -/
theorem toJson?_ofJson_toJson (room : ℕ) : ∀ value : Attribute,
    (Document.ofJson value.toJson).toJson? room =
      if value.depth ≤ room then some value.toJson else none
  | .string text => rfl
  | .number value => by
    rw [toJson, Json.ofFloat, depth, if_pos (Nat.zero_le room)]
    split
    · rfl
    · rfl
  | .boolean value => rfl
  | .array items => by
    rw [toJson, Document.ofJson, depth]
    cases room with
    | zero => rfl
    | succ room =>
      rw [Document.toJson?, itemsToJson?_ofItems_itemsToJson room items]
      by_cases hroom : itemsDepth items ≤ room
      · rw [if_pos hroom, if_pos (by omega)]
        rfl
      · rw [if_neg hroom, if_neg (by omega)]
        rfl
  | .null => rfl

theorem itemsToJson?_ofItems_itemsToJson (room : ℕ) : ∀ items : List Attribute,
    Document.itemsToJson? room (Document.ofItems (itemsToJson items)) =
      if itemsDepth items ≤ room then some (itemsToJson items) else none
  | [] => rfl
  | item :: rest => by
    rw [itemsToJson, Document.ofItems, Document.itemsToJson?, toJson?_ofJson_toJson room item,
      itemsToJson?_ofItems_itemsToJson room rest, itemsDepth]
    by_cases hitem : item.depth ≤ room
    · rw [if_pos hitem]
      by_cases hrest : itemsDepth rest ≤ room
      · rw [if_pos hrest, if_pos (Nat.max_le.mpr ⟨hitem, hrest⟩)]
        rfl
      · rw [if_neg hrest, if_neg fun hmax => hrest (Nat.max_le.mp hmax).2]
        rfl
    · rw [if_neg hitem, if_neg fun hmax => hitem (Nat.max_le.mp hmax).1]
      rfl

end

/-- A written value is read back if there is room for its arrays, but for numbers that are not finite.
-/
theorem decoder_toJson (room : ℕ) (value : Attribute) :
    decoder room (Document.ofJson value.toJson) =
      if value.depth ≤ room then some value.written else none := by
  rw [decoder, toJson?_ofJson_toJson]
  split
  · exact ofJson?_toJson value
  · rfl

mutual

/-- What is written is the value itself exactly if its numbers are finite. -/
theorem written_eq_self_iff : ∀ value : Attribute, value.written = value ↔ value.IsFinite
  | .string text => ⟨fun _ => .string text, fun _ => rfl⟩
  | .number value => by
    rw [written]
    constructor
    · intro h
      split at h
      · next hfinite => exact .number hfinite
      · cases h
    · intro h
      cases h with
      | number hfinite => exact if_pos hfinite
  | .boolean value => ⟨fun _ => .boolean value, fun _ => rfl⟩
  | .array items => by
    rw [written, array.injEq, writtenItems_eq_self_iff items]
    constructor
    · exact .array
    · intro h
      cases h with
      | array hitems => exact hitems
  | .null => ⟨fun _ => .null, fun _ => rfl⟩

/-- Writing changes no value exactly if all numbers are finite. -/
theorem writtenItems_eq_self_iff : ∀ items : List Attribute,
    writtenItems items = items ↔ ∀ item ∈ items, item.IsFinite
  | [] => by simp [writtenItems]
  | item :: rest => by
    rw [writtenItems, List.cons.injEq, written_eq_self_iff item, writtenItems_eq_self_iff rest,
      List.forall_mem_cons]

end

theorem sameItems_self {items : List Attribute} (h : ∀ item ∈ items, item.same item = true) :
    sameItems items items = true := by
  induction items with
  | nil => rfl
  | cons item rest ih =>
    obtain ⟨hitem, hrest⟩ := List.forall_mem_cons.mp h
    rw [sameItems, hitem, ih hrest]
    rfl

/-- Of a value with finite numbers it can be said that it is the same. -/
theorem IsFinite.same_self {value : Attribute} (h : value.IsFinite) : value.same value = true := by
  induction h with
  | string text => exact beq_self_eq_true text
  | number h => exact Doubles.beq_self_of_isFinite h
  | boolean value => exact beq_self_eq_true value
  | array _ ih => exact sameItems_self ih
  | null => rfl

end Attribute

namespace Attribute

def tableToJson (table : Keyed Attribute) : Json := .object (table.map toJson).toList

theorem mapM_entry_ofMembers (room : ℕ) (entries : List (String × Attribute)) :
    (Document.ofMembers (entries.map fun entry => (entry.1, entry.2.toJson))).mapM
        (Decoder.entry decoder room) =
      if itemsDepth (entries.map (·.2)) ≤ room
        then some (entries.map fun entry => (entry.1, entry.2.written)) else none := by
  induction entries with
  | nil => rfl
  | cons entry rest ih =>
    rw [List.map_cons, List.map_cons, Document.ofMembers, List.mapM_cons, ih, itemsDepth, Decoder.entry,
      decoder_toJson]
    by_cases hentry : entry.2.depth ≤ room
    · rw [if_pos hentry]
      by_cases hrest : itemsDepth (rest.map (·.2)) ≤ room
      · rw [if_pos hrest, if_pos (Nat.max_le.mpr ⟨hentry, hrest⟩)]
        rfl
      · rw [if_neg hrest, if_neg fun hmax => hrest (Nat.max_le.mp hmax).2]
        rfl
    · rw [if_neg hentry, if_neg fun hmax => hentry (Nat.max_le.mp hmax).1]
      rfl

theorem table_tableToJson (room : ℕ) (table : Keyed Attribute) :
    Decoder.table decoder room (Document.ofJson (tableToJson table)) =
      if itemsDepth (table.toList.map (·.2)) < room then some (table.map written) else none := by
  cases room with
  | zero => rfl
  | succ room =>
    have hentries := mapM_entry_ofMembers room table.toList
    have hordered : Keyed.ofList (table.map written).toList = table.map written := by
      apply Keyed.ext_get?
      exact Entries.get?_ofList (table.map written).ordered
    change (((Document.ofMembers (table.toList.map fun entry => (entry.1, entry.2.toJson))).mapM
      (Decoder.entry decoder room)).map Keyed.ofList) = _
    rw [hentries]
    by_cases hroom : itemsDepth (table.toList.map (·.2)) ≤ room
    · rw [if_pos hroom, if_pos (by omega), ← hordered]
      rfl
    · rw [if_neg hroom, if_neg (by omega)]
      rfl

theorem map_written_eq_self_iff (table : Keyed Attribute) :
    table.map written = table ↔ ∀ name value, table.get? name = some value → value.IsFinite := by
  constructor
  · intro h name value hvalue
    have hwritten := congrArg (Keyed.get? · name) h
    simp only [Keyed.get?_map, hvalue, Option.map_some, Option.some.injEq] at hwritten
    exact (written_eq_self_iff value).mp hwritten
  · intro h
    apply Keyed.ext_get?
    intro name
    rw [Keyed.get?_map]
    cases hvalue : table.get? name with
    | none => rfl
    | some value => exact congrArg some ((written_eq_self_iff value).mpr (h name value hvalue))

end Attribute

namespace Document

theorem ofMembers_eq_map (members : List (String × Json)) : ofMembers members =
    (members.map fun member => (member.1, ofJson member.2)).map Growth.written := by
  induction members with
  | nil => rfl
  | cons member rest ih =>
    rw [ofMembers, ih]
    rfl

end Document

/-- A written object that has only members of a record is read as the record with these. -/
theorem Members.read?_ofJson {names : List String} {members : List (String × Json)}
    (hknown : members.map (·.1) ⊆ names) (hnodup : (members.map (·.1)).Nodup) (room : ℕ) :
    read? names (room + 1) (Document.ofJson (.object members)) =
      some ⟨members.map fun member => (member.1, Document.ofJson member.2), room⟩ := by
  have hnames : ((members.map fun member => (member.1, Document.ofJson member.2)).map (·.1)).Nodup := by
    rwa [List.map_map]
  have hall : (members.map fun member => (member.1, Document.ofJson member.2)).filter
      (names.contains ·.1) = members.map fun member => (member.1, Document.ofJson member.2) := by
    apply List.filter_eq_self.mpr
    intro member hmember
    obtain ⟨given, hgiven, rfl⟩ := List.mem_map.mp hmember
    exact List.contains_iff_mem.mpr (hknown (List.mem_map_of_mem hgiven))
  have hobject : ofObject? (room + 1) (Document.ofJson (.object members)) =
      some ⟨members.map fun member => (member.1, Document.ofJson member.2), room⟩ := by
    rw [Document.ofJson, Document.ofMembers_eq_map]
    exact Growth.ofObject?_written room _
  rw [read?, hobject, Option.bind_some, known?_of_nodup names room hnames, hall]
  rintro _ items - hitems
  cases hitems

namespace Subject

/-- A subject whose custom attributes are all made of texts, finite numbers, truth values, nulls and
arrays of these. -/
def IsFinite (subject : Subject) : Prop :=
  ∀ name value, subject.custom.get? name = some value → value.IsFinite

/-- How many arrays and objects stand inside one another where a subject is written: the subject and its
table of attributes are objects. -/
def depth (subject : Subject) : ℕ := Attribute.itemsDepth (subject.custom.toList.map (·.2)) + 2

def written (subject : Subject) : Subject :=
  { subject with custom := subject.custom.map Attribute.written }

theorem written_eq_self_iff (subject : Subject) : subject.written = subject ↔ subject.IsFinite := by
  have htable := Attribute.map_written_eq_self_iff subject.custom
  constructor
  · intro h
    exact htable.mp (congrArg Subject.custom h)
  · intro h
    unfold written
    rw [htable.mpr h]

def members (subject : Subject) : List (String × Json) :=
  ("custom", Attribute.tableToJson subject.custom) :: ("key", .string subject.key) ::
    (subject.secondary.map fun text => ("secondary", .string text)).toList

theorem toJson_eq (subject : Subject) : subject.toJson = .object subject.members := by
  obtain ⟨key, secondary, custom⟩ := subject
  have hfirst : "custom" < "key" := by decide
  have hlast : ¬ "secondary" < "key" ∧ "secondary" ≠ "key" := by decide
  cases secondary with
  | none =>
    unfold toJson Json.ofMembers Entries.ofList members
    simp [Entries.insert, hfirst, Attribute.tableToJson]
  | some text =>
    unfold toJson Json.ofMembers Entries.ofList members
    simp [Entries.insert, hfirst, hlast, Attribute.tableToJson]

theorem names_members (subject : Subject) :
    (subject.members.map (·.1)).Sublist ["custom", "key", "secondary"] := by
  unfold members
  cases subject.secondary with
  | none => exact (List.sublist_append_left ["custom", "key"] ["secondary"])
  | some text => exact List.Sublist.refl _

def given (subject : Subject) (room : ℕ) : Members :=
  ⟨subject.members.map fun member => (member.1, Document.ofJson member.2), room⟩

/-- The members of a written subject are those that are known, each once. -/
theorem read?_toJson (subject : Subject) (room : ℕ) :
    Members.read? ["key", "secondary", "custom"] (room + 1) (Document.ofJson subject.toJson) =
      some (subject.given room) := by
  have hnames := subject.names_members
  have hsubset : subject.members.map (·.1) ⊆ ["key", "secondary", "custom"] :=
    List.Subset.trans hnames.subset (by decide)
  have hnodup : (subject.members.map (·.1)).Nodup := List.Nodup.sublist hnames (by decide)
  rw [toJson_eq]
  exact Members.read?_ofJson hsubset hnodup room

/-- What is written of a subject is read where there is room for its arrays and for both objects. -/
theorem decoder_toJson (subject : Subject) (room : ℕ) :
    decoder room (Document.ofJson subject.toJson) =
      if subject.depth ≤ room then some subject.written else none := by
  cases room with
  | zero =>
    rw [toJson_eq]
    rfl
  | succ room =>
    have hkey : (subject.given room).required "key" .string = some subject.key := rfl
    have hsecondary : (subject.given room).optional "secondary" .string = some subject.secondary := by
      obtain ⟨key, secondary, custom⟩ := subject
      cases secondary with
      | none => rfl
      | some text => rfl
    have hcustom : (subject.given room).defaulted "custom" ∅ (.table Attribute.decoder) =
        if Attribute.itemsDepth (subject.custom.toList.map (·.2)) < room
          then some (subject.custom.map Attribute.written) else none :=
      Attribute.table_tableToJson room subject.custom
    unfold decoder
    rw [read?_toJson]
    simp only [Option.bind_eq_bind, Option.bind_some, hkey, hsecondary, hcustom]
    by_cases hroom : Attribute.itemsDepth (subject.custom.toList.map (·.2)) < room
    · rw [if_pos hroom, if_pos (show subject.depth ≤ room + 1 by unfold depth; omega)]
      rfl
    · rw [if_neg hroom, if_neg (show ¬ subject.depth ≤ room + 1 by unfold depth; omega)]
      rfl

theorem IsFinite.same_value? {subject : Subject} (h : subject.IsFinite) {name : String}
    {value : Attribute} (hvalue : subject.value? name = some value) : value.same value = true := by
  unfold value? at hvalue
  split at hvalue
  · cases hvalue
    exact (Attribute.IsFinite.string _).same_self
  · split at hvalue
    · obtain ⟨text, -, rfl⟩ := Option.map_eq_some_iff.mp hvalue
      exact (Attribute.IsFinite.string text).same_self
    · exact (h name value hvalue).same_self

/-- What a subject is written as is read as the subject exactly if its numbers are finite and there is
room for its arrays. A value that is at hand leaves room for all of them, a text for no more than may stand
inside one another in a text. So every attribute is found again, and no comparison tells it from what it
was. -/
theorem reads_back (subject : Subject) (room : ℕ) :
    (decoder room (Document.ofJson subject.toJson) = some subject ↔
      subject.IsFinite ∧ subject.depth ≤ room) ∧
    (subject.IsFinite → ∀ again, decoder room (Document.ofJson subject.toJson) = some again →
      ∀ name, Option.Rel (fun value other => value.same other = true)
        (subject.value? name) (again.value? name)) := by
  rw [decoder_toJson]
  refine ⟨⟨fun hread => ?_, fun ⟨hfinite, hroom⟩ => ?_⟩, fun hfinite again hread name => ?_⟩
  · split at hread
    · next hroom => exact ⟨subject.written_eq_self_iff.mp (Option.some.inj hread), hroom⟩
    · cases hread
  · rw [if_pos hroom, subject.written_eq_self_iff.mpr hfinite]
  · split at hread
    · obtain rfl := Option.some.inj hread
      rw [subject.written_eq_self_iff.mpr hfinite]
      cases hvalue : subject.value? name with
      | none => exact .none
      | some value => exact .some (hfinite.same_value? hvalue)
    · cases hread

end Subject

end FeatureFlags
