import FeatureFlags.Proofs.AllFlags

/-!
What the state of all flags is written as. Its values stand in one object with two members that have names
of their own, and what is written last stands. So an object tells the value of every flag whose key is not
one of these names, and beside the values the metadata of every flag, whatever its key is; of flags with
the two keys it tells no value.
-/
namespace FeatureFlags

namespace Entries

variable {α : Type}

theorem get?_foldl_insert (name : String) (entries table : List (String × α)) :
    get? name (entries.foldl (fun table entry => insert entry.1 entry.2 table) table) =
      (get? name (ofList entries)).or (get? name table) := by
  induction entries using List.reverseRecOn with
  | nil => rfl
  | append_singleton entries entry ih =>
    unfold ofList
    rw [List.foldl_concat, List.foldl_concat, get?_insert, get?_insert, ih]
    by_cases hname : name = entry.1
    · rw [if_pos hname, if_pos hname, Option.some_or]
    · rw [if_neg hname, if_neg hname]
      rfl

/-- Of a repeated name the later binding counts. -/
theorem get?_ofList_append (name : String) (first second : List (String × α)) :
    get? name (ofList (first ++ second)) = (get? name (ofList second)).or (get? name (ofList first)) := by
  have hfold : ofList (first ++ second) =
      second.foldl (fun table entry => insert entry.1 entry.2 table) (ofList first) := List.foldl_append
  rw [hfold, get?_foldl_insert]

end Entries

namespace Json

@[simp] theorem get?_ofMembers_append (name : String) (first second : List (String × Json)) :
    (ofMembers (first ++ second)).get? name =
      ((ofMembers second).get? name).or ((ofMembers first).get? name) :=
  Entries.get?_ofList_append name first second

@[simp] theorem get?_ofMembers_cons (name : String) (member : String × Json)
    (rest : List (String × Json)) : (ofMembers (member :: rest)).get? name =
      ((ofMembers rest).get? name).or (if name = member.1 then some member.2 else none) :=
  get?_ofMembers_append name [member] rest

@[simp] theorem get?_ofMembers_nil (name : String) : (ofMembers []).get? name = none := rfl

/-- A member that may be left out. -/
@[simp] theorem get?_ofMembers_toList {α : Type} (name other : String) (f : α → Json)
    (value : Option α) : (ofMembers (value.map fun value => (other, f value)).toList).get? name =
      if name = other then value.map f else none := by
  cases value with
  | none => simp
  | some value => simp

@[simp] theorem get?_ofMembers_ite (name : String) (condition : Prop) [Decidable condition]
    (members : List (String × Json)) : (ofMembers (if condition then members else [])).get? name =
      if condition then (ofMembers members).get? name else none := by
  split
  · rfl
  · rfl

theorem get?_ofMembers_keyed (table : Keyed Json) (name : String) :
    (ofMembers table.toList).get? name = table.get? name := Entries.get?_ofList table.ordered name

/-- Objects with the same members are the same. -/
theorem ofMembers_eq_iff {first second : List (String × Json)} : ofMembers first = ofMembers second ↔
    ∀ name, (ofMembers first).get? name = (ofMembers second).get? name := by
  constructor
  · intro h name
    rw [h]
  · intro h
    exact congrArg object (Entries.ext (Entries.ofList_ordered first) (Entries.ofList_ordered second) h)

end Json

theorem EvalError.name_injective : Function.Injective name := by
  intro error other h
  cases error <;> cases other <;> first | rfl | simp [name] at h

namespace Reason

def kind : Reason → String
  | .off => "OFF"
  | .targetMatch => "TARGET_MATCH"
  | .ruleMatch _ _ => "RULE_MATCH"
  | .prerequisiteFailed _ => "PREREQUISITE_FAILED"
  | .fallthrough => "FALLTHROUGH"
  | .error _ => "ERROR"

theorem get?_kind (reason : Reason) : reason.toJson.get? "kind" = some (.string reason.kind) := by
  cases reason with
  | ruleMatch index id =>
    by_cases hid : id.isEmpty = true
    · simp [toJson, kind, hid]
    · simp [toJson, kind, hid]
  | off | targetMatch | prerequisiteFailed | fallthrough | error => simp [toJson, kind]

theorem get?_ruleIndex (index : Nat) (id : String) :
    (ruleMatch index id).toJson.get? "ruleIndex" = some (.int index) := by
  by_cases hid : id.isEmpty = true
  · simp [toJson, hid]
  · simp [toJson, hid]

theorem get?_ruleId (index : Nat) (id : String) :
    (ruleMatch index id).toJson.get? "ruleId" = if id.isEmpty then none else some (.string id) := by
  by_cases hid : id.isEmpty = true
  · simp [toJson, hid]
  · simp [toJson, hid]

theorem get?_prerequisiteKey (key : String) :
    (prerequisiteFailed key).toJson.get? "prerequisiteKey" = some (.string key) := by
  simp [toJson]

theorem get?_error (e : EvalError) : (error e).toJson.get? "error" = some (.string e.name) := by
  simp [toJson]

/-- No two reasons are written alike. -/
theorem toJson_injective : Function.Injective toJson := by
  intro reason other h
  have hget (name : String) : reason.toJson.get? name = other.toJson.get? name := by rw [h]
  have hkind := hget "kind"
  rw [get?_kind, get?_kind, Option.some.injEq, Json.string.injEq] at hkind
  cases reason <;> cases other <;> first | rfl | (simp [kind] at hkind; done) | skip
  case ruleMatch.ruleMatch index id index' id' =>
    have hindex := hget "ruleIndex"
    have hid := hget "ruleId"
    rw [get?_ruleIndex, get?_ruleIndex, Option.some.injEq, Json.int.injEq] at hindex
    rw [get?_ruleId, get?_ruleId] at hid
    obtain rfl : index = index' := Int.ofNat.inj hindex
    by_cases hempty : id.isEmpty = true
    · rw [if_pos hempty] at hid
      by_cases hempty' : id'.isEmpty = true
      · rw [String.isEmpty_iff.mp hempty, String.isEmpty_iff.mp hempty']
      · rw [if_neg hempty'] at hid
        cases hid
    · rw [if_neg hempty] at hid
      by_cases hempty' : id'.isEmpty = true
      · rw [if_pos hempty'] at hid
        cases hid
      · rw [if_neg hempty', Option.some.injEq, Json.string.injEq] at hid
        rw [hid]
  case prerequisiteFailed.prerequisiteFailed key key' =>
    have hkey := hget "prerequisiteKey"
    rw [get?_prerequisiteKey, get?_prerequisiteKey, Option.some.injEq, Json.string.injEq] at hkey
    rw [hkey]
  case error.error e e' =>
    have hname := hget "error"
    rw [get?_error, get?_error, Option.some.injEq, Json.string.injEq] at hname
    rw [EvalError.name_injective hname]

end Reason

namespace FlagMetadata

variable (metadata : FlagMetadata)

theorem get?_variation : metadata.toJson.get? "variation" = metadata.variation.map (.int ·) := by
  simp [toJson]

theorem get?_version : metadata.toJson.get? "version" = some (.int metadata.version) := by
  simp [toJson]

theorem get?_reason : metadata.toJson.get? "reason" = metadata.reason.map Reason.toJson := by
  simp [toJson]

theorem get?_trackEvents : metadata.toJson.get? "trackEvents" =
    if metadata.trackEvents then some (.bool true) else none := by
  simp [toJson]

theorem get?_debugEventsUntilDate :
    metadata.toJson.get? "debugEventsUntilDate" = metadata.debugEventsUntilDate.map .int := by
  simp [toJson]

/-- Everything that is kept of a flag is written. -/
theorem toJson_injective : Function.Injective toJson := by
  intro metadata other h
  have hget (name : String) : metadata.toJson.get? name = other.toJson.get? name := by rw [h]
  have hvariation := hget "variation"
  have hversion := hget "version"
  have hreason := hget "reason"
  have htrack := hget "trackEvents"
  have hdebug := hget "debugEventsUntilDate"
  rw [get?_variation, get?_variation] at hvariation
  rw [get?_version, get?_version] at hversion
  rw [get?_reason, get?_reason] at hreason
  rw [get?_trackEvents, get?_trackEvents] at htrack
  rw [get?_debugEventsUntilDate, get?_debugEventsUntilDate] at hdebug
  have hint : Function.Injective fun n : ℕ => Json.int n := fun n m heq =>
    Int.ofNat.inj (Json.int.inj heq)
  obtain ⟨variation, version, reason, track, debug⟩ := metadata
  obtain ⟨variation', version', reason', track', debug'⟩ := other
  obtain rfl : variation = variation' := Option.map_injective hint hvariation
  obtain rfl : version = version' := hint (Option.some.inj hversion)
  obtain rfl : reason = reason' := Option.map_injective Reason.toJson_injective hreason
  obtain rfl : debug = debug' := Option.map_injective (fun _ _ => Json.int.inj) hdebug
  obtain rfl : track = track' := by cases track <;> cases track' <;> first | rfl | cases htrack
  rfl

end FlagMetadata

/-- A flag that is added to a state, with what it comes to. -/
structure Addition where
  withReasons : Bool
  flag : Flag
  detail : Detail Json

namespace Addition

/-- The value of the flag; one that has none has the value null. -/
def value (added : Addition) : Json := added.detail.value.getD .null

def metadata (added : Addition) : FlagMetadata := .ofDetail added.withReasons added.flag added.detail

def last? (additions : List Addition) (key : String) : Option Addition :=
  additions.reverse.find? (·.flag.key == key)

theorem last?_concat (additions : List Addition) (added : Addition) (key : String) :
    last? (additions ++ [added]) key = if key = added.flag.key then some added else last? additions key := by
  unfold last?
  rw [List.reverse_concat, List.find?_cons]
  by_cases hkey : key = added.flag.key
  · rw [if_pos hkey, hkey, beq_self_eq_true]
  · rw [if_neg hkey, beq_eq_false_iff_ne.mpr (Ne.symm hkey)]

end Addition

namespace FlagsState

def ofAdditions (valid : Bool) (additions : List Addition) : FlagsState :=
  additions.foldl (fun state added => state.add added.withReasons added.flag added.detail) { valid }

variable (valid : Bool) (additions : List Addition)

theorem ofAdditions_concat (added : Addition) : ofAdditions valid (additions ++ [added]) =
    (ofAdditions valid additions).add added.withReasons added.flag added.detail :=
  List.foldl_concat _ _ _ _

theorem valid_ofAdditions : (ofAdditions valid additions).valid = valid := by
  induction additions using List.reverseRecOn with
  | nil => rfl
  | append_singleton additions added ih =>
    rw [ofAdditions_concat]
    exact ih

/-- The value under a key is that of the flag added last under it. -/
theorem values_ofAdditions (key : String) : (ofAdditions valid additions).values.get? key =
    (Addition.last? additions key).map Addition.value := by
  induction additions using List.reverseRecOn with
  | nil => rfl
  | append_singleton additions added ih =>
    rw [ofAdditions_concat, Addition.last?_concat, apply_ite (Option.map Addition.value), ← ih]
    exact Keyed.get?_insert _ _ _ _

/-- So are the metadata. -/
theorem metadata_ofAdditions (key : String) : (ofAdditions valid additions).metadata.get? key =
    (Addition.last? additions key).map Addition.metadata := by
  induction additions using List.reverseRecOn with
  | nil => rfl
  | append_singleton additions added ih =>
    rw [ofAdditions_concat, Addition.last?_concat, apply_ite (Option.map Addition.metadata), ← ih]
    exact Keyed.get?_insert _ _ _ _

variable (state : FlagsState)

/-- The names of the members that are no values. -/
def IsReserved (name : String) : Prop := name = "$flagsState" ∨ name = "$valid"

def metadataJson : Json := .ofMembers (state.metadata.map FlagMetadata.toJson).toList

/-- What is written last stands, so that the members with names of their own do. -/
theorem get?_toJson (name : String) : state.toJson.get? name =
    if name = "$valid" then some (.bool state.valid)
    else if name = "$flagsState" then some state.metadataJson
    else state.values.get? name := by
  unfold toJson
  rw [Json.get?_ofMembers_append, Json.get?_ofMembers_keyed, Json.get?_ofMembers_cons,
    Json.get?_ofMembers_cons, Json.get?_ofMembers_nil, Option.none_or]
  by_cases hvalid : name = "$valid"
  · rw [if_pos hvalid, if_pos hvalid]
    rfl
  · rw [if_neg hvalid, if_neg hvalid, Option.none_or]
    by_cases hstate : name = "$flagsState"
    · rw [if_pos hstate, if_pos hstate]
      rfl
    · rw [if_neg hstate, if_neg hstate, Option.none_or]

theorem get?_toJson_valid : state.toJson.get? "$valid" = some (.bool state.valid) := by
  rw [get?_toJson, if_pos rfl]

theorem get?_toJson_flagsState : state.toJson.get? "$flagsState" = some state.metadataJson := by
  have hother : "$flagsState" ≠ "$valid" := by decide
  rw [get?_toJson, if_neg hother, if_pos rfl]

/-- A name that is not reserved has the value of its flag. -/
theorem get?_toJson_of_not_isReserved {name : String} (h : ¬ IsReserved name) :
    state.toJson.get? name = state.values.get? name := by
  obtain ⟨hstate, hvalid⟩ := not_or.mp h
  rw [get?_toJson, if_neg hvalid, if_neg hstate]

theorem get?_metadataJson (key : String) :
    state.metadataJson.get? key = (state.metadata.get? key).map FlagMetadata.toJson := by
  unfold metadataJson
  rw [Json.get?_ofMembers_keyed, Keyed.get?_map]

/-- The written metadata tell all metadata. -/
theorem metadataJson_eq_iff {state other : FlagsState} :
    state.metadataJson = other.metadataJson ↔ state.metadata = other.metadata := by
  constructor
  · intro h
    apply Keyed.ext_get?
    intro key
    have hkey := congrArg (Json.get? key) h
    rw [get?_metadataJson, get?_metadataJson] at hkey
    exact Option.map_injective FlagMetadata.toJson_injective hkey
  · intro h
    unfold metadataJson
    rw [h]

/-- States are written alike exactly if they differ in no more than values under the names of other
members. -/
theorem toJson_eq_iff {state other : FlagsState} : state.toJson = other.toJson ↔
    state.valid = other.valid ∧ state.metadata = other.metadata ∧
      ∀ name, ¬ IsReserved name → state.values.get? name = other.values.get? name := by
  constructor
  · intro h
    have hget (name : String) : state.toJson.get? name = other.toJson.get? name := by rw [h]
    refine ⟨?_, ?_, fun name hname => ?_⟩
    · have hvalid := hget "$valid"
      rw [get?_toJson_valid, get?_toJson_valid] at hvalid
      exact Json.bool.inj (Option.some.inj hvalid)
    · have hstate := hget "$flagsState"
      rw [get?_toJson_flagsState, get?_toJson_flagsState] at hstate
      exact metadataJson_eq_iff.mp (Option.some.inj hstate)
    · have hvalue := hget name
      rwa [get?_toJson_of_not_isReserved state hname, get?_toJson_of_not_isReserved other hname] at hvalue
  · rintro ⟨hvalid, hmetadata, hvalues⟩
    refine Json.ofMembers_eq_iff.mpr fun name => ?_
    change state.toJson.get? name = other.toJson.get? name
    by_cases hname : IsReserved name
    · rcases hname with rfl | rfl
      · rw [get?_toJson_flagsState, get?_toJson_flagsState, metadataJson_eq_iff.mpr hmetadata]
      · rw [get?_toJson_valid, get?_toJson_valid, hvalid]
    · rw [get?_toJson_of_not_isReserved state hname, get?_toJson_of_not_isReserved other hname]
      exact hvalues name hname

/-- What an object tells of a state that flags were added to. -/
structure Shows (json : Json) (valid : Bool) (additions : List Addition) : Prop where
  /-- Under a key that is no name of another member there is the value of the flag last added under it. -/
  value : ∀ key, ¬ IsReserved key →
    json.get? key = (Addition.last? additions key).map Addition.value
  /-- The metadata of every flag, whatever its key is. -/
  metadata : ∃ members, json.get? "$flagsState" = some members ∧ ∀ key,
    members.get? key = (Addition.last? additions key).map (·.metadata.toJson)
  valid : json.get? "$valid" = some (.bool valid)

/-- What a state is written as tells the values of flags, but for the two keys that are names of other
members, and all else; so two states are written differently exactly if they differ in something else than
values of flags with these keys. -/
theorem told_but_for_reserved (valid : Bool) (additions : List Addition) :
    Shows (ofAdditions valid additions).toJson valid additions ∧
    ∀ valid' additions', (ofAdditions valid additions).toJson = (ofAdditions valid' additions').toJson ↔
      valid = valid' ∧
      (∀ key, (Addition.last? additions key).map Addition.metadata =
        (Addition.last? additions' key).map Addition.metadata) ∧
      ∀ key, ¬ IsReserved key → (Addition.last? additions key).map Addition.value =
        (Addition.last? additions' key).map Addition.value := by
  refine ⟨?_, fun valid' additions' => ?_⟩
  · exact {
      value := fun key hkey => by
        rw [get?_toJson_of_not_isReserved _ hkey, values_ofAdditions]
      metadata := by
        refine ⟨_, get?_toJson_flagsState _, fun key => ?_⟩
        rw [get?_metadataJson, metadata_ofAdditions, Option.map_map]
        rfl
      valid := by
        rw [get?_toJson_valid, valid_ofAdditions] }
  · rw [toJson_eq_iff, valid_ofAdditions, valid_ofAdditions]
    simp only [values_ofAdditions]
    have hmetadata : (ofAdditions valid additions).metadata = (ofAdditions valid' additions').metadata ↔
        ∀ key, (Addition.last? additions key).map Addition.metadata =
          (Addition.last? additions' key).map Addition.metadata := by
      constructor
      · intro h key
        rw [← metadata_ofAdditions valid, ← metadata_ofAdditions valid', h]
      · intro h
        apply Keyed.ext_get?
        intro key
        rw [metadata_ofAdditions, metadata_ofAdditions]
        exact h key
    rw [hmetadata]

/-- A flag whose key is the name of the member that tells whether the state is valid. -/
def named (color : String) : Addition where
  withReasons := false
  flag := { key := "$valid", version := 1 }
  detail := ⟨some (.string color), some 0, .fallthrough⟩

/-- The value of such a flag is not told, and nothing tells it from another. -/
theorem named_not_told :
    (ofAdditions true [named "blue"]).values.get? "$valid" = some (.string "blue") ∧
    (ofAdditions true [named "blue"]).toJson.get? "$valid" = some (.bool true) ∧
    (ofAdditions true [named "blue"]).values.get? "$valid" ≠
      (ofAdditions true [named "green"]).values.get? "$valid" ∧
    (ofAdditions true [named "blue"]).toJson = (ofAdditions true [named "green"]).toJson := by
  decide +kernel

end FlagsState

end FeatureFlags
