import FeatureFlags.Proofs.Calls

/-!
The values of all flags against a call for each of them. The state is put together from evaluations
without records, a flag at a time, and no two flags have the same key where each is stored under its
own. A call evaluates the same flag with records and puts the default where there is no value, and
both come to the same.
-/
namespace FeatureFlags

def FlagMetadata.ofDetail (withReasons : Bool) (flag : Flag) (detail : Detail Json) :
    FlagMetadata where
  variation := detail.variationIndex
  version := flag.version
  reason := if withReasons then some detail.reason else none
  trackEvents := flag.trackEvents || detail.reason.forcesTracking flag
  debugEventsUntilDate := flag.debugEventsUntilDate

namespace FlagsState

variable {comes : Flag → Option (Detail Json)} {withReasons : Bool} {flag : Flag}
  {flags : List Flag} {detail : Detail Json} {state after : FlagsState} {key : String}

/-- The state has this detail of the flag. -/
structure Tells (state : FlagsState) (withReasons : Bool) (flag : Flag) (detail : Detail Json) :
    Prop where
  value : state.values.get? flag.key = some (detail.value.getD .null)
  metadata : state.metadata.get? flag.key = some (.ofDetail withReasons flag detail)

structure SameAt (key : String) (state state' : FlagsState) : Prop where
  value : state.values.get? key = state'.values.get? key
  metadata : state.metadata.get? key = state'.metadata.get? key

theorem SameAt.trans {state' state'' : FlagsState} (h : SameAt key state state')
    (h' : SameAt key state' state'') : SameAt key state state'' :=
  ⟨h.value.trans h'.value, h.metadata.trans h'.metadata⟩

theorem add_tells (state : FlagsState) (withReasons : Bool) (flag : Flag) (detail : Detail Json) :
    (state.add withReasons flag detail).Tells withReasons flag detail where
  value := by
    unfold add
    rw [Keyed.get?_insert, if_pos rfl]
  metadata := by
    unfold add
    rw [Keyed.get?_insert, if_pos rfl]
    rfl

/-- Adding a flag leaves what is told of all others. -/
theorem add_sameAt (hother : flag.key ≠ key) (state : FlagsState) (withReasons : Bool)
    (detail : Detail Json) : SameAt key (state.add withReasons flag detail) state where
  value := by
    unfold add
    rw [Keyed.get?_insert, if_neg hother.symm]
  metadata := by
    unfold add
    rw [Keyed.get?_insert, if_neg hother.symm]

def addAll (comes : Flag → Option (Detail Json)) (withReasons : Bool) (state : FlagsState)
    (flags : List Flag) : Option FlagsState :=
  flags.foldlM (fun state flag => (comes flag).map (state.add withReasons flag)) state

theorem addAll_cons_eq_some_iff :
    state.addAll comes withReasons (flag :: flags) = some after ↔
      ∃ detail, comes flag = some detail ∧
        (state.add withReasons flag detail).addAll comes withReasons flags = some after := by
  unfold addAll
  rw [List.foldlM_cons, Option.bind_eq_bind, Option.bind_map, Option.bind_eq_some_iff]
  rfl

/-- There is a state as soon as every flag comes to something. -/
theorem exists_addAll (h : ∀ flag ∈ flags, ∃ detail, comes flag = some detail)
    (state : FlagsState) : ∃ after, state.addAll comes withReasons flags = some after := by
  induction flags generalizing state with
  | nil => exact ⟨state, rfl⟩
  | cons flag rest ih =>
    obtain ⟨detail, hdetail⟩ := h flag List.mem_cons_self
    obtain ⟨after, hafter⟩ := ih (fun other hother => h other (List.mem_cons_of_mem flag hother))
      (state.add withReasons flag detail)
    exact ⟨after, addAll_cons_eq_some_iff.mpr ⟨detail, hdetail, hafter⟩⟩

theorem addAll_valid (h : state.addAll comes withReasons flags = some after) :
    after.valid = state.valid := by
  induction flags generalizing state with
  | nil =>
    cases h
    rfl
  | cons flag rest ih =>
    obtain ⟨detail, -, hrest⟩ := addAll_cons_eq_some_iff.mp h
    have hvalid := ih hrest
    exact hvalid

/-- Under a key that none of the flags has, nothing changes. -/
theorem addAll_sameAt (h : state.addAll comes withReasons flags = some after)
    (hnone : ∀ flag ∈ flags, flag.key ≠ key) : SameAt key after state := by
  induction flags generalizing state with
  | nil =>
    cases h
    exact ⟨rfl, rfl⟩
  | cons flag rest ih =>
    obtain ⟨detail, -, hrest⟩ := addAll_cons_eq_some_iff.mp h
    have hsame := ih hrest fun other hother => hnone other (List.mem_cons_of_mem flag hother)
    exact hsame.trans (add_sameAt (hnone flag List.mem_cons_self) state withReasons detail)

/-- A flag whose key no other flag has stays as it is added. -/
theorem addAll_tells (h : state.addAll comes withReasons flags = some after) (hmem : flag ∈ flags)
    (hunique : ∀ other ∈ flags, other.key = flag.key → other = flag)
    (hcomes : comes flag = some detail) : after.Tells withReasons flag detail := by
  induction flags generalizing state with
  | nil => exact absurd hmem List.not_mem_nil
  | cons first rest ih =>
    obtain ⟨detail', hfirst, hrest⟩ := addAll_cons_eq_some_iff.mp h
    by_cases hlater : flag ∈ rest
    · exact ih hrest hlater fun other hother => hunique other (List.mem_cons_of_mem first hother)
    · -- It is the first, and what comes after it has other keys.
      obtain rfl : flag = first := (List.mem_cons.mp hmem).resolve_right hlater
      rw [hcomes] at hfirst
      cases hfirst
      have hothers : ∀ other ∈ rest, other.key ≠ flag.key := by
        intro other hother hsame
        rw [hunique other (List.mem_cons_of_mem flag hother) hsame] at hother
        exact hlater hother
      have hkept := addAll_sameAt hrest hothers
      have htells := add_tells state withReasons flag detail
      exact ⟨hkept.value.trans htells.value, hkept.metadata.trans htells.metadata⟩

end FlagsState

namespace Dataset

variable {data : Dataset} {bucketer : Bucketer} {subject : Subject} {flag : Flag}

/-- The flags that a state is made of are those that are found under some key. -/
theorem mem_filterMap_items_iff :
    flag ∈ (data.items .flags).toList.filterMap (·.2.flag?) ↔
      ∃ key, data.flag? key = some flag := by
  rw [List.mem_filterMap]
  constructor
  · rintro ⟨⟨key, item⟩, hmem, hitem⟩
    have hfound : data.item? .flags key = some item := by
      rw [← get?_items]
      exact Keyed.get?_eq_some_iff.mpr hmem
    refine ⟨key, ?_⟩
    rw [flag?, hfound]
    exact hitem
  · rintro ⟨key, hlive⟩
    obtain ⟨item, hfound, hitem⟩ := Option.bind_eq_some_iff.mp hlive
    rw [← get?_items] at hfound
    exact ⟨(key, item), Keyed.get?_eq_some_iff.mp hfound, hitem⟩

theorem alone_eq_some {outcome : Outcome}
    (h : data.evaluate? bucketer subject flag = some outcome) :
    data.alone bucketer subject flag = some outcome.detail := by
  rw [alone, evaluate?_unrecorded, h]
  rfl

/-- Where flags are found under their own keys, every one of them comes to something. -/
theorem exists_evaluate? (bucketer : Bucketer) (subject : Subject) (hself : data.catalog.SelfKeyed)
    {key : String} (hlive : data.flag? key = some flag) :
    ∃ outcome, data.evaluate? bucketer subject flag = some outcome := by
  obtain ⟨detail, u, hrun⟩ := exists_evaluate_depth bucketer subject true hself hlive
  refine Option.isSome_iff_exists.mp (evaluate?_isSome.mpr ?_)
  rw [hrun]
  rfl

end Dataset

/-- What a state keeps of a flag, the detail that a caller gets for it and the event of that call say
the same. -/
structure FlagMetadata.Agrees (withReasons : Bool) (metadata : FlagMetadata) (detail : Detail Json)
    (event : EvaluationEvent) : Prop where
  variation : metadata.variation = detail.variationIndex
  version : event.version = some metadata.version
  trackEvents : event.trackEvents = metadata.trackEvents
  debugEventsUntilDate : event.debugEventsUntilDate = metadata.debugEventsUntilDate
  reason : metadata.reason = if withReasons then some detail.reason else none
  event_variation : event.variation = metadata.variation
  event_reason : event.reason = detail.reason

theorem FlagMetadata.ofDetail_agrees {flag : Flag} {detail : Detail Json}
    (hoffers : flag.Offers detail) (withReasons : Bool) (subject : Subject) (default : Json) :
    (ofDetail withReasons flag detail).Agrees withReasons (detail.or default)
      (.ofEvaluation flag subject detail default) where
  variation := (Detail.or_variationIndex hoffers.variationIndex_eq_none default).symm
  version := rfl
  trackEvents := rfl
  debugEventsUntilDate := rfl
  reason := by
    rw [Detail.or_reason]
    rfl
  event_variation := rfl
  event_reason := (detail.or_reason default).symm

namespace Client

variable {client : Client} {subject : Subject} {withReasons : Bool} {key : String} {flag : Flag}
  {outcome : Outcome} {state : FlagsState}

section

variable (hready : client.store.initialized = true)

include hready

theorem variationDetail?_live (hlive : client.store.snapshot.flag? key = some flag)
    (houtcome : client.store.snapshot.evaluate? Murmur3.bucketer subject flag = some outcome)
    (default : Json) :
    client.variationDetail? key subject default =
      some (client.record (outcome.records.map (.ofPrerequisite · subject) ++
        [.ofEvaluation flag subject outcome.detail default]), outcome.detail.or default) := by
  have hfound : client.found? key = some flag := by rw [found?, if_pos hready, hlive]
  rw [variationDetail?_eq, outcome?_found hfound, houtcome, Option.map_some, ownEvent_found hfound]

theorem variation?_live (hlive : client.store.snapshot.flag? key = some flag)
    (houtcome : client.store.snapshot.evaluate? Murmur3.bucketer subject flag = some outcome)
    (default : Json) :
    (client.variation? key subject default).map (·.2) =
      some (outcome.detail.value.getD default) := by
  rw [variation?, variationDetail?_live hready hlive houtcome, Option.map_some, Option.map_some]
  dsimp only
  rw [Detail.or_value, Option.getD_some]

theorem flagsState?_eq (subject : Subject) (withReasons : Bool) :
    client.flagsState? subject withReasons =
      ({} : FlagsState).addAll (client.store.snapshot.alone Murmur3.bucketer subject) withReasons
        ((client.store.snapshot.items .flags).toList.filterMap (·.2.flag?)) := by
  unfold flagsState? FlagsState.addAll Dataset.alone
  dsimp only
  rw [if_pos hready]
  simp only [Option.map_map]
  rfl

variable (hself : client.store.snapshot.catalog.SelfKeyed)

include hself

/-- Under these conditions the state of all flags can always be told. -/
theorem exists_flagsState? (subject : Subject) (withReasons : Bool) :
    ∃ state, client.flagsState? subject withReasons = some state := by
  rw [flagsState?_eq hready]
  refine FlagsState.exists_addAll (fun flag hmem => ?_) {}
  obtain ⟨key, hlive⟩ := Dataset.mem_filterMap_items_iff.mp hmem
  obtain ⟨outcome, houtcome⟩ := Dataset.exists_evaluate? Murmur3.bucketer subject hself hlive
  exact ⟨outcome.detail, Dataset.alone_eq_some houtcome⟩

/-- A key without a live flag is not in the state. -/
theorem flagsState?_absent (hstate : client.flagsState? subject withReasons = some state)
    (hnone : client.store.snapshot.flag? key = none) : FlagsState.SameAt key state {} := by
  rw [flagsState?_eq hready] at hstate
  refine FlagsState.addAll_sameAt hstate fun flag hmem hkey => ?_
  obtain ⟨key', hlive⟩ := Dataset.mem_filterMap_items_iff.mp hmem
  have hown : flag.key = key' := hself key' flag hlive
  rw [← hown, hkey, hnone] at hlive
  cases hlive

theorem flagsState?_live (hstate : client.flagsState? subject withReasons = some state)
    (hlive : client.store.snapshot.flag? flag.key = some flag)
    (houtcome : client.store.snapshot.evaluate? Murmur3.bucketer subject flag = some outcome) :
    state.Tells withReasons flag outcome.detail := by
  rw [flagsState?_eq hready] at hstate
  refine FlagsState.addAll_tells hstate (Dataset.mem_filterMap_items_iff.mpr ⟨_, hlive⟩)
    (fun other hmem hkey => ?_) (Dataset.alone_eq_some houtcome)
  obtain ⟨key', hlive'⟩ := Dataset.mem_filterMap_items_iff.mp hmem
  have hown : other.key = key' := hself key' other hlive'
  rw [← hown, hkey, hlive] at hlive'
  exact (Option.some.inj hlive').symm

end

def pruned : Dataset := Dataset.bundled.insert .flags "gone" (.tombstone 3)

theorem pruned_selfKeyed : pruned.catalog.SelfKeyed := by
  rw [Dataset.selfKeyed_iff]
  intro entry hentry flag hflag
  change entry ∈ [("bundle", Descriptor.ofItem (.flag (Dataset.requiringShop "bundle"
    [⟨"price", 0⟩]))), ("gone", Descriptor.tombstone 3),
    ("price", Descriptor.ofItem (.flag (Dataset.requiringShop "price" []))),
    ("shop", Descriptor.ofItem (.flag Dataset.shop))] at hentry
  simp only [List.mem_cons, List.not_mem_nil, or_false] at hentry
  rcases hentry with rfl | rfl | rfl | rfl <;> cases hflag <;> rfl

end Client

end FeatureFlags
