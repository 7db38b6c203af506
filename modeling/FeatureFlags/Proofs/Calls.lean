import FeatureFlags.Client
import FeatureFlags.Proofs.ByDefinition
import FeatureFlags.Proofs.Outcomes

/-!
What a call for a flag leaves behind. It records one event of each evaluation for a prerequisite, in
the order of the evaluation's records, and then its own, which tells the same as the detail that the
caller gets. A flag that cannot be looked up is taken as one whose evaluation fails at once.
-/
namespace FeatureFlags

namespace Detail

variable {α : Type} {detail : Detail α}

theorem or_value (detail : Detail α) (default : α) :
    (detail.or default).value = some (detail.value.getD default) := by
  obtain ⟨_ | value, index, reason⟩ := detail <;> rfl

theorem or_reason (detail : Detail α) (default : α) :
    (detail.or default).reason = detail.reason := by
  obtain ⟨_ | value, index, reason⟩ := detail <;> rfl

/-- Only a variation that is not there is taken away with its value. -/
theorem or_variationIndex (hindex : detail.value = none → detail.variationIndex = none)
    (default : α) : (detail.or default).variationIndex = detail.variationIndex := by
  cases hvalue : detail.value with
  | none =>
    rw [or, hvalue]
    exact (hindex hvalue).symm
  | some value => rw [or, hvalue]

end Detail

theorem Flag.Offers.variationIndex_eq_none {flag : Flag} {detail : Detail Json}
    (h : flag.Offers detail) (hvalue : detail.value = none) : detail.variationIndex = none := by
  cases h with
  | variation _ => cases hvalue
  | nothing => rfl

structure EvaluationEvent.TellsOf (subject : Subject) (record : PrerequisiteRecord)
    (event : EvaluationEvent) : Prop where
  key : event.key = record.flag.key
  subject : event.subject = subject
  version : event.version = some record.flag.version
  variation : event.variation = record.detail.variationIndex
  value : event.value = record.detail.value.getD .null
  reason : event.reason = record.detail.reason
  default : event.default = none
  prerequisiteOf : event.prerequisiteOf = some record.prerequisiteOf

theorem EvaluationEvent.ofPrerequisite_tellsOf (subject : Subject) (record : PrerequisiteRecord) :
    TellsOf subject record (.ofPrerequisite record subject) :=
  ⟨rfl, rfl, rfl, rfl, rfl, rfl, rfl, rfl⟩

namespace Client

variable {client : Client} {key : String} {subject : Subject} {default : Json} {flag : Flag}
  {outcome : Outcome}

def found? (client : Client) (key : String) : Option Flag :=
  if client.store.initialized then client.store.snapshot.flag? key else none

/-- Why there is no flag, where there is none. -/
def lack (client : Client) : EvalError :=
  if client.store.initialized then .flagNotFound else .clientNotReady

def outcome? (client : Client) (key : String) (subject : Subject) : Option Outcome :=
  match client.found? key with
  | some flag => client.store.snapshot.evaluate? Murmur3.bucketer subject flag
  | none => some ⟨.failed client.lack, [], []⟩

/-- The event of the call itself, where the evaluation comes to this detail. -/
def ownEvent (client : Client) (key : String) (subject : Subject) (default : Json)
    (detail : Detail Json) : EvaluationEvent :=
  match client.found? key with
  | some flag => .ofEvaluation flag subject detail default
  | none => .ofUnknown key subject client.lack default

theorem outcome?_found (hfound : client.found? key = some flag) (subject : Subject) :
    client.outcome? key subject =
      client.store.snapshot.evaluate? Murmur3.bucketer subject flag := by
  unfold outcome?
  rw [hfound]

theorem outcome?_notFound (hnone : client.found? key = none) (subject : Subject) :
    client.outcome? key subject = some ⟨.failed client.lack, [], []⟩ := by
  unfold outcome?
  rw [hnone]

theorem ownEvent_found (hfound : client.found? key = some flag) (subject : Subject)
    (default : Json) (detail : Detail Json) :
    client.ownEvent key subject default detail = .ofEvaluation flag subject detail default := by
  unfold ownEvent
  rw [hfound]

theorem ownEvent_notFound (hnone : client.found? key = none) (subject : Subject)
    (default : Json) (detail : Detail Json) :
    client.ownEvent key subject default detail = .ofUnknown key subject client.lack default := by
  unfold ownEvent
  rw [hnone]

/-- The three ways of a call are one. -/
theorem variationDetail?_eq (client : Client) (key : String) (subject : Subject) (default : Json) :
    client.variationDetail? key subject default =
      (client.outcome? key subject).map fun outcome =>
        (client.record (outcome.records.map (.ofPrerequisite · subject) ++
          [client.ownEvent key subject default outcome.detail]), outcome.detail.or default) := by
  unfold variationDetail? outcome? ownEvent found? lack
  dsimp only
  cases client.store.initialized with
  | false => rfl
  | true =>
    cases client.store.snapshot.flag? key with
    | none => rfl
    | some flag => rfl

/-- An evaluation without a value has no variation either. -/
theorem outcome?_variationIndex (h : client.outcome? key subject = some outcome)
    (hvalue : outcome.detail.value = none) : outcome.detail.variationIndex = none := by
  cases hfound : client.found? key with
  | none =>
    rw [outcome?_notFound hfound] at h
    cases h
    rfl
  | some flag =>
    rw [outcome?_found hfound] at h
    exact (Dataset.evaluate?_offers h).variationIndex_eq_none hvalue

/-- The event of a call for a flag, beside the detail that the caller gets. -/
structure Owns (client : Client) (key : String) (subject : Subject) (default : Json)
    (detail : Detail Json) (event : EvaluationEvent) : Prop where
  subject : event.subject = subject
  value : detail.value = some event.value
  variation : event.variation = detail.variationIndex
  reason : event.reason = detail.reason
  default : event.default = some default
  version : event.version = (client.found? key).map (·.version)
  prerequisiteOf : event.prerequisiteOf = none

/-- The event that a call records for itself tells what the caller gets. -/
theorem owns_ownEvent (h : client.outcome? key subject = some outcome) (default : Json) :
    client.Owns key subject default (outcome.detail.or default)
      (client.ownEvent key subject default outcome.detail) := by
  have hindex := Detail.or_variationIndex (outcome?_variationIndex h) default
  have hvalue := outcome.detail.or_value default
  have hreason := outcome.detail.or_reason default
  cases hfound : client.found? key with
  | some flag =>
    rw [ownEvent_found hfound]
    exact ⟨rfl, hvalue, hindex.symm, hreason.symm, rfl, by rw [hfound]; rfl, rfl⟩
  | none =>
    rw [outcome?_notFound hfound] at h
    rw [ownEvent_notFound hfound]
    cases h
    exact ⟨rfl, rfl, rfl, rfl, rfl, by rw [hfound]; rfl, rfl⟩

/-- The records of the evaluations that a call makes for prerequisites: without a flag there are
none. -/
structure Recounts (client : Client) (key : String) (subject : Subject)
    (records : List PrerequisiteRecord) : Prop where
  found {flag : Flag} : client.found? key = some flag →
    flag.Recounts (client.store.snapshot.setting Murmur3.bucketer subject true)
      (({} : Trail).enter flag) flag.asked records
  notFound : client.found? key = none → records = []

/-- The records of a call are those of the evaluations made for prerequisites. -/
theorem recounts_outcome? (h : client.outcome? key subject = some outcome) :
    client.Recounts key subject outcome.records where
  found hfound := by
    rw [outcome?_found hfound] at h
    exact Dataset.evaluate?_recounts h
  notFound hnone := by
    rw [outcome?_notFound hnone] at h
    cases h
    rfl

/-- The caller gets the value that was served, or else the default. -/
theorem variationDetail?_value (h : client.outcome? key subject = some outcome) (default : Json) :
    (client.variationDetail? key subject default).map (·.2.value) =
      some (some (outcome.detail.value.getD default)) := by
  rw [variationDetail?_eq, h, Option.map_some, Option.map_some]
  exact congrArg some (outcome.detail.or_value default)

/-- A caller gets back whatever default it gives exactly if nothing is served. -/
theorem variationDetail?_value_eq_default_iff (h : client.outcome? key subject = some outcome) :
    (∀ default, (client.variationDetail? key subject default).map (·.2.value) =
      some (some default)) ↔ outcome.detail.value = none := by
  refine ⟨fun hdefault => ?_, fun hvalue default => ?_⟩
  · cases hvalue : outcome.detail.value with
    | none => rfl
    | some value =>
      -- No value equals every default.
      have hall : ∀ default, value = default := by
        intro default
        have hsame := hdefault default
        rw [variationDetail?_value h, hvalue] at hsame
        exact Option.some.inj (Option.some.inj hsame)
      exact absurd ((hall .null).symm.trans (hall (.bool true))) (by simp)
  · rw [variationDetail?_value h, hvalue]
    rfl

def holding (data : Dataset) : Client where
  config := { sdkKey := "sdk-key" }
  held := { store := ⟨data, true⟩ }

end Client

end FeatureFlags
