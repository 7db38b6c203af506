import FeatureFlags.Proofs.Calls

/-!
Calls for values of a type. The event of such a call is recorded before the value is converted. So it
shows what the caller gets except where a flag serves a value of another type: then it has that value,
and the caller gets the default.
-/
namespace FeatureFlags

/-- A conversion gives the default wherever it does not give a value. -/
theorem Detail.tryMap_value {α β : Type} (f : α → Option β) (default : β) (error : EvalError)
    (detail : Detail α) :
    (detail.tryMap f default error).value = some ((detail.value.bind f).getD default) := by
  unfold tryMap
  cases detail.value with
  | none => rfl
  | some value =>
    rw [Option.bind_some]
    dsimp only
    cases f value with
    | none => rfl
    | some value => rfl

namespace Client

variable {α : Type} {client : Client} {key : String} {subject : Subject} {outcome : Outcome}
  {read : Json → Option α} {write : α → Json} {default : α} {served : Option Json}

/-- The value is what a caller gets, or is read as that. -/
def Shows (read : Json → Option α) (write : α → Json) (value : Json) (returned : α) : Prop :=
  value = write returned ∨ read value = some returned

/-- A value is served that cannot be read, and it is not the default either. -/
def Mistyped (read : Json → Option α) (write : α → Json) (default : α) (served : Option Json) :
    Prop :=
  ∃ value, served = some value ∧ read value = none ∧ value ≠ write default

/-- What is served, or the default, shows what is read of it. -/
theorem shows_iff_not_mistyped :
    Shows read write (served.getD (write default))
        ((read (served.getD (write default))).getD default) ↔
      ¬ Mistyped read write default served := by
  constructor
  · rintro hshows ⟨value, rfl, hread, hother⟩
    rw [Option.getD_some, hread, Option.getD_none] at hshows
    rcases hshows with hdefault | hvalue
    · exact hother hdefault
    · rw [hread] at hvalue
      cases hvalue
  · intro hfits
    cases hread : read (served.getD (write default)) with
    | some value => exact .inr hread
    | none =>
      refine .inl ?_
      cases served with
      | none => rfl
      | some value =>
        by_contra hother
        exact hfits ⟨value, rfl, hread, hother⟩

/-- A call records its own event after those of prerequisites. The event shows what the caller gets
unless a value of another type is served; then it has that value, and the caller gets the default. -/
def ShowsUnlessMistyped (client : Client) (read : Json → Option α) (write : α → Json) (default : α)
    (served : Option Json) (result : Option (Client × α)) : Prop :=
  ∃ required own returned,
    result = some (client.record (required ++ [own]), returned) ∧
    (∀ event ∈ required, event.prerequisiteOf.isSome) ∧ own.prerequisiteOf = none ∧
    own.default = some (write default) ∧
    (Shows read write own.value returned ↔ ¬ Mistyped read write default served) ∧
    (Mistyped read write default served → served = some own.value ∧ returned = default)

/-- One statement for all four calls, whose types differ only in how a value is read and written. -/
theorem typedVariation?_shows (h : client.outcome? key subject = some outcome)
    (read : Json → Option α) (write : α → Json) (default : α) :
    client.ShowsUnlessMistyped read write default outcome.detail.value
      (client.typedVariation? read write key subject default) := by
  have howns := owns_ownEvent h (write default)
  have hown : (client.ownEvent key subject (write default) outcome.detail).value =
      outcome.detail.value.getD (write default) :=
    Option.some.inj (howns.value.symm.trans (outcome.detail.or_value _))
  refine ⟨outcome.records.map (.ofPrerequisite · subject),
    client.ownEvent key subject (write default) outcome.detail,
    (read (outcome.detail.value.getD (write default))).getD default, ?_, ?_, howns.prerequisiteOf,
    howns.default, ?_, ?_⟩
  · rw [typedVariation?, variationDetail?_eq, h, Option.map_some, Option.map_some]
    dsimp only
    rw [Detail.tryMap_value, Detail.or_value, Option.bind_some, Option.getD_some]
  · intro event hevent
    obtain ⟨record, -, rfl⟩ := List.mem_map.mp hevent
    rfl
  · rw [hown]
    exact shows_iff_not_mistyped
  · rintro ⟨value, hserved, hread, -⟩
    rw [hown, hserved, Option.getD_some, hread]
    exact ⟨rfl, rfl⟩

/-- For each type that is asked for, the event of the call shows what the caller gets exactly if no
value of another type is served. -/
theorem typed_calls_show (client : Client) (key : String) (subject : Subject)
    (h : client.outcome? key subject = some outcome) :
    (∀ default, client.ShowsUnlessMistyped Json.bool? .bool default outcome.detail.value
      (client.boolVariation? key subject default)) ∧
    (∀ default, client.ShowsUnlessMistyped Json.string? .string default outcome.detail.value
      (client.stringVariation? key subject default)) ∧
    (∀ default, client.ShowsUnlessMistyped Json.int64? .int default outcome.detail.value
      (client.intVariation? key subject default)) ∧
    ∀ default, client.ShowsUnlessMistyped Json.float? Json.ofFloat default outcome.detail.value
      (client.floatVariation? key subject default) :=
  ⟨typedVariation?_shows h _ _, typedVariation?_shows h _ _, typedVariation?_shows h _ _,
    typedVariation?_shows h _ _⟩

def theme : Flag where
  key := "theme"
  version := 1
  on := true
  fallthrough := .variation 0
  variations := [.string "blue"]

def themed : Client :=
  holding { flags := (∅ : Keyed Descriptor).insert "theme" (.ofItem (.flag theme)) }

/-- The caller gets its default, and the event of the call has the text that was served. -/
theorem themed_event_not_returned :
    ∃ own, themed.boolVariation? "theme" { key := "alice" } true =
        some (themed.record [own], true) ∧
      own.key = "theme" ∧ own.prerequisiteOf = none ∧ own.default = some (.bool true) ∧
      own.value = .string "blue" ∧ ¬ Shows Json.bool? .bool own.value true := by
  refine ⟨themed.ownEvent "theme" { key := "alice" } (.bool true)
    ⟨some (.string "blue"), some 0, .fallthrough⟩, rfl, rfl, rfl, rfl, rfl, ?_⟩
  rintro (hvalue | hread)
  · cases hvalue
  · cases hread

/-- Asked for as what it is, the text is shown. -/
theorem themed_shown_as_text :
    themed.outcome? "theme" { key := "alice" } =
        some ⟨⟨some (.string "blue"), some 0, .fallthrough⟩, [], []⟩ ∧
      ¬ Mistyped Json.string? .string "red" (some (.string "blue")) ∧
      ∃ required own returned,
        themed.stringVariation? "theme" { key := "alice" } "red" =
          some (themed.record (required ++ [own]), returned) ∧
        Shows Json.string? .string own.value returned := by
  have houtcome : themed.outcome? "theme" { key := "alice" } =
      some ⟨⟨some (.string "blue"), some 0, .fallthrough⟩, [], []⟩ := rfl
  have hfits : ¬ Mistyped Json.string? .string "red" (some (.string "blue")) := by
    rintro ⟨value, hserved, hread, -⟩
    cases hserved
    cases hread
  obtain ⟨-, hstring, -⟩ := typed_calls_show themed "theme" { key := "alice" } houtcome
  obtain ⟨required, own, returned, hresult, -, -, -, hshows, -⟩ := hstring "red"
  exact ⟨houtcome, hfits, required, own, returned, hresult, hshows.mpr hfits⟩

end Client

end FeatureFlags
