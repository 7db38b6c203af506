import FeatureFlags.Proofs.SentKeys

/-!
What the descriptors of a store hold. An item that comes to a store comes as a descriptor of its own
version into the namespace of its own kind, and an item that is deleted comes as a tombstone, whichever
way it was sent. So what is stored under a key can be read in any way that a store can be read, with
the same result.
-/
namespace FeatureFlags

def Item.kind : Item → Kind
  | .flag _ => .flags
  | .segment _ => .segments

namespace Descriptor

/-- The item may stand in the descriptor, stored in a namespace. -/
structure Suits (kind : Kind) (descriptor : Descriptor) (item : Item) : Prop where
  version : descriptor.version = item.version
  kind : item.kind = kind
  live : item.isDeleted = false

/-- A descriptor that is a tombstone or holds an item that may stand there. -/
def IsSound (kind : Kind) (descriptor : Descriptor) : Prop :=
  ∀ item, descriptor.item = some item → descriptor.Suits kind item

theorem isSound_tombstone (kind : Kind) (version : Nat) : (tombstone version).IsSound kind :=
  fun _ hitem => absurd hitem (Option.some_ne_none _).symm

/-- An item makes a sound descriptor, deleted or not. -/
theorem isSound_ofItem (item : Item) : (ofItem item).IsSound item.kind := by
  intro held hheld
  obtain ⟨rfl, hlive⟩ := item_ofItem_eq_some_iff.mp hheld
  refine ⟨?_, rfl, hlive⟩
  unfold ofItem
  rw [hlive]
  rfl

end Descriptor

theorem Answers.kind_of_item {answers : Answers} {kind : Kind} {key : String} {item : Item}
    (h : answers.item key kind = .ok item) : item.kind = kind := by
  cases kind with
  | flags =>
    obtain ⟨flag, -, rfl⟩ := exists_of_map_eq_ok h
    rfl
  | segments =>
    obtain ⟨segment, -, rfl⟩ := exists_of_map_eq_ok h
    rfl

def Change.IsSound : Change → Prop
  | .all _ => True
  | .item kind _ descriptor => descriptor.IsSound kind

namespace Update

def IsSound : Update → Prop
  | .patch kind _ descriptor => descriptor.IsSound kind
  | .put _ | .delete .. | .fetchAll | .fetchItem .. => True

/-- An item that reads in a namespace belongs there. -/
theorem kind_of_item? {kind : Kind} {value : Json} {item : Item} (h : item? kind value = some item) :
    item.kind = kind := by
  cases kind with
  | flags =>
    obtain ⟨flag, -, rfl⟩ := Option.map_eq_some_iff.mp h
    rfl
  | segments =>
    obtain ⟨segment, -, rfl⟩ := Option.map_eq_some_iff.mp h
    rfl

/-- An item of a patch is read as one of the namespace that it goes to. -/
theorem isSound_of_read? {name data : String} {update : Update}
    (h : read? name data = some (some update)) : update.IsSound := by
  unfold read? at h
  split at h
  · obtain ⟨definitions, -, hupdate⟩ := Option.bind_eq_some_iff.mp h
    cases hupdate
    trivial
  · obtain ⟨⟨path, value⟩, -, hupdate⟩ := Option.bind_eq_some_iff.mp h
    obtain ⟨kind, key, -, hread⟩ := exists_of_atPath hupdate
    obtain ⟨item, hitem, rfl⟩ := Option.map_eq_some_iff.mp hread
    exact kind_of_item? hitem ▸ Descriptor.isSound_ofItem item
  · obtain ⟨⟨path, version⟩, -, hupdate⟩ := Option.bind_eq_some_iff.mp h
    obtain ⟨kind, key, -, hread⟩ := exists_of_atPath hupdate
    cases hread
    trivial
  · cases h
    trivial
  · obtain ⟨kind, key, -, hread⟩ := exists_of_atPath h
    cases hread
    trivial
  · cases h

/-- An event brings no item into a namespace that it does not belong to. -/
theorem isSound_of_ofEvent {event : EventStream.Event} {update : Update}
    (h : ofEvent event = .ok (some update)) : update.IsSound := by
  unfold ofEvent at h
  split at h
  · next hread =>
    cases h
    exact isSound_of_read? hread
  · cases h

/-- An item is fetched from the namespace that it is stored in. -/
theorem isSound_change {answers : Answers} {update : Update} {asked : Change}
    (hsound : update.IsSound) (h : update.change answers = .ok asked) : asked.IsSound := by
  cases update with
  | put definitions =>
    cases h
    trivial
  | patch kind key descriptor =>
    cases h
    exact hsound
  | delete kind key version =>
    cases h
    exact Descriptor.isSound_tombstone kind version
  | fetchAll =>
    obtain ⟨definitions, -, rfl⟩ := exists_of_map_eq_ok h
    trivial
  | fetchItem kind key =>
    obtain ⟨item, hitem, rfl⟩ := exists_of_map_eq_ok h
    exact Answers.kind_of_item hitem ▸ Descriptor.isSound_ofItem item

end Update

theorem Streaming.Message.Tells.isSound {message : Message} {answers : Answers} {change : Change}
    (h : message.Tells answers change) : change.IsSound := by
  obtain ⟨_, _, update, -, hread, hchange⟩ := h
  exact Update.isSound_change (Update.isSound_of_ofEvent hread) hchange

namespace Dataset

def live? (data : Dataset) : Kind → String → Option Item
  | .flags, key => (data.flag? key).map .flag
  | .segments, key => (data.segment? key).map .segment

end Dataset

namespace Store

variable {store : Store} {kind : Kind} {key : String}

def IsSound (store : Store) : Prop :=
  ∀ kind key descriptor, store.data.find? kind key = some descriptor → descriptor.IsSound kind

/-- All ways to read a key give the same item, or none gives one. -/
structure ReadsAlike (store : Store) (kind : Kind) (key : String) : Prop where
  all : (store.all kind).get? key = store.get? kind key
  snapshot : store.snapshot.live? kind key = store.get? kind key

theorem isSound_empty : ({} : Store).IsSound := by
  intro kind key descriptor hfound
  cases kind <;> cases hfound

theorem IsSound.kind_of_get? (h : store.IsSound) {item : Item} (hitem : store.get? kind key = some item) :
    item.kind = kind := by
  obtain ⟨version, hfound⟩ := (get?_eq_some_iff store kind key item).mp hitem
  exact (h kind key _ hfound item rfl).kind

/-- In a sound store all ways to read a key agree. -/
theorem IsSound.readsAlike (h : store.IsSound) (kind : Kind) (key : String) :
    store.ReadsAlike kind key := by
  refine ⟨get?_all store kind key, ?_⟩
  -- What is found is of its namespace, so that looking for a flag or a segment does not lose it.
  have hkind : ∀ item, store.get? kind key = some item → item.kind = kind :=
    fun item => h.kind_of_get?
  cases kind with
  | flags =>
    change ((store.get? .flags key).bind Item.flag?).map Item.flag = store.get? .flags key
    cases hitem : store.get? .flags key with
    | none => rfl
    | some item =>
      cases item with
      | flag flag => rfl
      | segment segment => cases hkind _ hitem
  | segments =>
    change ((store.get? .segments key).bind Item.segment?).map Item.segment =
      store.get? .segments key
    cases hitem : store.get? .segments key with
    | none => rfl
    | some item =>
      cases item with
      | flag flag => cases hkind _ hitem
      | segment segment => rfl

theorem isSound_init (store : Store) (definitions : Definitions) :
    (store.init (.ofDefinitions definitions)).IsSound := by
  intro kind key descriptor hfound
  cases kind with
  | flags =>
    have hentry := (Keyed.get?_map (Descriptor.ofItem ∘ Item.flag) definitions.flags key).symm
    obtain ⟨flag, -, rfl⟩ := Option.map_eq_some_iff.mp (hentry.trans hfound)
    exact Descriptor.isSound_ofItem (.flag flag)
  | segments =>
    have hentry := (Keyed.get?_map (Descriptor.ofItem ∘ Item.segment) definitions.segments key).symm
    obtain ⟨segment, -, rfl⟩ := Option.map_eq_some_iff.mp (hentry.trans hfound)
    exact Descriptor.isSound_ofItem (.segment segment)

/-- A write of a sound descriptor leaves the store sound. -/
theorem IsSound.write (h : store.IsSound) {w : Write} (hw : w.descriptor.IsSound w.kind) :
    (store.write w).IsSound := by
  intro kind key descriptor hfound
  rw [find?_write] at hfound
  split at hfound
  · next hhere =>
    obtain ⟨rfl, rfl⟩ := hhere
    cases hfound
    unfold Descriptor.keep
    split
    · next old hold =>
      split
      · exact hw
      · exact h _ _ old hold
    · exact hw
  · exact h kind key descriptor hfound

theorem IsSound.enter (h : store.IsSound) {entry : Entry}
    (hentry : ∀ change, entry = .stored change → change.IsSound) : (store.enter entry).IsSound := by
  rcases entry with ⟨definitions | ⟨kind, key, descriptor⟩⟩ | change | failure
  · exact isSound_init store definitions
  · exact h.write (w := ⟨kind, key, descriptor⟩) (hentry _ rfl)
  · exact h
  · exact h

/-- So does an account of sound changes. -/
theorem IsSound.enterAll (h : store.IsSound) {account : List Entry}
    (haccount : ∀ change, .stored change ∈ account → change.IsSound) :
    (account.foldl Store.enter store).IsSound := by
  induction account generalizing store with
  | nil => exact h
  | cons entry rest ih =>
    refine ih (h.enter ?_) fun change hmem => haccount change (List.mem_cons_of_mem entry hmem)
    rintro change rfl
    exact haccount change List.mem_cons_self

/-- What an account of sound changes makes of a sound store. -/
theorem IsSound.follows (h : store.IsSound) {after : Store} {account : List Entry}
    (hafter : after = account.foldl Store.enter store)
    (haccount : ∀ change, .stored change ∈ account → change.IsSound) :
    after.IsSound ∧ ∀ kind key, after.ReadsAlike kind key := by
  have hkept : after.IsSound := hafter ▸ h.enterAll haccount
  exact ⟨hkept, hkept.readsAlike⟩

end Store

/-- A store that is sound, as an empty one is, stays so in every run of a source of either kind, and
its keys read alike at any time. -/
theorem stored_items_suit :
    ({} : Store).IsSound ∧ ∀ store : Store, store.IsSound →
      (∀ actions : List Polling.Action,
        let after := ((Polling.start store).acts actions).replica.store
        after.IsSound ∧ ∀ kind key, after.ReadsAlike kind key) ∧
      ∀ (monitored : Bool) (actions : List Streaming.Action),
        let after := ((Streaming.start store monitored).acts actions).replica.store
        after.IsSound ∧ ∀ kind key, after.ReadsAlike kind key := by
  refine ⟨Store.isSound_empty, fun store hsound => ⟨fun actions => ?_, fun monitored actions => ?_⟩⟩
  · refine hsound.follows (Polling.store_acts _ actions) fun change hstored => ?_
    obtain ⟨definitions, -, rfl⟩ := Polling.sent_of_stored hstored
    trivial
  · refine hsound.follows (Streaming.store_acts _ actions) fun change hstored => ?_
    obtain ⟨-, -, -, -, message, -, answers, -, htells⟩ := Streaming.tells_of_stored_acts hstored
    exact htells.isSound

def withDeleted : Definitions where
  flags := .ofList [("a", { key := "a" }), ("b", { key := "b", version := 4, deleted := true })]

/-- The flag that was deleted is stored as a tombstone, and no way of reading finds it. -/
theorem deleted_is_not_read :
    let after := ((Polling.start {}).acts [.respond (.ok withDeleted)]).replica.store
    after.data.find? .flags "b" = some (.tombstone 4) ∧ after.get? .flags "b" = none ∧
      (after.all .flags).get? "b" = none ∧ after.snapshot.live? .flags "b" = none ∧
      ∀ flag, after.get? .flags "a" = some flag → after.snapshot.live? .flags "a" = some flag := by
  intro after
  obtain ⟨hempty, hruns⟩ := stored_items_suit
  obtain ⟨hpolled, -⟩ := hruns {} hempty
  obtain ⟨-, halike⟩ := hpolled [.respond (.ok withDeleted)]
  have hdeleted : after.get? .flags "b" = none := rfl
  refine ⟨rfl, hdeleted, (halike _ _).all.trans hdeleted, (halike _ _).snapshot.trans hdeleted, ?_⟩
  exact fun flag hlive => (halike _ _).snapshot.trans hlive

end FeatureFlags
