import FeatureFlags.Proofs.StreamingActions

/-!
What a streaming data source leaves in its store. The store is what the account makes of it, line by
line: whole datasets that were put in place, and items that were written by their versions. Such a
line is entered once for each event that is read from the present connection, that reads and tells
of a known namespace, for which what has to be fetched was fetched, and which the store took.
Nothing else that happens makes a difference to the store.
-/
namespace FeatureFlags

theorem exists_of_map_eq_ok {ε α β : Type} {f : α → β} {result : Except ε α} {b : β}
    (h : result.map f = .ok b) : ∃ a, result = .ok a ∧ f a = b := by
  cases result with
  | error failure => cases h
  | ok a =>
    cases h
    exact ⟨a, rfl, rfl⟩

namespace Update

theorem exists_of_atPath {path : String} {f : Kind → String → Option Update} {update : Update}
    (h : atPath path f = some (some update)) :
    ∃ kind key, Kind.ofPath? path = some (kind, key) ∧ f kind key = some update := by
  unfold atPath at h
  split at h
  · next kind key hpath =>
    obtain ⟨_, hread, hsame⟩ := Option.map_eq_some_iff.mp h
    exact ⟨kind, key, hpath, hread.trans hsame⟩
  · cases h

/-- An event reads if its name and its data do. -/
theorem ofEvent_eq_ok_iff {event : EventStream.Event} {update : Option Update} :
    ofEvent event = .ok update ↔ read? event.name event.data = some update := by
  unfold ofEvent
  cases read? event.name event.data <;> simp

/-- The change that an event brings, by its name: the data that stand in it, an item or its deletion
at a path of a known namespace, or what was fetched on its hint. -/
inductive Brings (answers : Answers) : EventStream.Event → Change → Prop
  | put {data : String} {id : Option String} {definitions : Definitions} :
      (Document.read? data).bind putDecoder.run? = some definitions →
      Brings answers ⟨"put", data, id⟩ (.all definitions)
  | patch {data : String} {id : Option String} {path : String} {value : Json} {kind : Kind}
      {key : String} {item : Item} :
      (Document.read? data).bind patchDecoder.run? = some (path, value) →
      Kind.ofPath? path = some (kind, key) → item? kind value = some item →
      Brings answers ⟨"patch", data, id⟩ (.item kind key (.ofItem item))
  | delete {data : String} {id : Option String} {path : String} {version : Nat} {kind : Kind}
      {key : String} :
      (Document.read? data).bind deleteDecoder.run? = some (path, version) →
      Kind.ofPath? path = some (kind, key) →
      Brings answers ⟨"delete", data, id⟩ (.item kind key (.tombstone version))
  | fetchAll {data : String} {id : Option String} {definitions : Definitions} :
      answers.all = .ok definitions →
      Brings answers ⟨"indirect/put", data, id⟩ (.all definitions)
  | fetchItem {data : String} {id : Option String} {kind : Kind} {key : String} {item : Item} :
      Kind.ofPath? (String.ofList (Unicode.trim data.toList)) = some (kind, key) →
      answers.item key kind = .ok item →
      Brings answers ⟨"indirect/patch", data, id⟩ (.item kind key (.ofItem item))

variable {answers : Answers} {event : EventStream.Event} {change : Change}

theorem Brings.exists_ofEvent (h : Brings answers event change) :
    ∃ update, ofEvent event = .ok (some update) ∧ update.change answers = .ok change := by
  simp only [ofEvent_eq_ok_iff]
  cases h with
  | put hdata => exact ⟨.put _, by simp [read?, hdata], rfl⟩
  | patch hdata hpath hitem =>
    exact ⟨.patch .., by simp [read?, hdata, atPath, hpath, hitem], rfl⟩
  | delete hdata hpath => exact ⟨.delete .., by simp [read?, hdata, atPath, hpath], rfl⟩
  | fetchAll hall => exact ⟨.fetchAll, rfl, by simp [change, hall, Except.map]⟩
  | @fetchItem _ _ kind key _ hpath hitem =>
    exact ⟨.fetchItem kind key, by simp [read?, atPath, hpath], by simp [change, hitem, Except.map]⟩

theorem brings_of_ofEvent {update : Update} (hread : ofEvent event = .ok (some update))
    (hchange : update.change answers = .ok change) : Brings answers event change := by
  obtain ⟨name, data, id⟩ := event
  rw [ofEvent_eq_ok_iff] at hread
  unfold read? at hread
  dsimp only at hread
  split at hread
  · obtain ⟨definitions, hdata, heq⟩ := Option.bind_eq_some_iff.mp hread
    cases heq
    cases hchange
    exact .put hdata
  · obtain ⟨⟨path, value⟩, hdata, hupdate⟩ := Option.bind_eq_some_iff.mp hread
    obtain ⟨kind, key, hpath, hpatch⟩ := exists_of_atPath hupdate
    obtain ⟨item, hitem, rfl⟩ := Option.map_eq_some_iff.mp hpatch
    cases hchange
    exact .patch hdata hpath hitem
  · obtain ⟨⟨path, version⟩, hdata, hupdate⟩ := Option.bind_eq_some_iff.mp hread
    obtain ⟨kind, key, hpath, heq⟩ := exists_of_atPath hupdate
    cases heq
    cases hchange
    exact .delete hdata hpath
  · cases hread
    obtain ⟨definitions, hall, rfl⟩ := exists_of_map_eq_ok hchange
    exact .fetchAll hall
  · obtain ⟨kind, key, hpath, heq⟩ := exists_of_atPath hread
    cases heq
    obtain ⟨item, hitem, rfl⟩ := exists_of_map_eq_ok hchange
    exact .fetchItem hpath hitem
  · cases hread

/-- The names of events tell the same change as the update that is read from them. -/
theorem brings_iff : Brings answers event change ↔
    ∃ update, ofEvent event = .ok (some update) ∧ update.change answers = .ok change :=
  ⟨Brings.exists_ofEvent, fun ⟨_, hread, hchange⟩ => brings_of_ofEvent hread hchange⟩

end Update

namespace Streaming

variable {answers : Answers} {s : Streaming} {message : Message}

/-- A message that makes a change to the store. -/
structure Accepted (answers : Answers) (s : Streaming) (message : Message) (change : Change) :
    Prop where
  connected : s.phase = .connected
  available : s.replica.outage = none
  event : ∃ connection event update, message = .event connection event ∧
    s.isCurrent connection = true ∧ Update.ofEvent event = .ok (some update) ∧
    update.change answers = .ok change

/-- A change is accepted from an event of the present connection that brings it, while the store is
up. -/
theorem accepted_iff {change : Change} : Accepted answers s message change ↔
    s.phase = .connected ∧ s.replica.outage = none ∧ ∃ connection event,
      message = .event connection event ∧ s.isCurrent connection = true ∧
      Update.Brings answers event change := by
  simp only [Update.brings_iff]
  constructor
  · rintro ⟨hconnected, havailable, c, e, update, hmessage, hcurrent, hread, hchange⟩
    exact ⟨hconnected, havailable, c, e, hmessage, hcurrent, update, hread, hchange⟩
  · rintro ⟨hconnected, havailable, c, e, hmessage, hcurrent, update, hread, hchange⟩
    exact ⟨hconnected, havailable, c, e, update, hmessage, hcurrent, hread, hchange⟩

theorem updateEntry_eq_stored_iff {update : Update} {change : Change} :
    s.updateEntry answers update = .stored change ↔
      s.replica.outage = none ∧ update.change answers = .ok change := by
  unfold updateEntry
  cases update.change answers with
  | error failure => simp
  | ok asked => cases s.replica.outage <;> simp

/-- A message is entered once at most. -/
theorem length_messageEntries_le : (s.messageEntries answers message).length ≤ 1 := by
  unfold messageEntries readEntries
  split
  · cases message with
    | event c e =>
      dsimp only
      split
      · cases Update.ofEvent e with
        | error failure => exact Nat.le_refl 1
        | ok update => cases update <;> simp
      · exact Nat.zero_le 1
    | closed c failure =>
      dsimp only
      split <;> simp
    | heartbeat c => exact Nat.zero_le 1
    | storeStatus status => exact Nat.zero_le 1
    | stop => exact Nat.zero_le 1
  · exact Nat.zero_le 1

/-- It is entered as stored exactly if it is accepted. -/
theorem stored_mem_messageEntries_iff {change : Change} :
    .stored change ∈ s.messageEntries answers message ↔ Accepted answers s message change := by
  constructor
  · intro hmem
    unfold messageEntries at hmem
    split at hmem
    · next hconnected =>
      cases message with
      | event c e =>
        simp only [readEntries] at hmem
        split at hmem
        · next hcurrent =>
          cases hread : Update.ofEvent e with
          | error failure => simp [hread] at hmem
          | ok update =>
            cases update with
            | none => simp [hread] at hmem
            | some update =>
              rw [hread] at hmem
              obtain ⟨havailable, hchange⟩ :=
                updateEntry_eq_stored_iff.mp (List.mem_singleton.mp hmem).symm
              exact ⟨hconnected, havailable, c, e, update, rfl, hcurrent, hread, hchange⟩
        · simp at hmem
      | closed c failure =>
        simp only [readEntries] at hmem
        split at hmem <;> simp at hmem
      | heartbeat c => simp [readEntries] at hmem
      | storeStatus status => simp [readEntries] at hmem
      | stop => simp [readEntries] at hmem
    · simp at hmem
  · rintro ⟨hconnected, havailable, c, e, update, rfl, hcurrent, hread, hchange⟩
    have hstored := updateEntry_eq_stored_iff.mpr ⟨havailable, hchange⟩
    rw [messageEntries, if_pos hconnected]
    simp [readEntries, hcurrent, hread, hstored]

/-- An action does to the store what it enters. -/
theorem store_act (s : Streaming) (action : Action) :
    (s.act action).replica.store = (s.actEntries action).foldl Store.enter s.replica.store := by
  cases action with
  | connect answers result =>
    rw [actEntries, ← Replica.store_enterAll, ← replica_connect]
    rfl
  | receive answers message =>
    rw [actEntries, ← Replica.store_enterAll, ← replica_receive]
    rfl
  | elapse =>
    simp only [act, elapse]
    split <;> rfl
  | storeStatus status => rfl
  | outage failure => rfl
  | close =>
    simp only [act]
    split <;> rfl

theorem foldl_enter_of_not_stored {account : List Entry}
    (h : ∀ change, .stored change ∉ account) (store : Store) :
    account.foldl Store.enter store = store := by
  induction account with
  | nil => rfl
  | cons entry rest ih =>
    have hrest := ih fun change hmem => h change (List.mem_cons_of_mem _ hmem)
    cases entry with
    | stored change => exact absurd List.mem_cons_self (h change)
    | refused change => exact hrest
    | failed failure => exact hrest

theorem phase_opened_error (s : Streaming) (failure : Failure) :
    (s.opened (.error failure)).phase = .delayed ∨ (s.opened (.error failure)).phase = .ended := by
  change (if failure.isRecoverable then Phase.delayed else .ended) = .delayed ∨
    (if failure.isRecoverable then Phase.delayed else .ended) = .ended
  split
  · exact Or.inl rfl
  · exact Or.inr rfl

/-- Without a connection no message is entered. -/
theorem waitingEntries_of_given_up (answers : Answers) (messages : List Message) {s : Streaming}
    (h : s.phase = .delayed ∨ s.phase = .ended) : waitingEntries answers s messages = [] := by
  induction messages generalizing s with
  | nil => rfl
  | cons message rest ih =>
    have hnext : (s.receive answers message).phase = .delayed ∨
        (s.receive answers message).phase = .ended := by
      unfold receive
      rcases h with h | h
      · rw [h]
        dsimp only
        split
        · exact Or.inr rfl
        · exact Or.inl h
      · rw [h]
        exact Or.inr h
    have hnone : s.messageEntries answers message = [] := by
      rw [messageEntries, if_neg]
      rcases h with h | h <;> rw [h] <;> exact Phase.noConfusion
    rw [waitingEntries, hnone, ih hnext]
    rfl

/-- The account makes the store what the actions make it. -/
theorem store_acts (s : Streaming) (actions : List Action) :
    (s.acts actions).replica.store = (s.account actions).foldl Store.enter s.replica.store := by
  induction actions generalizing s with
  | nil => rfl
  | cons action rest ih =>
    rw [account, List.foldl_append, ← store_act]
    exact ih (s.act action)

/-- The store is what the account makes of it; a message is entered at most once, as stored exactly
if it is accepted; this is so of the changes that events of the present connection bring, while the
store takes them; and nothing else changes the store. -/
theorem store_follows_account (s : Streaming) (actions : List Action) :
    (s.acts actions).replica.store = (s.account actions).foldl Store.enter s.replica.store ∧
      (∀ (t : Streaming) answers message,
        (t.messageEntries answers message).length ≤ 1 ∧
        ∀ change, .stored change ∈ t.messageEntries answers message ↔
          Accepted answers t message change) ∧
      (∀ (t : Streaming) answers message change, Accepted answers t message change ↔
        t.phase = .connected ∧ t.replica.outage = none ∧ ∃ connection event,
          message = .event connection event ∧ t.isCurrent connection = true ∧
          Update.Brings answers event change) ∧
      (∀ (t : Streaming) answers message, (∀ change, ¬ Accepted answers t message change) →
        (t.receive answers message).replica.store = t.replica.store) ∧
      (∀ (t : Streaming) answers failure,
        (t.connect answers (.error failure)).replica.store = t.replica.store) ∧
      ∀ (t : Streaming) action, (∀ change, .stored change ∉ t.actEntries action) →
        (t.act action).replica.store = t.replica.store := by
  have hunchanged : ∀ (t : Streaming) action, (∀ change, .stored change ∉ t.actEntries action) →
      (t.act action).replica.store = t.replica.store := by
    intro t action hnone
    rw [store_act]
    exact foldl_enter_of_not_stored hnone _
  refine ⟨store_acts s actions,
    fun t answers message => ⟨length_messageEntries_le, fun _ => stored_mem_messageEntries_iff⟩,
    fun t answers message change => accepted_iff,
    fun t answers message hnone => ?_, fun t answers failure => ?_, hunchanged⟩
  · refine hunchanged t (.receive answers message) fun change hmem => ?_
    exact hnone change (stored_mem_messageEntries_iff.mp hmem)
  · refine hunchanged t (.connect answers (.error failure)) fun change hmem => ?_
    simp only [actEntries, connectEntries,
      waitingEntries_of_given_up answers t.inbox (t.phase_opened_error failure)] at hmem
    split at hmem <;> simp at hmem

end Streaming

end FeatureFlags
