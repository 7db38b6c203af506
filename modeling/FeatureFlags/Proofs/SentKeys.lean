import FeatureFlags.Proofs.SameCourse
import FeatureFlags.Proofs.StoreHistory

/-!
The keys that items are stored under. An item is sent under a key: its name in a whole dataset, the
key in the path of its event, the key that it was fetched by. It also tells a key of its own, and the
two are not compared. So whatever reaches a source, what is live in its store is there under the key
that it was sent under, and under its own key if everything is sent so.
-/
namespace FeatureFlags

def Definitions.item? (definitions : Definitions) : Kind → String → Option Item
  | .flags, key => (definitions.flags.get? key).map .flag
  | .segments, key => (definitions.segments.get? key).map .segment

namespace Change

/-- Whether a change comes with a live item under a key. -/
def Carries (kind : Kind) (key : String) (item : Item) : Change → Prop
  | .all definitions => definitions.item? kind key = some item ∧ item.isDeleted = false
  | .item kind' key' descriptor => kind' = kind ∧ key' = key ∧ descriptor.item = some item

/-- Every live item comes under its own key. -/
def SelfKeyed (change : Change) : Prop :=
  ∀ kind key item, change.Carries kind key item → item.key = key

end Change

theorem Descriptor.item_ofItem_eq_some_iff {sent item : Item} :
    (ofItem sent).item = some item ↔ sent = item ∧ item.isDeleted = false := by
  unfold ofItem
  cases hdeleted : sent.isDeleted with
  | true =>
    refine iff_of_false (by simp [tombstone]) ?_
    rintro ⟨rfl, hlive⟩
    exact Bool.noConfusion (hdeleted.symm.trans hlive)
  | false =>
    constructor
    · rintro ⟨⟩
      exact ⟨rfl, hdeleted⟩
    · rintro ⟨rfl, -⟩
      rfl

theorem Dataset.item?_ofDefinitions_eq_some_iff {definitions : Definitions} {kind : Kind}
    {key : String} {item : Item} :
    (ofDefinitions definitions).item? kind key = some item ↔
      definitions.item? kind key = some item ∧ item.isDeleted = false := by
  have hfind : (ofDefinitions definitions).find? kind key =
      (definitions.item? kind key).map .ofItem := by
    cases kind with
    | flags => exact (Keyed.get?_map _ _ _).trans (Option.map_map ..).symm
    | segments => exact (Keyed.get?_map _ _ _).trans (Option.map_map ..).symm
  rw [item?, hfind]
  cases definitions.item? kind key with
  | none => simp
  | some sent => simpa using Descriptor.item_ofItem_eq_some_iff

namespace Store

variable {store : Store} {kind : Kind} {key : String} {item : Item}

/-- Every live item is stored under its own key. -/
def SelfKeyed (store : Store) : Prop :=
  ∀ kind key item, store.get? kind key = some item → item.key = key

/-- What is live under a key was so before, or was sent under it. -/
def FilledBy (after before : Store) (Sent : Change → Prop) : Prop :=
  ∀ kind key item, after.get? kind key = some item →
    before.get? kind key = some item ∨ ∃ change, Sent change ∧ change.Carries kind key item

theorem FilledBy.selfKeyed {after before : Store} {Sent : Change → Prop}
    (h : after.FilledBy before Sent) (hbefore : before.SelfKeyed)
    (hsent : ∀ change, Sent change → change.SelfKeyed) : after.SelfKeyed := by
  intro kind key item hlive
  rcases h kind key item hlive with hearlier | ⟨change, hchange, hcarries⟩
  · exact hbefore kind key item hearlier
  · exact hsent change hchange kind key item hcarries

/-- A write leaves every other key alone, and under its own it leaves what was there or what is
written. -/
theorem get?_write {w : Write} (h : (store.write w).get? kind key = some item) :
    store.get? kind key = some item ∨
      w.kind = kind ∧ w.key = key ∧ w.descriptor.item = some item := by
  obtain ⟨version, hfound⟩ := (get?_eq_some_iff _ kind key item).mp h
  rw [find?_write] at hfound
  split at hfound
  · next hhere =>
    obtain ⟨rfl, rfl⟩ := hhere
    unfold Descriptor.keep at hfound
    split at hfound
    · next old hold =>
      split at hfound
      · have hwritten := Option.some.inj hfound
        exact .inr ⟨rfl, rfl, congrArg (·.item) hwritten⟩
      · exact .inl ((get?_eq_some_iff _ _ _ item).mpr ⟨version, hold.trans hfound⟩)
    · have hwritten := Option.some.inj hfound
      exact .inr ⟨rfl, rfl, congrArg (·.item) hwritten⟩
  · exact .inl ((get?_eq_some_iff _ kind key item).mpr ⟨version, hfound⟩)

/-- What is live after a line was there before, or came with it. -/
theorem get?_enter {entry : Entry} (h : (store.enter entry).get? kind key = some item) :
    store.get? kind key = some item ∨
      ∃ change, entry = .stored change ∧ change.Carries kind key item := by
  rcases entry with ⟨definitions | ⟨kind', key', descriptor⟩⟩ | change | failure
  · exact .inr ⟨_, rfl, Dataset.item?_ofDefinitions_eq_some_iff.mp h⟩
  · rcases get?_write (w := ⟨kind', key', descriptor⟩) h with hearlier | hwritten
    · exact .inl hearlier
    · exact .inr ⟨_, rfl, hwritten⟩
  · exact .inl h
  · exact .inl h

/-- By induction on the account, what is live was there at first or came with one of the lines. -/
theorem filledBy_enterAll (store : Store) (account : List Entry) :
    (account.foldl enter store).FilledBy store (.stored · ∈ account) := by
  induction account using List.reverseRecOn with
  | nil => exact fun _ _ _ hlive => .inl hlive
  | append_singleton earlier entry ih =>
    intro kind key item hlive
    rw [List.foldl_append] at hlive
    rcases get?_enter hlive with hearlier | ⟨change, rfl, hcarries⟩
    · rcases ih kind key item hearlier with hbefore | ⟨change, hmem, hcarries⟩
      · exact .inl hbefore
      · exact .inr ⟨change, List.mem_append_left _ hmem, hcarries⟩
    · exact .inr ⟨change, List.mem_append_right _ (List.mem_singleton.mpr rfl), hcarries⟩

/-- What a run makes of a store, where the account tells which changes the store took: what is live
is under the key it was sent under, and if that was always its own, so is what it is stored under. -/
structure FollowsSentKeys (after before : Store) (account : List Entry) (Sent : Change → Prop) :
    Prop where
  filled : after.FilledBy before (.stored · ∈ account)
  sent : ∀ change, .stored change ∈ account → Sent change
  selfKeyed : before.SelfKeyed → (∀ change, .stored change ∈ account → change.SelfKeyed) →
    after.SelfKeyed

/-- A store follows the keys that its changes were sent under. -/
theorem followsSentKeys {after before : Store} {account : List Entry} {Sent : Change → Prop}
    (hafter : after = account.foldl enter before)
    (hsent : ∀ change, .stored change ∈ account → Sent change) :
    after.FollowsSentKeys before account Sent := by
  have hfilled : after.FilledBy before (.stored · ∈ account) :=
    hafter ▸ filledBy_enterAll before account
  exact ⟨hfilled, hsent, hfilled.selfKeyed⟩

end Store

namespace Polling

/-- A polling source is sent the datasets that its fetches are answered with. -/
def Sent (actions : List Action) (change : Change) : Prop :=
  ∃ definitions, .respond (.ok definitions) ∈ actions ∧ change = .all definitions

theorem eq_of_stored_respond {p : Polling} {answer : Except Failure Definitions} {change : Change}
    (h : .stored change ∈ p.respondEntries answer) :
    ∃ definitions, answer = .ok definitions ∧ change = .all definitions := by
  unfold respondEntries at h
  split at h
  · cases answer with
    | ok definitions =>
      refine ⟨definitions, rfl, ?_⟩
      have hattempt := List.mem_singleton.mp h
      unfold Replica.attempt at hattempt
      split at hattempt
      · cases hattempt
      · exact Entry.stored.inj hattempt
    | error failure => simp at h
  · exact absurd h List.not_mem_nil

/-- Each change that a store took was sent to its source. -/
theorem sent_of_stored {p : Polling} {actions : List Action} {change : Change}
    (h : .stored change ∈ p.account actions) : Sent actions change := by
  induction actions generalizing p with
  | nil => exact absurd h List.not_mem_nil
  | cons action rest ih =>
    rcases List.mem_append.mp h with hnow | hlater
    · cases action with
      | respond answer =>
        obtain ⟨definitions, rfl, rfl⟩ := eq_of_stored_respond hnow
        exact ⟨definitions, List.mem_cons_self, rfl⟩
      | _ => exact absurd hnow List.not_mem_nil
    · obtain ⟨definitions, hmem, hchange⟩ := ih hlater
      exact ⟨definitions, List.mem_cons_of_mem _ hmem, hchange⟩

end Polling

namespace Streaming

def Action.message? : Action → Option Message
  | .receive _ message => some message
  | .connect .. | .elapse | .storeStatus _ | .outage _ | .close => none

def Action.answers? : Action → Option Answers
  | .connect answers _ | .receive answers _ => some answers
  | .elapse | .storeStatus _ | .outage _ | .close => none

def Message.Tells (message : Message) (answers : Answers) (change : Change) : Prop :=
  ∃ connection event update, message = .event connection event ∧
    Update.ofEvent event = .ok (some update) ∧ update.change answers = .ok change

/-- A streaming source is sent the changes that its events tell of. An event that comes while a
connection is being opened is looked at later, and what it asks for is fetched then. -/
def Sent (actions : List Action) (change : Change) : Prop :=
  ∃ before action after, actions = before ++ action :: after ∧
    ∃ message, (∃ earlier ∈ before ++ [action], earlier.message? = some message) ∧
      ∃ answers, action.answers? = some answers ∧ message.Tells answers change

variable {answers : Answers} {s : Streaming} {change : Change}

theorem tells_of_stored {message : Message}
    (h : .stored change ∈ s.messageEntries answers message) : message.Tells answers change := by
  obtain ⟨-, -, c, e, update, hmessage, -, hread, hchange⟩ := stored_mem_messageEntries_iff.mp h
  exact ⟨c, e, update, hmessage, hread, hchange⟩

theorem tells_of_stored_waiting {messages : List Message}
    (h : .stored change ∈ waitingEntries answers s messages) :
    ∃ message ∈ messages, message.Tells answers change := by
  induction messages generalizing s with
  | nil => exact absurd h List.not_mem_nil
  | cons message rest ih =>
    rcases List.mem_append.mp h with hnow | hlater
    · exact ⟨message, List.mem_cons_self, tells_of_stored hnow⟩
    · obtain ⟨later, hmem, htells⟩ := ih hlater
      exact ⟨later, List.mem_cons_of_mem _ hmem, htells⟩

/-- A message that waits has reached the source. -/
theorem mem_inbox_receive {message waiting : Message}
    (h : waiting ∈ (s.receive answers message).inbox) : waiting ∈ s.inbox ∨ waiting = message := by
  by_cases hphase : s.phase = .connecting
  · unfold receive at h
    rw [hphase] at h
    exact (List.mem_append.mp h).imp_right List.mem_singleton.mp
  · rw [inbox_receive hphase] at h
    exact .inl h

theorem mem_inbox_waiting {messages : List Message} {waiting : Message}
    (h : waiting ∈ (messages.foldl (receive answers) s).inbox) :
    waiting ∈ s.inbox ∨ waiting ∈ messages := by
  induction messages generalizing s with
  | nil => exact .inl h
  | cons message rest ih =>
    rcases ih h with hinbox | hrest
    · rcases mem_inbox_receive hinbox with hearlier | rfl
      · exact .inl hearlier
      · exact .inr List.mem_cons_self
    · exact .inr (List.mem_cons_of_mem _ hrest)

theorem mem_inbox_act {action : Action} {waiting : Message} (h : waiting ∈ (s.act action).inbox) :
    waiting ∈ s.inbox ∨ action.message? = some waiting := by
  cases action with
  | connect answers result =>
    simp only [act, connect_eq] at h
    split at h
    · rcases mem_inbox_waiting h with hopened | hinbox
      · cases result <;> exact absurd hopened List.not_mem_nil
      · exact .inl hinbox
    · exact .inl h
  | receive answers message =>
    exact (mem_inbox_receive h).imp_right fun heq => congrArg some heq.symm
  | elapse =>
    simp only [act, elapse] at h
    split at h <;> exact .inl h
  | storeStatus status => exact .inl h
  | outage failure => exact .inl h
  | close =>
    simp only [act] at h
    split at h <;> exact .inl h

/-- A change is stored with the message that tells of it, or with a connection for which that was
waiting. -/
theorem tells_of_stored_act {action : Action} (h : .stored change ∈ s.actEntries action) :
    ∃ message, (message ∈ s.inbox ∨ action.message? = some message) ∧
      ∃ answers, action.answers? = some answers ∧ message.Tells answers change := by
  cases action with
  | connect answers result =>
    simp only [actEntries, connectEntries] at h
    split at h
    · rcases List.mem_append.mp h with hopened | hwaiting
      · cases result <;> simp at hopened
      · obtain ⟨message, hmem, htells⟩ := tells_of_stored_waiting hwaiting
        exact ⟨message, .inl hmem, answers, rfl, htells⟩
    · exact absurd h List.not_mem_nil
  | receive answers message => exact ⟨message, .inr rfl, answers, rfl, tells_of_stored h⟩
  | _ => exact absurd h List.not_mem_nil

/-- What the store takes in a run, an event tells of that was waiting or has come by then. -/
theorem tells_of_stored_acts {actions : List Action} (h : .stored change ∈ s.account actions) :
    ∃ before action after, actions = before ++ action :: after ∧
      ∃ message, (message ∈ s.inbox ∨
          ∃ earlier ∈ before ++ [action], earlier.message? = some message) ∧
        ∃ answers, action.answers? = some answers ∧ message.Tells answers change := by
  induction actions generalizing s with
  | nil => exact absurd h List.not_mem_nil
  | cons first rest ih =>
    rcases List.mem_append.mp h with hnow | hlater
    · obtain ⟨message, hmessage, htells⟩ := tells_of_stored_act hnow
      refine ⟨[], first, rest, rfl, message, hmessage.imp_right fun hfirst => ?_, htells⟩
      exact ⟨first, List.mem_singleton.mpr rfl, hfirst⟩
    · obtain ⟨before, action, after, rfl, message, hmessage, htells⟩ := ih hlater
      refine ⟨first :: before, action, after, rfl, message, ?_, htells⟩
      rcases hmessage with hinbox | ⟨earlier, hmem, hearlier⟩
      · refine (mem_inbox_act hinbox).imp_right fun hfirst => ?_
        exact ⟨first, List.mem_cons_self, hfirst⟩
      · exact .inr ⟨earlier, List.mem_cons_of_mem _ hmem, hearlier⟩

end Streaming

/-- Whatever reaches a source of either kind, its store has items under the keys they were sent
under. -/
theorem items_under_sent_keys (store : Store) (monitored : Bool) :
    (∀ actions : List Polling.Action,
      let p := Polling.start store
      (p.acts actions).replica.store.FollowsSentKeys store (p.account actions)
        (Polling.Sent actions)) ∧
    ∀ actions : List Streaming.Action,
      let s := Streaming.start store monitored
      (s.acts actions).replica.store.FollowsSentKeys store (s.account actions)
        (Streaming.Sent actions) := by
  refine ⟨fun actions => ?_, fun actions => ?_⟩
  · exact Store.followsSentKeys (Polling.store_acts _ actions) fun _ => Polling.sent_of_stored
  · refine Store.followsSentKeys (Streaming.store_acts _ actions) fun change hstored => ?_
    obtain ⟨before, action, after, hactions, message, hmessage, htells⟩ :=
      Streaming.tells_of_stored_acts hstored
    exact ⟨before, action, after, hactions, message, hmessage.resolve_left List.not_mem_nil, htells⟩

def placedDefinitions : Definitions := { flags := .ofList [("a", { key := "a" })] }

/-- A dataset that has its one flag under its own key leaves the store so. -/
theorem placed_under_own_key :
    let p := (Polling.start {}).acts [.respond (.ok placedDefinitions)]
    p.replica.store.get? .flags "a" = some (.flag { key := "a" }) ∧ p.replica.store.SelfKeyed := by
  intro p
  obtain ⟨hpolled, -⟩ := items_under_sent_keys {} false
  have hrun := hpolled [.respond (.ok placedDefinitions)]
  refine ⟨rfl, hrun.selfKeyed ?_ fun change hstored => ?_⟩
  · rintro (_ | _) key item ⟨⟩
  · obtain ⟨definitions, hmem, rfl⟩ := hrun.sent change hstored
    obtain rfl : definitions = placedDefinitions := by simpa using hmem
    rintro (_ | _) key item ⟨hitem, -⟩
    · obtain ⟨flag, hflag, rfl⟩ := Option.map_eq_some_iff.mp hitem
      have hentry := Keyed.get?_eq_some_iff.mp hflag
      obtain ⟨rfl, rfl⟩ := Prod.mk.inj (List.mem_singleton.mp hentry)
      rfl
    · cases hitem

/-- An event on the first connection of a source. -/
theorem Streaming.acts_first_event (store : Store) (monitored : Bool) (answers : Answers)
    {event : EventStream.Event} {update : Update} (hread : Update.ofEvent event = .ok (some update)) :
    (start store monitored).acts [.connect answers (.ok ()), .receive answers (.event 0 event)] =
      ((start store monitored).connect answers (.ok ())).apply answers update := by
  change handle answers _ event = _
  rw [handle, hread]
  rfl

def misplaced : Flag := { key := "x" }

def misplacedDefinitions : Definitions := { flags := .ofList [("a", misplaced)] }

def misplacedEvent : EventStream.Event :=
  ⟨"patch", "\x7b\"path\":\"/flags/a\",\"data\":\x7b\"key\":\"x\"\x7d\x7d", none⟩

/-- The dataset reads, though the flag has another key of its own. -/
theorem decoder_misplacedDefinitions :
    (Document.read? "\x7b\"flags\":\x7b\"a\":\x7b\"key\":\"x\"\x7d\x7d\x7d").bind
      Definitions.decoder.run? = some misplacedDefinitions := by
  cbv

theorem ofEvent_misplacedEvent :
    Update.ofEvent misplacedEvent =
      .ok (some (.patch .flags "a" (.ofItem (.flag misplaced)))) := by
  cbv

/-- The misplaced flag is read, polled or as a patch, and stored where it was sent, so that it is not
under its own key. -/
theorem misplaced_is_stored :
    let p := (Polling.start {}).acts [.respond (.ok misplacedDefinitions)]
    let s := (Streaming.start {} false).acts
      [.connect default (.ok ()), .receive default (.event 0 misplacedEvent)]
    (Document.read? "\x7b\"flags\":\x7b\"a\":\x7b\"key\":\"x\"\x7d\x7d\x7d").bind
        Definitions.decoder.run? = some misplacedDefinitions ∧
      p.replica.store.get? .flags "a" = some (.flag misplaced) ∧ ¬ p.replica.store.SelfKeyed ∧
      Update.ofEvent misplacedEvent = .ok (some (.patch .flags "a" (.ofItem (.flag misplaced)))) ∧
      s.replica.store.get? .flags "a" = some (.flag misplaced) ∧ ¬ s.replica.store.SelfKeyed := by
  intro p s
  have hkey : (Item.flag misplaced).key ≠ "a" := by decide
  have hpolled : p.replica.store.get? .flags "a" = some (.flag misplaced) := rfl
  have hpatched := Streaming.acts_first_event {} false default ofEvent_misplacedEvent
  have hstreamed : s.replica.store.get? .flags "a" = some (.flag misplaced) := by
    unfold s
    rw [hpatched]
    rfl
  exact ⟨decoder_misplacedDefinitions, hpolled, fun h => hkey (h _ _ _ hpolled),
    ofEvent_misplacedEvent, hstreamed, fun h => hkey (h _ _ _ hstreamed)⟩

end FeatureFlags
