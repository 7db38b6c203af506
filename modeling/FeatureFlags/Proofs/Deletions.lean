import FeatureFlags.Proofs.StreamingEnd
import Mathlib

/-!
Ways to hear that an item was deleted: an event that says so, an item marked as deleted that comes with
its event, and a hint to fetch the item, which is then marked as deleted. The three come to the same
tombstone, so a source takes the same course with either of them, whether it looks at the event at once
or later. The path of a hint stands alone and loses the blanks at its end, while the other two have
theirs in JSON; so a hint speaks of the key without these blanks, which may be another one.
-/
namespace FeatureFlags

/-- What an event comes to, with what has to be fetched for it; some events tell nothing. -/
def Update.told (answers : Answers) (event : EventStream.Event) : Except Failure (Option Change) :=
  match ofEvent event with
  | .ok (some update) => (update.change answers).map some
  | .ok none => .ok none
  | .error failure => .error failure

namespace Streaming

def take (s : Streaming) : Except Failure (Option Change) → Streaming
  | .ok (some (.all definitions)) => s.put definitions
  | .ok (some (.item kind key descriptor)) => s.upsert kind key descriptor
  | .ok none => s
  | .error failure => s.fail failure

/-- The same source, but for the messages that wait and what was fetched. -/
def besides (s : Streaming) (inbox : List Message) (fetches : List Fetch) : Streaming :=
  { s with inbox, fetches }

variable {answers : Answers} {s t : Streaming}

theorem besides_afterWrite (s : Streaming) (written : Bool) (inbox : List Message)
    (fetches : List Fetch) :
    (s.besides inbox fetches).afterWrite written = (s.afterWrite written).besides inbox fetches := by
  unfold afterWrite besides
  dsimp only
  split <;> rfl

/-- Taking it depends neither on the messages that wait nor on what was fetched. -/
theorem besides_take (s : Streaming) (told : Except Failure (Option Change)) (inbox : List Message)
    (fetches : List Fetch) :
    (s.besides inbox fetches).take told = (s.take told).besides inbox fetches := by
  rcases told with failure | ⟨_ | ⟨definitions | ⟨kind, key, descriptor⟩⟩⟩
  · rfl
  · rfl
  · exact besides_afterWrite { s with replica := (s.replica.synchronize definitions).1 }
      (s.replica.synchronize definitions).2 inbox fetches
  · let written := (s.replica.upsert kind key descriptor).2
    let replica := (s.replica.upsert kind key descriptor).1
    exact besides_afterWrite
      { s with replica := if written && replica.initialized then replica.reportValid else replica }
      written inbox fetches

/-- An update does what it comes to, besides being the reason for a fetch. -/
theorem exists_apply_eq (answers : Answers) (s : Streaming) (update : Update) :
    ∃ fetches, s.apply answers update =
      (s.take ((update.change answers).map some)).besides s.inbox fetches := by
  have htaken (told : Except Failure (Option Change)) (fetch : Fetch) :
      (s.fetching fetch).take told = (s.take told).besides s.inbox (s.fetches ++ [fetch]) :=
    s.besides_take told s.inbox _
  have hunfetched (told : Except Failure (Option Change)) :
      s.take told = (s.take told).besides s.inbox s.fetches :=
    s.besides_take told s.inbox s.fetches
  cases update with
  | put definitions => exact ⟨_, hunfetched (.ok (some (.all definitions)))⟩
  | patch kind key descriptor => exact ⟨_, hunfetched (.ok (some (.item kind key descriptor)))⟩
  | delete kind key version => exact ⟨_, hunfetched (.ok (some (.item kind key _)))⟩
  | fetchAll =>
    refine ⟨s.fetches ++ [.all], ?_⟩
    rw [← htaken]
    simp only [apply, Update.change]
    cases answers.all <;> rfl
  | fetchItem kind key =>
    refine ⟨s.fetches ++ [.item kind key], ?_⟩
    rw [← htaken]
    simp only [apply, Update.change]
    cases answers.item key kind <;> rfl

/-- An event does what it comes to, besides being the reason for a fetch. -/
theorem exists_handle_eq (answers : Answers) (s : Streaming) (event : EventStream.Event) :
    ∃ fetches, s.handle answers event =
      (s.take (Update.told answers event)).besides s.inbox fetches := by
  unfold handle Update.told
  cases Update.ofEvent event with
  | error failure => exact ⟨s.fetches, rfl⟩
  | ok update =>
    cases update with
    | none => exact ⟨s.fetches, rfl⟩
    | some update => exact s.exists_apply_eq answers update

/-- The same message, or events of one connection that come to the same with answers that are due. -/
inductive Message.Agrees (Due : Answers → Prop) : Message → Message → Prop
  | refl (message : Message) : Agrees Due message message
  | event (connection : Nat) {event event' : EventStream.Event} :
      (∀ answers, Due answers → Update.told answers event = Update.told answers event') →
      Agrees Due (.event connection event) (.event connection event')

theorem Message.Agrees.mono {Due Due' : Answers → Prop} {message message' : Message}
    (h : message.Agrees Due message') (hdue : ∀ answers, Due' answers → Due answers) :
    message.Agrees Due' message' := by
  cases h with
  | refl => exact .refl _
  | event connection htold =>
    exact .event connection fun answers hanswers => htold answers (hdue answers hanswers)

/-- The answers that count for a message that comes now: it is looked at now, or it waits until some
are due. -/
def Counts (s : Streaming) (now : Answers) (Due : Answers → Prop) (answers : Answers) : Prop :=
  s.phase = .connected ∧ answers = now ∨ s.phase = .connecting ∧ Due answers

/-- Sources that differ only in what they fetched and in messages that wait, which agree. -/
structure Agrees (Due : Answers → Prop) (s t : Streaming) : Prop where
  same : t = s.besides t.inbox t.fetches
  inbox : List.Forall₂ (Message.Agrees Due) s.inbox t.inbox

/-- What is the same of two sources that may have fetched different things. -/
structure SameCourse (s t : Streaming) : Prop where
  replica : s.replica = t.replica
  phase : s.phase = t.phase
  connections : s.connections = t.connections
  closed : s.closed = t.closed

namespace Agrees

variable {Due : Answers → Prop}

theorem of_besides (s : Streaming) {inbox inbox' : List Message} (fetches fetches' : List Fetch)
    (h : List.Forall₂ (Message.Agrees Due) inbox inbox') :
    (s.besides inbox fetches).Agrees Due (s.besides inbox' fetches') := ⟨rfl, h⟩

theorem refl (s : Streaming) : s.Agrees Due s :=
  ⟨rfl, List.forall₂_same.mpr fun message _ => .refl message⟩

variable (h : s.Agrees Due t)

include h

theorem sameCourse : s.SameCourse t := by
  rw [h.same]
  exact ⟨rfl, rfl, rfl, rfl⟩

theorem phase : t.phase = s.phase := h.sameCourse.phase.symm

/-- Events that come to the same keep two sources in agreement. -/
theorem handle {event event' : EventStream.Event}
    (htold : Update.told answers event = Update.told answers event') :
    (s.handle answers event).Agrees Due (t.handle answers event') := by
  obtain ⟨fetches, hs⟩ := s.exists_handle_eq answers event
  obtain ⟨fetches', ht⟩ := t.exists_handle_eq answers event'
  rw [hs, ht, htold, h.same, besides_take]
  exact .of_besides _ fetches fetches' h.inbox

/-- A change that looks neither at what waits nor at what was fetched. -/
theorem frame (change : Streaming → Streaming)
    (hchange : ∀ (s : Streaming) inbox fetches,
      change (s.besides inbox fetches) = (change s).besides inbox fetches) :
    (change s).Agrees Due (change t) := by
  have hs : change s = (change s).besides s.inbox s.fetches := hchange s s.inbox s.fetches
  rw [hs, h.same, hchange]
  exact .of_besides _ _ _ h.inbox

theorem read {message message' : Message} (hmessage : message.Agrees (· = answers) message') :
    (s.read answers message).Agrees Due (t.read answers message') := by
  have hcurrent (connection : Nat) : t.isCurrent connection = s.isCurrent connection := by
    unfold isCurrent
    rw [h.sameCourse.connections]
  have hevent (connection : Nat) {event event' : EventStream.Event}
      (htold : Update.told answers event = Update.told answers event') :
      (s.read answers (.event connection event)).Agrees Due
        (t.read answers (.event connection event')) := by
    simp only [Streaming.read, hcurrent]
    split
    · exact h.handle htold
    · exact h
  cases hmessage with
  | event connection htold => exact hevent connection (htold answers rfl)
  | refl =>
    cases message with
    | event connection event => exact hevent connection rfl
    | heartbeat connection => exact h
    | closed connection failure =>
      simp only [Streaming.read, hcurrent]
      split
      · exact h.frame (fail · (failure.getD closedByServer)) fun _ _ _ => rfl
      · exact h
    | storeStatus status =>
      simp only [Streaming.read]
      split
      · exact h.frame (fun s => { s with phase := .connecting }) fun _ _ _ => rfl
      · exact h
    | stop => exact h.frame (fun s => { s with phase := .ended }) fun _ _ _ => rfl

/-- So do messages that agree whenever they may come to be looked at. -/
theorem receive {message message' : Message}
    (hmessage : message.Agrees (s.Counts answers Due) message') :
    (s.receive answers message).Agrees Due (t.receive answers message') := by
  unfold Streaming.receive
  rw [h.phase]
  cases hphase : s.phase with
  | connecting =>
    have hwaiting := hmessage.mono fun _ hdue => .inr ⟨hphase, hdue⟩
    refine ⟨?_, List.rel_append h.inbox (.cons hwaiting .nil)⟩
    dsimp only
    rw [h.same]
    rfl
  | connected => exact h.read (hmessage.mono fun _ hnow => .inl ⟨hphase, hnow⟩)
  | delayed =>
    cases hmessage with
    | event => exact h
    | refl =>
      dsimp only
      split
      · exact h.frame (fun s => { s with phase := .ended }) fun _ _ _ => rfl
      · exact h
  | ended => exact h

theorem waiting (hdue : Due answers) {messages messages' : List Message}
    (hmessages : List.Forall₂ (Message.Agrees Due) messages messages') :
    (messages.foldl (Streaming.receive answers) s).Agrees Due
      (messages'.foldl (Streaming.receive answers) t) := by
  induction hmessages generalizing s t with
  | nil => exact h
  | cons hmessage _ ih =>
    refine ih (h.receive (hmessage.mono ?_))
    rintro later (⟨-, rfl⟩ | ⟨-, hlater⟩)
    · exact hdue
    · exact hlater

/-- When a connection is opened, the messages that waited are looked at on both sides. -/
theorem connect (hdue : Due answers) (result : Except Failure Unit) :
    (s.connect answers result).Agrees Due (t.connect answers result) := by
  have hopened : (s.opened result).Agrees Due (t.opened result) := by
    rw [h.same]
    cases result <;> exact ⟨rfl, .nil⟩
  rw [connect_eq, connect_eq, h.phase]
  split
  · exact hopened.waiting hdue h.inbox
  · exact h

/-- What waits is looked at when a connection comes out, so what is fetched then has to be due. -/
theorem act {action : Action}
    (hdue : ∀ answers result, action = .connect answers result → Due answers) :
    (s.act action).Agrees Due (t.act action) := by
  cases action with
  | connect answers result => exact h.connect (hdue answers result rfl) result
  | receive answers message => exact h.receive (.refl message)
  | elapse =>
    simp only [Streaming.act, Streaming.elapse, h.phase]
    split
    · exact h.frame (fun s => { s with phase := .connecting }) fun _ _ _ => rfl
    · exact h
  | storeStatus status =>
    exact h.frame (Streaming.act · (.storeStatus status)) fun _ _ _ => rfl
  | outage failure => exact h.frame (Streaming.act · (.outage failure)) fun _ _ _ => rfl
  | close =>
    simp only [Streaming.act, ← h.sameCourse.closed]
    split
    · exact h
    · exact h.frame (fun s => { s with closed := true, replica := s.replica.report .off })
        fun _ _ _ => rfl

/-- Sources that agree go on to agree, as long as the answers that are due are given. -/
theorem acts {actions : List Action}
    (hdue : ∀ answers result, .connect answers result ∈ actions → Due answers) :
    (s.acts actions).Agrees Due (t.acts actions) := by
  induction actions generalizing s t with
  | nil => exact h
  | cons action rest ih =>
    refine ih (h.act fun answers result heq => hdue answers result (heq ▸ List.mem_cons_self)) ?_
    exact fun answers result hmem => hdue answers result (List.mem_cons_of_mem _ hmem)

end Agrees

end Streaming

namespace Kind

/-- The key that is left of a key at the end of a text whose blanks are dropped. -/
def trimmedKey (key : String) : String :=
  String.ofList (Unicode.trimStart key.toList.reverse).reverse

theorem toList_path (kind : Kind) (key : String) :
    (kind.path key).toList = '/' :: (kind.name.toList ++ '/' :: key.toList) := by
  simp [path]

/-- The path of an item tells its namespace and its key. -/
theorem ofPath?_path (kind : Kind) (key : String) : ofPath? (kind.path key) = some (kind, key) := by
  unfold ofPath?
  rw [toList_path]
  cases kind <;> simp [dropStart?, name]

/-- The slash before the key is no blank, so nothing is dropped in front of it. -/
theorem trimStart_slash (text : List Char) : Unicode.trimStart ('/' :: text) = '/' :: text :=
  List.dropWhile_cons_of_neg (by decide)

theorem trim_path (kind : Kind) (key : String) :
    String.ofList (Unicode.trim (kind.path key).toList) = kind.path (trimmedKey key) := by
  have hreverse : (kind.path key).toList.reverse =
      key.toList.reverse ++ '/' :: (kind.name.toList.reverse ++ ['/']) := by
    simp [toList_path]
  have hdropped : Unicode.trimStart (kind.path key).toList.reverse =
      Unicode.trimStart key.toList.reverse ++ '/' :: (kind.name.toList.reverse ++ ['/']) := by
    rw [hreverse]
    unfold Unicode.trimStart
    rw [List.dropWhile_append]
    split
    · next hblank =>
      rw [List.isEmpty_iff.mp hblank]
      exact trimStart_slash _
    · rfl
  have hstart : Unicode.trimStart (kind.path key).toList = (kind.path key).toList := by
    rw [toList_path]
    exact trimStart_slash _
  refine String.toList_inj.mp ?_
  rw [String.toList_ofList, Unicode.trim, hstart, hdropped, toList_path, trimmedKey]
  simp

end Kind

def Item.DeletedAt (item : Item) (version : Nat) : Prop :=
  item.isDeleted = true ∧ item.version = version

theorem Descriptor.ofItem_of_deletedAt {item : Item} {version : Nat} (h : item.DeletedAt version) :
    ofItem item = tombstone version := by
  obtain ⟨hdeleted, rfl⟩ := h
  rw [ofItem, if_pos hdeleted]

def Answers.DeletedAt (answers : Answers) (kind : Kind) (key : String) (version : Nat) : Prop :=
  ∃ item, answers.item key kind = .ok item ∧ item.DeletedAt version

namespace Update

variable {answers : Answers} {kind : Kind} {key : String} {version : Nat} {event : EventStream.Event}

def Deletes (kind : Kind) (key : String) (version : Nat) (event : EventStream.Event) : Prop :=
  event.name = "delete" ∧
    (Document.read? event.data).bind deleteDecoder.run? = some (kind.path key, version)

def BringsDeleted (kind : Kind) (key : String) (version : Nat) (event : EventStream.Event) : Prop :=
  event.name = "patch" ∧ ∃ value item,
    (Document.read? event.data).bind patchDecoder.run? = some (kind.path key, value) ∧
      item? kind value = some item ∧ item.DeletedAt version

def HintsAt (kind : Kind) (key : String) (event : EventStream.Event) : Prop :=
  event.name = "indirect/patch" ∧ event.data = kind.path key

theorem Deletes.told_eq (h : Deletes kind key version event) (answers : Answers) :
    told answers event = .ok (some (.item kind key (.tombstone version))) := by
  obtain ⟨hname, hdata⟩ := h
  have hread : read? "delete" event.data = some (some (.delete kind key version)) := by
    simp [read?, hdata, atPath, Kind.ofPath?_path]
  unfold told ofEvent
  rw [hname, hread]
  rfl

theorem BringsDeleted.told_eq (h : BringsDeleted kind key version event) (answers : Answers) :
    told answers event = .ok (some (.item kind key (.tombstone version))) := by
  obtain ⟨hname, value, item, hdata, hitem, hdeleted⟩ := h
  have hread : read? "patch" event.data = some (some (.patch kind key (.tombstone version))) := by
    simp [read?, hdata, atPath, Kind.ofPath?_path, hitem, Descriptor.ofItem_of_deletedAt hdeleted]
  unfold told ofEvent
  rw [hname, hread]
  rfl

/-- A hint comes to the deletion of the key without the blanks at its end. -/
theorem HintsAt.told_eq (h : HintsAt kind key event)
    (hdeleted : answers.DeletedAt kind (Kind.trimmedKey key) version) :
    told answers event = .ok (some (.item kind (Kind.trimmedKey key) (.tombstone version))) := by
  obtain ⟨hname, hdata⟩ := h
  obtain ⟨item, hitem, hdeleted⟩ := hdeleted
  have hread : read? "indirect/patch" event.data =
      some (some (.fetchItem kind (Kind.trimmedKey key))) := by
    simp [read?, hdata, Kind.trim_path, atPath, Kind.ofPath?_path]
  unfold told ofEvent
  rw [hname, hread]
  simp [change, hitem, Except.map, Descriptor.ofItem_of_deletedAt hdeleted]

end Update

namespace Streaming

open Update

/-- Sources that take events which come to the same, whenever they look at them, stay on one course. -/
theorem sameCourse_of_told_eq {s : Streaming} {now : Answers} {later : List Action}
    {event event' : EventStream.Event} (Due : Answers → Prop)
    (htold : ∀ answers, s.Counts now Due answers → told answers event = told answers event')
    (hlater : s.phase = .connecting → ∀ answers result, .connect answers result ∈ later →
      Due answers)
    (connection : Nat) :
    ((s.act (.receive now (.event connection event))).acts later).SameCourse
      ((s.act (.receive now (.event connection event'))).acts later) := by
  -- What waits besides the two events is the same, so it does not matter which answers are due to it.
  by_cases hphase : s.phase = .connecting
  · exact (((Agrees.refl s).receive (.event connection htold)).acts (hlater hphase)).sameCourse
  · have hnow : Message.Agrees (s.Counts now fun _ => True) (.event connection event)
        (.event connection event') := by
      refine .event connection fun answers hcounts => htold answers ?_
      exact .inl (hcounts.resolve_right fun h => hphase h.1)
    exact (((Agrees.refl s).receive hnow).acts fun _ _ _ => trivial).sameCourse

/-- An event that says that an item was deleted and one that brings the item marked as deleted make no
difference to a source, wherever it is in its run and whatever comes later; and neither does a hint
at the item, if fetching it gives one marked as deleted, unless its key ends in blanks: then it is a
deletion of the key without them. -/
theorem deletions_agree (s : Streaming) (connection : Nat) (now : Answers) (later : List Action)
    {kind : Kind} {key : String} {version : Nat} {delete patch hint : EventStream.Event}
    (hdelete : Deletes kind key version delete) (hpatch : BringsDeleted kind key version patch)
    (hhint : HintsAt kind key hint)
    (hnow : s.phase = .connected → now.DeletedAt kind (Kind.trimmedKey key) version)
    (hlater : s.phase = .connecting → ∀ answers result, .connect answers result ∈ later →
      answers.DeletedAt kind (Kind.trimmedKey key) version) :
    let after event := (s.act (.receive now (.event connection event))).acts later
    (after patch).SameCourse (after delete) ∧
      (Kind.trimmedKey key = key → (after hint).SameCourse (after delete)) ∧
      ∀ other, Deletes kind (Kind.trimmedKey key) version other →
        (after hint).SameCourse (after other) := by
  intro after
  have hother (other) (h : Deletes kind (Kind.trimmedKey key) version other) :
      (after hint).SameCourse (after other) := by
    refine sameCourse_of_told_eq (·.DeletedAt kind (Kind.trimmedKey key) version) ?_ hlater _
    intro answers hcounts
    have hdeleted : answers.DeletedAt kind (Kind.trimmedKey key) version := by
      rcases hcounts with ⟨hphase, rfl⟩ | ⟨-, hdue⟩
      · exact hnow hphase
      · exact hdue
    rw [hhint.told_eq hdeleted, h.told_eq]
  refine ⟨?_, fun htrimmed => hother delete (htrimmed.symm ▸ hdelete), hother⟩
  refine sameCourse_of_told_eq (fun _ => True) (fun answers _ => ?_) (fun _ _ _ _ => trivial) _
  rw [hpatch.told_eq, hdelete.told_eq]

def deletedFlag (key : String) : Answers :=
  ⟨.error default, fun _ => .ok { key, version := 2, deleted := true }, fun _ => .error default⟩

def connectedWith (key : String) : Streaming :=
  let descriptor : Descriptor := ⟨1, some (.flag { key })⟩
  let store : Store := ⟨{ flags := .ofList [(key, descriptor)] }, true⟩
  (start store false).connect (deletedFlag key) (.ok ())

theorem deletedAt_deletedFlag (key asked : String) :
    (deletedFlag key).DeletedAt .flags asked 2 := ⟨_, rfl, rfl, rfl⟩

def deletionOfA : EventStream.Event :=
  ⟨"delete", "\x7b\"path\":\"/flags/a\",\"version\":2\x7d", none⟩

def patchOfA : EventStream.Event :=
  let data := "\x7b\"path\":\"/flags/a\",\"data\":\x7b\"key\":\"a\",\"version\":2,\"deleted\":true\x7d\x7d"
  ⟨"patch", data, none⟩

theorem bringsDeleted_patchOfA : BringsDeleted .flags "a" 2 patchOfA := by
  have hread : Document.read? patchOfA.data = some (.object [(some "path", .string (some "/flags/a")),
      (some "data", .object [(some "key", .string (some "a")),
        (some "version", .number (some (.int 2))), (some "deleted", .bool true)])]) := by
    cbv
  refine ⟨rfl, .object [("deleted", .bool true), ("key", .string "a"), ("version", .int 2)],
    .flag { key := "a", version := 2, deleted := true }, ?_, rfl, rfl, rfl⟩
  rw [hread]
  rfl

/-- The three ways to hear that the flag `a` was deleted, once there is a connection. -/
theorem deletions_of_a_agree :
    let hint : EventStream.Event := ⟨"indirect/patch", "/flags/a", none⟩
    let after event := ((connectedWith "a").act (.receive (deletedFlag "a") (.event 0 event))).acts []
    Deletes .flags "a" 2 deletionOfA ∧ BringsDeleted .flags "a" 2 patchOfA ∧
      HintsAt .flags "a" hint ∧ (after patchOfA).SameCourse (after deletionOfA) ∧
      (after hint).SameCourse (after deletionOfA) := by
  intro hint after
  have hdelete : Deletes .flags "a" 2 deletionOfA := ⟨rfl, by cbv⟩
  have hhint : HintsAt .flags "a" hint := ⟨rfl, rfl⟩
  obtain ⟨hpatched, hhinted, -⟩ := deletions_agree (connectedWith "a") 0 (deletedFlag "a") []
    hdelete bringsDeleted_patchOfA hhint (fun _ => deletedAt_deletedFlag "a" _)
    fun _ _ _ hmem => absurd hmem List.not_mem_nil
  exact ⟨hdelete, bringsDeleted_patchOfA, hhint, hpatched, hhinted (by decide)⟩

/-- A flag whose key ends in a blank is deleted by the event that says so, and not by the hint at it,
whatever key it is asked for by. -/
theorem hint_misses_key_with_blank :
    let delete : EventStream.Event :=
      ⟨"delete", "\x7b\"path\":\"/flags/a \",\"version\":2\x7d", none⟩
    let hint : EventStream.Event := ⟨"indirect/patch", "/flags/a ", none⟩
    let after event := ((connectedWith "a ").act
      (.receive (deletedFlag "a ") (.event 0 event))).replica.store
    Deletes .flags "a " 2 delete ∧ HintsAt .flags "a " hint ∧
      (∀ asked, (deletedFlag "a ").DeletedAt .flags asked 2) ∧
      (after delete).get? .flags "a " = none ∧
      (after hint).get? .flags "a " = some (.flag { key := "a " }) := by
  intro delete hint after
  have hdelete : Deletes .flags "a " 2 delete := ⟨rfl, by cbv⟩
  have hhint : HintsAt .flags "a " hint := ⟨rfl, rfl⟩
  have hafter (event) : after event =
      ((connectedWith "a ").take (told (deletedFlag "a ") event)).replica.store := by
    obtain ⟨fetches, hhandle⟩ := (connectedWith "a ").exists_handle_eq (deletedFlag "a ") event
    exact congrArg (·.replica.store) hhandle
  refine ⟨hdelete, hhint, deletedAt_deletedFlag "a ", ?_, ?_⟩
  · rw [hafter, hdelete.told_eq]
    rfl
  · rw [hafter, hhint.told_eq (deletedAt_deletedFlag "a " _)]
    rfl

end Streaming

end FeatureFlags
