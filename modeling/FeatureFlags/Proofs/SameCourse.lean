import FeatureFlags.Proofs.StoreFailures
import Mathlib.Data.List.Permutation
import Mathlib.Data.Option.Basic

/-!
Two ways to the same data. A polling source is fed with the answers to its fetches; a streaming
source with events, with the answers to what it fetches on an event, and with the loss of
connections. Fed with the same inputs they take the same course, whatever else happens in between:
each input does to what can be seen of a source the same as it would to the other, and what happens
between two inputs does not show.
-/
namespace FeatureFlags

open Entry

/-- What a data source is fed with: a whole dataset, which its store takes or not, or a failure. -/
inductive Input where
  | dataset (definitions : Definitions) (taken : Bool)
  | failed (failure : Failure)
  deriving Inhabited

namespace Input

def entry : Input → Entry
  | .dataset definitions true => .stored (.all definitions)
  | .dataset definitions false => .refused (.all definitions)
  | .failed failure => .failed failure

def isFinal : Input → Bool
  | .dataset .. => false
  | .failed failure => !failure.isRecoverable

theorem fatal_entry_iff (input : Input) : Fatal [input.entry] ↔ input.isFinal = true := by
  rw [fatal_singleton_iff]
  rcases input with ⟨definitions, _ | _⟩ | failure <;> simp [entry, isFinal]

end Input

structure Observed where
  store : Store
  initialized : Bool
  startup : Option (Except Failure Unit)
  state : SourceState
  lastFailure : Option (FailureKind × Option Nat)
  ended : Bool

namespace Observed

def report (o : Observed) (state : SourceState) (failure : Option (FailureKind × Option Nat)) :
    Observed :=
  if o.state = .off then o
  else
    { o with
      state := Tracker.nextState o.state state
      lastFailure := failure.or o.lastFailure }

def take (o : Observed) (input : Input) : Observed :=
  if o.ended then o
  else
    match input with
    | .dataset definitions true =>
        let o := { o with
          store := o.store.init (.ofDefinitions definitions)
          initialized := true
          startup := o.startup.or (some (.ok ())) }
        o.report .valid none
    | .dataset _ false => o.report .interrupted (some (.storeError, none))
    | .failed failure =>
        let o := { o with
          startup := if failure.isRecoverable then o.startup else o.startup.or (some (.error failure))
          ended := !failure.isRecoverable }
        o.report (Tracker.stateAfter failure) (some (failure.kind, failure.statusCode?))

theorem take_of_ended {o : Observed} (h : o.ended = true) (input : Input) : o.take input = o := by
  unfold take
  rw [if_pos h]

end Observed

namespace Replica

def observed (r : Replica) (ended : Bool) : Observed where
  store := r.store
  initialized := r.initialized
  startup := r.startup
  state := r.tracker.status.state
  lastFailure := r.tracker.status.lastFailure.map fun info => (info.kind, info.statusCode)
  ended

theorem observed_report (r : Replica) (state : SourceState) (failure : Option FailureInfo)
    (ended : Bool) :
    (r.report state failure).observed ended =
      (r.observed ended).report state (failure.map fun info => (info.kind, info.statusCode)) := by
  have hstate : (r.report state failure).tracker.status.state = _ :=
    Tracker.state_update r.tracker state failure
  have hlast : (r.report state failure).tracker.status.lastFailure = _ :=
    Tracker.lastFailure_update r.tracker state failure
  by_cases hoff : r.tracker.status.state = .off
  · simp [observed, hstate, hlast, Observed.report, hoff]
  · cases failure <;> simp [observed, hstate, hlast, Observed.report, hoff]

/-- A line does to a copy what its input does to what can be seen. -/
theorem observed_enter (r : Replica) (input : Input) :
    (r.enter input.entry).observed input.isFinal = (r.observed false).take input := by
  rcases input with ⟨definitions, _ | _⟩ | failure
  · simp only [Input.entry, enter, reportFailure, Tracker.stateAfter_ofStore]
    rw [FailureInfo.ofFailure_ofStore]
    exact r.observed_report .interrupted _ false
  · -- The report neither reads nor changes what is set beside it.
    let stored : Replica := { r with
      store := r.store.init (.ofDefinitions definitions)
      initialized := true
      startup := r.startup.or (some (.ok ())) }
    exact stored.observed_report .valid none false
  · let resolved : Replica := { r with
      startup := if failure.isRecoverable then r.startup else r.startup.or (some (.error failure)) }
    have hfail : r.fail failure =
        resolved.report (Tracker.stateAfter failure) (some (.ofFailure failure)) := by
      simp only [fail, reportFailure, resolve, resolved]
      split <;> rfl
    simp only [Input.entry, enter]
    rw [hfail]
    exact resolved.observed_report _ _ (!failure.isRecoverable)

variable {r r' : Replica} {ended ended' : Prop} [Decidable ended] [Decidable ended']

/-- An input is taken by a source that has not ended, and ends it if it is final. -/
theorem observed_brought {input : Input} (hrunning : ¬ ended) (henter : r' = r.enter input.entry)
    (hended : ended' ↔ ended ∨ Fatal [input.entry]) :
    r'.observed (decide ended') = (r.observed (decide ended)).take input := by
  have hfinal : decide ended' = input.isFinal := by
    rw [input.fatal_entry_iff, or_iff_right hrunning] at hended
    simp [hended]
  rw [decide_eq_false hrunning, ← observed_enter, henter, hfinal]

theorem observed_idle (hsame : ∀ b, r'.observed b = r.observed b)
    (hended : ended' ↔ ended ∨ Fatal []) :
    r'.observed (decide ended') = r.observed (decide ended) := by
  have hended : ended' ↔ ended := hended.trans (or_iff_left not_fatal_nil)
  rw [hsame, decide_eq_decide.mpr hended]

end Replica

structure Feed (σ α : Type) where
  act : σ → α → σ
  /-- Whether an action brings an input. -/
  Brings : σ → α → Input → Prop
  /-- Whether an action may happen between two inputs. -/
  Idle : σ → α → Prop
  Ended : σ → Prop

namespace Feed

variable {σ α : Type} {feed : Feed σ α} {begun s : σ} {inputs : List Input}

/-- A source that has taken inputs, one after another. Once it has ended, what would come is not
waited for. -/
inductive Takes (feed : Feed σ α) (begun : σ) : List Input → σ → Prop where
  | begun : Takes feed begun [] begun
  | brought {inputs : List Input} {s : σ} {action : α} {input : Input} :
      Takes feed begun inputs s → feed.Brings s action input →
        Takes feed begun (inputs ++ [input]) (feed.act s action)
  | idle {inputs : List Input} {s : σ} (action : α) :
      Takes feed begun inputs s → feed.Idle s action →
        Takes feed begun inputs (feed.act s action)
  | late {inputs : List Input} {s : σ} (input : Input) :
      Takes feed begun inputs s → feed.Ended s → Takes feed begun (inputs ++ [input]) s

/-- What can be seen of a source is what the inputs make of it, if that is so for each action. -/
theorem Takes.observed_eq (Sound : σ → Prop) (observed : σ → Observed) (hbegun : Sound begun)
    (hbrings : ∀ s action input, Sound s → feed.Brings s action input →
      Sound (feed.act s action) ∧ observed (feed.act s action) = (observed s).take input)
    (hidle : ∀ s action, Sound s → feed.Idle s action →
      Sound (feed.act s action) ∧ observed (feed.act s action) = observed s)
    (hended : ∀ s, feed.Ended s → (observed s).ended = true) (h : feed.Takes begun inputs s) :
    observed s = inputs.foldl Observed.take (observed begun) := by
  refine (?_ : Sound s ∧ _).2
  induction h with
  | begun => exact ⟨hbegun, rfl⟩
  | brought h hbrought ih =>
    obtain ⟨hsound, hobserved⟩ := hbrings _ _ _ ih.1 hbrought
    rw [List.foldl_append, ← ih.2]
    exact ⟨hsound, hobserved⟩
  | idle action h hnothing ih =>
    obtain ⟨hsound, hobserved⟩ := hidle _ _ ih.1 hnothing
    exact ⟨hsound, hobserved.trans ih.2⟩
  | late input h hend ih =>
    rw [List.foldl_append, ← ih.2]
    exact ⟨ih.1, (Observed.take_of_ended (hended _ hend) input).symm⟩

end Feed

namespace Polling

/-- An answer to the fetch under way is what a polling source is fed with. -/
inductive Brings (p : Polling) : Action → Input → Prop where
  | dataset (definitions : Definitions) : p.phase = .fetching →
      Brings p (.respond (.ok definitions)) (.dataset definitions p.replica.outage.isNone)
  | failed (failure : Failure) : p.phase = .fetching →
      Brings p (.respond (.error failure)) (.failed failure)

def Action.IsIdle : Action → Prop
  | .elapse | .storeStatus _ | .outage _ => True
  | .respond _ | .close | .stop => False

def feed : Feed Polling Action := ⟨act, Brings, fun _ action => action.IsIdle, (·.phase = .ended)⟩

def observed (p : Polling) : Observed := p.replica.observed (p.phase = .ended)

variable {p : Polling} {action : Action} {input : Input}

/-- An answer that is awaited changes what can be seen as its input does. -/
theorem observed_act_of_brings (h : p.Brings action input) :
    (p.act action).observed = p.observed.take input := by
  obtain ⟨answer, rfl, hphase, hentries⟩ : ∃ answer, action = .respond answer ∧
      p.phase = .fetching ∧ p.respondEntries answer = [input.entry] := by
    cases h with
    | dataset definitions hphase =>
      refine ⟨_, rfl, hphase, ?_⟩
      rw [respondEntries, if_pos hphase]
      simp only [Replica.attempt]
      cases p.replica.outage <;> rfl
    | failed failure hphase =>
      refine ⟨_, rfl, hphase, ?_⟩
      rw [respondEntries, if_pos hphase]
      rfl
  have hrunning : p.phase ≠ .ended := by simp [hphase]
  refine Replica.observed_brought hrunning ?_ ?_
  · rw [Polling.act, replica_respond, hentries]
    rfl
  · rw [← hentries]
    exact phase_respond_eq_ended_iff p answer

/-- Nothing can be seen of what is idle. -/
theorem observed_act_of_idle (h : action.IsIdle) : (p.act action).observed = p.observed := by
  cases action with
  | elapse =>
    simp only [act, elapse]
    split
    · next hresting => simp [observed, Replica.observed, hresting]
    · rfl
  | storeStatus status => rfl
  | outage failure => rfl
  | respond answer => cases h
  | close => cases h
  | stop => cases h

/-- What can be seen of a polling source is what its inputs make of it. -/
theorem observed_eq_of_takes {begun : Polling} {inputs : List Input}
    (h : feed.Takes begun inputs p) : p.observed = inputs.foldl Observed.take begun.observed := by
  refine h.observed_eq (fun _ => True) observed trivial ?_ ?_ ?_
  · exact fun p action input _ hbrings => ⟨trivial, observed_act_of_brings hbrings⟩
  · exact fun p action _ hidle => ⟨trivial, observed_act_of_idle hidle⟩
  · intro p hended
    exact decide_eq_true hended

def start (store : Store) : Polling := { replica := { store } }

/-- While a fetch is under way, every input can be brought. -/
theorem exists_brings (hphase : p.phase = .fetching) (input : Input) :
    ∃ failure action, (p.act (.outage failure)).Brings action input := by
  rcases input with ⟨definitions, _ | _⟩ | failure
  · exact ⟨some default, _, .dataset definitions hphase⟩
  · exact ⟨none, _, .dataset definitions hphase⟩
  · exact ⟨none, _, .failed failure hphase⟩

theorem exists_takes (begun : Polling) (inputs : List Input) : ∃ p, feed.Takes begun inputs p := by
  induction inputs using List.reverseRecOn with
  | nil => exact ⟨begun, .begun⟩
  | append_singleton earlier input ih =>
    obtain ⟨p, h⟩ := ih
    by_cases hended : p.phase = .ended
    · exact ⟨p, h.late input hended⟩
    · have hfetching : (p.act .elapse).phase = .fetching := by
        cases hphase : p.phase <;> simp_all [act, elapse]
      obtain ⟨failure, action, hbrings⟩ := exists_brings hfetching input
      have hdue : feed.Takes begun earlier (p.act .elapse) :=
        h.idle Action.elapse trivial
      have hready : feed.Takes begun earlier ((p.act .elapse).act (.outage failure)) :=
        hdue.idle (Action.outage failure) trivial
      exact ⟨_, hready.brought hbrings⟩

end Polling

namespace Streaming

/-- A streaming source is fed by events of the connection it has, by what it fetches on them, and by
losing the connection or not getting one. -/
inductive Brings (s : Streaming) : Action → Input → Prop where
  | put (answers : Answers) (connection : Nat) (event : EventStream.Event)
      (definitions : Definitions) :
      s.phase = .connected → s.isCurrent connection = true →
      Update.ofEvent event = .ok (some (.put definitions)) →
      Brings s (.receive answers (.event connection event))
        (.dataset definitions s.replica.outage.isNone)
  | fetched (answers : Answers) (connection : Nat) (event : EventStream.Event)
      (definitions : Definitions) :
      s.phase = .connected → s.isCurrent connection = true →
      Update.ofEvent event = .ok (some .fetchAll) → answers.all = .ok definitions →
      Brings s (.receive answers (.event connection event))
        (.dataset definitions s.replica.outage.isNone)
  | fetchFailed (answers : Answers) (connection : Nat) (event : EventStream.Event)
      (failure : Failure) :
      s.phase = .connected → s.isCurrent connection = true →
      Update.ofEvent event = .ok (some .fetchAll) → answers.all = .error failure →
      Brings s (.receive answers (.event connection event)) (.failed failure)
  | closed (answers : Answers) (connection : Nat) (failure : Option Failure) :
      s.phase = .connected → s.isCurrent connection = true →
      Brings s (.receive answers (.closed connection failure))
        (.failed (failure.getD closedByServer))
  | connectFailed (answers : Answers) (failure : Failure) : s.phase = .connecting →
      Brings s (.connect answers (.error failure)) (.failed failure)

/-- Nobody closes the source, and nothing that counts comes from the service. -/
def IsIdle (s : Streaming) : Action → Prop
  | .close => False
  | .receive _ .stop => False
  | action => s.actEntries action = []

def feed : Feed Streaming Action := ⟨act, Brings, IsIdle, (·.phase = .ended)⟩

def observed (s : Streaming) : Observed := s.replica.observed (s.phase = .ended)

variable {answers : Answers} {s : Streaming} {action : Action} {input : Input}

theorem stop_not_mem_receive (answers : Answers) {message : Message} (hinbox : .stop ∉ s.inbox)
    (hmessage : message ≠ .stop) : .stop ∉ (s.receive answers message).inbox := by
  by_cases hphase : s.phase = .connecting
  · have hreceive : s.receive answers message = { s with inbox := s.inbox ++ [message] } :=
      waiting_of_connecting hphase [message]
    rw [hreceive]
    simpa [List.mem_append] using ⟨hinbox, hmessage.symm⟩
  · rwa [inbox_receive hphase]

/-- Waiting messages end a source if one of them brings a final failure, unless they tell it to. -/
theorem waiting_sound (answers : Answers) (messages : List Message) {s : Streaming}
    (hinbox : .stop ∉ s.inbox) (hmessages : .stop ∉ messages) :
    .stop ∉ (messages.foldl (receive answers) s).inbox ∧
      ((messages.foldl (receive answers) s).phase = .ended ↔
        s.phase = .ended ∨ Fatal (waitingEntries answers s messages)) := by
  induction messages generalizing s with
  | nil => exact ⟨hinbox, by simp [waitingEntries, not_fatal_nil]⟩
  | cons message rest ih =>
    have hmessage : message ≠ .stop := fun h => hmessages (h ▸ List.mem_cons_self)
    have hrest : .stop ∉ rest := fun h => hmessages (List.mem_cons_of_mem _ h)
    obtain ⟨hinbox', hphase⟩ := ih (stop_not_mem_receive answers hinbox hmessage) hrest
    refine ⟨hinbox', ?_⟩
    rw [List.foldl_cons, hphase, phase_receive_eq_ended_iff, waitingEntries, fatal_append_iff]
    simp [hmessage, or_assoc]

/-- Connecting finds no message that stops the source where none was waiting. -/
theorem connect_sound (answers : Answers) (hinbox : .stop ∉ s.inbox)
    (result : Except Failure Unit) :
    .stop ∉ (s.connect answers result).inbox ∧
      ((s.connect answers result).phase = .ended ↔
        s.phase = .ended ∨ Fatal (s.connectEntries answers result)) := by
  by_cases hphase : s.phase = .connecting
  · have hempty : .stop ∉ (s.opened result).inbox := by cases result <;> exact List.not_mem_nil
    obtain ⟨hinbox', hended⟩ := waiting_sound answers s.inbox hempty hinbox
    rw [connect_eq, if_pos hphase, hended]
    refine ⟨hinbox', ?_⟩
    unfold connectEntries
    rw [if_pos hphase, fatal_append_iff]
    cases result with
    | ok _ => simp [opened, hphase, not_fatal_nil]
    | error failure =>
      have hopened : (s.opened (.error failure)).phase = .ended ↔ Fatal [.failed failure] :=
        phase_fail_eq_ended_iff { s with inbox := [] } failure
      simp [hopened, hphase]
  · obtain ⟨hconnect, hentries⟩ := connect_of_ne hphase answers result
    rw [hconnect, hentries]
    exact ⟨hinbox, (or_iff_left not_fatal_nil).symm⟩

/-- An action that does not tell a source to stop does what its lines do. -/
theorem act_sound (hinbox : .stop ∉ s.inbox) (hclose : action ≠ .close)
    (hstop : ∀ answers, action ≠ .receive answers .stop) :
    .stop ∉ (s.act action).inbox ∧
      ((s.act action).phase = .ended ↔ s.phase = .ended ∨ Fatal (s.actEntries action)) ∧
      ∀ b, (s.act action).replica.observed b =
        (s.replica.enterAll (s.actEntries action)).observed b := by
  cases action with
  | connect answers result =>
    obtain ⟨hinbox', hended⟩ := connect_sound answers hinbox result
    exact ⟨hinbox', hended, fun b => congrArg (·.observed b) (replica_connect answers s result)⟩
  | receive answers message =>
    have hmessage : message ≠ .stop := fun h => hstop answers (h ▸ rfl)
    refine ⟨stop_not_mem_receive answers hinbox hmessage, ?_, fun b => ?_⟩
    · rw [act, phase_receive_eq_ended_iff]
      simp [hmessage, actEntries]
    · exact congrArg (·.observed b) (replica_receive answers s message)
  | elapse =>
    simp only [act, elapse, actEntries]
    split
    · next hdelayed => exact ⟨hinbox, by simp [hdelayed, not_fatal_nil], fun _ => rfl⟩
    · exact ⟨hinbox, (or_iff_left not_fatal_nil).symm, fun _ => rfl⟩
  | storeStatus status => exact ⟨hinbox, (or_iff_left not_fatal_nil).symm, fun _ => rfl⟩
  | outage failure => exact ⟨hinbox, (or_iff_left not_fatal_nil).symm, fun _ => rfl⟩
  | close => exact absurd rfl hclose

/-- A whole dataset is entered as stored or refused, by whether the store is down. -/
theorem updateEntry_dataset {update : Update} {definitions : Definitions}
    (hchange : update.change answers = .ok (.all definitions)) :
    s.updateEntry answers update =
      (Input.dataset definitions s.replica.outage.isNone).entry := by
  rw [updateEntry, hchange]
  cases s.replica.outage <;> rfl

/-- Whatever brings an input enters the line of that input, and nothing else. -/
theorem Brings.entries (h : s.Brings action input) :
    s.phase ≠ .ended ∧ s.actEntries action = [input.entry] := by
  cases h with
  | put answers connection event definitions hphase hcurrent hread =>
    refine ⟨by simp [hphase], ?_⟩
    rw [actEntries, messageEntries, if_pos hphase, readEntries, if_pos hcurrent, hread]
    exact congrArg (fun entry => [entry]) (updateEntry_dataset rfl)
  | fetched answers connection event definitions hphase hcurrent hread hanswer =>
    refine ⟨by simp [hphase], ?_⟩
    rw [actEntries, messageEntries, if_pos hphase, readEntries, if_pos hcurrent, hread]
    refine congrArg (fun entry => [entry]) (updateEntry_dataset ?_)
    simp [Update.change, hanswer, Except.map]
  | fetchFailed answers connection event failure hphase hcurrent hread hanswer =>
    refine ⟨by simp [hphase], ?_⟩
    rw [actEntries, messageEntries, if_pos hphase, readEntries, if_pos hcurrent, hread]
    simp [updateEntry, Update.change, hanswer, Except.map, Input.entry]
  | closed answers connection failure hphase hcurrent =>
    refine ⟨by simp [hphase], ?_⟩
    rw [actEntries, messageEntries, if_pos hphase, readEntries, if_pos hcurrent]
    rfl
  | connectFailed answers failure hphase =>
    refine ⟨by simp [hphase], ?_⟩
    simp only [actEntries, connectEntries, if_pos hphase]
    rw [waitingEntries_of_given_up answers s.inbox (s.phase_opened_error failure)]
    rfl

theorem Brings.ne_stop (h : s.Brings action input) :
    action ≠ .close ∧ ∀ answers, action ≠ .receive answers .stop := by
  cases h <;> simp

theorem IsIdle.ne_stop (h : s.IsIdle action) :
    action ≠ .close ∧ ∀ answers, action ≠ .receive answers .stop := by
  constructor
  · rintro rfl
    exact h
  · rintro answers rfl
    exact h

theorem IsIdle.entries (h : s.IsIdle action) : s.actEntries action = [] := by
  unfold IsIdle at h
  split at h
  · exact h.elim
  · exact h.elim
  · exact h

theorem observed_act_of_brings (hinbox : .stop ∉ s.inbox) (h : s.Brings action input) :
    .stop ∉ (s.act action).inbox ∧ (s.act action).observed = s.observed.take input := by
  obtain ⟨hrunning, hentries⟩ := h.entries
  obtain ⟨hinbox', hended, hreplica⟩ := act_sound hinbox h.ne_stop.1 h.ne_stop.2
  rw [hentries] at hended hreplica
  refine ⟨hinbox', ?_⟩
  rw [observed, hreplica]
  exact Replica.observed_brought hrunning rfl hended

theorem observed_act_of_idle (hinbox : .stop ∉ s.inbox) (h : s.IsIdle action) :
    .stop ∉ (s.act action).inbox ∧ (s.act action).observed = s.observed := by
  obtain ⟨hinbox', hended, hreplica⟩ := act_sound hinbox h.ne_stop.1 h.ne_stop.2
  rw [h.entries] at hended hreplica
  exact ⟨hinbox', Replica.observed_idle hreplica hended⟩

/-- What can be seen of a streaming source is what its inputs make of it. -/
theorem observed_eq_of_takes {begun : Streaming} (hbegun : .stop ∉ begun.inbox)
    {inputs : List Input} (h : feed.Takes begun inputs s) :
    s.observed = inputs.foldl Observed.take begun.observed := by
  refine h.observed_eq (.stop ∉ ·.inbox) observed hbegun ?_ ?_ ?_
  · exact fun s action input hinbox hbrings => observed_act_of_brings hinbox hbrings
  · exact fun s action hinbox hidle => observed_act_of_idle hinbox hidle
  · intro s hended
    exact decide_eq_true hended

instance : Inhabited Answers :=
  ⟨⟨.error default, fun _ => .error default, fun _ => .error default⟩⟩

section

variable {begun : Streaming} {inputs : List Input}

/-- A source that has a connection gives it up if its store asks for a refresh. -/
theorem exists_connecting (h : feed.Takes begun inputs s) (hinbox : s.inbox = [])
    (hrunning : s.phase ≠ .ended) :
    ∃ t, feed.Takes begun inputs t ∧ t.inbox = [] ∧ t.phase = .connecting := by
  cases hphase : s.phase with
  | connecting => exact ⟨s, h, hinbox, hphase⟩
  | connected =>
    let refresh : Message := .storeStatus ⟨true, true⟩
    have hidle : s.IsIdle (.receive default refresh) := by
      simp [IsIdle, actEntries, messageEntries, readEntries, refresh]
    have hreceive : s.act (.receive default refresh) = { s with phase := .connecting } := by
      simp [act, receive, hphase, read, refresh]
    refine ⟨_, h.idle (Action.receive default refresh) hidle, ?_, ?_⟩
    · exact (congrArg (·.inbox) hreceive).trans hinbox
    · exact congrArg (·.phase) hreceive
  | delayed =>
    have hidle : s.IsIdle .elapse := rfl
    have helapse : s.act .elapse = { s with phase := .connecting } := by
      simp [act, elapse, hphase]
    refine ⟨_, h.idle Action.elapse hidle, ?_, ?_⟩
    · exact (congrArg (·.inbox) helapse).trans hinbox
    · exact congrArg (·.phase) helapse
  | ended => exact absurd hphase hrunning

/-- A source that has not ended gets a connection before the next input. -/
theorem exists_connected (h : feed.Takes begun inputs s) (hinbox : s.inbox = [])
    (hrunning : s.phase ≠ .ended) :
    ∃ t, feed.Takes begun inputs t ∧ t.inbox = [] ∧ t.phase = .connected ∧
      ∃ connection, t.isCurrent connection = true := by
  obtain ⟨t, ht, hempty, hconnecting⟩ := exists_connecting h hinbox hrunning
  have hidle : t.IsIdle (.connect default (.ok ())) := by
    simp [IsIdle, actEntries, connectEntries, hconnecting, hempty, waitingEntries]
  have hconnect : t.act (.connect default (.ok ())) = t.opened (.ok ()) := by
    rw [act, connect_eq, if_pos hconnecting, hempty]
    rfl
  refine ⟨_, ht.idle (Action.connect default (.ok ())) hidle, ?_, ?_, t.connections, ?_⟩
  · exact congrArg (·.inbox) hconnect
  · exact congrArg (·.phase) hconnect
  · change (t.act (.connect default (.ok ()))).isCurrent t.connections = true
    rw [hconnect]
    exact beq_self_eq_true (t.connections + 1)

theorem exists_brings (hphase : s.phase = .connected) {connection : Nat}
    (hcurrent : s.isCurrent connection = true) (input : Input) :
    ∃ failure answers message,
      (s.act (.outage failure)).Brings (.receive answers message) input := by
  have hread : Update.ofEvent ⟨"indirect/put", "", none⟩ = .ok (some .fetchAll) := rfl
  rcases input with ⟨definitions, _ | _⟩ | failure
  · let answers : Answers := ⟨.ok definitions, default, default⟩
    exact ⟨some default, answers, _, .fetched answers _ _ definitions hphase hcurrent hread rfl⟩
  · let answers : Answers := ⟨.ok definitions, default, default⟩
    exact ⟨none, answers, _, .fetched answers _ _ definitions hphase hcurrent hread rfl⟩
  · exact ⟨none, default, _, .closed default _ (some failure) hphase hcurrent⟩

theorem exists_takes (begun : Streaming) (hbegun : begun.inbox = []) (inputs : List Input) :
    ∃ s, feed.Takes begun inputs s ∧ s.inbox = [] := by
  induction inputs using List.reverseRecOn with
  | nil => exact ⟨begun, .begun, hbegun⟩
  | append_singleton earlier input ih =>
    obtain ⟨s, h, hinbox⟩ := ih
    by_cases hended : s.phase = .ended
    · exact ⟨s, h.late input hended, hinbox⟩
    · obtain ⟨t, ht, hempty, hconnected, connection, hcurrent⟩ := exists_connected h hinbox hended
      obtain ⟨failure, answers, message, hbrings⟩ := exists_brings hconnected hcurrent input
      have hready : feed.Takes begun earlier (t.act (.outage failure)) :=
        ht.idle (Action.outage failure) rfl
      refine ⟨_, hready.brought hbrings, ?_⟩
      have hphase : (t.act (.outage failure)).phase ≠ .connecting := by
        simp [act, hconnected]
      exact (inbox_receive hphase answers message).trans hempty

end

end Streaming

/-- Whatever the inputs are, sources of both kinds can take them, and what can be seen of the two is
then the same. -/
theorem same_inputs_same_course (store : Store) (monitored : Bool) (inputs : List Input) :
    (∃ p, Polling.feed.Takes (Polling.start store) inputs p) ∧
      (∃ s, Streaming.feed.Takes (Streaming.start store monitored) inputs s) ∧
      ∀ p s, Polling.feed.Takes (Polling.start store) inputs p →
        Streaming.feed.Takes (Streaming.start store monitored) inputs s →
          p.observed = s.observed := by
  refine ⟨Polling.exists_takes _ inputs, ?_, fun p s hp hs => ?_⟩
  · obtain ⟨s, hs, -⟩ := Streaming.exists_takes (Streaming.start store monitored) rfl inputs
    exact ⟨s, hs⟩
  · have hpolling := Polling.observed_eq_of_takes hp
    have hstreaming := Streaming.observed_eq_of_takes List.not_mem_nil hs
    rw [hpolling, hstreaming]
    rfl

/-- A failure, the whole dataset, once more while the store is down, a refusal, and what comes too
late. -/
def untilRefused : List Input :=
  [.failed (.httpStatus 503), .dataset {} true, .dataset {} false, .failed (.httpStatus 401),
    .dataset {} true]

theorem exists_polling_untilRefused :
    ∃ p, Polling.feed.Takes (Polling.start {}) untilRefused p ∧ p.phase = .ended := by
  have failed := (Feed.Takes.begun : Polling.feed.Takes (Polling.start {}) [] _).brought
    (Polling.Brings.failed (.httpStatus 503) rfl)
  have stored := (failed.idle Polling.Action.elapse trivial).brought
    (Polling.Brings.dataset {} rfl)
  have refused := ((stored.idle Polling.Action.elapse trivial).idle
    (Polling.Action.outage (some .threadPanicked)) trivial).brought (Polling.Brings.dataset {} rfl)
  have ended := (refused.idle Polling.Action.elapse trivial).brought
    (Polling.Brings.failed (.httpStatus 401) rfl)
  exact ⟨_, ended.late (.dataset {} true) rfl, rfl⟩

/-- The whole dataset comes as an event, and then as a hint to fetch it. -/
theorem exists_streaming_untilRefused :
    ∃ s, Streaming.feed.Takes (Streaming.start {} true) untilRefused s ∧ s.phase = .ended := by
  let answers : Answers := ⟨.ok {}, default, default⟩
  let event : EventStream.Event := ⟨"put", "\x7b\"data\":\x7b\x7d\x7d", none⟩
  let begun := Streaming.start {} true
  let connected := begun.acts
    [.connect answers (.error (.httpStatus 503)), .elapse, .connect answers (.ok ())]
  have hread : Update.ofEvent event = .ok (some (.put {})) := by cbv
  have hfailed : Streaming.feed.Takes begun [.failed (.httpStatus 503)] _ :=
    Feed.Takes.begun.brought (Streaming.Brings.connectFailed answers (.httpStatus 503) rfl)
  have hconnected : Streaming.feed.Takes begun [.failed (.httpStatus 503)] connected :=
    (hfailed.idle Streaming.Action.elapse rfl).idle (Streaming.Action.connect answers (.ok ())) rfl
  have hput : connected.act (.receive answers (.event 0 event)) = connected.put {} := by
    change connected.handle answers event = _
    rw [Streaming.handle, hread]
    rfl
  have hstored : Streaming.feed.Takes begun [.failed (.httpStatus 503), .dataset {} true]
      (connected.act (.receive answers (.event 0 event))) :=
    hconnected.brought (Streaming.Brings.put answers 0 event {} rfl rfl hread)
  rw [hput] at hstored
  have hrefused := (hstored.idle (Streaming.Action.outage (some .threadPanicked)) rfl).brought
    (Streaming.Brings.fetched answers 0 ⟨"indirect/put", "", none⟩ {} rfl rfl rfl rfl)
  have hended := hrefused.brought
    (Streaming.Brings.closed answers 0 (some (.httpStatus 401)) rfl rfl)
  exact ⟨_, hended.late (.dataset {} true) rfl, rfl⟩

/-- The refusal ends both sources, and no difference is to be seen. -/
theorem refused_alike :
    ∃ p s, Polling.feed.Takes (Polling.start {}) untilRefused p ∧
      Streaming.feed.Takes (Streaming.start {} true) untilRefused s ∧
      p.observed = s.observed ∧ p.phase = .ended ∧ s.phase = .ended := by
  obtain ⟨p, hp, hpolling⟩ := exists_polling_untilRefused
  obtain ⟨s, hs, hstreaming⟩ := exists_streaming_untilRefused
  obtain ⟨-, -, hsame⟩ := same_inputs_same_course {} true untilRefused
  exact ⟨p, s, hp, hs, hsame p s hp hs, hpolling, hstreaming⟩

end FeatureFlags
