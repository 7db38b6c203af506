import FeatureFlags.Proofs.SourceStart

/-!
What becomes of a data source when its store fails. Whatever the store fails with, the failure is
one of the store: it is kept as the last failure of a tracker that is not off, and that is all. A
failure that would be final if it came from the service is not final here. So over a whole run the
writes that were refused decide neither what the store holds nor how the start came out, and no
source is off or at its end because of them.
-/
namespace FeatureFlags

open Entry

namespace FailureInfo

theorem ofFailure_ofStore (failure : Failure) :
    ofFailure failure.ofStore = ⟨.storeError, none, failure.ofStore.message⟩ := by
  cases failure <;> rfl

end FailureInfo

/-- A failure of the store may always pass. -/
theorem Tracker.stateAfter_ofStore (failure : Failure) :
    Tracker.stateAfter failure.ofStore = .interrupted := by
  cases failure <;> rfl

namespace Replica

/-- What a copy is like after a write that failed. -/
structure Outlasts (r r' : Replica) (failure : Failure) : Prop where
  store : r'.store = r.store
  initialized : r'.initialized = r.initialized
  startup : r'.startup = r.startup
  off_iff : r'.tracker.status.state = .off ↔ r.tracker.status.state = .off
  recorded : r.tracker.status.state ≠ .off →
    r'.tracker.status.lastFailure = some ⟨.storeError, none, failure.ofStore.message⟩
  status : r.tracker.status.state = .off → r'.tracker.status = r.tracker.status

variable {r : Replica} {failure : Failure}

theorem attempt_of_down (h : r.outage = some failure) (change : Change) :
    r.attempt change = .refused change := by
  simp [attempt, h]

/-- A refused write changes nothing but what the tracker tells. -/
theorem outlasts_refused (h : r.outage = some failure) (change : Change) :
    r.Outlasts (r.enter (.refused change)) failure := by
  have htracker : (r.enter (.refused change)).tracker =
      r.tracker.update .interrupted (some ⟨.storeError, none, failure.ofStore.message⟩) := by
    simp only [enter, reportFailure, report, h, Option.getD_some]
    rw [Tracker.stateAfter_ofStore, FailureInfo.ofFailure_ofStore]
  refine ⟨r.store_enter (.refused change), rfl, rfl, ?_, fun hrunning => ?_, fun hoff => ?_⟩
  · rw [htracker, Tracker.state_update]
    cases r.tracker.status.state <;> simp [Tracker.nextState]
  · rw [htracker, Tracker.lastFailure_update, if_neg hrunning]
    rfl
  · rw [htracker, Tracker.status_update_of_off hoff]

end Replica

theorem Polling.outlasts_respond {p : Polling} {failure : Failure} (hphase : p.phase = .fetching)
    (houtage : p.replica.outage = some failure) (definitions : Definitions) :
    p.replica.Outlasts (p.respond (.ok definitions)).replica failure := by
  have hentries : p.respondEntries (.ok definitions) = [.refused (.all definitions)] := by
    rw [respondEntries, if_pos hphase]
    exact congrArg (fun entry => [entry]) (Replica.attempt_of_down houtage _)
  rw [replica_respond, hentries]
  exact Replica.outlasts_refused houtage (.all definitions)

namespace Streaming

variable {answers : Answers} {s : Streaming} {message : Message} {change : Change}
  {failure : Failure}

/-- A message that makes a change to the store, which fails. -/
structure Refused (answers : Answers) (s : Streaming) (message : Message) (change : Change)
    (failure : Failure) : Prop where
  connected : s.phase = .connected
  outage : s.replica.outage = some failure
  event : ∃ connection event update, message = .event connection event ∧
    s.isCurrent connection = true ∧ Update.ofEvent event = .ok (some update) ∧
    update.change answers = .ok change

theorem Refused.messageEntries (h : Refused answers s message change failure) :
    s.messageEntries answers message = [.refused change] := by
  obtain ⟨connection, event, update, rfl, hcurrent, hread, hchange⟩ := h.event
  rw [Streaming.messageEntries, if_pos h.connected, readEntries, if_pos hcurrent, hread]
  simp [updateEntry, hchange, h.outage]

/-- So does a message whose change is refused. -/
theorem Refused.outlasts (h : Refused answers s message change failure) :
    s.replica.Outlasts (s.receive answers message).replica failure := by
  rw [replica_receive, h.messageEntries]
  exact Replica.outlasts_refused h.outage change

theorem phase_put_of_down (h : s.replica.outage = some failure) (definitions : Definitions) :
    (s.put definitions).phase = if s.monitored then s.phase else .delayed := by
  simp only [put, Replica.synchronize, Replica.write_of_down h, afterWrite, Bool.false_or]
  split <;> rfl

theorem phase_upsert_of_down (h : s.replica.outage = some failure) (kind : Kind) (key : String)
    (descriptor : Descriptor) :
    (s.upsert kind key descriptor).phase = if s.monitored then s.phase else .delayed := by
  simp only [upsert, Replica.upsert, Replica.write_of_down h, afterWrite, Bool.false_or]
  split <;> rfl

/-- After a failed write a source connects again, unless the store tells of its own health. -/
theorem phase_apply_of_down (h : s.replica.outage = some failure) {update : Update}
    (hchange : update.change answers = .ok change) :
    (s.apply answers update).phase = if s.monitored then s.phase else .delayed := by
  cases update with
  | put definitions => exact phase_put_of_down h definitions
  | patch kind key descriptor => exact phase_upsert_of_down h kind key descriptor
  | delete kind key version => exact phase_upsert_of_down h kind key (.tombstone version)
  | fetchAll =>
    simp only [Update.change] at hchange
    cases hanswer : answers.all with
    | error other => simp [hanswer, Except.map] at hchange
    | ok definitions =>
      simp only [apply, hanswer]
      exact phase_put_of_down (s := s.fetching .all) h definitions
  | fetchItem kind key =>
    simp only [Update.change] at hchange
    cases hanswer : answers.item key kind with
    | error other => simp [hanswer, Except.map] at hchange
    | ok item =>
      simp only [apply, hanswer]
      exact phase_upsert_of_down (s := s.fetching (.item kind key)) h kind key (.ofItem item)

/-- A source goes on, if only by connecting again. -/
theorem Refused.phase (h : Refused answers s message change failure) :
    (s.receive answers message).phase = if s.monitored then .connected else .delayed := by
  obtain ⟨connection, event, update, rfl, hcurrent, hread, hchange⟩ := h.event
  simp only [receive, h.connected, read, hcurrent, if_true, handle, hread]
  rw [phase_apply_of_down h.outage hchange, h.connected]

end Streaming

namespace Entry

def isRefused : Entry → Bool
  | .refused _ => true
  | .stored _ | .failed _ => false

/-- An account without what the store refused. -/
def heeded (account : List Entry) : List Entry := account.filter fun entry => !entry.isRefused

variable (account : List Entry)

theorem foldl_enter_heeded (store : Store) :
    (heeded account).foldl Store.enter store = account.foldl Store.enter store := by
  induction account generalizing store with
  | nil => rfl
  | cons entry rest ih => cases entry <;> exact ih _

theorem any_storesAll_heeded : (heeded account).any storesAll = account.any storesAll := by
  induction account with
  | nil => rfl
  | cons entry rest ih =>
    cases entry with
    | refused change => exact ih
    | stored change => exact congrArg (storesAll (.stored change) || ·) ih
    | failed failure => exact ih

theorem findSome?_outcome?_heeded :
    (heeded account).findSome? outcome? = account.findSome? outcome? := by
  induction account with
  | nil => rfl
  | cons entry rest ih =>
    cases entry with
    | refused change => exact ih
    | stored change =>
      change (Entry.stored change :: heeded rest).findSome? outcome? = _
      rw [List.findSome?_cons, List.findSome?_cons, ih]
    | failed failure =>
      change (Entry.failed failure :: heeded rest).findSome? outcome? = _
      rw [List.findSome?_cons, List.findSome?_cons, ih]

/-- Refusals are never final. -/
theorem fatal_heeded_iff : Fatal (heeded account) ↔ Fatal account := by
  constructor
  · rintro ⟨failure, hmem, hfinal⟩
    exact ⟨failure, (List.mem_filter.mp hmem).1, hfinal⟩
  · rintro ⟨failure, hmem, hfinal⟩
    exact ⟨failure, List.mem_filter.mpr ⟨hmem, rfl⟩, hfinal⟩

end Entry

namespace Replica

/-- What lines tell of a copy, and of whether its source has ended. -/
structure ToldBy (r : Replica) (closed : Bool) (ended : Prop) (account : List Entry) : Prop where
  store : r.store = account.foldl Store.enter {}
  initialized : r.initialized = account.any storesAll
  startup : r.startup = account.findSome? outcome?
  off_iff : r.tracker.status.state = .off ↔ closed = true ∨ Fatal account
  ended : ended → closed = true ∨ Fatal account

/-- What the store refused can be left out of an account. -/
theorem Kept.toldBy_heeded {r : Replica} {closed : Bool} {ended : Prop} {account : List Entry}
    (h : r.Kept closed ended account) (hstore : r.store = account.foldl Store.enter {})
    (hended : ended → closed = true ∨ Fatal account) :
    r.ToldBy closed ended (heeded account) where
  store := by rw [foldl_enter_heeded, hstore]
  initialized := by rw [any_storesAll_heeded, h.reflects.initialized]
  startup := by rw [findSome?_outcome?_heeded, h.reflects.startup]
  off_iff := by rw [fatal_heeded_iff, h.off_iff]
  ended := by rwa [fatal_heeded_iff]

end Replica

theorem Polling.store_act (p : Polling) (action : Action) :
    (p.act action).replica.store = (p.actEntries action).foldl Store.enter p.replica.store := by
  cases action with
  | respond answer =>
    rw [actEntries, ← Replica.store_enterAll, ← replica_respond]
    rfl
  | elapse =>
    simp only [act, elapse]
    split <;> rfl
  | close =>
    simp only [act]
    split <;> rfl
  | stop =>
    simp only [act]
    split <;> rfl
  | storeStatus status => rfl
  | outage failure => rfl

theorem Polling.store_acts (p : Polling) (actions : List Action) :
    (p.acts actions).replica.store = (p.account actions).foldl Store.enter p.replica.store := by
  induction actions generalizing p with
  | nil => rfl
  | cons action rest ih =>
    rw [account, List.foldl_append, ← store_act]
    exact ih (p.act action)

/-- A write that fails leaves a source of either kind as it was and running, but for what the tracker
keeps of it; and a run comes to the same without the writes that failed. -/
theorem store_failures_pass :
    (∀ (p : Polling) definitions failure, p.phase = .fetching →
      p.replica.outage = some failure →
        p.replica.Outlasts (p.respond (.ok definitions)).replica failure ∧
          (p.respond (.ok definitions)).phase = .resting) ∧
    (∀ (s : Streaming) answers message change failure,
      Streaming.Refused answers s message change failure →
        s.replica.Outlasts (s.receive answers message).replica failure ∧
          (s.receive answers message).phase = if s.monitored then .connected else .delayed) ∧
    (∀ actions : List Polling.Action,
      let p := ({} : Polling).acts actions
      p.replica.ToldBy p.closed (p.phase = .ended) (heeded (({} : Polling).account actions))) ∧
    ∀ (monitored : Bool) (actions : List Streaming.Action),
      let start := Streaming.start {} monitored
      let s := start.acts actions
      start.ToldByClosing actions →
        s.replica.ToldBy s.closed (s.phase = .ended) (heeded (start.account actions)) := by
  refine ⟨fun p definitions failure hphase houtage => ⟨?_, ?_⟩,
    fun s answers message change failure hrefused => ⟨hrefused.outlasts, hrefused.phase⟩,
    fun actions => ?_, fun monitored actions => ?_⟩
  · exact Polling.outlasts_respond hphase houtage definitions
  · simp [Polling.respond, hphase]
  · exact (Polling.kept_start actions).toldBy_heeded (Polling.store_acts {} actions)
      (Polling.closed_or_fatal_of_acts actions)
  · intro start s htold
    have hbegun : start.Told [] := ⟨fun h => (by cases h), fun h => absurd h List.not_mem_nil⟩
    have hstore : s.replica.store = (start.account actions).foldl Store.enter {} :=
      Streaming.store_acts start actions
    refine (Streaming.kept_start monitored actions).toldBy_heeded hstore fun hended => ?_
    simpa using (hbegun.acts actions htold).ended hended

/-- A source of each kind whose store answers as if the service had refused the credentials. -/
theorem refused_credentials_pass :
    let down : Replica := { outage := some (.httpStatus 401) }
    let answers : Answers := ⟨.ok {}, fun key => .ok { key }, fun key => .ok { key }⟩
    let p : Polling := { replica := down }
    let s : Streaming := { replica := down, phase := .connected, connections := 1 }
    let message : Streaming.Message := .event 0 ⟨"indirect/put", "", none⟩
    ((p.respond (.ok {})).phase = .resting ∧ (p.respond (.ok {})).replica.startup = none) ∧
      (s.receive answers message).phase = .delayed ∧
      (s.receive answers message).replica.tracker.status.lastFailure =
        some ⟨.storeError, none, "data store error: received HTTP error 401"⟩ := by
  intro down answers p s message
  obtain ⟨hpolling, hstreaming, -⟩ := store_failures_pass
  obtain ⟨hkept, hresting⟩ := hpolling p {} (.httpStatus 401) rfl rfl
  obtain ⟨hpassed, hdelayed⟩ := hstreaming s answers message (.all {}) (.httpStatus 401)
    ⟨rfl, rfl, 0, _, .fetchAll, rfl, rfl, rfl, rfl⟩
  refine ⟨⟨hresting, hkept.startup⟩, hdelayed, (hpassed.recorded ?_).trans (by decide)⟩
  exact SourceState.noConfusion

end FeatureFlags
