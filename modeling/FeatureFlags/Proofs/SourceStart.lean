import FeatureFlags.Proofs.PollingRun
import FeatureFlags.Proofs.StreamingData
import FeatureFlags.Proofs.StreamingEnd

/-!
How the start of a data source comes out, and how the copy, its store and its tracker agree on that.
A source enters nothing after a final failure. So the first line that settles the start is the only
one that could: it is a whole dataset, and then the copy and the store are initialized, or a final
failure, and then they never are. The tracker is off from a final failure on, and from closing on,
and for no other reason. All this holds of polling and of streaming sources at every moment of a
run.
-/
namespace FeatureFlags

namespace Entry

/-- Without a final failure, the start is settled by a whole dataset. -/
theorem findSome?_outcome?_of_not_fatal {account : List Entry} (hfatal : ¬ Fatal account) :
    account.findSome? outcome? = if account.any storesAll then some (.ok ()) else none := by
  induction account with
  | nil => rfl
  | cons entry rest ih =>
    have hrest : ¬ Fatal rest := fun h => hfatal ((fatal_append_iff [entry] rest).mpr (Or.inr h))
    have hentry : ¬ Fatal [entry] := fun h => hfatal ((fatal_append_iff [entry] rest).mpr (Or.inl h))
    rw [List.findSome?_cons, ih hrest]
    cases entry with
    | stored change => cases hwhole : change.isWhole <;> simp [outcome?, storesAll, hwhole]
    | refused change => simp [outcome?, storesAll]
    | failed failure =>
      have hrecoverable : failure.isRecoverable = true := by
        simpa [fatal_singleton_iff] using hentry
      simp [outcome?, storesAll, hrecoverable]

theorem any_storesAll_iff (account : List Entry) :
    account.any storesAll = true ↔ ∃ definitions, .stored (.all definitions) ∈ account := by
  rw [List.any_eq_true]
  constructor
  · rintro ⟨entry, hmem, hstores⟩
    obtain ⟨definitions, rfl⟩ := (storesAll_iff entry).mp hstores
    exact ⟨definitions, hmem⟩
  · rintro ⟨definitions, hmem⟩
    exact ⟨_, hmem, rfl⟩

variable {account : List Entry}

/-- If nothing follows a final failure, the start has come out well exactly if there is a whole
dataset. -/
theorem findSome?_outcome?_eq_ok_iff (hlast : ¬ Fatal account.dropLast) :
    account.findSome? outcome? = some (.ok ()) ↔ account.any storesAll = true := by
  cases account using List.reverseRecOn with
  | nil => simp
  | append_singleton earlier entry =>
    -- Only the last line may be a final failure, and it settles the start only if it is the first to.
    rw [List.dropLast_concat] at hlast
    rw [List.findSome?_append, findSome?_outcome?_of_not_fatal hlast, List.any_append]
    cases earlier.any storesAll with
    | true => simp
    | false =>
      cases entry with
      | stored change => cases hwhole : change.isWhole <;> simp [outcome?, storesAll, hwhole]
      | refused change => simp [outcome?, storesAll]
      | failed failure =>
        cases hrecoverable : failure.isRecoverable <;> simp [outcome?, storesAll, hrecoverable]

/-- The start has failed exactly by a final failure before any whole dataset. -/
theorem findSome?_outcome?_eq_error_iff (hlast : ¬ Fatal account.dropLast) (failure : Failure) :
    account.findSome? outcome? = some (.error failure) ↔
      failure.isRecoverable = false ∧ ∃ before after,
        account = before ++ .failed failure :: after ∧ before.any storesAll = false := by
  constructor
  · intro hfound
    obtain ⟨before, entry, after, rfl, hentry, hbefore⟩ := List.findSome?_eq_some_iff.mp hfound
    cases entry with
    | stored change => cases hwhole : change.isWhole <;> simp [outcome?, hwhole] at hentry
    | refused change => simp [outcome?] at hentry
    | failed other =>
      cases hrecoverable : other.isRecoverable with
      | true => simp [outcome?, hrecoverable] at hentry
      | false =>
        obtain rfl : other = failure := by simpa [outcome?, hrecoverable] using hentry
        refine ⟨hrecoverable, before, after, rfl, ?_⟩
        rw [List.any_eq_false]
        intro earlier hmem hstores
        obtain ⟨definitions, rfl⟩ := (storesAll_iff earlier).mp hstores
        exact absurd (hbefore _ hmem) (by simp [outcome?, Change.isWhole])
  · rintro ⟨hfinal, before, after, rfl, hbefore⟩
    have hearlier : ¬ Fatal before := by
      rw [List.dropLast_append_of_ne_nil (List.cons_ne_nil _ _), fatal_append_iff] at hlast
      exact fun h => hlast (Or.inl h)
    rw [List.findSome?_append, findSome?_outcome?_of_not_fatal hearlier, hbefore]
    simp [outcome?, hfinal]

/-- Nothing follows a final failure, and it ends the source. -/
structure Concludes (ended : Prop) (account : List Entry) : Prop where
  last : ¬ Fatal account.dropLast
  ended_of_fatal : Fatal account → ended

variable {ended ended' : Prop}

theorem concludes_nil (ended : Prop) : Concludes ended [] :=
  ⟨not_fatal_nil, fun hfatal => absurd hfatal not_fatal_nil⟩

/-- A source that has not ended may enter another line. -/
theorem Concludes.enter (h : Concludes ended account) (hrunning : ¬ ended) {entry : Entry}
    (hfinal : Fatal [entry] → ended') : Concludes ended' (account ++ [entry]) where
  last := by
    rw [List.dropLast_concat]
    exact fun hfatal => hrunning (h.ended_of_fatal hfatal)
  ended_of_fatal := by
    rw [fatal_append_iff]
    rintro (hfatal | hfatal)
    · exact absurd (h.ended_of_fatal hfatal) hrunning
    · exact hfinal hfatal

/-- Nothing is entered when a source goes on or ends. -/
theorem Concludes.mono (h : Concludes ended account) (hended : ended → ended') :
    Concludes ended' account :=
  ⟨h.last, fun hfatal => hended (h.ended_of_fatal hfatal)⟩

theorem Concludes.not_fatal_of_stored {earlier : List Entry} {change : Change}
    (h : Concludes ended (earlier ++ [.stored change])) :
    ¬ Fatal (earlier ++ [.stored change]) := by
  have hearlier := h.last
  rw [List.dropLast_concat] at hearlier
  rw [fatal_concat_iff]
  rintro (hfatal | ⟨failure, hstored, -⟩)
  · exact hearlier hfatal
  · cases hstored

end Entry

namespace Polling

open Entry

/-- An answer that fails for good is the last line of a polling source. -/
theorem concludes_respond {p : Polling} {account : List Entry}
    (h : Concludes (p.phase = .ended) account) (answer : Except Failure Definitions) :
    Concludes ((p.respond answer).phase = .ended) (account ++ p.respondEntries answer) := by
  have hended := phase_respond_eq_ended_iff p answer
  by_cases hphase : p.phase = .fetching
  · have hrunning : p.phase ≠ .ended := by simp [hphase]
    obtain ⟨entry, hentry⟩ : ∃ entry, p.respondEntries answer = [entry] := by
      unfold respondEntries
      rw [if_pos hphase]
      cases answer <;> exact ⟨_, rfl⟩
    rw [hentry] at hended ⊢
    exact h.enter hrunning fun hfatal => hended.mpr (Or.inr hfatal)
  · have hnothing : p.respondEntries answer = [] := by
      unfold respondEntries
      rw [if_neg hphase]
    rw [hnothing, List.append_nil]
    exact h.mono fun hbefore => hended.mpr (Or.inl hbefore)

end Polling

namespace Streaming

open Entry

variable {answers : Answers} {s : Streaming} {account : List Entry}

/-- A message that fails for good is the last one that a streaming source enters. -/
theorem concludes_receive (h : Concludes (s.phase = .ended) account) (message : Message) :
    Concludes ((s.receive answers message).phase = .ended)
      (account ++ s.messageEntries answers message) := by
  have hended : (s.receive answers message).phase = .ended ↔ _ := phase_receive_eq_ended_iff message
  have hlength : (s.messageEntries answers message).length ≤ 1 := length_messageEntries_le
  cases hentries : s.messageEntries answers message with
  | nil =>
    rw [List.append_nil]
    exact h.mono fun hbefore => hended.mpr (Or.inl hbefore)
  | cons entry rest =>
    rw [hentries] at hlength hended
    obtain rfl : rest = [] := by simpa using hlength
    have hconnected : s.phase = .connected := by
      unfold messageEntries at hentries
      split at hentries
      · assumption
      · cases hentries
    have hrunning : s.phase ≠ .ended := by simp [hconnected]
    exact h.enter hrunning fun hfatal => hended.mpr (Or.inr (Or.inr hfatal))

theorem concludes_waiting (messages : List Message) {s : Streaming} {account : List Entry}
    (h : Concludes (s.phase = .ended) account) :
    Concludes ((messages.foldl (receive answers) s).phase = .ended)
      (account ++ waitingEntries answers s messages) := by
  induction messages generalizing s account with
  | nil => simpa [waitingEntries] using h
  | cons message rest ih =>
    rw [waitingEntries, ← List.append_assoc]
    exact ih (concludes_receive h message)

/-- So is a connection that fails for good, with the messages that were waiting. -/
theorem concludes_connect (h : Concludes (s.phase = .ended) account)
    (result : Except Failure Unit) :
    Concludes ((s.connect answers result).phase = .ended)
      (account ++ s.connectEntries answers result) := by
  rw [connect_eq]
  unfold connectEntries
  split
  · next hconnecting =>
    have hrunning : s.phase ≠ .ended := by simp [hconnecting]
    rw [← List.append_assoc]
    refine concludes_waiting s.inbox ?_
    cases result with
    | ok _ =>
      rw [List.append_nil]
      exact h.mono fun hended => absurd hended hrunning
    | error failure =>
      exact h.enter hrunning fun hfatal =>
        (phase_fail_eq_ended_iff { s with inbox := [] } failure).mpr hfatal
  · simpa using h

end Streaming

namespace Replica

open Entry

/-- What holds between a copy and the account of the data source that keeps it. -/
structure Agrees (r : Replica) (closed : Bool) (ended : Prop) (account : List Entry) : Prop where
  startup_eq_ok_iff : r.startup = some (.ok ()) ↔ r.initialized = true
  initialized_iff_store : r.initialized = true ↔ r.store.initialized = true
  initialized_iff_account : r.initialized = true ↔
    ∃ definitions, .stored (.all definitions) ∈ account
  startup_eq_error_iff : ∀ failure, r.startup = some (.error failure) ↔
    failure.isRecoverable = false ∧ ∃ before after,
      account = before ++ .failed failure :: after ∧ before.any storesAll = false
  off_iff : r.tracker.status.state = .off ↔ closed = true ∨ Fatal account
  ended_of_fatal : Fatal account → ended
  initializing_iff : r.tracker.status.state ≠ .off →
    (r.tracker.status.state = .initializing ↔ r.initialized = false)
  valid_or_interrupted : r.tracker.status.state ≠ .off → r.initialized = true →
    r.tracker.status.state = .valid ∨ r.tracker.status.state = .interrupted

/-- A copy that the account tells all about, where nothing follows a final failure. -/
structure Kept (r : Replica) (closed : Bool) (ended : Prop) (account : List Entry) : Prop where
  reflects : r.Reflects closed account
  store : r.store.initialized = r.initialized
  last : ¬ Fatal account.dropLast
  ended_of_fatal : Fatal account → ended

variable {r : Replica} {closed : Bool} {ended ended' : Prop} {account : List Entry}

/-- The tracker is off if the source was closed or has failed for good. -/
theorem Kept.off_iff (h : r.Kept closed ended account) :
    r.tracker.status.state = .off ↔ closed = true ∨ Fatal account := by
  rw [h.reflects.state, ← stateAfter_eq_off_iff]
  cases closed <;> simp

/-- While it is not off, it is initializing until there is a dataset. -/
theorem Kept.initializing_iff (h : r.Kept closed ended account)
    (hne : r.tracker.status.state ≠ .off) :
    r.tracker.status.state = .initializing ↔ r.initialized = false := by
  have hfatal : ¬ Fatal account := fun hf => hne (h.off_iff.mpr (Or.inr hf))
  have hopen : closed = false := by
    cases closed with
    | true => exact absurd (h.off_iff.mpr (Or.inl rfl)) hne
    | false => rfl
  rw [h.reflects.state, hopen, h.reflects.initialized]
  exact stateAfter_eq_initializing_iff hfatal

theorem Kept.agrees (h : r.Kept closed ended account) : r.Agrees closed ended account where
  startup_eq_ok_iff := by
    rw [h.reflects.startup, h.reflects.initialized]
    exact findSome?_outcome?_eq_ok_iff h.last
  initialized_iff_store := by rw [h.store]
  initialized_iff_account := by
    rw [h.reflects.initialized]
    exact any_storesAll_iff account
  startup_eq_error_iff failure := by
    rw [h.reflects.startup]
    exact findSome?_outcome?_eq_error_iff h.last failure
  off_iff := h.off_iff
  ended_of_fatal := h.ended_of_fatal
  initializing_iff := h.initializing_iff
  valid_or_interrupted hne hinitialized := by
    have hlater := (h.initializing_iff hne).not.mpr (by simp [hinitialized])
    cases hstate : r.tracker.status.state with
    | initializing => exact absurd hstate hlater
    | valid => exact Or.inl rfl
    | interrupted => exact Or.inr rfl
    | off => exact absurd hstate hne

/-- How the start came out is told by the account, and what is entered later does not change
that. -/
theorem Reflects.startup_eq_of_append {later : Replica} {closed' : Bool} {rest : List Entry}
    (h : r.Reflects closed account) (h' : later.Reflects closed' (account ++ rest))
    {result : Except Failure Unit} (hresult : r.startup = some result) :
    later.startup = some result := by
  rw [h'.startup, List.findSome?_append, ← h.startup, hresult]
  rfl

/-- The store is initialized with the copy. -/
theorem store_initialized_enter (h : r.store.initialized = r.initialized) (entry : Entry) :
    (r.enter entry).store.initialized = (r.enter entry).initialized := by
  rcases entry with ⟨_ | _⟩ | _ | failure
  · rfl
  · simp only [Replica.enter]
    split <;> exact h
  · exact h
  · simp only [Replica.enter, fail, reportFailure]
    split <;> exact h

theorem store_initialized_enterAll (later : List Entry) {r : Replica}
    (h : r.store.initialized = r.initialized) :
    (r.enterAll later).store.initialized = (r.enterAll later).initialized := by
  induction later generalizing r with
  | nil => exact h
  | cons entry rest ih => exact ih (store_initialized_enter h entry)

theorem Kept.concludes (h : r.Kept closed ended account) : Concludes ended account :=
  ⟨h.last, h.ended_of_fatal⟩

/-- Lines that a copy enters leave it kept. -/
theorem Kept.enterAll (h : r.Kept closed ended account) {later : List Entry}
    (hlater : Concludes ended' (account ++ later)) :
    (r.enterAll later).Kept closed ended' (account ++ later) :=
  ⟨h.reflects.enterAll later, store_initialized_enterAll later h.store, hlater.last,
    hlater.ended_of_fatal⟩

/-- Nothing is entered when a source goes on or ends. -/
theorem Kept.mono (h : r.Kept closed ended account) (hended : ended → ended') :
    r.Kept closed ended' account :=
  ⟨h.reflects, h.store, h.last, fun hfatal => hended (h.ended_of_fatal hfatal)⟩

theorem Kept.close (h : r.Kept closed ended account) : (r.report .off).Kept true ended account :=
  ⟨h.reflects.close, h.store, h.last, h.ended_of_fatal⟩

theorem Kept.reportStore (h : r.Kept closed ended account) (status : StoreStatus) :
    (r.reportStore status).Kept closed ended account :=
  ⟨h.reflects.reportStore status, h.store, h.last, h.ended_of_fatal⟩

theorem Kept.outage (h : r.Kept closed ended account) (failure : Option Failure) :
    ({ r with outage := failure } : Replica).Kept closed ended account :=
  ⟨h.reflects.outage failure, h.store, h.last, h.ended_of_fatal⟩

theorem kept_start : ({} : Replica).Kept false False [] :=
  ⟨⟨rfl, rfl, rfl⟩, rfl, not_fatal_nil, not_fatal_nil⟩

end Replica

open Entry

namespace Polling

abbrev Kept (p : Polling) (account : List Entry) : Prop :=
  p.replica.Kept p.closed (p.phase = .ended) account

variable {p : Polling} {account : List Entry}

/-- What reaches a polling source leaves its copy kept. -/
theorem Kept.respond (h : p.Kept account) (answer : Except Failure Definitions) :
    (p.respond answer).Kept (account ++ p.respondEntries answer) := by
  simp only [Kept]
  rw [replica_respond, closed_respond]
  exact Replica.Kept.enterAll h (concludes_respond (Replica.Kept.concludes h) answer)

theorem Kept.act (h : p.Kept account) (action : Action) :
    (p.act action).Kept (account ++ p.actEntries action) := by
  cases action with
  | respond answer => exact h.respond answer
  | elapse =>
    simp only [Polling.act, Polling.elapse, actEntries, List.append_nil]
    split
    · next hresting => exact Replica.Kept.mono h fun hended => by simp [hresting] at hended
    · exact h
  | storeStatus status =>
    rw [actEntries, List.append_nil]
    exact Replica.Kept.reportStore h status
  | outage failure =>
    rw [actEntries, List.append_nil]
    exact Replica.Kept.outage h failure
  | close =>
    simp only [Polling.act, actEntries, List.append_nil]
    split
    · exact h
    · exact Replica.Kept.close h
  | stop =>
    simp only [Polling.act, actEntries, List.append_nil]
    split
    · exact Replica.Kept.mono h fun _ => rfl
    · exact h

/-- By induction, so do all actions. -/
theorem Kept.acts (h : p.Kept account) (actions : List Action) :
    (p.acts actions).Kept (account ++ p.account actions) := acts_induction Kept.act h actions

theorem kept_start (actions : List Action) :
    (({} : Polling).acts actions).Kept (({} : Polling).account actions) := by
  have h : ({} : Polling).Kept [] := Replica.kept_start.mono False.elim
  simpa using h.acts actions

/-- A source ends by a final failure, or when it finds that it was closed. -/
theorem closed_or_fatal_of_act (h : p.phase = .ended → p.closed = true ∨ Fatal account)
    (action : Action) (hended : (p.act action).phase = .ended) :
    (p.act action).closed = true ∨ Fatal (account ++ p.actEntries action) := by
  rw [fatal_append_iff]
  cases action with
  | respond answer =>
    rcases (phase_respond_eq_ended_iff p answer).mp hended with hbefore | hfatal
    · rw [Polling.act, closed_respond]
      exact (h hbefore).imp_right Or.inl
    · exact Or.inr (Or.inr hfatal)
  | elapse =>
    by_cases hresting : p.phase = .resting
    · simp [Polling.act, Polling.elapse, hresting] at hended
    · simp only [Polling.act, Polling.elapse, if_neg hresting] at hended ⊢
      exact (h hended).imp_right Or.inl
  | storeStatus status => exact (h hended).imp_right Or.inl
  | outage failure => exact (h hended).imp_right Or.inl
  | close =>
    refine Or.inl ?_
    cases hclosed : p.closed <;> simp [Polling.act, hclosed]
  | stop =>
    by_cases hstop : p.closed = true ∧ p.phase = .resting
    · simp only [Polling.act, if_pos hstop]
      exact Or.inl hstop.1
    · simp only [Polling.act, if_neg hstop] at hended ⊢
      exact (h hended).imp_right Or.inl

/-- A polling source that has ended was closed or has failed for good. -/
theorem closed_or_fatal_of_acts (actions : List Action)
    (hended : (({} : Polling).acts actions).phase = .ended) :
    (({} : Polling).acts actions).closed = true ∨ Fatal (({} : Polling).account actions) := by
  have hbegun : ({} : Polling).phase = .ended → ({} : Polling).closed = true ∨ Fatal [] :=
    fun h => by cases h
  exact acts_induction (P := fun p account => p.phase = .ended → p.closed = true ∨ Fatal account)
    closed_or_fatal_of_act hbegun actions hended

theorem phase_close (hopen : p.closed = false) (pending : Except Failure Definitions) :
    (p.close pending).phase = .ended := by
  simp [close, hopen]

end Polling

namespace Streaming

abbrev Kept (s : Streaming) (account : List Entry) : Prop :=
  s.replica.Kept s.closed (s.phase = .ended) account

variable {answers : Answers} {s : Streaming} {account : List Entry}

/-- What reaches a streaming source leaves its copy kept. -/
theorem Kept.receive (h : s.Kept account) (message : Message) :
    (s.receive answers message).Kept (account ++ s.messageEntries answers message) := by
  simp only [Kept]
  rw [replica_receive, (receive_frame answers s message).1]
  exact Replica.Kept.enterAll h (concludes_receive (Replica.Kept.concludes h) message)

theorem Kept.connect (h : s.Kept account) (result : Except Failure Unit) :
    (s.connect answers result).Kept (account ++ s.connectEntries answers result) := by
  simp only [Kept]
  rw [replica_connect, closed_connect]
  exact Replica.Kept.enterAll h (concludes_connect (Replica.Kept.concludes h) result)

theorem Kept.act (h : s.Kept account) (action : Action) :
    (s.act action).Kept (account ++ s.actEntries action) := by
  cases action with
  | connect answers result => exact h.connect result
  | receive answers message => exact h.receive message
  | elapse =>
    simp only [Streaming.act, Streaming.elapse, actEntries, List.append_nil]
    split
    · next hdelayed => exact Replica.Kept.mono h fun hended => by simp [hdelayed] at hended
    · exact h
  | storeStatus status =>
    rw [actEntries, List.append_nil]
    exact Replica.Kept.reportStore h status
  | outage failure =>
    rw [actEntries, List.append_nil]
    exact Replica.Kept.outage h failure
  | close =>
    simp only [Streaming.act, actEntries, List.append_nil]
    split
    · exact h
    · exact Replica.Kept.close h

theorem Kept.acts (h : s.Kept account) (actions : List Action) :
    (s.acts actions).Kept (account ++ s.account actions) := acts_induction Kept.act h actions

theorem kept_start (monitored : Bool) (actions : List Action) :
    ((start {} monitored).acts actions).Kept ((start {} monitored).account actions) := by
  have h : (start {} monitored).Kept [] := Replica.kept_start.mono False.elim
  simpa using h.acts actions

/-- Whoever tells a source to stop closes it. Closing sends `stop` before it reports the source off;
the two are one moment here, so `stop` is received after it. -/
def ToldByClosing (s : Streaming) (actions : List Action) : Prop :=
  ∀ before answers after, actions = before ++ .receive answers .stop :: after →
    (s.acts before).closed = true

theorem toldByClosing_nil (s : Streaming) : s.ToldByClosing [] := by
  intro before answers after h
  simp at h

theorem toldByClosing_cons_iff (s : Streaming) (action : Action) (rest : List Action) :
    s.ToldByClosing (action :: rest) ↔
      (∀ answers, action = .receive answers .stop → s.closed = true) ∧
        (s.act action).ToldByClosing rest := by
  constructor
  · intro h
    refine ⟨fun answers haction => ?_, fun before answers after hrest => ?_⟩
    · exact h [] answers rest (by rw [haction]; rfl)
    · exact h (action :: before) answers after (by rw [hrest]; rfl)
  · rintro ⟨hfirst, hrest⟩ before answers after hactions
    cases before with
    | nil => exact hfirst answers (List.cons.inj hactions).1
    | cons _ before =>
      obtain ⟨rfl, rfl⟩ := List.cons.inj hactions
      exact hrest before answers after rfl

/-- A source that is closed stays closed. -/
theorem closed_acts (actions : List Action) {s : Streaming} (h : s.closed = true) :
    (s.acts actions).closed = true := by
  induction actions generalizing s with
  | nil => exact h
  | cons action rest ih =>
    refine ih ?_
    cases action with
    | connect answers result => exact (closed_connect answers s result).trans h
    | receive answers message => exact (receive_frame answers s message).1.trans h
    | elapse =>
      simp only [Streaming.act, Streaming.elapse]
      split <;> exact h
    | storeStatus status => exact h
    | outage failure => exact h
    | close => simp [Streaming.act, h]

/-- The actions that closing is made of tell a source to stop after it was closed. -/
theorem toldByClosing_closingActions (s : Streaming) (answers : Answers)
    (pending : Except Failure Unit) : s.ToldByClosing (s.closingActions answers pending) := by
  unfold closingActions
  split
  · exact toldByClosing_nil s
  · next hopen =>
    refine (toldByClosing_cons_iff s _ _).mpr ⟨fun _ h => (by cases h), fun before _ _ _ => ?_⟩
    refine closed_acts before ?_
    simp [Streaming.act, hopen]

/-- A source that has ended, or that will find the message that tells it to, was closed or has
failed for good. -/
structure Told (s : Streaming) (account : List Entry) : Prop where
  ended : s.phase = .ended → s.closed = true ∨ Fatal account
  waiting : .stop ∈ s.inbox → s.closed = true

theorem Told.receive (h : s.Told account) {message : Message}
    (hstop : message = .stop → s.closed = true) :
    (s.receive answers message).Told (account ++ s.messageEntries answers message) := by
  have hclosed := (receive_frame answers s message).1
  constructor
  · intro hended
    rw [hclosed, fatal_append_iff]
    rcases (phase_receive_eq_ended_iff message).mp hended with hbefore | ⟨hmessage, -⟩ | hfatal
    · exact (h.ended hbefore).imp_right Or.inl
    · exact Or.inl (hstop hmessage)
    · exact Or.inr (Or.inr hfatal)
  · intro hmem
    rw [hclosed]
    by_cases hconnecting : s.phase = .connecting
    · unfold Streaming.receive at hmem
      rw [hconnecting] at hmem
      rcases List.mem_append.mp hmem with hmem | hmem
      · exact h.waiting hmem
      · exact hstop (List.mem_singleton.mp hmem).symm
    · rw [inbox_receive hconnecting] at hmem
      exact h.waiting hmem

theorem Told.waitingAll (messages : List Message) {s : Streaming} {account : List Entry}
    (h : s.Told account) (hstop : .stop ∈ messages → s.closed = true) :
    (messages.foldl (Streaming.receive answers) s).Told
      (account ++ waitingEntries answers s messages) := by
  induction messages generalizing s account with
  | nil => simpa [waitingEntries] using h
  | cons message rest ih =>
    rw [waitingEntries, ← List.append_assoc]
    refine ih (h.receive fun hmessage => hstop (hmessage ▸ List.mem_cons_self)) fun hmem => ?_
    rw [(receive_frame answers s message).1]
    exact hstop (List.mem_cons_of_mem _ hmem)

theorem Told.connect (h : s.Told account) (result : Except Failure Unit) :
    (s.connect answers result).Told (account ++ s.connectEntries answers result) := by
  rw [connect_eq]
  unfold connectEntries
  split
  · rw [← List.append_assoc]
    cases result with
    | ok _ =>
      rw [List.append_nil]
      refine Told.waitingAll s.inbox ⟨fun hended => ?_, fun hmem => ?_⟩ h.waiting
      · cases hended
      · exact absurd hmem List.not_mem_nil
    | error failure =>
      refine Told.waitingAll s.inbox ⟨fun hended => ?_, fun hmem => ?_⟩ h.waiting
      · rw [fatal_append_iff]
        exact Or.inr (Or.inr ((phase_fail_eq_ended_iff { s with inbox := [] } failure).mp hended))
      · exact absurd hmem List.not_mem_nil
  · simpa using h

/-- An action ends no source that is neither closed nor failed for good. -/
theorem Told.act (h : s.Told account) {action : Action}
    (hstop : ∀ answers, action = .receive answers .stop → s.closed = true) :
    (s.act action).Told (account ++ s.actEntries action) := by
  cases action with
  | connect answers result => exact h.connect result
  | receive answers message => exact h.receive fun hmessage => hstop answers (hmessage ▸ rfl)
  | elapse =>
    simp only [Streaming.act, Streaming.elapse, actEntries, List.append_nil]
    split
    · exact ⟨fun hended => (by cases hended), h.waiting⟩
    · exact h
  | storeStatus status =>
    rw [actEntries, List.append_nil]
    exact ⟨h.ended, h.waiting⟩
  | outage failure =>
    rw [actEntries, List.append_nil]
    exact ⟨h.ended, h.waiting⟩
  | close =>
    simp only [Streaming.act, actEntries, List.append_nil]
    split
    · exact h
    · exact ⟨fun _ => Or.inl rfl, fun _ => rfl⟩

/-- So a source that has ended was closed, by those who told it to stop, or has failed for good. -/
theorem Told.acts (actions : List Action) {s : Streaming} {account : List Entry}
    (h : s.Told account) (htold : s.ToldByClosing actions) :
    (s.acts actions).Told (account ++ s.account actions) := by
  induction actions generalizing s account with
  | nil => simpa [Streaming.acts, Streaming.account] using h
  | cons action rest ih =>
    obtain ⟨hfirst, hrest⟩ := (toldByClosing_cons_iff s action rest).mp htold
    rw [Streaming.account, ← List.append_assoc]
    exact ih (h.act hfirst) hrest

end Streaming

/-- At every moment of a run, of a polling source and of a streaming one, the copy agrees with the
account; how the start came out stays so; a source that has ended is off; and it has ended when
closing returns. -/
theorem sources_agree_with_copies :
    (∀ actions : List Polling.Action,
      let p := ({} : Polling).acts actions
      let account := ({} : Polling).account actions
      p.replica.Agrees p.closed (p.phase = .ended) account ∧
        (∀ later result, p.replica.startup = some result →
          (p.acts later).replica.startup = some result) ∧
        (p.phase = .ended → p.replica.tracker.status.state = .off) ∧
        ∀ pending, p.closed = false → (p.close pending).phase = .ended) ∧
    ∀ (monitored : Bool) (actions : List Streaming.Action),
      let start := Streaming.start {} monitored
      let s := start.acts actions
      let account := start.account actions
      s.replica.Agrees s.closed (s.phase = .ended) account ∧
        (∀ later result, s.replica.startup = some result →
          (s.acts later).replica.startup = some result) ∧
        (start.ToldByClosing actions → s.phase = .ended → s.replica.tracker.status.state = .off) ∧
        ∀ answers pending, s.closed = false → (s.close answers pending).phase = .ended := by
  constructor
  · intro actions p account
    have hkept : p.Kept account := Polling.kept_start actions
    refine ⟨hkept.agrees, fun later result hresult => ?_, fun hended => ?_,
      fun pending hopen => Polling.phase_close hopen pending⟩
    · exact hkept.reflects.startup_eq_of_append (hkept.acts later).reflects hresult
    · exact hkept.agrees.off_iff.mpr (Polling.closed_or_fatal_of_acts actions hended)
  · intro monitored actions start s account
    have hkept : s.Kept account := Streaming.kept_start monitored actions
    refine ⟨hkept.agrees, fun later result hresult => ?_, fun htold hended => ?_,
      fun answers pending hopen => Streaming.phase_close hopen pending⟩
    · exact hkept.reflects.startup_eq_of_append (hkept.acts later).reflects hresult
    · refine hkept.agrees.off_iff.mpr ?_
      have hbegun : start.Told [] := ⟨fun h => (by cases h), fun h => absurd h List.not_mem_nil⟩
      simpa using (hbegun.acts actions htold).ended hended

/-- The whole dataset is put in place, the connection is lost, and the source is closed before the
next one is due. -/
def closedInBetween : List Streaming.Action :=
  let answers : Answers := ⟨.ok {}, fun key => .ok { key }, fun key => .ok { key }⟩
  [.connect answers (.ok ()), .receive answers (.event 0 ⟨"indirect/put", "", none⟩),
    .receive answers (.closed 0 none), .close, .receive answers .stop]

/-- The start came out well, and the source has ended and is off. -/
theorem closed_in_between :
    let s := (Streaming.start {} false).acts closedInBetween
    (Streaming.start {} false).ToldByClosing closedInBetween ∧ s.phase = .ended ∧
      s.replica.startup = some (.ok ()) ∧ s.replica.tracker.status.state = .off := by
  intro s
  obtain ⟨-, hstreaming⟩ := sources_agree_with_copies
  obtain ⟨hagrees, -, hoff, -⟩ := hstreaming false closedInBetween
  have htold : (Streaming.start {} false).ToldByClosing closedInBetween := by
    simp only [closedInBetween, Streaming.toldByClosing_cons_iff, Streaming.toldByClosing_nil,
      Streaming.Action.receive.injEq, reduceCtorEq, and_false, false_imp_iff, implies_true,
      true_and, and_true]
    exact fun _ _ => by decide
  have hended : s.phase = .ended := by decide
  exact ⟨htold, hended, hagrees.startup_eq_ok_iff.mpr (by decide), hoff htold hended⟩

end FeatureFlags
