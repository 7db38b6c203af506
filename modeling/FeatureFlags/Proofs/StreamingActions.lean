import FeatureFlags.Proofs.ReplicaAccount

/-!
Runs of a streaming data source, taken apart. A source that is closed is off at once, but it stops
when it comes to the message that tells it to, and anything may happen until then; so it is with a
status of the store, which the tracker knows before the source hears of it. A run is a list of such
actions, and whatever else can happen to a source is done by a few of them.
-/
namespace FeatureFlags.Streaming

/-- What happens at one moment. A message is taken from those that were sent, or waits if a
connection is being opened. -/
inductive Action where
  | connect (answers : Answers) (result : Except Failure Unit)
  | receive (answers : Answers) (message : Message)
  | elapse
  /-- The store tells the tracker of its health. -/
  | storeStatus (status : StoreStatus)
  /-- The store goes down, or it is back. -/
  | outage (failure : Option Failure)
  /-- Someone closes the source, and does not wait for it to end. That it is sent `stop` and that it
  is reported off count as one moment; the message itself is received as any other, later. -/
  | close
  deriving Inhabited

def act (s : Streaming) : Action → Streaming
  | .connect answers result => s.connect answers result
  | .receive answers message => s.receive answers message
  | .elapse => s.elapse
  | .storeStatus status => { s with replica := s.replica.reportStore status }
  | .outage failure => { s with replica.outage := failure }
  | .close => if s.closed then s else { s with closed := true, replica := s.replica.report .off }

def acts (s : Streaming) (actions : List Action) : Streaming := actions.foldl act s

def actEntries (s : Streaming) : Action → List Entry
  | .connect answers result => s.connectEntries answers result
  | .receive answers message => s.messageEntries answers message
  | .elapse | .storeStatus _ | .outage _ | .close => []

/-- The account of a list of actions. -/
def account : Streaming → List Action → List Entry
  | _, [] => []
  | s, action :: rest => s.actEntries action ++ account (s.act action) rest

theorem acts_append (s : Streaming) (first second : List Action) :
    s.acts (first ++ second) = (s.acts first).acts second := List.foldl_append

theorem account_append (s : Streaming) (first second : List Action) :
    s.account (first ++ second) = s.account first ++ (s.acts first).account second := by
  induction first generalizing s with
  | nil => rfl
  | cons action rest ih =>
    rw [List.cons_append, account, account, ih, List.append_assoc]
    rfl

/-- What every action keeps, as the account grows, holds of a run. -/
theorem acts_induction {P : Streaming → List Entry → Prop}
    (step : ∀ {s account}, P s account →
      ∀ action, P (s.act action) (account ++ s.actEntries action))
    {s : Streaming} {entered : List Entry} (h : P s entered) (actions : List Action) :
    P (s.acts actions) (entered ++ s.account actions) := by
  induction actions generalizing s entered with
  | nil => simpa [acts, account] using h
  | cons action rest ih =>
    rw [account, ← List.append_assoc]
    exact ih (step h action)

/-- A change that takes no notice of the messages that wait, and touches nothing but the copy, the
phase and what was fetched. -/
def Framed (s : Streaming) (change : Streaming → Streaming) : Prop :=
  ∃ replica phase fetches, ∀ inbox,
    change { s with inbox } = { s with inbox, replica, phase, fetches }

theorem framed_id (s : Streaming) : s.Framed id := ⟨s.replica, s.phase, s.fetches, fun _ => rfl⟩

theorem Framed.ite {s : Streaming} {change other : Streaming → Streaming} (h : s.Framed change)
    (h' : s.Framed other) (condition : Bool) :
    s.Framed fun t => if condition then change t else other t := by
  cases condition with
  | true => exact h
  | false => exact h'

theorem framed_phase (s : Streaming) (phase : Phase) : s.Framed fun t => { t with phase } :=
  ⟨s.replica, phase, s.fetches, fun _ => rfl⟩

theorem framed_afterWrite (s : Streaming) (written : Bool) : s.Framed (afterWrite · written) :=
  s.framed_id.ite (s.framed_phase .delayed) (written || s.monitored)

theorem framed_put (s : Streaming) (definitions : Definitions) : s.Framed (put · definitions) :=
  framed_afterWrite { s with replica := (s.replica.synchronize definitions).1 }
    (s.replica.synchronize definitions).2

theorem framed_upsert (s : Streaming) (kind : Kind) (key : String) (descriptor : Descriptor) :
    s.Framed (upsert · kind key descriptor) := by
  let written := (s.replica.upsert kind key descriptor).2
  let replica := (s.replica.upsert kind key descriptor).1
  exact framed_afterWrite
    { s with replica := if written && replica.initialized then replica.reportValid else replica }
    written

theorem framed_fail (s : Streaming) (failure : Failure) : s.Framed (fail · failure) :=
  ⟨s.replica.fail failure, if failure.isRecoverable then .delayed else .ended, s.fetches,
    fun _ => rfl⟩

theorem framed_apply (answers : Answers) (s : Streaming) (update : Update) :
    s.Framed (apply answers · update) := by
  cases update with
  | put definitions => exact s.framed_put definitions
  | patch kind key descriptor => exact s.framed_upsert kind key descriptor
  | delete kind key version => exact s.framed_upsert kind key (.tombstone version)
  | fetchAll =>
    simp only [Framed, apply]
    cases answers.all with
    | ok definitions => exact (s.fetching .all).framed_put definitions
    | error failure => exact (s.fetching .all).framed_fail failure
  | fetchItem kind key =>
    simp only [Framed, apply]
    cases answers.item key kind with
    | ok item => exact (s.fetching (.item kind key)).framed_upsert kind key (.ofItem item)
    | error failure => exact (s.fetching (.item kind key)).framed_fail failure

theorem framed_handle (answers : Answers) (s : Streaming) (event : EventStream.Event) :
    s.Framed (handle answers · event) := by
  simp only [Framed, handle]
  cases Update.ofEvent event with
  | error failure => exact s.framed_fail failure
  | ok update =>
    cases update with
    | none => exact s.framed_id
    | some update => exact s.framed_apply answers update

/-- Reading a message takes no notice of those that wait. -/
theorem framed_read (answers : Answers) (s : Streaming) (message : Message) :
    s.Framed (read answers · message) := by
  cases message with
  | event c e => exact (s.framed_handle answers e).ite s.framed_id (s.isCurrent c)
  | heartbeat c => exact s.framed_id
  | closed c failure =>
    exact (s.framed_fail (failure.getD closedByServer)).ite s.framed_id (s.isCurrent c)
  | storeStatus status =>
    exact (s.framed_phase .connecting).ite s.framed_id (status.available && status.refreshNeeded)
  | stop => exact s.framed_phase .ended

/-- Taking a message neither closes a source nor opens a connection. -/
theorem receive_frame (answers : Answers) (s : Streaming) (message : Message) :
    (s.receive answers message).closed = s.closed ∧
      (s.receive answers message).connections = s.connections := by
  unfold receive
  cases s.phase with
  | connecting => exact ⟨rfl, rfl⟩
  | connected =>
    obtain ⟨replica, phase, fetches, hread⟩ := s.framed_read answers message
    have hread : s.read answers message = _ := hread s.inbox
    dsimp only
    rw [hread]
    exact ⟨rfl, rfl⟩
  | delayed =>
    dsimp only
    split <;> exact ⟨rfl, rfl⟩
  | ended => exact ⟨rfl, rfl⟩

/-- Taking the messages that waited touches neither the closing nor the count of connections. -/
theorem waiting_frame (answers : Answers) (messages : List Message) (s : Streaming) :
    (messages.foldl (receive answers) s).closed = s.closed ∧
      (messages.foldl (receive answers) s).connections = s.connections := by
  induction messages generalizing s with
  | nil => exact ⟨rfl, rfl⟩
  | cons message rest ih =>
    obtain ⟨hclosed, hconnections⟩ := s.receive_frame answers message
    rw [← hclosed, ← hconnections]
    exact ih (s.receive answers message)

theorem closed_connect (answers : Answers) (s : Streaming) (result : Except Failure Unit) :
    (s.connect answers result).closed = s.closed := by
  rw [connect_eq]
  split
  · rw [(waiting_frame ..).1]
    cases result <;> rfl
  · rfl

theorem connect_of_ne {s : Streaming} (h : s.phase ≠ .connecting) (answers : Answers)
    (result : Except Failure Unit) :
    s.connect answers result = s ∧ s.connectEntries answers result = [] := by
  constructor
  · rw [connect_eq, if_neg h]
  · unfold connectEntries
    rw [if_neg h]

def settling (answers : Answers) (result : Except Failure Unit) (n : Nat) : List Action :=
  List.replicate n (.connect answers result)

theorem acts_settling_of_ne {s : Streaming} (h : s.phase ≠ .connecting) (answers : Answers)
    (result : Except Failure Unit) (n : Nat) :
    s.acts (settling answers result n) = s ∧ s.account (settling answers result n) = [] := by
  obtain ⟨hconnect, hentries⟩ := connect_of_ne h answers result
  induction n with
  | zero => exact ⟨rfl, rfl⟩
  | succ n ih =>
    constructor
    · change (s.connect answers result).acts (settling answers result n) = s
      rw [hconnect]
      exact ih.1
    · change s.connectEntries answers result ++
        (s.connect answers result).account (settling answers result n) = []
      rw [hconnect, hentries]
      exact ih.2

/-- Settling is connecting so many times, as long as there is a need for it. -/
theorem settle_eq_acts (answers : Answers) (result : Except Failure Unit) (n : Nat) (s : Streaming) :
    settle answers result n s = s.acts (settling answers result n) ∧
      settleEntries answers result n s = s.account (settling answers result n) := by
  induction n generalizing s with
  | zero => exact ⟨rfl, rfl⟩
  | succ n ih =>
    rw [settle, settleEntries]
    by_cases hphase : s.phase = .connecting
    · rw [if_pos hphase, if_pos hphase, (ih _).1, (ih _).2]
      exact ⟨rfl, rfl⟩
    · obtain ⟨hacts, haccount⟩ := acts_settling_of_ne hphase answers result (n + 1)
      rw [if_neg hphase, if_neg hphase, hacts, haccount]
      exact ⟨rfl, rfl⟩

/-- Closing is done at once; then the source comes to the message, if need be after it has
connected. -/
def closingActions (s : Streaming) (answers : Answers) (pending : Except Failure Unit) :
    List Action :=
  if s.closed then []
  else
    [.close, .receive answers .stop] ++
      settling answers pending (s.closing answers).inbox.length

theorem acts_close_stop {s : Streaming} (h : s.closed = false) (answers : Answers) :
    s.acts [.close, .receive answers .stop] = s.closing answers := by
  simp only [acts, List.foldl_cons, List.foldl_nil, act, h, closing, receive]
  cases s.phase <;> rfl

/-- Closing is made of actions, and enters what these enter. -/
theorem close_eq_acts (answers : Answers) (s : Streaming) (pending : Except Failure Unit) :
    s.close answers pending = s.acts (s.closingActions answers pending) ∧
      s.stepEntries (.close answers pending) = s.account (s.closingActions answers pending) := by
  rw [close_eq, closingActions, stepEntries]
  cases hclosed : s.closed with
  | true => exact ⟨rfl, rfl⟩
  | false =>
    have hstop : s.account [.close, .receive answers .stop] = [] := by
      simp only [account, actEntries, messageEntries, readEntries, List.nil_append, List.append_nil]
      split <;> rfl
    obtain ⟨hsettle, hentries⟩ :=
      settle_eq_acts answers pending (s.closing answers).inbox.length (s.closing answers)
    simp only [Bool.false_eq_true, if_false]
    rw [acts_append, account_append, hstop, acts_close_stop hclosed]
    exact ⟨hsettle, hentries⟩

def Happening.actions (s : Streaming) : Happening → List Action
  | .connect answers result => [.connect answers result]
  | .receive answers message => [.receive answers message]
  | .elapse => [.elapse]
  | .storeStatus answers status =>
      if s.replica.isNews status && s.monitored && !s.closed then
        [.storeStatus status, .receive answers (.storeStatus status)]
      else [.storeStatus status]
  | .outage failure => [.outage failure]
  | .close answers pending => s.closingActions answers pending

/-- So is everything else that happens. -/
theorem step_eq_acts (s : Streaming) (happening : Happening) :
    s.step happening = s.acts (happening.actions s) ∧
      s.stepEntries happening = s.account (happening.actions s) := by
  cases happening with
  | connect answers result => exact ⟨rfl, (List.append_nil _).symm⟩
  | receive answers message => exact ⟨rfl, (List.append_nil _).symm⟩
  | elapse => exact ⟨rfl, rfl⟩
  | storeStatus answers status =>
    simp only [step, reportStore, stepEntries, Happening.actions]
    split
    · refine ⟨rfl, ?_⟩
      simp only [account, actEntries, messageEntries, readEntries, List.nil_append, List.append_nil]
      split <;> rfl
    · exact ⟨rfl, rfl⟩
  | outage failure => exact ⟨rfl, rfl⟩
  | close answers pending => exact close_eq_acts answers s pending

/-- Every run is a list of actions, with the same account. -/
theorem exists_actions (happenings : List Happening) (s : Streaming) :
    ∃ actions, s.run happenings = s.acts actions ∧ s.entries happenings = s.account actions := by
  induction happenings generalizing s with
  | nil => exact ⟨[], rfl, rfl⟩
  | cons happening rest ih =>
    obtain ⟨hstep, hentries⟩ := step_eq_acts s happening
    obtain ⟨actions, hrun, haccount⟩ := ih (s.step happening)
    refine ⟨happening.actions s ++ actions, ?_, ?_⟩
    · rw [acts_append, ← hstep]
      exact hrun
    · rw [account_append, ← hstep, ← hentries, ← haccount]
      rfl

end FeatureFlags.Streaming
