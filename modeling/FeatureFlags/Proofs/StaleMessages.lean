import FeatureFlags.Proofs.StreamingActions

/-!
Messages of connections that were given up. They may still come, in any order, between the messages
of the present connection and while there is none; a source takes the same course without them.
Those that come while a connection is being opened wait with the others, so two sources are on the
same course if they differ in no other messages that wait.
-/
namespace FeatureFlags.Streaming

/-- Whether a message comes from one of the first connections, so many as are told. -/
def Message.isFromFirst (count : Nat) (message : Message) : Bool :=
  match message.connection? with
  | some connection => connection < count
  | none => false

/-- Whether a message comes from a connection that was opened and then given up. -/
def isStale (s : Streaming) (message : Message) : Bool :=
  match message.connection? with
  | some connection =>
      connection < s.connections && !(s.phase == .connected && s.isCurrent connection)
  | none => false

/-- Leaves out the messages that are stale when they come. -/
def withoutStale : Streaming → List Action → List Action
  | _, [] => []
  | s, .receive answers message :: rest =>
      let later := withoutStale (s.receive answers message) rest
      if s.isStale message then later else .receive answers message :: later
  | s, action :: rest => action :: withoutStale (s.act action) rest

/-- How often a connection is being opened that then comes out, one way or the other. -/
def attempts : Streaming → List Action → Nat
  | _, [] => 0
  | s, .connect answers result :: rest =>
      (if s.phase = .connecting then 1 else 0) + attempts (s.connect answers result) rest
  | s, action :: rest => attempts (s.act action) rest

/-- Without the messages that wait and come from connections that were opened before. -/
def tidied (s : Streaming) : Streaming :=
  { s with inbox := s.inbox.filter fun message => !message.isFromFirst s.connections }

/-- Sources on the same course differ in the messages that wait only. -/
theorem same_of_tidied_eq {s t : Streaming} (h : s.tidied = t.tidied) :
    s.replica = t.replica ∧ s.phase = t.phase ∧ s.closed = t.closed ∧ s.fetches = t.fetches ∧
      s.connections = t.connections := by
  simp only [tidied, mk.injEq] at h
  exact ⟨h.1, h.2.2.1, h.2.2.2.2.2.2, h.2.2.2.2.2.1, h.2.2.2.1⟩

theorem isFromFirst_of_isStale {s : Streaming} {message : Message} (h : s.isStale message = true) :
    message.isFromFirst s.connections = true := by
  unfold isStale at h
  unfold Message.isFromFirst
  cases hconnection : message.connection? with
  | none => simp [hconnection] at h
  | some c =>
    simp only [hconnection, Bool.and_eq_true] at h
    exact h.1

/-- A change that takes no notice of waiting messages commutes with tidying. -/
theorem tidied_of_framed {s : Streaming} {change : Streaming → Streaming} (h : s.Framed change) :
    (change s).tidied = (change s.tidied).tidied := by
  obtain ⟨replica, phase, fetches, hchange⟩ := h
  have hwith : change s = _ := hchange s.inbox
  have hwithout : change s.tidied = _ := hchange s.tidied.inbox
  rw [hwith, hwithout]
  simp [tidied]

theorem tidied_receive (answers : Answers) (s : Streaming) (message : Message) :
    (s.receive answers message).tidied = (s.tidied.receive answers message).tidied := by
  have hphase : s.tidied.phase = s.phase := rfl
  unfold receive
  rw [hphase]
  cases s.phase with
  | connecting => simp [tidied]
  | connected => exact tidied_of_framed (s.framed_read answers message)
  | delayed =>
    dsimp only
    split <;> simp [tidied]
  | ended => simp [tidied]

/-- A stale message leaves a source on its course. -/
theorem tidied_receive_of_isStale {answers : Answers} {s : Streaming} {message : Message}
    (h : s.isStale message = true) : (s.receive answers message).tidied = s.tidied := by
  have hfirst := isFromFirst_of_isStale h
  unfold receive
  cases hphase : s.phase with
  | connecting => simp [tidied, hfirst, hphase]
  | connected =>
    unfold isStale at h
    cases hconnection : message.connection? with
    | none => simp [hconnection] at h
    | some c =>
      simp only [hconnection, hphase, beq_self_eq_true, Bool.true_and, Bool.and_eq_true,
        Bool.not_eq_true'] at h
      exact congrArg tidied (read_of_stale hconnection h.2)
  | delayed =>
    cases message with
    | stop => simp [isStale, Message.connection?] at h
    | _ => rfl
  | ended => rfl

/-- Taking a message opens no connection, so it makes no earlier one current. -/
theorem phase_ne_connected_receive {answers : Answers} {s : Streaming} {message : Message}
    (h : s.phase ≠ .connected) : (s.receive answers message).phase ≠ .connected := by
  unfold receive
  cases hphase : s.phase with
  | connecting => simp
  | connected => exact absurd hphase h
  | delayed =>
    dsimp only
    split <;> simp [hphase]
  | ended => simp [hphase]

def Past (count : Nat) (s : Streaming) : Prop :=
  count ≤ s.connections ∧ (s.phase = .connected → count < s.connections)

/-- Messages of connections that were given up are stale. -/
theorem Past.isStale {count : Nat} {s : Streaming} (h : s.Past count) {message : Message}
    (hfirst : message.isFromFirst count = true) : s.isStale message = true := by
  unfold Message.isFromFirst at hfirst
  unfold Streaming.isStale
  cases hconnection : message.connection? with
  | none => simp [hconnection] at hfirst
  | some c =>
    have hc : c < count := by simpa [hconnection] using hfirst
    have hcount := h.1
    have hopened : c < s.connections := by omega
    by_cases hconnected : s.phase = .connected
    · have hlast := h.2 hconnected
      have hother : s.isCurrent c = false := by
        rw [isCurrent, beq_eq_false_iff_ne]
        omega
      simp [hopened, hother]
    · simp [hopened, hconnected]

theorem Past.receive {count : Nat} {s : Streaming} (h : s.Past count) (answers : Answers)
    (message : Message) : (s.receive answers message).Past count := by
  obtain ⟨-, hconnections⟩ := s.receive_frame answers message
  refine ⟨by rw [hconnections]; exact h.1, fun hconnected => ?_⟩
  rw [hconnections]
  refine h.2 (Decidable.byContradiction fun hne => ?_)
  exact phase_ne_connected_receive hne hconnected

/-- Of the messages that waited, those of former connections may be left out. -/
theorem tidied_waiting {count : Nat} (answers : Answers) (messages : List Message)
    {s t : Streaming} (hsame : s.tidied = t.tidied) (hpast : s.Past count) :
    let current := messages.filter fun message => !message.isFromFirst count
    (messages.foldl (receive answers) s).tidied = (current.foldl (receive answers) t).tidied := by
  induction messages generalizing s t with
  | nil => exact hsame
  | cons message rest ih =>
    have hrest := hpast.receive answers message
    cases hfirst : message.isFromFirst count with
    | true =>
      rw [List.filter_cons_of_neg (by simp [hfirst])]
      refine ih ?_ hrest
      rw [tidied_receive_of_isStale (hpast.isStale hfirst), hsame]
    | false =>
      rw [List.filter_cons_of_pos (by simp [hfirst])]
      refine ih ?_ hrest
      rw [tidied_receive, hsame, ← tidied_receive]

theorem past_opened (s : Streaming) (result : Except Failure Unit) :
    (s.opened result).Past s.connections := by
  cases result with
  | ok _ => exact ⟨Nat.le_succ _, fun _ => Nat.lt_succ_self _⟩
  | error failure =>
    refine ⟨Nat.le_refl _, fun hconnected => ?_⟩
    change (if failure.isRecoverable then Phase.delayed else .ended) = .connected at hconnected
    split at hconnected <;> cases hconnected

theorem tidied_connect (answers : Answers) (s : Streaming) (result : Except Failure Unit) :
    (s.connect answers result).tidied = (s.tidied.connect answers result).tidied := by
  have hphase : s.tidied.phase = s.phase := rfl
  have hopened : s.tidied.opened result = s.opened result := by cases result <;> rfl
  rw [connect_eq, connect_eq, hphase, hopened]
  split
  · exact tidied_waiting answers s.inbox rfl (s.past_opened result)
  · simp [tidied]

/-- What an action makes of a source does not depend on the messages of earlier connections that
wait. -/
theorem tidied_act (s : Streaming) (action : Action) :
    (s.act action).tidied = (s.tidied.act action).tidied := by
  cases action with
  | connect answers result => exact s.tidied_connect answers result
  | receive answers message => exact s.tidied_receive answers message
  | elapse => by_cases hphase : s.phase = .delayed <;> simp [act, elapse, tidied, hphase]
  | storeStatus status => simp [act, tidied]
  | outage failure => simp [act, tidied]
  | close => cases hclosed : s.closed <;> simp [act, tidied, hclosed]

/-- By induction on the actions, both courses stay the same once tidied, and attempt to connect as
often. -/
theorem acts_withoutStale (actions : List Action) {s t : Streaming} (hsame : s.tidied = t.tidied) :
    (s.acts actions).tidied = (t.acts (s.withoutStale actions)).tidied ∧
      s.attempts actions = t.attempts (s.withoutStale actions) := by
  -- From the first stale message on, the two runs go through sources that differ in what waits.
  induction actions generalizing s t with
  | nil => exact ⟨hsame, rfl⟩
  | cons action rest ih =>
    have hnext : (s.act action).tidied = (t.act action).tidied := by
      rw [tidied_act, hsame, ← tidied_act]
    cases action with
    | receive answers message =>
      rw [withoutStale]
      cases hstale : s.isStale message with
      | true => exact ih ((tidied_receive_of_isStale hstale).trans hsame)
      | false => exact ih hnext
    | connect answers result =>
      have hphase : s.phase = t.phase := (same_of_tidied_eq hsame).2.1
      obtain ⟨hacts, hattempts⟩ := ih hnext
      refine ⟨hacts, ?_⟩
      change _ + _ = _ + _
      rw [hphase]
      exact congrArg _ hattempts
    | _ => exact ih hnext

/-- Without the stale messages a run comes to the same copy and the same phase, with the same
fetches and connections. -/
theorem stale_messages_do_not_count (s : Streaming) (actions : List Action) :
    let whole := s.acts actions
    let without := s.acts (s.withoutStale actions)
    without.replica = whole.replica ∧ without.phase = whole.phase ∧
      without.closed = whole.closed ∧ without.fetches = whole.fetches ∧
      without.connections = whole.connections ∧
      s.attempts (s.withoutStale actions) = s.attempts actions := by
  intro whole without
  obtain ⟨hsame, hattempts⟩ := acts_withoutStale actions (rfl : s.tidied = s.tidied)
  obtain ⟨hreplica, hphase, hclosed, hfetches, hconnections⟩ := same_of_tidied_eq hsame.symm
  exact ⟨hreplica, hphase, hclosed, hfetches, hconnections, hattempts.symm⟩

/-- What comes late from a connection is left out, whether there is another one by then or not. -/
example (answers : Answers) :
    (start {} false).withoutStale
        [.connect answers (.ok ()), .receive answers (.closed 0 none),
          .receive answers (.heartbeat 0), .elapse, .connect answers (.ok ()),
          .receive answers (.closed 0 (some (.httpStatus 401)))] =
      [.connect answers (.ok ()), .receive answers (.closed 0 none), .elapse,
        .connect answers (.ok ())] := by
  rfl

end FeatureFlags.Streaming
