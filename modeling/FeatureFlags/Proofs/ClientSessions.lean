import FeatureFlags.Client
import FeatureFlags.Proofs.SourceStart

/-!
A client whose data sources are started and closed again and again. Every source has an account of
its own, and the store follows it; but all sources report to one tracker, and off is final there. So
what the status says of a source is told by its account only as long as no source was closed before:
from the first closing on, the client is off, whatever its later sources store.
-/
namespace FeatureFlags

open Entry

namespace Replica

variable {r : Replica} {closed : Bool}

/-- Another source begins its account on the copy. -/
theorem reflects_restarted
    (h : r.tracker.status.state = if closed then .off else .initializing) :
    r.restarted.Reflects closed [] := ⟨rfl, rfl, h⟩

end Replica

/-- Whatever is entered after the closing, the source stays off. -/
theorem Polling.state_close {p : Polling} {closed : Bool} {account : List Entry}
    (hopen : p.closed = false) (h : p.replica.Reflects closed account)
    (pending : Except Failure Definitions) :
    (p.close pending).replica.tracker.status.state = .off := by
  let off : Polling := { p with replica := p.replica.report .off }
  have hclose : (p.close pending).replica = (off.respond pending).replica := by
    rw [Polling.close, if_neg (by rw [hopen]; exact Bool.false_ne_true)]
  have hoff : off.replica.Reflects true account := h.close
  rw [hclose, replica_respond]
  exact (hoff.enterAll _).state

theorem Streaming.state_close {s : Streaming} {closed : Bool} {account : List Entry}
    (hopen : s.closed = false) (h : s.replica.Reflects closed account) (answers : Answers)
    (pending : Except Failure Unit) :
    (s.close answers pending).replica.tracker.status.state = .off := by
  let off : Streaming := { s with closed := true, replica := s.replica.report .off }
  obtain ⟨rest, hrest⟩ : ∃ rest, s.close answers pending = off.acts rest := by
    refine ⟨.receive answers .stop ::
      settling answers pending (s.closing answers).inbox.length, ?_⟩
    rw [(close_eq_acts answers s pending).1, closingActions, hopen]
    simp only [Streaming.acts, Bool.false_eq_true, if_false, List.cons_append, List.nil_append,
      List.foldl_cons, Streaming.act, hopen]
    rfl
  have hoff : Streaming.Reflects off account := h.close
  have hrun := acts_induction Streaming.Reflects.act hoff rest
  rw [hrest, hrun.state, closed_acts rest rfl]
  rfl

namespace Client

namespace Source

def hasEnded : Source → Prop
  | .polling p => p.phase = .ended
  | .streaming s _ => s.phase = .ended

def isClosed : Source → Bool
  | .polling p => p.closed
  | .streaming s _ => s.closed

/-- A source that was started on a copy, is not closed, and has entered this account. -/
structure Follows (source : Source) (before : Replica) (account : List Entry) : Prop where
  replica : source.replica = before.enterAll account
  concludes : Entry.Concludes source.hasEnded account
  isOpen : source.isClosed = false

variable {before : Replica} {account : List Entry}

theorem Follows.respond {p : Polling} (h : (Source.polling p).Follows before account)
    (answer : Except Failure Definitions) :
    (Source.polling (p.respond answer)).Follows before
      (account ++ p.respondEntries answer) where
  replica := by
    have hreplica : p.replica = before.enterAll account := h.replica
    rw [Replica.enterAll_append, ← hreplica]
    exact p.replica_respond answer
  concludes := Polling.concludes_respond h.concludes answer
  isOpen := (p.closed_respond answer).trans h.isOpen

theorem Follows.rest {p : Polling} (h : (Source.polling p).Follows before account) :
    (Source.polling p.elapse).Follows before account := by
  unfold Polling.elapse
  split
  · next hresting =>
    exact ⟨h.replica, h.concludes.mono fun hended => (nomatch hresting.symm.trans hended),
      h.isOpen⟩
  · exact h

variable {s : Streaming} {opening : Http.Request} {answers : Answers}

theorem Follows.connect (h : (Source.streaming s opening).Follows before account)
    (result : Except Failure Unit) :
    (Source.streaming (s.connect answers result) opening).Follows before
      (account ++ s.connectEntries answers result) where
  replica := by
    have hreplica : s.replica = before.enterAll account := h.replica
    rw [Replica.enterAll_append, ← hreplica]
    exact s.replica_connect answers result
  concludes := Streaming.concludes_connect h.concludes result
  isOpen := (s.closed_connect answers result).trans h.isOpen

theorem Follows.receive (h : (Source.streaming s opening).Follows before account)
    (message : Streaming.Message) :
    (Source.streaming (s.receive answers message) opening).Follows before
      (account ++ s.messageEntries answers message) where
  replica := by
    have hreplica : s.replica = before.enterAll account := h.replica
    rw [Replica.enterAll_append, ← hreplica]
    exact s.replica_receive answers message
  concludes := Streaming.concludes_receive h.concludes message
  isOpen := (s.receive_frame answers message).1.trans h.isOpen

theorem Follows.delay (h : (Source.streaming s opening).Follows before account) :
    (Source.streaming s.elapse opening).Follows before account := by
  unfold Streaming.elapse
  split
  · next hdelayed =>
    exact ⟨h.replica, h.concludes.mono fun hended => (nomatch hdelayed.symm.trans hended),
      h.isOpen⟩
  · exact h

end Source

inductive Input where
  | poll (send : Http.Request → Http.Reply)
  | connect (send : Http.Request → Http.Reply) (reply : Http.Reply)
  | receive (send : Http.Request → Http.Reply) (message : Streaming.Message)
  | elapse

namespace Running

def take (r : Running) : Input → Running
  | .poll send => r.poll send
  | .connect send reply => r.connect send reply
  | .receive send message => r.receive send message
  | .elapse => r.elapse

def entries (r : Running) (input : Input) : List Entry :=
  match r.source, input with
  | .polling p, .poll send => p.respondEntries (r.service.fetchAll send).2
  | .streaming s _, .connect send reply =>
      s.connectEntries (r.service.answers send) ((Http.successOf reply).map fun _ => ())
  | .streaming s _, .receive send message => s.messageEntries (r.service.answers send) message
  | _, _ => []

variable {r : Running} {before : Replica} {account : List Entry}

/-- Whatever kind of source is started, it has entered nothing. -/
theorem follows_start {config : Config} (h : start config before = .ok r) :
    r.source.Follows before [] := by
  unfold start at h
  cases hvalidate : config.validate with
  | error failure => simp [hvalidate, bind, Except.bind] at h
  | ok _ =>
    cases hservice : Service.ofAddress config.baseUri config.sdkKey (!config.streaming) with
    | error failure => simp [hvalidate, hservice, bind, Except.bind] at h
    | ok service =>
      rw [hvalidate, hservice] at h
      change (if config.streaming then _ else _ : Except Failure Running) = _ at h
      split at h
      · cases hopening : Service.streamRequest config.streamUri config.sdkKey with
        | error failure => rw [hopening] at h; cases h
        | ok opening =>
          rw [hopening] at h
          cases h
          exact ⟨rfl, concludes_nil _, rfl⟩
      · cases h
        exact ⟨rfl, concludes_nil _, rfl⟩

theorem source_poll (send : Http.Request → Http.Reply) (service : Service) (p : Polling) :
    (poll send ⟨service, .polling p⟩).source = .polling (p.respond (service.fetchAll send).2) := by
  unfold poll
  dsimp only
  split
  · rfl
  · next hphase =>
    unfold Polling.respond
    split
    · next hfetching _ => exact absurd hfetching hphase
    · next hfetching _ => exact absurd hfetching hphase
    · rfl

/-- Whatever reaches a source, it follows its account with the lines that this enters. -/
theorem follows_take (h : r.source.Follows before account) (input : Input) :
    (r.take input).source.Follows before (account ++ r.entries input) := by
  obtain ⟨service, source⟩ := r
  cases source with
  | polling p =>
    cases input with
    | poll send =>
      rw [take, source_poll]
      exact h.respond _
    | connect send reply => exact (List.append_nil account).symm ▸ h
    | receive send message => exact (List.append_nil account).symm ▸ h
    | elapse => exact (List.append_nil account).symm ▸ h.rest
  | streaming s opening =>
    cases input with
    | poll send => exact (List.append_nil account).symm ▸ h
    | connect send reply => exact h.connect _
    | receive send message => exact h.receive message
    | elapse => exact (List.append_nil account).symm ▸ h.delay

/-- The source that was closed leaves the tracker off. -/
theorem state_close {closed : Bool} (h : r.source.Follows before account)
    (hbefore : before.Reflects closed []) (send : Http.Request → Http.Reply) :
    (r.close send).tracker.status.state = .off := by
  have hreflects : r.source.replica.Reflects closed account := by
    rw [h.replica]
    exact hbefore.enterAll account
  obtain ⟨service, source⟩ := r
  cases source with
  | polling p => exact p.state_close h.isOpen hreflects _
  | streaming s opening => exact s.state_close h.isOpen hreflects _ _

end Running

inductive Happening where
  | start
  | close (send : Http.Request → Http.Reply)
  | input (input : Input)

/-- A client, what its data source has entered since it was started, and whether one was closed
before. -/
structure Session where
  client : Client
  account : List Entry := []
  closedBefore : Bool := false

namespace Session

def step (session : Session) : Happening → Session
  | .start =>
      { session with
        client := session.client.start.1
        account := if session.client.running.isSome then session.account else [] }
  | .close send =>
      { session with
        client := session.client.close send
        closedBefore := session.closedBefore || session.client.running.isSome }
  | .input input =>
      { session with
        client := session.client.run (·.take input)
        account := session.account ++ (session.client.running.map (·.entries input)).getD [] }

def ofConfig (config : Config) (happenings : List Happening) : Session :=
  happenings.foldl step { client := { config } }

/-- A source that runs follows its account from a copy that was off if one was closed before; such
a copy waits where no source runs. -/
structure Sound (session : Session) : Prop where
  running : ∀ r, session.client.running = some r → ∃ before : Replica,
    before.Reflects session.closedBefore [] ∧ r.source.Follows before session.account
  held : session.client.running = none →
    session.client.held.restarted.Reflects session.closedBefore []

variable {session : Session}

theorem Sound.start (h : session.Sound) : (session.step .start).Sound := by
  obtain ⟨⟨config, held, running, events⟩, account, closedBefore⟩ := session
  cases running with
  | some r => exact h
  | none =>
    simp only [step, Client.start]
    cases hstart : Running.start config held.restarted with
    | error failure =>
      exact ⟨fun r hr => (nomatch hr), fun _ => h.held rfl⟩
    | ok r =>
      refine ⟨fun r' hr => ?_, fun hr => (nomatch hr)⟩
      obtain rfl : r = r' := Option.some.inj hr
      exact ⟨held.restarted, h.held rfl, Running.follows_start hstart⟩

theorem Sound.close (h : session.Sound) (send : Http.Request → Http.Reply) :
    (session.step (.close send)).Sound := by
  obtain ⟨⟨config, held, running, events⟩, account, closedBefore⟩ := session
  cases running with
  | none =>
    simp only [step, Client.close, Option.isSome_none, Bool.or_false]
    exact h
  | some r =>
    obtain ⟨before, hbefore, hfollows⟩ := h.running r rfl
    simp only [step, Client.close, Option.isSome_some, Bool.or_true]
    exact ⟨fun r' hr => (nomatch hr), fun _ =>
      Replica.reflects_restarted (Running.state_close hfollows hbefore send)⟩

theorem Sound.input (h : session.Sound) (input : Input) : (session.step (.input input)).Sound := by
  obtain ⟨⟨config, held, running, events⟩, account, closedBefore⟩ := session
  cases running with
  | none => exact ⟨fun r hr => (nomatch hr), h.held⟩
  | some r =>
    refine ⟨fun r' hr => ?_, fun hr => (nomatch hr)⟩
    obtain rfl : r.take input = r' := Option.some.inj hr
    obtain ⟨before, hbefore, hfollows⟩ := h.running r rfl
    exact ⟨before, hbefore, Running.follows_take hfollows input⟩

/-- Each thing that happens to a session keeps it sound. -/
theorem Sound.step (h : session.Sound) (happening : Happening) : (session.step happening).Sound := by
  cases happening with
  | start => exact h.start
  | close send => exact h.close send
  | input input => exact h.input input

/-- So every session that begins with a new client is sound. -/
theorem sound_ofConfig (config : Config) (happenings : List Happening) :
    (ofConfig config happenings).Sound := by
  have hbegun : ({ client := { config } } : Session).Sound :=
    ⟨fun r hr => (nomatch hr), fun _ => ⟨rfl, rfl, rfl⟩⟩
  suffices h : ∀ session : Session, session.Sound → (happenings.foldl Session.step session).Sound from
    h _ hbegun
  induction happenings with
  | nil => exact fun _ h => h
  | cons happening rest ih => exact fun session h => ih _ (h.step happening)

/-- A source whose last line is a whole dataset has it in the store, and the client is valid, unless
a source was closed before: then it is off. -/
theorem state_of_stored_dataset (config : Config) (happenings : List Happening) {r : Running}
    {earlier : List Entry} {definitions : Definitions}
    (hrunning : (ofConfig config happenings).client.running = some r)
    (hstored : (ofConfig config happenings).account = earlier ++ [.stored (.all definitions)]) :
    let session := ofConfig config happenings
    session.client.store = ⟨.ofDefinitions definitions, true⟩ ∧
      session.client.replica.tracker.status.state =
        if session.closedBefore then .off else .valid := by
  intro session
  obtain ⟨before, hbefore, hfollows⟩ := (sound_ofConfig config happenings).running r hrunning
  rw [hstored] at hfollows
  have hreplica : session.client.replica =
      before.enterAll (earlier ++ [.stored (.all definitions)]) := by
    unfold Client.replica
    rw [hrunning]
    exact hfollows.replica
  have hvalid : stateAfter (earlier ++ [.stored (.all definitions)]) = .valid :=
    (stateAfter_eq_valid_iff _).mpr
      ⟨hfollows.concludes.not_fatal_of_stored, earlier, .all definitions, rfl, .inl rfl⟩
  constructor
  · unfold Client.store
    rw [hreplica, Replica.store_enterAll, List.foldl_append]
    rfl
  · rw [hreplica, (hbefore.enterAll _).state, List.nil_append, hvalid]

def storedAll (session : Session) : Bool :=
  session.client.running.isSome && session.account.getLast?.any Entry.storesAll

theorem exists_of_storedAll {session : Session} (h : session.storedAll = true) :
    ∃ r earlier definitions, session.client.running = some r ∧
      session.account = earlier ++ [.stored (.all definitions)] := by
  obtain ⟨hrunning, hlast⟩ := Bool.and_eq_true_iff.mp h
  obtain ⟨r, hr⟩ := Option.isSome_iff_exists.mp hrunning
  obtain ⟨entry, hentry, hstores⟩ := (Option.any_eq_true _ _).mp hlast
  obtain ⟨earlier, hearlier⟩ := List.getLast?_eq_some_iff.mp hentry
  obtain ⟨definitions, rfl⟩ := (storesAll_iff entry).mp hstores
  exact ⟨r, earlier, definitions, hr, hearlier⟩

def onThisMachine : Config where
  sdkKey := "sdk-key"
  baseUri := "http://[::1]:8080"
  streamUri := "http://[::1]:8080"
  streaming := false

def answerNothing : Http.Request → Http.Reply :=
  fun _ => some { status := 200, body := some "\x7b\x7d" }

def firstSource : List Happening := [.start, .input (.poll answerNothing)]

def secondSource : List Happening := firstSource ++ .close answerNothing :: firstSource

/-- Before anything was closed the state is as the dataset makes it. -/
theorem first_source_valid :
    ∃ r earlier definitions,
      (ofConfig onThisMachine firstSource).client.running = some r ∧
      (ofConfig onThisMachine firstSource).account = earlier ++ [.stored (.all definitions)] ∧
      (ofConfig onThisMachine firstSource).client.replica.tracker.status.state = .valid := by
  have hstoredAll : (ofConfig onThisMachine firstSource).storedAll = true := by decide +kernel
  obtain ⟨r, earlier, definitions, hrunning, hstored⟩ := exists_of_storedAll hstoredAll
  obtain ⟨-, hstate⟩ := state_of_stored_dataset onThisMachine firstSource hrunning hstored
  have hfirst : (ofConfig onThisMachine firstSource).closedBefore = false := by decide +kernel
  rw [hfirst] at hstate
  exact ⟨r, earlier, definitions, hrunning, hstored, hstate⟩

/-- The source that is started after a close stores its dataset and stays off. -/
theorem second_source_off :
    ∃ r earlier definitions,
      (ofConfig onThisMachine secondSource).client.running = some r ∧
      (ofConfig onThisMachine secondSource).account = earlier ++ [.stored (.all definitions)] ∧
      (ofConfig onThisMachine secondSource).client.replica.tracker.status.state = .off := by
  have hstoredAll : (ofConfig onThisMachine secondSource).storedAll = true := by decide +kernel
  obtain ⟨r, earlier, definitions, hrunning, hstored⟩ := exists_of_storedAll hstoredAll
  exact ⟨r, earlier, definitions, hrunning, hstored, by decide +kernel⟩

end Session

end Client

end FeatureFlags
