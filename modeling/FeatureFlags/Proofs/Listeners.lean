import FeatureFlags.Proofs.ListenerLog

/-!
Who hears what. Listeners come and go, also while a broadcast is under way: one that is called may
add and remove listeners of either kind. Whatever they do, a broadcast reaches those who listened
when it began, and what is done meanwhile counts for the broadcasts after it.
-/
namespace FeatureFlags

namespace Listening

inductive Change where
  | add (topic : Topic)
  | remove (id : Nat)
  deriving DecidableEq

inductive Operation where
  | report (state : SourceState) (failure : Option FailureInfo)
  | reportStore (status : StoreStatus)
  | change (change : Change)
  deriving DecidableEq

/-- What is done to the listeners during a broadcast, given all that happened so far: by the listener
that was called last, or by others before the first one is called. -/
abbrev Conduct := List Moment → List Change

def Topic.listeners (t : Tracker) : Topic → List Nat
  | .source => t.statusListeners
  | .store => t.storeListeners

def Topic.register (t : Tracker) : Topic → Tracker × Nat
  | .source => t.addStatusListener
  | .store => t.addStoreListener

/-- A tracker, with all that happened to its listeners. -/
structure Session where
  tracker : Tracker := {}
  log : List Moment := []

namespace Session

def note (s : Session) (moment : Moment) : Session := { s with log := s.log ++ [moment] }

def change (s : Session) : Change → Session
  | .add topic =>
    let (tracker, id) := topic.register s.tracker
    { s with tracker }.note (.added topic id)
  | .remove id =>
    let (tracker, wasThere) := s.tracker.removeListener id
    { s with tracker }.note (.removed id wasThere)

variable (conduct : Conduct)

def meanwhile (s : Session) : Session := (conduct s.log).foldl change s

def call (notice : Notice) (id : Nat) (s : Session) : Session :=
  (s.note (.called id notice)).meanwhile conduct

def tell (notice : Notice) (audience : List Nat) (s : Session) : Session :=
  Tracker.broadcast (call conduct notice) audience ((s.note (.began notice)).meanwhile conduct)

def step (s : Session) : Operation → Session
  | .report state failure =>
    let told := { s with tracker := s.tracker.update state failure }
    if s.tracker.isEffective state failure then
      told.tell conduct (.source told.tracker.status) (s.tracker.audience state failure)
    else told
  | .reportStore status =>
    let told := { s with tracker := s.tracker.updateStore status }
    if s.tracker.storeStatus = status then told
    else told.tell conduct (.store status) (s.tracker.storeAudience status)
  | .change change => s.change change

def run (operations : List Operation) : Session := operations.foldl (step conduct) {}

end Session

def apply (t : Tracker) : Operation → Tracker
  | .report state failure => t.update state failure
  | .reportStore status => t.updateStore status
  | .change _ => t

/-- The broadcast an operation leads to. A report is heard if the source was not off before, and if
it brings a new state or a failure. A status of the store is heard if it is another one. -/
def notice? (t : Tracker) : Operation → Option Notice
  | .report state failure =>
    let status := (t.update state failure).status
    if t.status.state ≠ .off ∧ (status.state ≠ t.status.state ∨ failure.isSome) then
      some (.source status)
    else none
  | .reportStore status => if status ≠ t.storeStatus then some (.store status) else none
  | .change _ => none

def effective (t : Tracker) : List Operation → List Notice
  | [] => []
  | operation :: rest => (notice? t operation).toList ++ effective (apply t operation) rest

def unheard (t : Tracker) : Tracker :=
  { t with statusListeners := [], storeListeners := [], nextListener := 0 }

theorem update_unheard (t : Tracker) (state : SourceState) (failure : Option FailureInfo) :
    (unheard t).update state failure = unheard (t.update state failure) := by
  simp only [Tracker.update]
  rw [apply_ite unheard]
  rfl

theorem apply_unheard (t : Tracker) (operation : Operation) :
    apply (unheard t) operation = unheard (apply t operation) := by
  cases operation with
  | report state failure => exact update_unheard t state failure
  | reportStore | change => rfl

/-- Whether a broadcast begins does not depend on who listens. -/
theorem notice?_unheard (t : Tracker) (operation : Operation) :
    notice? (unheard t) operation = notice? t operation := by
  cases operation with
  | report state failure =>
    simp only [notice?, update_unheard]
    rfl
  | reportStore | change => rfl

theorem listeners_register (t : Tracker) (topic other : Topic) :
    other.listeners (topic.register t).1 =
      other.listeners t ++ if topic = other then [t.nextListener] else [] := by
  cases topic <;> cases other <;> simp [Topic.register, Topic.listeners, Tracker.addStatusListener,
    Tracker.addStoreListener]

theorem register_id (t : Tracker) (topic : Topic) :
    (topic.register t).2 = t.nextListener ∧
      (topic.register t).1.nextListener = t.nextListener + 1 := by
  cases topic <;> exact ⟨rfl, rfl⟩

theorem listeners_removeListener (t : Tracker) (topic : Topic) (id : Nat) :
    topic.listeners (t.removeListener id).1 = (topic.listeners t).erase id := by
  cases topic <;> rfl

theorem removeListener_answer (t : Tracker) (id : Nat) :
    (t.removeListener id).2 =
      ((Topic.listeners t .source).contains id || (Topic.listeners t .store).contains id) := rfl

/-- Reports touch no listeners. -/
theorem listeners_apply (t : Tracker) (operation : Operation) :
    (∀ topic : Topic, topic.listeners (apply t operation) = topic.listeners t) ∧
      (apply t operation).nextListener = t.nextListener := by
  cases operation with
  | report state failure =>
    obtain ⟨hstatus, hstore, hnext⟩ := t.update_listeners state failure
    refine ⟨fun topic => ?_, hnext⟩
    cases topic with
    | source => exact hstatus
    | store => exact hstore
  | reportStore status => exact ⟨fun topic => by cases topic <;> rfl, rfl⟩
  | change change => exact ⟨fun _ => rfl, rfl⟩

namespace Session

/-- The tracker is what the log tells, and removals were answered by what the log told then. -/
structure Accurate (s : Session) : Prop where
  numbered : registered s.log = List.range s.tracker.nextListener
  listeners : ∀ topic : Topic, topic.listeners s.tracker = listening topic s.log
  answers : ∀ before id wasThere after, s.log = before ++ .removed id wasThere :: after →
    wasThere = (isListening .source id before || isListening .store id before)

variable {s : Session}

theorem Accurate.nodup (hs : s.Accurate) : (registered s.log).Nodup := by
  rw [hs.numbered]
  exact List.nodup_range

theorem Accurate.fresh (hs : s.Accurate) : s.tracker.nextListener ∉ registered s.log := by
  rw [hs.numbered]
  exact List.not_mem_range_self

theorem Accurate.answers_concat (hs : s.Accurate) {moment : Moment}
    (h : ∀ id wasThere, moment = .removed id wasThere →
      wasThere = (isListening .source id s.log || isListening .store id s.log))
    (before : List Moment) (id : Nat) (wasThere : Bool) (after : List Moment)
    (hlog : s.log ++ [moment] = before ++ .removed id wasThere :: after) :
    wasThere = (isListening .source id before || isListening .store id before) := by
  obtain ⟨rest, hold, -⟩ | ⟨rest, rfl, hnew⟩ := split_of_append_eq hlog
  · exact hs.answers before id wasThere rest hold
  · cases rest with
    | nil =>
      rw [List.append_nil]
      exact h id wasThere (List.cons.inj hnew).1
    | cons first rest => simp at hnew

/-- Registering and removing keep the tracker and the log in accord. -/
theorem accurate_change (hs : s.Accurate) (change : Change) : (s.change change).Accurate := by
  cases change with
  | add topic =>
    have hid := register_id s.tracker topic
    have hlog : (s.change (.add topic)).log =
        s.log ++ [.added topic s.tracker.nextListener] := by
      change s.log ++ [.added topic (topic.register s.tracker).2] = _
      rw [hid.1]
    refine ⟨?_, fun other => ?_, ?_⟩
    · change _ = List.range (topic.register s.tracker).1.nextListener
      rw [hlog, hid.2, registered_append, hs.numbered, List.range_succ]
      rfl
    · change other.listeners (topic.register s.tracker).1 = _
      rw [hlog, listeners_register, hs.listeners, listening_added hs.fresh]
    · rw [hlog]
      exact hs.answers_concat fun _ _ => Moment.noConfusion
  | remove id =>
    have hanswer : (s.tracker.removeListener id).2 =
        (isListening .source id s.log || isListening .store id s.log) := by
      rw [removeListener_answer, hs.listeners, hs.listeners, Bool.eq_iff_iff]
      simp only [Bool.or_eq_true, List.contains_iff_mem, mem_listening]
    refine ⟨?_, fun topic => ?_, hs.answers_concat ?_⟩
    · change registered (s.log ++ [_]) = _
      rw [registered_append, hs.numbered]
      exact List.append_nil _
    · change topic.listeners (s.tracker.removeListener id).1 = listening topic (s.log ++ [_])
      rw [listeners_removeListener, hs.listeners, listening_removed hs.nodup]
    · rintro i wasThere heq
      obtain ⟨rfl, rfl⟩ := Moment.removed.inj heq
      exact hanswer

/-- Beginnings and calls change no listeners. -/
theorem accurate_note (hs : s.Accurate) {moment : Moment} (hadd : moment.addition? = none)
    (hremove : ∀ id wasThere, moment ≠ .removed id wasThere) : (s.note moment).Accurate := by
  have hregistered : registered (s.log ++ [moment]) = registered s.log := by
    simp [registered, hadd]
  have hlistening (topic : Topic) (id : Nat) :
      isListening topic id (s.log ++ [moment]) = isListening topic id s.log := by
    rw [isListening_concat]
    cases moment with
    | added => simp [Moment.addition?] at hadd
    | removed id wasThere => exact absurd rfl (hremove id wasThere)
    | began | called => rfl
  refine ⟨hregistered.trans hs.numbered, fun topic => (hs.listeners topic).trans ?_,
    hs.answers_concat fun id wasThere heq => absurd heq (hremove id wasThere)⟩
  change _ = listening topic (s.log ++ [moment])
  simp only [listening, hregistered, hlistening]

/-- What comes of a session while no broadcast begins, with the calls that are made. -/
structure Follows (s s' : Session) (made : List (Nat × Notice)) : Prop where
  log : ∃ segment, s'.log = s.log ++ segment ∧ broadcasts segment = [] ∧ calls segment = made
  accurate : s.Accurate → s'.Accurate
  unheard : unheard s'.tracker = unheard s.tracker

theorem Follows.refl (s : Session) : s.Follows s [] :=
  ⟨⟨[], (List.append_nil _).symm, rfl, rfl⟩, id, rfl⟩

theorem Follows.trans {s₁ s₂ s₃ : Session} {made more : List (Nat × Notice)}
    (h : s₁.Follows s₂ made) (h' : s₂.Follows s₃ more) : s₁.Follows s₃ (made ++ more) := by
  obtain ⟨segment, hlog, hbegan, hcalls⟩ := h.log
  obtain ⟨segment', hlog', hbegan', hcalls'⟩ := h'.log
  refine ⟨⟨segment ++ segment', ?_, ?_, ?_⟩, h'.accurate ∘ h.accurate, h'.unheard.trans h.unheard⟩
  · rw [hlog', hlog, List.append_assoc]
  · rw [broadcasts_append, hbegan, hbegan', List.append_nil]
  · rw [calls_append, hcalls, hcalls']

theorem follows_change (s : Session) (change : Change) : s.Follows (s.change change) [] := by
  refine ⟨?_, fun hs => accurate_change hs change, ?_⟩
  · cases change <;> exact ⟨_, rfl, rfl, rfl⟩
  · obtain ⟨_ | _⟩ | _ := change <;> rfl

theorem follows_changes (s : Session) (changes : List Change) :
    s.Follows (changes.foldl Session.change s) [] := by
  induction changes generalizing s with
  | nil => exact .refl s
  | cons change rest ih => exact (follows_change s change).trans (ih _)

variable (conduct : Conduct)

theorem follows_call (notice : Notice) (id : Nat) (s : Session) :
    s.Follows (s.call conduct notice id) [(id, notice)] := by
  have hnote : s.Follows (s.note (.called id notice)) [(id, notice)] :=
    ⟨⟨[.called id notice], rfl, rfl, rfl⟩,
      fun hs => accurate_note hs rfl fun _ _ => Moment.noConfusion, rfl⟩
  exact hnote.trans (follows_changes _ _)

/-- Those who are to hear of it are called one after another, whatever they do. -/
theorem follows_calls (notice : Notice) (audience : List Nat) (s : Session) :
    s.Follows (Tracker.broadcast (call conduct notice) audience s)
      (audience.map fun id => (id, notice)) := by
  induction audience generalizing s with
  | nil => exact .refl s
  | cons id rest ih =>
    -- The rest of the audience stands, whatever this one does to the listeners.
    exact (follows_call conduct notice id s).trans (ih _)

/-- A broadcast calls its audience one after another, whatever they do. -/
theorem follows_tell (notice : Notice) (audience : List Nat) (s : Session) :
    (s.note (.began notice)).Follows (s.tell conduct notice audience)
      (audience.map fun id => (id, notice)) :=
  (follows_changes _ _).trans (follows_calls conduct notice audience _)

def told (s : Session) (operation : Operation) : Session :=
  { s with tracker := apply s.tracker operation }

theorem accurate_told (hs : s.Accurate) (operation : Operation) : (s.told operation).Accurate := by
  obtain ⟨hlisteners, hnext⟩ := listeners_apply s.tracker operation
  refine ⟨?_, fun topic => (hlisteners topic).trans (hs.listeners topic), hs.answers⟩
  exact hs.numbered.trans (congrArg List.range hnext.symm)

/-- An operation either begins one broadcast, to those who listen, or nobody is called. -/
theorem step_follows (s : Session) (operation : Operation) :
    (notice? s.tracker operation = none ∧
        (s.told operation).Follows (s.step conduct operation) []) ∨
      ∃ notice, notice? s.tracker operation = some notice ∧
        ((s.told operation).note (.began notice)).Follows (s.step conduct operation)
          ((notice.topic.listeners s.tracker).map fun id => (id, notice)) := by
  cases operation with
  | report state failure =>
    by_cases h : s.tracker.isEffective state failure = true
    · have haudience : s.tracker.audience state failure = s.tracker.statusListeners := if_pos h
      refine .inr ⟨_, if_pos ((s.tracker.isEffective_iff state failure).mp h), ?_⟩
      simp only [step, if_pos h, haudience]
      exact follows_tell conduct _ _ _
    · refine .inl ⟨if_neg fun hnotice => h ((s.tracker.isEffective_iff state failure).mpr hnotice), ?_⟩
      simp only [step, if_neg h]
      exact .refl _
  | reportStore status =>
    by_cases h : s.tracker.storeStatus = status
    · refine .inl ⟨if_neg (not_not_intro h.symm), ?_⟩
      simp only [step, if_pos h]
      exact .refl _
    · have haudience : s.tracker.storeAudience status = s.tracker.storeListeners := if_neg h
      refine .inr ⟨_, if_pos (Ne.symm h), ?_⟩
      simp only [step, if_neg h, haudience]
      exact follows_tell conduct _ _ _
  | change change => exact .inl ⟨rfl, follows_change s change⟩

/-- So does every operation, with all that happens in its broadcast. -/
theorem accurate_step (hs : s.Accurate) (operation : Operation) :
    (s.step conduct operation).Accurate := by
  have htold := accurate_told hs operation
  obtain ⟨-, h⟩ | ⟨notice, -, h⟩ := step_follows conduct s operation
  · exact h.accurate htold
  · exact h.accurate (accurate_note htold rfl fun _ _ => Moment.noConfusion)

theorem unheard_step (s : Session) (operation : Operation) :
    unheard (s.step conduct operation).tracker = apply (unheard s.tracker) operation := by
  rw [apply_unheard]
  obtain ⟨-, h⟩ | ⟨notice, -, h⟩ := step_follows conduct s operation <;> exact h.unheard

theorem broadcasts_step (s : Session) (operation : Operation) :
    broadcasts (s.step conduct operation).log =
      broadcasts s.log ++ (notice? s.tracker operation).toList := by
  obtain ⟨hnotice, h⟩ | ⟨notice, hnotice, h⟩ := step_follows conduct s operation
  · obtain ⟨segment, hlog, hbegan, -⟩ := h.log
    rw [hlog, broadcasts_append, hbegan, hnotice]
    rfl
  · obtain ⟨segment, hlog, hbegan, -⟩ := h.log
    rw [hlog, broadcasts_append, hbegan, hnotice, List.append_nil]
    exact broadcasts_append s.log _

/-- A broadcast calls those who listened when it began, and earlier ones are not touched. -/
theorem faithful_step (hs : s.Accurate) (h : Faithful s.log) (operation : Operation) :
    Faithful (s.step conduct operation).log := by
  obtain ⟨-, hfollows⟩ | ⟨notice, -, hfollows⟩ := step_follows conduct s operation
  · obtain ⟨segment, hlog, hbegan, hcalls⟩ := hfollows.log
    rw [hlog]
    exact h.append_silent hbegan hcalls
  · obtain ⟨segment, hlog, hbegan, hcalls⟩ := hfollows.log
    have hsplit : (s.step conduct operation).log = s.log ++ .began notice :: segment := by
      rw [hlog]
      exact List.append_assoc ..
    rw [hsplit]
    exact h.append_broadcast hs.nodup notice hbegan (by rw [hcalls, hs.listeners])

theorem run_concat (earlier : List Operation) (operation : Operation) :
    run conduct (earlier ++ [operation]) = (run conduct earlier).step conduct operation := by
  simp [run]

/-- The tracker is what the log tells after any operations. -/
theorem accurate_run (operations : List Operation) : (run conduct operations).Accurate := by
  induction operations using List.reverseRecOn with
  | nil => exact ⟨rfl, fun topic => by cases topic <;> rfl, by simp [run]⟩
  | append_singleton earlier operation ih =>
    rw [run_concat]
    exact accurate_step conduct ih operation

/-- All broadcasts of a run have called the right listeners. -/
theorem faithful_run (operations : List Operation) : Faithful (run conduct operations).log := by
  induction operations using List.reverseRecOn with
  | nil => exact ⟨by simp [run], fun _ => rfl⟩
  | append_singleton earlier operation ih =>
    rw [run_concat]
    exact faithful_step conduct (accurate_run conduct earlier) ih operation

/-- The broadcasts of a run are those that its operations lead to. -/
theorem broadcasts_foldl (s : Session) (operations : List Operation) :
    broadcasts (operations.foldl (step conduct) s).log =
      broadcasts s.log ++ effective (unheard s.tracker) operations := by
  induction operations generalizing s with
  | nil => exact (List.append_nil _).symm
  | cons operation rest ih =>
    rw [List.foldl_cons, ih, broadcasts_step, unheard_step, effective, notice?_unheard,
      List.append_assoc]

/-- When the first listener is told of something, it sends the second away and has a third listen. -/
def firstReplacesSecond : Conduct := fun log =>
  match log.getLast? with
  | some (.called 0 _) => [.remove 1, .add .source]
  | _ => []

end Session

end Listening

end FeatureFlags
