import FeatureFlags.Tracker
import Mathlib.Data.List.Induction
import Mathlib.Data.List.Nodup
import Mathlib.Data.List.TakeWhile

/-!
A log of the comings and goings of listeners, of the broadcasts that began and of the calls that were
made. The log tells who listens, and from that what each listener has to hear: the broadcasts of its
kind that began while it listened.
-/
namespace FeatureFlags

namespace Listening

inductive Topic where
  | source
  | store
  deriving DecidableEq

inductive Notice where
  | source (status : Status)
  | store (status : StoreStatus)
  deriving DecidableEq

def Notice.topic : Notice → Topic
  | .source _ => .source
  | .store _ => .store

inductive Moment where
  | added (topic : Topic) (id : Nat)
  /-- A removal, and its answer. -/
  | removed (id : Nat) (wasThere : Bool)
  | began (notice : Notice)
  | called (id : Nat) (notice : Notice)
  deriving DecidableEq

namespace Moment

def addition? : Moment → Option Nat
  | .added _ id => some id
  | .removed .. | .began _ | .called .. => none

def beginning? : Moment → Option Notice
  | .began notice => some notice
  | .added .. | .removed .. | .called .. => none

def call? : Moment → Option (Nat × Notice)
  | .called id notice => some (id, notice)
  | .added .. | .removed .. | .began _ => none

def leaves (topic : Topic) (id : Nat) (listening : Bool) : Moment → Bool
  | .added t i => listening || (t == topic && i == id)
  | .removed i _ => listening && i != id
  | .began _ | .called .. => listening

theorem leaves_iff (topic : Topic) (id : Nat) (listening : Bool) (moment : Moment) :
    moment.leaves topic id listening = true ↔
      moment = .added topic id ∨
        listening = true ∧ ∀ wasThere, moment ≠ .removed id wasThere := by
  cases moment <;> simp [leaves, or_comm]

end Moment

def registered (log : List Moment) : List Nat := log.filterMap Moment.addition?

def broadcasts (log : List Moment) : List Notice := log.filterMap Moment.beginning?

def calls (log : List Moment) : List (Nat × Notice) := log.filterMap Moment.call?

/-- The calls of a broadcast that has just begun, which are those before the next one begins. -/
def callsOfBroadcast (after : List Moment) : List (Nat × Notice) :=
  calls (after.takeWhile fun moment => moment.beginning?.isNone)

def isListening (topic : Topic) (id : Nat) (log : List Moment) : Bool :=
  log.foldl (Moment.leaves topic id) false

def listening (topic : Topic) (log : List Moment) : List Nat :=
  (registered log).filter fun id => isListening topic id log

def heardBy (id : Nat) (log : List Moment) : List Notice :=
  ((calls log).filter (·.1 == id)).map (·.2)

/-- What a listener has to hear of what happens next: each broadcast that begins while it listens. -/
def dueAfter (id : Nat) (past : List Moment) : List Moment → List Notice
  | [] => []
  | .began notice :: rest =>
    if isListening notice.topic id past then
      notice :: dueAfter id (past ++ [.began notice]) rest
    else dueAfter id (past ++ [.began notice]) rest
  | moment :: rest => dueAfter id (past ++ [moment]) rest

theorem registered_append (log segment : List Moment) :
    registered (log ++ segment) = registered log ++ registered segment := List.filterMap_append

theorem broadcasts_append (log segment : List Moment) :
    broadcasts (log ++ segment) = broadcasts log ++ broadcasts segment := List.filterMap_append

theorem broadcasts_ne_nil (before : List Moment) (notice : Notice) (after : List Moment) :
    broadcasts (before ++ .began notice :: after) ≠ [] := by
  simp [broadcasts, Moment.beginning?]

theorem calls_append (log segment : List Moment) :
    calls (log ++ segment) = calls log ++ calls segment := List.filterMap_append

theorem heardBy_append (id : Nat) (log segment : List Moment) :
    heardBy id (log ++ segment) = heardBy id log ++ heardBy id segment := by
  simp [heardBy, calls_append]

/-- Who listens after one more thing has happened. -/
theorem isListening_concat (topic : Topic) (id : Nat) (log : List Moment) (moment : Moment) :
    isListening topic id (log ++ [moment]) = moment.leaves topic id (isListening topic id log) := by
  simp [isListening]

/-- An element of a list that was put together stands in the one part or in the other. -/
theorem split_of_append_eq {α : Type} {log segment before after : List α} {x : α}
    (h : log ++ segment = before ++ x :: after) :
    (∃ rest, log = before ++ x :: rest ∧ after = rest ++ segment) ∨
      ∃ rest, before = log ++ rest ∧ segment = rest ++ x :: after := by
  obtain hlate | ⟨early, hlog, hsegment⟩ := List.append_eq_append_iff.mp h
  · exact .inr hlate
  · cases early with
    | nil => exact .inr ⟨[], by simpa using hlog.symm, hsegment.symm⟩
    | cons first rest =>
      obtain ⟨rfl, hafter⟩ := List.cons.inj hsegment
      exact .inl ⟨rest, hlog, hafter⟩

/-- Who listens was added, and was not removed since. -/
theorem isListening_iff (topic : Topic) (id : Nat) (log : List Moment) :
    isListening topic id log = true ↔
      ∃ before after, log = before ++ .added topic id :: after ∧
        ∀ wasThere, .removed id wasThere ∉ after := by
  induction log using List.reverseRecOn with
  | nil => simp [isListening]
  | append_singleton log moment ih =>
    rw [isListening_concat, Moment.leaves_iff, ih]
    constructor
    · rintro (rfl | ⟨⟨before, after, rfl, hafter⟩, hmoment⟩)
      · exact ⟨log, [], rfl, fun _ => List.not_mem_nil⟩
      · refine ⟨before, after ++ [moment], by simp, fun wasThere hmem => ?_⟩
        rw [List.mem_append, List.mem_singleton] at hmem
        exact hmem.elim (hafter wasThere) fun heq => hmoment wasThere heq.symm
    · rintro ⟨before, after, hlog, hafter⟩
      obtain ⟨rest, rfl, rfl⟩ | ⟨rest, rfl, hmoment⟩ := split_of_append_eq hlog
      · refine .inr ⟨⟨before, rest, rfl, fun wasThere hmem => ?_⟩, ?_⟩
        · exact hafter wasThere (List.mem_append_left _ hmem)
        · rintro wasThere rfl
          exact hafter wasThere (by simp)
      · cases rest with
        | nil => exact .inl (List.cons.inj hmoment).1
        | cons first rest => simp at hmoment

/-- Who listens was registered. -/
theorem mem_registered_of_isListening {topic : Topic} {id : Nat} {log : List Moment}
    (h : isListening topic id log = true) : id ∈ registered log := by
  obtain ⟨before, after, rfl, -⟩ := (isListening_iff topic id log).mp h
  simp [registered, Moment.addition?]

theorem mem_listening {topic : Topic} {id : Nat} {log : List Moment} :
    id ∈ listening topic log ↔ isListening topic id log = true := by
  rw [listening, List.mem_filter]
  exact ⟨fun h => h.2, fun h => ⟨mem_registered_of_isListening h, h⟩⟩

/-- Who has been given a new identifier listens last. -/
theorem listening_added {topic : Topic} {id : Nat} {log : List Moment} (hnew : id ∉ registered log)
    (other : Topic) :
    listening other (log ++ [.added topic id]) =
      listening other log ++ if topic = other then [id] else [] := by
  have hold : ∀ i ∈ registered log,
      isListening other i (log ++ [.added topic id]) = isListening other i log := by
    intro i hi
    have hne : id ≠ i := fun heq => hnew (heq ▸ hi)
    simp [isListening_concat, Moment.leaves, hne]
  have hfresh : isListening other id log = false := by
    rw [← Bool.not_eq_true]
    exact fun h => hnew (mem_registered_of_isListening h)
  have hregistered : registered (log ++ [.added topic id]) = registered log ++ [id] :=
    registered_append log _
  rw [listening, hregistered, List.filter_append, List.filter_congr hold]
  congr 1
  by_cases htopic : topic = other <;>
    simp [isListening_concat, Moment.leaves, hfresh, htopic]

theorem nodup_listening {log : List Moment} (h : (registered log).Nodup) (topic : Topic) :
    (listening topic log).Nodup := h.filter _

/-- A removal takes one listener out and leaves the order of the others. -/
theorem listening_removed {log : List Moment} (hnodup : (registered log).Nodup) (id : Nat)
    (wasThere : Bool) (topic : Topic) :
    listening topic (log ++ [.removed id wasThere]) = (listening topic log).erase id := by
  have hregistered : registered (log ++ [.removed id wasThere]) = registered log := by
    simp [registered, Moment.addition?]
  rw [(nodup_listening hnodup topic).erase_eq_filter, listening, hregistered, listening,
    List.filter_filter]
  refine List.filter_congr fun i _ => ?_
  rw [isListening_concat, Moment.leaves, Bool.and_comm, bne_comm]

/-- The broadcasts of a log called those who listened when they began, and nobody else. -/
structure Faithful (log : List Moment) : Prop where
  called : ∀ before notice after, log = before ++ .began notice :: after →
    callsOfBroadcast after = (listening notice.topic before).map fun id => (id, notice)
  heard : ∀ id, heardBy id log = dueAfter id [] log

theorem callsOfBroadcast_of_silent {segment : List Moment} (h : broadcasts segment = []) :
    callsOfBroadcast segment = calls segment := by
  rw [callsOfBroadcast, List.takeWhile_eq_self_iff.mpr]
  simpa [broadcasts] using h

theorem callsOfBroadcast_append {after segment : List Moment} (h : callsOfBroadcast segment = []) :
    callsOfBroadcast (after ++ segment) = callsOfBroadcast after := by
  rw [callsOfBroadcast, List.takeWhile_append]
  split
  · next hall =>
    rw [calls_append, ← callsOfBroadcast, h, List.append_nil, callsOfBroadcast,
      (List.takeWhile_prefix _).eq_of_length hall]
  · rfl

/-- What is due splits where the log does. -/
theorem dueAfter_append (id : Nat) (past log segment : List Moment) :
    dueAfter id past (log ++ segment) =
      dueAfter id past log ++ dueAfter id (past ++ log) segment := by
  induction log generalizing past with
  | nil => simp [dueAfter]
  | cons moment rest ih =>
    cases moment with
    | began notice =>
      simp only [List.cons_append, dueAfter, ih]
      split <;> simp
    | added | removed | called => simp [dueAfter, ih]

theorem dueAfter_of_silent (id : Nat) (past : List Moment) {segment : List Moment}
    (h : broadcasts segment = []) : dueAfter id past segment = [] := by
  induction segment generalizing past with
  | nil => rfl
  | cons moment rest ih =>
    cases moment with
    | began notice => simp [broadcasts, Moment.beginning?] at h
    | added | removed | called => exact ih _ h

/-- Of one broadcast each listener in the audience hears once. -/
theorem heardBy_of_calls (id : Nat) {segment : List Moment} {audience : List Nat} {notice : Notice}
    (hnodup : audience.Nodup) (h : calls segment = audience.map fun i => (i, notice)) :
    heardBy id segment = if id ∈ audience then [notice] else [] := by
  have hmember : audience.filter (· == id) = if id ∈ audience then [id] else [] := by
    rw [List.filter_beq, hnodup.count]
    split <;> rfl
  rw [heardBy, h, List.filter_map, List.map_map]
  change List.map _ (audience.filter (· == id)) = _
  rw [hmember]
  split <;> rfl

namespace Faithful

variable {log segment : List Moment}

/-- Where nothing begins and nobody is called, nothing has to be heard. -/
theorem append_silent (h : Faithful log) (hbegan : broadcasts segment = [])
    (hcalls : calls segment = []) : Faithful (log ++ segment) := by
  have hnone : callsOfBroadcast segment = [] := (callsOfBroadcast_of_silent hbegan).trans hcalls
  constructor
  · intro before notice after hsplit
    obtain ⟨rest, rfl, rfl⟩ | ⟨rest, -, hlate⟩ := split_of_append_eq hsplit
    · rw [callsOfBroadcast_append hnone, h.called before notice rest rfl]
    · rw [hlate] at hbegan
      exact absurd hbegan (broadcasts_ne_nil rest notice after)
  · intro id
    rw [heardBy_append, dueAfter_append, h.heard, dueAfter_of_silent id _ hbegan, heardBy, hcalls]
    rfl

/-- A broadcast to those who listen when it begins. -/
theorem append_broadcast (h : Faithful log) (hnodup : (registered log).Nodup) (notice : Notice)
    (hbegan : broadcasts segment = [])
    (hcalls : calls segment = (listening notice.topic log).map fun id => (id, notice)) :
    Faithful (log ++ .began notice :: segment) := by
  constructor
  · intro before other after hsplit
    obtain ⟨rest, rfl, rfl⟩ | ⟨rest, rfl, hlate⟩ := split_of_append_eq hsplit
    · have hnone : callsOfBroadcast (.began notice :: segment) = [] := by
        simp [callsOfBroadcast, Moment.beginning?, calls]
      rw [callsOfBroadcast_append hnone, h.called before other rest rfl]
    · cases rest with
      | nil =>
        obtain ⟨hnotice, rfl⟩ := List.cons.inj hlate
        obtain rfl := Moment.began.inj hnotice
        rw [callsOfBroadcast_of_silent hbegan, hcalls, List.append_nil]
      | cons first rest =>
        rw [List.cons_append] at hlate
        rw [(List.cons.inj hlate).2] at hbegan
        exact absurd hbegan (broadcasts_ne_nil rest other after)
  · intro id
    have hheard := heardBy_of_calls id (nodup_listening hnodup notice.topic) hcalls
    have hone : heardBy id (.began notice :: segment) = heardBy id segment := rfl
    rw [heardBy_append, dueAfter_append, h.heard, hone, hheard, List.nil_append, dueAfter,
      dueAfter_of_silent id _ hbegan, if_congr mem_listening rfl rfl]

end Faithful

end Listening

end FeatureFlags
