import FeatureFlags.Proofs.EventLines

/-!
Event streams that are cut off. A connection may be lost at any byte, within a line end or within a
character as well, and the line that was begun is read as if it ended there. It gives an event only
if it is empty, which is so of no part of a line but a carriage return before its line feed; and then
the whole line is empty too. So no event is read that is not in the whole stream.
-/
namespace FeatureFlags.EventStream

/-- Carriage returns stand only right before line feeds. -/
def ReturnsBeforeFeeds : List UInt8 → Prop
  | [] => True
  | byte :: rest => (byte = 13 → rest.head? = some 10) ∧ ReturnsBeforeFeeds rest

instance decidableReturnsBeforeFeeds :
    (bytes : List UInt8) → Decidable (ReturnsBeforeFeeds bytes)
  | [] => .isTrue trivial
  | byte :: rest =>
      have := decidableReturnsBeforeFeeds rest
      inferInstanceAs (Decidable ((byte = 13 → rest.head? = some 10) ∧ ReturnsBeforeFeeds rest))

theorem ReturnsBeforeFeeds.of_append {first second : List UInt8}
    (h : ReturnsBeforeFeeds (first ++ second)) : ReturnsBeforeFeeds second := by
  induction first with
  | nil => exact h
  | cons byte rest ih => exact ih h.2

def untilFailure {α : Type} : List (Except Failure α) → List α
  | .ok value :: rest => value :: untilFailure rest
  | .error _ :: _ => []
  | [] => []

theorem untilFailure_append_mono {α : Type} (common : List (Except Failure α))
    {first second : List (Except Failure α)} (h : untilFailure first <+: untilFailure second) :
    untilFailure (common ++ first) <+: untilFailure (common ++ second) := by
  induction common with
  | nil => exact h
  | cons entry rest ih =>
    cases entry with
    | ok value => exact List.cons_prefix_cons.mpr ⟨rfl, ih⟩
    | error failure => exact List.nil_prefix

/-- What is read up to the first failure stays when more comes after it. -/
theorem untilFailure_isPrefix_append {α : Type} (first second : List (Except Failure α)) :
    untilFailure first <+: untilFailure (first ++ second) := by
  have hnone : untilFailure [] <+: untilFailure second := List.nil_prefix
  have h := untilFailure_append_mono first hnone
  rwa [List.append_nil] at h

def eventsOf (messages : List (Except Failure Message)) : List (Except Failure Event) :=
  messages.filterMap fun
    | .ok message => message.event?.map .ok
    | .error failure => some (.error failure)

theorem eventsOf_append (first second : List (Except Failure Message)) :
    eventsOf (first ++ second) = eventsOf first ++ eventsOf second := List.filterMap_append

theorem readEvents_eq (bytes : List UInt8) : readEvents bytes = eventsOf (read bytes) := rfl

namespace Reader

/-- Everything that is read of the bytes with which a stream ends. -/
def toEnd (r : Reader) (bytes : List UInt8) : List (Except Failure Message) :=
  (r.lines (splitLines bytes).1).2 ++
    Partial.finish ⟨(r.lines (splitLines bytes).1).1, (splitLines bytes).2⟩

/-- The lines that are ended are read as they are, and the one that was begun goes on. -/
theorem toEnd_append (r : Reader) (first second : List UInt8) :
    r.toEnd (first ++ second) = (r.lines (splitLines first).1).2 ++
      (r.lines (splitLines first).1).1.toEnd ((splitLines first).2 ++ second) := by
  simp only [toEnd]
  rw [splitLines_append, lines_append, List.append_assoc]

theorem toEnd_of_not_mem (r : Reader) {bytes : List UInt8} (h : 10 ∉ bytes) (hne : bytes ≠ []) :
    r.toEnd bytes = (r.line bytes).2.toList := by
  rw [toEnd, splitLines_of_not_mem h]
  exact if_neg hne

/-- One line at a time, to the end of the stream. -/
theorem toEnd_line (r : Reader) {line : List UInt8} (h : 10 ∉ line) (rest : List UInt8) :
    r.toEnd (line ++ 10 :: rest) = (r.line line).2.toList ++ (r.line line).1.toEnd rest := by
  rw [toEnd, splitLines_line h, toEnd, ← List.append_assoc]
  rfl

/-- A line that gives an event is made of nothing but what ends a line. -/
theorem mem_of_line_eq_event {r : Reader} {bytes : List UInt8} {event : Event}
    (h : (r.line bytes).2 = some (.ok (.event event))) : ∀ byte ∈ bytes, byte = 10 ∨ byte = 13 := by
  unfold line at h
  cases htext : String.fromUTF8? bytes.toByteArray with
  | none =>
    rw [htext] at h
    cases h
  | some text =>
    rw [htext] at h
    have hmessage : (r.text (dropLineEnd text.toList)).2 = some (.event event) := by
      obtain ⟨message, hmessage, heq⟩ := Option.map_eq_some_iff.mp h
      rw [hmessage, Except.ok.inj heq]
    have hempty : dropLineEnd text.toList = [] := by
      by_contra hne
      exact text_of_ne_nil hne event hmessage
    intro byte hbyte
    rw [eq_utf8_of_fromUTF8? htext, utf8_eq_flatMap] at hbyte
    obtain ⟨c, hc, hbyte⟩ := List.mem_flatMap.mp hbyte
    have hend := dropLineEnd_eq_nil_iff.mp hempty c hc
    simp only [isLineEnd, Bool.or_eq_true, beq_iff_eq] at hend
    rcases hend with rfl | rfl
    · exact .inl (List.mem_singleton.mp hbyte)
    · exact .inr (List.mem_singleton.mp hbyte)

/-- What is begun and gives an event ends in the whole stream at once. -/
theorem eq_of_line_eq_event {r : Reader} {begun second : List UInt8} {event : Event}
    (hreturns : ReturnsBeforeFeeds (begun ++ second)) (hbegun : 10 ∉ begun) (hne : begun ≠ [])
    (h : (r.line begun).2 = some (.ok (.event event))) :
    ∃ rest, begun = [13] ∧ second = 10 :: rest := by
  have hreturn : ∀ byte ∈ begun, byte = 13 := fun byte hmem =>
    (mem_of_line_eq_event h byte hmem).resolve_left fun heq => hbegun (heq ▸ hmem)
  obtain ⟨byte, begun, rfl⟩ := List.exists_cons_of_ne_nil hne
  obtain rfl := hreturn byte List.mem_cons_self
  have hhead : (begun ++ second).head? = some 10 := hreturns.1 rfl
  cases begun with
  | nil =>
    obtain ⟨rest, hrest⟩ := List.head?_eq_some_iff.mp hhead
    exact ⟨rest, rfl, hrest⟩
  | cons next begun =>
    obtain rfl := Option.some.inj hhead
    exact absurd (List.mem_cons_of_mem 13 List.mem_cons_self) hbegun

/-- A line that was cut off tells nothing that the whole line would not have told. -/
theorem toEnd_begun_isPrefix (r : Reader) {begun second : List UInt8}
    (hreturns : ReturnsBeforeFeeds (begun ++ second)) (hbegun : 10 ∉ begun) :
    untilFailure (eventsOf (r.toEnd begun)) <+:
      untilFailure (eventsOf (r.toEnd (begun ++ second))) := by
  by_cases hne : begun = []
  · subst hne
    exact List.nil_prefix
  · rw [r.toEnd_of_not_mem hbegun hne]
    cases hline : (r.line begun).2 with
    | none => exact List.nil_prefix
    | some read =>
      cases read with
      | error failure => exact List.nil_prefix
      | ok message =>
        cases message with
        | comment text => exact List.nil_prefix
        | event event =>
          obtain ⟨rest, rfl, rfl⟩ := eq_of_line_eq_event hreturns hbegun hne hline
          rw [r.toEnd_line hbegun, hline]
          exact List.cons_prefix_cons.mpr ⟨rfl, List.nil_prefix⟩

end Reader

theorem read_eq_toEnd (bytes : List UInt8) : read bytes = ({} : Reader).toEnd bytes := rfl

/-- Whatever part of a stream arrives, and whether it ends there in order or fails, the events read
of it are those that the whole stream begins with. -/
theorem cut_events_isPrefix {bytes : List UInt8} (hreturns : ReturnsBeforeFeeds bytes) (n : Nat) :
    untilFailure (readEvents (bytes.take n)) <+: untilFailure (readEvents bytes) ∧
      untilFailure (eventsOf (({} : Partial).receive (bytes.take n)).2) <+:
        untilFailure (readEvents bytes) := by
  obtain ⟨first, second, hfirst, rfl⟩ : ∃ first second, bytes.take n = first ∧
      bytes = first ++ second := ⟨_, _, rfl, (List.take_append_drop n bytes).symm⟩
  rw [hfirst]
  have hcut := ({} : Reader).toEnd_append first []
  rw [List.append_nil, List.append_nil] at hcut
  rw [readEvents_eq, readEvents_eq, read_eq_toEnd, read_eq_toEnd, hcut, Reader.toEnd_append,
    eventsOf_append, eventsOf_append]
  have hsuffix : ReturnsBeforeFeeds ((splitLines first).2 ++ second) := by
    rw [← splitLines_join first, List.append_assoc] at hreturns
    exact hreturns.of_append
  exact ⟨untilFailure_append_mono _ (Reader.toEnd_begun_isPrefix _ hsuffix (not_mem_begun first)),
    untilFailure_isPrefix_append _ _⟩

/-- Two events, of which the first is ended by an empty line with both characters of a line end. -/
def twoEvents : List UInt8 := utf8 "data: a\r\n\r\nevent: put\r\ndata: b\r\n\r\n"

/-- Cut within the line end, the stream has given the first event. -/
theorem cut_within_line_end :
    ReturnsBeforeFeeds twoEvents ∧ twoEvents.take 10 = utf8 "data: a\r\n\r" ∧
      readEvents (twoEvents.take 10) = [.ok ⟨defaultName, "a", none⟩] ∧
      untilFailure (readEvents (twoEvents.take 10)) <+: untilFailure (readEvents twoEvents) := by
  have hreturns : ReturnsBeforeFeeds twoEvents := by decide
  exact ⟨hreturns, rfl, rfl, (cut_events_isPrefix hreturns 10).1⟩

end FeatureFlags.EventStream
