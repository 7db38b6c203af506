import FeatureFlags.Proofs.EventLines
import Mathlib.Data.List.TakeDrop

/-!
Writing event streams, and reading them back. An event is written as lines: its id, if it is given
one, its name, its data piece by piece, and an empty line at the end. Comments may stand between any
two lines, and every line is ended in one of two ways. Whoever reads the lines hears the events that
were written, each with the last id so far, and the comments that do not stand within an event.
-/
namespace FeatureFlags.EventStream

inductive Line where
  | id (value : String)
  | name (value : String)
  | data (piece : String)
  | blank
  | comment (text : String)
  deriving DecidableEq

def fieldText (name value : String) : String := name ++ ": " ++ value

namespace Line

def text : Line → String
  | .id value => fieldText "id" value
  | .name value => fieldText "event" value
  | .data piece => fieldText "data" piece
  | .blank => ""
  | .comment text => ":" ++ text

def isComment : Line → Bool
  | .comment _ => true
  | .id _ | .name _ | .data _ | .blank => false

end Line

inductive LineEnd where
  | feed
  | returnFeed
  deriving DecidableEq

def LineEnd.text : LineEnd → String
  | .feed => "\n"
  | .returnFeed => "\r\n"

def IsOneLine (text : String) : Prop := ∀ c ∈ text.toList, isLineEnd c = false

instance (text : String) : Decidable (IsOneLine text) :=
  List.decidableBAll (isLineEnd · = false) text.toList

namespace Event

def pieces (event : Event) : List String := (event.data.toList.splitOn '\n').map String.ofList

def lines (event : Event) : List Line :=
  event.id.toList.map .id ++ [.name event.name] ++ event.pieces.map .data ++ [.blank]

/-- An event that can be written: only its data may have line feeds. -/
structure Writable (event : Event) : Prop where
  name : IsOneLine event.name
  id : ∀ value ∈ event.id, IsOneLine value ∧ '\x00' ∉ value.toList
  data : '\r' ∉ event.data.toList

end Event

/-- Lines that are those of the events, but for the comments between them. -/
structure Writes (events : List Event) (lines : List Line) : Prop where
  events : lines.filter (!·.isComment) = events.flatMap Event.lines
  comments : ∀ text, .comment text ∈ lines → IsOneLine text

def written (lines : List (Line × LineEnd)) : List UInt8 :=
  lines.flatMap fun entry => utf8 (entry.1.text ++ entry.2.text)

/-- Every event with the last id that was written at or before it. -/
def withLastIds (last : Option String) : List Event → List Event
  | [] => []
  | event :: rest =>
      { event with id := event.id.or last } :: withLastIds (event.id.or last) rest

/-- What lines let hear: the next event at every empty line, and at a comment its text, unless there
was a name or data since the last empty line. -/
def heard (pending : Bool) (events : List Event) : List Line → List Message
  | [] => []
  | .comment text :: rest =>
      if pending then heard pending events rest
      else .comment (String.ofList (Unicode.trimStart text.toList)) :: heard pending events rest
  | .blank :: rest =>
      match events with
      | event :: later => .event event :: heard false later rest
      | [] => heard false [] rest
  | .id _ :: rest => heard pending events rest
  | .name _ :: rest | .data _ :: rest => heard true events rest

/-- A line that is read as it was meant. -/
structure Line.Legible (line : Line) : Prop where
  text : IsOneLine line.text
  id : ∀ value, line = .id value → '\x00' ∉ value.toList

namespace Reader

def take (r : Reader) : Line → Reader
  | .id value => { r with lastId := some value }
  | .name value => { r with name := some value }
  | .data piece =>
      { r with data := some (match r.data with
        | some data => data ++ "\n" ++ piece
        | none => piece) }
  | .blank => r.cleared
  | .comment _ => r

def message? (r : Reader) : Line → Option Message
  | .blank => r.event?.map .event
  | .comment text =>
      if r.isPending then none else some (.comment (String.ofList (Unicode.trimStart text.toList)))
  | .id _ | .name _ | .data _ => none

theorem splitField_fieldText {name : String} (h : ':' ∉ name.toList) (value : String) :
    splitField (fieldText name value).toList = (name.toList, value.toList) := by
  have hname : ∀ c ∈ name.toList, (c != ':') = true := by
    intro c hc
    rw [bne_iff_ne]
    exact fun heq => h (heq ▸ hc)
  have hspan : (fieldText name value).toList.span (· != ':') =
      (name.toList, ':' :: ' ' :: value.toList) := by
    rw [List.span_eq_takeWhile_dropWhile, fieldText, String.toList_append, String.toList_append,
      List.append_assoc, List.takeWhile_append_of_pos hname, List.dropWhile_append_of_pos hname]
    simp
  rw [splitField, hspan]
  rfl

theorem text_field (r : Reader) {name : String} (h : ':' ∉ name.toList) (hne : name ≠ "")
    (value : String) : r.text (fieldText name value).toList = (r.field name value, none) := by
  obtain ⟨c, rest, hname⟩ := List.exists_cons_of_ne_nil (mt String.toList_eq_nil_iff.mp hne)
  have hc : c ≠ ':' := fun heq => h (by rw [hname, heq]; exact List.mem_cons_self)
  have hsplit := splitField_fieldText h value
  have hline : (fieldText name value).toList = c :: (rest ++ ": ".toList ++ value.toList) := by
    rw [fieldText, String.toList_append, String.toList_append, hname]
    rfl
  rw [hline] at hsplit ⊢
  unfold text
  split
  · next heq => cases heq
  · next heq => exact absurd (List.cons.inj heq).1 hc
  · rw [hsplit]
    dsimp only
    rw [String.ofList_toList, String.ofList_toList]

/-- A legible line does to the fields what it says, and lets hear its message. -/
theorem text_line (r : Reader) {line : Line} (h : line.Legible) :
    r.text line.text.toList = (r.take line, r.message? line) := by
  cases line with
  | id value =>
    have hnull : value.toList.contains '\x00' = false := by
      rw [List.contains_eq_mem, decide_eq_false_iff_not]
      exact h.id value rfl
    have hfield : r.field "id" value = { r with lastId := some value } := by
      simp only [field, hnull]
      rfl
    rw [Line.text, r.text_field (by decide) (by decide), hfield]
    rfl
  | name value => exact r.text_field (by decide) (by decide) value
  | data piece => exact r.text_field (by decide) (by decide) piece
  | blank => rfl
  | comment text =>
    have hline : (Line.comment text).text.toList = ':' :: text.toList := by
      rw [Line.text, String.toList_append]
      rfl
    rw [hline]
    rfl

end Reader

def LineEnd.beforeFeed : LineEnd → String
  | .feed => ""
  | .returnFeed => "\r"

def lineBytes (entry : Line × LineEnd) : List UInt8 := utf8 (entry.1.text ++ entry.2.beforeFeed)

theorem written_eq (lines : List (Line × LineEnd)) :
    written lines = (lines.map lineBytes).flatMap (· ++ [10]) := by
  rw [written, List.flatMap_map]
  congr 1
  funext entry
  have hending : entry.2.text = entry.2.beforeFeed ++ "\n" := by cases entry.2 <;> rfl
  rw [hending, ← String.append_assoc, utf8_append]
  rfl

theorem lineFeed_not_mem_lineBytes {entry : Line × LineEnd} (h : entry.1.Legible) :
    10 ∉ lineBytes entry := by
  apply lineFeed_not_mem_utf8
  rw [String.toList_append, List.mem_append]
  rintro (hmem | hmem)
  · have hfalse := h.text _ hmem
    cases hfalse
  · revert hmem
    cases entry.2 <;> decide

namespace Reader

theorem line_lineBytes (r : Reader) {entry : Line × LineEnd} (h : entry.1.Legible) :
    r.line (lineBytes entry) = (r.take entry.1, (r.message? entry.1).map .ok) := by
  have hending : ∀ c ∈ entry.2.beforeFeed.toList, isLineEnd c = true := by
    cases entry.2 <;> simp [LineEnd.beforeFeed, isLineEnd]
  have hdrop : dropLineEnd (entry.1.text ++ entry.2.beforeFeed).toList = entry.1.text.toList := by
    rw [String.toList_append]
    exact dropLineEnd_append h.text hending
  rw [line, lineBytes, fromUTF8?_utf8]
  dsimp only
  rw [hdrop, r.text_line h]

def messages (r : Reader) : List Line → List Message
  | [] => []
  | line :: rest => (r.message? line).toList ++ (r.take line).messages rest

theorem lines_lineBytes (r : Reader) {lines : List (Line × LineEnd)}
    (h : ∀ entry ∈ lines, entry.1.Legible) :
    (r.lines (lines.map lineBytes)).2 = (r.messages (lines.map Prod.fst)).map .ok := by
  induction lines generalizing r with
  | nil => rfl
  | cons entry rest ih =>
    have hrest := ih (r.take entry.1) fun later hmem => h later (List.mem_cons_of_mem entry hmem)
    rw [List.map_cons, List.map_cons, lines, r.line_lineBytes (h entry List.mem_cons_self), messages,
      List.map_append]
    dsimp only
    rw [hrest]
    cases r.message? entry.1 <;> rfl

end Reader

/-- Of written lines all messages are read, and there are no failures. -/
theorem read_written {lines : List (Line × LineEnd)} (h : ∀ entry ∈ lines, entry.1.Legible) :
    read (written lines) = (({} : Reader).messages (lines.map Prod.fst)).map .ok := by
  have hfeeds : ∀ bytes ∈ lines.map lineBytes, 10 ∉ bytes := by
    intro bytes hmem
    obtain ⟨entry, hentry, rfl⟩ := List.mem_map.mp hmem
    exact lineFeed_not_mem_lineBytes (h entry hentry)
  rw [← Reader.lines_lineBytes {} h, read, Partial.receive, written_eq]
  dsimp only
  rw [List.nil_append, splitLines_lines hfeeds]
  exact List.append_nil _

namespace Reader

def ended (r : Reader) : List Line → List (Option Event)
  | [] => []
  | .blank :: rest => r.event? :: r.cleared.ended rest
  | line :: rest => (r.take line).ended rest

/-- Comments take nothing away and add nothing, so what is heard is told by the events that the other
lines end. -/
theorem messages_eq_heard (r : Reader) {events : List Event} {lines : List Line}
    (h : r.ended (lines.filter (!·.isComment)) = events.map some) :
    r.messages lines = heard r.isPending events lines := by
  induction lines generalizing r events with
  | nil => rfl
  | cons line rest ih =>
    cases line with
    | id value => exact ih (r.take (.id value)) h
    | name value => exact ih (r.take (.name value)) h
    | data piece =>
      have hpending : (r.take (.data piece)).isPending = true := Bool.or_true _
      have hrest := ih (r.take (.data piece)) h
      rw [hpending] at hrest
      exact hrest
    | blank =>
      cases events with
      | nil => cases h
      | cons event later =>
        obtain ⟨hevent, hlater⟩ := List.cons.inj h
        have hmessage : r.message? .blank = some (.event event) := by rw [message?, hevent]; rfl
        rw [messages, hmessage]
        exact congrArg (Message.event event :: ·) (ih r.cleared hlater)
    | comment text =>
      have hrest := ih r h
      rw [messages, heard, message?]
      cases hpending : r.isPending with
      | true =>
        rw [hpending] at hrest
        exact hrest
      | false =>
        rw [hpending] at hrest
        exact congrArg _ hrest

theorem events_of_messages (r : Reader) (lines : List Line) :
    (r.messages lines).filterMap Message.event? =
      (r.ended (lines.filter (!·.isComment))).filterMap id := by
  induction lines generalizing r with
  | nil => rfl
  | cons line rest ih =>
    rw [messages, List.filterMap_append, ih]
    cases line with
    | blank =>
      change _ = List.filterMap id (r.event? :: _)
      cases hevent : r.event? <;> simp [message?, hevent, Message.event?] <;> rfl
    | comment text =>
      simp only [message?]
      split <;> rfl
    | id value => rfl
    | name value => rfl
    | data piece => rfl

theorem ended_append (r : Reader) {fields : List Line} (h : .blank ∉ fields) (rest : List Line) :
    r.ended (fields ++ rest) = (fields.foldl take r).ended rest := by
  induction fields generalizing r with
  | nil => rfl
  | cons line fields ih =>
    have hrest := ih (r.take line) fun hmem => h (List.mem_cons_of_mem line hmem)
    cases line with
    | blank => exact absurd List.mem_cons_self h
    | id value => exact hrest
    | name value => exact hrest
    | data piece => exact hrest
    | comment text => exact hrest

/-- Further data are further lines of them. -/
theorem foldl_take_data (r : Reader) (data : String) (pieces : List String) :
    (pieces.map Line.data).foldl take { r with data := some data } =
      { r with data := some ("\n".intercalate (data :: pieces)) } := by
  induction pieces generalizing data with
  | nil => rfl
  | cons piece rest ih => exact ih (data ++ "\n" ++ piece)

end Reader

theorem intercalate_pieces (event : Event) : "\n".intercalate event.pieces = event.data := by
  rw [← String.toList_inj, String.toList_intercalate, Event.pieces, List.map_map]
  have hid : String.toList ∘ String.ofList = id := funext fun text => String.toList_ofList
  rw [hid, List.map_id]
  exact List.intercalate_splitOn '\n'

namespace Reader

/-- The lines of an event end it, with the last id. -/
theorem ended_lines (last : Option String) (event : Event) (rest : List Line) :
    ({ lastId := last } : Reader).ended (event.lines ++ rest) =
      some { event with id := event.id.or last } ::
        ({ lastId := event.id.or last } : Reader).ended rest := by
  obtain ⟨piece, pieces, hpieces⟩ :=
    List.exists_cons_of_ne_nil (mt List.map_eq_nil_iff.mp (List.splitOn_ne_nil '\n' event.data.toList))
  have hpieces : event.pieces = piece :: pieces := hpieces
  let fields := event.id.toList.map Line.id ++ [.name event.name] ++ event.pieces.map .data
  have hfields : .blank ∉ fields := by simp [fields]
  have hread : fields.foldl take { lastId := last } =
      ⟨some event.name, some event.data, event.id.or last⟩ := by
    have hid : (event.id.toList.map Line.id).foldl take { lastId := last } =
        { lastId := event.id.or last } := by cases event.id <;> rfl
    rw [List.foldl_append, List.foldl_append, hid, hpieces, ← intercalate_pieces event, hpieces]
    exact foldl_take_data ⟨some event.name, none, event.id.or last⟩ piece pieces
  have hlines : event.lines ++ rest = fields ++ .blank :: rest := by simp [Event.lines, fields]
  rw [hlines, ended_append _ hfields, hread]
  rfl

/-- The lines of events end these events, each with the id that counts by then. -/
theorem ended_events (last : Option String) (events : List Event) :
    ({ lastId := last } : Reader).ended (events.flatMap Event.lines) =
      (withLastIds last events).map some := by
  induction events generalizing last with
  | nil => rfl
  | cons event rest ih =>
    rw [List.flatMap_cons, ended_lines, ih]
    rfl

end Reader

theorem isOneLine_append {first second : String} (hfirst : IsOneLine first)
    (hsecond : IsOneLine second) : IsOneLine (first ++ second) := by
  intro c hc
  rw [String.toList_append, List.mem_append] at hc
  exact hc.elim (hfirst c) (hsecond c)

theorem isOneLine_fieldText {name value : String} (hname : IsOneLine name)
    (hvalue : IsOneLine value) : IsOneLine (fieldText name value) :=
  isOneLine_append (isOneLine_append hname (by decide)) hvalue

theorem mem_splitOn {α : Type} [BEq α] [LawfulBEq α] {a : α} {xs piece : List α}
    (h : piece ∈ xs.splitOn a) : ∀ x ∈ piece, x ∈ xs ∧ x ≠ a := by
  induction xs generalizing piece with
  | nil => simp_all
  | cons head xs ih =>
    intro x hx
    rw [List.splitOn_cons_eq_if_modifyHead] at h
    obtain ⟨first, others, hsplit⟩ := List.exists_cons_of_ne_nil (List.splitOn_ne_nil a xs)
    cases hhead : head == a with
    | true =>
      rw [hhead, if_pos rfl] at h
      rcases List.mem_cons.mp h with rfl | h
      · cases hx
      · exact (ih h x hx).imp_left (List.mem_cons_of_mem head)
    | false =>
      rw [hhead, if_neg Bool.false_ne_true, hsplit, List.modifyHead_cons] at h
      rw [hsplit] at ih
      rcases List.mem_cons.mp h with rfl | h
      · rcases List.mem_cons.mp hx with rfl | hx
        · exact ⟨List.mem_cons_self, beq_eq_false_iff_ne.mp hhead⟩
        · exact (ih List.mem_cons_self x hx).imp_left (List.mem_cons_of_mem head)
      · exact (ih (List.mem_cons_of_mem first h) x hx).imp_left (List.mem_cons_of_mem head)

namespace Event

theorem Writable.pieces {event : Event} (h : event.Writable) :
    ∀ piece ∈ event.pieces, IsOneLine piece := by
  intro piece hpiece c hc
  obtain ⟨chars, hchars, rfl⟩ := List.mem_map.mp hpiece
  rw [String.toList_ofList] at hc
  obtain ⟨hmem, hfeed⟩ := mem_splitOn hchars c hc
  have hreturn : c ≠ '\r' := fun heq => h.data (heq ▸ hmem)
  simp [isLineEnd, hfeed, hreturn]

/-- The lines of an event that can be written are read as they were meant. -/
theorem Writable.legible {event : Event} (h : event.Writable) :
    ∀ line ∈ event.lines, line.Legible := by
  intro line hline
  simp only [Event.lines, List.mem_append, List.mem_map, List.mem_singleton,
    Option.mem_toList] at hline
  rcases hline with ((⟨value, hid, rfl⟩ | rfl) | ⟨piece, hpiece, rfl⟩) | rfl
  · obtain ⟨hvalue, hnull⟩ := h.id value hid
    exact ⟨isOneLine_fieldText (by decide) hvalue, fun _ heq => Line.id.inj heq ▸ hnull⟩
  · exact ⟨isOneLine_fieldText (by decide) h.name, fun _ heq => nomatch heq⟩
  · exact ⟨isOneLine_fieldText (by decide) (h.pieces piece hpiece), fun _ heq => nomatch heq⟩
  · exact ⟨by decide, fun _ heq => nomatch heq⟩

end Event

theorem Writes.legible {events : List Event} {lines : List Line} (h : Writes events lines)
    (hevents : ∀ event ∈ events, event.Writable) : ∀ line ∈ lines, line.Legible := by
  intro line hline
  cases hcomment : line.isComment with
  | true =>
    cases line with
    | comment text =>
      have htext : IsOneLine (Line.comment text).text :=
        isOneLine_append (by decide) (h.comments text hline)
      exact ⟨htext, fun _ heq => nomatch heq⟩
    | _ => cases hcomment
  | false =>
    have hmem : line ∈ events.flatMap Event.lines := by
      rw [← h.events, List.mem_filter, hcomment]
      exact ⟨hline, rfl⟩
    obtain ⟨event, hevent, hline⟩ := List.mem_flatMap.mp hmem
    exact (hevents event hevent).legible line hline

/-- Events that are written, with comments anywhere between their lines and the lines ended in either
way, are read as they were written, each with the last id; and all that is read besides are the
comments that do not stand within an event. -/
theorem written_events_are_read {events : List Event} (hevents : ∀ event ∈ events, event.Writable)
    {lines : List (Line × LineEnd)} (hlines : Writes events (lines.map Prod.fst)) :
    readEvents (written lines) = (withLastIds none events).map .ok ∧
      read (written lines) =
        (heard false (withLastIds none events) (lines.map Prod.fst)).map .ok := by
  have hlegible : ∀ entry ∈ lines, entry.1.Legible := fun entry hmem =>
    hlines.legible hevents entry.1 (List.mem_map_of_mem hmem)
  have hended : ({} : Reader).ended ((lines.map Prod.fst).filter (!·.isComment)) =
      (withLastIds none events).map some := by
    rw [hlines.events]
    exact Reader.ended_events none events
  have hread := read_written hlegible
  constructor
  · have hmessages := ({} : Reader).events_of_messages (lines.map Prod.fst)
    rw [hended, List.filterMap_map, Function.id_comp, List.filterMap_some] at hmessages
    rw [readEvents, hread, List.filterMap_map, ← hmessages, List.map_filterMap]
    rfl
  · rw [hread, Reader.messages_eq_heard {} hended]
    rfl

/-- An event with an id and two lines of data, and one that has nothing of its own. -/
def twoWritten : List Event := [⟨"put", "a\n b", some "7"⟩, ⟨"", "", none⟩]

def commentedLines : List (Line × LineEnd) :=
  [(.comment "  first", .feed), (.id "7", .returnFeed), (.comment "second", .feed),
    (.name "put", .feed), (.comment "within", .returnFeed), (.data "a", .feed),
    (.data " b", .returnFeed), (.blank, .feed), (.name "", .feed), (.data "", .feed),
    (.blank, .returnFeed), (.comment ":", .feed)]

/-- The two events are read from among the comments. -/
theorem commented_lines_are_read :
    (∀ event ∈ twoWritten, event.Writable) ∧ Writes twoWritten (commentedLines.map Prod.fst) ∧
      readEvents (written commentedLines) =
        [.ok ⟨"put", "a\n b", some "7"⟩, .ok ⟨"", "", some "7"⟩] ∧
      read (written commentedLines) =
        [.ok (.comment "first"), .ok (.comment "second"), .ok (.event ⟨"put", "a\n b", some "7"⟩),
          .ok (.event ⟨"", "", some "7"⟩), .ok (.comment ":")] := by
  have hevents : ∀ event ∈ twoWritten, event.Writable := by
    intro event hmem
    simp only [twoWritten, List.mem_cons, List.not_mem_nil, or_false] at hmem
    rcases hmem with rfl | rfl
    · exact ⟨by decide, by decide, by decide⟩
    · exact ⟨by decide, by decide, by decide⟩
  have hlines : Writes twoWritten (commentedLines.map Prod.fst) := by
    refine ⟨by decide, fun text hmem => ?_⟩
    simp only [commentedLines, List.map_cons, List.map_nil, List.mem_cons, List.not_mem_nil,
      Line.comment.injEq, reduceCtorEq, false_or, or_false] at hmem
    rcases hmem with rfl | rfl | rfl | rfl <;> decide
  obtain ⟨hread, hall⟩ := written_events_are_read hevents hlines
  exact ⟨hevents, hlines, hread, hall⟩

end FeatureFlags.EventStream
