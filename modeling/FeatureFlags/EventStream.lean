import FeatureFlags.Failure
import FeatureFlags.Unicode.Blank

/-!
The text format of event streams. Lines give fields of an event and an empty line ends it; a line that
begins with a colon is a comment. The id of an event stands for those after it too, until there is
another one. What stands after the last empty line is no event.
-/
namespace FeatureFlags.EventStream

structure Event where
  name : String
  data : String
  id : Option String
  deriving DecidableEq, Inhabited

inductive Message where
  | event (event : Event)
  | comment (text : String)
  deriving DecidableEq, Inhabited

def Message.event? : Message → Option Event
  | .event e => some e
  | .comment _ => none

def defaultName : String := "message"

/-- The fields read since the last event, and the last id. -/
structure Reader where
  name : Option String := none
  data : Option String := none
  lastId : Option String := none
  deriving DecidableEq, Inhabited

namespace Reader

def isPending (r : Reader) : Bool := r.name.isSome || r.data.isSome

def cleared (r : Reader) : Reader := { lastId := r.lastId }

/-- A field that is given again counts in place of the earlier one, but data are added as a further
line. Other fields than these do not count, nor does an id with a null character in it. -/
def field (r : Reader) (field value : String) : Reader :=
  match field with
  | "event" => { r with name := some value }
  | "data" =>
      { r with data := some (match r.data with
        | some data => data ++ "\n" ++ value
        | none => value) }
  | "id" => if value.toList.contains '\x00' then r else { r with lastId := some value }
  | _ => r

/-- The event that an empty line ends, if it has data. -/
def event? (r : Reader) : Option Event :=
  r.data.map fun data => ⟨r.name.getD defaultName, data, r.lastId⟩

end Reader

/-- A name and a value, parted by the first colon and one space after it, if there is one. -/
def splitField (line : List Char) : List Char × List Char :=
  match line.span (· != ':') with
  | (name, _ :: ' ' :: value) => (name, value)
  | (name, _ :: value) => (name, value)
  | (name, []) => (name, [])

def dropLineEnd (line : List Char) : List Char :=
  (line.reverse.dropWhile fun c => c == '\n' || c == '\r').reverse

namespace Reader

/-- Reads a line without its end. A comment inside an event is passed over. -/
def text (r : Reader) (line : List Char) : Reader × Option Message :=
  match line with
  | [] => (r.cleared, r.event?.map .event)
  | ':' :: comment =>
      (r, if r.isPending then none else some (.comment (String.ofList (Unicode.trimStart comment))))
  | line =>
      let (name, value) := splitField line
      (r.field (String.ofList name) (String.ofList value), none)

def malformedText : Failure := .io "stream did not contain valid UTF-8"

/-- Reads the bytes of a line. If they are no text, the event that was begun is lost. -/
def line (r : Reader) (bytes : List UInt8) : Reader × Option (Except Failure Message) :=
  match String.fromUTF8? bytes.toByteArray with
  | some line =>
      let (r, message) := r.text (dropLineEnd line.toList)
      (r, message.map .ok)
  | none => (r.cleared, some (.error malformedText))

def lines (r : Reader) : List (List UInt8) → Reader × List (Except Failure Message)
  | [] => (r, [])
  | bytes :: rest =>
      let (r, found) := r.line bytes
      let (r, later) := r.lines rest
      (r, found.toList ++ later)

end Reader

def splitLines : List UInt8 → List (List UInt8) × List UInt8
  | [] => ([], [])
  | byte :: rest =>
      match byte == 10, splitLines rest with
      | true, (lines, begun) => ([] :: lines, begun)
      | false, (line :: lines, begun) => ((byte :: line) :: lines, begun)
      | false, ([], begun) => ([], byte :: begun)

/-- Nothing is lost: the lines with their ends and what is begun are the bytes. -/
theorem splitLines_join (bytes : List UInt8) :
    (splitLines bytes).1.flatMap (· ++ [10]) ++ (splitLines bytes).2 = bytes := by
  induction bytes with
  | nil => rfl
  | cons byte rest ih =>
    by_cases h : byte = 10
    · subst h
      simp [splitLines, ih]
    · have hb : (byte == 10) = false := by simpa using h
      rw [splitLines, hb]
      rcases hs : splitLines rest with ⟨_ | ⟨line, lines⟩, begun⟩ <;> simp_all

/-- A stream of which a part has arrived. -/
structure Partial where
  reader : Reader := {}
  begun : List UInt8 := []
  deriving DecidableEq, Inhabited

namespace Partial

/-- What can be read as soon as these bytes arrive. -/
def receive (s : Partial) (bytes : List UInt8) : Partial × List (Except Failure Message) :=
  let (lines, begun) := splitLines (s.begun ++ bytes)
  let (reader, found) := s.reader.lines lines
  (⟨reader, begun⟩, found)

/-- What can be read at the end of the stream: a line that was begun ends there. -/
def finish (s : Partial) : List (Except Failure Message) :=
  if s.begun = [] then [] else (s.reader.line s.begun).2.toList

end Partial

def read (bytes : List UInt8) : List (Except Failure Message) :=
  let (s, found) := ({} : Partial).receive bytes
  found ++ s.finish

def readEvents (bytes : List UInt8) : List (Except Failure Event) :=
  (read bytes).filterMap fun
    | .ok message => message.event?.map .ok
    | .error failure => some (.error failure)

end FeatureFlags.EventStream
