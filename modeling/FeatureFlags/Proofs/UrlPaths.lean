import FeatureFlags.Proofs.PercentEncoding
import FeatureFlags.Proofs.TextParts
import Mathlib.Data.List.DropRight

/-!
Paths that are extended. A path is read segment by segment, and a dot segment stands for none of its own,
so what follows a path is read as if it stood alone: the segments of the path are passed, and those
that follow are added. Slashes at the end of a path are empty segments at its end.
-/
namespace FeatureFlags.Url

def isDots (segment : String) : Bool := isDoubleDot segment || isSingleDot segment

def passed (written : List String) : List String := written.foldl (goTo · · false) []

def writtenSegments (special : Bool) (path : List Char) : List String :=
  (splitAt (isSlash special) path).map (String.ofList ∘ percentEncode inPathSet)

theorem goTo_true (segments : List String) (segment : String) :
    goTo segments segment true =
      goTo segments segment false ++ (if isDots segment then [""] else []) := by
  unfold goTo isDots
  by_cases hdouble : isDoubleDot segment = true
  · simp [hdouble]
  · by_cases hsingle : isSingleDot segment = true <;> simp [hdouble, hsingle]

/-- A segment that is no dots is added. -/
theorem goTo_of_not_isDots (segments : List String) {segment : String} (h : isDots segment = false) :
    goTo segments segment false = segments ++ [segment] := by
  obtain ⟨hdouble, hsingle⟩ := Bool.or_eq_false_iff.mp h
  simp [goTo, hdouble, hsingle]

theorem passed_concat (written : List String) (segment : String) :
    passed (written ++ [segment]) = goTo (passed written) segment false := by
  rw [passed, List.foldl_append]
  rfl

/-- Segments that are no dots are added one by one. -/
theorem passed_append (written : List String) {names : List String}
    (h : ∀ name ∈ names, isDots name = false) : passed (written ++ names) = passed written ++ names := by
  induction names using List.reverseRecOn with
  | nil => rw [List.append_nil, List.append_nil]
  | append_singleton names name ih =>
    obtain ⟨hnames, hname⟩ := List.forall_mem_append.mp h
    rw [← List.append_assoc, passed_concat, ih hnames,
      goTo_of_not_isDots _ (hname name (List.mem_singleton.mpr rfl)), List.append_assoc]

/-- A path has the segments that are passed, and an empty one if it ends in dots. -/
theorem segmentsOf_cons {special : Bool} {c : Char} (hc : isSlash special c = true)
    (path : List Char) :
    segmentsOf special (c :: path) = passed (writtenSegments special path) ++
      (if ((writtenSegments special path).getLast?).any isDots then [""] else []) := by
  have hne : writtenSegments special path ≠ [] := by
    rw [writtenSegments, ne_eq, List.map_eq_nil_iff]
    exact splitAt_ne_nil path
  have hsegments : segmentsOf special (c :: path) =
      goTo (passed (writtenSegments special path).dropLast)
        ((writtenSegments special path).getLast?.getD "") true := by
    unfold segmentsOf
    simp only [hc, if_true]
    rfl
  rw [hsegments, goTo_true, List.getLast?_eq_some_getLast hne, Option.getD_some, Option.any_some,
    ← passed_concat, List.dropLast_concat_getLast]

section

variable {inSet : Char → Bool} {text : List Char} (hpercent : inSet '%' = true) (hdot : inSet '.' = false)

include hpercent hdot

/-- Where percent signs are encoded, no other text is written as two dots. -/
theorem isDoubleDot_percentEncode :
    isDoubleDot (String.ofList (percentEncode inSet text)) = true ↔ text = ['.', '.'] := by
  have hread : ∀ segment ∈ ["..", ".%2e", ".%2E", "%2e.", "%2E.", "%2e%2e", "%2e%2E", "%2E%2e", "%2E%2E"],
      percentDecode segment.toList = bytesOf ['.', '.'] := by decide
  constructor
  · intro h
    have hsaid := hread _ (of_decide_eq_true h)
    rw [String.toList_ofList, percentDecode_percentEncode hpercent] at hsaid
    exact bytesOf_injective hsaid
  · rintro rfl
    rw [percentEncode_of_forall (by simp [hdot])]
    decide

/-- Where percent signs are encoded, no other text is written as one dot. -/
theorem isSingleDot_percentEncode :
    isSingleDot (String.ofList (percentEncode inSet text)) = true ↔ text = ['.'] := by
  have hread : ∀ segment ∈ [".", "%2e", "%2E"], percentDecode segment.toList = bytesOf ['.'] := by decide
  constructor
  · intro h
    have hsaid := hread _ (of_decide_eq_true h)
    rw [String.toList_ofList, percentDecode_percentEncode hpercent] at hsaid
    exact bytesOf_injective hsaid
  · rintro rfl
    rw [percentEncode_of_forall (by simp [hdot])]
    decide

end

/-- A segment that is written as it is kept, and read as it is written. -/
structure IsSegment (segment : String) : Prop where
  chars : ∀ c ∈ segment.toList, inPathSet c = false ∧ isSlash true c = false
  not_dots : isDots segment = false

theorem isSegment_empty : IsSegment "" where
  chars _ hc := absurd hc List.not_mem_nil
  not_dots := by decide

theorem capital_isPlain : ∀ n < 16,
    inPathSet (Hex.capital n) = false ∧ isSlash true (Hex.capital n) = false := by
  decide

theorem percent_isPlain : inPathSet '%' = false ∧ isSlash true '%' = false := by decide

/-- Written segments have no slashes, and nothing in them is to be encoded again. -/
theorem chars_of_mem_writtenSegments {path : List Char} {segment : String}
    (h : segment ∈ writtenSegments true path) :
    ∀ c ∈ segment.toList, inPathSet c = false ∧ isSlash true c = false := by
  obtain ⟨part, hpart, rfl⟩ := List.mem_map.mp h
  rw [Function.comp_apply, String.toList_ofList]
  exact forall_mem_percentEncode (fun c hc hset => ⟨hset, (mem_of_mem_splitAt hpart hc).2⟩)
    percent_isPlain capital_isPlain

theorem mem_goTo {segments : List String} {segment name : String}
    (h : name ∈ goTo segments segment false) :
    name ∈ segments ∨ (name = segment ∧ isDots segment = false) := by
  cases hdots : isDots segment with
  | false =>
    rw [goTo_of_not_isDots _ hdots] at h
    exact (List.mem_append.mp h).imp_right fun h => ⟨List.mem_singleton.mp h, rfl⟩
  | true =>
    left
    rcases Bool.or_eq_true_iff.mp hdots with hdouble | hsingle
    · simp only [goTo, hdouble, Bool.false_eq_true, if_false, if_true, List.append_nil] at h
      exact List.dropLast_subset _ h
    · by_cases hdouble : isDoubleDot segment = true
      · simp only [goTo, hdouble, Bool.false_eq_true, if_false, if_true, List.append_nil] at h
        exact List.dropLast_subset _ h
      · simpa [goTo, hdouble, hsingle] using h

/-- What is left of a path has no dots in it. -/
theorem mem_passed {written : List String} {name : String} (h : name ∈ passed written) :
    name ∈ written ∧ isDots name = false := by
  induction written using List.reverseRecOn with
  | nil => cases h
  | append_singleton written segment ih =>
    rw [passed_concat] at h
    rcases mem_goTo h with h | ⟨rfl, hdots⟩
    · exact (ih h).imp_left (List.mem_append_left _)
    · exact ⟨List.mem_append_right _ List.mem_cons_self, hdots⟩

theorem goTo_true_ne_nil (segments : List String) (segment : String) :
    goTo segments segment true ≠ [] := by
  rw [goTo_true]
  cases hdots : isDots segment with
  | true => exact List.append_ne_nil_of_right_ne_nil _ (List.cons_ne_nil _ _)
  | false =>
    rw [goTo_of_not_isDots segments hdots]
    simp

theorem isSlash_slash (special : Bool) : isSlash special '/' = true := rfl

theorem segmentsOf_of_not_isSlash {special : Bool} {path : List Char}
    (h : ∀ c ∈ path.head?, isSlash special c = false) :
    segmentsOf special path = segmentsOf special ('/' :: path) := by
  cases path with
  | nil => rfl
  | cons c rest =>
    have hc : isSlash special c = false := h c rfl
    simp only [segmentsOf, hc, isSlash_slash, if_true, Bool.false_eq_true, if_false]

theorem segmentsOf_ne_nil (special : Bool) (path : List Char) : segmentsOf special path ≠ [] :=
  goTo_true_ne_nil _ _

/-- The path of a URL that was read consists of segments. -/
theorem isSegment_of_mem_segmentsOf {path : List Char} :
    ∀ segment ∈ segmentsOf true path, IsSegment segment := by
  suffices h : ∀ {c : Char}, isSlash true c = true → ∀ path,
      ∀ segment ∈ segmentsOf true (c :: path), IsSegment segment by
    cases path with
    | nil => exact h (isSlash_slash true) []
    | cons c rest =>
      cases hc : isSlash true c with
      | true => exact h hc rest
      | false =>
        rw [segmentsOf_of_not_isSlash fun d hd => Option.some.inj hd ▸ hc]
        exact h (isSlash_slash true) _
  intro c hc path segment hsegment
  rw [segmentsOf_cons hc] at hsegment
  rcases List.mem_append.mp hsegment with hsegment | hsegment
  · obtain ⟨hwritten, hdots⟩ := mem_passed hsegment
    exact ⟨chars_of_mem_writtenSegments hwritten, hdots⟩
  · split at hsegment
    · rw [List.mem_singleton.mp hsegment]
      exact isSegment_empty
    · cases hsegment

def pathText (segments : List String) : List Char := segments.flatMap fun segment => '/' :: segment.toList

/-- A path is written as its segments are. -/
theorem Path.toList_toText (segments : List String) :
    (Path.segments segments).toText.toList = pathText segments := by
  rw [Path.toText, String.toList_join, List.flatMap_map]
  exact congrArg (segments.flatMap ·) (funext fun segment => String.toList_append)

theorem pathText_append (first second : List String) :
    pathText (first ++ second) = pathText first ++ pathText second := List.flatMap_append

theorem pathText_replicate (count : Nat) :
    pathText (List.replicate count "") = List.replicate count '/' := by
  induction count with
  | zero => rfl
  | succ count ih =>
    rw [List.replicate_succ, List.replicate_succ, ← ih]
    rfl

/-- A segment is read as it is written. -/
theorem writtenSegments_of_isSegment (special : Bool) {segment : String} (h : IsSegment segment) :
    writtenSegments special segment.toList = [segment] := by
  have hslash : ∀ c ∈ segment.toList, isSlash special c = false := by
    intro c hc
    have := (h.chars c hc).2
    simp [isSlash] at this ⊢
    exact ⟨this.1, fun _ => this.2⟩
  rw [writtenSegments, splitAt_of_forall hslash, List.map_singleton, Function.comp_apply,
    percentEncode_of_forall fun c hc => (h.chars c hc).1, String.ofList_toList]

theorem writtenSegments_append_cons {special : Bool} {c : Char} (hc : isSlash special c = true)
    (before path : List Char) : writtenSegments special (before ++ c :: path) =
      writtenSegments special before ++ writtenSegments special path := by
  rw [writtenSegments, splitAt_append hc, List.map_append]
  rfl

/-- What is written after a path adds its segments to those of the path. -/
theorem writtenSegments_append_pathText (special : Bool) (path : List Char) {segments : List String}
    (h : ∀ segment ∈ segments, IsSegment segment) :
    writtenSegments special (path ++ pathText segments) = writtenSegments special path ++ segments := by
  induction segments generalizing path with
  | nil => rw [List.append_nil]; exact congrArg _ (List.append_nil path)
  | cons segment segments ih =>
    obtain ⟨hsegment, hsegments⟩ := List.forall_mem_cons.mp h
    have hsplit : writtenSegments special (path ++ pathText (segment :: segments)) =
        writtenSegments special path ++ writtenSegments special (segment.toList ++ pathText segments) :=
      writtenSegments_append_cons (isSlash_slash special) path _
    rw [hsplit, ih _ hsegments, writtenSegments_of_isSegment special hsegment, List.singleton_append]

/-- A path that ends in segments which are no dots has them at its end. -/
theorem segmentsOf_of_written {special : Bool} {c : Char} (hc : isSlash special c = true)
    {path : List Char} {before segments : List String}
    (hwritten : writtenSegments special path = before ++ segments) (hne : segments ≠ [])
    (h : ∀ segment ∈ segments, IsSegment segment) :
    segmentsOf special (c :: path) = passed before ++ segments := by
  have hlast : ((before ++ segments).getLast?).any isDots = false := by
    rw [List.getLast?_append_of_ne_nil _ hne, List.getLast?_eq_some_getLast hne]
    exact (h _ (List.getLast_mem hne)).not_dots
  rw [segmentsOf_cons hc, hwritten, hlast,
    passed_append _ fun segment hsegment => (h segment hsegment).not_dots]
  exact List.append_nil _

/-- A path to which segments are added goes on from where it had come to. -/
theorem segmentsOf_append_pathText {special : Bool} {c : Char} (hc : isSlash special c = true)
    (path : List Char) {segments : List String} (hne : segments ≠ [])
    (h : ∀ segment ∈ segments, IsSegment segment) :
    segmentsOf special (c :: (path ++ pathText segments)) =
      passed (writtenSegments special path) ++ segments :=
  segmentsOf_of_written hc (writtenSegments_append_pathText special path h) hne h

/-- A written path is read as the segments that it was written of. -/
theorem segmentsOf_pathText (special : Bool) {segments : List String} (hne : segments ≠ [])
    (h : ∀ segment ∈ segments, IsSegment segment) :
    segmentsOf special (pathText segments) = segments := by
  obtain ⟨segment, rest, rfl⟩ := List.exists_cons_of_ne_nil hne
  obtain ⟨hsegment, hrest⟩ := List.forall_mem_cons.mp h
  have hwritten : writtenSegments special (segment.toList ++ pathText rest) =
      [] ++ segment :: rest := by
    rw [writtenSegments_append_pathText special _ hrest,
      writtenSegments_of_isSegment special hsegment]
    rfl
  exact segmentsOf_of_written (isSlash_slash special) hwritten hne h

def withoutFinalSlashes (segments : List String) : List String := segments.rdropWhile (· = "")

/-- Empty segments are dropped from the end of a path down to another one. -/
theorem withoutFinalSlashes_append_replicate {kept : List String} (h : kept.getLast? ≠ some "")
    (count : Nat) : withoutFinalSlashes (kept ++ List.replicate count "") = kept :=
  rdropWhile_append_replicate h count

def endsInDots (path : List Char) : Bool := ((writtenSegments true path).getLast?).any isDots

theorem endsInDots_append_cons {c : Char} (hc : isSlash true c = true) (before path : List Char) :
    endsInDots (before ++ c :: path) = endsInDots path := by
  have hne : writtenSegments true path ≠ [] := mt List.map_eq_nil_iff.mp (splitAt_ne_nil path)
  rw [endsInDots, writtenSegments_append_cons hc, List.getLast?_append_of_ne_nil _ hne, endsInDots]

theorem endsInDots_of_append {before path : List Char} (hhead : ∀ c ∈ path.head?, isSlash true c = true)
    (h : endsInDots (before ++ path) = false) : endsInDots path = false := by
  cases path with
  | nil => decide
  | cons c path =>
    rw [endsInDots_append_cons (hhead c rfl)] at h
    exact (endsInDots_append_cons (hhead c rfl) [] path).trans h

/-- A path that ends in a name is kept up to that name, whatever stands before. -/
theorem getLast?_passed {path : List Char} (hne : path ≠ [])
    (hlast : ∀ c ∈ path.getLast?, isSlash true c = false)
    (hdots : endsInDots path = false) : (passed (writtenSegments true path)).getLast? ≠ some "" := by
  have hpart := getLast?_splitAt hne hlast
  obtain ⟨parts, part, hparts⟩ := (List.eq_nil_or_concat' (splitAt (isSlash true) path)).resolve_left
    (splitAt_ne_nil path)
  rw [hparts, List.getLast?_concat] at hpart
  rw [endsInDots, writtenSegments, hparts, List.map_append, List.map_singleton, List.getLast?_concat] at hdots
  rw [writtenSegments, hparts, List.map_append, List.map_singleton, passed_concat,
    goTo_of_not_isDots _ hdots, List.getLast?_concat]
  intro hempty
  have hnil : percentEncode inPathSet part = [] := String.ofList_eq_empty_iff.mp (Option.some.inj hempty)
  exact percentEncode_ne_nil (fun heq => hpart (by rw [heq])) hnil

/-- Segments that are written where a path ends come after what is left of it without its last
slashes. -/
theorem segmentsOf_extended {path : List Char} (hhead : ∀ c ∈ path.head?, isSlash true c = true)
    (hlast : ∀ c ∈ path.getLast?, isSlash true c = false) (hdots : endsInDots path = false) (count : Nat)
    {names : List String} (hne : names ≠ []) (hnames : ∀ name ∈ names, IsSegment name) :
    segmentsOf true (path ++ pathText names) =
      withoutFinalSlashes (segmentsOf true (path ++ List.replicate count '/')) ++ names := by
  have hempty (count : Nat) : ∀ segment ∈ List.replicate count "", IsSegment segment := fun segment hin => by
    rw [List.eq_of_mem_replicate hin]
    exact isSegment_empty
  cases path with
  | nil =>
    have hnothing : withoutFinalSlashes (segmentsOf true (List.replicate count '/')) = [] := by
      cases count with
      | zero => decide
      | succ count =>
        rw [← pathText_replicate, segmentsOf_pathText true List.replicate_succ_ne_nil (hempty _)]
        exact withoutFinalSlashes_append_replicate (List.getLast?_nil.trans_ne (by simp)) (count + 1)
    rw [List.nil_append, List.nil_append, hnothing, segmentsOf_pathText true hne hnames, List.nil_append]
  | cons c path =>
    have hc : isSlash true c = true := hhead c rfl
    have hpath : path ≠ [] := by
      rintro rfl
      rw [hlast c rfl] at hc
      cases hc
    have hlast' : ∀ d ∈ path.getLast?, isSlash true d = false := fun d hd =>
      hlast d (by rwa [List.getLast?_cons_of_ne_nil hpath])
    have hdots' : endsInDots path = false := (endsInDots_append_cons hc [] path).symm.trans hdots
    have hkept := getLast?_passed hpath hlast' hdots'
    have hsegments : segmentsOf true (c :: (path ++ List.replicate count '/')) =
        passed (writtenSegments true path) ++ List.replicate count "" := by
      cases count with
      | zero =>
        change segmentsOf true (c :: (path ++ [])) = _ ++ []
        rw [List.append_nil, segmentsOf_cons hc]
        exact congrArg (_ ++ if · then [""] else []) hdots'
      | succ count =>
        rw [← pathText_replicate, segmentsOf_append_pathText hc path (List.replicate_succ_ne_nil) (hempty _)]
    rw [List.cons_append, List.cons_append, segmentsOf_append_pathText hc path hne hnames, hsegments,
      withoutFinalSlashes_append_replicate hkept]

end FeatureFlags.Url
