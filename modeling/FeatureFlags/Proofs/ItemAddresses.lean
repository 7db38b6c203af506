import FeatureFlags.Proofs.Addresses

/-!
Which item is asked for at an address. A key is added to the path under which the items of its kind are,
and is percent-encoded there, so that keys which a path can say are told apart. But a key of a dot or two
is not added, and what does not count in a key is left out before it is: some keys lead to the same
address, and some to none of an item.
-/
namespace FeatureFlags

open Service (dropSlashes)
open Url (IsSegment pathText)

namespace Url

/-- Where a text leads that is added to a path. -/
inductive Step where
  | stay
  | up
  | onto (text : List Char)
  deriving DecidableEq

def counted (text : String) : List Char := text.toList.filter (!isIgnored ·)

/-- A text of one dot or two is not added. If such dots are left of another text, it is added, and leads where
they lead. -/
def step (text : String) : Step :=
  if text = "." ∨ text = ".." then .stay
  else if counted text = ['.', '.'] then .up
  else if counted text = ['.'] then .onto []
  else .onto (counted text)

def encoded (scheme : String) (text : List Char) : String :=
  String.ofList (percentEncode (if isSpecial scheme then inSpecialSegmentSet else inSegmentSet) text)

/-- The segments that a step leads to. To go on from an empty path is to fill it. -/
def Step.after (scheme : String) (segments : List String) : Step → List String
  | .stay => segments
  | .up => (if segments = [""] then [] else segments).dropLast ++ [""]
  | .onto text => (if segments = [""] then [] else segments) ++ [encoded scheme text]

section

variable {scheme : String} {text : List Char}

/-- No two texts are encoded alike. -/
theorem encoded_injective {text' : List Char} (h : encoded scheme text = encoded scheme text') :
    text = text' := by
  have hlists := String.ofList_injective h
  split at hlists
  · exact percentEncode_injective (by decide) hlists
  · exact percentEncode_injective (by decide) hlists

/-- No segment that says a text is parted by a slash. -/
theorem slash_not_mem_encoded : '/' ∉ (encoded scheme text).toList := by
  have hslash (inSet : Char → Bool) (hin : inSet '/' = true) : '/' ∉ percentEncode inSet text := by
    intro hmem
    have hleft : ∀ c ∈ text, inSet c = false → c ≠ '/' := fun c _ hc heq => by
      rw [heq, hin] at hc
      cases hc
    exact forall_mem_percentEncode hleft (by decide) (by decide) '/' hmem rfl
  rw [encoded, String.toList_ofList]
  split
  · exact hslash _ (by decide)
  · exact hslash _ (by decide)

/-- Where an encoded text leads: dots stay dots, and all else is a segment. -/
theorem goTo_encoded (scheme : String) (text : List Char) (segments : List String) :
    goTo segments (encoded scheme text) true =
      if text = ['.', '.'] then segments.dropLast ++ [""]
      else if text = ['.'] then segments ++ [""]
      else segments ++ [encoded scheme text] := by
  have hdouble : isDoubleDot (encoded scheme text) = true ↔ text = ['.', '.'] := by
    unfold encoded
    split <;> exact isDoubleDot_percentEncode (by decide) (by decide)
  have hsingle : isSingleDot (encoded scheme text) = true ↔ text = ['.'] := by
    unfold encoded
    split <;> exact isSingleDot_percentEncode (by decide) (by decide)
  simp only [goTo, hdouble, hsingle, if_true]

/-- What is added to a path leads where its text says. -/
theorem push?_eq {url : Url} {segments : List String} (hpath : url.path = .segments segments)
    (text : String) :
    url.push? text = some { url with path := .segments ((step text).after url.scheme segments) } := by
  rw [push?, hpath]
  unfold step
  by_cases hdots : text = "." ∨ text = ".."
  · simp only [if_pos hdots, Step.after, ← hpath]
  · have hgo := goTo_encoded url.scheme (counted text) (if segments = [""] then [] else segments)
    simp only [if_neg hdots]
    refine congrArg (fun path => some { url with path := .segments path }) (hgo.trans ?_)
    split
    · rfl
    · split
      · rfl
      · rfl

theorem push?_eq_none {url : Url} {path : String} (hpath : url.path = .text path) (text : String) :
    url.push? text = none := by
  rw [push?, hpath]

end

/-- A written path is parted into its segments again. -/
theorem splitAt_pathText {segments : List String} (h : ∀ segment ∈ segments, '/' ∉ segment.toList) :
    splitAt (isSlash false) (pathText segments) = [] :: segments.map String.toList := by
  induction segments using List.reverseRecOn with
  | nil => rfl
  | append_singleton segments segment ih =>
    obtain ⟨hsegments, hsegment⟩ := List.forall_mem_append.mp h
    have hparts : splitAt (isSlash false) segment.toList = [segment.toList] := by
      refine splitAt_of_forall fun c hc => ?_
      have hne : c ≠ '/' := fun heq => hsegment segment (List.mem_singleton.mpr rfl) (heq ▸ hc)
      simp [isSlash, hne]
    have htext : pathText (segments ++ [segment]) = pathText segments ++ '/' :: segment.toList := by
      rw [pathText_append]
      simp [pathText]
    rw [htext, splitAt_append (isSlash_slash false), ih hsegments, hparts, List.map_append]
    rfl

/-- Segments that hold no slash are read off what is written of them. -/
theorem pathText_injective {first second : List String} (hfirst : ∀ segment ∈ first, '/' ∉ segment.toList)
    (hsecond : ∀ segment ∈ second, '/' ∉ segment.toList) (h : pathText first = pathText second) :
    first = second := by
  have hparts := congrArg (splitAt (isSlash false)) h
  rw [splitAt_pathText hfirst, splitAt_pathText hsecond] at hparts
  exact List.map_injective_iff.mpr (fun _ _ => String.toList_injective) (List.cons.inj hparts).2

def IsPlainEnd : List String → Prop
  | [] => False
  | first :: rest => first = "" → rest = []

theorem isPlainEnd_singleton (name : String) : IsPlainEnd [name] := fun _ => rfl

section

variable (url : Url) (before : List String) {names names' : List String}

/-- What stands before a path hangs on how the path begins, and not on how it ends. -/
theorem authority_append (h : IsPlainEnd names) :
    ({ url with path := .segments (before ++ names) } : Url).authority =
      ({ url with path := .segments (before ++ [""]) } : Url).authority := by
  match names, h with
  | first :: rest, h =>
    unfold authority
    cases url.host with
    | some host => rfl
    | none =>
      -- Only a path of two segments or more, the first of them empty, is set off from a host.
      match before with
      | [] =>
        by_cases hfirst : first = ""
        · rw [h hfirst, hfirst]
        · simp [hfirst]
      | [name] => by_cases hname : name = "" <;> simp [hname]
      | name :: next :: before => by_cases hname : name = "" <;> simp [hname]

/-- URLs that differ only in how their paths end are told apart by what is written of these ends. -/
theorem toText_append_iff (h : IsPlainEnd names) (h' : IsPlainEnd names') :
    ({ url with path := .segments (before ++ names) } : Url).toText =
        ({ url with path := .segments (before ++ names') } : Url).toText ↔
      pathText names = pathText names' := by
  have hwritten {names : List String} (h : IsPlainEnd names) :
      ({ url with path := .segments (before ++ names) } : Url).toText.toList =
        (url.scheme.toList ++ ':' ::
          (({ url with path := .segments (before ++ [""]) } : Url).authority.toList ++ pathText before)) ++
        (pathText names ++
          (((url.query.map ("?" ++ ·)).getD "").toList ++ ((url.fragment.map ("#" ++ ·)).getD "").toList)) := by
    rw [toText, authority_append url before h, target]
    simp only [String.toList_append, Path.toList_toText, pathText_append, List.append_assoc]
    simp
  rw [← String.toList_inj, hwritten h, hwritten h', List.append_cancel_left_eq, List.append_cancel_right_eq]

end

section

variable {read url : Url} {rest : List Char} {name : String} {segments : List String}

theorem head_pathText (name : String) (names : List String) :
    ∀ c ∈ (pathText (name :: names)).head?, c = '/' :=
  fun _ hc => (Option.some.inj hc).symm

/-- What is appended to a text is read where the text is read without what does not count in it. -/
theorem parse?_append_pathText (text : String) {path name : String} {names : List String}
    (hpath : path.toList = pathText (name :: names)) (hnames : ∀ segment ∈ name :: names, IsSegment segment) :
    parse? (dropSlashes text ++ path) =
      (scheme? (stem text)).bind fun found => readRest? found.1 (found.2 ++ pathText (name :: names)) := by
  have hclean : clean ((dropSlashes text).toList ++ pathText (name :: names)) =
      stem text ++ pathText (name :: names) :=
    clean_dropSlashes_append text (List.cons_ne_nil _ _) (isCounted_of_mem_pathText hnames)
  rw [parse?_eq, String.toList_append, hpath, hclean, scheme?_append _ (head_pathText name names),
    Option.bind_map]
  rfl

/-- Where a name is appended to the text, a path is read that ends in the name and is otherwise the same,
whatever the name. -/
def Extends (read : List Char → Option Url) (rest : List Char) : Prop :=
  ∃ (found : Url) (before : List String), ∀ name, IsSegment name → name ≠ "" →
    read (rest ++ pathText [name]) = some { found with path := .segments (before ++ [name]) }

/-- A path that a name is appended to ends in that name. -/
theorem exists_segmentsOf_append (special : Bool) (path : List Char) :
    ∃ before, ∀ name, IsSegment name → segmentsOf special (path ++ pathText [name]) = before ++ [name] := by
  have hafter {c : Char} (hc : isSlash special c = true) (path : List Char) :
      ∃ before, ∀ name, IsSegment name →
        segmentsOf special (c :: path ++ pathText [name]) = before ++ [name] :=
    ⟨_, fun name hname => segmentsOf_append_pathText hc path (List.cons_ne_nil _ _)
      (List.forall_mem_singleton.mpr hname)⟩
  cases path with
  | nil =>
    exact ⟨[], fun name hname => segmentsOf_pathText special (List.cons_ne_nil _ _)
      (List.forall_mem_singleton.mpr hname)⟩
  | cons c path =>
    cases hc : isSlash special c with
    | true => exact hafter hc path
    | false =>
      obtain ⟨before, hbefore⟩ := hafter (isSlash_slash special) (c :: path)
      refine ⟨before, fun name hname => ?_⟩
      rw [List.cons_append, segmentsOf_of_not_isSlash fun d hd => Option.some.inj hd ▸ hc]
      exact hbefore name hname

/-- A path of a file loses its first empty segments, but not the name at its end. -/
theorem exists_fileSegments_append (path : List Char) : ∃ before, ∀ name, IsSegment name → name ≠ "" →
    fileSegments (path ++ pathText [name]) = .segments (before ++ [name]) := by
  obtain ⟨before, hbefore⟩ := exists_segmentsOf_append true path
  refine ⟨before.dropWhile (· = ""), fun name hname hne => ?_⟩
  have hdrop : (before ++ [name]).dropWhile (· = "") = before.dropWhile (· = "") ++ [name] := by
    rw [List.dropWhile_append]
    split
    · next hempty => rw [List.isEmpty_iff.mp hempty, List.dropWhile_cons_of_neg (by simpa using hne)]; rfl
    · rfl
  rw [fileSegments, hbefore name hname, hdrop]
  split
  · next hnil => exact absurd hnil (by simp)
  · rfl

theorem extends_file? (hlong : 2 ≤ rest.length) (h : (file? read (rest ++ pathText [name])).isSome = true) :
    Extends (file? read) rest := by
  match rest, hlong with
  | a :: b :: rest, _ =>
    by_cases hslashes : isSlash true a = true ∧ isSlash true b = true
    · rcases hspan : rest.span (!isSlash true ·) with ⟨host, path⟩
      have hparts (name : String) :
          (rest ++ pathText [name]).span (!isSlash true ·) = (host, path ++ pathText [name]) := by
        rw [span_append_slash rest (head_pathText name []), hspan]
      simp only [file?, List.cons_append, hslashes, and_self, if_true, hparts] at h
      by_cases hnone : host = [] ∨ isDrive host = true
      · obtain ⟨before, hbefore⟩ := exists_fileSegments_append rest
        refine ⟨read, before, fun name hname hne => ?_⟩
        simp only [file?, List.cons_append, hslashes, and_self, if_true, hparts, if_pos hnone,
          hbefore name hname hne]
      · rw [if_neg hnone, Option.isSome_map] at h
        obtain ⟨found, hfound⟩ := Option.isSome_iff_exists.mp h
        obtain ⟨before, hbefore⟩ := exists_fileSegments_append path
        refine ⟨{ read with host := if found = .name "localhost" then none else some found }, before,
          fun name hname hne => ?_⟩
        simp only [file?, List.cons_append, hslashes, and_self, if_true, hparts, if_neg hnone, hfound,
          Option.map_some, hbefore name hname hne]
    · obtain ⟨before, hbefore⟩ := exists_fileSegments_append (a :: b :: rest)
      refine ⟨read, before, fun name hname hne => ?_⟩
      have hpath := hbefore name hname hne
      rw [List.cons_append, List.cons_append] at hpath
      simp only [file?, List.cons_append, if_neg hslashes, hpath]

theorem extends_afterSlashes? (h : (afterSlashes? read (rest ++ pathText [name])).isSome = true) :
    Extends (afterSlashes? read) rest := by
  rcases hspan : rest.span (!isSlash (isSpecial read.scheme) ·) with ⟨authority, path⟩
  have hparts (name : String) : (rest ++ pathText [name]).span (!isSlash (isSpecial read.scheme) ·) =
      (authority, path ++ pathText [name]) := by
    rw [span_append_slash rest (head_pathText name []), hspan]
  have hsome (name : String) (left : List Char) : left ++ (path ++ pathText [name]) ≠ [] := by
    simp [pathText]
  have hfollowed (name : String) : decide (path ++ pathText [name] ≠ []) = true := by
    simp [pathText]
  simp only [afterSlashes?, hparts, hfollowed, Bool.true_or] at h
  cases hauthority : authority? read true authority with
  | none => rw [hauthority] at h; cases h
  | some found =>
    obtain ⟨found, left⟩ := found
    obtain ⟨before, hbefore⟩ := exists_segmentsOf_append (isSpecial read.scheme) (left ++ path)
    refine ⟨found, before, fun name hname _ => ?_⟩
    have hpath := hbefore name hname
    rw [List.append_assoc] at hpath
    simp only [afterSlashes?, hparts, hfollowed, Bool.true_or, hauthority, Option.bind_eq_bind, Option.bind_some,
      hsome, false_and, if_false, hpath]
    rfl

section

variable (hspecial : isSpecial read.scheme = false)

include hspecial

/-- Where hosts are not looked up, what stands after a scheme is read by its first two characters. -/
theorem body?_plain {a b : Char} (text : List Char) : body? read (a :: b :: text) =
    if a = '/' then
      if b = '/' then afterSlashes? read text
      else some { read with path := .segments (segmentsOf false (a :: b :: text)) }
    else some { read with path := .text (String.ofList (percentEncode isUnprintable (a :: b :: text))) } := by
  have hfile : read.scheme ≠ "file" := fun heq => by
    rw [heq] at hspecial
    exact absurd hspecial (by decide)
  by_cases ha : a = '/'
  · by_cases hb : b = '/'
    · simp [body?, hfile, hspecial, ha, hb]
    · simp [body?, hfile, hspecial, ha, hb]
  · simp [body?, hfile, hspecial, ha]

theorem extends_body?_plain (hlong : 2 ≤ rest.length)
    (h : body? read (rest ++ pathText [name]) = some url) (hpath : url.path = .segments segments) :
    Extends (body? read) rest := by
  match rest, hlong with
  | a :: b :: rest, _ =>
    rw [List.cons_append, List.cons_append, body?_plain hspecial] at h
    split at h
    · next ha =>
      split at h
      · next hb =>
        obtain ⟨found, before, hfound⟩ := extends_afterSlashes? (Option.isSome_iff_exists.mpr ⟨url, h⟩)
        refine ⟨found, before, fun name hname hne => ?_⟩
        rw [List.cons_append, List.cons_append, body?_plain hspecial, if_pos ha, if_pos hb]
        exact hfound name hname hne
      · next hb =>
        obtain ⟨before, hbefore⟩ := exists_segmentsOf_append false (a :: b :: rest)
        refine ⟨read, before, fun name hname _ => ?_⟩
        have hends := hbefore name hname
        rw [List.cons_append, List.cons_append] at hends ⊢
        rw [body?_plain hspecial, if_pos ha, if_neg hb, hends]
    · -- What begins with no slash is a text that has no segments.
      rw [← Option.some.inj h] at hpath
      cases hpath

end

/-- Where a name is appended to a text that has a name in it, the path ends in what is appended. -/
theorem extends_body? (hlong : 2 ≤ rest.length) (hnamed : ∃ c ∈ rest, isSlash true c = false)
    (h : body? read (rest ++ pathText [name]) = some url) (hpath : url.path = .segments segments) :
    Extends (body? read) rest := by
  by_cases hfile : read.scheme = "file"
  · have hbody (text : List Char) : body? read text = file? read text := if_pos hfile
    rw [hbody] at h
    obtain ⟨found, before, hfound⟩ := extends_file? hlong (Option.isSome_iff_exists.mpr ⟨url, h⟩)
    exact ⟨found, before, fun name hname hne => (hbody _).trans (hfound name hname hne)⟩
  · by_cases hspecial : isSpecial read.scheme = true
    · have hbody (name : String) : body? read (rest ++ pathText [name]) =
          afterSlashes? read (rest.dropWhile (isSlash true) ++ pathText [name]) := by
        unfold body?
        rw [if_neg hfile, if_pos hspecial, List.dropWhile_append,
          if_neg (by simpa using dropWhile_ne_nil hnamed)]
      rw [hbody] at h
      obtain ⟨found, before, hfound⟩ := extends_afterSlashes? (Option.isSome_iff_exists.mpr ⟨url, h⟩)
      exact ⟨found, before, fun name hname hne => (hbody name).trans (hfound name hname hne)⟩
    · exact extends_body?_plain (Bool.not_eq_true _ ▸ hspecial) hlong h hpath

/-- So it is after a scheme, if no query and no fragment begins in the text. -/
theorem extends_readRest? {scheme : String} (hlong : 2 ≤ rest.length)
    (hnamed : ∃ c ∈ rest, isSlash true c = false)
    (h : readRest? scheme (rest ++ pathText [name]) = some url) (hpath : url.path = .segments segments)
    (hquery : url.query = none) (hfragment : url.fragment = none) : Extends (readRest? scheme) rest := by
  obtain ⟨hsharp, hquestion⟩ := not_mem_of_readRest? h hquery hfragment
  rw [readRest?_of_not_mem hsharp hquestion] at h
  obtain ⟨found, before, hfound⟩ := extends_body? hlong hnamed h hpath
  refine ⟨found, before, fun name hname hne => ?_⟩
  obtain ⟨hnosharp, hnoquestion⟩ := not_mem_of_isCounted
    (isCounted_of_mem_pathText (List.forall_mem_singleton.mpr hname))
  rw [readRest?_of_not_mem (List.not_mem_append (mt (List.mem_append_left _) hsharp) hnosharp)
    (List.not_mem_append (mt (List.mem_append_left _) hquestion) hnoquestion)]
  exact hfound name hname hne

end

end Url

namespace Service

def collection (service : Service) (kind : Kind) : Except Failure Url :=
  parseUrl (dropSlashes service.base.toText ++ path (.item kind ""))

def collectionName : Kind → String
  | .flags => "latest-flags"
  | .segments => "latest-segments"

theorem toList_path_item : ∀ kind : Kind,
    (path (.item kind "")).toList = pathText ["sdk", collectionName kind]
  | .flags => toList_path (.item .flags "")
  | .segments => toList_path (.item .segments "")

theorem isSegment_collectionName : ∀ kind, IsSegment (collectionName kind) ∧ collectionName kind ≠ ""
  | .flags => ⟨isSegment_path _ (by decide), by decide⟩
  | .segments => ⟨isSegment_path _ (by decide), by decide⟩

section

variable {service : Service} {kind : Kind} {url : Url}

theorem url_item_eq (service : Service) (kind : Kind) (key : String) :
    service.url (.item kind key) = (service.collection kind).bind fun url =>
      match url.push? key with
      | some url => .ok url
      | none => .error .invalidUri := by
  cases kind <;> rfl

/-- An item can be asked for if the path under which it is consists of segments. -/
theorem exists_segments {key : String} (h : (service.url (.item kind key)).isOk = true) :
    ∃ url segments, service.collection kind = .ok url ∧ url.path = .segments segments := by
  rw [url_item_eq] at h
  cases hcollection : service.collection kind with
  | error failure => rw [hcollection] at h; cases h
  | ok url =>
    cases hpath : url.path with
    | segments segments => exact ⟨url, segments, rfl, hpath⟩
    | text path =>
      rw [hcollection] at h
      simp only [Except.bind, Url.push?_eq_none hpath] at h
      cases h

/-- The URL of an item is that of its collection, with one step on its path. -/
theorem url_of_collection {segments : List String} (h : service.collection kind = .ok url)
    (hpath : url.path = .segments segments) (key : String) : service.url (.item kind key) =
      .ok { url with path := .segments ((Url.step key).after url.scheme segments) } := by
  rw [url_item_eq, h]
  simp only [Except.bind, Url.push?_eq hpath]

/-- The collections are side by side, if what is appended to the base comes to its path. -/
theorem exists_collections {segments : List String} (h : service.collection kind = .ok url)
    (hpath : url.path = .segments segments) (hquery : url.query = none) (hfragment : url.fragment = none) :
    ∃ (found : Url) (before : List String), ∀ kind, service.collection kind =
      .ok { found with path := .segments (before ++ [collectionName kind]) } := by
  have hread (kind : Kind) : Url.parse? (dropSlashes service.base.toText ++ path (.item kind "")) =
      (Url.scheme? (Url.stem service.base.toText)).bind fun found =>
        Url.readRest? found.1 (found.2 ++ pathText ["sdk"] ++ pathText [collectionName kind]) := by
    have hnames : ∀ name ∈ ["sdk", collectionName kind], IsSegment name :=
      List.forall_mem_cons.mpr ⟨isSegment_path _ (by decide),
        List.forall_mem_singleton.mpr (isSegment_collectionName kind).1⟩
    rw [Url.parse?_append_pathText _ (toList_path_item kind) hnames]
    simp only [List.append_assoc, ← Url.pathText_append]
    rfl
  have hfound : Url.parse? (dropSlashes service.base.toText ++ path (.item kind "")) = some url := by
    unfold collection parseUrl at h
    split at h
    · next found hfound => rw [hfound, Except.ok.inj h]
    · cases h
  rw [hread] at hfound
  obtain ⟨⟨scheme, rest⟩, hscheme, hrest⟩ := Option.bind_eq_some_iff.mp hfound
  have hsdk : pathText ["sdk"] = ['/', 's', 'd', 'k'] := by decide
  have hlong : 2 ≤ (rest ++ pathText ["sdk"]).length := by
    rw [hsdk, List.length_append]
    simp
  have hnamed : ∃ c ∈ rest ++ pathText ["sdk"], Url.isSlash true c = false :=
    ⟨'s', List.mem_append_right rest (by rw [hsdk]; simp), by decide⟩
  obtain ⟨found, before, hextends⟩ := Url.extends_readRest? hlong hnamed hrest hpath hquery hfragment
  refine ⟨found, before, fun kind => ?_⟩
  obtain ⟨hname, hne⟩ := isSegment_collectionName kind
  rw [collection, parseUrl, hread, hscheme, Option.bind_some, hextends _ hname hne]

end

def tail (scheme : String) (kind : Kind) : Url.Step → List String
  | .stay => [collectionName kind]
  | .up => [""]
  | .onto text => [collectionName kind, Url.encoded scheme text]

section

variable {scheme : String} {kind kind' : Kind} {step step' : Url.Step}

/-- The step leads to an end of the path that is the same for every base. -/
theorem after_collection (before : List String) :
    step.after scheme (before ++ [collectionName kind]) = before ++ tail scheme kind step := by
  have hne : before ++ [collectionName kind] ≠ [""] := fun heq => by
    have hlast := congrArg List.getLast? heq
    rw [List.getLast?_concat] at hlast
    exact (isSegment_collectionName kind).2 (Option.some.inj hlast)
  cases step with
  | stay => rfl
  | up => rw [Url.Step.after, if_neg hne, List.dropLast_concat, tail]
  | onto text => rw [Url.Step.after, if_neg hne, tail, List.append_assoc, List.singleton_append]

theorem tail_isPlainEnd : Url.IsPlainEnd (tail scheme kind step) := by
  cases step with
  | stay => exact Url.isPlainEnd_singleton _
  | up => exact Url.isPlainEnd_singleton _
  | onto text => exact fun heq => absurd heq (isSegment_collectionName kind).2

theorem slash_not_mem_tail : ∀ name ∈ tail scheme kind step, '/' ∉ name.toList := by
  have hname : '/' ∉ (collectionName kind).toList := fun hin =>
    absurd ((isSegment_collectionName kind).1.chars '/' hin).2 (by decide)
  cases step with
  | stay => exact List.forall_mem_singleton.mpr hname
  | up => exact List.forall_mem_singleton.mpr (by decide)
  | onto text =>
    exact List.forall_mem_cons.mpr ⟨hname, List.forall_mem_singleton.mpr Url.slash_not_mem_encoded⟩

/-- Paths of items end alike if their keys lead alike, and of two kinds only where they lead up. -/
theorem tail_eq_iff : tail scheme kind step = tail scheme kind' step' ↔
    step = step' ∧ (kind = kind' ∨ step = .up) := by
  have hkind : collectionName kind = collectionName kind' ↔ kind = kind' := by
    cases kind <;> cases kind' <;> decide
  have hne := (isSegment_collectionName kind).2
  have hne' := (isSegment_collectionName kind').2
  have htext {text text' : List Char} : Url.encoded scheme text = Url.encoded scheme text' ↔ text = text' :=
    ⟨Url.encoded_injective, congrArg _⟩
  cases step <;> cases step' <;> simp [tail, hkind, hne, hne'.symm, htext, and_comm]

/-- What is written of the addresses of items is the same where their paths end alike. -/
theorem toText_tail_iff (found : Url) (before : List String) :
    ({ found with path := .segments (before ++ tail found.scheme kind step) } : Url).toText =
        ({ found with path := .segments (before ++ tail found.scheme kind' step') } : Url).toText ↔
      step = step' ∧ (kind = kind' ∨ step = .up) := by
  rw [Url.toText_append_iff found before tail_isPlainEnd tail_isPlainEnd, ← tail_eq_iff]
  exact ⟨Url.pathText_injective slash_not_mem_tail slash_not_mem_tail, congrArg pathText⟩

end

/-- What the addresses of the items tell, whatever their keys are. -/
structure TellsApart (service : Service) (collection : Kind → Url) (address : Kind → String → Url) : Prop where
  collected : ∀ kind, service.collection kind = .ok (collection kind)
  built : ∀ kind key, service.url (.item kind key) = .ok (address kind key)
  /-- Keys that a path can say are told apart, whatever stands in the address beside the path. In a path of
  files a drive could be named twice. -/
  sayable : ∀ kind, (collection kind).scheme ≠ "file" → ∀ key key', IsSayable key → IsSayable key' →
    (address kind key).toText = (address kind key').toText → key = key'
  /-- At one address are the items whose keys lead alike; what leads up leads out of both collections. -/
  items : ∀ kind, (collection kind).query = none → (collection kind).fragment = none →
    ∀ key kind' key', (address kind key).toText = (address kind' key').toText ↔
      Url.step key = Url.step key' ∧ (kind = kind' ∨ Url.step key = .up)
  /-- A collection is asked for under the keys that lead nowhere. -/
  collections : ∀ kind, (collection kind).query = none → (collection kind).fragment = none →
    ∀ key kind', (address kind key).toText = (collection kind').toText ↔ key ∈ [".", ".."] ∧ kind = kind'

theorem step_of_isSayable {key : String} (h : IsSayable key) : Url.step key = .onto key.toList := by
  have hcounted : Url.counted key = key.toList := h.filter_eq
  have hdots : ¬(key = "." ∨ key = "..") := not_or.mpr ⟨h.not_here, h.not_above⟩
  have hdouble : key.toList ≠ ['.', '.'] := fun heq => h.not_above (String.toList_injective heq)
  have hsingle : key.toList ≠ ['.'] := fun heq => h.not_here (String.toList_injective heq)
  rw [Url.step, if_neg hdots, hcounted, if_neg hdouble, if_neg hsingle]

/-- Only one dot or two add nothing. -/
theorem step_eq_stay_iff {key : String} : Url.step key = .stay ↔ key ∈ [".", ".."] := by
  rw [List.mem_pair, Url.step]
  split
  · next hdots => exact iff_of_true rfl hdots
  · next hdots =>
    refine iff_of_false (fun heq => ?_) hdots
    repeat' split at heq
    all_goals cases heq

/-- Where an item can be asked for, so can all, and their addresses tell their keys as far as keys are added to
paths. -/
theorem exists_tellsApart {service : Service} {known : String}
    (h : ∀ kind, (service.url (.item kind known)).isOk = true) :
    ∃ collection address, service.TellsApart collection address := by
  choose collection parts hcollection hparts using fun kind => exists_segments (h kind)
  have hends (kind : Kind) (hquery : (collection kind).query = none)
      (hfragment : (collection kind).fragment = none) :
      ∃ (found : Url) (before : List String), ∀ (kind : Kind) (step : Url.Step),
        { collection kind with path := .segments (step.after (collection kind).scheme (parts kind)) } =
          { found with path := .segments (before ++ tail found.scheme kind step) } := by
    obtain ⟨found, before, hfound⟩ := exists_collections (hcollection kind) (hparts kind) hquery hfragment
    refine ⟨found, before, fun kind step => ?_⟩
    have hsame := Except.ok.inj ((hcollection kind).symm.trans (hfound kind))
    have hsegments := hparts kind
    rw [hsame] at hsegments ⊢
    rw [← Url.Path.segments.inj hsegments, after_collection]
  refine ⟨collection, fun kind key => { collection kind with
    path := .segments ((Url.step key).after (collection kind).scheme (parts kind)) }, {
      collected := hcollection
      built := fun kind key => url_of_collection (hcollection kind) (hparts kind) key
      sayable := fun kind _ key key' hkey hkey' htext => ?_
      items := fun kind hquery hfragment key kind' key' => ?_
      collections := fun kind hquery hfragment key kind' => ?_ }⟩
  · rw [step_of_isSayable hkey, step_of_isSayable hkey', Url.Step.after, Url.Step.after,
      Url.toText_append_iff _ _ (Url.isPlainEnd_singleton _) (Url.isPlainEnd_singleton _)] at htext
    have hslash (text : List Char) : ∀ name ∈ [Url.encoded (collection kind).scheme text], '/' ∉ name.toList :=
      List.forall_mem_singleton.mpr Url.slash_not_mem_encoded
    have hsegment := List.singleton_inj.mp (Url.pathText_injective (hslash _) (hslash _) htext)
    exact String.toList_injective (Url.encoded_injective hsegment)
  · obtain ⟨found, before, hfound⟩ := hends kind hquery hfragment
    rw [hfound, hfound]
    exact toText_tail_iff found before
  · obtain ⟨found, before, hfound⟩ := hends kind hquery hfragment
    have hcollected : collection kind' =
        { found with path := .segments (before ++ tail found.scheme kind' .stay) } := by
      rw [← hfound kind' .stay, Url.Step.after, ← hparts kind']
    rw [hfound, hcollected, ← step_eq_stay_iff]
    refine (toText_tail_iff found before).trans ⟨fun ⟨hstay, hkind⟩ => ⟨hstay, hkind.resolve_right ?_⟩,
      fun ⟨hstay, hkind⟩ => ⟨hstay, .inl hkind⟩⟩
    rw [hstay]
    exact Url.Step.noConfusion

def loopback : Service where
  base := { scheme := "http", host := some (.ipv6 [0, 0, 0, 0, 0, 0, 0, 1]), path := .segments [""] }
  sdkKey := "sdk-key"

/-- A slash in a key is none of the path, and a percent sign begins no code. -/
theorem loopback_tellsApart : ∃ collection address, loopback.TellsApart collection address ∧
    (address .flags "a/b").toText ≠ (address .flags "a%2Fb").toText ∧
    (address .flags "a/b").toText ≠ (address .segments "a/b").toText := by
  have hknown : ∀ kind, (loopback.url (.item kind "a")).isOk = true := by
    rintro (_ | _) <;> decide +kernel
  obtain ⟨collection, address, htold⟩ := exists_tellsApart hknown
  have hcollected : loopback.collection .flags = .ok { loopback.base with
      path := .segments ["sdk", "latest-flags"] } := by
    decide +kernel
  have hbare := Except.ok.inj ((htold.collected .flags).symm.trans hcollected)
  have hitems := htold.items .flags (by rw [hbare]; rfl) (by rw [hbare]; rfl)
  refine ⟨collection, address, htold, ?_, ?_⟩
  · rw [ne_eq, hitems]
    decide
  · rw [ne_eq, hitems]
    decide

/-- A tab does not count in a key, and a dot is no key of its own. -/
theorem loopback_tells_not_apart : Service.ofAddress "http://[::1]" "sdk-key" false = .ok loopback ∧
    (∃ url, loopback.url (.item .flags "ab") = .ok url ∧ loopback.url (.item .flags "a\tb") = .ok url) ∧
    ∃ url, loopback.collection .flags = .ok url ∧ loopback.url (.item .flags ".") = .ok url := by
  have haddress : Url.parse? "http://[::1]" = some loopback.base := by decide +kernel
  refine ⟨Config.ofAddress_eq haddress (by decide +kernel) false, ?_, ?_⟩
  · exact ⟨{ loopback.base with path := .segments ["sdk", "latest-flags", "ab"] },
      by decide +kernel, by decide +kernel⟩
  · exact ⟨{ loopback.base with path := .segments ["sdk", "latest-flags"] },
      by decide +kernel, by decide +kernel⟩

end Service

end FeatureFlags
