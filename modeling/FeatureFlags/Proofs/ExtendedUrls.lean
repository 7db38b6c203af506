import FeatureFlags.Proofs.UrlTexts
import FeatureFlags.Service

/-!
URLs to which paths are appended. What is appended to the written form of a URL, without the slashes at
its end, extends its path. What is appended to the text that a URL was read from does the same if the end
of that text counts and no query or fragment stands there.
-/
namespace FeatureFlags

open Service (dropSlashes)

namespace Url

/-- The URL whose path goes on with the segments, where the slashes at its end are dropped. -/
def extendedBy (url : Url) (names : List String) : Url :=
  match url.path with
  | .text _ => url
  | .segments segments => { url with path := .segments (withoutFinalSlashes segments ++ names) }

theorem extendedBy_of_path {url : Url} {segments : List String} (h : url.path = .segments segments)
    (names : List String) :
    url.extendedBy names = { url with path := .segments (withoutFinalSlashes segments ++ names) } := by
  rw [extendedBy, h]

/-- What is kept of a path is what does not end in a slash. -/
theorem withoutFinalSlashes_subset {segments : List String} {segment : String}
    (h : segment ∈ withoutFinalSlashes segments) : segment ∈ segments :=
  (List.rdropWhile_prefix _ _).subset h

/-- A URL that goes on is kept as it is written, as the one before. -/
theorem IsKept.extendedBy {url : Url} (h : url.IsKept) {names : List String} (hne : names ≠ [])
    (hnames : ∀ name ∈ names, IsSegment name) : (url.extendedBy names).IsKept := by
  obtain ⟨segments, hpath, -, hsegments⟩ := h.path
  rw [extendedBy_of_path hpath]
  exact {
    network := h.network
    username := h.username
    password := h.password
    host := h.host
    port := h.port
    path := ⟨_, rfl, List.append_ne_nil_of_right_ne_nil _ hne, List.forall_mem_append.mpr
      ⟨fun segment hin => hsegments segment (withoutFinalSlashes_subset hin), hnames⟩⟩ }

theorem toList_dropSlashes (text : String) :
    (dropSlashes text).toList = text.toList.rdropWhile (· = '/') := by
  rw [dropSlashes, String.toList_ofList]
  rfl

/-- A written path without its last slashes is the path of what is kept of the segments. -/
theorem rdropWhile_pathText {before : List Char} (hbefore : before.getLast? ≠ some '/')
    {segments : List String} (h : ∀ segment ∈ segments, IsSegment segment) :
    (before ++ pathText segments).rdropWhile (· = '/') =
      before ++ pathText (withoutFinalSlashes segments) := by
  obtain ⟨hfinal, count, hcount⟩ := exists_rdropWhile (x := "") segments
  have hlast : (before ++ pathText (withoutFinalSlashes segments)).getLast? ≠ some '/' := by
    rcases List.eq_nil_or_concat' (withoutFinalSlashes segments) with hnil | ⟨init, last, hinit⟩
    · rw [hnil, pathText, List.flatMap_nil, List.append_nil]
      exact hbefore
    · have hin : last ∈ segments := withoutFinalSlashes_subset (by rw [hinit]; simp)
      have hne : last ≠ "" := fun hempty => hfinal (by
        change (withoutFinalSlashes segments).getLast? = _
        rw [hinit, hempty, List.getLast?_concat])
      have htext : before ++ pathText (withoutFinalSlashes segments) =
          (before ++ pathText init ++ ['/']) ++ last.toList := by
        rw [hinit, pathText_append]
        simp [pathText]
      rw [htext]
      exact getLast?_append_ne (by simpa using hne) fun hslash =>
        absurd ((h last hin).chars _ hslash).2 (by decide)
  have htext : before ++ pathText segments =
      before ++ pathText (withoutFinalSlashes segments) ++ List.replicate count '/' := by
    rw [← pathText_replicate, List.append_assoc, ← pathText_append]
    exact congrArg _ (congrArg _ hcount)
  rw [htext, rdropWhile_append_replicate hlast]

/-- What is appended to a written URL extends its path. -/
theorem dropSlashes_toText {url : Url} (h : url.IsKept) (hquery : url.query = none)
    (hfragment : url.fragment = none) {path : String} {names : List String}
    (hpath : path.toList = pathText names) :
    dropSlashes url.toText ++ path = (url.extendedBy names).toText := by
  obtain ⟨host, hurl, htext⟩ := h.host
  obtain ⟨segments, hsegments, -, hkept⟩ := h.path
  have hne : url.place host ≠ [] := fun hnil =>
    htext.ne_nil (List.append_eq_nil_iff.mp (List.append_eq_nil_iff.mp hnil).2).1
  have hplace : (url.scheme.toList ++ [':', '/', '/'] ++ url.place host).getLast? ≠ some '/' :=
    getLast?_append_ne hne fun hslash =>
      absurd (isCounted_of_mem_place h htext _ hslash).2 (by decide)
  have hwritten (segments : List String) :
      url.scheme.toList ++ ':' :: '/' :: '/' :: (url.place host ++ pathText segments) =
        url.scheme.toList ++ [':', '/', '/'] ++ url.place host ++ pathText segments := by
    simp
  apply String.toList_injective
  rw [String.toList_append, toList_dropSlashes, toList_toText hurl hsegments hquery hfragment, hwritten,
    rdropWhile_pathText hplace hkept, hpath, List.append_assoc, ← pathText_append, ← hwritten,
    extendedBy_of_path hsegments]
  have hextended : ({ url with path := .segments (withoutFinalSlashes segments ++ names) } : Url).path =
    .segments (withoutFinalSlashes segments ++ names) := rfl
  refine (toList_toText ?_ hextended ?_ ?_).symm
  · exact hurl
  · exact hquery
  · exact hfragment

theorem head_slash (path : List Char) : ∀ c ∈ ('/' :: path).head?, c = '/' :=
  fun _ hc => (Option.some.inj hc).symm

theorem head_slashes (count : Nat) : ∀ c ∈ (List.replicate count '/').head?, c = '/' :=
  fun _ hc => List.eq_of_mem_replicate (List.mem_of_mem_head? hc)

/-- What is appended with a slash is no part of what comes before the first slash. -/
theorem span_append_slash {special : Bool} (text : List Char) {tail : List Char}
    (htail : ∀ c ∈ tail.head?, c = '/') : (text ++ tail).span (!isSlash special ·) =
      ((text.span (!isSlash special ·)).1, (text.span (!isSlash special ·)).2 ++ tail) :=
  span_append text fun c hc => by rw [htail c hc]; rfl

/-- What counts of a text before the slashes at its end. -/
def stem (text : String) : List Char :=
  ((dropSlashes text).toList.dropWhile isEdge).filter (!isIgnored ·)

/-- A text to which a path can be appended, once the slashes at its end are left out. -/
structure IsOpen (text : String) : Prop where
  /-- Blanks at its end would come to count. -/
  end_counts : ∀ c ∈ text.toList.getLast?, isEdge c = false
  /-- An empty user with no host is not read where something follows. -/
  is_named : ∀ scheme, scheme? (stem text) ≠ some (scheme, ['/', '/', '@'])
  /-- After another slash, what is appended would be the host of a file. -/
  is_path : ∀ rest, scheme? (stem text) = some ("file", rest) →
    ∀ c ∈ rest.getLast?, isSlash true c = false

/-- A text that ends in a name, once the slashes at its end are left out. -/
structure EndsInName (text : String) : Prop where
  no_slash : ∀ c ∈ (stem text).getLast?, isSlash true c = false
  no_dots : endsInDots (stem text) = false

theorem clean_append {before after : List Char} (hbefore : ∃ c ∈ before, isEdge c = false)
    (hafter : ∀ c ∈ after, isIgnored c = false)
    (hlast : ∀ c ∈ (before ++ after).getLast?, isEdge c = false) :
    clean (before ++ after) = (before.dropWhile isEdge).filter (!isIgnored ·) ++ after := by
  have hdrop : (before ++ after).dropWhile isEdge = before.dropWhile isEdge ++ after := by
    rw [List.dropWhile_append, if_neg (by simpa using dropWhile_ne_nil hbefore)]
  have hend : (before.dropWhile isEdge ++ after).getLast? = (before ++ after).getLast? := by
    rw [← hdrop, getLast?_dropWhile (hbefore.imp fun c hc => hc.imp_left (List.mem_append_left after))]
  have hreverse : (before.dropWhile isEdge ++ after).reverse.dropWhile isEdge =
      (before.dropWhile isEdge ++ after).reverse :=
    dropWhile_of_head? fun c hc => hlast c (by rwa [List.head?_reverse, hend] at hc)
  have hfilter : after.filter (!isIgnored ·) = after :=
    List.filter_eq_self.mpr fun c hc => by rw [hafter c hc]; rfl
  rw [clean, hdrop, hreverse, List.reverse_reverse, List.filter_append, hfilter]

/-- What is appended to a text comes after the scheme. -/
theorem scheme?_append (text : List Char) {tail : List Char} (htail : ∀ c ∈ tail.head?, c = '/') :
    scheme? (text ++ tail) = (scheme? text).map fun (scheme, rest) => (scheme, rest ++ tail) := by
  have hslash : ∀ c ∈ tail.head?, (c.isAlphanum || isOneOf "+-." c) = false := fun c hc => by
    rw [htail c hc]
    decide
  unfold scheme?
  rw [span_append text hslash]
  generalize text.span (fun c => c.isAlphanum || isOneOf "+-." c) = parts
  obtain ⟨letters, after⟩ := parts
  cases letters with
  | nil => rfl
  | cons first letters =>
    cases after with
    | nil =>
      cases tail with
      | nil => rfl
      | cons c tail => rw [htail c rfl]; rfl
    | cons d after =>
      by_cases hd : d = ':'
      · subst hd
        by_cases hfirst : first.isAlpha = true <;> simp [hfirst]
      · simp [hd]

theorem exists_letters {text rest : List Char} {scheme : String} (h : scheme? text = some (scheme, rest)) :
    ∃ letters, text = letters ++ ':' :: rest := by
  unfold scheme? at h
  split at h
  · next first letters rest' hspan =>
    obtain ⟨htext, -, -⟩ := span_eq_iff.mp hspan
    split at h
    · obtain ⟨-, rfl⟩ := Prod.mk.inj (Option.some.inj h)
      exact ⟨first :: letters, htext⟩
    · cases h
  · cases h

/-- A text is one that ends in no slash, and some slashes. -/
theorem exists_toList_eq (text : String) :
    (dropSlashes text).toList.getLast? ≠ some '/' ∧
      ∃ count, text.toList = (dropSlashes text).toList ++ List.replicate count '/' := by
  rw [toList_dropSlashes]
  exact exists_rdropWhile text.toList

/-- A text without a scheme is none of a URL. -/
theorem exists_counted {text : String} {url : Url} (h : parse? text = some url) :
    ∃ c ∈ (dropSlashes text).toList, isEdge c = false := by
  obtain ⟨-, count, htext⟩ := exists_toList_eq text
  by_contra hall
  simp only [not_exists, not_and, Bool.not_eq_false] at hall
  have hslashes : ∀ c ∈ List.replicate count '/', isEdge c = false := fun c hc => by
    rw [List.eq_of_mem_replicate hc]
    decide
  have hclean : clean text.toList = List.replicate count '/' := by
    rw [htext, clean, List.dropWhile_append_of_pos hall]
    exact clean_of_forall hslashes
  obtain ⟨read, rest, hscheme, -⟩ := exists_body_of_parse? h
  obtain ⟨letters, hletters⟩ := exists_letters hscheme
  have hcolon : ':' ∈ clean text.toList := by rw [hletters]; simp
  rw [hclean] at hcolon
  exact absurd (List.eq_of_mem_replicate hcolon) (by decide)

/-- What a text comes to if its last slashes are left out and something that counts is appended. -/
theorem clean_dropSlashes_append (text : String) {path : List Char} (hne : path ≠ [])
    (hpath : ∀ c ∈ path, isCounted c = true) :
    clean ((dropSlashes text).toList ++ path) = stem text ++ path := by
  have hedge : ∀ c ∈ path, isEdge c = false := fun c hc => isEdge_of_isCounted (hpath c hc)
  by_cases hsome : ∃ c ∈ (dropSlashes text).toList, isEdge c = false
  · refine clean_append hsome (fun c hc => isIgnored_of_not_isEdge (hedge c hc)) ?_
    rw [List.getLast?_append_of_ne_nil _ hne]
    exact fun c hc => hedge c (List.mem_of_getLast? hc)
  · -- All that stands before the path is left out.
    simp only [not_exists, not_and, Bool.not_eq_false] at hsome
    have hnothing : (dropSlashes text).toList.dropWhile isEdge = [] := List.dropWhile_eq_nil_iff.mpr hsome
    rw [stem, hnothing, clean, List.dropWhile_append_of_pos hsome]
    exact clean_of_forall hedge

/-- An open text begins as what is left of it without its last slashes. -/
theorem IsOpen.clean_eq {text : String} (hopen : IsOpen text) {url : Url} (h : parse? text = some url) :
    ∃ count, clean text.toList = stem text ++ List.replicate count '/' := by
  obtain ⟨-, count, htext⟩ := exists_toList_eq text
  refine ⟨count, ?_⟩
  have hend := hopen.end_counts
  rw [htext] at hend ⊢
  refine clean_append (exists_counted h) (fun c hc => ?_) hend
  rw [List.eq_of_mem_replicate hc]
  decide

section

variable {read : Url} {rest : List Char} {count : Nat} {name : List Char}

theorem isSome_file?_host {a b : Char} (ha : isSlash true a = true) (hb : isSlash true b = true)
    (text : List Char) : (file? read (a :: b :: text)).isSome =
      (decide ((text.span (!isSlash true ·)).1 = [] ∨ isDrive (text.span (!isSlash true ·)).1 = true) ||
        (Host.special? (text.span (!isSlash true ·)).1).isSome) := by
  unfold file?
  simp only [ha, hb, and_self, if_true]
  split
  · next hnone => rw [decide_eq_true hnone]; rfl
  · next hsome => rw [decide_eq_false hsome, Option.isSome_map, Bool.false_or]

/-- Where a file is read with slashes after it, it is read with a path there. -/
theorem isSome_file?_append (hrest : ∀ c ∈ rest.getLast?, isSlash true c = false)
    (hname : ∀ c ∈ name.head?, isSlash true c = false)
    (h : (file? read (rest ++ List.replicate count '/')).isSome = true) :
    (file? read (rest ++ '/' :: name)).isSome = true := by
  match rest with
  | [] =>
    cases name with
    | nil => rfl
    | cons c name =>
      have hc : isSlash true c = false := hname c rfl
      simp [file?, hc]
  | [a] =>
    have ha : isSlash true a = false := hrest a rfl
    simp [file?, ha]
  | a :: b :: rest =>
    by_cases hslashes : isSlash true a = true ∧ isSlash true b = true
    · obtain ⟨ha, hb⟩ := hslashes
      rw [List.cons_append, List.cons_append, isSome_file?_host ha hb,
        span_append_slash rest (head_slashes count)] at h
      rw [List.cons_append, List.cons_append, isSome_file?_host ha hb,
        span_append_slash rest (head_slash name)]
      exact h
    · simp [file?, hslashes]

theorem isSome_authority? {read read' : Url} (h : read.scheme = read'.scheme) (isFollowed : Bool)
    (text : List Char) :
    (authority? read isFollowed text).isSome = (authority? read' isFollowed text).isSome := by
  unfold authority?
  simp only [h, Option.bind_eq_bind, Option.isSome_bind]
  split <;> split <;> simp [Option.isSome_bind]

theorem isSome_afterSlashes? (text : List Char) : (afterSlashes? read text).isSome =
    (authority? read (decide ((text.span (!isSlash (isSpecial read.scheme) ·)).2 ≠ []) ||
      read.query.isSome || read.fragment.isSome) (text.span (!isSlash (isSpecial read.scheme) ·)).1).isSome := by
  simp [afterSlashes?, Option.isSome_bind]

theorem isSome_afterSlashes?_append (hrest : rest ≠ ['@'])
    (h : (afterSlashes? read (rest ++ List.replicate count '/')).isSome = true) :
    (afterSlashes? read (rest ++ '/' :: name)).isSome = true := by
  rw [isSome_afterSlashes?, span_append_slash rest (head_slashes count)] at h
  rw [isSome_afterSlashes?, span_append_slash rest (head_slash name)]
  rcases hspan : rest.span (!isSlash (isSpecial read.scheme) ·) with ⟨authority, path⟩
  rw [hspan] at h
  have hfollowed : decide (path ++ '/' :: name ≠ []) = true := by simp
  simp only [hfollowed, Bool.true_or]
  by_cases hat : authority = ['@']
  · have hpath : path ≠ [] := by
      rintro rfl
      obtain ⟨rfl, -, -⟩ := span_eq_iff.mp hspan
      exact hrest (by rw [hat]; rfl)
    have hfollowed : decide (path ++ List.replicate count '/' ≠ []) = true := by simp [hpath]
    simpa only [hfollowed, Bool.true_or] using h
  · rwa [authority?_of_ne hat] at h

/-- Where a URL of the network is read, what is appended to the text comes to its path. -/
theorem exists_path (hnetwork : IsNetwork read.scheme)
    (h : (body? read (rest ++ List.replicate count '/')).isSome = true) :
    ∃ before path, ∃ url : Url, rest = before ++ path ∧ (∀ c ∈ path.head?, isSlash true c = true) ∧
      ∀ tail, (∀ c ∈ tail.head?, c = '/') →
        body? read (rest ++ tail) = some { url with path := .segments (segmentsOf true (path ++ tail)) } := by
  obtain ⟨slashes, place, path, rfl, hparts⟩ := exists_isParted rest
  have hplace : place ≠ [] := by
    rintro rfl
    obtain rfl := hparts.nothing_after rfl
    have hslashes : IsParted (slashes ++ List.replicate count '/') [] [] := {
      slashes_first := List.forall_mem_append.mpr
        ⟨hparts.slashes_first, fun c hc => by rw [List.eq_of_mem_replicate hc]; rfl⟩
      none_inside := hparts.none_inside
      slash_after := hparts.slash_after
      nothing_after := hparts.nothing_after }
    have hbody := body?_network hnetwork hslashes
    rw [authority?_nil hnetwork.isSpecial] at hbody
    simp only [List.append_nil] at hbody h
    rw [hbody] at h
    cases h
  have hbody (tail : List Char) (htail : ∀ c ∈ tail.head?, c = '/') :
      body? read (slashes ++ (place ++ path) ++ tail) = (authority? read false place).map fun part =>
        { part.1 with path := .segments (segmentsOf true (part.2 ++ (path ++ tail))) } := by
    have hextended : IsParted slashes place (path ++ tail) := {
      slashes_first := hparts.slashes_first
      none_inside := hparts.none_inside
      slash_after := by
        cases path with
        | nil => exact fun c hc => by rw [htail c hc]; rfl
        | cons d path => exact hparts.slash_after
      nothing_after := fun hnil => absurd hnil hplace }
    rw [List.append_assoc, List.append_assoc]
    exact body?_network hnetwork hextended
  rw [hbody _ (head_slashes count), Option.isSome_map] at h
  obtain ⟨⟨url, left⟩, hauthority⟩ := Option.isSome_iff_exists.mp h
  have hleft : left = [] := by
    obtain ⟨-, -, -, -, -, -, -, -, hback⟩ := of_authority? hnetwork.isSpecial hauthority
    cases left with
    | nil => rfl
    | cons c left =>
      obtain ⟨rfl, hin⟩ := hback c rfl
      exact absurd (hparts.none_inside _ hin) (by decide)
  refine ⟨slashes ++ place, path, url, (List.append_assoc _ _ _).symm, hparts.slash_after, fun tail htail => ?_⟩
  rw [hbody tail htail, hauthority, hleft]
  rfl

/-- A host of a URL whose hosts are not looked up. -/
theorem isSome_afterSlashes?_all (h : isSpecial read.scheme = false) :
    (afterSlashes? read "all".toList).isSome = true := by
  have hspan : "all".toList.span (!isSlash false ·) = ("all".toList, []) := by decide
  have hlast : (splitLast '@' "all".toList).getD ([], "all".toList) = ([], "all".toList) := by decide
  have hfirst : splitFirst ':' [] = ([], none) := by decide
  have hname : splitHost "all".toList = ("all".toList, []) := by decide
  have hhost : Host.plain? "all".toList = some (.name "all") := by decide
  rw [isSome_afterSlashes?, h, hspan, authority?_of_ne (by decide)]
  unfold authority?
  simp only [h, hlast, hfirst, hname, hhost]
  rfl

/-- Where some URL is read with slashes after it, one is read with a path there, but for an empty user
and a file at a slash. -/
theorem isSome_body?_append (huser : rest ≠ ['/', '/', '@'])
    (hpath : read.scheme = "file" → ∀ c ∈ rest.getLast?, isSlash true c = false)
    (h : (body? read (rest ++ List.replicate count '/')).isSome = true) :
    (body? read (rest ++ "/all".toList)).isSome = true := by
  by_cases hnetwork : IsNetwork read.scheme
  · obtain ⟨_, _, _, -, -, hbody⟩ := exists_path hnetwork h
    rw [hbody "/all".toList (forall_mem_of_all? (by decide))]
    rfl
  · unfold body? at h ⊢
    split
    · next hfile =>
      rw [if_pos hfile] at h
      exact isSome_file?_append (hpath hfile) (forall_mem_of_all? (by decide)) h
    · next hfile =>
      have hspecial : isSpecial read.scheme = false := by
        simpa [isSpecial, hfile, IsNetwork] using hnetwork
      rw [if_neg hfile, if_neg (by rw [hspecial]; exact Bool.false_ne_true)] at h
      rw [if_neg (by rw [hspecial]; exact Bool.false_ne_true)]
      split
      · next after heq =>
        rcases rest with _ | ⟨a, _ | ⟨b, rest⟩⟩
        · exact absurd (List.cons.inj (List.cons.inj heq).2).1 (by decide)
        · rw [← (List.cons.inj (List.cons.inj heq).2).2]
          exact isSome_afterSlashes?_all hspecial
        · obtain ⟨rfl, htail⟩ := List.cons.inj heq
          obtain ⟨rfl, rfl⟩ := List.cons.inj htail
          exact isSome_afterSlashes?_append (fun hat => huser (by rw [hat])) h
      · rfl
      · rfl

end

def readRest? (scheme : String) (rest : List Char) : Option Url :=
  let (rest, fragment) := splitFirst '#' rest
  let (body, query) := splitFirst '?' rest
  let set := if isSpecial scheme then inSpecialQuerySet else inQuerySet
  body? {
    scheme
    path := .text ""
    query := query.map (String.ofList ∘ percentEncode set)
    fragment := fragment.map (String.ofList ∘ percentEncode inFragmentSet) } body

theorem parse?_eq (text : String) :
    parse? text = (scheme? (clean text.toList)).bind fun (scheme, rest) => readRest? scheme rest := rfl

theorem isSome_afterSlashes?_congr {read read' : Url} (hscheme : read.scheme = read'.scheme)
    (hends : (read.query.isSome || read.fragment.isSome) = (read'.query.isSome || read'.fragment.isSome))
    (text : List Char) : (afterSlashes? read text).isSome = (afterSlashes? read' text).isSome := by
  rw [isSome_afterSlashes?, isSome_afterSlashes?, Bool.or_assoc, Bool.or_assoc, hends, hscheme,
    isSome_authority? hscheme]

/-- Whether a URL is read hangs on whether there is a query or a fragment, not on what they say. -/
theorem isSome_body?_of_sameEnds {read read' : Url} {text : List Char}
    (h : (body? read text).isSome = true) (hscheme : read'.scheme = read.scheme)
    (hends : (read'.query.isSome || read'.fragment.isSome) = (read.query.isSome || read.fragment.isSome)) :
    (body? read' text).isSome = true := by
  have hfile : (file? read' text).isSome = (file? read text).isSome := by
    unfold file?
    split
    · split
      · split
        split
        · rfl
        · rw [Option.isSome_map, Option.isSome_map]
      · rfl
    · rfl
  rw [← h]
  unfold body?
  rw [hscheme]
  split
  · exact hfile
  · split
    · exact isSome_afterSlashes?_congr hscheme hends _
    · split
      · exact isSome_afterSlashes?_congr hscheme hends _
      · rfl
      · rfl

/-- The same of what stands after the scheme, whether a query or a fragment takes the path or not. -/
theorem isSome_readRest?_append {scheme : String} {rest : List Char} {count : Nat}
    (huser : rest ≠ ['/', '/', '@'])
    (hpath : scheme = "file" → ∀ c ∈ rest.getLast?, isSlash true c = false)
    (h : (readRest? scheme (rest ++ List.replicate count '/')).isSome = true) :
    (readRest? scheme (rest ++ "/all".toList)).isSome = true := by
  have hslashes (mark : Char) (hmark : mark ≠ '/') : mark ∉ List.replicate count '/' :=
    fun hin => hmark (List.eq_of_mem_replicate hin)
  by_cases hsharp : '#' ∈ rest
  · obtain ⟨before, after, rfl, hbefore⟩ := List.eq_append_cons_of_mem hsharp
    simp only [readRest?, List.append_assoc, List.cons_append, splitFirst_append hbefore] at h ⊢
    exact isSome_body?_of_sameEnds h rfl (by simp)
  · have hnone (tail : List Char) (htail : '#' ∉ tail) :
        splitFirst '#' (rest ++ tail) = (rest ++ tail, none) :=
      splitFirst_of_not_mem fun hin => (List.mem_append.mp hin).elim hsharp htail
    simp only [readRest?, hnone _ (hslashes '#' (by decide)), hnone "/all".toList (by decide)] at h ⊢
    by_cases hquestion : '?' ∈ rest
    · obtain ⟨before, after, hparts, hbefore⟩ := List.eq_append_cons_of_mem hquestion
      have hquery (tail : List Char) : splitFirst '?' (rest ++ tail) = (before, some (after ++ tail)) := by
        rw [hparts, List.append_assoc]
        exact splitFirst_append hbefore _
      simp only [hquery] at h ⊢
      exact isSome_body?_of_sameEnds h rfl (by simp)
    · have hnone (tail : List Char) (htail : '?' ∉ tail) :
          splitFirst '?' (rest ++ tail) = (rest ++ tail, none) :=
        splitFirst_of_not_mem fun hin => (List.mem_append.mp hin).elim hquestion htail
      simp only [hnone _ (hslashes '?' (by decide)), hnone "/all".toList (by decide)] at h ⊢
      exact isSome_body?_append huser hpath h

theorem readRest?_of_not_mem {scheme : String} {text : List Char} (hsharp : '#' ∉ text)
    (hquestion : '?' ∉ text) : readRest? scheme text = body? { scheme, path := .text "" } text := by
  simp only [readRest?, splitFirst_of_not_mem hsharp, splitFirst_of_not_mem hquestion, Option.map_none]

/-- No query and no fragment means that their signs are not there. -/
theorem not_mem_of_readRest? {scheme : String} {text : List Char} {url : Url}
    (h : readRest? scheme text = some url) (hquery : url.query = none) (hfragment : url.fragment = none) :
    '#' ∉ text ∧ '?' ∉ text := by
  have hsharp : '#' ∉ text := by
    intro hin
    obtain ⟨before, after, rfl, hbefore⟩ := List.eq_append_cons_of_mem hin
    simp only [readRest?, splitFirst_append hbefore] at h
    have := (sameEnds_of_body? h).2.2
    rw [hfragment] at this
    cases this
  refine ⟨hsharp, fun hin => ?_⟩
  obtain ⟨before, after, rfl, hbefore⟩ := List.eq_append_cons_of_mem hin
  simp only [readRest?, splitFirst_of_not_mem hsharp, splitFirst_append hbefore] at h
  have := (sameEnds_of_body? h).2.1
  rw [hquery] at this
  cases this

/-- What an open text and what is appended to it are read as. -/
theorem IsOpen.exists_rest {text : String} (hopen : IsOpen text) {url : Url} (h : parse? text = some url) :
    ∃ scheme before rest count, stem text = before ++ rest ∧
      scheme? (stem text) = some (scheme, rest) ∧
      readRest? scheme (rest ++ List.replicate count '/') = some url ∧
      ∀ path name, path.toList = '/' :: name → (∀ c ∈ name, isCounted c = true) →
        parse? (dropSlashes text ++ path) = readRest? scheme (rest ++ '/' :: name) := by
  obtain ⟨count, hclean⟩ := hopen.clean_eq h
  have hread := h
  rw [parse?_eq, hclean, scheme?_append _ (head_slashes count)] at hread
  cases hscheme : scheme? (stem text) with
  | none => rw [hscheme] at hread; cases hread
  | some found =>
    obtain ⟨scheme, rest⟩ := found
    rw [hscheme] at hread
    obtain ⟨letters, hletters⟩ := exists_letters hscheme
    refine ⟨scheme, letters ++ [':'], rest, count, by simp [hletters], rfl, hread,
      fun path name hpath hname => ?_⟩
    have hcounted : ∀ c ∈ '/' :: name, isCounted c = true := List.forall_mem_cons.mpr ⟨by decide, hname⟩
    rw [parse?_eq, String.toList_append, hpath,
      clean_dropSlashes_append text (List.cons_ne_nil _ _) hcounted, scheme?_append _ (head_slash name), hscheme]
    rfl

/-- The path of the stream is read where it is appended, whatever the scheme. -/
theorem IsOpen.isSome_parse? {text : String} (hopen : IsOpen text) {url : Url}
    (h : parse? text = some url) : (parse? (dropSlashes text ++ "/all")).isSome = true := by
  obtain ⟨scheme, before, rest, count, hstem, hscheme, hread, happend⟩ := hopen.exists_rest h
  have hall : "/all".toList = '/' :: "all".toList := by decide
  rw [happend "/all" "all".toList hall (forall_mem_of_all (by decide)), ← hall]
  refine isSome_readRest?_append (fun heq => ?_) (fun hfile => ?_) (by rw [hread]; rfl)
  · exact hopen.is_named scheme (by rw [hscheme, heq])
  · exact hopen.is_path rest (by rw [hscheme, hfile])

/-- A path that is appended to the text of a URL of the network, without query or fragment, extends the
path of the URL. -/
theorem IsOpen.parse?_extended {text : String} (hopen : IsOpen text) {url : Url}
    (h : parse? text = some url) (hnetwork : IsNetwork url.scheme) (hquery : url.query = none)
    (hfragment : url.fragment = none) (hends : EndsInName text) {path : String}
    {names : List String} (hpath : path.toList = pathText names) (hne : names ≠ [])
    (hnames : ∀ name ∈ names, IsSegment name) :
    parse? (dropSlashes text ++ path) = some (url.extendedBy names) := by
  obtain ⟨scheme, before, rest, count, hstem, hscheme, hread, happend⟩ := hopen.exists_rest h
  obtain ⟨name, hname⟩ : ∃ name, pathText names = '/' :: name := by
    obtain ⟨first, names, rfl⟩ := List.exists_cons_of_ne_nil hne
    exact ⟨_, rfl⟩
  have hcounted : ∀ c ∈ '/' :: name, isCounted c = true := hname ▸ isCounted_of_mem_pathText hnames
  obtain ⟨hsharp, hquestion⟩ := not_mem_of_readRest? hread hquery hfragment
  obtain ⟨hnosharp, hnoquestion⟩ := not_mem_of_isCounted hcounted
  have hmarks : '#' ∉ rest ++ '/' :: name ∧ '?' ∉ rest ++ '/' :: name :=
    ⟨List.not_mem_append (mt (List.mem_append_left _) hsharp) hnosharp,
      List.not_mem_append (mt (List.mem_append_left _) hquestion) hnoquestion⟩
  rw [readRest?_of_not_mem hsharp hquestion] at hread
  rw [happend path name (hpath.trans hname) fun c hc => hcounted c (List.mem_cons_of_mem _ hc),
    readRest?_of_not_mem hmarks.1 hmarks.2]
  have hread' : IsNetwork ({ scheme, path := .text "" } : Url).scheme :=
    (sameEnds_of_body? hread).1 ▸ hnetwork
  obtain ⟨front, place, found, hrest, hhead, hbody⟩ := exists_path hread' (by rw [hread]; rfl)
  have hurl := hread.symm.trans (hbody _ (head_slashes count))
  obtain rfl := Option.some.inj hurl
  have hparts : stem text = (before ++ front) ++ place := by rw [hstem, hrest, List.append_assoc]
  have hlast : ∀ c ∈ place.getLast?, isSlash true c = false := fun c hc =>
    hends.no_slash c (by rw [hparts]; exact List.mem_getLast?_append_of_mem_getLast? hc)
  have hnotdots : endsInDots place = false := endsInDots_of_append hhead (hparts ▸ hends.no_dots)
  rw [hbody ('/' :: name) (head_slash name), ← hname,
    segmentsOf_extended hhead hlast hnotdots count hne hnames]
  rfl

end Url

end FeatureFlags
