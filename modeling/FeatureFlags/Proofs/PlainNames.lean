import FeatureFlags.Proofs.AsciiTables
import FeatureFlags.Proofs.EventLines
import FeatureFlags.Proofs.ExtendedUrls

/-!
Hosts that are written in ASCII. A name of small letters, digits and whatever else may stand in names is
read as it stands, and an address of four bytes is read back from the numbers it is written in.
-/
namespace FeatureFlags.Url

theorem intercalate_splitAt (separator : Char) (text : List Char) :
    [separator].intercalate (splitAt (· == separator) text) = text := by
  induction text with
  | nil => rfl
  | cons c rest ih =>
    obtain ⟨part, parts, hparts⟩ := List.exists_cons_of_ne_nil
      (splitAt_ne_nil rest : splitAt (· == separator) rest ≠ [])
    rw [hparts] at ih
    rw [splitAt, hparts]
    split
    · next hc =>
      rw [List.intercalate_cons_cons, ih, beq_iff_eq.mp hc]
      rfl
    · cases parts with
      | nil => simpa using ih
      | cons next parts =>
        rw [List.intercalate_cons_cons] at ih ⊢
        rw [← ih]
        rfl

/-- Parts that hold no separator are found again between separators. -/
theorem splitAt_intercalate {separator : Char} {parts : List (List Char)} (hne : parts ≠ [])
    (h : ∀ part ∈ parts, separator ∉ part) :
    splitAt (· == separator) ([separator].intercalate parts) = parts := by
  have hpart {part : List Char} (hmem : part ∈ parts) : ∀ c ∈ part, (c == separator) = false :=
    fun c hc => beq_eq_false_iff_ne.mpr fun heq => h part hmem (heq ▸ hc)
  induction parts with
  | nil => exact absurd rfl hne
  | cons part parts ih =>
    cases parts with
    | nil => rw [List.intercalate_singleton, splitAt_of_forall (hpart List.mem_cons_self)]
    | cons next parts =>
      have hrest := ih (List.cons_ne_nil next parts) (fun part hmem => h part (List.mem_cons_of_mem _ hmem))
        fun hmem => hpart (List.mem_cons_of_mem _ hmem)
      have hsplit (after : List Char) : splitAt (· == separator) (part ++ separator :: after) =
          splitAt (· == separator) part ++ splitAt (· == separator) after :=
        @splitAt_append (· == separator) separator (beq_self_eq_true separator) part after
      rw [List.intercalate_cons_cons, List.append_assoc, List.singleton_append, hsplit,
        splitAt_of_forall (hpart List.mem_cons_self), hrest]
      rfl

namespace Domain

/-- An ASCII text without capital letters, of which no part is marked as an encoded one. -/
structure IsSmall (text : List Char) : Prop where
  ascii : ∀ c ∈ text, c.toNat < 0x80
  small : ∀ c ∈ text, c.isUpper = false
  unmarked : ∀ part ∈ splitAt (· == '.') text, marker.isPrefixOf part = false

variable {text : List Char}

theorem IsSmall.mapM_mapped? (h : IsSmall text) : text.mapM mapped? = some (text.map ([·])) := by
  have hascii := h.ascii
  have hsmall := h.small
  clear h
  induction text with
  | nil => rfl
  | cons c rest ih =>
    obtain ⟨hc, hascii⟩ := List.forall_mem_cons.mp hascii
    obtain ⟨hcapital, hsmall⟩ := List.forall_mem_cons.mp hsmall
    rw [List.mapM_cons, mapped?_ascii hc hcapital, ih hascii hsmall]
    rfl

theorem mapM_read? {parts : List (List Char)} (hascii : ∀ part ∈ parts, isAscii part = true)
    (hunmarked : ∀ part ∈ parts, marker.isPrefixOf part = false) :
    parts.mapM read? = some (parts.map fun part => ⟨part, part⟩) := by
  induction parts with
  | nil => rfl
  | cons part parts ih =>
    obtain ⟨hpart, hascii⟩ := List.forall_mem_cons.mp hascii
    obtain ⟨hmark, hunmarked⟩ := List.forall_mem_cons.mp hunmarked
    rw [List.mapM_cons, ih hascii hunmarked, read?, if_pos hpart, if_neg (by simp [hmark])]
    rfl

theorem joinersFit_ascii (before : List Char) (hascii : ∀ c ∈ text, c.toNat < 0x80) :
    joinersFit before text = true := by
  induction text generalizing before with
  | nil => rfl
  | cons c rest ih =>
    obtain ⟨hc, hrest⟩ := List.forall_mem_cons.mp hascii
    have hjoiner : c ≠ '\u200D' ∧ c ≠ '\u200C' :=
      ⟨fun h => absurd (h ▸ hc) (by decide), fun h => absurd (h ▸ hc) (by decide)⟩
    simp [joinersFit, hjoiner, ih _ hrest]

/-- A part in ASCII is sound unless it has a character that stands in no name. -/
theorem isSound_ascii {label : Label} (hascii : ∀ c ∈ label.text, c.toNat < 0x80) :
    label.isSound = !label.text.any isForbidden := by
  have hmarks : label.text.head?.any marks.contains = false := by
    cases hhead : label.text.head? with
    | none => rfl
    | some c => exact marks_ascii (hascii c (List.mem_of_head? hhead))
  simp [Label.isSound, hmarks, joinersFit_ascii [] hascii]

/-- All ASCII characters run from left to right, so there is nothing to fit. -/
theorem directionsFit_ascii {labels : List Label}
    (hascii : ∀ label ∈ labels, ∀ c ∈ label.text, c.toNat < 0x80) : directionsFit labels = true := by
  have hleft {c : Char} (hc : c.toNat < 0x80) : direction c ≠ .right ∧ direction c ≠ .arabic := by
    simp only [direction, rightToLeft_ascii hc, arabicDigits_ascii hc, Bool.false_eq_true, if_false]
    repeat' split
    all_goals exact ⟨Direction.noConfusion, Direction.noConfusion⟩
  have hnone : ((labels.map fun label => label.text.map direction).any fun label =>
      label.contains .right || label.contains .arabic) = false := by
    simp only [List.any_map, List.any_eq_false, Function.comp_apply, Bool.or_eq_true,
      List.contains_iff_mem, List.mem_map, not_or, not_exists, not_and]
    exact fun label hlabel =>
      ⟨fun c hc => (hleft (hascii label hlabel c hc)).1, fun c hc => (hleft (hascii label hlabel c hc)).2⟩
  rw [directionsFit]
  simp only [hnone, Bool.not_false, Bool.true_or]

theorem any_isForbidden_splitAt (text : List Char) :
    (splitAt (· == '.') text).any (·.any isForbidden) = text.any isForbidden := by
  rw [Bool.eq_iff_iff, List.any_eq_true, List.any_eq_true]
  constructor
  · rintro ⟨part, hpart, hany⟩
    obtain ⟨c, hc, hforbidden⟩ := List.any_eq_true.mp hany
    exact ⟨c, (mem_of_mem_splitAt hpart hc).1, hforbidden⟩
  · rintro ⟨c, hc, hforbidden⟩
    rw [← intercalate_splitAt '.' text] at hc
    rcases mem_intercalate hc with hdot | ⟨part, hpart, hc⟩
    · rw [List.mem_singleton.mp hdot] at hforbidden
      exact absurd hforbidden (by decide)
    · exact ⟨part, hpart, List.any_eq_true.mpr ⟨c, hc, hforbidden⟩⟩

/-- Such a text is a name as it stands, unless it has a character that stands in no name. -/
theorem IsSmall.ofText? (h : IsSmall text) :
    ofText? text = if text.any isForbidden then none else some text := by
  let parts := splitAt (· == '.') text
  have hparts : ∀ part ∈ parts, ∀ c ∈ part, c.toNat < 0x80 :=
    fun part hpart c hc => h.ascii c (mem_of_mem_splitAt hpart hc).1
  have hread : parts.mapM read? = some (parts.map fun part => ⟨part, part⟩) :=
    mapM_read? (fun part hpart => List.all_eq_true.mpr fun c hc => decide_eq_true (hparts part hpart c hc))
      h.unmarked
  have hfit : directionsFit (parts.map fun part => ⟨part, part⟩) = true :=
    directionsFit_ascii (List.forall_mem_map.mpr hparts)
  have hsound : (parts.map fun part => (⟨part, part⟩ : Label)).all Label.isSound =
      !text.any isForbidden := by
    rw [List.all_map, ← any_isForbidden_splitAt, List.not_any_eq_all_not, Bool.eq_iff_iff,
      List.all_eq_true, List.all_eq_true]
    exact forall₂_congr fun part hpart => by rw [Function.comp_apply, isSound_ascii (hparts part hpart)]
  have hascii : (parts.map fun part => (⟨part, part⟩ : Label)).map (·.ascii) = parts := by
    rw [List.map_map]
    exact List.map_id parts
  have hflat : (text.map ([·])).flatten = text := by
    rw [← List.flatMap_def, List.flatMap_singleton']
  simp only [Domain.ofText?, h.mapM_mapped?, Option.bind_eq_bind, Option.bind_some, hflat,
    Unicode.Normal.form_ascii h.ascii]
  change (parts.mapM read?).bind _ = _
  rw [hread, Option.bind_some, hsound, hfit, hascii, intercalate_splitAt, Bool.and_true]
  cases text.any isForbidden <;> rfl

end Domain

namespace Host

variable {text : List Char}

theorem percentDecode_of_not_mem (h : '%' ∉ text) : percentDecode text = bytesOf text := by
  induction text with
  | nil => rfl
  | cons c rest ih =>
    rw [percentDecode_cons (fun hc => h (hc ▸ List.mem_cons_self)),
      ih (fun hrest => h (List.mem_cons_of_mem c hrest))]
    rfl

/-- What an ASCII text that is neither in brackets nor encoded is read as. -/
theorem special?_of_isSmall (h : Domain.IsSmall text) (hbracket : bracketed? text = none)
    (hpercent : '%' ∉ text) :
    special? text =
      if text.any Domain.isForbidden || text.isEmpty then none
      else if endsInNumber text then (ipv4? text).map .ipv4
      else some (.name (String.ofList text)) := by
  have hdecoded : String.fromUTF8? (percentDecode text).toByteArray = some (String.ofList text) := by
    have hbytes : bytesOf text = EventStream.utf8 (String.ofList text) := by
      rw [EventStream.utf8_eq_flatMap, String.toList_ofList]
      rfl
    rw [percentDecode_of_not_mem hpercent, hbytes, EventStream.fromUTF8?_utf8]
  rw [special?, hbracket]
  simp only [hdecoded, Option.bind_eq_bind, Option.bind_some, String.toList_ofList, h.ofText?]
  cases text.any Domain.isForbidden with
  | true => rfl
  | false =>
    cases text with
    | nil => rfl
    | cons c rest => rfl

/-- A name of ASCII characters that stand in names, with no capital letters, no part that is marked as
encoded and no number at its end. -/
structure IsPlainName (text : List Char) : Prop where
  small : Domain.IsSmall text
  allowed : ∀ c ∈ text, Domain.isForbidden c = false
  ne_nil : text ≠ []
  no_number : endsInNumber text = false

/-- Without forbidden characters it is an address if it ends in a number, and else a name. -/
theorem special?_of_allowed (h : Domain.IsSmall text) (hne : text ≠ [])
    (hallowed : ∀ c ∈ text, Domain.isForbidden c = false) :
    special? text =
      if endsInNumber text then (ipv4? text).map .ipv4 else some (.name (String.ofList text)) := by
  have hbracket : bracketed? text = none := by
    unfold bracketed?
    split
    · exact absurd (hallowed _ List.mem_cons_self) (by decide)
    · rfl
  have hnone : text.any Domain.isForbidden = false := by simpa [List.any_eq_false] using hallowed
  rw [special?_of_isSmall h hbracket fun hmem => absurd (hallowed _ hmem) (by decide), hnone,
    List.isEmpty_eq_false_iff.mpr hne]
  rfl

theorem IsPlainName.special? (h : IsPlainName text) :
    special? text = some (.name (String.ofList text)) := by
  rw [special?_of_allowed h.small h.ne_nil h.allowed, h.no_number]
  rfl

def bytes (address : Nat) : List Nat :=
  [address >>> 24, (address >>> 16) % 256, (address >>> 8) % 256, address % 256]

theorem toList_ipv4 (address : Nat) :
    (Host.ipv4 address).toText.toList = ['.'].intercalate ((bytes address).map (Nat.toDigits 10)) := by
  rw [Host.toText, String.toList_intercalate, List.map_map]
  congr 1
  exact List.map_congr_left fun n _ => toList_toString n

theorem isDigit_of_mem_bytes {address : Nat} {part : List Char}
    (h : part ∈ (bytes address).map (Nat.toDigits 10)) : part ≠ [] ∧ ∀ c ∈ part, c.isDigit = true := by
  obtain ⟨n, -, rfl⟩ := List.mem_map.mp h
  exact ⟨Nat.toDigits_ne_nil, fun c hc => Nat.isDigit_of_mem_toDigits (by decide) (by decide) hc⟩

theorem splitAt_ipv4 (address : Nat) :
    splitAt (· == '.') (Host.ipv4 address).toText.toList = (bytes address).map (Nat.toDigits 10) := by
  rw [toList_ipv4, splitAt_intercalate (by simp [bytes])]
  exact fun part hpart hdot => absurd ((isDigit_of_mem_bytes hpart).2 _ hdot) (by decide)

theorem mem_ipv4 {address : Nat} {c : Char} (h : c ∈ (Host.ipv4 address).toText.toList) :
    c = '.' ∨ c.isDigit = true := by
  rw [toList_ipv4] at h
  rcases mem_intercalate h with h | ⟨part, hpart, h⟩
  · exact .inl (List.mem_singleton.mp h)
  · exact .inr ((isDigit_of_mem_bytes hpart).2 c h)

theorem of_isDigit {c : Char} (h : c.isDigit = true) : Domain.isPlain c = true ∧ c.isUpper = false := by
  have hplain : Domain.isPlain c = true := Domain.isPlain_of_isAlphanum (by simp [Char.isAlphanum, h])
  exact ⟨hplain, forall_ascii (P := fun c => c.isDigit = true → c.isUpper = false) (by decide)
    (Domain.isPlain_iff.mp hplain).1 h⟩

theorem isPlain_of_mem_ipv4 {address : Nat} {c : Char} (h : c ∈ (Host.ipv4 address).toText.toList) :
    Domain.isPlain c = true ∧ c.isUpper = false := by
  rcases mem_ipv4 h with rfl | hdigit
  · decide
  · exact of_isDigit hdigit

theorem isSmall_ipv4 (address : Nat) : Domain.IsSmall (Host.ipv4 address).toText.toList where
  ascii c hc := (Domain.isPlain_iff.mp (isPlain_of_mem_ipv4 hc).1).1
  small c hc := (isPlain_of_mem_ipv4 hc).2
  unmarked part hpart := by
    rw [splitAt_ipv4] at hpart
    obtain ⟨hne, hdigits⟩ := isDigit_of_mem_bytes hpart
    obtain ⟨c, rest, rfl⟩ := List.exists_cons_of_ne_nil hne
    rw [← Bool.not_eq_true, List.isPrefixOf_iff_prefix]
    rintro ⟨after, hmarker⟩
    have hfirst : 'x' = c := (List.cons.inj hmarker).1
    exact absurd (hdigits c List.mem_cons_self) (hfirst ▸ by decide)

theorem labels_ipv4 (address : Nat) :
    labels (Host.ipv4 address).toText.toList = (bytes address).map (Nat.toDigits 10) := by
  have hlast : ((bytes address).map (Nat.toDigits 10)).getLast? ≠ some [] := by
    simp [bytes, Nat.toDigits_ne_nil]
  rw [labels, splitAt_ipv4]
  exact if_neg hlast

theorem endsInNumber_ipv4 (address : Nat) :
    endsInNumber (Host.ipv4 address).toText.toList = true := by
  have hlast : ((bytes address).map (Nat.toDigits 10)).getLast? = some (Nat.toDigits 10 (address % 256)) :=
    rfl
  have hdigits : (Nat.toDigits 10 (address % 256)).all Char.isDigit = true :=
    List.all_eq_true.mpr fun c hc => Nat.isDigit_of_mem_toDigits (by decide) (by decide) hc
  rw [endsInNumber, labels_ipv4, hlast]
  simp [hdigits, Nat.toDigits_ne_nil]

theorem ipv4Number?_toDigits : ∀ n < 256, ipv4Number? (Nat.toDigits 10 n) = some n := by decide +kernel

/-- An address of four bytes is read back from its numbers. -/
theorem ipv4?_toText {address : Nat} (h : address < 2 ^ 32) :
    ipv4? (Host.ipv4 address).toText.toList = some address := by
  have hhigh : address >>> 24 < 256 := by
    rw [Nat.shiftRight_eq_div_pow]
    omega
  have hnumbers : ((bytes address).map (Nat.toDigits 10)).mapM ipv4Number? = some (bytes address) := by
    simp [bytes, ipv4Number?_toDigits _ hhigh, ipv4Number?_toDigits _ (Nat.mod_lt _ (by decide : 0 < 256))]
  have hbelow : [address >>> 24, (address >>> 16) % 256, (address >>> 8) % 256].all (· < 256) = true := by
    simp [hhigh, Nat.mod_lt]
  have hlast : address % 256 < 1 <<< (8 * (4 - 3)) := Nat.mod_lt _ (by decide)
  rw [ipv4?, labels_ipv4, hnumbers]
  refine (if_pos ⟨Nat.lt_add_one 3, hbelow, hlast⟩).trans (congrArg some ?_)
  simp only [bytes, List.getLast_cons_cons, List.getLast_singleton, List.dropLast, List.length_cons,
    List.length_nil, List.foldl_cons, List.foldl_nil, Nat.shiftRight_eq_div_pow, Nat.shiftLeft_eq]
  norm_num
  omega

/-- A host whose written form is read back. -/
def IsPlain : Host → Prop
  | .name text => IsPlainName text.toList
  | .ipv4 address => address < 2 ^ 32
  | .ipv6 _ => False

/-- A plain name or an address of four bytes is read back from its written form. -/
theorem special?_toText {host : Host} (h : host.IsPlain) : special? host.toText.toList = some host := by
  cases host with
  | name name =>
    rw [Host.toText, IsPlainName.special? h, String.ofList_toList]
  | ipv4 address =>
    have hne : (Host.ipv4 address).toText.toList ≠ [] := (isText_ipv4 address).ne_nil
    have hallowed : ∀ c ∈ (Host.ipv4 address).toText.toList, Domain.isForbidden c = false :=
      fun c hc => (Domain.isPlain_iff.mp (isPlain_of_mem_ipv4 hc).1).2
    rw [special?_of_allowed (isSmall_ipv4 address) hne hallowed, endsInNumber_ipv4, if_pos rfl,
      ipv4?_toText h]
    rfl
  | ipv6 pieces => exact False.elim h

end Host

theorem splitHost_of_not_mem {name : List Char} (hcolon : ':' ∉ name) (hbracket : '[' ∉ name) :
    splitHost name = (name, []) := by
  have hspan : name.span (· != ':') = (name, []) :=
    span_eq_iff.mpr ⟨(List.append_nil _).symm, fun c hc => bne_iff_ne.mpr fun heq => hcolon (heq ▸ hc),
      fun c hc => by cases hc⟩
  unfold splitHost
  split
  · exact absurd List.mem_cons_self hbracket
  · exact hspan

/-- A host that neither a user nor a port stands beside. -/
theorem authority?_of_name {read : Url} (hspecial : isSpecial read.scheme = true) {name : List Char}
    (hne : name ≠ []) (hname : ∀ mark ∈ ['@', ':', '['], mark ∉ name) :
    authority? read false name = (Host.special? name).map fun host => ({ read with
      username := "", password := "", host := some host, port := none }, []) := by
  have hlast : (splitLast '@' name).getD ([], name) = ([], name) := by
    rw [splitLast_of_not_mem (hname '@' (by decide))]
    rfl
  have hfirst : splitFirst ':' [] = ([], none) := rfl
  unfold authority?
  simp only [hlast, hfirst, splitHost_of_not_mem (hname ':' (by decide)) (hname '[' (by decide)), hspecial]
  cases hhost : Host.special? name with
  | none => simp [hne, guard]
  | some host =>
    simp [hne, guard]
    rfl

/-- A text of the network with a host, but with no user, port, query and fragment. -/
structure IsNamed (text scheme : String) (name path : List Char) : Prop where
  network : IsNetwork scheme
  read : scheme? (clean text.toList) = some (scheme, '/' :: '/' :: (name ++ path))
  ne_nil : name ≠ []
  inside : ∀ c ∈ name, isSlash true c = false ∧ c ∉ ['@', ':', '[', '#', '?']
  after : ∀ c ∈ path.head?, isSlash true c = true
  ends : ∀ c ∈ path, c ∉ ['#', '?']

/-- Whether such a text is read depends on nothing but the name of its host. -/
theorem IsNamed.parse?_eq {text scheme : String} {name path : List Char} (h : IsNamed text scheme name path) :
    parse? text = (Host.special? name).map fun host =>
      { scheme, host := some host, path := .segments (segmentsOf true path) } := by
  have hparts : IsParted ['/', '/'] name path :=
    ⟨by simp [isSlash], fun c hc => (h.inside c hc).1, h.after, fun hnil => absurd hnil h.ne_nil⟩
  have hnot {mark : Char} (hmark : mark ∈ ['@', ':', '[', '#', '?']) : mark ∉ name :=
    fun hc => (h.inside _ hc).2 hmark
  have hends {mark : Char} (hmark : mark ∈ ['#', '?']) : mark ∉ '/' :: '/' :: (name ++ path) := by
    have hslash : mark ≠ '/' := fun heq => absurd (heq ▸ hmark) (by decide)
    have hpath : mark ∉ path := fun hc => h.ends _ hc hmark
    simp only [List.mem_cons, List.mem_append, hslash, hpath, or_false, false_or]
    exact hnot (List.subset_def.mp (by decide) hmark)
  rw [Url.parse?_eq, h.read, Option.bind_some]
  change readRest? scheme ('/' :: '/' :: (name ++ path)) = _
  rw [readRest?_of_not_mem (hends (by decide)) (hends (by decide))]
  refine (body?_network h.network hparts).trans ?_
  rw [authority?_of_name h.network.isSpecial h.ne_nil fun mark hmark => hnot (List.subset_def.mp (by decide) hmark)]
  cases Host.special? name <;> rfl

end FeatureFlags.Url
