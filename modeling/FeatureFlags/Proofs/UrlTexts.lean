import FeatureFlags.Proofs.HostTexts
import FeatureFlags.Proofs.UrlPaths

/-!
URLs that are written and read back. When a URL of the network is read, each of its parts is kept in the
form that it is written in: what is written of it is then read as the URL again, if its host is.
-/
namespace FeatureFlags.Url

/-- A scheme whose hosts are looked up. -/
def IsNetwork (scheme : String) : Prop := (defaultPort? scheme).isSome = true

theorem IsNetwork.cases {scheme : String} (h : IsNetwork scheme) :
    scheme = "http" ∨ scheme = "https" ∨ scheme = "ws" ∨ scheme = "wss" ∨ scheme = "ftp" := by
  unfold IsNetwork defaultPort? specialPorts at h
  simp only [List.lookup] at h
  repeat' split at h
  all_goals simp_all

theorem IsNetwork.isSpecial {scheme : String} (h : IsNetwork scheme) : isSpecial scheme = true := by
  rw [Url.isSpecial, h, Bool.or_true]

theorem IsNetwork.ne_file {scheme : String} (h : IsNetwork scheme) : scheme ≠ "file" := by
  rintro rfl
  exact absurd h (by unfold IsNetwork; decide)

/-- A URL of the network as it is kept: its parts need not be encoded, and it has a host and a path. -/
structure IsKept (url : Url) : Prop where
  network : IsNetwork url.scheme
  username : ∀ c ∈ url.username.toList, inUserSet c = false
  password : ∀ c ∈ url.password.toList, inUserSet c = false
  host : ∃ host, url.host = some host ∧ Host.IsText host.toText.toList
  port : ∀ n ∈ url.port, n < 1 <<< 16 ∧ defaultPort? url.scheme ≠ some n
  path : ∃ segments, url.path = .segments segments ∧ segments ≠ [] ∧
    ∀ segment ∈ segments, IsSegment segment

/-- A number is read back from its decimal digits. -/
theorem valueIn?_toDigits (n : Nat) : Host.valueIn? 10 (Nat.toDigits 10 n) = some n := by
  have hdigit : ∀ digit < 10, Hex.value? (Nat.digitChar digit) = some digit :=
    fun digit hdigit => Hex.value?_digit (by omega)
  induction n using Nat.strongRecOn with
  | ind n ih =>
    rw [Nat.toDigits_eq_if (by decide)]
    split
    · next hn => simp [Host.valueIn?, hdigit n hn, hn]
    · next hn =>
      have hmod : n % 10 < 10 := Nat.mod_lt n (by decide)
      have hread := ih (n / 10) (Nat.div_lt_self (by omega) (by decide))
      unfold Host.valueIn? at hread ⊢
      rw [List.foldlM_append, hread]
      simp [hdigit _ hmod, hmod]
      omega

/-- A port that is not the usual one is read back. -/
theorem port?_toString {scheme : String} {n : Nat} (hn : n < 1 <<< 16)
    (hscheme : defaultPort? scheme ≠ some n) :
    port? scheme (toString n).toList = some (some n, []) := by
  have hspan : (Nat.toDigits 10 n).span Char.isDigit = (Nat.toDigits 10 n, []) :=
    span_eq_iff.mpr ⟨(List.append_nil _).symm,
      fun c hc => Nat.isDigit_of_mem_toDigits (by decide) (by decide) hc, fun c hc => absurd hc (by simp)⟩
  rw [Host.toList_toString, port?, hspan]
  simp only [valueIn?_toDigits, Option.bind_eq_bind, Option.bind_some]
  rw [if_pos ⟨hn, .inl trivial⟩, if_neg (not_or.mpr ⟨Nat.toDigits_ne_nil, hscheme⟩)]

/-- Ports that are read are in range, and not the usual ones. -/
theorem of_port? {scheme : String} {text rest : List Char} {port : Option Nat}
    (h : port? scheme text = some (port, rest)) :
    (∀ n ∈ port, n < 1 <<< 16 ∧ defaultPort? scheme ≠ some n) ∧
      ∀ c ∈ rest.head?, c = '\\' ∧ c ∈ text := by
  unfold port? at h
  simp only [Option.bind_eq_bind, Option.bind_eq_some_iff] at h
  obtain ⟨n, -, h⟩ := h
  split at h
  · next hrange =>
    obtain ⟨hport, rfl⟩ := Prod.mk.inj (Option.some.inj h)
    refine ⟨fun m hm => ?_, fun c hc => ⟨?_, ?_⟩⟩
    · rw [← hport] at hm
      split at hm
      · cases hm
      · next hother =>
        rw [← Option.some.inj hm]
        exact ⟨hrange.1, (not_or.mp hother).2⟩
    · rcases hrange.2 with hnil | hback
      · rw [hnil] at hc
        cases hc
      · exact Option.some.inj (hc.symm.trans hback)
    · rw [List.span_eq_takeWhile_dropWhile] at hc
      exact (List.dropWhile_suffix _).subset (List.mem_of_mem_head? hc)
  · cases h

def portText (port : Option Nat) : List Char := ((port.map fun n => ":" ++ toString n).getD "").toList

theorem portText_some (n : Nat) : portText (some n) = ':' :: (toString n).toList := by
  simp [portText]

def userText (url : Url) : List Char :=
  if url.password = "" then url.username.toList else url.username.toList ++ ':' :: url.password.toList

theorem toList_user (url : Url) : url.user.toList =
    if url.userText = [] then [] else url.userText ++ ['@'] := by
  unfold user userText
  by_cases hpassword : url.password = ""
  · by_cases husername : url.username = "" <;> simp [hpassword, husername]
  · simp [hpassword]

theorem splitFirst_userText {url : Url} (h : url.IsKept) :
    ∃ password, splitFirst ':' url.userText = (url.username.toList, password) ∧
      password.getD [] = url.password.toList := by
  have hcolon : ':' ∉ url.username.toList := fun hin => absurd (h.username ':' hin) (by decide)
  unfold userText
  split
  · next hpassword => exact ⟨none, splitFirst_of_not_mem hcolon, by rw [hpassword]; rfl⟩
  · exact ⟨some url.password.toList, splitFirst_append hcolon _, rfl⟩

theorem not_mem_at_portText (port : Option Nat) : '@' ∉ portText port := by
  cases port with
  | none => exact List.not_mem_nil
  | some n =>
    rw [portText_some, List.mem_cons, not_or]
    exact ⟨by decide, fun hin => absurd (Host.isPlain_of_mem_toString hin) (by decide)⟩

theorem splitLast_place {url : Url} {text : List Char} (h : '@' ∉ text) :
    (splitLast '@' (url.user.toList ++ text)).getD ([], url.user.toList ++ text) =
      (url.userText, text) := by
  rw [toList_user]
  split
  · next hnil => rw [List.nil_append, splitLast_of_not_mem h, hnil]; rfl
  · rw [List.append_assoc, List.singleton_append, splitLast_append _ h]; rfl

/-- User, host and port are read back. -/
theorem authority?_written {url read : Url} (h : url.IsKept) {host : Host}
    (hhost : Host.special? host.toText.toList = some host) (hread : read.scheme = url.scheme)
    (isFollowed : Bool) :
    authority? read isFollowed (url.user.toList ++ (host.toText.toList ++ portText url.port)) =
      some ({ read with
        username := url.username, password := url.password, host := some host, port := url.port }, []) := by
  have htext : Host.IsText host.toText.toList := Host.isText_toText hhost
  have hat : '@' ∉ host.toText.toList ++ portText url.port := by
    rw [List.mem_append, not_or]
    exact ⟨fun hin => absurd (htext.inner '@' hin) (by decide), not_mem_at_portText url.port⟩
  have hguard : (url.user.toList ++ (host.toText.toList ++ portText url.port)) ≠ ['@'] := by
    intro heq
    obtain ⟨c, rest, hc⟩ := List.exists_cons_of_ne_nil htext.ne_nil
    have hin : c ∈ host.toText.toList ++ portText url.port := by rw [hc]; exact List.mem_cons_self
    have hmem := List.mem_append_right url.user.toList hin
    rw [heq, List.mem_singleton] at hmem
    exact hat (hmem ▸ hin)
  have hname : splitHost (host.toText.toList ++ portText url.port) =
      (host.toText.toList, portText url.port) := by
    refine htext.whole _ fun c hc => ?_
    cases hport : url.port with
    | none => rw [hport] at hc; cases hc
    | some n => rw [hport, portText_some] at hc; exact (Option.some.inj hc).symm
  obtain ⟨password, huser, hpassword⟩ := splitFirst_userText h
  have husername : String.ofList (percentEncode inUserSet url.username.toList) = url.username := by
    rw [percentEncode_of_forall h.username, String.ofList_toList]
  have hsecret : String.ofList (percentEncode inUserSet url.password.toList) = url.password := by
    rw [percentEncode_of_forall h.password, String.ofList_toList]
  unfold authority?
  simp only [splitLast_place hat, huser, hpassword, hname, hread, h.network.isSpecial, husername, hsecret,
    hguard, htext.ne_nil, hhost, ne_eq, not_false_eq_true, decide_true, decide_false, Bool.and_false,
    Bool.not_false, Bool.true_or, guard_true, if_true, Option.bind_eq_bind, Option.bind_some]
  cases hport : url.port with
  | none => rfl
  | some n =>
    obtain ⟨hrange, hother⟩ := h.port n hport
    simp only [portText_some, port?_toString hrange hother, Option.bind_some]
    rfl

theorem head_splitHost (text : List Char) : ∀ c ∈ (splitHost text).2.head?, c = ':' := by
  have hspan (text : List Char) : ∀ c ∈ (text.span (· != ':')).2.head?, c = ':' := fun c hc =>
    bne_eq_false_iff_eq.mp ((span_eq_iff.mp (rfl : text.span (· != ':') = (_, _))).2.2 c hc)
  unfold splitHost
  split <;> exact hspan _

theorem mem_of_mem_splitHost {text : List Char} {c : Char} (h : c ∈ (splitHost text).2) : c ∈ text := by
  unfold splitHost at h
  simp only [List.span_eq_takeWhile_dropWhile] at h
  split at h
  · exact (List.dropWhile_suffix _).subset ((List.dropWhile_suffix _).subset h)
  · exact (List.dropWhile_suffix _).subset h

/-- What is read of an authority is kept as it is written. -/
theorem of_authority? {url read : Url} {isFollowed : Bool} {text rest : List Char}
    (hspecial : isSpecial read.scheme = true)
    (h : authority? read isFollowed text = some (url, rest)) :
    ∃ username password name host port,
      url = { read with
        username := String.ofList (percentEncode inUserSet username)
        password := String.ofList (percentEncode inUserSet password)
        host := some host
        port } ∧
      Host.special? name = some host ∧ (∀ n ∈ port, n < 1 <<< 16 ∧ defaultPort? read.scheme ≠ some n) ∧
      ∀ c ∈ rest.head?, c = '\\' ∧ c ∈ text := by
  unfold authority? at h
  simp only [hspecial, if_true, Option.bind_eq_bind, Option.bind_eq_some_iff] at h
  obtain ⟨_, -, _, -, host, hhost, h⟩ := h
  split at h
  · next after hafter =>
    obtain ⟨⟨port, left⟩, hport, h⟩ := Option.bind_eq_some_iff.mp h
    obtain ⟨rfl, rfl⟩ := Prod.mk.inj (Option.some.inj h)
    obtain ⟨hrange, hleft⟩ := of_port? hport
    have hmem : ∀ c ∈ after, c ∈ text := fun c hc =>
      mem_of_mem_splitLast (mem_of_mem_splitHost (by rw [hafter]; exact List.mem_cons_of_mem _ hc))
    exact ⟨_, _, _, host, port, rfl, hhost, hrange, fun c hc => (hleft c hc).imp_right (hmem c)⟩
  · next hcolon =>
    obtain ⟨rfl, rfl⟩ := Prod.mk.inj (Option.some.inj h)
    refine ⟨_, _, _, host, none, rfl, hhost, fun n hn => absurd hn (by simp), fun c hc => ?_⟩
    -- What stands after a name begins with the colon of a port, and here it does not.
    obtain ⟨rest, hrest⟩ := List.head?_eq_some_iff.mp hc
    rw [head_splitHost _ c hc] at hrest
    exact absurd hrest (hcolon rest)

/-- An authority that is no empty user alone is read the same whether something follows or not. -/
theorem authority?_of_ne {read : Url} {text : List Char} (h : text ≠ ['@']) (isFollowed : Bool) :
    authority? read isFollowed text = authority? read true text := by
  unfold authority?
  simp only [h, decide_false, Bool.and_false]

/-- Whether something follows an authority that needs a host makes no difference. -/
theorem authority?_isFollowed {read : Url} (hspecial : isSpecial read.scheme = true)
    (isFollowed : Bool) (text : List Char) :
    authority? read isFollowed text = authority? read false text := by
  by_cases htext : text = ['@']
  · have hnone (isFollowed : Bool) : authority? read isFollowed ['@'] = none := by
      have hlast : (splitLast '@' ['@']).getD ([], ['@']) = ([], []) := rfl
      have hfirst : splitFirst ':' [] = ([], none) := rfl
      have hname : splitHost [] = ([], []) := rfl
      unfold authority?
      simp only [hlast, hfirst, hname, hspecial]
      cases isFollowed <;> rfl
    rw [htext, hnone, hnone]
  · rw [authority?_of_ne htext isFollowed, authority?_of_ne htext false]

/-- A URL of the network has a host. -/
theorem authority?_nil {read : Url} (hspecial : isSpecial read.scheme = true) :
    authority? read false [] = none := by
  have hlast : (splitLast '@' []).getD ([], []) = ([], []) := rfl
  have hfirst : splitFirst ':' [] = ([], none) := rfl
  have hname : splitHost [] = ([], []) := rfl
  unfold authority?
  simp only [hlast, hfirst, hname, hspecial]
  rfl

/-- A text in parts: slashes, what stands between them and the next one, and a path. -/
structure IsParted (slashes place path : List Char) : Prop where
  slashes_first : ∀ c ∈ slashes, isSlash true c = true
  none_inside : ∀ c ∈ place, isSlash true c = false
  slash_after : ∀ c ∈ path.head?, isSlash true c = true
  nothing_after : place = [] → path = []

theorem exists_isParted (text : List Char) :
    ∃ slashes place path, text = slashes ++ (place ++ path) ∧ IsParted slashes place path := by
  rcases hfirst : text.span (isSlash true) with ⟨slashes, rest⟩
  rcases hsecond : rest.span (!isSlash true ·) with ⟨place, path⟩
  obtain ⟨htext, hslashes, hrest⟩ := span_eq_iff.mp hfirst
  obtain ⟨rfl, hplace, hpath⟩ := span_eq_iff.mp hsecond
  refine ⟨slashes, place, path, htext, hslashes, fun c hc => ?_, fun c hc => ?_, ?_⟩
  · simpa using hplace c hc
  · simpa using hpath c hc
  · rintro rfl
    cases path with
    | nil => rfl
    | cons c path => exact absurd (hrest c rfl) (by simpa using hpath c rfl)

/-- What stands after the scheme of a URL of the network: user, host and port, and a path. -/
theorem body?_network {read : Url} (h : IsNetwork read.scheme) {slashes place path : List Char}
    (hparts : IsParted slashes place path) :
    body? read (slashes ++ (place ++ path)) = (authority? read false place).map fun (url, rest) =>
      { url with path := .segments (segmentsOf true (rest ++ path)) } := by
  have hhead : ∀ c ∈ (place ++ path).head?, isSlash true c = false := by
    cases place with
    | nil => rw [hparts.nothing_after rfl]; exact fun c hc => by cases hc
    | cons c place => exact fun d hd => hparts.none_inside d (by rw [← Option.some.inj hd]; simp)
  have hdrop : (slashes ++ (place ++ path)).dropWhile (isSlash true) = place ++ path := by
    rw [List.dropWhile_append_of_pos hparts.slashes_first, dropWhile_of_head? hhead]
  have hspan : (place ++ path).span (!isSlash true ·) = (place, path) :=
    span_eq_iff.mpr ⟨rfl, fun c hc => by simp [hparts.none_inside c hc],
      fun c hc => by simp [hparts.slash_after c hc]⟩
  unfold body? afterSlashes?
  rw [if_neg h.ne_file, if_pos h.isSpecial, hdrop]
  simp only [h.isSpecial, hspan, authority?_isFollowed h.isSpecial, Bool.not_true,
    Bool.false_eq_true, and_false, if_false]
  rw [Option.map_eq_bind]
  rfl

def SameEnds (url read : Url) : Prop :=
  url.scheme = read.scheme ∧ url.query = read.query ∧ url.fragment = read.fragment

theorem sameEnds_of_authority? {read url : Url} {isFollowed : Bool} {text rest : List Char}
    (h : authority? read isFollowed text = some (url, rest)) : SameEnds url read := by
  unfold authority? at h
  simp only [Option.bind_eq_bind, Option.bind_eq_some_iff] at h
  obtain ⟨_, -, _, -, h⟩ := h
  split at h
  all_goals
    obtain ⟨host, -, h⟩ := Option.bind_eq_some_iff.mp h
    split at h
    · obtain ⟨⟨port, left⟩, -, h⟩ := Option.bind_eq_some_iff.mp h
      obtain ⟨rfl, -⟩ := Prod.mk.inj (Option.some.inj h)
      exact ⟨rfl, rfl, rfl⟩
    · obtain ⟨rfl, -⟩ := Prod.mk.inj (Option.some.inj h)
      exact ⟨rfl, rfl, rfl⟩

theorem sameEnds_of_afterSlashes? {read url : Url} {text : List Char}
    (h : afterSlashes? read text = some url) : SameEnds url read := by
  simp only [afterSlashes?, Option.bind_eq_bind, Option.bind_eq_some_iff] at h
  obtain ⟨⟨url', rest⟩, hauthority, h⟩ := h
  obtain rfl := Option.some.inj h
  obtain ⟨hscheme, hquery, hfragment⟩ := sameEnds_of_authority? hauthority
  exact ⟨hscheme, hquery, hfragment⟩

theorem sameEnds_of_file? {read url : Url} {text : List Char} (h : file? read text = some url) :
    SameEnds url read := by
  unfold file? at h
  split at h
  · split at h
    · split at h
      split at h
      · obtain rfl := Option.some.inj h
        exact ⟨rfl, rfl, rfl⟩
      · obtain ⟨host, -, rfl⟩ := Option.map_eq_some_iff.mp h
        exact ⟨rfl, rfl, rfl⟩
    · obtain rfl := Option.some.inj h
      exact ⟨rfl, rfl, rfl⟩
  · obtain rfl := Option.some.inj h
    exact ⟨rfl, rfl, rfl⟩

/-- Reading what stands before a query leaves scheme, query and fragment. -/
theorem sameEnds_of_body? {read url : Url} {text : List Char} (h : body? read text = some url) :
    SameEnds url read := by
  unfold body? at h
  split at h
  · exact sameEnds_of_file? h
  · split at h
    · exact sameEnds_of_afterSlashes? h
    · split at h
      · exact sameEnds_of_afterSlashes? h
      · obtain rfl := Option.some.inj h
        exact ⟨rfl, rfl, rfl⟩
      · obtain rfl := Option.some.inj h
        exact ⟨rfl, rfl, rfl⟩

theorem isKept_of_body? {read url : Url} {text : List Char} (hnetwork : IsNetwork read.scheme)
    (h : body? read text = some url) : url.IsKept := by
  obtain ⟨slashes, place, path, rfl, hparts⟩ := exists_isParted text
  rw [body?_network hnetwork hparts] at h
  obtain ⟨⟨read', rest⟩, hauthority, rfl⟩ := Option.map_eq_some_iff.mp h
  obtain ⟨username, password, name, host, port, rfl, hhost, hport, -⟩ :=
    of_authority? hnetwork.isSpecial hauthority
  have huser (text : List Char) :
      ∀ c ∈ (String.ofList (percentEncode inUserSet text)).toList, inUserSet c = false := by
    rw [String.toList_ofList]
    exact forall_mem_percentEncode (fun c _ hc => hc) (by decide) (by decide)
  exact {
    network := hnetwork
    username := huser username
    password := huser password
    host := ⟨host, rfl, Host.isText_toText hhost⟩
    port := hport
    path := ⟨_, rfl, segmentsOf_ne_nil true _, isSegment_of_mem_segmentsOf⟩ }

theorem exists_body_of_parse? {text : String} {url : Url} (h : parse? text = some url) :
    ∃ read rest, scheme? (clean text.toList) = some (read.scheme, rest) ∧
      read.query.isSome = (splitFirst '?' (splitFirst '#' rest).1).2.isSome ∧
      read.fragment.isSome = (splitFirst '#' rest).2.isSome ∧
      body? read (splitFirst '?' (splitFirst '#' rest).1).1 = some url := by
  simp only [parse?, Option.bind_eq_bind, Option.bind_eq_some_iff] at h
  obtain ⟨⟨scheme, rest⟩, hscheme, h⟩ := h
  exact ⟨_, rest, hscheme, Option.isSome_map, Option.isSome_map, h⟩

/-- A URL of the network that was read is kept as it is written. -/
theorem isKept_of_parse? {text : String} {url : Url} (h : parse? text = some url)
    (hnetwork : IsNetwork url.scheme) : url.IsKept := by
  obtain ⟨read, rest, -, -, -, hbody⟩ := exists_body_of_parse? h
  exact isKept_of_body? ((sameEnds_of_body? hbody).1 ▸ hnetwork) hbody

def place (url : Url) (host : Host) : List Char :=
  url.user.toList ++ (host.toText.toList ++ portText url.port)

theorem toList_toText {url : Url} {host : Host} {segments : List String} (hhost : url.host = some host)
    (hpath : url.path = .segments segments) (hquery : url.query = none) (hfragment : url.fragment = none) :
    url.toText.toList =
      url.scheme.toList ++ ':' :: '/' :: '/' :: (url.place host ++ pathText segments) := by
  have hauthority : url.authority.toList = '/' :: '/' :: url.place host := by
    simp only [authority, hhost, String.toList_append, List.append_assoc]
    rfl
  have htarget : url.target.toList = pathText segments := by
    rw [target, hquery, hpath, String.toList_append, Path.toList_toText]
    exact List.append_nil _
  rw [toText, hfragment]
  simp only [String.toList_append, hauthority, htarget, Option.map_none, Option.getD_none]
  simp

/-- A character that counts wherever it stands between the slashes and the query. -/
def isCounted (c : Char) : Bool := !isEdge c && c != '#' && c != '?'

theorem toNat_of_inPathSet {c : Char} (h : inPathSet c = false) : c.toNat < 0x80 := by
  simp only [inPathSet, inFragmentSet, isUnprintable, Bool.or_eq_false_iff, decide_eq_false_iff_not] at h
  omega

theorem isCounted_of_inPathSet {c : Char} (h : inPathSet c = false) : isCounted c = true :=
  forall_ascii (P := fun c => inPathSet c = false → isCounted c = true) (by decide)
    (toNat_of_inPathSet h) h

theorem isCounted_of_inUserSet {c : Char} (h : inUserSet c = false) :
    isCounted c = true ∧ isSlash true c = false :=
  forall_ascii (P := fun c => inUserSet c = false → isCounted c = true ∧ isSlash true c = false)
    (by decide) (toNat_of_inPathSet (Bool.or_eq_false_iff.mp h).1) h

theorem isCounted_of_isInner {c : Char} (h : Host.isInner c = true) :
    isCounted c = true ∧ isSlash true c = false := by
  have hascii : c.toNat < 0x80 := by
    simp only [Host.isInner, Bool.and_eq_true, decide_eq_true_eq] at h
    omega
  exact forall_ascii (P := fun c => Host.isInner c = true → isCounted c = true ∧ isSlash true c = false)
    (by decide) hascii h

theorem isCounted_of_mem_user {url : Url} (h : url.IsKept) :
    ∀ c ∈ url.user.toList, isCounted c = true ∧ isSlash true c = false := by
  have husername : ∀ c ∈ url.username.toList, isCounted c = true ∧ isSlash true c = false :=
    fun c hc => isCounted_of_inUserSet (h.username c hc)
  have hpassword : ∀ c ∈ url.password.toList, isCounted c = true ∧ isSlash true c = false :=
    fun c hc => isCounted_of_inUserSet (h.password c hc)
  have htext : ∀ c ∈ url.userText, isCounted c = true ∧ isSlash true c = false := by
    unfold userText
    split
    · exact husername
    · exact List.forall_mem_append.mpr ⟨husername, List.forall_mem_cons.mpr ⟨by decide, hpassword⟩⟩
  rw [toList_user]
  split
  · exact fun c hc => absurd hc List.not_mem_nil
  · exact List.forall_mem_append.mpr ⟨htext, List.forall_mem_singleton.mpr (by decide)⟩

theorem isCounted_of_mem_portText {port : Option Nat} :
    ∀ c ∈ portText port, isCounted c = true ∧ isSlash true c = false := by
  cases port with
  | none => exact fun c hc => absurd hc List.not_mem_nil
  | some n =>
    rw [portText_some]
    exact List.forall_mem_cons.mpr ⟨by decide, fun c hc =>
      isCounted_of_isInner (Host.isInner_of_isPlain (Host.isPlain_of_mem_toString hc)).1⟩

/-- User, host and port are written in characters that count. -/
theorem isCounted_of_mem_place {url : Url} (h : url.IsKept) {host : Host}
    (hhost : Host.IsText host.toText.toList) :
    ∀ c ∈ url.place host, isCounted c = true ∧ isSlash true c = false :=
  List.forall_mem_append.mpr ⟨isCounted_of_mem_user h, List.forall_mem_append.mpr
    ⟨fun c hc => isCounted_of_isInner (hhost.inner c hc), isCounted_of_mem_portText⟩⟩

theorem isCounted_of_mem_pathText {segments : List String} (h : ∀ segment ∈ segments, IsSegment segment) :
    ∀ c ∈ pathText segments, isCounted c = true := by
  intro c hc
  obtain ⟨segment, hsegment, hc⟩ := List.mem_flatMap.mp hc
  rcases List.mem_cons.mp hc with rfl | hc
  · decide
  · exact isCounted_of_inPathSet ((h segment hsegment).chars c hc).1

theorem isEdge_of_isIgnored {c : Char} (h : isIgnored c = true) : isEdge c = true := by
  simp only [isIgnored, Bool.or_eq_true, beq_iff_eq] at h
  rcases h with (rfl | rfl) | rfl <;> decide

theorem not_mem_of_isCounted {text : List Char} (h : ∀ c ∈ text, isCounted c = true) :
    '#' ∉ text ∧ '?' ∉ text :=
  ⟨fun hin => absurd (h '#' hin) (by decide), fun hin => absurd (h '?' hin) (by decide)⟩

theorem isIgnored_of_not_isEdge {c : Char} (h : isEdge c = false) : isIgnored c = false := by
  rw [← Bool.not_eq_true]
  exact fun hignored => Bool.false_ne_true (h.symm.trans (isEdge_of_isIgnored hignored))

theorem isEdge_of_isCounted {c : Char} (h : isCounted c = true) : isEdge c = false := by
  simp only [isCounted, Bool.and_eq_true, Bool.not_eq_true'] at h
  exact h.1.1

/-- A text without blanks and line ends counts as a whole. -/
theorem clean_of_forall {text : List Char} (h : ∀ c ∈ text, isEdge c = false) : clean text = text := by
  have hstart : text.dropWhile isEdge = text :=
    dropWhile_of_head? fun c hc => h c (List.mem_of_mem_head? hc)
  have hend : text.reverse.dropWhile isEdge = text.reverse :=
    dropWhile_of_head? fun c hc => h c (List.mem_reverse.mp (List.mem_of_mem_head? hc))
  rw [clean, hstart, hend, List.reverse_reverse, List.filter_eq_self]
  exact fun c hc => by rw [isIgnored_of_not_isEdge (h c hc)]; rfl

/-- A scheme of the network is read up to its colon. -/
theorem scheme?_network {scheme : String} (h : IsNetwork scheme) (rest : List Char) :
    scheme? (scheme.toList ++ ':' :: rest) = some (scheme, rest) := by
  rcases h.cases with rfl | rfl | rfl | rfl | rfl <;> rfl

theorem isEdge_of_mem_scheme {scheme : String} (h : IsNetwork scheme) :
    ∀ c ∈ scheme.toList, isEdge c = false := by
  rcases h.cases with rfl | rfl | rfl | rfl | rfl <;> exact forall_mem_of_all (by decide)

/-- What is written after the scheme is read back part by part. -/
theorem body?_written {url : Url} (h : url.IsKept) {host : Host} (hurl : url.host = some host)
    (hhost : Host.special? host.toText.toList = some host) {segments : List String}
    (hpath : url.path = .segments segments) (hne : segments ≠ [])
    (hsegments : ∀ segment ∈ segments, IsSegment segment) {read : Url} (hread : SameEnds url read) :
    body? read ('/' :: '/' :: (url.place host ++ pathText segments)) = some url := by
  have htext := Host.isText_toText hhost
  have hparts : IsParted ['/', '/'] (url.place host) (pathText segments) := {
    slashes_first := forall_mem_of_all (by decide)
    none_inside := fun c hc => (isCounted_of_mem_place h htext c hc).2
    slash_after := by
      obtain ⟨segment, rest, rfl⟩ := List.exists_cons_of_ne_nil hne
      exact fun c hc => by rw [← Option.some.inj hc]; rfl
    nothing_after := fun hnil => by
      have := (List.append_eq_nil_iff.mp (List.append_eq_nil_iff.mp hnil).2).1
      exact absurd this htext.ne_nil }
  obtain ⟨hscheme, hquery, hfragment⟩ := hread
  have hnetwork : IsNetwork read.scheme := hscheme ▸ h.network
  change body? read (['/', '/'] ++ (url.place host ++ pathText segments)) = some url
  rw [body?_network hnetwork hparts, place, authority?_written h hhost hscheme.symm, Option.map_some]
  simp only [List.nil_append, segmentsOf_pathText true hne hsegments, ← hscheme, ← hquery, ← hfragment,
    ← hurl, ← hpath]

/-- A URL of the network is read from what is written of it. -/
theorem parse?_toText {url : Url} (h : url.IsKept) (hquery : url.query = none)
    (hfragment : url.fragment = none)
    (hhost : ∀ host ∈ url.host, Host.special? host.toText.toList = some host) :
    parse? url.toText = some url := by
  obtain ⟨host, hurl, htext⟩ := h.host
  obtain ⟨segments, hpath, hne, hsegments⟩ := h.path
  have hcounted : ∀ c ∈ '/' :: '/' :: (url.place host ++ pathText segments), isCounted c = true :=
    List.forall_mem_cons.mpr ⟨by decide, List.forall_mem_cons.mpr ⟨by decide,
      List.forall_mem_append.mpr ⟨fun c hc => (isCounted_of_mem_place h htext c hc).1,
        isCounted_of_mem_pathText hsegments⟩⟩⟩
  obtain ⟨hsharp, hquestion⟩ := not_mem_of_isCounted hcounted
  have hclean : clean url.toText.toList =
      url.scheme.toList ++ ':' :: '/' :: '/' :: (url.place host ++ pathText segments) := by
    rw [toList_toText hurl hpath hquery hfragment]
    refine clean_of_forall (List.forall_mem_append.mpr ⟨isEdge_of_mem_scheme h.network,
      List.forall_mem_cons.mpr ⟨by decide, fun c hc => isEdge_of_isCounted (hcounted c hc)⟩⟩)
  rw [parse?, hclean, scheme?_network h.network]
  simp only [Option.bind_eq_bind, Option.bind_some, splitFirst_of_not_mem hsharp,
    splitFirst_of_not_mem hquestion, Option.map_none]
  exact body?_written h hurl (hhost host hurl) hpath hne hsegments ⟨rfl, hquery, hfragment⟩

end FeatureFlags.Url
