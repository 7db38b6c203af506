import FeatureFlags.Proofs.ClientSessions
import FeatureFlags.Proofs.PlainNames

/-!
What a client asks for. A configuration that was checked has addresses that are URLs. The requests for
data go to the base address, with the path of what is fetched appended to its path; the request that opens
the stream goes to the text of the other address with a path appended, which need not come to the same.
-/
namespace FeatureFlags

open Url (IsSegment pathText)

namespace Service

def keySegment (key : String) : String :=
  String.ofList (Url.percentEncode Url.inSpecialSegmentSet key.toList)

def segments : Fetch → List String
  | .all => ["sdk", "latest-all"]
  | .item .flags key => ["sdk", "latest-flags", keySegment key]
  | .item .segments key => ["sdk", "latest-segments", keySegment key]

/-- A key that stands for itself in a path: one that goes nowhere else, and of which all counts. -/
structure IsSayable (key : String) : Prop where
  not_here : key ≠ "."
  not_above : key ≠ ".."
  counts : ∀ c ∈ key.toList, Url.isIgnored c = false

theorem IsSayable.filter_eq {key : String} (h : IsSayable key) :
    key.toList.filter (!Url.isIgnored ·) = key.toList :=
  List.filter_eq_self.mpr fun c hc => by rw [h.counts c hc]; rfl

/-- A key that stands for itself is encoded as a segment that is no dots. -/
theorem not_isDots_keySegment {key : String} (h : IsSayable key) : Url.isDots (keySegment key) = false := by
  rw [← Bool.not_eq_true, Url.isDots, Bool.or_eq_true, not_or, keySegment,
    Url.isDoubleDot_percentEncode (by decide) (by decide), Url.isSingleDot_percentEncode (by decide) (by decide)]
  exact ⟨fun hdots => h.not_above (String.toList_injective hdots),
    fun hdots => h.not_here (String.toList_injective hdots)⟩

end Service

/-- A key that a path can say is added as a segment. -/
theorem Url.push?_of_isSayable {url : Url} (hspecial : Url.isSpecial url.scheme = true)
    {segments : List String} (hne : segments ≠ [""]) {key : String} (hkey : Service.IsSayable key) :
    { url with path := .segments segments }.push? key =
      some { url with path := .segments (segments ++ [Service.keySegment key]) } := by
  have hcounts := hkey.filter_eq
  have hdots := Service.not_isDots_keySegment hkey
  have hsegment : goTo segments (Service.keySegment key) true = segments ++ [Service.keySegment key] := by
    rw [goTo_true, goTo_of_not_isDots _ hdots, hdots]
    exact List.append_nil _
  simp only [push?, hkey.not_here, hkey.not_above, or_self, if_false, hspecial, if_true, hcounts, hne]
  exact congrArg (fun path => some { url with path := .segments path }) hsegment

/-- A URL of the network that has neither a query nor a fragment. -/
structure Url.IsBare (url : Url) : Prop where
  network : Url.IsNetwork url.scheme
  query : url.query = none
  fragment : url.fragment = none

/-- Something that is fetched under a key, if it has one, that a path can say. -/
def Fetch.IsSayable : Fetch → Prop
  | .all => True
  | .item _ key => Service.IsSayable key

namespace Service

theorem isSegment_path : ∀ name ∈ ["sdk", "latest-all", "latest-flags", "latest-segments", "all"],
    IsSegment name := by
  have hall : ∀ name ∈ ["sdk", "latest-all", "latest-flags", "latest-segments", "all"],
      name.toList.all (fun c => decide (Url.inPathSet c = false ∧ Url.isSlash true c = false)) = true ∧
        Url.isDots name = false :=
    Url.forall_mem_of_all (by decide)
  exact fun name hname => ⟨Url.forall_mem_of_all (hall name hname).1, (hall name hname).2⟩

theorem toList_path : ∀ fetch, (path fetch).toList = pathText ((segments fetch).take 2)
  | .all => by change "/sdk/latest-all".toList = pathText ["sdk", "latest-all"]; decide
  | .item .flags key => by change "/sdk/latest-flags".toList = pathText ["sdk", "latest-flags"]; decide
  | .item .segments key => by
    change "/sdk/latest-segments".toList = pathText ["sdk", "latest-segments"]
    decide

section

variable {service : Service} (h : service.base.IsKept) (hbare : service.base.IsBare)
  (hhost : ∀ host ∈ service.base.host, Url.Host.special? host.toText.toList = some host)

include h hbare hhost

/-- A path that is appended to what is written of the base is read as that path of the base. -/
theorem parseUrl_base {path : String} {names : List String} (hpath : path.toList = pathText names)
    (hne : names ≠ []) (hnames : ∀ name ∈ names, IsSegment name) :
    parseUrl (dropSlashes service.base.toText ++ path) = .ok (service.base.extendedBy names) := by
  have hkept := h.extendedBy hne hnames
  have hread : Url.parse? (service.base.extendedBy names).toText = some (service.base.extendedBy names) := by
    obtain ⟨segments, hsegments, -, -⟩ := h.path
    rw [Url.extendedBy_of_path hsegments] at hkept ⊢
    exact Url.parse?_toText hkept hbare.query hbare.fragment hhost
  rw [Url.dropSlashes_toText h hbare.query hbare.fragment hpath, parseUrl, hread]

/-- An item is asked for where its kind is, under its key. -/
theorem url_item {kind : Kind} {key : String} (hkey : IsSayable key) {first second : String}
    (hpath : (path (.item kind key)).toList = pathText [first, second])
    (hnames : ∀ name ∈ [first, second], IsSegment name) :
    service.url (.item kind key) = .ok (service.base.extendedBy [first, second, keySegment key]) := by
  obtain ⟨parts, hparts, -, -⟩ := h.path
  have hne : Url.withoutFinalSlashes parts ++ [first, second] ≠ [""] := fun heq => by
    have := congrArg List.length heq
    simp at this
  have hpush := Url.push?_of_isSayable hbare.network.isSpecial hne hkey
  have hread := parseUrl_base h hbare hhost hpath (List.cons_ne_nil _ _) hnames
  rw [Url.extendedBy_of_path hparts] at hread ⊢
  rw [url, hread]
  simp only [bind, Except.bind, hpush, List.append_assoc]
  rfl

/-- The URL of what is fetched is the base with the path of what is fetched. -/
theorem url_eq {fetch : Fetch} (hfetch : fetch.IsSayable) :
    service.url fetch = .ok (service.base.extendedBy (segments fetch)) := by
  have hnames {first second : String}
      (hin : [first, second] ⊆ ["sdk", "latest-all", "latest-flags", "latest-segments", "all"]) :
      ∀ name ∈ [first, second], IsSegment name := fun name hname => isSegment_path name (hin hname)
  match fetch with
  | .all =>
    have hread := parseUrl_base h hbare hhost (toList_path .all) (List.cons_ne_nil _ _)
      (hnames (by decide))
    rw [url, hread]
    rfl
  | .item .flags key => exact url_item h hbare hhost hfetch (toList_path _) (hnames (by decide))
  | .item .segments key => exact url_item h hbare hhost hfetch (toList_path _) (hnames (by decide))

end

end Service

namespace Client

def Source.request? : Source → Option Http.Request
  | .polling _ => none
  | .streaming _ opening => some opening

namespace Running

/-- The address of the service, and the request that a stream is opened with. -/
def addresses (r : Running) : Url × Option Http.Request := (r.service.base, r.source.request?)

theorem base_fetchAll (send : Http.Request → Http.Reply) (service : Service) :
    (service.fetchAll send).1.base = service.base := by
  unfold Service.fetchAll Service.receiveAll
  repeat' split
  all_goals rfl

/-- Whatever reaches a data source, its addresses stay. -/
theorem addresses_take (r : Running) (input : Input) : (r.take input).addresses = r.addresses := by
  obtain ⟨service, source⟩ := r
  cases source with
  | polling p =>
    cases input with
    | poll send =>
      simp only [addresses, take, poll]
      split
      · simp only [base_fetchAll, Source.request?]
      · rfl
    | connect send reply => rfl
    | receive send message => rfl
    | elapse => rfl
  | streaming s opening => cases input <;> rfl

/-- A client asks at the same addresses however long it runs. -/
theorem addresses_run (r : Running) (inputs : List Input) :
    (inputs.foldl take r).addresses = r.addresses := by
  induction inputs generalizing r with
  | nil => rfl
  | cons input inputs ih => exact (ih (r.take input)).trans (addresses_take r input)

/-- What is started once the addresses were checked: with a stream, it takes a request to open it. -/
theorem start_eq {config : Config} (hvalid : config.validate = .ok ()) {service : Service}
    (hservice : Service.ofAddress config.baseUri config.sdkKey (!config.streaming) = .ok service)
    (before : Replica) :
    start config before =
      if config.streaming then
        (Service.streamRequest config.streamUri config.sdkKey).map fun opening =>
          { service, source := .streaming { replica := before } opening }
      else .ok { service, source := .polling { replica := before } } := by
  unfold start
  rw [hvalid, hservice]
  cases config.streaming with
  | false => rfl
  | true => cases Service.streamRequest config.streamUri config.sdkKey <;> rfl

/-- A data source that was started has the addresses that were checked. -/
theorem addresses_start {config : Config} (hvalid : config.validate = .ok ()) {service : Service}
    (hservice : Service.ofAddress config.baseUri config.sdkKey (!config.streaming) = .ok service)
    {before : Replica} {r : Running} (h : start config before = .ok r) :
    r.service = service ∧ ∀ opening ∈ r.source.request?,
      Service.streamRequest config.streamUri config.sdkKey = .ok opening := by
  rw [start_eq hvalid hservice] at h
  split at h
  · cases hopening : Service.streamRequest config.streamUri config.sdkKey with
    | error failure => rw [hopening] at h; cases h
    | ok opening =>
      rw [hopening] at h
      cases h
      exact ⟨rfl, fun asked hasked => congrArg _ (Option.some.inj hasked)⟩
  · cases h
    exact ⟨rfl, fun asked hasked => absurd hasked (by simp [Source.request?])⟩

theorem request?_of_opening? {r : Running} {opening : Http.Request} (h : r.opening? = some opening) :
    r.source.request? = some opening := by
  unfold opening? at h
  split at h
  · next s o hsource =>
    rw [hsource]
    split at h
    · exact h
    · cases h
  · cases h

end Running

end Client

namespace Config

/-- What a configuration with these addresses is good for. -/
structure Serves (config : Config) (base stream : Url) : Prop where
  base_read : Url.parse? config.baseUri = some base
  stream_read : Url.parse? config.streamUri = some stream
  /-- The service can be reached for data. -/
  service : ∀ keeping, Service.ofAddress config.baseUri config.sdkKey keeping =
    .ok { base, sdkKey := config.sdkKey, keeping }
  /-- A stream can be asked for where what is appended to its address is read as it stands. -/
  event_stream : Url.IsOpen config.streamUri →
    ∃ opening, Service.streamRequest config.streamUri config.sdkKey = .ok opening
  starts : (config.streaming = true → Url.IsOpen config.streamUri) → ∀ before,
    ∃ r, Client.Running.start config before = .ok r
  /-- Whatever has happened since the start, data are fetched under the base address. -/
  fetches : base.IsBare → (∀ host ∈ base.host, Url.Host.special? host.toText.toList = some host) →
    ∀ before r (inputs : List Client.Input) fetch, Client.Running.start config before = .ok r → fetch.IsSayable →
      ∃ request, (inputs.foldl Client.Running.take r).service.request fetch = .ok request ∧
        request.url = base.extendedBy (Service.segments fetch)
  /-- Whatever has happened since the start, a connection is opened under the address of the stream. -/
  connects : Url.IsOpen config.streamUri → Url.EndsInName config.streamUri → stream.IsBare →
    ∀ before r (inputs : List Client.Input) opening, Client.Running.start config before = .ok r →
      (inputs.foldl Client.Running.take r).opening? = some opening →
        opening.url = stream.extendedBy ["all"]

/-- What was checked are the very URLs that are read later. -/
theorem exists_of_validate {config : Config} (h : config.validate = .ok ()) :
    ∃ base stream, Url.parse? config.baseUri = some base ∧ Url.parse? config.streamUri = some stream := by
  unfold validate Service.parseUrl at h
  cases hbase : Url.parse? config.baseUri with
  | none => rw [hbase] at h; cases h
  | some base =>
    cases hstream : Url.parse? config.streamUri with
    | none => rw [hbase, hstream] at h; cases h
    | some stream => exact ⟨base, stream, rfl, rfl⟩

theorem ofAddress_eq {address sdkKey : String} {base : Url} (h : Url.parse? address = some base)
    (hkey : Http.isHeaderValue sdkKey = true) (keeping : Bool) :
    Service.ofAddress address sdkKey keeping = .ok { base, sdkKey, keeping } := by
  rw [Service.ofAddress, Service.parseUrl, h, Service.checkKey, if_pos hkey]
  rfl

theorem streamRequest_eq {address sdkKey : String} {url : Url}
    (h : Url.parse? (Service.dropSlashes address ++ "/all") = some url)
    (hkey : Http.isHeaderValue sdkKey = true) :
    Service.streamRequest address sdkKey =
      .ok { url, authorization := sdkKey, accept := "text/event-stream" } := by
  rw [Service.streamRequest, Service.parseUrl, h, Service.checkKey, if_pos hkey]
  rfl

/-- A configuration that was checked serves, if its key can be sent. -/
theorem serves_of_validate {config : Config} (hvalid : config.validate = .ok ())
    (hkey : Http.isHeaderValue config.sdkKey = true) : ∃ base stream, config.Serves base stream := by
  obtain ⟨base, stream, hbase, hstream⟩ := exists_of_validate hvalid
  have hservice := ofAddress_eq hbase hkey
  have hall : "/all".toList = pathText ["all"] := by decide
  have hevents (hopen : Url.IsOpen config.streamUri) :
      ∃ opening, Service.streamRequest config.streamUri config.sdkKey = .ok opening := by
    have hread := hopen.isSome_parse? hstream
    obtain ⟨url, hurl⟩ := Option.isSome_iff_exists.mp hread
    exact ⟨_, streamRequest_eq hurl hkey⟩
  refine ⟨base, stream, {
    base_read := hbase
    stream_read := hstream
    service := hservice
    event_stream := hevents
    starts := fun hopen before => ?_
    fetches := fun hbare hhost before r inputs fetch hstart hfetch => ?_
    connects := fun hopen hends hbare before r inputs opening hstart hopening => ?_ }⟩
  · rw [Client.Running.start_eq hvalid (hservice _)]
    split
    · next hstreaming =>
      obtain ⟨opening, hopening⟩ := hevents (hopen hstreaming)
      rw [hopening]
      exact ⟨_, rfl⟩
    · exact ⟨_, rfl⟩
  · obtain ⟨hr, -⟩ := Client.Running.addresses_start hvalid (hservice _) hstart
    obtain ⟨hsame, -⟩ := Prod.mk.inj (Client.Running.addresses_run r inputs)
    have haddress : (inputs.foldl Client.Running.take r).service.base = base := hsame.trans (by rw [hr])
    have hkept := Url.isKept_of_parse? hbase hbare.network
    rw [← haddress] at hkept hbare hhost ⊢
    rw [Service.request, Service.url_eq hkept hbare hhost hfetch]
    exact ⟨_, rfl, rfl⟩
  · obtain ⟨-, hasked⟩ := Client.Running.addresses_start hvalid (hservice _) hstart
    obtain ⟨-, hsame⟩ := Prod.mk.inj (Client.Running.addresses_run r inputs)
    have hrequest := hasked opening (hsame ▸ Client.Running.request?_of_opening? hopening)
    have hread := hopen.parse?_extended hstream hbare.network hbare.query hbare.fragment hends hall
      (List.cons_ne_nil _ _) fun name hname => Service.isSegment_path name (by simp_all)
    rw [streamRequest_eq hread hkey] at hrequest
    exact congrArg Http.Request.url (Except.ok.inj hrequest).symm

/-- Where the host of the base address is a plain name or an address of four bytes, data are fetched
under it whatever has happened since the start. -/
theorem Serves.fetches_of_isPlain {config : Config} {base stream : Url} (h : config.Serves base stream)
    (hbare : base.IsBare) (hhost : ∀ host ∈ base.host, host.IsPlain) {before : Replica}
    {r : Client.Running} (inputs : List Client.Input) (fetch : Fetch)
    (hstart : Client.Running.start config before = .ok r) (hfetch : fetch.IsSayable) :
    ∃ request, (inputs.foldl Client.Running.take r).service.request fetch = .ok request ∧
      request.url = base.extendedBy (Service.segments fetch) :=
  h.fetches hbare (fun host hin => Url.Host.special?_toText (hhost host hin)) before r inputs fetch
    hstart hfetch

/-- A service under a path, and streams at another port. -/
def underFlags : Config where
  sdkKey := "sdk-key"
  baseUri := "http://server.test/flags//"
  streamUri := "http://server.test:8080/"

theorem isPlain_server : (Url.Host.name "server.test").IsPlain where
  small := ⟨Url.forall_mem_of_all (by decide), Url.forall_mem_of_all (by decide),
    Url.forall_mem_of_all (by decide +kernel)⟩
  allowed := Url.forall_mem_of_all (by decide)
  ne_nil := by decide
  no_number := by decide +kernel

def serverUrl (port : Option Nat) (segments : List String) : Url where
  scheme := "http"
  host := some (.name "server.test")
  port := port
  path := .segments segments

/-- The server is a plain name, so its URLs are read back as they are written. -/
theorem parse?_serverUrl {port : Option Nat} (hport : ∀ n ∈ port, n < 1 <<< 16 ∧ n ≠ 80) {names : List String}
    (hne : names ≠ []) (hnames : ∀ name ∈ names, IsSegment name) :
    Url.parse? (serverUrl port names).toText = some (serverUrl port names) := by
  have hhost := Url.Host.special?_toText isPlain_server
  refine Url.parse?_toText ?_ rfl rfl fun host hin => Option.some.inj hin ▸ hhost
  exact {
    network := rfl
    username := fun c hc => absurd hc (by simp [serverUrl])
    password := fun c hc => absurd hc (by simp [serverUrl])
    host := ⟨_, rfl, Url.Host.isText_toText hhost⟩
    port := fun n hn => ⟨(hport n hn).1, fun h => (hport n hn).2 (Option.some.inj h).symm⟩
    path := ⟨names, rfl, hne, hnames⟩ }

theorem underFlags_isOpen : Url.IsOpen underFlags.streamUri := by
  have hscheme : Url.scheme? (Url.stem underFlags.streamUri) =
      some ("http", "//server.test:8080".toList) := by decide +kernel
  refine ⟨Url.forall_mem_of_all? (by decide +kernel), fun scheme heq => ?_, fun rest heq => ?_⟩
  · exact absurd (Prod.mk.inj (Option.some.inj (hscheme.symm.trans heq))).2 (by decide)
  · exact absurd (Prod.mk.inj (Option.some.inj (hscheme.symm.trans heq))).1 (by decide)

theorem underFlags_base : Url.parse? underFlags.baseUri = some (serverUrl none ["flags", "", ""]) := by
  have htext : underFlags.baseUri = (serverUrl none ["flags", "", ""]).toText := by decide +kernel
  have hflags : IsSegment "flags" := ⟨Url.forall_mem_of_all (by decide), by decide⟩
  rw [htext]
  exact parse?_serverUrl (by simp) (List.cons_ne_nil _ _) (by simp [hflags, Url.isSegment_empty])

theorem underFlags_stream : Url.parse? underFlags.streamUri = some (serverUrl (some 8080) [""]) := by
  have htext : underFlags.streamUri = (serverUrl (some 8080) [""]).toText := by decide +kernel
  rw [htext]
  exact parse?_serverUrl (by simp) (List.cons_ne_nil _ _) (by simp [Url.isSegment_empty])

/-- The base has an empty segment too many, which is not asked for. -/
theorem underFlags_serves : ∃ r, Client.Running.start underFlags {} = .ok r ∧
    (∃ request, r.service.request (.item .flags "a b") = .ok request ∧
      request.url.toText = "http://server.test/flags/sdk/latest-flags/a%20b") ∧
    ∃ opening, r.opening? = some opening ∧ opening.url.toText = "http://server.test:8080/all" := by
  have hvalid : underFlags.validate = .ok () := by
    rw [validate, Service.parseUrl, Service.parseUrl, underFlags_base, underFlags_stream]
    rfl
  obtain ⟨base, stream, hserves⟩ : ∃ base stream, underFlags.Serves base stream :=
    serves_of_validate hvalid (by decide +kernel)
  have hbase : base = serverUrl none ["flags", "", ""] :=
    Option.some.inj (hserves.base_read.symm.trans underFlags_base)
  have hstream : stream = serverUrl (some 8080) [""] :=
    Option.some.inj (hserves.stream_read.symm.trans underFlags_stream)
  subst hbase hstream
  obtain ⟨r, hr⟩ := hserves.starts (fun _ => underFlags_isOpen) {}
  refine ⟨r, hr, ?_, ?_⟩
  · have hhost : ∀ host ∈ (serverUrl none ["flags", "", ""]).host, host.IsPlain :=
      fun host hin => Option.some.inj hin ▸ isPlain_server
    obtain ⟨request, hrequest, hurl⟩ := hserves.fetches_of_isPlain ⟨rfl, rfl, rfl⟩ hhost []
      (.item .flags "a b") hr ⟨by decide, by decide, Url.forall_mem_of_all (by decide)⟩
    exact ⟨request, hrequest, by rw [hurl]; decide +kernel⟩
  · obtain ⟨opening, hopening⟩ := hserves.event_stream underFlags_isOpen
    have hstart := Client.Running.start_eq hvalid (hserves.service _) {}
    rw [hr, hopening] at hstart
    have hasked : r.opening? = some opening := by rw [Except.ok.inj hstart]; rfl
    have hurl := hserves.connects underFlags_isOpen
      ⟨Url.forall_mem_of_all? (by decide +kernel), by decide +kernel⟩ ⟨rfl, rfl, rfl⟩ {} r [] opening hr hasked
    exact ⟨opening, hasked, by rw [hurl]; decide +kernel⟩

/-- A blank after the address of the streams: it is no part of the URL that is checked, but it is of the
name of the host when a path is appended. -/
def withBlank : Config where
  sdkKey := "sdk-key"
  baseUri := "http://server.test"
  streamUri := "http://server.test "

/-- A blank stands in no name, so this is no host. -/
theorem special?_server_blank : Url.Host.special? "server.test ".toList = none := by
  have hsmall : Url.Domain.IsSmall "server.test ".toList :=
    ⟨Url.forall_mem_of_all (by decide), Url.forall_mem_of_all (by decide),
      Url.forall_mem_of_all (by decide +kernel)⟩
  rw [Url.Host.special?_of_isSmall hsmall (by decide) (by decide), if_pos (by decide)]

/-- The configuration is valid and its key can be sent, and still no client ever starts with it. -/
theorem withBlank_starts_not : withBlank.validate = .ok () ∧
    Http.isHeaderValue withBlank.sdkKey = true ∧
    ∀ before, Client.Running.start withBlank before = .error .invalidUri := by
  have hnamed {text : String} (hread : Url.scheme? (Url.clean text.toList) = some ("http", "//server.test".toList)) :
      Url.parse? text = some (serverUrl none [""]) := by
    have hparts : Url.IsNamed text "http" "server.test".toList [] :=
      ⟨rfl, hread, by decide, Url.forall_mem_of_all (by decide), by simp, by simp⟩
    rw [hparts.parse?_eq, Url.Host.IsPlainName.special? isPlain_server, String.ofList_toList]
    rfl
  have hbase : Url.parse? withBlank.baseUri = some (serverUrl none [""]) := hnamed (by decide +kernel)
  have hread : Url.parse? withBlank.streamUri = some (serverUrl none [""]) := hnamed (by decide +kernel)
  have hvalid : withBlank.validate = .ok () := by
    rw [validate, Service.parseUrl, Service.parseUrl, hbase, hread]
    rfl
  have hstream : Url.parse? (Service.dropSlashes withBlank.streamUri ++ "/all") = none := by
    have hparts : Url.IsNamed (Service.dropSlashes withBlank.streamUri ++ "/all") "http"
        "server.test ".toList "/all".toList :=
      ⟨rfl, by decide +kernel, by decide, Url.forall_mem_of_all (by decide),
        Url.forall_mem_of_all? (by decide), Url.forall_mem_of_all (by decide)⟩
    rw [hparts.parse?_eq, special?_server_blank]
    rfl
  refine ⟨hvalid, by decide +kernel, fun before => ?_⟩
  rw [Client.Running.start_eq hvalid (ofAddress_eq hbase (by decide +kernel) _), Service.streamRequest,
    Service.parseUrl, hstream]
  rfl

end Config

end FeatureFlags
