import FeatureFlags.Service

/-!
Keeping the last dataset. A service that keeps it sends its entity tag along and may hear that nothing
has changed; then it answers with what it kept. What is kept always came with its tag, so where equal
tags mean equal bodies the answers are those of a service that keeps nothing, whatever happens in
between: bodies that do not decode or have no tag, failures, and tags that come back.
-/
namespace FeatureFlags.Service

/-- The tag and the body that are current, where a situation of the server is told by its reply to a
request without a condition. -/
def served? (situation : Http.Reply) : Option (Option String × String) :=
  situation.bind fun response =>
    if Http.isSuccess response.status then response.body.map (response.entityTag, ·) else none

def meetsCondition (situation : Http.Reply) (request : Http.Request) : Bool :=
  request.ifNoneMatch.isSome && (served? situation).any (·.1 == request.ifNoneMatch)

/-- The reply of a server that does not send again what is known. -/
def replyTo (situation : Http.Reply) (request : Http.Request) : Http.Reply :=
  if meetsCondition situation request then
    some { status := 304, entityTag := request.ifNoneMatch, body := none }
  else situation

/-- Bodies with the same tag are the same. -/
def TagsTellBodies (situations : List Http.Reply) : Prop :=
  ∀ first ∈ situations.filterMap served?, ∀ second ∈ situations.filterMap served?,
    first.1.isSome → first.1 = second.1 → first.2 = second.2

def fetchesAll (service : Service) : List Http.Reply → List (Except Failure Definitions)
  | [] => []
  | situation :: rest =>
      let (service, answer) := service.fetchAll (replyTo situation)
      answer :: service.fetchesAll rest

/-- The same service, but it keeps nothing. -/
def plain (service : Service) : Service := { service with keeping := false, kept := none }

/-- What is kept came with its tag in one of the situations. -/
def Faithful (service : Service) (situations : List Http.Reply) : Prop :=
  ∀ tag definitions, service.kept = some (tag, definitions) →
    ∃ situation ∈ situations, ∃ body, served? situation = some (some tag, body) ∧
      receiveItem Definitions.decoder situation = .ok definitions

theorem served?_eq_some_iff {situation : Http.Reply} {tag : Option String} {body : String} :
    served? situation = some (tag, body) ↔
      ∃ response, situation = some response ∧ Http.isSuccess response.status = true ∧
        response.entityTag = tag ∧ response.body = some body := by
  unfold served?
  cases situation with
  | none => simp
  | some response =>
    cases hsuccess : Http.isSuccess response.status <;> cases hbody : response.body <;>
      simp [hsuccess, hbody]

/-- What a served body comes to is told by the body. -/
theorem receiveItem_of_served {situation : Http.Reply} {tag : Option String} {body : String}
    (h : served? situation = some (tag, body)) (decoder : Decoder α) :
    receiveItem decoder situation = Http.Response.read { status := 200, body := some body } decoder := by
  obtain ⟨response, rfl, hsuccess, -, hbody⟩ := served?_eq_some_iff.mp h
  have hok : Http.successOf (some response) = .ok response := if_pos hsuccess
  unfold receiveItem
  rw [hok]
  unfold Http.Response.read
  simp only [hbody, bind, Except.bind]

theorem exists_served {situation : Http.Reply} {response : Http.Response} {decoder : Decoder α}
    {value : α} (hsuccess : Http.successOf situation = .ok response)
    (hread : response.read decoder = .ok value) :
    ∃ body, served? situation = some (response.entityTag, body) := by
  cases situation with
  | none => cases hsuccess
  | some reply =>
    unfold Http.successOf at hsuccess
    dsimp only at hsuccess
    split at hsuccess
    · next hstatus =>
      obtain rfl := Except.ok.inj hsuccess
      cases hbody : reply.body with
      | none =>
        rw [Http.Response.read, hbody] at hread
        cases hread
      | some body => exact ⟨body, served?_eq_some_iff.mpr ⟨reply, rfl, hstatus, rfl, hbody⟩⟩
    · cases hsuccess

variable {service : Service} {situation : Http.Reply} {situations : List Http.Reply}

/-- What is kept along with the answer to a situation: what was kept before or, by a service that
keeps the last dataset, the one that was served, if it has a tag. -/
def KeepsNext (service : Service) (situation : Http.Reply)
    (kept : Option (String × Definitions)) : Prop :=
  kept = service.kept ∨ service.keeping = true ∧ ∃ tag body definitions,
    served? situation = some (tag, body) ∧
      receiveItem Definitions.decoder situation = .ok definitions ∧ kept = tag.map (·, definitions)

/-- A reply that does not say that nothing has changed is read for what it says. -/
theorem receiveAll_of_news (h : service.unchanged? situation = none) :
    ∃ kept, service.receiveAll situation =
        ({ service with kept }, receiveItem Definitions.decoder situation) ∧
      service.KeepsNext situation kept := by
  unfold receiveAll
  rw [h]
  have hitem : receiveItem Definitions.decoder situation =
      (Http.successOf situation).bind (·.read Definitions.decoder) := rfl
  cases hsuccess : Http.successOf situation with
  | error failure =>
    rw [hsuccess] at hitem
    exact ⟨service.kept, by rw [hitem]; rfl, .inl rfl⟩
  | ok response =>
    rw [hsuccess] at hitem
    change _ = response.read Definitions.decoder at hitem
    cases hread : response.read Definitions.decoder with
    | error failure => exact ⟨service.kept, by simp only [hitem, hread], .inl rfl⟩
    | ok definitions =>
      have hanswer := hitem.trans hread
      by_cases hkeeping : service.keeping = true
      · obtain ⟨body, hserved⟩ := exists_served hsuccess hread
        exact ⟨response.entityTag.map (·, definitions), by simp only [hanswer, hread, if_pos hkeeping],
          .inr ⟨hkeeping, response.entityTag, body, definitions, hserved, hanswer, rfl⟩⟩
      · exact ⟨service.kept, by simp only [hanswer, hread, if_neg hkeeping], .inl rfl⟩

/-- The request for all data makes a condition of the tag that is kept. -/
theorem request_all (service : Service) :
    service.request .all = (service.url .all).map fun url =>
      { url, authorization := service.sdkKey,
        ifNoneMatch := if service.keeping then service.kept.map (·.1) else none } := by
  unfold request
  cases service.url .all with
  | error failure => rfl
  | ok url => cases hkeeping : service.keeping <;> rfl

/-- What a fetch comes to, if the server is asked without a condition. -/
def plainAnswer (service : Service) (situation : Http.Reply) : Except Failure Definitions :=
  (service.url .all).bind fun _ => receiveItem Definitions.decoder situation

/-- A service that keeps nothing gets what is there at the time. -/
theorem fetchAll_plain (service : Service) (situation : Http.Reply) :
    service.plain.fetchAll (replyTo situation) = (service.plain, service.plainAnswer situation) := by
  have hurl : service.plain.url .all = service.url .all := rfl
  unfold fetchAll plainAnswer
  rw [request_all, hurl]
  cases service.url .all with
  | error failure => rfl
  | ok url =>
    have hnews : service.plain.unchanged? situation = none := rfl
    obtain ⟨kept, hreceive, rfl | ⟨hkeeping, -⟩⟩ := receiveAll_of_news hnews
    · exact hreceive
    · cases hkeeping

theorem unchanged?_eq_none (service : Service)
    (hstatus : ∀ response ∈ situation, response.status ≠ 304) :
    service.unchanged? situation = none := by
  cases situation with
  | none => simp [unchanged?]
  | some response =>
    have hother : (response.status == 304) = false :=
      beq_eq_false_iff_ne.mpr (hstatus response rfl)
    simp [unchanged?, hother]

/-- A condition is met by a body that has the tag that was sent. -/
theorem meetsCondition_iff {request : Http.Request} :
    meetsCondition situation request = true ↔
      ∃ tag body, request.ifNoneMatch = some tag ∧ served? situation = some (some tag, body) := by
  unfold meetsCondition
  cases request.ifNoneMatch with
  | none => simp
  | some tag =>
    cases served? situation with
    | none => simp
    | some served =>
      obtain ⟨tag', body⟩ := served
      simp

/-- Where the server serves the tag that is kept, it serves the dataset that is kept. -/
theorem Faithful.receiveItem_eq (h : service.Faithful situations)
    (htags : TagsTellBodies situations) (hmem : situation ∈ situations) {tag : String}
    {definitions : Definitions} (hkept : service.kept = some (tag, definitions)) {body : String}
    (hserved : served? situation = some (some tag, body)) :
    receiveItem Definitions.decoder situation = .ok definitions := by
  obtain ⟨earlier, hearlier, body', hserved', hanswer⟩ := h tag definitions hkept
  have hbody : body' = body :=
    htags (some tag, body') (List.mem_filterMap.mpr ⟨earlier, hearlier, hserved'⟩)
      (some tag, body) (List.mem_filterMap.mpr ⟨situation, hmem, hserved⟩) rfl rfl
  rw [← hanswer, receiveItem_of_served hserved, receiveItem_of_served hserved', hbody]

/-- What is kept next came with its tag in a situation as well. -/
theorem Faithful.next (h : service.Faithful situations) (hmem : situation ∈ situations)
    {kept : Option (String × Definitions)} (hkept : service.KeepsNext situation kept) :
    ({ service with kept } : Service).Faithful situations := by
  rcases hkept with rfl | ⟨-, tag, body, definitions, hserved, hanswer, rfl⟩
  · exact h
  · intro tag' definitions' hkept
    obtain ⟨_, rfl, heq⟩ := Option.map_eq_some_iff.mp hkept
    obtain ⟨rfl, rfl⟩ := Prod.mk.inj heq
    exact ⟨situation, hmem, body, hserved, hanswer⟩

/-- One fetch of a service that keeps the last dataset: the answer is that of a service that does
not, and what is kept is faithful again. -/
theorem Faithful.fetchAll (h : service.Faithful situations) (hkeeping : service.keeping = true)
    (htags : TagsTellBodies situations) (hmem : situation ∈ situations)
    (hstatus : ∀ response ∈ situation, response.status ≠ 304) :
    ∃ kept, service.fetchAll (replyTo situation) =
        ({ service with kept }, service.plainAnswer situation) ∧
      ({ service with kept } : Service).Faithful situations := by
  unfold Service.fetchAll plainAnswer
  rw [request_all]
  cases service.url .all with
  | error failure => exact ⟨service.kept, rfl, h⟩
  | ok url =>
    dsimp only [Except.map]
    generalize hrequest : (Http.Request.mk _ _ _ _) = request
    have hcondition : request.ifNoneMatch = service.kept.map (·.1) := by
      rw [← hrequest]
      exact if_pos hkeeping
    cases hmeets : meetsCondition situation request with
    | true =>
      obtain ⟨tag, body, htag, hserved⟩ := meetsCondition_iff.mp hmeets
      obtain ⟨⟨kept, definitions⟩, hkept, heq⟩ := Option.map_eq_some_iff.mp (hcondition ▸ htag)
      obtain rfl : kept = tag := heq
      have hanswer := h.receiveItem_eq htags hmem hkept hserved
      have hunchanged : service.unchanged?
          (some { status := 304, entityTag := request.ifNoneMatch, body := none }) =
            some definitions := by
        simp [unchanged?, hkeeping, hkept]
      refine ⟨service.kept, ?_, h⟩
      rw [replyTo, if_pos hmeets, receiveAll, hunchanged]
      dsimp only [Except.bind]
      rw [hanswer]
    | false =>
      rw [replyTo, hmeets, if_neg Bool.false_ne_true]
      obtain ⟨kept, hreceive, hkept⟩ := receiveAll_of_news (service.unchanged?_eq_none hstatus)
      exact ⟨kept, hreceive, h.next hmem hkept⟩

theorem fetchesAll_plain (service : Service) (situations : List Http.Reply) :
    service.plain.fetchesAll situations = situations.map service.plainAnswer := by
  induction situations with
  | nil => rfl
  | cons situation rest ih =>
    rw [fetchesAll, fetchAll_plain, List.map_cons, ← ih]

/-- So all fetches of a service that keeps come to what they would come to without. -/
theorem Faithful.fetchesAll (h : service.Faithful situations) (hkeeping : service.keeping = true)
    (htags : TagsTellBodies situations)
    (hstatus : ∀ situation ∈ situations, ∀ response ∈ situation, response.status ≠ 304)
    {rest : List Http.Reply} (hrest : rest ⊆ situations) :
    service.fetchesAll rest = rest.map service.plainAnswer := by
  induction rest generalizing service with
  | nil => rfl
  | cons situation rest ih =>
    have hmem : situation ∈ situations := hrest List.mem_cons_self
    obtain ⟨kept, hfetch, hfaithful⟩ :=
      h.fetchAll hkeeping htags hmem (hstatus situation hmem)
    have hlater := ih hfaithful hkeeping (List.subset_of_cons_subset hrest)
    rw [Service.fetchesAll, hfetch, List.map_cons]
    exact congrArg (service.plainAnswer situation :: ·) hlater

/-- A service that keeps the last dataset answers as one that keeps nothing, in every sequence of
situations of a server that says that nothing has changed only when asked with the tag that is current,
if its tags tell its bodies. -/
theorem keeping_changes_no_answer (address sdkKey : String) {situations : List Http.Reply}
    (hstatus : ∀ situation ∈ situations, ∀ response ∈ situation, response.status ≠ 304)
    (htags : TagsTellBodies situations) :
    (ofAddress address sdkKey true).map (·.fetchesAll situations) =
      (ofAddress address sdkKey false).map (·.fetchesAll situations) := by
  unfold ofAddress
  cases parseUrl address with
  | error failure => rfl
  | ok base =>
    cases checkKey sdkKey with
    | error failure => rfl
    | ok _ =>
      have hfaithful : ({ base, sdkKey, keeping := true } : Service).Faithful situations :=
        fun _ _ hkept => nomatch hkept
      have hkept := hfaithful.fetchesAll rfl htags hstatus (List.Subset.refl situations)
      have hplain := fetchesAll_plain { base, sdkKey, keeping := true } situations
      exact congrArg Except.ok (hkept.trans hplain.symm)

/-- A dataset with a tag that stays, a body that is none, a tag that comes back, a failure, and a
dataset without a tag. -/
def changingBodies : List Http.Reply :=
  let first := "\x7b\"flags\":\x7b\"a\":\x7b\"key\":\"a\"\x7d\x7d\x7d"
  [some { status := 200, entityTag := some "1", body := some first },
    some { status := 200, entityTag := some "1", body := some first },
    some { status := 200, entityTag := some "2", body := some "x" },
    some { status := 200, entityTag := some "1", body := some first },
    some { status := 503 }, none,
    some { status := 200, body := some "\x7b\x7d" },
    some { status := 200, entityTag := some "1", body := some first }]

/-- The tags of the changing bodies tell them, so keeping the last of them changes no answer. -/
theorem changing_bodies_answered_alike :
    (∀ situation ∈ changingBodies, ∀ response ∈ situation, response.status ≠ 304) ∧
      TagsTellBodies changingBodies ∧
      (ofAddress "https://sdk.example.com" "key" true).map (·.fetchesAll changingBodies) =
        (ofAddress "https://sdk.example.com" "key" false).map (·.fetchesAll changingBodies) := by
  have hstatus : ∀ situation ∈ changingBodies, ∀ response ∈ situation, response.status ≠ 304 := by
    decide
  have htags : TagsTellBodies changingBodies := by
    unfold TagsTellBodies
    decide
  exact ⟨hstatus, htags, keeping_changes_no_answer "https://sdk.example.com" "key" hstatus htags⟩

end FeatureFlags.Service
