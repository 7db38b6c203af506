import FeatureFlags.Proofs.FlagRuns

/-!
Evaluation without keeping track of what is open. It has no answer for a flag that leads to itself,
and a run that finds nothing open has the answer that it has. So what is kept track of shows only
where a flag leads to a circle.
-/
namespace FeatureFlags

open Evaluation Relation

namespace Flag

def plainlyMet? (setting : Setting) (serves : Flag → Option (Detail Json))
    (required : Prerequisite) : Option Bool :=
  match setting.catalog.flag? required.key with
  | none => some false
  | some other => (serves other).map fun detail =>
      detail.variationIndex == some required.variation

def plainlyUnmet? (setting : Setting) (serves : Flag → Option (Detail Json)) :
    List Prerequisite → Option (Option Prerequisite)
  | [] => some none
  | required :: rest => do
      if ← plainlyMet? setting serves required then plainlyUnmet? setting serves rest
      else return some required

/-- What a flag serves where nothing is ever open. -/
def plain? (setting : Setting) (room : ℕ) : ℕ → Flag → Option (Detail Json)
  | 0, _ => none
  | depth + 1, flag =>
      if flag.on then do
        match ← plainlyUnmet? setting (plain? setting room depth) flag.prerequisites with
        | some required => return flag.serveOff (.prerequisiteFailed required.key)
        | none => flag.ruled setting room
      else return flag.serveOff .off

def Plainly (setting : Setting) (room : ℕ) (flag : Flag) (detail : Detail Json) : Prop :=
  ∃ depth, flag.plain? setting room depth = some detail

def PlainlyMet (setting : Setting) (room : ℕ) (required : Prerequisite) : Prop :=
  ∃ other detail, setting.catalog.flag? required.key = some other ∧
    other.Plainly setting room detail ∧ detail.variationIndex = some required.variation

def Needs (setting : Setting) (room : ℕ) (flag : Flag) (required : Prerequisite) : Prop :=
  flag.on = true ∧ ∃ before after, flag.prerequisites = before ++ required :: after ∧
    ∀ r ∈ before, PlainlyMet setting room r

def Leads (setting : Setting) (room : ℕ) (flag other : Flag) : Prop :=
  ∃ required, flag.Needs setting room required ∧
    setting.catalog.flag? required.key = some other

variable {setting : Setting} {room depth depth' : ℕ} {flag other : Flag} {detail : Detail Json}

theorem plainlyMet?_mono {serves serves' : Flag → Option (Detail Json)}
    (hserves : ∀ other detail, serves other = some detail → serves' other = some detail)
    {required : Prerequisite} {met : Bool} (h : plainlyMet? setting serves required = some met) :
    plainlyMet? setting serves' required = some met := by
  unfold plainlyMet? at h ⊢
  cases hother : setting.catalog.flag? required.key with
  | none =>
    rw [hother] at h
    exact h
  | some other =>
    rw [hother] at h
    obtain ⟨detail, hdetail, hmet⟩ := Option.map_eq_some_iff.mp h
    exact Option.map_eq_some_iff.mpr ⟨detail, hserves other detail hdetail, hmet⟩

theorem plainlyUnmet?_mono {serves serves' : Flag → Option (Detail Json)}
    (hserves : ∀ other detail, serves other = some detail → serves' other = some detail)
    {required : List Prerequisite} {out : Option Prerequisite}
    (h : plainlyUnmet? setting serves required = some out) :
    plainlyUnmet? setting serves' required = some out := by
  induction required with
  | nil => exact h
  | cons required rest ih =>
    obtain ⟨met, hmet, hrest⟩ := Option.bind_eq_some_iff.mp h
    refine Option.bind_eq_some_iff.mpr ⟨met, plainlyMet?_mono hserves hmet, ?_⟩
    cases met with
    | true => exact ih hrest
    | false => exact hrest

/-- A plain answer stays when more depth is given. -/
theorem plain?_mono (hle : depth ≤ depth') (h : flag.plain? setting room depth = some detail) :
    flag.plain? setting room depth' = some detail := by
  induction depth generalizing depth' flag detail with
  | zero => cases h
  | succ depth ih =>
    obtain ⟨depth', rfl⟩ : ∃ n, depth' = n + 1 := ⟨depth' - 1, by omega⟩
    unfold plain? at h ⊢
    split
    · next hon =>
      rw [if_pos hon] at h
      obtain ⟨out, hout, hserve⟩ := Option.bind_eq_some_iff.mp h
      have hserves : ∀ other detail, plain? setting room depth other = some detail →
          plain? setting room depth' other = some detail :=
        fun other detail hother => ih (by omega) hother
      exact Option.bind_eq_some_iff.mpr ⟨out, plainlyUnmet?_mono hserves hout, hserve⟩
    · next hoff =>
      rw [if_neg hoff] at h
      exact h

/-- A flag has one plain answer at most. -/
theorem Plainly.unique {detail' : Detail Json} (h : flag.Plainly setting room detail)
    (h' : flag.Plainly setting room detail') : detail = detail' := by
  obtain ⟨depth, hdepth⟩ := h
  obtain ⟨depth', hdepth'⟩ := h'
  have hmax := plain?_mono (Nat.le_max_left depth depth') hdepth
  rw [plain?_mono (Nat.le_max_right depth depth') hdepth'] at hmax
  exact (Option.some.inj hmax).symm

theorem plainlyMet?_iff {required : Prerequisite} {met : Bool}
    (h : plainlyMet? setting (plain? setting room depth) required = some met) :
    met = true ↔ PlainlyMet setting room required := by
  unfold plainlyMet? at h
  cases hother : setting.catalog.flag? required.key with
  | none =>
    rw [hother] at h
    cases h
    refine ⟨fun hfalse => absurd hfalse Bool.false_ne_true, ?_⟩
    rintro ⟨other, detail, hfound, -⟩
    rw [hother] at hfound
    cases hfound
  | some other =>
    rw [hother] at h
    obtain ⟨detail, hdetail, rfl⟩ := Option.map_eq_some_iff.mp h
    constructor
    · exact fun hmet => ⟨other, detail, hother, ⟨depth, hdetail⟩, by simpa using hmet⟩
    · rintro ⟨other', detail', hfound, hplain, hindex⟩
      rw [hother] at hfound
      cases hfound
      rw [Plainly.unique ⟨depth, hdetail⟩ hplain]
      simpa using hindex

/-- The prerequisites before the one that is needed are passed over. -/
theorem plainlyUnmet?_append {before after : List Prerequisite} {out : Option Prerequisite}
    (hbefore : ∀ r ∈ before, PlainlyMet setting room r)
    (h : plainlyUnmet? setting (plain? setting room depth) (before ++ after) = some out) :
    plainlyUnmet? setting (plain? setting room depth) after = some out := by
  induction before with
  | nil => exact h
  | cons required before ih =>
    obtain ⟨met, hmet, hrest⟩ := Option.bind_eq_some_iff.mp h
    have htrue : met = true := (plainlyMet?_iff hmet).mpr (hbefore required List.mem_cons_self)
    subst htrue
    exact ih (fun r hr => hbefore r (List.mem_cons_of_mem required hr)) hrest

theorem Needs.of_plain? {required : Prerequisite} (hneeds : flag.Needs setting room required)
    (h : flag.plain? setting room depth = some detail) :
    ∃ less met, depth = less + 1 ∧
      plainlyMet? setting (plain? setting room less) required = some met ∧
      (met = false → detail = flag.serveOff (.prerequisiteFailed required.key)) := by
  obtain ⟨hon, before, after, hsplit, hbefore⟩ := hneeds
  cases depth with
  | zero => cases h
  | succ less =>
    unfold plain? at h
    rw [if_pos hon, hsplit] at h
    obtain ⟨out, hout, hserve⟩ := Option.bind_eq_some_iff.mp h
    obtain ⟨met, hmet, hrest⟩ := Option.bind_eq_some_iff.mp (plainlyUnmet?_append hbefore hout)
    refine ⟨less, met, rfl, hmet, fun hfalse => ?_⟩
    subst hfalse
    cases hrest
    cases hserve
    rfl

theorem Leads.of_plain? (hleads : Leads setting room flag other)
    (h : flag.plain? setting room depth = some detail) :
    ∃ less < depth, ∃ detail', other.plain? setting room less = some detail' := by
  obtain ⟨required, hneeds, hother⟩ := hleads
  obtain ⟨less, met, rfl, hmet, -⟩ := hneeds.of_plain? h
  unfold plainlyMet? at hmet
  rw [hother] at hmet
  obtain ⟨detail', hdetail, -⟩ := Option.map_eq_some_iff.mp hmet
  exact ⟨less, Nat.lt_succ_self less, detail', hdetail⟩

/-- A flag with a plain answer leads to none without, and to each with less depth. -/
theorem Leads.of_plain?_transGen (hleads : TransGen (Leads setting room) flag other)
    (h : flag.plain? setting room depth = some detail) :
    ∃ less < depth, ∃ detail', other.plain? setting room less = some detail' :=
  exists_less_of_transGen
    (fun depth (flag : Flag) => ∃ detail, flag.plain? setting room depth = some detail)
    (fun hlead ⟨_, hplain⟩ => hlead.of_plain? hplain) hleads ⟨detail, h⟩

/-- A flag that leads to itself has no plain answer. -/
theorem plain?_eq_none_of_leads_self (hleads : TransGen (Leads setting room) flag flag)
    (depth : ℕ) : flag.plain? setting room depth = none := by
  induction depth using Nat.strongRecOn with
  | _ depth ih =>
    by_contra hsome
    obtain ⟨detail, h⟩ := Option.ne_none_iff_exists'.mp hsome
    obtain ⟨less, hless, detail', h'⟩ := Leads.of_plain?_transGen hleads h
    rw [ih less hless] at h'
    cases h'

structure PlainRecord (setting : Setting) (room : ℕ) (record : PrerequisiteRecord) : Prop where
  found : ∃ key, setting.catalog.flag? key = some record.flag
  plain : record.flag.Plainly setting room record.detail

variable {t u : Trail}

theorem plainlyUnmet?_cons {serves : Flag → Option (Detail Json)} {required : Prerequisite}
    {rest : List Prerequisite} {out : Option Prerequisite} {met : Bool}
    (hmet : plainlyMet? setting serves required = some met)
    (hout : (if met then plainlyUnmet? setting serves rest else some (some required)) = some out) :
    plainlyUnmet? setting serves (required :: rest) = some out :=
  Option.bind_eq_some_iff.mpr ⟨met, hmet, hout⟩

theorem plainlyMet?_of_found {serves : Flag → Option (Detail Json)} {required : Prerequisite}
    (hother : setting.catalog.flag? required.key = some other) (h : serves other = some detail) :
    plainlyMet? setting serves required =
      some (detail.variationIndex == some required.variation) := by
  unfold plainlyMet?
  rw [hother]
  dsimp only
  rw [h, Option.map_some]

theorem plainlyMet?_of_missing {serves : Flag → Option (Detail Json)} {required : Prerequisite}
    (hmissing : setting.catalog.flag? required.key = none) :
    plainlyMet? setting serves required = some false := by
  unfold plainlyMet?
  rw [hmissing]

theorem mem_noting {recording : Bool} {record record' : PrerequisiteRecord}
    (h : record ∈ (t.noting recording record').records) : record ∈ t.records ∨ record = record' := by
  unfold Trail.noting at h
  split at h
  · rw [List.mem_append, List.mem_singleton] at h
    exact h
  · exact .inl h

/-- As long as nothing is found open, the answer is the plain one, and so are those recorded. -/
theorem plainRule (hroom : setting.catalog.Within room) : RunRule setting
    (fun depth flag t detail u => t.openSegments = [] → u.openSegments = [] ∧ (u.cycle = false →
      flag.plain? setting room depth = some detail ∧
      ∀ record ∈ u.records, record ∈ t.records ∨ PlainRecord setting room record))
    (fun depth _ required t out u => t.openSegments = [] → u.openSegments = [] ∧ (u.cycle = false →
      plainlyUnmet? setting (plain? setting room depth) required = some out ∧
      ∀ record ∈ u.records, record ∈ t.records ∨ PlainRecord setting room record)) where
  off hoff ht := by
    refine ⟨ht, fun _ => ⟨?_, fun record hmem => .inl hmem⟩⟩
    unfold plain?
    rw [if_neg (by rw [hoff]; decide)]
    rfl
  unmet hon hchecked ht := by
    obtain ⟨hsegments, hplain⟩ := hchecked (by rw [Trail.enter_openSegments]; exact ht)
    refine ⟨by rw [Trail.leave_openSegments]; exact hsegments, fun hcycle => ?_⟩
    rw [Trail.leave_cycle] at hcycle
    obtain ⟨hunmet, hrecords⟩ := hplain hcycle
    rw [Trail.enter_records] at hrecords
    refine ⟨?_, by rw [Trail.leave_records]; exact hrecords⟩
    unfold plain?
    rw [if_pos hon, hunmet]
    rfl
  met hon _ hchecked hserve ht := by
    obtain ⟨hsegments, hplain⟩ := hchecked (by rw [Trail.enter_openSegments]; exact ht)
    obtain ⟨⟨texts, rfl⟩, hruled⟩ :=
      serveMet_frame hroom (by rw [Trail.leave_openSegments]; exact hsegments) hserve
    refine ⟨(Trail.leave_openSegments _ _).trans hsegments, fun hcycle => ?_⟩
    obtain ⟨hunmet, hrecords⟩ := hplain ((Trail.leave_cycle _ _).symm.trans hcycle)
    rw [Trail.enter_records] at hrecords
    refine ⟨?_, fun record hmem => hrecords record ?_⟩
    · unfold plain?
      rw [if_pos hon, hunmet]
      exact hruled
    · exact (congrArg (record ∈ ·) (Trail.leave_records _ _)).mp hmem
  done ht := ⟨ht, fun _ => ⟨rfl, fun record hmem => .inl hmem⟩⟩
  again _ ht := ⟨ht, fun hcycle => by cases hcycle⟩
  missing _ hmissing ht :=
    ⟨ht, fun _ => ⟨plainlyUnmet?_cons (plainlyMet?_of_missing hmissing) rfl,
      fun record hmem => .inl hmem⟩⟩
  failed hclosed hother _ hserved hfails ht := by
    obtain ⟨hsegments, hclean⟩ := hserved ht
    refine ⟨by rw [Trail.noting_openSegments]; exact hsegments, fun hcycle => ?_⟩
    rw [Trail.noting_cycle] at hcycle
    obtain ⟨hplain, hrecords⟩ := hclean hcycle
    refine ⟨plainlyUnmet?_cons (plainlyMet?_of_found hother hplain) ?_, fun record hmem => ?_⟩
    · rw [if_neg]
      rcases hfails with htrue | hindex
      · rw [hcycle] at htrue
        cases htrue
      · simpa using hindex
    · rcases mem_noting hmem with hold | rfl
      · exact hrecords record hold
      · exact .inr ⟨⟨_, hother⟩, ⟨_, hplain⟩⟩
  passed hclosed hother _ hserved hcycle hindex hrest ht := by
    obtain ⟨hsegments, hclean⟩ := hserved ht
    obtain ⟨hplain, hrecords⟩ := hclean hcycle
    obtain ⟨hsegments', hclean'⟩ := hrest (by rw [Trail.noting_openSegments]; exact hsegments)
    refine ⟨hsegments', fun hcycle' => ?_⟩
    obtain ⟨hunmet, hrecords'⟩ := hclean' hcycle'
    refine ⟨plainlyUnmet?_cons (plainlyMet?_of_found hother hplain) ?_, fun record hmem => ?_⟩
    · rw [if_pos (by simpa using hindex)]
      exact hunmet
    · rcases hrecords' record hmem with hbefore | hnew
      · rcases mem_noting hbefore with hold | rfl
        · exact hrecords record hold
        · exact .inr ⟨⟨_, hother⟩, ⟨_, hplain⟩⟩
      · exact .inr hnew

/-- Where nothing was found open, evaluation gives the plain answer. -/
theorem evaluate_plain (hroom : setting.catalog.Within room) (ht : t.openSegments = [])
    (h : flag.evaluate setting depth t = some (detail, u)) (hcycle : u.cycle = false) :
    flag.Plainly setting room detail ∧
      ∀ record ∈ u.records, record ∈ t.records ∨ PlainRecord setting room record := by
  obtain ⟨hplain, hrecords⟩ := ((plainRule hroom).of_evaluate h ht).2 hcycle
  exact ⟨⟨depth, hplain⟩, hrecords⟩

theorem plainlyMet_of_plainlyUnmet? {required : List Prerequisite}
    (h : plainlyUnmet? setting (plain? setting room depth) required = some none) :
    ∀ r ∈ required, PlainlyMet setting room r := by
  induction required with
  | nil => exact fun r hr => absurd hr List.not_mem_nil
  | cons required rest ih =>
    obtain ⟨met, hmet, hrest⟩ := Option.bind_eq_some_iff.mp h
    cases met with
    | false => cases hrest
    | true =>
      intro r hr
      rcases List.mem_cons.mp hr with rfl | hr
      · exact (plainlyMet?_iff hmet).mp rfl
      · exact ih hrest r hr

/-- What comes before a prerequisite is met plainly if nothing was found open before. -/
theorem ComesTo.plain {required : Prerequisite} (hroom : setting.catalog.Within room)
    (hcomes : ComesTo setting flag t required u) (ht : t.openSegments = [])
    (hcycle : t.cycle = false) :
    flag.Needs setting room required ∧ u.cycle = false ∧
      ∀ record ∈ u.records, record ∈ t.records ∨ PlainRecord setting room record := by
  obtain ⟨hon, before, after, depth, hsplit, hbefore⟩ := hcomes
  have hu : u.cycle = false :=
    firstUnmet_met_cycle hbefore (by rw [Trail.enter_cycle]; exact hcycle)
  obtain ⟨-, hclean⟩ := (plainRule hroom).of_firstUnmet (plainRule hroom).of_evaluate hbefore
    (by rw [Trail.enter_openSegments]; exact ht)
  obtain ⟨hunmet, hrecords⟩ := hclean hu
  rw [Trail.enter_records] at hrecords
  exact ⟨⟨hon, before, after, hsplit, plainlyMet_of_plainlyUnmet? hunmet⟩, hu, hrecords⟩

end Flag

end FeatureFlags
