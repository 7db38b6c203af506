import FeatureFlags.Proofs.Plain
import FeatureFlags.Proofs.Termination

/-!
Prerequisites that are required by what they require. Once evaluation comes to a prerequisite that is
being evaluated, every flag on the way to it fails by the prerequisite it came there by, and nothing
else is evaluated any more. Where it does not come to one, what is open is of no account.
-/
namespace FeatureFlags

open Evaluation Relation

/-- Nothing was found open, and the flags being evaluated have these keys. -/
structure Trail.On (path : List String) (t : Trail) : Prop where
  openFlags : t.openFlags = path
  openSegments : t.openSegments = []
  cycle : t.cycle = false

theorem Trail.On.start : ({} : Trail).On [] := ⟨rfl, rfl, rfl⟩

namespace Flag

variable {setting : Setting} {room depth : ℕ} {path : List String} {flag other : Flag}
  {t u v : Trail} {route : List (Flag × Prerequisite)} {detail : Detail Json}

/-- With flags of these keys being evaluated, evaluation of the flag comes to a prerequisite that has
one of them. On the route to it is each flag with the prerequisite that it came to. -/
inductive Repeats (setting : Setting) :
    List String → Flag → Trail → List (Flag × Prerequisite) → Trail → Prop
  | here {path : List String} {flag : Flag} {t u : Trail} {required : Prerequisite} :
      ComesTo setting flag t required u → required.key ∈ flag.key :: path →
      Repeats setting path flag t [(flag, required)] u
  | further {path : List String} {flag other : Flag} {t u v : Trail} {required : Prerequisite}
      {route : List (Flag × Prerequisite)} :
      ComesTo setting flag t required u → required.key ∉ flag.key :: path →
      setting.catalog.flag? required.key = some other →
      Repeats setting (flag.key :: path) other u route v →
      Repeats setting path flag t ((flag, required) :: route) v

/-- The records on the way back, the innermost first. -/
def unwinding : List (Flag × Prerequisite) → List PrerequisiteRecord
  | outer :: inner :: rest =>
      unwinding (inner :: rest) ++
        [⟨inner.1, outer.1.key, inner.1.serveOff (.prerequisiteFailed inner.2.key)⟩]
  | _ => []

theorem Repeats.route_eq (h : Repeats setting path flag t route v) :
    ∃ required rest, route = (flag, required) :: rest := by
  cases h with
  | here => exact ⟨_, _, rfl⟩
  | further => exact ⟨_, _, rfl⟩

/-- Each flag of these keys leads to the flag. -/
def LedTo (setting : Setting) (room : ℕ) (path : List String) (flag : Flag) : Prop :=
  ∀ key ∈ path, ∃ other, setting.catalog.flag? key = some other ∧
    TransGen (Leads setting room) other flag

theorem LedTo.step {other : Flag} (hled : LedTo setting room path flag)
    (hlive : setting.catalog.flag? flag.key = some flag) (hleads : Leads setting room flag other) :
    LedTo setting room (flag.key :: path) other := by
  intro key hkey
  rcases List.mem_cons.mp hkey with rfl | hkey
  · exact ⟨flag, hlive, .single hleads⟩
  · obtain ⟨outer, houter, hbefore⟩ := hled key hkey
    exact ⟨outer, houter, hbefore.tail hleads⟩

/-- The evaluation of a flag that is found, with flags that lead to it being evaluated around it. -/
structure Reached (setting : Setting) (room : ℕ) (path : List String) (flag : Flag) (t : Trail) :
    Prop where
  on : t.On path
  fresh : flag.key ∉ path
  live : setting.catalog.flag? flag.key = some flag
  led : LedTo setting room path flag

theorem Reached.start (hlive : setting.catalog.flag? flag.key = some flag) :
    Reached setting room [] flag {} :=
  ⟨Trail.On.start, List.not_mem_nil, hlive, fun _ hkey => absurd hkey List.not_mem_nil⟩

/-- Where a prerequisite is found open, there is one that everything before it is met for, and either
it is open itself or the evaluation of its flag comes to a repeat. -/
def OpensAgain (setting : Setting) (depth : ℕ) (flag : Flag) (required : List Prerequisite)
    (t : Trail) : Prop :=
  ∃ before r after v, required = before ++ r :: after ∧
    flag.firstUnmet setting depth before t = some (none, v) ∧
    (r.key ∈ t.openFlags ∨ r.key ∉ t.openFlags ∧ ∃ other route w,
      setting.catalog.flag? r.key = some other ∧ Repeats setting t.openFlags other v route w)

/-- A flag with such a prerequisite comes to a repeat, if it is not open itself. -/
theorem OpensAgain.repeats (h : OpensAgain setting depth flag flag.prerequisites (t.enter flag))
    (hon : flag.on = true) (hclosed : flag.key ∉ t.openFlags) :
    ∃ route v, Repeats setting t.openFlags flag t route v := by
  obtain ⟨before, r, after, u, hsplit, hbefore, hagain⟩ := h
  have hrequires : flag.prerequisites ≠ [] := by
    rw [hsplit]
    exact List.append_ne_nil_of_right_ne_nil before (List.cons_ne_nil r after)
  have hcomes : ComesTo setting flag t r u := ⟨hon, before, after, depth, hsplit, hbefore⟩
  rw [Trail.enter_openFlags hrequires hclosed] at hagain
  rcases hagain with hopen | ⟨hfresh, other, route, w, hother, hbelow⟩
  · exact ⟨_, _, .here hcomes hopen⟩
  · exact ⟨_, _, .further hcomes hfresh hother hbelow⟩

section

variable (hroom : setting.catalog.Within room) (hself : setting.catalog.SelfKeyed)

include hroom hself

theorem ComesTo.on {required : Prerequisite} (hcomes : ComesTo setting flag t required u)
    (ht : t.On path) (hclosed : flag.key ∉ path) : u.On (flag.key :: path) := by
  obtain ⟨hopen, hsegments⟩ := hcomes.frame hself (by rw [ht.openFlags]; exact hclosed)
  obtain ⟨-, hcycle, -⟩ := hcomes.plain hroom ht.openSegments ht.cycle
  exact ⟨by rw [hopen, ht.openFlags], hsegments.trans ht.openSegments, hcycle⟩

/-- A repeat fails every flag on the route, and nothing is evaluated after it. -/
theorem Repeats.of_evaluate (h : Repeats setting path flag t route v) (ht : t.On path)
    (hclosed : flag.key ∉ path) (hrecording : setting.recording = true)
    (hrun : flag.evaluate setting depth t = some (detail, u)) :
    (∃ required rest, route = (flag, required) :: rest ∧
      detail = flag.serveOff (.prerequisiteFailed required.key)) ∧
    u.cycle = true ∧ u.records = v.records ++ unwinding route ∧ u.hashed = v.hashed := by
  induction h generalizing depth detail u with
  | @here path flag t v required hcomes hrepeat =>
    obtain ⟨less, met, w, rfl, hmet, hresult⟩ := hcomes.of_evaluate hrun
    have hv := hcomes.on hroom hself ht hclosed
    rcases prerequisiteMet_cases hmet with ⟨-, rfl, rfl⟩ | ⟨hfresh, -⟩ |
      ⟨other, detail', x, hfresh, -⟩
    · obtain ⟨rfl, rfl⟩ := Prod.mk.inj (hresult rfl)
      refine ⟨⟨required, [], rfl, rfl⟩, Trail.leave_cycle _ _, ?_, Trail.leave_hashed _ _⟩
      rw [Trail.leave_records]
      exact (List.append_nil v.records).symm
    · rw [hv.openFlags] at hfresh
      exact absurd hrepeat hfresh
    · rw [hv.openFlags] at hfresh
      exact absurd hrepeat hfresh
  | @further path flag other t between v required route hcomes hfresh hother hbelow ih =>
    obtain ⟨less, met, w, rfl, hmet, hresult⟩ := hcomes.of_evaluate hrun
    have hbetween := hcomes.on hroom hself ht hclosed
    rcases prerequisiteMet_cases hmet with ⟨hopen, -⟩ | ⟨-, hnone, -⟩ |
      ⟨found, detail', x, -, hfound, hinner, hboth, rfl⟩
    · rw [hbetween.openFlags] at hopen
      exact absurd hopen hfresh
    · rw [hother] at hnone
      cases hnone
    · rw [hother] at hfound
      cases hfound
      have hkey : other.key ∉ flag.key :: path := by rw [hself _ _ hother]; exact hfresh
      obtain ⟨⟨inner, rest, rfl, rfl⟩, hcycle, hrecords, hhashed⟩ := ih hbetween hkey hinner
      have hfailed : met = false := by rw [hboth, hcycle]; rfl
      obtain ⟨rfl, rfl⟩ := Prod.mk.inj (hresult hfailed)
      refine ⟨⟨required, _, rfl, rfl⟩, ?_, ?_, ?_⟩
      · rw [Trail.leave_cycle, Trail.noting_cycle]
        exact hcycle
      · rw [Trail.leave_records, Trail.noting, if_pos hrecording]
        dsimp only
        rw [hrecords, unwinding, List.append_assoc]
      · rw [Trail.leave_hashed, Trail.noting_hashed]
        exact hhashed

/-- Whenever something is found open, there is a route to it. -/
theorem repeatRule : RunRule setting
    (fun _ flag t _ u => flag.key ∉ t.openFlags → t.On t.openFlags → u.cycle = true →
      ∃ route v, Repeats setting t.openFlags flag t route v)
    (fun depth flag required t _ u => t.On t.openFlags → u.cycle = true →
      OpensAgain setting depth flag required t) where
  off _ _ ht hcycle := by
    rw [ht.cycle] at hcycle
    cases hcycle
  unmet hon hchecked hclosed ht hcycle := by
    refine (hchecked ⟨rfl, ?_, ?_⟩ ?_).repeats hon hclosed
    · rw [Trail.enter_openSegments]; exact ht.openSegments
    · rw [Trail.enter_cycle]; exact ht.cycle
    · rw [Trail.leave_cycle] at hcycle; exact hcycle
  met _ hcheck _ hserve _ ht hcycle := by
    have hu := firstUnmet_met_cycle hcheck (by rw [Trail.enter_cycle]; exact ht.cycle)
    obtain ⟨-, hsegments⟩ := firstUnmet_frame hself hcheck
    rw [Trail.enter_openSegments, ht.openSegments] at hsegments
    obtain ⟨⟨texts, rfl⟩, -⟩ :=
      serveMet_frame hroom (by rw [Trail.leave_openSegments]; exact hsegments) hserve
    have hleft := (Trail.leave_cycle _ _).symm.trans hcycle
    rw [hu] at hleft
    cases hleft
  done ht hcycle := by
    rw [ht.cycle] at hcycle
    cases hcycle
  again hopen ht _ := ⟨[], _, _, _, rfl, rfl, .inl hopen⟩
  missing _ _ ht hcycle := by
    rw [ht.cycle] at hcycle
    cases hcycle
  failed hfresh hother _ hserved _ ht hcycle := by
    rw [Trail.noting_cycle] at hcycle
    obtain ⟨route, w, hbelow⟩ := hserved (by rw [hself _ _ hother]; exact hfresh) ht hcycle
    exact ⟨[], _, _, _, rfl, rfl, .inr ⟨hfresh, _, route, w, hother, hbelow⟩⟩
  passed hfresh hother hrun _ hcycle hindex hrest ht hcycle' := by
    obtain ⟨hopen, hsegments⟩ :=
      evaluate_frame hself (by rw [hself _ _ hother]; exact hfresh) hrun
    obtain ⟨before, r, after, w, hsplit, hbefore, hagain⟩ := hrest
      ⟨rfl, by rw [Trail.noting_openSegments, hsegments]; exact ht.openSegments,
        by rw [Trail.noting_cycle]; exact hcycle⟩ hcycle'
    rw [Trail.noting_openFlags, hopen] at hagain
    refine ⟨_ :: before, r, after, w, congrArg _ hsplit, ?_, hagain⟩
    rw [firstUnmet_cons, prerequisiteMet_of_run hfresh hother hrun, Option.bind_some,
      if_pos (by simpa using ⟨hcycle, hindex⟩)]
    exact hbefore

/-- A run that found something open came to a repeat. -/
theorem exists_repeats (ht : t.On path) (hclosed : flag.key ∉ path)
    (hrun : flag.evaluate setting depth t = some (detail, u)) (hcycle : u.cycle = true) :
    ∃ route v, Repeats setting path flag t route v := by
  have hopen := ht.openFlags
  subst hopen
  exact (repeatRule hroom hself).of_evaluate hrun hclosed ht hcycle

theorem Reached.step {required : Prerequisite} (hreached : Reached setting room path flag t)
    (hcomes : ComesTo setting flag t required u) (hfresh : required.key ∉ flag.key :: path)
    (hother : setting.catalog.flag? required.key = some other) :
    Reached setting room (flag.key :: path) other u := by
  have hkey : other.key = required.key := hself _ _ hother
  obtain ⟨hneeds, -, -⟩ := hcomes.plain hroom hreached.on.openSegments hreached.on.cycle
  refine ⟨hcomes.on hroom hself hreached.on hreached.fresh, ?_, ?_, ?_⟩
  · rw [hkey]
    exact hfresh
  · rw [hkey]
    exact hother
  · exact hreached.led.step hreached.live ⟨required, hneeds, hother⟩

omit hself in
/-- A flag that comes to a prerequisite which is being evaluated leads to itself. -/
theorem Reached.leads_self {required : Prerequisite} (hreached : Reached setting room path flag t)
    (hcomes : ComesTo setting flag t required u) (hrepeat : required.key ∈ flag.key :: path) :
    TransGen (Leads setting room) flag flag := by
  obtain ⟨hneeds, -, -⟩ := hcomes.plain hroom hreached.on.openSegments hreached.on.cycle
  rcases List.mem_cons.mp hrepeat with hsame | hkey
  · exact .single ⟨required, hneeds, by rw [hsame]; exact hreached.live⟩
  · obtain ⟨outer, houter, hbefore⟩ := hreached.led _ hkey
    exact .head ⟨required, hneeds, houter⟩ hbefore

/-- A repeat is on a circle that the flag leads into. -/
theorem Repeats.leads_into_circle (h : Repeats setting path flag t route v)
    (hreached : Reached setting room path flag t) :
    ∃ other, ReflTransGen (Leads setting room) flag other ∧
      TransGen (Leads setting room) other other := by
  induction h with
  | here hcomes hrepeat => exact ⟨_, .refl, hreached.leads_self hroom hcomes hrepeat⟩
  | further hcomes hfresh hother _ ih =>
    obtain ⟨hneeds, -, -⟩ := hcomes.plain hroom hreached.on.openSegments hreached.on.cycle
    obtain ⟨last, hreach, hcircle⟩ := ih (hreached.step hroom hself hcomes hfresh hother)
    exact ⟨last, .head ⟨_, hneeds, hother⟩ hreach, hcircle⟩

/-- No flag on the route has a plain answer. -/
theorem Repeats.not_plainly (h : Repeats setting path flag t route v)
    (hreached : Reached setting room path flag t) :
    ∀ step ∈ route, ∀ detail, ¬ step.1.Plainly setting room detail := by
  induction h with
  | @here path flag t v required hcomes hrepeat =>
    have hcircle := hreached.leads_self hroom hcomes hrepeat
    intro step hstep detail
    rw [List.mem_singleton.mp hstep]
    rintro ⟨depth, hplain⟩
    rw [plain?_eq_none_of_leads_self hcircle] at hplain
    cases hplain
  | @further path flag other t between v required route hcomes hfresh hother hbelow ih =>
    obtain ⟨hneeds, -, -⟩ := hcomes.plain hroom hreached.on.openSegments hreached.on.cycle
    have hroute := ih (hreached.step hroom hself hcomes hfresh hother)
    intro step hstep detail
    rcases List.mem_cons.mp hstep with rfl | hstep
    · rintro ⟨depth, hplain⟩
      have hleads : Leads setting room flag other := ⟨required, hneeds, hother⟩
      obtain ⟨less, -, detail', hplain'⟩ := hleads.of_plain? hplain
      obtain ⟨next, rest, rfl⟩ := hbelow.route_eq
      exact hroute _ List.mem_cons_self detail' ⟨less, hplain'⟩
    · exact hroute step hstep detail

/-- The flags that were evaluated on the way and met are told as if nothing were open. -/
theorem Repeats.plainRecord (h : Repeats setting path flag t route v) (ht : t.On path)
    (hclosed : flag.key ∉ path) :
    ∀ record ∈ v.records, record ∈ t.records ∨ PlainRecord setting room record := by
  induction h with
  | @here path flag t v required hcomes _ =>
    exact (hcomes.plain hroom ht.openSegments ht.cycle).2.2
  | @further path flag other t between v required route hcomes hfresh hother _ ih =>
    intro record hmem
    rcases ih (hcomes.on hroom hself ht hclosed) (by rw [hself _ _ hother]; exact hfresh) record hmem
      with hbetween | hplain
    · exact (hcomes.plain hroom ht.openSegments ht.cycle).2.2 record hbetween
    · exact .inr hplain

omit hroom in
/-- The flags on the route are found under their keys, each of them once. -/
theorem Repeats.keys (h : Repeats setting path flag t route v) (hclosed : flag.key ∉ path)
    (hlive : setting.catalog.flag? flag.key = some flag) :
    (route.map (·.1.key)).Nodup ∧ ∀ step ∈ route,
      step.1.key ∉ path ∧ setting.catalog.flag? step.1.key = some step.1 := by
  induction h with
  | @here path flag t v required _ _ =>
    refine ⟨List.nodup_singleton _, fun step hstep => ?_⟩
    rw [List.mem_singleton.mp hstep]
    exact ⟨hclosed, hlive⟩
  | @further path flag other t between v required route _ hfresh hother _ ih =>
    have hkey : other.key = required.key := hself _ _ hother
    obtain ⟨hnodup, hsteps⟩ := ih (by rw [hkey]; exact hfresh) (by rw [hkey]; exact hother)
    constructor
    · rw [List.map_cons, List.nodup_cons]
      refine ⟨fun hmem => ?_, hnodup⟩
      obtain ⟨step, hstep, hsame⟩ := List.mem_map.mp hmem
      exact (hsteps step hstep).1 (List.mem_cons.mpr (.inl hsame))
    · intro step hstep
      rcases List.mem_cons.mp hstep with rfl | hstep
      · exact ⟨hclosed, hlive⟩
      · obtain ⟨hfar, hfound⟩ := hsteps step hstep
        exact ⟨fun hmem => hfar (List.mem_cons_of_mem _ hmem), hfound⟩

end

theorem unwinding_keys (route : List (Flag × Prerequisite)) :
    (unwinding route).map (·.flag.key) = (route.tail.map (·.1.key)).reverse := by
  induction route with
  | nil => rfl
  | cons outer rest ih =>
    cases rest with
    | nil => rfl
    | cons inner rest =>
      rw [unwinding, List.map_append, ih]
      simp

/-- Each flag on the route but the first leaves a record on the way back, which says that the next one
on the route was not met. -/
theorem mem_unwinding (route : List (Flag × Prerequisite)) :
    ∀ step ∈ route.tail, ∃ outer,
      ⟨step.1, outer, step.1.serveOff (.prerequisiteFailed step.2.key)⟩ ∈ unwinding route := by
  induction route with
  | nil => exact fun step hstep => absurd hstep List.not_mem_nil
  | cons outer rest ih =>
    cases rest with
    | nil => exact fun step hstep => absurd hstep List.not_mem_nil
    | cons inner rest =>
      intro step hstep
      rw [List.tail_cons] at hstep
      rw [unwinding]
      rcases List.mem_cons.mp hstep with rfl | hstep
      · exact ⟨outer.1.key, List.mem_append_right _ (List.mem_singleton.mpr rfl)⟩
      · obtain ⟨around, hmem⟩ := ih step hstep
        exact ⟨around, List.mem_append_left _ hmem⟩

/-- What is recorded on the way back was not recorded before. -/
theorem Repeats.recorded_once (hroom : setting.catalog.Within room)
    (hself : setting.catalog.SelfKeyed) (h : Repeats setting [] flag {} route v)
    (hlive : setting.catalog.flag? flag.key = some flag) {step : Flag × Prerequisite}
    (hstep : step ∈ route.tail) :
    ((v.records ++ unwinding route).map (·.flag.key)).count step.1.key = 1 := by
  have hmem : step ∈ route := List.mem_of_mem_tail hstep
  obtain ⟨hnodup, hsteps⟩ := h.keys hself List.not_mem_nil hlive
  have hbefore : step.1.key ∉ v.records.map (·.flag.key) := by
    intro hkey
    obtain ⟨record, hrecord, hsame⟩ := List.mem_map.mp hkey
    rcases h.plainRecord hroom hself Trail.On.start List.not_mem_nil record hrecord with
      hnone | hplain
    · cases hnone
    · obtain ⟨key, hfound⟩ := hplain.found
      have hflag : record.flag = step.1 := by
        rw [← hself _ _ hfound, hsame, (hsteps step hmem).2] at hfound
        exact (Option.some.inj hfound).symm
      refine h.not_plainly hroom hself (.start hlive) step hmem record.detail ?_
      rw [← hflag]
      exact hplain.plain
  have htail : (route.tail.map (·.1.key)).Nodup := by
    rw [List.map_tail]
    exact hnodup.sublist (List.tail_sublist _)
  rw [List.map_append, List.count_append, List.count_eq_zero_of_not_mem hbefore, unwinding_keys,
    List.count_reverse, Nat.zero_add]
  exact List.count_eq_one_of_mem htail (List.mem_map_of_mem hstep)

end Flag

namespace Dataset

/-- A repeat fails every flag on the way to it and is the end of the evaluation. Without a repeat all
answers are those of an evaluation that takes no account of what is open. -/
theorem repeat_fails_the_way_to_it (data : Dataset) (bucketer : Bucketer) (subject : Subject)
    (hself : data.catalog.SelfKeyed) {key : String} {flag : Flag}
    (hlive : data.flag? key = some flag) :
    ∃ outcome, data.evaluate? bucketer subject flag = some outcome ∧
      (∀ route v, Flag.Repeats (data.setting bucketer subject true) [] flag {} route v →
        (∃ required rest, route = (flag, required) :: rest ∧
          outcome.detail = flag.serveOff (.prerequisiteFailed required.key)) ∧
        outcome.records = v.records ++ Flag.unwinding route ∧
        outcome.hashed = v.hashed ∧
        ∀ step ∈ route.tail,
          (outcome.records.map (·.flag.key)).count step.1.key = 1 ∧
          ∃ outer, ⟨step.1, outer, step.1.serveOff (.prerequisiteFailed step.2.key)⟩ ∈
            outcome.records) ∧
      ((¬ ∃ route v, Flag.Repeats (data.setting bucketer subject true) [] flag {} route v) →
        flag.Plainly (data.setting bucketer subject true) (data.segments.size + 1) outcome.detail ∧
        ∀ record ∈ outcome.records, record.flag.Plainly (data.setting bucketer subject true)
          (data.segments.size + 1) record.detail) := by
  obtain ⟨detail, u, hrun⟩ := exists_evaluate_depth bucketer subject true hself hlive
  have hroom := data.catalog_within
  have hfound : data.catalog.flag? flag.key = some flag := by
    rw [hself key flag hlive]
    exact hlive
  refine ⟨⟨detail, u.records, u.hashed⟩, ?_, fun route v hrepeats => ?_, fun hnone => ?_⟩
  · change (flag.evaluate (data.setting bucketer subject true) data.depth {}).map _ = _
    rw [hrun]
    rfl
  · obtain ⟨hdetail, -, hrecords, hhashed⟩ :=
      hrepeats.of_evaluate hroom hself Trail.On.start List.not_mem_nil rfl hrun
    refine ⟨hdetail, hrecords, hhashed, fun step hstep => ?_⟩
    dsimp only
    rw [hrecords]
    refine ⟨hrepeats.recorded_once hroom hself hfound hstep, ?_⟩
    obtain ⟨outer, hmem⟩ := Flag.mem_unwinding route step hstep
    exact ⟨outer, List.mem_append_right _ hmem⟩
  · have hcycle : u.cycle = false := by
      by_contra htrue
      rw [Bool.not_eq_false] at htrue
      exact hnone (Flag.exists_repeats hroom hself Trail.On.start List.not_mem_nil hrun htrue)
    obtain ⟨hplain, hrecords⟩ := Flag.evaluate_plain hroom rfl hrun hcycle
    refine ⟨hplain, fun record hmem => ?_⟩
    rcases hrecords record hmem with hbefore | hrecord
    · cases hbefore
    · exact hrecord.plain

/-- Its off value is the value that it serves, and that others may require of it. -/
def requiring (key required : String) : Flag where
  key := key
  on := true
  prerequisites := [⟨required, 0⟩]
  offVariation := some 0
  fallthrough := .variation 0
  variations := [.bool true]

def eachOther : Dataset where
  flags := ((∅ : Keyed Descriptor).insert "a" (.ofItem (.flag (requiring "a" "b")))).insert "b"
    (.ofItem (.flag (requiring "b" "a")))

theorem eachOther_selfKeyed : eachOther.catalog.SelfKeyed := by
  rw [selfKeyed_iff]
  intro entry hentry flag hflag
  change entry ∈ [("a", Descriptor.ofItem (.flag (requiring "a" "b"))),
    ("b", Descriptor.ofItem (.flag (requiring "b" "a")))] at hentry
  rcases List.mem_pair.mp hentry with rfl | rfl
  · cases hflag
    rfl
  · cases hflag
    rfl

/-- Each flag fails for the other, and only one of them is recorded. -/
theorem eachOther_fails :
    eachOther.catalog.SelfKeyed ∧ eachOther.flag? "a" = some (requiring "a" "b") ∧
      ∃ outcome, eachOther.evaluate? Murmur3.bucketer { key := "alice" } (requiring "a" "b") =
          some outcome ∧
        outcome.detail = ⟨some (.bool true), some 0, .prerequisiteFailed "b"⟩ ∧
        outcome.records = [⟨requiring "b" "a", "a",
          ⟨some (.bool true), some 0, .prerequisiteFailed "a"⟩⟩] := by
  have hlive : eachOther.flag? "a" = some (requiring "a" "b") := rfl
  obtain ⟨outcome, houtcome, hrepeats, -⟩ :=
    repeat_fails_the_way_to_it eachOther Murmur3.bucketer { key := "alice" } eachOther_selfKeyed
      hlive
  refine ⟨eachOther_selfKeyed, hlive, outcome, houtcome, ?_⟩
  -- Nothing stands before the only prerequisite of either, so evaluation comes to both.
  have hround : Flag.Repeats (eachOther.setting Murmur3.bucketer { key := "alice" } true) []
      (requiring "a" "b") {} [(requiring "a" "b", ⟨"b", 0⟩), (requiring "b" "a", ⟨"a", 0⟩)]
      ((({} : Trail).enter (requiring "a" "b")).enter (requiring "b" "a")) := by
    refine .further ⟨rfl, [], [], 0, rfl, rfl⟩ (by decide) rfl (.here ⟨rfl, [], [], 0, rfl, rfl⟩ ?_)
    decide
  obtain ⟨⟨required, rest, hroute, hdetail⟩, hrecords, -⟩ := hrepeats _ _ hround
  cases hroute
  exact ⟨hdetail, hrecords⟩

end Dataset

end FeatureFlags
