import FeatureFlags.Proofs.Cycles

/-!
What an evaluation records. A flag comes to the same answer whichever flag's evaluation came to it:
to its plain answer or, if it leads into a circle and has none, to failing by the first prerequisite
that is not met plainly. The records are those of the prerequisites that were evaluated, each after
the records of its own prerequisites.
-/
namespace FeatureFlags

open Evaluation Relation

namespace Flag

/-- A flag that is off asks for nothing. -/
def asked (flag : Flag) : List Prerequisite :=
  if flag.on then flag.prerequisites else []

/-- What is recorded for these prerequisites of a flag, while flags of the keys on the path are being
evaluated, and whether one of the keys was found again. The last prerequisite is the first that
fails. What a flag comes to by itself is `alone`. -/
inductive Visits (catalog : Catalog) (alone : Flag → Option (Detail Json)) :
    List String → Flag → List Prerequisite → List PrerequisiteRecord → Bool → Prop
  | done {path : List String} {flag : Flag} : Visits catalog alone path flag [] [] false
  | again {path : List String} {flag : Flag} {required : Prerequisite} {rest : List Prerequisite} :
      required.key ∈ path → Visits catalog alone path flag (required :: rest) [] true
  | missing {path : List String} {flag : Flag} {required : Prerequisite}
      {rest : List Prerequisite} :
      required.key ∉ path → catalog.flag? required.key = none →
      Visits catalog alone path flag (required :: rest) [] false
  | failed {path : List String} {flag other : Flag} {required : Prerequisite}
      {rest : List Prerequisite} {inner : List PrerequisiteRecord} {cycle : Bool}
      {detail : Detail Json} :
      required.key ∉ path → catalog.flag? required.key = some other →
      Visits catalog alone (other.key :: path) other other.asked inner cycle →
      alone other = some detail →
      cycle = true ∨ detail.variationIndex ≠ some required.variation →
      Visits catalog alone path flag (required :: rest) (inner ++ [⟨other, flag.key, detail⟩]) cycle
  | met {path : List String} {flag other : Flag} {required : Prerequisite}
      {rest : List Prerequisite} {inner outer : List PrerequisiteRecord} {cycle : Bool}
      {detail : Detail Json} :
      required.key ∉ path → catalog.flag? required.key = some other →
      Visits catalog alone (other.key :: path) other other.asked inner false →
      alone other = some detail → detail.variationIndex = some required.variation →
      Visits catalog alone path flag rest outer cycle →
      Visits catalog alone path flag (required :: rest)
        (inner ++ ⟨other, flag.key, detail⟩ :: outer) cycle

theorem Visits.alone_eq {catalog : Catalog} {alone : Flag → Option (Detail Json)}
    {path : List String} {flag : Flag} {required : List Prerequisite}
    {records : List PrerequisiteRecord} {cycle : Bool}
    (h : Visits catalog alone path flag required records cycle) :
    ∀ record ∈ records, alone record.flag = some record.detail := by
  induction h with
  | done => exact fun record hmem => absurd hmem List.not_mem_nil
  | again _ => exact fun record hmem => absurd hmem List.not_mem_nil
  | missing _ _ => exact fun record hmem => absurd hmem List.not_mem_nil
  | failed _ _ _ halone _ ih =>
    intro record hmem
    rcases List.mem_append.mp hmem with hinner | hlast
    · exact ih record hinner
    · rw [List.mem_singleton.mp hlast]
      exact halone
  | met _ _ _ halone _ _ ih ih' =>
    intro record hmem
    rcases List.mem_append.mp hmem with hinner | hrest
    · exact ih record hinner
    · rcases List.mem_cons.mp hrest with rfl | houter
      · exact halone
      · exact ih' record houter

variable {setting : Setting} {room depth : ℕ} {path : List String} {flag other : Flag}
  {t u v : Trail} {route : List (Flag × Prerequisite)} {detail detail' : Detail Json}

/-- The flag comes to this wherever it is evaluated. -/
def Answers (setting : Setting) (room : ℕ) (flag : Flag) (detail : Detail Json) : Prop :=
  flag.Plainly setting room detail ∨
    (∀ plain, ¬ flag.Plainly setting room plain) ∧ ∃ required, flag.Needs setting room required ∧
      ¬ PlainlyMet setting room required ∧
      detail = flag.serveOff (.prerequisiteFailed required.key)

/-- There is only one first prerequisite that is not met. -/
theorem first_unmet_unique {before before' after after' : List Prerequisite}
    {required required' : Prerequisite}
    (hsplit : before ++ required :: after = before' ++ required' :: after')
    (hbefore : ∀ r ∈ before, PlainlyMet setting room r)
    (hbefore' : ∀ r ∈ before', PlainlyMet setting room r)
    (hunmet : ¬ PlainlyMet setting room required) (hunmet' : ¬ PlainlyMet setting room required') :
    required = required' := by
  induction before generalizing before' with
  | nil =>
    cases before' with
    | nil => exact (List.cons.inj hsplit).1
    | cons first before' =>
      obtain ⟨rfl, -⟩ := List.cons.inj hsplit
      exact absurd (hbefore' required List.mem_cons_self) hunmet
  | cons first before ih =>
    cases before' with
    | nil =>
      obtain ⟨rfl, -⟩ := List.cons.inj hsplit
      exact absurd (hbefore first List.mem_cons_self) hunmet'
    | cons first' before' =>
      obtain ⟨rfl, hrest⟩ := List.cons.inj hsplit
      exact ih hrest (fun r hr => hbefore r (List.mem_cons_of_mem first hr))
        fun r hr => hbefore' r (List.mem_cons_of_mem first hr)

/-- A flag comes to the same wherever it is evaluated. -/
theorem Answers.unique (h : flag.Answers setting room detail)
    (h' : flag.Answers setting room detail') : detail = detail' := by
  rcases h with hplain | ⟨hnone, required, ⟨-, before, after, hsplit, hbefore⟩, hunmet, rfl⟩
  · rcases h' with hplain' | ⟨hnone', -⟩
    · exact hplain.unique hplain'
    · exact absurd hplain (hnone' detail)
  · rcases h' with hplain' | ⟨-, required', ⟨-, before', after', hsplit', hbefore'⟩, hunmet', rfl⟩
    · exact absurd hplain' (hnone detail')
    · rw [first_unmet_unique (hsplit.symm.trans hsplit') hbefore hbefore' hunmet hunmet']

/-- Prerequisites of a flag that is being evaluated, where those before them are met plainly. -/
structure Checking (setting : Setting) (room : ℕ) (path : List String) (flag : Flag)
    (required : List Prerequisite) (t : Trail) : Prop where
  isOn : flag.on = true
  live : setting.catalog.flag? flag.key = some flag
  led : LedTo setting room path flag
  split : ∃ before, flag.prerequisites = before ++ required ∧
    ∀ r ∈ before, PlainlyMet setting room r
  openFlags : required ≠ [] → t.openFlags = flag.key :: path
  openSegments : t.openSegments = []
  cycle : t.cycle = false

section

variable (hroom : setting.catalog.Within room) (hself : setting.catalog.SelfKeyed)

include hroom hself

/-- The prerequisite that leads to a repeat is not met plainly. -/
theorem Repeats.needs_unmet (h : Repeats setting path flag t route v)
    (hreached : Reached setting room path flag t) :
    ∃ required rest, route = (flag, required) :: rest ∧ flag.Needs setting room required ∧
      ¬ PlainlyMet setting room required := by
  have hroute := h.not_plainly hroom hself hreached
  cases h with
  | @here _ _ _ _ required hcomes hrepeat =>
    obtain ⟨hneeds, -, -⟩ := hcomes.plain hroom hreached.on.openSegments hreached.on.cycle
    refine ⟨required, [], rfl, hneeds, ?_⟩
    rintro ⟨other, detail, hother, ⟨depth, hplain⟩, -⟩
    have hflag := hroute _ List.mem_cons_self
    rcases List.mem_cons.mp hrepeat with hsame | hkey
    · rw [hsame, hreached.live] at hother
      cases hother
      exact hflag detail ⟨depth, hplain⟩
    · obtain ⟨outer, houter, hbefore⟩ := hreached.led _ hkey
      rw [houter] at hother
      cases hother
      obtain ⟨less, -, detail', hplain'⟩ := Leads.of_plain?_transGen hbefore hplain
      exact hflag detail' ⟨less, hplain'⟩
  | @further _ _ other _ _ _ required route hcomes _ hother hbelow =>
    obtain ⟨hneeds, -, -⟩ := hcomes.plain hroom hreached.on.openSegments hreached.on.cycle
    refine ⟨required, route, rfl, hneeds, ?_⟩
    rintro ⟨found, detail, hfound, hplain, -⟩
    rw [hother] at hfound
    cases hfound
    obtain ⟨next, rest, rfl⟩ := hbelow.route_eq
    exact hroute _ (List.mem_cons_of_mem _ List.mem_cons_self) detail hplain

theorem Reached.answers (hreached : Reached setting room path flag t)
    (hrecording : setting.recording = true)
    (hrun : flag.evaluate setting depth t = some (detail, u)) :
    flag.Answers setting room detail := by
  cases hcycle : u.cycle with
  | false => exact .inl (evaluate_plain hroom hreached.on.openSegments hrun hcycle).1
  | true =>
    obtain ⟨route, v, hrepeats⟩ :=
      exists_repeats hroom hself hreached.on hreached.fresh hrun hcycle
    obtain ⟨required, rest, hroute, hneeds, hunmet⟩ :=
      hrepeats.needs_unmet hroom hself hreached
    obtain ⟨⟨first, rest', hroute', hdetail⟩, -⟩ :=
      hrepeats.of_evaluate hroom hself hreached.on hreached.fresh hrecording hrun
    rw [hroute] at hroute'
    cases hroute'
    refine .inr ⟨fun plain => ?_, required, hneeds, hunmet, hdetail⟩
    refine hrepeats.not_plainly hroom hself hreached (flag, required) ?_ plain
    rw [hroute]
    exact List.mem_cons_self

omit hroom hself in
theorem Reached.checking (hreached : Reached setting room path flag t) (hon : flag.on = true) :
    Checking setting room path flag flag.prerequisites (t.enter flag) where
  isOn := hon
  live := hreached.live
  led := hreached.led
  split := ⟨[], rfl, fun _ hr => absurd hr List.not_mem_nil⟩
  openFlags hrequires := by
    have hfresh : flag.key ∉ t.openFlags := by rw [hreached.on.openFlags]; exact hreached.fresh
    rw [Trail.enter_openFlags hrequires hfresh, hreached.on.openFlags]
  openSegments := by rw [Trail.enter_openSegments]; exact hreached.on.openSegments
  cycle := by rw [Trail.enter_cycle]; exact hreached.on.cycle

omit hroom in
theorem Checking.reached {required : Prerequisite} {rest : List Prerequisite}
    (hchecking : Checking setting room path flag (required :: rest) t)
    (hfresh : required.key ∉ t.openFlags)
    (hother : setting.catalog.flag? required.key = some other) :
    Reached setting room (flag.key :: path) other t := by
  have hopen := hchecking.openFlags (List.cons_ne_nil required rest)
  have hkey : other.key = required.key := hself _ _ hother
  obtain ⟨before, hsplit, hbefore⟩ := hchecking.split
  have hleads : Leads setting room flag other :=
    ⟨required, ⟨hchecking.isOn, before, rest, hsplit, hbefore⟩, hother⟩
  refine ⟨⟨hopen, hchecking.openSegments, hchecking.cycle⟩, ?_, by rw [hkey]; exact hother, ?_⟩
  · rw [hkey, ← hopen]
    exact hfresh
  · exact hchecking.led.step hchecking.live hleads

/-- After a prerequisite that is met, the next one is checked under the same conditions. -/
theorem Checking.next {required : Prerequisite} {rest : List Prerequisite}
    (hchecking : Checking setting room path flag (required :: rest) t)
    (hfresh : required.key ∉ t.openFlags)
    (hother : setting.catalog.flag? required.key = some other)
    (hrun : other.evaluate setting depth t = some (detail, u)) (hcycle : u.cycle = false)
    (hindex : detail.variationIndex = some required.variation) (record : PrerequisiteRecord) :
    Checking setting room path flag rest (u.noting setting.recording record) := by
  obtain ⟨before, hsplit, hbefore⟩ := hchecking.split
  obtain ⟨hopen, hsegments⟩ := evaluate_frame hself (by rw [hself _ _ hother]; exact hfresh) hrun
  obtain ⟨hplain, -⟩ := evaluate_plain hroom hchecking.openSegments hrun hcycle
  refine ⟨hchecking.isOn, hchecking.live, hchecking.led, ⟨before ++ [required], ?_, ?_⟩, ?_, ?_, ?_⟩
  · rw [hsplit, List.append_assoc]
    rfl
  · intro r hr
    rcases List.mem_append.mp hr with hr | hr
    · exact hbefore r hr
    · rw [List.mem_singleton.mp hr]
      exact ⟨other, detail, hother, hplain, hindex⟩
  · intro _
    rw [Trail.noting_openFlags, hopen]
    exact hchecking.openFlags (List.cons_ne_nil required rest)
  · rw [Trail.noting_openSegments, hsegments]
    exact hchecking.openSegments
  · rw [Trail.noting_cycle]
    exact hcycle

/-- Every evaluation keeps that its records are in post-order, and each as the flag is by itself. -/
theorem visitRule {alone : Flag → Option (Detail Json)} (hrecording : setting.recording = true)
    (halone : ∀ {path flag t depth detail u}, Reached setting room path flag t →
      flag.evaluate setting depth t = some (detail, u) → alone flag = some detail) :
    RunRule setting
      (fun _ flag t _ u => ∀ path, Reached setting room path flag t →
        ∃ records, u.records = t.records ++ records ∧
          Visits setting.catalog alone (flag.key :: path) flag
            flag.asked records u.cycle)
      (fun _ flag required t _ u => ∀ path, Checking setting room path flag required t →
        ∃ records, u.records = t.records ++ records ∧
          Visits setting.catalog alone (flag.key :: path) flag required records u.cycle) where
  off hoff path hreached := by
    refine ⟨[], (List.append_nil _).symm, ?_⟩
    rw [asked, if_neg (by rw [hoff]; decide), hreached.on.cycle]
    exact .done
  unmet hon hchecked path hreached := by
    obtain ⟨records, hrecords, hvisits⟩ := hchecked path (hreached.checking hon)
    rw [Trail.enter_records] at hrecords
    refine ⟨records, (Trail.leave_records _ _).trans hrecords, ?_⟩
    rw [asked, if_pos hon, Trail.leave_cycle]
    exact hvisits
  met hon hcheck hchecked hserve path hreached := by
    obtain ⟨records, hrecords, hvisits⟩ := hchecked path (hreached.checking hon)
    rw [Trail.enter_records] at hrecords
    obtain ⟨texts, rfl⟩ := serveMet_onlyHashes _ _ hserve
    refine ⟨records, (Trail.leave_records _ _).trans hrecords, ?_⟩
    rw [asked, if_pos hon]
    dsimp only
    rw [Trail.leave_cycle]
    exact hvisits
  done path hchecking := by
    refine ⟨[], (List.append_nil _).symm, ?_⟩
    rw [hchecking.cycle]
    exact .done
  again hopen path hchecking := by
    rw [hchecking.openFlags (List.cons_ne_nil _ _)] at hopen
    exact ⟨[], (List.append_nil _).symm, .again hopen⟩
  missing hfresh hmissing path hchecking := by
    rw [hchecking.openFlags (List.cons_ne_nil _ _)] at hfresh
    refine ⟨[], (List.append_nil _).symm, ?_⟩
    rw [hchecking.cycle]
    exact .missing hfresh hmissing
  failed hfresh hother hrun hserved hfails path hchecking := by
    have hreached := hchecking.reached hself hfresh hother
    obtain ⟨inner, hrecords, hvisits⟩ := hserved _ hreached
    rw [hchecking.openFlags (List.cons_ne_nil _ _)] at hfresh
    rw [Trail.noting_cycle]
    refine ⟨_, ?_, .failed hfresh hother hvisits (halone hreached hrun) hfails⟩
    rw [Trail.noting, if_pos hrecording, ← List.append_assoc, ← hrecords]
  passed hfresh hother hrun hserved hcycle hindex hrest path hchecking := by
    have hreached := hchecking.reached hself hfresh hother
    obtain ⟨inner, hrecords, hvisits⟩ := hserved _ hreached
    obtain ⟨outer, hrecords', hvisits'⟩ :=
      hrest path (hchecking.next hroom hself hfresh hother hrun hcycle hindex _)
    rw [hchecking.openFlags (List.cons_ne_nil _ _)] at hfresh
    rw [hcycle] at hvisits
    refine ⟨_, ?_, .met hfresh hother hvisits (halone hreached hrun) hindex hvisits'⟩
    rw [hrecords', Trail.noting, if_pos hrecording]
    dsimp only
    rw [hrecords, List.append_assoc, List.append_assoc]
    rfl

end

end Flag

namespace Dataset

variable (data : Dataset) (bucketer : Bucketer) (subject : Subject)

/-- What a flag comes to by itself. -/
def alone (flag : Flag) : Option (Detail Json) :=
  (data.evaluate? bucketer subject flag false).map (·.detail)

variable {data bucketer subject}

/-- A flag that is reached comes to what it comes to by itself. -/
theorem alone_of_reached (hself : data.catalog.SelfKeyed) {path : List String} {flag : Flag}
    {t u : Trail} {depth : ℕ} {detail : Detail Json}
    (hreached : Flag.Reached (data.setting bucketer subject true) (data.segments.size + 1) path
      flag t)
    (hrun : flag.evaluate (data.setting bucketer subject true) depth t = some (detail, u)) :
    data.alone bucketer subject flag = some detail := by
  have hroom := data.catalog_within
  obtain ⟨detail', u', hrun'⟩ := exists_evaluate_depth bucketer subject true hself hreached.live
  have hanswers := hreached.answers hroom hself rfl hrun
  have hanswers' := (Flag.Reached.start hreached.live).answers hroom hself rfl hrun'
  obtain ⟨v, hquiet, -⟩ := Flag.evaluate_of_alike false (Nat.le_refl _) (Trail.Alike.refl _) hrun'
  rw [hanswers.unique hanswers']
  change ((flag.evaluate (data.setting bucketer subject false) data.depth {}).map _).map _ = _
  have hquiet' : flag.evaluate (data.setting bucketer subject false) data.depth {} =
    some (detail', v) := hquiet
  rw [hquiet']
  rfl

/-- Records are kept of the prerequisites that are evaluated, in post-order, and what a record says of
its flag is what the flag comes to by itself. -/
theorem records_in_post_order (data : Dataset) (bucketer : Bucketer) (subject : Subject)
    (hself : data.catalog.SelfKeyed) {key : String} {flag : Flag}
    (hlive : data.flag? key = some flag) :
    ∃ outcome cycle, data.evaluate? bucketer subject flag = some outcome ∧
      data.alone bucketer subject flag = some outcome.detail ∧
      Flag.Visits data.catalog (data.alone bucketer subject) [flag.key] flag flag.asked
        outcome.records cycle ∧
      ∀ record ∈ outcome.records,
        data.alone bucketer subject record.flag = some record.detail := by
  obtain ⟨detail, u, hrun⟩ := exists_evaluate_depth bucketer subject true hself hlive
  have hfound : data.catalog.flag? flag.key = some flag := by
    rw [hself key flag hlive]
    exact hlive
  have hreached : Flag.Reached (data.setting bucketer subject true) (data.segments.size + 1) []
      flag {} := .start hfound
  have halone : ∀ {path : List String} {flag : Flag} {t : Trail} {depth : ℕ} {detail : Detail Json}
      {u : Trail}, Flag.Reached (data.setting bucketer subject true) (data.segments.size + 1) path
        flag t →
      flag.evaluate (data.setting bucketer subject true) depth t = some (detail, u) →
      data.alone bucketer subject flag = some detail :=
    fun hreached hrun => alone_of_reached hself hreached hrun
  obtain ⟨records, hrecords, hvisits⟩ :=
    (Flag.visitRule data.catalog_within hself rfl halone).of_evaluate hrun [] hreached
  have hall : u.records = records := hrecords
  refine ⟨⟨detail, records, u.hashed⟩, u.cycle, ?_, halone hreached hrun, hvisits,
    hvisits.alone_eq⟩
  change (flag.evaluate (data.setting bucketer subject true) data.depth {}).map _ = _
  rw [hrun, ← hall]
  rfl

/-- Each of the two flags is recorded for the other with what it comes to by itself, although neither
evaluation goes as far as the other's. -/
theorem eachOther_records :
    eachOther.catalog.SelfKeyed ∧ eachOther.flag? "a" = some (requiring "a" "b") ∧
      ∃ outcome, eachOther.evaluate? Murmur3.bucketer { key := "alice" } (requiring "a" "b") =
          some outcome ∧
        outcome.records = [⟨requiring "b" "a", "a",
          ⟨some (.bool true), some 0, .prerequisiteFailed "a"⟩⟩] ∧
        eachOther.alone Murmur3.bucketer { key := "alice" } (requiring "b" "a") =
          some ⟨some (.bool true), some 0, .prerequisiteFailed "a"⟩ := by
  have hlive : eachOther.flag? "a" = some (requiring "a" "b") := rfl
  obtain ⟨outcome, cycle, houtcome, -, -, halone⟩ :=
    records_in_post_order eachOther Murmur3.bucketer { key := "alice" } eachOther_selfKeyed hlive
  have hrecords : outcome.records = [⟨requiring "b" "a", "a",
      ⟨some (.bool true), some 0, .prerequisiteFailed "a"⟩⟩] := by
    cases houtcome
    rfl
  refine ⟨eachOther_selfKeyed, hlive, outcome, houtcome, hrecords, ?_⟩
  have hmem : (⟨requiring "b" "a", "a", ⟨some (.bool true), some 0, .prerequisiteFailed "a"⟩⟩ :
      PrerequisiteRecord) ∈ outcome.records := by
    rw [hrecords]
    exact List.mem_singleton.mpr rfl
  exact halone _ hmem

end Dataset

end FeatureFlags
