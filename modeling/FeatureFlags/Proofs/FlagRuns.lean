import FeatureFlags.Proofs.Membership
import Mathlib.Logic.Relation

/-!
How an evaluation goes through the prerequisites of a flag. `Flag.RunRule` names what has to be shown
of each single step for it to hold of a run as a whole; what is told about runs later on is proved by
it. A flag is open while its prerequisites are gone through, and closed again before it is served.
-/
namespace FeatureFlags

open Evaluation Relation

/-- If every step leaves less depth to do with, so do several. -/
theorem exists_less_of_transGen {σ : Type} {step : σ → σ → Prop} (Ends : ℕ → σ → Prop)
    (hstep : ∀ {depth : ℕ} {s s' : σ}, step s s' → Ends depth s →
      ∃ less < depth, Ends less s')
    {depth : ℕ} {s s' : σ} (hsteps : TransGen step s s') (h : Ends depth s) :
    ∃ less < depth, Ends less s' := by
  induction hsteps with
  | single hlast => exact hstep hlast h
  | tail _ hlast ih =>
    obtain ⟨less, hless, hbefore⟩ := ih
    obtain ⟨least, hleast, hafter⟩ := hstep hlast hbefore
    exact ⟨least, Nat.lt_trans hleast hless, hafter⟩

namespace Trail

def enter (t : Trail) (flag : Flag) : Trail :=
  if flag.prerequisites.isEmpty then t else { t with openFlags := t.openFlags.insert flag.key }

def leave (t : Trail) (flag : Flag) : Trail :=
  if flag.prerequisites.isEmpty then t else { t with openFlags := t.openFlags.erase flag.key }

variable (t : Trail) (flag : Flag) (recording : Bool) (record : PrerequisiteRecord)

@[simp] theorem enter_openSegments : (t.enter flag).openSegments = t.openSegments := by
  unfold enter; split <;> rfl

@[simp] theorem enter_cycle : (t.enter flag).cycle = t.cycle := by
  unfold enter; split <;> rfl

@[simp] theorem enter_records : (t.enter flag).records = t.records := by
  unfold enter; split <;> rfl

@[simp] theorem leave_openSegments : (t.leave flag).openSegments = t.openSegments := by
  unfold leave; split <;> rfl

@[simp] theorem leave_cycle : (t.leave flag).cycle = t.cycle := by
  unfold leave; split <;> rfl

@[simp] theorem leave_records : (t.leave flag).records = t.records := by
  unfold leave; split <;> rfl

@[simp] theorem leave_hashed : (t.leave flag).hashed = t.hashed := by
  unfold leave; split <;> rfl

@[simp] theorem noting_openFlags : (t.noting recording record).openFlags = t.openFlags := by
  unfold noting; split <;> rfl

@[simp] theorem noting_openSegments :
    (t.noting recording record).openSegments = t.openSegments := by
  unfold noting; split <;> rfl

@[simp] theorem noting_cycle : (t.noting recording record).cycle = t.cycle := by
  unfold noting; split <;> rfl

@[simp] theorem noting_hashed : (t.noting recording record).hashed = t.hashed := by
  unfold noting; split <;> rfl

variable {t flag}

theorem enter_openFlags (hrequires : flag.prerequisites ≠ []) (hclosed : flag.key ∉ t.openFlags) :
    (t.enter flag).openFlags = flag.key :: t.openFlags := by
  rw [enter, if_neg (by simpa using hrequires)]
  exact List.insert_of_not_mem hclosed

/-- What is opened is closed again. -/
theorem leave_openFlags {u : Trail} (hclosed : flag.key ∉ t.openFlags)
    (h : u.openFlags = (t.enter flag).openFlags) : (u.leave flag).openFlags = t.openFlags := by
  by_cases hrequires : flag.prerequisites = []
  · rw [leave, if_pos (by simpa using hrequires), h, enter, if_pos (by simpa using hrequires)]
  · rw [leave, if_neg (by simpa using hrequires)]
    change u.openFlags.erase flag.key = t.openFlags
    rw [h, enter_openFlags hrequires hclosed, List.erase_cons_head]

end Trail

namespace Flag

variable {setting : Setting} {depth depth' : ℕ} {flag : Flag} {t u : Trail}

def firstUnmet (setting : Setting) (depth : ℕ) (flag : Flag) (required : List Prerequisite) :
    Evaluation (Option Prerequisite) :=
  required.findM? fun r => do return !(← flag.prerequisiteMet setting (evaluate setting depth) r)

theorem firstUnmet_cons (required : Prerequisite) (rest : List Prerequisite) :
    flag.firstUnmet setting depth (required :: rest) t =
      (flag.prerequisiteMet setting (evaluate setting depth) required t).bind fun result =>
        if result.1 then flag.firstUnmet setting depth rest result.2
        else some (some required, result.2) := by
  unfold firstUnmet
  rw [findM?_cons, bind_apply, bind_apply, Option.bind_assoc]
  congr
  funext result
  obtain ⟨met, u⟩ := result
  cases met <;> rfl

/-- Prerequisites are gone through one after another. -/
theorem firstUnmet_append (before after : List Prerequisite) :
    flag.firstUnmet setting depth (before ++ after) t =
      (flag.firstUnmet setting depth before t).bind fun result =>
        match result.1 with
        | some required => some (some required, result.2)
        | none => flag.firstUnmet setting depth after result.2 := by
  induction before generalizing t with
  | nil => rfl
  | cons required before ih =>
    rw [List.cons_append, firstUnmet_cons, firstUnmet_cons, Option.bind_assoc]
    congr
    funext result
    obtain ⟨met, u⟩ := result
    cases met with
    | true => exact ih
    | false => rfl

/-- What is found unmet within a depth is found within every larger one. -/
theorem firstUnmet_mono (hle : depth ≤ depth') {required : List Prerequisite}
    {result : Option Prerequisite × Trail}
    (h : flag.firstUnmet setting depth required t = some result) :
    flag.firstUnmet setting depth' required t = some result := by
  have hsim : Simulates Eq (flag.firstUnmet setting depth required)
      (flag.firstUnmet setting depth' required) :=
    (simulates_isLogical Eq).findM? _ _ fun r _ => Simulates.bind
      (prerequisiteMet_simulates (Trail.isCongruence_eq setting.recording) flag rfl fun other _ =>
        other.evaluate_deeper hle)
      fun _ => simulates_pure _
  exact hsim.eq_some h

theorem failedPrerequisite_apply (flag : Flag) (t : Trail) :
    flag.failedPrerequisite setting (evaluate setting depth) t =
      (flag.firstUnmet setting depth flag.prerequisites (t.enter flag)).map fun result =>
        (result.1, result.2.leave flag) := by
  unfold failedPrerequisite Trail.enter Trail.leave
  by_cases hrequires : flag.prerequisites.isEmpty = true
  · rw [if_pos hrequires, if_pos hrequires, List.isEmpty_iff.mp hrequires]
    rfl
  · simp only [if_neg hrequires]
    change (flag.firstUnmet setting depth flag.prerequisites
      { t with openFlags := t.openFlags.insert flag.key }).bind _ = _
    rw [Option.map_eq_bind]
    rfl

/-- Evaluation goes through the prerequisites of a flag that is on, and then serves what the first
unmet one leaves. -/
theorem evaluate_succ_apply (flag : Flag) (t : Trail) :
    flag.evaluate setting (depth + 1) t =
      if flag.on then
        (flag.firstUnmet setting depth flag.prerequisites (t.enter flag)).bind fun result =>
          match result.1 with
          | some required =>
              some (flag.serveOff (.prerequisiteFailed required.key), result.2.leave flag)
          | none => flag.serveMet setting depth (result.2.leave flag)
      else some (flag.serveOff .off, t) := by
  rw [evaluate_succ]
  cases hon : flag.on with
  | false => rfl
  | true =>
    change (flag.failedPrerequisite setting (evaluate setting depth) >>= _) t = _
    rw [bind_apply, failedPrerequisite_apply, Option.bind_map, if_pos rfl]
    congr
    funext result
    obtain ⟨failed, u⟩ := result
    cases failed <;> rfl

/-- A prerequisite is open, or missing, or its flag is evaluated and recorded. -/
theorem prerequisiteMet_cases {evaluate : Flag → Evaluation (Detail Json)}
    {required : Prerequisite} {met : Bool}
    (h : flag.prerequisiteMet setting evaluate required t = some (met, u)) :
    (required.key ∈ t.openFlags ∧ met = false ∧ u = { t with cycle := true }) ∨
    (required.key ∉ t.openFlags ∧ setting.catalog.flag? required.key = none ∧ met = false ∧ u = t) ∨
    ∃ other detail v, required.key ∉ t.openFlags ∧
      setting.catalog.flag? required.key = some other ∧ evaluate other t = some (detail, v) ∧
      met = (!v.cycle && detail.variationIndex == some required.variation) ∧
      u = v.noting setting.recording ⟨other, flag.key, detail⟩ := by
  rw [prerequisiteMet_apply] at h
  by_cases hopen : t.openFlags.contains required.key = true
  · rw [if_pos hopen] at h
    cases h
    exact .inl ⟨List.contains_iff_mem.mp hopen, rfl, rfl⟩
  · rw [if_neg hopen] at h
    have hclosed : required.key ∉ t.openFlags := fun hmem => hopen (List.contains_iff_mem.mpr hmem)
    cases hother : setting.catalog.flag? required.key with
    | none =>
      rw [hother] at h
      cases h
      exact .inr (.inl ⟨hclosed, rfl, rfl, rfl⟩)
    | some other =>
      rw [hother] at h
      obtain ⟨⟨detail, v⟩, hrun, hresult⟩ := Option.bind_eq_some_iff.mp h
      cases hresult
      exact .inr (.inr ⟨other, detail, v, hclosed, rfl, hrun, rfl, rfl⟩)

theorem prerequisiteMet_of_run {evaluate : Flag → Evaluation (Detail Json)}
    {required : Prerequisite} {other : Flag} {detail : Detail Json}
    (hclosed : required.key ∉ t.openFlags)
    (hother : setting.catalog.flag? required.key = some other)
    (hrun : evaluate other t = some (detail, u)) :
    flag.prerequisiteMet setting evaluate required t =
      some (!u.cycle && detail.variationIndex == some required.variation,
        u.noting setting.recording ⟨other, flag.key, detail⟩) := by
  rw [prerequisiteMet_apply, if_neg (fun h => hclosed (List.contains_iff_mem.mp h)), hother]
  dsimp only
  rw [hrun, Option.bind_some]

theorem firstUnmet_met_cycle {required : List Prerequisite}
    (h : flag.firstUnmet setting depth required t = some (none, u)) (ht : t.cycle = false) :
    u.cycle = false := by
  induction required generalizing t with
  | nil =>
    cases h
    exact ht
  | cons required rest ih =>
    rw [firstUnmet_cons] at h
    obtain ⟨⟨met, between⟩, hmet, hrest⟩ := Option.bind_eq_some_iff.mp h
    cases met with
    | false => cases hrest
    | true =>
      refine ih hrest ?_
      rcases prerequisiteMet_cases hmet with ⟨-, hfalse, -⟩ | ⟨-, -, hfalse, -⟩ |
        ⟨other, detail, v, -, -, -, hboth, rfl⟩
      · cases hfalse
      · cases hfalse
      · rw [Trail.noting_cycle]
        simpa using (Bool.and_eq_true_iff.mp hboth.symm).1

/-- What every step keeps: `served` is about a flag that was evaluated, `checked` about prerequisites
of a flag that were gone through up to the first that is not met. -/
structure RunRule (setting : Setting)
    (served : ℕ → Flag → Trail → Detail Json → Trail → Prop)
    (checked : ℕ → Flag → List Prerequisite → Trail → Option Prerequisite → Trail → Prop) :
    Prop where
  off : ∀ {depth flag t}, flag.on = false → served (depth + 1) flag t (flag.serveOff .off) t
  unmet : ∀ {depth flag t required u}, flag.on = true →
    checked depth flag flag.prerequisites (t.enter flag) (some required) u →
    served (depth + 1) flag t (flag.serveOff (.prerequisiteFailed required.key)) (u.leave flag)
  met : ∀ {depth flag t u detail v}, flag.on = true →
    flag.firstUnmet setting depth flag.prerequisites (t.enter flag) = some (none, u) →
    checked depth flag flag.prerequisites (t.enter flag) none u →
    flag.serveMet setting depth (u.leave flag) = some (detail, v) → served (depth + 1) flag t detail v
  done : ∀ {depth flag t}, checked depth flag [] t none t
  again : ∀ {depth flag required rest t}, required.key ∈ t.openFlags →
    checked depth flag (required :: rest) t (some required) { t with cycle := true }
  missing : ∀ {depth flag required rest t}, required.key ∉ t.openFlags →
    setting.catalog.flag? required.key = none →
    checked depth flag (required :: rest) t (some required) t
  failed : ∀ {depth flag required rest t other detail u}, required.key ∉ t.openFlags →
    setting.catalog.flag? required.key = some other →
    other.evaluate setting depth t = some (detail, u) → served depth other t detail u →
    u.cycle = true ∨ detail.variationIndex ≠ some required.variation →
    checked depth flag (required :: rest) t (some required)
      (u.noting setting.recording ⟨other, flag.key, detail⟩)
  passed : ∀ {depth flag required rest t other detail u out v}, required.key ∉ t.openFlags →
    setting.catalog.flag? required.key = some other →
    other.evaluate setting depth t = some (detail, u) → served depth other t detail u →
    u.cycle = false → detail.variationIndex = some required.variation →
    checked depth flag rest (u.noting setting.recording ⟨other, flag.key, detail⟩) out v →
    checked depth flag (required :: rest) t out v

namespace RunRule

variable {served : ℕ → Flag → Trail → Detail Json → Trail → Prop}
  {checked : ℕ → Flag → List Prerequisite → Trail → Option Prerequisite → Trail → Prop}

/-- What every step keeps holds of the prerequisites that were gone through. -/
theorem of_firstUnmet (rule : RunRule setting served checked)
    (hserved : ∀ {other t detail u}, evaluate setting depth other t = some (detail, u) →
      served depth other t detail u)
    {required : List Prerequisite} {out : Option Prerequisite}
    (h : flag.firstUnmet setting depth required t = some (out, u)) :
    checked depth flag required t out u := by
  induction required generalizing t with
  | nil =>
    cases h
    exact rule.done
  | cons required rest ih =>
    rw [firstUnmet_cons] at h
    obtain ⟨⟨met, between⟩, hmet, hrest⟩ := Option.bind_eq_some_iff.mp h
    rcases prerequisiteMet_cases hmet with ⟨hopen, rfl, rfl⟩ | ⟨hclosed, hnone, rfl, rfl⟩ |
      ⟨other, detail, v, hclosed, hother, hrun, rfl, rfl⟩
    · cases hrest
      exact rule.again hopen
    · cases hrest
      exact rule.missing hclosed hnone
    · by_cases hpasses : v.cycle = false ∧ detail.variationIndex = some required.variation
      · rw [if_pos (by simpa using hpasses)] at hrest
        exact rule.passed hclosed hother hrun (hserved hrun) hpasses.1 hpasses.2 (ih hrest)
      · have hfails : v.cycle = true ∨ detail.variationIndex ≠ some required.variation := by
          rw [not_and_or, Bool.not_eq_false] at hpasses
          exact hpasses
        rw [if_neg (by simpa using hpasses)] at hrest
        cases hrest
        exact rule.failed hclosed hother hrun (hserved hrun) hfails

/-- What every step keeps holds of every evaluation. -/
theorem of_evaluate (rule : RunRule setting served checked) {detail : Detail Json}
    (h : flag.evaluate setting depth t = some (detail, u)) : served depth flag t detail u := by
  induction depth generalizing flag t detail u with
  | zero => cases h
  | succ depth ih =>
    rw [evaluate_succ_apply] at h
    cases hon : flag.on with
    | false =>
      rw [hon] at h
      cases h
      exact rule.off hon
    | true =>
      rw [if_pos hon] at h
      obtain ⟨⟨out, between⟩, hcheck, hserve⟩ := Option.bind_eq_some_iff.mp h
      have hchecked := rule.of_firstUnmet ih hcheck
      cases out with
      | some required =>
        cases hserve
        exact rule.unmet hon hchecked
      | none => exact rule.met hon hcheck hchecked hserve

end RunRule

/-- Evaluation of the flag comes to this prerequisite: those before it are met. -/
def ComesTo (setting : Setting) (flag : Flag) (t : Trail) (required : Prerequisite) (u : Trail) :
    Prop :=
  flag.on = true ∧ ∃ before after depth, flag.prerequisites = before ++ required :: after ∧
    flag.firstUnmet setting depth before (t.enter flag) = some (none, u)

/-- A run that comes to a prerequisite looks whether it is met, and is over if it is not. -/
theorem ComesTo.of_evaluate {required : Prerequisite} (hcomes : ComesTo setting flag t required u)
    {result : Detail Json × Trail} (h : flag.evaluate setting depth t = some result) :
    ∃ less met v, depth = less + 1 ∧
      flag.prerequisiteMet setting (evaluate setting less) required u = some (met, v) ∧
      (met = false → result = (flag.serveOff (.prerequisiteFailed required.key), v.leave flag)) := by
  obtain ⟨hon, before, after, other, hsplit, hbefore⟩ := hcomes
  cases depth with
  | zero => cases h
  | succ less =>
    rw [evaluate_succ_apply, if_pos hon, hsplit, firstUnmet_append, Option.bind_assoc] at h
    obtain ⟨first, hfirst, hrest⟩ := Option.bind_eq_some_iff.mp h
    -- Both depths suffice for the prerequisites before it, so they agree on them.
    have hsame : first = (none, u) := by
      have hhere := firstUnmet_mono (Nat.le_max_left less other) hfirst
      rw [firstUnmet_mono (Nat.le_max_right less other) hbefore] at hhere
      exact (Option.some.inj hhere).symm
    subst hsame
    dsimp only at hrest
    rw [firstUnmet_cons, Option.bind_assoc] at hrest
    obtain ⟨⟨met, v⟩, hmet, hlast⟩ := Option.bind_eq_some_iff.mp hrest
    refine ⟨less, met, v, rfl, hmet, fun hfalse => ?_⟩
    subst hfalse
    cases hlast
    rfl

end Flag

def Catalog.Within (catalog : Catalog) (room : ℕ) : Prop :=
  ∃ keys : List String,
    (∀ key segment, catalog.segment? key = some segment → segment.key ∈ keys) ∧ keys.length < room

namespace Flag

variable {setting : Setting} {depth room : ℕ} {flag : Flag} {t u : Trail} {detail : Detail Json}

def ruled (setting : Setting) (room : ℕ) (flag : Flag) : Option (Detail Json) :=
  (flag.serveMet setting room {}).map Prod.fst

/-- Serving only hashes, and it does not matter what is on the trail. -/
theorem serveMet_frame (hroom : setting.catalog.Within room) (hsegments : t.openSegments = [])
    (h : flag.serveMet setting depth t = some (detail, u)) :
    (∃ texts, u = { t with hashed := t.hashed ++ texts }) ∧ flag.ruled setting room = some detail := by
  obtain ⟨keys, hkeys, hlength⟩ := hroom
  obtain ⟨answer, texts, hsettles⟩ := settled_serveMet hkeys hlength flag
  have hhere := (flag.serveMet_deeper (Nat.le_max_left depth room)).eq_some h
  rw [(flag.serveMet_deeper (Nat.le_max_right depth room)).eq_some (hsettles t hsegments)] at hhere
  cases hhere
  refine ⟨⟨texts, rfl⟩, ?_⟩
  rw [ruled, hsettles {} rfl, Option.map_some]

/-- Once the prerequisites are met, depth for the segments is enough. -/
theorem serveMet_isSome (flag : Flag) (hroom : setting.catalog.Within room) (hle : room ≤ depth)
    (t : Trail) : ∃ result, flag.serveMet setting depth t = some result := by
  obtain ⟨keys, hkeys, hlength⟩ := hroom
  obtain ⟨answer, texts, hsettles⟩ := settled_serveMet hkeys (Nat.lt_of_lt_of_le hlength hle) flag
  exact ⟨_, hsettles t rfl⟩

end Flag

end FeatureFlags
