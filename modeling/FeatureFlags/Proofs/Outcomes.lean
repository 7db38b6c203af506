import FeatureFlags.Proofs.Records

/-!
What every outcome of an evaluation is like, whatever the dataset. A value comes with the index of the
variation that it is, and an index with its value. There is one record of each evaluation for a
prerequisite, and it names the flag that requires it. Recording makes no difference to anything but
the records, so it can be left out.
-/
namespace FeatureFlags

open Evaluation

namespace Flag

variable {setting : Setting} {depth room : ℕ} {flag : Flag} {t u : Trail} {detail : Detail Json}

/-- A detail that a flag may come to: a variation of it with its index, or neither. -/
inductive Offers (flag : Flag) : Detail Json → Prop
  | variation {index : Nat} {value : Json} {reason : Reason} :
      flag.variations[index]? = some value → flag.Offers ⟨some value, some index, reason⟩
  | nothing {reason : Reason} : flag.Offers ⟨none, none, reason⟩

theorem serveVariation_offers (flag : Flag) (index : Nat) (reason : Reason) :
    flag.Offers (flag.serveVariation index reason) := by
  unfold serveVariation
  split
  · next hvalue => exact .variation hvalue
  · exact .nothing

theorem serveOff_offers (flag : Flag) (reason : Reason) : flag.Offers (flag.serveOff reason) := by
  unfold serveOff
  split
  · exact flag.serveVariation_offers _ reason
  · exact .nothing

theorem serve_offers {choice : Choice} {reason : Reason}
    (h : flag.serve setting choice reason t = some (detail, u)) : flag.Offers detail := by
  obtain ⟨index, between, -, hserve⟩ := bind_eq_some_iff.mp h
  cases index with
  | none =>
    cases hserve
    exact .nothing
  | some index =>
    cases hserve
    exact flag.serveVariation_offers index reason

theorem serveMet_offers (h : flag.serveMet setting depth t = some (detail, u)) :
    flag.Offers detail := by
  unfold serveMet at h
  cases htarget : flag.targetFor? setting.subject.key with
  | some target =>
    rw [htarget] at h
    cases h
    exact flag.serveVariation_offers _ _
  | none =>
    rw [htarget] at h
    obtain ⟨rule, between, -, hserve⟩ := bind_eq_some_iff.mp h
    cases rule with
    | none => exact serve_offers hserve
    | some rule => exact serve_offers hserve

/-- Whatever an evaluation comes to, it has a variation of the flag with its index, or neither. -/
theorem evaluate_offers (h : flag.evaluate setting depth t = some (detail, u)) :
    flag.Offers detail := by
  cases depth with
  | zero => cases h
  | succ depth =>
    rw [evaluate_succ_apply] at h
    split at h
    · obtain ⟨⟨failed, between⟩, -, hserve⟩ := Option.bind_eq_some_iff.mp h
      cases failed with
      | none => exact serveMet_offers hserve
      | some required =>
        cases hserve
        exact flag.serveOff_offers _
    · cases h
      exact flag.serveOff_offers _

/-- The records of checking these prerequisites of a flag from a trail on, up to the first that is not
met: one of each evaluation for a prerequisite, right after those made inside it. -/
inductive Recounts (setting : Setting) :
    Trail → Flag → List Prerequisite → List PrerequisiteRecord → Prop
  | done {t : Trail} {flag : Flag} : Recounts setting t flag [] []
  | again {t : Trail} {flag : Flag} {required : Prerequisite} {rest : List Prerequisite} :
      required.key ∈ t.openFlags → Recounts setting t flag (required :: rest) []
  | missing {t : Trail} {flag : Flag} {required : Prerequisite} {rest : List Prerequisite} :
      required.key ∉ t.openFlags → setting.catalog.flag? required.key = none →
      Recounts setting t flag (required :: rest) []
  | failed {t u : Trail} {flag other : Flag} {required : Prerequisite} {rest : List Prerequisite}
      {depth : ℕ} {detail : Detail Json} {inner : List PrerequisiteRecord} :
      required.key ∉ t.openFlags → setting.catalog.flag? required.key = some other →
      other.evaluate setting depth t = some (detail, u) →
      Recounts setting (t.enter other) other other.asked inner →
      u.cycle = true ∨ detail.variationIndex ≠ some required.variation →
      Recounts setting t flag (required :: rest) (inner ++ [⟨other, flag.key, detail⟩])
  | passed {t u : Trail} {flag other : Flag} {required : Prerequisite} {rest : List Prerequisite}
      {depth : ℕ} {detail : Detail Json} {inner outer : List PrerequisiteRecord} :
      required.key ∉ t.openFlags → setting.catalog.flag? required.key = some other →
      other.evaluate setting depth t = some (detail, u) →
      Recounts setting (t.enter other) other other.asked inner →
      u.cycle = false → detail.variationIndex = some required.variation →
      Recounts setting (u.noting setting.recording ⟨other, flag.key, detail⟩) flag rest outer →
      Recounts setting t flag (required :: rest) (inner ++ ⟨other, flag.key, detail⟩ :: outer)

/-- The records that a run adds recount its evaluations. -/
theorem recountRule (hroom : setting.catalog.Within room) (hrecording : setting.recording = true) :
    RunRule setting
      (fun _ flag t _ u => t.openSegments = [] → u.openSegments = [] ∧
        ∃ records, u.records = t.records ++ records ∧
          Recounts setting (t.enter flag) flag flag.asked records)
      (fun _ flag required t _ u => t.openSegments = [] → u.openSegments = [] ∧
        ∃ records, u.records = t.records ++ records ∧
          Recounts setting t flag required records) where
  off hoff ht := by
    refine ⟨ht, [], (List.append_nil _).symm, ?_⟩
    rw [asked, if_neg (by rw [hoff]; decide)]
    exact .done
  unmet hon hchecked ht := by
    obtain ⟨hsegments, hrecords⟩ := hchecked (by rw [Trail.enter_openSegments]; exact ht)
    rw [Trail.enter_records] at hrecords
    rw [Trail.leave_openSegments, Trail.leave_records, asked, if_pos hon]
    exact ⟨hsegments, hrecords⟩
  met hon _ hchecked hserve ht := by
    obtain ⟨hsegments, hrecords⟩ := hchecked (by rw [Trail.enter_openSegments]; exact ht)
    rw [Trail.enter_records] at hrecords
    obtain ⟨⟨texts, rfl⟩, -⟩ :=
      serveMet_frame hroom (by rw [Trail.leave_openSegments]; exact hsegments) hserve
    dsimp only
    rw [Trail.leave_openSegments, Trail.leave_records, asked, if_pos hon]
    exact ⟨hsegments, hrecords⟩
  done ht := ⟨ht, [], (List.append_nil _).symm, .done⟩
  again hopen ht := ⟨ht, [], (List.append_nil _).symm, .again hopen⟩
  missing hclosed hnone ht := ⟨ht, [], (List.append_nil _).symm, .missing hclosed hnone⟩
  failed {_ flag _ _ _ other detail _} hclosed hother hrun hserved hfails ht := by
    obtain ⟨hsegments, inner, hrecords, hinner⟩ := hserved ht
    rw [Trail.noting_openSegments]
    refine ⟨hsegments, inner ++ [⟨other, flag.key, detail⟩], ?_,
      .failed hclosed hother hrun hinner hfails⟩
    rw [Trail.noting, if_pos hrecording]
    dsimp only
    rw [hrecords, List.append_assoc]
  passed {_ flag _ _ _ other detail _ _ _} hclosed hother hrun hserved hcycle hindex hrest ht := by
    obtain ⟨hsegments, inner, hrecords, hinner⟩ := hserved ht
    obtain ⟨hsegments', outer, hrecords', houter⟩ :=
      hrest (by rw [Trail.noting_openSegments]; exact hsegments)
    refine ⟨hsegments', inner ++ ⟨other, flag.key, detail⟩ :: outer, ?_,
      .passed hclosed hother hrun hinner hcycle hindex houter⟩
    rw [hrecords', Trail.noting, if_pos hrecording]
    dsimp only
    rw [hrecords, List.append_assoc, List.append_assoc]
    rfl

end Flag

namespace Trail

def unrecorded (t : Trail) : Trail := { t with records := [] }

/-- Nothing in a step looks at the records. -/
theorem isCongruence_unrecorded (recording : Bool) :
    IsCongruence recording false fun t t' => t' = t.unrecorded where
  openFlags h _ := by rw [h]; rfl
  openSegments h := by rw [h]; rfl
  cycle h := by rw [h]; rfl
  hash h _ := by rw [h]; rfl
  enterSegment h _ := by rw [h]; rfl
  leaveSegment h _ := by rw [h]; rfl
  enterFlag h _ := by rw [h]; rfl
  leaveFlag h _ := by rw [h]; rfl
  mark h := by rw [h]; rfl
  record {t t'} h record := by
    rw [h]
    cases recording <;> rfl

theorem unrecorded_alike (t : Trail) : t.unrecorded.Alike t := ⟨.refl _, rfl, rfl⟩

end Trail

namespace Flag

/-- Evaluation does the same whether it records or not, but for the records. -/
theorem evaluate_unrecorded (setting : Setting) (depth : ℕ) (flag : Flag) (t : Trail) :
    flag.evaluate { setting with recording := false } depth t.unrecorded =
      (flag.evaluate setting depth t).map fun result => (result.1, result.2.unrecorded) := by
  have hquieter : Simulates (fun t t' => t' = t.unrecorded) (flag.evaluate setting depth)
      (flag.evaluate { setting with recording := false } depth) :=
    evaluate_simulates (Trail.isCongruence_unrecorded setting.recording)
      (setting.agreeOn_recording false) setting.catalog.closed_true le_rfl trivial
  cases hrun : flag.evaluate setting depth t with
  | some result =>
    obtain ⟨u', hquiet, rfl⟩ := hquieter rfl hrun
    exact hquiet
  | none =>
    -- An evaluation that comes to an end without recording does so with it.
    rw [Option.map_none, Option.eq_none_iff_forall_ne_some]
    rintro ⟨detail, u⟩ hquiet
    obtain ⟨u', hloud, -⟩ := evaluate_of_alike setting.recording le_rfl t.unrecorded_alike hquiet
    have hnone : some (detail, u') = none := hloud.symm.trans hrun
    cases hnone

end Flag

namespace Dataset

variable {data : Dataset} {bucketer : Bucketer} {subject : Subject} {recording : Bool} {flag : Flag}
  {outcome : Outcome}

/-- Without recording an evaluation comes to the same, but for the records. -/
theorem evaluate?_unrecorded (data : Dataset) (bucketer : Bucketer) (subject : Subject)
    (flag : Flag) :
    data.evaluate? bucketer subject flag false =
      (data.evaluate? bucketer subject flag).map fun outcome => { outcome with records := [] } := by
  have hquiet := flag.evaluate_unrecorded (data.setting bucketer subject true) data.depth {}
  change (flag.evaluate (data.setting bucketer subject false) data.depth {}).map _ =
    ((flag.evaluate (data.setting bucketer subject true) data.depth {}).map _).map _
  rw [show flag.evaluate (data.setting bucketer subject false) data.depth {} = _ from hquiet,
    Option.map_map, Option.map_map]
  rfl

theorem evaluate?_offers (h : data.evaluate? bucketer subject flag recording = some outcome) :
    flag.Offers outcome.detail := by
  obtain ⟨result, hrun, rfl⟩ := Option.map_eq_some_iff.mp h
  exact Flag.evaluate_offers hrun

/-- The records are those of the evaluations made for prerequisites. -/
theorem evaluate?_recounts (h : data.evaluate? bucketer subject flag = some outcome) :
    Flag.Recounts (data.setting bucketer subject true) (({} : Trail).enter flag) flag flag.asked
      outcome.records := by
  obtain ⟨⟨detail, u⟩, hrun, rfl⟩ := Option.map_eq_some_iff.mp h
  obtain ⟨-, records, hrecords, hrecounts⟩ :=
    (Flag.recountRule data.catalog_within rfl).of_evaluate hrun rfl
  have hall : u.records = records := hrecords
  dsimp only
  rw [hall]
  exact hrecounts

end Dataset

end FeatureFlags
