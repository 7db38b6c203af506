import FeatureFlags.Proofs.FlagRuns
import FeatureFlags.Proofs.Hashing

/-!
How the parts of a detail fit together. A flag serves a variation together with its index, or neither:
because it is off, by itself or by a prerequisite, and has nothing to serve then, or because it is
malformed. So it is for the flag that is evaluated and for each flag that is recorded on the way, in
every catalog: what a prerequisite comes to is passed on as it is, and only flags that require others
add records.
-/
namespace FeatureFlags

open Evaluation

namespace Evaluation

variable {t u : Trail}

/-- What is found is one of the list. -/
theorem mem_of_findM? {ι : Type} {p : ι → Evaluation Bool} {list : List ι} {i : ι}
    (h : list.findM? p t = some (some i, u)) : i ∈ list := by
  induction list generalizing t with
  | nil => cases h
  | cons head rest ih =>
    rw [findM?_cons] at h
    obtain ⟨found, between, -, hrest⟩ := bind_eq_some_iff.mp h
    cases found with
    | false => exact List.mem_cons_of_mem head (ih hrest)
    | true =>
      cases hrest
      exact List.mem_cons_self

end Evaluation

def Reason.IsOf (flag : Flag) : Reason → Prop
  | .ruleMatch index id => ∃ rule, flag.rules[index]? = some rule ∧ rule.id = id
  | .prerequisiteFailed key => ∃ required ∈ flag.prerequisites, required.key = key
  | _ => True

namespace Flag

variable {setting : Setting} {depth : ℕ} {flag : Flag} {t u : Trail} {detail : Detail Json}

/-- The details that a flag may come to. -/
inductive Fits (flag : Flag) : Detail Json → Prop
  | served {index : Nat} {value : Json} {reason : Reason} :
      index < flag.variations.length → flag.variations[index]? = some value →
      (∀ error, reason ≠ .error error) → reason.IsOf flag →
      Fits flag ⟨some value, some index, reason⟩
  | unserved {reason : Reason} :
      (reason = .off ∨ ∃ key, reason = .prerequisiteFailed key) → flag.offVariation = none →
      reason.IsOf flag → Fits flag ⟨none, none, reason⟩
  | malformed : Fits flag ⟨none, none, .error .malformedFlag⟩

/-- Serving a variation of a flag fits the flag, or tells that it is malformed. -/
theorem serveVariation_fits {reason : Reason} (hreason : ∀ error, reason ≠ .error error)
    (hof : reason.IsOf flag) (index : Nat) : flag.Fits (flag.serveVariation index reason) := by
  unfold serveVariation
  split
  · next hvalue => exact .served (List.getElem?_eq_some_iff.mp hvalue).1 hvalue hreason hof
  · exact .malformed

theorem serveOff_fits {reason : Reason}
    (hreason : reason = .off ∨ ∃ key, reason = .prerequisiteFailed key) (hof : reason.IsOf flag) :
    flag.Fits (flag.serveOff reason) := by
  unfold serveOff
  split
  · refine serveVariation_fits (fun error => ?_) hof _
    rcases hreason with rfl | ⟨key, rfl⟩ <;> exact Reason.noConfusion
  · next hnone => exact .unserved hreason hnone hof

/-- So does serving a choice. -/
theorem serve_fits {choice : Choice} {reason : Reason} (hreason : ∀ error, reason ≠ .error error)
    (hof : reason.IsOf flag) (h : flag.serve setting choice reason t = some (detail, u)) :
    flag.Fits detail := by
  obtain ⟨index, between, -, hserve⟩ := bind_eq_some_iff.mp h
  cases index with
  | none =>
    cases hserve
    exact .malformed
  | some index =>
    cases hserve
    exact serveVariation_fits hreason hof index

/-- A flag whose prerequisites are met comes to a detail that fits it. -/
theorem serveMet_fits (h : flag.serveMet setting depth t = some (detail, u)) :
    flag.Fits detail := by
  unfold serveMet at h
  cases htarget : flag.targetFor? setting.subject.key with
  | some target =>
    rw [htarget] at h
    cases h
    have hof : Reason.targetMatch.IsOf flag := trivial
    exact serveVariation_fits (fun _ => Reason.noConfusion) hof _
  | none =>
    rw [htarget] at h
    obtain ⟨matched, between, hmatching, hserve⟩ := bind_eq_some_iff.mp h
    cases matched with
    | none =>
      have hof : Reason.fallthrough.IsOf flag := trivial
      exact serve_fits (fun _ => Reason.noConfusion) hof hserve
    | some matched =>
      have hrule := List.mem_zipIdx_iff_getElem?.mp (mem_of_findM? hmatching)
      have hof : (Reason.ruleMatch matched.2 matched.1.id).IsOf flag := ⟨matched.1, hrule, rfl⟩
      exact serve_fits (fun _ => Reason.noConfusion) hof hserve

def RecordsFit (t u : Trail) : Prop :=
  ∀ record ∈ u.records, record ∈ t.records ∨ record.flag.Fits record.detail

theorem RecordsFit.of_eq (h : u.records = t.records) : RecordsFit t u :=
  fun _ hrecord => .inl (h ▸ hrecord)

theorem RecordsFit.trans {v : Trail} (h : RecordsFit t u) (h' : RecordsFit u v) : RecordsFit t v :=
  fun record hrecord => (h' record hrecord).elim (h record) .inr

theorem RecordsFit.noting (h : RecordsFit t u) (recording : Bool) {record : PrerequisiteRecord}
    (hfits : record.flag.Fits record.detail) : RecordsFit t (u.noting recording record) := by
  unfold Trail.noting
  split
  · intro other hother
    rcases List.mem_append.mp hother with hbefore | hlast
    · exact h other hbefore
    · rw [List.mem_singleton.mp hlast]
      exact .inr hfits
  · exact h

/-- Every step of an evaluation keeps the details and the records fitting. -/
theorem fitRule (setting : Setting) :
    RunRule setting (fun _ flag t detail u => flag.Fits detail ∧ RecordsFit t u)
      (fun _ _ required t failed u => (∀ r ∈ failed, r ∈ required) ∧ RecordsFit t u) where
  off _ := ⟨serveOff_fits (.inl rfl) trivial, .of_eq rfl⟩
  unmet {_ flag t required u} _ hchecked := by
    obtain ⟨hmem, hrecords⟩ := hchecked
    refine ⟨serveOff_fits (.inr ⟨_, rfl⟩) ⟨required, hmem required rfl, rfl⟩, ?_⟩
    exact ((RecordsFit.of_eq (t.enter_records flag)).trans hrecords).trans
      (.of_eq (u.leave_records flag))
  met {depth flag t u _ _} _ _ hchecked hserve := by
    refine ⟨serveMet_fits hserve, ?_⟩
    refine ((RecordsFit.of_eq (t.enter_records flag)).trans hchecked.2).trans (.of_eq ?_)
    obtain ⟨texts, rfl⟩ := flag.serveMet_onlyHashes depth hserve
    exact u.leave_records flag
  done := ⟨fun r h => absurd h (Option.not_mem_none r), .of_eq rfl⟩
  again _ := ⟨fun _ h => Option.some.inj h ▸ List.mem_cons_self, .of_eq rfl⟩
  missing _ _ := ⟨fun _ h => Option.some.inj h ▸ List.mem_cons_self, .of_eq rfl⟩
  failed _ _ _ hserved _ :=
    ⟨fun _ h => Option.some.inj h ▸ List.mem_cons_self, hserved.2.noting _ hserved.1⟩
  passed _ _ _ hserved _ _ hrest :=
    ⟨fun r h => List.mem_cons_of_mem _ (hrest.1 r h), (hserved.2.noting _ hserved.1).trans hrest.2⟩

end Flag

namespace Setting

/-- Whatever the catalog, the subject and the buckets are: the detail that an evaluation comes to fits
its flag, and each detail that was recorded on the way fits the flag that it is of. -/
theorem outcome_fits {setting : Setting} {depth : ℕ} {flag : Flag} {outcome : Outcome}
    (h : setting.outcome? depth flag = some outcome) :
    flag.Fits outcome.detail ∧ ∀ record ∈ outcome.records, record.flag.Fits record.detail := by
  obtain ⟨⟨detail, u⟩, hrun, rfl⟩ := Option.map_eq_some_iff.mp h
  obtain ⟨hfits, hrecords⟩ := (Flag.fitRule setting).of_evaluate hrun
  exact ⟨hfits, fun record hrecord => (hrecords record hrecord).resolve_left List.not_mem_nil⟩

/-- A flag that is stored under another key than its own, and turned off for good. -/
def retiredTheme : Flag := { key := "theme", variations := [.string "dark"] }

def themed : Flag where
  key := "themed"
  on := true
  prerequisites := [⟨"theme-old", 0⟩]
  offVariation := some 1
  variations := [.bool true, .bool false]

def themes : Setting where
  catalog := ⟨fun key => if key = "theme-old" then some retiredTheme else none, fun _ => none⟩
  subject := { key := "alice" }
  bucketer := Murmur3.bucketer

/-- The flag `themed` fails by the key it asks for, and what it asked for is recorded as the flag
that was found, which is off and has nothing to serve. -/
theorem themed_fits :
    let detail : Detail Json := ⟨some (.bool false), some 1, .prerequisiteFailed "theme-old"⟩
    let record : PrerequisiteRecord := ⟨retiredTheme, "themed", ⟨none, none, .off⟩⟩
    themes.outcome? 2 themed = some ⟨detail, [record], []⟩ ∧ themed.Fits detail ∧
      retiredTheme.Fits record.detail := by
  intro detail record
  have houtcome : themes.outcome? 2 themed = some ⟨detail, [record], []⟩ := rfl
  obtain ⟨hfits, hrecords⟩ := outcome_fits houtcome
  exact ⟨houtcome, hfits, hrecords record List.mem_cons_self⟩

end Setting

end FeatureFlags
