import FeatureFlags.Tracker
import Mathlib.Data.List.Induction

/-!
What a history of reports leaves in a tracker. The first report that is final turns the tracker off,
and what comes after it counts for nothing. Short of that, the state tells whether there was a
success yet, and whether the last report was one. Only what changes the state or carries a failure
is heard.
-/
namespace FeatureFlags

/-- What a tracker is told: that data came, that something failed, or that the source was closed. -/
inductive Report where
  | success
  | failed (failure : Failure)
  | off
  deriving DecidableEq, Inhabited

namespace Report

/-- After some reports there is nothing left to be told. -/
def isFinal : Report → Bool
  | .success => false
  | .failed failure => !failure.isRecoverable
  | .off => true

def failure? : Report → Option FailureInfo
  | .failed failure => some (.ofFailure failure)
  | .success | .off => none

/-- The reports up to the first final one, and that one. -/
def upToFinal : List Report → List Report
  | [] => []
  | report :: rest => if report.isFinal then [report] else report :: upToFinal rest

/-- What comes after a final report is not heard of any more. -/
theorem upToFinal_concat (earlier : List Report) (report : Report) :
    upToFinal (earlier ++ [report]) =
      if earlier.any isFinal then upToFinal earlier else earlier ++ [report] := by
  induction earlier with
  | nil =>
    simp only [List.nil_append, upToFinal, List.any_nil]
    split <;> rfl
  | cons first rest ih =>
    rw [List.cons_append, upToFinal, upToFinal, ih, List.any_cons]
    cases first.isFinal with
    | true => rfl
    | false =>
      simp only [Bool.false_eq_true, if_false, Bool.false_or]
      split <;> rfl

theorem upToFinal_of_not_any {reports : List Report} (h : reports.any isFinal = false) :
    upToFinal reports = reports := by
  cases reports using List.reverseRecOn with
  | nil => rfl
  | append_singleton earlier report =>
    rw [List.any_append, Bool.or_eq_false_iff] at h
    rw [upToFinal_concat, if_neg (by simp [h.1])]

end Report

namespace Tracker

open Report

def take (t : Tracker) : Report → Tracker
  | .success => t.reportValid
  | .failed failure => t.reportFailure failure
  | .off => t.update .off

def takeAll (t : Tracker) (reports : List Report) : Tracker := reports.foldl take t

def hearers (t : Tracker) : Report → List Nat
  | .success => t.audience .valid none
  | .failed failure => t.audience (stateAfter failure) (some (.ofFailure failure))
  | .off => t.audience .off none

variable {t : Tracker}

theorem takeAll_concat (t : Tracker) (earlier : List Report) (report : Report) :
    t.takeAll (earlier ++ [report]) = (t.takeAll earlier).take report := by
  simp [takeAll]

/-- Each report is an update of the state, with the failure that it carries. -/
theorem take_eq_update (t : Tracker) (report : Report) :
    ∃ state, t.take report = t.update state report.failure? ∧
      t.hearers report = t.audience state report.failure? ∧
      (report.isFinal = true ↔ state = .off) := by
  cases report with
  | success => exact ⟨.valid, rfl, rfl, by simp [isFinal]⟩
  | off => exact ⟨.off, rfl, rfl, by simp [isFinal]⟩
  | failed failure =>
    refine ⟨stateAfter failure, rfl, rfl, ?_⟩
    cases hrecoverable : failure.isRecoverable <;> simp [isFinal, stateAfter, hrecoverable]

theorem status_take_of_off (h : t.status.state = .off) (report : Report) :
    (t.take report).status = t.status := by
  obtain ⟨state, htake, -⟩ := t.take_eq_update report
  rw [htake, status_update_of_off h]

theorem state_take_of_isFinal {report : Report} (h : report.isFinal = true) :
    (t.take report).status.state = .off := by
  obtain ⟨state, htake, -, hfinal⟩ := t.take_eq_update report
  rw [htake, hfinal.mp h, state_update]
  split
  · rfl
  · cases t.status.state <;> rfl

theorem state_take_success (h : t.status.state ≠ .off) : (t.take .success).status.state = .valid := by
  simp only [take, reportValid]
  rw [state_update, if_neg h]
  cases t.status.state <;> rfl

theorem state_take_recoverable (h : t.status.state ≠ .off) {failure : Failure}
    (hrecoverable : failure.isRecoverable = true) :
    (t.take (.failed failure)).status.state =
      if t.status.state = .initializing then .initializing else .interrupted := by
  simp only [take, reportFailure]
  rw [state_update, if_neg h, stateAfter, if_pos hrecoverable]
  cases t.status.state <;> rfl

/-- A failure takes the place of the one before, unless the tracker is off. -/
theorem lastFailure_take (t : Tracker) (report : Report) :
    (t.take report).status.lastFailure =
      if t.status.state = .off then t.status.lastFailure
      else report.failure?.or t.status.lastFailure := by
  obtain ⟨state, htake, -⟩ := t.take_eq_update report
  rw [htake, lastFailure_update]

theorem reports_take (t : Tracker) (report : Report) : (t.take report).reports = t.reports + 1 := by
  obtain ⟨state, htake, -⟩ := t.take_eq_update report
  rw [htake, reports_update]

theorem statusListeners_take (t : Tracker) (report : Report) :
    (t.take report).statusListeners = t.statusListeners := by
  obtain ⟨state, htake, -⟩ := t.take_eq_update report
  rw [htake, (t.update_listeners _ _).1]

/-- A report is heard by all listeners or by none. -/
theorem hearers_eq (t : Tracker) (report : Report) :
    t.hearers report =
      if t.status.state ≠ .off ∧
          ((t.take report).status.state ≠ t.status.state ∨ report.failure?.isSome = true) then
        t.statusListeners
      else [] := by
  obtain ⟨state, htake, hhear, -⟩ := t.take_eq_update report
  rw [hhear, htake, audience]
  exact if_congr (t.isEffective_iff state _) rfl rfl

/-- The moment of the state is that of the report which changed it. -/
theorem since_take (t : Tracker) (report : Report) :
    (t.take report).status.since =
      if (t.take report).status.state = t.status.state then t.status.since else t.reports + 1 := by
  obtain ⟨state, htake, -⟩ := t.take_eq_update report
  rw [htake, since_update]

/-- Nothing moves a tracker that is off. -/
theorem status_takeAll_of_off (later : List Report) {t : Tracker} (h : t.status.state = .off) :
    (t.takeAll later).status = t.status := by
  induction later generalizing t with
  | nil => rfl
  | cons report rest ih =>
    have hnext := status_take_of_off h report
    exact (ih (by rw [hnext, h])).trans hnext

/-- What a final report leaves, no later one changes. -/
theorem status_of_final (t : Tracker) (before after : List Report) {report : Report}
    (h : report.isFinal = true) :
    (t.takeAll (before ++ report :: after)).status.state = .off ∧
      (t.takeAll (before ++ report :: after)).status =
        (t.takeAll (before ++ [report])).status := by
  have hoff : (t.takeAll (before ++ [report])).status.state = .off := by
    rw [takeAll_concat, state_take_of_isFinal h]
  have hsplit : t.takeAll (before ++ report :: after) =
      (t.takeAll (before ++ [report])).takeAll after := by
    simp [takeAll]
  rw [hsplit, status_takeAll_of_off after hoff]
  exact ⟨hoff, rfl⟩

/-- Short of a final report, the state tells of the first success and of the last report. -/
theorem state_takeAll (ht : t.status.state = .initializing) {reports : List Report}
    (h : reports.any isFinal = false) :
    (t.takeAll reports).status.state =
      if .success ∈ reports then
        if reports.getLast? = some .success then .valid else .interrupted
      else .initializing := by
  induction reports using List.reverseRecOn with
  | nil => exact ht
  | append_singleton earlier report ih =>
    rw [List.any_append, Bool.or_eq_false_iff] at h
    have hearlier := ih h.1
    have hrunning : (t.takeAll earlier).status.state ≠ .off := by
      rw [hearlier]
      split
      · split <;> exact SourceState.noConfusion
      · exact SourceState.noConfusion
    rw [takeAll_concat, List.getLast?_concat]
    cases report with
    | success => simp [state_take_success hrunning]
    | off => simp [isFinal] at h
    | failed failure =>
      have hrecoverable : failure.isRecoverable = true := by simpa [isFinal] using h.2
      have hinit : (t.takeAll earlier).status.state = .initializing ↔ .success ∉ earlier := by
        rw [hearlier]
        split
        · next hmem => split <;> simp [hmem]
        · next hmem => simp [hmem]
      rw [state_take_recoverable hrunning hrecoverable, if_congr hinit rfl rfl]
      by_cases hmem : .success ∈ earlier <;> simp [hmem]

/-- Whether a tracker is off is settled by the first final report. -/
theorem state_takeAll_eq_off_iff (ht : t.status.state = .initializing) (reports : List Report) :
    (t.takeAll reports).status.state = .off ↔ reports.any isFinal = true := by
  constructor
  · intro hoff
    by_contra hfinal
    rw [Bool.not_eq_true] at hfinal
    rw [state_takeAll ht hfinal] at hoff
    split at hoff
    · split at hoff <;> cases hoff
    · cases hoff
  · intro hfinal
    obtain ⟨report, hmem, hreport⟩ := List.any_eq_true.mp hfinal
    obtain ⟨before, after, rfl⟩ := List.append_of_mem hmem
    exact (status_of_final t before after hreport).1

/-- The last failure is the last one that counted. -/
theorem lastFailure_takeAll (ht : t.status = {}) (reports : List Report) :
    (t.takeAll reports).status.lastFailure = ((upToFinal reports).filterMap failure?).getLast? := by
  have hinit : t.status.state = .initializing := by rw [ht]
  induction reports using List.reverseRecOn with
  | nil =>
    change t.status.lastFailure = none
    rw [ht]
  | append_singleton earlier report ih =>
    rw [takeAll_concat, lastFailure_take, ih,
      if_congr (state_takeAll_eq_off_iff hinit earlier) rfl rfl, upToFinal_concat]
    split
    · rfl
    · next hnone =>
      rw [upToFinal_of_not_any (by simpa using hnone), List.filterMap_append]
      cases hfailure : report.failure? <;> simp [hfailure]

/-- A state that came about did so by a report that was made. -/
theorem since_le_reports (ht : t.status.since ≤ t.reports) (reports : List Report) :
    (t.takeAll reports).status.since ≤ (t.takeAll reports).reports := by
  induction reports using List.reverseRecOn with
  | nil => exact ht
  | append_singleton earlier report ih =>
    rw [takeAll_concat, since_take, reports_take]
    split <;> omega

theorem statusListeners_takeAll (t : Tracker) (reports : List Report) :
    (t.takeAll reports).statusListeners = t.statusListeners := by
  induction reports using List.reverseRecOn with
  | nil => rfl
  | append_singleton earlier report ih => rw [takeAll_concat, statusListeners_take, ih]

/-- What a history of reports comes to, and what the next one does. Moments are the numbers of the
reports made then, so two reports never share one; that the moment of the state changes exactly with
the state is said of a clock that moves on between reports. -/
theorem status_follows_reports (listeners : List Nat) (reports : List Report) :
    let began : Tracker := { statusListeners := listeners }
    let t := began.takeAll reports
    (∀ before report after, reports = before ++ report :: after → report.isFinal = true →
      t.status.state = .off ∧ t.status = (began.takeAll (before ++ [report])).status) ∧
    ((∀ report ∈ reports, report.isFinal = false) →
      t.status.state =
        if .success ∈ reports then
          if reports.getLast? = some .success then .valid else .interrupted
        else .initializing) ∧
    t.status.lastFailure = ((upToFinal reports).filterMap failure?).getLast? ∧
    ∀ report,
      t.hearers report =
        (if t.status.state ≠ .off ∧
            ((t.take report).status.state ≠ t.status.state ∨ report.failure?.isSome = true) then
          listeners
        else []) ∧
      ((t.take report).status.since ≠ t.status.since ↔
        (t.take report).status.state ≠ t.status.state) := by
  intro began t
  refine ⟨?_, fun hnone => ?_, lastFailure_takeAll rfl reports, fun report => ⟨?_, ?_⟩⟩
  · rintro before report after rfl hfinal
    exact status_of_final began before after hfinal
  · refine state_takeAll rfl (List.any_eq_false.mpr fun report hmem => ?_)
    simp [hnone report hmem]
  · rw [hearers_eq, statusListeners_takeAll]
  · have hsince : t.status.since ≤ t.reports := since_le_reports (Nat.le_refl _) reports
    rw [since_take]
    split
    · next hsame => simp [hsame]
    · next hother => exact iff_of_true (by omega) hother

/-- A success, a failure that may pass, a final one, and reports that come too late. -/
def refusedAtLast : List Report :=
  [.success, .failed (.httpStatus 503), .failed (.httpStatus 401), .success, .off]

/-- The tracker is off, and the refusal is the last that was heard of. -/
theorem refused_at_last :
    let t := ({ statusListeners := [0] } : Tracker).takeAll refusedAtLast
    t.status.state = .off ∧
      t.status.lastFailure = some ⟨.errorResponse, some 401, "received HTTP error 401"⟩ ∧
      t.hearers (.failed (.httpStatus 503)) = [] := by
  intro t
  obtain ⟨hfinal, -, hlast, hnext⟩ := status_follows_reports [0] refusedAtLast
  obtain ⟨hoff, -⟩ := hfinal [.success, .failed (.httpStatus 503)] (.failed (.httpStatus 401))
    [.success, .off] rfl rfl
  refine ⟨hoff, hlast.trans (by decide), ?_⟩
  rw [(hnext (.failed (.httpStatus 503))).1, if_neg]
  exact fun hrunning => hrunning.1 hoff

end Tracker

end FeatureFlags
