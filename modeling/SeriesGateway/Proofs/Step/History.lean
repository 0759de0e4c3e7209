import SeriesGateway.Proofs.Step.Multiple
import SeriesGateway.Step.Barrier

/-! # Histories of a barrier

Participants register and report in any order. Of a history only two things
matter: how many participants were registered, and the reports that found one of
them missing, in their order. The state of the barrier, and with it every answer,
is a function of these two; other reports leave no trace.

This holds as long as a machine word can count the participants. Of more than that the
barrier forgets all but the remainder.
-/

namespace SeriesGateway.Step

/-- What a participant reports: its step, or why it has none. -/
abbrev Report := Except StepError UInt32

namespace Barrier

/-- One call that changes a barrier. -/
inductive Act where
  | register (count : UInt64)
  | report (report : Report)

def perform (barrier : Barrier) : Act → Barrier
  | .register count => barrier.addParticipants count
  | .report report => barrier.report report

/-- The barrier after a history. -/
def after (acts : List Act) : Barrier := acts.foldl perform initial

/-! ## What matters of a history -/

/-- The participants registered in a history. -/
def registered : List Act → Nat
  | [] => 0
  | .register count :: rest => count.toNat + registered rest
  | .report _ :: rest => registered rest

/-- The reports of a history that count. Each fills the place of a participant
that is still missing; a report that finds nobody missing is not accepted. -/
def accepted : (missing : Nat) → List Act → List Report
  | _, [] => []
  | missing, .register count :: rest => accepted (missing + count.toNat) rest
  | 0, .report _ :: rest => accepted 0 rest
  | missing + 1, .report report :: rest => report :: accepted missing rest

/-- The steps among reports. -/
def contributions (reports : List Report) : List UInt32 := reports.filterMap Except.toOption

/-- The first failure among accepted reports: one that reports a failure itself,
or a step whose common multiple with all steps before does not fit. -/
def firstFailure? (folded : List UInt32) : List Report → Option StepError
  | [] => none
  | .error error :: _ => some error
  | .ok step :: rest =>
    if commonMultiple (folded ++ [step]) < UInt32.size then firstFailure? (folded ++ [step]) rest
    else some (.overflow (UInt32.ofNat (commonMultiple folded)) step)

/-! ## The state as a function of it -/

/-- Takes a report into the step and the first failure. -/
def absorb (barrier : Barrier) : Report → Barrier
  | .ok step => barrier.fold step
  | .error error => barrier.fail error

/-- A barrier for a number of participants that accepted these reports. -/
def ofReports (count : Nat) (reports : List Report) : Barrier :=
  { reports.foldl absorb initial with
    expected := .ofNat count
    received := .ofNat reports.length
    released := decide (count ≤ reports.length) }

variable {count : Nat} {reports : List Report}

/-- Absorbing a report reads and writes nothing but the step and the failure. -/
theorem absorb_with (barrier : Barrier) (expected received : UInt64) (released : Bool)
    (report : Report) :
    absorb { barrier with expected, received, released } report =
      { absorb barrier report with expected, received, released } := by
  cases report with
  | ok step =>
      simp only [absorb, fold]
      cases lcm? barrier.step step <;> rfl
  | error error => rfl

/-- An accepted report is counted and absorbed; the one that completes the barrier
releases it. -/
theorem report_of_missing {barrier : Barrier} (hmissing : barrier.isComplete = false)
    (report : Report) :
    barrier.report report =
      let absorbed := absorb { barrier with received := barrier.received + 1 } report
      if absorbed.isComplete then { absorbed with released := true } else absorbed := by
  rw [Barrier.report, if_neg (by simp [hmissing])]
  cases report <;> rfl

theorem toNat_expected_ofReports (hfits : count < UInt64.size) :
    (ofReports count reports).expected.toNat = count :=
  UInt64.toNat_ofNat_of_lt' hfits

theorem toNat_received_ofReports (hle : reports.length ≤ count) (hfits : count < UInt64.size) :
    (ofReports count reports).received.toNat = reports.length :=
  UInt64.toNat_ofNat_of_lt' (Nat.lt_of_le_of_lt hle hfits)

theorem isComplete_ofReports (hle : reports.length ≤ count) (hfits : count < UInt64.size) :
    (ofReports count reports).isComplete = decide (count ≤ reports.length) := by
  have hshort : reports.length < UInt64.size := Nat.lt_of_le_of_lt hle hfits
  simp only [isComplete, ofReports, UInt64.ofNat_le_iff_le hfits hshort]

theorem report_ofReports (hmissing : reports.length < count) (hfits : count < UInt64.size)
    (report : Report) :
    (ofReports count reports).report report = ofReports count (reports ++ [report]) := by
  have hopen : ¬ count ≤ reports.length := Nat.not_le.mpr hmissing
  have hnext : UInt64.ofNat reports.length + 1 = .ofNat (reports.length + 1) := by
    rw [UInt64.ofNat_add]
    rfl
  have hshort : reports.length + 1 < UInt64.size := Nat.lt_of_le_of_lt hmissing hfits
  rw [report_of_missing (by simp [isComplete_ofReports (Nat.le_of_lt hmissing) hfits, hopen])]
  simp only [ofReports, absorb_with, isComplete, List.foldl_append, List.foldl_cons,
    List.foldl_nil, List.length_append, List.length_singleton, hnext,
    UInt64.ofNat_le_iff_le hfits hshort]
  by_cases hfull : count ≤ reports.length + 1
  · simp [hfull]
  · simp [hfull, hopen]

theorem report_ofReports_of_full (hfull : reports.length = count) (hfits : count < UInt64.size)
    (report : Report) : (ofReports count reports).report report = ofReports count reports := by
  rw [Barrier.report, isComplete_ofReports (Nat.le_of_eq hfull) hfits, hfull]
  simp

theorem addParticipants_ofReports (hle : reports.length ≤ count) {more : UInt64}
    (hfits : count + more.toNat < UInt64.size) :
    (ofReports count reports).addParticipants more = ofReports (count + more.toNat) reports := by
  have hexpected : UInt64.ofNat count + more = .ofNat (count + more.toNat) := by
    rw [UInt64.ofNat_add, UInt64.ofNat_toNat]
  have hshort : reports.length < UInt64.size := by omega
  simp only [addParticipants, isComplete, ofReports, hexpected,
    UInt64.ofNat_le_iff_le hfits hshort]
  by_cases hfull : count + more.toNat ≤ reports.length
  · simp [hfull, Nat.le_trans (Nat.le_add_right count _) hfull]
  · simp [hfull]

/-- No more reports are accepted than participants are registered. -/
theorem length_accepted_le (missing : Nat) (acts : List Act) :
    (accepted missing acts).length ≤ missing + registered acts := by
  fun_induction accepted missing acts with
  | case1 missing => exact Nat.zero_le _
  | case2 missing count rest ih =>
      rw [registered, ← Nat.add_assoc]
      exact ih
  | case3 report rest ih => exact ih
  | case4 missing report rest ih =>
      rw [registered, List.length_cons]
      omega

/-- A history goes on from any number of participants and accepted reports with
those that it registers and accepts itself. -/
theorem foldl_perform_ofReports (hle : reports.length ≤ count) {acts : List Act}
    (hfits : count + registered acts < UInt64.size) :
    acts.foldl perform (ofReports count reports) =
      ofReports (count + registered acts)
        (reports ++ accepted (count - reports.length) acts) := by
  induction acts generalizing count reports with
  | nil => simp [registered, accepted]
  | cons act rest ih =>
      cases act with
      | register more =>
          have hmissing : count - reports.length + more.toNat =
              count + more.toNat - reports.length := by omega
          rw [registered, ← Nat.add_assoc] at hfits
          rw [List.foldl_cons, perform,
            addParticipants_ofReports hle (Nat.lt_of_le_of_lt (Nat.le_add_right _ _) hfits),
            registered, accepted, hmissing, ← Nat.add_assoc]
          exact ih (by omega) hfits
      | report report =>
          have hcount : count < UInt64.size := Nat.lt_of_le_of_lt (Nat.le_add_right _ _) hfits
          rw [registered] at hfits
          rw [List.foldl_cons, perform, registered]
          rcases Nat.eq_or_lt_of_le hle with hfull | hmissing
          · rw [report_ofReports_of_full hfull hcount, hfull, Nat.sub_self, accepted]
            simpa [hfull] using ih (Nat.le_of_eq hfull) hfits
          · have hplace : count - reports.length =
                count - (reports ++ [report]).length + 1 := by
              rw [List.length_append, List.length_singleton]
              omega
            have hnext : (reports ++ [report]).length ≤ count := by
              rw [List.length_append]
              exact hmissing
            rw [report_ofReports hmissing hcount, hplace, accepted,
              List.append_cons reports report (accepted _ rest)]
            exact ih hnext hfits

theorem after_eq_ofReports {acts : List Act} (hfits : registered acts < UInt64.size) :
    after acts = ofReports (registered acts) (accepted 0 acts) := by
  have hinitial : initial = ofReports 0 [] := by simp [initial, ofReports]
  have hnone : ([] : List Report).length ≤ 0 := Nat.le_refl 0
  rw [after, hinitial, foldl_perform_ofReports hnone (by rwa [Nat.zero_add])]
  simp

theorem failed_foldl_absorb {barrier : Barrier} {error : StepError}
    (hfailed : barrier.failed = some error) (reports : List Report) :
    (reports.foldl absorb barrier).failed = some error := by
  induction reports generalizing barrier with
  | nil => exact hfailed
  | cons report rest ih =>
      apply ih
      cases report with
      | ok step =>
          simp only [absorb, fold]
          cases lcm? barrier.step step <;> simp [fail, hfailed]
      | error other => simp [absorb, fail, hfailed]

/-- As long as nothing failed, the step is the common multiple of what was
reported. -/
theorem foldl_absorb {barrier : Barrier} {folded : List UInt32} (hfailed : barrier.failed = none)
    (hstep : barrier.step.toNat = commonMultiple folded) (reports : List Report) :
    (reports.foldl absorb barrier).failed = firstFailure? folded reports ∧
      (firstFailure? folded reports = none →
        (reports.foldl absorb barrier).step.toNat =
          commonMultiple (folded ++ contributions reports)) := by
  induction reports generalizing barrier folded with
  | nil => simpa [firstFailure?, contributions, hfailed] using hstep
  | cons report rest ih =>
      cases report with
      | error error =>
          have hfirst : (barrier.fail error).failed = some error := by simp [fail, hfailed]
          simp only [firstFailure?, List.foldl_cons, absorb]
          exact ⟨failed_foldl_absorb hfirst rest, nofun⟩
      | ok step =>
          have hjoin : join barrier.step.toNat step.toNat = commonMultiple (folded ++ [step]) := by
            rw [commonMultiple_append, hstep, commonMultiple_cons, commonMultiple_nil, join_zero]
          have hlcm := lcm?_eq barrier.step step
          rw [hjoin] at hlcm
          rw [firstFailure?, List.foldl_cons, absorb, fold, hlcm]
          by_cases hfits : commonMultiple (folded ++ [step]) < UInt32.size
          · let next : Barrier :=
              { barrier with step := UInt32.ofNat (commonMultiple (folded ++ [step])) }
            have hnext : next.step.toNat = commonMultiple (folded ++ [step]) :=
              UInt32.toNat_ofNat_of_lt' hfits
            have hrest := @ih next (folded ++ [step]) hfailed hnext
            rw [if_pos hfits, if_pos hfits]
            simpa [contributions, Except.toOption] using hrest
          · rw [if_neg hfits, if_neg hfits, ← hstep, UInt32.ofNat_toNat]
            refine ⟨failed_foldl_absorb ?_ rest, nofun⟩
            simp [fail, hfailed]

theorem failed_ofReports (count : Nat) (reports : List Report) :
    (ofReports count reports).failed = firstFailure? [] reports :=
  (foldl_absorb rfl rfl reports).1

theorem step_ofReports (count : Nat) {reports : List Report}
    (hnone : firstFailure? [] reports = none) :
    (ofReports count reports).step.toNat = commonMultiple (contributions reports) :=
  (foldl_absorb rfl rfl reports).2 hnone

/-! ## Answers -/

/-- A barrier for a number of participants answers with the first failure; else,
if the waiter was released and nobody is missing, with the common multiple of all
steps that were reported; else with the number of those that are missing. -/
theorem answer_ofReports (hle : reports.length ≤ count) (hfits : count < UInt64.size)
    (released : Bool) (waited : Duration) :
    match firstFailure? [] reports with
    | some error => (ofReports count reports).answer released waited = .error error
    | none =>
      if released = true ∧ reports.length = count then
        ∃ step, (ofReports count reports).answer released waited = .ok step ∧
          step.toNat = commonMultiple (contributions reports)
      else
        (ofReports count reports).answer released waited =
          .error (.timeout waited (count - reports.length)) := by
  have hfailed := failed_ofReports count reports
  cases hfirst : firstFailure? [] reports with
  | some error =>
      rw [hfirst] at hfailed
      simp only [answer, hfailed]
  | none =>
      rw [hfirst] at hfailed
      have hcomplete : (ofReports count reports).isComplete = true ↔ reports.length = count := by
        rw [isComplete_ofReports hle hfits, decide_eq_true_eq]
        exact ⟨fun hfull => Nat.le_antisymm hle hfull, fun hall => Nat.le_of_eq hall.symm⟩
      dsimp only
      split
      next hall =>
        refine ⟨_, ?_, step_ofReports count hfirst⟩
        simp only [answer, hfailed, hall.1, hcomplete.mpr hall.2, Bool.and_self, if_true]
      next hmissing =>
        rw [← hcomplete, ← Bool.and_eq_true] at hmissing
        simp only [answer, hfailed, if_neg hmissing, toNat_expected_ofReports hfits,
          toNat_received_ofReports hle hfits]

end Barrier

end SeriesGateway.Step
