import SqlAssembler.Builder.Recording

/-!
# Refused edits

A refused edit leaves the parts as they are, so it could as well be left out,
except for the first error that is left behind. And where no error is left,
every edit has gone through.
-/

namespace SqlAssembler
namespace Recording

variable {σ α : Type}

/-- The errors of the edits that are refused. Each edit is tried on what those
before it have recorded, and a refused one records nothing. -/
def refusals (parts : σ) : List (Edit σ) → List Error
  | [] => []
  | edit :: rest =>
      match edit parts with
      | .ok after => refusals after rest
      | .error error => error :: refusals parts rest

theorem attemptAll_cons (recording : Recording σ) (edit : Edit σ)
    (rest : List (Edit σ)) :
    recording.attemptAll (edit :: rest) =
      (recording.attempt edit).attemptAll rest :=
  rfl

theorem failure_attemptAll_eq (recording : Recording σ)
    (edits : List (Edit σ)) :
    (recording.attemptAll edits).failure =
      recording.failure.or (refusals recording.parts edits).head? := by
  induction edits generalizing recording with
  | nil => simp [attemptAll, refusals]
  | cons edit rest ih =>
      have hrest := ih (recording.attempt edit)
      cases hedit : edit recording.parts with
      | ok after =>
          rw [attempt_of_ok hedit] at hrest
          rw [attemptAll_cons, attempt_of_ok hedit, refusals, hedit]
          exact hrest
      | error error =>
          rw [attempt_of_error hedit] at hrest
          rw [attemptAll_cons, attempt_of_error hedit, refusals, hedit]
          refine hrest.trans ?_
          cases recording.failure <;> rfl

theorem checked_of_refusals {parts : σ} {edits : List (Edit σ)} {error : Error}
    {later : List Error} (h : refusals parts edits = error :: later) :
    ((start parts).attemptAll edits).checked = .error error := by
  have hfailure : ((start parts).attemptAll edits).failure = some error := by
    rw [failure_attemptAll_eq, start, h]
    rfl
  rw [checked, hfailure]

theorem error_of_mem_refusals {parts recorded : σ} {first : Edit σ}
    {kept : List (Edit σ)} {error : Error}
    (hkept : (start ((start parts).attempt first).parts).attemptAll kept =
      ⟨recorded, none⟩)
    (h : error ∈ refusals parts (first :: kept)) :
    first parts = .error error := by
  have hnone : refusals ((start parts).attempt first).parts kept = [] := by
    have hfailure := failure_attemptAll_eq
      (start ((start parts).attempt first).parts) kept
    rw [hkept] at hfailure
    exact List.head?_eq_none_iff.mp hfailure.symm
  cases hfirst : first parts with
  | ok after =>
      have hattempt : (start parts).attempt first = ⟨after, none⟩ :=
        attempt_of_ok hfirst
      rw [hattempt] at hnone
      simp [refusals, hfirst, hnone] at h
  | error found =>
      have hattempt : (start parts).attempt first = ⟨parts, some found⟩ :=
        attempt_of_error hfirst
      rw [hattempt] at hnone
      simp only [refusals, hfirst, hnone, List.mem_singleton] at h
      rw [h]

/-!
## Edits that go through
-/

def accepted (edit : α → Edit σ) (parts : σ) : List α → List α
  | [] => []
  | entry :: rest =>
      match edit entry parts with
      | .ok after => entry :: accepted edit after rest
      | .error _ => accepted edit parts rest

theorem parts_attemptAll_eq {recording other : Recording σ}
    (h : recording.parts = other.parts) (edits : List (Edit σ)) :
    (recording.attemptAll edits).parts = (other.attemptAll edits).parts := by
  induction edits generalizing recording other with
  | nil => exact h
  | cons edit rest ih =>
      apply ih
      unfold attempt
      rw [h]
      split
      · rfl
      · rfl

/-- Recording the accepted entries alone refuses none of them and leads to the
same parts. -/
theorem attemptAll_accepted (edit : α → Edit σ) (recording : Recording σ)
    (entries : List α) :
    recording.attemptAll ((accepted edit recording.parts entries).map edit) =
      ⟨(recording.attemptAll (entries.map edit)).parts,
        recording.failure⟩ := by
  induction entries generalizing recording with
  | nil => rfl
  | cons entry rest ih =>
      rw [accepted]
      cases hentry : edit entry recording.parts with
      | ok after =>
          have hrest := ih ⟨after, recording.failure⟩
          simp only [List.map_cons, attemptAll_cons, attempt_of_ok hentry]
          exact hrest
      | error error =>
          have hsame : recording.parts =
              (recording.attempt (edit entry)).parts := by
            rw [attempt_of_error hentry]
          -- the refused entry leaves an error, but only in the longer run
          rw [ih recording, parts_attemptAll_eq hsame]
          rfl

/-!
## Runs without a refusal
-/

theorem exists_failure_of_refused {recording : Recording σ} {edit : Edit σ}
    {error : Error} (h : edit recording.parts = .error error)
    (rest : List (Edit σ)) :
    ∃ first, (recording.attemptAll (edit :: rest)).failure = some first := by
  rw [failure_attemptAll_eq, refusals, h]
  cases recording.failure with
  | none => exact ⟨error, rfl⟩
  | some first => exact ⟨first, rfl⟩

theorem checked_of_refused {recording : Recording σ} {edit : Edit σ}
    {error : Error} {before : List (Edit σ)}
    (h : edit (recording.attemptAll before).parts = .error error)
    (rest : List (Edit σ)) :
    ∃ first, (recording.attemptAll (before ++ edit :: rest)).checked =
      .error first := by
  rcases exists_failure_of_refused h rest with ⟨first, hfirst⟩
  refine ⟨first, ?_⟩
  rw [attemptAll_append, checked, hfirst]

theorem attemptAll_tracks {edit : α → Edit σ} {P : List α → σ → Prop}
    (hstep : ∀ done parts call after, P done parts →
      edit call parts = .ok after → P (done ++ [call]) after)
    {recording : Recording σ} {done calls : List α}
    (hdone : P done recording.parts)
    (hnone : (recording.attemptAll (calls.map edit)).failure = none) :
    P (done ++ calls) (recording.attemptAll (calls.map edit)).parts := by
  induction calls generalizing recording done with
  | nil => simpa [attemptAll] using hdone
  | cons call rest ih =>
      cases hcall : edit call recording.parts with
      | ok after =>
          rw [List.map_cons, attemptAll_cons, attempt_of_ok hcall] at hnone ⊢
          have hrest := ih (hstep done _ call after hdone hcall) hnone
          simpa using hrest
      | error error =>
          rcases exists_failure_of_refused hcall (rest.map edit) with
            ⟨first, hfirst⟩
          rw [List.map_cons, hfirst] at hnone
          cases hnone

end Recording

end SqlAssembler
