import SqlAssembler.FunctionNames
import SqlAssembler.Proofs.Markers.Neutral

/-!
# Calls read as text

The call checker and the marker reader both follow the quotes of a call, but
only the checker lets a backslash escape a character between backticks. Up to
the first such backslash they stand in the same state. So a call that passes the
check is neutral for the marker reader if no backslash stands between backticks,
and need not be if one does.
-/

namespace SqlAssembler

open Text

namespace Statement

def backslashInBackticks : Quoting → List Char → Bool
  | _, [] => false
  | state, c :: cs =>
      (state = .inside backtick && c = '\\') ||
        backslashInBackticks (state.step escapes c) cs

/-- The two readers take the same step unless a backslash stands between
backticks. -/
theorem step_eq_step {state : Quoting} {c : Char}
    (h : ¬(state = .inside backtick ∧ c = '\\')) :
    state.step (fun _ => true) c = state.step escapes c := by
  cases state with
  | outside => rfl
  | escaped quote => rfl
  | inside quote =>
      by_cases hc : c = '\\'
      · have hquote : quote ≠ backtick := by
          rintro rfl
          exact h ⟨rfl, hc⟩
        simp [Quoting.step, hc, escapes, hquote]
      · simp [Quoting.step, hc]

theorem scanCall_outside_cons {depth : Nat} {c : Char} {cs : List Char}
    (hscan : FunctionNames.scanCall .outside depth (c :: cs) = none) :
    c ≠ '?' ∧ ∃ after,
      FunctionNames.scanCall (Quoting.step escapes .outside c) after cs =
        none := by
  unfold FunctionNames.scanCall at hscan
  by_cases hopen : c = '('
  · subst hopen
    have hstep : Quoting.step escapes .outside '(' = .outside := by decide
    exact ⟨by decide, depth + 1, by simpa [hstep] using hscan⟩
  by_cases hclose : c = ')'
  · subst hclose
    have hstep : Quoting.step escapes .outside ')' = .outside := by decide
    by_cases hdepth : depth = 0
    · simp [hdepth] at hscan
    · exact ⟨by decide, depth - 1, by simpa [hdepth, hstep] using hscan⟩
  by_cases hmarker : c = '?'
  · simp [hmarker] at hscan
  by_cases hseparator : c = ';'
  · simp [hseparator] at hscan
  cases hcomment : FunctionNames.startsComment c cs with
  | true =>
      simp [hopen, hclose, hmarker, hseparator, hcomment] at hscan
  | false =>
      simp [hopen, hclose, hmarker, hseparator, hcomment] at hscan
      exact ⟨hmarker, depth, hscan⟩

theorem read_of_scanCall {state : Quoting} {depth : Nat} {cs : List Char}
    (hscan : FunctionNames.scanCall state depth cs = none)
    (hback : backslashInBackticks state cs = false) :
    Quoting.run escapes state cs = .outside ∧ countMarkers state cs = 0 := by
  induction cs generalizing state depth with
  | nil =>
      cases state with
      | outside => exact ⟨rfl, rfl⟩
      | inside quote => simp [FunctionNames.scanCall] at hscan
      | escaped quote => simp [FunctionNames.scanCall] at hscan
  | cons c cs ih =>
      simp only [backslashInBackticks, Bool.or_eq_false_iff] at hback
      rcases hback with ⟨hhere, hlater⟩
      have hstep : state.step (fun _ => true) c = state.step escapes c := by
        apply step_eq_step
        rintro ⟨rfl, rfl⟩
        exact absurd hhere (by decide)
      cases state with
      | outside =>
          rcases scanCall_outside_cons hscan with ⟨hmarker, after, hrest⟩
          have hread := ih hrest hlater
          simpa [countMarkers, isMarker, hmarker] using hread
      | inside quote =>
          rw [FunctionNames.scanCall, hstep] at hscan
          · have hrest := ih hscan hlater
            simpa [countMarkers, isMarker] using hrest
          · simp
      | escaped quote =>
          rw [FunctionNames.scanCall, hstep] at hscan
          · have hrest := ih hscan hlater
            simpa [countMarkers, isMarker] using hrest
          · simp

theorem neutral_of_callFault? {call : String}
    (hcheck : FunctionNames.callFault? call = none)
    (hback : backslashInBackticks .outside call.toList = false) :
    Neutral call := by
  have hread := read_of_scanCall hcheck hback
  exact ⟨hread.1, hread.2⟩

end Statement
end SqlAssembler
