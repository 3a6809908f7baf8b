import SqlAssembler.Proofs.Containment.Outside
import SqlAssembler.Proofs.Markers.Calls

/-!
# Checked calls are orderly

The call checker looks for separators, comments and parentheses while it follows
the quotes of a call. It looks one character ahead for a comment, and the reader
of the whole statement looks one character back. So what the checker accepts is
orderly after any text that is settled, but need not be settled itself: a call
may end in a dash.
-/

namespace SqlAssembler

open Text

namespace Statement

theorem scanCall_outside_cases {depth : Nat} {c : Char} {cs : List Char}
    (hscan : FunctionNames.scanCall .outside depth (c :: cs) = none) :
    c ≠ ';' ∧ FunctionNames.startsComment c cs = false ∧
      ∃ after, nextDepth? depth c = some after ∧
        FunctionNames.scanCall (Quoting.step escapes .outside c) after cs =
          none := by
  unfold FunctionNames.scanCall at hscan
  by_cases hopen : c = '('
  · subst hopen
    refine ⟨by decide, by simp [FunctionNames.startsComment], depth + 1,
      by simp [nextDepth?], ?_⟩
    have hstep : Quoting.step escapes .outside '(' = .outside := by decide
    simpa [hstep] using hscan
  by_cases hclose : c = ')'
  · subst hclose
    have hstep : Quoting.step escapes .outside ')' = .outside := by decide
    by_cases hdepth : depth = 0
    · simp [hdepth] at hscan
    · refine ⟨by decide, by simp [FunctionNames.startsComment], depth - 1,
        by simp [nextDepth?, hdepth], ?_⟩
      simpa [hdepth, hstep] using hscan
  by_cases hmarker : c = '?'
  · simp [hmarker] at hscan
  by_cases hseparator : c = ';'
  · simp [hseparator] at hscan
  cases hcomment : FunctionNames.startsComment c cs with
  | true => simp [hopen, hclose, hmarker, hseparator, hcomment] at hscan
  | false =>
      simp [hopen, hclose, hmarker, hseparator, hcomment] at hscan
      exact ⟨hseparator, rfl, depth, by simp [nextDepth?, hopen, hclose], hscan⟩

structure Follows (state : Quoting) (read cs : List Char) : Prop where
  dash : read.getLast? = some '-' → state = .outside ∧ cs.head? ≠ some '-'
  slash : read.getLast? = some '/' → state = .outside ∧ cs.head? ≠ some '*'

theorem Settled.follows {depth : Nat} {read : List Char}
    (h : Settled depth read) (state : Quoting) (cs : List Char) :
    Follows state read cs := by
  constructor
  · intro hlast
    exact absurd hlast h.noDash
  · intro hlast
    exact absurd hlast h.noSlash

theorem follows_concat {c : Char} {cs : List Char} (read : List Char)
    (hcomment : FunctionNames.startsComment c cs = false) :
    Follows (Quoting.step escapes .outside c) (read ++ [c]) cs := by
  constructor
  · intro hlast
    have hc : c = '-' := by simpa using hlast
    subst hc
    refine ⟨by decide, ?_⟩
    simpa [FunctionNames.startsComment] using hcomment
  · intro hlast
    have hc : c = '/' := by simpa using hlast
    subst hc
    refine ⟨by decide, ?_⟩
    simpa [FunctionNames.startsComment] using hcomment

theorem Follows.skip {state : Quoting} {read cs others : List Char}
    (h : Follows state read cs) (hstate : state ≠ .outside) (next : Quoting) :
    Follows next read others := by
  constructor
  · intro hlast
    exact absurd (h.dash hlast).1 hstate
  · intro hlast
    exact absurd (h.slash hlast).1 hstate

theorem orderly_of_scanCall {state : Quoting} {depth more : Nat}
    {read cs : List Char}
    (hscan : FunctionNames.scanCall state depth cs = none)
    (hback : backslashInBackticks state cs = false)
    (hread : Orderly (depth + more) read) (hfollows : Follows state read cs) :
    Orderly more (read ++ outsideText state cs) := by
  -- outside quotes each character joins the text read before it; inside quotes
  -- that text stays as it is
  induction cs generalizing state depth read with
  | nil =>
      cases state with
      | outside =>
          have hdepth : depth = 0 := by
            by_cases hdepth : depth = 0
            · exact hdepth
            · simp [FunctionNames.scanCall, hdepth] at hscan
          simpa [outsideText, hdepth] using hread
      | inside quote => simp [FunctionNames.scanCall] at hscan
      | escaped quote => simp [FunctionNames.scanCall] at hscan
  | cons c cs ih =>
      simp only [backslashInBackticks, Bool.or_eq_false_iff] at hback
      rcases hback with ⟨hhere, hlater⟩
      have hstep : state.step (fun _ => true) c = state.step escapes c := by
        apply step_eq_step
        rintro ⟨rfl, rfl⟩
        exact absurd hhere (by decide)
      by_cases hstate : state = .outside
      · subst hstate
        rcases scanCall_outside_cases hscan with
          ⟨hseparator, hcomment, after, hafter, hrest⟩
        have hhash : c ≠ '#' := by
          rintro rfl
          simp [FunctionNames.startsComment] at hcomment
        have hnext : Orderly (after + more) (read ++ [c]) := by
          apply hread.concat hseparator hhash
          · intro hlast hc
            exact (hfollows.dash hlast).2 (congrArg some hc)
          · intro hlast hc
            exact (hfollows.slash hlast).2 (congrArg some hc)
          · exact nextDepth?_add more hafter
        have hboth := ih hrest hlater hnext (follows_concat read hcomment)
        simpa [outsideText] using hboth
      · have hrest : FunctionNames.scanCall (state.step escapes c) depth cs =
            none := by
          rw [← hstep]
          cases state with
          | outside => exact absurd rfl hstate
          | inside quote => exact hscan
          | escaped quote => exact hscan
        have hboth := ih hrest hlater hread (hfollows.skip hstate _)
        simpa [outsideText, hstate] using hboth

theorem leads_call {depth : Nat} {call : String}
    (hcheck : FunctionNames.callFault? call = none)
    (hback : backslashInBackticks .outside call.toList = false) :
    Leads (Settled depth) call (Orderly depth) := by
  constructor
  · exact (neutral_of_callFault? hcheck hback).closes
  · intro read hread
    have horderly : Orderly (0 + depth) read := by
      simpa using hread.orderly
    exact orderly_of_scanCall hcheck hback horderly (hread.follows _ _)

end Statement
end SqlAssembler
