import Mathlib
import SqlAssembler.Proofs.Markers.Calls
import SqlAssembler.Proofs.Markers.Scripts

/-!
# Counting markers

A statement should have as many markers as values. It has if every call that it
embeds is neutral, whatever else was recorded. The converse holds for a set of
calls: if some embedded call is not neutral, there is a script with that call
whose statement has too many markers or too few.

The check of a call does not make it neutral, because it lets a backslash escape
a backtick and the marker reader does not.
-/

namespace SqlAssembler

open Text Statement

/-!
## Calls that leave a quote open
-/

def Text.Quoting.Proper : Quoting → Prop
  | .outside => True
  | .inside quote | .escaped quote => isQuote quote = true

theorem Text.Quoting.Proper.step {state : Quoting} (h : state.Proper)
    (escapes : Char → Bool) (c : Char) : (state.step escapes c).Proper := by
  cases state with
  | outside =>
      rw [Quoting.step]
      split
      · assumption
      · trivial
  | inside quote =>
      rw [Quoting.step]
      split
      · exact h
      · split
        · trivial
        · exact h
  | escaped quote => exact h

theorem Text.Quoting.Proper.run {state : Quoting} (h : state.Proper)
    (escapes : Char → Bool) (cs : List Char) :
    (state.run escapes cs).Proper := by
  induction cs generalizing state with
  | nil => exact h
  | cons c cs ih => exact ih (h.step escapes c)

/-- Once a quote is left open, a text without quotes and backslashes is read
over, its markers included. -/
theorem Statement.countMarkers_unclosed {state : Quoting} {cs : List Char}
    (hproper : state.Proper) (hstate : state ≠ .outside)
    (hall : cs.all (fun c => !isQuote c && c ≠ '\\') = true) :
    countMarkers state cs = 0 := by
  have hcs : ∀ c ∈ cs, isQuote c = false ∧ c ≠ '\\' := by
    intro c hc
    simpa using List.all_eq_true.mp hall c hc
  have hinside : ∀ {quote} {cs : List Char}, isQuote quote = true →
      (∀ c ∈ cs, isQuote c = false ∧ c ≠ '\\') →
      countMarkers (.inside quote) cs = 0 := by
    intro quote cs hquote hcs
    refine (read_inside fun c hc => ⟨?_, (hcs c hc).2⟩).2
    rintro rfl
    rw [(hcs c hc).1] at hquote
    cases hquote
  cases state with
  | outside => exact absurd rfl hstate
  | inside quote => exact hinside hproper hcs
  | escaped quote =>
      cases cs with
      | nil => rfl
      | cons c cs =>
          have hrest : countMarkers (.inside quote) cs = 0 :=
            hinside hproper fun d hd => hcs d (List.mem_cons_of_mem c hd)
          simpa [countMarkers, isMarker, Quoting.step] using hrest

/-!
## Deletions that compare one column with several values
-/

namespace Script

def comparing (settings : Settings) (values : List String) : Script :=
  .delete settings "t" (values.map fun value =>
    .filter (.filterBy "t.a" (.comparison .eq) value))

theorem parse_comparedColumn (settings : Settings) :
    Column.parse settings (some ⟨[⟨"t", false⟩]⟩) "t.a" =
      .ok (.plain ⟨[⟨"t", false⟩, ⟨"a", false⟩]⟩ none) := by
  rcases settings with ⟨functions, qualifyColumns⟩
  cases qualifyColumns <;> cbv

theorem condition_call {functions : FunctionNames} {call : String}
    (h : functions.embeds call = .ok true) :
    Filter.condition functions "t.a" (.comparison .eq) call =
      .ok [.text ("t.a = " ++ call)] := by
  have hnonempty : call.isEmpty = false := by
    cases hempty : call.isEmpty with
    | false => rfl
    | true =>
        rw [String.isEmpty_iff.mp hempty] at h
        cases h
  simp only [Filter.condition, h, Filter.comparison, hnonempty]
  rfl

theorem condition_bound (functions : FunctionNames) :
    Filter.condition functions "t.a" (.comparison .eq) "x" =
      .ok [.text "t.a = ", .slot (.text "x")] := by
  have h : functions.embeds "x" = .ok false := by cbv
  simp only [Filter.condition, h]
  cbv

def deleting (conditions : Conditions) : Recording Deletion :=
  ⟨⟨some ⟨[⟨"t", false⟩]⟩, conditions, false⟩, none⟩

theorem start_deleting (settings : Settings) :
    DeleteBuilder.start settings "t" = ⟨settings, deleting .empty⟩ := by
  have h : Ident.parse "t" = .ok ⟨[⟨"t", false⟩]⟩ := by cbv
  simp only [DeleteBuilder.start, Recording.attempt, Deletion.setTable, h]
  rfl

theorem attempt_comparing {settings : Settings} {conditions : Conditions}
    {value : String} {fragment : Fragment}
    (h : Filter.condition settings.functions "t.a" (.comparison .eq) value =
      .ok fragment) :
    (deleting conditions).attempt
        ((DeleteCall.filter (.filterBy "t.a" (.comparison .eq) value)).edit
          settings) =
      deleting (conditions.add .and fragment) := by
  apply Recording.attempt_of_ok
  simp only [DeleteCall.edit, Deletion.addFilter, FilterCall.apply,
    FilterCall.addFilter, deleting, parse_comparedColumn]
  change (Except.map _ (Filter.condition _ "t.a" _ _ >>= _)) = _
  rw [h]
  rfl

theorem fragment_call {settings : Settings} {call : String}
    (h : settings.functions.embeds call = .ok true) :
    (comparing settings [call]).fragment =
      .ok [.text "DELETE FROM t", .text " WHERE ",
        .text ("t.a = " ++ call)] := by
  rw [comparing, fragment, DeleteBuilder.recordAll_eq, start_deleting]
  simp only [List.map, Recording.attemptAll, List.foldl,
    attempt_comparing (condition_call h)]
  rfl

theorem fragment_call_bound {settings : Settings} {call : String}
    (h : settings.functions.embeds call = .ok true) :
    (comparing settings [call, "x"]).fragment =
      .ok [.text "DELETE FROM t", .text " WHERE ",
        .text ("t.a = " ++ call), .text " AND ", .text "t.a = ",
        .slot (.text "x")] := by
  have hbound := condition_bound settings.functions
  rw [comparing, fragment, DeleteBuilder.recordAll_eq, start_deleting]
  simp only [List.map, Recording.attemptAll, List.foldl,
    attempt_comparing (condition_call h), attempt_comparing hbound]
  rfl

/-!
## Why embedded calls have to be neutral
-/

theorem countMarkers_comparing (call : String) (rest : Fragment) :
    countMarkers .outside (Fragment.sql (.text "DELETE FROM t" ::
        .text " WHERE " :: .text ("t.a = " ++ call) :: rest)).toList =
      countMarkers .outside call.toList +
        countMarkers (Quoting.run escapes .outside call.toList)
          rest.sql.toList := by
  have hdelete : Neutral "DELETE FROM t" := by decide
  have hwhere : Neutral " WHERE " := by decide
  have hcolumn : Neutral "t.a = " := by decide
  simp only [Fragment.sql_cons, Piece.sql, hdelete.countMarkers_append,
    hwhere.countMarkers_append, String.append_assoc,
    hcolumn.countMarkers_append]
  rw [String.toList_append, countMarkers_append]

theorem neutral_of_counts {settings : Settings} {call : String}
    (hembeds : settings.functions.embeds call = .ok true)
    (hcounts : ∀ values, (∀ value ∈ values, value = call ∨ value = "x") →
      ∀ fragment, (comparing settings values).fragment = .ok fragment →
        countMarkers .outside fragment.sql.toList = fragment.params.length) :
    Neutral call := by
  have hunmarked : countMarkers .outside call.toList = 0 := by
    have hcount := hcounts [call] (by simp) _ (fragment_call hembeds)
    rw [countMarkers_comparing] at hcount
    exact Nat.eq_zero_of_add_eq_zero_right hcount
  refine ⟨?_, hunmarked⟩
  have hcount := hcounts [call, "x"] (by simp) _ (fragment_call_bound hembeds)
  rw [countMarkers_comparing, hunmarked] at hcount
  by_cases hclosed : Quoting.run escapes .outside call.toList = .outside
  · exact hclosed
  · have houtside : Quoting.Proper .outside := trivial
    have hproper := houtside.run escapes call.toList
    rw [countMarkers_unclosed hproper hclosed (by decide)] at hcount
    cases hcount

theorem mem_embedded_comparing {settings : Settings} {values : List String}
    {text : String} (h : text ∈ (comparing settings values).embedded) :
    text ∈ values ∧ settings.functions.embeds text = .ok true := by
  refine ⟨?_, embeds_of_mem_embedded h⟩
  rcases List.mem_flatMap.mp h with ⟨call, hcall, htext⟩
  rcases List.mem_map.mp hcall with ⟨value, hvalue, rfl⟩
  rcases FunctionNames.mem_embedded_iff.mp htext with ⟨rfl, _⟩
  exact hvalue

theorem markerCount_of_neutral {script : Script} {statement : Statement}
    (hcalls : ∀ call ∈ script.embedded, Neutral call)
    (h : script.statement = .ok statement) :
    statement.markerCount = statement.params.length := by
  rw [statement_eq] at h
  rcases map_eq_ok_iff.mp h with ⟨fragment, hfragment, rfl⟩
  exact Fragment.markerCount_of_neutral (neutral_fragment hcalls hfragment)

/-- Whichever calls the callers trust, the markers of all statements that embed
only trusted calls are as many as their values if and only if all trusted calls
are neutral. Those without a backslash between backticks are. -/
theorem markerCount_eq_iff_neutral (settings : Settings)
    (trusted : String → Prop) :
    ((∀ script : Script, script.settings = settings →
        (∀ call ∈ script.embedded, trusted call) →
        ∀ statement, script.statement = .ok statement →
          statement.markerCount = statement.params.length) ↔
      ∀ call, settings.functions.embeds call = .ok true → trusted call →
        Neutral call) ∧
    ∀ call, settings.functions.embeds call = .ok true →
      backslashInBackticks .outside call.toList = false → Neutral call := by
  constructor
  · constructor
    · intro hcounts call hembeds htrusted
      apply neutral_of_counts hembeds
      intro values hvalues fragment hfragment
      refine hcounts (comparing settings values) rfl ?_ fragment.statement ?_
      · intro text htext
        rcases mem_embedded_comparing htext with ⟨hmem, htextEmbeds⟩
        rcases hvalues text hmem with rfl | rfl
        · exact htrusted
        · cases htextEmbeds
      · rw [statement_eq, hfragment]
        rfl
    · intro hneutral script hsettings htrusted statement hstatement
      refine markerCount_of_neutral (fun call hcall => ?_) hstatement
      refine hneutral call ?_ (htrusted call hcall)
      rw [← hsettings]
      exact embeds_of_mem_embedded hcall
  · intro call hembeds hback
    exact neutral_of_callFault? (FunctionNames.callFault?_of_embeds hembeds)
      hback

/-- The checker reads on to the last backtick, and the marker reader stops
quoting at the second one, so the question mark counts as a marker. -/
theorem markerCount_ne_of_escaped_backtick :
    ∃ statement,
      Script.statement (.delete .standard "t"
          [.filter (.filterBy "t.a" (.comparison .eq) "NOW(`\\`?`)")]) =
        .ok statement ∧
      statement.sql = "DELETE FROM t WHERE t.a = NOW(`\\`?`)" ∧
      statement.markerCount = 1 ∧ statement.params.length = 0 := by
  refine ⟨⟨"DELETE FROM t WHERE t.a = NOW(`\\`?`)", []⟩, ?_, rfl, ?_, rfl⟩
  · cbv
  · cbv

end Script
end SqlAssembler
