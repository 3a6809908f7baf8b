import SqlAssembler.Proofs.Literals.Numerals
import SqlAssembler.Proofs.Markers.Count

/-!
# Literals that end where they seem to end

A text is shown in logs between single quotes, its own quotes doubled. The
marker reader also takes a backslash between quotes as an escape, and
backslashes are not doubled. So a backslash in front of a quote, or at the end
of the text, hides a quote from the reader: it comes out of the literal too
early or too late. Exactly the texts without such a backslash can be put in
place of a marker without changing how the rest of the statement is read.
-/

namespace SqlAssembler

open Text

/-!
## Texts between single quotes
-/

namespace Statement

/-- Whether no backslash hides a quote: each takes the meaning from a character
that is there and is no quote. -/
def isSealed : List Char → Bool
  | [] => true
  | [c] => c ≠ '\\'
  | c :: d :: cs =>
      if c = '\\' then d ≠ '\'' && isSealed cs else isSealed (d :: cs)

def Strayed (state : Quoting) : Prop :=
  state ≠ .inside '\'' ∧ state ≠ .escaped '\''

variable {state : Quoting}

theorem Strayed.step (h : Strayed state) {c : Char} (hc : c ≠ '\'') :
    Strayed (state.step escapes c) := by
  cases state with
  | outside =>
      rw [Quoting.step]
      split
      · exact ⟨fun hin => hc (Quoting.inside.inj hin), Quoting.noConfusion⟩
      · exact h
  | inside quote =>
      have hquote : quote ≠ '\'' := fun hsame => h.1 (congrArg _ hsame)
      rw [Quoting.step]
      split
      · exact ⟨Quoting.noConfusion,
          fun hescaped => hquote (Quoting.escaped.inj hescaped)⟩
      · split
        · exact ⟨Quoting.noConfusion, Quoting.noConfusion⟩
        · exact h
  | escaped quote =>
      have hquote : quote ≠ '\'' := fun hsame => h.2 (congrArg _ hsame)
      exact ⟨fun hin => hquote (Quoting.inside.inj hin), Quoting.noConfusion⟩

theorem Strayed.step_pair (h : Strayed state) :
    Strayed ((state.step escapes '\'').step escapes '\'') := by
  cases state with
  | outside => exact h
  | inside quote =>
      have hquote : '\'' ≠ quote := fun hsame => h.1 (congrArg _ hsame.symm)
      simpa [Quoting.step, hquote] using h
  | escaped quote =>
      have hquote : '\'' ≠ quote := fun hsame => h.2 (congrArg _ hsame.symm)
      simpa [Quoting.step, hquote, Strayed] using hquote.symm

theorem Strayed.run_doubled (h : Strayed state) (cs : List Char) :
    Strayed (Quoting.run escapes state (doubled '\'' cs)) := by
  induction cs generalizing state with
  | nil => exact h
  | cons c cs ih =>
      rw [doubled]
      split
      · rename_i hc
        rw [hc]
        exact ih h.step_pair
      · rename_i hc
        exact ih (h.step hc)

theorem step_backslash :
    Quoting.step escapes (.inside '\'') '\\' = .escaped '\'' := by
  decide

/-- The reader is inside at the end of exactly the sealed texts. -/
theorem run_doubled_eq_inside_iff (cs : List Char) :
    Quoting.run escapes (.inside '\'') (doubled '\'' cs) = .inside '\'' ↔
      isSealed cs = true := by
  fun_induction isSealed cs with
  | case1 => simp [doubled]
  | case2 c =>
      by_cases hquote : c = '\''
      · rw [hquote]
        decide
      · by_cases hback : c = '\\'
        · rw [hback]
          decide
        · simp [doubled, Quoting.step, hquote, hback]
  | case3 d cs ih =>
      rw [doubled, if_neg (by decide), Quoting.run_cons, step_backslash]
      by_cases hquote : d = '\''
      · -- the escape hides the first quote of the pair, the second one closes
        have hstrayed : Strayed .outside :=
          ⟨Quoting.noConfusion, Quoting.noConfusion⟩
        have hout := (hstrayed.run_doubled cs).1
        rw [doubled, if_pos hquote, hquote]
        simpa [Quoting.step] using hout
      · rw [doubled, if_neg hquote]
        simpa [Quoting.step, hquote] using ih
  | case4 c d cs hback ih =>
      rw [doubled]
      by_cases hquote : c = '\''
      · rw [if_pos hquote, hquote]
        exact ih
      · rw [if_neg hquote]
        simpa [Quoting.step, hquote, hback] using ih

theorem countMarkers_doubled {cs : List Char} (h : isSealed cs = true) :
    countMarkers (.inside '\'') (doubled '\'' cs) = 0 := by
  fun_induction isSealed cs with
  | case1 => rfl
  | case2 c =>
      by_cases hquote : c = '\''
      · rw [hquote]
        decide
      · simp [doubled, hquote, countMarkers, isMarker]
  | case3 d cs ih =>
      rw [Bool.and_eq_true, decide_eq_true_eq] at h
      have hrest := ih h.2
      rw [doubled, if_neg (by decide), doubled, if_neg h.1, countMarkers,
        step_backslash]
      simpa [countMarkers, isMarker, Quoting.step] using hrest
  | case4 c d cs hback ih =>
      have hrest := ih h
      rw [doubled]
      by_cases hquote : c = '\''
      · rw [if_pos hquote, hquote]
        simpa [countMarkers, isMarker, Quoting.step, isQuote] using hrest
      · rw [if_neg hquote]
        simpa [countMarkers, isMarker, Quoting.step, hquote, hback] using hrest

theorem step_quote_eq_outside_iff :
    state.step escapes '\'' = .outside ↔ state = .inside '\'' := by
  cases state with
  | outside => decide
  | inside quote =>
      have hback : ¬('\'' = '\\' ∧ escapes quote = true) :=
        fun h => absurd h.1 (by decide)
      rw [Quoting.step, if_neg hback]
      by_cases hquote : quote = '\''
      · simp [hquote]
      · simp [hquote, Ne.symm hquote]
  | escaped quote => simp [Quoting.step]

theorem isSealed_of_closed {text : String}
    (h : Quoting.run escapes .outside (enclosed '\'' text).toList = .outside) :
    isSealed text.toList = true := by
  rw [enclosed, String.toList_ofList, Quoting.run_cons, Quoting.run_append] at h
  exact (run_doubled_eq_inside_iff _).mp (step_quote_eq_outside_iff.mp h)

theorem neutral_enclosed_iff (text : String) :
    Neutral (enclosed '\'' text) ↔ isSealed text.toList = true := by
  constructor
  · intro h
    exact isSealed_of_closed h.closes
  · intro h
    exact neutral_between (by decide) (by decide)
      ((run_doubled_eq_inside_iff _).mpr h) (countMarkers_doubled h)

end Statement

/-!
## Values
-/

namespace Param

/-- Whether the literal of a value is a whole one to the marker reader. -/
def isSealed : Param → Bool
  | text value => Statement.isSealed value.toList
  | _ => true

theorem neutral_literal_iff (value : Param) :
    Statement.Neutral value.literal ↔ value.isSealed = true := by
  cases value with
  | null => exact iff_of_true (by decide) rfl
  | bool value => exact iff_of_true (by cases value <;> decide) rfl
  | int value => exact iff_of_true (Statement.neutral_toString_int value) rfl
  | float value => exact iff_of_true (Decimal.neutral_write value) rfl
  | text value => exact Statement.neutral_enclosed_iff value

theorem neutral_literal_of_closed {value : Param}
    (h : Quoting.run Statement.escapes .outside value.literal.toList =
      .outside) : Statement.Neutral value.literal := by
  rw [neutral_literal_iff]
  cases value with
  | text value => exact Statement.isSealed_of_closed h
  | _ => rfl

end Param

/-!
## Whole statements
-/

namespace Statement

variable {values : List Param}

theorem eq_of_isMarker {c : Char} (h : isMarker state c = true) :
    state = .outside ∧ c = '?' := by
  simpa [isMarker] using h

theorem run_marker (cs : List Char) :
    Quoting.run escapes .outside ('?' :: cs) =
      Quoting.run escapes .outside cs :=
  rfl

theorem countMarkers_marker (cs : List Char) :
    countMarkers .outside ('?' :: cs) = countMarkers .outside cs + 1 :=
  Nat.add_comm 1 _

theorem fillMarkers_marker (value : Param) (rest : List Param)
    (cs : List Char) :
    fillMarkers .outside ('?' :: cs) (value :: rest) =
      value.literal.toList ++ fillMarkers .outside cs rest :=
  rfl

theorem read_fillMarkers {cs : List Char}
    (hvalues : ∀ value ∈ values, Neutral value.literal)
    (hcount : countMarkers state cs = values.length) :
    Quoting.run escapes state (fillMarkers state cs values) =
        Quoting.run escapes state cs ∧
      countMarkers state (fillMarkers state cs values) = 0 := by
  induction cs generalizing state values with
  | nil => exact ⟨rfl, rfl⟩
  | cons c cs ih =>
      cases hmarker : isMarker state c with
      | false =>
          rw [countMarkers, hmarker] at hcount
          have hrest := ih hvalues (by simpa using hcount)
          simpa [fillMarkers, countMarkers, hmarker] using hrest
      | true =>
          rcases eq_of_isMarker hmarker with ⟨rfl, rfl⟩
          rw [countMarkers_marker] at hcount
          cases values with
          | nil => exact absurd hcount (Nat.succ_ne_zero _)
          | cons value rest =>
              have hvalue := hvalues value List.mem_cons_self
              rw [List.length_cons, Nat.add_right_cancel_iff] at hcount
              have hrest := ih (fun other hother =>
                hvalues other (List.mem_cons_of_mem value hother)) hcount
              rw [fillMarkers_marker, run_marker, Quoting.run_append,
                Statement.countMarkers_append, hvalue.closes, hvalue.unmarked,
                hrest.1, hrest.2]
              exact ⟨rfl, rfl⟩

theorem neutral_debugSql {statement : Statement}
    (hvalues : ∀ value ∈ statement.params, Neutral value.literal)
    (hclosed : Quoting.run escapes .outside statement.sql.toList = .outside)
    (hcount : statement.markerCount = statement.params.length) :
    Neutral statement.debugSql := by
  have hread := read_fillMarkers hvalues hcount
  rw [debugSql]
  constructor
  · rw [String.toList_ofList, hread.1, hclosed]
  · rw [String.toList_ofList, hread.2]

/-!
## Statements that tell an open literal
-/

def quotedMarker (quote : Char) : String :=
  String.ofList [' ', quote, '?', quote]

theorem eq_of_isQuote {quote : Char} (h : isQuote quote = true) :
    quote = '\'' ∨ quote = '"' ∨ quote = backtick := by
  simpa [isQuote, or_assoc] using h

theorem neutral_quotedMarker {quote : Char} (h : isQuote quote = true) :
    Neutral (quotedMarker quote) := by
  rcases eq_of_isQuote h with rfl | rfl | rfl <;> decide

theorem countMarkers_quotedMarker {quote : Char} (h : isQuote quote = true) :
    countMarkers (.inside quote) (quotedMarker quote).toList = 1 ∧
      countMarkers (.escaped quote) (quotedMarker quote).toList = 1 := by
  rcases eq_of_isQuote h with rfl | rfl | rfl <;> decide

theorem exists_telling (hproper : state.Proper) (hstate : state ≠ .outside) :
    ∃ text, Neutral text ∧ countMarkers state text.toList ≠ 0 := by
  cases state with
  | outside => exact absurd rfl hstate
  | inside quote =>
      refine ⟨_, neutral_quotedMarker hproper, ?_⟩
      rw [(countMarkers_quotedMarker hproper).1]
      decide
  | escaped quote =>
      refine ⟨_, neutral_quotedMarker hproper, ?_⟩
      rw [(countMarkers_quotedMarker hproper).2]
      decide

theorem read_markers (count : Nat) :
    Quoting.run escapes .outside (List.replicate count '?') = .outside ∧
      countMarkers .outside (List.replicate count '?') = count := by
  induction count with
  | zero => exact ⟨rfl, rfl⟩
  | succ count ih =>
      rw [List.replicate_succ, run_marker, countMarkers_marker, ih.1, ih.2]
      exact ⟨rfl, rfl⟩

structure LeavesMarker (values : List Param) (cs : List Char) : Prop where
  closes : Quoting.run escapes .outside cs = .outside
  counted : countMarkers .outside cs = values.length
  left : countMarkers .outside (fillMarkers .outside cs values) ≠ 0

/-- Right behind a literal that is left open, a quoted question mark is taken
for a marker. -/
theorem exists_leavesMarker_of_open {value : Param} (rest : List Param)
    (hopen : Quoting.run escapes .outside value.literal.toList ≠ .outside) :
    ∃ cs, LeavesMarker (value :: rest) cs := by
  have houtside : Quoting.Proper .outside := trivial
  have hproper := houtside.run escapes value.literal.toList
  rcases exists_telling hproper hopen with ⟨text, htext, hmarker⟩
  rcases read_markers rest.length with ⟨hclosed, hcount⟩
  refine ⟨'?' :: (text.toList ++ List.replicate rest.length '?'),
    ?_, ?_, ?_⟩
  · rw [run_marker, Quoting.run_append, htext.closes, hclosed]
  · rw [countMarkers_marker, Statement.countMarkers_append, htext.closes,
      htext.unmarked, hcount, Nat.zero_add, List.length_cons]
  · rw [fillMarkers_marker, Fragment.fillMarkers_append htext.unmarked,
      Statement.countMarkers_append, Statement.countMarkers_append]
    omega

theorem LeavesMarker.cons {value : Param} {cs : List Char}
    (h : LeavesMarker values cs)
    (hclosed : Quoting.run escapes .outside value.literal.toList = .outside) :
    LeavesMarker (value :: values) ('?' :: cs) where
  closes := h.closes
  counted := by rw [countMarkers_marker, h.counted, List.length_cons]
  left := by
    have hleft := h.left
    rw [fillMarkers_marker, Statement.countMarkers_append, hclosed]
    omega

theorem exists_leavesMarker {value : Param} (hvalue : value ∈ values)
    (hopen : Quoting.run escapes .outside value.literal.toList ≠ .outside) :
    ∃ cs, LeavesMarker values cs := by
  induction values with
  | nil => cases hvalue
  | cons first rest ih =>
      by_cases hfirst :
          Quoting.run escapes .outside first.literal.toList = .outside
      · rcases List.mem_cons.mp hvalue with rfl | hrest
        · exact absurd hfirst hopen
        · rcases ih hrest with ⟨cs, hcs⟩
          exact ⟨'?' :: cs, hcs.cons hfirst⟩
      · exact exists_leavesMarker_of_open rest hfirst

/-- With some values, all statements show them between quotes that close and
leave no marker if and only if the literal of each value is a whole one, which
it is exactly if the value is no text or a sealed one. -/
theorem neutral_debugSql_iff_sealed (values : List Param) :
    ((∀ sql : String, Quoting.run escapes .outside sql.toList = .outside →
        (Statement.mk sql values).markerCount = values.length →
        Neutral (Statement.mk sql values).debugSql) ↔
      ∀ value ∈ values, value.isSealed = true) ∧
    ∀ value : Param, Neutral value.literal ↔ value.isSealed = true := by
  refine ⟨⟨?_, ?_⟩, Param.neutral_literal_iff⟩
  · intro hneutral value hvalue
    rw [← Param.neutral_literal_iff]
    by_contra hopen
    have hrun : Quoting.run escapes .outside value.literal.toList ≠
        .outside := by
      intro hrun
      exact hopen (Param.neutral_literal_of_closed hrun)
    rcases exists_leavesMarker hvalue hrun with ⟨cs, hcs⟩
    have hdebug := hneutral (String.ofList cs)
      (by rw [String.toList_ofList, hcs.closes])
      (by rw [markerCount, String.toList_ofList, hcs.counted])
    apply hcs.left
    have hunmarked := hdebug.unmarked
    rwa [debugSql, String.toList_ofList, String.toList_ofList] at hunmarked
  · intro hsealed sql hclosed hcount
    exact neutral_debugSql (fun value hvalue =>
      (Param.neutral_literal_iff value).mpr (hsealed value hvalue))
        hclosed hcount

/-- Backslashes in front of other characters, and pairs of them in front of a
quote or at the end, are harmless. -/
theorem neutral_debugSql_of_paired_backslashes :
    Quoting.run escapes .outside "a = ? AND b = '?'".toList = .outside ∧
    (Statement.mk "a = ? AND b = '?'" [.text "C:\\x \\\\'?\\\\"]).markerCount =
      1 ∧
    Param.isSealed (.text "C:\\x \\\\'?\\\\") = true ∧
    Neutral (Statement.mk "a = ? AND b = '?'"
      [.text "C:\\x \\\\'?\\\\"]).debugSql := by
  have hclosed : Quoting.run escapes .outside "a = ? AND b = '?'".toList =
      .outside := by decide
  have hcount : (Statement.mk "a = ? AND b = '?'"
      [.text "C:\\x \\\\'?\\\\"]).markerCount = 1 := by decide
  have hsealed : Param.isSealed (.text "C:\\x \\\\'?\\\\") = true := by decide
  refine ⟨hclosed, hcount, hsealed, ?_⟩
  refine (neutral_debugSql_iff_sealed [.text "C:\\x \\\\'?\\\\"]).1.mpr ?_ _
    hclosed hcount
  intro value hvalue
  rw [List.mem_singleton.mp hvalue]
  exact hsealed

/-- A backslash at the end of a text escapes the quote that closes its literal,
so the statement ends between quotes; one in front of a quote makes a marker of
what follows. -/
theorem debugSql_left_open_by_backslash :
    Quoting.run escapes .outside "SELECT ?".toList = .outside ∧
    (Statement.mk "SELECT ?" [.text "\\"]).markerCount =
      [Param.text "\\"].length ∧
    (Statement.mk "SELECT ?" [.text "\\"]).debugSql = "SELECT '\\'" ∧
    Quoting.run escapes .outside "SELECT '\\'".toList = .inside '\'' ∧
    ¬Neutral (Statement.mk "SELECT ?" [.text "\\"]).debugSql ∧
    (Statement.mk "SELECT ?" [.text "\\'?"]).debugSql = "SELECT '\\''?'" ∧
    countMarkers .outside "SELECT '\\''?'".toList = 1 := by
  decide

end Statement
end SqlAssembler
