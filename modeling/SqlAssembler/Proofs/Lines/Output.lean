import Mathlib
import SqlAssembler.CommandLine.Render
import SqlAssembler.Proofs.Lines.QueryFiles

/-!
# Lines of the output

A statement is printed before its values, each with a line break behind it. The
values always take one line. So the output has the two lines that it is meant to
have, and its first line is the statement, exactly if no name and no call that
the statement takes over from the query file holds a line break.
-/

namespace SqlAssembler
namespace CommandLine

open Text

variable {files : Files} {arguments : List String} {request : RenderRequest}

/-!
## Printed statements
-/

theorem isLines_output_iff (statement : Statement) :
    IsLines (output statement) [statement.sql, writeParams statement.params] ↔
      ¬ Breaks statement.sql := by
  have hparams := not_breaks_writeParams statement.params
  constructor
  · intro h hbreaks
    exact h.unbroken ⟨statement.sql, List.mem_cons_self, hbreaks⟩
  · intro hsql
    refine ⟨by simp [hsql, hparams], ?_⟩
    simp [output, String.join_cons, String.append_assoc]

theorem firstLine_output_iff (statement : Statement) :
    firstLine (output statement) = statement.sql ↔ ¬ Breaks statement.sql := by
  rw [output, String.append_assoc]
  exact firstLine_eq_iff statement.sql (writeParams statement.params ++ "\n")

/-!
## Requests
-/

theorem RenderRequest.statement_eq_ok_iff {statement : Statement} :
    request.statement files = .ok statement ↔ ∃ settings file,
      chooseSettings files request.config = .ok settings ∧
      loadQuery files request.query = .ok file ∧
      file.statement settings request.aggregate = .ok statement := by
  rw [RenderRequest.statement, bind_eq_ok_iff]
  constructor
  · rintro ⟨settings, hsettings, hrest⟩
    rcases bind_eq_ok_iff.mp hrest with ⟨file, hfile, hstatement⟩
    exact ⟨settings, file, hsettings, hfile, mapError_eq_ok_iff.mp hstatement⟩
  · rintro ⟨settings, file, hsettings, hfile, hstatement⟩
    exact ⟨settings, hsettings, bind_eq_ok_iff.mpr
      ⟨file, hfile, mapError_eq_ok_iff.mpr hstatement⟩⟩

theorem run_render_eq_ok_iff {text : String}
    (hcommand : Command.read arguments = .ok (.render request)) :
    run files arguments = .ok text ↔
      ∃ statement, request.statement files = .ok statement ∧
        text = output statement := by
  have hrun : run files arguments =
      (request.statement files).map output := by
    rw [run, hcommand]
    rfl
  rw [hrun, map_eq_ok_iff]

/-- What a successful request prints: the statement of the query file, in two
lines if and only if the file brings no line break into it. Just then is the
first line the statement. -/
theorem run_prints_two_lines_iff {text : String}
    (hcommand : Command.read arguments = .ok (.render request))
    (h : run files arguments = .ok text) :
    ∃ settings file statement,
      chooseSettings files request.config = .ok settings ∧
      loadQuery files request.query = .ok file ∧
      file.statement settings request.aggregate = .ok statement ∧
      text = output statement ∧
      (IsLines text [statement.sql, writeParams statement.params] ↔
        ¬ AnyBreaks (file.written settings request.aggregate)) ∧
      (firstLine text = statement.sql ↔
        ¬ AnyBreaks (file.written settings request.aggregate)) := by
  rcases (run_render_eq_ok_iff hcommand).mp h with
    ⟨statement, hrequest, rfl⟩
  rcases RenderRequest.statement_eq_ok_iff.mp hrequest with
    ⟨settings, file, hsettings, hfile, hstatement⟩
  refine ⟨settings, file, statement, hsettings, hfile, hstatement, rfl, ?_, ?_⟩
  · rw [isLines_output_iff, QueryFile.breaks_statement hstatement]
  · rw [firstLine_output_iff, QueryFile.breaks_statement hstatement]

def onlyQuery (content : String) : Files := fun path =>
  if path = "q.toml" then .text content else .missing

theorem eq_ok_of_toOption {ε α : Type} {result : Except ε α} {value : α}
    (h : result.toOption = some value) : result = .ok value := by
  cases result with
  | error error => cases h
  | ok other =>
      cases h
      rfl

/-- A bound value may hold a line break. -/
theorem run_prints_two_lines_of_bound_break :
    Command.read ["render", "q.toml"] =
        .ok (.render ⟨none, none, "q.toml"⟩) ∧
      ∃ statement : Statement,
        run (onlyQuery ("table = \"t\"\n[[where]]\ncolumn = \"a\"\n" ++
            "op = \"eq\"\nvalue = \"x\\ny\"\n"))
          ["render", "q.toml"] = .ok (output statement) ∧
        output statement = "SELECT * FROM t WHERE t.a = ?\n[\"x\\ny\"]\n" ∧
        IsLines (output statement)
          [statement.sql, writeParams statement.params] ∧
        firstLine (output statement) = statement.sql := by
  generalize hfiles : onlyQuery _ = files
  have hcommand : Command.read ["render", "q.toml"] =
      .ok (.render ⟨none, none, "q.toml"⟩) := by
    cbv
  have hrun : (run files ["render", "q.toml"]).toOption =
      some "SELECT * FROM t WHERE t.a = ?\n[\"x\\ny\"]\n" := by
    rw [← hfiles]
    decide +kernel
  have hwritten :
      ((chooseSettings files none).toOption.bind fun settings =>
        (loadQuery files "q.toml").toOption.map fun file =>
          decide (AnyBreaks (file.written settings none))) = some false := by
    rw [← hfiles]
    decide +kernel
  have hprinted := eq_ok_of_toOption hrun
  rcases run_prints_two_lines_iff hcommand hprinted with
    ⟨settings, file, statement, hsettings, hfile, _, htext, hlines, hfirst⟩
  have hunbroken : ¬ AnyBreaks (file.written settings none) := by
    rw [hsettings, hfile] at hwritten
    simpa [Except.toOption] using hwritten
  rw [htext] at hprinted hlines hfirst
  exact ⟨hcommand, statement, hprinted, htext.symm, hlines.mpr hunbroken,
    hfirst.mpr hunbroken⟩

/-- A quoted name may hold a line break as well, and it is written as it is. -/
theorem first_line_differs_of_broken_name :
    ∃ statement,
      RenderRequest.statement ⟨none, none, "q.toml"⟩
        (onlyQuery "table = \"`a\\nb`\"\n") = .ok statement ∧
      run (onlyQuery "table = \"`a\\nb`\"\n") ["render", "q.toml"] =
        .ok (output statement) ∧
      ¬ IsLines (output statement)
        [statement.sql, writeParams statement.params] ∧
      firstLine (output statement) ≠ statement.sql := by
  generalize hfiles : onlyQuery _ = files
  have hcommand : Command.read ["render", "q.toml"] =
      .ok (.render ⟨none, none, "q.toml"⟩) := by
    cbv
  have hsql : ((RenderRequest.statement ⟨none, none, "q.toml"⟩
      files).map Statement.sql).toOption = some "SELECT * FROM `a\nb`" := by
    rw [← hfiles]
    decide +kernel
  rcases map_eq_ok_iff.mp (eq_ok_of_toOption hsql) with
    ⟨statement, hstatement, hbroken⟩
  have hbreaks : Breaks statement.sql := by
    rw [← hbroken]
    decide
  refine ⟨statement, hstatement,
    (run_render_eq_ok_iff hcommand).mpr ⟨statement, hstatement, rfl⟩, ?_, ?_⟩
  · exact fun h => (isLines_output_iff statement).mp h hbreaks
  · exact fun h => (firstLine_output_iff statement).mp h hbreaks

end CommandLine
end SqlAssembler
