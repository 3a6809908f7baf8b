import SqlAssembler.Proofs.Containment.Outside
import SqlAssembler.Proofs.Grammar.Columns

/-!
# Columns between words

Identifiers and labels are words. A column is settled where it stands after a
settled text, but need not be a word: a wildcard would turn a slash before it
into a comment. A call is no more than orderly.
-/

namespace SqlAssembler

open Text Statement

variable {depth : Nat}

namespace Ident

theorem Part.WellFormed.leads {part : Part} (h : part.WellFormed) :
    Leads (Orderly depth) part.sql (Settled depth) := by
  cases h with
  | bare hstart hrest =>
      rename_i c cs
      have hbare : ∀ d, isNameStart d = true → isBareChar d = true := by
        intro d hd
        simp only [isNameStart, isBareChar, Char.isAlphanum, Bool.or_eq_true]
          at hd ⊢
        rcases hd with hunderscore | hletter
        · exact .inl (.inl hunderscore)
        · exact .inr (.inl hletter)
      have hsql : Part.sql ⟨String.ofList (c :: cs), false⟩ =
          String.ofList (c :: cs) := rfl
      rw [hsql]
      apply leads_of_class (p := isBareChar) (by decide) (by decide)
      · simp
      · intro d hd
        rw [String.toList_ofList] at hd
        rcases List.mem_cons.mp hd with hfirst | hmem
        · rw [hfirst]
          exact hbare c hstart
        · exact hrest d hmem
  | quoted hne hnul => exact leads_enclosed_backtick _

theorem WellFormed.leads {ident : Ident} (h : ident.WellFormed) :
    Leads (Orderly depth) ident.sql (Settled depth) := by
  have hne : ident.parts.map Part.sql ≠ [] := by
    intro hnil
    exact h.hasPart (List.map_eq_nil_iff.mp hnil)
  have hdot : Leads (Orderly depth) "." (Settled depth) :=
    leads_word (by decide)
  apply leads_intercalate hne
  · exact hdot.of_orderly.orderly
  · intro text htext
    rcases List.mem_map.mp htext with ⟨part, hpart, rfl⟩
    exact (h.parts part hpart).leads

end Ident

namespace Column

theorem leads_labelSql (label : String) :
    Leads (Orderly depth) (labelSql label) (Settled depth) := by
  unfold labelSql
  split
  · rename_i hplain
    apply leads_of_class (p := isNameChar) (by decide) (by decide)
    · rintro rfl
      cases hplain
    · intro c hc
      exact isNameChar_of_isPlainName hplain hc
  · exact leads_enclosed_backtick label

/-- The arrow starts with a dash, which is why the identifier before it has to
be settled. -/
theorem leads_arrow : Leads (Settled depth) "->>" (Settled depth) := by
  constructor
  · decide
  · intro read hread
    have houtside : outsideText .outside "->>".toList = ['-', '>', '>'] := by
      decide
    have hdash : Orderly depth (read ++ ['-']) := by
      apply hread.orderly.concat (by decide) (by decide)
      · intro hlast
        exact absurd hlast hread.noDash
      · intro hlast
        exact absurd hlast hread.noSlash
      · rfl
    have hword : Settled (depth + 0) ((read ++ ['-']) ++ ['>', '>']) :=
      hdash.append_word 0 (by simp) (by rfl)
    rw [houtside]
    simpa using hword

theorem leads_wildcard : Leads (Settled depth) "*" (Settled depth) := by
  constructor
  · decide
  · intro read hread
    have houtside : outsideText .outside "*".toList = ['*'] := by decide
    rw [houtside]
    constructor
    · apply hread.orderly.concat (by decide) (by decide)
      · intro hlast
        exact absurd hlast hread.noDash
      · intro hlast
        exact absurd hlast hread.noSlash
      · rfl
    · simp
    · simp

theorem WellFormed.leads_sql {column : Column}
    (h : column.WellFormed (fun _ => False)) :
    Leads (Settled depth) column.sql (Settled depth) := by
  cases column with
  | wildcard table =>
      cases table with
      | none => exact leads_wildcard
      | some table =>
          have htable : table.WellFormed := h
          have heq : (wildcard (some table)).sql = table.sql ++ "." ++ "*" := by
            apply String.toList_inj.mp
            simp [sql]
          rw [heq]
          have hdot : Leads (Orderly depth) "." (Settled depth) :=
            leads_word (by decide)
          exact (htable.leads.of_orderly.append hdot.of_orderly).append
            leads_wildcard
  | plain ident label =>
      have hident : ident.WellFormed := h
      exact hident.leads.of_orderly
  | json base path label =>
      rcases h with ⟨hbase, _, hkeys⟩
      have heq : (json base path label).sql =
          base.sql ++ "->>" ++ ("'" ++ pathSql path ++ "'") := by
        apply String.toList_inj.mp
        simp [sql]
      rw [heq]
      have hpath : Leads (Orderly depth) ("'" ++ pathSql path ++ "'")
          (Settled depth) :=
        leads_singleQuoted fun c hc => ne_quote_of_mem_pathSql hkeys hc
      exact (hbase.leads.of_orderly.append leads_arrow).append
        hpath.of_orderly
  | call text label => exact absurd h id

theorem WellFormed.cases_call {calls : String → Prop} {column : Column}
    (h : column.WellFormed calls) :
    (∃ text label, column = .call text label ∧ calls text) ∨
      column.WellFormed (fun _ => False) := by
  cases column with
  | wildcard table =>
      cases table with
      | none => exact .inr trivial
      | some table => exact .inr h
  | plain ident label => exact .inr h
  | json base path label => exact .inr h
  | call text label => exact .inl ⟨text, label, rfl, h⟩

theorem WellFormed.leads_projectionSql {calls : String → Prop} {column : Column}
    (h : column.WellFormed calls)
    (hcalls : ∀ text, calls text →
      Leads (Settled depth) text (Orderly depth)) :
    Leads (Settled depth) column.projectionSql (Orderly depth) := by
  have hsql : Leads (Settled depth) column.sql (Orderly depth) := by
    rcases h.cases_call with ⟨text, label, rfl, hcall⟩ | hcolumn
    · exact hcalls text hcall
    · exact hcolumn.leads_sql.orderly
  unfold projectionSql
  split
  · have has : Leads (Orderly depth) " AS " (Settled depth) :=
      leads_word (by decide)
    exact ((hsql.append has).append (leads_labelSql _).of_orderly).orderly
  · exact hsql

end Column
end SqlAssembler
