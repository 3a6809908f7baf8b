import SqlAssembler.Column
import SqlAssembler.Proofs.Grammar.Identifiers
import SqlAssembler.Proofs.Results

/-!
# Accepted columns

A column that was accepted holds well-formed identifiers and keys of name
characters. The only other text that it takes over is that of a call, and only a
projection may be one. So a column is written as neutral SQL as soon as the
calls among the projections are neutral.
-/

namespace SqlAssembler

open Text

namespace Column

def WellFormed (calls : String → Prop) : Column → Prop
  | wildcard none => True
  | wildcard (some table) => table.WellFormed
  | plain ident _ => ident.WellFormed
  | json base path _ =>
      base.WellFormed ∧ path ≠ [] ∧
        ∀ key ∈ path, ∀ c ∈ key.toList, isNameChar c = true
  | call text _ => calls text

theorem WellFormed.mono {calls others : String → Prop} {column : Column}
    (h : column.WellFormed calls) (hcalls : ∀ text, calls text → others text) :
    column.WellFormed others := by
  cases column with
  | wildcard table =>
      cases table with
      | none => trivial
      | some table => exact h
  | plain ident label => exact h
  | json base path label => exact h
  | call text label => exact hcalls text h

/-!
## Reading
-/

theorem wellFormed_qualify {settings : Settings} {table : Option Ident}
    {ident : Ident} (htable : ∀ owner ∈ table, owner.WellFormed)
    (h : ident.WellFormed) : (qualify settings table ident).WellFormed := by
  cases table with
  | none => exact h
  | some owner =>
      rw [qualify]
      split
      · exact h.qualifiedBy (htable owner rfl)
      · exact h

theorem nameChars_of_parseKey {path key : String} {cs : List Char}
    (h : parseKey path cs = .ok key) :
    ∀ c ∈ key.toList, isNameChar c = true := by
  simp only [parseKey] at h
  split at h
  · cases h
  · split at h
    · rename_i hall
      cases h
      intro c hc
      rw [String.toList_ofList] at hc
      exact List.all_eq_true.mp hall c hc
    · cases h

theorem splitKeys_ne_nil (cs : List Char) : splitKeys cs ≠ [] := by
  have hcons : ∀ c keys, consFirst c keys ≠ [] := by
    intro c keys
    cases keys <;> simp [consFirst]
  fun_cases splitKeys cs <;> simp [hcons]

theorem ne_nil_of_parsePath {cs : List Char} {path : List String}
    (h : parsePath cs = .ok path) : path ≠ [] := by
  rintro rfl
  have hkeys : (splitKeys cs).map (parseKey (String.ofList cs)) = [] :=
    mapM_eq_ok_iff.mp h
  exact splitKeys_ne_nil cs (List.map_eq_nil_iff.mp hkeys)

theorem nameChars_of_parsePath {cs : List Char} {path : List String}
    (h : parsePath cs = .ok path) :
    ∀ key ∈ path, ∀ c ∈ key.toList, isNameChar c = true := by
  intro key hkey
  have hmem : .ok key ∈ (splitKeys cs).map (parseKey (String.ofList cs)) := by
    rw [mapM_eq_ok_iff.mp h]
    exact List.mem_map_of_mem hkey
  rcases List.mem_map.mp hmem with ⟨segment, _, hparse⟩
  exact nameChars_of_parseKey hparse

theorem wellFormed_of_parseExpression {settings : Settings}
    {table : Option Ident} {label : Option String} {cs : List Char}
    {column : Column} (htable : ∀ owner ∈ table, owner.WellFormed)
    (h : parseExpression settings table label cs = .ok column) :
    column.WellFormed (fun _ => False) := by
  rw [parseExpression] at h
  split at h
  · cases h
  · split at h
    · split at h
      · cases h
      · rename_i hbase
        split at h
        · cases h
        · rename_i hpath
          cases h
          exact ⟨wellFormed_qualify htable (Ident.wellFormed_of_parse hbase),
            ne_nil_of_parsePath hpath, nameChars_of_parsePath hpath⟩
    · split at h
      · cases h
      · rename_i hident
        cases h
        exact wellFormed_qualify htable (Ident.wellFormed_of_parse hident)

theorem wellFormed_of_parse {settings : Settings} {table : Option Ident}
    {raw : String} {column : Column}
    (htable : ∀ owner ∈ table, owner.WellFormed)
    (h : parse settings table raw = .ok column) :
    column.WellFormed (fun _ => False) :=
  wellFormed_of_parseExpression htable h

def projectedCall? (settings : Settings) (raw : String) : Option String :=
  match parseProjection settings none raw with
  | .ok (.call text _) => some text
  | _ => none

theorem parseExpression_ne_call {settings : Settings} {table : Option Ident}
    {label other : Option String} {cs : List Char} {text : String} :
    parseExpression settings table label cs ≠ .ok (.call text other) := by
  intro h
  rw [parseExpression] at h
  split at h
  · cases h
  · split at h
    · split at h
      · cases h
      · split at h <;> cases h
    · split at h <;> cases h

theorem parseProjection_cases {settings : Settings} {table : Option Ident}
    {raw : String} {column : Column}
    (h : parseProjection settings table raw = .ok column) :
    column = .wildcard none ∨
      (∃ owner, owner.WellFormed ∧ column = .wildcard (some owner)) ∨
      (∃ text label, column = .call text label ∧
        settings.functions.embeds text = .ok true ∧
        projectedCall? settings raw = some text) ∨
      ∃ label cs, parseExpression settings table label cs = .ok column := by
  rcases hsplit : splitLabel (trim raw.toList) with ⟨cs, label⟩
  simp only [parseProjection, hsplit] at h
  by_cases hstar : cs = ['*'] ∧ label = none
  · rw [if_pos hstar] at h
    cases h
    exact .inl rfl
  rw [if_neg hstar] at h
  cases howner : wildcardTable? cs with
  | some owner =>
      simp only [howner] at h
      split at h
      · cases h
      · cases hparse : Ident.parse (String.ofList owner) with
        | error error =>
            rw [hparse] at h
            cases h
        | ok ident =>
            rw [hparse] at h
            cases h
            exact .inr (.inl ⟨ident, Ident.wellFormed_of_parse hparse, rfl⟩)
  | none =>
      simp only [howner] at h
      cases hembeds : settings.functions.embeds (String.ofList cs) with
      | error cause =>
          rw [hembeds] at h
          cases h
      | ok embedded =>
          cases embedded with
          | false =>
              rw [hembeds] at h
              exact .inr (.inr (.inr ⟨label, cs, h⟩))
          | true =>
              rw [hembeds] at h
              cases h
              refine .inr (.inr (.inl ⟨_, label, rfl, hembeds, ?_⟩))
              simp only [projectedCall?, parseProjection, hsplit, howner,
                hembeds, if_neg hstar]

theorem embeds_of_projectedCall? {settings : Settings} {raw text : String}
    (h : projectedCall? settings raw = some text) :
    settings.functions.embeds text = .ok true := by
  rw [projectedCall?] at h
  split at h
  · rename_i other label hparse
    cases h
    rcases parseProjection_cases hparse with heq | ⟨_, _, heq⟩ |
      ⟨_, _, heq, hembeds, _⟩ | ⟨_, _, hexpression⟩
    · cases heq
    · cases heq
    · cases heq
      exact hembeds
    · exact absurd hexpression parseExpression_ne_call
  · cases h

theorem wellFormed_of_parseProjection {settings : Settings}
    {table : Option Ident} {raw : String} {column : Column}
    (htable : ∀ owner ∈ table, owner.WellFormed)
    (h : parseProjection settings table raw = .ok column) :
    column.WellFormed fun text =>
      projectedCall? settings raw = some text := by
  rcases parseProjection_cases h with rfl | ⟨owner, howner, rfl⟩ |
    ⟨text, label, rfl, _, hcall⟩ | ⟨label, cs, hexpression⟩
  · trivial
  · exact howner
  · exact hcall
  · exact (wellFormed_of_parseExpression htable hexpression).mono
      fun _ hfalse => absurd hfalse id

theorem wellFormed_of_parseAggregateTarget {settings : Settings}
    {table : Option Ident} {raw : String} {column : Column}
    (htable : ∀ owner ∈ table, owner.WellFormed)
    (h : parseAggregateTarget settings table raw = .ok column) :
    column.WellFormed (fun _ => False) := by
  rw [parseAggregateTarget] at h
  split at h
  · cases h
    trivial
  · exact wellFormed_of_parse htable h

/-!
## Writing
-/

theorem isNameChar_of_isPlainName {cs : List Char} (h : isPlainName cs = true)
    {c : Char} (hc : c ∈ cs) : isNameChar c = true := by
  cases cs with
  | nil => cases hc
  | cons d ds =>
      rw [isPlainName, Bool.and_eq_true] at h
      rcases List.mem_cons.mp hc with rfl | hmem
      · have hstart := h.1
        simp only [isNameStart, isNameChar, Char.isAlphanum, Bool.or_eq_true]
          at hstart ⊢
        exact hstart.imp_right Or.inl
      · exact List.all_eq_true.mp h.2 c hmem

theorem neutral_labelSql (label : String) :
    Statement.Neutral (labelSql label) := by
  rw [labelSql]
  split
  · rename_i hplain
    apply Statement.neutral_of_plain
    intro c hc
    exact Statement.isPlain_of_class (p := isNameChar) (by decide)
      (isNameChar_of_isPlainName hplain hc)
  · exact Statement.neutral_enclosed_backtick label

theorem mem_keySql {key : String} {c : Char} (hc : c ∈ (keySql key).toList) :
    c ∈ key.toList ∨ c = '[' ∨ c = ']' ∨ c = '.' := by
  rw [keySql] at hc
  split at hc
  · have hcase : c = '[' ∨ c ∈ key.toList ∨ c = ']' := by
      simpa [toString] using hc
    rcases hcase with hopen | hmem | hclose
    · exact .inr (.inl hopen)
    · exact .inl hmem
    · exact .inr (.inr (.inl hclose))
  · have hcase : c = '.' ∨ c ∈ key.toList := by simpa [toString] using hc
    rcases hcase with hdot | hmem
    · exact .inr (.inr (.inr hdot))
    · exact .inl hmem

theorem ne_quote_of_mem_pathSql {path : List String}
    (hpath : ∀ key ∈ path, ∀ c ∈ key.toList, isNameChar c = true) {c : Char}
    (hc : c ∈ (pathSql path).toList) : c ≠ '\'' ∧ c ≠ '\\' := by
  have hname : ∀ d, isNameChar d = true → d ≠ '\'' ∧ d ≠ '\\' := by
    intro d hd
    constructor <;> rintro rfl <;> exact absurd hd (by decide)
  rw [pathSql, String.toList_append, List.mem_append] at hc
  rcases hc with hroot | hkeys
  · have hdollar : c = '$' := by simpa using hroot
    subst hdollar
    decide
  · simp only [String.toList_join, List.mem_flatMap, List.mem_map] at hkeys
    rcases hkeys with ⟨text, ⟨key, hkey, rfl⟩, hc⟩
    rcases mem_keySql hc with hletter | rfl | rfl | rfl
    · exact hname c (hpath key hkey c hletter)
    · decide
    · decide
    · decide

theorem WellFormed.neutral_sql {calls : String → Prop} {column : Column}
    (h : column.WellFormed calls)
    (hcalls : ∀ text, calls text → Statement.Neutral text) :
    Statement.Neutral column.sql := by
  cases column with
  | wildcard table =>
      cases table with
      | none => decide
      | some table => exact (Ident.WellFormed.neutral h).append (by decide)
  | plain ident label => exact Ident.WellFormed.neutral h
  | json base path label =>
      have heq : (json base path label).sql =
          base.sql ++ "->>" ++ ("'" ++ pathSql path ++ "'") := by
        apply String.toList_inj.mp
        simp [sql]
      rw [heq]
      exact (h.1.neutral.append (by decide)).append
        (Statement.neutral_singleQuoted fun c hc =>
          ne_quote_of_mem_pathSql h.2.2 hc)
  | call text label => exact hcalls text h

theorem WellFormed.neutral_projectionSql {calls : String → Prop}
    {column : Column} (h : column.WellFormed calls)
    (hcalls : ∀ text, calls text → Statement.Neutral text) :
    Statement.Neutral column.projectionSql := by
  have hsql := h.neutral_sql hcalls
  rw [projectionSql]
  split
  · exact (hsql.append (by decide)).append (neutral_labelSql _)
  · exact hsql

end Column
end SqlAssembler
