import SqlAssembler.Proofs.Grammar.Columns
import SqlAssembler.Proofs.Grammar.Unclosed

/-!
# Names of projections

The name of a projection in the result stands in its SQL: it is the identifier
after AS or, without AS, the last part of the column that is projected. The text
alone decides it, although a quoted name may hold the letters AS between blanks
as well: from a blank inside a quoted name to its end the backticks are odd in
number, whereas an identifier has an even number of them.
-/

namespace SqlAssembler

open Text

namespace Ident.Part

variable {part : Part}

theorem WellFormed.parse_sql (h : part.WellFormed) :
    Ident.parse part.sql = .ok ⟨[part]⟩ := by
  refine Ident.parse_eq_ok_iff.mpr ⟨⟨by simp, fun other hother => ?_⟩, ?_⟩
  · rw [List.mem_singleton.mp hother]
    exact h
  · exact String.toList_inj.mp (Ident.toList_sql_single part)

end Ident.Part

/-!
## Reading a name
-/

namespace Column

/-- What a projection is called in the result, as its SQL says. -/
inductive Names (sql : String) : String → Prop where
  | labelled {expression label : String} {part : Ident.Part}
      (hsql : sql = expression ++ " AS " ++ label)
      (hlabel : Ident.parse label = .ok ⟨[part]⟩) : Names sql part.name
  | unlabelled {ident : Ident} (h : Ident.parse sql = .ok ident) :
      Names sql ident.name

theorem toList_labelled (expression label : String) :
    (expression ++ " AS " ++ label).toList =
      (expression.toList ++ [' ', 'A', 'S']) ++ ' ' :: label.toList := by
  simp

theorem ne_of_parse_of_blank {text label : String} {ident other : Ident}
    {before : List Char} (h : Ident.parse text = .ok ident)
    (hlabel : Ident.parse label = .ok other) :
    text.toList ≠ before ++ ' ' :: label.toList := by
  intro hblank
  rcases Ident.parse_eq_ok_iff.mp h with ⟨hident, rfl⟩
  rcases Ident.parse_eq_ok_iff.mp hlabel with ⟨hother, rfl⟩
  have hodd := hident.odd_count_of_mark (by decide) hblank
  have heven := hother.even_count
  omega

theorem label_eq_of_suffix {label other : String} {ident : Ident}
    {labelIdent : Ident} {between : List Char}
    (hlabel : Ident.parse label = .ok labelIdent)
    (hother : Ident.parse other = .ok ident)
    (hsuffix : ' ' :: other.toList = between ++ ' ' :: label.toList) :
    other = label := by
  cases between with
  | nil => exact String.toList_inj.mp (List.cons.inj hsuffix).2
  | cons blank between =>
      exact absurd (List.cons.inj hsuffix).2
        (ne_of_parse_of_blank hother hlabel)

theorem Names.unique {sql name other : String} (h : Names sql name)
    (hother : Names sql other) : name = other := by
  cases h with
  | labelled hsql hlabel =>
      rename_i expression label part
      cases hother with
      | labelled hsqlOther hlabelOther =>
          rename_i expressionOther labelOther partOther
          have hsame : label = labelOther := by
            have htexts := congrArg String.toList (hsql.symm.trans hsqlOther)
            rw [toList_labelled, toList_labelled] at htexts
            rcases List.append_eq_append_iff.mp htexts with
              ⟨between, _, hsuffix⟩ | ⟨between, _, hsuffix⟩
            · exact label_eq_of_suffix hlabelOther hlabel hsuffix
            · exact (label_eq_of_suffix hlabel hlabelOther hsuffix).symm
          subst hsame
          rw [hlabel] at hlabelOther
          cases hlabelOther
          rfl
      | unlabelled hident =>
          rw [hsql] at hident
          exact absurd (toList_labelled expression label)
            (ne_of_parse_of_blank hident hlabel)
  | unlabelled hident =>
      cases hother with
      | labelled hsql hlabel =>
          rename_i expression label part
          rw [hsql] at hident
          exact absurd (toList_labelled expression label)
            (ne_of_parse_of_blank hident hlabel)
      | unlabelled hidentOther =>
          rw [hident] at hidentOther
          cases hidentOther
          rfl

example (name : String) : Names "`x AS y`" name ↔ name = "x AS y" := by
  have hpart : Ident.Part.WellFormed ⟨"x AS y", true⟩ :=
    .quoted (by decide) (by decide)
  have hsql : Ident.Part.sql ⟨"x AS y", true⟩ = "`x AS y`" := by decide
  have hparse := hpart.parse_sql
  rw [hsql] at hparse
  constructor
  · exact fun h => h.unique (.unlabelled hparse)
  · rintro rfl
    exact .unlabelled hparse

/-!
## Labels
-/

def ownLabel : Column → Option String
  | wildcard _ => none
  | plain _ label | json _ _ label | call _ label => label

theorem isPlainName_of_splitLabel {cs rest : List Char} {label : String}
    (h : splitLabel cs = (rest, some label)) :
    isPlainName label.toList = true := by
  rw [splitLabel] at h
  split at h
  · dsimp only at h
    split at h
    · rename_i hplain
      cases h
      rw [String.toList_ofList]
      exact hplain
    · cases h
  · cases h

theorem ownLabel_of_parseExpression {settings : Settings}
    {table : Option Ident} {label : Option String} {cs : List Char}
    {column : Column}
    (h : parseExpression settings table label cs = .ok column) :
    column.ownLabel = label := by
  rw [parseExpression] at h
  split at h
  · cases h
  · split at h
    · split at h
      · cases h
      · split at h
        · cases h
        · cases h
          rfl
    · split at h
      · cases h
      · cases h
        rfl

theorem isPlainName_of_parseProjection {settings : Settings}
    {table : Option Ident} {raw label : String} {column : Column}
    (h : parseProjection settings table raw = .ok column)
    (hlabel : column.ownLabel = some label) :
    isPlainName label.toList = true := by
  rcases hsplit : splitLabel (trim raw.toList) with ⟨cs, written⟩
  have hown : column.ownLabel = none ∨ column.ownLabel = written := by
    simp only [parseProjection, hsplit] at h
    split at h
    · cases h
      exact .inl rfl
    · split at h
      · split at h
        · cases h
        · rcases map_eq_ok_iff.mp h with ⟨owner, _, rfl⟩
          exact .inl rfl
      · split at h
        · cases h
        · cases h
          exact .inr rfl
        · exact .inr (ownLabel_of_parseExpression h)
  rcases hown with hnone | hsame
  · rw [hnone] at hlabel
    cases hlabel
  · rw [hsame] at hlabel
    rw [hlabel] at hsplit
    exact isPlainName_of_splitLabel hsplit

theorem isBareChar_of_isNameChar {c : Char} (h : isNameChar c = true) :
    Ident.isBareChar c = true := by
  rw [isNameChar, Bool.or_eq_true] at h
  rw [Ident.isBareChar, Bool.or_eq_true, Bool.or_eq_true]
  exact h.imp_left Or.inl

theorem wellFormed_of_isPlainName {label : String}
    (h : isPlainName label.toList = true) :
    Ident.Part.WellFormed ⟨label, false⟩ := by
  cases hcs : label.toList with
  | nil =>
      rw [hcs] at h
      cases h
  | cons c cs =>
      rw [hcs, isPlainName, Bool.and_eq_true] at h
      rw [← String.ofList_toList (s := label), hcs]
      refine .bare h.1 fun d hd => ?_
      exact isBareChar_of_isNameChar (List.all_eq_true.mp h.2 d hd)

theorem parse_labelSql {label : String} (hne : label ≠ "")
    (hnul : '\x00' ∉ label.toList) :
    ∃ part : Ident.Part, Ident.parse (labelSql label) = .ok ⟨[part]⟩ ∧
      part.name = label := by
  rw [labelSql]
  split
  · rename_i hplain
    have hpart := wellFormed_of_isPlainName hplain
    have hparse : Ident.parse label = .ok ⟨[⟨label, false⟩]⟩ := hpart.parse_sql
    exact ⟨⟨label, false⟩, hparse, rfl⟩
  · have hpart : Ident.Part.WellFormed ⟨label, true⟩ := .quoted hne hnul
    have hparse : Ident.parse (enclosed backtick label) =
        .ok ⟨[⟨label, true⟩]⟩ := hpart.parse_sql
    exact ⟨⟨label, true⟩, hparse, rfl⟩

end Column

/-!
## Names without NUL
-/

theorem Ident.Part.WellFormed.nul_not_mem_name {part : Ident.Part}
    (h : part.WellFormed) : '\x00' ∉ part.name.toList := by
  cases h with
  | bare hstart hrest =>
      have hsql := (Ident.Part.WellFormed.bare hstart hrest).nul_not_mem
      rwa [Ident.Part.toList_sql_bare, ← String.toList_ofList (l := _ :: _)]
        at hsql
  | quoted hne hnul => exact hnul

theorem Ident.WellFormed.nul_not_mem_name {ident : Ident}
    (h : ident.WellFormed) : '\x00' ∉ ident.name.toList := by
  rw [Ident.name]
  cases hlast : ident.parts.getLast? with
  | none => simp
  | some part =>
      exact (h.parts part (List.mem_of_getLast? hlast)).nul_not_mem_name

namespace Column

theorem mem_intercalate {separator : String} {texts : List String} {c : Char}
    (h : c ∈ (separator.intercalate texts).toList) :
    c ∈ separator.toList ∨ ∃ text ∈ texts, c ∈ text.toList := by
  induction texts with
  | nil => simp at h
  | cons text rest ih =>
      by_cases hempty : rest = []
      · rw [hempty, String.intercalate_singleton] at h
        exact .inr ⟨text, List.mem_cons_self, h⟩
      · rw [String.intercalate_cons_of_ne_nil hempty, String.toList_append,
          String.toList_append, List.mem_append, List.mem_append] at h
        rcases h with (htext | hseparator) | hrest
        · exact .inr ⟨text, List.mem_cons_self, htext⟩
        · exact .inl hseparator
        · rcases ih hrest with hseparator | ⟨other, hother, hmem⟩
          · exact .inl hseparator
          · exact .inr ⟨other, List.mem_cons_of_mem text hother, hmem⟩

theorem nul_not_mem_generated {base : Ident} {path : List String}
    (hbase : base.WellFormed)
    (hpath : ∀ key ∈ path, ∀ c ∈ key.toList, isNameChar c = true) :
    '\x00' ∉ (base.name ++ "_" ++ "_".intercalate path).toList := by
  intro hmem
  rw [String.toList_append, String.toList_append, List.mem_append,
    List.mem_append] at hmem
  rcases hmem with (hname | hseparator) | hkeys
  · exact hbase.nul_not_mem_name hname
  · exact absurd hseparator (by decide)
  · rcases mem_intercalate hkeys with hseparator | ⟨key, hkey, hmem⟩
    · exact absurd hseparator (by decide)
    · exact absurd (hpath key hkey _ hmem) (by decide)

theorem readable_of_writtenLabel {calls : String → Prop} {column : Column}
    (h : column.WellFormed calls)
    (hplain : ∀ label, column.ownLabel = some label →
      isPlainName label.toList = true)
    {label : String} (hlabel : column.writtenLabel = some label) :
    label ≠ "" ∧ '\x00' ∉ label.toList := by
  have hown : column.ownLabel = some label →
      label ≠ "" ∧ '\x00' ∉ label.toList := by
    intro hown
    have hname := hplain label hown
    constructor
    · rintro rfl
      cases hname
    · intro hmem
      exact absurd (isNameChar_of_isPlainName hname hmem) (by decide)
  cases column with
  | wildcard table => cases hlabel
  | plain ident own => exact hown hlabel
  | call text own => exact hown hlabel
  | json base path own =>
      cases own with
      | some own => exact hown hlabel
      | none =>
          cases hlabel
          refine ⟨?_, nul_not_mem_generated h.1 h.2.2⟩
          intro hempty
          have hlength := congrArg String.length hempty
          rw [Option.getD_none, String.length_append, String.length_append]
            at hlength
          exact absurd hlength (by simp)

theorem names_projectionSql {calls : String → Prop} {column : Column}
    (h : column.WellFormed calls)
    (hplain : ∀ label, column.ownLabel = some label →
      isPlainName label.toList = true)
    {key : String} (hkey : column.resultKey = some key) :
    Names column.projectionSql key := by
  cases hwritten : column.writtenLabel with
  | some label =>
      have hsame : label = key := by
        cases column with
        | wildcard table => cases hwritten
        | plain ident own =>
            cases hwritten
            cases hkey
            rfl
        | json base path own => exact Option.some.inj (hwritten.symm.trans hkey)
        | call text own => exact Option.some.inj (hwritten.symm.trans hkey)
      subst hsame
      rcases readable_of_writtenLabel h hplain hwritten with ⟨hne, hnul⟩
      rcases parse_labelSql hne hnul with ⟨part, hpart, hname⟩
      rw [projectionSql, hwritten, ← hname]
      exact .labelled rfl (hname ▸ hpart)
  | none =>
      cases column with
      | plain ident own =>
          cases hwritten
          cases hkey
          exact .unlabelled (Ident.WellFormed.parse_sql h)
      | wildcard table => cases hkey
      | json base path own => cases hwritten
      | call text own =>
          cases hwritten
          cases hkey

end Column
end SqlAssembler
