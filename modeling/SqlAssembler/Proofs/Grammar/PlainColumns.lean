import Mathlib
import SqlAssembler.Builder.Assignment
import SqlAssembler.Column
import SqlAssembler.Proofs.Grammar.Names

/-!
# Identifiers as columns

A projection is searched for a label, a wildcard and a call before it is read as
a column, and a column for an arrow before it is read as an identifier. All of
these could stand inside a quoted name as well. The first three never mislead
the reader: an identifier has no label, is no wildcard and calls no allowed
function. The arrow does: it is taken for the start of a path wherever it
stands, so exactly the identifiers without an arrow can be used as columns.
-/

namespace SqlAssembler

open Text

/-!
## Blanks
-/

namespace Text

theorem toNat_of_isBlank {c : Char} (h : isBlank c = true) :
    c.toNat ≤ 32 ∨ 133 ≤ c.toNat := by
  have hbounds : ∀ range ∈ blankRanges, range.2 ≤ 32 ∨ 133 ≤ range.1 := by
    decide
  rcases List.any_eq_true.mp h with ⟨range, hrange, hin⟩
  have hbound := hbounds range hrange
  rw [Bool.and_eq_true, decide_eq_true_eq, decide_eq_true_eq] at hin
  omega

theorem exists_trimEnd (cs : List Char) :
    ∃ blanks, cs = trimEnd cs ++ blanks ∧ ∀ c ∈ blanks, isBlank c = true := by
  refine ⟨(cs.reverse.takeWhile isBlank).reverse, ?_, ?_⟩
  · rw [trimEnd, ← List.reverse_append, List.takeWhile_append_dropWhile,
      List.reverse_reverse]
  · intro c hmem
    exact List.mem_takeWhile_imp (List.mem_reverse.mp hmem)

theorem trimStart_of_visible {c : Char} (h : isBlank c = false)
    (cs : List Char) : trimStart (c :: cs) = c :: cs :=
  List.dropWhile_cons_of_neg (Bool.eq_false_iff.mp h)

theorem mem_of_mem_trim {c : Char} {cs : List Char} (h : c ∈ trim cs) :
    c ∈ cs := by
  have hstart := (List.dropWhile_sublist isBlank).subset (List.mem_reverse.mp h)
  exact (List.dropWhile_sublist isBlank).subset (List.mem_reverse.mp hstart)

theorem mem_trim {c : Char} {cs : List Char} (hmem : c ∈ cs)
    (hvisible : isBlank c = false) : c ∈ trim cs := by
  have hstart : c ∈ trimStart cs := by
    rw [← List.takeWhile_append_dropWhile (p := isBlank) (l := cs),
      List.mem_append] at hmem
    rcases hmem with hblank | hkept
    · rw [List.mem_takeWhile_imp hblank] at hvisible
      cases hvisible
    · exact hkept
  rcases exists_trimEnd (trimStart cs) with ⟨blanks, hcs, hblanks⟩
  rw [hcs, List.mem_append] at hstart
  rcases hstart with hkept | hblank
  · exact hkept
  · rw [hblanks c hblank] at hvisible
    cases hvisible

end Text

namespace Ident

theorem toNat_of_isBareChar {c : Char} (h : isBareChar c = true) :
    36 ≤ c.toNat ∧ c.toNat ≤ 122 := by
  have hval : c.val.toNat = c.toNat := rfl
  simp only [isBareChar, Char.isAlphanum, Char.isAlpha, Char.isUpper,
    Char.isLower, Char.isDigit, Bool.or_eq_true, Bool.and_eq_true,
    decide_eq_true_eq, ge_iff_le, UInt32.le_iff_toNat_le] at h
  rcases h with (rfl | rfl) | (h | h) | h
  · decide
  · decide
  all_goals
    simp at h
    omega

theorem isMark_of_isBlank {c : Char} (h : isBlank c = true) : IsMark c := by
  refine ⟨?_, ?_, ?_⟩
  · rintro rfl
    exact absurd h (by decide)
  · rintro rfl
    exact absurd h (by decide)
  · rw [Bool.eq_false_iff]
    intro hbare
    have hblank := toNat_of_isBlank h
    have hrange := toNat_of_isBareChar hbare
    omega

variable {ident : Ident}

theorem WellFormed.visible_head (h : ident.WellFormed) {c : Char}
    {cs : List Char} (hsql : ident.sql.toList = c :: cs) :
    isBlank c = false := by
  rw [Bool.eq_false_iff]
  intro hblank
  have hfront : Unclosed [] :=
    h.unclosed_of_mark (isMark_of_isBlank hblank) hsql
  exact hfront.ne_nil rfl

theorem WellFormed.unclosed_trim (h : ident.WellFormed) {mark : Char}
    (hmark : IsMark mark) {before after : List Char}
    (hsql : ident.sql.toList = before ++ mark :: after) :
    Unclosed (trim before) := by
  have hstart : trimStart before = before := by
    cases before with
    | nil => rfl
    | cons c cs => exact trimStart_of_visible (h.visible_head hsql) cs
  rcases exists_trimEnd before with ⟨blanks, hbefore, hblanks⟩
  rw [hbefore, List.append_assoc] at hsql
  rw [trim, hstart]
  cases blanks with
  | nil => exact h.unclosed_of_mark hmark hsql
  | cons blank blanks =>
      have hblank := isMark_of_isBlank (hblanks blank List.mem_cons_self)
      exact h.unclosed_of_mark hblank hsql

theorem WellFormed.trim_sql (h : ident.WellFormed) :
    trim ident.sql.toList = ident.sql.toList := by
  have hstart : trimStart ident.sql.toList = ident.sql.toList := by
    cases hsql : ident.sql.toList with
    | nil => rfl
    | cons c cs => exact trimStart_of_visible (h.visible_head hsql) cs
  rcases exists_trimEnd ident.sql.toList with ⟨blanks, hsql, hblanks⟩
  rw [trim, hstart]
  cases blanks with
  | nil => rw [List.append_nil] at hsql; exact hsql.symm
  | cons blank blanks =>
      -- a blank at the end would have a backtick behind it
      have hodd := h.odd_count_of_mark
        (isMark_of_isBlank (hblanks blank List.mem_cons_self)) hsql
      have hnone : blanks.count backtick = 0 := by
        rw [List.count_eq_zero]
        intro hmem
        exact absurd (hblanks backtick (List.mem_cons_of_mem blank hmem))
          (by decide)
      omega

end Ident

namespace FunctionNames

theorem mem_insertAll {functions : FunctionNames} {names : List String}
    {name : String} : name ∈ (functions.insertAll names).names ↔
      name ∈ functions.names ∨ name ∈ names := by
  induction names generalizing functions with
  | nil => simp [insertAll]
  | cons first rest ih =>
      have hfirst := mem_insertName first name functions.names
      rw [insertAll, List.foldl_cons, ← insertAll, ih, insert, hfirst,
        List.mem_cons, or_left_comm, or_assoc]

theorem backtick_not_mem_builtin :
    ∀ name ∈ builtin.names, backtick ∉ name.toList := by
  intro name hname
  rcases mem_insertAll.mp hname with hempty | hname
  · cases hempty
  · have hnames : ∀ name ∈ builtinNames, backtick ∉ name.toList := by decide
    exact hnames name hname

end FunctionNames

namespace Column

variable {ident : Ident}

/-!
## Labels, wildcards and calls
-/

theorem eq_blank_of_toLower {c : Char} (h : c.toLower = ' ') : c = ' ' := by
  unfold Char.toLower at h
  split at h
  · rename_i hupper
    have hval := congrArg UInt32.toNat (congrArg Char.val h)
    simp only [UInt32.le_iff_toNat_le, ge_iff_le] at hupper
    simp at hval hupper
    omega
  · exact h

theorem exists_of_cutLabel {cs before after : List Char}
    (h : cutLabel cs = some (before, after)) :
    ∃ front, cs = front ++ ' ' :: after := by
  induction cs generalizing before after with
  | nil => cases h
  | cons c cs ih =>
      rw [cutLabel] at h
      split at h
      · rename_i inner rest hinner
        cases h
        rcases ih hinner with ⟨front, hfront⟩
        exact ⟨c :: front, congrArg (c :: ·) hfront⟩
      · split at h
        · rename_i hmark
          cases h
          rcases cs with _ | ⟨a, _ | ⟨s, _ | ⟨blank, rest⟩⟩⟩
          · exact absurd (congrArg List.length hmark) (by simp)
          · exact absurd (congrArg List.length hmark) (by simp)
          · exact absurd (congrArg List.length hmark) (by simp)
          · have hlower : blank.toLower = ' ' :=
              (List.cons.inj (List.cons.inj (List.cons.inj
                (List.cons.inj hmark).2).2).2).1
            rw [eq_blank_of_toLower hlower]
            exact ⟨[c, a, s], rfl⟩
        · cases h

theorem splitLabel_identifier (h : ident.WellFormed) :
    splitLabel ident.sql.toList = (ident.sql.toList, none) := by
  rw [splitLabel]
  split
  · rename_i before after hcut
    rcases exists_of_cutLabel hcut with ⟨front, hsql⟩
    have hodd := h.odd_count_of_mark (by decide) hsql
    have hmem : backtick ∈ trim after :=
      mem_trim (List.count_pos_iff.mp (by omega)) (by decide)
    have hplain : isPlainName (trim after) = false := by
      rw [Bool.eq_false_iff]
      intro hplain
      exact absurd (isNameChar_of_isPlainName hplain hmem) (by decide)
    simp [hplain]
  · rfl

theorem wildcardTable?_identifier (h : ident.WellFormed) :
    wildcardTable? ident.sql.toList = none := by
  rw [wildcardTable?]
  split
  · rename_i rest hreverse
    have hsql : ident.sql.toList = (rest.reverse ++ ['.']) ++ '*' :: [] := by
      rw [← List.reverse_reverse ident.sql.toList, hreverse]
      simp
    exact absurd (h.odd_count_of_mark (by decide) hsql) (by decide)
  · rfl

theorem identifier_ne_star (h : ident.WellFormed) :
    ident.sql.toList ≠ ['*'] := by
  intro hsql
  have hfront : Ident.Unclosed [] := h.unclosed_of_mark (by decide) hsql
  exact hfront.ne_nil rfl

theorem exists_of_contains {c : Char} {cs : List Char}
    (h : cs.contains c = true) :
    ∃ after, cs = cs.takeWhile (· ≠ c) ++ c :: after := by
  induction cs with
  | nil => cases h
  | cons d ds ih =>
      by_cases hsame : d = c
      · exact ⟨ds, by simp [hsame]⟩
      · have hrest : ds.contains c = true := by
          simpa [Ne.symm hsame] using h
        rcases ih hrest with ⟨after, hafter⟩
        refine ⟨after, ?_⟩
        rw [List.takeWhile_cons_of_pos (by simpa using hsame),
          List.cons_append, ← hafter]

theorem embeds_identifier {functions : FunctionNames}
    (hfunctions : ∀ name ∈ functions.names, backtick ∉ name.toList)
    (h : ident.WellFormed) : functions.embeds ident.sql = .ok false := by
  have hcall : functions.isCall ident.sql = false := by
    rw [Bool.eq_false_iff]
    intro hcall
    rw [FunctionNames.isCall, Bool.and_eq_true, Bool.and_eq_true,
      FunctionNames.contains] at hcall
    rcases hcall with ⟨⟨hopen, _⟩, hname⟩
    rcases exists_of_contains hopen with ⟨after, hsql⟩
    have hunclosed := h.unclosed_of_mark (by decide) hsql
    have hmem := hfunctions _ (List.contains_iff_mem.mp hname)
    rw [String.toList_ofList] at hmem
    exact hmem hunclosed.backtick_mem
  rw [FunctionNames.embeds, hcall]
  rfl

/-!
## Arrows
-/

theorem eq_of_cutArrow {cs before after : List Char}
    (h : cutArrow cs = some (before, after)) :
    cs = before ++ '-' :: '>' :: after := by
  fun_induction cutArrow cs generalizing before after with
  | case1 => cases h
  | case2 c => cases h
  | case3 c d rest harrow =>
      cases h
      rw [harrow.1, harrow.2]
      rfl
  | case4 c d rest harrow ih =>
      rcases Option.map_eq_some_iff.mp h with ⟨⟨inner, behind⟩, hinner, hsame⟩
      cases hsame
      rw [ih hinner]
      rfl

theorem cutArrow_eq_none_iff {cs : List Char} :
    cutArrow cs = none ↔ ¬['-', '>'] <:+: cs := by
  fun_induction cutArrow cs with
  | case1 => simp
  | case2 c => simp [List.infix_cons_iff]
  | case3 c d rest harrow =>
      rw [harrow.1, harrow.2]
      simp [List.infix_cons_iff]
  | case4 c d rest harrow ih =>
      have hprefix : ¬['-', '>'] <+: c :: d :: rest := by
        intro h
        rcases List.cons_prefix_cons.mp h with ⟨hc, hrest⟩
        exact harrow ⟨hc.symm, (List.cons_prefix_cons.mp hrest).1.symm⟩
      have hinfix : ['-', '>'] <:+: c :: d :: rest ↔
          ['-', '>'] <:+: d :: rest :=
        List.infix_cons_iff.trans (or_iff_right hprefix)
      rw [Option.map_eq_none_iff, ih, hinfix]

variable {settings : Settings}

theorem parse_of_no_arrow (h : ident.WellFormed)
    (harrow : ¬['-', '>'] <:+: ident.sql.toList) (settings : Settings)
    (table : Option Ident) :
    parse settings table ident.sql =
      .ok (.plain (qualify settings table ident) none) := by
  have hempty : ident.sql.toList.isEmpty = false :=
    List.isEmpty_eq_false_iff.mpr h.sql_ne_nil
  rw [parse, h.trim_sql, parseExpression, hempty,
    cutArrow_eq_none_iff.mpr harrow, String.ofList_toList, h.parse_sql]
  rfl

/-- An arrow inside a quoted name cuts the name, and nothing else can be made of
the text before it. -/
theorem parse_of_arrow (h : ident.WellFormed)
    (harrow : ['-', '>'] <:+: ident.sql.toList) (settings : Settings)
    (table : Option Ident) :
    parse settings table ident.sql =
      .error (.validation .unclosedQuotedPart) := by
  have hempty : ident.sql.toList.isEmpty = false :=
    List.isEmpty_eq_false_iff.mpr h.sql_ne_nil
  rw [parse, h.trim_sql, parseExpression, hempty]
  cases hcut : cutArrow ident.sql.toList with
  | none => exact absurd harrow (cutArrow_eq_none_iff.mp hcut)
  | some texts =>
      rcases texts with ⟨before, after⟩
      have hsql := eq_of_cutArrow hcut
      have hunclosed := h.unclosed_trim (by decide) hsql
      have hnul : '\x00' ∉ trim before := by
        intro hmem
        apply h.nul_not_mem
        rw [hsql]
        exact List.mem_append_left _ (mem_of_mem_trim hmem)
      have hparse : Ident.parse (String.ofList (trim before)) =
          .error (.validation .unclosedQuotedPart) := by
        apply Ident.Unclosed.parse_eq
        · rw [String.toList_ofList]
          exact hunclosed
        · rw [String.toList_ofList]
          exact hnul
      dsimp only
      rw [hparse]
      rfl

theorem parseProjection_identifier
    (hfunctions : ∀ name ∈ settings.functions.names, backtick ∉ name.toList)
    (h : ident.WellFormed) (table : Option Ident) :
    parseProjection settings table ident.sql =
      parse settings table ident.sql := by
  rw [parseProjection, h.trim_sql, splitLabel_identifier h]
  dsimp only
  rw [if_neg fun hboth => identifier_ne_star h hboth.1,
    wildcardTable?_identifier h, String.ofList_toList,
    embeds_identifier hfunctions h, parse, h.trim_sql]

/-- Every identifier can be set. It can also be used as a column exactly if no
arrow is in it; with an arrow it is refused wherever a column is read. -/
theorem usable_iff_no_arrow {text : String} (h : Ident.parse text = .ok ident)
    (table : Option Ident) :
    (∀ assignments value,
      AssignCall.apply ⟨.builtin, false⟩ assignments (.set text value) =
        .ok (assignments ++ [⟨ident, .bound value⟩])) ∧
    (¬['-', '>'] <:+: text.toList →
      parse ⟨.builtin, false⟩ table text = .ok (.plain ident none) ∧
      parseProjection ⟨.builtin, false⟩ table text =
        .ok (.plain ident none)) ∧
    (['-', '>'] <:+: text.toList →
      parse ⟨.builtin, false⟩ table text =
        .error (.validation .unclosedQuotedPart) ∧
      parseProjection ⟨.builtin, false⟩ table text =
        .error (.validation .unclosedQuotedPart)) := by
  rcases Ident.parse_eq_ok_iff.mp h with ⟨hident, rfl⟩
  have hprojection : parseProjection ⟨.builtin, false⟩ table ident.sql =
      parse ⟨.builtin, false⟩ table ident.sql :=
    parseProjection_identifier FunctionNames.backtick_not_mem_builtin hident
      table
  have hqualify : qualify ⟨.builtin, false⟩ table ident = ident := by
    cases table <;> rfl
  refine ⟨?_, ?_, ?_⟩
  · intro assignments value
    rw [AssignCall.apply, AssignCall.assign, h]
    rfl
  · intro harrow
    have hparse := parse_of_no_arrow hident harrow ⟨.builtin, false⟩ table
    rw [hqualify] at hparse
    exact ⟨hparse, hprojection.trans hparse⟩
  · intro harrow
    have hparse := parse_of_arrow hident harrow ⟨.builtin, false⟩ table
    exact ⟨hparse, hprojection.trans hparse⟩

theorem usable_of_quoted_label :
    Ident.parse "t.`a AS b.*`" = .ok ⟨[⟨"t", false⟩, ⟨"a AS b.*", true⟩]⟩ ∧
    parseProjection ⟨.builtin, false⟩ none "t.`a AS b.*`" =
      .ok (.plain ⟨[⟨"t", false⟩, ⟨"a AS b.*", true⟩]⟩ none) := by
  have hident : Ident.WellFormed
      ⟨[⟨"t", false⟩, ⟨"a AS b.*", true⟩]⟩ := by
    refine ⟨by simp, ?_⟩
    intro part hpart
    rcases List.mem_cons.mp hpart with rfl | hpart
    · exact wellFormed_of_isPlainName (by decide)
    · rw [List.mem_singleton.mp hpart]
      exact .quoted (by decide) (by decide)
  have hsql : Ident.sql ⟨[⟨"t", false⟩, ⟨"a AS b.*", true⟩]⟩ =
      "t.`a AS b.*`" := by decide
  have hparse := hident.parse_sql
  rw [hsql] at hparse
  have husable := usable_iff_no_arrow hparse none
  have hno : ¬['-', '>'] <:+: "t.`a AS b.*`".toList :=
    cutArrow_eq_none_iff.mp (by decide)
  exact ⟨hparse, (husable.2.1 hno).2⟩

/-- A quoted name with an arrow can be set, but not selected or filtered by. -/
theorem quoted_arrow_refused :
    Ident.parse "`a->b`" = .ok ⟨[⟨"a->b", true⟩]⟩ ∧
    parse ⟨.builtin, false⟩ none "`a->b`" =
      .error (.validation .unclosedQuotedPart) ∧
    parseProjection ⟨.builtin, false⟩ none "`a->b`" =
      .error (.validation .unclosedQuotedPart) := by
  have hident : Ident.WellFormed ⟨[⟨"a->b", true⟩]⟩ := by
    refine ⟨by simp, ?_⟩
    intro part hpart
    rw [List.mem_singleton.mp hpart]
    exact .quoted (by decide) (by decide)
  have hsql : Ident.sql ⟨[⟨"a->b", true⟩]⟩ = "`a->b`" := by decide
  have hparse := hident.parse_sql
  have hinfix : ['-', '>'] <:+: "`a->b`".toList :=
    ⟨[backtick, 'a'], ['b', backtick], by decide⟩
  have harrow := parse_of_arrow hident (hsql ▸ hinfix) ⟨.builtin, false⟩ none
  have hprojection : parseProjection ⟨.builtin, false⟩ none _ = _ :=
    parseProjection_identifier FunctionNames.backtick_not_mem_builtin hident
      none
  rw [hsql] at hparse harrow hprojection
  exact ⟨hparse, harrow, hprojection.trans harrow⟩

end Column
end SqlAssembler
