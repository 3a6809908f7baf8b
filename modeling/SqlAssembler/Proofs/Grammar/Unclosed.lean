import SqlAssembler.Proofs.Grammar.Spelling
import SqlAssembler.Text.Blank

/-!
# Texts that break off inside a quoted name

Characters that are neither bare, dots nor backticks are marks. In an identifier
a mark can only stand inside a quoted name, so the text in front of it breaks
off there. Such a text is not an identifier, and its backticks are odd in
number.
-/

namespace SqlAssembler

open Text

namespace Ident

/-- A text that ends inside a quoted name. -/
inductive Unclosed : List Char → Prop where
  | quoted (name : List Char) : Unclosed (backtick :: doubled backtick name)
  | dotted {part : Part} {rest : List Char} (hpart : part.WellFormed)
      (hrest : Unclosed rest) : Unclosed (part.sql.toList ++ '.' :: rest)

def IsMark (c : Char) : Prop :=
  c ≠ backtick ∧ c ≠ '.' ∧ isBareChar c = false

instance (c : Char) : Decidable (IsMark c) :=
  inferInstanceAs (Decidable (_ ∧ _ ∧ _))

/-!
## Backticks
-/

theorem Part.WellFormed.even_count {part : Part} (h : part.WellFormed) :
    part.sql.toList.count backtick % 2 = 0 := by
  cases h with
  | bare hstart hrest =>
      rename_i c cs
      have hnone : backtick ∉ c :: cs := by
        intro hmem
        rcases List.mem_cons.mp hmem with hsame | hmem
        · exact (ne_of_isNameStart hstart).1 hsame.symm
        · exact absurd (hrest _ hmem) (by decide)
      rw [toList_sql_bare, List.count_eq_zero.mpr hnone]
  | quoted hne hnul =>
      rw [toList_sql_quoted, List.count_cons, List.count_append, count_doubled]
      simp
      omega

theorem count_backtick_dotted (cs rest : List Char) :
    (cs ++ '.' :: rest).count backtick =
      cs.count backtick + rest.count backtick := by
  rw [List.count_append, List.count_cons_of_ne (by decide)]

theorem WellFormed.even_count {ident : Ident} (h : ident.WellFormed) :
    ident.sql.toList.count backtick % 2 = 0 := by
  refine h.induction
    (P := fun parts => (sql ⟨parts⟩).toList.count backtick % 2 = 0) ?_ ?_
  · intro part hpart
    rw [toList_sql_single]
    exact hpart.even_count
  · intro part rest hpart hrest ih
    have hleft := hpart.even_count
    have hne : rest ≠ [] := hrest.hasPart
    rw [toList_sql_cons part hne, count_backtick_dotted]
    omega

theorem Unclosed.odd_count {cs : List Char} (h : Unclosed cs) :
    cs.count backtick % 2 = 1 := by
  induction h with
  | quoted name =>
      rw [List.count_cons_self, count_doubled, if_pos rfl]
      omega
  | dotted hpart hrest ih =>
      have hleft := hpart.even_count
      rw [count_backtick_dotted]
      omega

theorem Unclosed.backtick_mem {cs : List Char} (h : Unclosed cs) :
    backtick ∈ cs := by
  have hodd := h.odd_count
  exact List.count_pos_iff.mp (by omega)

theorem Unclosed.ne_nil {cs : List Char} (h : Unclosed cs) : cs ≠ [] :=
  List.ne_nil_of_mem h.backtick_mem

/-!
## Reading
-/

theorem splitQuoted_doubled_eq_none (name : List Char) :
    splitQuoted (doubled backtick name) = none := by
  induction name with
  | nil => rfl
  | cons c cs ih =>
      rw [doubled]
      split
      · rename_i hquote
        rw [hquote, splitQuoted, if_pos rfl, if_pos rfl, ih]
        rfl
      · rename_i hother
        rw [splitQuoted_cons_of_ne hother, ih]
        rfl

theorem scanParts_of_error {whole : String} {cs : List Char} {cause : Invalid}
    (h : scanPart whole cs = .error cause) :
    scanParts whole cs = .error cause := by
  rw [scanParts]
  split <;> simp_all

theorem Unclosed.scanParts_eq {cs : List Char} (h : Unclosed cs)
    (whole : String) : scanParts whole cs = .error .unclosedQuotedPart := by
  induction h with
  | quoted name =>
      apply scanParts_of_error
      rw [scanPart, if_pos rfl, splitQuoted_doubled_eq_none]
  | dotted hpart hrest ih =>
      rename_i part rest
      have hscan : scanPart whole (part.sql.toList ++ '.' :: rest) =
          .ok (part, '.' :: rest) := scanPart_sql hpart whole (by simp)
      rw [scanParts_of_dot hscan hrest.ne_nil, ih]
      rfl

theorem Unclosed.parse_eq {text : String} (h : Unclosed text.toList)
    (hnul : '\x00' ∉ text.toList) :
    parse text = .error (.validation .unclosedQuotedPart) := by
  have hempty : text.isEmpty = false := by
    rw [Bool.eq_false_iff]
    intro hempty
    exact h.ne_nil (String.toList_eq_nil_iff.mpr (String.isEmpty_iff.mp hempty))
  have hcontains : text.toList.contains '\x00' = false := by simpa using hnul
  rw [parse, hempty, hcontains, h.scanParts_eq]
  rfl

/-!
## Marks
-/

theorem IsMark.not_mem_of_bare {c mark : Char} {cs : List Char}
    (hmark : IsMark mark) (hstart : isNameStart c = true)
    (hrest : ∀ d ∈ cs, isBareChar d = true) : mark ∉ c :: cs := by
  intro hmem
  rcases List.mem_cons.mp hmem with rfl | hmem
  · have hbare : isBareChar mark = true := by
      rw [isNameStart, Bool.or_eq_true] at hstart
      rw [isBareChar, Char.isAlphanum]
      grind
    rw [hmark.2.2] at hbare
    cases hbare
  · have hbare := hrest mark hmem
    rw [hmark.2.2] at hbare
    cases hbare

theorem exists_doubled_of_mark {mark : Char} (hmark : mark ≠ backtick)
    {name before after : List Char}
    (h : doubled backtick name ++ [backtick] = before ++ mark :: after) :
    ∃ kept, before = doubled backtick kept := by
  induction name generalizing before with
  | nil =>
      -- the closing quote alone holds no mark
      have hmem : mark ∈ [backtick] := by
        rw [doubled, List.nil_append] at h
        rw [h]
        simp
      exact absurd (List.mem_singleton.mp hmem) hmark
  | cons c cs ih =>
      rw [doubled] at h
      split at h
      · rename_i hquote
        subst hquote
        -- the quote is written twice, and the mark is neither of the two
        rcases before with _ | ⟨first, _ | ⟨second, before⟩⟩
        · exact absurd (List.cons.inj h).1.symm hmark
        · exact absurd (List.cons.inj (List.cons.inj h).2).1.symm hmark
        · rcases ih (List.cons.inj (List.cons.inj h).2).2 with ⟨kept, rfl⟩
          refine ⟨backtick :: kept, ?_⟩
          rw [doubled, if_pos rfl, ← (List.cons.inj h).1,
            ← (List.cons.inj (List.cons.inj h).2).1]
      · rename_i hother
        cases before with
        | nil => exact ⟨[], rfl⟩
        | cons first before =>
            rcases ih (List.cons.inj h).2 with ⟨kept, rfl⟩
            refine ⟨c :: kept, ?_⟩
            rw [doubled, if_neg hother, (List.cons.inj h).1]

theorem Part.WellFormed.unclosed_of_mark {part : Part} (h : part.WellFormed)
    {mark : Char} (hmark : IsMark mark) {before after : List Char}
    (hsql : part.sql.toList = before ++ mark :: after) : Unclosed before := by
  cases h with
  | bare hstart hrest =>
      have hmem : mark ∈ before ++ mark :: after := by simp
      rw [← hsql, toList_sql_bare] at hmem
      exact absurd hmem (hmark.not_mem_of_bare hstart hrest)
  | quoted hne hnul =>
      rw [toList_sql_quoted] at hsql
      cases before with
      | nil => exact absurd (List.cons.inj hsql).1.symm hmark.1
      | cons first before =>
          rcases exists_doubled_of_mark hmark.1 (List.cons.inj hsql).2 with
            ⟨kept, rfl⟩
          rw [← (List.cons.inj hsql).1]
          exact .quoted kept

theorem WellFormed.unclosed_of_mark {ident : Ident} (h : ident.WellFormed)
    {mark : Char} (hmark : IsMark mark) {before after : List Char}
    (hsql : ident.sql.toList = before ++ mark :: after) : Unclosed before := by
  refine h.induction (P := fun parts => ∀ before,
    (sql ⟨parts⟩).toList = before ++ mark :: after → Unclosed before)
    ?_ ?_ before hsql
  · intro part hpart before hsql
    rw [toList_sql_single] at hsql
    exact hpart.unclosed_of_mark hmark hsql
  · intro part rest hpart hrest ih before hsql
    rw [toList_sql_cons part hrest.hasPart] at hsql
    rcases List.append_eq_append_iff.mp hsql with
      ⟨between, hbefore, hrestSql⟩ | ⟨between, hpartSql, hafter⟩
    · cases between with
      | nil => exact absurd (List.cons.inj hrestSql).1.symm hmark.2.1
      | cons dot between =>
          rw [hbefore, ← (List.cons.inj hrestSql).1]
          exact .dotted hpart (ih between (List.cons.inj hrestSql).2)
    · cases between with
      | nil => exact absurd (List.cons.inj hafter).1 hmark.2.1
      | cons first between =>
          rw [← (List.cons.inj hafter).1] at hpartSql
          exact hpart.unclosed_of_mark hmark hpartSql

theorem WellFormed.odd_count_of_mark {ident : Ident} (h : ident.WellFormed)
    {mark : Char} (hmark : IsMark mark) {before after : List Char}
    (hsql : ident.sql.toList = before ++ mark :: after) :
    after.count backtick % 2 = 1 := by
  have hodd := (h.unclosed_of_mark hmark hsql).odd_count
  have heven := h.even_count
  rw [hsql, List.count_append, List.count_cons_of_ne hmark.1] at heven
  omega

end Ident
end SqlAssembler
