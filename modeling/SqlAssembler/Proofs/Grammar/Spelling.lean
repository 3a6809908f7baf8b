import SqlAssembler.Proofs.Grammar.Identifiers

/-!
# How identifiers are spelled

An identifier has one spelling, and reading and writing translate between the
two. A spelling is one or more parts with dots between them, where a part is a
bare name or a quoted one in which backticks come in pairs; exactly the texts of
this form are accepted.
-/

namespace SqlAssembler

open Text

namespace Ident

/-!
## Spellings
-/

inductive Paired (quote : Char) : List Char → Prop where
  | nil : Paired quote []
  | other {c : Char} {cs : List Char} (hne : c ≠ quote) (h : Paired quote cs) :
      Paired quote (c :: cs)
  | pair {cs : List Char} (h : Paired quote cs) :
      Paired quote (quote :: quote :: cs)

inductive SpelledPart : List Char → Prop where
  | bare {c : Char} {cs : List Char} (hstart : isNameStart c = true)
      (hrest : ∀ d ∈ cs, isBareChar d = true) : SpelledPart (c :: cs)
  | quoted {body : List Char} (hne : body ≠ []) (hnul : '\x00' ∉ body)
      (h : Paired backtick body) :
      SpelledPart (backtick :: (body ++ [backtick]))

inductive Spelled : List Char → Prop where
  | single {part : List Char} (hpart : SpelledPart part) : Spelled part
  | dotted {part rest : List Char} (hpart : SpelledPart part)
      (hrest : Spelled rest) : Spelled (part ++ '.' :: rest)

/-!
## Quoted names
-/

theorem paired_doubled (quote : Char) (name : List Char) :
    Paired quote (doubled quote name) := by
  induction name with
  | nil => exact .nil
  | cons c cs ih =>
      rw [doubled]
      split
      · rename_i hquote
        rw [hquote]
        exact .pair ih
      · rename_i hother
        exact .other hother ih

theorem Paired.exists_doubled {quote : Char} {body : List Char}
    (h : Paired quote body) : ∃ name, body = doubled quote name := by
  induction h with
  | nil => exact ⟨[], rfl⟩
  | other hne _ ih =>
      rcases ih with ⟨name, rfl⟩
      exact ⟨_ :: name, by rw [doubled, if_neg hne]⟩
  | pair _ ih =>
      rcases ih with ⟨name, rfl⟩
      exact ⟨quote :: name, by rw [doubled, if_pos rfl]⟩

theorem mem_doubled {quote c : Char} {name : List Char} :
    c ∈ doubled quote name ↔ c ∈ name := by
  rw [← List.count_pos_iff, ← List.count_pos_iff, count_doubled]
  split <;> omega

theorem splitQuoted_cons_of_ne {c : Char} (hne : c ≠ backtick)
    (cs : List Char) :
    splitQuoted (c :: cs) =
      (splitQuoted cs).map fun (name, rest) => (c :: name, rest) := by
  cases cs with
  | nil => simp [splitQuoted, hne]
  | cons d ds => simp [splitQuoted, hne]

theorem splitQuoted_doubled (name : List Char) {rest : List Char}
    (hrest : rest.head? ≠ some backtick) :
    splitQuoted (doubled backtick name ++ backtick :: rest) =
      some (name, rest) := by
  induction name with
  | nil =>
      cases rest with
      | nil => rfl
      | cons d ds =>
          have hd : d ≠ backtick := fun hsame => hrest (by rw [hsame]; rfl)
          simp [doubled, splitQuoted, hd]
  | cons c cs ih =>
      rw [doubled]
      split
      · rename_i hquote
        subst hquote
        simp [splitQuoted, ih]
      · rename_i hother
        rw [List.cons_append, splitQuoted_cons_of_ne hother, ih]
        rfl

theorem eq_doubled_of_splitQuoted {cs name rest : List Char}
    (h : splitQuoted cs = some (name, rest)) :
    cs = doubled backtick name ++ backtick :: rest := by
  fun_induction splitQuoted cs generalizing name rest with
  | case1 => cases h
  | case2 =>
      cases h
      rfl
  | case3 => cases h
  | case4 more ih =>
      rcases Option.map_eq_some_iff.mp h with ⟨⟨inner, after⟩, hinner, heq⟩
      cases heq
      rw [doubled, if_pos rfl, ih hinner]
      rfl
  | case5 d more hne =>
      cases h
      rfl
  | case6 c d more hne ih =>
      rcases Option.map_eq_some_iff.mp h with ⟨⟨inner, after⟩, hinner, heq⟩
      cases heq
      rw [doubled, if_neg hne, ih hinner]
      rfl

/-!
## Parts
-/

theorem ne_of_isNameStart {c : Char} (h : isNameStart c = true) :
    c ≠ backtick ∧ c ≠ '.' ∧ c ≠ '\x00' := by
  refine ⟨?_, ?_, ?_⟩ <;> rintro rfl <;> exact absurd h (by decide)

theorem ne_of_isBareChar {c : Char} (h : isBareChar c = true) :
    c ≠ '.' ∧ c ≠ '\x00' := by
  refine ⟨?_, ?_⟩ <;> rintro rfl <;> exact absurd h (by decide)

theorem badBareChar?_eq_none {c : Char} {cs : List Char}
    (hstart : isNameStart c = true) (hrest : ∀ d ∈ cs, isBareChar d = true) :
    badBareChar? (c :: cs) = none := by
  rw [badBareChar?, if_pos hstart, List.find?_eq_none]
  intro d hd
  simp [hrest d hd]

theorem Part.toList_sql_bare (cs : List Char) :
    (Part.sql ⟨String.ofList cs, false⟩).toList = cs :=
  String.toList_ofList

theorem Part.toList_sql_quoted (name : String) :
    (Part.sql ⟨name, true⟩).toList =
      backtick :: (doubled backtick name.toList ++ [backtick]) :=
  String.toList_ofList

theorem scanPart_sql {part : Part} (h : part.WellFormed) (whole : String)
    {rest : List Char} (hrest : ∀ c ∈ rest.head?, c = '.') :
    scanPart whole (part.sql.toList ++ rest) = .ok (part, rest) := by
  cases h with
  | bare hstart hchars =>
      rename_i c cs
      have hdots : ∀ d ∈ cs, decide (d ≠ '.') = true := fun d hd =>
        decide_eq_true (ne_of_isBareChar (hchars d hd)).1
      have hstop : rest.takeWhile (· ≠ '.') = [] ∧
          rest.dropWhile (· ≠ '.') = rest := by
        cases rest with
        | nil => exact ⟨rfl, rfl⟩
        | cons d ds => simp [hrest d rfl]
      have htake : (cs ++ rest).takeWhile (· ≠ '.') = cs := by
        rw [List.takeWhile_append_of_pos hdots, hstop.1, List.append_nil]
      have hdrop : (cs ++ rest).dropWhile (· ≠ '.') = rest := by
        rw [List.dropWhile_append_of_pos hdots, hstop.2]
      rcases ne_of_isNameStart hstart with ⟨hquote, hdot, _⟩
      rw [Part.toList_sql_bare, List.cons_append, scanPart, if_neg hquote,
        if_neg hdot]
      simp only [htake, hdrop, badBareChar?_eq_none hstart hchars]
  | quoted hne hnul =>
      rename_i name
      have hhead : rest.head? ≠ some backtick := by
        intro hsame
        exact absurd (hrest backtick hsame) (by decide)
      have hsplit : splitQuoted
          (doubled backtick name.toList ++ [backtick] ++ rest) =
            some (name.toList, rest) := by
        rw [List.append_assoc]
        exact splitQuoted_doubled name.toList hhead
      rw [Part.toList_sql_quoted, List.cons_append, scanPart, if_pos rfl,
        hsplit]
      cases hname : name.toList with
      | nil => exact absurd (String.toList_eq_nil_iff.mp hname) hne
      | cons c cs =>
          dsimp only
          rw [← hname, String.ofList_toList]

theorem eq_sql_of_scanPart {whole : String} {cs rest : List Char} {part : Part}
    (h : scanPart whole cs = .ok (part, rest)) :
    cs = part.sql.toList ++ rest := by
  cases cs with
  | nil => cases h
  | cons c cs =>
      rw [scanPart] at h
      split at h
      · rename_i hquote
        split at h
        · cases h
        · cases h
        · rename_i name after _ hsplit
          cases h
          rw [Part.toList_sql_quoted, String.toList_ofList, hquote,
            eq_doubled_of_splitQuoted hsplit]
          simp
      · split at h
        · cases h
        · dsimp only at h
          split at h
          · cases h
          · cases h
            rw [Part.toList_sql_bare, List.cons_append,
              List.takeWhile_append_dropWhile]

theorem Part.WellFormed.spelled {part : Part} (h : part.WellFormed) :
    SpelledPart part.sql.toList := by
  cases h with
  | bare hstart hrest =>
      rw [Part.toList_sql_bare]
      exact .bare hstart hrest
  | quoted hne hnul =>
      rename_i name
      rw [Part.toList_sql_quoted]
      refine .quoted ?_ (fun hmem => hnul (mem_doubled.mp hmem))
        (paired_doubled backtick name.toList)
      intro hnil
      cases hname : name.toList with
      | nil => exact hne (String.toList_eq_nil_iff.mp hname)
      | cons c cs =>
          rw [hname, doubled] at hnil
          split at hnil <;> cases hnil

theorem SpelledPart.exists_part {cs : List Char} (h : SpelledPart cs) :
    ∃ part : Part, part.WellFormed ∧ part.sql.toList = cs := by
  cases h with
  | bare hstart hrest =>
      exact ⟨_, .bare hstart hrest, Part.toList_sql_bare _⟩
  | quoted hne hnul hpaired =>
      rcases hpaired.exists_doubled with ⟨name, rfl⟩
      refine ⟨⟨String.ofList name, true⟩, .quoted ?_ ?_, ?_⟩
      · intro hempty
        rw [String.ofList_eq_empty_iff.mp hempty] at hne
        exact hne rfl
      · rw [String.toList_ofList]
        exact fun hmem => hnul (mem_doubled.mpr hmem)
      · rw [Part.toList_sql_quoted, String.toList_ofList]

theorem Part.WellFormed.sql_ne_nil {part : Part} (h : part.WellFormed) :
    part.sql.toList ≠ [] := by
  cases h with
  | bare hstart hrest =>
      rw [Part.toList_sql_bare]
      exact List.cons_ne_nil _ _
  | quoted hne hnul =>
      rw [Part.toList_sql_quoted]
      exact List.cons_ne_nil _ _

theorem Part.WellFormed.nul_not_mem {part : Part} (h : part.WellFormed) :
    '\x00' ∉ part.sql.toList := by
  cases h with
  | bare hstart hrest =>
      rw [Part.toList_sql_bare]
      intro hmem
      rcases List.mem_cons.mp hmem with hsame | hmem
      · exact (ne_of_isNameStart hstart).2.2 hsame.symm
      · exact (ne_of_isBareChar (hrest _ hmem)).2 rfl
  | quoted hne hnul =>
      rw [Part.toList_sql_quoted]
      intro hmem
      rcases List.mem_cons.mp hmem with hsame | hmem
      · exact absurd hsame (by decide)
      · rcases List.mem_append.mp hmem with hname | hquote
        · exact hnul (mem_doubled.mp hname)
        · exact absurd (List.mem_singleton.mp hquote) (by decide)

/-!
## Whole identifiers
-/

theorem toList_sql_single (part : Part) :
    (sql ⟨[part]⟩).toList = part.sql.toList := by
  rw [sql, List.map_singleton, String.intercalate_singleton]

theorem toList_sql_cons (part : Part) {rest : List Part} (hrest : rest ≠ []) :
    (sql ⟨part :: rest⟩).toList =
      part.sql.toList ++ '.' :: (sql ⟨rest⟩).toList := by
  have hne : rest.map Part.sql ≠ [] := by simpa using hrest
  rw [sql, List.map_cons, String.intercalate_cons_of_ne_nil hne, sql]
  simp

theorem WellFormed.induction {P : List Part → Prop}
    (single : ∀ part : Part, part.WellFormed → P [part])
    (dotted : ∀ (part : Part) (rest : List Part), part.WellFormed →
      WellFormed ⟨rest⟩ → P rest → P (part :: rest))
    {ident : Ident} (h : ident.WellFormed) : P ident.parts := by
  rcases ident with ⟨parts⟩
  induction parts with
  | nil => exact absurd rfl h.hasPart
  | cons part rest ih =>
      have hpart := h.parts part List.mem_cons_self
      cases rest with
      | nil => exact single part hpart
      | cons other others =>
          have hrest : WellFormed ⟨other :: others⟩ :=
            ⟨by simp, fun another hmem =>
              h.parts another (List.mem_cons_of_mem part hmem)⟩
          exact dotted part (other :: others) hpart hrest (ih hrest)

theorem WellFormed.sql_ne_nil {ident : Ident} (h : ident.WellFormed) :
    ident.sql.toList ≠ [] := by
  refine h.induction (P := fun parts => (sql ⟨parts⟩).toList ≠ []) ?_ ?_
  · intro part hpart
    rw [toList_sql_single]
    exact hpart.sql_ne_nil
  · intro part rest _ hrest _
    rw [toList_sql_cons part hrest.hasPart]
    simp

theorem WellFormed.nul_not_mem {ident : Ident} (h : ident.WellFormed) :
    '\x00' ∉ ident.sql.toList := by
  refine h.induction (P := fun parts => '\x00' ∉ (sql ⟨parts⟩).toList) ?_ ?_
  · intro part hpart
    rw [toList_sql_single]
    exact hpart.nul_not_mem
  · intro part rest hpart hrest ih
    rw [toList_sql_cons part hrest.hasPart]
    intro hmem
    rcases List.mem_append.mp hmem with hleft | hright
    · exact hpart.nul_not_mem hleft
    · rcases List.mem_cons.mp hright with hdot | hright
      · exact absurd hdot (by decide)
      · exact ih hright

theorem scanParts_of_end {whole : String} {cs : List Char} {part : Part}
    (h : scanPart whole cs = .ok (part, [])) :
    scanParts whole cs = .ok [part] := by
  rw [scanParts]
  split <;> simp_all

theorem scanParts_of_dot {whole : String} {cs rest : List Char} {part : Part}
    (h : scanPart whole cs = .ok (part, '.' :: rest)) (hrest : rest ≠ []) :
    scanParts whole cs = (scanParts whole rest).map (part :: ·) := by
  rw [scanParts]
  split <;> simp_all

theorem scanParts_sql {ident : Ident} (h : ident.WellFormed) (whole : String) :
    scanParts whole ident.sql.toList = .ok ident.parts := by
  refine h.induction
    (P := fun parts => scanParts whole (sql ⟨parts⟩).toList = .ok parts) ?_ ?_
  · intro part hpart
    have hscan : scanPart whole (part.sql.toList ++ []) = .ok (part, []) :=
      scanPart_sql hpart whole (by simp)
    rw [List.append_nil] at hscan
    rw [toList_sql_single]
    exact scanParts_of_end hscan
  · intro part rest hpart hrest ih
    have hscan : scanPart whole
        (part.sql.toList ++ '.' :: (sql ⟨rest⟩).toList) =
          .ok (part, '.' :: (sql ⟨rest⟩).toList) :=
      scanPart_sql hpart whole (by simp)
    rw [toList_sql_cons part hrest.hasPart,
      scanParts_of_dot hscan hrest.sql_ne_nil, ih]
    rfl

theorem eq_sql_of_scanParts {whole : String} {cs : List Char}
    {parts : List Part} (h : scanParts whole cs = .ok parts) :
    cs = (sql ⟨parts⟩).toList := by
  fun_induction scanParts whole cs generalizing parts with
  | case1 cs cause hpart => cases h
  | case2 cs part hpart =>
      cases h
      rw [toList_sql_single, eq_sql_of_scanPart hpart, List.append_nil]
  | case3 cs part hpart => cases h
  | case4 cs part rest hne hpart ih =>
      rcases map_eq_ok_iff.mp h with ⟨others, hscan, rfl⟩
      have hrest := ih hscan
      have hothers : others ≠ [] := by
        rintro rfl
        exact hne hrest
      rw [toList_sql_cons part hothers, ← hrest]
      exact eq_sql_of_scanPart hpart
  | case5 cs part c rest hpart hdot => cases h

theorem WellFormed.parse_sql {ident : Ident} (h : ident.WellFormed) :
    parse ident.sql = .ok ident := by
  have hempty : ident.sql.isEmpty = false := by
    rw [Bool.eq_false_iff]
    intro hempty
    exact h.sql_ne_nil (String.toList_eq_nil_iff.mpr
      (String.isEmpty_iff.mp hempty))
  have hnul : ident.sql.toList.contains '\x00' = false := by
    simpa using h.nul_not_mem
  rw [parse, hempty, hnul, scanParts_sql h]
  rfl

theorem sql_of_parse {text : String} {ident : Ident}
    (h : parse text = .ok ident) : ident.sql = text := by
  rw [parse] at h
  split at h
  · cases h
  · split at h
    · cases h
    · split at h
      · cases h
      · rename_i parts hscan
        cases h
        exact String.toList_inj.mp (eq_sql_of_scanParts hscan).symm

theorem parse_eq_ok_iff {text : String} {ident : Ident} :
    parse text = .ok ident ↔ ident.WellFormed ∧ ident.sql = text := by
  constructor
  · intro h
    exact ⟨wellFormed_of_parse h, sql_of_parse h⟩
  · rintro ⟨h, rfl⟩
    exact h.parse_sql

theorem WellFormed.spelled {ident : Ident} (h : ident.WellFormed) :
    Spelled ident.sql.toList := by
  refine h.induction (P := fun parts => Spelled (sql ⟨parts⟩).toList) ?_ ?_
  · intro part hpart
    rw [toList_sql_single]
    exact .single hpart.spelled
  · intro part rest hpart hrest ih
    rw [toList_sql_cons part hrest.hasPart]
    exact .dotted hpart.spelled ih

theorem Spelled.exists_ident {cs : List Char} (h : Spelled cs) :
    ∃ ident : Ident, ident.WellFormed ∧ ident.sql.toList = cs := by
  induction h with
  | single hpart =>
      rcases hpart.exists_part with ⟨part, hwell, hsql⟩
      refine ⟨⟨[part]⟩, ⟨by simp, ?_⟩, ?_⟩
      · intro other hother
        rw [List.mem_singleton.mp hother]
        exact hwell
      · rw [toList_sql_single, hsql]
  | dotted hpart _ ih =>
      rcases hpart.exists_part with ⟨part, hwell, hsql⟩
      rcases ih with ⟨⟨rest⟩, hrest, hsqlRest⟩
      refine ⟨⟨part :: rest⟩, ⟨by simp, ?_⟩, ?_⟩
      · intro other hother
        rcases List.mem_cons.mp hother with rfl | hmem
        · exact hwell
        · exact hrest.parts other hmem
      · rw [toList_sql_cons part hrest.hasPart, hsql, hsqlRest]

/-- The texts that are accepted are the spellings. -/
theorem exists_parse_iff_spelled {text : String} :
    (∃ ident, parse text = .ok ident) ↔ Spelled text.toList := by
  constructor
  · rintro ⟨ident, h⟩
    rw [← sql_of_parse h]
    exact (wellFormed_of_parse h).spelled
  · intro h
    rcases h.exists_ident with ⟨ident, hwell, hsql⟩
    exact ⟨ident, parse_eq_ok_iff.mpr ⟨hwell, String.toList_inj.mp hsql⟩⟩

/-- Exactly the spellings are accepted, each is written again as it was read,
and what was well formed is read back from what is written of it, with a
qualifier or without. -/
theorem parse_inverse_sql :
    (∀ text, (∃ ident, parse text = .ok ident) ↔ Spelled text.toList) ∧
    (∀ text ident, parse text = .ok ident → ident.sql = text) ∧
    (∀ ident : Ident, ident.WellFormed → parse ident.sql = .ok ident) ∧
    ∀ ident qualifier : Ident, ident.WellFormed → qualifier.WellFormed →
      parse (ident.qualifiedBy qualifier).sql =
        .ok ⟨qualifier.parts ++ ident.parts⟩ := by
  refine ⟨fun text => exists_parse_iff_spelled, fun text ident => sql_of_parse,
    fun ident => WellFormed.parse_sql, ?_⟩
  intro ident qualifier hident hqualifier
  exact (hident.qualifiedBy hqualifier).parse_sql

/-- A quoted name with a backtick and a dot in it, behind a bare one. -/
theorem parse_inverse_sql_of_quoted_dot :
    WellFormed ⟨[⟨"a`.b", true⟩]⟩ ∧ WellFormed ⟨[⟨"shop", false⟩]⟩ ∧
    (qualifiedBy ⟨[⟨"a`.b", true⟩]⟩ ⟨[⟨"shop", false⟩]⟩).sql =
      "shop.`a``.b`" ∧
    parse "shop.`a``.b`" = .ok ⟨[⟨"shop", false⟩, ⟨"a`.b", true⟩]⟩ := by
  have hquoted : WellFormed ⟨[⟨"a`.b", true⟩]⟩ := by
    refine ⟨by decide, fun part hpart => ?_⟩
    rw [List.mem_singleton.mp hpart]
    exact .quoted (by decide) (by decide)
  have hbare : WellFormed ⟨[⟨"shop", false⟩]⟩ := by
    refine ⟨by decide, fun part hpart => ?_⟩
    rw [List.mem_singleton.mp hpart]
    exact wellFormed_of_badBareChar? (by decide : "shop".toList ≠ [])
      (by decide)
  have hsql : (qualifiedBy ⟨[⟨"a`.b", true⟩]⟩ ⟨[⟨"shop", false⟩]⟩).sql =
      "shop.`a``.b`" := by decide
  refine ⟨hquoted, hbare, hsql, ?_⟩
  rw [← hsql]
  exact parse_inverse_sql.2.2.2 _ _ hquoted hbare

end Ident
end SqlAssembler
