import SqlAssembler.Proofs.Grammar.PlainColumns

/-!
# How columns are spelled

A column is spelled as an identifier without an arrow, or as one with an arrow
behind it and a path. The first arrow may have a second point, the keys of the
path stand between arrows and dots, and there may be blanks around the
identifier and around each key. Exactly the texts of this form are read as
columns, the spelling does not show in the result, and all other texts are
invalid.
-/

namespace SqlAssembler

open Text

/-!
## Blanks around a text
-/

namespace Text

def Padded (text padded : List Char) : Prop :=
  ∃ before after, padded = before ++ text ++ after ∧
    (∀ c ∈ before, isBlank c = true) ∧ ∀ c ∈ after, isBlank c = true

theorem padded_of_all {text : List Char} (before after : List Char)
    (hbefore : before.all isBlank = true) (hafter : after.all isBlank = true) :
    Padded text (before ++ text ++ after) :=
  ⟨before, after, rfl, List.all_eq_true.mp hbefore,
    List.all_eq_true.mp hafter⟩

theorem padded_trim (cs : List Char) : Padded (trim cs) cs := by
  rcases exists_trimEnd (trimStart cs) with ⟨after, hsplit, hafter⟩
  refine ⟨cs.takeWhile isBlank, after, ?_, ?_, hafter⟩
  · rw [List.append_assoc, trim, ← hsplit, trimStart,
      List.takeWhile_append_dropWhile]
  · intro c hc
    exact List.mem_takeWhile_imp hc

theorem trimEnd_append_blanks {blanks : List Char} (text : List Char)
    (h : ∀ c ∈ blanks, isBlank c = true) :
    trimEnd (text ++ blanks) = trimEnd text := by
  rw [trimEnd, List.reverse_append, List.dropWhile_append_of_pos, trimEnd]
  intro c hc
  exact h c (List.mem_reverse.mp hc)

theorem Padded.trim_eq {text padded : List Char} (h : Padded text padded) :
    trim padded = trim text := by
  rcases h with ⟨before, after, rfl, hbefore, hafter⟩
  have hstart : trimStart (before ++ text ++ after) =
      trimStart (text ++ after) := by
    rw [List.append_assoc, trimStart, List.dropWhile_append_of_pos hbefore,
      trimStart]
  rw [trim, hstart, trim, trimStart, List.dropWhile_append]
  split
  · rename_i hempty
    rw [List.isEmpty_iff] at hempty
    have hblanks : after.dropWhile isBlank = [] :=
      List.dropWhile_eq_nil_iff.mpr hafter
    rw [hblanks, trimStart, hempty]
  · rw [trimEnd_append_blanks _ hafter, trimStart]

theorem trim_of_visible {cs : List Char} (h : ∀ c ∈ cs, isBlank c = false) :
    trim cs = cs := by
  have hkept : ∀ ds : List Char, (∀ c ∈ ds, isBlank c = false) →
      ds.dropWhile isBlank = ds := by
    intro ds hds
    cases ds with
    | nil => rfl
    | cons d ds =>
        exact trimStart_of_visible (hds d List.mem_cons_self) ds
  rw [trim, trimStart, hkept cs h, trimEnd, hkept, List.reverse_reverse]
  intro c hc
  exact h c (List.mem_reverse.mp hc)

theorem padded_iff {text padded : List Char} (htext : trim text = text) :
    Padded text padded ↔ trim padded = text := by
  constructor
  · intro h
    rw [h.trim_eq, htext]
  · rintro rfl
    exact padded_trim padded

theorem infix_of_append {a b : Char} {front rest : List Char} (ha : a ∉ front)
    (h : [a, b] <:+: front ++ rest) : [a, b] <:+: rest := by
  induction front with
  | nil => exact h
  | cons c cs ih =>
      rcases List.infix_cons_iff.mp h with hprefix | hinfix
      · have hsame := (List.cons_prefix_cons.mp hprefix).1
        exact absurd (List.mem_cons.mpr (.inl hsame)) ha
      · exact ih (fun hmem => ha (List.mem_cons_of_mem c hmem)) hinfix

theorem Padded.arrow_infix_iff {text padded : List Char}
    (h : Padded text padded) :
    ['-', '>'] <:+: padded ↔ ['-', '>'] <:+: text := by
  rcases h with ⟨before, after, rfl, hbefore, hafter⟩
  have hdash : '-' ∉ before := fun hmem =>
    absurd (hbefore _ hmem) (by decide)
  have hpoint : '>' ∉ after.reverse := fun hmem =>
    absurd (hafter _ (List.mem_reverse.mp hmem)) (by decide)
  constructor
  · intro hinfix
    rw [← List.reverse_infix, List.reverse_append] at hinfix
    have hfront := infix_of_append hpoint hinfix
    rw [← List.reverse_infix, List.reverse_reverse] at hfront
    exact infix_of_append hdash hfront
  · intro hinfix
    exact hinfix.trans ⟨before, after, rfl⟩

end Text

namespace Column

/-!
## Spellings
-/

structure SpelledKey (key : String) (cs : List Char) : Prop where
  padded : Padded key.toList cs
  nonempty : key ≠ ""
  nameChars : ∀ c ∈ key.toList, isNameChar c = true

theorem spelledKey_of_all {key : String} (before after : List Char)
    (hbefore : before.all isBlank = true) (hafter : after.all isBlank = true)
    (hnonempty : key ≠ "") (hnames : key.toList.all isNameChar = true) :
    SpelledKey key (before ++ key.toList ++ after) :=
  ⟨padded_of_all before after hbefore hafter, hnonempty,
    List.all_eq_true.mp hnames⟩

inductive SpelledPath : List String → List Char → Prop where
  | single {key : String} {cs : List Char} (h : SpelledKey key cs) :
      SpelledPath [key] cs
  | dot {key : String} {keys : List String} {cs rest : List Char}
      (h : SpelledKey key cs) (hrest : SpelledPath keys rest) :
      SpelledPath (key :: keys) (cs ++ '.' :: rest)
  | arrow {key : String} {keys : List String} {cs rest : List Char}
      (h : SpelledKey key cs) (hrest : SpelledPath keys rest) :
      SpelledPath (key :: keys) (cs ++ '-' :: '>' :: rest)

/-- A text, and a path behind the first arrow after it, in either form of the
arrow. -/
inductive SpelledExtraction (base : List Char) (path : List String) :
    List Char → Prop where
  | arrow {padded keys : List Char} (hbase : Padded base padded)
      (hpath : SpelledPath path keys) :
      SpelledExtraction base path (padded ++ '-' :: '>' :: keys)
  | textArrow {padded keys : List Char} (hbase : Padded base padded)
      (hpath : SpelledPath path keys) :
      SpelledExtraction base path (padded ++ '-' :: '>' :: '>' :: keys)

/-!
## Keys
-/

theorem isBlank_of_isNameChar {c : Char} (h : isNameChar c = true) :
    isBlank c = false := by
  rw [Bool.eq_false_iff]
  intro hblank
  have hmark := (Ident.isMark_of_isBlank hblank).2.2
  rw [isBareChar_of_isNameChar h] at hmark
  cases hmark

variable {key : String} {cs : List Char}

theorem SpelledKey.trim_eq (h : SpelledKey key cs) : trim cs = key.toList := by
  rw [h.padded.trim_eq]
  exact trim_of_visible fun c hc => isBlank_of_isNameChar (h.nameChars c hc)

theorem parseKey_eq_ok_iff {path : String} :
    parseKey path cs = .ok key ↔ SpelledKey key cs := by
  constructor
  · intro h
    have hnames := nameChars_of_parseKey h
    simp only [parseKey] at h
    split at h
    · cases h
    · rename_i hempty
      split at h
      · cases h
        refine ⟨?_, ?_, hnames⟩
        · rw [String.toList_ofList]
          exact padded_trim cs
        · intro hkey
          rw [String.ofList_eq_empty_iff] at hkey
          exact hempty (List.isEmpty_iff.mpr hkey)
      · cases h
  · intro h
    have hempty : key.toList.isEmpty = false := by
      rw [Bool.eq_false_iff]
      intro hempty
      exact h.nonempty
        (String.toList_eq_nil_iff.mp (List.isEmpty_iff.mp hempty))
    have hall : key.toList.all isNameChar = true :=
      List.all_eq_true.mpr h.nameChars
    simp [parseKey, h.trim_eq, hempty, hall]

theorem SpelledKey.ne_separator (h : SpelledKey key cs) :
    ∀ c ∈ cs, c ≠ '-' ∧ c ≠ '>' ∧ c ≠ '.' := by
  intro c hc
  rcases h.padded with ⟨before, after, rfl, hbefore, hafter⟩
  have hblank : isBlank c = true → c ≠ '-' ∧ c ≠ '>' ∧ c ≠ '.' := by
    intro hblank
    refine ⟨?_, ?_, ?_⟩ <;> rintro rfl <;> exact absurd hblank (by decide)
  rcases List.mem_append.mp hc with hc | hc
  · rcases List.mem_append.mp hc with hc | hc
    · exact hblank (hbefore c hc)
    · have hname := h.nameChars c hc
      refine ⟨?_, ?_, ?_⟩ <;> rintro rfl <;> exact absurd hname (by decide)
  · exact hblank (hafter c hc)

/-!
## Paths
-/

theorem splitKeys_cons {c : Char} (hdash : c ≠ '-') (hdot : c ≠ '.')
    (cs : List Char) : splitKeys (c :: cs) = consFirst c (splitKeys cs) := by
  cases cs with
  | nil => simp [splitKeys, consFirst, hdot]
  | cons d ds => simp [splitKeys, hdash, hdot]

theorem splitKeys_dot (cs : List Char) :
    splitKeys ('.' :: cs) = [] :: splitKeys cs := by
  cases cs with
  | nil => rfl
  | cons d ds => simp [splitKeys]

theorem splitKeys_arrow (cs : List Char) :
    splitKeys ('-' :: '>' :: cs) = [] :: splitKeys cs := by
  simp [splitKeys]

theorem splitKeys_append {front rest : List Char} {others : List (List Char)}
    (h : ∀ c ∈ front, c ≠ '-' ∧ c ≠ '>' ∧ c ≠ '.')
    (hrest : splitKeys rest = [] :: others) :
    splitKeys (front ++ rest) = front :: others := by
  induction front with
  | nil => exact hrest
  | cons c cs ih =>
      rcases h c List.mem_cons_self with ⟨hdash, _, hdot⟩
      have hcs := ih fun d hd => h d (List.mem_cons_of_mem c hd)
      rw [List.cons_append, splitKeys_cons hdash hdot, hcs]
      rfl

theorem splitKeys_cases {first : List Char} {others : List (List Char)}
    (h : splitKeys cs = first :: others) :
    (cs = first ∧ others = []) ∨
      ∃ rest, splitKeys rest = others ∧
        (cs = first ++ '.' :: rest ∨ cs = first ++ '-' :: '>' :: rest) := by
  fun_induction splitKeys cs generalizing first others with
  | case1 =>
      cases h
      exact .inl ⟨rfl, rfl⟩
  | case2 =>
      cases h
      exact .inr ⟨[], rfl, .inl rfl⟩
  | case3 c hdot =>
      cases h
      exact .inl ⟨rfl, rfl⟩
  | case4 c d rest harrow =>
      cases h
      rw [harrow.1, harrow.2]
      exact .inr ⟨rest, rfl, .inr rfl⟩
  | case5 d rest harrow ih =>
      cases h
      exact .inr ⟨d :: rest, rfl, .inl rfl⟩
  | case6 c d rest harrow hdot ih =>
      cases hsplit : splitKeys (d :: rest) with
      | nil => exact absurd hsplit (splitKeys_ne_nil (d :: rest))
      | cons segment segments =>
          rw [hsplit, consFirst] at h
          cases h
          rcases ih hsplit with ⟨hsame, hothers⟩ | ⟨more, hmore, hsame | hsame⟩
          · exact .inl ⟨by rw [hsame], hothers⟩
          · exact .inr ⟨more, hmore, .inl (by rw [hsame]; rfl)⟩
          · exact .inr ⟨more, hmore, .inr (by rw [hsame]; rfl)⟩

theorem spelledPath_of_keys {whole : String} {path : List String}
    (h : (splitKeys cs).map (parseKey whole) = path.map Except.ok) :
    SpelledPath path cs := by
  induction path generalizing cs with
  | nil => exact absurd (List.map_eq_nil_iff.mp h) (splitKeys_ne_nil cs)
  | cons key keys ih =>
      rcases List.map_eq_cons_iff.mp h with
        ⟨first, others, hsplit, hfirst, hothers⟩
      have hkey := parseKey_eq_ok_iff.mp hfirst
      rcases splitKeys_cases hsplit with
        ⟨rfl, rfl⟩ | ⟨rest, hrest, rfl | rfl⟩
      · cases keys with
        | nil => exact .single hkey
        | cons other keys => cases hothers
      · exact .dot hkey (ih (hrest ▸ hothers))
      · exact .arrow hkey (ih (hrest ▸ hothers))

theorem SpelledPath.map_splitKeys {path : List String}
    (h : SpelledPath path cs) (whole : String) :
    (splitKeys cs).map (parseKey whole) = path.map Except.ok := by
  induction h with
  | single hkey =>
      have hend : splitKeys [] = [[]] := rfl
      have hsplit := splitKeys_append hkey.ne_separator hend
      rw [List.append_nil] at hsplit
      rw [hsplit, List.map_singleton, parseKey_eq_ok_iff.mpr hkey]
      rfl
  | dot hkey _ ih =>
      rw [splitKeys_append hkey.ne_separator (splitKeys_dot _), List.map_cons,
        ih, parseKey_eq_ok_iff.mpr hkey, List.map_cons]
  | arrow hkey _ ih =>
      rw [splitKeys_append hkey.ne_separator (splitKeys_arrow _),
        List.map_cons, ih, parseKey_eq_ok_iff.mpr hkey, List.map_cons]

theorem parsePath_eq_ok_iff {path : List String} :
    parsePath cs = .ok path ↔ SpelledPath path cs := by
  rw [parsePath, mapM_eq_ok_iff]
  constructor
  · exact spelledPath_of_keys
  · intro h
    exact h.map_splitKeys _

theorem SpelledPath.dropArrowTail_eq {path : List String}
    (h : SpelledPath path cs) : dropArrowTail cs = cs := by
  have hkey : ∀ {key cs} (rest : List Char), SpelledKey key cs →
      dropArrowTail (cs ++ rest) = cs ++ rest := by
    intro key cs rest hkey
    cases cs with
    | nil =>
        have hnil := hkey.trim_eq
        exact absurd (String.toList_eq_nil_iff.mp hnil.symm) hkey.nonempty
    | cons c cs =>
        have hc := (hkey.ne_separator c List.mem_cons_self).2.1
        rw [List.cons_append, dropArrowTail, if_neg hc]
  cases h with
  | single h =>
      have hdrop := hkey [] h
      rwa [List.append_nil] at hdrop
  | dot h _ => exact hkey _ h
  | arrow h _ => exact hkey _ h

/-!
## The first arrow
-/

theorem cutArrow_append {before : List Char} (h : ¬['-', '>'] <:+: before)
    (after : List Char) :
    cutArrow (before ++ '-' :: '>' :: after) = some (before, after) := by
  rw [← cutArrow_eq_none_iff] at h
  fun_induction cutArrow before with
  | case1 => simp [cutArrow]
  | case2 c => simp [cutArrow]
  | case3 c d rest harrow => cases h
  | case4 c d rest harrow ih =>
      have hrest := ih (Option.map_eq_none_iff.mp h)
      rw [List.cons_append, List.cons_append, cutArrow, if_neg harrow,
        ← List.cons_append, hrest]
      rfl

theorem not_arrow_infix_of_cutArrow {before after : List Char}
    (h : cutArrow cs = some (before, after)) : ¬['-', '>'] <:+: before := by
  rw [← cutArrow_eq_none_iff]
  fun_induction cutArrow cs generalizing before after with
  | case1 => cases h
  | case2 c => cases h
  | case3 c d rest harrow =>
      cases h
      rfl
  | case4 c d rest harrow ih =>
      rcases Option.map_eq_some_iff.mp h with ⟨⟨inner, behind⟩, hinner, hsame⟩
      cases hsame
      have hnone := ih hinner
      have hrest := eq_of_cutArrow hinner
      cases inner with
      | nil => rfl
      | cons first more =>
          have hfirst : d = first := (List.cons.inj hrest).1
          rw [cutArrow, if_neg (hfirst ▸ harrow), hnone]
          rfl

theorem spelledExtraction_iff {base : List Char} {path : List String}
    (hbase : trim base = base) (harrow : ¬['-', '>'] <:+: base) :
    SpelledExtraction base path cs ↔ ∃ before after,
      cutArrow cs = some (before, after) ∧ trim before = base ∧
        SpelledPath path (dropArrowTail after) := by
  constructor
  · intro h
    cases h with
    | arrow hpadded hpath =>
        have hfront := mt hpadded.arrow_infix_iff.mp harrow
        refine ⟨_, _, cutArrow_append hfront _,
          (padded_iff hbase).mp hpadded, ?_⟩
        rw [hpath.dropArrowTail_eq]
        exact hpath
    | textArrow hpadded hpath =>
        have hfront := mt hpadded.arrow_infix_iff.mp harrow
        exact ⟨_, _, cutArrow_append hfront _,
          (padded_iff hbase).mp hpadded, hpath⟩
  · rintro ⟨before, after, hcut, htrim, hpath⟩
    have hpadded := (padded_iff hbase).mpr htrim
    rw [eq_of_cutArrow hcut]
    cases after with
    | nil => exact .arrow hpadded hpath
    | cons c rest =>
        rw [dropArrowTail] at hpath
        split at hpath
        · rename_i hpoint
          rw [hpoint]
          exact .textArrow hpadded hpath
        · exact .arrow hpadded hpath

/-!
## Whole columns
-/

theorem trim_of_parse {text : List Char} {ident : Ident}
    (h : Ident.parse (String.ofList text) = .ok ident) : trim text = text := by
  have hsql := Ident.sql_of_parse h
  have htrim := (Ident.wellFormed_of_parse h).trim_sql
  rwa [hsql, String.toList_ofList] at htrim

section

variable {settings : Settings} {table : Option Ident} {raw : String}
  {column : Column}

theorem parse_of_cut {before after : List Char}
    (hcut : cutArrow (trim raw.toList) = some (before, after)) :
    parse settings table raw = .ok column ↔ ∃ ident path,
      Ident.parse (String.ofList (trim before)) = .ok ident ∧
        SpelledPath path (dropArrowTail after) ∧
        column = .json (qualify settings table ident) path none := by
  have hempty : (trim raw.toList).isEmpty = false := by
    rw [eq_of_cutArrow hcut]
    simp
  rw [parse, parseExpression, hempty, hcut]
  cases hident : Ident.parse (String.ofList (trim before)) with
  | error error => simp [hident]
  | ok ident =>
      cases hpath : parsePath (dropArrowTail after) with
      | error cause => simp [hident, ← parsePath_eq_ok_iff, hpath]
      | ok path => simp [hident, ← parsePath_eq_ok_iff, hpath, eq_comm]

theorem parse_of_uncut (hcut : cutArrow (trim raw.toList) = none) :
    parse settings table raw = .ok column ↔ ∃ ident,
      Ident.parse (String.ofList (trim raw.toList)) = .ok ident ∧
        column = .plain (qualify settings table ident) none := by
  rw [parse, parseExpression, hcut]
  cases hempty : (trim raw.toList).isEmpty with
  | true =>
      have hident : Ident.parse "" = .error (.validation .emptyIdent) := rfl
      simp [List.isEmpty_iff.mp hempty, hident]
  | false =>
      cases hident : Ident.parse (String.ofList (trim raw.toList)) with
      | error error => simp
      | ok ident => simp [eq_comm]

end

end Column

/-!
## Refusals
-/

theorem Ident.validation_of_parse {text : String} {error : Error}
    (h : parse text = .error error) : ∃ cause, error = .validation cause := by
  rw [parse] at h
  split at h
  · cases h
    exact ⟨_, rfl⟩
  · split at h
    · cases h
      exact ⟨_, rfl⟩
    · split at h
      · cases h
        exact ⟨_, rfl⟩
      · cases h

namespace Column

theorem validation_of_parse {settings : Settings} {table : Option Ident}
    {raw : String} {error : Error}
    (h : parse settings table raw = .error error) :
    ∃ cause, error = .validation cause := by
  rw [parse, parseExpression] at h
  split at h
  · cases h
    exact ⟨_, rfl⟩
  · split at h
    · split at h
      · rename_i hident
        cases h
        exact Ident.validation_of_parse hident
      · split at h
        · cases h
          exact ⟨_, rfl⟩
        · cases h
    · split at h
      · rename_i hident
        cases h
        exact Ident.validation_of_parse hident
      · cases h

theorem parse_json_iff (settings : Settings) (table : Option Ident)
    (raw : String) (base : Ident) (path : List String)
    (label : Option String) :
    parse settings table raw = .ok (.json base path label) ↔
      label = none ∧ ∃ text ident,
        SpelledExtraction text path (trim raw.toList) ∧
        ¬['-', '>'] <:+: text ∧
        Ident.parse (String.ofList text) = .ok ident ∧
        base = qualify settings table ident := by
  constructor
  · intro h
    cases hcut : cutArrow (trim raw.toList) with
    | none =>
        rcases (parse_of_uncut hcut).mp h with ⟨ident, _, heq⟩
        cases heq
    | some texts =>
        rcases texts with ⟨before, after⟩
        rcases (parse_of_cut hcut).mp h with ⟨ident, _, hident, hpath, heq⟩
        cases heq
        have harrow := mt (padded_trim before).arrow_infix_iff.mpr
          (not_arrow_infix_of_cutArrow hcut)
        refine ⟨rfl, trim before, ident, ?_, harrow, hident, rfl⟩
        exact (spelledExtraction_iff (trim_of_parse hident) harrow).mpr
          ⟨before, after, hcut, rfl, hpath⟩
  · rintro ⟨rfl, text, ident, hspelled, harrow, hident, rfl⟩
    rcases (spelledExtraction_iff (trim_of_parse hident) harrow).mp hspelled
      with ⟨before, after, hcut, rfl, hpath⟩
    exact (parse_of_cut hcut).mpr ⟨ident, path, hident, hpath, rfl⟩

theorem parse_cases (settings : Settings) (table : Option Ident)
    (raw : String) :
    (∃ base path, parse settings table raw = .ok (.json base path none)) ∨
      (∃ ident, ¬['-', '>'] <:+: trim raw.toList ∧
        parse settings table raw = .ok (.plain ident none)) ∨
      ∃ cause, parse settings table raw = .error (.validation cause) := by
  cases hparse : parse settings table raw with
  | error error =>
      rcases validation_of_parse hparse with ⟨cause, rfl⟩
      exact .inr (.inr ⟨cause, rfl⟩)
  | ok column =>
      cases hcut : cutArrow (trim raw.toList) with
      | none =>
          rcases (parse_of_uncut hcut).mp hparse with ⟨ident, _, rfl⟩
          exact .inr (.inl ⟨_, cutArrow_eq_none_iff.mp hcut, rfl⟩)
      | some texts =>
          rcases (parse_of_cut hcut).mp hparse with ⟨ident, path, _, _, rfl⟩
          exact .inl ⟨_, path, rfl⟩

/-- A text is read as an extraction exactly if it is spelled as one, and the
extraction is the one that is spelled. Without an arrow it is read exactly if it
is an identifier. Nothing else is read, and whatever is not read is invalid. -/
theorem parse_reads_spellings (settings : Settings) (table : Option Ident)
    (raw : String) :
    (∀ base path label,
      parse settings table raw = .ok (.json base path label) ↔
        label = none ∧ ∃ text ident,
          SpelledExtraction text path (trim raw.toList) ∧
          ¬['-', '>'] <:+: text ∧
          Ident.parse (String.ofList text) = .ok ident ∧
          base = qualify settings table ident) ∧
    (¬['-', '>'] <:+: trim raw.toList → ∀ column,
      parse settings table raw = .ok column ↔ ∃ ident,
        Ident.parse (String.ofList (trim raw.toList)) = .ok ident ∧
        column = .plain (qualify settings table ident) none) ∧
    ((∃ base path, parse settings table raw = .ok (.json base path none)) ∨
      (∃ ident, ¬['-', '>'] <:+: trim raw.toList ∧
        parse settings table raw = .ok (.plain ident none)) ∨
      ∃ cause, parse settings table raw = .error (.validation cause)) := by
  refine ⟨parse_json_iff settings table raw, ?_,
    parse_cases settings table raw⟩
  intro harrow column
  exact parse_of_uncut (cutArrow_eq_none_iff.mpr harrow)

/-- Both separators, the longer arrow and blanks around the keys. -/
theorem parse_reads_spaced_path :
    SpelledExtraction "`a.b`".toList ["items", "0", "sku"]
      (trim " `a.b` ->> items -> 0. sku".toList) ∧
    ¬['-', '>'] <:+: "`a.b`".toList ∧
    Ident.parse "`a.b`" = .ok ⟨[⟨"a.b", true⟩]⟩ ∧
    parse .standard (some ⟨[⟨"t", false⟩]⟩) " `a.b` ->> items -> 0. sku" =
      .ok (.json ⟨[⟨"t", false⟩, ⟨"a.b", true⟩]⟩ ["items", "0", "sku"]
        none) := by
  have htrim : trim " `a.b` ->> items -> 0. sku".toList =
      "`a.b` ".toList ++ '-' :: '>' :: '>' :: (" items ".toList ++
        '-' :: '>' :: (" 0".toList ++ '.' :: " sku".toList)) := by cbv
  have hitems : SpelledKey "items" " items ".toList :=
    spelledKey_of_all [' '] [' '] rfl rfl (by decide) rfl
  have hindex : SpelledKey "0" " 0".toList :=
    spelledKey_of_all [' '] [] rfl rfl (by decide) rfl
  have hsku : SpelledKey "sku" " sku".toList :=
    spelledKey_of_all [' '] [] rfl rfl (by decide) rfl
  have hspelled : SpelledExtraction "`a.b`".toList ["items", "0", "sku"]
      (trim " `a.b` ->> items -> 0. sku".toList) := by
    rw [htrim]
    exact .textArrow (padded_of_all [] [' '] rfl rfl)
      (.arrow hitems (.dot hindex (.single hsku)))
  have harrow : ¬['-', '>'] <:+: "`a.b`".toList :=
    cutArrow_eq_none_iff.mp (by decide)
  have hident : Ident.parse "`a.b`" = .ok ⟨[⟨"a.b", true⟩]⟩ := by cbv
  refine ⟨hspelled, harrow, hident, ?_⟩
  refine ((parse_reads_spellings .standard _ _).1 _ _ none).mpr
    ⟨rfl, _, ⟨[⟨"a.b", true⟩]⟩, hspelled, harrow, ?_, rfl⟩
  rw [String.ofList_toList]
  exact hident

end Column
end SqlAssembler
