import SqlAssembler.Proofs.Grammar.Extractions

/-!
# Columns are told apart by their SQL

Two columns that are written alike are the same column. Each part of an
identifier shows where it ends, since no name goes on with a dot or an arrow and
no backtick inside quotes is alone. In the same way each key of a path ends
where the next bracket, dot or quote stands. So a column can be read off from
the front of its SQL, one part and one key after the other.
-/

namespace SqlAssembler

open Text

/-!
## Reading items from the front
-/

namespace Text

def Begins (p : Char → Prop) (cs : List Char) : Prop :=
  ∀ c ∈ cs.head?, p c

theorem begins_nil (p : Char → Prop) : Begins p [] := by
  intro c hc
  cases hc

theorem begins_cons {p : Char → Prop} {c : Char} {cs : List Char} :
    Begins p (c :: cs) ↔ p c := by
  constructor
  · exact fun h => h c rfl
  · intro h d hd
    cases hd
    exact h

theorem append_inj_of_class {p : Char → Bool}
    {front other rest others : List Char} (hfront : ∀ c ∈ front, p c = true)
    (hother : ∀ c ∈ other, p c = true) (hrest : Begins (p · = false) rest)
    (hothers : Begins (p · = false) others)
    (h : front ++ rest = other ++ others) : front = other ∧ rest = others := by
  induction front generalizing other with
  | nil =>
      cases other with
      | nil => exact ⟨rfl, h⟩
      | cons d ds =>
          rw [List.nil_append] at h
          rw [h, List.cons_append, begins_cons] at hrest
          rw [hother d List.mem_cons_self] at hrest
          cases hrest
  | cons c cs ih =>
      cases other with
      | nil =>
          rw [List.nil_append] at h
          rw [← h, List.cons_append, begins_cons] at hothers
          rw [hfront c List.mem_cons_self] at hothers
          cases hothers
      | cons d ds =>
          rcases List.cons.inj h with ⟨rfl, htail⟩
          rcases ih (fun e he => hfront e (List.mem_cons_of_mem c he))
            (fun e he => hother e (List.mem_cons_of_mem c he)) htail with
            ⟨rfl, hsame⟩
          exact ⟨rfl, hsame⟩

/-- Items that can be read one after the other from the front of a text: each
ends where a character of `stop` follows. Every item begins with such a
character, and so does what stands behind the last one, but with one of `finish`
by which it differs from another item. -/
structure Readable {α : Type} (write : α → List Char) (item : α → Prop)
    (stop finish : Char → Prop) : Prop where
  append_inj {a b : α} {rest others : List Char} (ha : item a) (hb : item b)
    (hrest : Begins stop rest) (hothers : Begins stop others)
    (h : write a ++ rest = write b ++ others) : a = b ∧ rest = others
  begins (a : α) : ∃ c cs, write a = c :: cs ∧ stop c ∧ ¬finish c
  finishes {c : Char} (h : finish c) : stop c

namespace Readable

variable {α : Type} {write : α → List Char} {item : α → Prop}
  {stop finish : Char → Prop}

theorem begins_flatMap (h : Readable write item stop finish) (items : List α)
    {rest : List Char} (hrest : Begins finish rest) :
    Begins stop (items.flatMap write ++ rest) := by
  cases items with
  | nil => exact fun c hc => h.finishes (hrest c hc)
  | cons a more =>
      rcases h.begins a with ⟨c, cs, hwrite, hstop, _⟩
      rw [List.flatMap_cons, hwrite, List.append_assoc, List.cons_append,
        begins_cons]
      exact hstop

theorem ne_flatMap_cons (h : Readable write item stop finish) {a : α}
    {items : List α} {rest others : List Char} (hrest : Begins finish rest) :
    rest ≠ (a :: items).flatMap write ++ others := by
  rcases h.begins a with ⟨c, cs, hwrite, _, hfinish⟩
  rintro rfl
  rw [List.flatMap_cons, hwrite, List.append_assoc, List.cons_append,
    begins_cons] at hrest
  exact hfinish hrest

/-- The text tells how many items there are and which. -/
theorem flatMap_append_inj (h : Readable write item stop finish)
    {items others : List α} {rest otherRest : List Char}
    (hitems : ∀ a ∈ items, item a) (hothers : ∀ a ∈ others, item a)
    (hrest : Begins finish rest) (hotherRest : Begins finish otherRest)
    (hsame : items.flatMap write ++ rest =
      others.flatMap write ++ otherRest) :
    items = others ∧ rest = otherRest := by
  induction items generalizing others with
  | nil =>
      cases others with
      | nil => exact ⟨rfl, hsame⟩
      | cons b more => exact absurd hsame (h.ne_flatMap_cons hrest)
  | cons a more ih =>
      cases others with
      | nil => exact absurd hsame.symm (h.ne_flatMap_cons hotherRest)
      | cons b otherMore =>
          rw [List.flatMap_cons, List.flatMap_cons, List.append_assoc,
            List.append_assoc] at hsame
          rcases h.append_inj (hitems a List.mem_cons_self)
            (hothers b List.mem_cons_self) (h.begins_flatMap more hrest)
            (h.begins_flatMap otherMore hotherRest) hsame with ⟨rfl, htail⟩
          rcases ih (fun c hc => hitems c (List.mem_cons_of_mem a hc))
            (fun c hc => hothers c (List.mem_cons_of_mem a hc)) htail with
            ⟨rfl, hend⟩
          exact ⟨rfl, hend⟩

end Readable
end Text

namespace Ident

/-!
## Identifiers
-/

/-- A part that shows where it ends: a bare one is a name, and a quoted one may
be any text. -/
def Part.Legible (part : Part) : Prop :=
  part.quoted = false → part.WellFormed

def Legible (ident : Ident) : Prop :=
  ∀ part ∈ ident.parts, part.Legible

theorem WellFormed.legible {ident : Ident} (h : ident.WellFormed) :
    ident.Legible :=
  fun part hpart _ => h.parts part hpart

def Stop (c : Char) : Prop :=
  isBareChar c = false ∧ c ≠ backtick

theorem isBareChar_of_isNameStart {c : Char} (h : isNameStart c = true) :
    isBareChar c = true := by
  simp only [isNameStart, isBareChar, Char.isAlphanum, Bool.or_eq_true]
    at h ⊢
  rcases h with hunderscore | halpha
  · exact .inl (.inl hunderscore)
  · exact .inr (.inl halpha)

theorem Part.Legible.bare {name : String}
    (h : Part.Legible ⟨name, false⟩) :
    name.toList.head? ≠ some backtick ∧ name.toList ≠ [] ∧
      ∀ c ∈ name.toList, isBareChar c = true := by
  cases h rfl with
  | bare hstart hrest =>
      rw [String.toList_ofList]
      refine ⟨?_, List.cons_ne_nil _ _, ?_⟩
      · intro hhead
        exact (ne_of_isNameStart hstart).1 (Option.some.inj hhead)
      · intro c hc
        rcases List.mem_cons.mp hc with rfl | hmem
        · exact isBareChar_of_isNameStart hstart
        · exact hrest c hmem

theorem Part.Legible.bare_ne_quoted {name other : String}
    {rest others : List Char} (h : Part.Legible ⟨name, false⟩) :
    (Part.sql ⟨name, false⟩).toList ++ rest ≠
      (Part.sql ⟨other, true⟩).toList ++ others := by
  rcases h.bare with ⟨hhead, hne, _⟩
  intro hsame
  rw [Part.toList_sql_quoted] at hsame
  apply hhead
  rw [← List.head?_append_of_ne_nil name.toList hne]
  exact congrArg List.head? hsame

theorem Part.sql_append_inj {part other : Part} {rest others : List Char}
    (hpart : part.Legible) (hother : other.Legible) (hrest : Begins Stop rest)
    (hothers : Begins Stop others)
    (h : part.sql.toList ++ rest = other.sql.toList ++ others) :
    part = other ∧ rest = others := by
  rcases part with ⟨name, quoted⟩
  rcases other with ⟨otherName, otherQuoted⟩
  cases quoted with
  | false =>
      cases otherQuoted with
      | false =>
          rcases append_inj_of_class hpart.bare.2.2 hother.bare.2.2
            (fun c hc => (hrest c hc).1) (fun c hc => (hothers c hc).1) h with
            ⟨hname, hsame⟩
          rw [String.toList_inj.mp hname]
          exact ⟨rfl, hsame⟩
      | true => exact absurd h hpart.bare_ne_quoted
  | true =>
      cases otherQuoted with
      | false => exact absurd h.symm hother.bare_ne_quoted
      | true =>
          -- behind the opening backtick, both names end at the same place
          rw [Part.toList_sql_quoted, Part.toList_sql_quoted,
            List.cons_append, List.cons_append, List.append_assoc,
            List.append_assoc] at h
          have hread := splitQuoted_doubled name.toList
            fun hhead => (hrest backtick hhead).2 rfl
          have hreadOther := splitQuoted_doubled otherName.toList
            fun hhead => (hothers backtick hhead).2 rfl
          rw [← List.singleton_append, (List.cons.inj h).2,
            List.singleton_append, hreadOther] at hread
          rcases Prod.mk.inj (Option.some.inj hread) with ⟨hname, hsame⟩
          rw [String.toList_inj.mp hname]
          exact ⟨rfl, hsame.symm⟩

def Part.dotted (part : Part) : List Char :=
  '.' :: part.sql.toList

theorem readable_dotted :
    Readable Part.dotted Part.Legible Stop (· = '-') where
  append_inj hpart hother hrest hothers h :=
    Part.sql_append_inj hpart hother hrest hothers (List.cons.inj h).2
  begins part := ⟨'.', _, rfl, ⟨by decide, by decide⟩, by decide⟩
  finishes h := by
    rw [h]
    exact ⟨by decide, by decide⟩

theorem flatMap_dotted {ident : Ident} (h : ident.parts ≠ []) :
    ident.parts.flatMap Part.dotted = '.' :: ident.sql.toList := by
  rcases ident with ⟨parts⟩
  induction parts with
  | nil => exact absurd rfl h
  | cons part rest ih =>
      cases rest with
      | nil =>
          rw [List.flatMap_singleton, Part.dotted, toList_sql_single]
      | cons another more =>
          have hmore : another :: more ≠ [] := List.cons_ne_nil another more
          rw [List.flatMap_cons, ih hmore, toList_sql_cons part hmore]
          rfl

theorem sql_append_inj {ident other : Ident} {rest others : List Char}
    (hident : ident.Legible) (hother : other.Legible)
    (hparts : ident.parts ≠ []) (hotherParts : other.parts ≠ [])
    (hrest : Begins (· = '-') rest) (hothers : Begins (· = '-') others)
    (h : ident.sql.toList ++ rest = other.sql.toList ++ others) :
    ident = other ∧ rest = others := by
  have hdotted : ident.parts.flatMap Part.dotted ++ rest =
      other.parts.flatMap Part.dotted ++ others := by
    rw [flatMap_dotted hparts, flatMap_dotted hotherParts, List.cons_append, h,
      List.cons_append]
  rcases readable_dotted.flatMap_append_inj hident hother hrest hothers hdotted
    with ⟨hsame, hafter⟩
  rcases ident with ⟨parts⟩
  exact ⟨congrArg Ident.mk hsame, hafter⟩

end Ident

namespace Column

/-!
## Paths
-/

def IsKey (key : String) : Prop :=
  ∀ c ∈ key.toList, isNameChar c = true

theorem toList_keySql_index {key : String} (h : isIndexKey key = true) :
    (keySql key).toList = '[' :: (key.toList ++ [']']) := by
  simp [keySql, h, toString]

theorem toList_keySql_name {key : String} (h : isIndexKey key = false) :
    (keySql key).toList = '.' :: key.toList := by
  simp [keySql, h, toString]

theorem keySql_append_inj {key other : String} {rest others : List Char}
    (hkey : IsKey key) (hother : IsKey other)
    (hrest : Begins (isNameChar · = false) rest)
    (hothers : Begins (isNameChar · = false) others)
    (h : (keySql key).toList ++ rest = (keySql other).toList ++ others) :
    key = other ∧ rest = others := by
  cases hindex : isIndexKey key with
  | true =>
      rw [toList_keySql_index hindex, List.cons_append] at h
      cases hindexOther : isIndexKey other with
      | true =>
          rw [toList_keySql_index hindexOther, List.cons_append,
            List.append_assoc, List.append_assoc] at h
          have hbracket : ∀ more, Begins (isNameChar · = false)
              ([']'] ++ more) := fun more => begins_cons.mpr (by decide)
          rcases append_inj_of_class hkey hother (hbracket rest)
            (hbracket others) (List.cons.inj h).2 with ⟨hname, hsame⟩
          exact ⟨String.toList_inj.mp hname, (List.cons.inj hsame).2⟩
      | false =>
          rw [toList_keySql_name hindexOther, List.cons_append] at h
          exact absurd (List.cons.inj h).1 (by decide)
  | false =>
      rw [toList_keySql_name hindex, List.cons_append] at h
      cases hindexOther : isIndexKey other with
      | true =>
          rw [toList_keySql_index hindexOther, List.cons_append] at h
          exact absurd (List.cons.inj h).1 (by decide)
      | false =>
          rw [toList_keySql_name hindexOther, List.cons_append] at h
          rcases append_inj_of_class hkey hother hrest hothers
            (List.cons.inj h).2 with ⟨hname, hsame⟩
          exact ⟨String.toList_inj.mp hname, hsame⟩

theorem readable_keySql :
    Readable (fun key => (keySql key).toList) IsKey (isNameChar · = false)
      (· = '\'') where
  append_inj := keySql_append_inj
  begins key := by
    cases hindex : isIndexKey key with
    | true => exact ⟨'[', _, toList_keySql_index hindex, by decide, by decide⟩
    | false => exact ⟨'.', _, toList_keySql_name hindex, by decide, by decide⟩
  finishes h := by
    rw [h]
    decide

theorem pathSql_append_inj {path other : List String} {rest others : List Char}
    (hpath : ∀ key ∈ path, IsKey key) (hother : ∀ key ∈ other, IsKey key)
    (hrest : Begins (· = '\'') rest) (hothers : Begins (· = '\'') others)
    (h : (pathSql path).toList ++ rest = (pathSql other).toList ++ others) :
    path = other ∧ rest = others := by
  have htext : ∀ keys, (pathSql keys).toList =
      '$' :: keys.flatMap fun key => (keySql key).toList := by
    intro keys
    rw [pathSql, String.toList_append, String.toList_join, List.flatMap_map]
    rfl
  rw [htext path, htext other] at h
  exact readable_keySql.flatMap_append_inj hpath hother hrest hothers
    (List.cons.inj h).2

theorem pathSql_inj {path other : List String}
    (hpath : ∀ key ∈ path, IsKey key) (hother : ∀ key ∈ other, IsKey key)
    (h : pathSql path = pathSql other) : path = other :=
  (pathSql_append_inj hpath hother (begins_nil _) (begins_nil _)
    (by rw [h])).1

/-!
## Whole columns
-/

inductive Legible : Column → Prop where
  | plain {ident : Ident} (hparts : ident.parts ≠ []) (h : ident.Legible) :
      Legible (.plain ident none)
  | json {base : Ident} {path : List String} (hparts : base.parts ≠ [])
      (h : base.Legible) (hpath : ∀ key ∈ path, IsKey key) :
      Legible (.json base path none)

theorem legible_qualify (settings : Settings) {table : Option Ident}
    {ident : Ident} (htable : ∀ owner ∈ table, owner.Legible)
    (h : ident.WellFormed) :
    (qualify settings table ident).parts ≠ [] ∧
      (qualify settings table ident).Legible := by
  cases table with
  | none => exact ⟨h.hasPart, h.legible⟩
  | some owner =>
      rw [qualify]
      split
      · refine ⟨List.append_ne_nil_of_right_ne_nil _ h.hasPart, ?_⟩
        intro part hpart
        rcases List.mem_append.mp hpart with hmem | hmem
        · exact htable owner rfl part hmem
        · exact h.legible part hmem
      · exact ⟨h.hasPart, h.legible⟩

theorem legible_of_parse {settings : Settings} {table : Option Ident}
    {raw : String} {column : Column}
    (htable : ∀ owner ∈ table, owner.Legible)
    (h : parse settings table raw = .ok column) : column.Legible := by
  cases hcut : cutArrow (trim raw.toList) with
  | none =>
      rcases (parse_of_uncut hcut).mp h with ⟨ident, hident, rfl⟩
      rcases legible_qualify settings htable
        (Ident.wellFormed_of_parse hident) with ⟨hparts, hlegible⟩
      exact .plain hparts hlegible
  | some texts =>
      rcases (parse_of_cut hcut).mp h with ⟨ident, path, hident, hpath, rfl⟩
      rcases legible_qualify settings htable
        (Ident.wellFormed_of_parse hident) with ⟨hparts, hlegible⟩
      exact .json hparts hlegible
        (nameChars_of_parsePath (parsePath_eq_ok_iff.mpr hpath))

theorem toList_sql_json (base : Ident) (path : List String)
    (label : Option String) :
    (sql (.json base path label)).toList =
      base.sql.toList ++ "->>'".toList ++
        ((pathSql path).toList ++ ['\'']) := by
  simp [sql]

theorem begins_arrow (cs : List Char) :
    Begins (· = '-') ("->>'".toList ++ cs) :=
  begins_cons.mpr rfl

theorem sql_plain_ne_json {ident base : Ident} {path : List String}
    {label other : Option String} (hident : ident.Legible)
    (hbase : base.Legible) (hparts : ident.parts ≠ [])
    (hbaseParts : base.parts ≠ []) :
    sql (.plain ident label) ≠ sql (.json base path other) := by
  intro h
  have htexts : ident.sql.toList ++ [] = _ :=
    (List.append_nil _).trans (congrArg String.toList h)
  rw [toList_sql_json, List.append_assoc] at htexts
  have hend := (Ident.sql_append_inj hident hbase hparts hbaseParts
    (begins_nil _) (begins_arrow _) htexts).2
  cases hend

theorem sql_json_inj {base otherBase : Ident} {path otherPath : List String}
    {label other : Option String} (hbase : base.Legible)
    (hother : otherBase.Legible) (hparts : base.parts ≠ [])
    (hotherParts : otherBase.parts ≠ []) (hpath : ∀ key ∈ path, IsKey key)
    (hotherPath : ∀ key ∈ otherPath, IsKey key)
    (h : sql (.json base path label) = sql (.json otherBase otherPath other)) :
    base = otherBase ∧ path = otherPath := by
  have htexts := congrArg String.toList h
  rw [toList_sql_json, toList_sql_json, List.append_assoc, List.append_assoc]
    at htexts
  rcases Ident.sql_append_inj hbase hother hparts hotherParts (begins_arrow _)
    (begins_arrow _) htexts with ⟨hsame, hbehind⟩
  have hquote : Begins (· = '\'') ['\''] := begins_cons.mpr rfl
  exact ⟨hsame, (pathSql_append_inj hpath hotherPath hquote hquote
    (List.append_cancel_left hbehind)).1⟩

theorem Legible.sql_inj {column other : Column} (h : column.Legible)
    (hother : other.Legible) (hsql : column.sql = other.sql) :
    column = other := by
  cases h with
  | plain hparts hident =>
      cases hother with
      | plain hotherParts hotherIdent =>
          have htexts := congrArg (String.toList · ++ []) hsql
          have hsame := (Ident.sql_append_inj hident hotherIdent hparts
            hotherParts (begins_nil _) (begins_nil _) htexts).1
          rw [hsame]
      | json hotherParts hbase hpath =>
          exact absurd hsql
            (sql_plain_ne_json hident hbase hparts hotherParts)
  | json hparts hbase hpath =>
      cases hother with
      | plain hotherParts hident =>
          exact absurd hsql.symm
            (sql_plain_ne_json hident hbase hotherParts hparts)
      | json hotherParts hotherBase hotherPath =>
          rcases sql_json_inj hbase hotherBase hparts hotherParts hpath
            hotherPath hsql with ⟨rfl, rfl⟩
          rfl

/-- Columns that were read, whatever they were read from, are the same if they
are written alike, and so are two paths; no identifier is written like an
extraction. The tables may be any whose bare parts are names, as are all that
were read. -/
theorem sql_eq_iff_eq_of_parse {settings otherSettings : Settings}
    {table otherTable : Option Ident} {raw otherRaw : String}
    {column other : Column} (htable : ∀ owner ∈ table, owner.Legible)
    (hotherTable : ∀ owner ∈ otherTable, owner.Legible)
    (h : parse settings table raw = .ok column)
    (hother : parse otherSettings otherTable otherRaw = .ok other) :
    (column.sql = other.sql ↔ column = other) ∧
    (∀ base path label otherBase otherPath otherLabel,
      column = .json base path label →
      other = .json otherBase otherPath otherLabel →
        (pathSql path = pathSql otherPath ↔ path = otherPath)) ∧
    ∀ ident label base path otherLabel, column = .plain ident label →
      other = .json base path otherLabel → column.sql ≠ other.sql := by
  have hcolumn := legible_of_parse htable h
  have hotherColumn := legible_of_parse hotherTable hother
  have hsql : column.sql = other.sql ↔ column = other :=
    ⟨hcolumn.sql_inj hotherColumn, congrArg sql⟩
  refine ⟨hsql, ?_, ?_⟩
  · rintro base path label otherBase otherPath otherLabel rfl rfl
    cases hcolumn with
    | json _ _ hpath =>
        cases hotherColumn with
        | json _ _ hotherPath =>
            exact ⟨pathSql_inj hpath hotherPath, congrArg pathSql⟩
  · rintro ident label base path otherLabel rfl rfl hsame
    cases hsql.mp hsame

/-- An arrow, a quote and a root inside the quoted name of the table. -/
theorem sql_ne_of_arrow_in_table :
    Ident.Legible ⟨[⟨"x->>'$", true⟩]⟩ ∧ Ident.Legible ⟨[⟨"t", false⟩]⟩ ∧
    parse .standard (some ⟨[⟨"x->>'$", true⟩]⟩) "k" =
      .ok (.plain ⟨[⟨"x->>'$", true⟩, ⟨"k", false⟩]⟩ none) ∧
    parse .standard (some ⟨[⟨"t", false⟩]⟩) "`x` -> k" =
      .ok (.json ⟨[⟨"t", false⟩, ⟨"x", true⟩]⟩ ["k"] none) ∧
    sql (.plain ⟨[⟨"x->>'$", true⟩, ⟨"k", false⟩]⟩ none) ≠
      sql (.json ⟨[⟨"t", false⟩, ⟨"x", true⟩]⟩ ["k"] none) := by
  have hquoted : Ident.Legible ⟨[⟨"x->>'$", true⟩]⟩ := by
    intro part hpart hbare
    rw [List.mem_singleton.mp hpart] at hbare
    cases hbare
  have hbare : Ident.Legible ⟨[⟨"t", false⟩]⟩ := by
    intro part hpart _
    rw [List.mem_singleton.mp hpart]
    exact Ident.wellFormed_of_badBareChar? (by decide : "t".toList ≠ [])
      (by decide)
  have hplain : parse .standard (some ⟨[⟨"x->>'$", true⟩]⟩) "k" =
      .ok (.plain ⟨[⟨"x->>'$", true⟩, ⟨"k", false⟩]⟩ none) := by cbv
  have hjson : parse .standard (some ⟨[⟨"t", false⟩]⟩) "`x` -> k" =
      .ok (.json ⟨[⟨"t", false⟩, ⟨"x", true⟩]⟩ ["k"] none) := by cbv
  refine ⟨hquoted, hbare, hplain, hjson, ?_⟩
  refine (sql_eq_iff_eq_of_parse ?_ ?_ hplain hjson).2.2 _ _ _ _ _ rfl rfl
  · rintro owner ⟨⟩
    exact hquoted
  · rintro owner ⟨⟩
    exact hbare

/-- The dot in a bare part looks like one between two parts. -/
theorem sql_eq_of_dot_in_table :
    parse .standard (some ⟨[⟨"a.b", false⟩]⟩) "c" =
      .ok (.plain ⟨[⟨"a.b", false⟩, ⟨"c", false⟩]⟩ none) ∧
    parse .standard (some ⟨[⟨"a", false⟩, ⟨"b", false⟩]⟩) "c" =
      .ok (.plain ⟨[⟨"a", false⟩, ⟨"b", false⟩, ⟨"c", false⟩]⟩ none) ∧
    sql (.plain ⟨[⟨"a.b", false⟩, ⟨"c", false⟩]⟩ none) =
      sql (.plain ⟨[⟨"a", false⟩, ⟨"b", false⟩, ⟨"c", false⟩]⟩ none) ∧
    Column.plain ⟨[⟨"a.b", false⟩, ⟨"c", false⟩]⟩ none ≠
      .plain ⟨[⟨"a", false⟩, ⟨"b", false⟩, ⟨"c", false⟩]⟩ none := by
  refine ⟨by cbv, by cbv, by decide, by decide⟩

end Column
end SqlAssembler
