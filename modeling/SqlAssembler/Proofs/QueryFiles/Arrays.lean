import SqlAssembler.Proofs.Containment.Conditions
import SqlAssembler.Proofs.QueryFiles.Conditions
import SqlAssembler.Proofs.Scripts.Values

/-!
# Arrays in query files

An array of texts reaches the builder as one text with commas between the
elements, and is cut at commas again when it is bound. So each element is bound
as it is unless it holds a comma itself; an array without elements is bound as
one empty text, and a text that calls an allowed function is not bound at all.
-/

namespace SqlAssembler

namespace Filter

/-!
## Joining and cutting
-/

theorem splitCommas_eq_splitOn (cs : List Char) :
    splitCommas cs = cs.splitOn ',' := by
  induction cs with
  | nil => rfl
  | cons c cs ih =>
      rw [splitCommas, List.splitOn, List.splitOnP_cons_eq_if_modifyHead,
        ← List.splitOn, ← ih]
      by_cases hcomma : c = ','
      · simp [hcomma]
      · rw [if_neg hcomma, if_neg (by simpa using hcomma)]
        cases hsplit : splitCommas cs with
        | nil =>
            rw [ih] at hsplit
            exact absurd hsplit (List.splitOnP_ne_nil _ _)
        | cons first others => rfl

theorem splitCommas_append (left right : List Char) :
    splitCommas (left ++ ',' :: right) =
      splitCommas left ++ splitCommas right := by
  simp only [splitCommas_eq_splitOn, List.splitOn]
  exact List.splitOnP_append_cons left right (by simp)

theorem splitCommas_of_not_mem {cs : List Char} (h : ',' ∉ cs) :
    splitCommas cs = [cs] := by
  rw [splitCommas_eq_splitOn, List.splitOn]
  apply List.splitOnP_eq_singleton
  intro c hc
  simp
  rintro rfl
  exact h hc

theorem not_mem_of_mem_splitCommas {cs piece : List Char}
    (h : piece ∈ splitCommas cs) : ',' ∉ piece := by
  induction cs generalizing piece with
  | nil =>
      rw [splitCommas, List.mem_singleton] at h
      rw [h]
      exact List.not_mem_nil
  | cons c cs ih =>
      rw [splitCommas] at h
      split at h
      · rcases List.mem_cons.mp h with rfl | hmem
        · exact List.not_mem_nil
        · exact ih hmem
      · rename_i hother
        cases hsplit : splitCommas cs with
        | nil =>
            rw [hsplit] at h
            rw [List.mem_singleton.mp h]
            simp [Ne.symm hother]
        | cons first others =>
            rw [hsplit] at h ih
            rcases List.mem_cons.mp h with rfl | hmem
            · have hfirst := ih List.mem_cons_self
              simp [Ne.symm hother, hfirst]
            · exact ih (List.mem_cons_of_mem first hmem)

def pieces : List String → List String
  | [] => [""]
  | texts => texts.flatMap fun text =>
      (splitCommas text.toList).map String.ofList

theorem elements_intercalate (texts : List String) :
    elements (",".intercalate texts) = (pieces texts).map .text := by
  rw [elements]
  induction texts with
  | nil => rfl
  | cons text rest ih =>
      cases rest with
      | nil => simp [pieces]
      | cons next others =>
          have hjoined : (",".intercalate (text :: next :: others)).toList =
              text.toList ++ ',' ::
                (",".intercalate (next :: others)).toList := by
            simp [String.intercalate_cons_cons]
          rw [hjoined, splitCommas_append, List.map_append, ih]
          simp [pieces]

theorem pieces_of_ne_nil {texts : List String} (hne : texts ≠ []) :
    pieces texts = texts.flatMap fun text =>
      (splitCommas text.toList).map String.ofList := by
  cases texts with
  | nil => exact absurd rfl hne
  | cons text rest => rfl

theorem pieces_eq_self_iff {texts : List String} :
    pieces texts = texts ↔
      texts ≠ [] ∧ ∀ text ∈ texts, ',' ∉ text.toList := by
  constructor
  · intro h
    have hne : texts ≠ [] := by
      rintro rfl
      cases h
    refine ⟨hne, ?_⟩
    intro text htext
    rw [← h, pieces_of_ne_nil hne] at htext
    rcases List.mem_flatMap.mp htext with ⟨other, _, hpiece⟩
    rcases List.mem_map.mp hpiece with ⟨piece, hmem, rfl⟩
    rw [String.toList_ofList]
    exact not_mem_of_mem_splitCommas hmem
  · rintro ⟨hne, hcommas⟩
    have hsingle : ∀ text ∈ texts,
        (splitCommas text.toList).map String.ofList = [text] := by
      intro text htext
      rw [splitCommas_of_not_mem (hcommas text htext), List.map_singleton,
        String.ofList_toList]
    rw [pieces_of_ne_nil hne, List.flatMap_congr hsingle]
    exact List.flatMap_singleton' texts

/-!
## Conditions
-/

structure Lists (fragment : Fragment) (column : String) (negated : Bool)
    (texts : List String) : Prop where
  sql : fragment.sql =
    column ++ (if negated then " NOT IN (" else " IN (") ++
      ",".intercalate (List.replicate texts.length "?") ++ ")"
  params : fragment.params = texts.map .text

/-- What becomes of an array of texts that a column is compared with. -/
structure ArrayCondition (functions : FunctionNames) (column : String)
    (negated : Bool) (texts : List String) (fragment : Fragment) : Prop where
  elements_iff : Lists fragment column negated texts ↔
    functions.isCall (",".intercalate texts) = false ∧ texts ≠ [] ∧
      ∀ text ∈ texts, ',' ∉ text.toList
  pieces : functions.isCall (",".intercalate texts) = false →
    Lists fragment column negated (pieces texts)
  call : functions.isCall (",".intercalate texts) = true →
    fragment = [.text (column ++ (if negated then " NOT IN (" else " IN (") ++
      ",".intercalate texts ++ ")")]

theorem sql_slots (params : List Param) :
    (slots params).sql =
      ",".intercalate (List.replicate params.length "?") := by
  have hslot : ∀ param ∈ params, Fragment.sql [.slot param] = "?" := by
    intro param _
    simp [Fragment.sql, Piece.sql]
  rw [slots, Fragment.sql_separated, List.map_map]
  exact congrArg _ (List.map_eq_replicate_iff.mpr hslot)

theorem lists_membership (column : String) (negated : Bool)
    (texts : List String) :
    Lists (membership column (",".intercalate texts) negated false) column
      negated (pieces texts) := by
  have hfragment : membership column (",".intercalate texts) negated false =
      .text (column ++ if negated then " NOT IN (" else " IN (") ::
        slots ((pieces texts).map .text) ++ [.text ")"] := by
    rw [← elements_intercalate]
    rfl
  rw [hfragment]
  constructor
  · rw [Fragment.sql_append, Fragment.sql_cons, sql_slots, Fragment.sql_text,
      List.length_map]
    rfl
  · simp [params_slots]

theorem params_injective : Function.Injective (List.map Param.text) :=
  List.map_injective_iff.mpr fun _ _ h => Param.text.inj h

theorem arrayCondition {functions : FunctionNames} {column : String}
    {negated : Bool} {texts : List String} {fragment : Fragment}
    (h : condition functions column (.membership negated)
      (",".intercalate texts) = .ok fragment) :
    ArrayCondition functions column negated texts fragment := by
  rw [condition, FunctionNames.embeds] at h
  cases hcall : functions.isCall (",".intercalate texts) with
  | false =>
      rw [hcall] at h
      cases h
      have hpieces := lists_membership column negated texts
      constructor
      · rw [← pieces_eq_self_iff]
        constructor
        · intro hlists
          exact ⟨hcall,
            params_injective (hpieces.params.symm.trans hlists.params)⟩
        · rintro ⟨_, hsame⟩
          rw [hsame] at hpieces
          exact hpieces
      · exact fun _ => hpieces
      · intro htrue
        rw [hcall] at htrue
        cases htrue
  | true =>
      rw [hcall, if_pos rfl] at h
      cases hfault : FunctionNames.callFault? (",".intercalate texts) with
      | some fault =>
          rw [hfault] at h
          cases h
      | none =>
          rw [hfault] at h
          cases h
          constructor
          · constructor
            · intro hlists
              -- nothing is bound, but a call is not written without elements
              have hnil : texts = [] :=
                List.map_eq_nil_iff.mp hlists.params.symm
              rw [hnil] at hcall
              cases hcall
            · rintro ⟨hfalse, _⟩
              rw [hcall] at hfalse
              cases hfalse
          · intro hfalse
            rw [hcall] at hfalse
            cases hfalse
          · exact fun _ => rfl

theorem exists_membership_iff {functions : FunctionNames} {column : String}
    {negated : Bool} {text : String} :
    (∃ fragment, condition functions column (.membership negated) text =
      .ok fragment) ↔
      (functions.isCall text = true →
        FunctionNames.callFault? text = none) := by
  rw [condition, FunctionNames.embeds]
  cases functions.isCall text with
  | false =>
      constructor
      · intro _ hcall
        cases hcall
      · intro _
        exact ⟨_, rfl⟩
  | true =>
      rw [if_pos rfl]
      cases FunctionNames.callFault? text with
      | none =>
          constructor
          · intro _ _
            rfl
          · intro _
            exact ⟨_, rfl⟩
      | some fault =>
          constructor
          · rintro ⟨fragment, h⟩
            cases h
          · intro h
            cases h rfl

end Filter

/-!
## Entries
-/

def FilterEntry.ofArray (column : String) (negated : Bool)
    (texts : List String) (connector : Option String) : FilterEntry :=
  .condition column (Operator.membership negated).token
    (some (.array (texts.map .string))) connector

theorem Operator.parse_membership (negated : Bool) :
    Operator.parse (membership negated).token = .ok (membership negated) := by
  cases negated <;> rfl

namespace QueryFile

theorem itemTexts_strings (texts : List String) :
    itemTexts (texts.map .string) = .ok texts := by
  induction texts with
  | nil => rfl
  | cons text rest ih =>
      rw [List.map_cons, itemTexts, ih]
      rfl

section Entries

variable {file : QueryFile} {settings : Settings} {column : String}
  {negated : Bool} {texts : List String} {connector : Option String}

theorem conditionCall_array {call : FilterCall}
    (h : conditionCall (.ofArray column negated texts connector) = .ok call) :
    ∃ parsed, call = .filter parsed column
      (Operator.membership negated).token (",".intercalate texts) := by
  have hjoined : conditionText (.array (texts.map .string)) =
      .ok (",".intercalate texts) := by
    rw [conditionText, itemTexts_strings]
    rfl
  have hrest : ∃ parsed, (do
      let text ← conditionText (.array (texts.map .string))
      return FilterCall.filter parsed column
        (Operator.membership negated).token text) = .ok call := by
    cases connector with
    | none => exact ⟨.and, h⟩
    | some text =>
        rcases bind_eq_ok_iff.mp h with ⟨parsed, _, hrest⟩
        exact ⟨parsed, hrest⟩
  rcases hrest with ⟨parsed, hrest⟩
  rw [hjoined] at hrest
  cases hrest
  exact ⟨parsed, rfl⟩

theorem condition?_array {call : FilterCall}
    (h : conditionCall (.ofArray column negated texts connector) = .ok call)
    (table : Option Ident) :
    call.condition? settings table = some (FilterCall.compared settings table
      column (.membership negated) (",".intercalate texts)) := by
  rcases conditionCall_array h with ⟨parsed, rfl⟩
  rw [FilterCall.condition?, Operator.parse_membership]
  rfl

/-- The condition that the statement of a query file holds for an array lists
the elements, each bound as it is, unless one of them holds a comma, there are
none, or together they read as a call. If the column is accepted, so is the
condition, except for a call that cannot be embedded. -/
theorem statement_lists_array {first rest : List FilterEntry}
    (hentry : file.conditions =
      first ++ .ofArray column negated texts connector :: rest) :
    (∀ aggregate statement,
      file.statement settings aggregate = .ok statement →
      ∃ owner target fragment, Ident.parse file.table = .ok owner ∧
        Column.parse settings (some owner) column = .ok target ∧
        statement.WritesBetween settings owner first rest fragment ∧
        Filter.ArrayCondition settings.functions target.sql negated texts
          fragment) ∧
    ∀ owner target call,
      Column.parse settings (some owner) column = .ok target →
      conditionCall (.ofArray column negated texts connector) = .ok call →
      ((∃ fragment,
        call.condition? settings (some owner) = some (.ok fragment)) ↔
        (settings.functions.isCall (",".intercalate texts) = true →
          FunctionNames.callFault? (",".intercalate texts) = none)) := by
  constructor
  · intro aggregate statement h
    rcases writesBetween h hentry with ⟨owner, call, howner, hcall, hwrites⟩
    rcases hwrites _ (condition?_array hcall _) with
      ⟨fragment, hcompared, hwritten⟩
    rcases bind_eq_ok_iff.mp hcompared with ⟨target, htarget, hcondition⟩
    exact ⟨owner, target, fragment, howner, htarget, hwritten,
      Filter.arrayCondition hcondition⟩
  · intro owner target call htarget hcall
    rw [condition?_array hcall, FilterCall.compared, htarget,
      ← Filter.exists_membership_iff]
    constructor
    · rintro ⟨fragment, h⟩
      exact ⟨fragment, Option.some.inj h⟩
    · rintro ⟨fragment, h⟩
      exact ⟨fragment, congrArg some h⟩

end Entries

def ofArray (texts : List String) : QueryFile where
  table := "t"
  distinct := false
  columns := []
  joins := []
  conditions := [.ofArray "c" false texts none]
  groupBy := []
  orderBy := []
  limit := none
  offset := none

theorem statement_lists_array_of_two :
    (ofArray ["x", "y z"]).statement .standard none =
      .ok ⟨"SELECT * FROM t WHERE t.c IN (?,?)", [.text "x", .text "y z"]⟩ ∧
    ∃ owner target fragment, Ident.parse "t" = .ok owner ∧
      Column.parse .standard (some owner) "c" = .ok target ∧
      Filter.Lists fragment target.sql false ["x", "y z"] := by
  have h : (ofArray ["x", "y z"]).statement .standard none =
      .ok ⟨"SELECT * FROM t WHERE t.c IN (?,?)", [.text "x", .text "y z"]⟩ := by
    cbv
  have hentry : (ofArray ["x", "y z"]).conditions =
      [] ++ .ofArray "c" false ["x", "y z"] none :: [] := rfl
  rcases (statement_lists_array hentry).1 none _ h with
    ⟨owner, target, fragment, howner, htarget, _, hcondition⟩
  refine ⟨h, owner, target, fragment, howner, htarget,
    hcondition.elements_iff.mpr ⟨?_, ?_, ?_⟩⟩
  · decide
  · decide
  · decide

/-- An element with a comma is bound in two pieces, an array without elements as
one empty text, and a call not at all. -/
theorem array_not_bound_as_it_is :
    (∃ statement,
      (ofArray ["a,b"]).statement .standard none = .ok statement ∧
      statement.params ≠ [.text "a,b"]) ∧
    (∃ statement, (ofArray []).statement .standard none = .ok statement ∧
      statement.params ≠ []) ∧
    ∃ statement,
      (ofArray ["NOW()"]).statement .standard none = .ok statement ∧
      statement.params ≠ [.text "NOW()"] := by
  have hcomma : (ofArray ["a,b"]).statement .standard none =
      .ok ⟨"SELECT * FROM t WHERE t.c IN (?,?)", [.text "a", .text "b"]⟩ := by
    cbv
  have hempty : (ofArray []).statement .standard none =
      .ok ⟨"SELECT * FROM t WHERE t.c IN (?)", [.text ""]⟩ := by
    cbv
  have hcall : (ofArray ["NOW()"]).statement .standard none =
      .ok ⟨"SELECT * FROM t WHERE t.c IN (NOW())", []⟩ := by
    cbv
  refine ⟨⟨_, hcomma, ?_⟩, ⟨_, hempty, ?_⟩, ⟨_, hcall, ?_⟩⟩
  · exact fun h => absurd (congrArg List.length h) (by decide)
  · exact List.cons_ne_nil _ _
  · exact (List.cons_ne_nil _ _).symm

end QueryFile
end SqlAssembler
