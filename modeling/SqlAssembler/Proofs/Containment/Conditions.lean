import SqlAssembler.Proofs.Conditions.Recorded
import SqlAssembler.Proofs.Containment.Calls
import SqlAssembler.Proofs.Containment.Columns

/-!
# Conditions are contained

A contained text may stand in any parentheses and leaves as many of them open as
it found. Calls are contained, and so is every condition that is made of a
column and a call or a slot. Groups put contained texts into parentheses.
-/

namespace SqlAssembler

open Text Statement

/-- A text that follows a settled text and belongs to one pair of parentheses.
-/
def Statement.Contained (text : String) : Prop :=
  ∀ depth, Leads (Settled depth) text (Orderly depth)

variable {P Q R : List Char → Prop} {depth : Nat}

/-!
## Fragments
-/

namespace Fragment

theorem leads_cons {piece : Piece} {rest : Fragment}
    (hpiece : Leads P piece.sql Q) (hrest : Leads Q (sql rest) R) :
    Leads P (sql (piece :: rest)) R := by
  rw [sql_cons]
  exact hpiece.append hrest

theorem leads_append {left right : Fragment} (hleft : Leads P left.sql Q)
    (hright : Leads Q right.sql R) : Leads P (sql (left ++ right)) R := by
  rw [sql_append]
  exact hleft.append hright

theorem leads_text {text : String} (h : Leads P text Q) :
    Leads P (sql [.text text]) Q := by
  rw [sql_text]
  exact h

theorem leads_slot (value : Param) :
    Leads (Orderly depth) (sql [.slot value]) (Settled depth) := by
  have hsql : sql [.slot value] = "?" := by
    simp [sql, Piece.sql]
  rw [hsql]
  exact leads_word (by decide)

theorem sql_separated (separator : String) (fragments : List Fragment) :
    sql (separated separator fragments) =
      separator.intercalate (fragments.map sql) := by
  induction fragments with
  | nil => rfl
  | cons fragment rest ih =>
      cases rest with
      | nil => simp [separated]
      | cons next others =>
          have hsplit : separated separator (fragment :: next :: others) =
              fragment ++ .text separator ::
                separated separator (next :: others) := rfl
          rw [hsplit, sql_append, sql_cons, ih]
          simp [Piece.sql, String.append_assoc]

theorem leads_separated {separator : String} {fragments : List Fragment}
    (hne : fragments ≠ []) (hseparator : Leads Q separator P)
    (h : ∀ fragment ∈ fragments, Leads P fragment.sql Q) :
    Leads P (sql (separated separator fragments)) Q := by
  rw [sql_separated]
  apply leads_intercalate
  · intro hnil
    exact hne (List.map_eq_nil_iff.mp hnil)
  · exact hseparator
  · intro text htext
    rcases List.mem_map.mp htext with ⟨fragment, hfragment, rfl⟩
    exact h fragment hfragment

end Fragment

/-!
## Filters
-/

theorem Comparison.leads_sql (kind : Comparison) :
    Leads (Orderly depth) kind.sql (Settled depth) := by
  cases kind <;> exact leads_word (by decide)

namespace Filter

variable {column value : String} {embedded : Bool}

theorem contained_comparison {kind : Comparison}
    (hcolumn : ∀ depth, Leads (Settled depth) column (Settled depth))
    (hvalue : embedded = true → Contained value) :
    Contained (comparison column value kind embedded).sql := by
  intro depth
  have hhead : Leads (Settled depth) (column ++ " " ++ kind.sql ++ " ")
      (Settled depth) :=
    (((hcolumn depth).append leads_space.of_orderly).append
      kind.leads_sql.of_orderly).append leads_space.of_orderly
  unfold comparison
  dsimp only
  split
  · have hempty : Leads (Settled depth) "''" (Settled depth) :=
      (leads_word (by decide)).of_orderly
    exact (Fragment.leads_text (hhead.append hempty)).orderly
  · split
    · rename_i hembedded
      exact Fragment.leads_text (hhead.append (hvalue hembedded depth))
    · exact Fragment.leads_cons hhead (Fragment.leads_slot _).of_orderly.orderly

theorem contained_pattern {shape : Pattern}
    (hcolumn : ∀ depth, Leads (Settled depth) column (Settled depth))
    (hvalue : embedded = true → Contained value) :
    Contained (pattern column value shape embedded).sql := by
  intro depth
  have htarget : Leads (Settled depth)
      (if shape.caseless then column else "BINARY " ++ column)
      (Settled depth) := by
    split
    · exact hcolumn depth
    · have hbinary : Leads (Settled depth) "BINARY " (Settled depth) :=
        (leads_word (by decide)).of_orderly
      exact hbinary.append (hcolumn depth)
  have hlike : Leads (Settled depth)
      (if shape.negated then " NOT LIKE " else " LIKE ") (Settled depth) := by
    split
    · exact (leads_word (by decide)).of_orderly
    · exact (leads_word (by decide)).of_orderly
  have hhead := htarget.append hlike
  unfold pattern
  dsimp only
  split
  · rename_i hembedded
    exact Fragment.leads_text (hhead.append (hvalue hembedded depth))
  · exact Fragment.leads_cons hhead (Fragment.leads_slot _).of_orderly.orderly

theorem splitCommas_ne_nil (cs : List Char) : splitCommas cs ≠ [] := by
  cases cs with
  | nil => simp [splitCommas]
  | cons c cs =>
      unfold splitCommas
      split
      · simp
      · split
        · simp
        · simp

theorem leads_slots {params : List Param} (hne : params ≠ []) :
    Leads (Orderly depth) (slots params).sql (Settled depth) := by
  have hcomma : Leads (Orderly depth) "," (Settled depth) :=
    leads_word (by decide)
  apply Fragment.leads_separated
  · intro hnil
    exact hne (List.map_eq_nil_iff.mp hnil)
  · exact hcomma.of_orderly.orderly
  · intro fragment hfragment
    rcases List.mem_map.mp hfragment with ⟨param, _, rfl⟩
    exact Fragment.leads_slot param

theorem contained_membership {negated : Bool}
    (hcolumn : ∀ depth, Leads (Settled depth) column (Settled depth))
    (hvalue : embedded = true → Contained value) :
    Contained (membership column value negated embedded).sql := by
  intro depth
  have hopening : Leads (Settled depth)
      (if negated then " NOT IN (" else " IN (") (Settled (depth + 1)) := by
    split
    · exact (leads_opening (by decide)).of_orderly
    · exact (leads_opening (by decide)).of_orderly
  have hhead := (hcolumn depth).append hopening
  unfold membership
  dsimp only
  split
  · rename_i hembedded
    have hcall := hhead.append (hvalue hembedded (depth + 1))
    exact Fragment.leads_text (hcall.append leads_close.orderly)
  · have hne : elements value ≠ [] := by
      intro hnil
      exact splitCommas_ne_nil _ (List.map_eq_nil_iff.mp hnil)
    have hslots : Leads (Settled (depth + 1)) (slots (elements value)).sql
        (Orderly (depth + 1)) :=
      (leads_slots hne).of_orderly.orderly
    exact Fragment.leads_append (Fragment.leads_cons hhead hslots)
      (Fragment.leads_text leads_close.orderly)

theorem contained_nullness {isNull : Bool}
    (hcolumn : ∀ depth, Leads (Settled depth) column (Settled depth)) :
    Contained (nullness column isNull).sql := by
  intro depth
  have htest : Leads (Settled depth)
      (if isNull then " IS NULL" else " IS NOT NULL") (Orderly depth) := by
    split
    · exact (leads_word (by decide)).of_orderly.orderly
    · exact (leads_word (by decide)).of_orderly.orderly
  exact Fragment.leads_text ((hcolumn depth).append htest)

theorem contained_condition {functions : FunctionNames} {operator : Operator}
    {fragment : Fragment}
    (hcolumn : ∀ depth, Leads (Settled depth) column (Settled depth))
    (hvalue : functions.embeds value = .ok true → Contained value)
    (h : condition functions column operator value = .ok fragment) :
    Contained fragment.sql := by
  unfold condition at h
  split at h
  · cases h
  · rename_i embedded hembeds
    have hembedded : embedded = true → Contained value := by
      rintro rfl
      exact hvalue hembeds
    cases operator with
    | comparison kind =>
        cases h
        exact contained_comparison hcolumn hembedded
    | pattern shape =>
        cases h
        exact contained_pattern hcolumn hembedded
    | membership negated =>
        cases h
        exact contained_membership hcolumn hembedded
    | nullness negated =>
        dsimp only at h
        split at h
        · cases h
          exact contained_nullness hcolumn
        · cases h

theorem Gives.contained {functions : FunctionNames} {calls : String → Prop}
    {fragment : Fragment} (h : Gives functions calls fragment)
    (hcalls : ∀ text, calls text → Contained text) :
    Contained fragment.sql := by
  rcases h with ⟨column, operator, value, hcolumn, hcondition, hvalue⟩
  exact contained_condition (fun _ => hcolumn.leads_sql)
    (fun hembeds => hcalls value (hvalue hembeds)) hcondition

end Filter

/-!
## Groups
-/

theorem Connector.leads_spaced (connector : Connector) :
    Leads (Orderly depth) connector.spaced (Settled depth) := by
  cases connector <;> exact leads_word (by decide)

/-! The recursion is that of the expression. A group opens a parenthesis before
its items and closes it after them. -/

mutual

theorem Item.contained {item : Item}
    (h : ∀ fragment ∈ item.fragments, Contained fragment.sql) :
    Contained item.sql := by
  intro depth
  cases item with
  | condition fragment =>
      exact h fragment (List.mem_singleton_self fragment) depth
  | group items =>
      have hitems := Items.contained h (depth + 1)
      exact (leads_open.of_orderly.append hitems).append leads_close.orderly

theorem Items.contained {items : Items}
    (h : ∀ fragment ∈ Items.fragments items, Contained fragment.sql) :
    Contained (Items.sql items) := by
  intro depth
  cases items with
  | nil => exact leads_empty.orderly
  | cons first rest =>
      rcases first with ⟨connector, item⟩
      rw [Items.fragments, List.forall_mem_append] at h
      exact (Item.contained h.1 depth).append (Items.leads_laterSql h.2 depth)

theorem Items.leads_laterSql {items : Items}
    (h : ∀ fragment ∈ Items.fragments items, Contained fragment.sql)
    (depth : Nat) :
    Leads (Orderly depth) (Items.laterSql items) (Orderly depth) := by
  cases items with
  | nil => exact leads_empty
  | cons first rest =>
      rcases first with ⟨connector, item⟩
      rw [Items.fragments, List.forall_mem_append] at h
      have hitem := connector.leads_spaced.append (Item.contained h.1 depth)
      exact hitem.append (Items.leads_laterSql h.2 depth)

end

theorem Conditions.leads_render {functions : FunctionNames}
    {calls : String → Prop} {conditions : Conditions} {fragment : Fragment}
    (hrecorded : conditions.Recorded)
    (h : conditions.WellFormed functions calls)
    (hcalls : ∀ text, calls text → Contained text)
    (hrender : conditions.render = .ok fragment) :
    Leads (Orderly depth) fragment.sql (Orderly depth) := by
  rcases hrecorded.render_eq_ok hrender with ⟨items, _, hfragments, _, hsql⟩
  rw [hsql]
  split
  · exact leads_empty
  · have hwhere : Leads (Orderly depth) " WHERE " (Settled depth) :=
      leads_word (by decide)
    have hitems : Contained (Items.sql items) := by
      apply Items.contained
      intro condition hmem
      rw [hfragments] at hmem
      rcases mem_fragments_iff.mp hmem with ⟨connector, hnode⟩
      exact (h connector condition hnode).contained hcalls
    exact hwhere.append (hitems depth)

end SqlAssembler
