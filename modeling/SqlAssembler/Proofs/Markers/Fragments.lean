import SqlAssembler.Proofs.Markers.Neutral

/-!
# Markers of a fragment

In a fragment whose texts are neutral, the markers that the reader finds are the
slots, one for one and in order. Hence there are as many markers as values, and
putting the values back where the markers stand is the same as writing each
literal in place of its slot.
-/

namespace SqlAssembler

open Text Statement

def Piece.literalSql : Piece → String
  | text sql => sql
  | slot value => value.literal
  | carried _ => ""

def Piece.Neutral : Piece → Prop
  | text sql => Statement.Neutral sql
  | slot _ => True
  | carried _ => False

namespace Fragment

def literalSql (fragment : Fragment) : String :=
  String.join (fragment.map Piece.literalSql)

def Neutral (fragment : Fragment) : Prop :=
  ∀ piece ∈ fragment, piece.Neutral

theorem literalSql_cons (piece : Piece) (rest : Fragment) :
    literalSql (piece :: rest) = piece.literalSql ++ literalSql rest :=
  String.join_cons

@[simp]
theorem literalSql_append (left right : Fragment) :
    literalSql (left ++ right) = literalSql left ++ literalSql right := by
  simp [literalSql]

/-!
## Neutral fragments
-/

theorem neutral_nil : Neutral [] := by
  intro piece hpiece
  cases hpiece

theorem neutral_text {sql : String} (h : Statement.Neutral sql) :
    Neutral [.text sql] := by
  intro piece hpiece
  rw [List.mem_singleton] at hpiece
  rw [hpiece]
  exact h

theorem neutral_slot (value : Param) : Neutral [.slot value] := by
  intro piece hpiece
  rw [List.mem_singleton] at hpiece
  rw [hpiece]
  trivial

theorem Neutral.append {left right : Fragment} (hleft : Neutral left)
    (hright : Neutral right) : Neutral (left ++ right) := by
  intro piece hpiece
  rcases List.mem_append.mp hpiece with hmem | hmem
  · exact hleft piece hmem
  · exact hright piece hmem

theorem Neutral.cons_text {sql : String} {fragment : Fragment}
    (hsql : Statement.Neutral sql) (h : Neutral fragment) :
    Neutral (.text sql :: fragment) :=
  (neutral_text hsql).append h

theorem neutral_separated {separator : String} {fragments : List Fragment}
    (hseparator : Statement.Neutral separator)
    (h : ∀ fragment ∈ fragments, Neutral fragment) :
    Neutral (separated separator fragments) := by
  induction fragments with
  | nil => exact neutral_nil
  | cons fragment rest ih =>
      have hfragment := h fragment List.mem_cons_self
      cases rest with
      | nil => exact hfragment
      | cons next others =>
          exact hfragment.append ((ih fun other hother =>
            h other (List.mem_cons_of_mem fragment hother)).cons_text hseparator)

/-!
## Reading a neutral fragment

What holds of a fragment follows from what holds of each piece: a text is read
over, and a slot is one marker.
-/

theorem fillMarkers_append {state : Quoting} {left : List Char}
    (h : countMarkers state left = 0) (right : List Char)
    (values : List Param) :
    fillMarkers state (left ++ right) values =
      left ++ fillMarkers (Quoting.run escapes state left) right values := by
  induction left generalizing state with
  | nil => rfl
  | cons c cs ih =>
      simp only [countMarkers, Nat.add_eq_zero_iff] at h
      rcases h with ⟨hhere, hlater⟩
      have hmarker : isMarker state c = false := by
        cases hcase : isMarker state c with
        | false => rfl
        | true => simp [hcase] at hhere
      have hrest := ih hlater
      simp [fillMarkers, hmarker, hrest]

theorem toList_sql_slot (value : Param) :
    (Piece.slot value).sql.toList = ['?'] := by
  change "?".toList = ['?']
  decide

theorem run_piece {piece : Piece} (h : piece.Neutral) :
    Quoting.run escapes .outside piece.sql.toList = .outside := by
  cases piece with
  | text sql => exact h.closes
  | slot value =>
      rw [toList_sql_slot]
      rfl
  | carried value => exact absurd h id

theorem countMarkers_piece {piece : Piece} (h : piece.Neutral) :
    countMarkers .outside piece.sql.toList = piece.params.length := by
  cases piece with
  | text sql => exact h.unmarked
  | slot value =>
      rw [toList_sql_slot]
      rfl
  | carried value => exact absurd h id

theorem fillMarkers_piece {piece : Piece} (h : piece.Neutral)
    (right : List Char) (values : List Param) :
    fillMarkers .outside (piece.sql.toList ++ right) (piece.params ++ values) =
      piece.literalSql.toList ++ fillMarkers .outside right values := by
  cases piece with
  | text sql =>
      have hfill := fillMarkers_append h.unmarked right values
      rw [h.closes] at hfill
      exact hfill
  | slot value =>
      rw [toList_sql_slot]
      rfl
  | carried value => exact absurd h id

theorem countMarkers_of_neutral {fragment : Fragment} (h : Neutral fragment) :
    countMarkers .outside fragment.sql.toList = fragment.params.length := by
  induction fragment with
  | nil => rfl
  | cons piece rest ih =>
      have hpiece := h piece List.mem_cons_self
      have hrest := ih fun other hother =>
        h other (List.mem_cons_of_mem piece hother)
      rw [sql_cons, String.toList_append, countMarkers_append,
        run_piece hpiece, countMarkers_piece hpiece, hrest, params_cons,
        List.length_append]

/-- The values go back to the slots that they came from, and values for later
markers are left over. -/
theorem fillMarkers_of_neutral {fragment : Fragment} (h : Neutral fragment)
    (right : List Char) (values : List Param) :
    fillMarkers .outside (fragment.sql.toList ++ right)
        (fragment.params ++ values) =
      fragment.literalSql.toList ++ fillMarkers .outside right values := by
  induction fragment with
  | nil => rfl
  | cons piece rest ih =>
      have hpiece := h piece List.mem_cons_self
      have hrest := ih fun other hother =>
        h other (List.mem_cons_of_mem piece hother)
      rw [sql_cons, params_cons, literalSql_cons, String.toList_append,
        String.toList_append, List.append_assoc, List.append_assoc,
        List.append_assoc, fillMarkers_piece hpiece, hrest]

theorem markerCount_of_neutral {fragment : Fragment} (h : Neutral fragment) :
    fragment.statement.markerCount = fragment.statement.params.length :=
  countMarkers_of_neutral h

theorem debugSql_of_neutral {fragment : Fragment} (h : Neutral fragment) :
    fragment.statement.debugSql = fragment.literalSql := by
  have hfill := fillMarkers_of_neutral h [] []
  simp only [List.append_nil, fillMarkers] at hfill
  rw [debugSql, statement, hfill, String.ofList_toList]

end Fragment
end SqlAssembler
