import SqlAssembler.Param
import SqlAssembler.Text.Quoting

/-!
# Fragments and statements

A fragment is a stretch of SQL in pieces: text, and slots that each bind one
value. Fragments are put together as lists, and only a finished one is turned
into a statement, whose text shows every slot as a `?`. So each value stands in
the list of values where its marker stands in the text.

A statement itself has its text and its values apart. To write them side by
side, piece by piece, gives the same statement as to collect the pieces first.

A statement that arrives as text can also be read back: its markers are the
question marks outside quotes. Here a backslash counts in both string quotes and
not in backticks.
-/

namespace SqlAssembler

open Text

inductive Piece where
  | text (sql : String)
  | slot (value : Param)
  /-- A value whose marker the caller has written into the text. -/
  | carried (value : Param)

abbrev Fragment := List Piece

structure Statement where
  sql : String
  params : ParamList

namespace Piece

def sql : Piece → String
  | text sql => sql
  | slot _ => "?"
  | carried _ => ""

def params : Piece → List Param
  | text _ => []
  | slot value | carried value => [value]

@[simp]
theorem params_text (sql : String) : (text sql).params = [] :=
  rfl

@[simp]
theorem params_slot (value : Param) : (slot value).params = [value] :=
  rfl

end Piece

namespace Fragment

def sql (fragment : Fragment) : String :=
  String.join (fragment.map Piece.sql)

def params (fragment : Fragment) : List Param :=
  fragment.flatMap Piece.params

def statement (fragment : Fragment) : Statement :=
  ⟨fragment.sql, fragment.params⟩

def ofStatement (statement : Statement) : Fragment :=
  .text statement.sql :: statement.params.map .carried

def separated (separator : String) : List Fragment → Fragment
  | [] => []
  | [fragment] => fragment
  | fragment :: rest => fragment ++ .text separator :: separated separator rest

@[simp]
theorem sql_append (left right : Fragment) :
    sql (left ++ right) = sql left ++ sql right := by
  simp [sql]

theorem sql_cons (piece : Piece) (rest : Fragment) :
    sql (piece :: rest) = piece.sql ++ sql rest :=
  String.join_cons

theorem sql_text (text : String) : sql [.text text] = text := by
  simp [sql, Piece.sql]

@[simp]
theorem params_append (left right : Fragment) :
    params (left ++ right) = params left ++ params right := by
  simp [params]

@[simp]
theorem params_nil : params [] = [] :=
  rfl

@[simp]
theorem params_cons (piece : Piece) (rest : Fragment) :
    params (piece :: rest) = piece.params ++ params rest :=
  rfl

@[simp]
theorem params_flatMap {α : Type} (items : List α) (f : α → Fragment) :
    params (items.flatMap f) = items.flatMap fun item => params (f item) := by
  simp [params, List.flatMap_assoc]

@[simp]
theorem params_separated (separator : String) (fragments : List Fragment) :
    params (separated separator fragments) = fragments.flatMap params := by
  induction fragments with
  | nil => rfl
  | cons fragment rest ih =>
      cases rest with
      | nil => simp [separated]
      | cons next others => simpa [separated] using ih

end Fragment

namespace Statement

/-!
## Text and values side by side
-/

def write (statement : Statement) (piece : Piece) : Statement :=
  ⟨statement.sql ++ piece.sql, statement.params.extend piece.params⟩

theorem foldl_write (fragment : Fragment) (statement : Statement) :
    fragment.foldl write statement =
      ⟨statement.sql ++ fragment.sql,
        statement.params.extend fragment.params⟩ := by
  induction fragment generalizing statement with
  | nil => simp [Fragment.sql, ParamList.extend]
  | cons piece rest ih =>
      rw [List.foldl_cons, ih]
      simp [write, ParamList.extend, Fragment.sql_cons, String.append_assoc]

theorem foldl_write_empty (fragment : Fragment) :
    fragment.foldl write ⟨"", []⟩ = fragment.statement := by
  rw [foldl_write]
  simp [Fragment.statement, ParamList.extend]

/-!
## Markers in a text
-/

def escapes (quote : Char) : Bool :=
  quote ≠ backtick

def isMarker (state : Quoting) (c : Char) : Bool :=
  state = .outside && c = '?'

def countMarkers : Quoting → List Char → Nat
  | _, [] => 0
  | state, c :: cs =>
      (if isMarker state c then 1 else 0) +
        countMarkers (state.step escapes c) cs

/-- Puts the literals of the values in place of the markers; a marker without a
value stays. -/
def fillMarkers : Quoting → List Char → List Param → List Char
  | _, [], _ => []
  | state, c :: cs, values =>
      let next := state.step escapes c
      if isMarker state c then
        match values with
        | [] => c :: fillMarkers next cs []
        | value :: rest => value.literal.toList ++ fillMarkers next cs rest
      else c :: fillMarkers next cs values

def markerCount (statement : Statement) : Nat :=
  countMarkers .outside statement.sql.toList

def debugSql (statement : Statement) : String :=
  String.ofList (fillMarkers .outside statement.sql.toList statement.params)

theorem countMarkers_append (state : Quoting) (left right : List Char) :
    countMarkers state (left ++ right) =
      countMarkers state left +
        countMarkers (state.run escapes left) right := by
  induction left generalizing state with
  | nil => simp [countMarkers]
  | cons c cs ih => simp [countMarkers, ih, Nat.add_assoc]

end Statement
end SqlAssembler
