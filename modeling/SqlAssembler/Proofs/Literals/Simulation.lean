import SqlAssembler.Proofs.Conditions.Shape
import SqlAssembler.Proofs.Literals.Reference
import SqlAssembler.Proofs.Markers.Fragments
import SqlAssembler.Proofs.Recordings
import SqlAssembler.Proofs.Results

/-!
# Recording literals instead of values

The parts that a script records and the parts that its reference records differ
only in that each value stands as its literal. Every call keeps this, because
nothing that a call looks at before it is accepted depends on values.
-/

namespace SqlAssembler

/-!
## Conditions
-/

def Node.withLiterals : Node → Node :=
  mapFragment fun fragment => [.text fragment.literalSql]

namespace Conditions

def withLiterals : Conditions → Conditions :=
  mapFragments fun fragment => [.text fragment.literalSql]

theorem isEmpty_withLiterals (conditions : Conditions) :
    conditions.withLiterals.isEmpty = conditions.isEmpty :=
  isEmpty_mapFragments _ conditions

theorem depth_withLiterals (conditions : Conditions) :
    conditions.withLiterals.depth = conditions.depth :=
  depth_mapFragments _ conditions

theorem add_withLiterals (conditions : Conditions) (connector : Connector)
    (fragment : Fragment) :
    conditions.withLiterals.add connector [.text fragment.literalSql] =
      (conditions.add connector fragment).withLiterals :=
  add_mapFragments _ conditions connector fragment

theorem openGroup_withLiterals (conditions : Conditions)
    (connector : Connector) :
    conditions.withLiterals.openGroup connector =
      (conditions.openGroup connector).withLiterals :=
  openGroup_mapFragments _ conditions connector

theorem closeGroup_withLiterals (conditions : Conditions) :
    conditions.withLiterals.closeGroup =
      conditions.closeGroup.map withLiterals :=
  closeGroup_mapFragments _ conditions

end Conditions

namespace Filter

theorem literalSql_slots (params : List Param) :
    (slots params).literalSql =
      ",".intercalate (params.map Param.literal) := by
  rw [slots]
  induction params with
  | nil => rfl
  | cons param rest ih =>
      cases rest with
      | nil => simp [Fragment.separated, Fragment.literalSql, Piece.literalSql]
      | cons next others =>
          simp only [List.map_cons, Fragment.separated] at ih ⊢
          rw [String.intercalate_cons_of_ne_nil (by simp), ← ih]
          simp [Fragment.literalSql_cons, Piece.literalSql,
            String.append_assoc]

theorem literalSql_comparison (column value : String) (kind : Comparison)
    (embedded : Bool) :
    (comparison column value kind embedded).literalSql =
      literalComparison column value kind embedded := by
  simp only [comparison, literalComparison]
  split
  · simp [Fragment.literalSql, Piece.literalSql]
  · split <;> simp [Fragment.literalSql, Piece.literalSql]

theorem literalSql_pattern (column value : String) (shape : Pattern)
    (embedded : Bool) :
    (pattern column value shape embedded).literalSql =
      literalPattern column value shape embedded := by
  simp only [pattern, literalPattern]
  cases embedded <;> simp [Fragment.literalSql, Piece.literalSql]

theorem literalSql_membership (column value : String)
    (negated embedded : Bool) :
    (membership column value negated embedded).literalSql =
      literalMembership column value negated embedded := by
  simp only [membership, literalMembership]
  cases embedded with
  | true => simp [Fragment.literalSql, Piece.literalSql]
  | false =>
      show Fragment.literalSql (.text _ :: slots (elements value) ++ _) = _
      rw [List.cons_append, Fragment.literalSql_cons,
        Fragment.literalSql_append, literalSql_slots]
      simp [Fragment.literalSql, Piece.literalSql, String.append_assoc]

theorem literalSql_nullness (column : String) (isNull : Bool) :
    (nullness column isNull).literalSql =
      column ++ (if isNull then " IS NULL" else " IS NOT NULL") := by
  simp [nullness, Fragment.literalSql, Piece.literalSql]

theorem literalCondition_eq (functions : FunctionNames) (column : String)
    (operator : Operator) (value : String) :
    literalCondition functions column operator value =
      (condition functions column operator value).map Fragment.literalSql := by
  rw [literalCondition, condition]
  cases functions.embeds value with
  | error cause => rfl
  | ok embedded =>
      cases operator with
      | comparison kind =>
          exact congrArg Except.ok (literalSql_comparison ..).symm
      | pattern shape => exact congrArg Except.ok (literalSql_pattern ..).symm
      | membership negated =>
          exact congrArg Except.ok (literalSql_membership ..).symm
      | nullness negated =>
          dsimp only
          cases isTrue? value with
          | none => rfl
          | some isNull => exact congrArg Except.ok (literalSql_nullness ..).symm

end Filter

namespace FilterCall

theorem addLiteral_eq (settings : Settings) (table : Option Ident)
    (conditions : Conditions) (connector : Connector) (column : String)
    (operator : Operator) (value : String) :
    addLiteral settings table conditions.withLiterals connector column operator
        value =
      (addFilter settings table conditions connector column operator value).map
        Conditions.withLiterals := by
  rw [addLiteral, addFilter]
  cases Column.parse settings table column with
  | error error => rfl
  | ok column =>
      simp only [Filter.literalCondition_eq]
      change (Except.map _ (Filter.condition _ _ _ _) >>= _) =
        Except.map _ (Filter.condition _ _ _ _ >>= _)
      cases Filter.condition settings.functions column.sql operator value with
      | error error => rfl
      | ok fragment =>
          exact congrArg Except.ok
            (conditions.add_withLiterals connector fragment)

theorem applyLiteral_eq (settings : Settings) (table : Option Ident)
    (conditions : Conditions) (call : FilterCall) :
    call.applyLiteral settings table conditions.withLiterals =
      (call.apply settings table conditions).map Conditions.withLiterals := by
  cases call with
  | filter connector column operator value =>
      rw [applyLiteral, apply]
      cases Operator.parse operator with
      | error error => rfl
      | ok operator =>
          exact addLiteral_eq settings table conditions connector column
            operator value
  | filterBy column operator value =>
      exact addLiteral_eq settings table conditions .and column operator value
  | openGroup connector =>
      exact congrArg Except.ok (conditions.openGroup_withLiterals connector)
  | closeGroup => exact conditions.closeGroup_withLiterals

end FilterCall

/-!
## Assignments
-/

def AssignedValue.withLiteral : AssignedValue → AssignedValue
  | bound value => .call value.literal
  | call text => .call text

def Assignment.withLiteral (assignment : Assignment) : Assignment :=
  { assignment with value := assignment.value.withLiteral }

namespace AssignCall

theorem assign_withLiteral (assignments : List Assignment) (column : String)
    (value : AssignedValue) :
    assign (assignments.map Assignment.withLiteral) column value.withLiteral =
      (assign assignments column value).map
        (List.map Assignment.withLiteral) := by
  rw [assign, assign]
  cases Ident.parse column with
  | error error => rfl
  | ok column => simp [Except.map, Assignment.withLiteral]

theorem applyLiteral_eq (settings : Settings) (assignments : List Assignment)
    (call : AssignCall) :
    call.applyLiteral settings (assignments.map Assignment.withLiteral) =
      (call.apply settings assignments).map
        (List.map Assignment.withLiteral) := by
  cases call with
  | set column value =>
      exact assign_withLiteral assignments column (.bound value)
  | setOptional column value =>
      cases value with
      | none => rfl
      | some value =>
          exact assign_withLiteral assignments column (.bound value)
  | setFunction column call =>
      rw [applyLiteral, apply, apply]
      cases settings.functions.embeds call with
      | error cause => rfl
      | ok embedded =>
          cases embedded with
          | false => rfl
          | true => exact assign_withLiteral assignments column (.call call)

end AssignCall

/-!
## Builders
-/

namespace Selection

def withLiterals (selection : Selection) : Selection :=
  { selection with conditions := selection.conditions.withLiterals }

theorem setTable_withLiterals (name : String) (selection : Selection) :
    setTable name selection.withLiterals =
      (setTable name selection).map withLiterals := by
  have huses : selection.withLiterals.usesTable = selection.usesTable := by
    simp [usesTable, withLiterals, Conditions.isEmpty_withLiterals]
  rw [setTable, setTable, huses]
  show (if (selection.table.isSome && selection.usesTable) = true then _ else _)
    = _
  split
  · rfl
  · cases Ident.parse name <;> rfl

theorem project_withLiterals (settings : Settings) (raw : String)
    (selection : Selection) :
    project settings raw selection.withLiterals =
      (project settings raw selection).map withLiterals := by
  have htable : selection.withLiterals.table = selection.table := rfl
  have hkeys : selection.withLiterals.hasResultKey = selection.hasResultKey :=
    rfl
  simp only [project, htable, hkeys]
  cases Column.parseProjection settings selection.table raw with
  | error error => rfl
  | ok column =>
      simp only [bind, Except.bind]
      cases column.resultKey with
      | none => rfl
      | some key =>
          dsimp only
          split <;> rfl

theorem addJoin_withLiterals (settings : Settings) (kind : JoinKind)
    (table left right : String) (selection : Selection) :
    addJoin settings kind table left right selection.withLiterals =
      (addJoin settings kind table left right selection).map withLiterals := by
  rw [addJoin, addJoin]
  show Except.map _ (Join.parse settings selection.table _ _ _ _) = _
  cases Join.parse settings selection.table kind table left right <;> rfl

end Selection

theorem SelectCall.simulates (settings : Settings) (call : SelectCall) :
    Recording.Simulates Selection.withLiterals (call.edits settings)
      (call.literalEdits settings) := by
  cases call with
  | setTable name =>
      exact Recording.simulates_single (Selection.setTable_withLiterals name)
  | distinct => exact Recording.simulates_single fun _ => rfl
  | select columns =>
      exact Recording.simulates_map (Selection.project_withLiterals settings)
        columns
  | join kind table left right =>
      apply Recording.simulates_single
      intro selection
      cases JoinKind.parse kind with
      | error error => rfl
      | ok kind =>
          exact Selection.addJoin_withLiterals settings kind table left right
            selection
  | joinAs kind table left right =>
      exact Recording.simulates_single
        (Selection.addJoin_withLiterals settings kind table left right)
  | filter call =>
      apply Recording.simulates_single
      intro selection
      show Except.map _ (call.applyLiteral settings selection.table
        selection.conditions.withLiterals) = _
      rw [FilterCall.applyLiteral_eq]
      exact map_map_eq fun _ => rfl
  | groupBy columns =>
      apply Recording.simulates_map
      intro raw selection
      show Except.map _ (Column.parse settings selection.table raw) =
        Except.map _ (Except.map _ (Column.parse settings selection.table raw))
      cases Column.parse settings selection.table raw <;> rfl
  | orderBy entries =>
      apply Recording.simulates_map
      intro raw selection
      show Except.map _ (SortKey.parse settings selection.table raw) =
        Except.map _ (Except.map _ (SortKey.parse settings selection.table raw))
      cases SortKey.parse settings selection.table raw <;> rfl
  | limit count => exact Recording.simulates_single fun _ => rfl
  | offset count => exact Recording.simulates_single fun _ => rfl
  | page number size => exact Recording.simulates_single fun _ => rfl

def Insertion.withLiterals (insertion : Insertion) : Insertion :=
  { insertion with
    assignments := insertion.assignments.map Assignment.withLiteral }

theorem Insertion.simulates (settings : Settings) (calls : List AssignCall) :
    Recording.Simulates Insertion.withLiterals
      (calls.map (Insertion.assign settings))
      (calls.map (Insertion.assignLiteral settings)) := by
  apply Recording.simulates_map
  intro call insertion
  show Except.map _ (call.applyLiteral settings
    (insertion.assignments.map Assignment.withLiteral)) = _
  rw [AssignCall.applyLiteral_eq]
  exact map_map_eq fun _ => rfl

def Update.withLiterals (update : Update) : Update :=
  { update with
    assignments := update.assignments.map Assignment.withLiteral
    conditions := update.conditions.withLiterals }

theorem UpdateCall.simulates (settings : Settings) (calls : List UpdateCall) :
    Recording.Simulates Update.withLiterals
      (calls.map (UpdateCall.edit settings))
      (calls.map (UpdateCall.literalEdit settings)) := by
  apply Recording.simulates_map
  intro call update
  cases call with
  | assign call =>
      show Except.map _ (call.applyLiteral settings
        (update.assignments.map Assignment.withLiteral)) = _
      rw [AssignCall.applyLiteral_eq]
      exact map_map_eq fun _ => rfl
  | filter call =>
      show Except.map _ (call.applyLiteral settings update.table
        update.conditions.withLiterals) = _
      rw [FilterCall.applyLiteral_eq]
      exact map_map_eq fun _ => rfl

def Deletion.withLiterals (deletion : Deletion) : Deletion :=
  { deletion with conditions := deletion.conditions.withLiterals }

theorem DeleteCall.simulates (settings : Settings) (calls : List DeleteCall) :
    Recording.Simulates Deletion.withLiterals
      (calls.map (DeleteCall.edit settings))
      (calls.map (DeleteCall.literalEdit settings)) := by
  apply Recording.simulates_map
  intro call deletion
  cases call with
  | allowAllRows allow => rfl
  | filter call =>
      show Except.map _ (call.applyLiteral settings deletion.table
        deletion.conditions.withLiterals) = _
      rw [FilterCall.applyLiteral_eq]
      exact map_map_eq fun _ => rfl

end SqlAssembler
