import SqlAssembler.Proofs.Grammar.Columns
import SqlAssembler.Query.Join
import SqlAssembler.Query.SortKey
import SqlAssembler.Row.Nesting

/-!
# Columns and their owners

To qualify a column means to read it as it is given and then to put its owner in
front, if it was given as a single name. Whether it can be read, what it is
called in a result and where nesting puts its value do not depend on the owner.
-/

namespace SqlAssembler

def Settings.asGiven (functions : FunctionNames) : Settings :=
  ⟨functions, false⟩

def Settings.qualifying (functions : FunctionNames) : Settings :=
  ⟨functions, true⟩

theorem Settings.eq_qualifying (settings : Settings)
    (h : settings.qualifyColumns = true) :
    settings = .qualifying settings.functions := by
  cases settings
  cases h
  rfl

def Ident.ownedBy (owner : Option Ident) (ident : Ident) : Ident :=
  match owner, ident.parts with
  | some owner, [part] => ⟨owner.parts ++ [part]⟩
  | _, _ => ident

def Column.ownedBy (owner : Option Ident) : Column → Column
  | wildcard table => wildcard table
  | plain ident label => plain (ident.ownedBy owner) label
  | json base path label => json (base.ownedBy owner) path label
  | call text label => call text label

def SortKey.ownedBy (owner : Option Ident) (key : SortKey) : SortKey :=
  { key with column := key.column.ownedBy owner }

def Join.ownedBy (owner : Option Ident) (join : Join) : Join :=
  { join with
    left := join.left.ownedBy owner
    right := join.right.ownedBy (some join.table) }

/-!
## Names
-/

theorem Ident.name_ownedBy (owner : Option Ident) (ident : Ident) :
    (ident.ownedBy owner).name = ident.name := by
  unfold ownedBy
  split
  · rename_i parts part hparts
    simp [name, hparts]
  · rfl

namespace Column

theorem writtenLabel_ownedBy (owner : Option Ident) (column : Column) :
    (column.ownedBy owner).writtenLabel = column.writtenLabel := by
  cases column with
  | wildcard table => rfl
  | plain ident label => rfl
  | json base path label => rw [ownedBy, writtenLabel, Ident.name_ownedBy]; rfl
  | call text label => rfl

theorem resultKey_ownedBy (owner : Option Ident) (column : Column) :
    (column.ownedBy owner).resultKey = column.resultKey := by
  cases column with
  | wildcard table => rfl
  | plain ident label => rw [ownedBy, resultKey, Ident.name_ownedBy]; rfl
  | json base path label =>
      exact writtenLabel_ownedBy owner (.json base path label)
  | call text label => rfl

theorem placement?_ownedBy (owner : Option Ident) (column : Column) :
    Nesting.placement? (column.ownedBy owner) =
      Nesting.placement? column := by
  cases column with
  | wildcard table => rfl
  | plain ident label => rfl
  | json base path label =>
      cases label with
      | some label => rfl
      | none =>
          have hkey := resultKey_ownedBy owner (.json base path none)
          simp only [ownedBy] at hkey ⊢
          simp only [Nesting.placement?, hkey, Ident.name_ownedBy]
  | call text label => rfl

end Column

/-!
## Reading
-/

namespace Column

variable (functions : FunctionNames) (table other : Option Ident)

theorem qualify_asGiven (ident : Ident) :
    qualify (.asGiven functions) other ident = ident := by
  cases other <;> rfl

theorem qualify_qualifying {ident : Ident} (h : ident.parts ≠ []) :
    qualify (.qualifying functions) table ident = ident.ownedBy table := by
  rcases ident with ⟨parts⟩
  cases table with
  | none => rfl
  | some owner =>
      cases parts with
      | nil => exact absurd rfl h
      | cons first rest => cases rest <;> rfl

theorem parseExpression_qualifying (label : Option String) (cs : List Char) :
    parseExpression (.qualifying functions) table label cs =
      (parseExpression (.asGiven functions) other label cs).map
        (ownedBy table) := by
  have hread : ∀ {text : String} {ident : Ident},
      Ident.parse text = .ok ident →
        qualify (.qualifying functions) table ident = ident.ownedBy table := by
    intro text ident hparse
    exact qualify_qualifying functions table
      (Ident.wellFormed_of_parse hparse).hasPart
  unfold parseExpression
  simp only [qualify_asGiven]
  split
  · rfl
  · split
    · split
      · rfl
      · rename_i hbase
        rw [hread hbase]
        split <;> rfl
    · split
      · rfl
      · rename_i hident
        rw [hread hident]
        rfl

theorem parse_qualifying (raw : String) :
    parse (.qualifying functions) table raw =
      (parse (.asGiven functions) other raw).map (ownedBy table) :=
  parseExpression_qualifying functions table other none _

theorem parseProjection_qualifying (raw : String) :
    parseProjection (.qualifying functions) table raw =
      (parseProjection (.asGiven functions) other raw).map
        (ownedBy table) := by
  rcases hsplit : splitLabel (Text.trim raw.toList) with ⟨cs, label⟩
  simp only [parseProjection, hsplit]
  split
  · rfl
  · split
    · split
      · rfl
      · rename_i owner _ _
        cases Ident.parse (String.ofList owner) <;> rfl
    · have hfunctions : (Settings.qualifying functions).functions =
          (Settings.asGiven functions).functions := rfl
      rw [hfunctions]
      split
      · rfl
      · rfl
      · exact parseExpression_qualifying functions table other label cs

theorem parseAggregateTarget_qualifying (raw : String) :
    parseAggregateTarget (.qualifying functions) table raw =
      (parseAggregateTarget (.asGiven functions) other raw).map
        (ownedBy table) := by
  unfold parseAggregateTarget
  split
  · rfl
  · exact parse_qualifying functions table other raw

end Column

theorem SortKey.parse_qualifying (functions : FunctionNames)
    (table other : Option Ident) (raw : String) :
    parse (.qualifying functions) table raw =
      (parse (.asGiven functions) other raw).map (ownedBy table) := by
  unfold parse
  rcases splitSign (Text.trim raw.toList) with ⟨direction, cs⟩
  dsimp only
  rw [Column.parse_qualifying functions table other]
  exact map_map_eq fun _ => rfl

theorem Join.parse_qualifying (functions : FunctionNames)
    (table other : Option Ident) (kind : JoinKind)
    (name left right : String) :
    parse (.qualifying functions) table kind name left right =
      (parse (.asGiven functions) other kind name left right).map
        (ownedBy table) := by
  unfold parse
  cases Ident.parse name with
  | error error => rfl
  | ok joined =>
      simp only [Column.parse_qualifying functions table other,
        Column.parse_qualifying functions (some joined) (some joined), bind,
        Except.bind]
      cases Column.parse (.asGiven functions) other left with
      | error error => rfl
      | ok leftColumn =>
          simp only [Except.map]
          cases Column.parse (.asGiven functions) (some joined) right <;> rfl

end SqlAssembler
