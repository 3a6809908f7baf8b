import SqlAssembler.Builder.Select
import SqlAssembler.Execution.Executor
import SqlAssembler.Row.Decoding

/-!
# Running statements

Each call builds one statement and sends it once, or sends nothing and answers
the error that building it gave. The builder itself stays as it is and can be
used again.
-/

namespace SqlAssembler

namespace Channel

variable {σ α : Type}

def send (built : Except Error Statement) (state : σ)
    (request : σ → Statement → Answer σ α) : Answer σ α :=
  match built with
  | .error error => .refused state error
  | .ok statement =>
      let answer := request state statement
      let event := Event.executing statement.sql statement.params.length
      { answer with events := event :: answer.events }

def query (channel : Channel σ) (built : Except Error Statement)
    (state : σ) : Answer σ (List Row) :=
  send built state channel.fetch

def queryFirst (channel : Channel σ) (built : Except Error Statement)
    (state : σ) : Answer σ (Option Row) :=
  send built state channel.fetchFirst

def change (channel : Channel σ) (built : Except Error Statement)
    (state : σ) : Answer σ Nat :=
  send built state channel.execute

end Channel

namespace SelectBuilder

variable {σ : Type}

def nesting (builder : SelectBuilder) : Nesting :=
  .ofColumns builder.selection.columns

def rows (builder : SelectBuilder) (channel : Channel σ) (state : σ) :
    Answer σ (List Row) :=
  (channel.query builder.statement state).readResult fun rows =>
    (builder.nesting.applyAll rows).map .ok

def firstRow (builder : SelectBuilder) (channel : Channel σ) (state : σ) :
    Answer σ (Option Row) :=
  (channel.queryFirst builder.firstRowStatement state).readResult fun row =>
    (row.mapM builder.nesting.apply).map .ok

def firstValue (builder : SelectBuilder) (channel : Channel σ) (state : σ) :
    Answer σ (Option Json) :=
  (channel.queryFirst builder.firstRowStatement state).mapResult fun row =>
    row.bind Row.firstColumn

def aggregate (builder : SelectBuilder) (channel : Channel σ) (state : σ)
    (function column : String) : Answer σ Json :=
  let built := builder.aggregateStatement function column
  (channel.queryFirst built state).mapResult fun row =>
    (row.bind Row.firstColumn).getD .null

def records {α : Type} (builder : SelectBuilder) (channel : Channel σ)
    (state : σ) (decode : Row → Except Error α) : Answer σ (List α) :=
  (builder.rows channel state).readResult fun rows => some (rows.mapM decode)

def firstRecord {α : Type} (builder : SelectBuilder) (channel : Channel σ)
    (state : σ) (decode : Row → Except Error α) : Answer σ (Option α) :=
  (builder.firstRow channel state).readResult fun row =>
    some (row.mapM decode)

end SelectBuilder
end SqlAssembler
