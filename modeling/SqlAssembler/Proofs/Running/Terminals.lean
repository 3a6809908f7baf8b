import SqlAssembler.Builder.Delete
import SqlAssembler.Builder.Insert
import SqlAssembler.Builder.Update
import SqlAssembler.Execution.Running
import SqlAssembler.Proofs.Rows.Moving
import SqlAssembler.Row.Decoders

/-!
# Terminal calls

A terminal call runs a statement of a builder. Whatever call it is and whatever
the builder recorded, it builds one statement, sends it in one request and reads
its result from the reply, or it cannot build the statement and sends nothing.
-/

namespace SqlAssembler

inductive Mutation where
  | insert (builder : InsertBuilder)
  | update (builder : UpdateBuilder)
  | delete (builder : DeleteBuilder)

def Mutation.statement : Mutation → Except Error Statement
  | insert builder => builder.statement
  | update builder => builder.statement
  | delete builder => builder.statement

/-- A terminal call on a builder: what the executor replies to it is a `ρ`, and
what the caller gets from it is an `α`. Records are decoded as the caller says.
-/
inductive Terminal : Type → Type → Type 1 where
  | rawRows (builder : SelectBuilder) : Terminal (List Row) (List Row)
  | rows (builder : SelectBuilder) : Terminal (List Row) (List Row)
  | records {α : Type} (builder : SelectBuilder)
      (decode : Row → Except Error α) : Terminal (List Row) (List α)
  | firstRow (builder : SelectBuilder) : Terminal (List Row) (Option Row)
  | firstRecord {α : Type} (builder : SelectBuilder)
      (decode : Row → Except Error α) : Terminal (List Row) (Option α)
  | firstValue (builder : SelectBuilder) : Terminal (List Row) (Option Json)
  | aggregate (builder : SelectBuilder) (function column : String) :
      Terminal (List Row) Json
  | changedRows (mutation : Mutation) : Terminal (List Row) (List Row)
  | change (mutation : Mutation) : Terminal Nat Nat

def SelectBuilder.limited (builder : SelectBuilder) : SelectBuilder :=
  match builder.selection.limit with
  | some _ => builder
  | none => builder.record (.limit 1)

namespace Terminal

variable {ρ α σ : Type}

def ask (channel : Channel σ) (state : σ) : Terminal ρ α → Answer σ α
  | rawRows builder => channel.query builder.statement state
  | rows builder => builder.rows channel state
  | records builder decode => builder.records channel state decode
  | firstRow builder => builder.firstRow channel state
  | firstRecord builder decode => builder.firstRecord channel state decode
  | firstValue builder => builder.firstValue channel state
  | aggregate builder function column =>
      builder.aggregate channel state function column
  | changedRows mutation => channel.query mutation.statement state
  | change mutation => channel.change mutation.statement state

/-!
## What a call is to do
-/

def built : Terminal ρ α → Except Error Statement
  | rawRows builder | rows builder | records builder _ => builder.statement
  | firstRow builder | firstRecord builder _ | firstValue builder =>
      builder.limited.statement
  | aggregate builder function column =>
      builder.aggregateStatement function column
  | changedRows mutation | change mutation => mutation.statement

def request : Terminal ρ α → Statement → Request
  | change _ => .execute
  | _ => .fetch

def reply (executor : Executor) : Terminal ρ α → Statement → Reply ρ
  | rawRows _ | rows _ | records _ _ | firstRow _ | firstRecord _ _
  | firstValue _ | aggregate _ _ _ | changedRows _ => executor.fetch
  | change _ => executor.execute

def leadingValue : List Row → Option Json
  | ((_, value) :: _) :: _ => some value
  | _ => none

def read : Terminal ρ α → ρ → Option (Except Error α)
  | rawRows _ | changedRows _ => fun rows => some (.ok rows)
  | rows builder => fun rows => (rows.mapM builder.nesting.apply).map .ok
  | records builder decode => fun rows =>
      (rows.mapM builder.nesting.apply).map fun nested => nested.mapM decode
  | firstRow builder => fun
      | [] => some (.ok none)
      | row :: _ => (builder.nesting.apply row).map fun nested =>
          .ok (some nested)
  | firstRecord builder decode => fun
      | [] => some (.ok none)
      | row :: _ => (builder.nesting.apply row).map fun nested =>
          (decode nested).map some
  | firstValue _ => fun rows => some (.ok (leadingValue rows))
  | aggregate _ _ _ => fun rows =>
      some (.ok ((leadingValue rows).getD .null))
  | change _ => fun count => some (.ok count)

def Bounded : Terminal ρ α → Prop
  | rows builder | records builder _ | firstRow builder
  | firstRecord builder _ => builder.nesting.Bounded
  | _ => True

def requests (terminal : Terminal ρ α) : List Request :=
  match terminal.built with
  | .error _ => []
  | .ok statement => [terminal.request statement]

structure SendsOnce (terminal : Terminal ρ α) (executor : Executor)
    (before : List Request) (answer : Answer (List Request) α) : Prop where
  refused : ∀ error, terminal.built = .error error →
    answer.result = some (.error error) ∧ answer.state = before
  sent : ∀ statement, terminal.built = .ok statement →
    answer.state = before ++ [terminal.request statement]
  waiting : ∀ statement, terminal.built = .ok statement →
    terminal.reply executor statement = .never → answer.result = none
  failed : ∀ statement, terminal.built = .ok statement →
    ∀ delay error,
      terminal.reply executor statement = .after delay (.error error) →
      answer.result = some (.error error)
  replied : ∀ statement, terminal.built = .ok statement →
    ∀ delay value,
      terminal.reply executor statement = .after delay (.ok value) →
      answer.result = terminal.read value
  answered : terminal.Bounded → ∀ statement, terminal.built = .ok statement →
    ∀ delay result,
      terminal.reply executor statement = .after delay result →
      answer.result ≠ none

end Terminal

/-!
## Answers in steps
-/

section Channels

variable {σ α β γ : Type}

theorem Answer.readResult_readResult (answer : Answer σ α)
    (f : α → Option (Except Error β)) (g : β → Option (Except Error γ)) :
    (answer.readResult f).readResult g =
      answer.readResult fun value => (f value).bind fun
        | .error error => some (.error error)
        | .ok value => g value := by
  rcases answer with ⟨result, events, state⟩
  rcases result with _ | ⟨error | value⟩ <;> rfl

theorem Answer.readResult_ok (answer : Answer σ α) :
    answer.readResult (fun value => some (.ok value)) = answer := by
  rcases answer with ⟨result, events, state⟩
  rcases result with _ | ⟨error | value⟩ <;> rfl

/-- A channel that finds a first row among all rows that it fetches. -/
def Channel.KeepsFirst (channel : Channel σ) : Prop :=
  ∀ state statement, channel.fetchFirst state statement =
    (channel.fetch state statement).mapResult List.head?

theorem Channel.keepsFirst_forwarded (channel : Channel σ) :
    channel.forwarded.KeepsFirst :=
  fun _ _ => rfl

/-- A reference makes a difference to a channel that has a way of its own to
find a first row, and to no other. -/
theorem Channel.forwarded_eq_self_iff (channel : Channel σ) :
    channel.forwarded = channel ↔ channel.KeepsFirst := by
  constructor
  · intro hsame
    rw [← hsame]
    exact channel.keepsFirst_forwarded
  · intro hfirst
    rcases channel with ⟨fetch, execute, fetchFirst⟩
    have hway : (fun state statement =>
        (fetch state statement).mapResult List.head?) = fetchFirst := by
      funext state statement
      exact (hfirst state statement).symm
    rw [← hway]
    rfl

theorem Channel.KeepsFirst.queryFirst_eq {channel : Channel σ}
    (h : channel.KeepsFirst) (built : Except Error Statement) (state : σ) :
    channel.queryFirst built state =
      (channel.query built state).mapResult List.head? := by
  cases built with
  | error error => rfl
  | ok statement =>
      show ({ channel.fetchFirst state statement with events := _ } :
        Answer σ (Option Row)) = _
      rw [h]
      rfl

theorem Channel.KeepsFirst.readResult_queryFirst {channel : Channel σ}
    (h : channel.KeepsFirst) (built : Except Error Statement) (state : σ)
    (f : Option Row → Option (Except Error α)) :
    (channel.queryFirst built state).readResult f =
      (channel.query built state).readResult fun rows => f rows.head? := by
  rw [h.queryFirst_eq, Answer.mapResult, Answer.readResult_readResult]
  rfl

end Channels

theorem SelectBuilder.statement_limited (builder : SelectBuilder) :
    builder.limited.statement = builder.firstRowStatement := by
  rcases builder with ⟨settings, ⟨parts, failure⟩⟩
  rcases parts with ⟨table, distinct, columns, joins, conditions, groupBy,
    orderBy, limit, offset⟩
  cases limit with
  | none => cases failure <;> rfl
  | some count => cases failure <;> rfl

namespace Terminal

variable {ρ α σ : Type}

def use (channel : Channel σ) : Terminal ρ α → σ → Statement → Answer σ ρ
  | rawRows _ | rows _ | records _ _ | firstRow _ | firstRecord _ _
  | firstValue _ | aggregate _ _ _ | changedRows _ => channel.fetch
  | change _ => channel.execute

theorem leadingValue_eq (rows : List Row) :
    leadingValue rows = rows.head?.bind Row.firstColumn := by
  match rows with
  | [] => rfl
  | [] :: _ => rfl
  | (_ :: _) :: _ => rfl

theorem ask_eq {channel : Channel σ} (hfirst : channel.KeepsFirst) (state : σ)
    (terminal : Terminal ρ α) :
    terminal.ask channel state =
      (Channel.send terminal.built state
        (terminal.use channel)).readResult terminal.read := by
  cases terminal with
  | rawRows builder => exact (Answer.readResult_ok _).symm
  | rows builder => rfl
  | records builder decode =>
      rw [ask, SelectBuilder.records, SelectBuilder.rows,
        Answer.readResult_readResult]
      apply congrArg
      funext rows
      simp only [Nesting.applyAll, read, Option.bind_map]
      cases rows.mapM builder.nesting.apply <;> rfl
  | firstRow builder =>
      rw [ask, SelectBuilder.firstRow, ← builder.statement_limited,
        hfirst.readResult_queryFirst]
      apply congrArg
      funext rows
      cases rows with
      | nil => rfl
      | cons row rest =>
          simp only [List.head?_cons, Option.mapM_some, read]
          cases builder.nesting.apply row <;> rfl
  | firstRecord builder decode =>
      rw [ask, SelectBuilder.firstRecord, SelectBuilder.firstRow,
        ← builder.statement_limited, hfirst.readResult_queryFirst,
        Answer.readResult_readResult]
      apply congrArg
      funext rows
      cases rows with
      | nil => rfl
      | cons row rest =>
          simp only [List.head?_cons, Option.mapM_some, read]
          cases builder.nesting.apply row with
          | none => rfl
          | some nested =>
              cases hdecode : decode nested <;> simp [hdecode] <;> rfl
  | firstValue builder =>
      rw [ask, SelectBuilder.firstValue, ← builder.statement_limited,
        Answer.mapResult, hfirst.readResult_queryFirst]
      apply congrArg
      funext rows
      simp only [read, leadingValue_eq]
  | aggregate builder function column =>
      rw [ask, SelectBuilder.aggregate, Answer.mapResult,
        hfirst.readResult_queryFirst]
      apply congrArg
      funext rows
      simp only [read, leadingValue_eq]
  | changedRows mutation => exact (Answer.readResult_ok _).symm
  | change mutation => exact (Answer.readResult_ok _).symm

/-- By reference, a first row is read from all rows, whatever way the channel
itself has to find it. -/
theorem ask_forwarded (channel : Channel σ) (state : σ)
    (terminal : Terminal ρ α) :
    terminal.ask channel.forwarded state =
      (Channel.send terminal.built state
        (terminal.use channel)).readResult terminal.read := by
  have huse : terminal.use channel.forwarded = terminal.use channel := by
    cases terminal <;> rfl
  rw [ask_eq channel.keepsFirst_forwarded, huse]

/-!
## Calls on an executor
-/

theorem use_executor (executor : Executor) (before : List Request)
    (terminal : Terminal ρ α) (statement : Statement) :
    terminal.use executor.channel before statement =
      ⟨(terminal.reply executor statement).await none, [],
        before ++ [terminal.request statement]⟩ := by
  cases terminal <;> rfl

theorem ask_of_error {terminal : Terminal ρ α} {error : Error}
    (hbuilt : terminal.built = .error error) (executor : Executor)
    (before : List Request) :
    terminal.ask executor.channel before = .refused before error := by
  rw [ask_eq fun _ _ => rfl, hbuilt]
  rfl

theorem ask_of_ok {terminal : Terminal ρ α} {statement : Statement}
    (hbuilt : terminal.built = .ok statement) (executor : Executor)
    (before : List Request) :
    terminal.ask executor.channel before =
      (⟨(terminal.reply executor statement).await none,
        [.executing statement.sql statement.params.length],
        before ++ [terminal.request statement]⟩ : Answer _ _).readResult
          terminal.read := by
  rw [ask_eq fun _ _ => rfl, hbuilt, Channel.send, use_executor]

theorem state_ask (executor : Executor) (before : List Request)
    (terminal : Terminal ρ α) :
    (terminal.ask executor.channel before).state =
      before ++ terminal.requests := by
  rw [requests]
  cases hbuilt : terminal.built with
  | error error =>
      rw [ask_of_error hbuilt]
      exact (List.append_nil before).symm
  | ok statement =>
      rw [ask_of_ok hbuilt]
      rfl

theorem requests_foldl_ask (executor : Executor) (before : List Request)
    (terminals : List ((types : Type × Type) × Terminal types.1 types.2)) :
    terminals.foldl (fun requests terminal =>
      (terminal.2.ask executor.channel requests).state) before =
      before ++ terminals.flatMap fun terminal => terminal.2.requests := by
  induction terminals generalizing before with
  | nil => exact (List.append_nil before).symm
  | cons terminal rest ih =>
      rw [List.foldl_cons, state_ask, ih, List.flatMap_cons, List.append_assoc]

theorem read_ne_none {terminal : Terminal ρ α} (h : terminal.Bounded)
    (value : ρ) : terminal.read value ≠ none := by
  cases terminal with
  | rows builder =>
      rcases Nesting.exists_applyAll h value with ⟨nested, hnested⟩
      rw [Nesting.applyAll] at hnested
      simp [read, hnested]
  | records builder decode =>
      rcases Nesting.exists_applyAll h value with ⟨nested, hnested⟩
      rw [Nesting.applyAll] at hnested
      simp [read, hnested]
  | firstRow builder =>
      cases value with
      | nil => simp [read]
      | cons row rest =>
          rcases Nesting.exists_apply h row with ⟨nested, hnested⟩
          simp [read, hnested]
  | firstRecord builder decode =>
      cases value with
      | nil => simp [read]
      | cons row rest =>
          rcases Nesting.exists_apply h row with ⟨nested, hnested⟩
          simp [read, hnested]
  | _ => exact Option.some_ne_none _

theorem sendsOnce_ask (executor : Executor) (before : List Request)
    (terminal : Terminal ρ α) :
    terminal.SendsOnce executor before
      (terminal.ask executor.channel before) := by
  constructor
  · intro error hbuilt
    rw [ask_of_error hbuilt]
    exact ⟨rfl, rfl⟩
  · intro statement hbuilt
    rw [ask_of_ok hbuilt]
    rfl
  · intro statement hbuilt hreply
    rw [ask_of_ok hbuilt, hreply]
    rfl
  · intro statement hbuilt delay error hreply
    rw [ask_of_ok hbuilt, hreply]
    rfl
  · intro statement hbuilt delay value hreply
    rw [ask_of_ok hbuilt, hreply]
    rfl
  · intro hbounded statement hbuilt delay result hreply
    rw [ask_of_ok hbuilt, hreply]
    cases result with
    | error error => exact Option.some_ne_none _
    | ok value => exact read_ne_none hbounded value

def oneRow : Executor where
  fetch _ := .after 5 (.ok [[("id", .int 7), ("a_b", .string "x")]])
  execute _ := .never

def oneStatement : Statement :=
  ⟨"SELECT * FROM users LIMIT 1", []⟩

/-- Rows come back nested. -/
example : ((rows ((SelectBuilder.start .standard "t").record
      (.select ["id", "a->b"]))).ask oneRow.channel []).result =
    some (.ok [[("id", .int 7), ("a", .object [("b", .string "x")])]]) := by
  cbv

/-- A record is decoded from the nested row. -/
example : ((firstRecord (SelectBuilder.start .standard "t")
      (Row.record (Decoder.record "User"
        [⟨"id", true, fun value =>
          (Decoder.int64 value).map fun id _ => id⟩] 0))).ask
      oneRow.channel []).result = some (.ok (some 7)) := by
  cbv

/-- A channel that fetches nothing to find a first row; by reference it does. -/
example :
    let channel := { oneRow.channel with
      fetchFirst := fun requests _ => ⟨some (.ok none), [], requests⟩ }
    ((firstValue (SelectBuilder.start .standard "users")).ask
        channel []).result = some (.ok none) ∧
      ((firstValue (SelectBuilder.start .standard "users")).ask
        channel.forwarded []).result = some (.ok (some (.int 7))) := by
  cbv

end Terminal
end SqlAssembler
