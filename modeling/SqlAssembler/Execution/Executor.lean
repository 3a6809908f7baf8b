import SqlAssembler.Error
import SqlAssembler.Row.Nesting
import SqlAssembler.Statement

/-!
# Executors

An executor answers requests, at once, after some time or never. Builders do not
talk to it directly but through a channel, which also keeps the log and may add
rules of its own. A channel's state shows every request that was made.
-/

namespace SqlAssembler

inductive Request where
  | fetch (statement : Statement)
  | execute (statement : Statement)

inductive Reply (α : Type) where
  | never
  | after (delay : Nat) (result : Except Error α)

structure Executor where
  fetch : Statement → Reply (List Row)
  execute : Statement → Reply Nat

namespace Reply

variable {α : Type}

/-- What is known after waiting for at most `limit` milliseconds. A reply that
arrives exactly then still counts; without a limit, `none` means waiting for
ever. -/
def await (limit : Option Nat) : Reply α → Option (Except Error α)
  | never => limit.map fun limit => .error (.timeout limit)
  | after delay result =>
      match limit with
      | none => some result
      | some limit =>
          some (if delay ≤ limit then result else .error (.timeout limit))

def elapsed (limit : Option Nat) : Reply α → Nat
  | never => limit.getD 0
  | after delay _ => min delay (limit.getD delay)

end Reply

/-!
## The log
-/

inductive Event where
  | executing (sql : String) (values : Nat)
  | failed (connection sql : String) (error : Error)
  | slow (connection sql : String)

namespace Event

def target : String :=
  "sqlweave.sql"

def level : Event → String
  | executing _ _ => "DEBUG"
  | failed _ _ _ | slow _ _ => "WARN"

def message : Event → String
  | executing _ _ => "executing statement"
  | failed _ _ _ => "query failed"
  | slow _ _ => "slow query"

def sql : Event → String
  | executing sql _ | failed _ sql _ | slow _ sql => sql

def valueCount? : Event → Option Nat
  | executing _ count => some count
  | _ => none

def connection? : Event → Option String
  | executing _ _ => none
  | failed connection _ _ | slow connection _ => some connection

def error? : Event → Option Error
  | failed _ _ error => some error
  | _ => none

end Event

/-!
## Channels
-/

/-- What became of a request: its result, the events that were logged, and the
state of the channel afterwards. There is no result while it is waited for, and
none if the caller's own run ends on the way. -/
structure Answer (σ α : Type) where
  result : Option (Except Error α)
  events : List Event
  state : σ

namespace Answer

variable {σ α β : Type}

def refused (state : σ) (error : Error) : Answer σ α :=
  ⟨some (.error error), [], state⟩

def readResult (answer : Answer σ α) (f : α → Option (Except Error β)) :
    Answer σ β :=
  { answer with
    result := answer.result.bind fun
      | .error error => some (.error error)
      | .ok value => f value }

def mapResult (answer : Answer σ α) (f : α → β) : Answer σ β :=
  answer.readResult fun value => some (.ok (f value))

end Answer

structure Channel (σ : Type) where
  fetch : σ → Statement → Answer σ (List Row)
  execute : σ → Statement → Answer σ Nat
  /-- A channel without a way of its own fetches all rows and keeps the first.
  -/
  fetchFirst : σ → Statement → Answer σ (Option Row) :=
    fun state statement => (fetch state statement).mapResult List.head?

/-- A channel that is reached through a reference, shared or not. It passes both
requests on, but not the way in which the channel finds a first row. -/
def Channel.forwarded {σ : Type} (channel : Channel σ) : Channel σ where
  fetch := channel.fetch
  execute := channel.execute

def Executor.channel (executor : Executor) : Channel (List Request) where
  fetch requests statement :=
    ⟨(executor.fetch statement).await none, [], requests ++ [.fetch statement]⟩
  execute requests statement :=
    ⟨(executor.execute statement).await none, [],
      requests ++ [.execute statement]⟩

end SqlAssembler
