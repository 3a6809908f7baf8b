import SqlAssembler.Execution.Executor

/-!
# Registries of connections

A registry holds executors under names. The first one that is added becomes the
default and the current connection; requests go to the current one. Which
connections these are is kept as positions in the list of all connections. The
registry limits the time of a request if its rules say so, counts requests and
failures for each connection, and logs failed and slow requests. Adding under a
name that is taken replaces the connection and starts its counters anew.
-/

namespace SqlAssembler

structure Counters where
  queries : UInt64
  failed : UInt64
  deriving DecidableEq, Repr

structure Connection where
  name : String
  executor : Executor
  counters : Counters
  requests : List Request

/-- Times in milliseconds; an absent one switches its rule off. -/
structure RegistryRules where
  slowThreshold : Option Nat
  timeout : Option Nat
  deriving DecidableEq, Repr

structure Registry where
  rules : RegistryRules
  connections : List Connection
  defaultPosition : Option Nat
  currentPosition : Option Nat

namespace Counters

def zero : Counters :=
  ⟨0, 0⟩

def record (counters : Counters) (isFailure : Bool) : Counters :=
  { queries := counters.queries + 1
    failed := if isFailure then counters.failed + 1 else counters.failed }

end Counters

namespace Connection

def fresh (name : String) (executor : Executor) : Connection :=
  ⟨name, executor, .zero, []⟩

def receive (connection : Connection) (request : Request) : Connection :=
  { connection with requests := connection.requests ++ [request] }

def count (connection : Connection) (isFailure : Bool) : Connection :=
  { connection with counters := connection.counters.record isFailure }

def reset (connection : Connection) : Connection :=
  { connection with counters := .zero }

def queries (connection : Connection) : Nat :=
  connection.counters.queries.toNat

def failed (connection : Connection) : Nat :=
  connection.counters.failed.toNat

end Connection

namespace Registry

def empty (rules : RegistryRules) : Registry :=
  ⟨rules, [], none, none⟩

def names (registry : Registry) : List String :=
  registry.connections.map Connection.name

def position? (registry : Registry) (name : String) : Option Nat :=
  registry.connections.findIdx? fun connection => connection.name = name

def find? (registry : Registry) (name : String) : Option Connection :=
  (registry.position? name).bind fun position => registry.connections[position]?

def nameAt? (registry : Registry) (position : Nat) : Option String :=
  registry.connections[position]?.map Connection.name

def defaultName (registry : Registry) : Option String :=
  registry.defaultPosition.bind registry.nameAt?

def currentName (registry : Registry) : Option String :=
  registry.currentPosition.bind registry.nameAt?

def replace (registry : Registry) (position : Nat) (connection : Connection) :
    Registry :=
  { registry with connections := registry.connections.set position connection }

def append (registry : Registry) (connection : Connection) : Registry :=
  let position := registry.connections.length
  { registry with
    connections := registry.connections ++ [connection]
    defaultPosition := registry.defaultPosition.or (some position)
    currentPosition := registry.currentPosition.or (some position) }

def add (registry : Registry) (name : String) (executor : Executor) :
    Registry :=
  match registry.position? name with
  | some position => registry.replace position (.fresh name executor)
  | none => registry.append (.fresh name executor)

def lookup (registry : Registry) (name : String) : Except Error Nat :=
  match registry.position? name with
  | some position => .ok position
  | none => .error (.unknownConnection name)

def makeDefault (registry : Registry) (name : String) : Except Error Registry :=
  (registry.lookup name).map fun position =>
    { registry with defaultPosition := some position }

def use (registry : Registry) (name : String) : Except Error Registry :=
  (registry.lookup name).map fun position =>
    { registry with currentPosition := some position }

def returnToDefault (registry : Registry) : Registry :=
  { registry with currentPosition := registry.defaultPosition }

def stats (registry : Registry) (name : String) : Except Error (Nat × Nat) :=
  match registry.find? name with
  | some connection => .ok (connection.queries, connection.failed)
  | none => .error (.unknownConnection name)

def clearCounts (registry : Registry) : Registry :=
  { registry with connections := registry.connections.map Connection.reset }

def current? (registry : Registry) : Option (Nat × Connection) :=
  registry.currentPosition.bind fun position =>
    registry.connections[position]?.map fun connection => (position, connection)

/-!
## Requests
-/

def noConnectionName : String :=
  "<none registered>"

def isError {α : Type} : Except Error α → Bool
  | .ok _ => false
  | .error _ => true

def finishedEvents {α : Type} (rules : RegistryRules) (name sql : String)
    (elapsed : Nat) : Except Error α → List Event
  | .error error => [.failed name sql error]
  | .ok _ =>
      match rules.slowThreshold with
      | some threshold => if threshold ≤ elapsed then [.slow name sql] else []
      | none => []

def serve {α : Type} (registry : Registry) (position : Nat)
    (connection : Connection) (request : Request) (statement : Statement)
    (reply : Reply α) : Answer Registry α :=
  let received := connection.receive request
  match reply.await registry.rules.timeout with
  | none => ⟨none, [], registry.replace position received⟩
  | some result =>
      let elapsed := reply.elapsed registry.rules.timeout
      let events := finishedEvents registry.rules connection.name statement.sql
        elapsed result
      let counted := received.count (isError result)
      ⟨some result, events, registry.replace position counted⟩

def fetch (registry : Registry) (statement : Statement) :
    Answer Registry (List Row) :=
  match registry.current? with
  | none => .refused registry (.unknownConnection noConnectionName)
  | some (position, connection) =>
      registry.serve position connection (.fetch statement) statement
        (connection.executor.fetch statement)

def execute (registry : Registry) (statement : Statement) :
    Answer Registry Nat :=
  match registry.current? with
  | none => .refused registry (.unknownConnection noConnectionName)
  | some (position, connection) =>
      registry.serve position connection (.execute statement) statement
        (connection.executor.execute statement)

def channel : Channel Registry where
  fetch := fetch
  execute := execute

end Registry
end SqlAssembler
