import SqlAssembler.Proofs.Connections.Routing

/-!
# What a registry gives account of

After any history the registry answers from what the history says: the names it
lists, the connections it has chosen, the executor that a request reaches, and
the numbers it counts.
-/

namespace SqlAssembler

namespace Registry

def received (registry : Registry) : List (String × List Request) :=
  registry.connections.map fun connection =>
    (connection.name, connection.requests)

end Registry

/-- A request reaches the connection of one name, once and as it was made, and
no other connection; its result is what the executor replies. -/
structure Answer.Reaches {α : Type} (answer : Answer Registry α)
    (registry : Registry) (name : String) (request : Request)
    (reply : Reply α) : Prop where
  known : name ∈ registry.names
  result : answer.result = reply.await none
  received : answer.state.received =
    registry.received.map fun (other, requests) =>
      (other, if other = name then requests ++ [request] else requests)

namespace Registry

structure Accounts (registry : Registry) (history : History) : Prop where
  names : registry.names = history.names
  distinct : registry.names.Nodup
  default_none : registry.defaultPosition = none ↔ history.names = []
  current_none : registry.currentPosition = none ↔ history.names = []
  default_lt : ∀ position ∈ registry.defaultPosition,
    position < registry.connections.length
  current_lt : ∀ position ∈ registry.currentPosition,
    position < registry.connections.length
  defaultName : registry.defaultName = history.defaultName
  currentName : registry.currentName = history.currentName
  chosen : ∀ name ∈ history.names, ∃ position,
    registry.nameAt? position = some name ∧
    registry.makeDefault name =
      .ok { registry with defaultPosition := some position } ∧
    registry.use name = .ok { registry with currentPosition := some position }
  refused : ∀ name, name ∉ history.names →
    registry.makeDefault name = .error (.unknownConnection name) ∧
    registry.use name = .error (.unknownConnection name) ∧
    registry.after (.makeDefault name) = registry ∧
    registry.after (.use name) = registry
  replaced : ∀ name ∈ history.names, ∀ executor, ∃ position,
    registry.nameAt? position = some name ∧
    registry.add name executor =
      registry.replace position (.fresh name executor)
  fetched : ∀ name, history.currentName = some name → ∀ statement,
    ∃ executor, history.executor? name = some executor ∧
      (registry.fetch statement).Reaches registry name (.fetch statement)
        (executor.fetch statement)
  executed : ∀ name, history.currentName = some name → ∀ statement,
    ∃ executor, history.executor? name = some executor ∧
      (registry.execute statement).Reaches registry name (.execute statement)
        (executor.execute statement)
  unserved : history.names = [] → ∀ statement,
    registry.fetch statement =
      .refused registry (.unknownConnection noConnectionName) ∧
    registry.execute statement =
      .refused registry (.unknownConnection noConnectionName)
  requests : ∀ connection ∈ registry.connections,
    connection.requests = history.requests connection.name
  stats : ∀ name ∈ history.names,
    registry.stats name = .ok (history.queries name, history.failed name)
  failed_le : ∀ name, history.failed name ≤ history.queries name

variable {registry : Registry} {history : History} {name : String}

theorem Points.lt_of_mem {position? : Option Nat} {name? : Option String}
    (h : registry.Points position? name?) {position : Nat}
    (hmem : position ∈ position?) : position < registry.connections.length := by
  cases hmem
  cases name? with
  | none => cases h
  | some name => exact lt_of_nameAt? (Option.some.inj h)

theorem Follows.position?_of_mem (h : registry.Follows history)
    (hname : name ∈ history.names) :
    ∃ position, registry.position? name = some position ∧
      registry.nameAt? position = some name := by
  rw [← h.names] at hname
  exact Registry.position?_of_mem hname

theorem Follows.position?_of_not_mem (h : registry.Follows history)
    (hname : name ∉ history.names) : registry.position? name = none := by
  rw [← h.names] at hname
  exact Registry.position?_of_not_mem hname

theorem Follows.stats (h : registry.Follows history)
    (hlength : history.length < 2 ^ 64) (hname : name ∈ history.names) :
    registry.stats name =
      .ok (history.queries name, history.failed name) := by
  rcases h.position?_of_mem hname with ⟨position, hposition, hat⟩
  rcases Option.map_eq_some_iff.mp hat with ⟨connection, hconnection, rfl⟩
  have hrecalls := h.connections connection (List.mem_of_getElem? hconnection)
  have hqueries := history.queries_le_length connection.name
  have hfailed := history.failed_le_queries connection.name
  have hcount : ∀ count : Nat, count ≤ history.length →
      (UInt64.ofNat count).toNat = count := by
    intro count hle
    rw [UInt64.toNat_ofNat']
    omega
  rw [Registry.stats, find?, hposition, Option.bind_some, hconnection]
  dsimp only
  rw [Connection.queries, Connection.failed, hrecalls.queries, hrecalls.failed,
    hcount _ hqueries, hcount _ (hfailed.trans hqueries)]

theorem received_replace (hnodup : registry.names.Nodup) {position : Nat}
    {connection : Connection}
    (hconnection : registry.connections[position]? = some connection)
    (request : Request) (failure? : Option Bool) :
    (registry.replace position (connection.served request failure?)).received =
      registry.received.map fun (other, requests) =>
        (other, if other = connection.name then requests ++ [request]
          else requests) := by
  have hserved : (connection.served request failure?).requests =
      connection.requests ++ [request] := by
    cases failure? with
    | none => rfl
    | some isFailure => rfl
  apply List.ext_getElem?
  intro index
  rcases List.getElem?_eq_some_iff.mp hconnection with ⟨hlt, hat⟩
  simp only [received, replace, List.getElem?_map, List.getElem?_set]
  by_cases hsame : position = index
  · subst hsame
    simp [hlt, hat, connection.name_served, hserved]
  · rw [if_neg hsame]
    cases hother : registry.connections[index]? with
    | none => rfl
    | some other =>
        have hne : other.name ≠ connection.name := by
          intro hname
          apply hsame
          have hhere : registry.nameAt? position = some connection.name := by
            rw [nameAt?, hconnection]
            rfl
          have hthere : registry.nameAt? index = some connection.name := by
            rw [nameAt?, hother, Option.map_some, hname]
          exact position_unique hnodup hhere hthere
        simp [hne]

theorem Follows.reaches (h : registry.Follows history)
    (hname : history.currentName = some name) :
    ∃ position connection, registry.current? = some (position, connection) ∧
      history.executor? name = some connection.executor ∧
      ∀ {α : Type} (request : Request) (statement : Statement)
        (reply : Reply α),
        (registry.serve position connection request statement reply).Reaches
          registry name request reply := by
  rcases h.current?_eq with ⟨hnone, _⟩ |
    ⟨position, connection, hcurrent, hconnection, hcurrentName⟩
  · rw [hnone] at hname
    cases hname
  · rw [hname] at hcurrentName
    cases hcurrentName
    have hmem := List.mem_of_getElem? hconnection
    refine ⟨position, connection, hcurrent,
      (h.connections connection hmem).executor, ?_⟩
    intro α request statement reply
    have hserve := serve_of_unlimited h.unlimited position connection request
      statement reply
    constructor
    · exact List.mem_map_of_mem hmem
    · exact hserve.1
    · rw [hserve.2]
      exact received_replace h.nodup hconnection request _

theorem Follows.accounts (h : registry.Follows history)
    (hlength : history.length < 2 ^ 64) : registry.Accounts history where
  names := h.names
  distinct := h.nodup
  default_none :=
    h.default.eq_none_iff.trans history.defaultName_eq_none_iff
  current_none :=
    h.current.eq_none_iff.trans history.currentName_eq_none_iff
  default_lt := fun _ => h.default.lt_of_mem
  current_lt := fun _ => h.current.lt_of_mem
  defaultName := h.default.bind_eq
  currentName := h.current.bind_eq
  chosen := by
    intro name hname
    rcases h.position?_of_mem hname with ⟨position, hposition, hat⟩
    refine ⟨position, hat, ?_, ?_⟩
    · rw [Registry.makeDefault, lookup, hposition]
      rfl
    · rw [Registry.use, lookup, hposition]
      rfl
  refused := by
    intro name hname
    have hposition := h.position?_of_not_mem hname
    have hdefault : registry.makeDefault name =
        .error (.unknownConnection name) := by
      rw [Registry.makeDefault, lookup, hposition]
      rfl
    have huse : registry.use name = .error (.unknownConnection name) := by
      rw [Registry.use, lookup, hposition]
      rfl
    refine ⟨hdefault, huse, ?_, ?_⟩
    · rw [Registry.after, hdefault]
      rfl
    · rw [Registry.after, huse]
      rfl
  replaced := by
    intro name hname executor
    rcases h.position?_of_mem hname with ⟨position, hposition, hat⟩
    refine ⟨position, hat, ?_⟩
    rw [Registry.add, hposition]
  fetched := by
    intro name hname statement
    rcases h.reaches hname with
      ⟨position, connection, hcurrent, hexecutor, hreaches⟩
    refine ⟨connection.executor, hexecutor, ?_⟩
    rw [fetch, hcurrent]
    exact hreaches _ _ _
  executed := by
    intro name hname statement
    rcases h.reaches hname with
      ⟨position, connection, hcurrent, hexecutor, hreaches⟩
    refine ⟨connection.executor, hexecutor, ?_⟩
    rw [execute, hcurrent]
    exact hreaches _ _ _
  unserved := by
    intro hnames statement
    have hnone : registry.currentPosition = none :=
      h.current.eq_none_iff.mpr (history.currentName_eq_none_iff.mpr hnames)
    have hcurrent : registry.current? = none := by
      rw [current?, hnone]
      rfl
    constructor
    · rw [fetch, hcurrent]
    · rw [execute, hcurrent]
  requests := fun connection hmem => (h.connections connection hmem).requests
  stats := fun _ => h.stats hlength
  failed_le := history.failed_le_queries

/-- A registry without a time limit, to which fewer than 2^64 calls were made,
routes and counts as its history tells. -/
theorem accounts_ofHistory {rules : RegistryRules}
    (hunlimited : rules.timeout = none) (history : History)
    (hlength : history.length < 2 ^ 64) :
    (ofHistory rules history).Accounts history :=
  (follows_ofHistory hunlimited history).accounts hlength

/-- Two requests fail at the second connection, the counters being cleared
between them, and a third one goes to the default again. -/
theorem accounts_of_switching :
    let failing : Executor :=
      ⟨fun _ => .after 0 (.error (.execution "gone")), fun _ => .never⟩
    let working : Executor := ⟨fun _ => .after 0 (.ok []), fun _ => .never⟩
    let statement : Statement := ⟨"SELECT * FROM t", []⟩
    let history : History :=
      [.fetch statement, .returnToDefault, .fetch statement, .clearCounts,
        .fetch statement, .use "replica", .add "replica" failing,
        .add "primary" working]
    let registry := ofHistory ⟨none, none⟩ history
    (⟨none, none⟩ : RegistryRules).timeout = none ∧ history.length < 2 ^ 64 ∧
    registry.names = ["primary", "replica"] ∧
    registry.currentName = some "primary" ∧
    registry.stats "primary" = .ok (1, 0) ∧
    registry.stats "replica" = .ok (1, 1) := by
  intro failing working statement history registry
  have hlength : history.length < 2 ^ 64 := by decide
  have haccounts : registry.Accounts history :=
    accounts_ofHistory rfl history hlength
  have hnames : history.names = ["primary", "replica"] := by decide
  refine ⟨rfl, hlength, haccounts.names.trans hnames,
    haccounts.currentName.trans (by decide), ?_, ?_⟩
  · exact haccounts.stats "primary" (by rw [hnames]; decide)
  · exact haccounts.stats "replica" (by rw [hnames]; decide)

end Registry
end SqlAssembler
