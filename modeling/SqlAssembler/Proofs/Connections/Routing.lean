import SqlAssembler.Proofs.Connections.History

/-!
# Routing of requests

A registry does what its history tells: positions always stand for the names
that were chosen, every request reaches the connection that was selected, once
and as it was made, and the counters hold what was counted since they were
started. Each call keeps this agreement, hence it holds after every history.
-/

namespace SqlAssembler

/-!
## Positions
-/

namespace Registry

variable {registry : Registry} {position : Nat} {name : String}

theorem nameAt?_eq (registry : Registry) (position : Nat) :
    registry.nameAt? position = registry.names[position]? := by
  rw [nameAt?, names, List.getElem?_map]

theorem lt_of_nameAt? (h : registry.nameAt? position = some name) :
    position < registry.connections.length := by
  rw [nameAt?, Option.map_eq_some_iff] at h
  rcases h with ⟨connection, hconnection, _⟩
  exact (List.getElem?_eq_some_iff.mp hconnection).1

theorem mem_names_of_nameAt? (h : registry.nameAt? position = some name) :
    name ∈ registry.names := by
  rw [nameAt?_eq] at h
  exact List.mem_of_getElem? h

theorem position?_cases (registry : Registry) (name : String) :
    (registry.position? name = none ∧ name ∉ registry.names) ∨
      ∃ position, registry.position? name = some position ∧
        registry.nameAt? position = some name := by
  cases hposition : registry.position? name with
  | none =>
      left
      refine ⟨rfl, fun hmem => ?_⟩
      rcases List.mem_map.mp hmem with ⟨connection, hconnection, hname⟩
      have hother := List.findIdx?_eq_none_iff.mp hposition _ hconnection
      simp [hname] at hother
  | some position =>
      right
      refine ⟨position, rfl, ?_⟩
      rcases List.findIdx?_eq_some_iff_getElem.mp hposition with
        ⟨hlt, hname, _⟩
      rw [nameAt?, List.getElem?_eq_getElem hlt, Option.map_some]
      exact congrArg some (of_decide_eq_true hname)

theorem position?_of_mem (h : name ∈ registry.names) :
    ∃ position, registry.position? name = some position ∧
      registry.nameAt? position = some name := by
  rcases registry.position?_cases name with ⟨_, hnot⟩ | hfound
  · exact absurd h hnot
  · exact hfound

theorem position?_of_not_mem (h : name ∉ registry.names) :
    registry.position? name = none := by
  rcases registry.position?_cases name with ⟨hnone, _⟩ | ⟨position, _, hname⟩
  · exact hnone
  · exact absurd (mem_names_of_nameAt? hname) h

theorem position_unique (hnodup : registry.names.Nodup)
    (h : registry.nameAt? position = some name) {other : Nat}
    (hother : registry.nameAt? other = some name) : position = other := by
  have hlt : position < registry.names.length := by
    rw [names, List.length_map]
    exact lt_of_nameAt? h
  rw [nameAt?_eq] at h hother
  exact (List.getElem?_inj hlt hnodup).mp (h.trans hother.symm)

/-!
## Connections in their places
-/

variable {connection : Connection}

theorem names_replace
    (h : registry.nameAt? position = some connection.name) :
    (registry.replace position connection).names = registry.names := by
  rw [nameAt?_eq] at h
  rcases List.getElem?_eq_some_iff.mp h with ⟨hlt, hname⟩
  show (registry.connections.set position connection).map Connection.name = _
  rw [List.map_set, ← hname]
  exact List.set_getElem_self hlt

theorem mem_replace (hnodup : registry.names.Nodup)
    (h : registry.nameAt? position = some connection.name)
    {other : Connection}
    (hother : other ∈ (registry.replace position connection).connections) :
    other = connection ∨
      other ∈ registry.connections ∧ other.name ≠ connection.name := by
  rcases List.mem_iff_getElem?.mp hother with ⟨index, hindex⟩
  change (registry.connections.set position connection)[index]? = some other
    at hindex
  rw [List.getElem?_set] at hindex
  by_cases hsame : position = index
  · rw [if_pos hsame, if_pos (lt_of_nameAt? h)] at hindex
    exact .inl (Option.some.inj hindex).symm
  · rw [if_neg hsame] at hindex
    refine .inr ⟨List.mem_of_getElem? hindex, fun hname => hsame ?_⟩
    apply position_unique hnodup h
    rw [nameAt?, hindex, Option.map_some, hname]

theorem names_append (registry : Registry) (connection : Connection) :
    (registry.append connection).names =
      registry.names ++ [connection.name] := by
  simp [append, names]

theorem names_map {connections : List Connection} {f : Connection → Connection}
    (hf : ∀ connection, (f connection).name = connection.name) :
    (connections.map f).map Connection.name =
      connections.map Connection.name := by
  rw [List.map_map]
  exact List.map_congr_left fun connection _ => hf connection

/-!
## Calls
-/

def turn (registry : Registry) (executors : String → Executor) : Registry :=
  { registry with
    connections := registry.connections.map fun connection =>
      { connection with executor := executors connection.name } }

def after (registry : Registry) : RegistryCall → Registry
  | .add name executor => registry.add name executor
  | .makeDefault name => (registry.makeDefault name).toOption.getD registry
  | .use name => (registry.use name).toOption.getD registry
  | .returnToDefault => registry.returnToDefault
  | .clearCounts => registry.clearCounts
  | .fetch statement => (registry.fetch statement).state
  | .execute statement => (registry.execute statement).state
  | .turn executors => registry.turn executors

def ofHistory (rules : RegistryRules) : History → Registry
  | [] => .empty rules
  | call :: before => (ofHistory rules before).after call

end Registry

def Connection.served (connection : Connection) (request : Request)
    (failure? : Option Bool) : Connection :=
  match failure? with
  | none => connection.receive request
  | some isFailure => (connection.receive request).count isFailure

theorem Connection.name_served (connection : Connection) (request : Request)
    (failure? : Option Bool) :
    (connection.served request failure?).name = connection.name := by
  cases failure? with
  | none => rfl
  | some isFailure => rfl

namespace Registry

theorem after_makeDefault (registry : Registry) (name : String) :
    registry.after (.makeDefault name) =
      { registry with
        defaultPosition :=
          (registry.position? name).or registry.defaultPosition } := by
  rw [after, makeDefault, lookup]
  cases registry.position? name with
  | none => rfl
  | some position => rfl

theorem after_use (registry : Registry) (name : String) :
    registry.after (.use name) =
      { registry with
        currentPosition :=
          (registry.position? name).or registry.currentPosition } := by
  rw [after, use, lookup]
  cases registry.position? name with
  | none => rfl
  | some position => rfl

theorem serve_of_unlimited {α : Type} {registry : Registry}
    (h : registry.rules.timeout = none) (position : Nat)
    (connection : Connection) (request : Request) (statement : Statement)
    (reply : Reply α) :
    let answer := registry.serve position connection request statement reply
    answer.result = reply.await none ∧
      answer.state = registry.replace position
        (connection.served request ((reply.await none).map isError)) := by
  intro answer
  unfold answer serve
  rw [h]
  cases reply.await none with
  | none => exact ⟨rfl, rfl⟩
  | some result => exact ⟨rfl, rfl⟩

theorem after_request {registry : Registry} {call : RegistryCall}
    {request : Request} (h : registry.rules.timeout = none)
    (hrequest : call.request? = some request) :
    registry.after call =
      match registry.current? with
      | none => registry
      | some (position, connection) =>
          registry.replace position (connection.served request
            (connection.executor.failure? request)) := by
  cases call with
  | fetch statement =>
      cases hrequest
      rw [after, fetch]
      cases registry.current? with
      | none => rfl
      | some found => exact (serve_of_unlimited h _ _ _ _ _).2
  | execute statement =>
      cases hrequest
      rw [after, execute]
      cases registry.current? with
      | none => rfl
      | some found => exact (serve_of_unlimited h _ _ _ _ _).2
  | _ => cases hrequest

end Registry

/-!
## One connection
-/

/-- What a connection holds is what the history says of its name. The counters
go round at 64 bits. -/
structure Connection.Recalls (connection : Connection) (history : History) :
    Prop where
  executor : history.executor? connection.name = some connection.executor
  requests : connection.requests = history.requests connection.name
  queries : connection.counters.queries =
    UInt64.ofNat (history.queries connection.name)
  failed : connection.counters.failed =
    UInt64.ofNat (history.failed connection.name)

namespace Connection

variable {connection : Connection} {before : History} {call : RegistryCall}

theorem recalls_fresh (name : String) (executor : Executor)
    (before : History) :
    (fresh name executor).Recalls (.add name executor :: before) := by
  have hrenews : (RegistryCall.add name executor).renews name = true := by
    simp [RegistryCall.renews, RegistryCall.addedName?]
  constructor
  · simp [fresh, History.executor?]
  · simp [fresh, History.requests, History.routedSince, hrenews]
  · simp [fresh, History.queries, History.routedSince, RegistryCall.restarts,
      hrenews, Counters.zero]
  · simp [fresh, History.failed, History.routedSince, RegistryCall.restarts,
      hrenews, Counters.zero]

theorem Recalls.keep (h : connection.Recalls before)
    (hexecutor : History.executor? connection.name (call :: before) =
      before.executor? connection.name)
    (hrestarts : call.restarts connection.name = false)
    (hrouted : ∀ routed ∈ History.routed? call before,
      routed.name ≠ connection.name) :
    connection.Recalls (call :: before) := by
  have hfilter : (History.routed? call before).toList.filter
      (fun routed => routed.name = connection.name) = [] := by
    rw [List.filter_eq_nil_iff]
    intro routed hmem
    simpa using hrouted routed (Option.mem_toList.mp hmem)
  have hcount : ∀ known : Routed → Bool,
      (History.routed? call before).toList.countP
        (fun routed => routed.name = connection.name && known routed) = 0 := by
    intro known
    rw [List.countP_eq_zero]
    intro routed hmem
    simp [hrouted routed (Option.mem_toList.mp hmem)]
  constructor
  · rw [hexecutor]
    exact h.executor
  · rw [History.requests_cons (History.renews_of_restarts hrestarts), hfilter,
      List.map_nil, List.append_nil]
    exact h.requests
  · rw [History.queries_cons hrestarts, hcount]
    exact h.queries
  · rw [History.failed_cons hrestarts, hcount]
    exact h.failed

theorem recalls_reset (h : connection.Recalls before) :
    connection.reset.Recalls (.clearCounts :: before) := by
  constructor
  · exact h.executor
  · have hrouted : History.routed? .clearCounts before = none := rfl
    show connection.requests = History.requests _ connection.name
    rw [History.requests_cons rfl, hrouted, h.requests]
    exact (List.append_nil _).symm
  · rfl
  · rfl

theorem Recalls.turn (h : connection.Recalls before)
    (executors : String → Executor) :
    { connection with executor := executors connection.name }.Recalls
      (.turn executors :: before) := by
  have hrouted : History.routed? (.turn executors) before = none := rfl
  constructor
  · show (before.executor? connection.name).map _ = _
    rw [h.executor]
    rfl
  · show connection.requests = History.requests _ connection.name
    rw [History.requests_cons rfl, hrouted, h.requests]
    exact (List.append_nil _).symm
  · show connection.counters.queries = UInt64.ofNat _
    rw [History.queries_cons rfl, hrouted, h.queries]
    rfl
  · show connection.counters.failed = UInt64.ofNat _
    rw [History.failed_cons rfl, hrouted, h.failed]
    rfl

/-- The connection that a request reaches takes it up and counts it, if its
result is known. -/
theorem Recalls.served (h : connection.Recalls before) {request : Request}
    (hrequest : call.request? = some request)
    (hcurrent : before.currentName = some connection.name) :
    (connection.served request
      (connection.executor.failure? request)).Recalls (call :: before) := by
  have hrouted : History.routed? call before = some
      ⟨connection.name, request, connection.executor.failure? request⟩ := by
    simp [History.routed?, hrequest, hcurrent, h.executor]
  have hrestarts : call.restarts connection.name = false := by
    cases call with
    | fetch statement => rfl
    | execute statement => rfl
    | _ => cases hrequest
  have hexecutor : History.executor? connection.name (call :: before) =
      before.executor? connection.name := by
    cases call with
    | fetch statement => rfl
    | execute statement => rfl
    | _ => cases hrequest
  have hname := connection.name_served request
  constructor
  · rw [hname, hexecutor, h.executor]
    cases connection.executor.failure? request <;> rfl
  · rw [hname, History.requests_cons (History.renews_of_restarts hrestarts),
      hrouted, ← h.requests]
    cases connection.executor.failure? request <;> simp [Connection.served,
      receive, count]
  · rw [hname, History.queries_cons hrestarts, hrouted, UInt64.ofNat_add,
      ← h.queries]
    cases connection.executor.failure? request <;> simp [Connection.served,
      receive, count, Counters.record]
  · rw [hname, History.failed_cons hrestarts, hrouted, UInt64.ofNat_add,
      ← h.failed]
    cases connection.executor.failure? request with
    | none => simp [Connection.served, receive]
    | some isFailure => cases isFailure <;> simp [Connection.served, receive,
        count, Counters.record]

end Connection

/-!
## The whole registry
-/

namespace Registry

def Points (registry : Registry) (position : Option Nat)
    (name : Option String) : Prop :=
  position.map registry.nameAt? = name.map some

structure Follows (registry : Registry) (history : History) : Prop where
  unlimited : registry.rules.timeout = none
  names : registry.names = history.names
  default : registry.Points registry.defaultPosition history.defaultName
  current : registry.Points registry.currentPosition history.currentName
  connections : ∀ connection ∈ registry.connections, connection.Recalls history

variable {registry : Registry} {history before : History} {name : String}

theorem Points.of_names {other : Registry} {position : Option Nat}
    {name : Option String} (h : registry.Points position name)
    (hnames : other.names = registry.names) : other.Points position name := by
  have hsame : other.nameAt? = registry.nameAt? := by
    funext position
    rw [nameAt?_eq, nameAt?_eq, hnames]
  rw [Points, hsame]
  exact h

theorem Points.append {position : Option Nat} {name : Option String}
    (h : registry.Points position name) (connection : Connection) :
    (registry.append connection).Points
      (position.or (some registry.connections.length))
      (name.or (some connection.name)) := by
  have hlength : registry.names.length = registry.connections.length :=
    List.length_map _
  cases position with
  | none =>
      cases name with
      | some name => cases h
      | none =>
          show some _ = some (some connection.name)
          rw [nameAt?_eq, names_append, ← hlength, List.getElem?_concat_length]
  | some position =>
      cases name with
      | none => cases h
      | some name =>
          have hname : registry.nameAt? position = some name :=
            Option.some.inj h
          have hlt : position < registry.names.length := by
            rw [hlength]
            exact lt_of_nameAt? hname
          show some _ = some (some name)
          rw [nameAt?_eq, names_append, List.getElem?_append_left hlt,
            ← nameAt?_eq, hname]

theorem Points.eq_none_iff {position : Option Nat} {name : Option String}
    (h : registry.Points position name) : position = none ↔ name = none := by
  cases position <;> cases name <;> simp_all [Points]

theorem Points.bind_eq {position : Option Nat} {name : Option String}
    (h : registry.Points position name) :
    position.bind registry.nameAt? = name := by
  cases position <;> cases name <;> simp_all [Points]

theorem follows_empty {rules : RegistryRules} (h : rules.timeout = none) :
    (empty rules).Follows [] := by
  constructor
  · exact h
  · rfl
  · rfl
  · rfl
  · intro connection hmem
    cases hmem

theorem Follows.current?_eq (h : registry.Follows before) :
    (before.currentName = none ∧ registry.current? = none) ∨
      ∃ position connection, registry.current? = some (position, connection) ∧
        registry.connections[position]? = some connection ∧
        before.currentName = some connection.name := by
  have hcurrent := h.current
  cases hposition : registry.currentPosition with
  | none =>
      rw [hposition] at hcurrent
      refine .inl ⟨hcurrent.eq_none_iff.mp rfl, ?_⟩
      rw [current?, hposition]
      rfl
  | some position =>
      rw [hposition] at hcurrent
      cases hname : before.currentName with
      | none =>
          rw [hname] at hcurrent
          cases hcurrent
      | some name =>
          rw [hname] at hcurrent
          have hat : registry.nameAt? position = some name :=
            Option.some.inj hcurrent
          rcases Option.map_eq_some_iff.mp hat with
            ⟨connection, hconnection, rfl⟩
          refine .inr ⟨position, connection, ?_, hconnection, rfl⟩
          rw [current?, hposition, Option.bind_some, hconnection]
          rfl

theorem Follows.nodup (h : registry.Follows before) : registry.names.Nodup :=
  h.names ▸ before.nodup_names

/-!
Each call keeps the agreement.
-/

theorem Follows.choose (h : registry.Follows before) {call : RegistryCall}
    {other : Registry} (hrules : other.rules = registry.rules)
    (hconnections : other.connections = registry.connections)
    (hnames : History.names (call :: before) = before.names)
    (hdefault : registry.Points other.defaultPosition
      (History.defaultName (call :: before)))
    (hcurrent : registry.Points other.currentPosition
      (History.currentName (call :: before)))
    (hkeep : ∀ connection ∈ registry.connections,
      connection.Recalls (call :: before)) :
    other.Follows (call :: before) := by
  have hsame : other.names = registry.names :=
    congrArg (List.map Connection.name) hconnections
  constructor
  · rw [hrules]
    exact h.unlimited
  · rw [hsame, hnames]
    exact h.names
  · exact hdefault.of_names hsame
  · exact hcurrent.of_names hsame
  · rw [hconnections]
    exact hkeep

theorem Follows.replace (h : registry.Follows before) {call : RegistryCall}
    {position : Nat} {connection : Connection}
    (hname : registry.nameAt? position = some connection.name)
    (hnames : History.names (call :: before) = before.names)
    (hdefault : History.defaultName (call :: before) = before.defaultName)
    (hcurrent : History.currentName (call :: before) = before.currentName)
    (hnew : connection.Recalls (call :: before))
    (hkeep : ∀ other ∈ registry.connections, other.name ≠ connection.name →
      other.Recalls (call :: before)) :
    (registry.replace position connection).Follows (call :: before) := by
  have hsame := names_replace hname
  constructor
  · exact h.unlimited
  · rw [hsame, hnames]
    exact h.names
  · rw [hdefault]
    exact h.default.of_names hsame
  · rw [hcurrent]
    exact h.current.of_names hsame
  · intro other hother
    rcases mem_replace h.nodup hname hother with rfl | ⟨hold, hne⟩
    · exact hnew
    · exact hkeep other hold hne

theorem Follows.map (h : registry.Follows before) {call : RegistryCall}
    {f : Connection → Connection}
    (hname : ∀ connection, (f connection).name = connection.name)
    (hnames : History.names (call :: before) = before.names)
    (hdefault : History.defaultName (call :: before) = before.defaultName)
    (hcurrent : History.currentName (call :: before) = before.currentName)
    (hrecalls : ∀ connection ∈ registry.connections,
      (f connection).Recalls (call :: before)) :
    { registry with connections := registry.connections.map f }.Follows
      (call :: before) := by
  have hsame : (registry.connections.map f).map Connection.name =
      registry.names := names_map hname
  constructor
  · exact h.unlimited
  · rw [hnames, ← h.names]
    exact hsame
  · rw [hdefault]
    exact h.default.of_names hsame
  · rw [hcurrent]
    exact h.current.of_names hsame
  · intro connection hmem
    rcases List.mem_map.mp hmem with ⟨old, hold, rfl⟩
    exact hrecalls old hold

theorem Follows.add (h : registry.Follows before) (name : String)
    (executor : Executor) :
    (registry.add name executor).Follows (.add name executor :: before) := by
  have hother : ∀ connection ∈ registry.connections, connection.name ≠ name →
      connection.Recalls (.add name executor :: before) := by
    intro connection hmem hname
    apply (h.connections connection hmem).keep
    · rw [History.executor?, if_neg (Ne.symm hname)]
    · simpa [RegistryCall.restarts, RegistryCall.renews,
        RegistryCall.addedName?] using Ne.symm hname
    · intro routed hrouted
      cases hrouted
  have hfresh := Connection.recalls_fresh name executor before
  rcases registry.position?_cases name with ⟨hnone, hnew⟩ |
    ⟨position, hposition, hname⟩
  · rw [Registry.add, hnone]
    have hunknown : name ∉ before.names := h.names ▸ hnew
    constructor
    · exact h.unlimited
    · rw [names_append, History.names_add, if_neg hunknown, h.names]
      rfl
    · exact h.default.append (.fresh name executor)
    · exact h.current.append (.fresh name executor)
    · intro connection hmem
      rcases List.mem_append.mp hmem with hold | hadded
      · apply hother connection hold
        rintro rfl
        exact hnew (List.mem_map_of_mem hold)
      · rw [List.mem_singleton.mp hadded]
        exact hfresh
  · rw [Registry.add, hposition]
    have hknown : name ∈ before.names := h.names ▸ mem_names_of_nameAt? hname
    -- as there is a name already, the one that is added is not the first
    have hsome : ∀ {chosen : Option String},
        (chosen = none ↔ before.names = []) →
          chosen.or (some name) = chosen := by
      intro chosen hnone
      cases chosen with
      | none => exact absurd (hnone.mp rfl) (List.ne_nil_of_mem hknown)
      | some other => rfl
    apply h.replace hname
    · rw [History.names_add, if_pos hknown]
    · exact hsome before.defaultName_eq_none_iff
    · exact hsome before.currentName_eq_none_iff
    · exact hfresh
    · exact hother

theorem Follows.keep (h : registry.Follows before) {call : RegistryCall}
    (hexecutor : ∀ name,
      History.executor? name (call :: before) = before.executor? name)
    (hrestarts : ∀ name, call.restarts name = false)
    (hrequest : call.request? = none) :
    ∀ connection ∈ registry.connections,
      connection.Recalls (call :: before) := by
  intro connection hmem
  apply (h.connections connection hmem).keep
  · exact hexecutor connection.name
  · exact hrestarts connection.name
  · intro routed hrouted
    simp [History.routed?, hrequest] at hrouted

theorem Follows.points_found (h : registry.Follows before) {chosen : Option Nat}
    {chosenName : Option String} (hchosen : registry.Points chosen chosenName)
    (name : String) :
    registry.Points ((registry.position? name).or chosen)
      (if name ∈ before.names then some name else chosenName) := by
  rw [← h.names]
  rcases registry.position?_cases name with ⟨hnone, hnew⟩ |
    ⟨position, hposition, hname⟩
  · rw [hnone, if_neg hnew]
    exact hchosen
  · rw [hposition, if_pos (mem_names_of_nameAt? hname)]
    exact congrArg some hname

theorem Follows.makeDefault (h : registry.Follows before) (name : String) :
    (registry.after (.makeDefault name)).Follows
      (.makeDefault name :: before) := by
  rw [after_makeDefault]
  refine h.choose rfl rfl ?_ ?_ ?_ ?_
  · exact History.names_of_addedName? rfl before
  · exact h.points_found h.default name
  · exact h.current
  · exact h.keep (fun _ => rfl) (fun _ => rfl) rfl

theorem Follows.use (h : registry.Follows before) (name : String) :
    (registry.after (.use name)).Follows (.use name :: before) := by
  rw [after_use]
  refine h.choose rfl rfl ?_ ?_ ?_ ?_
  · exact History.names_of_addedName? rfl before
  · exact h.default
  · exact h.points_found h.current name
  · exact h.keep (fun _ => rfl) (fun _ => rfl) rfl

theorem Follows.returnToDefault (h : registry.Follows before) :
    registry.returnToDefault.Follows (.returnToDefault :: before) := by
  refine h.choose rfl rfl ?_ ?_ ?_ ?_
  · exact History.names_of_addedName? rfl before
  · exact h.default
  · exact h.default
  · exact h.keep (fun _ => rfl) (fun _ => rfl) rfl

theorem Follows.clearCounts (h : registry.Follows before) :
    registry.clearCounts.Follows (.clearCounts :: before) := by
  apply h.map
  · intro connection
    rfl
  · exact History.names_of_addedName? rfl before
  · rfl
  · rfl
  · intro connection hmem
    exact Connection.recalls_reset (h.connections connection hmem)

theorem Follows.turn (h : registry.Follows before)
    (executors : String → Executor) :
    (registry.turn executors).Follows (.turn executors :: before) := by
  apply h.map
  · intro connection
    rfl
  · exact History.names_of_addedName? rfl before
  · rfl
  · rfl
  · intro connection hmem
    exact (h.connections connection hmem).turn executors

theorem Follows.request (h : registry.Follows before) {call : RegistryCall}
    {request : Request} (hrequest : call.request? = some request) :
    (registry.after call).Follows (call :: before) := by
  have hsame : History.names (call :: before) = before.names ∧
      History.defaultName (call :: before) = before.defaultName ∧
      History.currentName (call :: before) = before.currentName ∧
      (∀ name, History.executor? name (call :: before) =
        before.executor? name) ∧
      ∀ name, call.restarts name = false := by
    cases call with
    | fetch statement =>
        exact ⟨History.names_of_addedName? rfl before, rfl, rfl, fun _ => rfl,
          fun _ => rfl⟩
    | execute statement =>
        exact ⟨History.names_of_addedName? rfl before, rfl, rfl, fun _ => rfl,
          fun _ => rfl⟩
    | _ => cases hrequest
  rcases hsame with ⟨hnames, hdefault, hcurrent, hexecutor, hrestarts⟩
  rw [after_request h.unlimited hrequest]
  rcases h.current?_eq with ⟨hnone, hcurrent?⟩ |
    ⟨position, connection, hcurrent?, hconnection, hname⟩
  · rw [hcurrent?]
    apply h.choose rfl rfl hnames
    · rw [hdefault]
      exact h.default
    · rw [hcurrent]
      exact h.current
    · intro connection hmem
      apply (h.connections connection hmem).keep (hexecutor _) (hrestarts _)
      intro routed hrouted
      simp [History.routed?, hnone] at hrouted
  · rw [hcurrent?]
    have hserved : (connection.served request
        (connection.executor.failure? request)).name = connection.name :=
      connection.name_served request _
    have hmem := List.mem_of_getElem? hconnection
    apply h.replace
    · rw [nameAt?, hconnection, hserved]
      rfl
    · exact hnames
    · exact hdefault
    · exact hcurrent
    · exact (h.connections connection hmem).served hrequest hname
    · intro other hother hne
      rw [hserved] at hne
      apply (h.connections other hother).keep (hexecutor _) (hrestarts _)
      intro routed hrouted
      have hto : routed.name = connection.name := by
        rw [History.routed_name hrouted] at hname
        exact Option.some.inj hname
      rw [hto]
      exact Ne.symm hne

theorem Follows.after (h : registry.Follows before) (call : RegistryCall) :
    (registry.after call).Follows (call :: before) := by
  cases call with
  | add name executor => exact h.add name executor
  | makeDefault name => exact h.makeDefault name
  | use name => exact h.use name
  | returnToDefault => exact h.returnToDefault
  | clearCounts => exact h.clearCounts
  | fetch statement => exact h.request rfl
  | execute statement => exact h.request rfl
  | turn executors => exact h.turn executors

theorem follows_ofHistory {rules : RegistryRules} (h : rules.timeout = none)
    (history : History) : (ofHistory rules history).Follows history := by
  induction history with
  | nil => exact follows_empty h
  | cons call before ih => exact ih.after call

end Registry
end SqlAssembler
