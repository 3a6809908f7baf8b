import Mathlib
import SqlAssembler.Execution.Registry

/-!
# Histories of a registry

What a registry holds can be told from the calls that were made on it: which
names were added, which of them was chosen last, which requests went to each of
them. This is said here from the calls alone, without positions and counters. A
history lists the calls with the latest one first.
-/

namespace SqlAssembler

inductive RegistryCall where
  | add (name : String) (executor : Executor)
  | makeDefault (name : String)
  | use (name : String)
  | returnToDefault
  | clearCounts
  | fetch (statement : Statement)
  | execute (statement : Statement)
  /-- No call, but what may happen between two calls: from now on the executor
  of each name answers in another way. -/
  | turn (executors : String → Executor)

abbrev History := List RegistryCall

namespace RegistryCall

def addedName? : RegistryCall → Option String
  | add name _ => some name
  | _ => none

def renews (name : String) (call : RegistryCall) : Bool :=
  call.addedName? = some name

def restarts (name : String) : RegistryCall → Bool
  | clearCounts => true
  | call => call.renews name

def request? : RegistryCall → Option Request
  | fetch statement => some (.fetch statement)
  | execute statement => some (.execute statement)
  | _ => none

end RegistryCall

def Executor.failure? (executor : Executor) : Request → Option Bool
  | .fetch statement =>
      ((executor.fetch statement).await none).map Registry.isError
  | .execute statement =>
      ((executor.execute statement).await none).map Registry.isError

structure Routed where
  name : String
  request : Request
  failure? : Option Bool

namespace History

def names (history : History) : List String :=
  (history.reverse.filterMap RegistryCall.addedName?).eraseDups

def defaultName : History → Option String
  | [] => none
  | .add name _ :: before => (defaultName before).or (some name)
  | .makeDefault name :: before =>
      if name ∈ names before then some name else defaultName before
  | _ :: before => defaultName before

def currentName : History → Option String
  | [] => none
  | .add name _ :: before => (currentName before).or (some name)
  | .use name :: before =>
      if name ∈ names before then some name else currentName before
  | .returnToDefault :: before => defaultName before
  | _ :: before => currentName before

def executor? (name : String) : History → Option Executor
  | [] => none
  | .add other executor :: before =>
      if other = name then some executor else executor? name before
  | .turn executors :: before =>
      (executor? name before).map fun _ => executors name
  | _ :: before => executor? name before

def routed? (call : RegistryCall) (before : History) : Option Routed := do
  let request ← call.request?
  let name ← before.currentName
  let executor ← before.executor? name
  return ⟨name, request, executor.failure? request⟩

def routedSince (kind : RegistryCall → Bool) : History → List Routed
  | [] => []
  | call :: before =>
      if kind call then []
      else (routed? call before).toList ++ routedSince kind before

def requests (history : History) (name : String) : List Request :=
  (((history.routedSince (RegistryCall.renews name)).filter
    fun routed => routed.name = name).map Routed.request).reverse

/-- How many requests to the name were answered since its counters started. -/
def queries (history : History) (name : String) : Nat :=
  (history.routedSince (RegistryCall.restarts name)).countP fun routed =>
    routed.name = name && routed.failure?.isSome

def failed (history : History) (name : String) : Nat :=
  (history.routedSince (RegistryCall.restarts name)).countP fun routed =>
    routed.name = name && routed.failure? = some true

/-!
## Names
-/

theorem eraseDups_concat (names : List String) (name : String) :
    (names ++ [name]).eraseDups =
      if name ∈ names then names.eraseDups else names.eraseDups ++ [name] := by
  rw [List.eraseDups_append]
  by_cases hmem : name ∈ names
  · simp [List.removeAll, hmem]
  · simp [List.removeAll, hmem, List.eraseDups_cons]

theorem names_add (name : String) (executor : Executor) (before : History) :
    names (.add name executor :: before) =
      if name ∈ names before then names before else names before ++ [name] := by
  have hadded : (RegistryCall.add name executor :: before).reverse.filterMap
      RegistryCall.addedName? =
        before.reverse.filterMap RegistryCall.addedName? ++ [name] := by
    simp [RegistryCall.addedName?]
  simp only [names, hadded, eraseDups_concat, List.mem_eraseDups]

theorem names_of_addedName? {call : RegistryCall}
    (h : call.addedName? = none) (before : History) :
    names (call :: before) = names before := by
  simp [names, h]

theorem nodup_names (history : History) : history.names.Nodup := by
  induction history with
  | nil => exact List.nodup_nil
  | cons call before ih =>
      cases hadded : call.addedName? with
      | none =>
          rw [names_of_addedName? hadded]
          exact ih
      | some name =>
          cases call with
          | add other executor =>
              rw [names_add]
              split
              · exact ih
              · rename_i hnew
                exact List.concat_eq_append ▸ ih.concat hnew
          | _ => cases hadded

theorem mem_names_add {name other : String} {executor : Executor}
    {before : History} :
    other ∈ names (.add name executor :: before) ↔
      other ∈ names before ∨ other = name := by
  rw [names_add]
  split
  · rename_i hmem
    constructor
    · exact .inl
    · rintro (hother | rfl)
      · exact hother
      · exact hmem
  · rw [List.mem_append, List.mem_singleton]

/-!
Among the names that were added, one is the default and one is current.
-/

theorem defaultName_eq_none_iff (history : History) :
    history.defaultName = none ↔ history.names = [] := by
  induction history with
  | nil => exact ⟨fun _ => rfl, fun _ => rfl⟩
  | cons call before ih =>
      cases call with
      | add name executor =>
          have hmem : name ∈ names (.add name executor :: before) :=
            mem_names_add.mpr (.inr rfl)
          simp [defaultName, List.ne_nil_of_mem hmem]
      | makeDefault name =>
          rw [defaultName, names_of_addedName? rfl]
          split
          · rename_i hmem
            simp [List.ne_nil_of_mem hmem]
          · exact ih
      | _ =>
          rw [names_of_addedName? rfl]
          exact ih

theorem currentName_eq_none_iff (history : History) :
    history.currentName = none ↔ history.names = [] := by
  induction history with
  | nil => exact ⟨fun _ => rfl, fun _ => rfl⟩
  | cons call before ih =>
      cases call with
      | add name executor =>
          have hmem : name ∈ names (.add name executor :: before) :=
            mem_names_add.mpr (.inr rfl)
          simp [currentName, List.ne_nil_of_mem hmem]
      | use name =>
          rw [currentName, names_of_addedName? rfl]
          split
          · rename_i hmem
            simp [List.ne_nil_of_mem hmem]
          · exact ih
      | returnToDefault =>
          rw [currentName, names_of_addedName? rfl]
          exact defaultName_eq_none_iff before
      | _ =>
          rw [names_of_addedName? rfl]
          exact ih

/-!
## Requests

A call that starts nothing anew adds at most one request, and only to the name
that it was routed to.
-/

variable {call : RegistryCall} {before : History} {name : String}

theorem renews_of_restarts (h : call.restarts name = false) :
    call.renews name = false := by
  cases call with
  | clearCounts => cases h
  | _ => exact h

theorem routed_name {routed : Routed} (h : routed? call before = some routed) :
    before.currentName = some routed.name := by
  rw [routed?] at h
  rcases Option.bind_eq_some_iff.mp h with ⟨request, _, hname⟩
  rcases Option.bind_eq_some_iff.mp hname with ⟨name, hcurrent, hexecutor⟩
  rcases Option.bind_eq_some_iff.mp hexecutor with ⟨executor, _, hrouted⟩
  cases hrouted
  exact hcurrent

theorem routedSince_cons {kind : RegistryCall → Bool} (h : kind call = false) :
    routedSince kind (call :: before) =
      (routed? call before).toList ++ routedSince kind before := by
  rw [routedSince, h]
  rfl

theorem requests_cons (h : call.renews name = false) :
    requests (call :: before) name = requests before name ++
      ((routed? call before).toList.filter
        fun routed => routed.name = name).map Routed.request := by
  rw [requests, routedSince_cons h, List.filter_append, List.map_append,
    List.reverse_append, requests]
  congr 1
  cases routed? call before with
  | none => rfl
  | some routed => by_cases hname : routed.name = name <;> simp [hname]

theorem queries_cons (h : call.restarts name = false) :
    queries (call :: before) name = queries before name +
      (routed? call before).toList.countP fun routed =>
        routed.name = name && routed.failure?.isSome := by
  rw [queries, routedSince_cons h, List.countP_append, Nat.add_comm, queries]

theorem failed_cons (h : call.restarts name = false) :
    failed (call :: before) name = failed before name +
      (routed? call before).toList.countP fun routed =>
        routed.name = name && routed.failure? = some true := by
  rw [failed, routedSince_cons h, List.countP_append, Nat.add_comm, failed]

theorem length_routedSince_le (kind : RegistryCall → Bool)
    (history : History) :
    (history.routedSince kind).length ≤ history.length := by
  induction history with
  | nil => exact Nat.le_refl 0
  | cons call before ih =>
      rw [routedSince]
      split
      · exact Nat.zero_le _
      · have hone := Option.length_toList_le (o := routed? call before)
        rw [List.length_append, List.length_cons]
        omega

theorem queries_le_length (history : History) (name : String) :
    history.queries name ≤ history.length :=
  List.countP_le_length.trans (history.length_routedSince_le _)

theorem failed_le_queries (history : History) (name : String) :
    history.failed name ≤ history.queries name := by
  apply List.countP_mono_left
  intro routed _ hfailed
  simp only [Bool.and_eq_true, decide_eq_true_eq] at hfailed ⊢
  rw [hfailed.2]
  exact ⟨hfailed.1, rfl⟩

end History
end SqlAssembler
