import SqlAssembler.Proofs.Clauses.Basic
import SqlAssembler.Proofs.Conditions.Recorded
import SqlAssembler.Proofs.Recordings

/-!
# Changing the table

A table call is refused as soon as something is recorded that may carry the name
of the table, and what is recorded stays. So before the last table call of an
accepted run nothing of that kind is recorded, and the run might as well have
started with the table that is named last.
-/

namespace SqlAssembler

open Recording

namespace SelectCall

@[simp]
def tableName? : SelectCall → Option String
  | setTable name => some name
  | _ => none

/-- The table that is named last, at the start or by a call. -/
def lastTable (table : String) (calls : List SelectCall) : String :=
  (calls.filterMap tableName?).getLast?.getD table

def withoutTables (calls : List SelectCall) : List SelectCall :=
  calls.filter fun call => !call.setsTable

def hasEntries : SelectCall → Bool
  | select _ | join _ _ _ _ | joinAs _ _ _ _ | filter _ | groupBy _
  | orderBy _ => true
  | setTable _ | distinct | limit _ | offset _ | page _ _ => false

theorem leaveTable_withoutTables (calls : List SelectCall) :
    LeaveTable (withoutTables calls) := by
  intro call hcall
  simpa using (List.mem_filter.mp hcall).2

theorem flatMap_withoutTables {ι : Type} (entries : SelectCall → List ι)
    (h : ∀ name, entries (setTable name) = []) (calls : List SelectCall) :
    (withoutTables calls).flatMap entries = calls.flatMap entries := by
  induction calls with
  | nil => rfl
  | cons call rest ih =>
      rw [List.flatMap_cons, ← ih]
      cases call with
      | setTable name => rw [h]; rfl
      | _ => rfl

end SelectCall

/-!
## Entries
-/

variable {settings : Settings} {selection after : Selection}
  {call : SelectCall} {calls : List SelectCall}

namespace Selection

theorem usesTable_of_entry {edit : Edit Selection}
    (hentries : call.hasEntries = true) (hmem : edit ∈ call.edits settings)
    (h : edit selection = .ok after) : after.usesTable = true := by
  cases call with
  | select columns =>
      rcases List.mem_map.mp hmem with ⟨raw, _, rfl⟩
      rcases project_eq_ok h with ⟨column, _, _, rfl⟩
      simp [usesTable]
  | join kind table left right =>
      cases List.mem_singleton.mp hmem
      rcases bind_eq_ok_iff.mp h with ⟨parsed, _, hadd⟩
      rcases map_eq_ok_iff.mp hadd with ⟨join, _, rfl⟩
      simp [usesTable]
  | joinAs kind table left right =>
      cases List.mem_singleton.mp hmem
      rcases map_eq_ok_iff.mp h with ⟨join, _, rfl⟩
      simp [usesTable]
  | filter call =>
      cases List.mem_singleton.mp hmem
      rcases map_eq_ok_iff.mp h with ⟨conditions, happly, rfl⟩
      simp [usesTable, FilterCall.isEmpty_apply happly]
  | groupBy columns =>
      rcases List.mem_map.mp hmem with ⟨raw, _, rfl⟩
      rcases map_eq_ok_iff.mp h with ⟨column, _, rfl⟩
      simp [usesTable]
  | orderBy entries =>
      rcases List.mem_map.mp hmem with ⟨raw, _, rfl⟩
      rcases map_eq_ok_iff.mp h with ⟨key, _, rfl⟩
      simp [usesTable]
  | _ => cases hentries

theorem usesTable_of_entries {edits : List (Edit Selection)}
    (hentries : call.hasEntries = true)
    (hmem : ∀ edit ∈ edits, edit ∈ call.edits settings)
    (h : selection.usesTable = true) :
    (recorded selection edits).usesTable = true := by
  have hkeeps : ∀ edit ∈ edits, ∀ before after : Selection,
      before.usesTable = true → edit before = .ok after →
        after.usesTable = true := by
    intro edit hedit before after _ hafter
    exact usesTable_of_entry hentries (hmem edit hedit) hafter
  exact attemptAll_keeps h hkeeps

theorem exists_change (hcall : call.setsTable = false)
    (hentries : call.hasEntries = false) :
    ∃ change : Selection → Selection,
      call.edits settings = [fun selection => .ok (change selection)] ∧
      (∀ selection, (change selection).usesTable = selection.usesTable) ∧
      ∀ selection owner, change { selection with table := owner } =
        { change selection with table := owner } := by
  cases call with
  | distinct => exact ⟨_, rfl, fun _ => rfl, fun _ _ => rfl⟩
  | limit count => exact ⟨_, rfl, fun _ => rfl, fun _ _ => rfl⟩
  | offset count => exact ⟨_, rfl, fun _ => rfl, fun _ _ => rfl⟩
  | page number size => exact ⟨_, rfl, fun _ => rfl, fun _ _ => rfl⟩
  | setTable name => cases hcall
  | _ => cases hentries

theorem usesTable_recorded (hcall : call.setsTable = false)
    (h : selection.usesTable = true) :
    (recorded selection (call.edits settings)).usesTable = true := by
  cases hentries : call.hasEntries with
  | true => exact usesTable_of_entries hentries (fun _ hmem => hmem) h
  | false =>
      rcases exists_change hcall hentries with ⟨change, hedits, huses, _⟩
      rw [hedits]
      exact (huses selection).trans h

theorem table_recorded (hcall : call.setsTable = false) :
    (recorded selection (call.edits settings)).table = selection.table := by
  rw [recorded_call hcall]
  rfl

theorem usesTable_of_accepted (hentries : call.hasEntries = true)
    (hnone : refusals selection (call.edits settings) = []) :
    call.edits settings = [] ∨
      (recorded selection (call.edits settings)).usesTable = true := by
  cases hedits : call.edits settings with
  | nil => exact .inl rfl
  | cons edit rest =>
      rw [hedits] at hnone
      cases hedit : edit selection with
      | error error =>
          rw [refusals_cons_of_error hedit] at hnone
          cases hnone
      | ok first =>
          right
          rw [recorded_cons_of_ok hedit]
          have hfirst : edit ∈ call.edits settings := by simp [hedits]
          have hlater : ∀ other ∈ rest, other ∈ call.edits settings := by
            intro other hother
            simp [hedits, hother]
          exact usesTable_of_entries hentries hlater
            (usesTable_of_entry hentries hfirst hedit)

theorem recorded_of_unused (hcall : call.setsTable = false)
    (hnone : refusals selection (call.edits settings) = [])
    (hunused : (recorded selection (call.edits settings)).usesTable = false)
    (owner : Option Ident) :
    refusals { selection with table := owner } (call.edits settings) = [] ∧
      recorded { selection with table := owner } (call.edits settings) =
        { recorded selection (call.edits settings) with table := owner } := by
  cases hentries : call.hasEntries with
  | true =>
      rcases usesTable_of_accepted hentries hnone with hedits | hused
      · rw [hedits]
        exact ⟨rfl, rfl⟩
      · rw [hunused] at hused
        cases hused
  | false =>
      rcases exists_change hcall hentries with ⟨change, hedits, _, htable⟩
      rw [hedits]
      exact ⟨rfl, htable selection owner⟩

/-!
## Runs
-/

theorem setTable_eq_ok {name : String}
    (h : setTable name selection = .ok after) :
    (selection.table.isSome && selection.usesTable) = false ∧
      ∃ owner, Ident.parse name = .ok owner ∧
        after = { selection with table := some owner } := by
  rw [setTable] at h
  split at h
  · cases h
  · rename_i hfree
    exact ⟨by simpa using hfree, map_eq_ok_iff.mp h⟩

theorem refusals_ne_nil_of_used {first : Ident}
    (htable : selection.table = some first)
    (hused : selection.usesTable = true)
    (hnamed : calls.filterMap SelectCall.tableName? ≠ []) :
    refusals selection (calls.flatMap (SelectCall.edits settings)) ≠ [] := by
  induction calls generalizing selection with
  | nil => exact absurd rfl hnamed
  | cons call rest ih =>
      rw [List.flatMap_cons, refusals_append]
      intro hnone
      rcases List.append_eq_nil_iff.mp hnone with ⟨hcall, hrest⟩
      cases hset : call.setsTable with
      | true =>
          cases call with
          | setTable name =>
              cases hedit : setTable name selection with
              | error error =>
                  rw [SelectCall.edits, refusals_cons_of_error hedit] at hcall
                  cases hcall
              | ok after =>
                  have hfree := (setTable_eq_ok hedit).1
                  rw [htable, hused] at hfree
                  cases hfree
          | _ => cases hset
      | false =>
          refine ih ?_ (usesTable_recorded hset hused) ?_ hrest
          · rw [table_recorded hset, htable]
          · cases call with
            | setTable name => cases hset
            | _ => exact hnamed

def NamedLast (first : Ident) (calls : List SelectCall) (owner : Ident) :
    Prop :=
  match (calls.filterMap SelectCall.tableName?).getLast? with
  | none => owner = first
  | some name => Ident.parse name = .ok owner

theorem NamedLast.cons_setTable {first next owner : Ident} {name : String}
    (hname : Ident.parse name = .ok next) (h : NamedLast next calls owner) :
    NamedLast first (.setTable name :: calls) owner := by
  unfold NamedLast at h ⊢
  simp only [List.filterMap_cons, SelectCall.tableName?, List.getLast?_cons]
  split at h
  · rename_i hnone
    rw [hnone, h]
    exact hname
  · rename_i other hsome
    rw [hsome]
    exact h

theorem NamedLast.cons_other {first owner : Ident}
    (hcall : call.setsTable = false) (h : NamedLast first calls owner) :
    NamedLast first (call :: calls) owner := by
  cases call with
  | setTable name => cases hcall
  | _ => exact h

theorem NamedLast.parse_lastTable {first owner : Ident} {table : String}
    (htable : Ident.parse table = .ok first)
    (h : NamedLast first calls owner) :
    Ident.parse (SelectCall.lastTable table calls) = .ok owner := by
  unfold NamedLast at h
  unfold SelectCall.lastTable
  split at h
  · rename_i hnone
    rw [hnone, h]
    exact htable
  · rename_i name hsome
    rw [hsome]
    exact h

/-- An accepted call does the same with the table that the calls after it name
last: either they name none, or the call records nothing that uses it. -/
theorem recorded_before_last {first owner : Ident}
    (htable : selection.table = some first) (hset : call.setsTable = false)
    (hcall : refusals selection (call.edits settings) = [])
    (hrest : refusals (recorded selection (call.edits settings))
      (calls.flatMap (SelectCall.edits settings)) = [])
    (hlast : NamedLast first calls owner) :
    refusals { selection with table := some owner }
        (call.edits settings) = [] ∧
      recorded { selection with table := some owner } (call.edits settings) =
        { recorded selection (call.edits settings) with
          table := some owner } := by
  have hafter : (recorded selection (call.edits settings)).table =
      some first :=
    (table_recorded hset).trans htable
  by_cases hnamed : calls.filterMap SelectCall.tableName? = []
  · have hsame : owner = first := by
      simpa [NamedLast, hnamed] using hlast
    have hselection : { selection with table := some owner } = selection := by
      rw [hsame, ← htable]
    have hrecorded :
        { recorded selection (call.edits settings) with table := some owner } =
          recorded selection (call.edits settings) := by
      rw [hsame, ← hafter]
    rw [hselection, hrecorded]
    exact ⟨hcall, rfl⟩
  · -- an entry recorded here would have the named table refused
    apply recorded_of_unused hset hcall
    cases hused : (recorded selection (call.edits settings)).usesTable with
    | false => rfl
    | true =>
        exact absurd hrest (refusals_ne_nil_of_used hafter hused hnamed)

/-- An accepted run records what its other calls record with the table that is
named last. -/
theorem recorded_withoutTables {first : Ident}
    (htable : selection.table = some first)
    (hnone : refusals selection
      (calls.flatMap (SelectCall.edits settings)) = []) :
    ∃ owner, NamedLast first calls owner ∧
      refusals { selection with table := some owner }
        ((SelectCall.withoutTables calls).flatMap
          (SelectCall.edits settings)) = [] ∧
      recorded { selection with table := some owner }
          ((SelectCall.withoutTables calls).flatMap
            (SelectCall.edits settings)) =
        recorded selection (calls.flatMap (SelectCall.edits settings)) := by
  induction calls generalizing selection first with
  | nil =>
      refine ⟨first, rfl, rfl, ?_⟩
      rw [← htable]
      rfl
  | cons call rest ih =>
      rw [List.flatMap_cons, refusals_append] at hnone
      rcases List.append_eq_nil_iff.mp hnone with ⟨hcall, hrest⟩
      rw [List.flatMap_cons, recorded_append]
      -- a table call goes on with its own table, any other call is moved under
      -- the owner that the rest leads to
      cases hset : call.setsTable with
      | true =>
          cases call with
          | setTable name =>
              cases hedit : setTable name selection with
              | error error =>
                  rw [SelectCall.edits, refusals_cons_of_error hedit] at hcall
                  cases hcall
              | ok after =>
                  rcases (setTable_eq_ok hedit).2 with ⟨next, hnext, rfl⟩
                  have hafter : recorded selection
                      (SelectCall.edits settings (.setTable name)) =
                        { selection with table := some next } :=
                    recorded_cons_of_ok hedit []
                  rw [hafter] at hrest ⊢
                  rcases ih rfl hrest with ⟨owner, hlast, hdirect⟩
                  exact ⟨owner, hlast.cons_setTable hnext, hdirect⟩
          | _ => cases hset
      | false =>
          have hkept : SelectCall.withoutTables (call :: rest) =
              call :: SelectCall.withoutTables rest :=
            List.filter_cons_of_pos (by rw [hset]; rfl)
          have hafter : (recorded selection (call.edits settings)).table =
              some first :=
            (table_recorded hset).trans htable
          rcases ih hafter hrest with ⟨owner, hlast, hrefused, hdirect⟩
          refine ⟨owner, hlast.cons_other hset, ?_⟩
          rcases recorded_before_last htable hset hcall hrest hlast with
            ⟨hfree, hrecorded⟩
          rw [hkept, List.flatMap_cons, refusals_append, recorded_append,
            hfree, hrecorded, hrefused]
          exact ⟨rfl, hdirect⟩

end Selection

theorem Recording.attemptAll_of_accepted {σ : Type} {parts : σ}
    {edits : List (Edit σ)} (h : refusals parts edits = []) :
    (start parts).attemptAll edits = start (recorded parts edits) := by
  have hnone : ((start parts).attemptAll edits).failure = none :=
    (failure_eq_none_iff _ _).mpr ⟨rfl, h⟩
  exact eq_start_of_accepted hnone

/-!
## Starting with another table
-/

def Selection.ofTable (owner : Ident) : Selection :=
  { empty with table := some owner }

namespace SelectBuilder

variable {settings : Settings} {table : String} {calls : List SelectCall}

theorem start_of_parse {owner : Ident} (h : Ident.parse table = .ok owner)
    (settings : Settings) :
    start settings table = ⟨settings, .start (.ofTable owner)⟩ := by
  have htable : Selection.setTable table Selection.empty =
      .ok (.ofTable owner) := by
    simp only [Selection.setTable, h]
    rfl
  exact congrArg (Builder.mk settings) (attempt_of_ok htable)

theorem start_of_parse_error {error : Error}
    (h : Ident.parse table = .error error) (settings : Settings) :
    start settings table = ⟨settings, ⟨.empty, some error⟩⟩ := by
  have htable : Selection.setTable table Selection.empty = .error error := by
    simp only [Selection.setTable, h]
    rfl
  exact congrArg (Builder.mk settings) (attempt_of_error htable)

theorem recordAll_of_accepted
    (h : ((start settings table).recordAll calls).recording.failure = none) :
    ∃ owner,
      Ident.parse (SelectCall.lastTable table calls) = .ok owner ∧
      (start settings table).recordAll calls =
        (start settings (SelectCall.lastTable table calls)).recordAll
          (SelectCall.withoutTables calls) ∧
      ((start settings table).recordAll calls).selection =
        (Selection.ofTable owner).extended settings
          (SelectCall.withoutTables calls) ∧
      (Selection.ofTable owner).clauseRefusals settings
        (SelectCall.withoutTables calls) = [] := by
  rw [recordAll_eq, failure_eq_none_iff] at h
  rcases h with ⟨hstart, hnone⟩
  cases htable : Ident.parse table with
  | error error =>
      rw [start_of_parse_error htable] at hstart
      cases hstart
  | ok first =>
      rw [start_of_parse htable] at hnone ⊢
      rcases Selection.recorded_withoutTables rfl hnone with
        ⟨owner, hlast, hrefused, hrecorded⟩
      have howner := hlast.parse_lastTable htable
      have hleave := SelectCall.leaveTable_withoutTables calls
      have hclauses : recorded (Selection.ofTable owner)
          ((SelectCall.withoutTables calls).flatMap
            (SelectCall.edits settings)) =
          (Selection.ofTable owner).extended settings
            (SelectCall.withoutTables calls) :=
        Selection.recorded_calls hleave
      refine ⟨owner, howner, ?_, ?_, ?_⟩
      · rw [start_of_parse howner, recordAll_eq, recordAll_eq]
        refine congrArg (Builder.mk settings) ?_
        have hcalls := attemptAll_of_accepted hnone
        have hothers := attemptAll_of_accepted hrefused
        rw [hrecorded] at hothers
        exact hcalls.trans hothers.symm
      · rw [recordAll_eq, selection, ← hclauses]
        exact hrecorded.symm
      · have hperm : (refusals (Selection.ofTable owner)
            ((SelectCall.withoutTables calls).flatMap
              (SelectCall.edits settings))).Perm
            ((Selection.ofTable owner).clauseRefusals settings
              (SelectCall.withoutTables calls)) :=
          Selection.refusals_calls hleave
        have hnone : refusals (Selection.ofTable owner)
            ((SelectCall.withoutTables calls).flatMap
              (SelectCall.edits settings)) = [] := hrefused
        rw [hnone] at hperm
        exact List.nil_perm.mp hperm

end SelectBuilder

/-!
## Conditions
-/

theorem FilterCall.conditions_recorded {settings : Settings}
    {table : Option Ident} {calls : List FilterCall}
    (hnone : refusals Conditions.empty
      (calls.map fun call => Selection.filterInto settings call table) = []) :
    calls.filterMap (condition? settings table) =
      (recorded Conditions.empty
        (calls.map fun call =>
          Selection.filterInto settings call table)).fragments.map .ok := by
  have hfailure := (failure_eq_none_iff (start Conditions.empty)
    (calls.map fun call =>
      Selection.filterInto settings call table)).mpr ⟨rfl, hnone⟩
  have hstep : ∀ done conditions call after,
      List.filterMap (condition? settings table) done =
          conditions.fragments.map .ok →
        Selection.filterInto settings call table conditions = .ok after →
          (done ++ [call]).filterMap (condition? settings table) =
            after.fragments.map .ok := by
    intro done conditions call after hdone hafter
    rw [fragments_apply hafter, List.filterMap_append, hdone]
    cases hcondition : call.condition? settings table with
    | none => simp [hcondition]
    | some condition => simp [hcondition]
  have hempty : List.filterMap (condition? settings table) [] =
      Conditions.empty.fragments.map .ok := rfl
  exact attemptAll_tracks hstep hempty hfailure

theorem SelectBuilder.conditions_of_accepted {settings : Settings}
    {table : String} {calls : List SelectCall}
    (h : ((start settings table).recordAll calls).recording.failure = none) :
    ∃ owner, Ident.parse (SelectCall.lastTable table calls) = .ok owner ∧
      (calls.flatMap SelectCall.filters).filterMap
          (FilterCall.condition? settings (some owner)) =
        ((start settings table).recordAll
          calls).selection.conditions.fragments.map .ok := by
  rcases recordAll_of_accepted h with
    ⟨owner, howner, _, hselection, hrefusals⟩
  refine ⟨owner, howner, ?_⟩
  simp only [Selection.clauseRefusals, List.append_eq_nil_iff,
    Selection.clauseEdits_eq] at hrefusals
  rcases hrefusals with ⟨⟨⟨_, hconditions⟩, _⟩, _⟩
  rw [hselection, ← SelectCall.flatMap_withoutTables SelectCall.filters
    (fun _ => rfl) calls]
  unfold Selection.extended
  simp only [Selection.clauseEdits_eq]
  exact FilterCall.conditions_recorded hconditions

end SqlAssembler
