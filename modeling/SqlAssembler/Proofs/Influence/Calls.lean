import SqlAssembler.Proofs.Influence.Alike
import SqlAssembler.Proofs.Scripts.Basic

/-!
# Calls that differ in values

A value that starts with the call of an allowed function may be embedded instead
of being bound. For all others nothing but their shape matters: whether a
compared text is empty, how many elements a list has, and which word a test for
null is given. Calls that differ in such values only do alike things to alike
parts.
-/

namespace SqlAssembler

/-!
## Values of filters
-/

def FunctionNames.StartsCall (functions : FunctionNames) (value : String) :
    Prop :=
  ∃ name ∈ functions.names, name ≠ "" ∧ (name ++ "(").toList <+: value.toList

def Operator.SameShape : Operator → String → String → Prop
  | comparison _, value, other => value ≠ "" ∧ other ≠ ""
  | pattern _, _, _ => True
  | membership _, value, other =>
      value.toList.count ',' = other.toList.count ','
  | nullness _, value, other => value = other

theorem FunctionNames.embeds_of_not_startsCall {functions : FunctionNames}
    {value : String} (h : ¬ functions.StartsCall value) :
    functions.embeds value = .ok false := by
  unfold embeds
  split
  · rename_i hcall
    exfalso
    apply h
    unfold isCall at hcall
    simp only [Bool.and_eq_true, List.contains_iff_mem] at hcall
    rcases hcall with ⟨⟨hopens, hname⟩, hallowed⟩
    rcases List.eq_append_cons_of_mem hopens with ⟨name, rest, hsplit, hbefore⟩
    have htake : value.toList.takeWhile (· ≠ '(') = name := by
      rw [hsplit, List.takeWhile_append_of_pos]
      · simp
      · intro c hc
        simp only [decide_eq_true_eq]
        rintro rfl
        exact hbefore hc
    rw [htake] at hname hallowed
    refine ⟨String.ofList name, ?_, ?_, rest, ?_⟩
    · simpa [contains] using hallowed
    · intro hempty
      rw [String.ofList_eq_empty_iff.mp hempty] at hname
      cases hname
    · rw [hsplit]
      simp
  · rfl

namespace Filter

theorem length_splitCommas (cs : List Char) :
    (splitCommas cs).length = cs.count ',' + 1 := by
  induction cs with
  | nil => rfl
  | cons c cs ih =>
      unfold splitCommas
      by_cases hc : c = ','
      · rw [if_pos hc, List.length_cons, ih, hc, List.count_cons_self]
      · rw [if_neg hc, List.count_cons_of_ne hc]
        split
        · rename_i hnil
          rw [hnil] at ih
          cases ih
        · rename_i first others hcons
          rw [hcons] at ih
          exact ih

theorem alike_slots {params others : List Param}
    (h : params.length = others.length) :
    Fragment.Alike (slots params) (slots others) := by
  unfold slots
  apply Fragment.Alike.separated
  rw [List.forall₂_map_left_iff, List.forall₂_map_right_iff]
  apply List.forall₂_of_length_eq_of_get h
  intro i hi hi'
  exact Fragment.alike_slot _ _

theorem alike_condition {functions : FunctionNames} {operator : Operator}
    {value other : String} (hvalue : ¬ functions.StartsCall value)
    (hother : ¬ functions.StartsCall other)
    (hshape : operator.SameShape value other) (column : String) :
    Agree Fragment.Alike (condition functions column operator value)
      (condition functions column operator other) := by
  unfold condition
  rw [FunctionNames.embeds_of_not_startsCall hvalue,
    FunctionNames.embeds_of_not_startsCall hother]
  cases operator with
  | comparison kind =>
      rcases hshape with ⟨hne, hne'⟩
      have hbound : ∀ text : String, text ≠ "" →
          comparison column text kind false =
            [.text (column ++ " " ++ kind.sql ++ " "), .slot (.text text)] := by
        intro text htext
        simp [comparison, htext]
      apply Agree.ok
      rw [hbound value hne, hbound other hne']
      exact (Fragment.alike_slot _ _).cons_text _
  | pattern shape => exact .ok ((Fragment.alike_slot _ _).cons_text _)
  | membership negated =>
      have hlength : (elements value).length = (elements other).length := by
        have hcommas : value.toList.count ',' = other.toList.count ',' := hshape
        simp [elements, length_splitCommas, hcommas]
      have hslots := alike_slots hlength
      exact .ok ((hslots.cons_text _).append (.refl _))
  | nullness negated =>
      have hsame : value = other := hshape
      rw [hsame]
      dsimp only
      split
      · exact .ok (.refl _)
      · exact .error _

end Filter

/-!
## Calls that differ in values
-/

/-- The same call, or one that compares the same column with another value that
is bound as well. -/
inductive FilterCall.Varies (functions : FunctionNames) :
    FilterCall → FilterCall → Prop where
  | same (call : FilterCall) : Varies functions call call
  | filter (connector : Connector) (column token : String)
      {value other : String} (hvalue : ¬ functions.StartsCall value)
      (hother : ¬ functions.StartsCall other)
      (hshape : ∀ operator, Operator.parse token = .ok operator →
        operator.SameShape value other) :
      Varies functions (.filter connector column token value)
        (.filter connector column token other)
  | filterBy (column : String) (operator : Operator)
      {value other : String} (hvalue : ¬ functions.StartsCall value)
      (hother : ¬ functions.StartsCall other)
      (hshape : operator.SameShape value other) :
      Varies functions (.filterBy column operator value)
        (.filterBy column operator other)

inductive AssignCall.Varies : AssignCall → AssignCall → Prop where
  | same (call : AssignCall) : Varies call call
  | set (column : String) (value other : Param) :
      Varies (.set column value) (.set column other)
  | setOptional (column : String) (value other : Param) :
      Varies (.setOptional column (some value))
        (.setOptional column (some other))

inductive SelectCall.Varies (functions : FunctionNames) :
    SelectCall → SelectCall → Prop where
  | same (call : SelectCall) : Varies functions call call
  | filter {call other : FilterCall} (h : call.Varies functions other) :
      Varies functions (.filter call) (.filter other)

inductive UpdateCall.Varies (functions : FunctionNames) :
    UpdateCall → UpdateCall → Prop where
  | assign {call other : AssignCall} (h : call.Varies other) :
      Varies functions (.assign call) (.assign other)
  | filter {call other : FilterCall} (h : call.Varies functions other) :
      Varies functions (.filter call) (.filter other)

inductive DeleteCall.Varies (functions : FunctionNames) :
    DeleteCall → DeleteCall → Prop where
  | allowAllRows (allow : Bool) :
      Varies functions (.allowAllRows allow) (.allowAllRows allow)
  | filter {call other : FilterCall} (h : call.Varies functions other) :
      Varies functions (.filter call) (.filter other)

/-!
## One call
-/

variable {settings : Settings}

namespace FilterCall

theorem alike_addFilter {conditions others : Conditions} {operator : Operator}
    {value other : String} (h : conditions.Alike others)
    (hvalues : ∀ column,
      Agree Fragment.Alike
        (Filter.condition settings.functions column operator value)
        (Filter.condition settings.functions column operator other))
    (table : Option Ident) (connector : Connector) (column : String) :
    Agree Conditions.Alike
      (addFilter settings table conditions connector column operator value)
      (addFilter settings table others connector column operator other) := by
  unfold addFilter
  apply Agree.bind_same
  intro parsed _
  apply (hvalues parsed.sql).bind
  intro fragment fragment' hfragment
  exact .ok (h.add connector hfragment)

theorem alike_apply {conditions others : Conditions} {call other : FilterCall}
    (hcall : call.Varies settings.functions other)
    (h : conditions.Alike others) (table : Option Ident) :
    Agree Conditions.Alike (call.apply settings table conditions)
      (other.apply settings table others) := by
  have hsame : ∀ column operator value,
      Agree Fragment.Alike
        (Filter.condition settings.functions column operator value)
        (Filter.condition settings.functions column operator value) := by
    intro column operator value
    exact .same Fragment.Alike.refl _
  cases hcall with
  | same =>
      cases call with
      | filter connector column token value =>
          apply Agree.bind_same
          intro operator _
          exact alike_addFilter h (fun _ => hsame _ operator value) _ _ _
      | filterBy column operator value =>
          exact alike_addFilter h (fun _ => hsame _ operator value) _ _ _
      | openGroup connector => exact .ok (h.openGroup connector)
      | closeGroup => exact h.closeGroup
  | filter connector column token hvalue hother hshape =>
      apply Agree.bind_same
      intro operator hoperator
      apply alike_addFilter h
      exact Filter.alike_condition hvalue hother (hshape operator hoperator)
  | filterBy column operator hvalue hother hshape =>
      apply alike_addFilter h
      exact Filter.alike_condition hvalue hother hshape

end FilterCall

namespace AssignCall

theorem alike_assign {assignments others : List Assignment}
    {value other : AssignedValue}
    (h : List.Forall₂ Assignment.Alike assignments others)
    (hvalue : value.Alike other) (column : String) :
    Agree (List.Forall₂ Assignment.Alike) (assign assignments column value)
      (assign others column other) := by
  apply Agree.map_same
  intro parsed
  exact List.rel_append h (.cons ⟨rfl, hvalue⟩ .nil)

theorem alike_apply {assignments others : List Assignment}
    {call other : AssignCall} (hcall : call.Varies other)
    (h : List.Forall₂ Assignment.Alike assignments others) :
    Agree (List.Forall₂ Assignment.Alike) (call.apply settings assignments)
      (other.apply settings others) := by
  cases hcall with
  | same =>
      cases call with
      | set column value => exact alike_assign h (.bound value value) column
      | setOptional column value =>
          cases value with
          | none => exact .ok h
          | some value => exact alike_assign h (.bound value value) column
      | setFunction column call =>
          rw [apply, apply]
          split
          · exact .error _
          · exact .error _
          · exact alike_assign h (.call call) column
  | set column value other => exact alike_assign h (.bound value other) column
  | setOptional column value other =>
      exact alike_assign h (.bound value other) column

end AssignCall

end SqlAssembler
