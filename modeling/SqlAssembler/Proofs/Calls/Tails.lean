import SqlAssembler.Proofs.Calls.Levels
import SqlAssembler.Proofs.Influence.Calls
import SqlAssembler.SettingsFile

/-!
# Calls and what follows them

A value that is embedded starts with the call of an allowed function. The
checker does not ask for its end there: what follows the call is embedded too,
as long as it is closed in itself. A value is one call if nothing follows, and
then nothing but the call stands on its level.
-/

namespace SqlAssembler
namespace FunctionNames

open Place

def afterCall? (value : String) : Option String :=
  match value.toList.dropWhile (· ≠ '(') with
  | [] => none
  | _ :: inner => (start.afterClosing? inner).map String.ofList

/-- The parenthesis that closes the first one is the last character. -/
def IsOneCall (value : String) : Prop :=
  afterCall? value = some ""

instance : DecidablePred IsOneCall := fun value =>
  inferInstanceAs (Decidable (afterCall? value = some ""))

def levelText (text : String) : String :=
  String.ofList (start.level text.toList)

def UpperCase (name : String) : Prop :=
  ∀ c ∈ name.toList, (c = '_' || c.isUpper || c.isDigit) = true

/-!
## Names
-/

variable {functions : FunctionNames} {name value tail : String}
  {inner : List Char}

theorem upperCase_of_isFunctionName
    (h : SettingsFile.isFunctionName name = true) : UpperCase name := by
  rw [SettingsFile.isFunctionName, Bool.and_eq_true] at h
  exact List.all_eq_true.mp h.2

theorem next?_start_of_upperCase {c : Char}
    (h : (c = '_' || c.isUpper || c.isDigit) = true) :
    start.next? c = some start ∧ c ≠ '(' := by
  have hclass : ['(', ')', '\'', '"', Text.backtick].all (fun d =>
      !(d = '_' || d.isUpper || d.isDigit)) = true := by decide
  have hne : ∀ d ∈ ['(', ')', '\'', '"', Text.backtick], c ≠ d := by
    rintro d hd rfl
    have hnot := List.all_eq_true.mp hclass c hd
    rw [h] at hnot
    cases hnot
  simp only [List.forall_mem_cons] at hne
  rcases hne with ⟨hopen, hclose, hsingle, hdouble, hbacktick, _⟩
  refine ⟨?_, hopen⟩
  simp [next?, start, Statement.nextDepth?, Text.Quoting.step, Text.isQuote,
    hopen, hclose, hsingle, hdouble, hbacktick]

theorem UpperCase.read?_level (h : UpperCase name) :
    start.read? name.toList = some start ∧
      start.level name.toList = name.toList := by
  rw [UpperCase] at h
  generalize name.toList = cs at h
  induction cs with
  | nil => exact ⟨rfl, rfl⟩
  | cons c cs ih =>
      have hnext := (next?_start_of_upperCase (h c List.mem_cons_self)).1
      rcases ih fun d hd => h d (List.mem_cons_of_mem c hd) with
        ⟨hread, hlevel⟩
      refine ⟨?_, ?_⟩
      · rw [read?, List.foldlM_cons, hnext]
        exact hread
      · rw [level_start_cons hnext, hlevel]

/-!
## Names with a parenthesis
-/

theorem next?_start_opening : start.next? '(' = some (start.raised 1) := by
  decide

theorem UpperCase.afterCall? (h : UpperCase name)
    (hvalue : value.toList = name.toList ++ '(' :: inner) :
    afterCall? value = (start.afterClosing? inner).map String.ofList := by
  have hdrop : value.toList.dropWhile (· ≠ '(') = '(' :: inner := by
    rw [hvalue, List.dropWhile_append_of_pos]
    · rfl
    · intro c hc
      simpa using (next?_start_of_upperCase (h c hc)).2
  rw [FunctionNames.afterCall?, hdrop]

theorem UpperCase.level (h : UpperCase name)
    (hvalue : value.toList = name.toList ++ '(' :: inner) :
    start.level value.toList =
      name.toList ++ '(' :: (start.raised 1).level inner := by
  rcases h.read?_level with ⟨hread, hlevel⟩
  rw [hvalue, level_append hread, hlevel, level_start_cons next?_start_opening]

theorem UpperCase.scanCall_inner (h : UpperCase name)
    (hvalue : value.toList = name.toList ++ '(' :: inner)
    (hcheck : callFault? value = none) : scanCall .outside 1 inner = none := by
  have hscan :
      scanCall start.quoting start.depth (name.toList ++ '(' :: inner) =
        none := by
    rw [← hvalue]
    exact hcheck
  rcases scanCall_append hscan with ⟨next, hnext, hrest⟩
  rw [h.read?_level.1] at hnext
  cases hnext
  rcases next?_of_scanCall hrest with ⟨after, hafter, hinner⟩
  rw [next?_start_opening] at hafter
  cases hafter
  exact hinner

/-!
## Embedded values
-/

structure Splits (functions : FunctionNames) (value name tail : String) :
    Prop where
  allowed : name ∈ functions.names
  call : ∃ inner, value = name ++ "(" ++ inner ++ ")" ++ tail
  after : afterCall? value = some tail
  closed : callFault? tail = none
  level : levelText value = name ++ "()" ++ levelText tail

theorem startsCall_of_embeds (h : functions.embeds value = .ok true) :
    functions.StartsCall value := by
  by_contra hnot
  rw [embeds_of_not_startsCall hnot] at h
  cases h

theorem exists_splits_of_embeds
    (hnames : ∀ name ∈ functions.names,
      SettingsFile.isFunctionName name = true)
    (h : functions.embeds value = .ok true) :
    ∃ name tail, functions.Splits value name tail := by
  rcases startsCall_of_embeds h with ⟨name, hname, _, inner, hstarts⟩
  have hupper := upperCase_of_isFunctionName (hnames name hname)
  have hvalue : value.toList = name.toList ++ '(' :: inner := by
    rw [← hstarts, String.toList_append, List.append_assoc]
    rfl
  have hinner : scanCall start.quoting (start.depth + (0 + 1)) inner = none :=
    hupper.scanCall_inner hvalue (callFault?_of_embeds h)
  rcases afterClosing?_of_scanCall hinner with ⟨tail, htail, hclosed⟩
  rcases exists_of_afterClosing? htail with ⟨args, hargs⟩
  refine ⟨name, String.ofList tail, hname, ⟨String.ofList args, ?_⟩, ?_, ?_, ?_⟩
  · apply String.toList_inj.mp
    rw [hvalue, hargs]
    simp
  · rw [hupper.afterCall? hvalue, htail]
    rfl
  · rw [callFault?, String.toList_ofList]
    exact hclosed
  · apply String.toList_inj.mp
    rw [levelText, hupper.level hvalue, level_of_afterClosing? htail]
    simp [levelText]

theorem levelText_eq_empty_iff (h : callFault? tail = none) :
    levelText tail = "" ↔ tail = "" := by
  rw [levelText, String.ofList_eq_empty_iff, ← String.toList_eq_nil_iff]
  cases htail : tail.toList with
  | nil => simp [level]
  | cons c cs =>
      have hscan : scanCall start.quoting start.depth (c :: cs) = none := by
        rw [← htail]
        exact h
      rcases next?_of_scanCall hscan with ⟨next, hnext, _⟩
      simp [level_start_cons hnext]

theorem Splits.isOneCall_iff (h : functions.Splits value name tail) :
    IsOneCall value ↔ tail = "" := by
  rw [IsOneCall, h.after, Option.some.injEq]

theorem Splits.isOneCall_iff_level (h : functions.Splits value name tail) :
    IsOneCall value ↔ levelText value = name ++ "()" := by
  rw [h.isOneCall_iff, ← levelText_eq_empty_iff h.closed, h.level]
  constructor
  · intro hempty
    rw [hempty, String.append_empty]
  · intro hsame
    exact String.append_eq_left_iff.mp hsame

end FunctionNames
end SqlAssembler
