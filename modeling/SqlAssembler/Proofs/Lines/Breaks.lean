import Mathlib
import SqlAssembler.Proofs.Grammar.Spelling

/-!
# Lines and line breaks

A text is made of lines if each of them, with a line break behind it, stands in
it in turn. Which lines these are shows in the text, as no line holds a break.
-/

namespace SqlAssembler
namespace Text

def Breaks (text : String) : Prop :=
  '\n' ∈ text.toList

instance (text : String) : Decidable (Breaks text) :=
  inferInstanceAs (Decidable ('\n' ∈ text.toList))

def AnyBreaks (texts : List String) : Prop :=
  ∃ text ∈ texts, Breaks text

instance (texts : List String) : Decidable (AnyBreaks texts) :=
  inferInstanceAs (Decidable (∃ text ∈ texts, Breaks text))

def firstLine (text : String) : String :=
  String.ofList (text.toList.takeWhile (· ≠ '\n'))

structure IsLines (text : String) (lines : List String) : Prop where
  unbroken : ¬ AnyBreaks lines
  joined : text = String.join (lines.map (· ++ "\n"))

/-!
## Texts put together
-/

@[simp]
theorem breaks_ofList (cs : List Char) :
    Breaks (String.ofList cs) ↔ '\n' ∈ cs := by
  rw [Breaks, String.toList_ofList]

@[simp]
theorem breaks_append (left right : String) :
    Breaks (left ++ right) ↔ Breaks left ∨ Breaks right := by
  rw [Breaks, String.toList_append, List.mem_append]
  rfl

@[simp]
theorem anyBreaks_nil : ¬ AnyBreaks [] := by
  simp [AnyBreaks]

@[simp]
theorem anyBreaks_cons (text : String) (rest : List String) :
    AnyBreaks (text :: rest) ↔ Breaks text ∨ AnyBreaks rest := by
  simp [AnyBreaks]

@[simp]
theorem anyBreaks_append (texts others : List String) :
    AnyBreaks (texts ++ others) ↔ AnyBreaks texts ∨ AnyBreaks others := by
  simp [AnyBreaks, or_and_right, exists_or]

theorem anyBreaks_map {α : Type} (items : List α) (text : α → String) :
    AnyBreaks (items.map text) ↔ ∃ item ∈ items, Breaks (text item) := by
  simp [AnyBreaks]

theorem anyBreaks_flatMap {α : Type} (items : List α)
    (texts : α → List String) :
    AnyBreaks (items.flatMap texts) ↔
      ∃ item ∈ items, AnyBreaks (texts item) := by
  simp only [AnyBreaks, List.mem_flatMap]
  constructor
  · rintro ⟨text, ⟨item, hitem, htext⟩, hbreaks⟩
    exact ⟨item, hitem, text, htext, hbreaks⟩
  · rintro ⟨item, hitem, text, htext, hbreaks⟩
    exact ⟨text, ⟨item, hitem, htext⟩, hbreaks⟩

@[simp]
theorem breaks_join (texts : List String) :
    Breaks (String.join texts) ↔ AnyBreaks texts := by
  rw [Breaks, String.toList_join, List.mem_flatMap]
  rfl

theorem breaks_intercalate {separator : String} (h : ¬ Breaks separator)
    (texts : List String) :
    Breaks (separator.intercalate texts) ↔ AnyBreaks texts := by
  induction texts with
  | nil => simp [Breaks]
  | cons text rest ih =>
      by_cases hempty : rest = []
      · rw [hempty, String.intercalate_singleton]
        simp
      · rw [String.intercalate_cons_of_ne_nil hempty, anyBreaks_cons, ← ih]
        simp [h]

theorem anyBreaks_map_iff_flatMap {α : Type} {items : List α}
    {text : α → String} {texts : α → List String}
    (h : ∀ item ∈ items, Breaks (text item) ↔ AnyBreaks (texts item)) :
    AnyBreaks (items.map text) ↔ AnyBreaks (items.flatMap texts) := by
  rw [anyBreaks_map, anyBreaks_flatMap]
  constructor
  · rintro ⟨item, hitem, hbreaks⟩
    exact ⟨item, hitem, (h item hitem).mp hbreaks⟩
  · rintro ⟨item, hitem, hbreaks⟩
    exact ⟨item, hitem, (h item hitem).mpr hbreaks⟩

theorem not_breaks_of_class {p : Char → Bool} {text : String}
    (hp : p '\n' = false) (h : ∀ c ∈ text.toList, p c = true) :
    ¬ Breaks text := by
  intro hbreaks
  rw [h '\n' hbreaks] at hp
  cases hp

theorem breaks_enclosed {quote : Char} (h : quote ≠ '\n') (text : String) :
    Breaks (enclosed quote text) ↔ Breaks text := by
  rw [enclosed, breaks_ofList, List.mem_cons, List.mem_append,
    List.mem_singleton, Ident.mem_doubled]
  simp [Breaks, h.symm]

/-!
## Reading lines
-/

theorem firstLine_of_not_breaks {line : String} (h : ¬ Breaks line)
    (rest : String) : firstLine (line ++ "\n" ++ rest) = line := by
  have hline : ∀ c ∈ line.toList, decide (c ≠ '\n') = true := by
    intro c hc
    refine decide_eq_true fun hbreak => h ?_
    rw [Breaks, ← hbreak]
    exact hc
  rw [firstLine, String.toList_append, String.toList_append,
    List.append_assoc, List.takeWhile_append_of_pos hline]
  simp

theorem not_breaks_firstLine (text : String) : ¬ Breaks (firstLine text) := by
  rw [firstLine, breaks_ofList]
  intro hmem
  simpa using List.mem_takeWhile_imp hmem

theorem firstLine_eq_iff (line rest : String) :
    firstLine (line ++ "\n" ++ rest) = line ↔ ¬ Breaks line := by
  constructor
  · intro h
    rw [← h]
    exact not_breaks_firstLine _
  · exact fun h => firstLine_of_not_breaks h rest

end Text
end SqlAssembler
