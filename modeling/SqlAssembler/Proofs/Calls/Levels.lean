import SqlAssembler.Proofs.Containment.Calls

/-!
# Levels of parentheses

The call checker follows the quotes of a text and counts its open parentheses.
A reader that does the same can tell where the parenthesis is that closes the
first one of a call, and which characters stand on the level on which the text
began. Whatever a text adds to a statement besides expressions in parentheses,
it adds on its own level.
-/

namespace SqlAssembler
namespace FunctionNames

open Text

/-- Where the reader stands: in which quotes, and in how many parentheses. -/
structure Place where
  quoting : Quoting
  depth : Nat
  deriving DecidableEq, Repr

namespace Place

def start : Place :=
  ⟨.outside, 0⟩

def raised (place : Place) (more : Nat) : Place :=
  ⟨place.quoting, place.depth + more⟩

def next? (place : Place) (c : Char) : Option Place :=
  let quoting := place.quoting.step (fun _ => true) c
  if place.quoting = .outside then
    (Statement.nextDepth? place.depth c).map fun depth => ⟨quoting, depth⟩
  else some ⟨quoting, place.depth⟩

def read? (place : Place) (cs : List Char) : Option Place :=
  cs.foldlM next? place

/-- The characters outside quotes on the level on which the text begins, with
the parentheses that lead to other levels. -/
def level : Place → List Char → List Char
  | _, [] => []
  | place, c :: cs =>
      match place.next? c with
      | none => []
      | some next =>
          if place.quoting = .outside ∧ (place.depth = 0 ∨ next.depth = 0) then
            c :: next.level cs
          else next.level cs

def afterClosing? : Place → List Char → Option (List Char)
  | _, [] => none
  | place, c :: cs =>
      match place.next? c with
      | none => some cs
      | some next => next.afterClosing? cs

/-!
## One character
-/

variable {place next : Place} {c : Char} {cs tail : List Char}

theorem next?_of_scanCall
    (h : scanCall place.quoting place.depth (c :: cs) = none) :
    ∃ next, place.next? c = some next ∧
      scanCall next.quoting next.depth cs = none := by
  rcases place with ⟨quoting, depth⟩
  cases quoting with
  | outside =>
      rcases Statement.scanCall_outside_cases h with
        ⟨_, _, after, hafter, hrest⟩
      refine ⟨⟨Quoting.step (fun _ => true) .outside c, after⟩, ?_, hrest⟩
      rw [next?, if_pos rfl, hafter]
      rfl
  | inside quote => exact ⟨_, rfl, by rw [scanCall] at h <;> simp_all⟩
  | escaped quote => exact ⟨_, rfl, by rw [scanCall] at h <;> simp_all⟩

theorem next?_raised (more : Nat) (h : place.next? c = some next) :
    (place.raised more).next? c = some (next.raised more) := by
  by_cases houtside : place.quoting = .outside
  · rw [next?, if_pos houtside, Option.map_eq_some_iff] at h
    rcases h with ⟨depth, hdepth, rfl⟩
    rw [next?, raised, if_pos houtside, Statement.nextDepth?_add more hdepth]
    rfl
  · rw [next?, if_neg houtside] at h
    cases h
    rw [next?, raised, if_neg houtside]
    rfl

theorem next?_eq_none (h : place.next? c = none) :
    place = start ∧ c = ')' := by
  by_cases houtside : place.quoting = .outside
  · rw [next?, if_pos houtside, Option.map_eq_none_iff] at h
    have hclose : place.depth = 0 ∧ c = ')' := by
      grind [Statement.nextDepth?]
    rcases place with ⟨quoting, depth⟩
    exact ⟨by rw [start, ← hclose.1, ← houtside], hclose.2⟩
  · rw [next?, if_neg houtside] at h
    cases h

theorem next?_raised_closing (more : Nat) :
    (start.raised (more + 1)).next? ')' = some (start.raised more) := by
  simp [next?, raised, start, Statement.nextDepth?, Quoting.step, isQuote,
    backtick]

/-!
## Whole texts
-/

theorem read?_append {left right : List Char} :
    place.read? (left ++ right) =
      (place.read? left).bind fun next => next.read? right :=
  List.foldlM_append

theorem scanCall_append {left right : List Char}
    (h : scanCall place.quoting place.depth (left ++ right) = none) :
    ∃ next, place.read? left = some next ∧
      scanCall next.quoting next.depth right = none := by
  induction left generalizing place with
  | nil => exact ⟨place, rfl, h⟩
  | cons c cs ih =>
      rcases next?_of_scanCall h with ⟨next, hnext, hrest⟩
      rcases ih hrest with ⟨last, hlast, hright⟩
      refine ⟨last, ?_, hright⟩
      rw [read?, List.foldlM_cons, hnext]
      exact hlast

/-- What the checker accepts, the reader reads to its end on the level on which
it began. -/
theorem read?_of_scanCall (h : scanCall place.quoting place.depth cs = none) :
    place.read? cs = some start := by
  rw [← List.append_nil cs] at h
  rcases scanCall_append h with ⟨⟨quoting, depth⟩, hread, hend⟩
  rw [hread]
  cases quoting with
  | outside =>
      have hdepth : depth = 0 := by
        by_cases hdepth : depth = 0
        · exact hdepth
        · simp [scanCall, hdepth] at hend
      rw [hdepth, start]
  | inside quote => simp [scanCall] at hend
  | escaped quote => simp [scanCall] at hend

theorem level_start_cons (h : start.next? c = some next) :
    start.level (c :: cs) = c :: next.level cs := by
  rw [level, h]
  exact if_pos ⟨rfl, .inl rfl⟩

theorem level_append {left right : List Char}
    (h : place.read? left = some next) :
    place.level (left ++ right) = place.level left ++ next.level right := by
  induction left generalizing place with
  | nil =>
      cases h
      rfl
  | cons c cs ih =>
      rw [read?, List.foldlM_cons] at h
      rcases Option.bind_eq_some_iff.mp h with ⟨after, hafter, hrest⟩
      simp only [List.cons_append, level, hafter, ih hrest]
      split <;> rfl

/-!
## Closing parentheses
-/

theorem exists_of_afterClosing? (h : place.afterClosing? cs = some tail) :
    ∃ inner, cs = inner ++ ')' :: tail := by
  induction cs generalizing place with
  | nil => cases h
  | cons c cs ih =>
      rw [afterClosing?] at h
      split at h
      · rename_i hnone
        cases h
        exact ⟨[], by rw [(next?_eq_none hnone).2, List.nil_append]⟩
      · rcases ih h with ⟨inner, rfl⟩
        exact ⟨c :: inner, rfl⟩

theorem afterClosing?_of_scanCall {more : Nat}
    (h : scanCall place.quoting (place.depth + (more + 1)) cs = none) :
    ∃ tail, place.afterClosing? cs = some tail ∧
      scanCall .outside more tail = none := by
  induction cs generalizing place with
  | nil =>
      rcases place with ⟨quoting, depth⟩
      cases quoting <;> simp [scanCall] at h
  | cons c cs ih =>
      have hraised : scanCall (place.raised (more + 1)).quoting
          (place.raised (more + 1)).depth (c :: cs) = none := h
      rcases next?_of_scanCall hraised with ⟨after, hafter, hrest⟩
      cases hnext : place.next? c with
      | none =>
          rcases next?_eq_none hnext with ⟨rfl, rfl⟩
          rw [next?_raised_closing] at hafter
          cases hafter
          refine ⟨cs, by rw [afterClosing?, hnext], ?_⟩
          simpa [raised, start] using hrest
      | some next =>
          rw [next?_raised _ hnext] at hafter
          cases hafter
          have hbelow : scanCall next.quoting (next.depth + (more + 1)) cs =
              none := hrest
          rcases ih hbelow with ⟨tail, htail, hclosed⟩
          exact ⟨tail, by rw [afterClosing?, hnext]; exact htail, hclosed⟩

theorem level_of_afterClosing? (h : place.afterClosing? cs = some tail) :
    (place.raised 1).level cs = ')' :: start.level tail := by
  induction cs generalizing place with
  | nil => cases h
  | cons c cs ih =>
      rw [afterClosing?] at h
      split at h
      · rename_i hnone
        cases h
        rcases next?_eq_none hnone with ⟨rfl, rfl⟩
        rw [level, next?_raised_closing]
        simp [raised, start]
      · rename_i next hnext
        rw [level, next?_raised 1 hnext]
        simp only [raised, Nat.add_one_ne_zero, or_false, and_false, if_false]
        exact ih h

end Place
end FunctionNames
end SqlAssembler
