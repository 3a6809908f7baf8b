import Mathlib
import SqlAssembler.Operator

/-!
# Matching with LIKE

A pattern is read from the left. In it `%` stands for any text, `_` for any one
character, and a backslash takes the meaning from the character after it. All
other characters stand for themselves, and so does a backslash that nothing
follows. A pattern matches a text if its signs, one after the other, stand for
the whole of it.
-/

namespace SqlAssembler
namespace Like

inductive Sign where
  | anyText
  | anyChar
  | exactly (c : Char)
  deriving DecidableEq, Repr

def sign (c : Char) : Sign :=
  if c = '%' then .anyText
  else if c = '_' then .anyChar
  else .exactly c

def signs : List Char → List Sign
  | [] => []
  | [c] => [sign c]
  | c :: d :: cs =>
      if c = '\\' then .exactly d :: signs cs else sign c :: signs (d :: cs)

def covers : List Sign → List Char → Bool
  | [], text => text.isEmpty
  | .anyText :: rest, text => text.tails.any (covers rest)
  | .anyChar :: rest, _ :: text => covers rest text
  | .exactly d :: rest, c :: text => c = d && covers rest text
  | _ :: _, [] => false

def fits (pattern text : String) : Bool :=
  covers (signs pattern.toList) text.toList

def isSpecial (c : Char) : Bool :=
  c = '%' || c = '_' || c = '\\'

theorem sign_of_not_special {c : Char} (h : isSpecial c = false) :
    sign c = .exactly c := by
  have hne : (c ≠ '%' ∧ c ≠ '_') ∧ c ≠ '\\' := by simpa [isSpecial] using h
  rw [sign, if_neg hne.1.1, if_neg hne.1.2]

theorem signs_cons {c : Char} (h : c ≠ '\\') (cs : List Char) :
    signs (c :: cs) = sign c :: signs cs := by
  cases cs with
  | nil => rfl
  | cons d cs => rw [signs, if_neg h]

theorem signs_append {cs : List Char} (h : ∀ c ∈ cs, isSpecial c = false)
    (rest : List Char) :
    signs (cs ++ rest) = cs.map .exactly ++ signs rest := by
  induction cs with
  | nil => rfl
  | cons c cs ih =>
      have hc := h c List.mem_cons_self
      have hbackslash : c ≠ '\\' := by
        rintro rfl
        cases hc
      have hcs := ih fun d hd => h d (List.mem_cons_of_mem c hd)
      rw [List.cons_append, signs_cons hbackslash, sign_of_not_special hc, hcs]
      rfl

/-!
## What signs cover
-/

theorem covers_anyText_iff {rest : List Sign} {text : List Char} :
    covers (.anyText :: rest) text = true ↔
      ∃ ending, ending <:+ text ∧ covers rest ending = true := by
  simp [covers, List.any_eq_true]

theorem covers_single_anyText (text : List Char) :
    covers [.anyText] text = true :=
  covers_anyText_iff.mpr ⟨[], List.nil_suffix, rfl⟩

theorem covers_exactly_iff {cs text : List Char} {rest : List Sign} :
    covers (cs.map .exactly ++ rest) text = true ↔
      ∃ ending, text = cs ++ ending ∧ covers rest ending = true := by
  induction cs generalizing text with
  | nil => simp
  | cons c cs ih =>
      cases text with
      | nil => simp [covers]
      | cons d text => simp [covers, ih, and_assoc]

theorem covers_exactly {cs text : List Char} :
    covers (cs.map .exactly) text = true ↔ text = cs := by
  have h : covers (cs.map .exactly ++ []) text = true ↔
      ∃ ending, text = cs ++ ending ∧ covers [] ending = true :=
    covers_exactly_iff
  simpa [covers] using h

/-!
## The shortest covered text
-/

def Sign.shortest : Sign → List Char
  | anyText => []
  | anyChar => ['x']
  | exactly c => [c]

def shortest (pattern : List Sign) : List Char :=
  pattern.flatMap Sign.shortest

theorem covers_shortest (pattern : List Sign) :
    covers pattern (shortest pattern) = true := by
  induction pattern with
  | nil => rfl
  | cons sign rest ih =>
      cases sign with
      | anyText =>
          exact covers_anyText_iff.mpr ⟨shortest rest, List.suffix_refl _, ih⟩
      | anyChar => exact ih
      | exactly c => simpa [shortest, Sign.shortest, covers] using ih

theorem length_shortest_sign (c : Char) : (sign c).shortest.length ≤ 1 := by
  rw [sign]
  split
  · exact Nat.zero_le 1
  · split <;> exact Nat.le_refl 1

theorem sign_of_shortest {c : Char} (h : (sign c).shortest = [c]) :
    c ≠ '%' ∧ c ≠ '_' := by
  constructor
  · rintro rfl
    exact absurd h (by decide)
  · rintro rfl
    exact absurd h (by decide)

variable {value tail : List Char}

theorem length_shortest_le (htail : tail = [] ∨ tail = ['%']) :
    (shortest (signs (value ++ tail))).length ≤ value.length := by
  induction value using signs.induct with
  | case1 => rcases htail with rfl | rfl <;> decide
  | case2 c =>
      have hone := length_shortest_sign c
      rcases htail with rfl | rfl
      · simpa [signs, shortest] using hone
      · by_cases hc : c = '\\'
        · subst hc
          decide
        · have hend : (sign '%').shortest = [] := rfl
          simpa [signs, hc, shortest, hend] using hone
  | case3 d cs ih =>
      simp only [List.cons_append, signs, if_true, shortest,
        List.flatMap_cons, List.length_append, List.length_cons]
      have hone : (Sign.exactly d).shortest.length = 1 := rfl
      rw [shortest] at ih
      omega
  | case4 c d cs hc ih =>
      have hone := length_shortest_sign c
      rw [List.cons_append, signs_cons hc]
      simp only [shortest, List.flatMap_cons, List.length_append,
        List.length_cons] at ih ⊢
      omega

theorem first_of_shortest {c : Char}
    (htail : tail = [] ∨ tail = ['%']) (hc : c ≠ '\\')
    (h : shortest (signs (c :: value ++ tail)) = c :: value) :
    isSpecial c = false ∧ shortest (signs (value ++ tail)) = value := by
  have hone := length_shortest_sign c
  have hrest : (shortest (signs (value ++ tail))).length ≤ value.length :=
    length_shortest_le htail
  rw [List.cons_append, signs_cons hc] at h
  have hsplit : (sign c).shortest ++ shortest (signs (value ++ tail)) =
      [c] ++ value := h
  have hlength := congrArg List.length hsplit
  simp only [List.length_append, List.length_singleton] at hlength
  have hboth := List.append_inj hsplit (by rw [List.length_singleton]; omega)
  refine ⟨?_, hboth.2⟩
  rcases sign_of_shortest hboth.1 with ⟨hpercent, hunderscore⟩
  simp [isSpecial, hpercent, hunderscore, hc]

/-- A value that is the shortest text of its own pattern holds nothing special,
except for a backslash that nothing follows. -/
theorem not_special_of_shortest (htail : tail = [] ∨ tail = ['%'])
    (h : shortest (signs (value ++ tail)) = value) :
    (∀ c ∈ value, isSpecial c = false) ∨
      tail = [] ∧ ∃ before, value = before ++ ['\\'] ∧
        ∀ c ∈ before, isSpecial c = false := by
  induction value with
  | nil => exact .inl (by simp)
  | cons c rest ih =>
      by_cases hc : c = '\\'
      · subst hc
        cases rest with
        | nil =>
            rcases htail with rfl | rfl
            · exact .inr ⟨rfl, [], rfl, by simp⟩
            · exact absurd h (by decide)
        | cons d cs =>
            -- the two characters stand for one, so the text is too short
            have hlength := congrArg List.length h
            have hcs : (shortest (signs (cs ++ tail))).length ≤ cs.length :=
              length_shortest_le htail
            have hone : (Sign.exactly d).shortest.length = 1 := rfl
            simp only [List.cons_append, signs, if_true, shortest,
              List.flatMap_cons, List.length_append, List.length_cons]
              at hlength
            rw [shortest] at hcs
            omega
      · rcases first_of_shortest htail hc h with ⟨hplain, hrest⟩
        rcases ih hrest with hall | ⟨hnil, before, hbefore, hall⟩
        · exact .inl (List.forall_mem_cons.mpr ⟨hplain, hall⟩)
        · refine .inr ⟨hnil, c :: before, by rw [hbefore]; rfl, ?_⟩
          exact List.forall_mem_cons.mpr ⟨hplain, hall⟩

end Like
end SqlAssembler
