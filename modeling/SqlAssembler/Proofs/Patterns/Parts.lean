import SqlAssembler.Filter
import SqlAssembler.Proofs.Patterns.Matching

/-!
# Patterns and the parts they name

A pattern filter is named for the part of a text where the value should stand:
the start, the end, or anywhere. It binds the value with a `%` wherever more
text may stand, and writes the characters of the value as they are. So the
characters that mean something to LIKE keep this meaning, and the pattern looks
for the value itself if and only if there are none of them. Only a backslash at
the very end of a pattern is harmless.
-/

namespace SqlAssembler

open Like

namespace PatternPart

/-- The value stands in the text where the part says, character for character.
-/
def Holds : PatternPart → (value text : String) → Prop
  | start, value, text => value.toList <+: text.toList
  | ending, value, text => value.toList <:+ text.toList
  | anywhere, value, text => value.toList <:+: text.toList

/-- Every character of the value stands for itself in the pattern. -/
def TakesLiterally (part : PatternPart) (value : String) : Prop :=
  (∀ c ∈ value.toList, isSpecial c = false) ∨
    part = .ending ∧ ∃ before, value.toList = before ++ ['\\'] ∧
      ∀ c ∈ before, isSpecial c = false

variable {value : String}

/-!
## Signs of a wrapped value
-/

theorem signs_wrap (part : PatternPart) (value : String) :
    signs (part.wrap value).toList =
      match part with
      | start => signs (value.toList ++ ['%'])
      | ending => .anyText :: signs value.toList
      | anywhere => .anyText :: signs (value.toList ++ ['%']) := by
  have hpercent : sign '%' = .anyText := rfl
  have htext : "%".toList = ['%'] := rfl
  cases part with
  | start => rw [wrap, String.toList_append, htext]
  | ending =>
      rw [wrap, String.toList_append, htext, List.singleton_append,
        signs_cons (by decide), hpercent]
  | anywhere =>
      rw [wrap, String.toList_append, String.toList_append, htext,
        List.append_assoc, List.singleton_append, signs_cons (by decide),
        hpercent]

/-!
## Values that are taken literally
-/

theorem signs_open_of_literal {part : PatternPart} (hpart : part ≠ ending)
    (h : part.TakesLiterally value) :
    signs (value.toList ++ ['%']) =
      value.toList.map .exactly ++ [.anyText] := by
  rcases h with hplain | ⟨hending, _⟩
  · exact signs_append hplain ['%']
  · exact absurd hending hpart

theorem signs_closed_of_literal (h : ending.TakesLiterally value) :
    signs value.toList = value.toList.map .exactly := by
  rcases h with hplain | ⟨_, before, hvalue, hplain⟩
  · simpa [signs] using signs_append hplain []
  · rw [hvalue, signs_append hplain, List.map_append]
    rfl

theorem fits_wrap_of_literal {part : PatternPart}
    (h : part.TakesLiterally value) (text : String) :
    fits (part.wrap value) text = true ↔ part.Holds value text := by
  rw [fits, signs_wrap]
  cases part with
  | start =>
      dsimp only
      rw [signs_open_of_literal (by decide) h, covers_exactly_iff]
      constructor
      · rintro ⟨more, hmore, _⟩
        exact ⟨more, hmore.symm⟩
      · rintro ⟨more, hmore⟩
        exact ⟨more, hmore.symm, covers_single_anyText more⟩
  | ending =>
      dsimp only
      rw [signs_closed_of_literal h, covers_anyText_iff]
      constructor
      · rintro ⟨rest, hrest, hcovers⟩
        rw [covers_exactly.mp hcovers] at hrest
        exact hrest
      · intro hends
        exact ⟨value.toList, hends, covers_exactly.mpr rfl⟩
  | anywhere =>
      dsimp only
      rw [signs_open_of_literal (by decide) h, covers_anyText_iff]
      constructor
      · rintro ⟨rest, hrest, hcovers⟩
        rcases covers_exactly_iff.mp hcovers with ⟨more, hmore, _⟩
        have hstarts : value.toList <+: rest := ⟨more, hmore.symm⟩
        exact hstarts.isInfix.trans hrest.isInfix
      · rintro ⟨before, more, hmore⟩
        refine ⟨value.toList ++ more, ⟨before, ?_⟩, ?_⟩
        · rw [← List.append_assoc]
          exact hmore
        · exact covers_exactly_iff.mpr
            ⟨more, rfl, covers_single_anyText more⟩

/-!
## Values that are not

The shortest text that a pattern fits is never longer than the value. Where the
pattern means what it is named for, this text holds the value, and so it is the
value.
-/

theorem eq_of_infix_shortest {value tail : List Char}
    (htail : tail = [] ∨ tail = ['%'])
    (h : value <:+: shortest (signs (value ++ tail))) :
    shortest (signs (value ++ tail)) = value :=
  (h.eq_of_length_le (length_shortest_le htail)).symm

theorem shortest_signs_wrap (part : PatternPart) (value : String) :
    shortest (signs (part.wrap value).toList) =
      shortest
        (signs (value.toList ++ if part = .ending then [] else ['%'])) := by
  rw [signs_wrap]
  cases part with
  | start => rfl
  | ending =>
      rw [if_pos rfl, List.append_nil]
      rfl
  | anywhere => rfl

theorem isInfix_of_holds {part : PatternPart} {text : String}
    (h : part.Holds value text) : value.toList <:+: text.toList := by
  cases part with
  | start => exact List.IsPrefix.isInfix h
  | ending => exact List.IsSuffix.isInfix h
  | anywhere => exact h

theorem takesLiterally_of_fits {part : PatternPart}
    (h : ∀ text, fits (part.wrap value) text = true → part.Holds value text) :
    part.TakesLiterally value := by
  have htail : (if part = .ending then [] else ['%']) = [] ∨
      (if part = .ending then [] else ['%']) = ['%'] := by
    split
    · exact .inl rfl
    · exact .inr rfl
  have hfits : fits (part.wrap value)
      (String.ofList (shortest (signs (part.wrap value).toList))) = true := by
    rw [fits, String.toList_ofList]
    exact covers_shortest _
  have hinfix := isInfix_of_holds (h _ hfits)
  rw [String.toList_ofList, shortest_signs_wrap] at hinfix
  have heq := eq_of_infix_shortest htail hinfix
  rcases not_special_of_shortest htail heq with hplain | ⟨hnil, hbefore⟩
  · exact .inl hplain
  · refine .inr ⟨?_, hbefore⟩
    by_contra hpart
    rw [if_neg hpart] at hnil
    cases hnil

theorem fits_wrap_iff (part : PatternPart) (value : String) :
    (∀ text, fits (part.wrap value) text = true ↔ part.Holds value text) ↔
      part.TakesLiterally value :=
  ⟨fun h => takesLiterally_of_fits fun text => (h text).mp,
    fun h => fits_wrap_of_literal h⟩

end PatternPart

/-!
## Pattern filters
-/

namespace Filter

/-- A value that is no call is bound inside a pattern, the same one whether the
filter is negated or not and whatever the case. The pattern fits the texts that
have the value in the place that the operator names, and no others, if and only
if the value is taken literally there. -/
theorem pattern_means_part_iff (functions : FunctionNames)
    (column value : String) (shape : Pattern)
    (hcall : functions.isCall value = false) :
    condition functions column (.pattern shape) value =
        .ok [.text ((if shape.caseless then column else "BINARY " ++ column) ++
            if shape.negated then " NOT LIKE " else " LIKE "),
          .slot (.text (shape.part.wrap value))] ∧
      ((∀ text, fits (shape.part.wrap value) text = true ↔
          shape.part.Holds value text) ↔
        shape.part.TakesLiterally value) := by
  have hembeds : functions.embeds value = .ok false := by
    rw [FunctionNames.embeds, hcall]
    rfl
  refine ⟨?_, shape.part.fits_wrap_iff value⟩
  rw [condition, hembeds]
  rfl

/-- A backslash at the end of the value is at the end of the pattern as well. -/
theorem pattern_means_ending_with_backslash :
    FunctionNames.builtin.isCall "C:\\" = false ∧
    condition .builtin "t.c" (.pattern ⟨.ending, true, false⟩) "C:\\" =
      .ok [.text "BINARY t.c NOT LIKE ", .slot (.text "%C:\\")] ∧
    ∀ text, fits "%C:\\" text = true ↔ "C:\\".toList <:+ text.toList := by
  have hcall : FunctionNames.builtin.isCall "C:\\" = false := by cbv
  have h := pattern_means_part_iff .builtin "t.c" "C:\\" ⟨.ending, true, false⟩
    hcall
  exact ⟨hcall, h.1, h.2.mpr (.inr ⟨rfl, ['C', ':'], rfl, by simp [isSpecial]⟩)⟩

/-- The `%` of the value stands for any text like the one after it, although the
operator says that the text starts with the value. -/
theorem pattern_fits_other_start :
    FunctionNames.builtin.isCall "50%" = false ∧
    condition .builtin "t.c" (.pattern ⟨.start, false, false⟩) "50%" =
      .ok [.text "BINARY t.c LIKE ", .slot (.text "50%%")] ∧
    fits "50%%" "500" = true ∧ ¬ PatternPart.start.Holds "50%" "500" := by
  refine ⟨by cbv, by cbv, by decide, ?_⟩
  rw [PatternPart.Holds]
  decide

end Filter
end SqlAssembler
