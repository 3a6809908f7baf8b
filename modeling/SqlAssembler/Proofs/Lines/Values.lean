import Mathlib
import SqlAssembler.Param
import SqlAssembler.Proofs.Lines.Breaks

/-!
# Values on one line

A list of values is written as JSON on one line, whatever the values are: line
breaks in texts are escaped, and numbers are made of digits, signs, a point and
an exponent.
-/

namespace SqlAssembler

open Text

/-!
## Numbers
-/

theorem Text.break_not_mem_toDigits (n : Nat) : '\n' ∉ Nat.toDigits 10 n := by
  intro hmem
  have hdigit := Nat.isDigit_of_mem_toDigits (by decide) (by decide) hmem
  cases hdigit

namespace Decimal

theorem not_breaks_zeros (count : Nat) : ¬ Breaks (zeros count) := by
  rw [zeros, breaks_ofList]
  intro hmem
  exact absurd (List.eq_of_mem_replicate hmem) (by decide)

namespace Layout

variable (layout : Layout)

theorem not_breaks_fraction {none : String} {rest : List Char}
    (hnone : ¬ Breaks none) (h : '\n' ∉ rest) :
    ¬ Breaks (if rest.isEmpty then none else "." ++ String.ofList rest) := by
  split
  · exact hnone
  · simp only [breaks_append, breaks_ofList, not_or]
    exact ⟨by decide, h⟩

theorem not_breaks_pointAndRest {rest : List Char} (h : '\n' ∉ rest) :
    ¬ Breaks (layout.pointAndRest rest) := by
  have hnone : ¬ Breaks (if layout.pointZero then ".0" else "") := by
    split <;> decide
  exact not_breaks_fraction hnone h

theorem not_breaks_writePositional (digits : Digits) :
    ¬ Breaks (layout.writePositional digits) := by
  have hdigits := break_not_mem_toDigits digits.coefficient
  simp only [writePositional]
  split
  · simp only [breaks_append, breaks_ofList, not_or]
    exact ⟨⟨hdigits, not_breaks_zeros _⟩,
      layout.not_breaks_pointAndRest List.not_mem_nil⟩
  · split
    · simp only [breaks_append, breaks_ofList, not_or]
      exact ⟨fun hmem => hdigits (List.mem_of_mem_take hmem),
        layout.not_breaks_pointAndRest fun hmem =>
          hdigits (List.mem_of_mem_drop hmem)⟩
    · simp only [breaks_append, breaks_ofList, not_or]
      exact ⟨⟨by decide, not_breaks_zeros _⟩, hdigits⟩

theorem not_breaks_writeExponent (digits : Digits) (exponent : Int) :
    ¬ Breaks (writeExponent digits exponent) := by
  have hdigits := break_not_mem_toDigits digits.coefficient
  have hrest : '\n' ∉ (Nat.toDigits 10 digits.coefficient).drop 1 :=
    fun hmem => hdigits (List.mem_of_mem_drop hmem)
  have hsign : ¬ Breaks (if exponent < 0 then "-" else "+") := by
    split <;> decide
  simp only [writeExponent, digitText, breaks_append, breaks_ofList, not_or]
  exact ⟨⟨⟨⟨fun hmem => hdigits (List.mem_of_mem_take hmem),
    not_breaks_fraction (by decide) hrest⟩, by decide⟩, hsign⟩,
    break_not_mem_toDigits _⟩

theorem not_breaks_write (hnan : ¬ Breaks layout.nan)
    (hinfinite : ∀ negative, ¬ Breaks (layout.infinite negative)) (x : Float) :
    ¬ Breaks (layout.write x) := by
  rw [write]
  split
  · exact hnan
  · exact hinfinite _
  · rename_i number _
    have hdigits :
        ¬ Breaks (layout.writeDigits (shortest layout.tie number)) := by
      simp only [writeDigits]
      split
      · exact layout.not_breaks_writePositional _
      · exact not_breaks_writeExponent _ _
    dsimp only
    split
    · rw [breaks_append]
      exact not_or.mpr ⟨by decide, hdigits⟩
    · exact hdigits

end Layout
end Decimal

theorem Text.not_breaks_toString_nat (n : Nat) : ¬ Breaks (toString n) := by
  have hdigits : toString n = String.ofList (Nat.toDigits 10 n) := rfl
  rw [hdigits, breaks_ofList]
  exact break_not_mem_toDigits n

theorem Text.not_breaks_toString_int (n : Int) : ¬ Breaks (toString n) := by
  cases n with
  | ofNat n => exact not_breaks_toString_nat n
  | negSucc n =>
      have hnegative : toString (Int.negSucc n) = "-" ++ toString (n + 1) := rfl
      rw [hnegative, breaks_append]
      exact not_or.mpr ⟨by decide, not_breaks_toString_nat (n + 1)⟩

/-!
## JSON
-/

namespace Json

theorem hexDigit_ne_break {n : Nat} (h : n < 16) : hexDigit n ≠ '\n' := by
  interval_cases n <;> decide

theorem break_not_mem_escaped (c : Char) : '\n' ∉ escaped c := by
  fun_cases escaped c with
  | case8 _ _ _ _ _ _ _ hcontrol =>
      have hhigh := hexDigit_ne_break (n := c.toNat / 16) (by omega)
      have hlow := hexDigit_ne_break (n := c.toNat % 16) (by omega)
      simp [hhigh.symm, hlow.symm]
  | case9 _ _ hbreak => simpa using Ne.symm hbreak
  | _ => decide

theorem not_breaks_writeText (text : String) : ¬ Breaks (writeText text) := by
  have hescaped : '\n' ∉ text.toList.flatMap escaped := by
    rw [List.mem_flatMap]
    rintro ⟨c, _, hmem⟩
    exact break_not_mem_escaped c hmem
  rw [writeText, breaks_ofList]
  simp [hescaped]

theorem writeItems_eq_map (items : List Json) :
    writeItems items = items.map write := by
  induction items with
  | nil => rfl
  | cons item rest ih => rw [writeItems, ih, List.map_cons]

end Json

theorem Param.not_breaks_write_toJson (param : Param) :
    ¬ Breaks param.toJson.write := by
  cases param with
  | null => decide
  | bool value => cases value <;> decide
  | int value => exact not_breaks_toString_int value
  | float value =>
      have hnull : ¬ Breaks "null" := by decide
      exact Decimal.Layout.not_breaks_write .json hnull (fun _ => hnull) value
  | text value => exact Json.not_breaks_writeText value

theorem not_breaks_writeParams (params : List Param) :
    ¬ Breaks (writeParams params) := by
  have hitems :
      ¬ AnyBreaks (Json.writeItems (params.map Param.toJson)) := by
    rw [Json.writeItems_eq_map, List.map_map, anyBreaks_map]
    rintro ⟨param, _, hbreaks⟩
    exact param.not_breaks_write_toJson hbreaks
  rw [writeParams, Json.write, breaks_append, breaks_append,
    breaks_intercalate (by decide), not_or, not_or]
  exact ⟨⟨by decide, hitems⟩, by decide⟩

end SqlAssembler
