import SqlAssembler.Proofs.Markers.Scripts

/-!
# Literals of numbers

A number is written with digits, a sign and a point, and an infinite or
undefined one with a word. None of these means anything to the marker reader.
-/

namespace SqlAssembler

namespace Decimal

def isNumeralChar (c : Char) : Bool :=
  c.isDigit || c = '-' || c = '.'

theorem isNumeralChar_of_mem_toDigits {n : Nat} {c : Char}
    (h : c ∈ Nat.toDigits 10 n) : isNumeralChar c = true := by
  rw [isNumeralChar, Nat.isDigit_of_mem_toDigits (by decide) (by decide) h]
  rfl

theorem isNumeralChar_of_mem_zeros {count : Nat} {c : Char}
    (h : c ∈ (zeros count).toList) : isNumeralChar c = true := by
  rw [zeros, String.toList_ofList] at h
  rw [List.eq_of_mem_replicate h]
  rfl

theorem isNumeralChar_of_mem_pointAndRest {n : Nat} {rest : List Char}
    {c : Char} (hrest : ∀ d ∈ rest, d ∈ Nat.toDigits 10 n)
    (h : c ∈ (Layout.plain.pointAndRest rest).toList) :
    isNumeralChar c = true := by
  rw [Layout.pointAndRest] at h
  split at h
  · cases h
  · rw [String.toList_append, List.mem_append] at h
    rcases h with hpoint | hdigit
    · have hc : c = '.' := by simpa using hpoint
      rw [hc]
      rfl
    · rw [String.toList_ofList] at hdigit
      exact isNumeralChar_of_mem_toDigits (hrest c hdigit)

theorem isNumeralChar_of_mem_writePositional {digits : Digits} {c : Char}
    (h : c ∈ (Layout.plain.writePositional digits).toList) :
    isNumeralChar c = true := by
  simp only [Layout.writePositional] at h
  split at h
  · simp only [String.toList_append, List.mem_append, String.toList_ofList] at h
    rcases h with (hdigit | hzero) | hpoint
    · exact isNumeralChar_of_mem_toDigits hdigit
    · exact isNumeralChar_of_mem_zeros hzero
    · exact isNumeralChar_of_mem_pointAndRest (n := 0) (by simp) hpoint
  · split at h
    · simp only [String.toList_append, List.mem_append, String.toList_ofList]
        at h
      rcases h with hdigit | hpoint
      · exact isNumeralChar_of_mem_toDigits (List.mem_of_mem_take hdigit)
      · exact isNumeralChar_of_mem_pointAndRest
          (fun d hd => List.mem_of_mem_drop hd) hpoint
    · simp only [String.toList_append, List.mem_append, String.toList_ofList]
        at h
      rcases h with (hlead | hzero) | hdigit
      · have hc : c = '0' ∨ c = '.' := by simpa using hlead
        rcases hc with rfl | rfl <;> rfl
      · exact isNumeralChar_of_mem_zeros hzero
      · exact isNumeralChar_of_mem_toDigits hdigit

theorem neutral_of_numeral {text : String}
    (h : ∀ c ∈ text.toList, isNumeralChar c = true) : Statement.Neutral text :=
  Statement.neutral_of_plain fun c hc =>
    Statement.isPlain_of_class (p := isNumeralChar) (by decide) (h c hc)

theorem neutral_write (x : Float) :
    Statement.Neutral (Layout.plain.write x) := by
  rw [Layout.write]
  split
  · decide
  · rename_i negative _
    cases negative <;> decide
  · rename_i number _
    have hdigits : Statement.Neutral
        (Layout.plain.writeDigits (shortest Layout.plain.tie number)) := by
      rw [Layout.writeDigits]
      exact neutral_of_numeral fun c => isNumeralChar_of_mem_writePositional
    dsimp only
    split
    · exact Statement.Neutral.append (by decide) hdigits
    · exact hdigits

end Decimal

theorem Statement.neutral_toString_int (n : Int) : Neutral (toString n) := by
  cases n with
  | ofNat n => exact neutral_toString n
  | negSucc n => exact Neutral.append (by decide) (neutral_toString (n + 1))

end SqlAssembler
