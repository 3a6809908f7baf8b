import Mathlib
import SqlAssembler.Proofs.Scripts.Written

/-!
# Pages of a selection

A page is written as a limit and an offset behind the statement without either.
Its offset is the number of rows on the pages before it, or the largest count if
that is beyond it. So pages of one size follow each other without a gap and
without an overlap, as far as the offsets are exact.
-/

namespace SqlAssembler

/-!
## Offsets
-/

namespace Paging

/-- The rows on the pages before the given one, however many they are. -/
def rowsBefore (number size : UInt64) : Nat :=
  ((max number 1).toNat - 1) * (max size 1).toNat

def start (number size : UInt64) : UInt64 :=
  Selection.pageOffset (max number 1) (max size 1)

/-- The row is on the page, rows being counted from zero. -/
def Holds (number size : UInt64) (row : Nat) : Prop :=
  (start number size).toNat ≤ row ∧
    row < (start number size).toNat + (max size 1).toNat

theorem toNat_noLimit : Selection.noLimit.toNat = 2 ^ 64 - 1 :=
  rfl

theorem toNat_max (left right : UInt64) :
    (max left right).toNat = max left.toNat right.toNat := by
  change (if left ≤ right then right else left).toNat = _
  rw [Nat.max_def]
  by_cases hle : left ≤ right
  · rw [if_pos hle, if_pos (UInt64.le_iff_toNat_le.mp hle)]
  · rw [if_neg hle, if_neg fun h => hle (UInt64.le_iff_toNat_le.mpr h)]

theorem one_le_toNat_max (word : UInt64) : 1 ≤ (max word 1).toNat := by
  rw [toNat_max]
  exact Nat.le_max_right _ _

theorem toNat_saturatingMul (left right : UInt64) :
    (Selection.saturatingMul left right).toNat =
      min (left.toNat * right.toNat) Selection.noLimit.toNat := by
  rw [Selection.saturatingMul]
  split
  · rename_i hexact
    rw [Nat.min_eq_left hexact, UInt64.toNat_mul, Nat.mod_eq_of_lt]
    rw [toNat_noLimit] at hexact
    omega
  · rename_i hbeyond
    exact (Nat.min_eq_right (Nat.le_of_not_le hbeyond)).symm

theorem toNat_max_sub_one (number : UInt64) :
    (max number 1 - 1).toNat = (max number 1).toNat - 1 := by
  apply UInt64.toNat_sub_of_le
  exact UInt64.le_iff_toNat_le.mpr (one_le_toNat_max number)

theorem toNat_start (number size : UInt64) :
    (start number size).toNat =
      min (rowsBefore number size) Selection.noLimit.toNat := by
  rw [start, Selection.pageOffset, toNat_saturatingMul, toNat_max_sub_one,
    rowsBefore]

theorem toNat_start_of_exact {number size : UInt64}
    (h : rowsBefore number size ≤ Selection.noLimit.toNat) :
    (start number size).toNat = rowsBefore number size := by
  rw [toNat_start, Nat.min_eq_left h]

/-!
## Pages of one size
-/

section Pages

variable {number later size : UInt64}

theorem rowsBefore_add_le
    (h : (max number 1).toNat < (max later 1).toNat) :
    rowsBefore number size + (max size 1).toNat ≤ rowsBefore later size := by
  have hle : (max number 1).toNat - 1 + 1 ≤ (max later 1).toNat - 1 := by
    have hone := one_le_toNat_max number
    omega
  rw [rowsBefore, rowsBefore, ← Nat.succ_mul]
  exact Nat.mul_le_mul_right _ hle

theorem rowsBefore_succ
    (h : (max later 1).toNat = (max number 1).toNat + 1) :
    rowsBefore number size + (max size 1).toNat = rowsBefore later size := by
  have heq : (max number 1).toNat - 1 + 1 = (max later 1).toNat - 1 := by
    have hone := one_le_toNat_max number
    omega
  rw [rowsBefore, rowsBefore, ← Nat.succ_mul, Nat.succ_eq_add_one, heq]

theorem rowsBefore_le_of_lt
    (hexact : rowsBefore later size ≤ Selection.noLimit.toNat)
    (h : (max number 1).toNat < (max later 1).toNat) :
    rowsBefore number size ≤ Selection.noLimit.toNat := by
  have hadd : rowsBefore number size + (max size 1).toNat ≤
      rowsBefore later size :=
    rowsBefore_add_le h
  omega

theorem holds_iff_div {row : Nat}
    (hexact : rowsBefore number size ≤ Selection.noLimit.toNat) :
    Holds number size row ↔
      row / (max size 1).toNat = (max number 1).toNat - 1 := by
  have hpos : 0 < (max size 1).toNat := one_le_toNat_max size
  rw [Holds, toNat_start_of_exact hexact, rowsBefore, Nat.div_eq_iff hpos]
  omega

theorem eq_of_holds {row : Nat}
    (hnumber : rowsBefore number size ≤ Selection.noLimit.toNat)
    (hlater : rowsBefore later size ≤ Selection.noLimit.toNat)
    (h : Holds number size row) (hother : Holds later size row) :
    max number 1 = max later 1 := by
  have hquotient := (holds_iff_div hnumber).mp h
  have hsame := (holds_iff_div hlater).mp hother
  have hone := one_le_toNat_max number
  have hlaterOne := one_le_toNat_max later
  apply UInt64.toNat_inj.mp
  omega

/-- The rows before a page are on the pages before it. -/
theorem exists_holds {row : Nat}
    (hexact : rowsBefore later size ≤ Selection.noLimit.toNat)
    (hrow : row < rowsBefore later size) :
    ∃ number, 1 ≤ number ∧ number < max later 1 ∧ Holds number size row := by
  have hpos : 0 < (max size 1).toNat := one_le_toNat_max size
  have hquotient : row / (max size 1).toNat < (max later 1).toNat - 1 := by
    rw [Nat.div_lt_iff_lt_mul hpos]
    exact hrow
  have hword : row / (max size 1).toNat + 1 < 2 ^ 64 := by
    have hlater := UInt64.toNat_lt (max later 1)
    omega
  generalize hnumber : UInt64.ofNat (row / (max size 1).toNat + 1) = number
  have hnat : number.toNat = row / (max size 1).toNat + 1 := by
    rw [← hnumber]
    exact UInt64.toNat_ofNat_of_lt hword
  have hcounted : (max number 1).toNat = row / (max size 1).toNat + 1 := by
    rw [toNat_max, hnat]
    exact Nat.max_eq_left (Nat.succ_pos _)
  have hbefore : (max number 1).toNat < (max later 1).toNat := by
    rw [hcounted]
    exact Nat.add_lt_of_lt_sub hquotient
  refine ⟨number, ?_, ?_, ?_⟩
  · rw [UInt64.le_iff_toNat_le, hnat]
    exact Nat.succ_pos _
  · rw [UInt64.lt_iff_toNat_lt, hnat]
    exact Nat.add_lt_of_lt_sub hquotient
  · rw [holds_iff_div (rowsBefore_le_of_lt hexact hbefore), hcounted]
    rfl

end Pages

def tail (number size : UInt64) : String :=
  s!" LIMIT {(max size 1).toNat} OFFSET {(start number size).toNat}"

end Paging

/-!
## Statements
-/

namespace Selection

def unpaged (selection : Selection) : Selection :=
  { selection with limit := none, offset := none }

theorem statement_rows (selection : Selection) :
    selection.rows.map Fragment.statement =
      selection.source.map fun source =>
        ⟨"SELECT " ++ selection.distinctText ++ selection.columnsText ++
            Fragment.sql source ++ selection.orderText ++
            selection.limitText ++ selection.offsetText,
          Fragment.params source⟩ := by
  rw [rows]
  cases selection.source with
  | error error => rfl
  | ok source =>
      simp [Except.map, Fragment.statement, Fragment.sql, Piece.sql,
        distinctText, String.append_assoc]

theorem statement_rows_page (selection : Selection) (limit offset : UInt64) :
    { selection with
      limit := some limit, offset := some offset }.rows.map Fragment.statement =
      (selection.unpaged.rows.map Fragment.statement).map fun statement =>
        { statement with
          sql := statement.sql ++
            s!" LIMIT {limit.toNat} OFFSET {offset.toNat}" } := by
  rw [statement_rows, statement_rows]
  -- the source does not depend on the page
  change Except.map _ selection.unpaged.source = _
  cases selection.unpaged.source with
  | error error => rfl
  | ok source =>
      simp [Except.map, unpaged, limitText, offsetText, distinctText,
        columnsText, orderText, String.append_assoc]
      rfl

end Selection

namespace SelectBuilder

def unpaged (builder : SelectBuilder) : SelectBuilder :=
  { builder with
    recording := { builder.recording with
      parts := builder.recording.parts.unpaged } }

theorem statement_eq_bind (builder : SelectBuilder) :
    builder.statement = builder.recording.checked >>= fun selection =>
      selection.rows.map Fragment.statement := by
  rw [SelectBuilder.statement]
  cases builder.recording.checked with
  | error error => rfl
  | ok selection =>
      change (selection.rows >>= _) = selection.rows.map _
      cases selection.rows <;> rfl

theorem statement_page (builder : SelectBuilder) (number size : UInt64) :
    (builder.record (.page number size)).statement =
      builder.unpaged.statement.map fun statement =>
        { statement with sql := statement.sql ++ Paging.tail number size } := by
  rw [statement_eq_bind, statement_eq_bind]
  rcases builder with ⟨settings, ⟨selection, failure⟩⟩
  cases failure with
  | some error => rfl
  | none => exact Selection.statement_rows_page selection _ _

end SelectBuilder

/-!
## The partition
-/

namespace Paging

structure Precedes (number later size : UInt64) : Prop where
  le : (start number size).toNat + (max size 1).toNat ≤
    (start later size).toNat
  adjacent : (max later 1).toNat = (max number 1).toNat + 1 →
    (start number size).toNat + (max size 1).toNat = (start later size).toNat
  apart : ∀ row, Holds number size row → ¬ Holds later size row

theorem precedes_of_lt {number later size : UInt64}
    (hexact : rowsBefore later size ≤ Selection.noLimit.toNat)
    (h : (max number 1).toNat < (max later 1).toNat) :
    Precedes number later size := by
  have hnumber := rowsBefore_le_of_lt hexact h
  refine ⟨?_, ?_, ?_⟩
  · rw [toNat_start_of_exact hnumber, toNat_start_of_exact hexact]
    exact rowsBefore_add_le h
  · intro hnext
    rw [toNat_start_of_exact hnumber, toNat_start_of_exact hexact]
    exact rowsBefore_succ hnext
  · intro row hrow hother
    have hsame := eq_of_holds hnumber hexact hrow hother
    rw [hsame] at h
    exact Nat.lt_irrefl _ h

theorem existsUnique_holds {later size : UInt64} {row : Nat}
    (hexact : rowsBefore later size ≤ Selection.noLimit.toNat)
    (hrow : row < rowsBefore later size) :
    ∃! number, 1 ≤ number ∧ number < max later 1 ∧ Holds number size row := by
  have hcounted : ∀ {number : UInt64}, 1 ≤ number → max number 1 = number := by
    intro number hone
    apply UInt64.toNat_inj.mp
    rw [toNat_max]
    exact Nat.max_eq_left (UInt64.le_iff_toNat_le.mp hone)
  have hbefore : ∀ {number : UInt64}, 1 ≤ number → number < max later 1 →
      rowsBefore number size ≤ Selection.noLimit.toNat := by
    intro number hone hlt
    apply rowsBefore_le_of_lt hexact
    rw [hcounted hone]
    exact UInt64.lt_iff_toNat_lt.mp hlt
  rcases exists_holds hexact hrow with ⟨number, hone, hlt, hholds⟩
  refine ⟨number, ⟨hone, hlt, hholds⟩, ?_⟩
  rintro other ⟨hotherOne, hotherLt, hother⟩
  have hsame := eq_of_holds (hbefore hotherOne hotherLt) (hbefore hone hlt)
    hother hholds
  rwa [hcounted hotherOne, hcounted hone] at hsame

/-- A page is written as its size and the number of rows before it, or the
largest word instead, and words suffice to compute it. As far as the number is
exact, earlier pages lie before later ones, and each row before a page is on one
earlier page. -/
theorem pages_partition_rows (size : UInt64) :
    (∀ (builder : SelectBuilder) (number : UInt64),
      (builder.record (.page number size)).statement =
        builder.unpaged.statement.map fun statement =>
          { statement with sql := statement.sql ++ tail number size }) ∧
    (∀ number,
      (start number size).toNat =
        (if rowsBefore number size ≤ 2 ^ 64 - 1 then rowsBefore number size
          else 2 ^ 64 - 1) ∧
      1 ≤ (max number 1).toNat ∧
      (max number 1 - 1).toNat = (max number 1).toNat - 1 ∧
      start number size =
        Selection.saturatingMul (max number 1 - 1) (max size 1)) ∧
    ∀ later, rowsBefore later size ≤ 2 ^ 64 - 1 →
      (∀ number, max number 1 < max later 1 → Precedes number later size) ∧
      ∀ row < (start later size).toNat,
        ∃! number, 1 ≤ number ∧ number < max later 1 ∧
          Holds number size row := by
  refine ⟨fun builder number => builder.statement_page number size, ?_, ?_⟩
  · intro number
    refine ⟨?_, one_le_toNat_max number, toNat_max_sub_one number, rfl⟩
    rw [toNat_start, toNat_noLimit, Nat.min_def]
  · intro later hexact
    rw [← toNat_noLimit] at hexact
    constructor
    · intro number hlt
      exact precedes_of_lt hexact (UInt64.lt_iff_toNat_lt.mp hlt)
    · intro row hrow
      rw [toNat_start_of_exact hexact] at hrow
      exact existsUnique_holds hexact hrow

/-- The last page whose offset is exact, for the largest size. -/
theorem pages_partition_rows_of_largest_size :
    ((SelectBuilder.start .standard "users").record
        (.page 2 0xFFFFFFFFFFFFFFFF)).statement =
      .ok ⟨"SELECT * FROM users LIMIT 18446744073709551615" ++
        " OFFSET 18446744073709551615", []⟩ ∧
      Precedes 0 2 0xFFFFFFFFFFFFFFFF := by
  have hpages := pages_partition_rows 0xFFFFFFFFFFFFFFFF
  constructor
  · rw [hpages.1]
    cbv
  · exact (hpages.2.2 2 (by decide)).1 0 (by decide)

end Paging
end SqlAssembler
