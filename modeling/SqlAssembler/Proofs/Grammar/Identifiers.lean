import SqlAssembler.Ident
import SqlAssembler.Proofs.Markers.Neutral
import SqlAssembler.Proofs.Results

/-!
# Accepted identifiers

What the identifier reader accepts is well formed: it has a part, a bare part
holds name characters and dollar signs only, and a quoted one holds anything but
NUL. Written as SQL, a well-formed identifier is neutral.
-/

namespace SqlAssembler

open Text

namespace Ident

inductive Part.WellFormed : Part → Prop where
  | bare {c : Char} {cs : List Char} (hstart : isNameStart c = true)
      (hrest : ∀ d ∈ cs, isBareChar d = true) :
      WellFormed ⟨String.ofList (c :: cs), false⟩
  | quoted {name : String} (hne : name ≠ "") (hnul : '\x00' ∉ name.toList) :
      WellFormed ⟨name, true⟩

structure WellFormed (ident : Ident) : Prop where
  hasPart : ident.parts ≠ []
  parts : ∀ part ∈ ident.parts, part.WellFormed

/-!
## Reading
-/

theorem mem_of_splitQuoted {cs name rest : List Char}
    (h : splitQuoted cs = some (name, rest)) {c : Char}
    (hc : c ∈ name ∨ c ∈ rest) : c ∈ cs := by
  fun_induction splitQuoted cs generalizing name rest <;>
    grind [Option.map_eq_some_iff]

theorem wellFormed_of_badBareChar? {cs : List Char} (hne : cs ≠ [])
    (h : badBareChar? cs = none) :
    Part.WellFormed ⟨String.ofList cs, false⟩ := by
  cases cs with
  | nil => exact absurd rfl hne
  | cons c cs =>
      rw [badBareChar?] at h
      split at h
      · rename_i hstart
        refine .bare hstart fun d hd => ?_
        have hbad := List.find?_eq_none.mp h d hd
        simpa using hbad
      · cases h

theorem wellFormed_of_scanPart {whole : String} {cs rest : List Char}
    {part : Part} (h : scanPart whole cs = .ok (part, rest))
    (hnul : '\x00' ∉ cs) : part.WellFormed ∧ '\x00' ∉ rest := by
  cases cs with
  | nil => cases h
  | cons c cs =>
      rw [scanPart] at h
      split at h
      · split at h
        · cases h
        · cases h
        · rename_i name after hne hsplit
          cases h
          have hkept : ∀ d, d ∈ name ∨ d ∈ rest → d ∈ c :: cs := fun d hd =>
            List.mem_cons_of_mem c (mem_of_splitQuoted hsplit hd)
          refine ⟨.quoted ?_ ?_, fun hmem => hnul (hkept _ (.inr hmem))⟩
          · intro hempty
            exact hne (String.ofList_eq_empty_iff.mp hempty)
          · intro hmem
            rw [String.toList_ofList] at hmem
            exact hnul (hkept _ (.inl hmem))
      · split at h
        · cases h
        · dsimp only at h
          split at h
          · cases h
          · rename_i hbare
            cases h
            refine ⟨wellFormed_of_badBareChar? (by simp) hbare, ?_⟩
            intro hmem
            have hsub := (List.dropWhile_sublist (l := cs) (· ≠ '.')).subset hmem
            exact hnul (List.mem_cons_of_mem c hsub)

theorem wellFormed_of_scanParts {whole : String} {cs : List Char}
    {parts : List Part} (h : scanParts whole cs = .ok parts)
    (hnul : '\x00' ∉ cs) :
    parts ≠ [] ∧ ∀ part ∈ parts, part.WellFormed := by
  fun_induction scanParts whole cs generalizing parts with
  | case1 cs cause hpart => cases h
  | case2 cs part hpart =>
      cases h
      refine ⟨by simp, fun other hother => ?_⟩
      rw [List.mem_singleton.mp hother]
      exact (wellFormed_of_scanPart hpart hnul).1
  | case3 cs part hpart => cases h
  | case4 cs part rest hne hpart ih =>
      rcases wellFormed_of_scanPart hpart hnul with ⟨hwell, hrest⟩
      rcases map_eq_ok_iff.mp h with ⟨others, hscan, rfl⟩
      have hothers := ih hscan fun hmem =>
        hrest (List.mem_cons_of_mem '.' hmem)
      refine ⟨by simp, fun other hother => ?_⟩
      rcases List.mem_cons.mp hother with rfl | hmem
      · exact hwell
      · exact hothers.2 other hmem
  | case5 cs part c rest hpart hdot => cases h

theorem wellFormed_of_parse {text : String} {ident : Ident}
    (h : parse text = .ok ident) : ident.WellFormed := by
  rw [parse] at h
  split at h
  · cases h
  · split at h
    · cases h
    · rename_i hnul
      split at h
      · cases h
      · rename_i parts hscan
        cases h
        have hparts := wellFormed_of_scanParts hscan (by simpa using hnul)
        exact ⟨hparts.1, hparts.2⟩

theorem WellFormed.qualifiedBy {ident qualifier : Ident}
    (h : ident.WellFormed) (hqualifier : qualifier.WellFormed) :
    (ident.qualifiedBy qualifier).WellFormed := by
  constructor
  · intro hnil
    exact h.hasPart (List.append_eq_nil_iff.mp hnil).2
  · intro part hpart
    rcases List.mem_append.mp hpart with hmem | hmem
    · exact hqualifier.parts part hmem
    · exact h.parts part hmem

/-!
## Writing
-/

theorem Part.WellFormed.neutral {part : Part} (h : part.WellFormed) :
    Statement.Neutral part.sql := by
  cases h with
  | bare hstart hrest =>
      rename_i c cs
      apply Statement.neutral_of_plain
      intro d hd
      have hmem : d ∈ c :: cs := by simpa [Part.sql] using hd
      rcases List.mem_cons.mp hmem with rfl | hrestMem
      · exact Statement.isPlain_of_class (p := isNameStart) (by decide) hstart
      · exact Statement.isPlain_of_class (p := isBareChar) (by decide)
          (hrest d hrestMem)
  | quoted hne hnul => exact Statement.neutral_enclosed_backtick _

theorem WellFormed.neutral {ident : Ident} (h : ident.WellFormed) :
    Statement.Neutral ident.sql := by
  apply Statement.neutral_intercalate (by decide)
  intro text htext
  rcases List.mem_map.mp htext with ⟨part, hpart, rfl⟩
  exact (h.parts part hpart).neutral

end Ident
end SqlAssembler
