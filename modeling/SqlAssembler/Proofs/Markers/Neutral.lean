import SqlAssembler.Statement

/-!
# Texts that leave the marker reader alone

A statement is put together from many small texts, and its markers are found
again by reading the whole. A text is neutral if the reader, coming to it
outside quotes, is outside quotes again at its end and has met no marker on the
way. Neutral texts can be put together in any order, so it is enough to know
that each piece is neutral.
-/

namespace SqlAssembler

open Text

namespace Statement

structure Neutral (text : String) : Prop where
  closes : Quoting.run escapes .outside text.toList = .outside
  unmarked : countMarkers .outside text.toList = 0

instance (text : String) : Decidable (Neutral text) :=
  decidable_of_iff
    (Quoting.run escapes .outside text.toList = .outside ∧
      countMarkers .outside text.toList = 0)
    ⟨fun h => ⟨h.1, h.2⟩, fun h => ⟨h.closes, h.unmarked⟩⟩

/-!
## Texts without quotes
-/

def isPlain (c : Char) : Bool :=
  !isQuote c && c ≠ '?'

theorem run_outside_of_plain {cs : List Char}
    (h : ∀ c ∈ cs, isPlain c = true) :
    Quoting.run escapes .outside cs = .outside := by
  induction cs with
  | nil => rfl
  | cons c cs ih =>
      have hc : isQuote c = false := by
        have := h c List.mem_cons_self
        grind [isPlain]
      rw [Quoting.run_cons, Quoting.step, hc]
      exact ih fun d hd => h d (List.mem_cons_of_mem c hd)

theorem countMarkers_of_plain {cs : List Char}
    (h : ∀ c ∈ cs, isPlain c = true) : countMarkers .outside cs = 0 := by
  induction cs with
  | nil => rfl
  | cons c cs ih =>
      have hc : isQuote c = false ∧ c ≠ '?' := by
        have := h c List.mem_cons_self
        grind [isPlain]
      have hrest := ih fun d hd => h d (List.mem_cons_of_mem c hd)
      simp [countMarkers, isMarker, Quoting.step, hc.1, hc.2, hrest]

theorem neutral_of_plain {text : String}
    (h : ∀ c ∈ text.toList, isPlain c = true) : Neutral text :=
  ⟨run_outside_of_plain h, countMarkers_of_plain h⟩

theorem isPlain_of_class {p : Char → Bool} {c : Char}
    (hclass : ['\'', '"', backtick, '?'].all (fun d => !p d) = true)
    (h : p c = true) : isPlain c = true := by
  simp only [List.all_cons, List.all_nil, Bool.and_true, Bool.and_eq_true,
    Bool.not_eq_true'] at hclass
  rcases hclass with ⟨hsingle, hdouble, hback, hmarker⟩
  have hne : ∀ d, p d = false → c ≠ d := by
    rintro d hd rfl
    rw [h] at hd
    cases hd
  simp [isPlain, isQuote, hne _ hsingle, hne _ hdouble, hne _ hback,
    hne _ hmarker]

/-!
## Putting neutral texts together
-/

theorem neutral_empty : Neutral "" :=
  ⟨rfl, rfl⟩

theorem Neutral.append {left right : String} (hleft : Neutral left)
    (hright : Neutral right) : Neutral (left ++ right) := by
  constructor
  · rw [String.toList_append, Quoting.run_append, hleft.closes]
    exact hright.closes
  · rw [String.toList_append, countMarkers_append, hleft.unmarked,
      hleft.closes, hright.unmarked]

theorem Neutral.countMarkers_append {left : String} (h : Neutral left)
    (right : String) :
    countMarkers .outside (left ++ right).toList =
      countMarkers .outside right.toList := by
  rw [String.toList_append, Statement.countMarkers_append, h.closes,
    h.unmarked, Nat.zero_add]

theorem neutral_intercalate {separator : String} {texts : List String}
    (hseparator : Neutral separator) (h : ∀ text ∈ texts, Neutral text) :
    Neutral (separator.intercalate texts) := by
  induction texts with
  | nil => exact neutral_empty
  | cons text rest ih =>
      have hrest := ih fun other hother =>
        h other (List.mem_cons_of_mem text hother)
      have htext := h text List.mem_cons_self
      by_cases hempty : rest = []
      · rw [hempty, String.intercalate_singleton]
        exact htext
      · rw [String.intercalate_cons_of_ne_nil hempty]
        exact (htext.append hseparator).append hrest

/-!
## Quoted texts
-/

theorem isMarker_of_isQuote {quote : Char} (h : isQuote quote = true) :
    isMarker .outside quote = false := by
  have hne : quote ≠ '?' := by
    rintro rfl
    exact absurd h (by decide)
  simp [isMarker, hne]

theorem neutral_between {quote : Char} {cs : List Char}
    (hquote : isQuote quote = true) (hne : quote ≠ '\\')
    (hrun : Quoting.run escapes (.inside quote) cs = .inside quote)
    (hcount : countMarkers (.inside quote) cs = 0) :
    Neutral (String.ofList (quote :: (cs ++ [quote]))) := by
  have hopen : Quoting.step escapes .outside quote = .inside quote := by
    simp [Quoting.step, hquote]
  have hmarker := isMarker_of_isQuote hquote
  constructor
  · rw [String.toList_ofList, Quoting.run_cons, hopen, Quoting.run_append, hrun]
    simp [Quoting.step, hne]
  · rw [String.toList_ofList, countMarkers, hmarker, hopen, countMarkers_append,
      hcount, hrun]
    simp [countMarkers, isMarker]

theorem read_doubled {quote : Char} (hquote : isQuote quote = true)
    (hescapes : escapes quote = false) (cs : List Char) :
    Quoting.run escapes (.inside quote) (doubled quote cs) = .inside quote ∧
      countMarkers (.inside quote) (doubled quote cs) = 0 := by
  have hmarker := isMarker_of_isQuote hquote
  induction cs with
  | nil => exact ⟨rfl, rfl⟩
  | cons c cs ih =>
      by_cases hc : c = quote
      · simp [doubled, hc, countMarkers, isMarker, Quoting.step, hescapes,
          hquote, ih.1, ih.2] at hmarker ⊢
        exact hmarker
      · simp [doubled, hc, countMarkers, isMarker, Quoting.step, hescapes, ih]

theorem neutral_enclosed_backtick (text : String) :
    Neutral (enclosed backtick text) := by
  have hread := read_doubled (by decide) (by decide : escapes backtick = false)
    text.toList
  exact neutral_between (by decide) (by decide) hread.1 hread.2

theorem read_inside {quote : Char} {cs : List Char}
    (h : ∀ c ∈ cs, c ≠ quote ∧ c ≠ '\\') :
    Quoting.run escapes (.inside quote) cs = .inside quote ∧
      countMarkers (.inside quote) cs = 0 := by
  induction cs with
  | nil => exact ⟨rfl, rfl⟩
  | cons c cs ih =>
      have hc := h c List.mem_cons_self
      have hrest := ih fun d hd => h d (List.mem_cons_of_mem c hd)
      simp [countMarkers, isMarker, Quoting.step, hc.1, hc.2, hrest.1, hrest.2]

theorem neutral_singleQuoted {text : String}
    (h : ∀ c ∈ text.toList, c ≠ '\'' ∧ c ≠ '\\') :
    Neutral ("'" ++ text ++ "'") := by
  have hread := read_inside h
  have hbetween := neutral_between (by decide) (by decide) hread.1 hread.2
  have heq : "'" ++ text ++ "'" =
      String.ofList ('\'' :: (text.toList ++ ['\''])) := by
    apply String.toList_inj.mp
    simp
  rw [heq]
  exact hbetween

end Statement
end SqlAssembler
