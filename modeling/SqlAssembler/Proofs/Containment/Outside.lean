import SqlAssembler.Proofs.Markers.Neutral

/-!
# Text outside quotes

What stands outside quotes decides where a statement ends, what is a comment and
which parentheses belong together. Outside quotes a text is orderly if it holds
no separator and no start of a comment and closes no parenthesis that it did not
open. A separator of two characters can also arise where two texts meet, so each
text is judged by what it makes of the text before it: one text leads from a
condition on what was read before to a condition on all that was read since.
-/

namespace SqlAssembler

open Text

namespace Statement

/-- The characters that are read outside quotes. A quoted stretch leaves its
opening quote behind, so what stands on its two sides does not meet. -/
def outsideText : Quoting → List Char → List Char
  | _, [] => []
  | state, c :: cs =>
      if state = .outside then c :: outsideText (state.step escapes c) cs
      else outsideText (state.step escapes c) cs

theorem outsideText_append (state : Quoting) (left right : List Char) :
    outsideText state (left ++ right) =
      outsideText state left ++
        outsideText (state.run escapes left) right := by
  induction left generalizing state with
  | nil => rfl
  | cons c cs ih =>
      by_cases h : state = .outside <;> simp [outsideText, h, ih]

/-!
## Orderly texts
-/

/-- No separator and no comment, and parentheses that belong together but for
`depth` of them, which are still open. -/
structure Orderly (depth : Nat) (cs : List Char) : Prop where
  noSeparator : ';' ∉ cs
  noHash : '#' ∉ cs
  noDashes : ¬ ['-', '-'] <:+: cs
  noSlashStar : ¬ ['/', '*'] <:+: cs
  closesOpened : ∀ start, start <+: cs → start.count ')' ≤ start.count '('
  opened : cs.count '(' = cs.count ')' + depth

structure Settled (depth : Nat) (cs : List Char) : Prop where
  orderly : Orderly depth cs
  noDash : cs.getLast? ≠ some '-'
  noSlash : cs.getLast? ≠ some '/'

def nextDepth? (depth : Nat) (c : Char) : Option Nat :=
  if c = '(' then some (depth + 1)
  else if c = ')' then if depth = 0 then none else some (depth - 1)
  else some depth

theorem settled_nil : Settled 0 [] := by
  constructor
  · constructor <;> simp
  · simp
  · simp

theorem pair_infix_concat {a b c : Char} {cs : List Char}
    (h : [a, b] <:+: cs ++ [c]) :
    [a, b] <:+: cs ∨ cs.getLast? = some a ∧ c = b := by
  rcases List.infix_concat_iff.mp h with hsuffix | hinfix
  · right
    rcases hsuffix with ⟨start, hstart⟩
    have hsplit : (start ++ [a]) ++ [b] = cs ++ [c] := by simpa using hstart
    rcases List.append_inj' hsplit rfl with ⟨hcs, hlast⟩
    constructor
    · rw [← hcs, List.getLast?_concat]
    · exact (List.singleton_inj.mp hlast).symm
  · exact .inl hinfix

theorem opened_concat {depth after : Nat} {cs : List Char} {c : Char}
    (h : cs.count '(' = cs.count ')' + depth)
    (hdepth : nextDepth? depth c = some after) :
    (cs ++ [c]).count '(' = (cs ++ [c]).count ')' + after := by
  rw [List.count_append, List.count_append, List.count_singleton,
    List.count_singleton]
  grind [nextDepth?]

theorem Orderly.concat {depth after : Nat} {cs : List Char} {c : Char}
    (h : Orderly depth cs) (hseparator : c ≠ ';') (hhash : c ≠ '#')
    (hdash : cs.getLast? = some '-' → c ≠ '-')
    (hstar : cs.getLast? = some '/' → c ≠ '*')
    (hdepth : nextDepth? depth c = some after) :
    Orderly after (cs ++ [c]) := by
  have hopened := opened_concat h.opened hdepth
  constructor
  · intro hmem
    rcases List.mem_append.mp hmem with hold | hnew
    · exact h.noSeparator hold
    · exact hseparator (List.mem_singleton.mp hnew).symm
  · intro hmem
    rcases List.mem_append.mp hmem with hold | hnew
    · exact h.noHash hold
    · exact hhash (List.mem_singleton.mp hnew).symm
  · intro hinfix
    rcases pair_infix_concat hinfix with hold | ⟨hlast, hnew⟩
    · exact h.noDashes hold
    · exact hdash hlast hnew
  · intro hinfix
    rcases pair_infix_concat hinfix with hold | ⟨hlast, hnew⟩
    · exact h.noSlashStar hold
    · exact hstar hlast hnew
  · intro start hstart
    rcases List.prefix_concat_iff.mp hstart with hwhole | hbefore
    · rw [hwhole]
      omega
    · exact h.closesOpened start hbefore
  · exact hopened

/-!
## Texts that lead on
-/

/-- Reading `text` outside quotes ends outside quotes, and leads from what holds
of the text read before to what holds of all text read by then. -/
structure Leads (before : List Char → Prop) (text : String)
    (after : List Char → Prop) : Prop where
  closes : Quoting.run escapes .outside text.toList = .outside
  carries : ∀ read, before read →
    after (read ++ outsideText .outside text.toList)

variable {P Q R : List Char → Prop} {depth : Nat}

theorem leads_empty : Leads P "" P := by
  constructor
  · rfl
  · intro read hread
    simpa [outsideText] using hread

theorem Leads.append {left right : String} (hleft : Leads P left Q)
    (hright : Leads Q right R) : Leads P (left ++ right) R := by
  constructor
  · rw [String.toList_append, Quoting.run_append, hleft.closes]
    exact hright.closes
  · intro read hread
    have hboth := hright.carries _ (hleft.carries read hread)
    rw [String.toList_append, outsideText_append, hleft.closes,
      ← List.append_assoc]
    exact hboth

theorem Leads.of_orderly {text : String} (h : Leads (Orderly depth) text Q) :
    Leads (Settled depth) text Q := by
  constructor
  · exact h.closes
  · intro read hread
    exact h.carries read hread.orderly

theorem Leads.orderly {text : String} (h : Leads P text (Settled depth)) :
    Leads P text (Orderly depth) := by
  constructor
  · exact h.closes
  · intro read hread
    exact (h.carries read hread).orderly

theorem leads_intercalate {separator : String} {texts : List String}
    (hne : texts ≠ []) (hseparator : Leads Q separator P)
    (h : ∀ text ∈ texts, Leads P text Q) :
    Leads P (separator.intercalate texts) Q := by
  induction texts with
  | nil => exact absurd rfl hne
  | cons text rest ih =>
      have htext := h text List.mem_cons_self
      by_cases hempty : rest = []
      · rw [hempty, String.intercalate_singleton]
        exact htext
      · rw [String.intercalate_cons_of_ne_nil hempty]
        have hrest := ih hempty fun other hother =>
          h other (List.mem_cons_of_mem text hother)
        exact (htext.append hseparator).append hrest

/-!
## Words

A word holds nothing outside quotes that could separate, start a comment or
belong to one, only parentheses. It may follow any text, and any text may follow
it.
-/

def isWordChar (c : Char) : Bool :=
  !(['-', '/', '*', ';', '#'].contains c)

theorem Orderly.concat_wordChar {after : Nat} {cs : List Char} {c : Char}
    (h : Orderly depth cs) (hc : isWordChar c = true)
    (hdepth : nextDepth? depth c = some after) :
    Settled after (cs ++ [c]) := by
  have hne : c ≠ '-' ∧ c ≠ '/' ∧ c ≠ '*' ∧ c ≠ ';' ∧ c ≠ '#' := by
    simpa [isWordChar] using hc
  rcases hne with ⟨hdash, hslash, hstar, hseparator, hhash⟩
  constructor
  · exact h.concat hseparator hhash (fun _ => hdash) (fun _ => hstar) hdepth
  · simpa using hdash
  · simpa using hslash

def wordDepth? (depth : Nat) : List Char → Option Nat
  | [] => some depth
  | c :: cs =>
      if isWordChar c then
        (nextDepth? depth c).bind fun next => wordDepth? next cs
      else none

theorem nextDepth?_add {depth after : Nat} {c : Char} (more : Nat)
    (h : nextDepth? depth c = some after) :
    nextDepth? (depth + more) c = some (after + more) := by
  grind [nextDepth?]

theorem Orderly.append_word {after : Nat} {read cs : List Char} (more : Nat)
    (h : Orderly (depth + more) read) (hne : cs ≠ [])
    (hword : wordDepth? depth cs = some after) :
    Settled (after + more) (read ++ cs) := by
  induction cs generalizing read depth with
  | nil => exact absurd rfl hne
  | cons c cs ih =>
      unfold wordDepth? at hword
      split at hword
      · rename_i hc
        rcases Option.bind_eq_some_iff.mp hword with ⟨next, hnext, hrest⟩
        have hstep := h.concat_wordChar hc (nextDepth?_add more hnext)
        by_cases hempty : cs = []
        · subst hempty
          cases hrest
          exact hstep
        · have hboth := ih hstep.orderly hempty hrest
          simpa using hboth
      · cases hword

def word? (depth : Nat) (text : String) : Option Nat :=
  if Quoting.run escapes .outside text.toList = .outside ∧
      outsideText .outside text.toList ≠ [] then
    wordDepth? depth (outsideText .outside text.toList)
  else none

theorem leads_of_word? {after : Nat} {text : String} (more : Nat)
    (h : word? depth text = some after) :
    Leads (Orderly (depth + more)) text (Settled (after + more)) := by
  unfold word? at h
  split at h
  · rename_i hword
    constructor
    · exact hword.1
    · intro read hread
      exact hread.append_word more hword.2 h
  · cases h

theorem leads_word {text : String} (h : word? 0 text = some 0) :
    Leads (Orderly depth) text (Settled depth) := by
  simpa using leads_of_word? depth h

theorem leads_opening {text : String} (h : word? 0 text = some 1) :
    Leads (Orderly depth) text (Settled (depth + 1)) := by
  simpa [Nat.add_comm] using leads_of_word? depth h

theorem leads_closing {text : String} (h : word? 1 text = some 0) :
    Leads (Orderly (depth + 1)) text (Settled depth) := by
  simpa [Nat.add_comm] using leads_of_word? depth h

theorem leads_space : Leads (Orderly depth) " " (Settled depth) :=
  leads_word (by decide)

theorem leads_comma : Leads (Orderly depth) ", " (Settled depth) :=
  leads_word (by decide)

theorem leads_open : Leads (Orderly depth) "(" (Settled (depth + 1)) :=
  leads_opening (by decide)

theorem leads_close : Leads (Orderly (depth + 1)) ")" (Settled depth) :=
  leads_closing (by decide)

/-!
## Names and numbers
-/

def isLevelChar (c : Char) : Bool :=
  isWordChar c && c ≠ '(' && c ≠ ')'

theorem isLevelChar_of_class {p : Char → Bool} {c : Char}
    (hclass : ['-', '/', '*', ';', '#', '(', ')'].all (fun d => !p d) = true)
    (h : p c = true) : isLevelChar c = true := by
  have hne : ∀ d ∈ ['-', '/', '*', ';', '#', '(', ')'], c ≠ d := by
    intro d hd hcd
    have hnot := List.all_eq_true.mp hclass d hd
    rw [← hcd, h] at hnot
    cases hnot
  simp only [List.forall_mem_cons] at hne
  simp [isLevelChar, isWordChar, hne]

theorem wordDepth?_of_level {cs : List Char}
    (h : ∀ c ∈ cs, isLevelChar c = true) : wordDepth? 0 cs = some 0 := by
  induction cs with
  | nil => rfl
  | cons c cs ih =>
      have hrest := ih fun d hd => h d (List.mem_cons_of_mem c hd)
      have hc := h c List.mem_cons_self
      simp only [isLevelChar, Bool.and_eq_true, decide_eq_true_eq] at hc
      simp [wordDepth?, nextDepth?, hc, hrest]

theorem leads_of_level {text : String}
    (hcloses : Quoting.run escapes .outside text.toList = .outside)
    (hne : outsideText .outside text.toList ≠ [])
    (h : ∀ c ∈ outsideText .outside text.toList, isLevelChar c = true) :
    Leads (Orderly depth) text (Settled depth) := by
  apply leads_word
  rw [word?, if_pos ⟨hcloses, hne⟩]
  exact wordDepth?_of_level h

theorem outsideText_of_plain {cs : List Char}
    (h : ∀ c ∈ cs, isPlain c = true) : outsideText .outside cs = cs := by
  induction cs with
  | nil => rfl
  | cons c cs ih =>
      have hc : isQuote c = false := by
        have hplain := h c List.mem_cons_self
        grind [isPlain]
      have hrest := ih fun d hd => h d (List.mem_cons_of_mem c hd)
      simp [outsideText, Quoting.step, hc, hrest]

theorem leads_of_class {p : Char → Bool} {text : String}
    (hclass : ['\'', '"', backtick, '?'].all (fun d => !p d) = true)
    (hlevel : ['-', '/', '*', ';', '#', '(', ')'].all (fun d => !p d) = true)
    (hne : text ≠ "") (h : ∀ c ∈ text.toList, p c = true) :
    Leads (Orderly depth) text (Settled depth) := by
  have hplain : ∀ c ∈ text.toList, isPlain c = true := by
    intro c hc
    exact isPlain_of_class hclass (h c hc)
  have houtside := outsideText_of_plain hplain
  apply leads_of_level
  · exact run_outside_of_plain hplain
  · rw [houtside]
    intro hnil
    exact hne (String.toList_eq_nil_iff.mp hnil)
  · rw [houtside]
    intro c hc
    exact isLevelChar_of_class hlevel (h c hc)

/-!
## Quoted texts
-/

theorem leads_of_quotes {quote : Char} {cs : List Char}
    (hquote : isQuote quote = true)
    (hcloses : Quoting.run escapes .outside (quote :: cs) = .outside)
    (h : ∀ c ∈ outsideText (.inside quote) cs, c = quote) :
    Leads (Orderly depth) (String.ofList (quote :: cs)) (Settled depth) := by
  have houtside : outsideText .outside (quote :: cs) =
      quote :: outsideText (.inside quote) cs := by
    simp [outsideText, Quoting.step, hquote]
  apply leads_of_level
  · rw [String.toList_ofList]
    exact hcloses
  · rw [String.toList_ofList, houtside]
    simp
  · rw [String.toList_ofList, houtside]
    intro c hc
    have heq : c = quote := by
      rcases List.mem_cons.mp hc with hfirst | hrest
      · exact hfirst
      · exact h c hrest
    rw [heq]
    exact isLevelChar_of_class (by decide) hquote

theorem mem_outsideText_doubled {quote c : Char} (cs : List Char)
    (hquote : isQuote quote = true) (hescapes : escapes quote = false)
    (hc : c ∈ outsideText (.inside quote) (doubled quote cs ++ [quote])) :
    c = quote := by
  induction cs with
  | nil => simp [doubled, outsideText] at hc
  | cons d cs ih =>
      by_cases hd : d = quote
      · simp [doubled, hd, outsideText, Quoting.step, hescapes, hquote] at hc
        rcases hc with hc | hc
        · exact hc
        · exact ih hc
      · simp [doubled, hd, outsideText, Quoting.step, hescapes] at hc
        exact ih hc

theorem leads_enclosed_backtick (text : String) :
    Leads (Orderly depth) (enclosed backtick text) (Settled depth) := by
  have hcloses := (neutral_enclosed_backtick text).closes
  rw [enclosed, String.toList_ofList] at hcloses
  exact leads_of_quotes (by decide) hcloses fun c hc =>
    mem_outsideText_doubled text.toList (by decide) (by decide) hc

theorem outsideText_inside {quote : Char} {cs : List Char}
    (h : ∀ c ∈ cs, c ≠ quote ∧ c ≠ '\\') :
    outsideText (.inside quote) (cs ++ [quote]) = [] := by
  induction cs with
  | nil => rfl
  | cons c cs ih =>
      have hc := h c List.mem_cons_self
      have hrest := ih fun d hd => h d (List.mem_cons_of_mem c hd)
      simp [outsideText, Quoting.step, hc.1, hc.2, hrest]

theorem leads_singleQuoted {text : String}
    (h : ∀ c ∈ text.toList, c ≠ '\'' ∧ c ≠ '\\') :
    Leads (Orderly depth) ("'" ++ text ++ "'") (Settled depth) := by
  have hcloses := (neutral_singleQuoted h).closes
  have heq : "'" ++ text ++ "'" =
      String.ofList ('\'' :: (text.toList ++ ['\''])) := by
    apply String.toList_inj.mp
    simp
  rw [heq] at hcloses ⊢
  rw [String.toList_ofList] at hcloses
  apply leads_of_quotes (by decide) hcloses
  rw [outsideText_inside h]
  intro c hc
  cases hc

end Statement
end SqlAssembler
