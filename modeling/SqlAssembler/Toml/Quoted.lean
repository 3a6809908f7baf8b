import SqlAssembler.Text.Radix

/-!
# Quoted text in TOML

Basic strings stand between double quotes and know escapes; literal strings
stand between single quotes and are taken as they are. Either may be written on
one line or, between three quotes, on several. A multi-line string may end in
one or two quotes of its own, drops a line break right after its opening, and
reads every line break as a single character. In a basic one, a backslash at
the end of a line joins it with the next text.
-/

namespace SqlAssembler
namespace Toml

def isTextChar (c : Char) : Bool :=
  c = '\t' || (0x20 ≤ c.toNat && c.toNat ≠ 0x7F)

def shortEscape? (c : Char) : Option Char :=
  if c = '"' ∨ c = '\\' then some c
  else if c = 'b' then some '\x08'
  else if c = 't' then some '\t'
  else if c = 'n' then some '\n'
  else if c = 'f' then some '\x0c'
  else if c = 'r' then some '\r'
  else if c = 'e' then some '\x1b'
  else none

def escapeWidth? (c : Char) : Option Nat :=
  if c = 'x' then some 2
  else if c = 'u' then some 4
  else if c = 'U' then some 8
  else none

def charOf? (n : Nat) : Option Char :=
  if n < 0xD800 ∨ (0xE000 ≤ n ∧ n < 0x110000) then some (Char.ofNat n) else none

def scanEscape : List Char → Option (Char × List Char)
  | [] => none
  | c :: cs =>
      match shortEscape? c, escapeWidth? c with
      | some meant, _ => some (meant, cs)
      | none, none => none
      | none, some width =>
          if cs.length < width then none
          else
            ((Text.numberIn? 16 (cs.take width)).bind charOf?).map fun meant =>
              (meant, cs.drop width)

theorem length_scanEscape {cs rest : List Char} {c : Char}
    (h : scanEscape cs = some (c, rest)) : rest.length < cs.length := by
  cases cs with
  | nil => simp [scanEscape] at h
  | cons d cs =>
      unfold scanEscape at h
      grind [Option.map_eq_some_iff]

def scanBasic (cs : List Char) : Option (List Char × List Char) :=
  match cs with
  | [] => none
  | c :: rest =>
      if c = '"' then some ([], rest)
      else if c = '\\' then
        match _hescape : scanEscape rest with
        | none => none
        | some (meant, tail) =>
            (scanBasic tail).map fun (text, after) => (meant :: text, after)
      else if isTextChar c then
        (scanBasic rest).map fun (text, after) => (c :: text, after)
      else none
  termination_by cs.length
  decreasing_by
    · have := length_scanEscape _hescape
      simp only [List.length_cons]
      omega
    · simp

def scanLiteral (cs : List Char) : Option (List Char × List Char) :=
  let text := cs.takeWhile (· ≠ '\'')
  match cs.dropWhile (· ≠ '\'') with
  | [] => none
  | _ :: rest => if text.all isTextChar then some (text, rest) else none

/-!
## Several lines
-/

def skipFolded : List Char → List Char
  | [] => []
  | [c] => if c = ' ' ∨ c = '\t' ∨ c = '\n' then [] else [c]
  | c :: d :: rest =>
      if c = ' ' ∨ c = '\t' ∨ c = '\n' then skipFolded (d :: rest)
      else if c = '\r' ∧ d = '\n' then skipFolded rest
      else c :: d :: rest

theorem length_skipFolded (cs : List Char) :
    (skipFolded cs).length ≤ cs.length := by
  fun_induction skipFolded cs <;> grind

def dropLineBreak : List Char → Option (List Char)
  | '\n' :: rest => some rest
  | '\r' :: '\n' :: rest => some rest
  | _ => none

theorem length_dropLineBreak {cs rest : List Char}
    (h : dropLineBreak cs = some rest) : rest.length < cs.length := by
  unfold dropLineBreak at h
  grind

def foldLine (cs : List Char) : Option (List Char) :=
  (dropLineBreak (cs.dropWhile fun c => c = ' ' || c = '\t')).map skipFolded

theorem length_foldLine {cs rest : List Char} (h : foldLine cs = some rest) :
    rest.length < cs.length := by
  obtain ⟨tail, htail, rfl⟩ := Option.map_eq_some_iff.1 h
  have hbreak := length_dropLineBreak htail
  have hblank :=
    (List.dropWhile_sublist (l := cs) fun c => c = ' ' || c = '\t').length_le
  have hfold := length_skipFolded tail
  omega

/-- A multi-line string up to its three closing quotes; `held` quotes stand
right before the text. -/
def scanMultiline (quote : Char) (held : Nat) (cs : List Char) :
    Option (List Char × List Char) :=
  match cs with
  | [] => none
  | c :: rest =>
      if c = quote then
        if rest.take 2 = [quote, quote] ∧
            (2 ≤ held ∨ (rest.drop 2).head? ≠ some quote) then
          some ([], rest.drop 2)
        else
          (scanMultiline quote (held + 1) rest).map fun (text, after) =>
            (c :: text, after)
      else
        match _hbreak : dropLineBreak (c :: rest) with
        | some tail =>
            (scanMultiline quote 0 tail).map fun (text, after) =>
              ('\n' :: text, after)
        | none =>
            if c = '\\' ∧ quote = '"' then
              match _hfold : foldLine rest, _hescape : scanEscape rest with
              | some tail, _ => scanMultiline quote 0 tail
              | none, some (meant, tail) =>
                  (scanMultiline quote 0 tail).map fun (text, after) =>
                    (meant :: text, after)
              | none, none => none
            else if isTextChar c then
              (scanMultiline quote 0 rest).map fun (text, after) =>
                (c :: text, after)
            else none
  termination_by cs.length
  decreasing_by
    · simp
    · exact length_dropLineBreak _hbreak
    · have := length_foldLine _hfold
      simp only [List.length_cons]
      omega
    · have := length_scanEscape _hescape
      simp only [List.length_cons]
      omega
    · simp

def scanString (cs : List Char) : Option (List Char × List Char) :=
  match cs with
  | '"' :: '"' :: '"' :: rest =>
      scanMultiline '"' 0 ((dropLineBreak rest).getD rest)
  | '\'' :: '\'' :: '\'' :: rest =>
      scanMultiline '\'' 0 ((dropLineBreak rest).getD rest)
  | '"' :: rest => scanBasic rest
  | '\'' :: rest => scanLiteral rest
  | _ => none

end Toml
end SqlAssembler
