import SqlAssembler.Error
import SqlAssembler.Text.Doubled
import SqlAssembler.Text.Word

/-!
# Identifiers

An identifier names a column, a table or a schema: one or more parts with dots
between them. A part is either bare, an ASCII name in which a dollar sign may
stand after the first character, or enclosed in backticks, where it may hold any
text but NUL and a backtick is doubled. Dots inside backticks belong to the
name.
-/

namespace SqlAssembler

open Text

structure Ident.Part where
  name : String
  quoted : Bool
  deriving DecidableEq, Repr

structure Ident where
  parts : List Ident.Part
  deriving DecidableEq, Repr

namespace Ident

/-!
## Writing
-/

def Part.sql (part : Part) : String :=
  if part.quoted then enclosed backtick part.name else part.name

def sql (ident : Ident) : String :=
  ".".intercalate (ident.parts.map Part.sql)

def name (ident : Ident) : String :=
  (ident.parts.getLast?.map Part.name).getD ""

def isQualified (ident : Ident) : Bool :=
  1 < ident.parts.length

def qualifiedBy (ident qualifier : Ident) : Ident :=
  ⟨qualifier.parts ++ ident.parts⟩

/-!
## Reading
-/

def isBareChar (c : Char) : Bool :=
  c = '_' || c = '$' || c.isAlphanum

def badBareChar? : List Char → Option Char
  | [] => none
  | c :: cs => if isNameStart c then cs.find? fun d => !isBareChar d else some c

/-- The name up to the closing backtick and the text after it; `none` if no
backtick closes. -/
def splitQuoted : List Char → Option (List Char × List Char)
  | [] => none
  | [c] => if c = backtick then some ([], []) else none
  | c :: d :: cs =>
      if c = backtick then
        if d = backtick then
          (splitQuoted cs).map fun (name, rest) => (c :: name, rest)
        else some ([], d :: cs)
      else (splitQuoted (d :: cs)).map fun (name, rest) => (c :: name, rest)

theorem length_splitQuoted {cs name rest : List Char}
    (h : splitQuoted cs = some (name, rest)) : rest.length < cs.length := by
  fun_induction splitQuoted cs generalizing name rest <;>
    grind [Option.map_eq_some_iff]

def scanPart (whole : String) : List Char → Except Invalid (Part × List Char)
  | [] => .error (.emptyPart whole)
  | c :: cs =>
      if c = backtick then
        match splitQuoted cs with
        | none => .error .unclosedQuotedPart
        | some ([], _) => .error .emptyQuotedPart
        | some (name, rest) => .ok (⟨String.ofList name, true⟩, rest)
      else if c = '.' then .error (.emptyPart whole)
      else
        let name := c :: cs.takeWhile (· ≠ '.')
        match badBareChar? name with
        | some bad => .error (.badCharacter whole bad)
        | none => .ok (⟨String.ofList name, false⟩, cs.dropWhile (· ≠ '.'))

theorem length_scanPart {whole : String} {cs rest : List Char} {part : Part}
    (h : scanPart whole cs = .ok (part, rest)) : rest.length < cs.length := by
  cases cs with
  | nil => simp [scanPart] at h
  | cons c cs =>
      simp only [scanPart] at h
      split at h
      · split at h
        · simp at h
        · simp at h
        · rename_i hscan
          have := length_splitQuoted hscan
          grind
      · split at h
        · simp at h
        · split at h
          · simp at h
          · have := (List.dropWhile_sublist (l := cs) (· ≠ '.')).length_le
            grind

def scanParts (whole : String) (cs : List Char) : Except Invalid (List Part) :=
  match _hpart : scanPart whole cs with
  | .error cause => .error cause
  | .ok (part, []) => .ok [part]
  | .ok (part, c :: rest) =>
      if c = '.' then
        if rest = [] then .error .trailingDot
        else (scanParts whole rest).map (part :: ·)
      else .error (.textAfterPart whole)
  termination_by cs.length
  decreasing_by
    have := length_scanPart _hpart
    simp only [List.length_cons] at this
    omega

def parse (text : String) : Except Error Ident :=
  if text.isEmpty then .error (.validation .emptyIdent)
  else if text.toList.contains '\x00' then .error (.validation .nulInIdent)
  else
    match scanParts text text.toList with
    | .error cause => .error (.validation cause)
    | .ok parts => .ok ⟨parts⟩

end Ident
end SqlAssembler
