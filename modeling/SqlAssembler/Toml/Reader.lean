import SqlAssembler.Toml.Quoted
import SqlAssembler.Toml.Scalar
import SqlAssembler.Toml.Tree

/-!
# Reading TOML

A document is read line by line: headers, assignments, and lines that are empty
or hold a comment only. Arrays and inline tables may stretch over several lines
and end in a comma; they may be nested eighty deep.
-/

namespace SqlAssembler
namespace Toml

def skipBlanks (cs : List Char) : List Char :=
  cs.dropWhile fun c => c = ' ' || c = '\t'

def skipVoid (inComment : Bool) : List Char → Option (List Char)
  | [] => some []
  | [c] =>
      if c = '\n' then some []
      else if inComment then if isTextChar c then some [] else none
      else if c = ' ' ∨ c = '\t' ∨ c = '#' then some []
      else some [c]
  | c :: d :: rest =>
      if c = '\n' then skipVoid false (d :: rest)
      else if c = '\r' ∧ d = '\n' then skipVoid false rest
      else if inComment then
        if isTextChar c then skipVoid true (d :: rest) else none
      else if c = ' ' ∨ c = '\t' then skipVoid false (d :: rest)
      else if c = '#' then skipVoid true (d :: rest)
      else some (c :: d :: rest)

/-!
## Keys
-/

def scanKey (cs : List Char) : Option (String × List Char) :=
  match cs with
  | '"' :: rest =>
      (scanBasic rest).map fun (text, after) => (String.ofList text, after)
  | '\'' :: rest =>
      (scanLiteral rest).map fun (text, after) => (String.ofList text, after)
  | _ =>
      let key := cs.takeWhile isBareKeyChar
      if key.isEmpty then none
      else some (String.ofList key, cs.dropWhile isBareKeyChar)

def scanPath : (steps : Nat) → List Char → Option (List String × List Char)
  | 0, _ => none
  | steps + 1, cs => do
      let (key, rest) ← scanKey cs
      match skipBlanks rest with
      | '.' :: tail =>
          let (path, rest) ← scanPath steps (skipBlanks tail)
          some (key :: path, rest)
      | rest => some ([key], rest)

def scanKeyPath (cs : List Char) : Option (List String × List Char) :=
  scanPath cs.length cs

/-!
## Values
-/

abbrev Scan (α : Type) := List Char → Option (α × List Char)

def scanItems {α : Type} (item : Scan α) (closing : Char) :
    (steps : Nat) → Scan (List α)
  | 0, _ => none
  | steps + 1, cs => do
      match ← skipVoid false cs with
      | [] => none
      | c :: rest =>
          if c = closing then some ([], rest)
          else
            let (value, rest) ← item (c :: rest)
            match ← skipVoid false rest with
            | [] => none
            | d :: rest =>
                if d = closing then some ([value], rest)
                else if d = ',' then
                  let (values, rest) ← scanItems item closing steps rest
                  some (value :: values, rest)
                else none

def scanAssignment (value : Scan Toml) :
    Scan (List String × Toml) := fun cs => do
  let (path, rest) ← scanKeyPath cs
  match skipBlanks rest with
  | '=' :: rest =>
      let (value, rest) ← value (skipBlanks rest)
      some ((path, value), rest)
  | _ => none

def scanValue : (nesting : Nat) → Scan Toml
  | nesting, cs =>
      match cs with
      | '"' :: _ | '\'' :: _ =>
          (scanString cs).map fun (text, rest) =>
            (.string (String.ofList text), rest)
      | '[' :: rest =>
          match nesting with
          | 0 => none
          | nesting + 1 =>
              let scanned := scanItems (scanValue nesting) ']' cs.length rest
              scanned.map fun (items, rest) => (.array items, rest)
      | '\x7b' :: rest =>
          match nesting with
          | 0 => none
          | nesting + 1 => do
              let (assignments, rest) ←
                scanItems (scanAssignment (scanValue nesting)) '\x7d'
                  cs.length rest
              let entries ← ofAssignments assignments
              some (.table entries, rest)
      | _ =>
          let (word, rest) := splitScalar cs
          (readScalar word).map fun value => (value, rest)

def nestingLimit : Nat := 80

/-!
## Documents
-/

def endLine (cs : List Char) : Option (List Char) :=
  let rest := skipBlanks cs
  let isBreak (c : Char) : Bool := c = '\n' || c = '\r'
  let comment := rest.takeWhile fun c => !isBreak c
  let after := rest.dropWhile fun c => !isBreak c
  let isComment := comment.head? = some '#' && comment.all isTextChar
  if !comment.isEmpty && !isComment then none
  else if after.isEmpty then some []
  else dropLineBreak after

/-- One line; `none` inside stands for a line without content. -/
def scanLine (cs : List Char) : Option (Option Line × List Char) := do
  let cs := skipBlanks cs
  match cs with
  | '[' :: '[' :: rest =>
      let (path, rest) ← scanKeyPath (skipBlanks rest)
      match skipBlanks rest with
      | ']' :: ']' :: rest => some (some (.arrayHeader path), ← endLine rest)
      | _ => none
  | '[' :: rest =>
      let (path, rest) ← scanKeyPath (skipBlanks rest)
      match skipBlanks rest with
      | ']' :: rest => some (some (.header path), ← endLine rest)
      | _ => none
  | _ =>
      match endLine cs with
      | some rest => some (none, rest)
      | none =>
          let ((path, value), rest) ← scanAssignment (scanValue nestingLimit) cs
          some (some (.assignment path value), ← endLine rest)

def scanLines : (steps : Nat) → List Char → Option (List Line)
  | 0, cs => if cs.isEmpty then some [] else none
  | steps + 1, cs =>
      if cs.isEmpty then some []
      else do
        let (line, rest) ← scanLine cs
        let lines ← scanLines steps rest
        some (line.toList ++ lines)

def byteOrderMark : Char := '\uFEFF'

def read? (text : String) : Option Entries := do
  let cs := text.toList
  let cs := if cs.head? = some byteOrderMark then cs.drop 1 else cs
  let lines ← scanLines cs.length cs
  ofLines lines

end Toml
end SqlAssembler
