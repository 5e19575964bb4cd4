import PoolOperator.Yaml.Folding
import PoolOperator.Yaml.Token

/-!
# Quoted scalars

Between single quotes only the quote itself is special, and it is written twice. Between double
quotes a backslash starts an escape. Breaks are folded in both.
-/

namespace PoolOperator.Yaml

/-- Reads behind a single quote. -/
def scanSingle (f : Folding) (m : Mark) : List Char → Option (Scan (List Char))
  | [] => none
  | '\'' :: '\'' :: cs => scanSingle (f.add '\'') (m.advance 2) cs
  | c :: cs =>
    if c = '\'' then some ⟨f.settle.toText, m.advance 1, cs⟩
    else if isBreak c then scanSingle (f.lineBreak c) m.newLine cs
    else if isBlank c then scanSingle (f.blank c) (m.advance 1) cs
    else if m.column == 0 && isDocumentMark (c :: cs) then none
    else scanSingle (f.add c) (m.advance 1) cs

/-- How far an escape has been read. -/
inductive Escape where
  | none
  /-- Behind the backslash. -/
  | started
  /-- Inside the digits: how many are left, and the value of those read. -/
  | digits (left value : Nat)
deriving DecidableEq, Repr

/-- The character that a letter behind a backslash stands for. -/
def unescapeLetter? (c : Char) : Option Char :=
  if c = '0' then some '\x00'
  else if c = 'a' then some '\x07'
  else if c = 'b' then some '\x08'
  else if c = 't' ∨ c = '\t' then some '\t'
  else if c = 'n' then some '\n'
  else if c = 'v' then some '\x0b'
  else if c = 'f' then some '\x0c'
  else if c = 'r' then some '\r'
  else if c = 'e' then some '\x1b'
  else if c = ' ' ∨ c = '"' ∨ c = '/' ∨ c = '\\' then some c
  else if c = 'N' then some '\u0085'
  else if c = '_' then some '\u00a0'
  else if c = 'L' then some '\u2028'
  else if c = 'P' then some '\u2029'
  else none

/-- The number of digits behind a letter behind a backslash. -/
def escapeWidth? (c : Char) : Option Nat :=
  if c = 'x' then some 2 else if c = 'u' then some 4 else if c = 'U' then some 8 else none

/-- The character of a code, if there is one. -/
def charOfCode? (n : Nat) : Option Char :=
  if h : n.isValidChar then some (Char.ofNatAux n h) else none

/-- Reads behind a double quote. -/
def scanDouble (f : Folding) (e : Escape) (m : Mark) : List Char → Option (Scan (List Char))
  | [] => none
  | c :: cs =>
    match e with
    | .none =>
      if c = '"' then some ⟨f.settle.toText, m.advance 1, cs⟩
      else if c = '\\' then scanDouble f .started (m.advance 1) cs
      else if isBreak c then scanDouble (f.lineBreak c) .none m.newLine cs
      else if isBlank c then scanDouble (f.blank c) .none (m.advance 1) cs
      else if m.column == 0 && isDocumentMark (c :: cs) then none
      else scanDouble (f.add c) .none (m.advance 1) cs
    | .started =>
      if isBreak c then scanDouble f.escapedBreak .none m.newLine cs
      else
        match unescapeLetter? c, escapeWidth? c with
        | some d, _ => scanDouble (f.add d) .none (m.advance 1) cs
        | none, some width => scanDouble f (.digits width 0) (m.advance 1) cs
        | none, none => none
    | .digits left value =>
      match hexValue? c with
      | none => none
      | some d =>
        if left ≤ 1 then
          match charOfCode? (16 * value + d) with
          | some x => scanDouble (f.add x) .none (m.advance 1) cs
          | none => none
        else scanDouble f (.digits (left - 1) (16 * value + d)) (m.advance 1) cs

end PoolOperator.Yaml
