import PoolOperator.Json
import PoolOperator.Yaml.Style

/-!
# Writing YAML

The block form of a value: members and items on lines of their own, items of a member at the
indentation of its key, and empty collections in brackets. Lines are never folded.
-/

namespace PoolOperator.Yaml

/-! ## Scalars -/

/-- A number of spaces. -/
def spaces (n : Nat) : List Char := List.replicate n ' '

/-- A hexadecimal digit in upper case. -/
def hexDigit (n : Nat) : Char := Char.ofNat (if n < 10 then 48 + n else 55 + n)

/-- The last hexadecimal digits of a number. -/
def hexDigits : (count : Nat) → Nat → List Char
  | 0, _ => []
  | count + 1, n => hexDigits count (n / 16) ++ [hexDigit (n % 16)]

/-- The letter that stands for a character behind a backslash. -/
def escapeLetter? (c : Char) : Option Char :=
  match c.toNat with
  | 0x00 => some '0'
  | 0x07 => some 'a'
  | 0x08 => some 'b'
  | 0x09 => some 't'
  | 0x0A => some 'n'
  | 0x0B => some 'v'
  | 0x0C => some 'f'
  | 0x0D => some 'r'
  | 0x1B => some 'e'
  | 0x22 => some '"'
  | 0x5C => some '\\'
  | 0x85 => some 'N'
  | 0x2028 => some 'L'
  | 0x2029 => some 'P'
  | _ => none

/-- A character between double quotes. -/
def escapeChar (c : Char) : List Char :=
  match escapeLetter? c with
  | some letter => ['\\', letter]
  | none =>
    if isPrintable c then [c]
    else if c.toNat < 0x100 then '\\' :: 'x' :: hexDigits 2 c.toNat
    else if c.toNat < 0x10000 then '\\' :: 'u' :: hexDigits 4 c.toNat
    else '\\' :: 'U' :: hexDigits 8 c.toNat

/-- A text between double quotes. -/
def renderDouble (cs : List Char) : List Char := '"' :: cs.flatMap escapeChar ++ ['"']

/-- The inside of single quotes. What follows a break, the closing quote included, is indented; a
line feed is written twice, as a single one would be read as a space. -/
def renderSingleBody (indent : Nat) (broken : Bool) : List Char → List Char
  | [] => if broken then spaces indent else []
  | c :: cs =>
    if isBreak c then
      (if !broken && c == '\n' then ['\n', c] else [c]) ++ renderSingleBody indent true cs
    else
      (if broken then spaces indent else []) ++ (if c = '\'' then ['\'', '\''] else [c]) ++
        renderSingleBody indent false cs

/-- A text between single quotes. -/
def renderSingle (indent : Nat) (cs : List Char) : List Char :=
  '\'' :: renderSingleBody indent false cs ++ ['\'']

/-- How a literal block tells its indentation, if its first line could not show it. -/
def indentHint (cs : List Char) : List Char :=
  match cs with
  | c :: _ => if c = ' ' ∨ isBreak c then ['2'] else []
  | [] => []

/-- How a literal block tells what becomes of the breaks at its end. -/
def chompHint (cs : List Char) : List Char :=
  match cs.reverse with
  | [] => ['-']
  | [c] => if isBreak c then ['+'] else ['-']
  | c :: d :: _ => if isBreak c then (if isBreak d then ['+'] else []) else ['-']

/-- The lines of a literal block. Empty ones are not indented. -/
def renderLines (indent : Nat) (fresh : Bool) : List Char → List Char
  | [] => []
  | c :: cs =>
    if isBreak c then c :: renderLines indent true cs
    else (if fresh then spaces indent else []) ++ c :: renderLines indent false cs

/-- A text as a literal block. -/
def renderLiteral (indent : Nat) (cs : List Char) : List Char :=
  '|' :: indentHint cs ++ chompHint cs ++ '\n' :: renderLines indent true cs

/-- A text as a scalar whose further lines have an indentation. -/
def renderText (indent : Nat) (s : String) : List Char :=
  let cs := s.toList
  match Style.ofText cs with
  | .plain => cs
  | .single => renderSingle indent cs
  | .literal => renderLiteral indent cs
  | .double | .folded => renderDouble cs

/-- Ends a line that does not end in a break yet. -/
def endLine (cs : List Char) : List Char :=
  match cs.getLast? with
  | some c => if isBreak c then cs else cs ++ ['\n']
  | none => ['\n']

/-! ## Collections -/

mutual

/-- A value behind a key at some indentation. -/
def renderMemberValue (indent : Nat) : Json → List Char
  | .arr [] => " []\n".toList
  | .obj [] => " \x7b\x7d\n".toList
  | .arr (v :: vs) => '\n' :: renderItems indent (spaces indent) (v :: vs)
  | .obj (m :: ms) => '\n' :: renderMembers (indent + 2) (spaces (indent + 2)) (m :: ms)
  | .null => " null\n".toList
  | .bool b => if b then " true\n".toList else " false\n".toList
  | .int n => ' ' :: (toString n).toList ++ ['\n']
  | .decimal text => ' ' :: text.toList ++ ['\n']
  | .str s => endLine (' ' :: renderText (indent + 2) s)

/-- A value behind the dash of an item at some indentation. -/
def renderItemValue (indent : Nat) : Json → List Char
  | .arr [] => " []\n".toList
  | .obj [] => " \x7b\x7d\n".toList
  | .arr (v :: vs) => renderItems (indent + 2) [' '] (v :: vs)
  | .obj (m :: ms) => renderMembers (indent + 2) [' '] (m :: ms)
  | .null => " null\n".toList
  | .bool b => if b then " true\n".toList else " false\n".toList
  | .int n => ' ' :: (toString n).toList ++ ['\n']
  | .decimal text => ' ' :: text.toList ++ ['\n']
  | .str s => endLine (' ' :: renderText (indent + 2) s)

/-- The items of a list at some indentation; the first stands behind a text of its own. -/
def renderItems (indent : Nat) (lead : List Char) : List Json → List Char
  | [] => []
  | v :: vs => lead ++ '-' :: renderItemValue indent v ++ renderItems indent (spaces indent) vs

/-- The members of an object at some indentation; the first stands behind a text of its own. -/
def renderMembers (indent : Nat) (lead : List Char) : List (String × Json) → List Char
  | [] => []
  | (name, v) :: ms =>
    lead ++ renderText (indent + 2) name ++ ':' :: renderMemberValue indent v ++
      renderMembers indent (spaces indent) ms

end

/-- The text of a value as a document. -/
def render : Json → String
  | .obj (m :: ms) => String.ofList (renderMembers 0 [] (m :: ms))
  | .arr (v :: vs) => String.ofList (renderItems 0 [] (v :: vs))
  | v => String.ofList ((renderMemberValue 0 v).drop 1)

end PoolOperator.Yaml
