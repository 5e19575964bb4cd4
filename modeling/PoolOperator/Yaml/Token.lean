import PoolOperator.Yaml.Style

/-!
# Tokens of YAML

The smallest parts of a document, and places in its text. Lines are told apart by line feeds and by
the two separators of Unicode; all other breaks are read as line feeds beforehand.
-/

namespace PoolOperator.Yaml

/-- A tag as it is written: a handle to be looked up, and what stands behind it. A tag without a
handle stands for itself. -/
structure TagName where
  handle : List Char
  suffix : List Char
deriving DecidableEq, Repr, Inhabited

/-- A part of a document. -/
inductive Token where
  | version (major minor : Nat)
  | tagHandle (handle leader : List Char)
  | documentStart
  | documentEnd
  | blockSequence
  | blockMapping
  | blockEnd
  | flowSequence
  | flowSequenceEnd
  | flowMapping
  | flowMappingEnd
  | blockEntry
  | flowEntry
  | key
  | value
  | alias (name : List Char)
  | anchor (name : List Char)
  | tag (name : TagName)
  | scalar (style : Style) (text : List Char)
deriving DecidableEq, Repr, Inhabited

/-- How far a text has been read: characters, lines, and characters of the line. -/
structure Mark where
  index : Nat
  line : Nat
  column : Nat
deriving DecidableEq, Repr, Inhabited

namespace Mark

/-- The start of a text. -/
def start : Mark := ⟨0, 0, 0⟩

/-- The place behind a number of characters of the same line. -/
def advance (m : Mark) (n : Nat) : Mark := ⟨m.index + n, m.line, m.column + n⟩

/-- The place behind a break. -/
def newLine (m : Mark) : Mark := ⟨m.index + 1, m.line + 1, 0⟩

/-- The place behind a character. -/
def after (m : Mark) (c : Char) : Mark := if isBreak c then m.newLine else m.advance 1

end Mark

/-- A part of a text that has been read, and what is left. -/
structure Scan (α : Type) where
  value : α
  mark : Mark
  rest : List Char

/-- Whether a text can be read at all. -/
def isReadable (cs : List Char) : Bool := cs.all isAllowed

/-- A text with line feeds for carriage returns, alone or with a line feed, and for next lines. -/
def unifyBreaks : List Char → List Char
  | [] => []
  | '\r' :: '\n' :: cs => '\n' :: unifyBreaks cs
  | c :: cs => (if c = '\r' ∨ c = '\u0085' then '\n' else c) :: unifyBreaks cs

end PoolOperator.Yaml
