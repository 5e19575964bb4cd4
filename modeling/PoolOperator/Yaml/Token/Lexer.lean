import PoolOperator.Yaml.Token.Plain
import PoolOperator.Yaml.Token.Quoted
import PoolOperator.Yaml.Token.Tag

/-!
# From text to tokens

Indentation opens and closes block collections, and brackets flow collections. A value that may
turn out to be a key is remembered until a colon follows it on the same line; then the tokens that
make it a key are put before it.
-/

namespace PoolOperator.Yaml

/-- A value that may turn out to be a key. -/
structure PendingKey where
  /-- How many tokens stand before it. -/
  place : Nat
  mark : Mark
  /-- Whether nothing but a key can stand there. -/
  isRequired : Bool
deriving DecidableEq, Repr

/-- How long a key may be. -/
def maxKeyLength : Nat := 1024

/-- Whether a value can no longer become a key. -/
def PendingKey.isStale (k : PendingKey) (m : Mark) : Bool :=
  k.mark.line < m.line || k.mark.index + maxKeyLength < m.index

/-- A text of which the tokens are being read. -/
structure Lexer where
  /-- The tokens so far, last first. -/
  tokens : List Token := []
  mark : Mark
  rest : List Char
  /-- One more than the column of the innermost block collection; zero outside of all. -/
  level : Nat := 0
  /-- The levels around it. -/
  levels : List Nat := []
  /-- The value that may turn out to be a key. -/
  pending : Option PendingKey := none
  /-- The same for the surrounding brackets, one for each. -/
  outer : List (Option PendingKey) := []
  /-- Whether a key may start here. -/
  keyAllowed : Bool := true
deriving Repr

namespace Lexer

/-- Whether the text is inside brackets. -/
def inFlow (s : Lexer) : Bool := !s.outer.isEmpty

/-- The column of the innermost block collection is a key's own. -/
def isAtLevel (s : Lexer) : Bool := s.level == s.mark.column + 1

/-- A token that is added. -/
def emit (s : Lexer) (t : Token) : Lexer := { s with tokens := t :: s.tokens }

/-- A number of characters of the line that are passed over. -/
def skip (s : Lexer) (n : Nat) : Lexer :=
  { s with mark := s.mark.advance n, rest := s.rest.drop n }

/-- What is left after a part of the line has been read. -/
def goTo (s : Lexer) (rest : List Char) : Lexer :=
  { s with mark := s.mark.advance (s.rest.length - rest.length), rest := rest }

/-! ## Separators -/

/-- Passes over separators and comments. The first flag says whether a key may start; a break makes
it so outside of brackets. The second one says whether a comment is being read. -/
def skipBlanks (inFlow keyAllowed inComment : Bool) (m : Mark) : List Char → Scan Bool
  | [] => ⟨keyAllowed, m, []⟩
  | c :: cs =>
    if isBreak c then skipBlanks inFlow (keyAllowed || !inFlow) false m.newLine cs
    else if inComment then skipBlanks inFlow keyAllowed true (m.advance 1) cs
    else if c == ' ' || (c == '\t' && (inFlow || !keyAllowed)) then
      skipBlanks inFlow keyAllowed false (m.advance 1) cs
    else if c == '#' then skipBlanks inFlow keyAllowed true (m.advance 1) cs
    else ⟨keyAllowed, m, c :: cs⟩

/-! ## Keys -/

/-- Gives up the value that may turn out to be a key, unless it has to. -/
def dropKey? (s : Lexer) : Option Lexer :=
  match s.pending with
  | some k => if k.isRequired then none else some { s with pending := none }
  | none => some s

/-- Gives up a key if it is stale. -/
def freshKey? (m : Mark) (key : Option PendingKey) : Option (Option PendingKey) :=
  match key with
  | some k => if k.isStale m then (if k.isRequired then none else some none) else some (some k)
  | none => some none

/-- Gives up all stale keys. -/
def dropStale? (s : Lexer) : Option Lexer := do
  let pending ← freshKey? s.mark s.pending
  let outer ← s.outer.mapM (freshKey? s.mark)
  return { s with pending := pending, outer := outer }

/-- Remembers the value that starts here as one that may turn out to be a key. -/
def saveKey? (s : Lexer) : Option Lexer :=
  if s.keyAllowed then do
    let s ← s.dropKey?
    return { s with pending := some ⟨s.tokens.length, s.mark, !s.inFlow && s.isAtLevel⟩ }
  else some s

/-! ## Indentation -/

/-- Closes the block collections that start behind a column. -/
def unrollFrom (column : Nat) (tokens : List Token) (level : Nat) :
    List Nat → List Token × Nat × List Nat
  | [] => if column + 1 < level then (.blockEnd :: tokens, 0, []) else (tokens, level, [])
  | next :: levels =>
    if column + 1 < level then unrollFrom column (.blockEnd :: tokens) next levels
    else (tokens, level, next :: levels)

/-- Closes the block collections that start behind the place reached. -/
def unroll (s : Lexer) : Lexer :=
  if s.inFlow then s
  else
    let (tokens, level, levels) := unrollFrom s.mark.column s.tokens s.level s.levels
    { s with tokens := tokens, level := level, levels := levels }

/-- Closes all block collections. -/
def unrollAll (s : Lexer) : Lexer :=
  if s.inFlow then s
  else
    { s with
      tokens := List.replicate ((s.level :: s.levels).countP (0 < ·)) .blockEnd ++ s.tokens
      level := 0
      levels := [] }

/-- Opens a block collection at a column, if it is behind that of the innermost one. -/
def roll (s : Lexer) (column : Nat) (t : Token) : Lexer :=
  if !s.inFlow && s.level < column + 1 then
    { s with tokens := t :: s.tokens, level := column + 1, levels := s.level :: s.levels }
  else s

/-! ## Tokens -/

/-- Reads the dash of an item. -/
def readEntry? (s : Lexer) : Option Lexer := do
  if !s.inFlow && !s.keyAllowed then none
  let s ← (s.roll s.mark.column .blockSequence).dropKey?
  return { (s.emit .blockEntry).skip 1 with keyAllowed := true }

/-- Reads the question mark before a key. -/
def readKey? (s : Lexer) : Option Lexer := do
  if !s.inFlow && !s.keyAllowed then none
  let s ← (s.roll s.mark.column .blockMapping).dropKey?
  return { (s.emit .key).skip 1 with keyAllowed := !s.inFlow }

/-- Makes the pending value a key. -/
def turnIntoKey (s : Lexer) (k : PendingKey) : Lexer :=
  let count := s.tokens.length - k.place
  let opened := { s with tokens := s.tokens.drop count }.roll k.mark.column .blockMapping
  { opened with
    tokens := s.tokens.take count ++ .key :: opened.tokens, pending := none, keyAllowed := false }

/-- Reads the colon before a value. -/
def readValue? (s : Lexer) : Option Lexer :=
  match s.pending with
  | some k => some (((s.turnIntoKey k).emit .value).skip 1)
  | none =>
    if !s.inFlow && !s.keyAllowed then none
    else
      let t := (s.roll s.mark.column .blockMapping).emit .value
      some { t.skip 1 with keyAllowed := !s.inFlow }

/-- Reads an opening bracket. -/
def readOpening? (s : Lexer) (t : Token) : Option Lexer := do
  let s ← s.saveKey?
  return { (s.emit t).skip 1 with
    pending := none, outer := s.pending :: s.outer, keyAllowed := true }

/-- Reads a closing bracket. -/
def readClosing? (s : Lexer) (t : Token) : Option Lexer := do
  let s ← s.dropKey?
  let s :=
    match s.outer with
    | key :: outer => { s with pending := key, outer := outer }
    | [] => s
  return { (s.emit t).skip 1 with keyAllowed := false }

/-- Reads a comma. -/
def readComma? (s : Lexer) : Option Lexer := do
  let s ← s.dropKey?
  return { (s.emit .flowEntry).skip 1 with keyAllowed := true }

/-- Reads the mark of the start or the end of a document. -/
def readDocumentMark? (s : Lexer) (t : Token) : Option Lexer := do
  let s ← s.unrollAll.dropKey?
  return { (s.emit t).skip 3 with keyAllowed := false }

/-- Reads a directive. -/
def readDirective (s : Lexer) : Option Lexer := do
  let s ← s.unrollAll.dropKey?
  let (t, rest) ← readDirective? (s.rest.drop 1)
  return { (s.emit t).goTo rest with keyAllowed := false }

/-- Reads an anchor or an alias. -/
def readName? (s : Lexer) (t : List Char → Token) : Option Lexer := do
  let s ← s.saveKey?
  let (name, rest) ← readAnchor? (s.rest.drop 1)
  return { (s.emit (t name)).goTo rest with keyAllowed := false }

/-- Reads a tag. -/
def readTag (s : Lexer) : Option Lexer := do
  let s ← s.saveKey?
  let (name, rest) ← readTag? s.inFlow s.rest
  return { (s.emit (.tag name)).goTo rest with keyAllowed := false }

/-- Reads a block scalar. -/
def readBlock? (s : Lexer) (style : Style) : Option Lexer := do
  let s ← s.dropKey?
  let text ← scanBlock (style == .folded) s.level s.mark (s.rest.drop 1)
  return { s.emit (.scalar style text.value) with
    mark := text.mark, rest := text.rest, keyAllowed := true }

/-- Reads a quoted scalar. -/
def readQuoted? (s : Lexer) (style : Style) : Option Lexer := do
  let s ← s.saveKey?
  let text ←
    if style = .single then scanSingle {} (s.mark.advance 1) (s.rest.drop 1)
    else scanDouble {} .none (s.mark.advance 1) (s.rest.drop 1)
  return { s.emit (.scalar style text.value) with
    mark := text.mark, rest := text.rest, keyAllowed := false }

/-- Reads a plain scalar. A key may start behind it if it was followed by a break. -/
def readPlain? (s : Lexer) : Option Lexer := do
  let s ← s.saveKey?
  let text ← scanPlain s.inFlow s.level {} s.mark s.rest
  return { s.emit (.scalar .plain text.value.toText) with
    mark := text.mark, rest := text.rest, keyAllowed := text.value.broken }

/-- Reads the token that starts with a character. -/
def readToken? (s : Lexer) (c : Char) (cs : List Char) : Option Lexer :=
  if s.mark.column = 0 ∧ c = '%' then s.readDirective
  else if s.mark.column = 0 ∧ isDocumentMark (c :: cs) then
    s.readDocumentMark? (if c = '-' then .documentStart else .documentEnd)
  else if c = '[' then s.readOpening? .flowSequence
  else if c = '\x7b' then s.readOpening? .flowMapping
  else if c = ']' then s.readClosing? .flowSequenceEnd
  else if c = '\x7d' then s.readClosing? .flowMappingEnd
  else if c = ',' then s.readComma?
  else if c = '-' ∧ atSeparator cs then s.readEntry?
  else if c = '?' ∧ (s.inFlow ∨ atSeparator cs) then s.readKey?
  else if c = ':' ∧ (s.inFlow ∨ atSeparator cs) then s.readValue?
  else if c = '*' then s.readName? .alias
  else if c = '&' then s.readName? .anchor
  else if c = '!' then s.readTag
  else if c = '|' ∧ !s.inFlow then s.readBlock? .literal
  else if c = '>' ∧ !s.inFlow then s.readBlock? .folded
  else if c = '\'' then s.readQuoted? .single
  else if c = '"' then s.readQuoted? .double
  else if isBlank c || isIndicator c then none
  else s.readPlain?

/-- Passes over what separates tokens, and closes what ends before the next one. -/
def settle? (s : Lexer) : Option Lexer := do
  let blanks := skipBlanks s.inFlow s.keyAllowed false s.mark s.rest
  let s ←
    { s with keyAllowed := blanks.value, mark := blanks.mark, rest := blanks.rest }.dropStale?
  return s.unroll

/-- The tokens at the end of the text. -/
def finish? (s : Lexer) : Option (List Token) :=
  s.unrollAll.dropKey?.map fun s => s.tokens.reverse

/-- Reads all tokens; every one takes a character at least. -/
def run? : (budget : Nat) → Lexer → Option (List Token)
  | 0, _ => none
  | budget + 1, s => do
    let s ← s.settle?
    match s.rest with
    | [] => s.finish?
    | c :: cs =>
      let s ← s.readToken? c cs
      run? budget s

/-- The start of a text; a byte order mark is passed over. -/
def start (cs : List Char) : Lexer :=
  match cs with
  | '\uFEFF' :: rest => { mark := Mark.start.advance 1, rest := rest }
  | _ => { mark := Mark.start, rest := cs }

end Lexer

/-- The tokens of a text. -/
def tokensOf? (text : String) : Option (List Token) :=
  let cs := text.toList
  if isReadable cs then
    let s := Lexer.start (unifyBreaks cs)
    Lexer.run? (s.rest.length + 1) s
  else none

end PoolOperator.Yaml
