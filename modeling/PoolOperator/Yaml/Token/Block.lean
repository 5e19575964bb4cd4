import PoolOperator.Yaml.Token

/-!
# Block scalars

A header tells how the block is indented and what becomes of the breaks at its end. In a literal
block the lines are kept; in a folded block single breaks between lines that do not start with a
blank become spaces.
-/

namespace PoolOperator.Yaml

/-- What becomes of the breaks at the end of a block. -/
inductive Chomp where
  | strip
  | clip
  | keep
deriving DecidableEq, Repr, Inhabited

/-- What the header of a block tells. -/
structure BlockHeader where
  chomp : Chomp := .clip
  /-- The indentation beyond that of the surroundings. -/
  increment : Option Nat := none
deriving DecidableEq, Repr, Inhabited

/-- The choice that a sign stands for. -/
def Chomp.ofSign? (c : Char) : Option Chomp :=
  if c = '+' then some .keep else if c = '-' then some .strip else none

/-- Reads the signs of a header, in either order. A zero is no indentation. -/
def readBlockHeader? : List Char → Option (BlockHeader × List Char)
  | [] => some ({}, [])
  | c :: cs =>
    match Chomp.ofSign? c with
    | some chomp =>
      match cs with
      | d :: ds =>
        if d = '0' then none
        else if d.isDigit then some (⟨chomp, some (d.toNat - 48)⟩, ds)
        else some (⟨chomp, none⟩, cs)
      | [] => some (⟨chomp, none⟩, [])
    | none =>
      if c = '0' then none
      else if c.isDigit then
        match cs with
        | d :: ds =>
          match Chomp.ofSign? d with
          | some chomp => some (⟨chomp, some (c.toNat - 48)⟩, ds)
          | none => some (⟨.clip, some (c.toNat - 48)⟩, cs)
        | [] => some (⟨.clip, some (c.toNat - 48)⟩, [])
      else some ({}, c :: cs)

/-- What is left behind blanks and a comment, which must be the end of a line. -/
def dropLineEnd? (cs : List Char) : Option (List Char) :=
  let unblanked := cs.dropWhile isBlank
  let rest := if unblanked.head? = some '#' then unblanked.dropWhile (!isBreak ·) else unblanked
  match rest with
  | [] => some rest
  | c :: _ => if isBreak c then some rest else none

/-- A block that is being read. Characters are kept last first. -/
structure BlockText where
  text : List Char := []
  /-- The break behind the last line. -/
  lastBreak : Option Char := none
  /-- The breaks of the empty lines behind it. -/
  emptyBreaks : List Char := []
  /-- Whether the last line starts with a blank. -/
  startsBlank : Bool := false
  /-- Whether characters of a line are being read, rather than the white space before it. -/
  inLine : Bool := false
  /-- The column at which lines start, once it is known. -/
  column : Option Nat
  /-- The greatest column reached by white space so far. -/
  greatest : Nat := 0
deriving DecidableEq, Repr

namespace BlockText

/-- The breaks before a new line, joined to the text. -/
def joinLine (b : BlockText) (isFolded isBlankNext : Bool) : List Char :=
  let first :=
    if isFolded && b.lastBreak == some '\n' && !b.startsBlank && !isBlankNext then
      if b.emptyBreaks.isEmpty then [' '] else []
    else b.lastBreak.toList
  b.emptyBreaks ++ first ++ b.text

/-- The text of a block that has ended. -/
def toText (b : BlockText) (chomp : Chomp) : List Char :=
  match chomp with
  | .strip => b.text.reverse
  | .clip => (b.lastBreak.toList ++ b.text).reverse
  | .keep => (b.emptyBreaks ++ b.lastBreak.toList ++ b.text).reverse

/-- Whether white space at a column may still be indentation. -/
def inIndent (b : BlockText) (column : Nat) : Bool :=
  match b.column with
  | none => true
  | some n => column < n

/-- The column at which lines start: the one known, or the first that fits. -/
def settledColumn (b : BlockText) (level column : Nat) : Nat :=
  b.column.getD (max (max b.greatest column) (max level 1))

end BlockText

/-- Reads the lines of a block. -/
def scanLines (isFolded : Bool) (level : Nat) (b : BlockText) (m : Mark) :
    List Char → Option (Scan BlockText)
  | [] => some ⟨b, m, []⟩
  | c :: cs =>
    if b.inLine then
      if isBreak c then
        scanLines isFolded level { b with inLine := false, lastBreak := some c, emptyBreaks := [] }
          m.newLine cs
      else scanLines isFolded level { b with text := c :: b.text } (m.advance 1) cs
    else if c == ' ' && b.inIndent m.column then scanLines isFolded level b (m.advance 1) cs
    else if c == '\t' && b.inIndent m.column then none
    else if isBreak c then
      scanLines isFolded level
        { b with emptyBreaks := c :: b.emptyBreaks, greatest := max b.greatest m.column }
        m.newLine cs
    else
      let column := b.settledColumn level m.column
      if m.column = column then
        scanLines isFolded level
          { text := c :: b.joinLine isFolded (isBlank c), startsBlank := isBlank c, inLine := true,
            column := some column }
          (m.advance 1) cs
      else some ⟨b, m, c :: cs⟩

/-- Reads a block scalar behind its indicator. -/
def scanBlock (isFolded : Bool) (level : Nat) (m : Mark) (cs : List Char) :
    Option (Scan (List Char)) := do
  let (header, rest) ← readBlockHeader? cs
  let rest ← dropLineEnd? rest
  let column := header.increment.map fun n => level - 1 + n
  let lines ← scanLines isFolded level { column := column } m.newLine (rest.drop 1)
  return ⟨lines.value.toText header.chomp, lines.mark, lines.rest⟩

end PoolOperator.Yaml
