import PoolOperator.Yaml.Character

/-!
# Folding

Text read across lines: blanks around a break are dropped, a single line feed becomes a space, and
of several the first is dropped.
-/

namespace PoolOperator.Yaml

/-- Text read so far, and the white space behind it, of which only what follows decides whether it
belongs to the text. Characters are kept last first. -/
structure Folding where
  text : List Char := []
  /-- Blanks of the same line. -/
  blanks : List Char := []
  /-- Whether a break has been seen behind the text. -/
  broken : Bool := false
  firstBreak : Option Char := none
  laterBreaks : List Char := []
deriving DecidableEq, Repr, Inhabited

namespace Folding

/-- What the white space behind the text becomes, if more text follows. -/
def gap (f : Folding) : List Char :=
  if f.broken then
    match f.firstBreak with
    | some b =>
      if b = '\n' then (if f.laterBreaks.isEmpty then [' '] else f.laterBreaks)
      else f.laterBreaks ++ [b]
    | none => f.laterBreaks
  else f.blanks

/-- The white space joined to the text. -/
def settle (f : Folding) : Folding := { text := f.gap ++ f.text }

/-- A character of the text. -/
def add (f : Folding) (c : Char) : Folding := { text := c :: (f.gap ++ f.text) }

/-- A blank behind the text. -/
def blank (f : Folding) (c : Char) : Folding :=
  if f.broken then f else { f with blanks := c :: f.blanks }

/-- A break behind the text. -/
def lineBreak (f : Folding) (c : Char) : Folding :=
  if f.broken then { f with laterBreaks := c :: f.laterBreaks }
  else { f with blanks := [], broken := true, firstBreak := some c }

/-- A break that is escaped: it leaves no trace. -/
def escapedBreak (f : Folding) : Folding := { f.settle with broken := true }

/-- Whether white space stands behind the text. -/
def isPending (f : Folding) : Bool := f.broken || !f.blanks.isEmpty

/-- The text without the white space behind it. -/
def toText (f : Folding) : List Char := f.text.reverse

end Folding

end PoolOperator.Yaml
