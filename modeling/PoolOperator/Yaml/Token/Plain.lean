import PoolOperator.Yaml.Folding
import PoolOperator.Yaml.Token

/-!
# Plain scalars

A plain scalar ends at a colon before a separator, at a comment, at a line that is not indented
enough, or, within brackets, at the marks that brackets use.
-/

namespace PoolOperator.Yaml

/-- The marks that end a plain scalar within brackets. -/
def isFlowMark (c : Char) : Bool :=
  c == ',' || c == '[' || c == ']' || c == '\x7b' || c == '\x7d'

/-- Whether a colon is followed by one of the marks that may not follow it within brackets. -/
def isCrampedColon (c : Char) : List Char → Bool
  | [] => false
  | d :: _ => c == ':' && (isFlowMark d || d == '?')

/-- Whether a plain scalar ends before a character that is no separator. The level is the least
column at which a further line may start. -/
def endsPlain (inFlow : Bool) (level : Nat) (f : Folding) (m : Mark) (c : Char)
    (cs : List Char) : Bool :=
  (f.isPending && (c == '#' || (!inFlow && m.column < level) ||
      (m.column == 0 && isDocumentMark (c :: cs)))) ||
    (c == ':' && atSeparator cs) || (inFlow && isFlowMark c)

/-- Reads a plain scalar behind the part that is folded already. What is read of the white space
behind it is told by the folding that is left. -/
def scanPlain (inFlow : Bool) (level : Nat) (f : Folding) (m : Mark) :
    List Char → Option (Scan Folding)
  | [] => some ⟨f, m, []⟩
  | c :: cs =>
    if isBreak c then scanPlain inFlow level (f.lineBreak c) m.newLine cs
    else if isBlank c then
      if f.broken && c == '\t' && m.column < level then none
      else scanPlain inFlow level (f.blank c) (m.advance 1) cs
    else if endsPlain inFlow level f m c cs then some ⟨f, m, c :: cs⟩
    else if inFlow && isCrampedColon c cs then none
    else scanPlain inFlow level (f.add c) (m.advance 1) cs

end PoolOperator.Yaml
