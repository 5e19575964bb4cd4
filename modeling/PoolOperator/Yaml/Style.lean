import PoolOperator.Yaml.Character
import PoolOperator.Yaml.Untagged

/-!
# Styles of scalars

How the text of a scalar is written: plain where nothing stands against it, else between single
quotes; as a literal block if it has more than one line; and between double quotes, with escapes, if
it holds what no other style can hold.
-/

namespace PoolOperator.Yaml

/-- The ways to write a scalar. Folded blocks are read, but not written. -/
inductive Style where
  | plain
  | single
  | double
  | literal
  | folded
deriving DecidableEq, Repr, Inhabited

/-- Whether a text holds a character that needs an escape. -/
def hasSpecial (cs : List Char) : Bool := cs.any (!isPrintable ·)

/-- Whether a space stands before a break. -/
def hasSpaceBreak : List Char → Bool
  | c :: d :: cs => (c == ' ' && isBreak d) || hasSpaceBreak (d :: cs)
  | _ => false

/-- Whether a break stands before a space. -/
def hasBreakSpace : List Char → Bool
  | c :: d :: cs => (isBreak c && d == ' ') || hasBreakSpace (d :: cs)
  | _ => false

/-- Whether a text ends in a space. -/
def endsInSpace (cs : List Char) : Bool := cs.getLast? == some ' '

/-- Whether a text starts with a space. -/
def startsWithSpace (cs : List Char) : Bool := cs.head? == some ' '

/-- Whether, behind its first character, a text holds a colon before a separator or a hash behind
one. The flag says whether the character before is a separator. -/
def hasInnerIndicator (separated : Bool) : List Char → Bool
  | [] => false
  | c :: cs =>
    (c == ':' && atSeparator cs) || (c == '#' && separated) ||
      hasInnerIndicator (isBlank c || isBreak c) cs

/-- Whether a text starts with three dashes or three points. -/
def startsWithMark : List Char → Bool
  | '-' :: '-' :: '-' :: _ => true
  | '.' :: '.' :: '.' :: _ => true
  | _ => false

/-- Whether a text holds an indicator that would end a plain scalar, or be taken for something
else. -/
def hasIndicator : List Char → Bool
  | [] => false
  | c :: cs =>
    startsWithMark (c :: cs) || isIndicator c ||
      ((c == '?' || c == ':' || c == '-') && atSeparator cs) ||
      hasInnerIndicator (isBlank c || isBreak c) cs

/-- Whether a text can be written as a literal block. -/
def allowsLiteral (cs : List Char) : Bool :=
  !hasSpecial cs && !hasSpaceBreak cs && !endsInSpace cs

/-- Whether a text can be written between single quotes. -/
def allowsSingle (cs : List Char) : Bool :=
  !hasSpecial cs && !hasSpaceBreak cs && !hasBreakSpace cs

/-- Whether a text can be written plain. -/
def allowsPlain (cs : List Char) : Bool :=
  allowsSingle cs && !cs.any isBreak && !startsWithSpace cs && !endsInSpace cs && !hasIndicator cs

/-- The style in which a text is written. -/
def Style.ofText (cs : List Char) : Style :=
  if cs.contains '\n' then
    if allowsLiteral cs then .literal else .double
  else if !isAmbiguous (String.ofList cs) && allowsPlain cs then .plain
  else if allowsSingle cs then .single
  else .double

end PoolOperator.Yaml
