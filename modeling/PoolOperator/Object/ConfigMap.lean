import PoolOperator.Object.Meta

/-!
# Config maps

Texts and bytes under names. One of them holds the merged configuration of a namespace.
-/

namespace PoolOperator

/-- Whether a character is a digit of base 64. -/
def isBase64Digit (c : Char) : Bool := c.isAlphanum || c == '+' || c == '/'

/-- The value of a digit of base 64. -/
def base64Value (c : Char) : Nat :=
  if c.isUpper then c.toNat - 65
  else if c.isLower then c.toNat - 71
  else if c.isDigit then c.toNat + 4
  else if c = '+' then 62
  else 63

/-- Whether a text writes bytes in base 64: groups of four digits, of which the last may be padded
with `=`, unused bits being zero. -/
def isBase64 : List Char → Bool
  | [] => true
  | [a, b, '=', '='] => isBase64Digit a && isBase64Digit b && base64Value b % 16 == 0
  | [a, b, c, '='] =>
    isBase64Digit a && isBase64Digit b && isBase64Digit c && base64Value c % 4 == 0
  | a :: b :: c :: d :: rest =>
    isBase64Digit a && isBase64Digit b && isBase64Digit c && isBase64Digit d && isBase64 rest
  | _ => false

/-- Bytes, as they are written in base 64. -/
structure Base64 where
  text : String
  valid : isBase64 text.toList = true
deriving DecidableEq

/-- Reads bytes in base 64. -/
def Base64.parse? (text : String) : Option Base64 :=
  if h : isBase64 text.toList = true then some ⟨text, h⟩ else none

/-- Texts and bytes under names. -/
structure ConfigMap where
  metadata : ObjectMeta
  data : Option (SortedMap String String) := none
  binaryData : Option (SortedMap String Base64) := none
  immutable : Option Bool := none
deriving DecidableEq, Inhabited

end PoolOperator
