/-!
# Unsigned numerals

Decimal numerals with an optional leading plus sign, read against a greatest value. The digits are
judged from the left, so the first digit that goes too far is reported before anything behind it.
-/

namespace PoolOperator.Text

/-- Why a text is not a numeral in range. -/
inductive NumeralError where
  /-- There is no text at all. -/
  | empty
  /-- A character is not a decimal digit. -/
  | invalidDigit
  /-- The value is above the greatest one. -/
  | tooLarge
deriving DecidableEq, Repr

/-- The wording of a numeral error. -/
def NumeralError.message : NumeralError → String
  | .empty => "cannot parse integer from empty string"
  | .invalidDigit => "invalid digit found in string"
  | .tooLarge => "number too large to fit in target type"

/-- The value of an ASCII digit in a base of at most sixteen. -/
def digit? (base : Nat) (c : Char) : Option Nat :=
  let n := c.toNat
  let value :=
    if 48 ≤ n ∧ n ≤ 57 then n - 48
    else if 97 ≤ n ∧ n ≤ 102 then n - 87
    else if 65 ≤ n ∧ n ≤ 70 then n - 55
    else base
  if value < base then some value else none

/-- Reads the digits behind those that already make up `acc`. -/
def readDigits (greatest acc : Nat) : List Char → Except NumeralError Nat
  | [] => .ok acc
  | c :: cs =>
    match digit? 10 c with
    | none => .error .invalidDigit
    | some d =>
      if greatest < 10 * acc + d then .error .tooLarge else readDigits greatest (10 * acc + d) cs

/-- Reads an unsigned decimal numeral of value at most `greatest`; one leading plus sign is
allowed if digits follow it. -/
def readNumeral (greatest : Nat) : List Char → Except NumeralError Nat
  | [] => .error .empty
  | ['+'] => .error .invalidDigit
  | '+' :: cs => readDigits greatest 0 cs
  | cs => readDigits greatest 0 cs

/-- The greatest value of an unsigned word of 8, 16, 32 and 64 bits. -/
def maxByte : Nat := UInt8.size - 1

@[inherit_doc maxByte] def maxWord16 : Nat := UInt16.size - 1

@[inherit_doc maxByte] def maxWord32 : Nat := UInt32.size - 1

@[inherit_doc maxByte] def maxWord64 : Nat := UInt64.size - 1

end PoolOperator.Text
