/-!
# Plain words

What a plain text may stand for besides itself: null, a truth value or a number. A text that would
be taken for one of them has to be quoted when it is written.
-/

namespace PoolOperator.Yaml

/-- The words for null. -/
def nullWords : List String := ["~", "null", "Null", "NULL"]

/-- The truth value that a word stands for. -/
def boolOfWord? (s : String) : Option Bool :=
  if s = "true" ∨ s = "True" ∨ s = "TRUE" then some true
  else if s = "false" ∨ s = "False" ∨ s = "FALSE" then some false
  else none

/-- A text without a given character at its start. -/
def dropSign (sign : Char) : List Char → List Char
  | c :: cs => if c = sign then cs else c :: cs
  | [] => []

/-- Whether a text starts with a sign. -/
def isSigned : List Char → Bool
  | c :: _ => c == '+' || c == '-'
  | [] => false

/-- The value of a digit in a base of at most sixteen. -/
def digitValue? (base : Nat) (c : Char) : Option Nat :=
  let n := c.toNat
  let value :=
    if 48 ≤ n ∧ n ≤ 57 then n - 48
    else if 97 ≤ n ∧ n ≤ 102 then n - 87
    else if 65 ≤ n ∧ n ≤ 70 then n - 55
    else base
  if value < base then some value else none

/-- The value of a text of digits. -/
def natOfDigits? (base : Nat) : List Char → Option Nat
  | [] => none
  | cs => cs.foldlM (fun n c => (digitValue? base c).map (base * n + ·)) 0

/-- The base that a letter behind a zero stands for. -/
def baseOfLetter? (c : Char) : Option Nat :=
  if c = 'x' then some 16 else if c = 'o' then some 8 else if c = 'b' then some 2 else none

/-- Whether a text is an integer in base sixteen, eight or two that fits 128 bits. -/
def isBasedInteger : List Char → Bool
  | '-' :: '0' :: letter :: digits =>
    match (baseOfLetter? letter).bind (natOfDigits? · digits) with
    | some n => n ≤ 1 <<< 127
    | none => false
  | cs =>
    match dropSign '+' cs with
    | '0' :: letter :: digits =>
      match (baseOfLetter? letter).bind (natOfDigits? · digits) with
      | some n => n < 1 <<< 128
      | none => false
    | _ => false

/-- Whether a text is a zero followed by digits, with or without a sign. -/
def hasLeadingZero (cs : List Char) : Bool :=
  let unsigned :=
    match cs with
    | c :: rest => if c = '+' ∨ c = '-' then rest else cs
    | [] => []
  match unsigned with
  | '0' :: c :: rest => (c :: rest).all Char.isDigit
  | _ => false

/-- The parts of a decimal number: the digits without the point, and the power of ten. -/
structure Decimal where
  digits : List Char
  exponent : Int
deriving Repr

/-- Reads an exponent: nothing, or a letter and an integer. -/
def readExponent? : List Char → Option Int
  | [] => some 0
  | e :: cs =>
    if e = 'e' ∨ e = 'E' then
      match cs with
      | '-' :: digits => (natOfDigits? 10 digits).map fun n => -(n : Int)
      | '+' :: digits => (natOfDigits? 10 digits).map fun n => (n : Int)
      | digits => (natOfDigits? 10 digits).map fun n => (n : Int)
    else none

/-- Reads an unsigned decimal number: digits with at most one point among them, and an exponent. -/
def readDecimal? (cs : List Char) : Option Decimal :=
  let whole := cs.takeWhile Char.isDigit
  match cs.dropWhile Char.isDigit with
  | '.' :: rest =>
    let fraction := rest.takeWhile Char.isDigit
    if whole.isEmpty && fraction.isEmpty then none
    else
      (readExponent? (rest.dropWhile Char.isDigit)).map fun e =>
        ⟨whole ++ fraction, e - fraction.length⟩
  | rest => if whole.isEmpty then none else (readExponent? rest).map fun e => ⟨whole, e⟩

/-- Whether a decimal number is below the least one that is rounded to infinity. -/
def Decimal.isFinite (d : Decimal) : Bool :=
  let limit : Nat := (1 <<< 1024) - (1 <<< 970)
  match natOfDigits? 10 d.digits with
  | none => false
  | some n =>
    if n = 0 then true
    else if 400 < d.exponent then false
    else if 0 ≤ d.exponent then n * Nat.pow 10 d.exponent.toNat < limit
    else if (d.digits.length : Int) ≤ -d.exponent then true
    else n < limit * Nat.pow 10 (-d.exponent).toNat

/-- Whether a text is a number with or without a fraction. -/
def isFloat (cs : List Char) : Bool :=
  let text := String.ofList cs
  let unplussed := dropSign '+' cs
  let special := [".inf", ".Inf", ".INF"]
  if cs.head? = some '+' ∧ isSigned unplussed then false
  else if special.contains (String.ofList unplussed) then true
  else if (special.map ("-" ++ ·)).contains text then true
  else if [".nan", ".NaN", ".NAN"].contains text then true
  else
    match readDecimal? (dropSign '-' unplussed) with
    | some d => d.isFinite
    | none => false

/-- Whether a text would be taken for something else if it stood plain, or nearly so. -/
def isAmbiguous (s : String) : Bool :=
  let cs := s.toList
  cs.isEmpty || nullWords.contains s || (boolOfWord? s).isSome || isBasedInteger cs ||
    hasLeadingZero cs || isFloat cs

end PoolOperator.Yaml
