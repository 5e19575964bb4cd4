import PoolOperator.Json
import PoolOperator.Text.Numeral

/-!
# Reading JSON

A text is cut into tokens by a machine that sees one character at a time, and the tokens are put
together by a machine with a stack of the containers that are still open. Containers may be nested
to a depth of 127.
-/

namespace PoolOperator.Json

/-! ## Tokens -/

/-- A punctuation mark, a string or any other value without parts. -/
inductive Token where
  | openArr
  | closeArr
  | openObj
  | closeObj
  | comma
  | colon
  | text (s : String)
  | value (v : Json)
deriving Repr, Inhabited

/-- What the characters read last belong to. Characters are kept last first. -/
inductive Scan where
  /-- Between tokens. -/
  | between
  /-- Inside a string. -/
  | quoted (read : List Char)
  /-- Behind a backslash. -/
  | escaped (read : List Char)
  /-- Inside a four-digit escape. -/
  | unit (read : List Char) (digits : Nat) (value : Nat)
  /-- Behind the first half of a surrogate pair, where a second escape must follow. -/
  | pairStart (read : List Char) (high : Nat)
  | pairEscape (read : List Char) (high : Nat)
  | pairUnit (read : List Char) (high : Nat) (digits : Nat) (value : Nat)
  /-- Inside a number or a word. -/
  | word (read : List Char)
deriving Repr

/-- A character that a number or a word may hold. -/
def isWordChar (c : Char) : Bool :=
  c.isAlphanum || c == '+' || c == '-' || c == '.'

/-- One or more decimal digits at the start of a text. -/
def digits1? (cs : List Char) : Option (List Char) :=
  let rest := cs.dropWhile Char.isDigit
  if rest.length = cs.length then none else some rest

/-- The digits before the fraction: a zero alone, or digits that start with none. -/
def wholePart? : List Char → Option (List Char)
  | '0' :: cs => some cs
  | cs => digits1? cs

/-- The fraction, if there is one. -/
def fractionPart? : List Char → Option (List Char)
  | '.' :: cs => digits1? cs
  | cs => some cs

/-- The exponent, if there is one. -/
def exponentPart? : List Char → Option (List Char)
  | c :: cs =>
    if c = 'e' ∨ c = 'E' then
      match cs with
      | '+' :: ds => digits1? ds
      | '-' :: ds => digits1? ds
      | ds => digits1? ds
    else some (c :: cs)
  | [] => some []

/-- A number without its sign. -/
def isUnsignedNumber (cs : List Char) : Bool :=
  match (wholePart? cs).bind fractionPart? |>.bind exponentPart? with
  | some rest => rest.isEmpty
  | none => false

/-- The value of a run of decimal digits. -/
def natOfDigits (cs : List Char) : Nat := cs.foldl (fun n c => 10 * n + (c.toNat - 48)) 0

/-- A word or a number. The integer zero with a minus sign is a decimal number. -/
def wordValue? (cs : List Char) : Option Json :=
  if cs = ['n', 'u', 'l', 'l'] then some .null
  else if cs = ['t', 'r', 'u', 'e'] then some (.bool true)
  else if cs = ['f', 'a', 'l', 's', 'e'] then some (.bool false)
  else
    let (negative, body) :=
      match cs with
      | '-' :: rest => (true, rest)
      | rest => (false, rest)
    if !isUnsignedNumber body then none
    else if !body.all Char.isDigit then some (.decimal (String.ofList cs))
    else if !negative then some (.int (natOfDigits body))
    else if natOfDigits body = 0 then some (.decimal (String.ofList cs))
    else some (.int (-natOfDigits body))

/-- A punctuation mark. -/
def punctuation? (c : Char) : Option Token :=
  if c = '[' then some .openArr
  else if c = ']' then some .closeArr
  else if c = '\x7b' then some .openObj
  else if c = '\x7d' then some .closeObj
  else if c = ',' then some .comma
  else if c = ':' then some .colon
  else none

/-- The character of a one-letter escape. -/
def simpleEscape? (c : Char) : Option Char :=
  if c = '"' ∨ c = '\\' ∨ c = '/' then some c
  else if c = 'b' then some '\x08'
  else if c = 'f' then some '\x0c'
  else if c = 'n' then some '\n'
  else if c = 'r' then some '\r'
  else if c = 't' then some '\t'
  else none

/-- A character between tokens. -/
def scanBetween (c : Char) : Option (Scan × List Token) :=
  if c = ' ' ∨ c = '\n' ∨ c = '\t' ∨ c = '\r' then some (.between, [])
  else if c = '"' then some (.quoted [], [])
  else if isWordChar c then some (.word [c], [])
  else (punctuation? c).map fun t => (.between, [t])

/-- What a character does to the machine, and the tokens that it completes. -/
def Scan.step (c : Char) : Scan → Option (Scan × List Token)
  | .between => scanBetween c
  | .word read =>
    if isWordChar c then some (.word (c :: read), [])
    else do
      let v ← wordValue? read.reverse
      let (next, ts) ← scanBetween c
      return (next, .value v :: ts)
  | .quoted read =>
    if c = '"' then some (.between, [.text (String.ofList read.reverse)])
    else if c = '\\' then some (.escaped read, [])
    else if c.toNat < 32 then none
    else some (.quoted (c :: read), [])
  | .escaped read =>
    if c = 'u' then some (.unit read 0 0, [])
    else (simpleEscape? c).map fun e => (.quoted (e :: read), [])
  | .unit read n value => do
    let d ← Text.digit? 16 c
    let value := 16 * value + d
    if n < 3 then some (.unit read (n + 1) value, [])
    else if 0xDC00 ≤ value ∧ value ≤ 0xDFFF then none
    else if 0xD800 ≤ value ∧ value ≤ 0xDBFF then some (.pairStart read value, [])
    else some (.quoted (Char.ofNat value :: read), [])
  | .pairStart read high => if c = '\\' then some (.pairEscape read high, []) else none
  | .pairEscape read high => if c = 'u' then some (.pairUnit read high 0 0, []) else none
  | .pairUnit read high n value => do
    let d ← Text.digit? 16 c
    let value := 16 * value + d
    if n < 3 then some (.pairUnit read high (n + 1) value, [])
    else if 0xDC00 ≤ value ∧ value ≤ 0xDFFF then
      let code := 0x10000 + (high - 0xD800) * 1024 + (value - 0xDC00)
      some (.quoted (Char.ofNat code :: read), [])
    else none

/-- The tokens of a text, behind those already read, which are kept last first. -/
def tokens? (state : Scan) (read : List Token) : List Char → Option (List Token)
  | [] =>
    match state with
    | .between => some read.reverse
    | .word cs => (wordValue? cs.reverse).map fun v => (.value v :: read).reverse
    | _ => none
  | c :: cs =>
    match state.step c with
    | none => none
    | some (next, ts) => tokens? next (ts.reverse ++ read) cs

/-! ## Values -/

/-- A container that is still open, with its complete parts, last first. -/
inductive Frame where
  | arr (items : List Json)
  /-- An object whose next value belongs to the name. -/
  | obj (members : List (String × Json)) (name : String)
deriving Repr

/-- Which token may come next. -/
inductive Expect where
  /-- A value; `closing` if the list may also end. -/
  | value (closing : Bool)
  /-- A name; `closing` if the object may also end. -/
  | name (members : List (String × Json)) (closing : Bool)
  /-- The colon behind a name. -/
  | colon (members : List (String × Json)) (name : String)
  /-- A comma or the end of the innermost container, behind its last part. -/
  | more (last : Json)
deriving Repr

/-- The greatest number of containers around a value. -/
def maxDepth : Nat := 127

/-- Puts the tokens together. Objects whose name or colon is awaited are not on the stack. -/
def assemble? (stack : List Frame) (expect : Expect) : List Token → Option Json
  | [] =>
    match expect, stack with
    | .more v, [] => some v
    | _, _ => none
  | t :: ts =>
    match expect, t with
    | .value _, .text s => assemble? stack (.more (.str s)) ts
    | .value _, .value v => assemble? stack (.more v) ts
    | .value _, .openArr =>
      if stack.length < maxDepth then assemble? (.arr [] :: stack) (.value true) ts else none
    | .value _, .openObj =>
      if stack.length < maxDepth then assemble? stack (.name [] true) ts else none
    | .value true, .closeArr =>
      match stack with
      | .arr items :: outer => assemble? outer (.more (.arr items.reverse)) ts
      | _ => none
    | .name members _, .text s => assemble? stack (.colon members s) ts
    | .name members true, .closeObj => assemble? stack (.more (.obj members.reverse)) ts
    | .colon members name, .colon => assemble? (.obj members name :: stack) (.value false) ts
    | .more v, .comma =>
      match stack with
      | .arr items :: outer => assemble? (.arr (v :: items) :: outer) (.value false) ts
      | .obj members name :: outer => assemble? outer (.name ((name, v) :: members) false) ts
      | [] => none
    | .more v, .closeArr =>
      match stack with
      | .arr items :: outer => assemble? outer (.more (.arr (v :: items).reverse)) ts
      | _ => none
    | .more v, .closeObj =>
      match stack with
      | .obj members name :: outer =>
        assemble? outer (.more (.obj ((name, v) :: members).reverse)) ts
      | _ => none
    | _, _ => none

/-- The value that a whole text writes. -/
def parse? (text : String) : Option Json := do
  let ts ← tokens? .between [] text.toList
  assemble? [] (.value false) ts

end PoolOperator.Json
