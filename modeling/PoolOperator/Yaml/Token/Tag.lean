import PoolOperator.Yaml.Token.Block

/-!
# Names, tags and directives

Tags are resource identifiers, whole or behind a handle. Directives declare handles and the version
of the language.
-/

namespace PoolOperator.Yaml

/-- Reads the longest start of a text of which all characters pass a test. -/
def readWhile (p : Char → Bool) (cs : List Char) : List Char × List Char :=
  (cs.takeWhile p, cs.dropWhile p)

/-- The marks that may follow an anchor directly. -/
def endsAnchor : List Char → Bool
  | [] => true
  | c :: _ =>
    isBlank c || isBreak c || c == '?' || c == ':' || c == ',' || c == ']' || c == '\x7d' ||
      c == '%' || c == '@' || c == '\x60'

/-- Reads the name of an anchor. -/
def readAnchor? (cs : List Char) : Option (List Char × List Char) :=
  let (name, rest) := readWhile isWordChar cs
  if name.isEmpty || !endsAnchor rest then none else some (name, rest)

/-- The characters of a resource identifier; flow marks only where nothing else can follow. -/
def isUriChar (isWhole : Bool) (c : Char) : Bool :=
  isWordChar c || c == ';' || c == '/' || c == '?' || c == ':' || c == '@' || c == '&' ||
    c == '=' || c == '+' || c == '$' || c == '.' || c == '%' || c == '!' || c == '~' ||
    c == '*' || c == '\'' || c == '(' || c == ')' ||
    (isWhole && (c == ',' || c == '[' || c == ']'))

/-- Octets of an encoded character that are still to come, with the value of those read. -/
structure Octets where
  left : Nat
  value : Nat
deriving DecidableEq, Repr

/-- The first octet of an encoded character. -/
def Octets.ofFirst? (n : Nat) : Option Octets :=
  if n < 0x80 then some ⟨0, n⟩
  else if 0xC0 ≤ n ∧ n < 0xE0 then some ⟨1, n - 0xC0⟩
  else if 0xE0 ≤ n ∧ n < 0xF0 then some ⟨2, n - 0xE0⟩
  else if 0xF0 ≤ n ∧ n < 0xF8 then some ⟨3, n - 0xF0⟩
  else none

/-- A further octet of an encoded character. -/
def Octets.push? (o : Octets) (n : Nat) : Option Octets :=
  if 0x80 ≤ n ∧ n < 0xC0 then some ⟨o.left - 1, 64 * o.value + (n - 0x80)⟩ else none

/-- Reads a resource identifier. A percent sign is followed by two digits that give an octet. -/
def readUri? (isWhole : Bool) (read : List Char) (pending : Option Octets) :
    List Char → Option (List Char × List Char)
  | '%' :: a :: b :: cs => do
    let n := 16 * (← hexValue? a) + (← hexValue? b)
    let octets ←
      match pending with
      | none => Octets.ofFirst? n
      | some o => o.push? n
    if octets.left = 0 then
      readUri? isWhole (Char.ofNat octets.value :: read) none cs
    else readUri? isWhole read (some octets) cs
  | c :: cs =>
    if pending.isSome || c == '%' then none
    else if isUriChar isWhole c then readUri? isWhole (c :: read) none cs
    else some (read.reverse, c :: cs)
  | [] => if pending.isSome then none else some (read.reverse, [])

/-- Reads a handle: one exclamation mark, alone, or with a name and perhaps a second one. -/
def readHandle? : List Char → Option (List Char × List Char)
  | '!' :: cs =>
    let (name, rest) := readWhile isWordChar cs
    match rest with
    | '!' :: after => some ('!' :: name ++ ['!'], after)
    | _ => some ('!' :: name, rest)
  | _ => none

/-- Reads a tag in angle brackets, behind the first one. -/
def readWholeTag? (cs : List Char) : Option (TagName × List Char) := do
  let (uri, rest) ← readUri? true [] none cs
  match rest with
  | '>' :: after => if uri.isEmpty then none else some (⟨[], uri⟩, after)
  | _ => none

/-- Reads a tag that starts with a handle. A lone exclamation mark is a tag of its own. -/
def readShortTag? (cs : List Char) : Option (TagName × List Char) := do
  let (handle, rest) ← readHandle? cs
  if 1 < handle.length ∧ handle.getLast? = some '!' then
    let (suffix, rest) ← readUri? false [] none rest
    if suffix.isEmpty then none else some (⟨handle, suffix⟩, rest)
  else
    let (more, rest) ← readUri? false [] none rest
    let suffix := handle.drop 1 ++ more
    if suffix.isEmpty then some (⟨[], ['!']⟩, rest) else some (⟨['!'], suffix⟩, rest)

/-- Reads a tag, which must be followed by a separator, or by a comma within brackets. -/
def readTag? (inFlow : Bool) (cs : List Char) : Option (TagName × List Char) := do
  let (name, rest) ←
    match cs with
    | '!' :: '<' :: inner => readWholeTag? inner
    | _ => readShortTag? cs
  if (inFlow && rest.head? == some ',') || atSeparator rest then some (name, rest) else none

/-- Reads a version number of at most nine digits. -/
def readVersionPart? (cs : List Char) : Option (Nat × List Char) :=
  let (digits, rest) := readWhile Char.isDigit cs
  if digits.isEmpty || 9 < digits.length then none
  else (natOfDigits? 10 digits).map (·, rest)

/-- Reads what a version directive declares. -/
def readVersion? (cs : List Char) : Option (Token × List Char) := do
  let (major, rest) ← readVersionPart? (cs.dropWhile isBlank)
  match rest with
  | '.' :: rest =>
    let (minor, rest) ← readVersionPart? rest
    some (.version major minor, rest)
  | _ => none

/-- Reads what a tag directive declares: a handle that is closed, and what it stands for. -/
def readTagHandle? (cs : List Char) : Option (Token × List Char) := do
  let (handle, rest) ← readHandle? (cs.dropWhile isBlank)
  if handle.getLast? ≠ some '!' then none
  match rest with
  | c :: _ =>
    if isBlank c then
      let (leader, rest) ← readUri? true [] none (rest.dropWhile isBlank)
      if leader.isEmpty || !atSeparator rest then none else some (.tagHandle handle leader, rest)
    else none
  | [] => none

/-- Reads a directive behind its percent sign, up to the end of the line. -/
def readDirective? (cs : List Char) : Option (Token × List Char) := do
  let (name, rest) := readWhile isWordChar cs
  if !atSeparator rest then none
  let (token, rest) ←
    if name = "YAML".toList then readVersion? rest
    else if name = "TAG".toList then readTagHandle? rest
    else none
  let rest ← dropLineEnd? rest
  return (token, rest)

end PoolOperator.Yaml
